import PatchStore.Command.Basic
import PatchStore.Json.Record
import PatchStore.Time.Format

/-!
# Metadata

What a store reports about a document besides its body.  It comes as a raw object, with batch
results, or as a descriptor, from look-ups; `Metadata` is what both say.

A raw object is read with tolerance: a member of the wrong type counts as missing, the time stands
under one of two names in one of several formats, and a flag may be given as text.

* `ofRawOr_none` — without an etag from elsewhere the raw object says it all.
-/

namespace PatchStore

open Time (Timestamp)

/-- What a store reports about a document. -/
structure Metadata where
  key : Option String := none
  etag : Option Etag := none
  lastModified : Option Timestamp := none
  nonAuthoritative : Bool := false
  deriving Inhabited

/-- The answer to a look-up of a document's metadata. -/
structure Descriptor where
  key : String
  etag : Option Etag
  lastModified : Option Timestamp
  nonAuthoritative : Option Bool
  metadata : Members

namespace Metadata

/-- The names of the members of a raw object. -/
def keyName : String := "@id"

/-- The name of the member with the etag. -/
def etagName : String := "@etag"

/-- The name of the member with the store's own time of modification. -/
def modifiedName : String := "Raven-Last-Modified"

/-- The name of the member with a time of modification from elsewhere. -/
def foreignModifiedName : String := "Last-Modified"

/-- The name of the member that flags a reading that may be out of date. -/
def nonAuthoritativeName : String := "Non-Authoritative-Information"

/-- The name of the member with the tag name of the document's type. -/
def entityName : String := "Raven-Entity-Name"

/-- The text of a member. -/
def text? (raw : Members) (name : String) : Option String := (Keyed.get? raw name).bind Json.string?

/-- The time in a member. -/
def time? (raw : Members) (name : String) : Option Timestamp :=
  (text? raw name).bind Timestamp.ofText?

/-- A flag, given as a truth value or as text. -/
def flag (raw : Members) (name : String) : Bool :=
  match Keyed.get? raw name with
  | some (.bool b) => b
  | some (.string s) => s.toLower == "true"
  | _ => false

/-- What a raw object says. -/
def ofRaw (raw : Members) : Metadata where
  key := text? raw keyName
  etag := (text? raw etagName).map Etag.mk
  lastModified := time? raw modifiedName <|> time? raw foreignModifiedName
  nonAuthoritative := flag raw nonAuthoritativeName

/-- What a raw object says, if there is one; an etag from elsewhere counts if the object has
none. -/
def ofRawOr (etag : Option Etag) : Option Members → Metadata
  | some raw =>
    let m := ofRaw raw
    { m with etag := m.etag <|> etag }
  | none => { etag := etag }

/-- What a descriptor says. -/
def ofDescriptor (d : Descriptor) : Metadata where
  key := some d.key
  etag := d.etag
  lastModified := d.lastModified
  nonAuthoritative := d.nonAuthoritative.getD false

/-- Whether two reports say the same, times being compared by their moments. -/
def agrees (a b : Metadata) : Bool :=
  a.key == b.key && a.etag == b.etag && a.nonAuthoritative == b.nonAuthoritative &&
    match a.lastModified, b.lastModified with
    | some s, some t => s.atSameMoment t
    | none, none => true
    | _, _ => false

/-- Without an etag from elsewhere the raw object says it all. -/
theorem ofRawOr_none (raw : Members) : ofRawOr none (some raw) = ofRaw raw := by
  cases h : (ofRaw raw).etag <;> simp [ofRawOr, h] <;> simp [← h]

end Metadata

namespace Descriptor

/-- The descriptor in its wire form. -/
def toJson (d : Descriptor) : Json :=
  .ofMembers
    [("key", .string d.key), ("etag", Etag.toJson? d.etag),
     ("last_modified", .ofString? (d.lastModified.map Timestamp.render)),
     ("non_authoritative_information", (d.nonAuthoritative.map Json.bool).getD .null),
     ("metadata", .object d.metadata)]

/-- The descriptor that a value is the wire form of. -/
def ofJson? (v : Json) : Option Descriptor := do
  if !v.isRecord 5 then failure
  let key ← v.required 0 "key" Json.string?
  let etag ← v.optional 1 "etag" Json.string?
  let lastModified ← v.optional 2 "last_modified" fun x => x.string?.bind Timestamp.ofRelaxed?
  let nonAuthoritative ← v.optional 3 "non_authoritative_information" Json.bool?
  let metadata ← v.defaulted 4 "metadata" [] Json.object?
  return ⟨key, etag.map Etag.mk, lastModified, nonAuthoritative, metadata⟩

end Descriptor

end PatchStore
