import PatchStore.Metadata.Basic

/-!
# Batch results

A store answers a batch with one result for each command.  A result names the command's method and
key; the other members depend on what was done.

* `BatchResult.toJson`, `BatchResult.ofJson?` — the wire form, written and read.
-/

namespace PatchStore

/-- What became of a patch. -/
inductive PatchOutcome where
  | documentDoesNotExist
  | patched
  | tested
  | skipped
  | notModified
  deriving DecidableEq

namespace PatchOutcome

/-- The word for an outcome on the wire. -/
def word : PatchOutcome → String
  | documentDoesNotExist => "DocumentDoesNotExist"
  | patched => "Patched"
  | tested => "Tested"
  | skipped => "Skipped"
  | notModified => "NotModified"

/-- The outcome of the given word. -/
def ofWord? : String → Option PatchOutcome
  | "DocumentDoesNotExist" => some documentDoesNotExist
  | "Patched" => some patched
  | "Tested" => some tested
  | "Skipped" => some skipped
  | "NotModified" => some notModified
  | _ => none

@[simp] theorem ofWord?_word (o : PatchOutcome) : ofWord? o.word = some o := by cases o <;> rfl

end PatchOutcome

/-- The result of one command. -/
structure BatchResult where
  method : Method
  key : String
  etag : Option Etag := none
  metadata : Option Members := none
  patchOutcome : Option PatchOutcome := none
  deleted : Option Bool := none

namespace BatchResult

/-- The metadata that comes with a result. -/
def documentMetadata (r : BatchResult) : Metadata := Metadata.ofRawOr r.etag r.metadata

/-- A result in its wire form. -/
def toJson (r : BatchResult) : Json :=
  .ofMembers
    [("Method", .string r.method.word), ("Key", .string r.key), ("Etag", Etag.toJson? r.etag),
     ("Metadata", (r.metadata.map Json.object).getD .null),
     ("PatchResult", .ofString? (r.patchOutcome.map PatchOutcome.word)),
     ("Deleted", (r.deleted.map Json.bool).getD .null)]

/-- A field that may be missing or `null`. -/
def part {α : Type} (v : Json) (position : Nat) (name : String) (read : Json → Option α) :
    Option (Option α) :=
  v.defaulted position name none (Json.nullable read)

/-- The result that a value is the wire form of. -/
def ofJson? (v : Json) : Option BatchResult := do
  if !v.isRecord 6 then failure
  let method ← v.required 0 "Method" fun x => x.variantName?.bind Method.ofWord?
  let key ← v.required 1 "Key" Json.string?
  let etag ← part v 2 "Etag" Json.string?
  let metadata ← part v 3 "Metadata" Json.object?
  let outcome ← part v 4 "PatchResult" fun x => x.variantName?.bind PatchOutcome.ofWord?
  let deleted ← part v 5 "Deleted" Json.bool?
  return ⟨method, key, etag.map Etag.mk, metadata, outcome, deleted⟩

end BatchResult

end PatchStore
