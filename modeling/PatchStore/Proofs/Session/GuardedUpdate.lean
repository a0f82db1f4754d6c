import PatchStore.Proofs.Json.Stripping
import PatchStore.Proofs.Patch.Gathering
import PatchStore.Proofs.Patch.PathUpdate
import PatchStore.Proofs.Session.Requests

/-!
# A value that was stored can be guarded with

A document is serialized as a whole when it is stored, and the previous value that a call asserts is
serialized alone.  The assertion holds all the same, whether or not the serializer drops nulls: what
it makes of the value is what stands at the value's path, and a value that it makes `null` asserts
nothing.

* `on_store`, `on_patch` — requests of a session with the store in memory that succeed.
* `UpdatesBy` — a patch of one call updates the stored document at a path.
* `updatesBy_of_stored` — guarded calls on a document that was just stored.
-/

namespace PatchStore

/-! ## Requests that succeed -/

theorem MemoryStore.document?_file (s : MemoryStore) (key : String) (d : StoredDocument) :
    (s.file key d).document? key = some (.object d.body) :=
  document?_of_find? (s.find?_file key d)

namespace Session

open MemoryStore (session)

variable {conventions : Conventions}

/-- A document that is an object is stored under a key that is given, whatever was there. -/
theorem on_store {key : String} (hkey : key ≠ "") {document : Datum} {body : Members}
    (hdocument : conventions.serializer.toJson document = .ok (.object body)) (kind : DocumentKind)
    (s : MemoryStore) :
    ∃ metadata d, d.body = body ∧
      ((session conventions).store key kind document none).on s =
        (.ok metadata, s.advance.file key d) := by
  let tag : Members := [(Metadata.entityName, .string (Conventions.tagName kind))]
  let d : StoredDocument := ⟨key, body, tag, s.supply.next⟩
  have hstep : MemoryStore.Step s (.put ⟨key, none, .object body, tag⟩) d.putResult
      (s.advance.file key d) := .put rfl rfl
  refine ⟨d.putResult.documentMetadata, d, rfl, ?_⟩
  rw [store, requireKey_of_ne_empty hkey, Work.on_bind_of_ok (Work.on_liftM _ s),
    Work.on_bind_of_ok ((Work.on_liftM _ s).trans (by rw [session, hdocument]))]
  show Work.on ((session conventions).execute _ >>= _) s = _
  rw [Work.on_bind_of_ok (on_execute hstep)]
  rfl

/-- Chains that can be applied to a stored document are applied to it, whether or not a missing
document is to be ignored. -/
theorem on_patch {c : PatchCommand} (hetag : c.etag = none) {s : MemoryStore} {d : StoredDocument}
    (hfound : s.documents.find? c.key = some d) {modified : Bool} {after : Members}
    (happlied : (PatchNode.applyAll c.key c.patches).on d.body = (.ok modified, after))
    (ignoreMissing : Bool) :
    ∃ r t, ((session conventions).patch c ignoreMissing).on s = (.ok r, t) ∧
      t.document? c.key = some (.object after) := by
  have hcheck : checkEtag c.key c.etag (some d) = .ok () := by
    rw [hetag]
    rfl
  cases modified with
  | false =>
    let patched : StoredDocument := { d with body := after }
    have hstep : MemoryStore.Step s (.patch c) (patched.patchResult .notModified)
        (s.file c.key patched) := .idle hfound hcheck happlied
    refine ⟨patched.patchResult .notModified, _, ?_,
      MemoryStore.document?_file s c.key patched⟩
    rw [patch, Work.on_bind_of_ok (on_execute hstep), Work.on_liftM]
    rfl
  | true =>
    let patched : StoredDocument := { d with body := after, stamp := s.supply.next }
    have hstep : MemoryStore.Step s (.patch c) (patched.patchResult .patched)
        (s.advance.file c.key patched) := .patched hfound hcheck happlied
    refine ⟨patched.patchResult .patched, _, ?_,
      MemoryStore.document?_file s.advance c.key patched⟩
    rw [patch, Work.on_bind_of_ok (on_execute hstep), Work.on_liftM]
    rfl

end Session

/-! ## Guarded calls -/

namespace DocumentPatch

theorem create_of_ne_empty {key : String} (h : key ≠ "") (schema : Schema)
    (serializer : Serializer) :
    create key schema serializer = .ok ⟨key, schema, serializer, []⟩ := by
  have hempty : key.isEmpty = false := by
    rw [← Bool.not_eq_true, String.isEmpty_iff]
    exact h
  rw [create, hempty]
  rfl

theorem on_gather_setIf {p : DocumentPatch} {selector : Selector} {value prev : Datum} {v w : Json}
    {r : ResolvedField} (hvalue : p.serializer.toJson value = .ok v) (hnull : v ≠ .null)
    (hprev : p.serializer.toJson prev = .ok w) (hresolve : selector.resolve p.schema = .ok r) :
    (gather (.setIf selector value prev)).on p =
      (.ok (), p.push (.ofPath r.path (.set v (nonNull? w)))) := by
  have hfirst : (serialize value).on p = (.ok v, p) := by rw [on_serialize, hvalue]
  have hsecond : (serialize prev).on p = (.ok w, p) := by rw [on_serialize, hprev]
  rw [gather, Work.on_bind_of_ok hfirst, Work.on_bind_of_ok hsecond, on_setValue,
    requireValue_of_ne_null hnull, hresolve]

theorem on_gather_unsetIf {p : DocumentPatch} {selector : Selector} {prev : Datum} {w : Json}
    {r : ResolvedField} (hprev : p.serializer.toJson prev = .ok w)
    (hresolve : selector.resolve p.schema = .ok r) :
    (gather (.unsetIf selector prev)).on p =
      (.ok (), p.push (.ofPath r.path (.unset (nonNull? w)))) := by
  have hfirst : (serialize prev).on p = (.ok w, p) := by rw [on_serialize, hprev]
  rw [gather, Work.on_bind_of_ok hfirst, on_unsetValue, hresolve]

end DocumentPatch

namespace PatchNode

/-- A way that leads through objects is not blocked. -/
theorem not_blocked_of_objects {d : Members} {p : PropertyPath}
    (h : ∀ q, q <+: p.names → q ≠ p.names → ∃ m, (Json.object d).at? q = some (.object m)) :
    ¬Blocked d p := by
  rintro ⟨q, _, hbefore, hproper, v, hat, _, hobject⟩
  obtain ⟨m, hm⟩ := h q hbefore hproper
  have heq : v = .object m := Option.some.inj (hat.symm.trans hm)
  subst heq
  cases hobject

/-- An assertion of what is found is no conflict. -/
theorem not_conflicts_of_found {op : PatchLeaf} {found : Option Json}
    (h : ∀ expected, op.prevVal? = some expected → found = some expected) :
    ¬op.Conflicts found := by
  rintro ⟨expected, hprev, hdiffers⟩
  have hfalse : (expected == expected) = false := hdiffers expected (h expected hprev)
  have htrue : (expected == expected) = true := Json.same_refl expected
  rw [htrue] at hfalse
  cases hfalse

end PatchNode

namespace Session

open MemoryStore (session)

variable {conventions : Conventions}

/-- A patch of one call can be built for the document of a key.  Sent to the store, it succeeds
whether or not a missing document is to be ignored, and it updates the body at a path. -/
def UpdatesBy (conventions : Conventions) (s : MemoryStore) (key : String) (schema : Schema)
    (call : PatchCall) (path : PropertyPath) (value : Option Json) (before : Members) : Prop :=
  ∃ started gathered, (session conventions).startPatch key schema = .ok started ∧
    (DocumentPatch.gather call).on started = (.ok (), gathered) ∧
    ∀ ignoreMissing, ∃ r t after,
      ((session conventions).patch (gathered.build none) ignoreMissing).on s = (.ok r, t) ∧
      t.document? key = some (.object after) ∧ UpdatedAt path value before after

/-- A call that gathers a chain which nothing speaks against updates the document. -/
theorem updatesBy_of_gather {s : MemoryStore} {key : String} (hkey : key ≠ "") {schema : Schema}
    {call : PatchCall} {path : PropertyPath} {op : PatchLeaf} {d : StoredDocument}
    (hfound : s.documents.find? key = some d)
    (hgather : (DocumentPatch.gather call).on ⟨key, schema, conventions.serializer, []⟩ =
      (.ok (), ⟨key, schema, conventions.serializer, [.ofPath path op]⟩))
    (hfree : ¬Blocked d.body path) (hadd : op.kind ≠ .add)
    (hprev : ¬op.Conflicts ((Json.object d.body).at? path.names)) :
    UpdatesBy conventions s key schema call path (op.result ((Json.object d.body).at? path.names))
      d.body := by
  obtain ⟨modified, after, hchain, hupdated⟩ :=
    PatchNode.on_apply_ofPath_of_applicable hfree (fun h => hadd h.1) hprev key
  have hall : (PatchNode.applyAll key [.ofPath path op]).on d.body =
      (.ok (modified || false), after) := by
    rw [PatchNode.on_applyAll_cons_of_ok hchain]
    rfl
  refine ⟨_, _, DocumentPatch.create_of_ne_empty hkey schema _, hgather, fun ignoreMissing => ?_⟩
  obtain ⟨r, t, hrun, hdocument⟩ : ∃ r t,
      ((session conventions).patch ⟨key, none, [.ofPath path op]⟩ ignoreMissing).on s =
        (.ok r, t) ∧ t.document? key = some (.object after) :=
    on_patch (c := ⟨key, none, [.ofPath path op]⟩) rfl hfound hall ignoreMissing
  exact ⟨r, t, after, hrun, hdocument, hupdated⟩

/-- **A document can be guarded with a value that it was stored with.**  Let a document be an
object, and let a selector lead to a path at which it has a value.  Storing the document succeeds
under any key that is not empty, whatever was there.  Setting the field to anything but `null` if it
has that value then succeeds, and so does removing it if it has that value; the body has the new
value at the path, or nothing, and the rest of it is as it was stored. -/
theorem updatesBy_of_stored (conventions : Conventions) (s : MemoryStore) {key : String}
    (hkey : key ≠ "") (kind : DocumentKind) (schema : Schema) {document value prev : Datum}
    {body : Members} {selector : Selector} {path : PropertyPath} {x v : Json}
    (hdocument : document.toJson = .ok (.object body))
    (hpath : selector.extract schema = .ok path)
    (hprev : prev.toJson = .ok x) (hat : (Json.object body).at? path.names = some x)
    (hvalue : conventions.serializer.toJson value = .ok v) (hnull : v ≠ .null) :
    ∃ metadata stored before,
      ((session conventions).store key kind document none).on s = (.ok metadata, stored) ∧
      conventions.serializer.toJson document = .ok (.object before) ∧
      stored.document? key = some (.object before) ∧
      UpdatesBy conventions stored key schema (.setIf selector value prev) path (some v) before ∧
      UpdatesBy conventions stored key schema (.unsetIf selector prev) path none before := by
  obtain ⟨r, hresolve, rfl⟩ : ∃ r, selector.resolve schema = .ok r ∧ r.path = path := by
    rw [Selector.extract] at hpath
    rcases hr : selector.resolve schema with e | r
    · rw [hr] at hpath
      cases hpath
    · rw [hr] at hpath
      exact ⟨r, rfl, Except.ok.inj hpath⟩
  have hordered : (Json.object body).InOrder := Datum.inOrder_of_toJson document hdocument
  obtain ⟨before, hbefore⟩ := conventions.serializer.tidy_object body
  have hserialized : conventions.serializer.toJson document = .ok (.object before) := by
    rw [conventions.serializer.toJson_of_ok hdocument, hbefore]
  have htidied : ∀ q w, (Json.object body).at? q = some w → w ≠ .null →
      (Json.object before).at? q = some (conventions.serializer.tidy w) := by
    intro q w hq hw
    rw [← hbefore]
    exact conventions.serializer.at?_tidy hordered Json.noConfusion hq hw
  -- before the end of the path there are objects, and tidying leaves them objects
  have hfree : ¬Blocked before r.path := by
    refine PatchNode.not_blocked_of_objects fun q hq hproper => ?_
    obtain ⟨m, hm⟩ := Json.at?_eq_some_object hat hq hproper
    obtain ⟨m', hm'⟩ := conventions.serializer.tidy_object m
    exact ⟨m', hm' ▸ htidied q (.object m) hm Json.noConfusion⟩
  have hasserted : ∀ expected, nonNull? (conventions.serializer.tidy x) = some expected →
      (Json.object before).at? r.path.names = some expected := by
    intro expected hexpected
    have hx : x ≠ .null := by
      rintro rfl
      rw [conventions.serializer.tidy_null] at hexpected
      cases hexpected
    rw [← eq_of_nonNull? hexpected]
    exact htidied r.path.names x hat hx
  have hguard : conventions.serializer.toJson prev = .ok (conventions.serializer.tidy x) :=
    conventions.serializer.toJson_of_ok hprev
  obtain ⟨metadata, d, rfl, hstored⟩ := on_store hkey hserialized kind s
  have hfound : (s.advance.file key d).documents.find? key = some d :=
    s.advance.documents.get?_insert_self (normalizeKey key) d
  refine ⟨metadata, _, d.body, hstored, hserialized, MemoryStore.document?_file _ key d, ?_, ?_⟩
  · exact updatesBy_of_gather hkey hfound
      (DocumentPatch.on_gather_setIf hvalue hnull hguard hresolve) hfree PatchKind.noConfusion
      (PatchNode.not_conflicts_of_found hasserted)
  · exact updatesBy_of_gather hkey hfound
      (DocumentPatch.on_gather_unsetIf hguard hresolve) hfree PatchKind.noConfusion
      (PatchNode.not_conflicts_of_found hasserted)

/-- A friend of whom a member is `null`. -/
def ann : Datum := .record [("Name", .string "Ann"), ("Kind", .null)]

/-- Two friends deep in a document with nulls of its own. -/
def friendOfFriend : Datum :=
  .record [("Name", .null), ("Friend", .record [("Friend", ann), ("Name", .null)])]

/-- The friend of a friend is guarded with, whose nulls were dropped with those of the document. -/
theorem updatesBy_friendOfFriend :
    ∃ selector metadata stored before, Selector.parse "x.friend.friend" = .ok selector ∧
      ((session { cache := 0 }).store "people/1" ⟨"Person", none⟩ friendOfFriend none).on
        ⟨∅, default⟩ = (.ok metadata, stored) ∧
      UpdatesBy { cache := 0 } stored "people/1" Selector.people
        (.setIf selector (.bool true) ann) ⟨["Friend"], "Friend"⟩ (some (.bool true)) before ∧
      UpdatesBy { cache := 0 } stored "people/1" Selector.people
        (.unsetIf selector ann) ⟨["Friend"], "Friend"⟩ none before := by
  obtain ⟨selector, hparse, hextract⟩ : ∃ selector, Selector.parse "x.friend.friend" = .ok selector ∧
      selector.extract Selector.people = .ok ⟨["Friend"], "Friend"⟩ :=
    Selector.exists_of_parse_extract (by decide +kernel)
  obtain ⟨body, hdocument⟩ : ∃ body, friendOfFriend.toJson = .ok (.object body) := ⟨_, rfl⟩
  obtain ⟨x, hprev⟩ : ∃ x, ann.toJson = .ok x := ⟨_, rfl⟩
  have hat : (Json.object body).at? ["Friend", "Friend"] = some x := by
    cases hdocument
    cases hprev
    rw [Json.at?_cons, show Keyed.get? _ "Friend" = some _ from rfl, Option.bind_some,
      Json.at?_cons, show Keyed.get? _ "Friend" = some _ from rfl, Option.bind_some, Json.at?_nil]
  have hvalue : Serializer.toJson {} (.bool true) = .ok (.bool true) := rfl
  have hkey : "people/1" ≠ "" := by decide
  obtain ⟨metadata, stored, before, hstored, _, _, hset, hunset⟩ :=
    updatesBy_of_stored { cache := 0 } ⟨∅, default⟩ hkey ⟨"Person", none⟩ Selector.people
      hdocument hextract hprev hat hvalue Json.noConfusion
  exact ⟨selector, metadata, stored, before, hparse, hstored, hset, hunset⟩

end Session

end PatchStore
