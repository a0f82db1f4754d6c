import PatchStore.Command.Result
import PatchStore.Patch.Apply
import PatchStore.Store.Supply
import PatchStore.Table
import PatchStore.Text.Case

/-!
# The store in memory

The store keeps documents under their normalized keys, so that the case of a key does not matter; a
document remembers the key that it was stored under.  Every change of a document's body gives it a
new stamp.

Commands change the documents in place: a patch that fails leaves the body as far as it got.  What
becomes of a batch whose command fails is said in `Store.Batch`.

* `on_put`, `on_delete`, `on_patch_of_missing`, `on_patch_of_found` — what each kind of command does
  to a store.
-/

namespace PatchStore

/-- A stored document: the key that it was stored under, its body, the metadata it came with, and
the stamp of its version. -/
structure StoredDocument where
  key : String
  body : Members
  metadata : Members
  stamp : Stamp

namespace StoredDocument

/-- The metadata that is reported: what the document came with, and on top of it the key, the etag
and the time of modification. -/
def reportedMetadata (d : StoredDocument) : Members :=
  Keyed.insertAll d.metadata
    [(Metadata.keyName, .string d.key), (Metadata.etagName, .string d.stamp.etag.text),
     (Metadata.modifiedName, .string d.stamp.modified.render)]

/-- The answer to a look-up of the document's metadata. -/
def descriptor (d : StoredDocument) : Descriptor where
  key := d.key
  etag := some d.stamp.etag
  lastModified := some d.stamp.modified
  nonAuthoritative := some false
  metadata := d.reportedMetadata

/-- The result of storing the document. -/
def putResult (d : StoredDocument) : BatchResult where
  method := .put
  key := d.key
  etag := some d.stamp.etag
  metadata := some d.reportedMetadata

/-- The result of a patch that left the document. -/
def patchResult (d : StoredDocument) (outcome : PatchOutcome) : BatchResult where
  method := .patch
  key := d.key
  etag := some d.stamp.etag
  metadata := some d.reportedMetadata
  patchOutcome := some outcome

end StoredDocument

/-- The result of a patch that found no document. -/
def BatchResult.patchOfMissing (key : String) : BatchResult where
  method := .patch
  key := key
  patchOutcome := some .documentDoesNotExist

/-- The result of a deletion. -/
def BatchResult.deletion (key : String) (found : Bool) : BatchResult where
  method := .delete
  key := key
  deleted := some found

/-- The documents under their normalized keys. -/
abbrev Documents := Table StoredDocument

/-- The key under which a document is filed. -/
def normalizeKey (key : String) : String := Text.lowerCase key

/-- The document that is filed under a key. -/
def Documents.find? (docs : Documents) (key : String) : Option StoredDocument :=
  docs.get? (normalizeKey key)

/-- Whether a command that is bound to a version may be applied to what is stored. -/
def checkEtag (key : String) (expected : Option Etag) (stored : Option StoredDocument) :
    StoreResult Unit :=
  match expected, stored with
  | none, _ => .ok ()
  | some e, some d =>
    if d.stamp.etag = e then .ok ()
    else .error (.concurrency key (.etagDiffers e.text d.stamp.etag.text))
  | some e, none => .error (.concurrency key (.etagOfMissing e.text))

/-- The documents of a store, and the stamps that it draws. -/
structure MemoryStore where
  documents : Documents := ∅
  supply : Supply

namespace MemoryStore

/-- The store with a document filed under a key. -/
def file (s : MemoryStore) (key : String) (d : StoredDocument) : MemoryStore :=
  { s with documents := s.documents.insert (normalizeKey key) d }

/-- The store without the stamp that is drawn next. -/
def advance (s : MemoryStore) : MemoryStore := { s with supply := s.supply.advance }

/-- Draws a stamp. -/
def draw : Work MemoryStore Stamp := do
  let s ← get
  set s.advance
  return s.supply.next

@[simp] theorem on_draw (s : MemoryStore) : draw.on s = (.ok s.supply.next, s.advance) := rfl

/-- Stores a whole document. -/
def put (c : PutCommand) : Work MemoryStore BatchResult := do
  liftM (checkEtag c.key c.etag ((← get).documents.find? c.key))
  match c.document with
  | .object body =>
    let stored : StoredDocument := ⟨c.key, body, c.metadata, ← draw⟩
    modify fun s => s.file c.key stored
    return stored.putResult
  | other => throw (.backend (.documentNotObject c.key other))

/-- Deletes a document, if there is one. -/
def delete (c : DeleteCommand) : Work MemoryStore BatchResult := do
  let found := (← get).documents.find? c.key
  liftM (checkEtag c.key c.etag found)
  modify fun s => { s with documents := s.documents.erase (normalizeKey c.key) }
  return .deletion c.key found.isSome

/-- Gives a filed document a new stamp. -/
def touch (key : String) (d : StoredDocument) : Work MemoryStore StoredDocument := do
  let touched := { d with stamp := ← draw }
  modify fun s => s.file key touched
  return touched

theorem on_touch (key : String) (d : StoredDocument) (s : MemoryStore) :
    (touch key d).on s =
      (.ok { d with stamp := s.supply.next },
        s.advance.file key { d with stamp := s.supply.next }) := rfl

/-- Work on the body of a filed document; gives the document with the body that the work left. -/
def inBody {α : Type} (key : String) (d : StoredDocument) (w : Work Members α) :
    Work MemoryStore (α × StoredDocument) :=
  ExceptT.mk fun s =>
    let changed := { d with body := (w.on d.body).2 }
    ((w.on d.body).1.map (·, changed), s.file key changed)

theorem on_inBody {α : Type} (key : String) (d : StoredDocument) (w : Work Members α)
    (s : MemoryStore) :
    (inBody key d w).on s =
      ((w.on d.body).1.map (·, { d with body := (w.on d.body).2 }),
        s.file key { d with body := (w.on d.body).2 }) := rfl

/-- Applies patch chains to a document, if there is one; the document gets a new stamp if any of
them modified it. -/
def patch (c : PatchCommand) : Work MemoryStore BatchResult := do
  match (← get).documents.find? c.key with
  | none => return .patchOfMissing c.key
  | some d =>
    liftM (checkEtag c.key c.etag (some d))
    let (modified, patched) ← inBody c.key d (PatchNode.applyAll c.key c.patches)
    if modified then return (← touch c.key patched).patchResult .patched
    else return patched.patchResult .notModified

/-- Carries out one command. -/
def perform : Command → Work MemoryStore BatchResult
  | .put c => put c
  | .delete c => delete c
  | .patch c => patch c
  | .script c => throw (.backend (.scriptsUnsupported c.key))

/-! ## What commands do -/

/-- A document that is filed twice stands as it was filed last. -/
theorem file_file (s : MemoryStore) (key : String) (d e : StoredDocument) :
    (s.file key d).file key e = s.file key e := by
  simp only [file, Table.insert_insert]

/-- Storing a document checks the version and the shape, and then files the document with a stamp of
its own. -/
theorem on_put (c : PutCommand) (s : MemoryStore) :
    (put c).on s =
      match checkEtag c.key c.etag (s.documents.find? c.key), c.document with
      | .error e, _ => (.error e, s)
      | .ok (), .object body =>
        let d : StoredDocument := ⟨c.key, body, c.metadata, s.supply.next⟩
        (.ok d.putResult, s.advance.file c.key d)
      | .ok (), other => (.error (.backend (.documentNotObject c.key other)), s) := by
  rw [put, Work.on_bind_of_ok (Work.on_get s), Work.on_bind, Work.on_liftM]
  rcases checkEtag c.key c.etag (s.documents.find? c.key) with e | _
  · rfl
  · cases c.document <;> rfl

/-- Deleting checks the version and then drops what is filed. -/
theorem on_delete (c : DeleteCommand) (s : MemoryStore) :
    (delete c).on s =
      match checkEtag c.key c.etag (s.documents.find? c.key) with
      | .error e => (.error e, s)
      | .ok () =>
        (.ok (.deletion c.key (s.documents.find? c.key).isSome),
          { s with documents := s.documents.erase (normalizeKey c.key) }) := by
  rw [delete, Work.on_bind_of_ok (Work.on_get s), Work.on_bind, Work.on_liftM]
  cases checkEtag c.key c.etag (s.documents.find? c.key) <;> rfl

/-- Patching a document that is not there does nothing. -/
theorem on_patch_of_missing {c : PatchCommand} {s : MemoryStore}
    (h : s.documents.find? c.key = none) : (patch c).on s = (.ok (.patchOfMissing c.key), s) := by
  rw [patch, Work.on_bind_of_ok (Work.on_get s), h]
  rfl

/-- Patching checks the version and then changes the body; a chain that fails leaves the body as far
as the patch got. -/
theorem on_patch_of_found {c : PatchCommand} {s : MemoryStore} {d : StoredDocument}
    (h : s.documents.find? c.key = some d) :
    (patch c).on s =
      match checkEtag c.key c.etag (some d), (PatchNode.applyAll c.key c.patches).on d.body with
      | .error e, _ => (.error e, s)
      | .ok (), (.error e, body) => (.error e, s.file c.key { d with body := body })
      | .ok (), (.ok false, body) =>
        let patched := { d with body := body }
        (.ok (patched.patchResult .notModified), s.file c.key patched)
      | .ok (), (.ok true, body) =>
        let patched := { d with body := body, stamp := s.supply.next }
        (.ok (patched.patchResult .patched), s.advance.file c.key patched) := by
  rw [patch, Work.on_bind_of_ok (Work.on_get s), h]
  show Work.on (liftM (checkEtag c.key c.etag (some d)) >>= _) s = _
  rw [Work.on_bind, Work.on_liftM]
  rcases checkEtag c.key c.etag (some d) with e | _
  · rfl
  · show Work.on (inBody c.key d (PatchNode.applyAll c.key c.patches) >>= _) s = _
    rw [Work.on_bind, on_inBody]
    rcases (PatchNode.applyAll c.key c.patches).on d.body with ⟨e | _ | _, body⟩
    · rfl
    · rfl
    · show Work.on (touch c.key { d with body := body } >>= _) (s.file c.key _) = _
      rw [Work.on_bind, on_touch]
      show (_, ((s.advance.file c.key _).file c.key _)) = _
      rw [file_file]
      rfl

end MemoryStore

end PatchStore
