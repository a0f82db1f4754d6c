import PatchStore.Proofs.Store.Results
import PatchStore.Proofs.Store.Simulation
import PatchStore.Proofs.Text.AsciiCase

/-!
# The spelling of keys

A store files a document under its normalized key and keeps the spelling that the document was
stored under.  Two runs whose commands spell keys differently, but so that they normalize alike,
come batch by batch to the same, except that each speaks of documents in its own spelling.

* `SameButKey` — failures, results and documents that differ in a key at most.
* `Work.SameButKey` — work that does the same and fails alike but for the key; applying patch chains
  under one key or another is such work.
* `Command.Respelled` — commands that differ in the spelling of the key at most.
* `respelling` — the simulation: a command and its respelling, on stores that differ in stored keys.
* `outcomes_of_respelled` — runs that differ in the spelling of keys.
-/

namespace PatchStore

/-! ## What differs in a key at most -/

/-- Two failures of a store's commands for the same cause, which may name different documents. -/
inductive StoreError.SameButKey : StoreError → StoreError → Prop
  | concurrency (key other : String) (conflict : Conflict) :
      SameButKey (.concurrency key conflict) (.concurrency other conflict)
  | documentNotObject (key other : String) (document : Json) :
      SameButKey (.backend (.documentNotObject key document))
        (.backend (.documentNotObject other document))
  | scriptsUnsupported (key other : String) :
      SameButKey (.backend (.scriptsUnsupported key)) (.backend (.scriptsUnsupported other))
  | notAnArray (field key other : String) :
      SameButKey (.backend (.notAnArray field key)) (.backend (.notAnArray field other))
  | notAnObject (field key other : String) :
      SameButKey (.backend (.notAnObject field key)) (.backend (.notAnObject field other))

/-- Two metadata objects say the same but for the key. -/
def Metadata.SameButKey (m n : Members) : Prop :=
  ∀ name, name ≠ Metadata.keyName → Keyed.get? m name = Keyed.get? n name

/-- Two results say the same of documents that may have different keys. -/
structure BatchResult.SameButKey (r q : BatchResult) : Prop where
  method : r.method = q.method
  etag : r.etag = q.etag
  metadata : Option.Rel Metadata.SameButKey r.metadata q.metadata
  patchOutcome : r.patchOutcome = q.patchOutcome
  deleted : r.deleted = q.deleted

/-- Two documents are the same but for the key that they were stored under. -/
structure StoredDocument.SameButKey (d e : StoredDocument) : Prop where
  body : d.body = e.body
  metadata : d.metadata = e.metadata
  stamp : d.stamp = e.stamp

namespace StoredDocument.SameButKey

variable {d e : StoredDocument}

theorem refl (d : StoredDocument) : SameButKey d d := ⟨rfl, rfl, rfl⟩

/-- What is reported of documents that are the same but for the key is the same but for the key. -/
theorem reportedMetadata (h : SameButKey d e) :
    Metadata.SameButKey d.reportedMetadata e.reportedMetadata := by
  intro name hname
  rw [get?_reportedMetadata, get?_reportedMetadata, if_neg hname, if_neg hname, h.metadata, h.stamp]

theorem putResult (h : SameButKey d e) : d.putResult.SameButKey e.putResult :=
  ⟨rfl, congrArg (fun s : Stamp => some s.etag) h.stamp, .some h.reportedMetadata, rfl, rfl⟩

theorem patchResult (h : SameButKey d e) (outcome : PatchOutcome) :
    (d.patchResult outcome).SameButKey (e.patchResult outcome) :=
  ⟨rfl, congrArg (fun s : Stamp => some s.etag) h.stamp, .some h.reportedMetadata, rfl, rfl⟩

end StoredDocument.SameButKey

/-! ## Patch chains under one key or another -/

/-- Work that does the same to every state, and fails alike but for the key. -/
def Work.SameButKey {σ α : Type} (w v : Work σ α) : Prop :=
  ∀ s, Alike Eq StoreError.SameButKey (w.on s).1 (v.on s).1 ∧ (w.on s).2 = (v.on s).2

namespace Work.SameButKey

variable {σ τ α β : Type}

theorem get : SameButKey (get : Work σ σ) get := fun _ => ⟨.ok rfl, rfl⟩

theorem pure (a : α) : SameButKey (pure a : Work σ α) (pure a) := fun _ => ⟨.ok rfl, rfl⟩

theorem modify (f : σ → σ) : SameButKey (modify f : Work σ PUnit) (modify f) :=
  fun _ => ⟨.ok rfl, rfl⟩

theorem throw {e f : StoreError} (h : e.SameButKey f) :
    SameButKey (throw e : Work σ α) (throw f) := fun _ => ⟨.error h, rfl⟩

theorem liftM {r q : StoreResult α} (h : Alike Eq StoreError.SameButKey r q) :
    SameButKey (liftM r : Work σ α) (liftM q) := by
  intro s
  rw [Work.on_liftM, Work.on_liftM]
  exact ⟨h, rfl⟩

theorem bind {w v : Work σ α} {f g : α → Work σ β} (h : SameButKey w v)
    (hnext : ∀ a, SameButKey (f a) (g a)) : SameButKey (w >>= f) (v >>= g) := by
  intro s
  obtain ⟨halike, hstate⟩ := h s
  rw [Work.on_bind, Work.on_bind]
  rcases hw : w.on s with ⟨e | a, t⟩ <;> rcases hv : v.on s with ⟨f | b, u⟩ <;>
    rw [hw, hv] at halike hstate
  · cases halike with | error hfailures => exact ⟨.error hfailures, hstate⟩
  · cases halike
  · cases halike
  · obtain rfl : t = u := hstate
    cases halike with | ok hresults => exact hresults ▸ hnext a t

theorem within (part : σ → τ) (put : τ → σ → σ) {w v : Work τ α} (h : SameButKey w v) :
    SameButKey (Work.within part put w) (Work.within part put v) := by
  intro s
  obtain ⟨halike, hstate⟩ := h (part s)
  rw [Work.on_within, Work.on_within]
  exact ⟨halike, congrArg (put · s) hstate⟩

end Work.SameButKey

namespace PatchLeaf

/-- The check of a previous value names the document only when it fails. -/
theorem alike_checkPrevious (key other name : String) (target : Members) (prevVal : Option Json) :
    Alike Eq StoreError.SameButKey (checkPrevious key name target prevVal)
      (checkPrevious other name target prevVal) := by
  cases prevVal with
  | none => exact .ok rfl
  | some expected =>
    rw [checkPrevious, checkPrevious]
    split
    · exact .ok rfl
    · exact .error (.concurrency key other _)

/-- An operation names the document only when it fails. -/
theorem sameButKey_apply (key other name : String) (operation : PatchLeaf) :
    Work.SameButKey (operation.apply key name) (operation.apply other name) := by
  cases operation with
  | add value =>
    refine Work.SameButKey.bind .get fun target => ?_
    split
    · exact .bind (.modify _) fun _ => .pure true
    · exact .bind (.modify _) fun _ => .pure true
    · exact .bind (.modify _) fun _ => .pure true
    · exact .throw (.notAnArray name key other)
  | set value prevVal =>
    refine Work.SameButKey.bind .get fun target => ?_
    refine .bind (.liftM (alike_checkPrevious key other name target prevVal)) fun _ => ?_
    exact .bind (.modify _) fun _ => .pure _
  | unset prevVal =>
    refine Work.SameButKey.bind .get fun target => ?_
    refine .bind (.liftM (alike_checkPrevious key other name target prevVal)) fun _ => ?_
    exact .bind (.modify _) fun _ => .pure _

end PatchLeaf

namespace PatchNode

theorem alike_enter (key other name : String) (found : Option Json) :
    Alike Eq StoreError.SameButKey (enter key name found) (enter other name found) := by
  rcases found with _ | _ | _ | _ | _ | _ | _
  case some.object => exact .ok rfl
  case none | some.null => exact .ok rfl
  all_goals exact .error (.notAnObject name key other)

/-- A chain names the document only when it fails. -/
theorem sameButKey_apply (key other : String) (node : PatchNode) :
    Work.SameButKey (node.apply key) (node.apply other) := by
  induction node with
  | leaf name operation => exact operation.sameButKey_apply key other name
  | modify name nested ih =>
    refine Work.SameButKey.bind .get fun target => ?_
    refine .bind (.liftM (alike_enter key other name _)) fun entered => ?_
    exact .bind (.within _ _ ih) fun _ => .pure _

/-- Chains name the document only when they fail. -/
theorem sameButKey_applyAll (key other : String) (nodes : List PatchNode) :
    Work.SameButKey (applyAll key nodes) (applyAll other nodes) := by
  induction nodes with
  | nil => exact .pure false
  | cons node rest ih =>
    exact .bind (node.sameButKey_apply key other) fun _ => .bind ih fun _ => .pure _

end PatchNode

/-! ## Commands in another spelling -/

/-- Two commands that differ in the spelling of the key at most: their keys normalize alike. -/
inductive Command.Respelled : Command → Command → Prop
  | put {key other : String} (etag : Option Etag) (document : Json) (metadata : Members) :
      normalizeKey key = normalizeKey other →
      Respelled (.put ⟨key, etag, document, metadata⟩) (.put ⟨other, etag, document, metadata⟩)
  | patch {key other : String} (etag : Option Etag) (patches : List PatchNode) :
      normalizeKey key = normalizeKey other →
      Respelled (.patch ⟨key, etag, patches⟩) (.patch ⟨other, etag, patches⟩)
  | script {key other : String} (etag : Option Etag) (script : String) (values : Members) :
      normalizeKey key = normalizeKey other →
      Respelled (.script ⟨key, etag, script, values⟩) (.script ⟨other, etag, script, values⟩)
  | delete {key other : String} (etag : Option Etag) :
      normalizeKey key = normalizeKey other →
        Respelled (.delete ⟨key, etag⟩) (.delete ⟨other, etag⟩)

namespace Command.Respelled

theorem refl (c : Command) : c.Respelled c := by
  cases c with
  | put c => exact .put c.etag c.document c.metadata rfl
  | patch c => exact .patch c.etag c.patches rfl
  | script c => exact .script c.etag c.script c.values rfl
  | delete c => exact .delete c.etag rfl

end Command.Respelled

namespace MemoryStore

/-- Two stores draw the same stamps and have the same documents, but for the keys that these were
stored under. -/
def SameButKeys (s t : MemoryStore) : Prop := AgreeOn Set.univ StoredDocument.SameButKey s t

theorem SameButKeys.refl (s : MemoryStore) : s.SameButKeys s where
  documents key _ := by
    cases s.documents.get? key with
    | none => exact .none
    | some d => exact .some (.refl d)
  supply := rfl

/-- The check of a version looks at the etag of a document alone. -/
theorem alike_checkEtag (key other : String) (tag : Option Etag) {d e : StoredDocument}
    (h : d.SameButKey e) :
    Alike Eq StoreError.SameButKey (checkEtag key tag (some d)) (checkEtag other tag (some e)) := by
  cases tag with
  | none => exact .ok rfl
  | some tag =>
    rw [checkEtag, checkEtag, h.stamp]
    split
    · exact .ok rfl
    · exact .error (.concurrency key other _)

/-- The check of a version fails alike where there is no document. -/
theorem alike_checkEtag_none (key other : String) (tag : Option Etag) :
    Alike Eq StoreError.SameButKey (checkEtag key tag none) (checkEtag other tag none) := by
  cases tag with
  | none => exact .ok rfl
  | some tag => exact .error (.concurrency key other _)

/-- The check of the version that a command is bound to comes out alike for either spelling. -/
theorem SameButKeys.alike_checkEtag_find? {s t : MemoryStore} (h : s.SameButKeys t)
    {key other : String} (hkey : normalizeKey key = normalizeKey other) (tag : Option Etag) :
    Alike Eq StoreError.SameButKey (checkEtag key tag (s.documents.find? key))
      (checkEtag other tag (t.documents.find? other)) := by
  rcases h.find?_cases (Set.mem_univ _) hkey with ⟨hs, ht⟩ | ⟨d, e, hs, ht, hsame⟩
  · rw [hs, ht]
    exact alike_checkEtag_none key other tag
  · rw [hs, ht]
    exact alike_checkEtag key other tag hsame

/-- What two pieces of work answer, and the stores that they leave, are the same but for keys. -/
def AlikeOn (w v : Work MemoryStore BatchResult) (s t : MemoryStore) : Prop :=
  Alike BatchResult.SameButKey StoreError.SameButKey (w.on s).1 (v.on t).1 ∧
    (w.on s).2.SameButKeys (v.on t).2

/-- Storing a document under either spelling. -/
theorem SameButKeys.put {s t : MemoryStore} (h : s.SameButKeys t) {key other : String}
    (hkey : normalizeKey key = normalizeKey other) (etag : Option Etag) (document : Json)
    (metadata : Members) :
    AlikeOn (put ⟨key, etag, document, metadata⟩) (put ⟨other, etag, document, metadata⟩) s t := by
  rw [AlikeOn, on_put, on_put]
  rcases (h.alike_checkEtag_find? hkey etag).cases with ⟨_, _, hs, ht, _⟩ | ⟨e, f, hs, ht, hfailure⟩
  · rw [hs, ht]
    cases document with
    | object body =>
      have hsame : StoredDocument.SameButKey ⟨key, body, metadata, s.supply.next⟩
          ⟨other, body, metadata, t.supply.next⟩ := ⟨rfl, rfl, congrArg Supply.next h.supply⟩
      exact ⟨.ok hsame.putResult, h.advance.file hkey hsame⟩
    | _ => exact ⟨.error (.documentNotObject key other _), h⟩
  · rw [hs, ht]
    exact ⟨.error hfailure, h⟩

/-- Deleting a document under either spelling. -/
theorem SameButKeys.delete {s t : MemoryStore} (h : s.SameButKeys t) {key other : String}
    (hkey : normalizeKey key = normalizeKey other) (etag : Option Etag) :
    AlikeOn (delete ⟨key, etag⟩) (delete ⟨other, etag⟩) s t := by
  have hfound : (s.documents.find? key).isSome = (t.documents.find? other).isSome := by
    rcases h.find?_cases (Set.mem_univ _) hkey with ⟨hs, ht⟩ | ⟨d, e, hs, ht, _⟩ <;> rw [hs, ht]
    rfl
  rw [AlikeOn, on_delete, on_delete]
  rcases (h.alike_checkEtag_find? hkey etag).cases with ⟨_, _, hs, ht, _⟩ | ⟨e, f, hs, ht, hfailure⟩
  · rw [hs, ht]
    refine ⟨.ok ⟨rfl, rfl, .none, rfl, congrArg some hfound⟩, ?_⟩
    show SameButKeys { s with documents := s.documents.erase (normalizeKey key) }
      { t with documents := t.documents.erase (normalizeKey other) }
    rw [← hkey]
    exact h.erase (normalizeKey key)
  · rw [hs, ht]
    exact ⟨.error hfailure, h⟩

/-- Patching a document under either spelling. -/
theorem SameButKeys.patch {s t : MemoryStore} (h : s.SameButKeys t) {key other : String}
    (hkey : normalizeKey key = normalizeKey other) (etag : Option Etag)
    (patches : List PatchNode) :
    AlikeOn (patch ⟨key, etag, patches⟩) (patch ⟨other, etag, patches⟩) s t := by
  rcases h.find?_cases (Set.mem_univ _) hkey with ⟨hs, ht⟩ | ⟨d, e, hs, ht, hsame⟩
  · rw [AlikeOn, on_patch_of_missing (c := ⟨key, etag, patches⟩) hs,
      on_patch_of_missing (c := ⟨other, etag, patches⟩) ht]
    exact ⟨.ok ⟨rfl, rfl, .none, rfl, rfl⟩, h⟩
  · rw [AlikeOn, on_patch_of_found (c := ⟨key, etag, patches⟩) hs,
      on_patch_of_found (c := ⟨other, etag, patches⟩) ht]
    obtain ⟨hchains, hafter⟩ := PatchNode.sameButKey_applyAll key other patches d.body
    rw [hsame.body] at hchains hafter ⊢
    rcases (alike_checkEtag key other etag hsame).cases with
      ⟨_, _, hs, ht, _⟩ | ⟨e, f, hs, ht, hfailure⟩
    · rw [hs, ht]
      rcases hd : (PatchNode.applyAll key patches).on e.body with ⟨a, body⟩
      rcases he : (PatchNode.applyAll other patches).on e.body with ⟨b, body'⟩
      rw [hd, he] at hchains hafter
      obtain rfl : body = body' := hafter
      have hchains : Alike Eq StoreError.SameButKey a b := hchains
      have hpatched : StoredDocument.SameButKey { d with body := body } { e with body := body } :=
        ⟨rfl, hsame.metadata, hsame.stamp⟩
      have htouched : StoredDocument.SameButKey
          { d with body := body, stamp := s.supply.next }
          { e with body := body, stamp := t.supply.next } :=
        ⟨rfl, hsame.metadata, congrArg Supply.next h.supply⟩
      rcases hchains.cases with ⟨modified, _, rfl, rfl, rfl⟩ | ⟨e', f', rfl, rfl, hfailure⟩
      · cases modified with
        | false => exact ⟨.ok (hpatched.patchResult _), h.file hkey hpatched⟩
        | true => exact ⟨.ok (htouched.patchResult _), h.advance.file hkey htouched⟩
      · exact ⟨.error hfailure, h.file hkey hpatched⟩
    · rw [hs, ht]
      exact ⟨.error hfailure, h⟩

/-- A command and its respelling, on stores that are the same but for stored keys. -/
def respelling : Simulation where
  stores := SameButKeys
  commands := Command.Respelled
  results := BatchResult.SameButKey
  failures := StoreError.SameButKey
  perform {s t c d} h hcommand := by
    cases hcommand with
    | put etag document metadata hkey => exact h.put hkey etag document metadata
    | patch etag patches hkey => exact h.patch hkey etag patches
    | @script key other => exact ⟨.error (.scriptsUnsupported key other), h⟩
    | delete etag hkey => exact h.delete hkey etag
  restore h h' := h.restore h'

/-- **Only the normalized key counts.**  Keys that differ only in the case of ASCII letters,
wherever in the key these stand and whatever stands beside them, normalize alike.

Take two runs of batches in which each command of the one is a respelling of the command of the
other, from stores that draw the same stamps and have the same documents but for stored keys.  Then,
batch by batch, both succeed or both fail, with failures of one cause; the results are the same but
for the key and the key's member of the metadata; and the stores left are the same but for stored
keys. -/
theorem outcomes_of_respelled :
    (∀ key other : String, key.toLower = other.toLower → normalizeKey key = normalizeKey other) ∧
    ∀ (s t : MemoryStore) (batches others : List (List Command)), s.SameButKeys t →
      List.Forall₂ (List.Forall₂ Command.Respelled) batches others →
      List.Forall₂
        (fun o p => Alike (List.Forall₂ BatchResult.SameButKey) StoreError.SameButKey o.1 p.1 ∧
          o.2.SameButKeys p.2)
        (s.outcomes batches) (t.outcomes others) := by
  refine ⟨fun _ _ h => Text.lowerCase_eq_of_toLower_eq h, ?_⟩
  intro s t batches others hstores hbatches
  exact respelling.outcomes hstores hbatches

/-- A document is stored, a batch that begins by patching it fails, and it is deleted. -/
def storedAndDeleted (key : String) : List (List Command) :=
  [[.put ⟨key, none, .object [("views", .null)], []⟩],
    [.patch ⟨key, none, [.ofPath ⟨[], "views"⟩ (.unset none)]⟩, .script ⟨key, none, "", []⟩],
    [.delete ⟨key, none⟩]]

theorem respelled_storedAndDeleted {key other : String}
    (hkey : normalizeKey key = normalizeKey other) :
    List.Forall₂ (List.Forall₂ Command.Respelled) (storedAndDeleted key) (storedAndDeleted other) :=
  .cons (.cons (.put _ _ _ hkey) .nil)
    (.cons (.cons (.patch _ _ hkey) (.cons (.script _ _ _ hkey) .nil))
      (.cons (.cons (.delete _ hkey) .nil) .nil))

/-- A letter after a capital sigma may be in either case: it keeps the sigma from being final, and
the run comes to the same. -/
theorem outcomes_beside_sigma :
    "Posts/ΑΣB".toLower = "posts/ΑΣb".toLower ∧
    List.Forall₂
      (fun o p => Alike (List.Forall₂ BatchResult.SameButKey) StoreError.SameButKey o.1 p.1 ∧
        o.2.SameButKeys p.2)
      ((MemoryStore.mk ∅ default).outcomes (storedAndDeleted "Posts/ΑΣB"))
      ((MemoryStore.mk ∅ default).outcomes (storedAndDeleted "posts/ΑΣb")) := by
  obtain ⟨hascii, hruns⟩ := outcomes_of_respelled
  have hlower : "Posts/ΑΣB".toLower = "posts/ΑΣb".toLower := by
    rw [← String.toList_inj, Text.toList_toLower, Text.toList_toLower]
    decide +kernel
  exact ⟨hlower, hruns _ _ _ _ (.refl _) (respelled_storedAndDeleted (hascii _ _ hlower))⟩

end MemoryStore

end PatchStore
