import PatchStore.Store.Batch

/-!
# Steps of a store

What a command can do to a store, said once for all kinds of commands.

* `Step s c r t` — the command `c` takes the store `s` to the store `t` with the result `r`; there
  is one rule for each way in which a command can succeed.
* `on_perform_eq_ok_iff` — a command succeeds exactly by such a step.
* `get?_on_perform_of_ne` — the frame: whether or not it succeeds, a command touches no document but
  the one that is filed under its key.
-/

namespace PatchStore.MemoryStore

/-- The command `c` takes the store `s` to the store `t` with the result `r`. -/
inductive Step (s : MemoryStore) : Command → BatchResult → MemoryStore → Prop
  | put {c : PutCommand} {body : Members} :
      checkEtag c.key c.etag (s.documents.find? c.key) = .ok () → c.document = .object body →
      Step s (.put c) (StoredDocument.putResult ⟨c.key, body, c.metadata, s.supply.next⟩)
        (s.advance.file c.key ⟨c.key, body, c.metadata, s.supply.next⟩)
  | delete {c : DeleteCommand} :
      checkEtag c.key c.etag (s.documents.find? c.key) = .ok () →
      Step s (.delete c) (.deletion c.key (s.documents.find? c.key).isSome)
        { s with documents := s.documents.erase (normalizeKey c.key) }
  | missing {c : PatchCommand} :
      s.documents.find? c.key = none → Step s (.patch c) (.patchOfMissing c.key) s
  | idle {c : PatchCommand} {d : StoredDocument} {body : Members} :
      s.documents.find? c.key = some d → checkEtag c.key c.etag (some d) = .ok () →
      (PatchNode.applyAll c.key c.patches).on d.body = (.ok false, body) →
      Step s (.patch c) (StoredDocument.patchResult { d with body := body } .notModified)
        (s.file c.key { d with body := body })
  | patched {c : PatchCommand} {d : StoredDocument} {body : Members} :
      s.documents.find? c.key = some d → checkEtag c.key c.etag (some d) = .ok () →
      (PatchNode.applyAll c.key c.patches).on d.body = (.ok true, body) →
      Step s (.patch c)
        (StoredDocument.patchResult { d with body := body, stamp := s.supply.next } .patched)
        (s.advance.file c.key { d with body := body, stamp := s.supply.next })

theorem step_of_on_put {s t : MemoryStore} {c : PutCommand} {r : BatchResult}
    (h : (put c).on s = (.ok r, t)) : Step s (.put c) r t := by
  rw [on_put] at h
  rcases hcheck : checkEtag c.key c.etag (s.documents.find? c.key) with e | _
  · rw [hcheck] at h
    cases h
  · rw [hcheck] at h
    cases hdoc : c.document with
    | object body =>
      rw [hdoc] at h
      cases h
      exact .put hcheck hdoc
    | _ =>
      rw [hdoc] at h
      cases h

theorem step_of_on_delete {s t : MemoryStore} {c : DeleteCommand} {r : BatchResult}
    (h : (delete c).on s = (.ok r, t)) : Step s (.delete c) r t := by
  rw [on_delete] at h
  rcases hcheck : checkEtag c.key c.etag (s.documents.find? c.key) with e | _
  · rw [hcheck] at h
    cases h
  · rw [hcheck] at h
    cases h
    exact .delete hcheck

theorem step_of_on_patch {s t : MemoryStore} {c : PatchCommand} {r : BatchResult}
    (h : (patch c).on s = (.ok r, t)) : Step s (.patch c) r t := by
  cases hfind : s.documents.find? c.key with
  | none =>
    rw [on_patch_of_missing hfind] at h
    cases h
    exact .missing hfind
  | some d =>
    rw [on_patch_of_found hfind] at h
    rcases hcheck : checkEtag c.key c.etag (some d) with e | _
    · rw [hcheck] at h
      cases h
    · rw [hcheck] at h
      rcases hall : (PatchNode.applyAll c.key c.patches).on d.body with ⟨e | _ | _, body⟩
      · rw [hall] at h
        cases h
      · rw [hall] at h
        cases h
        exact .idle hfind hcheck hall
      · rw [hall] at h
        cases h
        exact .patched hfind hcheck hall

/-- A command succeeds exactly by a step. -/
theorem on_perform_eq_ok_iff {s t : MemoryStore} {c : Command} {r : BatchResult} :
    (perform c).on s = (.ok r, t) ↔ Step s c r t := by
  constructor
  · intro h
    cases c with
    | put c => exact step_of_on_put h
    | delete c => exact step_of_on_delete h
    | patch c => exact step_of_on_patch h
    | script c => cases h
  · intro h
    cases h with
    | put hcheck hdoc =>
      show (put _).on s = _
      rw [on_put, hcheck, hdoc]
    | delete hcheck =>
      show (delete _).on s = _
      rw [on_delete, hcheck]
    | missing hfind => exact on_patch_of_missing hfind
    | idle hfind hcheck hall =>
      show (patch _).on s = _
      rw [on_patch_of_found hfind, hcheck, hall]
    | patched hfind hcheck hall =>
      show (patch _).on s = _
      rw [on_patch_of_found hfind, hcheck, hall]

/-- A step on a document that is there has found the version that its command is bound to. -/
theorem Step.check {s t : MemoryStore} {c : Command} {r : BatchResult} (h : Step s c r t)
    {d : StoredDocument} (hfound : s.documents.find? c.key = some d) :
    checkEtag c.key c.etag (some d) = .ok () := by
  cases h with
  | put hcheck => exact hfound ▸ hcheck
  | delete hcheck => exact hfound ▸ hcheck
  | missing hfind => cases hfind.symm.trans hfound
  | idle hfind hcheck => exact Option.some.inj (hfind.symm.trans hfound) ▸ hcheck
  | patched hfind hcheck => exact Option.some.inj (hfind.symm.trans hfound) ▸ hcheck

/-! ## The frame -/

/-- A document is found under the key that it was filed under. -/
theorem find?_file (s : MemoryStore) (key : String) (d : StoredDocument) :
    (s.file key d).documents.find? key = some d :=
  s.documents.get?_insert_self (normalizeKey key) d

theorem eq_of_get?_file {s : MemoryStore} {key : String} {d e : StoredDocument}
    (h : (s.file key d).documents.get? (normalizeKey key) = some e) : e = d :=
  Option.some.inj (h.symm.trans (s.find?_file key d))

/-- Filing the document that is found changes nothing. -/
theorem file_eq_self {s : MemoryStore} {key : String} {d : StoredDocument}
    (h : s.documents.find? key = some d) : s.file key d = s := by
  rw [file, Table.insert_eq_self h]

theorem get?_file_of_ne (s : MemoryStore) {key other : String} (h : normalizeKey key ≠ other)
    (d : StoredDocument) : (s.file key d).documents.get? other = s.documents.get? other :=
  s.documents.get?_insert_of_ne h d

/-- A command touches no document but the one that is filed under its key, also if it fails. -/
theorem get?_on_perform_of_ne (c : Command) (s : MemoryStore) {key : String}
    (h : normalizeKey c.key ≠ key) :
    ((perform c).on s).2.documents.get? key = s.documents.get? key := by
  cases c with
  | put c =>
    show ((put c).on s).2.documents.get? key = _
    rw [on_put]
    split
    · rfl
    · exact get?_file_of_ne s.advance h _
    · rfl
  | delete c =>
    show ((delete c).on s).2.documents.get? key = _
    rw [on_delete]
    split
    · rfl
    · exact s.documents.get?_erase_of_ne h
  | patch c =>
    show ((patch c).on s).2.documents.get? key = _
    cases hfind : s.documents.find? c.key with
    | none => rw [on_patch_of_missing hfind]
    | some d =>
      rw [on_patch_of_found hfind]
      split
      · rfl
      · exact get?_file_of_ne s h _
      · exact get?_file_of_ne s h _
      · exact get?_file_of_ne s.advance h _
  | script c => rfl

end PatchStore.MemoryStore
