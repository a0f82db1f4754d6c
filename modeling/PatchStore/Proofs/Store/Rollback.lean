import PatchStore.Proofs.Store.Step

/-!
# Batches against commands sent one by one

A batch works on the store in place and repairs it from its undo log if a command fails.  Seen from
outside it is the same as sending its commands one by one, except that a failure takes back
everything.

* `rollback_eq_foldl_of_perm` — the order in which an undo log is gone through does not matter.
* `documents_rollback_on_performAll` — the invariant of a batch: at every point of it rolling back
  would bring the same documents.
* `batch_cons_of_ok`, `batch_cons_of_error` — what a batch comes to, from its first command and a
  batch of the others.
* `batch_cons_eq_ok_iff`, `batch_append_eq_ok_iff` — when a batch succeeds, from its parts.
* `MemoryStore.oneByOne` — commands sent as batches of one, up to the first that fails.
* `batch_eq_oneByOne` — a batch and its commands sent one by one give the same results, the same
  failure and the same store; after a failure the documents are those before the batch.
-/

namespace PatchStore

/-- The order in which what was noted is brought back does not matter. -/
theorem UndoLog.rollback_eq_foldl_of_perm {log : UndoLog}
    {entries : List (String × Option StoredDocument)} (h : log.entries.Perm entries)
    (docs : Documents) :
    log.rollback docs = entries.foldl (fun docs e => docs.update e.1 e.2) docs := by
  refine h.foldl_eq' (fun a ha b hb docs => ?_) docs
  by_cases hkey : a.1 = b.1
  · rw [Keyed.Sorted.eq_of_mem log.sorted ha hb hkey]
  · exact docs.update_comm hkey a.2 b.2

namespace Transaction

/-! ## What rolling back would bring -/

/-- Rolling back touches no document whose key has not been noted. -/
theorem get?_rollback (t : Transaction) (key : String) :
    t.rollback.documents.get? key =
      (t.undo.get? key).getD (t.store.documents.get? key) :=
  t.undo.get?_rollback t.store.documents key

/-- Noting what a command is going to touch does not change what rolling back would bring. -/
theorem documents_rollback_record (t : Transaction) (c : Command) :
    (t.record c).rollback.documents = t.rollback.documents := by
  refine Table.ext_get? fun key => ?_
  rw [get?_rollback, get?_rollback]
  show ((t.undo.record t.store.documents (normalizeKey c.key)).get? key).getD
    (t.store.documents.get? key) = _
  rw [UndoLog.get?_record]
  by_cases hk : normalizeKey c.key = key
  · subst hk
    rw [if_pos rfl]
    rfl
  · rw [if_neg hk]

/-- The key of a command is noted before the command is carried out. -/
theorem get?_undo_record_key (t : Transaction) (c : Command) :
    ((t.record c).undo.get? (normalizeKey c.key)).isSome = true := by
  show ((t.undo.record t.store.documents (normalizeKey c.key)).get? (normalizeKey c.key)).isSome = _
  rw [UndoLog.get?_record, if_pos rfl]
  rfl

/-- A command whose key is noted does not change what rolling back would bring, also if it fails. -/
theorem documents_rollback_perform {t : Transaction} {c : Command}
    (hnoted : (t.undo.get? (normalizeKey c.key)).isSome = true) :
    (Transaction.mk ((MemoryStore.perform c).on t.store).2 t.undo).rollback.documents =
      t.rollback.documents := by
  refine Table.ext_get? fun key => ?_
  rw [get?_rollback, get?_rollback]
  by_cases hk : normalizeKey c.key = key
  · subst hk
    obtain ⟨noted, hsome⟩ := Option.isSome_iff_exists.mp hnoted
    rw [hsome]
    rfl
  · show (t.undo.get? key).getD (((MemoryStore.perform c).on t.store).2.documents.get? key) = _
    rw [MemoryStore.get?_on_perform_of_ne c t.store hk]

/-- At every point of a batch rolling back would bring the documents that it would have brought at
the start. -/
theorem documents_rollback_on_performAll (cs : List Command) (t : Transaction) :
    ((performAll cs).on t).2.rollback.documents = t.rollback.documents := by
  induction cs generalizing t with
  | nil => rfl
  | cons c cs ih =>
    have hfirst : (Transaction.mk ((MemoryStore.perform c).on t.store).2
        (t.record c).undo).rollback.documents = t.rollback.documents :=
      (documents_rollback_perform (t := t.record c) (get?_undo_record_key t c)).trans
        (documents_rollback_record t c)
    rcases h : (MemoryStore.perform c).on t.store with ⟨e | r, s⟩
    · rw [h] at hfirst
      rw [on_performAll_cons_of_error h]
      exact hfirst
    · rw [h] at hfirst
      rw [on_performAll_cons_of_ok h]
      exact (ih ⟨s, (t.record c).undo⟩).trans hfirst

/-- A transaction that has noted nothing would bring back what is there. -/
theorem documents_rollback_start (s : MemoryStore) :
    (Transaction.mk s ∅).rollback.documents = s.documents := rfl

/-! ## What the undo log does not change -/

/-- The undo log has no effect on what the commands of a batch do. -/
theorem on_performAll_congr (cs : List Command) (s : MemoryStore) (undo undo' : UndoLog) :
    ((performAll cs).on ⟨s, undo⟩).1 = ((performAll cs).on ⟨s, undo'⟩).1 ∧
      ((performAll cs).on ⟨s, undo⟩).2.store = ((performAll cs).on ⟨s, undo'⟩).2.store := by
  induction cs generalizing s undo undo' with
  | nil => exact ⟨rfl, rfl⟩
  | cons c cs ih =>
    rcases h : (MemoryStore.perform c).on s with ⟨e | r, u⟩
    · rw [on_performAll_cons_of_error (t := ⟨s, undo⟩) h,
        on_performAll_cons_of_error (t := ⟨s, undo'⟩) h]
      exact ⟨rfl, rfl⟩
    · rw [on_performAll_cons_of_ok (t := ⟨s, undo⟩) h,
        on_performAll_cons_of_ok (t := ⟨s, undo'⟩) h]
      obtain ⟨hresult, hstore⟩ := ih u ((record ⟨s, undo⟩ c).undo) ((record ⟨s, undo'⟩ c).undo)
      exact ⟨congrArg (Except.map (r :: ·)) hresult, hstore⟩

end Transaction

namespace MemoryStore

/-! ## How batches compose -/

/-- What a batch comes to, seen from a run of its commands with any undo log. -/
theorem batch_eq (s : MemoryStore) (cs : List Command) (undo : UndoLog) :
    s.batch cs =
      match (Transaction.performAll cs).on ⟨s, undo⟩ with
      | (.ok results, t) => (.ok results, t.store)
      | (.error e, t) => (.error e, { t.store with documents := s.documents }) := by
  have hback := Transaction.documents_rollback_on_performAll cs ⟨s, ∅⟩
  obtain ⟨hresult, hstore⟩ := Transaction.on_performAll_congr cs s ∅ undo
  rw [batch]
  rcases hrun : (Transaction.performAll cs).on ⟨s, ∅⟩ with ⟨result, t⟩
  rcases hrun' : (Transaction.performAll cs).on ⟨s, undo⟩ with ⟨result', t'⟩
  rw [hrun] at hback
  rw [hrun, hrun'] at hresult hstore
  obtain rfl : result = result' := hresult
  cases result with
  | ok results => exact congrArg (fun u => (_, u)) hstore
  | error e =>
    show (Except.error e, MemoryStore.mk t.rollback.documents t.store.supply) = _
    rw [hback, Transaction.documents_rollback_start, hstore]

@[simp] theorem batch_nil (s : MemoryStore) : s.batch [] = (.ok [], s) := rfl

/-- A batch whose first command fails fails with it. -/
theorem batch_cons_of_error {c : Command} {s t : MemoryStore} {e : StoreError}
    (h : (perform c).on s = (.error e, t)) (cs : List Command) :
    s.batch (c :: cs) = (.error e, { t with documents := s.documents }) := by
  rw [batch_eq s (c :: cs) ∅, Transaction.on_performAll_cons_of_error (t := ⟨s, ∅⟩) h]

/-- A batch whose first command succeeds goes on like a batch of the others, but takes back the
first command as well if that fails. -/
theorem batch_cons_of_ok {c : Command} {s t : MemoryStore} {r : BatchResult}
    (h : (perform c).on s = (.ok r, t)) (cs : List Command) :
    s.batch (c :: cs) =
      match t.batch cs with
      | (.ok results, u) => (.ok (r :: results), u)
      | (.error e, u) => (.error e, { u with documents := s.documents }) := by
  rw [batch_eq s (c :: cs) ∅, Transaction.on_performAll_cons_of_ok (t := ⟨s, ∅⟩) h,
    batch_eq t cs (Transaction.record ⟨s, ∅⟩ c).undo]
  rcases (Transaction.performAll cs).on ⟨t, (Transaction.record ⟨s, ∅⟩ c).undo⟩ with
    ⟨e | results, u⟩ <;> rfl

/-- A batch succeeds just when its first command takes a step and a batch of the others succeeds
after it. -/
theorem batch_cons_eq_ok_iff {c : Command} {cs : List Command} {s t : MemoryStore}
    {results : List BatchResult} :
    s.batch (c :: cs) = (.ok results, t) ↔
      ∃ r u rs, Step s c r u ∧ u.batch cs = (.ok rs, t) ∧ results = r :: rs := by
  constructor
  · intro h
    rcases hc : (perform c).on s with ⟨e | r, u⟩
    · rw [batch_cons_of_error hc] at h
      cases h
    · rw [batch_cons_of_ok hc] at h
      rcases hrest : u.batch cs with ⟨e | rs, v⟩
      · rw [hrest] at h
        cases h
      · rw [hrest] at h
        cases h
        exact ⟨r, u, rs, on_perform_eq_ok_iff.mp hc, hrest, rfl⟩
  · rintro ⟨r, u, rs, hstep, hrest, rfl⟩
    rw [batch_cons_of_ok (on_perform_eq_ok_iff.mpr hstep), hrest]

/-- A batch that succeeds has one result for each command. -/
theorem length_of_batch_ok {cs : List Command} {s t : MemoryStore} {results : List BatchResult}
    (h : s.batch cs = (.ok results, t)) : results.length = cs.length := by
  induction cs generalizing s results with
  | nil =>
    cases h
    rfl
  | cons c cs ih =>
    obtain ⟨r, u, rs, _, hrest, rfl⟩ := batch_cons_eq_ok_iff.mp h
    rw [List.length_cons, List.length_cons, ih hrest]

/-- A batch of commands and then others succeeds just when a batch of the ones succeeds and a batch
of the others succeeds after it. -/
theorem batch_append_eq_ok_iff {cs cs' : List Command} {s t : MemoryStore}
    {results : List BatchResult} :
    s.batch (cs ++ cs') = (.ok results, t) ↔
      ∃ rs u rs', s.batch cs = (.ok rs, u) ∧ u.batch cs' = (.ok rs', t) ∧
        results = rs ++ rs' := by
  induction cs generalizing s results with
  | nil =>
    constructor
    · intro h
      exact ⟨[], s, results, rfl, h, rfl⟩
    · rintro ⟨rs, u, rs', hnil, hrest, rfl⟩
      cases hnil
      exact hrest
  | cons c cs ih =>
    constructor
    · intro h
      obtain ⟨r, v, _, hstep, hrest, rfl⟩ := batch_cons_eq_ok_iff.mp h
      obtain ⟨rs, u, rs', hfirst, hlast, rfl⟩ := ih.mp hrest
      exact ⟨r :: rs, u, rs', batch_cons_eq_ok_iff.mpr ⟨r, v, rs, hstep, hfirst, rfl⟩, hlast, rfl⟩
    · rintro ⟨_, u, rs', hfirst, hlast, rfl⟩
      obtain ⟨r, v, rs, hstep, hrest, rfl⟩ := batch_cons_eq_ok_iff.mp hfirst
      exact batch_cons_eq_ok_iff.mpr
        ⟨r, v, rs ++ rs', hstep, ih.mpr ⟨rs, u, rs', hrest, hlast, rfl⟩, rfl⟩

/-! ## One command at a time -/

/-- Carries out commands as batches of one each, up to the first that fails. -/
def oneByOne (s : MemoryStore) : List Command → StoreResult (List BatchResult) × MemoryStore
  | [] => (.ok [], s)
  | c :: cs =>
    match s.batch [c] with
    | (.ok results, t) => ((t.oneByOne cs).1.map (results ++ ·), (t.oneByOne cs).2)
    | (.error e, t) => (.error e, t)

theorem oneByOne_cons_of_error {c : Command} {s t : MemoryStore} {e : StoreError}
    (h : (perform c).on s = (.error e, t)) (cs : List Command) :
    s.oneByOne (c :: cs) = (.error e, { t with documents := s.documents }) := by
  rw [oneByOne, batch_cons_of_error h]

theorem oneByOne_cons_of_ok {c : Command} {s t : MemoryStore} {r : BatchResult}
    (h : (perform c).on s = (.ok r, t)) (cs : List Command) :
    s.oneByOne (c :: cs) = ((t.oneByOne cs).1.map (r :: ·), (t.oneByOne cs).2) := by
  rw [oneByOne, batch_cons_of_ok h, batch_nil]
  rfl

/-- **A batch is its commands sent one by one, all or nothing.**  If all of them succeed, the batch
gives their results, one after the other, and ends in the same store.  Otherwise it fails like the
first of them that fails, and its documents are exactly those before the batch. -/
theorem batch_eq_oneByOne (s : MemoryStore) (cs : List Command) :
    s.batch cs =
      match s.oneByOne cs with
      | (.ok results, t) => (.ok results, t)
      | (.error e, t) => (.error e, { t with documents := s.documents }) := by
  induction cs generalizing s with
  | nil => rfl
  | cons c cs ih =>
    rcases h : (perform c).on s with ⟨e | r, t⟩
    · rw [batch_cons_of_error h, oneByOne_cons_of_error h]
    · rw [batch_cons_of_ok h, oneByOne_cons_of_ok h, ih t]
      rcases t.oneByOne cs with ⟨e | results, u⟩ <;> rfl

end MemoryStore

end PatchStore
