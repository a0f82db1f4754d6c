import PatchStore.Proofs.Store.Rollback
import PatchStore.Session.Basic

/-!
# Requests to the store in memory

A session with the store in memory sends commands as batches, of one command or of many, and the
store answers every command of a batch that succeeds.

* `MemoryStore.session` — a session with the store in memory.
* `on_execute`, `on_execute_of_error`, `on_execute_cases` — what becomes of a single command.
* `on_executeMany` — what becomes of many.
-/

namespace PatchStore

namespace MemoryStore

/-- A session with the store in memory. -/
def session (conventions : Conventions) : Session MemoryStore := ⟨backend, conventions⟩

/-- The backend carries out batches as the store does. -/
theorem on_backend_batch (cs : List Command) (s : MemoryStore) :
    (backend.batch cs).on s = s.batch cs := by
  show Work.on (get >>= fun store => _) s = s.batch cs
  rw [Work.on_bind_of_ok (Work.on_get s), Work.on_bind_of_ok (Work.on_set s _), Work.on_liftM]

end MemoryStore

namespace Session

open MemoryStore (session)

variable {conventions : Conventions}

theorem requireKey_of_ne_empty {key : String} (h : key ≠ "") : requireKey key = .ok () := by
  have hempty : key.isEmpty = false := by
    rw [← Bool.not_eq_true, String.isEmpty_iff]
    exact h
  rw [requireKey, hempty]
  rfl

/-- A command that succeeds is answered with its result. -/
theorem on_execute {c : Command} {r : BatchResult} {s t : MemoryStore}
    (h : MemoryStore.Step s c r t) : ((session conventions).execute c).on s = (.ok r, t) := by
  have hbatch : s.batch [c] = (.ok [r], t) :=
    MemoryStore.batch_cons_eq_ok_iff.mpr ⟨r, t, [], h, MemoryStore.batch_nil t, rfl⟩
  have hsent : ((session conventions).backend.batch [c]).on s = (.ok [r], t) :=
    (MemoryStore.on_backend_batch [c] s).trans hbatch
  rw [execute, Work.on_bind_of_ok hsent]
  rfl

/-- A command that fails makes its request fail with what a batch of it fails with. -/
theorem on_execute_of_error {c : Command} {e : StoreError} {s t : MemoryStore}
    (h : s.batch [c] = (.error e, t)) :
    ((session conventions).execute c).on s = (.error e, t) := by
  have hsent : ((session conventions).backend.batch [c]).on s = (.error e, t) :=
    (MemoryStore.on_backend_batch [c] s).trans h
  rw [execute, Work.on_bind_of_error hsent]

/-- A single command succeeds by a step, or fails as a batch of it does. -/
theorem on_execute_cases (conventions : Conventions) (c : Command) (s : MemoryStore) :
    (∃ r t, MemoryStore.Step s c r t ∧ ((session conventions).execute c).on s = (.ok r, t)) ∨
      ∃ e t, s.batch [c] = (.error e, t) ∧
        ((session conventions).execute c).on s = (.error e, t) := by
  rcases hbatch : s.batch [c] with ⟨e | results, t⟩
  · exact Or.inr ⟨e, t, rfl, on_execute_of_error hbatch⟩
  · obtain ⟨r, u, rs, hstep, hrest, _⟩ := MemoryStore.batch_cons_eq_ok_iff.mp hbatch
    exact Or.inl ⟨r, u, hstep, on_execute hstep⟩

/-- Many commands come to what a batch of them comes to. -/
theorem on_executeMany (cs : List Command) (s : MemoryStore) :
    ((session conventions).executeMany cs).on s = s.batch cs := by
  cases cs with
  | nil => rfl
  | cons c cs =>
    have hsent : ((session conventions).backend.batch (c :: cs)).on s = s.batch (c :: cs) :=
      MemoryStore.on_backend_batch (c :: cs) s
    show Work.on ((session conventions).backend.batch (c :: cs) >>= _) s = _
    rcases hbatch : s.batch (c :: cs) with ⟨e | results, t⟩
    · exact Work.on_bind_of_error (hsent.trans hbatch) _
    · rw [Work.on_bind_of_ok (hsent.trans hbatch), if_pos (MemoryStore.length_of_batch_ok hbatch)]
      rfl

end Session

end PatchStore
