import PatchStore.Error

/-!
# Work in place

Work changes a state as it goes and may fail, and what it changed before it failed stays changed.
Whoever wants all or nothing has to bring back the old state.

* `Work.on` — does work on a state.
* `Work.within` — work on a part of a state, which is put back also if the work fails.
* `on_bind`, `on_within` — what work leaves, from what its parts leave.
-/

namespace PatchStore

/-- Work that changes a state in place and may fail. -/
abbrev Work (σ : Type) := ExceptT StoreError (StateM σ)

namespace Work

variable {σ τ α β : Type}

/-- Does work on a state: its result or its failure, and the state that it leaves. -/
def on (w : Work σ α) (s : σ) : StoreResult α × σ := w.run.run s

/-- Work on a part of a state; the part is put back also if the work fails. -/
def within (part : σ → τ) (put : τ → σ → σ) (w : Work τ α) : Work σ α :=
  ExceptT.mk fun s => ((w.on (part s)).1, put (w.on (part s)).2 s)

@[simp] theorem on_pure (a : α) (s : σ) : on (pure a : Work σ α) s = (.ok a, s) := rfl

@[simp] theorem on_throw (e : StoreError) (s : σ) :
    on (throw e : Work σ α) s = (.error e, s) := rfl

@[simp] theorem on_get (s : σ) : on (get : Work σ σ) s = (.ok s, s) := rfl

@[simp] theorem on_set (s t : σ) : on (set t : Work σ PUnit) s = (.ok ⟨⟩, t) := rfl

@[simp] theorem on_modify (f : σ → σ) (s : σ) :
    on (modify f : Work σ PUnit) s = (.ok ⟨⟩, f s) := rfl

@[simp] theorem on_liftM (r : StoreResult α) (s : σ) : on (liftM r : Work σ α) s = (r, s) := by
  cases r <;> rfl

/-- Work goes on from the state that was left, unless it failed. -/
theorem on_bind (w : Work σ α) (f : α → Work σ β) (s : σ) :
    on (w >>= f) s =
      match on w s with
      | (.ok a, t) => on (f a) t
      | (.error e, t) => (.error e, t) := by
  simp only [on, ExceptT.run_bind, StateT.run_bind]
  rcases StateT.run w.run s with ⟨e | a, t⟩ <;> rfl

theorem on_bind_of_ok {w : Work σ α} {s t : σ} {a : α} (h : on w s = (.ok a, t))
    (f : α → Work σ β) : on (w >>= f) s = on (f a) t := by
  rw [on_bind, h]

theorem on_bind_of_error {w : Work σ α} {s t : σ} {e : StoreError} (h : on w s = (.error e, t))
    (f : α → Work σ β) : on (w >>= f) s = (.error e, t) := by
  rw [on_bind, h]

/-- Work that succeeds did so in all its parts. -/
theorem on_bind_eq_ok {w : Work σ α} {f : α → Work σ β} {s u : σ} {b : β}
    (h : on (w >>= f) s = (.ok b, u)) : ∃ a t, on w s = (.ok a, t) ∧ on (f a) t = (.ok b, u) := by
  rw [on_bind] at h
  rcases hw : on w s with ⟨e | a, t⟩
  · rw [hw] at h
    cases h
  · rw [hw] at h
    exact ⟨a, t, rfl, h⟩

/-- Work on whose result nothing more is done leaves what it left. -/
theorem on_bind_pure (w : Work σ α) (f : α → β) (s : σ) :
    on (w >>= fun a => pure (f a)) s = ((on w s).1.map f, (on w s).2) := by
  rw [on_bind]
  rcases on w s with ⟨e | a, t⟩ <;> rfl

/-- Work on a part changes that part and no other. -/
theorem on_within (part : σ → τ) (put : τ → σ → σ) (w : Work τ α) (s : σ) :
    on (within part put w) s = ((w.on (part s)).1, put (w.on (part s)).2 s) := rfl

end Work

end PatchStore
