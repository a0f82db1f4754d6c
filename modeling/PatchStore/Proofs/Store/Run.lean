import PatchStore.Proofs.Store.Rollback

/-!
# Runs of a store

Batches reach a store one after the other, whoever sends them.  A run is a list of batches; between
two of them anyone can look at the store.

* `attempts`, `allAttempts`, `committed` — the commands that a batch, or the batches of a run, come
  to, each with the document that it finds and with what comes of it.
* `Run` — steps one after the other, with lapses between them in which only stamps are drawn.
* `batch_keeps`, `afterBatches_keeps` — an invariant of steps is one of batches and of runs.
* `run_committed` — what a run of batches leaves, failed ones included, is a run of the commands
  that are committed.
-/

namespace PatchStore

/-- A command as a batch comes to it, with the document that is filed under its key and with what
comes of it. -/
structure Attempt where
  command : Command
  found : Option StoredDocument
  outcome : StoreResult BatchResult

/-- The one supply is the other after some stamps have been drawn. -/
structure Supply.Later (u v : Supply) : Prop where
  stamp : v.stamp = u.stamp
  drawn : u.drawn ≤ v.drawn

theorem Supply.Later.refl (u : Supply) : u.Later u := ⟨rfl, Nat.le_refl _⟩

theorem Supply.Later.trans {u v w : Supply} (huv : u.Later v) (hvw : v.Later w) : u.Later w :=
  ⟨hvw.stamp.trans huv.stamp, Nat.le_trans huv.drawn hvw.drawn⟩

theorem Supply.later_advance (u : Supply) : u.Later u.advance := ⟨rfl, Nat.le_succ _⟩

namespace MemoryStore

/-- The commands that a batch comes to: all of them, or those up to the first that fails. -/
def attempts (s : MemoryStore) : List Command → List Attempt
  | [] => []
  | c :: cs =>
    ⟨c, s.documents.find? c.key, ((perform c).on s).1⟩ ::
      match (perform c).on s with
      | (.ok _, t) => t.attempts cs
      | (.error _, _) => []

/-- The store after batches. -/
def afterBatches (s : MemoryStore) : List (List Command) → MemoryStore
  | [] => s
  | cs :: batches => (s.batch cs).2.afterBatches batches

/-- The commands that batches come to, also batches that fail. -/
def allAttempts (s : MemoryStore) : List (List Command) → List Attempt
  | [] => []
  | cs :: batches => s.attempts cs ++ (s.batch cs).2.allAttempts batches

/-- The commands of the batches that succeed. -/
def committed (s : MemoryStore) : List (List Command) → List Attempt
  | [] => []
  | cs :: batches =>
    match s.batch cs with
    | (.ok _, t) => s.attempts cs ++ t.committed batches
    | (.error _, t) => t.committed batches

theorem attempts_cons_of_ok {c : Command} {s t : MemoryStore} {r : BatchResult}
    (h : (perform c).on s = (.ok r, t)) (cs : List Command) :
    s.attempts (c :: cs) = ⟨c, s.documents.find? c.key, .ok r⟩ :: t.attempts cs := by
  rw [attempts, h]

theorem attempts_cons_of_error {c : Command} {s t : MemoryStore} {e : StoreError}
    (h : (perform c).on s = (.error e, t)) (cs : List Command) :
    s.attempts (c :: cs) = [⟨c, s.documents.find? c.key, .error e⟩] := by
  rw [attempts, h]

/-! ## What steps and failures draw -/

/-- A step draws at most one stamp. -/
theorem Step.later {s t : MemoryStore} {c : Command} {r : BatchResult} (h : Step s c r t) :
    s.supply.Later t.supply := by
  cases h with
  | put => exact s.supply.later_advance
  | delete => exact .refl _
  | missing => exact .refl _
  | idle => exact .refl _
  | patched => exact s.supply.later_advance

/-- A command that fails has drawn nothing. -/
theorem supply_of_on_perform_error {s t : MemoryStore} {c : Command} {e : StoreError}
    (h : (perform c).on s = (.error e, t)) : t.supply = s.supply := by
  cases c with
  | put c =>
    have hput : (put c).on s = (.error e, t) := h
    rw [on_put] at hput
    split at hput <;> cases hput <;> rfl
  | delete c =>
    have hdelete : (delete c).on s = (.error e, t) := h
    rw [on_delete] at hdelete
    split at hdelete <;> cases hdelete
    rfl
  | patch c =>
    have hpatch : (patch c).on s = (.error e, t) := h
    cases hfind : s.documents.find? c.key with
    | none =>
      rw [on_patch_of_missing hfind] at hpatch
      cases hpatch
    | some d =>
      rw [on_patch_of_found hfind] at hpatch
      split at hpatch <;> cases hpatch <;> rfl
  | script c =>
    cases h
    rfl

/-! ## Runs -/

/-- Steps one after the other, with what they attempt, and lapses in which only stamps are drawn. -/
inductive Run : MemoryStore → List Attempt → MemoryStore → Prop
  | refl (s : MemoryStore) : Run s [] s
  | step {s t u : MemoryStore} {c : Command} {r : BatchResult} {as : List Attempt} :
      Step s c r t → Run t as u → Run s (⟨c, s.documents.find? c.key, .ok r⟩ :: as) u
  | lapse {s t : MemoryStore} {supply : Supply} {as : List Attempt} :
      s.supply.Later supply → Run { s with supply := supply } as t → Run s as t

theorem Run.trans {s t u : MemoryStore} {as bs : List Attempt} (h : Run s as t) (h' : Run t bs u) :
    Run s (as ++ bs) u := by
  induction h with
  | refl s => exact h'
  | step hstep _ ih => exact .step hstep (ih h')
  | lapse hlater _ ih => exact .lapse hlater (ih h')

/-- A batch that succeeds is a run of its commands. -/
theorem run_attempts {cs : List Command} {s t : MemoryStore} {results : List BatchResult}
    (h : s.batch cs = (.ok results, t)) : Run s (s.attempts cs) t := by
  induction cs generalizing s results with
  | nil =>
    cases h
    exact .refl s
  | cons c cs ih =>
    obtain ⟨r, u, _, hstep, hrest, -⟩ := batch_cons_eq_ok_iff.mp h
    rw [attempts_cons_of_ok (on_perform_eq_ok_iff.mpr hstep)]
    exact .step hstep (ih hrest)

/-- Stamps are drawn in order, whatever comes of a batch. -/
theorem later_batch (s : MemoryStore) (cs : List Command) :
    s.supply.Later (s.batch cs).2.supply := by
  induction cs generalizing s with
  | nil => exact .refl _
  | cons c cs ih =>
    rcases hc : (perform c).on s with ⟨e | r, t⟩
    · rw [batch_cons_of_error hc]
      show s.supply.Later t.supply
      rw [supply_of_on_perform_error hc]
      exact .refl _
    · have hlater := (on_perform_eq_ok_iff.mp hc).later.trans (ih t)
      rw [batch_cons_of_ok hc]
      rcases hrest : t.batch cs with ⟨e | more, u⟩ <;> rw [hrest] at hlater <;> exact hlater

/-- A batch that fails leaves the documents as they were. -/
theorem documents_of_batch_error {cs : List Command} {s t : MemoryStore} {e : StoreError}
    (h : s.batch cs = (.error e, t)) : t.documents = s.documents := by
  rw [batch_eq s cs ∅] at h
  split at h <;> cases h
  rfl

/-- What every step of the commands of a batch keeps, and what stamps being drawn keeps, the batch
keeps, whether it succeeds or fails. -/
theorem batch_keeps {P : MemoryStore → Prop} {cs : List Command} {s : MemoryStore} (h : P s)
    (hlapse : ∀ {s : MemoryStore} {supply : Supply}, s.supply.Later supply → P s →
      P { s with supply := supply })
    (hstep : ∀ {s t : MemoryStore} {c : Command} {r : BatchResult}, c ∈ cs → Step s c r t → P s →
      P t) : P (s.batch cs).2 := by
  rcases hbatch : s.batch cs with ⟨e | results, t⟩
  · have hlater := s.later_batch cs
    rw [hbatch] at hlater
    have hsame : { s with supply := t.supply } = t := by
      rw [← documents_of_batch_error hbatch]
    rw [← hsame]
    exact hlapse hlater h
  · show P t
    induction cs generalizing s results with
    | nil =>
      cases hbatch
      exact h
    | cons c cs ih =>
      obtain ⟨r, u, rs, hfirst, hrest, _⟩ := batch_cons_eq_ok_iff.mp hbatch
      exact ih (hstep List.mem_cons_self hfirst h) (fun hmem => hstep (List.mem_cons_of_mem c hmem))
        rs hrest

/-- What every step keeps, and what stamps being drawn keeps, batches keep. -/
theorem afterBatches_keeps {P : MemoryStore → Prop} {s : MemoryStore} (h : P s)
    (hlapse : ∀ {s : MemoryStore} {supply : Supply}, s.supply.Later supply → P s →
      P { s with supply := supply })
    (hstep : ∀ {s t : MemoryStore} {c : Command} {r : BatchResult}, Step s c r t → P s → P t)
    (batches : List (List Command)) : P (s.afterBatches batches) := by
  induction batches generalizing s with
  | nil => exact h
  | cons cs batches ih => exact ih (batch_keeps h hlapse fun _ => hstep)

/-- Batches, failed ones included, leave what a run of the committed commands leaves. -/
theorem run_committed (s : MemoryStore) (batches : List (List Command)) :
    Run s (s.committed batches) (s.afterBatches batches) := by
  induction batches generalizing s with
  | nil => exact .refl s
  | cons cs batches ih =>
    rw [committed, afterBatches]
    rcases h : s.batch cs with ⟨e | results, t⟩
    · have hlater := s.later_batch cs
      rw [h] at hlater
      refine .lapse hlater ?_
      have hsame : { s with supply := t.supply } = t := by
        rw [← documents_of_batch_error h]
      rw [hsame]
      exact ih t
    · exact (run_attempts h).trans (ih t)

end MemoryStore

end PatchStore
