import Mathlib.Data.List.Forall2
import Mathlib.Data.Set.Basic
import PatchStore.Proofs.Store.Rollback

/-!
# Two stores run side by side

What a batch reads and what it ignores is said by running it twice, on stores that agree in what it
reads, and comparing what comes of it.  The argument that goes from commands to batches and from
batches to runs is the same whatever is compared, so it is made once.

* `Alike` — both outcomes are results that go together, or both are failures that do.
* `Simulation` — which stores, commands, results and failures go together; two stores that go
  together still do after commands that go together, and after their documents are put back.
* `Simulation.batch`, `Simulation.outcomes` — what batches, and runs of batches, then come to goes
  together as well.
* `AgreeOn` — stores that agree under some keys, in whatever is compared of documents.
-/

namespace PatchStore

/-- Both outcomes are results that go together, or both are failures that do. -/
inductive Alike {α β : Type} (results : α → β → Prop) (failures : StoreError → StoreError → Prop) :
    StoreResult α → StoreResult β → Prop
  | ok {a : α} {b : β} : results a b → Alike results failures (.ok a) (.ok b)
  | error {e f : StoreError} : failures e f → Alike results failures (.error e) (.error f)

/-- Of two outcomes that go together, both are results or both are failures. -/
theorem Alike.cases {α β : Type} {results : α → β → Prop}
    {failures : StoreError → StoreError → Prop} {a : StoreResult α} {b : StoreResult β}
    (h : Alike results failures a b) :
    (∃ x y, a = .ok x ∧ b = .ok y ∧ results x y) ∨
      ∃ e f, a = .error e ∧ b = .error f ∧ failures e f := by
  cases h with
  | ok hresults => exact Or.inl ⟨_, _, rfl, rfl, hresults⟩
  | error hfailures => exact Or.inr ⟨_, _, rfl, rfl, hfailures⟩

theorem alike_eq_iff {α : Type} {a b : StoreResult α} : Alike Eq Eq a b ↔ a = b := by
  constructor
  · rintro (⟨rfl⟩ | ⟨rfl⟩) <;> rfl
  · rintro rfl
    cases a with
    | ok => exact .ok rfl
    | error => exact .error rfl

/-- What two stores, their commands and the outcomes have in common.  It survives a command on
either side, and it survives that the documents are put back on both sides. -/
structure Simulation where
  stores : MemoryStore → MemoryStore → Prop
  commands : Command → Command → Prop
  results : BatchResult → BatchResult → Prop
  failures : StoreError → StoreError → Prop
  perform {s t : MemoryStore} {c d : Command} : stores s t → commands c d →
    Alike results failures ((MemoryStore.perform c).on s).1 ((MemoryStore.perform d).on t).1 ∧
      stores ((MemoryStore.perform c).on s).2 ((MemoryStore.perform d).on t).2
  restore {s t s' t' : MemoryStore} : stores s t → stores s' t' →
    stores { s' with documents := s.documents } { t' with documents := t.documents }

namespace MemoryStore

/-- What each of some batches answers, and the store that it leaves. -/
def outcomes (s : MemoryStore) :
    List (List Command) → List (StoreResult (List BatchResult) × MemoryStore)
  | [] => []
  | cs :: batches => s.batch cs :: (s.batch cs).2.outcomes batches

end MemoryStore

namespace Simulation

variable (S : Simulation)

/-- The answers of two batches, and the stores that they leave, go together. -/
def Outcomes (o p : StoreResult (List BatchResult) × MemoryStore) : Prop :=
  Alike (List.Forall₂ S.results) S.failures o.1 p.1 ∧ S.stores o.2 p.2

variable {S}

/-- Batches of commands that go together, on stores that go together, come to what goes together,
whether they succeed or fail. -/
theorem batch {s t : MemoryStore} {cs ds : List Command} (h : S.stores s t)
    (hcs : List.Forall₂ S.commands cs ds) : S.Outcomes (s.batch cs) (t.batch ds) := by
  induction hcs generalizing s t with
  | nil => exact ⟨.ok .nil, h⟩
  | @cons c d cs ds hcommand _ ih =>
    obtain ⟨halike, hafter⟩ := S.perform h hcommand
    rcases hc : (MemoryStore.perform c).on s with ⟨a, s'⟩
    rcases hd : (MemoryStore.perform d).on t with ⟨b, t'⟩
    rw [hc, hd] at halike hafter
    rcases halike.cases with ⟨r, q, rfl, rfl, hresult⟩ | ⟨e, f, rfl, rfl, hfailure⟩
    · rw [MemoryStore.batch_cons_of_ok hc, MemoryStore.batch_cons_of_ok hd]
      obtain ⟨hrest, hlast⟩ := ih hafter
      rcases hs : s'.batch cs with ⟨a, u⟩
      rcases ht : t'.batch ds with ⟨b, v⟩
      rw [hs, ht] at hrest hlast
      -- if the rest fails, both sides put back the documents from before the first command
      rcases hrest.cases with ⟨rs, qs, rfl, rfl, hresults⟩ | ⟨e, f, rfl, rfl, hfailure⟩
      · exact ⟨.ok (.cons hresult hresults), hlast⟩
      · exact ⟨.error hfailure, S.restore h hlast⟩
    · rw [MemoryStore.batch_cons_of_error hc, MemoryStore.batch_cons_of_error hd]
      exact ⟨.error hfailure, S.restore h hafter⟩

/-- Runs of batches of commands that go together come, batch by batch, to what goes together. -/
theorem outcomes {s t : MemoryStore} {batches others : List (List Command)} (h : S.stores s t)
    (hbatches : List.Forall₂ (List.Forall₂ S.commands) batches others) :
    List.Forall₂ S.Outcomes (s.outcomes batches) (t.outcomes others) := by
  induction hbatches generalizing s t with
  | nil => exact .nil
  | cons hcs _ ih => exact .cons (S.batch h hcs) (ih (S.batch h hcs).2)

end Simulation

/-! ## Stores that agree under some keys -/

namespace MemoryStore

/-- Two stores draw the same stamps, and what is filed under some normalized keys is the same in
what is compared of documents. -/
structure AgreeOn (keys : Set String) (same : StoredDocument → StoredDocument → Prop)
    (s t : MemoryStore) : Prop where
  documents : ∀ key ∈ keys, Option.Rel same (s.documents.get? key) (t.documents.get? key)
  supply : s.supply = t.supply

namespace AgreeOn

variable {keys : Set String} {same : StoredDocument → StoredDocument → Prop} {s t : MemoryStore}

/-- Keys that normalize alike lead to documents that are the same in what is compared, or to none.
-/
theorem find?_cases (h : AgreeOn keys same s t) {key other : String}
    (hmem : normalizeKey key ∈ keys) (hkey : normalizeKey key = normalizeKey other) :
    (s.documents.find? key = none ∧ t.documents.find? other = none) ∨
      ∃ d e, s.documents.find? key = some d ∧ t.documents.find? other = some e ∧ same d e := by
  have hrel := h.documents (normalizeKey key) hmem
  rw [Documents.find?, Documents.find?, ← hkey]
  rcases hs : s.documents.get? (normalizeKey key) with _ | d <;>
    rcases ht : t.documents.get? (normalizeKey key) with _ | e <;> rw [hs, ht] at hrel
  · exact Or.inl ⟨rfl, rfl⟩
  · cases hrel
  · cases hrel
  · cases hrel with | some hsame => exact Or.inr ⟨d, e, rfl, rfl, hsame⟩

theorem advance (h : AgreeOn keys same s t) : AgreeOn keys same s.advance t.advance where
  documents := h.documents
  supply := congrArg Supply.advance h.supply

/-- Filing documents that are the same in what is compared, under one normalized key. -/
theorem file (h : AgreeOn keys same s t) {key other : String}
    (hkey : normalizeKey key = normalizeKey other) {d e : StoredDocument} (hsame : same d e) :
    AgreeOn keys same (s.file key d) (t.file other e) where
  documents k hk := by
    show Option.Rel same ((s.documents.insert (normalizeKey key) d).get? k)
      ((t.documents.insert (normalizeKey other) e).get? k)
    rw [Table.get?_insert, Table.get?_insert, hkey]
    split
    · exact .some hsame
    · exact h.documents k hk
  supply := h.supply

/-- Dropping what is filed under one normalized key. -/
theorem erase (h : AgreeOn keys same s t) (key : String) :
    AgreeOn keys same { s with documents := s.documents.erase key }
      { t with documents := t.documents.erase key } where
  documents k hk := by
    show Option.Rel same ((s.documents.erase key).get? k) ((t.documents.erase key).get? k)
    rw [Table.get?_erase, Table.get?_erase]
    split
    · exact .none
    · exact h.documents k hk
  supply := h.supply

/-- Putting back the documents of stores that agree. -/
theorem restore (h : AgreeOn keys same s t) {s' t' : MemoryStore} (h' : AgreeOn keys same s' t') :
    AgreeOn keys same { s' with documents := s.documents }
      { t' with documents := t.documents } where
  documents := h.documents
  supply := h'.supply

end AgreeOn

end MemoryStore

end PatchStore
