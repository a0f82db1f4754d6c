import PatchStore.Store.Basic

/-!
# Batches

A batch carries out its commands one after the other on the store itself, and notes in an undo log
what every document was before the batch first touched it.  If a command fails, the log brings the
documents back; stamps that were drawn stay drawn.

* `get?_record`, `get?_rollback` — what noting and bringing back do to a log and to documents.
* `on_performAll_cons_of_ok`, `on_performAll_cons_of_error` — how a batch goes from command to
  command.
-/

namespace PatchStore

/-- The documents as they were before a batch touched them, under their normalized keys; `none` for
a document that was not there. -/
abbrev UndoLog := Table (Option StoredDocument)

namespace UndoLog

/-- Notes what is filed under a normalized key, unless that has been noted before. -/
def record (log : UndoLog) (docs : Documents) (key : String) : UndoLog :=
  if log.contains key then log else log.insert key (docs.get? key)

/-- Brings back what was noted. -/
def rollback (log : UndoLog) (docs : Documents) : Documents :=
  log.entries.foldl (fun docs e => docs.update e.1 e.2) docs

/-- Noting a key leaves what has been noted. -/
theorem get?_record (log : UndoLog) (docs : Documents) (key other : String) :
    (log.record docs key).get? other =
      if key = other then some ((log.get? key).getD (docs.get? key)) else log.get? other := by
  rw [record, Table.contains]
  cases h : log.get? key with
  | none => simp [Table.get?_insert]
  | some noted =>
    by_cases ho : key = other
    · subst ho
      simp [h]
    · simp [ho]

/-- After bringing back, what was noted is as it was noted, and the rest is as it is. -/
theorem get?_rollback (log : UndoLog) (docs : Documents) (key : String) :
    (log.rollback docs).get? key = (log.get? key).getD (docs.get? key) := by
  rcases log with ⟨entries, sorted⟩
  show (entries.foldl (fun docs e => docs.update e.1 e.2) docs).get? key =
    (Keyed.get? entries key).getD (docs.get? key)
  induction entries generalizing docs with
  | nil => rfl
  | cons e rest ih =>
    rcases e with ⟨k, noted⟩
    obtain ⟨hfirst, hrest⟩ := Keyed.sorted_cons.mp sorted
    rw [List.foldl_cons, ih _ hrest, Table.get?_update, Keyed.get?_cons]
    by_cases hk : k = key
    · -- no later entry has this key, so what was brought back first stays
      subst hk
      rw [Keyed.get?_eq_none_of_lt hfirst, if_pos rfl, if_pos rfl]
      rfl
    · rw [if_neg hk, if_neg hk]

end UndoLog

/-- A store that a batch is at work on, with the batch's undo log. -/
structure Transaction where
  store : MemoryStore
  undo : UndoLog := ∅

namespace Transaction

/-- The transaction with what a command is going to touch noted. -/
def record (t : Transaction) (c : Command) : Transaction :=
  { t with undo := t.undo.record t.store.documents (normalizeKey c.key) }

/-- Carries out one command, after noting what it is going to touch. -/
def perform (c : Command) : Work Transaction BatchResult := do
  modify fun t => t.record c
  Work.within store (fun s t => { t with store := s }) (MemoryStore.perform c)

/-- Carries out commands one after the other. -/
def performAll : List Command → Work Transaction (List BatchResult)
  | [] => return []
  | c :: cs => do
    let result ← perform c
    let results ← performAll cs
    return result :: results

/-- The store with the documents brought back. -/
def rollback (t : Transaction) : MemoryStore :=
  { t.store with documents := t.undo.rollback t.store.documents }

theorem on_perform (c : Command) (t : Transaction) :
    (perform c).on t =
      (((MemoryStore.perform c).on t.store).1,
        ⟨((MemoryStore.perform c).on t.store).2, (t.record c).undo⟩) := rfl

@[simp] theorem performAll_nil : performAll [] = pure [] := rfl

/-- A batch goes on from what its first command leaves. -/
theorem on_performAll_cons_of_ok {c : Command} {t : Transaction} {r : BatchResult} {s : MemoryStore}
    (h : (MemoryStore.perform c).on t.store = (.ok r, s)) (cs : List Command) :
    (performAll (c :: cs)).on t =
      (((performAll cs).on ⟨s, (t.record c).undo⟩).1.map (r :: ·),
        ((performAll cs).on ⟨s, (t.record c).undo⟩).2) := by
  rw [performAll, Work.on_bind, on_perform, h]
  exact Work.on_bind_pure _ _ _

/-- A batch stops at a command that fails. -/
theorem on_performAll_cons_of_error {c : Command} {t : Transaction} {e : StoreError}
    {s : MemoryStore} (h : (MemoryStore.perform c).on t.store = (.error e, s))
    (cs : List Command) :
    (performAll (c :: cs)).on t = (.error e, ⟨s, (t.record c).undo⟩) := by
  rw [performAll, Work.on_bind, on_perform, h]

end Transaction

namespace MemoryStore

/-- Carries out a batch of commands: all of them, or none if one fails. -/
def batch (s : MemoryStore) (cs : List Command) : StoreResult (List BatchResult) × MemoryStore :=
  match (Transaction.performAll cs).on { store := s } with
  | (.ok results, t) => (.ok results, t.store)
  | (.error e, t) => (.error e, t.rollback)

/-- The body of a document. -/
def document? (s : MemoryStore) (key : String) : Option Json :=
  (s.documents.find? key).map fun d => .object d.body

theorem document?_of_find? {s : MemoryStore} {key : String} {d : StoredDocument}
    (h : s.documents.find? key = some d) : s.document? key = some (.object d.body) := by
  rw [document?, h]
  rfl

/-- The metadata of a document. -/
def head (s : MemoryStore) (key : String) : Option Descriptor :=
  (s.documents.find? key).map StoredDocument.descriptor

/-- The metadata of those of the documents that there are. -/
def getMetadata (s : MemoryStore) (keys : List String) : List Descriptor := keys.filterMap s.head

/-- The number of documents. -/
def size (s : MemoryStore) : Nat := s.documents.size

end MemoryStore

end PatchStore
