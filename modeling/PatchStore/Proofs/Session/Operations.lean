import PatchStore.Proofs.Session.Requests
import PatchStore.Proofs.Store.Respelling

/-!
# Operations that fail

A session looks at what the store answers after the store has carried it out, so that a failure
could come too late to take anything back.  With the store in memory none does.  The store answers
every command, so the number of results is as expected; and the one answer that is turned into a
failure, that of a patch which found no document, comes from a store in which nothing has changed.

* `Operation`, `Session.carryOut` — the operations of a session.
* `Counted`, `AllOrNothing` — outcomes that are not failures over the number of results, and
  requests that also change no document if they fail.
* `allOrNothing_carryOut` — all operations are such requests.
* `on_patch_eq_documentNotFound_iff` — when a patch fails because there is no document.
-/

namespace PatchStore

/-- An operation of a session, with its arguments. -/
inductive Operation : Type → Type
  | execute (command : Command) : Operation BatchResult
  | executeMany (commands : List Command) : Operation (List BatchResult)
  | loadMetadata (key : String) : Operation (Option Metadata)
  | exists? (key : String) : Operation Bool
  | loadMetadataMany (keys : List String) : Operation (List Metadata)
  | delete (key : String) (etag : Option Etag) : Operation Bool
  | patch (command : PatchCommand) (ignoreMissing : Bool) : Operation BatchResult
  | scriptedPatch (command : ScriptCommand) (ignoreMissing : Bool) : Operation BatchResult
  | store (key : String) (kind : DocumentKind) (document : Datum) (etag : Option Etag) :
      Operation Metadata

/-- Carries out an operation. -/
def Session.carryOut {σ α : Type} (s : Session σ) : Operation α → Request σ α
  | .execute command => s.execute command
  | .executeMany commands => s.executeMany commands
  | .loadMetadata key => s.loadMetadata key
  | .exists? key => s.exists? key
  | .loadMetadataMany keys => s.loadMetadataMany keys
  | .delete key etag => s.delete key etag
  | .patch command ignoreMissing => s.patch command ignoreMissing
  | .scriptedPatch command ignoreMissing => s.scriptedPatch command ignoreMissing
  | .store key kind document etag => s.store key kind document etag

/-! ## Outcomes that are not over the number of results -/

/-- Whether a failure says that a batch was not answered with as many results as expected. -/
def StoreError.isMiscount : StoreError → Bool
  | .backend (.notOneResult _) => true
  | .backend (.resultCount _ _) => true
  | _ => false

/-- The outcome is a result, or a failure over anything but the number of results. -/
def Counted {α : Type} (r : StoreResult α) : Prop := ∀ e, r = .error e → e.isMiscount = false

theorem counted_ok {α : Type} (a : α) : Counted (.ok a : StoreResult α) := by
  intro e h
  cases h

theorem counted_error {α : Type} {e : StoreError} (h : e.isMiscount = false) :
    Counted (.error e : StoreResult α) := by
  intro f hf
  cases hf
  exact h

theorem Counted.bind {α β : Type} {r : StoreResult α} {f : α → StoreResult β} (h : Counted r)
    (hnext : ∀ a, Counted (f a)) : Counted (r >>= f) := by
  cases r with
  | error e => exact counted_error (h e rfl)
  | ok a => exact hnext a

namespace Datum

mutual

theorem counted_toJson : (d : Datum) → Counted d.toJson
  | .null => counted_ok _
  | .bool _ => counted_ok _
  | .integer n => by
    rw [toJson]
    split
    · exact counted_ok _
    · exact counted_error rfl
  | .float (some _) => counted_ok _
  | .float none => counted_ok _
  | .string _ => counted_ok _
  | .list items => (counted_itemsToJson items).bind fun _ => counted_ok _
  | .record fields => (counted_fieldsToJson fields).bind fun _ => counted_ok _
  | .map entries => (counted_entriesToJson entries).bind fun _ => counted_ok _

theorem counted_itemsToJson : (items : List Datum) → Counted (itemsToJson items)
  | [] => counted_ok _
  | x :: xs => (counted_toJson x).bind fun _ => (counted_itemsToJson xs).bind fun _ => counted_ok _

theorem counted_fieldsToJson : (fields : List (String × Datum)) → Counted (fieldsToJson fields)
  | [] => counted_ok _
  | (_, x) :: xs =>
    (counted_toJson x).bind fun _ => (counted_fieldsToJson xs).bind fun _ => counted_ok _

theorem counted_entriesToJson : (entries : List (Datum × Datum)) → Counted (entriesToJson entries)
  | [] => counted_ok _
  | (key, x) :: xs => by
    rw [entriesToJson]
    split
    · exact (counted_toJson x).bind fun _ => (counted_entriesToJson xs).bind fun _ => counted_ok _
    · exact counted_error rfl

end

end Datum

theorem Serializer.counted_toJson (s : Serializer) (d : Datum) : Counted (s.toJson d) :=
  d.counted_toJson.bind fun _ => counted_ok _

theorem Session.counted_requireKey (key : String) : Counted (requireKey key) := by
  rw [requireKey]
  split
  · exact counted_error rfl
  · exact counted_ok ()

namespace MemoryStore

/-- A batch fails with what one of its commands fails with. -/
theorem sameButKey_of_batch_error {s t : MemoryStore} {cs : List Command} {e : StoreError}
    (h : s.batch cs = (.error e, t)) : e.SameButKey e := by
  -- every batch is a respelling of itself
  have hcommands : List.Forall₂ Command.Respelled cs cs :=
    List.forall₂_same.mpr fun c _ => Command.Respelled.refl c
  have hself := (respelling.batch (SameButKeys.refl s) hcommands).1
  rw [h] at hself
  cases hself with | error hfailure => exact hfailure

/-- A batch that fails has changed no document, and has not failed over the number of results. -/
theorem unchanged_of_batch_error {s t : MemoryStore} {cs : List Command} {e : StoreError}
    (h : s.batch cs = (.error e, t)) : t.documents = s.documents ∧ e.isMiscount = false := by
  refine ⟨documents_of_batch_error h, ?_⟩
  cases sameButKey_of_batch_error h <;> rfl

/-- A patch whose answer is that there is no document has found none, and has changed nothing. -/
theorem Step.unchanged_of_missing {s t : MemoryStore} {c : Command} {r : BatchResult}
    (h : Step s c r t) (hmissing : r.patchOutcome = some .documentDoesNotExist) :
    t = s ∧ s.documents.find? c.key = none := by
  cases h with
  | put => cases hmissing
  | delete => cases hmissing
  | missing hfind => exact ⟨rfl, hfind⟩
  | idle => cases hmissing
  | patched => cases hmissing

end MemoryStore

/-! ## Requests that change everything or nothing -/

/-- If the request fails, it has changed no document, and it has not failed over the number of
results. -/
def AllOrNothing {α : Type} (w : Request MemoryStore α) : Prop :=
  ∀ s e t, w.on s = (.error e, t) → t.documents = s.documents ∧ e.isMiscount = false

namespace AllOrNothing

variable {α β : Type}

theorem pure (a : α) : AllOrNothing (pure a) := by
  intro s e t h
  cases h

theorem get {f : MemoryStore → α} : AllOrNothing (get >>= fun s => Pure.pure (f s)) := by
  intro s e t h
  cases h

theorem throw {e : StoreError} (h : e.isMiscount = false) : AllOrNothing (throw e : Work _ α) := by
  intro s f t hrun
  cases hrun
  exact ⟨rfl, h⟩

/-- What is checked before anything is sent. -/
theorem check {r : StoreResult α} {f : α → Request MemoryStore β} (h : Counted r)
    (hnext : ∀ a, AllOrNothing (f a)) : AllOrNothing (liftM r >>= f) := by
  intro s e t hrun
  rw [Work.on_bind, Work.on_liftM] at hrun
  cases r with
  | error e' =>
    cases hrun
    exact ⟨rfl, h _ rfl⟩
  | ok a => exact hnext a s e t hrun

/-- What is made of a result. -/
theorem map {w : Request MemoryStore α} (h : AllOrNothing w) (f : α → β) :
    AllOrNothing (w >>= fun a => Pure.pure (f a)) := by
  intro s e t hrun
  rw [Work.on_bind] at hrun
  rcases hw : w.on s with ⟨e' | a, u⟩
  · rw [hw] at hrun
    cases hrun
    exact h s _ _ hw
  · rw [hw] at hrun
    cases hrun

end AllOrNothing

namespace Session

open MemoryStore (session)

variable (conventions : Conventions)

theorem allOrNothing_execute (c : Command) : AllOrNothing ((session conventions).execute c) := by
  intro s e t h
  rcases on_execute_cases conventions c s with ⟨r, u, _, hrun⟩ | ⟨e', u, hbatch, hrun⟩
  · cases hrun.symm.trans h
  · cases hrun.symm.trans h
    exact MemoryStore.unchanged_of_batch_error hbatch

theorem allOrNothing_executeMany (cs : List Command) :
    AllOrNothing ((session conventions).executeMany cs) := by
  intro s e t h
  exact MemoryStore.unchanged_of_batch_error ((on_executeMany cs s).symm.trans h)

/-- The outcome of a patch is checked when the patch has been carried out, but only a patch that
found no document fails by it. -/
theorem allOrNothing_checkOutcome (c : Command) (key : String) (ignoreMissing : Bool) :
    AllOrNothing
      ((session conventions).execute c >>= fun r => liftM (checkOutcome key r ignoreMissing)) := by
  intro s e t h
  rcases on_execute_cases conventions c s with ⟨r, u, hstep, hrun⟩ | ⟨e', u, hbatch, hrun⟩
  · rw [Work.on_bind_of_ok hrun, Work.on_liftM, checkOutcome] at h
    split at h
    · next hmissing =>
      cases h
      rw [(hstep.unchanged_of_missing hmissing.1).1]
      exact ⟨rfl, rfl⟩
    · cases h
  · rw [Work.on_bind_of_error hrun] at h
    cases h
    exact MemoryStore.unchanged_of_batch_error hbatch

theorem allOrNothing_loadMetadata (key : String) :
    AllOrNothing ((session conventions).loadMetadata key) :=
  .check (counted_requireKey key) fun _ => .get

/-- Whatever operation fails, it has changed no document, and it has not failed over the number of
results. -/
theorem allOrNothing_carryOut {α : Type} (op : Operation α) :
    AllOrNothing ((session conventions).carryOut op) := by
  cases op with
  | execute c => exact allOrNothing_execute conventions c
  | executeMany cs => exact allOrNothing_executeMany conventions cs
  | loadMetadata key => exact allOrNothing_loadMetadata conventions key
  | exists? key => exact (allOrNothing_loadMetadata conventions key).map _
  | loadMetadataMany keys =>
    show AllOrNothing ((session conventions).loadMetadataMany keys)
    rw [loadMetadataMany]
    split
    · exact .pure []
    · exact .get
  | delete key etag =>
    exact .check (counted_requireKey key) fun _ => (allOrNothing_execute conventions _).map _
  | patch c ignoreMissing => exact allOrNothing_checkOutcome conventions _ _ _
  | scriptedPatch c ignoreMissing => exact allOrNothing_checkOutcome conventions _ _ _
  | store key kind document etag =>
    refine .check (counted_requireKey key) fun _ =>
      .check (conventions.serializer.counted_toJson document) fun v => ?_
    split
    · exact .throw rfl
    · exact (allOrNothing_execute conventions _).map _

/-! ## Patches of missing documents -/

/-- A patch of a document that is there does not fail for want of it. -/
theorem on_patch_ne_documentNotFound {c : PatchCommand} {s : MemoryStore} {d : StoredDocument}
    (hfound : s.documents.find? c.key = some d) (ignoreMissing : Bool) (key : String) :
    (((session conventions).patch c ignoreMissing).on s).1 ≠ .error (.documentNotFound key) := by
  intro h
  rw [patch] at h
  rcases on_execute_cases conventions (.patch c) s with ⟨r, t, hstep, hrun⟩ | ⟨e, t, hbatch, hrun⟩
  · rw [Work.on_bind_of_ok hrun, Work.on_liftM, checkOutcome] at h
    split at h
    · next hmissing => cases hfound.symm.trans (hstep.unchanged_of_missing hmissing.1).2
    · cases h
  · rw [Work.on_bind_of_error hrun] at h
    cases h
    cases MemoryStore.sameButKey_of_batch_error hbatch

/-- A patch fails because there is no document exactly if there is none and that is not ignored; the
version that the patch is bound to plays no part in it. -/
theorem on_patch_eq_documentNotFound_iff (s : MemoryStore) (c : PatchCommand) (ignoreMissing : Bool)
    (key : String) :
    (((session conventions).patch c ignoreMissing).on s).1 = .error (.documentNotFound key) ↔
      key = c.key ∧ s.documents.find? c.key = none ∧ ignoreMissing = false := by
  cases hfind : s.documents.find? c.key with
  | some d =>
    refine iff_of_false (on_patch_ne_documentNotFound conventions hfind ignoreMissing key) ?_
    rintro ⟨_, hnone, _⟩
    cases hnone
  | none =>
    have hstep : MemoryStore.Step s (.patch c) (.patchOfMissing c.key) s := .missing hfind
    rw [patch, Work.on_bind_of_ok (on_execute hstep), Work.on_liftM]
    cases ignoreMissing with
    | true =>
      constructor
      · intro h
        cases h
      · rintro ⟨_, _, hignored⟩
        cases hignored
    | false =>
      constructor
      · intro h
        cases h
        exact ⟨rfl, rfl, rfl⟩
      · rintro ⟨rfl, _, _⟩
        rfl

/-- **An operation that fails leaves no trace.**  Whatever is in the store and whatever operation of
a session fails, the documents are then as they were before it, and the failure is never over the
number of results.  A patch fails because there is no document exactly if none is filed under its
key and that is not to be ignored, whatever version it is bound to. -/
theorem failed_operations_leave_no_trace (s : MemoryStore) :
    (∀ {α : Type} (op : Operation α) (e : StoreError) (t : MemoryStore),
      ((session conventions).carryOut op).on s = (.error e, t) →
        t.documents = s.documents ∧ e.isMiscount = false) ∧
    ∀ (c : PatchCommand) (ignoreMissing : Bool) (key : String),
      (((session conventions).patch c ignoreMissing).on s).1 = .error (.documentNotFound key) ↔
        key = c.key ∧ s.documents.find? c.key = none ∧ ignoreMissing = false :=
  ⟨fun op e t h => allOrNothing_carryOut conventions op s e t h,
    on_patch_eq_documentNotFound_iff conventions s⟩

/-- A batch that stores a document and then fails. -/
def storedThenScripted : List Command :=
  [.put ⟨"posts/1", none, .object [], []⟩, .script ⟨"posts/1", none, "", []⟩]

/-- The batch leaves no document, and a patch that is bound to a version finds none. -/
theorem no_trace_of_storedThenScripted :
    (∃ e t, ((session { cache := 0 }).carryOut (.executeMany storedThenScripted)).on ⟨∅, default⟩ =
        (.error e, t) ∧ t.documents = ∅ ∧ e.isMiscount = false) ∧
      (((session { cache := 0 }).patch ⟨"posts/1", some ⟨"7"⟩, []⟩ false).on ⟨∅, default⟩).1 =
        .error (.documentNotFound "posts/1") := by
  obtain ⟨hfailed, hpatch⟩ := failed_operations_leave_no_trace { cache := 0 } ⟨∅, default⟩
  refine ⟨?_, (hpatch _ _ _).mpr ⟨rfl, rfl, rfl⟩⟩
  obtain ⟨e, t, hrun⟩ : ∃ e t, ((session { cache := 0 }).carryOut
      (.executeMany storedThenScripted)).on ⟨∅, default⟩ = (.error e, t) := ⟨_, _, rfl⟩
  exact ⟨e, t, hrun, hfailed _ e t hrun⟩

end Session

end PatchStore
