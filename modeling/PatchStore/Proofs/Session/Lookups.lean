import Mathlib.Data.List.Induction
import PatchStore.Proofs.Session.Requests

/-!
# Looking up many documents

Many documents are looked up with one request, which asks for every key once, by its exact text, while
the store finds documents by their normalized keys.  The answer is that of looking up one document
after the other: the keys that have not been asked for before, in their order, without those under
which there is no document.

* `firstOccurrences`, `eraseDups_eq_firstOccurrences` — the keys that have not been asked for before.
* `on_loadMetadata`, `on_loadMetadataMany`, `on_exists?` — the requests.
* `on_mapM_loadMetadata` — one document after the other.
* `loadMetadataMany_agrees` — the two ways give one answer.
-/

namespace PatchStore

/-! ## Keys that have not been asked for before -/

/-- The texts of a list without those that stand earlier in it. -/
def firstOccurrences (keys : List String) : List String :=
  (keys.zipIdx.filter fun e => !(keys.take e.2).contains e.1).map Prod.fst

/-- One more text is kept if it has not occurred before. -/
theorem firstOccurrences_append_singleton (keys : List String) (key : String) :
    firstOccurrences (keys ++ [key]) =
      firstOccurrences keys ++ if keys.contains key then [] else [key] := by
  have hsame : (keys.zipIdx.filter fun e => !((keys ++ [key]).take e.2).contains e.1) =
      keys.zipIdx.filter fun e => !(keys.take e.2).contains e.1 := by
    refine List.filter_congr fun e he => ?_
    have hlt : e.2 < keys.length := by simpa using (List.mem_zipIdx he).2.1
    rw [List.take_append_of_le_length (Nat.le_of_lt hlt)]
  rw [firstOccurrences, List.zipIdx_append, List.filter_append, List.map_append, hsame,
    firstOccurrences]
  cases hkey : keys.contains key <;> simp_all

/-- The texts without repetitions are those that do not stand earlier in the list. -/
theorem eraseDups_eq_firstOccurrences (keys : List String) :
    keys.eraseDups = firstOccurrences keys := by
  induction keys using List.reverseRecOn with
  | nil => rfl
  | append_singleton keys key ih =>
    rw [List.eraseDups_append, firstOccurrences_append_singleton, ih]
    cases hkey : keys.contains key <;> simp_all [List.removeAll, List.eraseDups_cons]

theorem mem_firstOccurrences {keys : List String} {key : String} :
    key ∈ firstOccurrences keys ↔ key ∈ keys := by
  rw [← eraseDups_eq_firstOccurrences, List.mem_eraseDups]

/-- A text that occurs before may be left out. -/
theorem firstOccurrences_append_cons {key : String} {before : List String} (h : key ∈ before)
    (after : List String) :
    firstOccurrences (before ++ key :: after) = firstOccurrences (before ++ after) := by
  rw [← eraseDups_eq_firstOccurrences, ← eraseDups_eq_firstOccurrences, List.eraseDups_append,
    List.eraseDups_append]
  simp [List.removeAll, h]

/-! ## Look-ups -/

namespace Session

open MemoryStore (session)

variable {conventions : Conventions}

/-- A look-up of a document answers what the store has under the key, and changes nothing. -/
theorem on_loadMetadata {key : String} (hkey : key ≠ "") (s : MemoryStore) :
    ((session conventions).loadMetadata key).on s =
      (.ok ((s.head key).map Metadata.ofDescriptor), s) := by
  rw [loadMetadata, requireKey_of_ne_empty hkey]
  rfl

/-- A look-up of many documents answers what the store has under each key, and changes nothing. -/
theorem on_loadMetadataMany (keys : List String) (s : MemoryStore) :
    ((session conventions).loadMetadataMany keys).on s =
      (.ok ((firstOccurrences keys).filterMap fun key => (s.head key).map Metadata.ofDescriptor),
        s) := by
  rw [← eraseDups_eq_firstOccurrences, ← List.map_filterMap, loadMetadataMany]
  cases hkeys : keys.eraseDups with
  | nil => rfl
  | cons key rest => rfl

theorem on_exists? {key : String} (hkey : key ≠ "") (s : MemoryStore) :
    ((session conventions).exists? key).on s = (.ok (s.head key).isSome, s) := by
  rw [exists?, Work.on_bind_of_ok (on_loadMetadata hkey s), Option.isSome_map]
  rfl

/-- Looking up one document after the other. -/
theorem on_mapM_loadMetadata {keys : List String} (hkeys : ∀ key ∈ keys, key ≠ "")
    (s : MemoryStore) :
    (keys.mapM (session conventions).loadMetadata).on s =
      (.ok (keys.map fun key => (s.head key).map Metadata.ofDescriptor), s) := by
  induction keys with
  | nil => rfl
  | cons key keys ih =>
    obtain ⟨hfirst, hrest⟩ := List.forall_mem_cons.mp hkeys
    rw [List.mapM_cons, Work.on_bind_of_ok (on_loadMetadata hfirst s),
      Work.on_bind_of_ok (ih hrest)]
    rfl

/-- **Looking up many documents is looking up one after the other.**  In every state of the store and
for all keys that are given, the request succeeds with what single look-ups find under the keys, each
where it stands first, without those under which there is nothing.  So a key that stands earlier in
the list may be left out, and there is a document under a key just when the request for that key alone
finds something. -/
theorem loadMetadataMany_agrees (conventions : Conventions) (s : MemoryStore) :
    (∀ keys : List String, (∀ key ∈ keys, key ≠ "") → ∃ found : List (Option Metadata),
      ((firstOccurrences keys).mapM (session conventions).loadMetadata).on s = (.ok found, s) ∧
      ((session conventions).loadMetadataMany keys).on s = (.ok (found.filterMap id), s)) ∧
    (∀ (before : List String) (key : String) (after : List String), key ∈ before →
      ((session conventions).loadMetadataMany (before ++ key :: after)).on s =
        ((session conventions).loadMetadataMany (before ++ after)).on s) ∧
    ∀ key : String, key ≠ "" → ∃ (isThere : Bool) (found : List Metadata),
      ((session conventions).exists? key).on s = (.ok isThere, s) ∧
      ((session conventions).loadMetadataMany [key]).on s = (.ok found, s) ∧
      (isThere = true ↔ found ≠ []) := by
  refine ⟨fun keys hkeys => ?_, fun before key after hkey => ?_, fun key hkey => ?_⟩
  · have hgiven : ∀ key ∈ firstOccurrences keys, key ≠ "" := fun key hkey =>
      hkeys key (mem_firstOccurrences.mp hkey)
    refine ⟨_, on_mapM_loadMetadata hgiven s, ?_⟩
    rw [on_loadMetadataMany, List.filterMap_map]
    rfl
  · rw [on_loadMetadataMany, on_loadMetadataMany, firstOccurrences_append_cons hkey]
  · refine ⟨_, _, on_exists? hkey s, on_loadMetadataMany [key] s, ?_⟩
    show _ ↔ [key].filterMap (fun key => (s.head key).map Metadata.ofDescriptor) ≠ []
    cases hhead : s.head key with
    | none => simp [hhead]
    | some d => simp [hhead]

/-- A store with one document. -/
def onePost : MemoryStore :=
  ((MemoryStore.mk ∅ default).batch [.put ⟨"A", none, .object [], []⟩]).2

/-- The key that is repeated is asked for once, its other spelling finds the document again, and the
key of no document finds nothing. -/
theorem lookups_in_onePost :
    (∀ key ∈ ["a", "A", "a", "b"], key ≠ "") ∧
    firstOccurrences ["a", "A", "a", "b"] = ["a", "A", "b"] ∧
    ∃ m : Metadata, m.key = some "A" ∧
      ((session { cache := 0 }).loadMetadataMany ["a", "A", "a", "b"]).on onePost =
        (.ok [m, m], onePost) := by
  have hkeys : ∀ key ∈ ["a", "A", "a", "b"], key ≠ "" := by decide
  have hfirst : firstOccurrences ["a", "A", "a", "b"] = ["a", "A", "b"] := by decide
  obtain ⟨found, hfound, hmany⟩ := (loadMetadataMany_agrees { cache := 0 } onePost).1 _ hkeys
  obtain ⟨d, hd⟩ : ∃ d, onePost.head "a" = some d := ⟨_, rfl⟩
  have hother : onePost.head "A" = some d := hd ▸ rfl
  have hmissing : onePost.head "b" = none := rfl
  have hkey : d.key = "A" := by
    cases hd
    rfl
  rw [hfirst, on_mapM_loadMetadata (by decide)] at hfound
  cases hfound
  refine ⟨hkeys, hfirst, Metadata.ofDescriptor d, congrArg some hkey, ?_⟩
  rw [hmany, List.map_cons, List.map_cons, List.map_cons, hd, hother, hmissing]
  rfl

end Session

end PatchStore
