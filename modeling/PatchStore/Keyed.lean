/-!
# Lists with keys

A `Keyed` list holds values under texts, each at most once, in increasing order of the texts.
`insert` and `erase` keep that order.  `get?` is the view of such a list, and every operation is
described by its effect on it:

* `get?_insert` — inserting sets one key and leaves the others alone.
* `get?_erase` — erasing clears one key and leaves the others alone.
* `Sorted.insert`, `Sorted.erase` — both keep the order of keys.
* `Sorted.ext` — a list in order is nothing but its view.
* `get?_ofList_eq_some_iff` — of entries with different keys each is found.
* `ofList_eq_of_perm`, `Sorted.ofList_eq` — the order in which entries are given does not matter.
-/

namespace PatchStore

/-- Values under texts, in increasing order of the texts. -/
abbrev Keyed (α : Type) := List (String × α)

namespace Keyed

variable {α : Type}

/-- The value under the given key. -/
def get? : Keyed α → String → Option α
  | [], _ => none
  | (k, v) :: rest, key => if k = key then some v else get? rest key

/-- Whether there is a value under the given key. -/
def contains (m : Keyed α) (key : String) : Bool := (get? m key).isSome

/-- Sets the value under the given key: in place if there is one, else where the order of keys puts
it. -/
def insert (m : Keyed α) (key : String) (value : α) : Keyed α :=
  match m with
  | [] => [(key, value)]
  | (k, v) :: rest =>
    if k = key then (key, value) :: rest
    else if key < k ∧ !contains rest key then (key, value) :: (k, v) :: rest
    else (k, v) :: insert rest key value

/-- Drops the value under the given key. -/
def erase (m : Keyed α) (key : String) : Keyed α := m.filter fun e => e.1 ≠ key

/-- Inserts entries one after the other; of two with one key the later stays. -/
def insertAll (m : Keyed α) (entries : List (String × α)) : Keyed α :=
  entries.foldl (fun acc e => insert acc e.1 e.2) m

/-- The keyed list that entries in any order give. -/
def ofList (entries : List (String × α)) : Keyed α := insertAll [] entries

/-- The keys, in their order. -/
def keys (m : Keyed α) : List String := m.map Prod.fst

/-- The keys stand in strictly increasing order. -/
def Sorted (m : Keyed α) : Prop := m.keys.Pairwise (· < ·)

@[simp] theorem get?_nil (key : String) : get? ([] : Keyed α) key = none := rfl

theorem get?_cons (k : String) (v : α) (rest : Keyed α) (key : String) :
    get? ((k, v) :: rest) key = if k = key then some v else get? rest key := rfl

/-- Inserting sets one key and leaves the others alone. -/
theorem get?_insert (m : Keyed α) (key : String) (value : α) (other : String) :
    get? (insert m key value) other = if key = other then some value else get? m other := by
  induction m with
  | nil => simp [insert, get?]
  | cons e rest ih =>
    rcases e with ⟨k, v⟩
    by_cases hk : k = key
    · subst hk
      by_cases ho : k = other <;> simp [insert, get?, ho]
    · by_cases hlt : key < k ∧ !contains rest key
      · rw [insert, if_neg hk, if_pos hlt, get?_cons]
      · rw [insert, if_neg hk, if_neg hlt, get?_cons, get?_cons, ih]
        by_cases ho : k = other
        · rw [if_pos ho, if_pos ho, if_neg (fun h => hk (ho.trans h.symm))]
        · rw [if_neg ho, if_neg ho]

/-- The value just inserted is found. -/
@[simp] theorem get?_insert_self (m : Keyed α) (key : String) (value : α) :
    get? (insert m key value) key = some value := by
  simp [get?_insert]

/-- Erasing clears one key and leaves the others alone. -/
theorem get?_erase (m : Keyed α) (key other : String) :
    get? (erase m key) other = if key = other then none else get? m other := by
  induction m with
  | nil => simp [erase]
  | cons e rest ih =>
    rcases e with ⟨k, v⟩
    by_cases hk : k = key
    · subst hk
      by_cases ho : k = other
      · simpa [erase, ho] using ih
      · simpa [erase, get?_cons, ho] using ih
    · by_cases ho : k = other
      · subst ho
        simp [erase, get?_cons, hk, Ne.symm hk]
      · simpa [erase, get?_cons, hk, ho] using ih

/-- Nothing is found under a key that no entry has. -/
theorem get?_eq_none_of_forall_ne {m : Keyed α} {key : String} (h : ∀ e ∈ m, e.1 ≠ key) :
    get? m key = none := by
  induction m with
  | nil => rfl
  | cons e rest ih =>
    rw [get?_cons, if_neg (h e (by simp))]
    exact ih fun e' he' => h e' (by simp [he'])

/-- What is found stands among the entries. -/
theorem mem_of_get? {m : Keyed α} {key : String} {v : α} (h : get? m key = some v) :
    (key, v) ∈ m := by
  induction m with
  | nil => cases h
  | cons e rest ih =>
    rcases e with ⟨k, w⟩
    rw [get?_cons] at h
    by_cases hk : k = key
    · rw [if_pos hk, Option.some.injEq] at h
      rw [hk, h]
      exact List.mem_cons_self
    · rw [if_neg hk] at h
      exact List.mem_cons_of_mem _ (ih h)

/-- Erasing what is not there changes nothing. -/
theorem erase_eq_self {m : Keyed α} {key : String} (h : get? m key = none) : erase m key = m := by
  induction m with
  | nil => rfl
  | cons e rest ih =>
    rcases e with ⟨k, v⟩
    rw [get?_cons] at h
    by_cases hk : k = key
    · rw [if_pos hk] at h
      cases h
    · rw [if_neg hk] at h
      show ((k, v) :: rest).filter (fun e => e.1 ≠ key) = (k, v) :: rest
      rw [List.filter_cons_of_pos (by simpa using hk)]
      exact congrArg ((k, v) :: ·) (ih h)

/-- Setting a value that is already there changes nothing. -/
theorem insert_eq_self {m : Keyed α} {key : String} {value : α} (h : get? m key = some value) :
    insert m key value = m := by
  induction m with
  | nil => cases h
  | cons e rest ih =>
    rcases e with ⟨k, v⟩
    rw [get?_cons] at h
    by_cases hk : k = key
    · subst hk
      rw [if_pos rfl, Option.some.injEq] at h
      rw [insert, if_pos rfl, h]
    · -- the value stands further on, so nothing is put before it
      rw [if_neg hk] at h
      have hlater : ¬(key < k ∧ (!contains rest key) = true) := by
        simp [contains, h]
      rw [insert, if_neg hk, if_neg hlater, ih h]

/-- Of entries with different keys each is found, and nothing else that was not there. -/
theorem get?_insertAll_eq_some_iff {entries : List (String × α)}
    (h : (entries.map Prod.fst).Nodup) (m : Keyed α) (key : String) (value : α) :
    get? (insertAll m entries) key = some value ↔
      (key, value) ∈ entries ∨ key ∉ entries.map Prod.fst ∧ get? m key = some value := by
  induction entries generalizing m with
  | nil => simp [insertAll]
  | cons e entries ih =>
    obtain ⟨hfirst, hrest⟩ := List.nodup_cons.mp h
    show get? (insertAll (insert m e.1 e.2) entries) key = some value ↔ _
    rw [ih hrest, get?_insert]
    by_cases hkey : e.1 = key
    · subst hkey
      have hnot : (e.1, value) ∉ entries := fun hmem =>
        hfirst (List.mem_map.mpr ⟨_, hmem, rfl⟩)
      have heq : (e.1, value) = e ↔ e.2 = value := by
        constructor
        · intro h
          exact (congrArg Prod.snd h).symm
        · intro h
          rw [← h]
      simp [hnot, hfirst, heq]
    · have hne : (key, value) ≠ e := fun h => hkey (congrArg Prod.fst h).symm
      simp [hkey, Ne.symm hkey, hne]

/-- Of entries with different keys each is found, and nothing else. -/
theorem get?_ofList_eq_some_iff {entries : List (String × α)} (h : (entries.map Prod.fst).Nodup)
    (key : String) (value : α) :
    get? (ofList entries) key = some value ↔ (key, value) ∈ entries := by
  simp [ofList, get?_insertAll_eq_some_iff h]

/-! ## Lists in order -/

theorem sorted_nil : Sorted ([] : Keyed α) := List.Pairwise.nil

theorem sorted_cons {k : String} {v : α} {rest : Keyed α} :
    Sorted ((k, v) :: rest) ↔ (∀ e ∈ rest, k < e.1) ∧ Sorted rest := by
  simp [Sorted, keys, List.pairwise_cons]

/-- In a list in order nothing stands under a key below the first. -/
theorem get?_eq_none_of_lt {m : Keyed α} {key : String} (h : ∀ e ∈ m, key < e.1) :
    get? m key = none :=
  get?_eq_none_of_forall_ne fun e he heq => String.lt_irrefl key (by simpa [heq] using h e he)

/-- A list in order has one entry for a key. -/
theorem Sorted.eq_of_mem {m : Keyed α} (h : m.Sorted) {a b : String × α} (ha : a ∈ m) (hb : b ∈ m)
    (hkey : a.1 = b.1) : a = b := by
  induction m with
  | nil => cases ha
  | cons e rest ih =>
    obtain ⟨hfirst, hrest⟩ := sorted_cons.mp h
    rcases List.mem_cons.mp ha with rfl | ha'
    · rcases List.mem_cons.mp hb with rfl | hb'
      · rfl
      · exact absurd (hkey ▸ hfirst b hb') (String.lt_irrefl _)
    · rcases List.mem_cons.mp hb with rfl | hb'
      · exact absurd (hkey ▸ hfirst a ha') (String.lt_irrefl _)
      · exact ih hrest ha' hb'

/-- In a list in order every entry is found. -/
theorem Sorted.get?_of_mem {m : Keyed α} (h : m.Sorted) {key : String} {value : α}
    (hmem : (key, value) ∈ m) : get? m key = some value := by
  induction m with
  | nil => cases hmem
  | cons e rest ih =>
    rcases e with ⟨k, v⟩
    obtain ⟨hfirst, hrest⟩ := sorted_cons.mp h
    rcases List.mem_cons.mp hmem with heq | hmem
    · cases heq
      rw [get?_cons, if_pos rfl]
    · have hne : k ≠ key := by
        rintro rfl
        exact String.lt_irrefl _ (hfirst _ hmem)
      rw [get?_cons, if_neg hne, ih hrest hmem]

theorem mem_insert {m : Keyed α} {key : String} {value : α} {e : String × α}
    (h : e ∈ insert m key value) : e = (key, value) ∨ e ∈ m := by
  induction m with
  | nil =>
    rw [insert, List.mem_singleton] at h
    exact Or.inl h
  | cons first rest ih =>
    rcases first with ⟨k, v⟩
    rw [insert] at h
    split at h
    · rcases List.mem_cons.mp h with rfl | h
      · exact Or.inl rfl
      · exact Or.inr (List.mem_cons_of_mem _ h)
    · split at h
      · rcases List.mem_cons.mp h with rfl | h
        · exact Or.inl rfl
        · exact Or.inr h
      · rcases List.mem_cons.mp h with rfl | h
        · exact Or.inr (by simp)
        · exact (ih h).imp_right (List.mem_cons_of_mem _)

/-- Of two different keys that are not in order the second comes first. -/
theorem lt_of_not_lt {a b : String} (h : ¬a < b) (hne : a ≠ b) : b < a :=
  String.not_le.mp fun hle => hne (String.le_antisymm hle (String.not_lt.mp h))

/-- Inserting keeps the order. -/
theorem Sorted.insert {m : Keyed α} (h : m.Sorted) (key : String) (value : α) :
    (m.insert key value).Sorted := by
  induction m with
  | nil => exact sorted_cons.mpr ⟨by simp, sorted_nil⟩
  | cons e rest ih =>
    rcases e with ⟨k, v⟩
    obtain ⟨hfirst, hrest⟩ := sorted_cons.mp h
    rw [Keyed.insert]
    split
    · rename_i hk
      exact sorted_cons.mpr ⟨hk ▸ hfirst, hrest⟩
    · rename_i hk
      split
      · rename_i hlt
        refine sorted_cons.mpr ⟨fun e he => ?_, h⟩
        rcases List.mem_cons.mp he with rfl | he
        · exact hlt.1
        · exact String.lt_trans hlt.1 (hfirst e he)
      · rename_i hnlt
        refine sorted_cons.mpr ⟨fun e he => ?_, ih hrest⟩
        rcases mem_insert he with heq | he
        · -- a key that comes later in the list is above `k` already
          rw [heq]
          refine lt_of_not_lt (fun hlt => ?_) (Ne.symm hk)
          have hfound : Keyed.get? rest key ≠ none := by simpa [hlt, contains] using hnlt
          exact hfound (get?_eq_none_of_lt fun e he => String.lt_trans hlt (hfirst e he))
        · exact hfirst e he

theorem Sorted.insertAll {m : Keyed α} (h : m.Sorted) (entries : List (String × α)) :
    (m.insertAll entries).Sorted := by
  induction entries generalizing m with
  | nil => exact h
  | cons e rest ih => exact ih (h.insert e.1 e.2)

theorem sorted_ofList (entries : List (String × α)) : (ofList entries).Sorted :=
  sorted_nil.insertAll entries

theorem mem_insertAll {m : Keyed α} {entries : List (String × α)} {e : String × α}
    (h : e ∈ insertAll m entries) : e ∈ m ∨ e ∈ entries := by
  induction entries generalizing m with
  | nil => exact Or.inl h
  | cons first rest ih =>
    rcases ih h with hfirst | hrest
    · rcases mem_insert hfirst with rfl | hold
      · exact Or.inr List.mem_cons_self
      · exact Or.inl hold
    · exact Or.inr (List.mem_cons_of_mem first hrest)

/-- The entries of a list come from those that it is made of. -/
theorem mem_ofList {entries : List (String × α)} {e : String × α} (h : e ∈ ofList entries) :
    e ∈ entries :=
  (mem_insertAll h).resolve_left List.not_mem_nil

/-- Erasing keeps the order. -/
theorem Sorted.erase {m : Keyed α} (h : m.Sorted) (key : String) : (m.erase key).Sorted :=
  List.Pairwise.sublist (List.Sublist.map Prod.fst List.filter_sublist) h

/-- Two lists in order with the same value under every key are equal. -/
theorem Sorted.ext {m n : Keyed α} (hm : m.Sorted) (hn : n.Sorted)
    (h : ∀ key, get? m key = get? n key) : m = n := by
  induction m generalizing n with
  | nil =>
    cases n with
    | nil => rfl
    | cons e rest => simpa [get?] using h e.1
  | cons e rest ih =>
    rcases e with ⟨k, v⟩
    obtain ⟨hfirst, hrest⟩ := sorted_cons.mp hm
    cases n with
    | nil => simpa [get?] using h k
    | cons e' rest' =>
      rcases e' with ⟨k', v'⟩
      obtain ⟨hfirst', hrest'⟩ := sorted_cons.mp hn
      -- the least key of either list is found in the other, so neither can be below the other
      have hk : k = k' := by
        refine Decidable.byContradiction fun hne => ?_
        have h₁ : get? rest' k = some v := by simpa [get?_cons, Ne.symm hne] using (h k).symm
        have h₂ : get? rest k' = some v' := by simpa [get?_cons, hne] using h k'
        have hlt : k' < k := by
          refine lt_of_not_lt (fun hlt => ?_) hne
          rw [get?_eq_none_of_lt fun e he => String.lt_trans hlt (hfirst' e he)] at h₁
          cases h₁
        rw [get?_eq_none_of_lt fun e he => String.lt_trans hlt (hfirst e he)] at h₂
        cases h₂
      subst hk
      have hv : v = v' := by simpa [get?_cons] using h k
      subst hv
      refine congrArg ((k, v) :: ·) (ih hrest hrest' fun key => ?_)
      by_cases hkey : k = key
      · subst hkey
        rw [get?_eq_none_of_lt hfirst, get?_eq_none_of_lt hfirst']
      · simpa [get?_cons, hkey] using h key

/-- No two entries of a list in order have one key. -/
theorem Sorted.nodup {m : Keyed α} (h : m.Sorted) : (m.map Prod.fst).Nodup := by
  refine List.Pairwise.imp (fun {a b} (hlt : a < b) => ?_) h
  rintro rfl
  exact String.lt_irrefl a hlt

/-- The order in which entries with different keys are given does not matter. -/
theorem ofList_eq_of_perm {es fs : List (String × α)} (h : es.Perm fs)
    (hnodup : (es.map Prod.fst).Nodup) : ofList es = ofList fs := by
  refine (sorted_ofList es).ext (sorted_ofList fs) fun key => Option.ext fun value => ?_
  rw [get?_ofList_eq_some_iff hnodup, get?_ofList_eq_some_iff ((h.map _).nodup hnodup),
    h.mem_iff]

/-- A list in order is what its entries give. -/
theorem Sorted.ofList_eq {m : Keyed α} (h : m.Sorted) : ofList m = m := by
  refine (sorted_ofList m).ext h fun key => Option.ext fun value => ?_
  rw [get?_ofList_eq_some_iff h.nodup]
  exact ⟨h.get?_of_mem, mem_of_get?⟩

end Keyed

end PatchStore
