import PatchStore.Keyed

/-!
# Tables

A table is a `Keyed` list with the proof of its order.  Only its view can tell two tables apart, so
what is said about `get?` is all there is to say.

* `ext_get?` — tables with the same value under every key are equal.
* `get?_insert`, `get?_erase`, `get?_update` — every operation sets or clears one key and leaves the
  others alone.
-/

namespace PatchStore

/-- Values under texts, each text at most once. -/
structure Table (α : Type) where
  entries : Keyed α
  sorted : entries.Sorted

namespace Table

variable {α : Type}

instance : EmptyCollection (Table α) := ⟨⟨[], Keyed.sorted_nil⟩⟩

instance : Inhabited (Table α) := ⟨∅⟩

/-- The value under the given key. -/
def get? (t : Table α) (key : String) : Option α := Keyed.get? t.entries key

/-- Whether there is a value under the given key. -/
def contains (t : Table α) (key : String) : Bool := (t.get? key).isSome

/-- Sets the value under the given key. -/
def insert (t : Table α) (key : String) (value : α) : Table α :=
  ⟨t.entries.insert key value, t.sorted.insert key value⟩

/-- Drops the value under the given key. -/
def erase (t : Table α) (key : String) : Table α := ⟨t.entries.erase key, t.sorted.erase key⟩

/-- Sets the value under the given key, or drops it if there is to be none. -/
def update (t : Table α) (key : String) : Option α → Table α
  | some value => t.insert key value
  | none => t.erase key

/-- The number of values. -/
def size (t : Table α) : Nat := t.entries.length

/-- Tables with the same value under every key are equal. -/
theorem ext_get? {t u : Table α} (h : ∀ key, t.get? key = u.get? key) : t = u := by
  rcases t with ⟨entries, sorted⟩
  rcases u with ⟨entries', sorted'⟩
  obtain rfl : entries = entries' := sorted.ext sorted' h
  rfl

@[simp] theorem get?_empty (key : String) : (∅ : Table α).get? key = none := rfl

theorem get?_insert (t : Table α) (key : String) (value : α) (other : String) :
    (t.insert key value).get? other = if key = other then some value else t.get? other :=
  Keyed.get?_insert t.entries key value other

@[simp] theorem get?_insert_self (t : Table α) (key : String) (value : α) :
    (t.insert key value).get? key = some value :=
  Keyed.get?_insert_self t.entries key value

theorem get?_insert_of_ne (t : Table α) {key other : String} (h : key ≠ other) (value : α) :
    (t.insert key value).get? other = t.get? other := by
  rw [get?_insert, if_neg h]

theorem get?_erase (t : Table α) (key other : String) :
    (t.erase key).get? other = if key = other then none else t.get? other :=
  Keyed.get?_erase t.entries key other

@[simp] theorem get?_erase_self (t : Table α) (key : String) : (t.erase key).get? key = none := by
  rw [get?_erase, if_pos rfl]

theorem get?_erase_of_ne (t : Table α) {key other : String} (h : key ≠ other) :
    (t.erase key).get? other = t.get? other := by
  rw [get?_erase, if_neg h]

theorem get?_update (t : Table α) (key : String) (value : Option α) (other : String) :
    (t.update key value).get? other = if key = other then value else t.get? other := by
  cases value with
  | none => exact t.get?_erase key other
  | some v => exact t.get?_insert key v other

/-- Two values under different keys can be set or dropped in either order. -/
theorem update_comm (t : Table α) {a b : String} (h : a ≠ b) (v w : Option α) :
    (t.update a v).update b w = (t.update b w).update a v := by
  refine ext_get? fun key => ?_
  rw [get?_update, get?_update, get?_update, get?_update]
  by_cases ha : a = key
  · subst ha
    rw [if_pos rfl, if_neg (Ne.symm h), if_pos rfl]
  · rw [if_neg ha, if_neg ha]

/-- Setting a value that is already there changes nothing. -/
theorem insert_eq_self {t : Table α} {key : String} {value : α} (h : t.get? key = some value) :
    t.insert key value = t := by
  refine ext_get? fun other => ?_
  rw [get?_insert]
  by_cases ho : key = other
  · rw [if_pos ho, ← ho, h]
  · rw [if_neg ho]

/-- A value that is set twice is the one set last. -/
@[simp] theorem insert_insert (t : Table α) (key : String) (v w : α) :
    (t.insert key v).insert key w = t.insert key w := by
  refine ext_get? fun other => ?_
  by_cases h : key = other <;> simp [get?_insert, h]

end Table

end PatchStore
