import PatchStore.Json.Basic

/-!
# Equality of JSON values is an equivalence

Two values can be the same without being equal: the zeros of floats are one number with two
spellings.  Nothing else is spelled in two ways, so values are the same just when they are equal
without the signs of their zeros.

* `unsigned` — a value whose float zeros have lost their signs.
* `same_iff_unsigned_eq` — values are the same just when they are equal without these signs.
* `same_symm`, `same_trans` — with `same_refl`, sameness is an equivalence.
* `length_of_sameItems`, `get?_of_sameMembers` — what arrays and objects that are the same have in
  common.
* `sameMembers_insert` — putting the same value in the place of a member gives the same members.
-/

namespace PatchStore

namespace Decimal.Binary64

/-- The number without the sign that it has if it is a zero. -/
def unsignedZero (x : Binary64) : Binary64 := if x.word = 0 then .zero false else x

theorem word_unsignedZero (x : Binary64) : x.unsignedZero.word = x.word := by
  by_cases hx : x.word = 0
  · rw [unsignedZero, if_pos hx, hx]
    rfl
  · rw [unsignedZero, if_neg hx]

theorem sameNumber_iff_unsignedZero_eq {x y : Binary64} :
    x.sameNumber y = true ↔ x.unsignedZero = y.unsignedZero := by
  rw [sameNumber_iff]
  constructor
  · rintro (rfl | ⟨hx, hy⟩)
    · rfl
    · rw [unsignedZero, unsignedZero, if_pos hx, if_pos hy]
  · intro h
    have hword : x.word = y.word := by
      rw [← x.word_unsignedZero, h, y.word_unsignedZero]
    by_cases hx : x.word = 0
    · exact Or.inr ⟨hx, hword ▸ hx⟩
    · rw [unsignedZero, unsignedZero, if_neg hx, if_neg (hword ▸ hx)] at h
      exact Or.inl h

end Decimal.Binary64

namespace Number

/-- The number without the sign that it has if it is the zero of a float. -/
def unsigned : Number → Number
  | .integer n h => .integer n h
  | .float x => .float x.unsignedZero

theorem same_iff_unsigned_eq {a b : Number} : a.same b = true ↔ a.unsigned = b.unsigned := by
  cases a with
  | integer m hm =>
    cases b with
    | integer n hn => simp [same, unsigned]
    | float y => simp [same, unsigned]
  | float x =>
    cases b with
    | integer n hn => simp [same, unsigned]
    | float y => simp [same, unsigned, Decimal.Binary64.sameNumber_iff_unsignedZero_eq]

end Number

namespace Json

/-! ## Values without the signs of their zeros -/

mutual

/-- The value without the signs of its float zeros, at any depth. -/
def unsigned : Json → Json
  | .null => .null
  | .bool b => .bool b
  | .number n => .number n.unsigned
  | .string s => .string s
  | .array xs => .array (unsignedItems xs)
  | .object ms => .object (unsignedMembers ms)

def unsignedItems : List Json → List Json
  | [] => []
  | x :: xs => x.unsigned :: unsignedItems xs

def unsignedMembers : List (String × Json) → List (String × Json)
  | [] => []
  | (n, x) :: ms => (n, x.unsigned) :: unsignedMembers ms

end

mutual

/-- Values are the same just when they are equal without the signs of their zeros. -/
theorem same_iff_unsigned_eq : (v w : Json) → (same v w = true ↔ v.unsigned = w.unsigned)
  | .null, w => by cases w <;> simp [same, unsigned]
  | .bool a, w => by cases w <;> simp [same, unsigned]
  | .number a, w => by cases w <;> simp [same, unsigned, Number.same_iff_unsigned_eq]
  | .string a, w => by cases w <;> simp [same, unsigned]
  | .array xs, w => by
    cases w with
    | array ys => simp [same, unsigned, sameItems_iff_unsignedItems_eq xs ys]
    | _ => simp [same, unsigned]
  | .object ms, w => by
    cases w with
    | object ns => simp [same, unsigned, sameMembers_iff_unsignedMembers_eq ms ns]
    | _ => simp [same, unsigned]

theorem sameItems_iff_unsignedItems_eq : (xs ys : List Json) →
    (sameItems xs ys = true ↔ unsignedItems xs = unsignedItems ys)
  | [], [] => by simp [sameItems, unsignedItems]
  | [], _ :: _ => by simp [sameItems, unsignedItems]
  | _ :: _, [] => by simp [sameItems, unsignedItems]
  | x :: xs, y :: ys => by
    simp [sameItems, unsignedItems, same_iff_unsigned_eq x y, sameItems_iff_unsignedItems_eq xs ys]

theorem sameMembers_iff_unsignedMembers_eq : (ms ns : List (String × Json)) →
    (sameMembers ms ns = true ↔ unsignedMembers ms = unsignedMembers ns)
  | [], [] => by simp [sameMembers, unsignedMembers]
  | [], _ :: _ => by simp [sameMembers, unsignedMembers]
  | _ :: _, [] => by simp [sameMembers, unsignedMembers]
  | (m, x) :: ms, (n, y) :: ns => by
    simp [sameMembers, unsignedMembers, same_iff_unsigned_eq x y,
      sameMembers_iff_unsignedMembers_eq ms ns]

end

theorem same_symm (v w : Json) (h : same v w = true) : same w v = true := by
  rw [same_iff_unsigned_eq] at h ⊢
  exact h.symm

theorem same_trans (u v w : Json) (huv : same u v = true) (hvw : same v w = true) :
    same u w = true := by
  rw [same_iff_unsigned_eq] at huv hvw ⊢
  exact huv.trans hvw

theorem sameMembers_trans (ls ms ns : List (String × Json)) (hlm : sameMembers ls ms = true)
    (hmn : sameMembers ms ns = true) : sameMembers ls ns = true := by
  rw [sameMembers_iff_unsignedMembers_eq] at hlm hmn ⊢
  exact hlm.trans hmn

/-! ## What is common to values that are the same -/

/-- Arrays that are the same have the same number of items. -/
theorem length_of_sameItems : (xs ys : List Json) → sameItems xs ys = true → xs.length = ys.length
  | [], [], _ => rfl
  | [], _ :: _, h => by cases h
  | _ :: _, [], h => by cases h
  | x :: xs, y :: ys, h => by
    rw [sameItems, Bool.and_eq_true] at h
    rw [List.length_cons, List.length_cons, length_of_sameItems xs ys h.2]

/-- Members that are the same have the same names, and the same values under them. -/
theorem get?_of_sameMembers : (m n : Members) → sameMembers m n = true → (name : String) →
    Option.Rel (fun v w => same v w = true) (Keyed.get? m name) (Keyed.get? n name)
  | [], [], _, _ => .none
  | [], _ :: _, h, _ => by cases h
  | _ :: _, [], h, _ => by cases h
  | (k, v) :: m, (l, w) :: n, h, name => by
    simp only [sameMembers, Bool.and_eq_true, beq_iff_eq] at h
    obtain ⟨⟨rfl, hvalue⟩, hrest⟩ := h
    rw [Keyed.get?_cons, Keyed.get?_cons]
    by_cases hk : k = name
    · rw [if_pos hk, if_pos hk]
      exact .some hvalue
    · rw [if_neg hk, if_neg hk]
      exact get?_of_sameMembers m n hrest name

/-- Putting the same value in the place of a member gives the same members. -/
theorem sameMembers_insert {m : Members} {name : String} {v w : Json}
    (hfound : Keyed.get? m name = some v) (hsame : same v w = true) :
    sameMembers m (Keyed.insert m name w) = true := by
  induction m with
  | nil => cases hfound
  | cons e rest ih =>
    rcases e with ⟨k, x⟩
    rw [Keyed.get?_cons] at hfound
    by_cases hk : k = name
    · subst hk
      rw [if_pos rfl, Option.some.injEq] at hfound
      subst hfound
      rw [Keyed.insert, if_pos rfl]
      simp [sameMembers, hsame]
    · -- the member stands further on, so nothing is put before it
      rw [if_neg hk] at hfound
      have hlater : ¬(name < k ∧ (!Keyed.contains rest name) = true) := by
        simp [Keyed.contains, hfound]
      rw [Keyed.insert, if_neg hk, if_neg hlater]
      simp [sameMembers, ih hfound]

end Json

end PatchStore
