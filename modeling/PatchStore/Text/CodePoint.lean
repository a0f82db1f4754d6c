/-!
# Sets and maps of code points

A property of characters is given by the runs of code points that have it, in increasing order.
`member` decides membership in one pass and stops at the first run that lies beyond the character;
`image?` is the same pass over a map that shifts each of its runs by a constant.

* `member_nil`, `member_cons_of_last_lt`, `member_cons_of_lt_first` — the pass, one run at a time.
* `exists_run_of_member` — a member lies within one of the runs.
* `image?_nil` — the same for maps.
* `of_all_codes` — a test that all characters with given code points pass.
-/

namespace PatchStore.Text

/-- Every `step`-th code point from `first` to `last`, both ends included. -/
structure Run where
  first : Nat
  last : Nat
  step : Nat
  deriving Repr

/-- Whether a code point at or after the start of the run is one of its members. -/
def Run.hits (r : Run) (n : Nat) : Bool := (n - r.first) % r.step == 0

/-- Membership in a set whose runs are disjoint and increasing. -/
def member : List Run → Nat → Bool
  | [], _ => false
  | r :: rs, n => if n < r.first then false else if n ≤ r.last then r.hits n else member rs n

/-- A run whose members are shifted together: `first` goes to `target`, the others keep their
distance from it. -/
structure Shift where
  run : Run
  target : Nat
  deriving Repr

/-- The image of a code point under a map given by disjoint and increasing shifts. -/
def image? : List Shift → Nat → Option Nat
  | [], _ => none
  | s :: ss, n =>
    if n < s.run.first then none
    else if n ≤ s.run.last then
      if s.run.hits n then some (s.target + (n - s.run.first)) else none
    else image? ss n

@[simp] theorem member_nil (n : Nat) : member [] n = false := rfl

/-- Past the end of a run only the later runs count. -/
theorem member_cons_of_last_lt {r : Run} {rs : List Run} {n : Nat} (h₁ : r.first ≤ n)
    (h₂ : r.last < n) : member (r :: rs) n = member rs n := by
  simp [member, Nat.not_lt.2 h₁, Nat.not_le.2 h₂]

/-- A member lies within one of the runs. -/
theorem exists_run_of_member {rs : List Run} {n : Nat} (h : member rs n = true) :
    ∃ r ∈ rs, r.first ≤ n ∧ n ≤ r.last := by
  induction rs with
  | nil => cases h
  | cons r rs ih =>
    rw [member] at h
    split at h
    · cases h
    · split at h
      · exact ⟨r, List.mem_cons_self, by omega, by omega⟩
      · obtain ⟨found, hmem, hbounds⟩ := ih h
        exact ⟨found, List.mem_cons_of_mem r hmem, hbounds⟩

@[simp] theorem image?_nil (n : Nat) : image? [] n = none := rfl

/-- A test that all characters with the given code points pass is passed by each of them. -/
theorem of_all_codes (test : Char → Bool) {codes : List Nat} {c : Char}
    (h : (codes.all fun n => test (Char.ofNat n)) = true) (hc : c.toNat ∈ codes) :
    test c = true := by
  have htest := List.all_eq_true.mp h c.toNat hc
  rwa [Char.ofNat_toNat] at htest

end PatchStore.Text
