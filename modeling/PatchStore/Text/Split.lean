/-!
# Splitting text

The parts of a text between the occurrences of a character.  There is always one part more than
there are occurrences.

* `exists_splitAtChar_eq_cons` — there is a first part, also of nothing.
* `splitAtChar_of_not_mem` — a text without the character is its own only part.
-/

namespace PatchStore.Text

/-- The parts of a text between the occurrences of a character. -/
def splitAtChar (separator : Char) : List Char → List (List Char)
  | [] => [[]]
  | c :: cs =>
    if c = separator then [] :: splitAtChar separator cs
    else
      match splitAtChar separator cs with
      | part :: parts => (c :: part) :: parts
      | [] => [[c]]

/-- There is a first part, also of nothing. -/
theorem exists_splitAtChar_eq_cons (separator : Char) (cs : List Char) :
    ∃ part parts, splitAtChar separator cs = part :: parts := by
  cases cs with
  | nil => exact ⟨[], [], rfl⟩
  | cons c cs =>
    rw [splitAtChar]
    split
    · exact ⟨_, _, rfl⟩
    · split
      · exact ⟨_, _, rfl⟩
      · exact ⟨_, _, rfl⟩

/-- A text without the character is its own only part. -/
theorem splitAtChar_of_not_mem {separator : Char} {cs : List Char} (h : separator ∉ cs) :
    splitAtChar separator cs = [cs] := by
  induction cs with
  | nil => rfl
  | cons c cs ih =>
    have hc : c ≠ separator := fun e => h (by simp [e])
    have hcs : separator ∉ cs := fun m => h (by simp [m])
    simp [splitAtChar, hc, ih hcs]

end PatchStore.Text
