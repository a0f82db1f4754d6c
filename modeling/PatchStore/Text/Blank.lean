import PatchStore.Text.CodePoint

/-!
# Blank characters and trimming

Blank is the Unicode property `White_Space`.  Trimming works on lists of characters; the `String`
versions only convert.

* `isBlank_of_isWhitespace` — every blank of the core library's ASCII test is a blank here.
* `trimStart_eq_self` — text that does not start with a blank is its own trimming.
-/

namespace PatchStore.Text

/-- The code points with the property `White_Space`. -/
def blankRuns : List Run :=
  [⟨9, 13, 1⟩, ⟨32, 32, 1⟩, ⟨133, 133, 1⟩, ⟨160, 160, 1⟩, ⟨5760, 5760, 1⟩, ⟨8192, 8202, 1⟩,
   ⟨8232, 8233, 1⟩, ⟨8239, 8239, 1⟩, ⟨8287, 8287, 1⟩, ⟨12288, 12288, 1⟩]

/-- Whether the character is white space. -/
def isBlank (c : Char) : Bool := member blankRuns c.toNat

/-- The core library's white space is white space. -/
theorem isBlank_of_isWhitespace {c : Char} (h : c.isWhitespace = true) : isBlank c = true := by
  simp only [Char.isWhitespace, Bool.or_eq_true, decide_eq_true_eq] at h
  rcases h with ((rfl | rfl) | rfl) | rfl <;> decide

/-- The characters without the blanks at their start. -/
def trimStart (cs : List Char) : List Char := cs.dropWhile isBlank

/-- The characters without the blanks at their end. -/
def trimEnd (cs : List Char) : List Char := (trimStart cs.reverse).reverse

/-- The characters without the blanks at either end. -/
def trimList (cs : List Char) : List Char := trimEnd (trimStart cs)

/-- The text without the blanks at either end. -/
def trim (s : String) : String := String.ofList (trimList s.toList)

theorem trimStart_eq_self {c : Char} {cs : List Char} (h : isBlank c = false) :
    trimStart (c :: cs) = c :: cs := by
  simp [trimStart, h]

end PatchStore.Text
