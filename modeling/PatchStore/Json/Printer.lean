import PatchStore.Json.Basic
import PatchStore.Decimal.Shortest

/-!
# Compact JSON text

Values are written without blanks.  In a string only the quotation mark, the backslash and the
control characters below U+0020 are escaped; all else stands as it is.

A float is written with the fewest digits that read back.  `FloatLayout` says how they are laid out:
positional notation, always with a point, while the decimal exponent of the first digit lies in a
window, and otherwise a point after the first digit and a signed exponent.

* `escapeChar_of_plain` — a character that is neither special nor a control character stands for
  itself.
-/

namespace PatchStore.Json

/-! ## Numbers -/

/-- How the digits of a float are laid out: positionally while the decimal exponent of the first
digit is at least `lowest` and below `highest`. -/
structure FloatLayout where
  lowest : Int
  highest : Int

/-- Positional from `0.00001` up to sixteen digits before the point. -/
def floatLayout : FloatLayout := ⟨-5, 16⟩

/-- The digits with a point, `exponent` being the decimal exponent of the first digit. -/
def positional (digits : List Char) (exponent : Int) : List Char :=
  if exponent < 0 then
    '0' :: '.' :: (List.replicate (-exponent - 1).toNat '0' ++ digits)
  else
    let whole := exponent.toNat + 1
    if digits.length ≤ whole then
      digits ++ List.replicate (whole - digits.length) '0' ++ ['.', '0']
    else digits.take whole ++ '.' :: digits.drop whole

/-- The digits with a point after the first and a signed exponent. -/
def scientific (digits : List Char) (exponent : Int) : List Char :=
  let sign := if exponent < 0 then '-' else '+'
  let mantissa :=
    match digits with
    | d :: rest@(_ :: _) => d :: '.' :: rest
    | short => short
  mantissa ++ 'e' :: sign :: Nat.toDigits 10 exponent.natAbs

/-- The text of a float. -/
def FloatLayout.render (layout : FloatLayout) (x : Decimal.Binary64) : List Char :=
  let sign := if x.negative then ['-'] else []
  if x.word = 0 then sign ++ ['0', '.', '0']
  else
    let (n, power) := x.shortest
    let digits := Nat.toDigits 10 n
    let exponent := power + (digits.length - 1 : Nat)
    sign ++
      if layout.lowest ≤ exponent ∧ exponent < layout.highest then positional digits exponent
      else scientific digits exponent

/-- The decimal text of an integer. -/
def renderInt (n : Int) : List Char :=
  if n < 0 then '-' :: Nat.toDigits 10 n.natAbs else Nat.toDigits 10 n.natAbs

/-- The text of a number. -/
def renderNumber : Number → List Char
  | .integer n _ => renderInt n
  | .float x => floatLayout.render x

/-! ## Strings -/

/-- Lower-case hexadecimal digits. -/
def hexDigit (n : Nat) : Char := "0123456789abcdef".toList.getD n '0'

/-- One character of a string as it is written between quotation marks. -/
def escapeChar (c : Char) : List Char :=
  if c = '"' then ['\\', '"']
  else if c = '\\' then ['\\', '\\']
  else if c = '\n' then ['\\', 'n']
  else if c = '\r' then ['\\', 'r']
  else if c = '\t' then ['\\', 't']
  else if c.toNat = 8 then ['\\', 'b']
  else if c.toNat = 12 then ['\\', 'f']
  else if c.toNat < 32 then
    ['\\', 'u', '0', '0', hexDigit (c.toNat / 16), hexDigit (c.toNat % 16)]
  else [c]

/-- A character that is neither special nor a control character stands for itself. -/
theorem escapeChar_of_plain {c : Char} (h₁ : c ≠ '"') (h₂ : c ≠ '\\') (h₃ : 32 ≤ c.toNat) :
    escapeChar c = [c] := by
  have hn : c ≠ '\n' := by rintro rfl; exact absurd h₃ (by decide)
  have hr : c ≠ '\r' := by rintro rfl; exact absurd h₃ (by decide)
  have ht : c ≠ '\t' := by rintro rfl; exact absurd h₃ (by decide)
  have h8 : c.toNat ≠ 8 := by omega
  have h12 : c.toNat ≠ 12 := by omega
  simp [escapeChar, h₁, h₂, hn, hr, ht, h8, h12, Nat.not_lt.2 h₃]

/-- A string between quotation marks. -/
def renderString (s : String) : List Char := '"' :: s.toList.flatMap escapeChar ++ ['"']

/-! ## Values -/

mutual

/-- The compact text of a value, followed by `tail`. -/
def renderOnto : Json → List Char → List Char
  | .null, tail => 'n' :: 'u' :: 'l' :: 'l' :: tail
  | .bool true, tail => 't' :: 'r' :: 'u' :: 'e' :: tail
  | .bool false, tail => 'f' :: 'a' :: 'l' :: 's' :: 'e' :: tail
  | .number n, tail => renderNumber n ++ tail
  | .string s, tail => renderString s ++ tail
  | .array [], tail => '[' :: ']' :: tail
  | .array (x :: xs), tail => '[' :: renderOnto x (renderItemsOnto xs tail)
  | .object [], tail => '{' :: '}' :: tail
  | .object ((n, x) :: xs), tail =>
    '{' :: (renderString n ++ ':' :: renderOnto x (renderMembersOnto xs tail))

/-- The items after the first, the closing bracket and `tail`. -/
def renderItemsOnto : List Json → List Char → List Char
  | [], tail => ']' :: tail
  | x :: xs, tail => ',' :: renderOnto x (renderItemsOnto xs tail)

/-- The members after the first, the closing brace and `tail`. -/
def renderMembersOnto : List (String × Json) → List Char → List Char
  | [], tail => '}' :: tail
  | (n, x) :: xs, tail => ',' :: (renderString n ++ ':' :: renderOnto x (renderMembersOnto xs tail))

end

/-- The compact text of a value. -/
def render (v : Json) : String := String.ofList (renderOnto v [])

end PatchStore.Json
