import PatchStore.Text.Blank
import PatchStore.Time.Timestamp

/-!
# Scanning the parts of a timestamp

A `Scan` takes characters from the start of a text.  The parts that the timestamp formats have in
common are a number of a limited width, a fraction of a second, a fixed character, blanks, and an
offset.

* `run_char` — a fixed character is taken only if it stands there.
-/

namespace PatchStore.Time

/-- A reader of characters from the start of a text. -/
abbrev Scan := StateT (List Char) Option

/-- The digits of a number from the highest on. -/
def digitsValue (digits : List Char) : Nat :=
  digits.foldl (fun n c => n * 10 + (c.toNat - '0'.toNat)) 0

namespace Scan

variable {α : Type}

/-- Reads a whole text. -/
def all (p : Scan α) (text : String) : Option α := do
  let (x, rest) ← p.run text.toList
  if rest.isEmpty then some x else none

/-- Takes a fixed character. -/
def char (c : Char) : Scan Unit := do
  match (← get) with
  | d :: rest => if d = c then set rest else failure
  | [] => failure

theorem run_char (c : Char) (cs : List Char) : (char c).run (c :: cs) = some ((), cs) := by
  show (if c = c then (set cs : Scan Unit) else failure).run (c :: cs) = some ((), cs)
  rw [if_pos rfl]
  rfl

/-- Whether a character that passes the test stands at the start. -/
def peek (test : Char → Bool) : Scan Bool := do
  match (← get) with
  | c :: _ => return test c
  | [] => return false

/-- Takes the blanks at the start, if any. -/
def blanks : Scan Unit := modify Text.trimStart

/-- Takes the blanks at the start, of which there must be one. -/
def someBlanks : Scan Unit := do
  if ← peek Text.isBlank then blanks else failure

/-- Takes digits, at most as many as are allowed, and fails if they are too few. -/
def digits (least : Nat) (most : Option Nat) : Scan (List Char) := do
  let cs ← get
  let ds := (match most with | some n => cs.take n | none => cs).takeWhile Char.isDigit
  if ds.length < least then failure
  set (cs.drop ds.length)
  return ds

/-- A number of `least` to `most` digits. -/
def number (least most : Nat) : Scan Nat := return digitsValue (← digits least (some most))

/-- A number of exactly as many digits. -/
def fixedNumber (width : Nat) : Scan Nat := number width width

/-- A fraction of a second in nanoseconds; digits beyond the ninth are dropped. -/
def fraction : Scan Nat := do
  let ds ← digits 1 (some 9)
  modify fun cs => cs.dropWhile Char.isDigit
  return digitsValue ds * Nat.pow 10 (9 - ds.length)

/-- A full stop and a fraction of a second, if they stand there. -/
def optionalFraction : Scan Nat := do
  if ← peek (· == '.') then
    char '.'
    fraction
  else return 0

/-- The sign of an offset: whether it is negative.  The minus sign may be a hyphen, or the
mathematical sign where that is allowed. -/
def offsetSign (mathematical : Bool) : Scan Bool := do
  match (← get) with
  | '+' :: rest => set rest; return false
  | '-' :: rest => set rest; return true
  | '−' :: rest => if mathematical then set rest; return true else failure
  | _ => failure

/-- An offset as a sign, hours, whatever may stand between them, and minutes, in seconds. -/
def signedOffset (separator : Scan Unit) (mathematical : Bool) : Scan Int := do
  let negative ← offsetSign mathematical
  let hours ← fixedNumber 2
  separator
  let minutes ← fixedNumber 2
  if 60 ≤ minutes then failure
  let seconds : Int := (hours * 60 + minutes) * 60
  return if negative then -seconds else seconds

/-- An offset, or the letter for none. -/
def zonedOffset (separator : Scan Unit) : Scan Int := do
  match (← get) with
  | c :: rest =>
    if c = 'Z' ∨ c = 'z' then
      set rest
      return 0
    else signedOffset separator true
  | [] => failure

end Scan

end PatchStore.Time
