import PatchStore.Json.Basic

/-!
# Reading JSON text

A reader takes the characters still to be read and gives back a value and the characters after it.
Numbers keep the kind that their text has: an integer literal in the range of the 64-bit types is an
integer, and everything else — a fraction, an exponent, a larger integer, a negative zero — is the
nearest binary64 number.

Nesting is bounded by the length of the text, which is the fuel that `parse?` supplies.
-/

namespace PatchStore.Json

/-- The blanks that may stand between tokens. -/
def skipBlanks (cs : List Char) : List Char :=
  cs.dropWhile fun c => c = ' ' || c = '\n' || c = '\t' || c = '\r'

/-- The value of a hexadecimal digit. -/
def hexValue? (c : Char) : Option Nat :=
  if '0' ≤ c ∧ c ≤ '9' then some (c.toNat - '0'.toNat)
  else if 'a' ≤ c ∧ c ≤ 'f' then some (c.toNat - 'a'.toNat + 10)
  else if 'A' ≤ c ∧ c ≤ 'F' then some (c.toNat - 'A'.toNat + 10)
  else none

/-- Four hexadecimal digits as a code unit. -/
def codeUnit? (a b c d : Char) : Option Nat := do
  let a ← hexValue? a
  let b ← hexValue? b
  let c ← hexValue? c
  let d ← hexValue? d
  return ((a * 16 + b) * 16 + c) * 16 + d

/-- The character that two surrogate code units stand for. -/
def surrogatePair? (high low : Nat) : Option Char :=
  if 0xD800 ≤ high ∧ high < 0xDC00 ∧ 0xDC00 ≤ low ∧ low < 0xE000 then
    some (Char.ofNat (0x10000 + (high - 0xD800) * 0x400 + (low - 0xDC00)))
  else none

/-- The character of a one-letter escape. -/
def shortEscape? (c : Char) : Option Char :=
  match c with
  | '"' => some '"'
  | '\\' => some '\\'
  | '/' => some '/'
  | 'b' => some (Char.ofNat 8)
  | 'f' => some (Char.ofNat 12)
  | 'n' => some '\n'
  | 'r' => some '\r'
  | 't' => some '\t'
  | _ => none

/-- The characters of a string up to its closing quotation mark, and what follows it. -/
def readStringBody : List Char → Option (List Char × List Char)
  | [] => none
  | '"' :: rest => some ([], rest)
  | '\\' :: 'u' :: a :: b :: c :: d :: '\\' :: 'u' :: e :: f :: g :: h :: rest => do
    let first ← codeUnit? a b c d
    match (codeUnit? e f g h).bind (surrogatePair? first) with
    | some ch => (readStringBody rest).map fun (s, tail) => (ch :: s, tail)
    | none =>
      if 0xD800 ≤ first ∧ first < 0xE000 then none
      else (readStringBody ('\\' :: 'u' :: e :: f :: g :: h :: rest)).map fun (s, tail) =>
        (Char.ofNat first :: s, tail)
  | '\\' :: 'u' :: a :: b :: c :: d :: rest => do
    let unit ← codeUnit? a b c d
    if 0xD800 ≤ unit ∧ unit < 0xE000 then none
    else (readStringBody rest).map fun (s, tail) => (Char.ofNat unit :: s, tail)
  | '\\' :: c :: rest => do
    let ch ← shortEscape? c
    (readStringBody rest).map fun (s, tail) => (ch :: s, tail)
  | c :: rest =>
    if c.toNat < 32 then none else (readStringBody rest).map fun (s, tail) => (c :: s, tail)

/-- The value of a row of decimal digits. -/
def digitsValue (ds : List Char) : Nat :=
  ds.foldl (fun acc d => acc * 10 + (d.toNat - '0'.toNat)) 0

/-- The digits at the start, and what follows them. -/
def spanDigits (cs : List Char) : List Char × List Char :=
  (cs.takeWhile Char.isDigit, cs.dropWhile Char.isDigit)

/-- The digits after a point, if there is one. -/
def readFraction : List Char → Option (Option (List Char) × List Char)
  | '.' :: rest =>
    match spanDigits rest with
    | ([], _) => none
    | (ds, tail) => some (some ds, tail)
  | cs => some (none, cs)

/-- The exponent, if there is one. -/
def readExponent : List Char → Option (Option Int × List Char)
  | c :: rest =>
    if c = 'e' ∨ c = 'E' then
      let (negative, digits) :=
        match rest with
        | '-' :: r => (true, r)
        | '+' :: r => (false, r)
        | r => (false, r)
      match spanDigits digits with
      | ([], _) => none
      | (ds, tail) =>
        let n : Int := digitsValue ds
        some (some (if negative then -n else n), tail)
    else some (none, c :: rest)
  | [] => some (none, [])

/-- The number that a sign, whole digits, a fraction and an exponent denote. -/
def numberOf? (negative : Bool) (whole : List Char) (fraction : Option (List Char))
    (exponent : Option Int) : Option Number :=
  match fraction, exponent with
  | none, none =>
    let n : Int := digitsValue whole
    if negative ∧ n = 0 then some (.float (.zero true))
    else
      match Number.ofInt? (if negative then -n else n) with
      | some x => some x
      | none => (Decimal.Binary64.ofDecimal? negative n.toNat 0).map .float
  | fraction, exponent =>
    let ds := fraction.getD []
    let power := exponent.getD 0 - (ds.length : Int)
    (Decimal.Binary64.ofDecimal? negative (digitsValue (whole ++ ds)) power).map .float

/-- A number; a leading zero stands alone. -/
def readNumber (cs : List Char) : Option (Number × List Char) := do
  let (negative, rest) :=
    match cs with
    | '-' :: r => (true, r)
    | r => (false, r)
  let (whole, rest) := spanDigits rest
  if whole = [] ∨ (1 < whole.length ∧ whole.head? = some '0') then none
  let (fraction, rest) ← readFraction rest
  let (exponent, rest) ← readExponent rest
  let n ← numberOf? negative whole fraction exponent
  return (n, rest)

mutual

/-- A value, past any blanks. -/
def readValue : Nat → List Char → Option (Json × List Char)
  | 0, _ => none
  | fuel + 1, cs =>
    match skipBlanks cs with
    | 'n' :: 'u' :: 'l' :: 'l' :: rest => some (.null, rest)
    | 't' :: 'r' :: 'u' :: 'e' :: rest => some (.bool true, rest)
    | 'f' :: 'a' :: 'l' :: 's' :: 'e' :: rest => some (.bool false, rest)
    | '"' :: rest => (readStringBody rest).map fun (s, tail) => (.string (String.ofList s), tail)
    | '[' :: rest =>
      match skipBlanks rest with
      | ']' :: tail => some (.array [], tail)
      | items => (readItems fuel items).map fun (xs, tail) => (.array xs, tail)
    | '{' :: rest =>
      match skipBlanks rest with
      | '}' :: tail => some (.object [], tail)
      | members => (readMembers fuel members).map fun (ms, tail) => (ofMembers ms, tail)
    | digits => (readNumber digits).map fun (n, tail) => (.number n, tail)

/-- The items of an array up to its closing bracket. -/
def readItems : Nat → List Char → Option (List Json × List Char)
  | 0, _ => none
  | fuel + 1, cs => do
    let (x, rest) ← readValue fuel cs
    match skipBlanks rest with
    | ']' :: tail => some ([x], tail)
    | ',' :: more => (readItems fuel more).map fun (xs, tail) => (x :: xs, tail)
    | _ => none

/-- The members of an object up to its closing brace, in the order of the text. -/
def readMembers : Nat → List Char → Option (List (String × Json) × List Char)
  | 0, _ => none
  | fuel + 1, cs =>
    match skipBlanks cs with
    | '"' :: rest => do
      let (name, rest) ← readStringBody rest
      match skipBlanks rest with
      | ':' :: rest => do
        let (x, rest) ← readValue fuel rest
        match skipBlanks rest with
        | '}' :: tail => some ([(String.ofList name, x)], tail)
        | ',' :: more =>
          (readMembers fuel more).map fun (ms, tail) => ((String.ofList name, x) :: ms, tail)
        | _ => none
      | _ => none
    | _ => none

end

/-- The value that a whole text denotes, if it is JSON text. -/
def parse? (text : String) : Option Json :=
  let cs := text.toList
  match readValue (cs.length + 1) cs with
  | some (v, rest) => if skipBlanks rest = [] then some v else none
  | none => none

end PatchStore.Json
