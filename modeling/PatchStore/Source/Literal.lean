import PatchStore.Source.Token
import PatchStore.Text.Blank
import PatchStore.Text.Identifier

/-!
# Literals

Each scanner takes the characters from the start of a literal and gives back the characters after
it, or nothing if no literal of its kind stands there.  `Literal.scan?` tries the kinds in turn.
The value of a literal is read from its spelling: `Literal.stringValue?` for text and
`Literal.index?` for the position in a tuple.

Scanning checks every escape, so a spelling that was scanned always has a value.

* `indexOf?` — the position that a text denotes.
-/

namespace PatchStore.Source

open PatchStore.Text

/-! ## Identifiers and suffixes -/

/-- The name at the start, without any raw mark, and what follows it. -/
def scanName? : List Char → Option (List Char × List Char)
  | [] => none
  | c :: cs =>
    if isIdentStart c then some (c :: cs.takeWhile isIdentContinue, cs.dropWhile isIdentContinue)
    else none

/-- Passes over the suffix of a literal, if there is one. -/
def skipSuffix (cs : List Char) : List Char :=
  match scanName? cs with
  | some (_, rest) => rest
  | none => cs

/-! ## Escapes -/

/-- The value of a hexadecimal digit. -/
def hexDigitValue? (c : Char) : Option Nat :=
  if '0' ≤ c ∧ c ≤ '9' then some (c.toNat - '0'.toNat)
  else if 'a' ≤ c ∧ c ≤ 'f' then some (c.toNat - 'a'.toNat + 10)
  else if 'A' ≤ c ∧ c ≤ 'F' then some (c.toNat - 'A'.toNat + 10)
  else none

/-- Whether the number is the code point of a character. -/
def isScalar (n : Nat) : Bool := n < 0xD800 || (0xDFFF < n && n < 0x110000)

/-- The digits of a braced code point up to the closing brace: one to six digits, between which
underscores may stand.  Gives the code point and what follows the brace. -/
def scanCodePoint? (count value : Nat) : List Char → Option (Nat × List Char)
  | [] => none
  | c :: cs =>
    match hexDigitValue? c with
    | some d => if count = 6 then none else scanCodePoint? (count + 1) (value * 16 + d) cs
    | none =>
      if c = '_' ∧ 0 < count then scanCodePoint? count value cs
      else if c = '}' ∧ 0 < count ∧ isScalar value then some (value, cs)
      else none

/-- The kinds of quoted text, which differ in their escapes. -/
inductive TextKind where
  | text
  | bytes
  | terminated
  deriving DecidableEq

/-- One escape after its backslash, line continuations aside: the code point or byte that it denotes
and what follows it.  Characters have two-digit escapes up to `7F`, bytes up to `FF` and no braced
ones, and terminated text admits no zero. -/
def scanEscape? (kind : TextKind) : List Char → Option (Nat × List Char)
  | 'x' :: a :: b :: rest => do
    let high ← hexDigitValue? a
    let low ← hexDigitValue? b
    let value := high * 16 + low
    if kind = .text ∧ 8 ≤ high then none
    else if kind = .terminated ∧ value = 0 then none
    else some (value, rest)
  | 'u' :: '{' :: rest => do
    if kind = .bytes then none
    let (value, rest) ← scanCodePoint? 0 0 rest
    if kind = .terminated ∧ value = 0 then none
    else some (value, rest)
  | 'n' :: rest => some (10, rest)
  | 'r' :: rest => some (13, rest)
  | 't' :: rest => some (9, rest)
  | '\\' :: rest => some (92, rest)
  | '\'' :: rest => some (39, rest)
  | '"' :: rest => some (34, rest)
  | '0' :: rest => if kind = .terminated then none else some (0, rest)
  | _ => none

/-- Passes over the blanks after a backslash that ends a line.  A carriage return counts only with a
line feed after it, and something must follow the blanks. -/
def skipContinuation : List Char → Option (List Char)
  | [] => none
  | '\r' :: '\n' :: rest => skipContinuation rest
  | '\r' :: _ => none
  | c :: rest => if c = ' ' ∨ c = '\t' ∨ c = '\n' then skipContinuation rest else some (c :: rest)

/-! ## Quoted text -/

/-- Quoted text after its opening mark, up to and past the closing one. -/
def scanQuoted? (kind : TextKind) : Nat → List Char → Option (List Char)
  | 0, _ => none
  | _ + 1, [] => none
  | fuel + 1, c :: rest =>
    if c = '"' then some (skipSuffix rest)
    else if c = '\r' then
      match rest with
      | '\n' :: more => scanQuoted? kind fuel more
      | _ => none
    else if c = '\\' then
      match rest with
      | '\n' :: _ => (skipContinuation rest).bind (scanQuoted? kind fuel)
      | '\r' :: _ => (skipContinuation rest).bind (scanQuoted? kind fuel)
      | _ => (scanEscape? kind rest).bind fun e => scanQuoted? kind fuel e.2
    else if kind = .bytes ∧ 128 ≤ c.toNat then none
    else if kind = .terminated ∧ c.toNat = 0 then none
    else scanQuoted? kind fuel rest

/-- Raw text after its opening mark, which ends at a mark followed by as many number signs as stood
before it. -/
def scanRawBody? (kind : TextKind) (fence : List Char) : List Char → Option (List Char)
  | [] => none
  | c :: rest =>
    if c = '"' ∧ fence.isPrefixOf rest then some (skipSuffix (rest.drop fence.length))
    else if c = '\r' ∧ rest.head? ≠ some '\n' then none
    else if kind = .bytes ∧ 128 ≤ c.toNat then none
    else if kind = .terminated ∧ c.toNat = 0 then none
    else scanRawBody? kind fence rest

/-- Raw text after its letters: the number signs, the opening mark and the body. -/
def scanRaw? (kind : TextKind) (cs : List Char) : Option (List Char) :=
  let fence := cs.takeWhile (· = '#')
  match cs.dropWhile (· = '#') with
  | '"' :: body => if 255 < fence.length then none else scanRawBody? kind fence body
  | _ => none

/-- One character between apostrophes, after the opening one. -/
def scanCharBody? (kind : TextKind) : List Char → Option (List Char)
  | [] => none
  | '\\' :: rest =>
    match scanEscape? kind rest with
    | some (_, '\'' :: tail) => some (skipSuffix tail)
    | _ => none
  | c :: '\'' :: tail => if kind = .bytes ∧ 128 ≤ c.toNat then none else some (skipSuffix tail)
  | _ => none

/-! ## Numbers -/

/-- The digits of an integer in the given base, with underscores between them.  A digit too large
for the base spoils the number; a letter too large for it ends the digits. -/
def scanDigits? (base : Nat) (empty : Bool) : List Char → Option (List Char)
  | [] => if empty then none else some []
  | c :: rest =>
    if '0' ≤ c ∧ c ≤ '9' then
      if base ≤ c.toNat - '0'.toNat then none else scanDigits? base false rest
    else if c = '_' then if empty ∧ base = 10 then none else scanDigits? base empty rest
    else
      match hexDigitValue? c with
      | some d =>
        if d < base then scanDigits? base false rest
        else if empty then none
        else some (c :: rest)
      | none => if empty then none else some (c :: rest)

/-- The base that the start of an integer announces, and its digits. -/
def integerBase : List Char → Nat × List Char
  | '0' :: 'x' :: rest => (16, rest)
  | '0' :: 'o' :: rest => (8, rest)
  | '0' :: 'b' :: rest => (2, rest)
  | cs => (10, cs)

/-- The end of a number: an optional suffix, after which no word goes on. -/
def scanNumberEnd? (cs : List Char) : Option (List Char) :=
  let rest := skipSuffix cs
  match rest with
  | [] => some []
  | c :: _ => if isIdentContinue c then none else some rest

/-- An integer with its suffix. -/
def scanInteger? (cs : List Char) : Option (List Char) :=
  let (base, digits) := integerBase cs
  (scanDigits? base true digits).bind scanNumberEnd?

/-- Whether the character may stand among the digits of a float. -/
def isFloatDigit (c : Char) : Bool := c.isDigit || c == '_'

/-- The exponent of a float after its letter; none when no digit is found. -/
def scanExponent? (signed found : Bool) : List Char → Option (List Char)
  | [] => if found then some [] else none
  | c :: rest =>
    if c = '+' ∨ c = '-' then
      if found then some (c :: rest) else if signed then none else scanExponent? true found rest
    else if c.isDigit then scanExponent? signed true rest
    else if c = '_' then scanExponent? signed found rest
    else if found then some (c :: rest)
    else none

/-- The digits, point and exponent of a float.  A point counts unless a second point or a name
follows it, and the letter of an exponent is left alone when digits and point suffice without it. -/
def scanFloatDigits? : List Char → Option (List Char)
  | [] => none
  | first :: cs =>
    if !first.isDigit then none
    else
      match cs.dropWhile isFloatDigit with
      | '.' :: rest =>
        let follows :=
          match rest with
          | [] => false
          | c :: _ => c == '.' || isIdentStart c
        if follows then none
        else
          let rest := rest.dropWhile isFloatDigit
          match rest with
          | c :: more =>
            if c = 'e' ∨ c = 'E' then some ((scanExponent? false false more).getD rest)
            else some rest
          | [] => some []
      | c :: more => if c = 'e' ∨ c = 'E' then scanExponent? false false more else none
      | [] => none

/-- A float with its suffix. -/
def scanFloat? (cs : List Char) : Option (List Char) := (scanFloatDigits? cs).bind scanNumberEnd?

/-! ## All kinds -/

/-- What a scanner passed over, given the characters before and after it. -/
def passed (before after : List Char) : List Char := before.take (before.length - after.length)

/-- The spelling of the placeholder for a literal. -/
def placeholderSpelling : List Char := "(/*ERROR*/)".toList

/-- The characters after a literal of the given kind, if one stands at the start. -/
def LiteralKind.scan? (kind : LiteralKind) (cs : List Char) : Option (List Char) :=
  match kind, cs with
  | .string, '"' :: body => scanQuoted? .text (body.length + 1) body
  | .string, 'r' :: body => scanRaw? .text body
  | .byteString, 'b' :: '"' :: body => scanQuoted? .bytes (body.length + 1) body
  | .byteString, 'b' :: 'r' :: body => scanRaw? .bytes body
  | .cString, 'c' :: '"' :: body => scanQuoted? .terminated (body.length + 1) body
  | .cString, 'c' :: 'r' :: body => scanRaw? .terminated body
  | .byte, 'b' :: '\'' :: body => scanCharBody? .bytes body
  | .char, '\'' :: body => scanCharBody? .text body
  | .float, cs => scanFloat? cs
  | .integer, cs => scanInteger? cs
  | .placeholder, cs =>
    if placeholderSpelling.isPrefixOf cs then some (cs.drop placeholderSpelling.length) else none
  | _, _ => none

/-- The literal at the start, if there is one, and what follows it. -/
def Literal.scan? (cs : List Char) : Option (Literal × List Char) :=
  let kinds : List LiteralKind :=
    [.string, .byteString, .cString, .byte, .char, .float, .integer, .placeholder]
  kinds.findSome? fun kind => (kind.scan? cs).map fun rest => (⟨kind, passed cs rest⟩, rest)

/-! ## Values -/

/-- The text between the quotation marks, after the opening one, with its escapes resolved. -/
def unquote : Nat → List Char → List Char
  | 0, _ => []
  | _ + 1, [] => []
  | fuel + 1, c :: rest =>
    if c = '"' then []
    else if c = '\r' then '\n' :: unquote fuel (rest.drop 1)
    else if c = '\\' then
      match rest with
      | '\n' :: _ => unquote fuel (trimStart rest)
      | '\r' :: _ => unquote fuel (trimStart rest)
      | _ =>
        match scanEscape? .text rest with
        | some (n, tail) => Char.ofNat n :: unquote fuel tail
        | none => []
    else c :: unquote fuel rest

/-- The body of raw text, after its opening mark, up to the closing fence. -/
def rawBody (fence : List Char) : List Char → List Char
  | [] => []
  | c :: rest => if c = '"' ∧ fence.isPrefixOf rest then [] else c :: rawBody fence rest

/-- The text that a string literal denotes. -/
def Literal.stringValue? (l : Literal) : Option String :=
  match l.kind, l.spelling with
  | .string, '"' :: body => some (String.ofList (unquote (body.length + 1) body))
  | .string, 'r' :: body =>
    let fence := body.takeWhile (· = '#')
    some (String.ofList (rawBody fence ((body.dropWhile (· = '#')).drop 1)))
  | _, _ => none

/-- The number that digits in a base denote, underscores aside; none when anything else is left. -/
def digitsIn? (base : Nat) (value : Nat) : List Char → Option Nat
  | [] => some value
  | c :: rest =>
    if c = '_' then digitsIn? base value rest
    else
      match hexDigitValue? c with
      | some d => if d < base then digitsIn? base (value * base + d) rest else none
      | none => none

/-- The position in a tuple that an integer literal without a suffix denotes: a 32-bit number. -/
def Literal.index? (l : Literal) : Option Nat :=
  if l.kind = .integer then
    let (base, digits) := integerBase l.spelling
    (digitsIn? base 0 digits).filter (· < 4294967296)
  else none

/-- The position in a tuple that a text denotes which is nothing but such a literal. -/
def indexOf? (cs : List Char) : Option Nat :=
  match Literal.scan? cs with
  | some (l, []) => l.index?
  | _ => none

end PatchStore.Source
