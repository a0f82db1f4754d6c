import PatchStore.Time.Scan

/-!
# Timestamp formats

Four formats are read: the strict and the relaxed form of internet timestamps (RFC 3339), the form
of mail headers (RFC 2822), and a date and time without an offset, which is taken as universal time.
One is written: the strict internet form, with as many digits of the fraction as are needed in
groups of three.

* `Timestamp.ofInternet?`, `Timestamp.ofRelaxed?`, `Timestamp.ofMail?`, `Timestamp.ofPlain?` — the
  readers.
* `Timestamp.ofText?` — the first of the readers that metadata is read with.
* `Timestamp.render` — the writer.
-/

namespace PatchStore.Time

open Scan

/-! ## Internet timestamps -/

/-- The date and time of an internet timestamp. -/
def internetReading : Scan Reading := do
  let year ← fixedNumber 4
  char '-'
  let month ← fixedNumber 2
  char '-'
  let day ← fixedNumber 2
  if !(← peek fun c => c == 'T' || c == 't' || c == ' ') then failure
  modify List.tail
  let hour ← fixedNumber 2
  char ':'
  let minute ← fixedNumber 2
  char ':'
  let second ← fixedNumber 2
  let nanos ← optionalFraction
  return ⟨⟨year, month, day⟩, hour, minute, second, nanos⟩

/-- The moment of a reading at an offset. -/
def momentOf (r : Reading) (offset : Int) : Scan Timestamp :=
  match Timestamp.ofReading? r offset with
  | some t => return t
  | none => failure

/-- An internet timestamp. -/
def internetTimestamp : Scan Timestamp := do
  let r ← internetReading
  momentOf r (← zonedOffset (char ':'))

/-! ## Dates and times with free spacing -/

/-- A number after optional blanks. -/
def spacedNumber : Scan Nat := do
  blanks
  number 1 2

/-- A year after optional blanks: up to four digits, or any number of them after a sign. -/
def spacedYear : Scan Int := do
  blanks
  if ← peek (· == '-') then
    char '-'
    return -(digitsValue (← digits 1 none) : Int)
  else if ← peek (· == '+') then
    char '+'
    return digitsValue (← digits 1 none)
  else return ← number 1 4

/-- A date and time with the given marks between their parts. -/
def spacedReading (mark : Char → Scan Unit) (middle : Scan Unit) : Scan Reading := do
  let year ← spacedYear
  mark '-'
  let month ← spacedNumber
  mark '-'
  let day ← spacedNumber
  middle
  let hour ← spacedNumber
  mark ':'
  let minute ← spacedNumber
  mark ':'
  let second ← spacedNumber
  let nanos ← optionalFraction
  return ⟨⟨year, month, day⟩, hour, minute, second, nanos⟩

/-- A mark after optional blanks. -/
def spacedMark (c : Char) : Scan Unit := do
  blanks
  char c

/-- What may stand between the hours and the minutes of a relaxed offset. -/
def relaxedSeparator : Scan Unit :=
  modify fun cs => cs.dropWhile fun c => c == ':' || Text.isBlank c

/-- An offset, or a name for none. -/
def relaxedOffset : Scan Int := do
  match (← get) with
  | a :: b :: c :: rest =>
    if a.toLower = 'u' ∧ b.toLower = 't' ∧ c.toLower = 'c' then
      set rest
      return 0
    else zonedOffset relaxedSeparator
  | _ => zonedOffset relaxedSeparator

/-- An internet timestamp with free spacing. -/
def relaxedTimestamp : Scan Timestamp := do
  let r ← spacedReading spacedMark do
    if !(← peek fun c => c == 'T' || c == 't' || c == ' ') then failure
    modify List.tail
  blanks
  let t ← momentOf r (← relaxedOffset)
  blanks
  return t

/-- A date and time without an offset. -/
def plainTimestamp : Scan Timestamp := do
  let r ← spacedReading char (char 'T')
  momentOf r 0

/-! ## Mail timestamps -/

/-- The first three letters of a word, written small. -/
def shortWord : Scan String := do
  match (← get) with
  | a :: b :: c :: rest =>
    set rest
    return String.ofList [a.toLower, b.toLower, c.toLower]
  | _ => failure

/-- The short names of the days of the week. -/
def weekdayNames : List String := ["sun", "mon", "tue", "wed", "thu", "fri", "sat"]

/-- The short names of the months. -/
def monthNames : List String :=
  ["jan", "feb", "mar", "apr", "may", "jun", "jul", "aug", "sep", "oct", "nov", "dec"]

/-- A day of the week and a comma, if a day of the week stands at the start. -/
def mailWeekday? : Scan (Option Nat) := do
  match shortWord.run (← get) with
  | some (w, rest) =>
    match weekdayNames.idxOf? w with
    | some i =>
      set rest
      char ','
      return some i
    | none => return none
  | none => return none

/-- A year; two digits stand for a year near 2000, and three count from 1900. -/
def mailYear : Scan Nat := do
  let ds ← digits 2 none
  let n := digitsValue ds
  return if ds.length = 2 then if n ≤ 49 then n + 2000 else n + 1900
    else if ds.length = 3 then n + 1900
    else n

/-- The hours from universal time of the named zones. -/
def zoneHours? (name : String) : Option Int :=
  match name with
  | "gmt" | "ut" | "z" => some 0
  | "edt" => some (-4)
  | "est" | "cdt" => some (-5)
  | "cst" | "mdt" => some (-6)
  | "mst" | "pdt" => some (-7)
  | "pst" => some (-8)
  | name =>
    match name.toList with
    | [c] => if c ≠ 'j' then some 0 else none
    | _ => none

/-- Whether a character is an ASCII letter. -/
def isLetter (c : Char) : Bool := c.isAlpha

/-- A zone by its name, or an offset without a colon. -/
def mailOffset : Scan Int := do
  let cs ← get
  let name := cs.takeWhile isLetter
  if name.isEmpty then signedOffset (pure ()) false
  else
    match zoneHours? (String.ofList (name.map Char.toLower)) with
    | some hours =>
      set (cs.drop name.length)
      return hours * 3600
    | none => failure

/-- What follows a comment that is open to the given depth; a backslash takes the meaning from the
character after it. -/
def afterComment? : (depth : Nat) → List Char → Option (List Char)
  | _, [] => none
  | depth, c :: cs =>
    if c = '\\' then
      match cs with
      | _ :: rest => afterComment? depth rest
      | [] => none
    else if c = '(' then afterComment? (depth + 1) cs
    else if c = ')' then if depth ≤ 1 then some cs else afterComment? (depth - 1) cs
    else afterComment? depth cs

/-- The comments at the end, each after optional blanks; what is no comment is left. -/
def comments : (fuel : Nat) → List Char → List Char
  | 0, cs => cs
  | fuel + 1, cs =>
    match Text.trimStart cs with
    | '(' :: rest =>
      match afterComment? 1 rest with
      | some after => comments fuel after
      | none => cs
    | _ => cs

/-- The seconds after the minutes, if they are given.  Blanks may stand before their colon, but none
after it. -/
def mailSecond : Scan Nat := do
  match Text.trimStart (← get) with
  | ':' :: rest =>
    set rest
    fixedNumber 2
  | _ => return 0

/-- A mail timestamp.  A day of the week must be the right one. -/
def mailTimestamp : Scan Timestamp := do
  blanks
  let weekday ← mailWeekday?
  blanks
  let day ← number 1 2
  someBlanks
  let month ← match monthNames.idxOf? (← shortWord) with
    | some i => pure (i + 1)
    | none => failure
  someBlanks
  let year ← mailYear
  someBlanks
  let hour ← fixedNumber 2
  blanks
  char ':'
  blanks
  let minute ← fixedNumber 2
  let second ← mailSecond
  someBlanks
  let date : Civil := ⟨year, month, day⟩
  let t ← momentOf ⟨date, hour, minute, second, 0⟩ (← mailOffset)
  if weekday.any (· != date.weekday) then failure
  modify fun cs => comments (cs.length + 1) cs
  return t

/-! ## Reading and writing -/

namespace Timestamp

/-- An internet timestamp. -/
def ofInternet? (text : String) : Option Timestamp := Scan.all internetTimestamp text

/-- An internet timestamp with free spacing. -/
def ofRelaxed? (text : String) : Option Timestamp := Scan.all relaxedTimestamp text

/-- A mail timestamp. -/
def ofMail? (text : String) : Option Timestamp := Scan.all mailTimestamp text

/-- A date and time without an offset. -/
def ofPlain? (text : String) : Option Timestamp := Scan.all plainTimestamp text

/-- A timestamp in any of the formats that metadata comes in. -/
def ofText? (text : String) : Option Timestamp :=
  ofInternet? text <|> ofMail? text <|> ofPlain? text

/-- A number with leading zeros up to a width. -/
def padded (width n : Nat) : List Char :=
  let ds := Nat.toDigits 10 n
  List.replicate (width - ds.length) '0' ++ ds

/-- A year: four digits, or at least four of them after a sign when four would not tell it. -/
def renderYear (year : Int) : List Char :=
  if 0 ≤ year ∧ year ≤ 9999 then padded 4 year.toNat
  else (if year < 0 then '-' else '+') :: padded 4 year.natAbs

/-- A fraction of a second in groups of three digits, as many as are needed. -/
def renderFraction (nanos : Nat) : List Char :=
  if nanos = 0 then []
  else if nanos % 1000000 = 0 then '.' :: padded 3 (nanos / 1000000)
  else if nanos % 1000 = 0 then '.' :: padded 6 (nanos / 1000)
  else '.' :: padded 9 nanos

/-- An offset in hours and minutes, rounded to the minute. -/
def renderOffset (offset : Int) : List Char :=
  if offset = 0 then ['Z']
  else
    let minutes := (offset.natAbs + 30) / 60
    (if offset < 0 then '-' else '+') :: padded 2 (minutes / 60) ++ ':' :: padded 2 (minutes % 60)

/-- A timestamp in the strict internet form. -/
def renderChars (t : Timestamp) : List Char :=
  let r := t.reading
  renderYear r.date.year ++ '-' :: padded 2 r.date.month ++ '-' :: padded 2 r.date.day ++
    'T' :: padded 2 r.hour ++ ':' :: padded 2 r.minute ++ ':' :: padded 2 r.second ++
    renderFraction r.nanos ++ renderOffset t.offset

/-- A timestamp in the strict internet form, as text. -/
def render (t : Timestamp) : String := String.ofList t.renderChars

end Timestamp

end PatchStore.Time
