import PatchStore.Source.Literal
import PatchStore.Text.Quoted

/-!
# From text to token trees

White space and plain comments separate tokens; a documentation comment becomes the attribute
`#[doc = …]` that it abbreviates, or `#![doc = …]` when it documents what encloses it.  Block
comments nest.  At every other place a literal is tried first, then a mark of punctuation, then an
identifier.  One spelling that looks like a comment between parentheses is a literal: the
placeholder.

`lexTokens` reads one token at a time and keeps the groups that are still open, innermost first,
each with the tokens read so far in reverse.  A text is lexed exactly when it ends with no group
open.
-/

namespace PatchStore.Source

open PatchStore.Text

/-! ## White space and comments -/

/-- The rest of the line, and what follows it; a carriage return before the line feed belongs to
neither. -/
def spanLine : List Char → List Char × List Char
  | [] => ([], [])
  | '\n' :: rest => ([], '\n' :: rest)
  | '\r' :: '\n' :: rest => ([], '\n' :: rest)
  | c :: rest =>
    let (line, tail) := spanLine rest
    (c :: line, tail)

/-- A block comment inside `depth` open ones, up to and past its last closing mark: the text before
that mark and what follows it. -/
def spanBlock : Nat → List Char → Option (List Char × List Char)
  | _, [] => none
  | depth, '/' :: '*' :: rest =>
    (spanBlock (depth + 1) rest).map fun (body, tail) => ('/' :: '*' :: body, tail)
  | 1, '*' :: '/' :: rest => some ([], rest)
  | depth, '*' :: '/' :: rest =>
    (spanBlock (depth - 1) rest).map fun (body, tail) => ('*' :: '/' :: body, tail)
  | depth, c :: rest => (spanBlock depth rest).map fun (body, tail) => (c :: body, tail)

/-- Whether the character separates tokens: white space or a direction mark. -/
def isSeparator (c : Char) : Bool := isBlank c || c.toNat == 0x200E || c.toNat == 0x200F

/-- A plain comment at the start, which is passed over; documentation is not plain. -/
def skipComment? : List Char → Option (List Char)
  | '/' :: '/' :: rest =>
    match rest with
    | '/' :: '/' :: _ => some (spanLine rest).2
    | '/' :: _ => none
    | '!' :: _ => none
    | _ => some (spanLine rest).2
  | '/' :: '*' :: rest =>
    match rest with
    | '*' :: '/' :: tail => some tail
    | '*' :: '*' :: _ => (spanBlock 1 rest).map Prod.snd
    | '*' :: _ => none
    | '!' :: _ => none
    | _ => (spanBlock 1 rest).map Prod.snd
  | _ => none

/-- Passes over white space and plain comments. -/
def skipSeparators : Nat → List Char → List Char
  | 0, cs => cs
  | _ + 1, [] => []
  | fuel + 1, c :: rest =>
    if isSeparator c then skipSeparators fuel rest
    else
      match skipComment? (c :: rest) with
      | some tail => skipSeparators fuel tail
      | none => c :: rest

/-- Whether a carriage return stands without a line feed after it. -/
def hasBareReturn : List Char → Bool
  | [] => false
  | '\r' :: rest => rest.head? != some '\n' || hasBareReturn rest
  | _ :: rest => hasBareReturn rest

/-- A documentation comment at the start: its text, whether it documents what encloses it, and what
follows it. -/
def scanDocumentation? (cs : List Char) : Option (List Char × Bool × List Char) := do
  let (body, inner, rest) ←
    match cs with
    | '/' :: '/' :: '!' :: rest => some ((spanLine rest).1, true, (spanLine rest).2)
    | '/' :: '*' :: '!' :: rest =>
      (spanBlock 1 ('!' :: rest)).map fun (body, tail) => (body.drop 1, true, tail)
    | '/' :: '/' :: '/' :: rest =>
      if rest.head? = some '/' then none else some ((spanLine rest).1, false, (spanLine rest).2)
    | '/' :: '*' :: '*' :: rest =>
      if rest.head? = some '*' then none
      else (spanBlock 1 ('*' :: rest)).map fun (body, tail) => (body.drop 1, false, tail)
    | _ => none
  if hasBareReturn body then none else some (body, inner, rest)

/-- The text inside the quotation marks of a string literal.  An apostrophe stands for itself, and a
null character is written by its number where an octal digit follows it. -/
def escapeBody : List Char → List Char
  | [] => []
  | '\'' :: rest => '\'' :: escapeBody rest
  | '\x00' :: c :: rest =>
    (if '0' ≤ c ∧ c ≤ '7' then ['\\', 'x', '0', '0'] else ['\\', '0']) ++ escapeBody (c :: rest)
  | c :: rest => escape c ++ escapeBody rest

/-- The text as a string literal. -/
def quote (body : List Char) : List Char := '"' :: escapeBody body ++ ['"']

/-- The attribute that a documentation comment abbreviates. -/
def documentationTokens (body : List Char) (inner : Bool) : List Token :=
  let docAttribute := Token.group .bracket
    [.ident ⟨"doc", false⟩, .punct '=' false, .literal ⟨.string, quote body⟩]
  .punct '#' false :: ((if inner then [.punct '!' false] else []) ++ [docAttribute])

/-! ## Single tokens -/

/-- Whether the character is a mark of punctuation. -/
def isMark (c : Char) : Bool := "~!@#$%^&*-=+|;:,<.>/?'".toList.contains c

/-- Whether a mark of punctuation stands at the start; the slash of a comment is none. -/
def startsWithMark : List Char → Bool
  | '/' :: '/' :: _ => false
  | '/' :: '*' :: _ => false
  | c :: _ => isMark c
  | [] => false

/-- The names that cannot be written raw. -/
def neverRaw (name : List Char) : Bool :=
  ["_", "super", "self", "Self", "crate"].contains (String.ofList name)

/-- The identifier at the start, plain or raw, and what follows it. -/
def scanWord? : List Char → Option (Ident × List Char)
  | 'r' :: '#' :: cs => do
    let (name, rest) ← scanName? cs
    if neverRaw name then none else some (⟨String.ofList name, true⟩, rest)
  | cs => (scanName? cs).map fun (name, rest) => (⟨String.ofList name, false⟩, rest)

/-- What begins like a literal with a letter is no identifier. -/
def startsLikeLiteral (cs : List Char) : Bool :=
  ["r\"", "r#\"", "r##", "b\"", "b'", "br\"", "br#", "c\"", "cr\"", "cr#"].any fun start =>
    start.toList.isPrefixOf cs

/-- The mark of punctuation at the start and what follows it.  An apostrophe is one only where it
begins a lifetime. -/
def scanMark? (cs : List Char) : Option (Token × List Char) :=
  if !startsWithMark cs then none
  else
    match cs with
    | '\'' :: rest =>
      match scanWord? rest with
      | some (_, after) =>
        if after.head? = some '\'' then none
        else if after.head? = some '#' ∧ ¬(['r', '#'].isPrefixOf rest) then none
        else some (.punct '\'' true, rest)
      | none => none
    | c :: rest => some (.punct c (startsWithMark rest), rest)
    | [] => none

/-- A token other than a bracket at the start and what follows it. -/
def scanToken? (cs : List Char) : Option (Token × List Char) :=
  match Literal.scan? cs with
  | some (l, rest) => some (.literal l, rest)
  | none =>
    match scanMark? cs with
    | some found => some found
    | none =>
      if startsLikeLiteral cs then none
      else (scanWord? cs).map fun (i, rest) => (.ident i, rest)

/-! ## Token trees -/

/-- A group that is still open: its kind and the tokens before it, in reverse. -/
abbrev OpenGroup := Delimiter × List Token

/-- The kind of the group that is opened at the start; the placeholder for a literal opens none. -/
def openingBracket? (cs : List Char) : Option Delimiter :=
  if placeholderSpelling.isPrefixOf cs then none else cs.head?.bind Delimiter.ofOpening?

/-- Reads tokens to the end of the text; `done` holds those of the innermost open group, in
reverse. -/
def lexTokens : Nat → List OpenGroup → List Token → List Char → Option (List Token)
  | 0, _, _, _ => none
  | fuel + 1, opened, done, cs =>
    match skipSeparators (cs.length + 1) cs with
    | [] => if opened.isEmpty then some done.reverse else none
    | c :: rest =>
      match scanDocumentation? (c :: rest) with
      | some (body, inner, tail) =>
        lexTokens fuel opened ((documentationTokens body inner).reverse ++ done) tail
      | none =>
        match openingBracket? (c :: rest) with
        | some d => lexTokens fuel ((d, done) :: opened) [] rest
        | none =>
          match Delimiter.ofClosing? c with
          | some d =>
            match opened with
            | (e, before) :: outer =>
              if d = e then lexTokens fuel outer (.group d done.reverse :: before) rest else none
            | [] => none
          | none =>
            match scanToken? (c :: rest) with
            | some (t, tail) => lexTokens fuel opened (t :: done) tail
            | none => none

/-- The token trees of a text, which may begin with a byte order mark. -/
def lex? (text : String) : Option (List Token) :=
  let cs :=
    match text.toList with
    | c :: rest => if c.toNat = 0xFEFF then rest else c :: rest
    | [] => []
  lexTokens (cs.length + 1) [] [] cs

end PatchStore.Source
