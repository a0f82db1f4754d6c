import PatchStore.Source.Literal
import PatchStore.Source.Lookahead
import PatchStore.Source.Tree

/-!
# Reading trees from tokens

A `Parse` reads from the token trees that are left and either gives a value or fails; there is one
way to fail.  What stands in a group is read by a `Parse` of its own.  A group that is left before
its end is not an error at once: it sets the `leftover` mark, and whoever reads a whole text fails
at the end if the mark is set.

What is read is also written, in normal form.  Most tokens are written as they stand.  Lifetimes
come before other parameters and arguments; what is empty is left out, be it parameters, conditions
or the bounds after a colon; a position in a tuple is a decimal number.  A few forms are kept as
they stand as a whole, and so is all that they contain.

`Grammar` collects the readers that are used inside one another.  A deeper nesting of the source is
read by the grammar one level down, so that no reader ever calls itself.

* `captured`, `attributed` — readers that change what is written of what they read.
* `attempt`, `ahead` — trying does not fail, and looking ahead takes nothing.
-/

namespace PatchStore.Source

/-- The token trees still to be read, what has been written of those before them, the last first,
and whether some group was left before its end. -/
structure Cursor where
  rest : List Token
  written : List Token
  leftover : Bool

/-- The start of the given tokens. -/
def Cursor.start (ts : List Token) : Cursor := ⟨ts, [], false⟩

/-- Whether all tokens were read, those in groups as well. -/
def Cursor.isDone (c : Cursor) : Bool := c.rest.isEmpty && !c.leftover

/-- A reader of trees. -/
abbrev Parse := StateT Cursor Option

/-- The token that a position in a tuple is written as. -/
def positionToken (index : Nat) : Token := .literal ⟨.integer, Nat.toDigits 10 index⟩

namespace Parse

variable {α : Type}

/-- Tests the tokens to come. -/
def peek (test : List Token → Bool) : Parse Bool := return test (← get).rest

/-- Whether nothing is left. -/
def atEnd : Parse Bool := peek List.isEmpty

/-- The number of token trees left. -/
def remaining : Parse Nat := return (← get).rest.length

/-! ## Writing -/

/-- Takes tokens and writes them as they stand. -/
def take (n : Nat) : Parse Unit := modify fun c =>
  { c with rest := c.rest.drop n, written := (c.rest.take n).reverse ++ c.written }

/-- Writes tokens. -/
def write (ts : List Token) : Parse Unit := modify fun c =>
  { c with written := ts.reverse ++ c.written }

/-- Runs a reader and gives what it wrote, without writing it. -/
def captured (p : Parse α) : Parse (α × List Token) := do
  let before := (← get).written
  modify fun c => { c with written := [] }
  let x ← p
  let tokens := (← get).written.reverse
  modify fun c => { c with written := before }
  return (x, tokens)

/-- Runs a reader without writing anything. -/
def unwritten (p : Parse α) : Parse α := do
  let (x, _) ← captured p
  return x

/-- Runs a reader and gives what it took. -/
def taken (p : Parse α) : Parse (α × List Token) := do
  let before := (← get).rest
  let x ← p
  let after := (← get).rest
  return (x, before.take (before.length - after.length))

/-- Runs a reader; where the test says so, what it took is kept as it stands. -/
def verbatimIf (test : α → Bool) (p : Parse α) : Parse α := do
  let ((x, raw), tokens) ← captured (taken p)
  write (if test x then raw else tokens)
  return x

/-- Runs a reader after attributes and writes them as what is read demands. -/
def attributed (attributes : List Token) (attribution : α → Attribution) (p : Parse α) :
    Parse α := do
  let (x, tokens) ← captured p
  if attributes.isEmpty then write tokens
  else
    match attribution x with
    | .plain => write (attributes ++ tokens)
    | .dropped => write tokens
    | .parenthesized => write (attributes ++ [.group .paren tokens])
  return x

/-! ## Taking tokens -/

/-- Takes a mark. -/
def mark (m : String) : Parse Unit := do
  if ← peek (atMark m) then take m.length else failure

/-- Takes a mark if it stands at the start, and says whether it did. -/
def mark? (m : String) : Parse Bool := do
  let follows ← peek (atMark m)
  if follows then take m.length
  return follows

/-- Takes an identifier or a reserved word. -/
def anyIdent : Parse Ident := do
  match (← get).rest with
  | .ident i :: _ => take 1; return i
  | _ => failure

/-- Takes an identifier. -/
def ident : Parse Ident := do
  if ← peek atIdent then anyIdent else failure

/-- Takes a word. -/
def word (w : String) : Parse Unit := do
  if ← peek (atWord w) then take 1 else failure

/-- Takes a word if it stands at the start, and says whether it did. -/
def word? (w : String) : Parse Bool := do
  let follows ← peek (atWord w)
  if follows then take 1
  return follows

/-- Takes an identifier or one of the given words. -/
def identOr (words : List String) : Parse Unit := do
  if ← peek fun ts => atIdent ts || atAnyWord words ts then take 1 else failure

/-- Takes a lifetime. -/
def lifetime : Parse Unit := do
  if ← peek atLifetime then take 2 else failure

/-- Takes a lifetime if one stands at the start. -/
def lifetime? : Parse Unit := do
  if ← peek atLifetime then take 2

/-- Takes a literal. -/
def literal : Parse Unit := do
  if !(← peek atLiteral) then failure
  take (if ← peek (atMark "-") then 2 else 1)

/-- Takes a string literal and gives the text that it denotes. -/
def stringLiteral : Parse String := do
  match (← get).rest with
  | .literal l :: _ =>
    match l.stringValue? with
    | some s => take 1; return s
    | none => failure
  | _ => failure

/-- Takes a position in a tuple. -/
def position : Parse Nat := do
  match (← get).rest with
  | .literal l :: _ =>
    match l.index? with
    | some i =>
      unwritten (take 1)
      write [positionToken i]
      return i
    | none => failure
  | _ => failure

/-- Takes a group of any kind and gives what stands in it. -/
def anyGroup : Parse (Delimiter × List Token) := do
  match (← get).rest with
  | .group d body :: _ => take 1; return (d, body)
  | _ => failure

/-- Takes a group and gives what stands in it. -/
def groupBody (d : Delimiter) : Parse (List Token) := do
  if !(← peek (atGroup d)) then failure
  return (← anyGroup).2

/-- Reads what stands in a group of the given kind. -/
def within (d : Delimiter) (inner : Parse α) : Parse α := do
  let body ← unwritten (groupBody d)
  let outside ← get
  set { outside with rest := body, written := [] }
  let x ← inner
  let inside ← get
  set (⟨outside.rest, .group d inside.written.reverse :: outside.written,
    inside.leftover || !inside.rest.isEmpty⟩ : Cursor)
  return x

/-- Reads a whole text: nothing may be left, neither at the end nor in any group. -/
def all (p : Parse α) (ts : List Token) : Option α := do
  let (x, c) ← p.run (.start ts)
  if c.isDone then some x else none

/-! ## Trying -/

/-- Runs a reader if it does not fail. -/
def attempt (p : Parse α) : Parse (Option α) := fun c =>
  some <| match p.run c with
    | some (x, after) => (some x, after)
    | none => (none, c)

/-- Runs a test that takes tokens, and takes none; a failure is no. -/
def ahead (test : Parse Bool) : Parse Bool := fun c => some ((test.run c).any Prod.fst, c)

/-! ## Repetition -/

/-- Repeats a step until it says that it is done, which must be within `fuel` times. -/
def repeatUntil (step : List α → Parse (List α × Bool)) : Nat → List α → Parse (List α)
  | 0, _ => failure
  | fuel + 1, acc => do
    let (acc, done) ← step acc
    if done then return acc.reverse else repeatUntil step fuel acc

/-- What a step gives up to where it says that nothing more follows. -/
def gather (step : List α → Parse (List α × Bool)) : Parse (List α) := do
  repeatUntil step ((← remaining) + 1) []

/-- Items up to an ending, each of which may depend on those before it, with commas between them and
perhaps after the last one. -/
def listUntil (ending : Parse Bool) (item : List α → Parse α) : Parse (List α) :=
  gather fun acc => do
    if ← ending then return (acc, true)
    let x ← item acc.reverse
    if ← ending then return (x :: acc, true)
    mark ","
    return (x :: acc, false)

/-- Items to the end of the tokens, with commas between them and perhaps after the last one. -/
def commaList (item : Parse α) : Parse (List α) := listUntil atEnd fun _ => item

/-- Items to the end of the tokens, one after the other. -/
def itemsToEnd (item : Parse α) : Parse (List α) :=
  gather fun acc => do
    if ← atEnd then return (acc, true)
    return ((← item) :: acc, false)

/-- Items up to a closing angle bracket, with commas between them and perhaps after the last one.
Those that are lifetimes are written first. -/
def lifetimesFirst (isLifetime : α → Bool) (item : Parse α) : Parse (List α) := do
  let items ← gather fun acc => do
    if ← peek (atMark ">") then return (acc, true)
    let (x, tokens) ← captured item
    if ← peek (atMark ">") then return ((x, tokens, false) :: acc, true)
    unwritten (mark ",")
    return ((x, tokens, true) :: acc, false)
  let (lifetimes, others) := items.partition fun entry => isLifetime entry.1
  let writeEntry (needsComma : Bool) : α × List Token × Bool → Parse Unit
    | (_, tokens, comma) =>
      write (if comma || needsComma then tokens ++ Token.ofMark "," else tokens)
  lifetimes.forM (writeEntry (!others.isEmpty))
  others.forM (writeEntry false)
  return items.map Prod.fst

end Parse

/-! ## The grammar -/

/-- The readers that are used inside one another. -/
structure Grammar where
  /-- A type; the flag says whether bounds may be added to it. -/
  type : Bool → Parse TypeExpr
  /-- A bound, and whether it is a trait rather than a lifetime; the flags say whether captured
  parameters may be listed and whether a trait may be marked constant. -/
  bound : Bool → Bool → Parse Bool
  /-- An expression; the flag says whether it may be a struct expression. -/
  expr : Bool → Parse Expr
  /-- An expression in the place of a statement, which a block-like form ends. -/
  statementExpr : Parse Expr
  /-- An expression without binary operators. -/
  operand : Bool → Parse Expr
  /-- The operators of at least the given class after a left operand. -/
  operators : Bool → Precedence → Expr → Parse Expr
  /-- A pattern without alternatives at the top. -/
  pattern : Parse Pattern
  /-- The statements of a block, without its braces. -/
  statements : Parse Unit
  /-- A declaration after its attributes; says whether it is kept as it stands. -/
  declaration : Parse Bool
  /-- Fields with names, between braces. -/
  fields : Parse Unit

/-- The grammar that reads nothing. -/
def Grammar.empty : Grammar where
  type _ := failure
  bound _ _ := failure
  expr _ := failure
  statementExpr := failure
  operand _ := failure
  operators _ _ _ := failure
  pattern := failure
  statements := failure
  declaration := failure
  fields := failure

end PatchStore.Source
