import PatchStore.Source.Grammar.Pattern

/-!
# Operators

An expression is an operand followed by operators.  `operators` takes those of at least a given
class, and `rightOperand` lets those bind first that are tighter than the operator on its left.

The flag `struct` says whether a name before a brace begins a struct expression; it does not where
the brace opens the body of a condition or a loop.

* `nextPrecedence` — the class of the operator that comes next.
-/

namespace PatchStore.Source

open Parse

/-! ## Classes -/

/-- The binary operators in the order in which they are tried, with their classes. -/
def binaryOperators : List (String × Precedence) :=
  [("+=", .assign), ("-=", .assign), ("*=", .assign), ("/=", .assign), ("%=", .assign),
   ("^=", .assign), ("&=", .assign), ("|=", .assign), ("<<=", .assign), (">>=", .assign),
   ("&&", .and), ("||", .or), ("<<", .shift), (">>", .shift), ("==", .compare), ("<=", .compare),
   ("!=", .compare), (">=", .compare), ("+", .sum), ("-", .sum), ("*", .product), ("/", .product),
   ("%", .product), ("^", .bitXor), ("&", .bitAnd), ("|", .bitOr), ("<", .compare),
   (">", .compare)]

/-- The binary operator that stands at the start. -/
def binaryOperator? (ts : List Token) : Option (String × Precedence) :=
  binaryOperators.find? fun op => atMark op.1 ts

/-- Whether an equals sign stands at the start that does not belong to an arrow. -/
def atAssignment (ts : List Token) : Bool := atMark "=" ts && !atMark "=>" ts

/-- The class of whatever operator stands at the start. -/
def nextPrecedence (ts : List Token) : Precedence :=
  match binaryOperator? ts with
  | some (_, p) => p
  | none =>
    if atAssignment ts then .assign
    else if atMark ".." ts then .range
    else if atWord "as" ts then .cast
    else .jump

/-! ## Operands -/

/-- The right operand of an operator of the given class: an operand and the tighter operators after
it.  Assignments group from the right. -/
def rightOperand (g : Grammar) (struct : Bool) (outer : Precedence) : Parse Expr := do
  let rec loop : Nat → Expr → Parse Expr
    | 0, _ => failure
    | fuel + 1, e => do
      let next := nextPrecedence (← get).rest
      if outer.rank < next.rank || (next == outer && outer == .assign) then
        let before ← remaining
        let e ← g.operators struct next e
        if (← remaining) == before then return e else loop fuel e
      else return e
  let first ← g.operand struct
  loop ((← remaining) + 1) first

/-- Whether a range has no upper bound here. -/
def atRangeEnd (struct : Bool) (ts : List Token) : Bool :=
  ts.isEmpty || atMark "," ts || atMark ";" ts || atPoint ts || atMark "?" ts || atMark "=>" ts ||
    (!struct && atGroup .brace ts) || atMark "=" ts || atMark "+" ts || atMark "/" ts ||
    atMark "%" ts || atMark "^" ts || atMark ">" ts || atMark "<=" ts || atMark "!=" ts ||
    atMark "-=" ts || atMark "*=" ts || atMark "&=" ts || atMark "|=" ts || atMark "<<=" ts ||
    atWord "as" ts

/-- The dots of a range and its upper bound; a closed range must have one. -/
def rangeTail (g : Grammar) (struct : Bool) : Parse Unit := do
  let closed ← rangeMark false
  let ends ← peek (atRangeEnd struct)
  if closed || !ends then discard (rightOperand g struct .range)

/-- Whether nothing follows a cast that would apply to its operand. -/
def afterCast (ts : List Token) : Bool :=
  !(atPoint ts || atMark "?" ts || atGroup .bracket ts || atGroup .paren ts)

/-- The operators of at least the given class after a left operand. -/
def operators (g : Grammar) (struct : Bool) (least : Precedence) (left : Expr) : Parse Expr := do
  let rec loop : Nat → Expr → Parse Expr
    | 0, _ => failure
    | fuel + 1, e => do
      if e.isRange then return e
      let ts := (← get).rest
      match binaryOperator? ts with
      | some (op, p) =>
        if p.rank < least.rank then return e
        if p == .compare && e.isComparison then failure
        mark op
        let right ← rightOperand g struct p
        loop fuel (.binary p e right)
      | none =>
        if least.rank ≤ Precedence.assign.rank && atAssignment ts then
          mark "="
          discard (rightOperand g struct .assign)
          loop fuel (.assign e)
        else if least.rank ≤ Precedence.range.rank && atMark ".." ts then
          rangeTail g struct
          loop fuel (.other .range)
        else if least.rank ≤ Precedence.cast.rank && atWord "as" ts then
          word "as"
          discard (g.type false)
          if !(← peek afterCast) then failure
          loop fuel (.cast e)
        else return e
  loop ((← remaining) + 1) left

end PatchStore.Source
