import PatchStore.Source.Grammar.Operator
import PatchStore.Text.Split

/-!
# Expressions

An operand is a prefix operator with its operand, or an atom with its trailers: calls, field
accesses, method calls, indexing.  In the place of a statement or of a match arm's body an
expression ends after a block-like form, unless a point or a question mark goes on with it.

* `positionsOfFloat_single` — a text without a point is a single position.
-/

namespace PatchStore.Source

open Parse

/-! ## Trailers -/

/-- A float literal after a point is two positions, or one position and another point: the positions
that it stands for, and whether a point is left over. -/
def positionsOfFloat? (spelling : List Char) : Option (List Nat × Bool) := do
  let trailing := spelling.getLast? == some '.'
  let digits := if trailing then spelling.dropLast else spelling
  return (← (Text.splitAtChar '.' digits).mapM indexOf?, trailing)

/-- A text without a point is a single position. -/
theorem positionsOfFloat_single {cs : List Char} {n : Nat} (hp : '.' ∉ cs)
    (h : indexOf? cs = some n) : positionsOfFloat? cs = some ([n], false) := by
  have hl : (cs.getLast? == some '.') = false := by
    simpa using fun e => hp (List.mem_of_getLast? e)
  simp [positionsOfFloat?, hl, Text.splitAtChar_of_not_mem hp, h]

/-- What follows a point: a position, a name, a method call, or a wait for the value. -/
def memberAccess (g : Grammar) (base : Expr) : Parse Expr := do
  if ← word? "await" then return .other .plain
  if !(← peek atIdent) then return .field base (.position (← position))
  let name ← ident
  let turbofish ← mark? "::"
  if turbofish then discard (genericArguments g)
  if turbofish || (← peek (atGroup .paren)) then
    discard (within .paren (commaList (g.expr true)))
    return .methodCall base name
  return .field base (.named name)

/-- What follows a point, where a float literal stands for several accesses. -/
def accesses (g : Grammar) (base : Expr) : Parse Expr := do
  match (← get).rest with
  | .literal ⟨.float, spelling⟩ :: _ =>
    match positionsOfFloat? spelling with
    | some (indices, trailing) =>
      unwritten (take 1)
      let points := List.replicate (indices.length - 1) true ++ [trailing]
      (indices.zip points).forM fun (i, point) => do
        write [positionToken i]
        if point then write (Token.ofMark ".")
      let e := indices.foldl (fun e i => .field e (.position i)) base
      if trailing then memberAccess g e else return e
    | none => failure
  | _ => memberAccess g base

/-- The trailers of an atom. -/
def trailers (g : Grammar) (atom : Expr) : Parse Expr := do
  let rec loop : Nat → Expr → Parse Expr
    | 0, _ => failure
    | fuel + 1, e => do
      let ts := (← get).rest
      if atGroup .paren ts then
        discard (within .paren (commaList (g.expr true)))
        loop fuel (.call e)
      else if atPoint ts && !e.isRange then
        mark "."
        loop fuel (← accesses g e)
      else if atGroup .bracket ts then
        discard (within .bracket (g.expr true))
        loop fuel (.index e)
      else if atMark "?" ts && !e.isRange then
        mark "?"
        loop fuel (.other .plain)
      else return e
  loop ((← remaining) + 1) atom

/-! ## Paths, lists and structs -/

/-- One field of a struct expression. -/
def fieldValue (g : Grammar) : Parse Unit := do
  discard (outerAttributes g)
  let named ← peek atIdent
  if named then discard ident else discard position
  if !named || (← peek (atMark ":")) then
    mark ":"
    discard (g.expr true)

/-- The fields of a struct expression, and the value that the others come from. -/
def structBody (g : Grammar) : Parse Unit := discard <| commaList do
  if ← mark? ".." then
    if !(← atEnd) then
      discard (g.expr true)
      if !(← atEnd) then failure
  else fieldValue g

/-- A path, a macro call or a struct expression. -/
def pathExpr (g : Grammar) (struct : Bool) : Parse Expr := do
  let p ← path g true
  match ← macroCall? p with
  | some d => return .other (.macroCall (d == .brace))
  | none =>
    if struct && (← peek (atGroup .brace)) then
      within .brace (structBody g)
      return .other .plain
    else return .path p

/-- An expression between parentheses, or a tuple of expressions. -/
def parenExpr (g : Grammar) : Parse Expr := within .paren do
  if ← atEnd then return .other .plain
  let first ← g.expr true
  if ← atEnd then return .paren first
  mark ","
  discard (commaList (g.expr true))
  return .other .plain

/-- The items of an array, or one item and their number. -/
def arrayExpr (g : Grammar) : Parse Expr := within .bracket do
  if ← atEnd then return .other .plain
  discard (g.expr true)
  if ← mark? ";" then discard (g.expr true)
  else if !(← atEnd) then
    mark ","
    discard (commaList (g.expr true))
  return .other .plain

/-! ## Closures -/

/-- One parameter of a closure. -/
def closureParameter (g : Grammar) : Parse Pattern := do
  let attributes ← attributeTokens g
  attributed attributes Pattern.attribution do
    let p ← g.pattern
    if !(← mark? ":") then return p
    discard (g.type true)
    return .typed p

/-- Whether a closure stands at the start. -/
def atClosure (ts : List Token) : Bool :=
  atMark "|" ts || atWord "move" ts || (atWord "for" ts && second atParameters ts) ||
    (atWord "const" ts && !second (atGroup .brace) ts) || atWord "static" ts ||
    (atWord "async" ts && second (fun ts => atMark "|" ts || atWord "move" ts) ts)

/-- A closure: with a result type its body is a block. -/
def closure (g : Grammar) (struct : Bool) : Parse Expr := do
  discard (binder? g)
  for w in ["const", "static", "async", "move"] do discard (word? w)
  mark "|"
  let parameters ← listUntil (peek (atMark "|")) fun _ => closureParameter g
  mark "|"
  if ← mark? "->" then
    discard (g.type true)
    block g
    return .closure parameters (.other .blockLike)
  else return .closure parameters (← g.expr struct)

/-! ## Jumps -/

/-- Whether an expression may begin here. -/
def atExpr (ts : List Token) : Bool :=
  (atAnyIdent ts && !atWord "as" ts) || atGroup .paren ts || atGroup .bracket ts ||
    atGroup .brace ts || atLiteral ts || atBang ts ||
    (atMark "-" ts && !atMark "-=" ts && !atMark "->" ts) || (atMark "*" ts && !atMark "*=" ts) ||
    (atMark "|" ts && !atMark "|=" ts) || (atMark "&" ts && !atMark "&=" ts) || atMark ".." ts ||
    (atMark "<" ts && !atMark "<=" ts && !atMark "<<=" ts) || atMark "::" ts || atLifetime ts ||
    atMark "#" ts

/-- A label and the value that a loop or a block is left with. -/
def breakTail (g : Grammar) (struct : Bool) : Parse Unit := do
  if ← peek fun ts => atLifetime ts && second (atMark ":") ts then failure
  lifetime?
  if ← peek fun ts => atExpr ts && (struct || !atGroup .brace ts) then discard (g.expr true)

/-! ## Block-like forms -/

/-- A condition, its block and what else is done. -/
def conditional (g : Grammar) : Parse Unit := do
  let rec loop : Nat → Parse Unit
    | 0 => failure
    | fuel + 1 => do
      word "if"
      discard (g.expr false)
      block g
      if ← word? "else" then
        if ← peek (atWord "if") then loop fuel else block g
  loop ((← remaining) + 1)

/-- One arm of a match. -/
def matchArm (g : Grammar) : Parse Unit := do
  discard (outerAttributes g)
  discard (alternatives g)
  if ← word? "if" then discard (g.expr true)
  mark "=>"
  let body ← g.statementExpr
  let needsComma := !body.isBlockLike
  if needsComma && !(← atEnd) then mark "," else discard (mark? ",")

/-- The arms of a match. -/
def matchBody (g : Grammar) : Parse Unit := within .brace do
  innerAttributes g
  discard (itemsToEnd (matchArm g))

/-- A loop or block after its label. -/
def labeled (g : Grammar) : Parse Unit := do
  if ← word? "while" then discard (g.expr false)
  else if ← word? "for" then
    discard (alternatives g)
    word "in"
    discard (g.expr false)
  else discard (word? "loop")
  attributedBlock g

/-- Whether a loop stands at the start. -/
def atLoop (ts : List Token) : Bool :=
  atAnyWord ["while", "loop"] ts || (atWord "for" ts && !second atParameters ts)

/-- The block-like form at the start, if one stands there: those that end a statement by
themselves. -/
def blockLike? (g : Grammar) : Parse Bool := do
  if ← peek (atWord "if") then conditional g
  else if ← peek atLoop then labeled g
  else if ← word? "match" then
    discard (g.expr false)
    matchBody g
  else if ← peek fun ts => atWord "try" ts && second (atGroup .brace) ts then
    word "try"
    block g
  else if ← word? "unsafe" then attributedBlock g
  else if ← peek fun ts => atWord "const" ts && second (atGroup .brace) ts then
    word "const"
    attributedBlock g
  else if ← peek (atGroup .brace) then attributedBlock g
  else if ← peek atLifetime then
    lifetime
    mark ":"
    labeled g
  else return false
  return true

/-! ## Operands -/

/-- Whether an asynchronous block stands at the start. -/
def atAsyncBlock (ts : List Token) : Bool :=
  atWord "async" ts &&
    (second (atGroup .brace) ts || (second (atWord "move") ts && third (atGroup .brace) ts))

/-- Whether a path stands at the start of an expression. -/
def atPathExpr (ts : List Token) : Bool :=
  atPath ts || (atWord "try" ts && second (fun ts => atMark "!" ts || atMark "::" ts) ts)

/-- An expression without operators and trailers. -/
def atom (g : Grammar) (struct : Bool) : Parse Expr := do
  if ← peek atLiteral then
    literal
    return .literal
  else if ← peek atAsyncBlock then
    word "async"
    discard (word? "move")
    block g
    return .other .plain
  else if ← peek atClosure then closure g struct
  else if ← peek atBuiltin then
    builtinForm
    return .other .verbatim
  else if ← peek atPathExpr then pathExpr g struct
  else if ← peek (atGroup .paren) then parenExpr g
  else if ← word? "break" then
    breakTail g struct
    return .other .plain
  else if ← word? "continue" then
    lifetime?
    return .other .plain
  else if ← peek (atAnyWord ["return", "yield"]) then
    discard anyIdent
    if ← peek atExpr then discard (g.expr true)
    return .other .plain
  else if ← word? "become" then
    discard (g.expr true)
    return .other .verbatim
  else if ← peek (atGroup .bracket) then arrayExpr g
  else if ← word? "let" then
    discard (alternatives g)
    mark "="
    let e ← g.operand struct
    discard (g.operators struct .compare e)
    return .other .plain
  else if ← peek (atMark "..") then
    rangeTail g struct
    return .other .range
  else if ← word? "_" then return .other .plain
  else if ← blockLike? g then return .other .blockLike
  else failure

/-- Whether a raw reference is taken after its sign. -/
def atRawReference (ts : List Token) : Bool :=
  atWord "raw" ts && second (atAnyWord ["mut", "const"]) ts

/-- An expression without binary operators.  What is kept as it stands includes its attributes. -/
def operand (g : Grammar) (struct : Bool) : Parse Expr := verbatimIf Expr.isVerbatim do
  let attributes ← outerAttributes g
  if ← mark? "&" then
    if ← peek atRawReference then
      word "raw"
      if !(← word? "mut") then word "const"
      discard (g.operand struct)
      return .other .plain
    discard (word? "mut")
    return .reference (← g.operand struct)
  else if ← peek fun ts => atMark "*" ts || atMark "!" ts || atMark "-" ts then
    take 1
    return .unary (← g.operand struct)
  else
    let e ← trailers g (← atom g struct)
    if e.isRange && !attributes.isEmpty then failure
    return e

/-- An expression. -/
def expr (g : Grammar) (struct : Bool) : Parse Expr := do
  let e ← operand g struct
  operators g struct .jump e

/-- An expression in the place of a statement or of a match arm's body.  Its attributes belong to
what it begins with. -/
def statementExpr (g : Grammar) : Parse Expr := do
  let attributes ← attributeTokens g
  let (blockLike, tokens) ← captured (blockLike? g)
  if blockLike then
    write (attributes ++ tokens)
    if ← peek fun ts => atPoint ts || atMark "?" ts then
      let e ← trailers g (.other .blockLike)
      operators g true .jump e
    else return .other .blockLike
  else
    let e ← attributed attributes Expr.attribution (operand g true)
    operators g true .jump e

end PatchStore.Source
