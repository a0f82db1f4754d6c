import PatchStore.Source.Grammar.Item

/-!
# Statements

The statements of a block are `let` statements, items, macro calls and expressions.  An expression
must be followed by a semicolon unless it is the last one, a block-like form or a braced macro call.
-/

namespace PatchStore.Source

open Parse

/-! ## The start of a statement -/

/-- Whether a constant stands at the start rather than a block or a closure. -/
def atConstant (ts : List Token) : Bool :=
  let closed : List Token → Bool := fun ts =>
    atGroup .brace ts || atAnyWord ["static", "move"] ts || atMark "|" ts
  let asyncClosure := second (atWord "async") ts && !third (atAnyWord ["unsafe", "extern", "fn"]) ts
  atWord "const" ts && !second closed ts && !asyncClosure

/-- Whether an item stands at the start of a statement. -/
def atItem (ts : List Token) : Bool :=
  atAnyWord
    ["pub", "extern", "use", "fn", "mod", "type", "struct", "enum", "trait", "impl", "macro"] ts ||
    (atWord "crate" ts && !second (atMark "::") ts) ||
    (atWord "static" ts && second (fun ts => atWord "mut" ts || atIdent ts) ts) ||
    atConstant ts ||
    (atWord "unsafe" ts && !second (atGroup .brace) ts) ||
    (atWord "async" ts && second (atAnyWord ["unsafe", "extern", "fn"]) ts) ||
    (atWord "union" ts && second atIdent ts) ||
    (atWord "auto" ts && second (atWord "trait") ts) ||
    (atWord "default" ts && second (atAnyWord ["unsafe", "impl"]) ts)

/-- Whether a macro call stands at the start that satisfies the test after its exclamation mark. -/
def macroFollows (test : List Token → Bool) : Parse Bool :=
  ahead (plainPath *> peek fun ts => atMark "!" ts && second test ts)

/-- Whether a braced group stands at the start that a statement can end after. -/
def atLastBrace (ts : List Token) : Bool :=
  atGroup .brace ts && !second (fun ts => atPoint ts || atMark "?" ts) ts

/-! ## Statements -/

/-- A `let` statement.  An alternative for the case that its pattern does not match may follow a
value that does not end in a brace. -/
def letStatement (g : Grammar) : Parse Unit := do
  word "let"
  discard g.pattern
  if ← mark? ":" then discard (g.type true)
  if ← mark? "=" then
    let (_, tokens) ← taken (g.expr true)
    let braced := atGroup .brace (tokens.drop (tokens.length - 1))
    if !braced then
      if ← word? "else" then block g
  mark ";"

/-- How a statement ends: as an item that is kept as it stands, or as any other statement, after
which a semicolon may be wanting. -/
inductive StatementEnd where
  | verbatim
  | complete
  | incomplete
  deriving DecidableEq

/-- Whether an expression is a statement without a semicolon. -/
def Expr.isStatement : Expr → Bool
  | .other (.macroCall braced) => braced
  | e => e.isBlockLike

/-- One statement.  The attributes of an expression belong to the operand that it begins with. -/
def statement (g : Grammar) : Parse StatementEnd := verbatimIf (· = .verbatim) do
  let attributes ← attributeTokens g
  if ← macroFollows atLastBrace then
    write attributes
    discard plainPath
    mark "!"
    discard anyGroup
    discard (mark? ";")
    return .complete
  else if ← peek (atWord "let") then
    write attributes
    letStatement g
    return .complete
  else if (← macroFollows fun ts => atIdent ts || atWord "try" ts) || (← peek atItem) then
    write attributes
    return if ← g.declaration then .verbatim else .complete
  else
    let e ← attributed attributes (fun e => e.leftmost.attribution) g.statementExpr
    return if (← mark? ";") || e.isStatement then .complete else .incomplete

/-- The statements of a block, without its braces. -/
def statements (g : Grammar) : Parse Unit := discard <| gather fun (acc : List Unit) => do
  if ← mark? ";" then return (acc, false)
  if ← atEnd then return (acc, true)
  let ending ← statement g
  if ← atEnd then return (acc, true)
  if ending = .incomplete then failure
  return (acc, false)

end PatchStore.Source
