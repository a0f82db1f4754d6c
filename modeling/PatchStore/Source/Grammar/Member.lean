import PatchStore.Source.Grammar.Function

/-!
# Members of traits, implementations and foreign blocks

The three kinds of blocks hold functions, constants or values, types and macro calls, and differ in
what may be left out or added.  Every reader of a member says whether the member is kept as it
stands, because it has a form that the language has not settled.
-/

namespace PatchStore.Source

open Parse

/-! ## Constants and types -/

/-- A constant; it is kept as it stands if it has parameters or conditions, or lacks a value that it
needs. -/
def constant (g : Grammar) (needsValue : Bool) : Parse Bool := do
  word "const"
  identOr ["_"]
  let parametrized ← peek (atMark "<")
  discard (parameters g)
  mark ":"
  discard (g.type true)
  let valued ← mark? "="
  if valued then discard (g.expr true)
  let conditional ← whereClause g
  mark ";"
  return parametrized || conditional || (needsValue && !valued)

/-- Where the conditions on the parameters of a type stand: before its definition, after it, or in
either place. -/
inductive ConditionPlace where
  | before
  | after
  | either
  deriving DecidableEq

/-- A name for a type; says whether bounds are announced and whether a definition is given. -/
def typeName (g : Grammar) (place : ConditionPlace) : Parse (Bool × Bool) := do
  word "type"
  discard ident
  discard (parameters g)
  let bounded ← peek (atMark ":")
  optionalBounds (fun ts => atWord "where" ts || atMark "=" ts || atMark ";" ts) (constantBound g)
  let conditional ← if place = .after then pure false else whereClause g
  let defined ← mark? "="
  if defined then discard (g.type true)
  if place ≠ .before ∧ !conditional then discard (whereClause g)
  mark ";"
  return (bounded, defined)

/-- A macro call as a member. -/
def macroMember : Parse Unit := do
  discard plainPath
  mark "!"
  let (d, _) ← anyGroup
  if d != .brace then mark ";"

/-! ## Members -/

/-- A member of a trait. -/
def traitMember (g : Grammar) : Parse Bool := do
  discard (outerAttributes g)
  let visible ← visibility
  let specialized ← word? "default"
  let marked := visible || specialized
  if ← functionFollows false then
    discard (function g)
    return marked
  else if ← peek (atWord "const") then return (← constant g false) || marked
  else if ← peek (atWord "type") then
    discard (typeName g .after)
    return marked
  else if marked then failure
  else
    if !(← peek atMacroPath) then failure
    macroMember
    return false

/-- A member of an implementation. -/
def implementationMember (g : Grammar) : Parse Bool := do
  discard (outerAttributes g)
  let visible ← visibility
  let specialized ← peek fun ts => atWord "default" ts && !second (atMark "!") ts
  if specialized then word "default"
  if ← functionFollows false then function g
  else if ← peek (atWord "const") then constant g true
  else if ← peek (atWord "type") then
    let (bounded, defined) ← typeName g .after
    return bounded || !defined
  else if visible || specialized then failure
  else
    if !(← peek atMacroPath) then failure
    macroMember
    return false

/-- A foreign value, which may be marked safe or unsafe. -/
def foreignValue (g : Grammar) : Parse Bool := do
  let isUnsafe ← word? "unsafe"
  let safe ← if isUnsafe then pure false else word? "safe"
  word "static"
  discard (word? "mut")
  discard ident
  mark ":"
  discard (g.type true)
  let valued ← mark? "="
  if valued then discard (g.expr true)
  mark ";"
  return isUnsafe || safe || valued

/-- Whether a foreign value stands at the start. -/
def atForeignValue (ts : List Token) : Bool :=
  atWord "static" ts || (atAnyWord ["unsafe", "safe"] ts && second (atWord "static") ts)

/-- A member of a foreign block. -/
def foreignMember (g : Grammar) : Parse Bool := do
  discard (outerAttributes g)
  let visible ← visibility
  if ← functionFollows true then
    let safe ← signature g true
    let bodied ← peek (atGroup .brace)
    if bodied then attributedBlock g else mark ";"
    return safe || bodied
  else if ← peek atForeignValue then foreignValue g
  else if ← peek (atWord "type") then
    let (bounded, defined) ← typeName g .either
    return bounded || defined
  else if visible then failure
  else
    if !(← peek atMacroPath) then failure
    macroMember
    return false

/-- The members between braces. -/
def members (g : Grammar) (member : Grammar → Parse Bool) : Parse Unit := within .brace do
  innerAttributes g
  discard (itemsToEnd (verbatimIf id (member g)))

end PatchStore.Source
