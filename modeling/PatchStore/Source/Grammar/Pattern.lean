import PatchStore.Source.Grammar.TypeExpr

/-!
# Patterns

A pattern is read far enough to tell a plain identifier, with or without a pattern bound to it, from
everything else.  Alternatives may stand wherever a pattern is enclosed, but not at the top of a
closure parameter or a `let` statement.
-/

namespace PatchStore.Source

open Parse

/-! ## Alternatives and ranges -/

/-- A macro call after its name, when a path of plain names and an exclamation mark announce one. -/
def macroCall? (p : Path) : Parse (Option Delimiter) := do
  if ← peek fun ts => atBang ts && !p.qualified && p.isPlain then
    mark "!"
    return some (← anyGroup).1
  else return none

/-- Whether a further alternative stands at the start. -/
def atAlternative (ts : List Token) : Bool := atMark "|" ts && !atMark "||" ts && !atMark "|=" ts

/-- A pattern with its alternatives, the first of which a bar may announce. -/
def alternatives (g : Grammar) : Parse Pattern := do
  let led ← mark? "|"
  let first ← g.pattern
  let further ← gather fun acc => do
    if !(← peek atAlternative) then return (acc, true)
    mark "|"
    return ((← g.pattern) :: acc, false)
  return if led || !further.isEmpty then .other else first

/-- The two dots of a range, perhaps with an equals sign; says whether the range needs an upper
bound.  In an obsolete form a third dot stands for the sign. -/
def rangeMark (obsolete : Bool) : Parse Bool := do
  if ← mark? "..=" then return true
  if ← peek (atMark "...") then
    if !obsolete then failure
    unwritten (mark "...")
    write (Token.ofMark "..=")
    return true
  mark ".."
  return false

/-- Where a range pattern ends without an upper bound. -/
def atPatternEnd (ts : List Token) : Bool :=
  ts.isEmpty || atMark "|" ts || atMark "=" ts || atColon ts || atMark "," ts || atMark ";" ts ||
    atWord "if" ts

/-- The bound of a range pattern, if one is given; says whether it is. -/
def rangeBound (g : Grammar) : Parse Bool := do
  if ← peek atPatternEnd then return false
  if ← peek atLiteral then literal
  else if ← peek atPath then discard (path g true)
  else
    word "const"
    attributedBlock g
  return true

/-- The rest of a range pattern, from its dots on; says whether it has an upper bound. -/
def rangeRest (g : Grammar) (obsolete : Bool) : Parse Bool := do
  let needsEnd ← rangeMark obsolete
  let ended ← rangeBound g
  if needsEnd && !ended then failure
  return ended

/-! ## Patterns with parts -/

/-- One field of a struct pattern. -/
def fieldPattern (g : Grammar) : Parse Unit := do
  let boxed ← word? "box"
  let byRef ← word? "ref"
  let mutable ← word? "mut"
  let modified := boxed || byRef || mutable
  let named ← peek fun ts => modified || atIdent ts
  if named then discard ident else discard position
  if !named || (!modified && (← peek (atMark ":"))) then
    mark ":"
    discard (alternatives g)

/-- The fields of a struct pattern, and the mark for those that are left out. -/
def fieldPatterns (g : Grammar) : Parse Unit := discard <| commaList do
  discard (outerAttributes g)
  if ← mark? ".." then
    if !(← atEnd) then failure
  else fieldPattern g

/-- A pattern that begins with a path. -/
def pathPattern (g : Grammar) : Parse Pattern := do
  let p ← path g true
  if (← macroCall? p).isSome then return .other
  if ← peek (atGroup .brace) then within .brace (fieldPatterns g)
  else if ← peek (atGroup .paren) then discard (within .paren (commaList (alternatives g)))
  else if ← peek (atMark "..") then return .range (← rangeRest g true)
  return .other

/-- Patterns between brackets, among which a range must have both bounds. -/
def slicePattern (g : Grammar) : Parse Pattern := do
  let items ← within .bracket (commaList (alternatives g))
  if items.any Pattern.isOpenRange then failure
  return .other

/-- An identifier with its modifiers, and the pattern bound to it. -/
def identPattern (g : Grammar) : Parse Pattern := do
  discard (word? "ref")
  discard (word? "mut")
  let i ← if ← peek (atWord "self") then anyIdent else ident
  let bound ← mark? "@"
  if bound then discard g.pattern
  return .ident i bound

/-- A literal or a constant, or a range from it on. -/
def constantPattern (g : Grammar) : Parse Pattern := do
  if !(← rangeBound g) then failure
  if ← peek (atMark "..") then return .range (← rangeRest g true)
  return .other

/-- The rest of a list, or a range without a lower bound. -/
def restPattern (g : Grammar) : Parse Pattern := do
  if ← rangeRest g false then return .range false else return .rest

/-! ## All patterns -/

/-- Whether a pattern that begins with a path stands at the start. -/
def atPathPattern (ts : List Token) : Bool :=
  let goesOn : List Token → Bool := fun ts =>
    atMark "::" ts || atMark "!" ts || atGroup .brace ts || atGroup .paren ts || atMark ".." ts
  (atIdent ts && second goesOn ts) || (atWord "self" ts && second (atMark "::") ts) ||
    atMark "::" ts || atMark "<" ts || atAnyWord ["Self", "super", "crate"] ts

/-- A pattern without alternatives at the top. -/
def pattern (g : Grammar) : Parse Pattern := verbatimIf Pattern.isVerbatim do
  if ← peek atPathPattern then pathPattern g
  else if ← word? "_" then return .other
  else if ← word? "box" then
    discard g.pattern
    return .verbatim
  else if ← peek fun ts => atMark "-" ts || atLiteral ts || atWord "const" ts then constantPattern g
  else if ← peek fun ts => atAnyWord ["ref", "mut", "self"] ts || atIdent ts then identPattern g
  else if ← mark? "&" then
    discard (word? "mut")
    discard g.pattern
    return .other
  else if ← peek (atGroup .paren) then
    discard (within .paren (commaList (alternatives g)))
    return .other
  else if ← peek (atGroup .bracket) then slicePattern g
  else if ← peek fun ts => atMark ".." ts && !atMark "..." ts then restPattern g
  else failure

end PatchStore.Source
