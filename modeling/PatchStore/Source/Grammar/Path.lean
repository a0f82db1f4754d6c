import PatchStore.Source.Grammar.Attribute

/-!
# Paths, parameters and bounds

Every reader here takes the grammar for what lies one level deeper: the types and constants among
the arguments of a name, the bounds of a parameter.

A path is read in one of two styles.  In a type, angle brackets after a name are its arguments; in
an expression they are only so after a separator, because there they may be comparisons.  A function
trait has its arguments between parentheses instead; it may also have an empty pair of angle
brackets before them, which is not written.
-/

namespace PatchStore.Source

open Parse

/-! ## Bounds and parameters -/

/-- A constant among the arguments of a name: a literal, a name or a block. -/
def constantArgument (g : Grammar) : Parse Unit := do
  if ← peek atLiteral then literal
  else if ← peek atIdent then discard ident
  else attributedBlock g

/-- Bounds up to an ending, with plus signs between them and perhaps after the last one; says
whether there are any. -/
def boundsUntil (ending : List Token → Bool) (bound : Parse Unit) : Parse Bool := do
  let bounds ← gather fun acc => do
    if ← peek ending then return (acc, true)
    bound
    return (() :: acc, !(← mark? "+"))
  return !bounds.isEmpty

/-- Bounds after a colon, if there is one; a colon that no bound follows is not written. -/
def optionalBounds (ending : List Token → Bool) (bound : Parse Unit) : Parse Unit := do
  let (any, tokens) ← captured do
    if ← mark? ":" then boundsUntil ending bound
    else return false
  if any then write tokens

/-- A bound in a place where traits may be marked constant. -/
def constantBound (g : Grammar) : Parse Unit := discard (g.bound false true)

/-- A lifetime, type or constant parameter after its attributes; says whether it is a lifetime.  The
type parameter without a name is not allowed everywhere. -/
def parameter (g : Grammar) (unnamed : Bool) : Parse Bool := do
  discard (outerAttributes g)
  if ← peek atLifetime then
    lifetime
    optionalBounds (fun ts => atMark "," ts || atMark ">" ts) lifetime
    return true
  if ← peek atIdent then
    discard ident
    optionalBounds (fun ts => atMark "," ts || atMark ">" ts || atMark "=" ts) (constantBound g)
    if ← mark? "=" then discard (g.type true)
  else if ← word? "const" then
    discard ident
    mark ":"
    discard (g.type true)
    if ← mark? "=" then constantArgument g
  else if unnamed then word "_"
  else failure
  return false

/-- The parameters of an item; says whether there are any.  Brackets without a parameter are not
written. -/
def parameters (g : Grammar) : Parse Bool := do
  if !(← peek (atMark "<")) then return false
  let (kinds, tokens) ← captured do
    mark "<"
    let kinds ← lifetimesFirst id (parameter g true)
    mark ">"
    return kinds
  if kinds.isEmpty then return false
  write tokens
  return true

/-- The parameters that a type or a bound is stated for; says whether they are given. -/
def binder? (g : Grammar) : Parse Bool := do
  let bounded ← word? "for"
  if bounded then
    mark "<"
    discard (listUntil (peek (atMark ">")) fun _ => parameter g false)
    mark ">"
  return bounded

/-! ## Paths -/

/-- One argument between angle brackets. -/
def genericArgument (g : Grammar) : Parse GenericArgument := do
  let constant : List Token → Bool := fun ts => atLiteral ts || atGroup .brace ts
  if ← peek fun ts => atLifetime ts && !second (atMark "+") ts then
    lifetime
    return .lifetime
  if ← peek constant then
    constantArgument g
    return .other
  let t ← g.type true
  match t.form with
  | .path p =>
    if !p.isSingle then return .type t
    if ← mark? "=" then
      if ← peek constant then constantArgument g else discard (g.type true)
      return .other
    if ← mark? ":" then
      discard (boundsUntil (fun ts => atMark "," ts || atMark ">" ts) (constantBound g))
      return .other
    return .type t
  | _ => return .type t

/-- The arguments of a name between angle brackets. -/
def genericArguments (g : Grammar) : Parse (List GenericArgument) := do
  mark "<"
  let arguments ← lifetimesFirst GenericArgument.isLifetime (genericArgument g)
  mark ">"
  return arguments

/-- Whether arguments between angle brackets stand after a name. -/
def atArguments (inExpr : Bool) (ts : List Token) : Bool :=
  (!inExpr && atMark "<" ts && !atMark "<=" ts && !atMark "<<=" ts) ||
    (atMark "::" ts && third (atMark "<") ts)

/-- One name of a path with its arguments. -/
def pathSegment (g : Grammar) (inExpr : Bool) : Parse (Ident × PathArguments) := do
  if ← peek (atAnyWord ["super", "self", "crate", "try"]) then return (← anyIdent, .none)
  let i ← if ← peek (atWord "Self") then anyIdent else ident
  if !(← peek (atArguments inExpr)) then return (i, .none)
  let (arguments, tokens) ← captured do
    discard (mark? "::")
    genericArguments g
  let replaced ← peek fun ts => !inExpr && arguments.isEmpty && atFunctionArguments ts
  if !replaced then write tokens
  return (i, .angled arguments)

/-- Further names of a path, each after a separator, as long as the test says that one follows. -/
def furtherSegments (g : Grammar) (inExpr : Bool) (follows : List Token → Bool) (p : Path) :
    Parse Path := do
  let segments ← gather fun acc => do
    if !(← peek follows) then return (acc, true)
    mark "::"
    return ((← pathSegment g inExpr) :: acc, false)
  return segments.foldl Path.extend p

/-- Whether a separator goes on with a path; before parentheses it does not. -/
def atFurtherSegment (ts : List Token) : Bool := atMark "::" ts && !third (atGroup .paren) ts

/-- A path that does not start inside a type. -/
def simplePath (g : Grammar) (inExpr : Bool) : Parse Path := do
  let isGlobal ← mark? "::"
  let (name, arguments) ← pathSegment g inExpr
  furtherSegments g inExpr atFurtherSegment (.mk false isGlobal [] name arguments)

/-- A path, which may start inside a type. -/
def path (g : Grammar) (inExpr : Bool) : Parse Path := do
  if !(← mark? "<") then return ← simplePath g inExpr
  discard (g.type true)
  if ← word? "as" then discard (simplePath g false)
  mark ">"
  mark "::"
  let (name, arguments) ← pathSegment g inExpr
  furtherSegments g inExpr (atMark "::") (.mk true false [] name arguments)

/-! ## Function traits -/

/-- The type of a result, if one is given. -/
def resultType (g : Grammar) (plus : Bool) : Parse Unit := do
  if ← mark? "->" then discard (g.type plus)

/-- The types of the parameters and of the result of a function trait, without the separator before
them. -/
def functionArguments (g : Grammar) : Parse Unit := do
  discard (unwritten (mark? "::"))
  discard (within .paren (commaList (g.type true)))
  resultType g false

/-! ## Bounds -/

/-- A trait as a bound; says whether it is marked constant.  A trait that is optional has no
parameters that it is stated for. -/
def traitBound (g : Grammar) (constant : Bool) : Parse Bool := do
  let bounded ← binder? g
  let marked ←
    if ← peek (atGroup .bracket) then
      within .bracket (word "const")
      pure true
    else word? "const"
  if marked && !constant then failure
  if ← mark? "?" then
    if bounded || (← peek (atWord "for")) then failure
  let p ← simplePath g false
  if ← peek fun ts => p.arguments.isEmpty && atFunctionArguments ts then functionArguments g
  return marked

/-- The parameters that a bound captures. -/
def capturedParameters : Parse Unit := do
  word "use"
  mark "<"
  discard <| lifetimesFirst id do
    let isLifetime ← peek atLifetime
    if isLifetime then lifetime else identOr ["Self"]
    return isLifetime
  mark ">"

/-- One bound; says whether it is a trait rather than a lifetime.  A trait that is marked constant
is kept as it stands. -/
def bound (g : Grammar) (capture constant : Bool) : Parse Bool := do
  if ← peek atLifetime then
    lifetime
    return false
  if ← peek (atWord "use") then
    if !capture then failure
    capturedParameters
    return false
  discard <| verbatimIf id do
    if ← peek (atGroup .paren) then within .paren (traitBound g constant)
    else traitBound g constant
  return true

/-- Bounds with plus signs between them and perhaps after the last one; at least one of them must be
a trait. -/
def traitBounds (g : Grammar) (plus capture constant : Bool) : Parse Unit := do
  let kinds ← gather fun acc => do
    let isTrait ← bound g capture constant
    let added ← if plus then mark? "+" else pure false
    let more ← peek fun ts =>
      atAnyIdent ts || atMark "::" ts || atMark "?" ts || atLifetime ts || atGroup .paren ts ||
        (constant && atGroup .bracket ts)
    return (isTrait :: acc, !(added && more))
  if !kinds.any id then failure

end PatchStore.Source
