import PatchStore.Source.Grammar.Path

/-!
# Types

A type is read as a `TypeForm`, and completed with the tokens that were written meanwhile
(`typeExpr`).  Where bounds may be added, a path or a type between parentheses can turn out to be
the first of several.
-/

namespace PatchStore.Source

open Parse

/-! ## Further bounds -/

/-- A bound that is added to a type. -/
def addedBound (g : Grammar) : Parse Unit := discard (g.bound false false)

/-- The bounds that follow a first one, each after a plus sign.  A last plus sign without a bound
must be allowed. -/
def furtherBounds (g : Grammar) (trailing : Bool) : Parse Unit :=
  discard <| gather fun (acc : List Unit) => do
    if !(← mark? "+") then return (acc, true)
    let follows ← peek fun ts =>
      atAnyIdent ts || atMark "::" ts || atMark "?" ts || atLifetime ts || atGroup .paren ts
    if trailing && !follows then return (acc, true)
    addedBound g
    return (acc, false)

/-! ## Function types -/

/-- One parameter of a function type after its attributes.  The first one may be the word `self`,
and is kept as it stands if that is mutable. -/
def bareParameter (g : Grammar) (isFirst : Bool) : Parse Unit := discard <| verbatimIf id do
  let atMutableSelf : List Token → Bool := fun ts =>
    isFirst && atWord "mut" ts && second (atWord "self") ts
  let mutable ← peek atMutableSelf
  if mutable then word "mut"
  let isSelf ← peek fun ts => isFirst && atWord "self" ts
  let named ← peek fun ts => (isSelf || atIdent ts || atWord "_" ts) && second atColon ts
  if named then
    discard anyIdent
    mark ":"
  if !(named && isSelf) && (← peek atMutableSelf) then
    word "mut"
    word "self"
    return true
  else if mutable && !named then
    word "self"
    return true
  else
    discard (g.type true)
    return mutable

/-- Whether the parameter that stands for all others stands at the start, perhaps with a name. -/
def atVariadic (ts : List Token) : Bool :=
  atMark "..." ts ||
    ((atIdent ts || atWord "_" ts) && second (atMark ":") ts && third (atMark "...") ts)

/-- The parameters of a function type. -/
def bareParameters (g : Grammar) : Parse Unit := discard <| gather fun acc => do
  if ← atEnd then return (acc, true)
  discard (outerAttributes g)
  if ← peek atVariadic then
    if !(← mark? "...") then
      discard anyIdent
      mark ":"
      mark "..."
    discard (mark? ",")
    return (acc, true)
  bareParameter g acc.isEmpty
  if ← atEnd then return (() :: acc, true)
  mark ","
  return (() :: acc, false)

/-- The name of a foreign calling convention, if one is given. -/
def callingConvention : Parse Unit := do
  if ← word? "extern" then discard (attempt stringLiteral)

/-- A function type after the parameters that it is stated for. -/
def bareFunction (g : Grammar) : Parse Unit := do
  discard (word? "unsafe")
  callingConvention
  word "fn"
  within .paren (bareParameters g)
  resultType g false

/-! ## Types between parentheses -/

/-- A type between parentheses, or a tuple of types.  Where bounds may be added, a path or a single
bound can be the first of several; parentheses around it are then written once. -/
def enclosedType (g : Grammar) (plus : Bool) : Parse TypeForm := do
  let (first, tokens) ← captured <| within .paren do
    let first ← g.type true
    if !(← mark? ",") then return some first
    discard (commaList (g.type true))
    return none
  match first with
  | none =>
    write tokens
    return .other
  | some (.mk form inner) =>
    let isBound : Bool := match form with
      | .path p => !p.qualified
      | .bounds single => single
      | _ => false
    if !(plus && isBound && (← peek (atMark "+"))) then
      write tokens
      return .paren
    match form, inner with
    | .bounds _, [.group .paren _] => write inner
    | _, _ => write tokens
    furtherBounds g false
    return .bounds false

/-- What stands in a pair of parentheses at the start of a type: nothing, bounds that begin with a
lifetime, an optional trait that bounds may be added to, or types. -/
def parenthesizedType (g : Grammar) (plus : Bool) : Parse TypeForm := do
  if ← peek (inside List.isEmpty) then
    discard (groupBody .paren)
    return .other
  else if ← peek (inside atLifetime) then
    within .paren (traitBounds g true false false)
    return .paren
  else if ← peek (inside (atMark "?")) then
    discard (within .paren (traitBound g false))
    let single ← peek fun ts => !atMark "+" ts
    furtherBounds g false
    return .bounds single
  else enclosedType g plus

/-! ## Types that begin with a path -/

/-- A type that begins with a path: the path itself, a macro call, or a bound that others follow.
What it is stated for has been read; a macro call does not keep it. -/
def pathType (g : Grammar) (plus bounded : Bool) (binder : List Token) : Parse TypeForm := do
  let (p, tokens) ← captured (path g false)
  if ← peek fun ts => atBang ts && !p.qualified && p.isPlain then
    write tokens
    mark "!"
    discard anyGroup
    return .other
  write (binder ++ tokens)
  let more ← peek fun ts => plus && !p.qualified && atMark "+" ts
  if !bounded && !more then return .path p
  if more then furtherBounds g true
  return .bounds !more

/-! ## All types -/

/-- A form that only a compiler knows: its name, and tokens in parentheses. -/
def builtinForm : Parse Unit := do
  word "builtin"
  mark "#"
  discard ident
  discard (groupBody .paren)

/-- The form of a type. -/
def typeForm (g : Grammar) (plus : Bool) : Parse TypeForm := do
  let (bounded, binder) ← captured (binder? g)
  if bounded then
    if !(← peek fun ts => atPathName ts || atAnyWord ["fn", "unsafe", "extern"] ts) then failure
  if ← peek (atGroup .paren) then parenthesizedType g plus
  else if ← peek (atAnyWord ["fn", "unsafe", "extern"]) then
    write binder
    bareFunction g
    return .other
  else if ← peek atBuiltin then
    builtinForm
    return .verbatim
  else if ← peek atPath then pathType g plus bounded binder
  else if ← word? "dyn" then
    let kept ← mark? "*"
    traitBounds g plus false false
    return if kept then .verbatim else .other
  else if ← peek (atGroup .bracket) then
    within .bracket do
      discard (g.type true)
      if !(← mark? ";") then return .slice
      discard (g.expr true)
      return .array
  else if ← mark? "*" then
    if !(← word? "const") then word "mut"
    discard (g.type false)
    return .other
  else if ← mark? "&" then
    lifetime?
    discard (word? "mut")
    return .reference (← g.type false)
  else if ← mark? "!" then return .other
  else if ← word? "impl" then
    traitBounds g plus true true
    return .other
  else if ← word? "_" then return .other
  else if ← peek atLifetime then
    traitBounds g true false false
    return .bounds false
  else failure

/-- A type with its tokens. -/
def typeExpr (g : Grammar) (plus : Bool) : Parse TypeExpr := do
  let (form, tokens) ← captured (verbatimIf TypeForm.isVerbatim (typeForm g plus))
  write tokens
  return .mk form tokens

end PatchStore.Source
