import PatchStore.Source.Grammar.Member

/-!
# Items inside blocks

A block may hold items beside its statements.  They are checked to be well-formed and nothing of
them is kept but their tokens.  Every reader of an item says whether the item is kept as it stands,
because it has a form that the language has not settled.
-/

namespace PatchStore.Source

open Parse

/-! ## Imports, values and types -/

/-- What is imported: one name, perhaps under another, everything, or several.  One of several may
start at the root if no name stands before them. -/
def useTree : Nat → Bool → Parse Bool
  | 0, _ => failure
  | fuel + 1, rootAllowed => do
    if ← mark? "*" then return false
    if ← peek (atGroup .brace) then
      let kept ← within .brace <| commaList do
        let rooted ← if rootAllowed then mark? "::" else pure false
        let inner ← useTree fuel (rootAllowed && !rooted)
        return rooted || inner
      return kept.any id
    identOr ["self", "super", "crate", "try"]
    if ← mark? "::" then useTree fuel false
    else
      if ← word? "as" then identOr ["_"]
      return false

/-- An import. -/
def useItem : Parse Bool := do
  word "use"
  let rooted ← mark? "::"
  let kept ← useTree (Token.sizeAll (← get).rest + 1) !rooted
  mark ";"
  return kept

/-- A value with a place of its own, which lacks neither a type nor a value if it is settled. -/
def staticItem (g : Grammar) : Parse Bool := do
  word "static"
  discard (word? "mut")
  discard ident
  let typed ← mark? ":"
  if typed then discard (g.type true)
  let valued ← mark? "="
  if valued then discard (g.expr true)
  if !typed && !valued then failure
  mark ";"
  return !(typed && valued)

/-- A name for a type, which has a definition and no bounds if it is settled. -/
def typeItem (g : Grammar) : Parse Bool := do
  let (bounded, defined) ← typeName g .before
  return bounded || !defined

/-- A macro call in the place of an item, perhaps with a name of what it makes. -/
def macroItem : Parse Bool := do
  discard plainPath
  mark "!"
  if ← peek fun ts => atIdent ts || atWord "try" ts then discard anyIdent
  let (d, _) ← anyGroup
  if d != .brace then mark ";"
  return false

/-- The definition of a macro by a single rule. -/
def macroRule : Parse Bool := do
  word "macro"
  discard ident
  if ← peek (atGroup .paren) then discard (groupBody .paren)
  discard (groupBody .brace)
  return true

/-! ## Traits and implementations -/

/-- A trait, or a name for bounds. -/
def traitItem (g : Grammar) : Parse Bool := do
  let plain ← peek (atWord "trait")
  discard (word? "unsafe")
  discard (word? "auto")
  word "trait"
  discard ident
  discard (parameters g)
  if ← peek fun ts => plain && atMark "=" ts then
    mark "="
    discard (boundsUntil (fun ts => atWord "where" ts || atMark ";" ts) (addedBound g))
    discard (whereClause g)
    mark ";"
  else
    optionalBounds (fun ts => atWord "where" ts || atGroup .brace ts) (constantBound g)
    discard (whereClause g)
    members g traitMember
  return false

/-- An implementation of a trait or of a type, after its visibility. -/
def implementation (g : Grammar) (visible : Bool) : Parse Bool := do
  discard (word? "default")
  discard (word? "unsafe")
  word "impl"
  if ← peek atParameters then discard (parameters g)
  let isConst ← peek fun ts => atWord "const" ts || (atMark "?" ts && second (atWord "const") ts)
  if isConst then
    discard (mark? "?")
    word "const"
  let negative ← peek fun ts => atMark "!" ts && !second (atGroup .brace) ts
  if negative then mark "!"
  let first ← g.type true
  let ofTrait ← word? "for"
  if ofTrait then discard (g.type true)
  else if negative then failure
  discard (whereClause g)
  members g implementationMember
  return visible || isConst || (ofTrait && !first.form.isPlainPath)

/-! ## Modules and foreign blocks -/

/-- A module. -/
def moduleItem (g : Grammar) : Parse Bool := do
  discard (word? "unsafe")
  word "mod"
  identOr ["try"]
  if !(← mark? ";") then
    within .brace do
      innerAttributes g
      discard <| itemsToEnd <| verbatimIf id do
        discard (outerAttributes g)
        g.declaration
  return false

/-- Another library that is brought into scope. -/
def externCrate : Parse Bool := do
  word "extern"
  word "crate"
  identOr ["self"]
  if ← word? "as" then identOr ["_"]
  mark ";"
  return false

/-- A block of foreign items. -/
def foreignBlock (g : Grammar) : Parse Bool := do
  discard (word? "unsafe")
  callingConvention
  members g foreignMember
  return false

/-! ## All items -/

/-- Whether a trait stands at the start. -/
def atTrait (ts : List Token) : Bool :=
  atWord "trait" ts || (atWord "auto" ts && second (atWord "trait") ts)

/-- Whether an item stands at the start that satisfies the test, perhaps marked unsafe. -/
def perhapsUnsafe (test : List Token → Bool) (ts : List Token) : Bool :=
  test ts || (atWord "unsafe" ts && second test ts)

/-- An item after its attributes. -/
def item (g : Grammar) : Parse Bool := do
  let visible ← visibility
  if ← functionFollows false then function g
  else if ← peek fun ts => atWord "extern" ts && second (atWord "crate") ts then externCrate
  else if ← peek (perhapsUnsafe (atWord "extern")) then
    if visible then failure
    foreignBlock g
  else if ← peek (atWord "use") then useItem
  else if ← peek (atWord "static") then staticItem g
  else if ← peek (atWord "const") then constant g true
  else if ← peek (perhapsUnsafe (atWord "mod")) then moduleItem g
  else if ← peek (atWord "type") then typeItem g
  else if ← peek fun ts =>
      atAnyWord ["struct", "enum"] ts || (atWord "union" ts && second atIdent ts) then
    discard (typeDeclRest g [])
    return false
  else if ← peek (perhapsUnsafe atTrait) then traitItem g
  else if ← peek fun ts =>
      perhapsUnsafe (atWord "impl") ts || (atWord "default" ts && !second (atMark "!") ts) then
    implementation g visible
  else if ← peek (atWord "macro") then macroRule
  else if visible || !(← peek atMacroPath) then failure
  else macroItem

end PatchStore.Source
