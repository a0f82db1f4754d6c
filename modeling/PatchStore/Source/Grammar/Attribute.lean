import PatchStore.Source.Grammar.Basic

/-!
# Attributes and blocks

Attributes stand before what they belong to, or at the start of the block that they belong to.
-/

namespace PatchStore.Source

open Parse

/-- A path of plain names, as macros and attributes have it. -/
def plainPath : Parse Path := do
  let isGlobal ← mark? "::"
  let names ← gather fun acc => do
    if !(← peek atPathName) then failure
    let i ← anyIdent
    return (i :: acc, !(← mark? "::"))
  match names with
  | first :: more =>
    return more.foldl (fun p i => p.extend (i, .none)) (.mk false isGlobal [] first .none)
  | [] => failure

/-- What stands between the brackets of an attribute: a path, and either a group, a value or
nothing.  The path may be the word that marks what follows as unsafe. -/
def attributeBody (g : Grammar) : Parse Attribute := do
  let path ←
    if ← peek (atWord "unsafe") then
      let i ← anyIdent
      pure (Path.ofIdent i)
    else plainPath
  match (← get).rest with
  | .group _ body :: _ =>
    take 1
    return ⟨path, some body⟩
  | _ =>
    if ← mark? "=" then
      if ← peek fun ts => atMark "#" ts && second (atGroup .bracket) ts then failure
      discard (g.expr true)
    return ⟨path, none⟩

/-- One attribute of what follows it. -/
def outerAttribute (g : Grammar) : Parse Attribute := do
  mark "#"
  within .bracket (attributeBody g)

/-- The attributes of what follows them. -/
def outerAttributes (g : Grammar) : Parse (List Attribute) := gather fun acc => do
  if ← peek (atMark "#") then return ((← outerAttribute g) :: acc, false)
  return (acc, true)

/-- The tokens of the attributes of what follows them, without writing them yet. -/
def attributeTokens (g : Grammar) : Parse (List Token) := do
  let (_, tokens) ← captured (outerAttributes g)
  return tokens

/-- The attributes of what they stand in. -/
def innerAttributes (g : Grammar) : Parse Unit := discard <| gather fun (acc : List Unit) => do
  if ← peek fun ts => atMark "#" ts && second (atMark "!") ts then
    mark "#"
    mark "!"
    discard (within .bracket (attributeBody g))
    return (acc, false)
  return (acc, true)

/-- A block of statements between braces. -/
def block (g : Grammar) : Parse Unit := within .brace g.statements

/-- A block of statements between braces, which may begin with attributes of its own. -/
def attributedBlock (g : Grammar) : Parse Unit := within .brace do
  innerAttributes g
  g.statements

end PatchStore.Source
