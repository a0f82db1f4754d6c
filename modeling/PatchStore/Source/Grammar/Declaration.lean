import PatchStore.Source.Grammar.Expr

/-!
# Structs, enumerations and unions

`typeDecl` reads a declaration that a schema may be derived from and keeps its named fields.  What
an enumeration or a union consists of is read to its end, because a mistake in it is a mistake in
the whole declaration, but nothing of it is kept.
-/

namespace PatchStore.Source

open Parse

/-! ## Visibility and conditions -/

/-- Whether parentheses stand at the start that say how far an item is visible: a single name of a
module, or a path after the word `in`. -/
def atScope : List Token → Bool
  | .group .paren [.ident i] :: _ => !i.raw && ["crate", "self", "super", "in"].contains i.name
  | .group .paren body :: _ => atWord "in" body
  | _ => false

/-- The visibility of an item; says whether one is given. -/
def visibility : Parse Bool := do
  let given ← word? "pub"
  if given && (← peek atScope) then
    within .paren do
      if ← word? "in" then discard plainPath else discard anyIdent
  return given

/-- Where the conditions on the parameters of an item end. -/
def atWhereEnd (ts : List Token) : Bool :=
  ts.isEmpty || atGroup .brace ts || atMark "," ts || atMark ";" ts || atColon ts || atMark "=" ts

/-- One condition on the parameters of an item. -/
def wherePredicate (g : Grammar) : Parse Unit := do
  if ← peek fun ts => atLifetime ts && second (atMark ":") ts then
    lifetime
    mark ":"
    discard (boundsUntil (fun ts => atWhereEnd ts || atMark ":" ts) lifetime)
  else
    discard (binder? g)
    discard (g.type true)
    mark ":"
    discard (boundsUntil atWhereEnd (constantBound g))

/-- The conditions on the parameters of an item; says whether the word for them is given.  It has no
parameters of its own, and is not written where no condition follows. -/
def whereClause (g : Grammar) : Parse Bool := do
  if !(← peek (atWord "where")) then return false
  let (conditions, tokens) ← captured do
    word "where"
    if ← peek atParameters then failure
    gather fun acc => do
      if ← peek atWhereEnd then return (acc, true)
      wherePredicate g
      return (() :: acc, !(← mark? ","))
  if !conditions.isEmpty then write tokens
  return true

/-! ## Fields and variants -/

/-- A field with a name.  In the place of a field without one, there may be fields that are kept as
they stand. -/
def namedField (g : Grammar) : Parse FieldDecl := do
  let attributes ← outerAttributes g
  discard visibility
  let unnamed ← peek (atWord "_")
  let i ← if unnamed then anyIdent else ident
  mark ":"
  let nested ← peek fun ts =>
    unnamed && (atWord "struct" ts || (atWord "union" ts && second (atGroup .brace) ts))
  if nested then
    let (_, tokens) ← verbatimIf (fun _ => true) (taken (anyIdent *> g.fields))
    return ⟨i, .mk .verbatim tokens, attributes⟩
  else return ⟨i, ← g.type true, attributes⟩

/-- A field without a name. -/
def tupleField (g : Grammar) : Parse Unit := do
  discard (outerAttributes g)
  discard visibility
  discard (g.type true)

/-- Fields with names, between braces. -/
def namedFields (g : Grammar) : Parse (List FieldDecl) := within .brace (commaList (namedField g))

/-- Fields without names, between parentheses. -/
def tupleFields (g : Grammar) : Parse Unit := discard (within .paren (commaList (tupleField g)))

/-- One variant of an enumeration, whose visibility is not written. -/
def variant (g : Grammar) : Parse Unit := do
  discard (outerAttributes g)
  discard (unwritten visibility)
  discard ident
  if ← peek (atGroup .brace) then discard (namedFields g)
  else if ← peek (atGroup .paren) then tupleFields g
  if ← mark? "=" then discard (g.expr true)

/-- What follows the parameters of a struct. -/
def structDeclBody (g : Grammar) : Parse DeclBody := do
  let conditional ← whereClause g
  if ← peek fun ts => !conditional && atGroup .paren ts then
    tupleFields g
    discard (whereClause g)
    mark ";"
    return .tuple
  else if ← peek (atGroup .brace) then return .named (← namedFields g)
  else
    mark ";"
    return .unit

/-! ## Declarations -/

/-- A struct, an enumeration or a union after its attributes and its visibility. -/
def typeDeclRest (g : Grammar) (attributes : List Attribute) : Parse TypeDecl := do
  if ← word? "struct" then
    let i ← ident
    let generic ← parameters g
    return ⟨attributes, i, generic, ← structDeclBody g⟩
  else if ← word? "enum" then
    let i ← ident
    let generic ← parameters g
    discard (whereClause g)
    discard (within .brace (commaList (variant g)))
    return ⟨attributes, i, generic, .enumeration⟩
  else
    word "union"
    let i ← ident
    let generic ← parameters g
    discard (whereClause g)
    discard (namedFields g)
    return ⟨attributes, i, generic, .union⟩

/-- A struct, an enumeration or a union. -/
def typeDecl (g : Grammar) : Parse TypeDecl := do
  let attributes ← outerAttributes g
  discard visibility
  typeDeclRest g attributes

end PatchStore.Source
