import PatchStore.Source.Token
import PatchStore.Text.Blank

/-!
# Trees of types, patterns, expressions and declarations

The trees keep what selectors and derived schemas look at.  What they never look at is only checked
to be well-formed while it is read: the operands of an index or a call, the statements of a block,
the target of a cast.

* A `Path` is split at its last name, because only the last name carries the arguments that matter.
* A `TypeExpr` keeps its tokens in normal form, so that it can be spelled out again.
* An `Expr` separates the forms that a selector may consist of from those that it names in its
  complaints; everything else is an `OtherForm`.
* An `Attribution` says how attributes are written that belong to a pattern or an expression.
-/

namespace PatchStore.Source

/-! ## Paths and types -/

mutual

/-- A type: its form, and its tokens in normal form. -/
inductive TypeExpr where
  | mk (form : TypeForm) (tokens : List Token)

/-- The forms of types: those that a schema looks at, a type between parentheses, bounds without a
word before them, with whether there is just one, types that are kept as they stand, and the
rest. -/
inductive TypeForm where
  | path (path : Path)
  | array
  | slice
  | reference (target : TypeExpr)
  | paren
  | bounds (single : Bool)
  | verbatim
  | other

/-- A path: whether it starts inside a type, whether it starts with a separator, the names before
the last with whether they carry arguments, and the last name with its arguments. -/
inductive Path where
  | mk (qualified global : Bool) (modules : List (Ident × Bool)) (name : Ident)
    (arguments : PathArguments)

/-- The arguments of a name in a path, if they stand between angle brackets. -/
inductive PathArguments where
  | none
  | angled (arguments : List GenericArgument)

/-- One argument between angle brackets: a type, a lifetime, or a constant, binding or bound. -/
inductive GenericArgument where
  | type (t : TypeExpr)
  | lifetime
  | other

end

/-- Whether no arguments are given. -/
def PathArguments.isNone : PathArguments → Bool
  | .none => true
  | _ => false

/-- Whether no argument is given, though perhaps brackets for some. -/
def PathArguments.isEmpty : PathArguments → Bool
  | .none => true
  | .angled [] => true
  | _ => false

/-- Whether the argument is a lifetime. -/
def GenericArgument.isLifetime : GenericArgument → Bool
  | .lifetime => true
  | _ => false

namespace Path

/-- Whether the path starts inside a type. -/
def qualified : Path → Bool
  | .mk q _ _ _ _ => q

/-- Whether the path starts with a separator. -/
def isGlobal : Path → Bool
  | .mk _ g _ _ _ => g

/-- The names before the last. -/
def modules : Path → List (Ident × Bool)
  | .mk _ _ ms _ _ => ms

/-- The last name. -/
def name : Path → Ident
  | .mk _ _ _ n _ => n

/-- The arguments of the last name. -/
def arguments : Path → PathArguments
  | .mk _ _ _ _ as => as

/-- The path that is a single name. -/
def ofIdent (i : Ident) : Path := .mk false false [] i .none

/-- The single name that a path consists of. -/
def ident? : Path → Option Ident
  | .mk false false [] i .none => some i
  | _ => none

/-- The path with one more name. -/
def extend : Path → Ident × PathArguments → Path
  | .mk q g ms n as, (name, arguments) => .mk q g (ms ++ [(n, !as.isNone)]) name arguments

/-- Whether the path is one name, with or without arguments. -/
def isSingle : Path → Bool
  | .mk false false [] _ _ => true
  | _ => false

/-- Whether no name of the path carries arguments. -/
def isPlain (p : Path) : Bool := p.arguments.isNone && p.modules.all fun m => !m.2

/-- Whether the path is the given plain word. -/
def isWord (p : Path) (word : String) : Bool := p.ident? == some ⟨word, false⟩

end Path

/-- The form of a type. -/
def TypeExpr.form : TypeExpr → TypeForm
  | .mk form _ => form

/-- The tokens of a type. -/
def TypeExpr.tokens : TypeExpr → List Token
  | .mk _ tokens => tokens

/-- Whether the type is kept as it stands. -/
def TypeForm.isVerbatim : TypeForm → Bool
  | .verbatim => true
  | _ => false

/-- Whether the type is a path that does not start inside another type. -/
def TypeForm.isPlainPath : TypeForm → Bool
  | .path p => !p.qualified
  | _ => false

/-- The spelling of a type without white space, also inside its literals. -/
def TypeExpr.spell (t : TypeExpr) : String :=
  String.ofList ((Token.spellAll t.tokens).filter fun c => !Text.isBlank c)

/-! ## Patterns and expressions -/

/-- How attributes are written before what they belong to: as they stand, not at all, or with
parentheses around what follows them. -/
inductive Attribution where
  | plain
  | dropped
  | parenthesized

/-- A pattern: an identifier with whether a pattern is bound to it, a pattern with its type, the
rest of a list, a range with whether both bounds are given, a pattern that is kept as it stands, or
another. -/
inductive Pattern where
  | ident (name : Ident) (bound : Bool)
  | typed (pattern : Pattern)
  | rest
  | range (bounded : Bool)
  | verbatim
  | other
  deriving Inhabited

/-- A range with attributes is parenthesized, and what is kept as it stands has none. -/
def Pattern.attribution : Pattern → Attribution
  | .range _ => .parenthesized
  | .verbatim => .dropped
  | _ => .plain

/-- Whether the pattern is a range that lacks a bound. -/
def Pattern.isOpenRange : Pattern → Bool
  | .range bounded => !bounded
  | _ => false

/-- Whether the pattern is kept as it stands. -/
def Pattern.isVerbatim : Pattern → Bool
  | .verbatim => true
  | _ => false

/-- The operator classes, from the loosest to the tightest. -/
inductive Precedence where
  | jump
  | assign
  | range
  | or
  | and
  | compare
  | bitOr
  | bitXor
  | bitAnd
  | shift
  | sum
  | product
  | cast
  deriving DecidableEq

/-- The position of a class in the order of tightness. -/
def Precedence.rank : Precedence → Nat
  | .jump => 0
  | .assign => 1
  | .range => 2
  | .or => 3
  | .and => 4
  | .compare => 5
  | .bitOr => 6
  | .bitXor => 7
  | .bitAnd => 8
  | .shift => 9
  | .sum => 10
  | .product => 11
  | .cast => 12

/-- What follows the point in a field access. -/
inductive Member where
  | named (name : Ident)
  | position (index : Nat)
  deriving DecidableEq

/-- The forms of expression that no selector consists of: ranges, the block-like forms that end a
statement by themselves, macro calls, with whether they are braced, those that are kept as they
stand, and the rest. -/
inductive OtherForm where
  | range
  | blockLike
  | macroCall (braced : Bool)
  | verbatim
  | plain
  deriving DecidableEq

/-- An expression. -/
inductive Expr where
  | path (path : Path)
  | field (base : Expr) (member : Member)
  | cast (operand : Expr)
  | methodCall (receiver : Expr) (method : Ident)
  | index (base : Expr)
  | call (callee : Expr)
  | binary (operator : Precedence) (left right : Expr)
  | assign (left : Expr)
  | unary (operand : Expr)
  | literal
  | reference (operand : Expr)
  | paren (inner : Expr)
  | closure (parameters : List Pattern) (body : Expr)
  | other (form : OtherForm)

/-- Whether the expression is a range. -/
def Expr.isRange : Expr → Bool
  | .other .range => true
  | _ => false

/-- Whether the expression is a comparison. -/
def Expr.isComparison : Expr → Bool
  | .binary .compare _ _ => true
  | _ => false

/-- Whether the expression ends a statement or a match arm by itself. -/
def Expr.isBlockLike : Expr → Bool
  | .other .blockLike => true
  | _ => false

/-- Whether the expression is kept as it stands. -/
def Expr.isVerbatim : Expr → Bool
  | .other .verbatim => true
  | _ => false

/-- The operand that an expression begins with, through assignments, binary operators and casts. -/
def Expr.leftmost : Expr → Expr
  | .assign left => left.leftmost
  | .binary _ left _ => left.leftmost
  | .cast operand => operand.leftmost
  | e => e

/-- A range with attributes is parenthesized, and what is kept as it stands has none. -/
def Expr.attribution (e : Expr) : Attribution :=
  if e.isVerbatim then .dropped else if e.isRange then .parenthesized else .plain

/-! ## Declarations -/

/-- An attribute: its path, and its arguments when they stand between brackets. -/
structure Attribute where
  path : Path
  arguments : Option (List Token)

/-- A named field of a struct. -/
structure FieldDecl where
  ident : Ident
  type : TypeExpr
  attributes : List Attribute

/-- The body of a declaration. -/
inductive DeclBody where
  | named (fields : List FieldDecl)
  | tuple
  | unit
  | enumeration
  | union

/-- A declaration of a struct, an enumeration or a union. -/
structure TypeDecl where
  attributes : List Attribute
  ident : Ident
  generic : Bool
  body : DeclBody

end PatchStore.Source
