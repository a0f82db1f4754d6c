import PatchStore.Source.Grammar.Statement
import PatchStore.Source.Lexer

/-!
# Reading source text

`Grammar.ofDepth` is the grammar that can follow a nesting of the given depth.  No text nests deeper
than its tokens are many, and between one token and the next at most four readers hand over to one
another, so the depth is taken from the number of tokens.

* `Expr.parse?` — the expression that a text consists of.
* `TypeDecl.parse?` — the declaration that a text consists of.
-/

namespace PatchStore.Source

/-- The readers whose deeper levels are read by the given grammar. -/
def Grammar.step (g : Grammar) : Grammar where
  type := PatchStore.Source.typeExpr g
  bound := PatchStore.Source.bound g
  expr := PatchStore.Source.expr g
  statementExpr := PatchStore.Source.statementExpr g
  operand := PatchStore.Source.operand g
  operators := PatchStore.Source.operators g
  pattern := PatchStore.Source.pattern g
  statements := PatchStore.Source.statements g
  declaration := PatchStore.Source.item g
  fields := discard (PatchStore.Source.namedFields g)

/-- The grammar for a nesting of the given depth. -/
def Grammar.ofDepth : Nat → Grammar
  | 0 => .empty
  | depth + 1 => (Grammar.ofDepth depth).step

/-- The grammar that is deep enough for the given tokens. -/
def Grammar.forTokens (ts : List Token) : Grammar := .ofDepth (4 * Token.sizeAll ts + 16)

/-- The expression that a text consists of. -/
def Expr.parse? (text : String) : Option Expr := do
  let ts ← lex? text
  Parse.all ((Grammar.forTokens ts).expr true) ts

/-- The declaration of a struct, an enumeration or a union that a text consists of. -/
def TypeDecl.parse? (text : String) : Option TypeDecl := do
  let ts ← lex? text
  Parse.all (typeDecl (Grammar.forTokens ts)) ts

end PatchStore.Source
