/-!
# Tokens

Selectors and struct declarations are read as source text: a sequence of token trees, in which
every pair of brackets has become one group.  An identifier may be written raw, with `r#` before its
name; the two spellings name the same thing but are different words, so a raw identifier is never a
keyword.

* `Ident.text_plain`, `Ident.text_raw` — how an identifier is spelled.
* `Token.size` — the number of tokens and groups, which bounds every nesting and every list.
-/

namespace PatchStore.Source

/-- An identifier as it is written. -/
structure Ident where
  name : String
  raw : Bool
  deriving DecidableEq, Inhabited

/-- An identifier as it is spelled in the source. -/
def Ident.text (i : Ident) : String := if i.raw then "r#" ++ i.name else i.name

/-- The three kinds of brackets. -/
inductive Delimiter where
  | paren
  | bracket
  | brace
  deriving DecidableEq

/-- The kinds of literals; a placeholder stands where no literal could be given. -/
inductive LiteralKind where
  | string
  | byteString
  | cString
  | byte
  | char
  | integer
  | float
  | placeholder
  deriving DecidableEq

/-- A literal as it is spelled, with its suffix. -/
structure Literal where
  kind : LiteralKind
  spelling : List Char
  deriving DecidableEq

/-- A token tree.  A mark of punctuation is joint when another one follows at once. -/
inductive Token where
  | ident (i : Ident)
  | punct (mark : Char) (joint : Bool)
  | literal (l : Literal)
  | group (delimiter : Delimiter) (body : List Token)

/-- The opening bracket. -/
def Delimiter.opening : Delimiter → Char
  | .paren => '('
  | .bracket => '['
  | .brace => '{'

/-- The closing bracket. -/
def Delimiter.closing : Delimiter → Char
  | .paren => ')'
  | .bracket => ']'
  | .brace => '}'

/-- The kind of an opening bracket. -/
def Delimiter.ofOpening? : Char → Option Delimiter
  | '(' => some .paren
  | '[' => some .bracket
  | '{' => some .brace
  | _ => none

/-- The kind of a closing bracket. -/
def Delimiter.ofClosing? : Char → Option Delimiter
  | ')' => some .paren
  | ']' => some .bracket
  | '}' => some .brace
  | _ => none

namespace Token

/-- The tokens of a mark of punctuation. -/
def ofMark (mark : String) : List Token := mark.toList.map fun c => .punct c true

mutual

/-- The number of tokens and groups in a token tree. -/
def size : Token → Nat
  | .group _ body => sizeAll body + 1
  | _ => 1

/-- The number of tokens and groups in a list of token trees. -/
def sizeAll : List Token → Nat
  | [] => 0
  | t :: ts => size t + sizeAll ts

end

mutual

/-- The spelling of a token tree without white space between its tokens. -/
def spell : Token → List Char
  | .ident i => i.text.toList
  | .punct mark _ => [mark]
  | .literal l => l.spelling
  | .group d body => d.opening :: spellAll body ++ [d.closing]

/-- The spelling of token trees without white space between them. -/
def spellAll : List Token → List Char
  | [] => []
  | t :: ts => spell t ++ spellAll ts

end

end Token

end PatchStore.Source
