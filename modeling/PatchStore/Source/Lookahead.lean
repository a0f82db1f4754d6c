import PatchStore.Source.Token

/-!
# Looking ahead

The `at…` tests say what stands at the start of a sequence of tokens.  A mark of several characters
stands there only when its characters are joint.  `skipTree` passes over one token tree and takes a
lifetime for one.

* `atMarks_nil`, `atWord_nil`, `atIdent_nil`, `atGroup_nil` — nothing stands at the start of no
  tokens.
-/

namespace PatchStore.Source

/-! ## Tokens at the start -/

/-- Whether the characters stand at the start as marks of punctuation, each joint with the next. -/
def atMarks : List Char → List Token → Bool
  | [], _ => true
  | [c], .punct m _ :: _ => m == c
  | c :: d :: cs, .punct m joint :: ts => m == c && joint && atMarks (d :: cs) ts
  | _, _ => false

/-- Whether the mark stands at the start. -/
def atMark (mark : String) (ts : List Token) : Bool := atMarks mark.toList ts

/-- Whether the word stands at the start, written plain. -/
def atWord (word : String) : List Token → Bool
  | .ident i :: _ => !i.raw && i.name == word
  | _ => false

/-- Whether one of the words stands at the start, written plain. -/
def atAnyWord (words : List String) (ts : List Token) : Bool := words.any fun w => atWord w ts

/-- The words that no plain identifier may be. -/
def reservedWords : List String :=
  ["_", "abstract", "as", "async", "await", "become", "box", "break", "const", "continue", "crate",
   "do", "dyn", "else", "enum", "extern", "false", "final", "fn", "for", "if", "impl", "in", "let",
   "loop", "macro", "match", "mod", "move", "mut", "override", "priv", "pub", "ref", "return",
   "Self", "self", "static", "struct", "super", "trait", "true", "try", "type", "typeof", "unsafe",
   "unsized", "use", "virtual", "where", "while", "yield"]

/-- Whether the word is free to be an identifier. -/
def Ident.isFree (i : Ident) : Bool := i.raw || !reservedWords.contains i.name

/-- Whether an identifier stands at the start. -/
def atIdent : List Token → Bool
  | .ident i :: _ => i.isFree
  | _ => false

/-- Whether an identifier or a reserved word stands at the start. -/
def atAnyIdent : List Token → Bool
  | .ident _ :: _ => true
  | _ => false

/-- Whether a lifetime stands at the start. -/
def atLifetime : List Token → Bool
  | .punct '\'' true :: .ident _ :: _ => true
  | _ => false

/-- Whether a group of the given kind stands at the start. -/
def atGroup (d : Delimiter) : List Token → Bool
  | .group e _ :: _ => d == e
  | _ => false

/-- Whether a numeric literal stands at the start. -/
def atNumber : List Token → Bool
  | .literal l :: _ => l.kind == .integer || l.kind == .float
  | _ => false

/-- Whether a literal stands at the start: one token, a truth value, or a number after a minus
sign. -/
def atLiteral : List Token → Bool
  | .literal _ :: _ => true
  | .ident i :: _ => !i.raw && (i.name == "true" || i.name == "false")
  | .punct '-' _ :: rest => atNumber rest
  | _ => false

@[simp] theorem atMarks_nil (c : Char) (cs : List Char) : atMarks (c :: cs) [] = false := by
  cases cs <;> rfl

@[simp] theorem atWord_nil (word : String) : atWord word [] = false := rfl

@[simp] theorem atIdent_nil : atIdent [] = false := rfl

@[simp] theorem atGroup_nil (d : Delimiter) : atGroup d [] = false := rfl

/-! ## Tokens further on -/

/-- Passes over one token tree; a lifetime is one. -/
def skipTree : List Token → List Token
  | [] => []
  | .punct '\'' true :: .ident _ :: rest => rest
  | _ :: rest => rest

/-- The test, after the next tree. -/
def second (test : List Token → Bool) (ts : List Token) : Bool := test (skipTree ts)

/-- The test, after the next two trees. -/
def third (test : List Token → Bool) (ts : List Token) : Bool := test (skipTree (skipTree ts))

/-- The test, on what stands in the group at the start. -/
def inside (test : List Token → Bool) : List Token → Bool
  | .group _ body :: _ => test body
  | _ => false

/-! ## Forms at the start -/

/-- Whether a single point stands at the start. -/
def atPoint (ts : List Token) : Bool := atMark "." ts && !atMark ".." ts

/-- Whether a single colon stands at the start. -/
def atColon (ts : List Token) : Bool := atMark ":" ts && !atMark "::" ts

/-- Whether an exclamation mark stands at the start that does not belong to a comparison. -/
def atBang (ts : List Token) : Bool := atMark "!" ts && !atMark "!=" ts

/-- Whether a name may begin a path here: an identifier or a word that names a place. -/
def atPathName (ts : List Token) : Bool :=
  atIdent ts || atAnyWord ["super", "self", "Self", "crate"] ts

/-- Whether a path stands at the start, perhaps inside a type. -/
def atPath (ts : List Token) : Bool := atPathName ts || atMark "::" ts || atMark "<" ts

/-- Whether a macro call may begin here: a path of plain names. -/
def atMacroPath (ts : List Token) : Bool :=
  atIdent ts || atAnyWord ["self", "super", "crate"] ts || atMark "::" ts

/-- Whether an angle bracket at the start opens parameters rather than a path inside a type. -/
def atParameters (ts : List Token) : Bool :=
  atMark "<" ts &&
    (second (fun ts => atMark ">" ts || atMark "#" ts || atWord "const" ts) ts ||
      (second (fun ts => atLifetime ts || atIdent ts) ts &&
        third (fun ts => atMark ">" ts || atMark "," ts || atColon ts || atMark "=" ts) ts))

/-- Whether the arguments of a function trait stand at the start, perhaps after a separator. -/
def atFunctionArguments (ts : List Token) : Bool :=
  atGroup .paren ts || (atMark "::" ts && third (atGroup .paren) ts)

/-- Whether a form of the given name stands at the start that only a compiler knows. -/
def atBuiltin (ts : List Token) : Bool := atWord "builtin" ts && second (atMark "#") ts

end PatchStore.Source
