import PatchStore.Schema.RenameRule
import PatchStore.Source.Reader

/-!
# Options in attributes

The arguments of an attribute are options with commas between them: a name, and after it a value, a
list of further options in parentheses, or nothing, as the name demands.  An option is read by what
it is given for, so reading goes from left to right and stops at the first failure; a fault in the
meaning of an option comes before a mistake in the text after it.

An option that is not interpreted may have a value or a list in parentheses.  The list is passed
over without being read, and a list that is not empty makes the whole attribute malformed in the
end.
-/

namespace PatchStore

open Source

/-- Why no description can be derived from a declaration. -/
inductive DeriveError where
  | malformed
  | genericType
  | unnamedFields
  | notAStruct
  | unknownRule (name : String)
  | unknownContainerOption
  | unknownFieldOption
  | emptyFieldName
  | nestedCollection
  | nestedSequence
  | emptyCollectionName
  | unknownDocumentOption
  deriving DecidableEq

/-- The failure in words. -/
def DeriveError.message : DeriveError → String
  | .malformed => "the declaration is malformed"
  | .genericType => "Schema cannot be derived for generic types"
  | .unnamedFields => "Schema requires a struct with named fields"
  | .notAStruct => "Schema can only be derived for structs"
  | .unknownRule name => "unknown rename rule `" ++ name ++ "`"
  | .unknownContainerOption => "unknown schema attribute, expected rename_all"
  | .unknownFieldOption =>
    "unknown schema attribute, expected rename, nested, collection, or skip"
  | .emptyFieldName => "field name must not be empty"
  | .nestedCollection => "a field cannot be both `nested` and `collection`"
  | .nestedSequence => "`nested` fields must hold a single object, not a sequence"
  | .emptyCollectionName => "collection name must not be empty"
  | .unknownDocumentOption => "unknown document attribute, expected collection"

/-- A reader of options. -/
abbrev OptionReader := StateT Cursor (Except DeriveError)

namespace OptionReader

variable {α σ : Type}

/-- Reads a piece of source text; where it cannot be read, the attribute is malformed. -/
def ofParse (p : Parse α) : OptionReader α := fun c =>
  match p.run c with
  | some r => .ok r
  | none => .error .malformed

/-- The name of an option: words with separators between them, reserved or not. -/
def name : Parse Path := do
  let isGlobal ← Parse.mark? "::"
  let names ← Parse.gather fun acc => do
    let i ← Parse.anyIdent
    return (i :: acc, !(← Parse.mark? "::"))
  match names with
  | first :: more =>
    return more.foldl (fun p i => p.extend (i, .none)) (.mk false isGlobal [] first .none)
  | [] => failure

/-- Options with commas between them, one at least, each of which changes what is gathered. -/
def options (option : Path → σ → OptionReader σ) : (fuel : Nat) → σ → OptionReader σ
  | 0, _ => throw .malformed
  | fuel + 1, gathered => do
    let gathered ← option (← ofParse name) gathered
    if ← ofParse Parse.atEnd then return gathered
    ofParse (Parse.mark ",")
    if ← ofParse Parse.atEnd then return gathered
    options option fuel gathered

/-- Options in parentheses. -/
def nested (option : Path → σ → OptionReader σ) (gathered : σ) : OptionReader σ := do
  let body ← ofParse (Parse.groupBody .paren)
  let outside ← get
  set { outside with rest := body }
  let gathered ← options option (body.length + 1) gathered
  let inside ← get
  set { inside with rest := outside.rest }
  return gathered

/-- The text that is given to an option as its value. -/
def textValue : OptionReader String := ofParse do
  Parse.mark "="
  Parse.stringLiteral

/-- Passes over an option that is not interpreted. -/
def skip : OptionReader Unit := ofParse do
  if ← Parse.peek (atMark "=") then
    Parse.mark "="
    let rest := (← get).rest
    discard ((Grammar.forTokens rest).expr true)
  else if ← Parse.peek (atGroup .paren) then Parse.within .paren (pure ())

/-- A name for the stored form: given as a value, or as the option `serialize` in parentheses. -/
def storedName : OptionReader (Option String) := do
  if ← ofParse (Parse.peek (atMark "=")) then return some (← textValue)
  else
    nested
      (fun name found => do
        if name.isWord "serialize" then return some (← textValue)
        else
          skip
          return found)
      none

/-- The options of one attribute, all of which must be read to their end. -/
def ofAttribute (option : Path → σ → OptionReader σ) (a : Attribute) (gathered : σ) :
    Except DeriveError σ :=
  match a.arguments with
  | none => .error .malformed
  | some [] => .ok gathered
  | some body => do
    let (gathered, c) ← (options option (body.length + 1) gathered).run (.start body)
    if c.isDone then .ok gathered else .error .malformed

end OptionReader

end PatchStore
