import PatchStore.Schema.Options

/-!
# Kinds of documents

A document type has a name, which conventions make keys of, and may name its collection.  Both are
derived from the declaration of a struct, an enumeration or a union with its `document` options.
-/

namespace PatchStore

open Source

/-- A type of documents: its name, and its collection if it names one. -/
structure DocumentKind where
  typeName : String
  collection : Option String := none
  deriving DecidableEq, Inhabited

namespace DocumentKind

/-- An option of a document type. -/
def option (name : Path) (_ : Option String) : OptionReader (Option String) := do
  if name.isWord "collection" then
    let value ← OptionReader.textValue
    if value.isEmpty then throw .emptyCollectionName
    return some value
  else throw .unknownDocumentOption

/-- The collection after an attribute. -/
def ofAttribute (collection : Option String) (a : Attribute) :
    Except DeriveError (Option String) :=
  if a.path.isWord "document" then OptionReader.ofAttribute option a collection else .ok collection

/-- The document type that a declaration describes. -/
def derive (d : TypeDecl) : Except DeriveError DocumentKind := do
  return ⟨d.ident.name, ← d.attributes.foldlM ofAttribute none⟩

/-- The document type that the text of a declaration describes. -/
def deriveText (text : String) : Except DeriveError DocumentKind :=
  match TypeDecl.parse? text with
  | some d => derive d
  | none => .error .malformed

end DocumentKind

end PatchStore
