import PatchStore.Schema.Basic
import PatchStore.Schema.Options

/-!
# Deriving a schema from a struct declaration

Each named field becomes a field of the schema unless an option skips it.  Its stored name is the
one that its options give, else the one that the struct's rename rule gives to its identifier.  A
field whose type is a sequence is a collection, and so is one that is marked as such; a field that
is marked nested is an object of its type.

`Option` and `Box` around a type make no difference (`unwrapped`).

* `deriveSchema` — the fields that the text of a declaration describes.
* `unwrapped_wrap` — a layer of `Option` or `Box` is taken off.
-/

namespace PatchStore

open Source

/-! ## Shapes of types -/

/-- The names of the types that hold a sequence of values. -/
def sequenceTypes : List String :=
  ["Vec", "VecDeque", "LinkedList", "HashSet", "BTreeSet", "BinaryHeap"]

/-- The names of the types that hold at most one value of another type. -/
def wrapperTypes : List String := ["Option", "Box"]

/-- A type without the layers of `Option` and `Box` around it. -/
def unwrapped : TypeExpr → TypeExpr
  | .mk (.path (.mk false isGlobal modules name (.angled [.type inner]))) tokens =>
    if wrapperTypes.contains name.text then unwrapped inner
    else .mk (.path (.mk false isGlobal modules name (.angled [.type inner]))) tokens
  | t => t

/-- A layer of `Option` or `Box` is taken off, whatever modules it is named from. -/
theorem unwrapped_wrap {name : Ident} (h : name.text ∈ wrapperTypes) (isGlobal : Bool)
    (modules : List (Ident × Bool)) (inner : TypeExpr) (tokens : List Token) :
    unwrapped (.mk (.path (.mk false isGlobal modules name (.angled [.type inner]))) tokens) =
      unwrapped inner := by
  rw [unwrapped, if_pos (by simpa using h)]

/-- Whether a type, without its wrappers, is a sequence. -/
def isSequence (t : TypeExpr) : Bool :=
  match (unwrapped t).form with
  | .array => true
  | .slice => true
  | .reference (.mk .slice _) => true
  | .path p => !p.qualified && sequenceTypes.contains p.name.text
  | _ => false

/-! ## Options -/

/-- The options of a struct. -/
structure ContainerOptions where
  rule : RenameRule := .keep
  deriving Inhabited

/-- The options of a field. -/
structure FieldOptions where
  rename : Option String := none
  skipped : Bool := false
  nested : Bool := false
  collection : Bool := false
  deriving Inhabited

/-- The rename rule of the given name. -/
def renameRule (name : String) : Except DeriveError RenameRule :=
  match RenameRule.ofName? name with
  | some rule => .ok rule
  | none => .error (.unknownRule name)

namespace ContainerOptions

/-- An option of a struct that serialization knows. -/
def serdeOption (name : Path) (o : ContainerOptions) : OptionReader ContainerOptions := do
  if name.isWord "rename_all" then
    match ← OptionReader.storedName with
    | some rule => return { o with rule := ← renameRule rule }
    | none => return o
  else
    OptionReader.skip
    return o

/-- An option of a struct for its schema alone. -/
def schemaOption (name : Path) (o : ContainerOptions) : OptionReader ContainerOptions := do
  if name.isWord "rename_all" then
    return { o with rule := ← renameRule (← OptionReader.textValue) }
  else throw .unknownContainerOption

/-- The options that an attribute adds. -/
def ofAttribute (o : ContainerOptions) (a : Attribute) : Except DeriveError ContainerOptions :=
  if a.path.isWord "serde" then OptionReader.ofAttribute serdeOption a o
  else if a.path.isWord "schema" then OptionReader.ofAttribute schemaOption a o
  else .ok o

end ContainerOptions

namespace FieldOptions

/-- An option of a field that serialization knows. -/
def serdeOption (name : Path) (o : FieldOptions) : OptionReader FieldOptions := do
  if name.isWord "rename" then
    match ← OptionReader.storedName with
    | some stored => return { o with rename := some stored }
    | none => return o
  else if name.isWord "skip" || name.isWord "skip_serializing" || name.isWord "flatten" then
    return { o with skipped := true }
  else
    OptionReader.skip
    return o

/-- An option of a field for its schema alone. -/
def schemaOption (name : Path) (o : FieldOptions) : OptionReader FieldOptions := do
  if name.isWord "rename" then
    let stored ← OptionReader.textValue
    if stored.isEmpty then throw .emptyFieldName
    return { o with rename := some stored }
  else if name.isWord "nested" then return { o with nested := true }
  else if name.isWord "collection" then return { o with collection := true }
  else if name.isWord "skip" then return { o with skipped := true }
  else throw .unknownFieldOption

/-- The options that an attribute adds. -/
def ofAttribute (o : FieldOptions) (a : Attribute) : Except DeriveError FieldOptions :=
  if a.path.isWord "serde" then OptionReader.ofAttribute serdeOption a o
  else if a.path.isWord "schema" then OptionReader.ofAttribute schemaOption a o
  else .ok o

end FieldOptions

/-! ## Fields -/

/-- The field that an identifier, a type and options describe; one that is skipped describes
none. -/
def describeField (rule : RenameRule) (ident : Ident) (type : TypeExpr) (o : FieldOptions) :
    Except DeriveError (Option (Field TypeExpr)) :=
  if o.skipped then .ok none
  else if o.nested && o.collection then .error .nestedCollection
  else
    let name := o.rename.getD (rule.apply ident.name)
    let collection := o.collection || isSequence type
    if o.nested then
      if collection then .error .nestedSequence
      else .ok (some ⟨ident.name, name, .object (unwrapped type)⟩)
    else .ok (some ⟨ident.name, name, if collection then .collection else .value⟩)

/-- The field that a declared field describes. -/
def deriveField (rule : RenameRule) (f : FieldDecl) :
    Except DeriveError (Option (Field TypeExpr)) := do
  describeField rule f.ident f.type (← f.attributes.foldlM FieldOptions.ofAttribute {})

/-- The fields that a declaration describes. -/
def deriveFields (d : TypeDecl) : Except DeriveError (List (Field TypeExpr)) := do
  if d.generic then throw .genericType
  match d.body with
  | .named fields =>
    let options ← d.attributes.foldlM ContainerOptions.ofAttribute {}
    return (← fields.mapM (deriveField options.rule)).filterMap id
  | .tuple | .unit => throw .unnamedFields
  | .enumeration | .union => throw .notAStruct

/-- The identifier of a declared struct and the fields that its text describes. -/
def deriveSchema (text : String) : Except DeriveError (String × List (Field TypeExpr)) :=
  match TypeDecl.parse? text with
  | some d => do return (d.ident.name, ← deriveFields d)
  | none => .error .malformed

/-- The name by which a field's type is referred to: the last name of its path. -/
def referredType (t : TypeExpr) : String :=
  match t.form with
  | .path p => p.name.name
  | _ => t.spell

/-- The schema that the texts of struct declarations describe together. -/
def Schema.derive (root : String) (texts : List String) : Except DeriveError Schema := do
  let types ← texts.mapM fun text => do
    let (name, fields) ← deriveSchema text
    return (name, fields.map (Field.map referredType))
  return ⟨root, Keyed.ofList types⟩

end PatchStore
