import PatchStore.PropertyPath
import PatchStore.Schema.Basic
import PatchStore.Selector.Access
import PatchStore.Source.Reader
import PatchStore.Text.Blank
import PatchStore.Text.Quoted

/-!
# Selectors

A selector is the text of an access to a field, written as a closure over the document or as a bare
chain of members.  `Selector.parse` reads the text once; `Selector.resolve` then walks a schema
along the members and gives the stored path with the description of the field that it ends at.

* `walk_single`, `walk_cons` — the walk through a schema, one member at a time.
-/

namespace PatchStore

open Source

/-- A parsed selector: its text without surrounding blanks, the parameter of its closure, and what
it accesses. -/
structure Selector where
  source : String
  parameter : Option String
  body : Access
  deriving DecidableEq

/-- The name of a closure parameter that is a plain identifier, perhaps with its type. -/
def parameterName? : Pattern → Option String
  | .ident i false => some i.text
  | .typed p => parameterName? p
  | _ => none

/-- A stored path and the description of the field that it leads to. -/
structure ResolvedField where
  path : PropertyPath
  field : Field String
  deriving DecidableEq

namespace Schema

/-- Follows members through a schema, from given fields on: each must be a field, and each but the
last must be an object. -/
def walk (s : Schema) (fields : List (Field String)) (member : String) :
    List String → Except SelectorFault ResolvedField
  | [] =>
    match findField? fields member with
    | some f => .ok ⟨⟨[], f.name⟩, f⟩
    | none => .error (.unknownField member)
  | next :: rest =>
    match findField? fields member with
    | some f =>
      match f.kind.object? with
      | some type => do
        let resolved ← walk s (s.fieldsOf type) next rest
        return { resolved with path := resolved.path.under f.name }
      | none => .error (.notNested member)
    | none => .error (.unknownField member)

/-- Follows members through a schema from its root type on. -/
def resolve (s : Schema) : List String → Except SelectorFault ResolvedField
  | [] => .error .selectsRoot
  | member :: rest => s.walk s.rootFields member rest

/-- One member leads to the field that it names. -/
theorem walk_single (s : Schema) {fields : List (Field String)} {member : String} {f : Field String}
    (h : findField? fields member = some f) : s.walk fields member [] = .ok ⟨⟨[], f.name⟩, f⟩ := by
  simp [walk, h]

/-- Further members go on in the type of the object that the first one names. -/
theorem walk_cons (s : Schema) {fields : List (Field String)} {member next type : String}
    {f : Field String} (h : findField? fields member = some f) (ht : f.kind = .object type)
    (rest : List String) :
    s.walk fields member (next :: rest) =
      (s.walk (s.fieldsOf type) next rest).map
        fun r => { r with path := r.path.under f.name } := by
  cases hw : s.walk (s.fieldsOf type) next rest <;>
    simp [walk, h, ht, FieldKind.object?, hw, Except.map, bind, Except.bind, pure, Except.pure]

end Schema

namespace Selector

/-- The closure parameter and the access that an expression consists of. -/
def ofExpr : Expr → Except SelectorFault (Option String × Access)
  | .closure parameters body =>
    match parameters with
    | [p] =>
      match parameterName? p with
      | some name => .ok (some name, Access.ofExpr body)
      | none => .error .parameterPattern
    | _ => .error .parameterCount
  | e => .ok (none, Access.ofExpr e)

/-- Reads a selector. -/
def parse (text : String) : StoreResult Selector :=
  let source := Text.trim text
  if source.isEmpty then .error (.argumentNull .selector)
  else
    match Expr.parse? source with
    | none => .error (.invalidSelector source .notAnExpression)
    | some e =>
      match ofExpr e with
      | .ok (parameter, body) => .ok ⟨source, parameter, body⟩
      | .error fault => .error (.invalidSelector source fault)

/-- The field of the schema's root type that the selector leads to. -/
def resolve (s : Selector) (schema : Schema) : StoreResult ResolvedField :=
  match s.body.members s.parameter with
  | .error fault => .error (.invalidSelector s.source fault)
  | .ok members =>
    match schema.resolve members with
    | .error fault => .error (.invalidSelector s.source fault)
    | .ok resolved => .ok resolved

/-- The stored path of the field that the selector leads to. -/
def extract (s : Selector) (schema : Schema) : StoreResult PropertyPath :=
  (s.resolve schema).map ResolvedField.path

/-- The selector in a description of a value. -/
def debug (s : Selector) : String := "Selector \x7b source: " ++ Text.quoted s.source ++ " \x7d"

end Selector

end PatchStore
