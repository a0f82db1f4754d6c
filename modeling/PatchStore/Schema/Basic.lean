import PatchStore.Keyed

/-!
# Schemas

A schema describes which fields of a type a selector can address.  A field has the identifier that
selectors use, the name it is stored under, and a kind.  A field that holds an object refers to the
object's type by name, so schemas may be recursive.

* `findField?_eq_none_iff` — no field is found exactly when none has the identifier.
-/

namespace PatchStore

/-- The kind of a field: an opaque value, a collection that can be added to, or an object of a type
that can be descended into.  Types are referred to by an `α`. -/
inductive FieldKind (α : Type) where
  | value
  | collection
  | object (type : α)
  deriving DecidableEq

/-- A field: the identifier in selectors, the stored name and the kind. -/
structure Field (α : Type) where
  ident : String
  name : String
  kind : FieldKind α
  deriving DecidableEq

namespace FieldKind

variable {α β : Type}

/-- Refers to types by something else. -/
def map (f : α → β) : FieldKind α → FieldKind β
  | value => .value
  | collection => .collection
  | object t => .object (f t)

/-- Whether the field can be added to. -/
def isCollection : FieldKind α → Bool
  | collection => true
  | _ => false

/-- The type that can be descended into. -/
def object? : FieldKind α → Option α
  | object t => some t
  | _ => none

/-- The word for the kind. -/
def word : FieldKind α → String
  | value => "value"
  | collection => "collection"
  | object _ => "object"

end FieldKind

/-- Refers to types by something else. -/
def Field.map {α β : Type} (f : α → β) (x : Field α) : Field β := ⟨x.ident, x.name, x.kind.map f⟩

/-- The first field with the given identifier. -/
def findField? {α : Type} (fields : List (Field α)) (ident : String) : Option (Field α) :=
  fields.find? fun f => f.ident == ident

/-- No field is found exactly when none has the identifier. -/
theorem findField?_eq_none_iff {α : Type} {fields : List (Field α)} {ident : String} :
    findField? fields ident = none ↔ ∀ f ∈ fields, f.ident ≠ ident := by
  simp [findField?, List.find?_eq_none]

/-- A root type and the fields of every type by its name. -/
structure Schema where
  root : String
  types : Keyed (List (Field String))

namespace Schema

/-- The fields of a type; a type that is not described has none. -/
def fieldsOf (s : Schema) (type : String) : List (Field String) :=
  (Keyed.get? s.types type).getD []

/-- The fields of the root type. -/
def rootFields (s : Schema) : List (Field String) := s.fieldsOf s.root

/-- The field of the root type with the given identifier. -/
def field? (s : Schema) (ident : String) : Option (Field String) := findField? s.rootFields ident

end Schema

end PatchStore
