import PatchStore.Json.Basic

/-!
# Records as JSON

A record is read from an object by the names of its fields, or from an array by their positions.
Members that are no field are passed over, but an array may not be longer than the record.

A field may be required, or it may be missing from an object, or it may be missing altogether.

* `field?` — how a field is found.
* `required`, `optional`, `defaulted` — the fields of a record.
-/

namespace PatchStore.Json

/-- Whether the value can be a record of the given number of fields. -/
def isRecord (size : Nat) : Json → Bool
  | .object _ => true
  | .array items => items.length ≤ size
  | _ => false

/-- The field of the given position and name. -/
def field? (v : Json) (position : Nat) (name : String) : Option Json :=
  match v with
  | .object m => Keyed.get? m name
  | .array items => items[position]?
  | _ => none

/-- A value that may be `null`. -/
def nullable {α : Type} (read : Json → Option α) : Json → Option (Option α)
  | .null => some none
  | v => (read v).map some

/-- A field that must be there. -/
def required {α : Type} (v : Json) (position : Nat) (name : String) (read : Json → Option α) :
    Option α := do
  read (← v.field? position name)

/-- A field that may be `null`, and that an object may leave out. -/
def optional {α : Type} (v : Json) (position : Nat) (name : String) (read : Json → Option α) :
    Option (Option α) :=
  match v, v.field? position name with
  | _, some x => nullable read x
  | .object _, none => some none
  | _, none => none

/-- A field that may be left out. -/
def defaulted {α : Type} (v : Json) (position : Nat) (name : String) (default : α)
    (read : Json → Option α) : Option α :=
  match v.field? position name with
  | some x => read x
  | none => some default

/-- The name of a variant: a string, or an object whose only member has that name and is `null`. -/
def variantName? : Json → Option String
  | .string s => some s
  | .object [(name, .null)] => some name
  | _ => none

end PatchStore.Json
