import PatchStore.Error

/-!
# Turning values into JSON

`Datum` is what a serializer is given: scalars of any width, floats that may not be finite, lists,
records with named fields and maps whose keys are data themselves.  `Datum.toJson` gives its JSON
form, if it has one, and `Serializer.toJson` then drops the object members that are `null`, unless
told to keep them.

## Dropping nulls

`stripNulls` goes through arrays and objects; an array keeps its length and its nulls.

* `stripNulls_idem` — dropping nulls twice is dropping them once.
* `stripNulls_isNull` — a value becomes `null` only if it was `null`.
-/

namespace PatchStore

/-- A value that is given to the serializer.  A float is absent when it is not finite. -/
inductive Datum where
  | null
  | bool (value : Bool)
  | integer (value : Int)
  | float (value : Option Decimal.Binary64)
  | string (value : String)
  | list (items : List Datum)
  | record (fields : List (String × Datum))
  | map (entries : List (Datum × Datum))
  deriving Inhabited

namespace Datum

/-- The member name that a map key becomes: text stays, a number and a Boolean become their text,
and nothing else may be a key. -/
def keyName? : Datum → Option String
  | .string s => some s
  | .bool true => some "true"
  | .bool false => some "false"
  | .integer n => some (String.ofList (Json.renderInt n))
  | .float (some x) => some (String.ofList (Json.floatLayout.render x))
  | _ => none

mutual

/-- The JSON form of a value: an integer must fit a 64-bit word, and a float that is not finite
becomes `null`. -/
def toJson : Datum → StoreResult Json
  | .null => .ok .null
  | .bool b => .ok (.bool b)
  | .integer n =>
    match Number.ofInt? n with
    | some x => .ok (.number x)
    | none => .error (.serialization .noJsonForm)
  | .float (some x) => .ok (.number (.float x))
  | .float none => .ok .null
  | .string s => .ok (.string s)
  | .list items => do return .array (← itemsToJson items)
  | .record fields => do return .object (Keyed.ofList (← fieldsToJson fields))
  | .map entries => do return .object (Keyed.ofList (← entriesToJson entries))

/-- The JSON forms of a list of values. -/
def itemsToJson : List Datum → StoreResult (List Json)
  | [] => .ok []
  | x :: xs => do return (← toJson x) :: (← itemsToJson xs)

/-- The members that the fields of a record become. -/
def fieldsToJson : List (String × Datum) → StoreResult (List (String × Json))
  | [] => .ok []
  | (name, x) :: xs => do return (name, ← toJson x) :: (← fieldsToJson xs)

/-- The members that the entries of a map become. -/
def entriesToJson : List (Datum × Datum) → StoreResult (List (String × Json))
  | [] => .ok []
  | (key, x) :: xs =>
    match key.keyName? with
    | some name => do return (name, ← toJson x) :: (← entriesToJson xs)
    | none => .error (.serialization .noJsonForm)

end

mutual

/-- A JSON value as a value to be serialized. -/
def ofJson : Json → Datum
  | .null => .null
  | .bool b => .bool b
  | .number (.integer n _) => .integer n
  | .number (.float x) => .float (some x)
  | .string s => .string s
  | .array items => .list (ofItems items)
  | .object members => .record (ofMembers members)

/-- The items of an array as values to be serialized. -/
def ofItems : List Json → List Datum
  | [] => []
  | x :: xs => ofJson x :: ofItems xs

/-- The members of an object as fields to be serialized. -/
def ofMembers : List (String × Json) → List (String × Datum)
  | [] => []
  | (name, x) :: xs => (name, ofJson x) :: ofMembers xs

end

end Datum

/-! ## Dropping nulls -/

namespace Json

mutual

/-- Drops the object members whose value is `null`, at every depth. -/
def stripNulls : Json → Json
  | .array items => .array (stripItems items)
  | .object members => .object (stripMembers members)
  | v => v

/-- Drops the nulls inside each item. -/
def stripItems : List Json → List Json
  | [] => []
  | x :: xs => stripNulls x :: stripItems xs

/-- Drops the members that are `null` and the nulls inside the others. -/
def stripMembers : List (String × Json) → List (String × Json)
  | [] => []
  | (_, .null) :: xs => stripMembers xs
  | (name, x) :: xs => (name, stripNulls x) :: stripMembers xs

end

/-- A value becomes `null` only if it was `null`. -/
@[simp] theorem stripNulls_isNull (v : Json) : v.stripNulls.isNull = v.isNull := by
  cases v <;> rfl

theorem stripMembers_cons_null (name : String) (xs : List (String × Json)) :
    stripMembers ((name, .null) :: xs) = stripMembers xs := rfl

theorem stripMembers_cons {v : Json} (h : v.isNull = false) (name : String)
    (xs : List (String × Json)) :
    stripMembers ((name, v) :: xs) = (name, v.stripNulls) :: stripMembers xs := by
  cases v <;> simp_all [stripMembers, isNull]

mutual

/-- Dropping nulls twice is dropping them once. -/
theorem stripNulls_idem : (v : Json) → v.stripNulls.stripNulls = v.stripNulls
  | .null => rfl
  | .bool _ => rfl
  | .number _ => rfl
  | .string _ => rfl
  | .array xs => by simp [stripNulls, stripItems_idem xs]
  | .object xs => by simp [stripNulls, stripMembers_idem xs]

theorem stripItems_idem : (xs : List Json) → stripItems (stripItems xs) = stripItems xs
  | [] => rfl
  | x :: xs => by simp [stripItems, stripNulls_idem x, stripItems_idem xs]

theorem stripMembers_idem :
    (xs : List (String × Json)) → stripMembers (stripMembers xs) = stripMembers xs
  | [] => rfl
  | (name, v) :: xs => by
    have hv := stripNulls_idem v
    have hxs := stripMembers_idem xs
    cases hn : v.isNull with
    | true =>
      cases v <;> simp_all [isNull, stripMembers]
    | false =>
      rw [stripMembers_cons hn, stripMembers_cons (by simpa using hn), hv, hxs]

end

end Json

/-! ## The serializer -/

/-- How values are turned into JSON. -/
structure Serializer where
  ignoreNulls : Bool := true
  deriving DecidableEq, Inhabited

/-- The JSON form of a value under the settings of the serializer. -/
def Serializer.toJson (s : Serializer) (d : Datum) : StoreResult Json := do
  let v ← d.toJson
  return if s.ignoreNulls then v.stripNulls else v

end PatchStore
