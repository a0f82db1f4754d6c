import PatchStore.Decimal.Binary64
import PatchStore.Keyed

/-!
# JSON values

A number is an integer in the range of the two 64-bit integer types together, or a finite binary64
number; the two kinds are never equal.  An object is the list of its members in increasing order of
their names, as every `Keyed` list is.

Values are compared by `same`, numbers by their numeric value: integers by value and floats with
their two zeros identified.

* `same_refl`, `same_null_iff` — `same` holds of a value and itself; only `null` is the same as
  `null`.
-/

namespace PatchStore

/-- The integers that a JSON number can hold: those of a signed or of an unsigned 64-bit word. -/
def InIntegerRange (n : Int) : Prop := -9223372036854775808 ≤ n ∧ n ≤ 18446744073709551615

instance (n : Int) : Decidable (InIntegerRange n) := by
  unfold InIntegerRange
  infer_instance

/-- A JSON number. -/
inductive Number where
  | integer (value : Int) (inRange : InIntegerRange value)
  | float (value : Decimal.Binary64)
  deriving DecidableEq

namespace Number

/-- Numeric equality; an integer is never equal to a float. -/
def same : Number → Number → Bool
  | .integer a _, .integer b _ => a == b
  | .float a, .float b => a.sameNumber b
  | _, _ => false

@[simp] theorem same_refl (n : Number) : n.same n = true := by
  cases n <;> simp [same]

/-- A natural number that fits a 64-bit word, as a number. -/
def ofNat? (n : Nat) : Option Number :=
  if h : InIntegerRange (n : Int) then some (.integer n h) else none

/-- An integer of either 64-bit type, as a number. -/
def ofInt? (n : Int) : Option Number :=
  if h : InIntegerRange n then some (.integer n h) else none

end Number

/-- A JSON value. -/
inductive Json where
  | null
  | bool (value : Bool)
  | number (value : Number)
  | string (value : String)
  | array (items : List Json)
  | object (members : List (String × Json))

/-- The members of an object, in increasing order of their names. -/
abbrev Members := Keyed Json

/-! ## Equality of values -/

namespace Json

mutual

/-- Equality of values: numbers by numeric value, arrays item by item, objects member by member. -/
def same : Json → Json → Bool
  | .null, .null => true
  | .bool a, .bool b => a == b
  | .number a, .number b => a.same b
  | .string a, .string b => a == b
  | .array xs, .array ys => sameItems xs ys
  | .object xs, .object ys => sameMembers xs ys
  | _, _ => false
termination_by structural v => v

/-- Equality of lists of items. -/
def sameItems : List Json → List Json → Bool
  | [], [] => true
  | x :: xs, y :: ys => same x y && sameItems xs ys
  | _, _ => false
termination_by structural vs => vs

/-- Equality of lists of members. -/
def sameMembers : List (String × Json) → List (String × Json) → Bool
  | [], [] => true
  | (m, x) :: xs, (n, y) :: ys => m == n && same x y && sameMembers xs ys
  | _, _ => false
termination_by structural vs => vs

end

instance : BEq Json := ⟨same⟩

mutual

@[simp] theorem same_refl : (v : Json) → same v v = true
  | .null => rfl
  | .bool _ => by simp [same]
  | .number _ => by simp [same]
  | .string _ => by simp [same]
  | .array xs => by simp [same, sameItems_refl xs]
  | .object xs => by simp [same, sameMembers_refl xs]

@[simp] theorem sameItems_refl : (vs : List Json) → sameItems vs vs = true
  | [] => rfl
  | v :: vs => by simp [sameItems, same_refl v, sameItems_refl vs]

@[simp] theorem sameMembers_refl : (vs : List (String × Json)) → sameMembers vs vs = true
  | [] => rfl
  | (_, v) :: vs => by simp [sameMembers, same_refl v, sameMembers_refl vs]

end

/-- Only `null` is the same as `null`. -/
theorem same_null_iff {v : Json} : same v .null = true ↔ v = .null := by
  cases v <;> simp [same]

/-- Whether the value is `null`. -/
def isNull : Json → Bool
  | .null => true
  | _ => false

theorem isNull_iff {v : Json} : v.isNull = true ↔ v = .null := by
  cases v <;> simp [isNull]

theorem isNull_eq_false_iff {v : Json} : v.isNull = false ↔ v ≠ .null := by
  rw [← Bool.not_eq_true, Ne, isNull_iff]

/-- The text of a string value. -/
def string? : Json → Option String
  | .string s => some s
  | _ => none

/-- The members of an object. -/
def object? : Json → Option Members
  | .object m => some m
  | _ => none

/-- The items of an array. -/
def array? : Json → Option (List Json)
  | .array xs => some xs
  | _ => none

/-- The truth value of a Boolean. -/
def bool? : Json → Option Bool
  | .bool b => some b
  | _ => none

/-- The value of a number that is an integer. -/
def integer? : Json → Option Int
  | .number (.integer n _) => some n
  | _ => none

/-- The value at a path of member names, each name leading into an object. -/
def at? : Json → List String → Option Json
  | v, [] => some v
  | .object m, name :: path => (Keyed.get? m name).bind fun v => v.at? path
  | _, _ :: _ => none
termination_by _ path => path.length

@[simp] theorem at?_nil (v : Json) : v.at? [] = some v := by
  unfold at?
  cases v <;> rfl

/-- A path leads on from the member that its first name selects. -/
theorem at?_cons (m : Members) (name : String) (path : List String) :
    (Json.object m).at? (name :: path) = (Keyed.get? m name).bind fun v => v.at? path := by
  rw [at?]

/-- A path of one name leads to a member. -/
theorem at?_singleton (m : Members) (name : String) :
    (Json.object m).at? [name] = Keyed.get? m name := by
  rw [at?_cons]
  cases Keyed.get? m name with
  | none => rfl
  | some v => exact at?_nil v

/-- No path leads on from `null`. -/
theorem at?_null (name : String) (path : List String) : Json.null.at? (name :: path) = none := by
  rw [at?]
  rintro m ⟨⟩

/-- A member that is set leads where its value does. -/
theorem at?_insert_self (m : Members) (name : String) (v : Json) (path : List String) :
    (Json.object (Keyed.insert m name v)).at? (name :: path) = v.at? path := by
  rw [at?_cons, Keyed.get?_insert_self, Option.bind_some]

/-- A member that is set leaves the others. -/
theorem at?_insert_of_ne (m : Members) {name other : String} (h : name ≠ other) (v : Json)
    (path : List String) :
    (Json.object (Keyed.insert m name v)).at? (other :: path) =
      (Json.object m).at? (other :: path) := by
  rw [at?_cons, at?_cons, Keyed.get?_insert, if_neg h]

/-- An object with the given members, in any order. -/
def ofMembers (entries : List (String × Json)) : Json := .object (Keyed.ofList entries)

/-- Text that may be missing, as a string or `null`. -/
def ofString? : Option String → Json
  | some s => .string s
  | none => .null

/-- A natural number as a value; one too large for an integer becomes `null`. -/
def ofNat (n : Nat) : Json :=
  match Number.ofNat? n with
  | some x => .number x
  | none => .null

/-- An integer as a value; one out of range becomes `null`. -/
def ofInt (n : Int) : Json :=
  match Number.ofInt? n with
  | some x => .number x
  | none => .null

end Json

end PatchStore
