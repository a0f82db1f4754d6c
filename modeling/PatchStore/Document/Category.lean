import PatchStore.Document.Basic
import PatchStore.Json.Record

/-!
# Categories

A category may lie inside another one, its parent, so its schema is recursive.

* `sizeOf_field?_lt` — a field is smaller than the record that it belongs to, which bounds the
  reading of parents inside parents.
-/

namespace PatchStore

/-- A category, perhaps inside another one. -/
inductive Category where
  | mk (name : String) (parent : Option Category)

namespace Json

theorem sizeOf_get?_lt {m : Members} {name : String} {v : Json} (h : Keyed.get? m name = some v) :
    sizeOf v < sizeOf m := by
  induction m with
  | nil => simp at h
  | cons e rest ih =>
    rcases e with ⟨n, x⟩
    rw [Keyed.get?_cons] at h
    split at h
    · cases h
      simp only [List.cons.sizeOf_spec, Prod.mk.sizeOf_spec]
      omega
    · have := ih h
      simp only [List.cons.sizeOf_spec]
      omega

/-- A field is smaller than the record that it belongs to. -/
theorem sizeOf_field?_lt {v x : Json} {position : Nat} {name : String}
    (h : v.field? position name = some x) : sizeOf x < sizeOf v := by
  cases v with
  | object m =>
    have := sizeOf_get?_lt h
    simp only [Json.object.sizeOf_spec]
    omega
  | array items =>
    have hm : x ∈ items := List.mem_of_getElem? h
    have := List.sizeOf_lt_of_mem hm
    simp only [Json.array.sizeOf_spec]
    omega
  | _ => simp [field?] at h

end Json

namespace Category

/-- What is given to a serializer. -/
def toDatum : Category → Datum
  | mk name none => .record [("name", .string name), ("parent", .null)]
  | mk name (some parent) => .record [("name", .string name), ("parent", parent.toDatum)]

/-- The category that a value is the JSON form of. -/
def ofJson? (v : Json) : Option Category :=
  if v.isRecord 2 then
    match v.required 0 "name" Json.string?, _h : v.field? 1 "parent" with
    | none, _ => none
    | some name, some .null => some (mk name none)
    | some name, some x => (ofJson? x).map fun parent => mk name (some parent)
    | some name, none => if v.object?.isSome then some (mk name none) else none
  else none
termination_by sizeOf v
decreasing_by exact Json.sizeOf_field?_lt _h

instance : Document Category where
  kind := ⟨"Category", none⟩
  fields := [⟨"name", "name", .value⟩, ⟨"parent", "parent", .object "Category"⟩]
  toDatum := toDatum
  ofJson? := ofJson?

end Category

end PatchStore
