import PatchStore.Error

/-!
# Property paths

A property path leads from a document to one of its fields: through the objects that its `parents`
name, one inside the other, to the field that its `leaf` names.  So a path always has a name.

* `names_ne_nil` — the names of a path are never none.
* `ofNames?_names` — a path is read back from its names.
* `ofNames_names_eq_ok_iff` — it may be given by them unless one of them is empty.
-/

namespace PatchStore

/-- The names that lead from a document to a field. -/
structure PropertyPath where
  parents : List String
  leaf : String
  deriving DecidableEq

namespace PropertyPath

/-- All names, from the root to the leaf. -/
def names (p : PropertyPath) : List String := p.parents ++ [p.leaf]

/-- The number of names. -/
def length (p : PropertyPath) : Nat := p.parents.length + 1

/-- The names with full stops between them. -/
def display (p : PropertyPath) : String := ".".intercalate p.names

/-- The path whose parents and leaf the names are. -/
def ofNames? (names : List String) : Option PropertyPath :=
  names.getLast?.map fun leaf => ⟨names.dropLast, leaf⟩

/-- The path of the given names; there must be one, and none may be empty. -/
def ofNames (names : List String) : StoreResult PropertyPath :=
  match ofNames? names with
  | some p => if names.any String.isEmpty then .error (.argumentNull .path) else .ok p
  | none => .error (.argumentNull .path)

/-- The path that first leads through an object. -/
def under (parent : String) (p : PropertyPath) : PropertyPath := ⟨parent :: p.parents, p.leaf⟩

/-- The names of a path are never none. -/
theorem names_ne_nil (p : PropertyPath) : p.names ≠ [] := by simp [names]

@[simp] theorem length_names (p : PropertyPath) : p.names.length = p.length := by
  simp [names, length]

@[simp] theorem names_under (parent : String) (p : PropertyPath) :
    (p.under parent).names = parent :: p.names := rfl

/-- A path is read back from its names. -/
@[simp] theorem ofNames?_names (p : PropertyPath) : ofNames? p.names = some p := by
  simp [ofNames?, names]

/-- A path may be given by its names just when none of them is empty. -/
theorem ofNames_names_eq_ok_iff {p : PropertyPath} :
    ofNames p.names = .ok p ↔ ∀ name ∈ p.names, name ≠ "" := by
  rw [ofNames, ofNames?_names]
  by_cases h : p.names.any String.isEmpty = true
  · simp only [h, if_true]
    refine iff_of_false nofun fun hnames => ?_
    obtain ⟨name, hmem, hempty⟩ := List.any_eq_true.mp h
    exact hnames name hmem (String.isEmpty_iff.mp hempty)
  · simp only [h]
    refine iff_of_true rfl fun name hmem hempty => h ?_
    exact List.any_eq_true.mpr ⟨name, hmem, String.isEmpty_iff.mpr hempty⟩

end PropertyPath

end PatchStore
