import PatchStore.Patch.Node
import PatchStore.Work

/-!
# Applying patches

A chain is applied to the members of a document, in place.  Each `modify` node goes into an object,
which it makes if the member is missing or `null`; the leaf then does its operation on the innermost
object, after checking the previous value if it has one.  A chain that fails leaves the objects that
it made on its way.

Applying a chain says whether anything was modified.  Making an object counts as a modification, and
so does adding to an array; setting modifies only if the value was another one.

* `on_apply_add`, `on_apply_set`, `on_apply_unset` — what each operation does to its member.
* `enter_eq_ok`, `enter_eq_error` — what a `modify` node goes into, and what it refuses.
* `on_apply_modify_of_enter`, `on_apply_modify_eq_ok` — how a `modify` node goes one level down.
* `on_applyAll_cons_of_ok`, `on_applyAll_cons_eq_ok` — chains are applied one after the other.
-/

namespace PatchStore

/-- Whether a member is found to have the value it must have, compared as JSON values. -/
def hasValue (expected : Json) : Option Json → Bool
  | some v => v == expected
  | none => false

namespace PatchLeaf

/-- Checks the previous value of a member. -/
def checkPrevious (key name : String) (target : Members) : Option Json → StoreResult Unit
  | none => .ok ()
  | some expected =>
    let found := Keyed.get? target name
    if hasValue expected found then .ok ()
    else .error (.concurrency key (.valueDiffers name expected found))

/-- Applies an operation to a member. -/
def apply (key name : String) : PatchLeaf → Work Members Bool
  | add value => do
    match Keyed.get? (← get) name with
    | some (.array items) =>
      modify fun target => Keyed.insert target name (.array (items ++ [value]))
      return true
    | none | some .null =>
      modify fun target => Keyed.insert target name (.array [value])
      return true
    | some _ => throw (.backend (.notAnArray name key))
  | set value prevVal => do
    let target ← get
    liftM (checkPrevious key name target prevVal)
    modify fun target => Keyed.insert target name value
    return !hasValue value (Keyed.get? target name)
  | unset prevVal => do
    let target ← get
    liftM (checkPrevious key name target prevVal)
    modify fun target => Keyed.erase target name
    return Keyed.contains target name

/-- Adding appends to an array, which it makes if there is nothing. -/
theorem on_apply_add (key name : String) (value : Json) (target : Members) :
    ((add value).apply key name).on target =
      match Keyed.get? target name with
      | some (.array items) =>
        (.ok true, Keyed.insert target name (.array (items ++ [value])))
      | none | some .null => (.ok true, Keyed.insert target name (.array [value]))
      | some _ => (.error (.backend (.notAnArray name key)), target) := by
  rw [apply, Work.on_bind_of_ok (Work.on_get target)]
  split <;> rfl

/-- Setting puts the value in place once the previous value is checked. -/
theorem on_apply_set (key name : String) (value : Json) (prevVal : Option Json)
    (target : Members) :
    ((set value prevVal).apply key name).on target =
      match checkPrevious key name target prevVal with
      | .ok () => (.ok !hasValue value (Keyed.get? target name), Keyed.insert target name value)
      | .error e => (.error e, target) := by
  rw [apply, Work.on_bind_of_ok (Work.on_get target), Work.on_bind, Work.on_liftM]
  cases checkPrevious key name target prevVal <;> rfl

/-- Unsetting drops the member once the previous value is checked. -/
theorem on_apply_unset (key name : String) (prevVal : Option Json) (target : Members) :
    ((unset prevVal).apply key name).on target =
      match checkPrevious key name target prevVal with
      | .ok () => (.ok (Keyed.contains target name), Keyed.erase target name)
      | .error e => (.error e, target) := by
  rw [apply, Work.on_bind_of_ok (Work.on_get target), Work.on_bind, Work.on_liftM]
  cases checkPrevious key name target prevVal <;> rfl

end PatchLeaf

namespace PatchNode

/-- The object that a `modify` node goes into, and whether it had to be made. -/
def enter (key name : String) : Option Json → StoreResult (Members × Bool)
  | some (.object members) => .ok (members, false)
  | none | some .null => .ok ([], true)
  | some _ => .error (.backend (.notAnObject name key))

/-- Work on the given members, which become the object of the given name. -/
def inObject {α : Type} (name : String) (members : Members) : Work Members α → Work Members α :=
  Work.within (fun _ => members) fun changed target => Keyed.insert target name (.object changed)

/-- Applies a chain to the members of a document. -/
def apply (key : String) : PatchNode → Work Members Bool
  | leaf name operation => operation.apply key name
  | modify name nested => do
    let (members, created) ← liftM (enter key name (Keyed.get? (← get) name))
    let modified ← inObject name members (nested.apply key)
    return modified || created

/-- Applies chains one after the other; says whether any of them modified the document. -/
def applyAll (key : String) : List PatchNode → Work Members Bool
  | [] => return false
  | node :: rest => do
    let modified ← node.apply key
    let more ← applyAll key rest
    return modified || more

/-- A `modify` node goes into an object that is there, or into one that it makes. -/
theorem enter_eq_ok {key name : String} {found : Option Json} {members : Members} {created : Bool}
    (h : enter key name found = .ok (members, created)) :
    (found = some (.object members) ∧ created = false) ∨
      ((found = none ∨ found = some .null) ∧ members = [] ∧ created = true) := by
  rcases found with _ | _ | _ | _ | _ | _ | entered <;> cases h
  · exact Or.inr ⟨Or.inl rfl, rfl, rfl⟩
  · exact Or.inr ⟨Or.inr rfl, rfl, rfl⟩
  · exact Or.inl ⟨rfl, rfl⟩

/-- A `modify` node refuses what is there and is neither `null` nor an object. -/
theorem enter_eq_error {key name : String} {found : Option Json} {e : StoreError}
    (h : enter key name found = .error e) :
    e = .backend (.notAnObject name key) ∧
      ∃ v, found = some v ∧ v ≠ .null ∧ v.object? = none := by
  rcases found with _ | _ | _ | _ | _ | _ | _ <;> cases h
  all_goals exact ⟨rfl, _, rfl, Json.noConfusion, rfl⟩

/-- A chain of one node is its operation. -/
@[simp] theorem apply_leaf (key name : String) (operation : PatchLeaf) :
    (leaf name operation).apply key = operation.apply key name := rfl

/-- A `modify` node applies the rest of the chain one level down; what that leaves becomes the
object also if it fails. -/
theorem on_apply_modify_of_enter {key name : String} {target members : Members} {created : Bool}
    (h : enter key name (Keyed.get? target name) = .ok (members, created)) (nested : PatchNode) :
    ((modify name nested).apply key).on target =
      (((nested.apply key).on members).1.map (· || created),
        Keyed.insert target name (.object ((nested.apply key).on members).2)) := by
  rw [apply, Work.on_bind_of_ok (Work.on_get target), h]
  exact Work.on_bind_pure (inObject name members (nested.apply key)) (· || created) target

/-- A `modify` node fails on what is no object, and changes nothing. -/
theorem on_apply_modify_of_refused {key name : String} {target : Members} {e : StoreError}
    (h : enter key name (Keyed.get? target name) = .error e) (nested : PatchNode) :
    ((modify name nested).apply key).on target = (.error e, target) := by
  rw [apply, Work.on_bind_of_ok (Work.on_get target), h]
  rfl

/-- What a `modify` node that succeeds has done. -/
theorem on_apply_modify_eq_ok {key name : String} {nested : PatchNode} {target after : Members}
    {modified : Bool} (h : ((modify name nested).apply key).on target = (.ok modified, after)) :
    ∃ members created below changed,
      enter key name (Keyed.get? target name) = .ok (members, created) ∧
        (nested.apply key).on members = (.ok below, changed) ∧ modified = (below || created) ∧
        after = Keyed.insert target name (.object changed) := by
  rcases henter : enter key name (Keyed.get? target name) with e | ⟨members, created⟩
  · rw [on_apply_modify_of_refused henter] at h
    cases h
  · rw [on_apply_modify_of_enter henter] at h
    rcases hnested : (nested.apply key).on members with ⟨e | below, changed⟩
    · rw [hnested] at h
      cases h
    · rw [hnested] at h
      cases h
      exact ⟨members, created, below, changed, rfl, hnested, rfl, rfl⟩

@[simp] theorem applyAll_nil (key : String) : applyAll key [] = pure false := rfl

/-- Chains are applied one after the other. -/
theorem on_applyAll_cons_of_ok {key : String} {node : PatchNode} {target changed : Members}
    {modified : Bool} (h : (node.apply key).on target = (.ok modified, changed))
    (rest : List PatchNode) :
    (applyAll key (node :: rest)).on target =
      (((applyAll key rest).on changed).1.map (modified || ·),
        ((applyAll key rest).on changed).2) := by
  rw [applyAll, Work.on_bind_of_ok h]
  exact Work.on_bind_pure _ _ _

/-- No chain is applied after one that fails. -/
theorem on_applyAll_cons_of_error {key : String} {node : PatchNode} {target changed : Members}
    {e : StoreError} (h : (node.apply key).on target = (.error e, changed))
    (rest : List PatchNode) :
    (applyAll key (node :: rest)).on target = (.error e, changed) := by
  rw [applyAll, Work.on_bind_of_error h]

/-- What chains that succeed have done. -/
theorem on_applyAll_cons_eq_ok {key : String} {node : PatchNode} {rest : List PatchNode}
    {target after : Members} {modified : Bool}
    (h : (applyAll key (node :: rest)).on target = (.ok modified, after)) :
    ∃ first changed more, (node.apply key).on target = (.ok first, changed)
      ∧ (applyAll key rest).on changed = (.ok more, after) ∧ modified = (first || more) := by
  obtain ⟨first, changed, hfirst, h⟩ := Work.on_bind_eq_ok h
  obtain ⟨more, last, hmore, h⟩ := Work.on_bind_eq_ok h
  cases h
  exact ⟨first, changed, more, hfirst, hmore, rfl⟩

end PatchNode

end PatchStore
