import PatchStore.Command.Basic
import PatchStore.Selector.Basic
import PatchStore.Serializer
import PatchStore.Work

/-!
# Building patches

A `DocumentPatch` gathers patch chains for one document of a schema's root type.  Each call selects
a field and gives an operation for it; values are either given to the serializer or taken as JSON.
Calls change the patch in place, so whether a call that fails has gathered something is a question
of when it fails: each call checks everything before it gathers its chain.

An added or a set value may not be `null`.  A previous value that the serializer makes `null`
asserts nothing, while a previous value that is taken as JSON is always asserted.

* `on_addValue`, `on_setValue`, `on_unsetValue` — what the three operations do to a patch.
* `gatherAll` — calls one after the other, each also after one that failed.
-/

namespace PatchStore

/-- Patch chains gathered for one document. -/
structure DocumentPatch where
  key : String
  schema : Schema
  serializer : Serializer
  patches : List PatchNode

/-- A call for one more chain. -/
inductive PatchCall where
  | add (selector : Selector) (value : Datum)
  | addValue (selector : Selector) (value : Json)
  | set (selector : Selector) (value : Datum)
  | setIf (selector : Selector) (value prevVal : Datum)
  | setValue (selector : Selector) (value : Json) (prevVal : Option Json)
  | unset (selector : Selector)
  | unsetIf (selector : Selector) (prevVal : Datum)
  | unsetValue (selector : Selector) (prevVal : Option Json)

/-- A value that must not be `null`. -/
def requireValue (value : Json) : StoreResult Json :=
  if value.isNull then .error (.argumentNull .value) else .ok value

/-- A value that stands for nothing when it is `null`. -/
def nonNull? (value : Json) : Option Json := if value.isNull then none else some value

namespace DocumentPatch

/-- Starts a patch for the document of the given key, which may not be empty. -/
def create (key : String) (schema : Schema) (serializer : Serializer) : StoreResult DocumentPatch :=
  if key.isEmpty then .error (.argumentNull .key) else .ok ⟨key, schema, serializer, []⟩

/-- The patch with one more chain. -/
def push (p : DocumentPatch) (node : PatchNode) : DocumentPatch :=
  { p with patches := p.patches ++ [node] }

/-- Gives a value to the serializer. -/
def serialize (value : Datum) : Work DocumentPatch Json := do
  liftM ((← get).serializer.toJson value)

/-- Adds a value to a collection. -/
def addValue (selector : Selector) (value : Json) : Work DocumentPatch Unit := do
  let value ← liftM (requireValue value)
  let resolved ← liftM (selector.resolve (← get).schema)
  if resolved.field.kind.isCollection then
    modify fun p => p.push (.ofPath resolved.path (.add value))
  else throw (.invalidSelector selector.source (.notCollection resolved.field.ident))

/-- Sets a field. -/
def setValue (selector : Selector) (value : Json) (prevVal : Option Json) :
    Work DocumentPatch Unit := do
  let value ← liftM (requireValue value)
  let resolved ← liftM (selector.resolve (← get).schema)
  modify fun p => p.push (.ofPath resolved.path (.set value prevVal))

/-- Removes a field. -/
def unsetValue (selector : Selector) (prevVal : Option Json) : Work DocumentPatch Unit := do
  let resolved ← liftM (selector.resolve (← get).schema)
  modify fun p => p.push (.ofPath resolved.path (.unset prevVal))

/-- Gathers the chain that a call asks for. -/
def gather : PatchCall → Work DocumentPatch Unit
  | .add s value => do addValue s (← serialize value)
  | .addValue s value => addValue s value
  | .set s value => do setValue s (← serialize value) none
  | .setIf s value prevVal => do
    let value ← serialize value
    let prevVal ← serialize prevVal
    setValue s value (nonNull? prevVal)
  | .setValue s value prevVal => setValue s value prevVal
  | .unset s => unsetValue s none
  | .unsetIf s prevVal => do unsetValue s (nonNull? (← serialize prevVal))
  | .unsetValue s prevVal => unsetValue s prevVal

/-- Makes calls one after the other, each also after one that failed; gives what came of each, and
the patch that they leave. -/
def gatherAll (p : DocumentPatch) : List PatchCall → List (StoreResult Unit) × DocumentPatch
  | [] => ([], p)
  | call :: calls =>
    let (outcome, after) := (gather call).on p
    let (outcomes, last) := after.gatherAll calls
    (outcome :: outcomes, last)

/-- The command for the chains that are gathered, bound to a version or not. -/
def build (p : DocumentPatch) (etag : Option Etag) : PatchCommand := ⟨p.key, etag, p.patches⟩

@[simp] theorem push_key (p : DocumentPatch) (node : PatchNode) : (p.push node).key = p.key := rfl

@[simp] theorem push_schema (p : DocumentPatch) (node : PatchNode) :
    (p.push node).schema = p.schema := rfl

@[simp] theorem push_serializer (p : DocumentPatch) (node : PatchNode) :
    (p.push node).serializer = p.serializer := rfl

@[simp] theorem push_patches (p : DocumentPatch) (node : PatchNode) :
    (p.push node).patches = p.patches ++ [node] := rfl

/-- Serializing a value leaves the patch alone. -/
theorem on_serialize (value : Datum) (p : DocumentPatch) :
    (serialize value).on p = (p.serializer.toJson value, p) := by
  rw [serialize, Work.on_bind_of_ok (Work.on_get p), Work.on_liftM]

/-- Adding asks for a value that is not `null`, then for a field, then for a collection. -/
theorem on_addValue (s : Selector) (value : Json) (p : DocumentPatch) :
    (addValue s value).on p =
      match requireValue value, s.resolve p.schema with
      | .error e, _ => (.error e, p)
      | .ok _, .error e => (.error e, p)
      | .ok v, .ok r =>
        if r.field.kind.isCollection then (.ok (), p.push (.ofPath r.path (.add v)))
        else (.error (.invalidSelector s.source (.notCollection r.field.ident)), p) := by
  rw [addValue, Work.on_bind, Work.on_liftM]
  rcases requireValue value with e | v
  · rfl
  · show Work.on (get >>= _) p = _
    rw [Work.on_bind_of_ok (Work.on_get p), Work.on_bind, Work.on_liftM]
    rcases s.resolve p.schema with e | r
    · rfl
    · show Work.on (if r.field.kind.isCollection then _ else _) p =
        if r.field.kind.isCollection then _ else _
      split <;> rfl

/-- Setting asks for a value that is not `null`, then for a field. -/
theorem on_setValue (s : Selector) (value : Json) (prevVal : Option Json) (p : DocumentPatch) :
    (setValue s value prevVal).on p =
      match requireValue value, s.resolve p.schema with
      | .error e, _ => (.error e, p)
      | .ok _, .error e => (.error e, p)
      | .ok v, .ok r => (.ok (), p.push (.ofPath r.path (.set v prevVal))) := by
  rw [setValue, Work.on_bind, Work.on_liftM]
  rcases requireValue value with e | v
  · rfl
  · show Work.on (get >>= _) p = _
    rw [Work.on_bind_of_ok (Work.on_get p), Work.on_bind, Work.on_liftM]
    rcases s.resolve p.schema with e | r <;> rfl

/-- Removing asks for a field. -/
theorem on_unsetValue (s : Selector) (prevVal : Option Json) (p : DocumentPatch) :
    (unsetValue s prevVal).on p =
      match s.resolve p.schema with
      | .error e => (.error e, p)
      | .ok r => (.ok (), p.push (.ofPath r.path (.unset prevVal))) := by
  rw [unsetValue, Work.on_bind_of_ok (Work.on_get p), Work.on_bind, Work.on_liftM]
  rcases s.resolve p.schema with e | r <;> rfl

end DocumentPatch

end PatchStore
