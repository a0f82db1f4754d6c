import PatchStore.Command.Basic
import PatchStore.Serializer
import PatchStore.Text.Blank

/-!
# Scripted patches

A scripted patch is a script with values for its parameters.  The parameters are given as pairs of a
name and a value, or as the fields of one value.  Names may not repeat.

* `pairValues_nil`, `pairValues_cons` — pairs are taken one after the other.
-/

namespace PatchStore

/-- How the parameters of a script are given. -/
inductive ScriptParameters where
  | none
  | pairs (entries : List (String × Datum))
  | fields (value : Datum)

namespace ScriptParameters

/-- The values of named parameters, after those that are already there. -/
def pairValues (serializer : Serializer) (values : Members) :
    List (String × Datum) → StoreResult Members
  | [] => .ok values
  | (name, value) :: rest =>
    if Keyed.contains values name then .error (.duplicateParameter name)
    else do pairValues serializer (Keyed.insert values name (← serializer.toJson value)) rest

/-- The values of the parameters. -/
def values (serializer : Serializer) : ScriptParameters → StoreResult Members
  | none => .ok []
  | pairs entries => pairValues serializer [] entries
  | fields value => do
    match ← serializer.toJson value with
    | .object members => return members
    | .null => throw (.argumentNull .parameters)
    | other => throw (.serialization (.parametersNotObject other))

@[simp] theorem pairValues_nil (serializer : Serializer) (values : Members) :
    pairValues serializer values [] = .ok values := rfl

/-- A name that is already there is refused before its value is looked at. -/
theorem pairValues_cons (serializer : Serializer) (values : Members) (name : String) (value : Datum)
    (rest : List (String × Datum)) :
    pairValues serializer values ((name, value) :: rest) =
      if Keyed.contains values name then .error (.duplicateParameter name)
      else (serializer.toJson value).bind fun v =>
        pairValues serializer (Keyed.insert values name v) rest := by
  rfl

end ScriptParameters

/-- The command that runs a script on a document. -/
def ScriptCommand.create (serializer : Serializer) (key script : String)
    (parameters : ScriptParameters) (etag : Option Etag) : StoreResult ScriptCommand := do
  if key.isEmpty then throw (.argumentNull .key)
  if (Text.trim script).isEmpty then throw (.argumentNull .script)
  return ⟨key, etag, script, ← parameters.values serializer⟩

end PatchStore
