import PatchStore.Conventions.Basic
import PatchStore.Patch.Builder
import PatchStore.Script.Basic
import PatchStore.Session.Backend

/-!
# Sessions

A session joins a backend with conventions.  It sends single commands and batches, checks that the
backend answers with as many results as there were commands, and turns outcomes into failures where
a caller expects a document to be there.

* `Session.store` — serializes a document and tags it with its type's tag name.
* `Session.patch`, `Session.scriptedPatch` — a patch of a missing document fails unless that is to
  be ignored.
* `Session.loadMetadataMany` — asks for every key once.
-/

namespace PatchStore

/-- A backend with conventions. -/
structure Session (σ : Type) where
  backend : Backend σ
  conventions : Conventions

namespace Session

variable {σ : Type}

/-- Checks that a key is given. -/
def requireKey (key : String) : StoreResult Unit :=
  if key.isEmpty then .error (.argumentNull .key) else .ok ()

/-- Sends one command. -/
def execute (s : Session σ) (command : Command) : Request σ BatchResult := do
  match ← s.backend.batch [command] with
  | [result] => return result
  | results => throw (.backend (.notOneResult results.length))

/-- Sends commands as one batch; nothing is sent if there are none. -/
def executeMany (s : Session σ) (commands : List Command) : Request σ (List BatchResult) := do
  if commands.isEmpty then return []
  let results ← s.backend.batch commands
  if results.length = commands.length then return results
  else throw (.backend (.resultCount commands.length results.length))

/-- The metadata of a document, if there is one. -/
def loadMetadata (s : Session σ) (key : String) : Request σ (Option Metadata) := do
  liftM (requireKey key)
  return (← s.backend.head key).map Metadata.ofDescriptor

/-- Whether there is a document. -/
def exists? (s : Session σ) (key : String) : Request σ Bool := do
  return (← s.loadMetadata key).isSome

/-- The metadata of those of the documents that there are.  Keys that repeat are asked for once. -/
def loadMetadataMany (s : Session σ) (keys : List String) : Request σ (List Metadata) := do
  let keys := keys.eraseDups
  if keys.isEmpty then return []
  return (← s.backend.getMetadata keys).map Metadata.ofDescriptor

/-- Deletes a document; says whether there was one. -/
def delete (s : Session σ) (key : String) (etag : Option Etag) : Request σ Bool := do
  liftM (requireKey key)
  let result ← s.execute (.delete ⟨key, etag⟩)
  return result.deleted.getD false

/-- The result of a patch; it is a failure if the document is missing and that is not ignored. -/
def checkOutcome (key : String) (result : BatchResult) (ignoreMissing : Bool) :
    StoreResult BatchResult :=
  if result.patchOutcome = some .documentDoesNotExist ∧ !ignoreMissing then
    .error (.documentNotFound key)
  else .ok result

/-- Sends a patch. -/
def patch (s : Session σ) (command : PatchCommand) (ignoreMissing : Bool) :
    Request σ BatchResult := do
  let result ← s.execute (.patch command)
  liftM (checkOutcome command.key result ignoreMissing)

/-- Sends a scripted patch. -/
def scriptedPatch (s : Session σ) (command : ScriptCommand) (ignoreMissing : Bool) :
    Request σ BatchResult := do
  let result ← s.execute (.script command)
  liftM (checkOutcome command.key result ignoreMissing)

/-- Stores a document of a type, tagged with the type's tag name. -/
def store (s : Session σ) (key : String) (kind : DocumentKind) (document : Datum)
    (etag : Option Etag) : Request σ Metadata := do
  liftM (requireKey key)
  let document ← liftM (s.conventions.serializer.toJson document)
  if document.isNull then throw (.argumentNull .document)
  let metadata := [(Metadata.entityName, Json.string (Conventions.tagName kind))]
  let result ← s.execute (.put ⟨key, etag, document, metadata⟩)
  return result.documentMetadata

/-- Starts a patch with the session's serializer. -/
def startPatch (s : Session σ) (key : String) (schema : Schema) : StoreResult DocumentPatch :=
  DocumentPatch.create key schema s.conventions.serializer

/-- A scripted patch with the session's serializer. -/
def buildScript (s : Session σ) (key script : String) (parameters : ScriptParameters)
    (etag : Option Etag) : StoreResult ScriptCommand :=
  ScriptCommand.create s.conventions.serializer key script parameters etag

end Session

end PatchStore
