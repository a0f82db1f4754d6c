import PatchStore.Store.Batch

/-!
# Backends

A backend carries out batches of commands and looks up metadata.  It has a state of type `σ`, which
every request may change, also one that fails.

Two backends are given: the store in memory, and one that answers from prepared lists and notes what
it is asked.

* `MemoryStore.backend`, `PreparedAnswers.backend` — the two backends.
-/

namespace PatchStore

/-- Requests to a backend with the given state; what a request changes stays changed when it
fails. -/
abbrev Request (σ : Type) := Work σ

/-- What carries out batches and looks up metadata. -/
structure Backend (σ : Type) where
  /-- Carries out a batch, all or nothing, with one result for each command. -/
  batch : List Command → Request σ (List BatchResult)
  /-- The metadata of a document, if there is one. -/
  head : String → Request σ (Option Descriptor)
  /-- The metadata of those of the documents that there are. -/
  getMetadata : List String → Request σ (List Descriptor)

/-- The store in memory as a backend. -/
def MemoryStore.backend : Backend MemoryStore where
  batch cs := do
    let (result, store) := (← get).batch cs
    set store
    liftM result
  head key := return (← get).head key
  getMetadata keys := return (← get).getMetadata keys

/-- A request as it was made. -/
inductive BackendCall where
  | batch (commands : List Command)
  | head (key : String)
  | getMetadata (keys : List String)

/-- A request in its wire form. -/
def BackendCall.toJson : BackendCall → Json
  | .batch cs => .ofMembers [("batch", .array (cs.map Command.toJson))]
  | .head key => .ofMembers [("head", .string key)]
  | .getMetadata keys => .ofMembers [("get_metadata", .array (keys.map Json.string))]

/-- Prepared answers to requests, and the requests that were made. -/
structure PreparedAnswers where
  results : List BatchResult
  heads : List Descriptor
  failure : Option String := none
  asked : List BackendCall := []

namespace PreparedAnswers

/-- Notes a request, and fails if that is prepared. -/
def ask (call : BackendCall) : Request PreparedAnswers PreparedAnswers := do
  let answers ← get
  set ({ answers with asked := answers.asked ++ [call] } : PreparedAnswers)
  match answers.failure with
  | some text => throw (.backend (.reported text))
  | none => return answers

/-- The backend that gives all prepared results for every batch, and the prepared descriptors for
the keys that are looked up. -/
def backend : Backend PreparedAnswers where
  batch cs := return (← ask (.batch cs)).results
  head key := return (← ask (.head key)).heads.find? fun d => d.key == key
  getMetadata keys := return (← ask (.getMetadata keys)).heads.filter fun d => keys.contains d.key

end PreparedAnswers

end PatchStore
