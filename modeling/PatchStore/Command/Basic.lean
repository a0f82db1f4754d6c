import PatchStore.Patch.Node

/-!
# Commands

A command is directed at one document by its key, and may be bound to the version of the document
that an etag names.  Four kinds of commands are sent to a store: whole documents, patches, scripts
and deletions.

* `Command.toJson` — the wire form of a command, with its method.
-/

namespace PatchStore

/-- The mark of one version of a stored document. -/
structure Etag where
  text : String
  deriving DecidableEq, Inhabited

/-- The wire form of an etag that may be missing. -/
def Etag.toJson? (etag : Option Etag) : Json := .ofString? (etag.map Etag.text)

/-- Stores a whole document in the place of any earlier version. -/
structure PutCommand where
  key : String
  etag : Option Etag
  document : Json
  metadata : Members

/-- Deletes a document. -/
structure DeleteCommand where
  key : String
  etag : Option Etag

/-- Applies patch chains to a document, one after the other. -/
structure PatchCommand where
  key : String
  etag : Option Etag
  patches : List PatchNode

/-- Runs a script on a document, with values for its parameters. -/
structure ScriptCommand where
  key : String
  etag : Option Etag
  script : String
  values : Members

/-- A command for one document. -/
inductive Command where
  | put (c : PutCommand)
  | patch (c : PatchCommand)
  | script (c : ScriptCommand)
  | delete (c : DeleteCommand)

/-- The methods of commands. -/
inductive Method where
  | put
  | patch
  | eval
  | delete
  deriving DecidableEq

namespace Method

/-- The word for a method on the wire. -/
def word : Method → String
  | put => "PUT"
  | patch => "PATCH"
  | eval => "EVAL"
  | delete => "DELETE"

/-- The method of the given word. -/
def ofWord? : String → Option Method
  | "PUT" => some put
  | "PATCH" => some patch
  | "EVAL" => some eval
  | "DELETE" => some delete
  | _ => none

@[simp] theorem ofWord?_word (m : Method) : ofWord? m.word = some m := by cases m <;> rfl

end Method

/-- A patch command for a key, which may not be empty. -/
def PatchCommand.create (key : String) (patches : List PatchNode) (etag : Option Etag) :
    StoreResult PatchCommand :=
  if key.isEmpty then .error (.argumentNull .key) else .ok ⟨key, etag, patches⟩

namespace Command

/-- The key of the document. -/
def key : Command → String
  | put c => c.key
  | patch c => c.key
  | script c => c.key
  | delete c => c.key

/-- The version that the command is bound to. -/
def etag : Command → Option Etag
  | put c => c.etag
  | patch c => c.etag
  | script c => c.etag
  | delete c => c.etag

/-- The method of the command. -/
def method : Command → Method
  | put _ => .put
  | patch _ => .patch
  | script _ => .eval
  | delete _ => .delete

/-- The members of the wire form beside the method. -/
def members : Command → List (String × Json)
  | put c =>
    [("Key", .string c.key), ("Etag", Etag.toJson? c.etag), ("Document", c.document),
     ("Metadata", .object c.metadata)]
  | patch c =>
    [("Key", .string c.key), ("Etag", Etag.toJson? c.etag),
     ("Patches", .array (c.patches.map PatchNode.toJson))]
  | script c =>
    [("Key", .string c.key), ("Etag", Etag.toJson? c.etag),
     ("Patch", .ofMembers [("Script", .string c.script), ("Values", .object c.values)])]
  | delete c => [("Key", .string c.key), ("Etag", Etag.toJson? c.etag)]

/-- The wire form of the command without its method. -/
def bodyToJson (c : Command) : Json := .ofMembers c.members

/-- The wire form of the command. -/
def toJson (c : Command) : Json := .ofMembers (("Method", .string c.method.word) :: c.members)

end Command

end PatchStore
