import PatchStore.Json.Printer

/-!
# Failures

Every operation that can fail does so with a `StoreError`.  Each constructor names a cause, and
`StoreError.message` is the one place where causes are put into words.

* `Argument` — the arguments that must be given and not be empty.
* `SelectorFault` — what keeps a text from selecting a field.
* `ConfigurationFault` — what is wrong with store options.
* `Conflict` — which expectation about a stored document failed.
* `BackendFault` — what a store refuses to do.
-/

namespace PatchStore

/-- An argument that must be given and not be empty. -/
inductive Argument where
  | path
  | selector
  | value
  | key
  | script
  | parameters
  | document
  deriving DecidableEq

/-- The name of an argument in messages. -/
def Argument.name : Argument → String
  | .path => "path"
  | .selector => "selector"
  | .value => "value"
  | .key => "key"
  | .script => "script"
  | .parameters => "parameters"
  | .document => "document"

/-- The forms of expression that no field is selected by. -/
inductive RejectedForm where
  | path
  | call
  | binary
  | unary
  | literal
  | reference
  | unsupported
  deriving DecidableEq

/-- The name of a form in messages. -/
def RejectedForm.name : RejectedForm → String
  | .path => "path expression"
  | .call => "function call"
  | .binary => "binary expression"
  | .unary => "unary expression"
  | .literal => "literal"
  | .reference => "reference expression"
  | .unsupported => "unsupported expression"

/-- What keeps a text from selecting a field. -/
inductive SelectorFault where
  | notAnExpression
  | parameterCount
  | parameterPattern
  | selectsRoot
  | foreignRoot (parameter root : String)
  | tupleIndex (index : Nat)
  | repeatedConversion
  | methodCall (method : String)
  | indexer
  | rejected (form : RejectedForm)
  | unknownField (ident : String)
  | notNested (ident : String)
  | notCollection (ident : String)
  deriving DecidableEq

/-- A selector fault in words. -/
def SelectorFault.message : SelectorFault → String
  | .notAnExpression => "the text is not an expression"
  | .parameterCount => "selector closures take exactly one parameter"
  | .parameterPattern => "selector parameter must be a plain identifier"
  | .selectsRoot => "the expression selects the root itself, not a field"
  | .foreignRoot parameter root =>
    "selector must start at its parameter `" ++ parameter ++ "`, not `" ++ root ++ "`"
  | .tupleIndex index => "tuple index `" ++ toString index ++ "` is not a named data field"
  | .repeatedConversion => "only a single conversion is allowed"
  | .methodCall method => "method call `" ++ method ++ "()` is not a field access"
  | .indexer => "indexers are not field accesses"
  | .rejected form => form.name ++ " is not a field access"
  | .unknownField ident => "`" ++ ident ++ "` is not a data field of the selected type"
  | .notNested ident => "`" ++ ident ++ "` is not a nested object and cannot be descended into"
  | .notCollection ident => "`" ++ ident ++ "` is not a collection field"

/-- What is wrong with store options. -/
inductive ConfigurationFault where
  | unknownFailover (text : String)
  | missingEquals (segment : String)
  | unknownOption (name : String)
  | missingUrl
  | unpairedCredentials
  | emptyUrl
  deriving DecidableEq

/-- A configuration fault in words. -/
def ConfigurationFault.message : ConfigurationFault → String
  | .unknownFailover text => "unknown failover behavior `" ++ text ++ "`"
  | .missingEquals segment => "expected `key=value`, found `" ++ segment ++ "`"
  | .unknownOption name => "unknown connection string option `" ++ name ++ "`"
  | .missingUrl => "connection string has no `Url`"
  | .unpairedCredentials => "`User` and `Password` must be given together"
  | .emptyUrl => "store url must not be empty"

/-- Why a value could not be turned into JSON or back. -/
inductive SerializationFault where
  | noJsonForm
  | unexpectedShape
  | parametersNotObject (value : Json)

/-- A serialization fault in words. -/
def SerializationFault.message : SerializationFault → String
  | .noJsonForm => "the value has no JSON form"
  | .unexpectedShape => "the value does not have the expected shape"
  | .parametersNotObject value =>
    "scripted patch parameters must be an object with named fields, got `" ++ value.render ++ "`"

/-- Which expectation about a stored document failed. -/
inductive Conflict where
  | etagDiffers (expected current : String)
  | etagOfMissing (expected : String)
  | valueDiffers (field : String) (expected : Json) (found : Option Json)

/-- A conflict in words. -/
def Conflict.message : Conflict → String
  | .etagDiffers expected current =>
    "expected etag " ++ expected ++ ", current etag is " ++ current
  | .etagOfMissing expected => "expected etag " ++ expected ++ ", but the document does not exist"
  | .valueDiffers field expected found =>
    "field `" ++ field ++ "` expected " ++ expected.render ++ ", found " ++
      match found with
      | some v => v.render
      | none => "nothing"

/-- What a store refuses to do. -/
inductive BackendFault where
  | documentNotObject (key : String) (document : Json)
  | scriptsUnsupported (key : String)
  | notAnArray (field key : String)
  | notAnObject (field key : String)
  | notOneResult (got : Nat)
  | resultCount (expected got : Nat)
  | reported (text : String)

/-- A backend fault in words. -/
def BackendFault.message : BackendFault → String
  | .documentNotObject key document =>
    "document " ++ key ++ " must be a JSON object, got `" ++ document.render ++ "`"
  | .scriptsUnsupported key =>
    "scripted patches are not supported by the in-memory store (document " ++ key ++ ")"
  | .notAnArray field key =>
    "cannot add to field `" ++ field ++ "` of document " ++ key ++ ": not an array"
  | .notAnObject field key =>
    "cannot modify field `" ++ field ++ "` of document " ++ key ++ ": not an object"
  | .notOneResult got => "expected exactly one batch result, got " ++ toString got
  | .resultCount expected got =>
    "expected " ++ toString expected ++ " batch results, got " ++ toString got
  | .reported text => text

/-- The failures of the library. -/
inductive StoreError where
  | argumentNull (argument : Argument)
  | invalidSelector (source : String) (fault : SelectorFault)
  | duplicateParameter (name : String)
  | serialization (fault : SerializationFault)
  | configuration (fault : ConfigurationFault)
  | concurrency (key : String) (conflict : Conflict)
  | documentNotFound (key : String)
  | backend (fault : BackendFault)

/-- A failure in words. -/
def StoreError.message : StoreError → String
  | .argumentNull argument => "Argument must not be null or empty: " ++ argument.name
  | .invalidSelector source fault => "Invalid selector `" ++ source ++ "`: " ++ fault.message
  | .duplicateParameter name => "Duplicate scripted patch parameter: " ++ name
  | .serialization fault => "Serialization error: " ++ fault.message
  | .configuration fault => "Configuration error: " ++ fault.message
  | .concurrency key conflict =>
    "Concurrency conflict on document " ++ key ++ ": " ++ conflict.message
  | .documentNotFound key => "Document not found: " ++ key
  | .backend fault => "Backend error: " ++ fault.message

/-- The result of an operation that can fail. -/
abbrev StoreResult := Except StoreError

end PatchStore
