import PatchStore.Json.Record
import PatchStore.Options.Failover
import PatchStore.Text.Quoted
import PatchStore.Text.Split

/-!
# Store options

How a client reaches a store.  Options come from a connection string, from a builder that sets them
one by one, or from JSON.

A connection string is a list of segments `name=value` with semicolons between them.  Blank segments
are passed over, names are read in any case, and of several values for one option the last one
counts.

* `StoreOptions.parse` — the options of a connection string.
* `StoreOptions.build` — checks options that were set one by one.
* `StoreOptions.ofJson?`, `StoreOptions.toJson` — the JSON form.
* `StoreOptions.debug` — a description without the password.
-/

namespace PatchStore

/-- A user with a password. -/
structure Credentials where
  user : String
  password : String
  deriving DecidableEq, Inhabited

/-- How a client reaches a store. -/
structure StoreOptions where
  url : String
  database : Option String := none
  apiKey : Option String := none
  credentials : Option Credentials := none
  failover : Failover := .failImmediately
  deriving DecidableEq, Inhabited

/-! ## Connection strings -/

/-- The values that the segments of a connection string have given so far. -/
structure ConnectionSettings where
  url : Option String := none
  database : Option String := none
  apiKey : Option String := none
  user : Option String := none
  password : Option String := none
  failover : Failover := .failImmediately
  deriving DecidableEq, Inhabited

/-- The segments of a connection string, without blanks around them, and without those that are
blank altogether. -/
def segments (connection : String) : List (List Char) :=
  ((Text.splitAtChar ';' connection.toList).map Text.trimList).filter fun s => !s.isEmpty

/-- The text before the first equals sign and the text after it, if there is one. -/
def splitAtEquals? (segment : List Char) : Option (List Char × List Char) :=
  match segment.dropWhile (· != '=') with
  | _ :: value => some (segment.takeWhile (· != '='), value)
  | [] => none

namespace ConnectionSettings

/-- Gives a value to the option of the given name. -/
def assign (s : ConnectionSettings) (name value : String) : StoreResult ConnectionSettings :=
  match name with
  | "url" => .ok { s with url := some value }
  | "database" => .ok { s with database := some value }
  | "defaultdatabase" => .ok { s with database := some value }
  | "apikey" => .ok { s with apiKey := some value }
  | "user" => .ok { s with user := some value }
  | "password" => .ok { s with password := some value }
  | "failoverbehavior" => (Failover.parse value).map fun f => { s with failover := f }
  | name => .error (.configuration (.unknownOption name))

/-- Takes the value of one segment. -/
def addSegment (s : ConnectionSettings) (segment : List Char) : StoreResult ConnectionSettings :=
  match splitAtEquals? segment with
  | some (name, value) =>
    s.assign (String.ofList ((Text.trimList name).map Char.toLower))
      (String.ofList (Text.trimList value))
  | none => .error (.configuration (.missingEquals (String.ofList segment)))

/-- The credentials, which need a user and a password or neither. -/
def credentials (s : ConnectionSettings) : StoreResult (Option Credentials) :=
  match s.user, s.password with
  | some user, some password => .ok (some ⟨user, password⟩)
  | none, none => .ok none
  | _, _ => .error (.configuration .unpairedCredentials)

/-- The options that the values make up; there must be a url. -/
def options (s : ConnectionSettings) : StoreResult StoreOptions :=
  match s.url.filter fun url => !url.isEmpty with
  | some url => do return ⟨url, s.database, s.apiKey, ← s.credentials, s.failover⟩
  | none => .error (.configuration .missingUrl)

end ConnectionSettings

namespace StoreOptions

/-- The options that a connection string gives. -/
def parse (connection : String) : StoreResult StoreOptions := do
  let settings ← (segments connection).foldlM ConnectionSettings.addSegment {}
  settings.options

/-- Options as they were set one by one; the url may not be blank. -/
def build (o : StoreOptions) : StoreResult StoreOptions :=
  if (Text.trim o.url).isEmpty then .error (.configuration .emptyUrl) else .ok o

/-! ## Written forms -/

/-- The JSON form. -/
def toJson (o : StoreOptions) : Json :=
  .ofMembers
    [("url", .string o.url), ("database", .ofString? o.database), ("api_key", .ofString? o.apiKey),
     ("credentials",
      match o.credentials with
      | some c => .ofMembers [("user", .string c.user), ("password", .string c.password)]
      | none => .null),
     ("failover_behavior", .string o.failover.name)]

/-- The credentials that a value is the JSON form of. -/
def credentialsOfJson? (v : Json) : Option Credentials := do
  if !v.isRecord 2 then failure
  return ⟨← v.required 0 "user" Json.string?, ← v.required 1 "password" Json.string?⟩

/-- The options that a value is the JSON form of. -/
def ofJson? (v : Json) : Option StoreOptions := do
  if !v.isRecord 5 then failure
  let url ← v.required 0 "url" Json.string?
  let database ← v.defaulted 1 "database" none (Json.nullable Json.string?)
  let apiKey ← v.defaulted 2 "api_key" none (Json.nullable Json.string?)
  let credentials ← v.defaulted 3 "credentials" none (Json.nullable credentialsOfJson?)
  let failover ← v.defaulted 4 "failover_behavior" Failover.failImmediately fun x =>
    x.variantName?.bind Failover.ofName?
  return ⟨url, database, apiKey, credentials, failover⟩

/-- A text that may be missing, in a description of a value. -/
def debugText? : Option String → String
  | some s => "Some(" ++ Text.quoted s ++ ")"
  | none => "None"

/-- The options in a description of a value; the password is not shown. -/
def debug (o : StoreOptions) : String :=
  let credentials := match o.credentials with
    | some c =>
      "Some(Credentials \x7b user: " ++ Text.quoted c.user ++ ", password: \"<redacted>\" \x7d)"
    | none => "None"
  "StoreOptions \x7b url: " ++ Text.quoted o.url ++ ", database: " ++ debugText? o.database ++
    ", api_key: " ++ debugText? o.apiKey ++ ", credentials: " ++ credentials ++
    ", failover_behavior: " ++ o.failover.name ++ " \x7d"

end StoreOptions

end PatchStore
