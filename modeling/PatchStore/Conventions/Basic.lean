import PatchStore.Conventions.KeyPrefix
import PatchStore.Conventions.TagName
import PatchStore.Document.Kind
import PatchStore.Options.Basic
import PatchStore.Serializer

/-!
# Conventions

How a store names the types and the keys of its documents, and how it turns values into JSON.

The key prefix of a type is made from its tag name by a hook, which may be replaced.  Prefixes are
kept in a cache, so that the hook runs once for a type; conventions that are cloned from one another
share their cache, and a new hook begins with an empty one.  The caches and the number of calls that
counting hooks have had are kept in a `PrefixRegistry`.

* `Conventions.documentKeyPrefix` — the prefix of a type, from the cache or from the hook.
* `Conventions.generateDocumentKey` — the key of a document.
-/

namespace PatchStore

/-- A type of documents with the number that tells it from other types. -/
structure DocumentType where
  number : Nat
  kind : DocumentKind
  deriving Inhabited

/-- The caches of key prefixes by type, and the number of calls of counting hooks. -/
structure PrefixRegistry where
  caches : List (List (Nat × String)) := []
  calls : Nat := 0
  deriving Inhabited

/-- What makes a key prefix of a tag name; it may count its calls. -/
abbrev PrefixHook := String → StateM Nat String

namespace PrefixHook

/-- A hook that counts nothing. -/
def ofFunction (f : String → String) : PrefixHook := fun name => return f name

/-- The hook that conventions have at first. -/
def default : PrefixHook := ofFunction keyPrefix

/-- The hook that leaves the tag name as it is. -/
def identity : PrefixHook := ofFunction id

/-- The hook that numbers its calls. -/
def counting : PrefixHook := fun name => do
  modify (· + 1)
  return name ++ "#" ++ toString (← get)

end PrefixHook

/-- How a store names and serializes its documents. -/
structure Conventions where
  serializer : Serializer := {}
  failover : Failover := .failImmediately
  separator : String := "/"
  hook : PrefixHook := PrefixHook.default
  cache : Nat

namespace PrefixRegistry

/-- The entries of a cache. -/
def entries (r : PrefixRegistry) (cache : Nat) : List (Nat × String) := (r.caches[cache]?).getD []

/-- A registry with one more, empty cache, and the cache's number. -/
def allocate (r : PrefixRegistry) : Nat × PrefixRegistry :=
  (r.caches.length, { r with caches := r.caches ++ [[]] })

/-- Keeps the prefix of a type in a cache. -/
def remember (r : PrefixRegistry) (cache type : Nat) (value : String) : PrefixRegistry :=
  { r with caches := r.caches.modify cache fun entries => (type, value) :: entries }

end PrefixRegistry

namespace Conventions

/-- New conventions, with a cache of their own. -/
def create : StateM PrefixRegistry Conventions := do
  let (cache, registry) := (← get).allocate
  set registry
  return { cache := cache }

/-- The same conventions with another serializer. -/
def withSerializer (c : Conventions) (serializer : Serializer) : Conventions :=
  { c with serializer := serializer }

/-- The same conventions with another failover behavior. -/
def withFailover (c : Conventions) (failover : Failover) : Conventions :=
  { c with failover := failover }

/-- The same conventions with another separator between a key prefix and an identity. -/
def withSeparator (c : Conventions) (separator : String) : Conventions :=
  { c with separator := separator }

/-- New conventions with the failover behavior of some options. -/
def ofOptions (o : StoreOptions) : StateM PrefixRegistry Conventions := do
  return (← create).withFailover o.failover

/-- The same conventions with another hook, and a new cache for it. -/
def withHook (c : Conventions) (hook : PrefixHook) : StateM PrefixRegistry Conventions := do
  let (cache, registry) := (← get).allocate
  set registry
  return { c with hook := hook, cache := cache }

/-- The tag name of a type: the name of its collection, or else the plural of its own name. -/
def tagName (t : DocumentKind) : String := t.collection.getD (defaultTagName t.typeName)

/-- Makes the prefix of a type with the hook and keeps it. -/
def registerPrefix (c : Conventions) (t : DocumentType) : StateM PrefixRegistry String := do
  let registry ← get
  let (value, calls) := (c.hook (tagName t.kind)).run registry.calls
  set ({ registry with calls := calls }.remember c.cache t.number value)
  return value

/-- The key prefix of a type. -/
def documentKeyPrefix (c : Conventions) (t : DocumentType) : StateM PrefixRegistry String := do
  match ((← get).entries c.cache).lookup t.number with
  | some value => return value
  | none => c.registerPrefix t

/-- The key of the document of a type that has the given identity. -/
def generateDocumentKey (c : Conventions) (t : DocumentType) (identity : String) :
    StateM PrefixRegistry String := do
  return (← c.documentKeyPrefix t) ++ c.separator ++ identity

/-- The conventions in a description of a value. -/
def debug (c : Conventions) : String :=
  "Conventions \x7b serializer: JsonSerializer \x7b ignore_null_values: " ++
    (if c.serializer.ignoreNulls then "true" else "false") ++ " \x7d, failover_behavior: " ++
    c.failover.name ++ ", identity_parts_separator: " ++ Text.quoted c.separator ++ ", .. \x7d"

end Conventions

/-- Settings that are made together: those that are given change, the others stay. -/
structure ConventionSettings where
  ignoreNulls : Option Bool := none
  separator : Option String := none
  failover : Option String := none
  hook : Option PrefixHook := none

/-- Makes settings one after the other; if one of them fails, nothing changes. -/
def Conventions.configure (c : Conventions) (s : ConventionSettings) :
    StateT PrefixRegistry StoreResult Conventions := do
  let c := c.withSerializer ⟨s.ignoreNulls.getD c.serializer.ignoreNulls⟩
  let c := c.withSeparator (s.separator.getD c.separator)
  let failover ← match s.failover with
    | some text => liftM (Failover.parse text)
    | none => pure c.failover
  let c := c.withFailover failover
  match s.hook with
  | some hook => fun r => .ok ((c.withHook hook).run r)
  | none => return c

end PatchStore
