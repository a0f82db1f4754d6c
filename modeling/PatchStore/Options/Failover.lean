import PatchStore.Error
import PatchStore.Text.Blank

/-!
# Failover behavior

What a client does when its server cannot be reached.  The names are read in any case of their ASCII
letters, with blanks around them.

* `ofName?_name` — every behavior is read back from its name.
-/

namespace PatchStore

/-- What a client does when its server cannot be reached. -/
inductive Failover where
  | failImmediately
  | allowReadsFromSecondaries
  | allowReadsFromSecondariesAndWritesToSecondaries
  deriving DecidableEq, Inhabited

namespace Failover

/-- The name of a behavior. -/
def name : Failover → String
  | failImmediately => "FailImmediately"
  | allowReadsFromSecondaries => "AllowReadsFromSecondaries"
  | allowReadsFromSecondariesAndWritesToSecondaries =>
    "AllowReadsFromSecondariesAndWritesToSecondaries"

/-- All behaviors. -/
def all : List Failover :=
  [failImmediately, allowReadsFromSecondaries, allowReadsFromSecondariesAndWritesToSecondaries]

/-- The behavior of exactly the given name. -/
def ofName? (text : String) : Option Failover := all.find? fun f => f.name == text

/-- The behavior of the given name, in any case and with blanks around it. -/
def parse (text : String) : StoreResult Failover :=
  let text := (Text.trim text).toLower
  match all.find? fun f => f.name.toLower == text with
  | some f => .ok f
  | none => .error (.configuration (.unknownFailover text))

@[simp] theorem ofName?_name (f : Failover) : ofName? f.name = some f := by cases f <;> rfl

end Failover

end PatchStore
