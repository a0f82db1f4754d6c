import PatchStore.Error
import PatchStore.Source.Tree

/-!
# Accesses

What a selector expression amounts to: accesses to named members, one on the result of the other,
that start at a root.  Parentheses are dropped, and whatever is no such access is kept only as far
as a complaint names it.

* `chain_member` — a chain with one more member is that member after the shorter chain.
-/

namespace PatchStore

open Source

/-- An expression as a selector sees it. -/
inductive Access where
  | root (name : String)
  | member (target : Access) (name : String)
  | position (index : Nat)
  | conversion (operand : Access)
  | methodCall (name : String)
  | indexer
  | rejected (form : RejectedForm)
  deriving DecidableEq

namespace Access

/-- What an expression amounts to.  Members are named without the mark of a raw identifier; the root
keeps it. -/
def ofExpr : Expr → Access
  | .paren inner => ofExpr inner
  | .path p =>
    match p.ident? with
    | some i => .root i.text
    | none => .rejected .path
  | .field base (.named i) => .member (ofExpr base) i.name
  | .field _ (.position index) => .position index
  | .cast operand => .conversion (ofExpr operand)
  | .methodCall _ method => .methodCall method.text
  | .index _ => .indexer
  | .call _ => .rejected .call
  | .binary _ _ _ => .rejected .binary
  | .assign _ => .rejected .unsupported
  | .unary _ => .rejected .unary
  | .literal => .rejected .literal
  | .reference _ => .rejected .reference
  | .closure _ _ => .rejected .unsupported
  | .other _ => .rejected .unsupported

/-- Whether a chain may start at the root of the given name: at the parameter, if there is one. -/
def checkRoot (parameter : Option String) (root : String) : Except SelectorFault Unit :=
  match parameter with
  | some p => if p = root then .ok () else .error (.foreignRoot p root)
  | none => .ok ()

/-- The members that are accessed from the root on. -/
def chain (parameter : Option String) : Access → Except SelectorFault (List String)
  | .root name => do
    checkRoot parameter name
    return []
  | .member target name => do return (← chain parameter target) ++ [name]
  | .position index => .error (.tupleIndex index)
  | .conversion _ => .error .repeatedConversion
  | .methodCall name => .error (.methodCall name)
  | .indexer => .error .indexer
  | .rejected form => .error (.rejected form)

/-- The access without a conversion around it. -/
def unconverted : Access → Access
  | .conversion operand => operand
  | a => a

/-- The members that a selector accesses, at least one.  A single conversion may stand around the
last access. -/
def members (parameter : Option String) (a : Access) : Except SelectorFault (List String) :=
  match a.unconverted with
  | .root _ => .error .selectsRoot
  | a => a.chain parameter

theorem chain_member (parameter : Option String) (target : Access) (name : String) :
    (member target name).chain parameter = (target.chain parameter).map (· ++ [name]) := by
  cases h : target.chain parameter <;> simp [chain, h, Except.map, bind, Except.bind, pure,
    Except.pure]

end Access

end PatchStore
