import PatchStore.PropertyPath

/-!
# Patch chains

A patch changes one field of a document.  It is a chain of nodes: each node but the last descends
into an object, and the last one carries the operation on the field.

* `PatchNode.ofPath` — the chain for a path and an operation.
* `PatchNode.toJson` — its wire form, from which members that carry nothing are left out.
* `names_ofPath`, `operation_ofPath`, `depth_ofPath` — a chain has the names of its path and the
  operation that it was built with.
-/

namespace PatchStore

/-- The kinds of patch nodes. -/
inductive PatchKind where
  | add
  | set
  | unset
  | modify
  deriving DecidableEq

/-- The word for a kind on the wire. -/
def PatchKind.word : PatchKind → String
  | .add => "Add"
  | .set => "Set"
  | .unset => "Unset"
  | .modify => "Modify"

/-- The operation on a field.  A previous value is one that the field must have for the operation to
be applied. -/
inductive PatchLeaf where
  | add (value : Json)
  | set (value : Json) (prevVal : Option Json)
  | unset (prevVal : Option Json)
  deriving Inhabited

namespace PatchLeaf

/-- The kind of the operation. -/
def kind : PatchLeaf → PatchKind
  | add _ => .add
  | set _ _ => .set
  | unset _ => .unset

/-- The value that is added or set. -/
def value? : PatchLeaf → Option Json
  | add v => some v
  | set v _ => some v
  | unset _ => none

/-- The value that the field must have before. -/
def prevVal? : PatchLeaf → Option Json
  | add _ => none
  | set _ p => p
  | unset p => p

end PatchLeaf

/-- A chain of patch nodes. -/
inductive PatchNode where
  | leaf (name : String) (operation : PatchLeaf)
  | modify (name : String) (nested : PatchNode)
  deriving Inhabited

namespace PatchNode

/-- The field that the first node addresses. -/
def name : PatchNode → String
  | leaf n _ => n
  | modify n _ => n

/-- The kind of the first node. -/
def kind : PatchNode → PatchKind
  | leaf _ op => op.kind
  | modify _ _ => .modify

/-- The value that the first node adds or sets. -/
def value? : PatchNode → Option Json
  | leaf _ op => op.value?
  | modify _ _ => none

/-- The value that the field of the first node must have before. -/
def prevVal? : PatchNode → Option Json
  | leaf _ op => op.prevVal?
  | modify _ _ => none

/-- The chain after the first node. -/
def nested? : PatchNode → Option PatchNode
  | leaf _ _ => none
  | modify _ nested => some nested

/-- The number of nodes. -/
def depth : PatchNode → Nat
  | leaf _ _ => 1
  | modify _ nested => nested.depth + 1

/-- The names that the nodes address, from the root on. -/
def names : PatchNode → List String
  | leaf n _ => [n]
  | modify n nested => n :: nested.names

/-- The operation at the end of the chain. -/
def operation : PatchNode → PatchLeaf
  | leaf _ op => op
  | modify _ nested => nested.operation

/-- The nodes of the chain, each with the chain from there on. -/
def chain : PatchNode → List PatchNode
  | leaf n op => [leaf n op]
  | modify n nested => modify n nested :: nested.chain

/-- The chain that descends through the parents of a path and applies an operation to its leaf. -/
def ofPath (path : PropertyPath) (operation : PatchLeaf) : PatchNode :=
  path.parents.foldr modify (leaf path.leaf operation)

/-- The wire form of a chain. -/
def toJson : PatchNode → Json
  | leaf n op =>
    .ofMembers <|
      [("Type", .string op.kind.word), ("Name", .string n)] ++
        (op.value?.map fun v => ("Value", v)).toList ++
        (op.prevVal?.map fun v => ("PrevVal", v)).toList
  | modify n nested =>
    .ofMembers
      [("Type", .string PatchKind.modify.word), ("Name", .string n),
       ("Nested", .array [nested.toJson])]

/-- A chain has the names of its path. -/
@[simp] theorem names_ofPath (path : PropertyPath) (op : PatchLeaf) :
    (ofPath path op).names = path.names := by
  rcases path with ⟨parents, last⟩
  induction parents with
  | nil => rfl
  | cons n ns ih => simpa [ofPath, names, PropertyPath.names] using ih

/-- A chain ends in the operation that it was built with. -/
@[simp] theorem operation_ofPath (path : PropertyPath) (op : PatchLeaf) :
    (ofPath path op).operation = op := by
  rcases path with ⟨parents, last⟩
  induction parents with
  | nil => rfl
  | cons n ns ih => simpa [ofPath, operation] using ih

/-- A chain has a node for each name of its path. -/
@[simp] theorem depth_ofPath (path : PropertyPath) (op : PatchLeaf) :
    (ofPath path op).depth = path.length := by
  rcases path with ⟨parents, last⟩
  induction parents with
  | nil => rfl
  | cons n ns ih => simpa [ofPath, depth, PropertyPath.length] using ih

end PatchNode

end PatchStore
