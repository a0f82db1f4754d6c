import PatchStore.Patch.Node
import PatchStore.Proofs.Json.Same

/-!
# Chains read back

A chain is built from the leaf on, one parent at a time, and it is read from the root on.  What is
read is what the chain was built from: every chain is built from one path and one operation, and no
other pair gives it.

* `PatchLeaf.same`, `PatchNode.same` — operations and chains whose values are the same.
* `PatchLeaf.ext_of_parts` — an operation is nothing but its kind, its value and its previous value.
* `PatchNode.ReadsAs` — what a reader finds that goes from node to node.
* `ReadsAs.under` — a parent that is put before a chain is found before what was found.
* `ofPath_reads_back` — a chain reads as the path and the operation that it was built from, and as
  nothing else.
-/

namespace PatchStore

/-- Paths with the same names are one path. -/
theorem PropertyPath.eq_of_names_eq {path path' : PropertyPath} (h : path.names = path'.names) :
    path = path' := by
  have hread : ofNames? path.names = ofNames? path'.names := congrArg ofNames? h
  rw [ofNames?_names, ofNames?_names] at hread
  exact Option.some.inj hread

/-! ## Operations and chains that are the same -/

namespace Json

/-- Values that may be missing are the same if both are missing, or if they are the same values. -/
def sameOptional : Option Json → Option Json → Bool
  | none, none => true
  | some v, some w => v.same w
  | _, _ => false

theorem sameOptional_iff_unsigned_eq {p q : Option Json} :
    sameOptional p q = true ↔ p.map unsigned = q.map unsigned := by
  cases p <;> cases q <;> simp [sameOptional, same_iff_unsigned_eq]

end Json

namespace PatchLeaf

/-- The operations are of one kind, and their values and previous values are the same. -/
def same : PatchLeaf → PatchLeaf → Bool
  | add v, add w => v.same w
  | set v p, set w q => v.same w && Json.sameOptional p q
  | unset p, unset q => Json.sameOptional p q
  | _, _ => false

/-- The operation with its values without the signs of their zeros. -/
def signless : PatchLeaf → PatchLeaf
  | add v => add v.unsigned
  | set v p => set v.unsigned (p.map Json.unsigned)
  | unset p => unset (p.map Json.unsigned)

theorem same_iff_signless_eq {op op' : PatchLeaf} :
    op.same op' = true ↔ op.signless = op'.signless := by
  cases op <;> cases op' <;>
    simp [same, signless, Json.same_iff_unsigned_eq, Json.sameOptional_iff_unsigned_eq]

/-- An operation is nothing but its kind, its value and its previous value. -/
theorem ext_of_parts {op op' : PatchLeaf} (hkind : op.kind = op'.kind)
    (hvalue : op.value? = op'.value?) (hprev : op.prevVal? = op'.prevVal?) : op = op' := by
  cases op with
  | add v =>
    cases op' with
    | add w => exact congrArg add (Option.some.inj hvalue)
    | set w q => cases hkind
    | unset q => cases hkind
  | set v p =>
    cases op' with
    | add w => cases hkind
    | set w q =>
      obtain rfl : v = w := Option.some.inj hvalue
      obtain rfl : p = q := hprev
      rfl
    | unset q => cases hkind
  | unset p =>
    cases op' with
    | add w => cases hkind
    | set w q => cases hkind
    | unset q => exact congrArg unset hprev

/-- What is added has no previous value. -/
theorem prevVal?_of_kind_add {op : PatchLeaf} (h : op.kind = .add) : op.prevVal? = none := by
  cases op with
  | add v => rfl
  | set v p => cases h
  | unset p => cases h

/-- What is unset has no value. -/
theorem value?_of_kind_unset {op : PatchLeaf} (h : op.kind = .unset) : op.value? = none := by
  cases op with
  | add v => cases h
  | set v p => cases h
  | unset p => rfl

end PatchLeaf

namespace PatchNode

/-- The chains have the same names, and operations that are the same. -/
def same : PatchNode → PatchNode → Bool
  | leaf n op, leaf m op' => n == m && op.same op'
  | modify n nested, modify m nested' => n == m && nested.same nested'
  | _, _ => false

/-- The chain with the values of its operation without the signs of their zeros. -/
def signless : PatchNode → PatchNode
  | leaf n op => leaf n op.signless
  | modify n nested => modify n nested.signless

theorem same_iff_signless_eq {node node' : PatchNode} :
    node.same node' = true ↔ node.signless = node'.signless := by
  induction node generalizing node' with
  | leaf n op => cases node' <;> simp [same, signless, PatchLeaf.same_iff_signless_eq]
  | modify n nested ih => cases node' <;> simp [same, signless, ih]

/-! ## From node to node -/

/-- What is found on the way through a chain, from the root to the end. -/
structure ReadsAs (node : PatchNode) (path : PropertyPath) (op : PatchLeaf) : Prop where
  /-- There are as many nodes as there are names. -/
  depth : node.depth = path.length
  /-- The way starts at the chain itself. -/
  starts : node.chain.head? = some node
  /-- What a node nests is the next one on the way, and the last one nests nothing. -/
  goesOn : ∀ i, node.chain[i]?.bind nested? = node.chain[i + 1]?
  /-- The nodes have the names of the path, in order. -/
  names : node.chain.map name = path.names
  /-- Every node but the last descends into one other, and carries no value. -/
  parents : ∀ parent ∈ node.chain.dropLast, parent.kind = .modify ∧ parent.value? = none ∧
    parent.prevVal? = none ∧ ∃ nested, parent.nested? = some nested
  /-- The last node carries the operation, and no more than belongs to its kind. -/
  last : ∃ last, node.chain.getLast? = some last ∧ last.kind = op.kind ∧
    last.value? = op.value? ∧ last.prevVal? = op.prevVal? ∧ last.nested? = none ∧
    (last.kind = .add → last.prevVal? = none) ∧ (last.kind = .unset → last.value? = none)

theorem chain_ne_nil (node : PatchNode) : node.chain ≠ [] := by
  cases node <;> exact List.cons_ne_nil _ _

/-- A chain of one node reads as its operation on the member that it names. -/
theorem readsAs_leaf (n : String) (op : PatchLeaf) : (leaf n op).ReadsAs ⟨[], n⟩ op where
  depth := rfl
  starts := rfl
  goesOn i := by
    cases i with
    | zero => rfl
    | succ i => rfl
  names := rfl
  parents := nofun
  last := ⟨leaf n op, rfl, rfl, rfl, rfl, rfl, PatchLeaf.prevVal?_of_kind_add,
    PatchLeaf.value?_of_kind_unset⟩

/-- A parent that is put before a chain is found before what was found. -/
theorem ReadsAs.under {nested : PatchNode} {path : PropertyPath} {op : PatchLeaf}
    (h : nested.ReadsAs path op) (n : String) : (modify n nested).ReadsAs (path.under n) op where
  depth := congrArg (· + 1) h.depth
  starts := rfl
  goesOn i := by
    cases i with
    | zero =>
      show some nested = nested.chain[0]?
      rw [← List.head?_eq_getElem?, h.starts]
    | succ i => exact h.goesOn i
  names := congrArg (n :: ·) h.names
  parents parent hparent := by
    rw [chain, List.dropLast_cons_of_ne_nil (chain_ne_nil nested)] at hparent
    rcases List.mem_cons.mp hparent with rfl | hparent
    · exact ⟨rfl, rfl, rfl, nested, rfl⟩
    · exact h.parents parent hparent
  last := by
    obtain ⟨last, hlast, hcarried⟩ := h.last
    refine ⟨last, ?_, hcarried⟩
    rw [chain, List.getLast?_cons, hlast]
    rfl

/-- A chain reads as the path and the operation that it is built from. -/
theorem readsAs_ofPath (path : PropertyPath) (op : PatchLeaf) : (ofPath path op).ReadsAs path op := by
  rcases path with ⟨parents, last⟩
  induction parents with
  | nil => exact readsAs_leaf last op
  | cons n parents ih => exact ih.under n

/-! ## Back to the path and the operation -/

theorem map_name_chain (node : PatchNode) : node.chain.map name = node.names := by
  induction node with
  | leaf n op => rfl
  | modify n nested ih => exact congrArg (n :: ·) ih

/-- The last node of a chain carries its operation. -/
theorem getLast?_chain (node : PatchNode) :
    ∃ n, node.chain.getLast? = some (leaf n node.operation) := by
  induction node with
  | leaf n op => exact ⟨n, rfl⟩
  | modify n nested ih =>
    obtain ⟨m, hlast⟩ := ih
    refine ⟨m, ?_⟩
    rw [chain, List.getLast?_cons, hlast]
    rfl

/-- Every chain is built from a path and its operation. -/
theorem exists_eq_ofPath (node : PatchNode) :
    ∃ path : PropertyPath, node = ofPath path node.operation := by
  induction node with
  | leaf n op => exact ⟨⟨[], n⟩, rfl⟩
  | modify n nested ih =>
    obtain ⟨path, hpath⟩ := ih
    exact ⟨path.under n, congrArg (modify n) hpath⟩

theorem ofPath_inj {path path' : PropertyPath} {op op' : PatchLeaf} :
    ofPath path op = ofPath path' op' ↔ path = path' ∧ op = op' := by
  constructor
  · intro h
    have hnames := congrArg names h
    have hop := congrArg operation h
    rw [names_ofPath, names_ofPath] at hnames
    rw [operation_ofPath, operation_ofPath] at hop
    exact ⟨PropertyPath.eq_of_names_eq hnames, hop⟩
  · rintro ⟨rfl, rfl⟩
    rfl

/-- What is read from a chain is what it was built from. -/
theorem ReadsAs.eq_ofPath {node : PatchNode} {path : PropertyPath} {op : PatchLeaf}
    (h : node.ReadsAs path op) : node = ofPath path op := by
  obtain ⟨built, hbuilt⟩ := exists_eq_ofPath node
  have hpath : built = path := by
    apply PropertyPath.eq_of_names_eq
    rw [← h.names, map_name_chain, hbuilt, names_ofPath]
  have hop : node.operation = op := by
    obtain ⟨n, hleaf⟩ := getLast?_chain node
    obtain ⟨last, hlast, hkind, hvalue, hprev, _⟩ := h.last
    obtain rfl : leaf n node.operation = last := Option.some.inj (hleaf.symm.trans hlast)
    exact PatchLeaf.ext_of_parts hkind hvalue hprev
  rw [hbuilt, hpath, hop]

theorem signless_ofPath (path : PropertyPath) (op : PatchLeaf) :
    (ofPath path op).signless = ofPath path op.signless := by
  rcases path with ⟨parents, last⟩
  induction parents with
  | nil => rfl
  | cons n parents ih => exact congrArg (modify n) ih

/-- A chain grows from its leaf by one parent at a time, the last parent first. -/
theorem ofPath_eq_foldl (path : PropertyPath) (op : PatchLeaf) :
    ofPath path op =
      (path.names.reverse.drop 1).foldl (fun node n => modify n node) (leaf path.leaf op) := by
  rw [PropertyPath.names, List.reverse_concat, List.drop_one, List.tail_cons, List.foldl_reverse]
  rfl

/-- **A chain reads as what it was built from.**  A chain is grown from the leaf of a path, by the
other names in reverse order.  A reader that goes from node to node finds the path and the operation
that the chain was built from; and what reads as a path and an operation is the chain built from
these.  So two chains are equal, or the same, only if they were built from one path and from
operations that are equal, or the same. -/
theorem ofPath_reads_back (path : PropertyPath) (op : PatchLeaf) :
    ofPath path op =
      (path.names.reverse.drop 1).foldl (fun node n => modify n node) (leaf path.leaf op) ∧
    (∀ node : PatchNode, node.ReadsAs path op ↔ node = ofPath path op) ∧
    ∀ path' op',
      (ofPath path op = ofPath path' op' ↔ path = path' ∧ op = op') ∧
      ((ofPath path op).same (ofPath path' op') = true ↔ path = path' ∧ op.same op' = true) := by
  refine ⟨ofPath_eq_foldl path op, fun node => ⟨ReadsAs.eq_ofPath, ?_⟩,
    fun path' op' => ⟨ofPath_inj, ?_⟩⟩
  · rintro rfl
    exact readsAs_ofPath path op
  · rw [same_iff_signless_eq, signless_ofPath, signless_ofPath, ofPath_inj,
      PatchLeaf.same_iff_signless_eq]

end PatchNode

end PatchStore
