import PatchStore.Patch.Apply
import PatchStore.Proofs.Json.Same

/-!
# The report of a patch is exact

A chain that succeeds says that it modified the document just when what it leaves is not the same as
what it found.  Each kind of operation has a rule of its own for what it says, and so has the making
of an object on the way; all of them come to a comparison of the member before and after.

Chains that are applied one after the other say together whether some chain of them changed what it
was applied to.  That is more than a comparison of the first document with the last one: a later
chain may undo what an earlier one did.

* `sameMembers_of_insert_iff` — putting a value in a member's place changes nothing just when the
  same value was there.
* `sameMembers_eq_not_modified` — the report of one chain.
* `AppliedTo` — the documents that the chains of a list come to.
* `modified_eq_true_iff` — the report of a list of chains.
* `sameMembers_of_on_applyAll` — chains that say that they modified nothing leave the same members,
  up to the spelling of numbers: a value that is set may be another spelling of the one there.
* `Rewrites`, `eq_self_iff_not_rewrites` — the chains that put such another spelling in its place.
-/

namespace PatchStore

open Json

/-- What is found to have the value it must have is the same value. -/
theorem exists_same_of_hasValue {expected : Json} {found : Option Json}
    (h : hasValue expected found = true) : ∃ v, found = some v ∧ same v expected = true := by
  cases found with
  | none => cases h
  | some v => exact ⟨v, rfl, h⟩

/-- Putting a value in a member's place leaves the same members just when the same value was there.
-/
theorem sameMembers_of_insert_iff {target : Members} {name : String} {value : Json} :
    sameMembers target (Keyed.insert target name value) = true ↔
      hasValue value (Keyed.get? target name) = true := by
  constructor
  · intro h
    have hrel := get?_of_sameMembers _ _ h name
    rw [Keyed.get?_insert_self] at hrel
    rcases hfound : Keyed.get? target name with _ | found
    · rw [hfound] at hrel
      cases hrel
    · rw [hfound] at hrel
      cases hrel with | some hsame => exact hsame
  · intro h
    obtain ⟨found, hfound, hsame⟩ := exists_same_of_hasValue h
    exact sameMembers_insert hfound hsame

/-- Dropping a member leaves the same members just when there was none. -/
theorem sameMembers_of_erase_iff {target : Members} {name : String} :
    sameMembers target (Keyed.erase target name) = true ↔ Keyed.get? target name = none := by
  constructor
  · intro h
    have hrel := get?_of_sameMembers _ _ h name
    rw [Keyed.get?_erase, if_pos rfl] at hrel
    rcases hfound : Keyed.get? target name with _ | found
    · rfl
    · rw [hfound] at hrel
      cases hrel
  · intro h
    rw [Keyed.erase_eq_self h]
    exact sameMembers_refl target

/-- An array with one more item is another array. -/
theorem same_append_singleton (items : List Json) (value : Json) :
    same (.array items) (.array (items ++ [value])) = false := by
  rw [← Bool.not_eq_true]
  intro h
  have hlength := length_of_sameItems _ _ h
  rw [List.length_append, List.length_singleton] at hlength
  omega

namespace PatchLeaf

/-- An operation says that it modified its member just when the members are not the same any more.
-/
theorem sameMembers_eq_not_modified {key name : String} {operation : PatchLeaf}
    {target after : Members} {modified : Bool}
    (h : (operation.apply key name).on target = (.ok modified, after)) :
    sameMembers target after = !modified := by
  cases operation with
  | add value =>
    -- an array is never the array that adding leaves, and neither is `null` or nothing
    have hother : ∀ items, hasValue (.array items) (Keyed.get? target name) = false →
        sameMembers target (Keyed.insert target name (.array items)) = !true := by
      intro items hvalue
      rw [← Bool.not_eq_true, ← sameMembers_of_insert_iff, Bool.not_eq_true] at hvalue
      exact hvalue
    rw [on_apply_add] at h
    split at h
    · rename_i items hfound
      cases h
      refine hother _ ?_
      rw [hfound]
      exact same_append_singleton items value
    · rename_i hfound
      cases h
      refine hother _ ?_
      rw [hfound]
      rfl
    · rename_i hfound
      cases h
      refine hother _ ?_
      rw [hfound]
      rfl
    · cases h
  | set value prevVal =>
    rw [on_apply_set] at h
    split at h
    · cases h
      rw [Bool.not_not, Bool.eq_iff_iff]
      exact sameMembers_of_insert_iff
    · cases h
  | unset prevVal =>
    rw [on_apply_unset] at h
    split at h
    · cases h
      rw [Bool.eq_iff_iff, sameMembers_of_erase_iff, Keyed.contains, Bool.not_eq_true',
        Option.isSome_eq_false_iff, Option.isNone_iff_eq_none]
    · cases h

end PatchLeaf

namespace PatchNode

/-- A node has put other members in the place of an object just when it says that it modified the
document: it had to make the object, or the rest of the chain modified it. -/
theorem hasValue_of_enter {key name : String} {found : Option Json} {members changed : Members}
    {created : Bool} (h : enter key name found = .ok (members, created)) :
    hasValue (.object changed) found = (sameMembers members changed && !created) := by
  rcases enter_eq_ok h with ⟨rfl, rfl⟩ | ⟨rfl | rfl, _, rfl⟩
  · exact (Bool.and_true _).symm
  · exact (Bool.and_false _).symm
  · exact (Bool.and_false _).symm

/-- **The report of a chain is exact.**  It says that it modified the document just when what it
leaves is not the same. -/
theorem sameMembers_eq_not_modified {key : String} {node : PatchNode} {target after : Members}
    {modified : Bool} (h : (node.apply key).on target = (.ok modified, after)) :
    sameMembers target after = !modified := by
  induction node generalizing target after modified with
  | leaf name operation => exact operation.sameMembers_eq_not_modified h
  | modify name nested ih =>
    obtain ⟨members, created, below, changed, henter, hnested, rfl, rfl⟩ := on_apply_modify_eq_ok h
    have hinsert : sameMembers target (Keyed.insert target name (.object changed)) =
        hasValue (.object changed) (Keyed.get? target name) := by
      rw [Bool.eq_iff_iff]
      exact sameMembers_of_insert_iff
    rw [hinsert, hasValue_of_enter henter, ih hnested, Bool.not_or]

/-! ## Chains one after the other -/

/-- When the chains of a list are applied to a document one after the other, a chain of them is
applied to a document: the first one to that document itself, and every other one to what the chains
before it leave. -/
inductive AppliedTo (key : String) : List PatchNode → Members → PatchNode → Members → Prop
  | first (node : PatchNode) (rest : List PatchNode) (d : Members) :
      AppliedTo key (node :: rest) d node d
  | later {node turn : PatchNode} {rest : List PatchNode} {d t u : Members} {modified : Bool} :
      (node.apply key).on d = (.ok modified, t) → AppliedTo key rest t turn u →
      AppliedTo key (node :: rest) d turn u

/-- The chain changes the document: what it leaves is not the same. -/
def Changes (key : String) (node : PatchNode) (d : Members) : Prop :=
  ∃ modified after, (node.apply key).on d = (.ok modified, after) ∧
    (Json.object d == Json.object after) = false

/-- A chain that succeeds changes the document just when it says so. -/
theorem changes_iff {key : String} {node : PatchNode} {d after : Members} {modified : Bool}
    (h : (node.apply key).on d = (.ok modified, after)) :
    node.Changes key d ↔ modified = true := by
  have hexact : (Json.object d == Json.object after) = !modified := sameMembers_eq_not_modified h
  constructor
  · rintro ⟨modified', after', h', hchanged⟩
    cases h.symm.trans h'
    rw [hexact, Bool.not_eq_false'] at hchanged
    exact hchanged
  · rintro rfl
    exact ⟨true, after, h, hexact⟩

/-- What holds of some chain of a list when its turn comes holds of the first one, or of one of the
chains after it. -/
theorem exists_appliedTo_cons_iff {key : String} {node : PatchNode} {rest : List PatchNode}
    {d t : Members} {modified : Bool} (h : (node.apply key).on d = (.ok modified, t))
    {P : PatchNode → Members → Prop} :
    (∃ turn u, AppliedTo key (node :: rest) d turn u ∧ P turn u) ↔
      P node d ∨ ∃ turn u, AppliedTo key rest t turn u ∧ P turn u := by
  constructor
  · rintro ⟨turn, u, hturn, hP⟩
    cases hturn with
    | first => exact Or.inl hP
    | later hfirst hlater =>
      cases h.symm.trans hfirst
      exact Or.inr ⟨turn, u, hlater, hP⟩
  · rintro (hP | ⟨turn, u, hturn, hP⟩)
    · exact ⟨node, d, .first node rest d, hP⟩
    · exact ⟨turn, u, .later h hturn, hP⟩

/-- **The report of a list of chains is exact.**  They say that they modified the document just when
some chain of them changed what it was applied to. -/
theorem modified_eq_true_iff {key : String} {nodes : List PatchNode} {d after : Members}
    {modified : Bool} (h : (applyAll key nodes).on d = (.ok modified, after)) :
    modified = true ↔ ∃ node t, AppliedTo key nodes d node t ∧ node.Changes key t := by
  induction nodes generalizing d after modified with
  | nil =>
    cases h
    refine iff_of_false Bool.false_ne_true ?_
    rintro ⟨node, t, hnode, -⟩
    cases hnode
  | cons node rest ih =>
    obtain ⟨first, changed, more, hfirst, hmore, rfl⟩ := on_applyAll_cons_eq_ok h
    rw [exists_appliedTo_cons_iff hfirst, changes_iff hfirst, ← ih hmore, Bool.or_eq_true]

/-- Chains that modify nothing leave the same members. -/
theorem sameMembers_of_on_applyAll {key : String} {nodes : List PatchNode}
    {target after : Members} (h : (applyAll key nodes).on target = (.ok false, after)) :
    sameMembers target after = true := by
  induction nodes generalizing target after with
  | nil =>
    cases h
    exact sameMembers_refl target
  | cons node rest ih =>
    obtain ⟨first, changed, more, hfirst, hmore, hflags⟩ := on_applyAll_cons_eq_ok h
    obtain ⟨rfl, rfl⟩ : first = false ∧ more = false := by simpa using hflags
    exact sameMembers_trans _ _ _ (sameMembers_eq_not_modified hfirst) (ih hmore)

/-! ## Chains that write what was there in another spelling -/

/-- The chain sets a value where the document does not have that very value. -/
def Rewrites (node : PatchNode) (d : Members) : Prop :=
  ∃ value prevVal, node.operation = .set value prevVal ∧
    (Json.object d).at? node.names ≠ some value

/-- Beyond an object a chain rewrites what the rest of it rewrites there. -/
theorem rewrites_modify_iff {name : String} {nested : PatchNode} {d members : Members}
    (hfound : Keyed.get? d name = some (.object members)) :
    (modify name nested).Rewrites d ↔ nested.Rewrites members := by
  have hat : (Json.object d).at? (name :: nested.names) =
      (Json.object members).at? nested.names := by
    rw [Json.at?_cons, hfound, Option.bind_some]
  constructor
  · rintro ⟨value, prevVal, hset, hother⟩
    exact ⟨value, prevVal, hset, hat ▸ hother⟩
  · rintro ⟨value, prevVal, hset, hother⟩
    exact ⟨value, prevVal, hset, hat ▸ hother⟩

/-- A chain of one node rewrites if it sets another value than the one that it finds. -/
theorem rewrites_leaf_iff {name : String} {operation : PatchLeaf} {d : Members} :
    (leaf name operation).Rewrites d ↔
      ∃ value prevVal, operation = .set value prevVal ∧ Keyed.get? d name ≠ some value := by
  show (∃ value prevVal, operation = .set value prevVal ∧
    (Json.object d).at? [name] ≠ some value) ↔ _
  rw [Json.at?_singleton]

/-- A chain that says that it modified nothing leaves the very same document just when it does not
rewrite. -/
theorem eq_self_iff_not_rewrites {key : String} {node : PatchNode} {d t : Members}
    (h : (node.apply key).on d = (.ok false, t)) : t = d ↔ ¬node.Rewrites d := by
  induction node generalizing d t with
  | leaf name operation =>
    rw [rewrites_leaf_iff]
    have h : (operation.apply key name).on d = (.ok false, t) := h
    cases operation with
    | add value =>
      rw [PatchLeaf.on_apply_add] at h
      split at h <;> cases h
    | set value prevVal =>
      have ht : Keyed.insert d name value = t := by
        rw [PatchLeaf.on_apply_set] at h
        split at h
        · exact (Prod.mk.inj h).2
        · cases h
      constructor
      · rintro hd ⟨_, _, hset, hother⟩
        cases hset
        refine hother ?_
        rw [← hd, ← ht]
        exact Keyed.get?_insert_self d name value
      · intro hnot
        rw [← ht]
        refine Keyed.insert_eq_self (Classical.byContradiction fun hother => ?_)
        exact hnot ⟨value, prevVal, rfl, hother⟩
    | unset prevVal =>
      refine iff_of_true ?_ ?_
      · rw [PatchLeaf.on_apply_unset] at h
        split at h
        · obtain ⟨hflag, ht⟩ := Prod.mk.inj h
          have hmissing : Keyed.get? d name = none := by simpa [Keyed.contains] using hflag
          exact ht.symm.trans (Keyed.erase_eq_self hmissing)
        · cases h
      · rintro ⟨_, _, hset, _⟩
        cases hset
  | modify name nested ih =>
    obtain ⟨members, created, below, changed, henter, hnested, hflags, rfl⟩ :=
      on_apply_modify_eq_ok h
    obtain ⟨rfl, rfl⟩ : below = false ∧ created = false := by simpa using hflags
    -- a node that makes nothing goes into an object that is there
    rcases enter_eq_ok henter with ⟨hfound, _⟩ | ⟨_, _, hcreated⟩
    · rw [rewrites_modify_iff hfound, ← ih hnested]
      constructor
      · intro hd
        have hthere := Keyed.get?_insert_self d name (.object changed)
        rw [hd, hfound] at hthere
        cases hthere
        rfl
      · rintro rfl
        exact Keyed.insert_eq_self hfound
    · cases hcreated

/-- Chains that say that they modified nothing leave the very same document if none of them rewrites
what it is applied to. -/
theorem eq_self_of_not_rewrites {key : String} {nodes : List PatchNode} {d t : Members}
    (h : (applyAll key nodes).on d = (.ok false, t))
    (hnot : ∀ node u, AppliedTo key nodes d node u → ¬node.Rewrites u) : t = d := by
  induction nodes generalizing d with
  | nil =>
    cases h
    rfl
  | cons node rest ih =>
    obtain ⟨first, changed, more, hfirst, hmore, hflags⟩ := on_applyAll_cons_eq_ok h
    obtain ⟨rfl, rfl⟩ : first = false ∧ more = false := by simpa using hflags
    obtain rfl := (eq_self_iff_not_rewrites hfirst).mpr (hnot node d (.first node rest d))
    exact ih hmore fun turn u hturn => hnot turn u (.later hfirst hturn)

end PatchNode

end PatchStore
