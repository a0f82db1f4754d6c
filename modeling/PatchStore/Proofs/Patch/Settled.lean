import PatchStore.Proofs.Patch.Commuting

/-!
# Settled chains

A chain is settled in a document if applying it succeeds, modifies nothing and leaves the very same
document, down to the spelling of its numbers.  A chain that sets or unsets, and asks for no
previous value, is settled in what it leaves: the objects on its way are there by then.  It stays
settled through chains that are apart from it, though these may change the objects that both go
through. Hence a patch of such chains on independent paths does nothing when it is sent again.

* `PatchLeaf.Unconditional` — operations that set or unset without asking for a previous value.
* `PatchNode.Settled`, `settled_modify_iff` — settled chains, one level at a time.
* `settled_of_on_apply` — a chain is settled in what it leaves.
* `Settled.on_apply_of_apart` — chains that are apart leave it settled.
* `on_applyAll_of_on_applyAll` — chains on independent paths, applied once more, do nothing.
-/

namespace PatchStore

/-- The operation sets or unsets its member, and asks for no previous value. -/
inductive PatchLeaf.Unconditional : PatchLeaf → Prop
  | set (value : Json) : Unconditional (.set value none)
  | unset : Unconditional (.unset none)

namespace PatchNode

/-- Applying the chain succeeds, modifies nothing and leaves the document as it is. -/
def Settled (key : String) (node : PatchNode) (d : Members) : Prop :=
  (node.apply key).on d = (.ok false, d)

/-- A chain that goes into a member is settled just when that is an object in which the rest of the
chain is settled. -/
theorem settled_modify_iff {key name : String} {nested : PatchNode} {d : Members} :
    Settled key (modify name nested) d ↔
      ∃ members, Keyed.get? d name = some (.object members) ∧ Settled key nested members := by
  constructor
  · intro h
    obtain ⟨members, created, below, changed, henter, hnested, hflags, hd⟩ :=
      on_apply_modify_eq_ok h
    have hflags : below = false ∧ created = false := by simpa using hflags
    rcases enter_eq_ok henter with ⟨hfound, _⟩ | ⟨_, _, hcreated⟩
    · have hchanged : Keyed.get? d name = some (.object changed) := by
        rw [hd]
        exact Keyed.get?_insert_self d name _
      obtain rfl : members = changed := by
        cases hfound.symm.trans hchanged
        rfl
      refine ⟨members, hfound, ?_⟩
      rw [Settled, hnested, hflags.1]
    · cases hflags.2.symm.trans hcreated
  · rintro ⟨members, hfound, hnested⟩
    have henter : enter key name (Keyed.get? d name) = .ok (members, false) := by
      rw [hfound]
      rfl
    have hnested : (nested.apply key).on members = (.ok false, members) := hnested
    rw [Settled, on_apply_modify_of_enter henter, hnested]
    exact congrArg (Prod.mk _) (Keyed.insert_eq_self hfound)

/-- A chain that sets or unsets, and asks for no previous value, is settled in what it leaves. -/
theorem settled_of_on_apply {key : String} {node : PatchNode} {d t : Members} {modified : Bool}
    (hnode : node.operation.Unconditional) (h : (node.apply key).on d = (.ok modified, t)) :
    Settled key node t := by
  induction node generalizing d t modified with
  | leaf name operation =>
    cases hnode with
    | set value =>
      cases h.symm.trans (PatchLeaf.on_apply_set key name value none d)
      have hthere := Keyed.get?_insert_self d name value
      have hvalue : hasValue value (some value) = true := Json.same_refl value
      show (PatchLeaf.apply key name (.set value none)).on (Keyed.insert d name value) = _
      rw [PatchLeaf.on_apply_set, hthere, Keyed.insert_eq_self hthere, hvalue]
      rfl
    | unset =>
      cases h.symm.trans (PatchLeaf.on_apply_unset key name none d)
      have hgone : Keyed.get? (Keyed.erase d name) name = none := by
        rw [Keyed.get?_erase, if_pos rfl]
      show (PatchLeaf.apply key name (.unset none)).on (Keyed.erase d name) = _
      rw [PatchLeaf.on_apply_unset, Keyed.erase_eq_self hgone, Keyed.contains, hgone]
      rfl
  | modify name nested ih =>
    obtain ⟨members, created, below, changed, _, hnested, _, rfl⟩ := on_apply_modify_eq_ok h
    exact settled_modify_iff.mpr ⟨changed, Keyed.get?_insert_self d name _, ih hnode hnested⟩

/-- Whether a chain is settled goes by the member of its first name alone. -/
theorem Settled.congr {key : String} {node : PatchNode} {d e : Members} (h : Settled key node d)
    (hsame : Keyed.get? e node.name = Keyed.get? d node.name) : Settled key node e := by
  obtain ⟨r, left, hlocal⟩ := node.on_apply_local key (Keyed.get? d node.name)
  have hd : (r, Keyed.update d node.name left) = (.ok false, d) := (hlocal d rfl).symm.trans h
  obtain ⟨rfl, hleft⟩ := Prod.mk.inj hd
  have hleft : left = Keyed.get? e node.name := by
    rw [hsame, ← Keyed.get?_update_self d node.name left, hleft]
  rw [Settled, hlocal e hsame, Keyed.update_eq_self hleft.symm]

/-- A settled chain stays settled when a chain with another first name is applied. -/
theorem Settled.on_apply_of_name_ne {key : String} {a b : PatchNode} {t u : Members}
    {modified : Bool} (h : Settled key a t) (hne : a.name ≠ b.name)
    (hb : (b.apply key).on t = (.ok modified, u)) : Settled key a u := by
  obtain ⟨r, left, hlocal⟩ := b.on_apply_local key (Keyed.get? t b.name)
  cases hb.symm.trans (hlocal t rfl)
  exact h.congr (Keyed.get?_update_of_ne t (Ne.symm hne) left)

/-- A settled chain stays settled when a chain that is apart from it is applied. -/
theorem Settled.on_apply_of_apart {key : String} {a b : PatchNode} {t u : Members} {modified : Bool}
    (h : Settled key a t) (hapart : Apart a b) (hb : (b.apply key).on t = (.ok modified, u)) :
    Settled key a u := by
  induction a generalizing b t u modified with
  | leaf name operation =>
    rcases hapart.cases with hne | ⟨_, _, _, hleaf, _⟩
    · exact h.on_apply_of_name_ne hne hb
    · cases hleaf
  | modify name below ih =>
    rcases hapart.cases with hne | ⟨_, _, below', hmodify, rfl, hbelow⟩
    · exact h.on_apply_of_name_ne hne hb
    · -- both chains go into one object, which is there as the first one is settled
      cases hmodify
      obtain ⟨members, hfound, hsettled⟩ := settled_modify_iff.mp h
      obtain ⟨members', created, flag, changed, henter, hnested, _, rfl⟩ := on_apply_modify_eq_ok hb
      rw [hfound] at henter
      cases henter
      exact settled_modify_iff.mpr
        ⟨changed, Keyed.get?_insert_self t name _, ih hsettled hbelow hnested⟩

/-! ## Any number of chains -/

/-- A settled chain stays settled when chains that are apart from it are applied. -/
theorem Settled.on_applyAll_of_apart {key : String} {a : PatchNode} {nodes : List PatchNode}
    {t u : Members} {modified : Bool} (h : Settled key a t) (hapart : ∀ b ∈ nodes, Apart a b)
    (hnodes : (applyAll key nodes).on t = (.ok modified, u)) : Settled key a u := by
  induction nodes generalizing t modified with
  | nil =>
    cases hnodes
    exact h
  | cons b rest ih =>
    obtain ⟨first, changed, more, hfirst, hmore, _⟩ := on_applyAll_cons_eq_ok hnodes
    have hb := h.on_apply_of_apart (hapart b List.mem_cons_self) hfirst
    exact ih hb (fun c hc => hapart c (List.mem_cons_of_mem b hc)) hmore

/-- Chains that are apart, and set or unset without asking for a previous value, are all settled in
what they leave. -/
theorem settled_of_on_applyAll {key : String} {nodes : List PatchNode} {d t : Members}
    {modified : Bool} (hnodes : ∀ node ∈ nodes, node.operation.Unconditional)
    (hapart : nodes.Pairwise Apart) (h : (applyAll key nodes).on d = (.ok modified, t)) :
    ∀ node ∈ nodes, Settled key node t := by
  induction nodes generalizing d modified with
  | nil =>
    intro node hnode
    cases hnode
  | cons first rest ih =>
    obtain ⟨hfirst, hrest⟩ := List.pairwise_cons.mp hapart
    obtain ⟨flag, changed, more, hrun, hmore, _⟩ := on_applyAll_cons_eq_ok h
    intro node hnode
    rcases List.mem_cons.mp hnode with rfl | hnode
    · have hsettled := settled_of_on_apply (hnodes node List.mem_cons_self) hrun
      exact hsettled.on_applyAll_of_apart hfirst hmore
    · exact ih (fun other hother => hnodes other (List.mem_cons_of_mem first hother)) hrest hmore
        node hnode

/-- Settled chains do nothing. -/
theorem on_applyAll_of_settled {key : String} {nodes : List PatchNode} {t : Members}
    (h : ∀ node ∈ nodes, Settled key node t) : (applyAll key nodes).on t = (.ok false, t) := by
  induction nodes with
  | nil => rfl
  | cons node rest ih =>
    have hfirst : (node.apply key).on t = (.ok false, t) := h node List.mem_cons_self
    have hrest := ih fun other hother => h other (List.mem_cons_of_mem node hother)
    rw [on_applyAll_cons_of_ok hfirst, hrest]
    rfl

/-- The chains of updates at independent paths are apart. -/
theorem pairwise_apart_chainsOf {updates : List (PropertyPath × PatchLeaf)}
    (h : updates.Pairwise fun a b => Independent a.1 b.1) : (chainsOf updates).Pairwise Apart := by
  refine List.pairwise_map.mpr (h.imp fun hpaths => ?_)
  rw [Apart, names_ofPath, names_ofPath]
  exact hpaths

/-- Updates at independent paths that set or unset, and ask for no previous value, do nothing when
they are made once more. -/
theorem on_applyAll_of_on_applyAll {key : String} {updates : List (PropertyPath × PatchLeaf)}
    {d t : Members} {modified : Bool} (hupdates : ∀ u ∈ updates, u.2.Unconditional)
    (hindependent : updates.Pairwise fun a b => Independent a.1 b.1)
    (h : (applyAll key (chainsOf updates)).on d = (.ok modified, t)) :
    (applyAll key (chainsOf updates)).on t = (.ok false, t) := by
  have hunconditional : ∀ node ∈ chainsOf updates, node.operation.Unconditional := by
    intro node hnode
    obtain ⟨u, hu, rfl⟩ := List.mem_map.mp hnode
    rw [operation_ofPath]
    exact hupdates u hu
  have hapart := pairwise_apart_chainsOf hindependent
  exact on_applyAll_of_settled (settled_of_on_applyAll hunconditional hapart h)

end PatchNode

end PatchStore
