import PatchStore.Patch.Apply
import PatchStore.Proofs.Json.Stripping

/-!
# Chains on independent fields commute

Two chains are apart when neither leads through the field of the other, or to it.  They may still
share parents: the one that is applied first makes those that are missing, and says so.  Nothing of
this can be told from what both chains leave, or from what they say together.

A chain looks at one member of the document and changes no other (`on_apply_local`).  Chains with
different first members therefore do not meet, and chains with the same first member meet one level
down.  Documents must be in order along the chains, as a member that is dropped and another that is
put in commute only then.

* `Work.outcome?` — what work gives and leaves if it succeeds.
* `PatchNode.Apart`, `PatchNode.InOrderAlong` — independent chains; documents in order along a chain.
* `on_apply_swap` — two chains that are apart commute, and report the same together.
* `outcome?_applyAll_perm` — any number of chains that are apart can be put in any order.
* `applyAll_in_any_order` — so can updates at independent paths.
-/

namespace PatchStore

/-! ## Work that succeeds -/

namespace Work

variable {σ α β : Type}

/-- What work gives and leaves if it succeeds. -/
def outcome? (w : Work σ α) (s : σ) : Option (α × σ) :=
  match w.on s with
  | (.ok a, t) => some (a, t)
  | (.error _, _) => none

theorem outcome?_eq_some_iff {w : Work σ α} {s t : σ} {a : α} :
    w.outcome? s = some (a, t) ↔ w.on s = (.ok a, t) := by
  rw [outcome?]
  rcases w.on s with ⟨e | b, u⟩ <;> simp

theorem outcome?_eq_none_iff {w : Work σ α} {s : σ} :
    w.outcome? s = none ↔ ∃ e t, w.on s = (.error e, t) := by
  rw [outcome?]
  rcases w.on s with ⟨e | b, u⟩ <;> simp

end Work

/-! ## Single members -/

namespace Keyed

variable {α : Type}

/-- Sets the value under the given key, or drops it if there is to be none. -/
def update (m : Keyed α) (key : String) : Option α → Keyed α
  | some value => m.insert key value
  | none => m.erase key

theorem get?_update (m : Keyed α) (key : String) (value : Option α) (other : String) :
    get? (update m key value) other = if key = other then value else get? m other := by
  cases value with
  | none => exact get?_erase m key other
  | some v => exact get?_insert m key v other

@[simp] theorem get?_update_self (m : Keyed α) (key : String) (value : Option α) :
    get? (update m key value) key = value := by
  rw [get?_update, if_pos rfl]

theorem get?_update_of_ne (m : Keyed α) {key other : String} (h : key ≠ other)
    (value : Option α) : get? (update m key value) other = get? m other := by
  rw [get?_update, if_neg h]

theorem Sorted.update {m : Keyed α} (h : m.Sorted) (key : String) (value : Option α) :
    (update m key value).Sorted := by
  cases value with
  | none => exact h.erase key
  | some v => exact h.insert key v

theorem update_eq_self {m : Keyed α} {key : String} {value : Option α} (h : get? m key = value) :
    update m key value = m := by
  cases value with
  | none => exact erase_eq_self h
  | some v => exact insert_eq_self h

/-- A key that is updated twice has the value that it was given last. -/
theorem Sorted.update_update {m : Keyed α} (h : m.Sorted) (key : String) (v w : Option α) :
    Keyed.update (Keyed.update m key v) key w = Keyed.update m key w := by
  refine ((h.update key v).update key w).ext (h.update key w) fun other => ?_
  rw [get?_update, get?_update, get?_update]
  split <;> rfl

/-- Two keys can be updated in either order. -/
theorem Sorted.update_comm {m : Keyed α} (h : m.Sorted) {a b : String} (hne : a ≠ b)
    (v w : Option α) :
    Keyed.update (Keyed.update m a v) b w = Keyed.update (Keyed.update m b w) a v := by
  refine ((h.update a v).update b w).ext ((h.update b w).update a v) fun key => ?_
  rw [get?_update, get?_update, get?_update, get?_update]
  by_cases ha : a = key
  · subst ha
    rw [if_pos rfl, if_neg (Ne.symm hne), if_pos rfl]
  · rw [if_neg ha, if_neg ha]

end Keyed

namespace PatchLeaf

/-- The check of a previous value goes by the member of its name alone. -/
theorem checkPrevious_local (key name : String) (prevVal found : Option Json) :
    ∃ check, ∀ target : Members, Keyed.get? target name = found →
      checkPrevious key name target prevVal = check := by
  cases prevVal with
  | none => exact ⟨.ok (), fun _ _ => rfl⟩
  | some expected =>
    refine ⟨if hasValue expected found then .ok ()
      else .error (.concurrency key (.valueDiffers name expected found)), fun target hfound => ?_⟩
    rw [checkPrevious, hfound]

/-- An operation goes by the member of its name alone, and changes no other. -/
theorem on_apply_local (op : PatchLeaf) (key name : String) (found : Option Json) :
    ∃ r left, ∀ target : Members, Keyed.get? target name = found →
      (op.apply key name).on target = (r, Keyed.update target name left) := by
  cases op with
  | add value =>
    cases found with
    | none =>
      refine ⟨.ok true, some (.array [value]), fun target hfound => ?_⟩
      rw [on_apply_add, hfound]
      rfl
    | some v =>
      cases hv : v with
      | null =>
        refine ⟨.ok true, some (.array [value]), fun target hfound => ?_⟩
        rw [on_apply_add, hfound]
        rfl
      | array items =>
        refine ⟨.ok true, some (.array (items ++ [value])), fun target hfound => ?_⟩
        rw [on_apply_add, hfound]
        rfl
      | bool | number | string | object =>
        refine ⟨.error (.backend (.notAnArray name key)), some v, fun target hfound => ?_⟩
        rw [Keyed.update_eq_self (hv ▸ hfound), on_apply_add, hfound]
  | set value prevVal =>
    obtain ⟨check, hcheck⟩ := checkPrevious_local key name prevVal found
    cases check with
    | error e =>
      refine ⟨.error e, found, fun target hfound => ?_⟩
      rw [Keyed.update_eq_self hfound, on_apply_set, hcheck target hfound]
    | ok =>
      refine ⟨.ok !hasValue value found, some value, fun target hfound => ?_⟩
      rw [on_apply_set, hcheck target hfound, hfound]
      rfl
  | unset prevVal =>
    obtain ⟨check, hcheck⟩ := checkPrevious_local key name prevVal found
    cases check with
    | error e =>
      refine ⟨.error e, found, fun target hfound => ?_⟩
      rw [Keyed.update_eq_self hfound, on_apply_unset, hcheck target hfound]
    | ok =>
      refine ⟨.ok found.isSome, none, fun target hfound => ?_⟩
      rw [on_apply_unset, hcheck target hfound, Keyed.contains, hfound]
      rfl

end PatchLeaf

namespace PatchNode

/-- A chain goes by the member of its first name alone, and changes no other. -/
theorem on_apply_local (node : PatchNode) (key : String) (found : Option Json) :
    ∃ r left, ∀ target : Members, Keyed.get? target node.name = found →
      (node.apply key).on target = (r, Keyed.update target node.name left) := by
  cases node with
  | leaf name op => exact op.on_apply_local key name found
  | modify name nested =>
    rcases henter : enter key name found with e | ⟨members, created⟩
    · refine ⟨.error e, found, fun target hfound => ?_⟩
      have hfound : Keyed.get? target name = found := hfound
      rw [on_apply_modify_of_refused (by rw [hfound, henter])]
      exact congrArg (Prod.mk _) (Keyed.update_eq_self hfound).symm
    · refine ⟨((nested.apply key).on members).1.map (· || created),
        some (.object ((nested.apply key).on members).2), fun target hfound => ?_⟩
      have hfound : Keyed.get? target name = found := hfound
      exact on_apply_modify_of_enter (by rw [hfound, henter]) nested

end PatchNode

/-! ## Chains that are apart -/

namespace PatchNode

/-- Neither chain leads through the field of the other, or to it. -/
def Apart (a b : PatchNode) : Prop := ¬a.names <+: b.names ∧ ¬b.names <+: a.names

theorem Apart.symm {a b : PatchNode} (h : Apart a b) : Apart b a := ⟨h.2, h.1⟩

/-- Chains that are apart have different first members, or are apart one level down. -/
theorem Apart.cases {a b : PatchNode} (h : Apart a b) :
    a.name ≠ b.name ∨
      ∃ name below below', a = modify name below ∧ b = modify name below' ∧ Apart below below' := by
  by_cases hname : a.name = b.name
  · right
    cases a with
    | leaf n op =>
      refine absurd ?_ h.1
      obtain rfl : n = b.name := hname
      cases b <;> exact List.cons_prefix_cons.mpr ⟨rfl, List.nil_prefix⟩
    | modify n below =>
      obtain rfl : n = b.name := hname
      cases b with
      | leaf m op => exact absurd (List.cons_prefix_cons.mpr ⟨rfl, List.nil_prefix⟩) h.2
      | modify m below' =>
        refine ⟨m, below, below', rfl, rfl, fun hprefix => h.1 ?_, fun hprefix => h.2 ?_⟩
        · exact List.cons_prefix_cons.mpr ⟨rfl, hprefix⟩
        · exact List.cons_prefix_cons.mpr ⟨rfl, hprefix⟩
  · exact Or.inl hname

/-! ## Documents in order along a chain -/

/-- The objects that the chain comes to have their members in order. -/
def InOrderAlong : PatchNode → Members → Prop
  | leaf _ _, d => d.Sorted
  | modify name nested, d =>
    d.Sorted ∧ ∀ m, Keyed.get? d name = some (.object m) → nested.InOrderAlong m

theorem InOrderAlong.sorted {node : PatchNode} {d : Members} (h : node.InOrderAlong d) :
    d.Sorted := by
  cases node with
  | leaf name op => exact h
  | modify name nested => exact h.1

/-- An object without members is in order along every chain. -/
theorem inOrderAlong_nil (node : PatchNode) : node.InOrderAlong [] := by
  cases node with
  | leaf name op => exact Keyed.sorted_nil
  | modify name nested =>
    refine ⟨Keyed.sorted_nil, fun m hm => ?_⟩
    cases hm

/-- A document in order is in order along every chain. -/
theorem inOrderAlong_of_inOrder (node : PatchNode) {d : Members} (h : (Json.object d).InOrder) :
    node.InOrderAlong d := by
  have hsorted : d.Sorted := by
    cases h with
    | object hsorted _ => exact hsorted
  induction node generalizing d with
  | leaf name op => exact hsorted
  | modify name nested ih =>
    refine ⟨hsorted, fun m hm => ?_⟩
    have hm := h.get? hm
    refine ih hm ?_
    cases hm with
    | object hsorted _ => exact hsorted

/-- What a node goes into is in order along the rest of the chain. -/
theorem InOrderAlong.enter {key name : String} {nested : PatchNode} {d members : Members}
    {created : Bool} (h : (modify name nested).InOrderAlong d)
    (henter : PatchNode.enter key name (Keyed.get? d name) = .ok (members, created)) :
    nested.InOrderAlong members := by
  rcases enter_eq_ok henter with ⟨hfound, -⟩ | ⟨-, rfl, -⟩
  · exact h.2 members hfound
  · exact nested.inOrderAlong_nil

/-! ## Two chains -/

/-- A node goes into the object that was just put in its place. -/
theorem enter_insert_self (key name : String) (d members : Members) :
    enter key name (Keyed.get? (Keyed.insert d name (.object members)) name) =
      .ok (members, false) := by
  rw [Keyed.get?_insert_self]
  rfl

/-- Chains with different first members can be applied the other way round. -/
theorem on_apply_swap_of_name_ne {key : String} {a b : PatchNode} {d t u : Members} {m n : Bool}
    (hne : a.name ≠ b.name) (hd : d.Sorted) (ha : (a.apply key).on d = (.ok m, t))
    (hb : (b.apply key).on t = (.ok n, u)) :
    ∃ t', (b.apply key).on d = (.ok n, t') ∧ (a.apply key).on t' = (.ok m, u) := by
  obtain ⟨r, v, hlocal⟩ := a.on_apply_local key (Keyed.get? d a.name)
  obtain ⟨r', v', hlocal'⟩ := b.on_apply_local key (Keyed.get? d b.name)
  cases ha.symm.trans (hlocal d rfl)
  cases hb.symm.trans (hlocal' _ (Keyed.get?_update_of_ne d hne v))
  refine ⟨Keyed.update d b.name v', hlocal' d rfl, ?_⟩
  rw [hlocal _ (Keyed.get?_update_of_ne d (Ne.symm hne) v'), hd.update_comm hne]

/-- Chains that are apart can be applied the other way round.  Their own reports may differ then, as
the first one makes the parents that both need, but what they report together does not. -/
theorem on_apply_swap {key : String} {a b : PatchNode} {d t u : Members} {m n : Bool}
    (h : Apart a b) (hd : a.InOrderAlong d) (ha : (a.apply key).on d = (.ok m, t))
    (hb : (b.apply key).on t = (.ok n, u)) :
    ∃ m' n' t', (b.apply key).on d = (.ok n', t') ∧ (a.apply key).on t' = (.ok m', u) ∧
      (m || n) = (n' || m') := by
  induction a generalizing b d t u m n with
  | leaf name op =>
    rcases h.cases with hne | ⟨_, _, _, hmodify, -⟩
    · obtain ⟨t', hb', ha'⟩ := on_apply_swap_of_name_ne hne hd.sorted ha hb
      exact ⟨m, n, t', hb', ha', Bool.or_comm m n⟩
    · cases hmodify
  | modify name below ih =>
    rcases h.cases with hne | ⟨_, _, below', hmodify, rfl, hbelow⟩
    · obtain ⟨t', hb', ha'⟩ := on_apply_swap_of_name_ne hne hd.sorted ha hb
      exact ⟨m, n, t', hb', ha', Bool.or_comm m n⟩
    · cases hmodify
      obtain ⟨members, created, p, changed, henter, hp, rfl, rfl⟩ := on_apply_modify_eq_ok ha
      obtain ⟨_, _, q, changed', henter', hq, rfl, rfl⟩ := on_apply_modify_eq_ok hb
      cases (enter_insert_self key name d changed).symm.trans henter'
      obtain ⟨p', q', middle, hq', hp', hflags⟩ := ih hbelow (hd.enter henter) hp hq
      -- whichever chain comes first makes the object, and the other one finds it
      refine ⟨p' || false, q' || created, Keyed.insert d name (.object middle), ?_, ?_, ?_⟩
      · rw [on_apply_modify_of_enter henter, hq']
        rfl
      · rw [on_apply_modify_of_enter (enter_insert_self key name d middle), hp']
        refine congrArg (Prod.mk _) ?_
        exact (hd.sorted.update_update name (some _) (some _)).trans
          (hd.sorted.update_update name (some _) (some _)).symm
      · rw [Bool.or_false, Bool.or_false, Bool.or_right_comm, hflags, Bool.or_right_comm]

/-- A chain leaves a document in order along the chains that are apart from it. -/
theorem InOrderAlong.apply {key : String} {a b : PatchNode} {d t : Members} {m : Bool}
    (hb : b.InOrderAlong d) (h : Apart a b) (ha : (a.apply key).on d = (.ok m, t)) :
    b.InOrderAlong t := by
  induction b generalizing a d t m with
  | leaf name op =>
    obtain ⟨r, v, hlocal⟩ := a.on_apply_local key (Keyed.get? d a.name)
    cases ha.symm.trans (hlocal d rfl)
    exact hb.sorted.update a.name v
  | modify name below ih =>
    obtain ⟨r, v, hlocal⟩ := a.on_apply_local key (Keyed.get? d a.name)
    have hsorted : t.Sorted := by
      cases ha.symm.trans (hlocal d rfl)
      exact hb.sorted.update a.name v
    rcases h.cases with hne | ⟨_, below', _, rfl, hmodify, hbelow⟩
    · cases ha.symm.trans (hlocal d rfl)
      refine ⟨hsorted, fun members hmembers => hb.2 members ?_⟩
      rw [← hmembers]
      exact (Keyed.get?_update_of_ne d hne v).symm
    · cases hmodify
      obtain ⟨members, created, p, changed, henter, hp, rfl, rfl⟩ := on_apply_modify_eq_ok ha
      refine ⟨hsorted, fun members' hmembers => ?_⟩
      cases (Keyed.get?_insert_self d name _).symm.trans hmembers
      exact ih (hb.enter henter) hbelow hp

/-! ## Any number of chains -/

theorem outcome?_applyAll_cons (key : String) (node : PatchNode) (rest : List PatchNode)
    (d : Members) :
    (applyAll key (node :: rest)).outcome? d =
      ((node.apply key).outcome? d).bind fun r =>
        ((applyAll key rest).outcome? r.2).map fun r' => (r.1 || r'.1, r'.2) := by
  rcases hnode : (node.apply key).on d with ⟨e | m, t⟩
  · rw [Work.outcome?, Work.outcome?, on_applyAll_cons_of_error hnode, hnode]
    rfl
  · rw [Work.outcome?, Work.outcome?, on_applyAll_cons_of_ok hnode, hnode, Option.bind_some,
      Work.outcome?]
    rcases (applyAll key rest).on t with ⟨e | n, u⟩ <;> rfl

/-- Chains go on from what the chains before them leave. -/
theorem outcome?_applyAll_append (key : String) (before after : List PatchNode) (d : Members) :
    (applyAll key (before ++ after)).outcome? d =
      ((applyAll key before).outcome? d).bind fun r =>
        ((applyAll key after).outcome? r.2).map fun r' => (r.1 || r'.1, r'.2) := by
  induction before generalizing d with
  | nil =>
    show (applyAll key after).outcome? d = ((applyAll key after).outcome? d).map fun r => r
    rw [Option.map_id']
  | cons node before ih =>
    rw [List.cons_append, outcome?_applyAll_cons, outcome?_applyAll_cons, Option.bind_assoc]
    refine congrArg (Option.bind _) (funext fun r => ?_)
    rw [ih, Option.map_bind, Option.bind_map]
    refine congrArg (Option.bind _) (funext fun r' => ?_)
    rw [Function.comp_apply, Option.map_map]
    simp only [Function.comp_def, Bool.or_assoc]

theorem outcome?_applyAll_swap {key : String} {a b : PatchNode} {d : Members} {r : Bool × Members}
    (h : Apart a b) (hd : a.InOrderAlong d) (hr : (applyAll key [a, b]).outcome? d = some r) :
    (applyAll key [b, a]).outcome? d = some r := by
  rw [Work.outcome?_eq_some_iff] at hr ⊢
  obtain ⟨m, t, _, ha, hrest, hflags⟩ := on_applyAll_cons_eq_ok hr
  obtain ⟨n, u, _, hb, hnil, rfl⟩ := on_applyAll_cons_eq_ok hrest
  cases hnil
  obtain ⟨m', n', t', hb', ha', hswapped⟩ := on_apply_swap h hd ha hb
  rw [on_applyAll_cons_of_ok hb', on_applyAll_cons_of_ok ha']
  refine congrArg (fun flag => (Except.ok flag, r.2)) ?_
  rw [hflags, Bool.or_false, hswapped]
  exact congrArg (n' || ·) (Bool.or_false m')

/-- Two chains that are apart can be applied in either order. -/
theorem outcome?_applyAll_pair_comm {a b : PatchNode} {d : Members} (h : Apart a b)
    (ha : a.InOrderAlong d) (hb : b.InOrderAlong d) (key : String) :
    (applyAll key [a, b]).outcome? d = (applyAll key [b, a]).outcome? d :=
  Option.ext fun _ => ⟨outcome?_applyAll_swap h ha, outcome?_applyAll_swap h.symm hb⟩

/-- Chains that are apart can be applied in any order. -/
theorem outcome?_applyAll_perm {nodes nodes' : List PatchNode} (h : nodes.Perm nodes')
    (hapart : nodes.Pairwise Apart) {d : Members} (hd : ∀ node ∈ nodes, node.InOrderAlong d)
    (key : String) : (applyAll key nodes).outcome? d = (applyAll key nodes').outcome? d := by
  induction h generalizing d with
  | nil => rfl
  | cons node _ ih =>
    obtain ⟨hnode, hrest⟩ := List.pairwise_cons.mp hapart
    rw [outcome?_applyAll_cons, outcome?_applyAll_cons]
    refine Option.bind_congr fun r hr => ?_
    rw [ih hrest fun other hother => ?_]
    exact (hd other (List.mem_cons_of_mem node hother)).apply (hnode other hother)
      (Work.outcome?_eq_some_iff.mp hr)
  | swap a b rest =>
    have hab : Apart b a := (List.pairwise_cons.mp hapart).1 a List.mem_cons_self
    show (applyAll key ([b, a] ++ rest)).outcome? d = (applyAll key ([a, b] ++ rest)).outcome? d
    rw [outcome?_applyAll_append, outcome?_applyAll_append, outcome?_applyAll_pair_comm hab
      (hd b List.mem_cons_self) (hd a (List.mem_cons_of_mem b List.mem_cons_self))]
  | trans hfirst _ ih ih' =>
    rw [ih hapart hd]
    exact ih' ((hfirst.pairwise_iff Apart.symm).mp hapart)
      fun node hnode => hd node (hfirst.mem_iff.mpr hnode)

/-! ## Updates at independent paths -/

/-- Neither path leads through the field of the other, or to it. -/
def Independent (p q : PropertyPath) : Prop := ¬p.names <+: q.names ∧ ¬q.names <+: p.names

/-- The chains of updates, each at its path. -/
def chainsOf (updates : List (PropertyPath × PatchLeaf)) : List PatchNode :=
  updates.map fun u => ofPath u.1 u.2

/-- **Updates of independent fields commute.**  Take a document in order, as all documents are, and
updates at paths none of which leads through another or to it.  Either they succeed in every order,
with the same report and the same document, or they fail in every order. -/
theorem applyAll_in_any_order {d : Members} (hd : (Json.object d).InOrder)
    {updates : List (PropertyPath × PatchLeaf)}
    (hindependent : updates.Pairwise fun a b => Independent a.1 b.1) (key : String) :
    (∃ modified after, ∀ order, order.Perm updates →
      (applyAll key (chainsOf order)).on d = (.ok modified, after)) ∨
    ∀ order, order.Perm updates →
      ∃ e after, (applyAll key (chainsOf order)).on d = (.error e, after) := by
  have hapart : (chainsOf updates).Pairwise Apart := by
    refine List.pairwise_map.mpr (hindependent.imp fun h => ?_)
    rw [Apart, names_ofPath, names_ofPath]
    exact h
  have hsame : ∀ order, order.Perm updates →
      (applyAll key (chainsOf order)).outcome? d = (applyAll key (chainsOf updates)).outcome? d :=
    fun order horder => (outcome?_applyAll_perm (horder.symm.map _) hapart
      (fun node _ => node.inOrderAlong_of_inOrder hd) key).symm
  rcases houtcome : (applyAll key (chainsOf updates)).outcome? d with _ | ⟨modified, after⟩
  · refine Or.inr fun order horder => Work.outcome?_eq_none_iff.mp ?_
    rw [hsame order horder, houtcome]
  · refine Or.inl ⟨modified, after, fun order horder => Work.outcome?_eq_some_iff.mp ?_⟩
    rw [hsame order horder, houtcome]

/-- An article without an author, and with one tag. -/
def unsigned : Members := [("author", .null), ("tags", .array [.string "draft"])]

/-- Two updates of the author, who has to be made, and a further tag. -/
def signing : List (PropertyPath × PatchLeaf) :=
  [(⟨["author"], "born"⟩, .unset none), (⟨["author"], "name"⟩, .set (.string "Ann") none),
    (⟨[], "tags"⟩, .add (.string "signed"))]

/-- Whichever update comes first makes the author. -/
theorem signing_in_any_order :
    (Json.object unsigned).InOrder ∧ (signing.Pairwise fun a b => Independent a.1 b.1) ∧
      ∀ order, order.Perm signing →
        (applyAll "articles/1" (chainsOf order)).on unsigned =
          (.ok true, [("author", .object [("name", .string "Ann")]),
            ("tags", .array [.string "draft", .string "signed"])]) := by
  have hd : (Json.object unsigned).InOrder := by
    have htags : (Json.array [.string "draft"]).InOrder :=
      .array (List.forall_mem_singleton.mpr .string)
    refine .object ?_ (List.forall_mem_cons.mpr ⟨.null, List.forall_mem_singleton.mpr htags⟩)
    show ["author", "tags"].Pairwise (· < ·)
    decide
  have hindependent : signing.Pairwise fun a b => Independent a.1 b.1 := by
    unfold Independent
    decide
  refine ⟨hd, hindependent, ?_⟩
  rcases applyAll_in_any_order hd hindependent "articles/1" with ⟨modified, after, hall⟩ | hall
  · have hrun := hall signing (List.Perm.refl signing)
    cases hrun
    exact hall
  · obtain ⟨e, after, hrun⟩ := hall signing (List.Perm.refl signing)
    cases hrun

end PatchNode

end PatchStore
