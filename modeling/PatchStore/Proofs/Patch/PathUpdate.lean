import PatchStore.Patch.Apply

/-!
# A chain is one update at its path

The chain for a path is built from the leaf up and applied from the root down.  Seen from outside it
is one update: it looks at the value that the path leads to, and if all is well it replaces that
value and no other.

* `Blocked` — an object on the way to a path cannot be entered.
* `PatchLeaf.Unaddable`, `PatchLeaf.Conflicts` — what makes an operation fail on the value it finds.
* `PatchLeaf.result` — the value that an operation leaves.
* `UpdatedAt` — a document differs from another by one update at a path.
* `PatchNode.on_apply_ofPath_of_not_blocked` — a chain whose path is not blocked is its operation on
  the members that the path leads into.
* `PatchNode.apply_ofPath_updates` — when a chain fails, and what it leaves when it succeeds.
-/

namespace PatchStore

/-! ## Operations on the value that they find -/

namespace PatchLeaf

/-- The operation adds to a value that is there and is neither `null` nor an array. -/
def Unaddable (op : PatchLeaf) (found : Option Json) : Prop :=
  op.kind = .add ∧ ∃ v, found = some v ∧ v ≠ .null ∧ v.array? = none

/-- The operation needs a previous value, and there is none or another one. -/
def Conflicts (op : PatchLeaf) (found : Option Json) : Prop :=
  ∃ expected, op.prevVal? = some expected ∧ ∀ v, found = some v → (v == expected) = false

/-- The value that the operation leaves in the place of the one that it finds. -/
def result : PatchLeaf → Option Json → Option Json
  | add value, some (.array items) => some (.array (items ++ [value]))
  | add value, _ => some (.array [value])
  | set value _, _ => some value
  | unset _, _ => none

theorem hasValue_eq_false_iff {expected : Json} {found : Option Json} :
    hasValue expected found = false ↔ ∀ v, found = some v → (v == expected) = false := by
  cases found <;> simp [hasValue]

/-- The check of the previous value fails on a conflict, with the key of the document. -/
theorem checkPrevious_of_conflicts {op : PatchLeaf} {name : String} {target : Members}
    (h : op.Conflicts (Keyed.get? target name)) (key : String) :
    ∃ reason, checkPrevious key name target op.prevVal? = .error (.concurrency key reason) := by
  obtain ⟨expected, hprev, hfound⟩ := h
  rw [hprev, checkPrevious, hasValue_eq_false_iff.mpr hfound]
  exact ⟨_, rfl⟩

theorem checkPrevious_of_not_conflicts {op : PatchLeaf} {name : String} {target : Members}
    (h : ¬op.Conflicts (Keyed.get? target name)) (key : String) :
    checkPrevious key name target op.prevVal? = .ok () := by
  cases hprev : op.prevVal? with
  | none => rfl
  | some expected =>
    have hvalue : hasValue expected (Keyed.get? target name) = true := by
      rw [← Bool.not_eq_false]
      intro hfalse
      exact h ⟨expected, hprev, hasValue_eq_false_iff.mp hfalse⟩
    rw [checkPrevious, hvalue]
    rfl

/-- Adding checks no previous value. -/
theorem Unaddable.not_conflicts {op : PatchLeaf} {found : Option Json} (h : op.Unaddable found) :
    ¬op.Conflicts found := by
  rintro ⟨expected, hprev, _⟩
  cases op with
  | add value => cases hprev
  | set value prevVal => cases h.1
  | unset prevVal => cases h.1

theorem on_apply_of_unaddable {op : PatchLeaf} {name : String} {target : Members}
    (h : op.Unaddable (Keyed.get? target name)) (key : String) :
    ∃ reason, ((op.apply key name).on target).1 = .error (.backend reason) := by
  obtain ⟨hkind, v, hfound, hnull, harray⟩ := h
  cases op with
  | add value =>
    rw [on_apply_add, hfound]
    cases v with
    | null => exact absurd rfl hnull
    | array items => cases harray
    | bool | number | string | object => exact ⟨_, rfl⟩
  | set value prevVal => cases hkind
  | unset prevVal => cases hkind

theorem on_apply_of_conflicts {op : PatchLeaf} {name : String} {target : Members}
    (h : op.Conflicts (Keyed.get? target name)) (key : String) :
    ∃ reason, ((op.apply key name).on target).1 = .error (.concurrency key reason) := by
  obtain ⟨reason, hcheck⟩ := checkPrevious_of_conflicts h key
  cases op with
  | add value =>
    obtain ⟨expected, hprev, _⟩ := h
    cases hprev
  | set value prevVal =>
    have hcheck : checkPrevious key name target prevVal = .error (.concurrency key reason) := hcheck
    rw [on_apply_set, hcheck]
    exact ⟨reason, rfl⟩
  | unset prevVal =>
    have hcheck : checkPrevious key name target prevVal = .error (.concurrency key reason) := hcheck
    rw [on_apply_unset, hcheck]
    exact ⟨reason, rfl⟩

/-- An operation that nothing speaks against succeeds and leaves its result. -/
theorem on_apply_of_applicable {op : PatchLeaf} {name : String} {target : Members}
    (hadd : ¬op.Unaddable (Keyed.get? target name))
    (hprev : ¬op.Conflicts (Keyed.get? target name)) (key : String) :
    ∃ modified after, (op.apply key name).on target = (.ok modified, after) ∧
      Keyed.get? after name = op.result (Keyed.get? target name) := by
  have hcheck := checkPrevious_of_not_conflicts hprev key
  cases op with
  | add value =>
    rw [on_apply_add]
    cases hfound : Keyed.get? target name with
    | none => exact ⟨true, _, rfl, Keyed.get?_insert_self _ _ _⟩
    | some v =>
      cases v with
      | null => exact ⟨true, _, rfl, Keyed.get?_insert_self _ _ _⟩
      | array items => exact ⟨true, _, rfl, Keyed.get?_insert_self _ _ _⟩
      | bool | number | string | object =>
        exact absurd ⟨rfl, _, hfound, Json.noConfusion, rfl⟩ hadd
  | set value prevVal =>
    have hcheck : checkPrevious key name target prevVal = .ok () := hcheck
    rw [on_apply_set, hcheck]
    exact ⟨_, _, rfl, Keyed.get?_insert_self _ _ _⟩
  | unset prevVal =>
    have hcheck : checkPrevious key name target prevVal = .ok () := hcheck
    rw [on_apply_unset, hcheck]
    refine ⟨_, _, rfl, ?_⟩
    rw [Keyed.get?_erase, if_pos rfl]
    rfl

/-- An operation leaves the other members, whatever comes of it. -/
theorem get?_on_apply_of_ne (op : PatchLeaf) (key : String) {name other : String}
    (h : name ≠ other) (target : Members) :
    Keyed.get? ((op.apply key name).on target).2 other = Keyed.get? target other := by
  cases op with
  | add value =>
    rw [on_apply_add]
    split
    · rw [Keyed.get?_insert, if_neg h]
    · rw [Keyed.get?_insert, if_neg h]
    · rw [Keyed.get?_insert, if_neg h]
    · rfl
  | set value prevVal =>
    rw [on_apply_set]
    split
    · rw [Keyed.get?_insert, if_neg h]
    · rfl
  | unset prevVal =>
    rw [on_apply_unset]
    split
    · rw [Keyed.get?_erase, if_neg h]
    · rfl

end PatchLeaf

/-! ## The way to a path -/

/-- Some object on the way to the path cannot be entered: a part of the way leads to a value that is
neither `null` nor an object. -/
def Blocked (d : Members) (p : PropertyPath) : Prop :=
  ∃ q, q ≠ [] ∧ q <+: p.names ∧ q ≠ p.names ∧
    ∃ v, (Json.object d).at? q = some v ∧ v ≠ .null ∧ v.object? = none

/-- The one document is the other but for what the path leads to, which is the given value; the path
leads through objects. -/
structure UpdatedAt (p : PropertyPath) (value : Option Json) (before after : Members) : Prop where
  parents : ∀ q, q <+: p.names → q ≠ p.names → ∃ m, (Json.object after).at? q = some (.object m)
  value : (Json.object after).at? p.names = value
  frame : ∀ q, ¬q <+: p.names → ¬p.names <+: q →
    (Json.object after).at? q = (Json.object before).at? q

namespace PatchNode

/-- Nothing is on the way to a path of one name. -/
theorem not_blocked_leaf (d : Members) (name : String) : ¬Blocked d ⟨[], name⟩ := by
  rintro ⟨q, hne, hprefix, hproper, _⟩
  cases q with
  | nil => exact hne rfl
  | cons n q =>
    obtain ⟨rfl, hrest⟩ := List.cons_prefix_cons.mp hprefix
    rw [List.prefix_nil] at hrest
    exact hproper (by rw [hrest]; rfl)

/-- A value that a node refuses blocks the way. -/
theorem blocked_of_enter_error {key name : String} {d : Members} {e : StoreError}
    (h : enter key name (Keyed.get? d name) = .error e) (p : PropertyPath) :
    Blocked d (p.under name) := by
  obtain ⟨_, v, hfound, hnull, hobject⟩ := enter_eq_error h
  refine ⟨[name], List.cons_ne_nil _ _, List.cons_prefix_cons.mpr ⟨rfl, List.nil_prefix⟩, ?_, v, ?_,
    hnull, hobject⟩
  · intro heq
    exact p.names_ne_nil (List.tail_eq_of_cons_eq heq).symm
  · rw [Json.at?_cons, hfound, Option.bind_some, Json.at?_nil]

/-- Beyond its first name a path leads on in the members that a node goes into. -/
theorem at?_of_enter {key name : String} {d members : Members} {created : Bool}
    (h : enter key name (Keyed.get? d name) = .ok (members, created)) {q : List String}
    (hq : q ≠ []) : (Json.object d).at? (name :: q) = (Json.object members).at? q := by
  cases q with
  | nil => exact absurd rfl hq
  | cons n q =>
    rcases enter_eq_ok h with ⟨hfound, _⟩ | ⟨hfound | hfound, rfl, _⟩
    · rw [Json.at?_cons, hfound, Option.bind_some]
    · rw [Json.at?_cons, Json.at?_cons, hfound]
      rfl
    · rw [Json.at?_cons, Json.at?_cons, hfound, Option.bind_some, Json.at?_null]
      rfl

/-- What a node goes into blocks nothing. -/
theorem not_blocking_of_enter {key name : String} {d members : Members} {created : Bool}
    (h : enter key name (Keyed.get? d name) = .ok (members, created)) {v : Json}
    (hat : (Json.object d).at? [name] = some v) : v = .null ∨ v.object? = some members := by
  rw [Json.at?_cons] at hat
  rcases enter_eq_ok h with ⟨hfound, _⟩ | ⟨hfound | hfound, _, _⟩
  · rw [hfound, Option.bind_some, Json.at?_nil] at hat
    cases hat
    exact Or.inr rfl
  · rw [hfound] at hat
    cases hat
  · rw [hfound, Option.bind_some, Json.at?_nil] at hat
    cases hat
    exact Or.inl rfl

/-- A way that a node goes into is blocked if it is blocked further on. -/
theorem blocked_under_of_enter {key name : String} {d members : Members} {created : Bool}
    (h : enter key name (Keyed.get? d name) = .ok (members, created)) (p : PropertyPath) :
    Blocked d (p.under name) ↔ Blocked members p := by
  constructor
  · rintro ⟨q, hne, hprefix, hproper, v, hat, hnull, hobject⟩
    cases q with
    | nil => exact absurd rfl hne
    | cons n q =>
      obtain ⟨rfl, hrest⟩ := List.cons_prefix_cons.mp hprefix
      by_cases hq : q = []
      · subst hq
        rcases not_blocking_of_enter h hat with hv | hv
        · exact absurd hv hnull
        · cases hobject.symm.trans hv
      · rw [at?_of_enter h hq] at hat
        refine ⟨q, hq, hrest, ?_, v, hat, hnull, hobject⟩
        rintro rfl
        exact hproper rfl
  · rintro ⟨q, hne, hprefix, hproper, v, hat, hnull, hobject⟩
    refine ⟨name :: q, List.cons_ne_nil _ _, List.cons_prefix_cons.mpr ⟨rfl, hprefix⟩, ?_, v, ?_,
      hnull, hobject⟩
    · intro heq
      exact hproper (List.tail_eq_of_cons_eq heq)
    · rw [at?_of_enter h hne]
      exact hat

end PatchNode

/-- An update of one member is an update at a path of one name. -/
theorem UpdatedAt.of_leaf {name : String} {d after : Members}
    (h : ∀ other, name ≠ other → Keyed.get? after other = Keyed.get? d other) :
    UpdatedAt ⟨[], name⟩ (Keyed.get? after name) d after where
  parents q hprefix hproper := by
    cases q with
    | nil => exact ⟨after, Json.at?_nil _⟩
    | cons n q =>
      obtain ⟨rfl, hrest⟩ := List.cons_prefix_cons.mp hprefix
      rw [List.prefix_nil] at hrest
      exact absurd (by rw [hrest]; rfl) hproper
  value := by
    show (Json.object after).at? [name] = Keyed.get? after name
    exact Json.at?_singleton after name
  frame q hprefix hextension := by
    cases q with
    | nil => exact absurd List.nil_prefix hprefix
    | cons n q =>
      have hne : name ≠ n := by
        rintro rfl
        exact hextension (List.cons_prefix_cons.mpr ⟨rfl, List.nil_prefix⟩)
      rw [Json.at?_cons, Json.at?_cons, h n hne]

/-- An update of the members that a node goes into is an update one level up. -/
theorem UpdatedAt.under {key name : String} {d members changed : Members} {created : Bool}
    (h : PatchNode.enter key name (Keyed.get? d name) = .ok (members, created)) {p : PropertyPath}
    {value : Option Json} (hupdated : UpdatedAt p value members changed) :
    UpdatedAt (p.under name) value d (Keyed.insert d name (.object changed)) where
  parents q hprefix hproper := by
    cases q with
    | nil => exact ⟨_, Json.at?_nil _⟩
    | cons n q =>
      obtain ⟨rfl, hrest⟩ := List.cons_prefix_cons.mp hprefix
      rw [Json.at?_insert_self]
      refine hupdated.parents q hrest ?_
      rintro rfl
      exact hproper rfl
  value := by
    show (Json.object _).at? (name :: p.names) = value
    rw [Json.at?_insert_self]
    exact hupdated.value
  frame q hprefix hextension := by
    cases q with
    | nil => exact absurd List.nil_prefix hprefix
    | cons n q =>
      by_cases hname : name = n
      · subst hname
        have hprefix : ¬q <+: p.names := fun hq =>
          hprefix (List.cons_prefix_cons.mpr ⟨rfl, hq⟩)
        have hextension : ¬p.names <+: q := fun hq =>
          hextension (List.cons_prefix_cons.mpr ⟨rfl, hq⟩)
        have hq : q ≠ [] := by
          rintro rfl
          exact hprefix List.nil_prefix
        rw [Json.at?_insert_self, PatchNode.at?_of_enter h hq]
        exact hupdated.frame q hprefix hextension
      · exact Json.at?_insert_of_ne d hname _ q

namespace PatchNode

/-- A chain whose path is blocked is refused. -/
theorem on_apply_ofPath_of_blocked {d : Members} {p : PropertyPath} (h : Blocked d p) (key : String)
    (op : PatchLeaf) :
    ∃ reason, (((ofPath p op).apply key).on d).1 = .error (.backend reason) := by
  rcases p with ⟨parents, name⟩
  induction parents generalizing d with
  | nil => exact absurd h (not_blocked_leaf d name)
  | cons n parents ih =>
    show ∃ reason, (((modify n (ofPath ⟨parents, name⟩ op)).apply key).on d).1 =
      .error (.backend reason)
    rcases henter : enter key n (Keyed.get? d n) with e | ⟨members, created⟩
    · rw [on_apply_modify_of_refused henter, (enter_eq_error henter).1]
      exact ⟨_, rfl⟩
    · obtain ⟨reason, hrest⟩ := ih ((blocked_under_of_enter henter ⟨parents, name⟩).mp h)
      rw [on_apply_modify_of_enter henter, hrest]
      exact ⟨reason, rfl⟩

/-- A chain whose path is not blocked is its operation on the members that the path leads into; what
the operation leaves there, whether it succeeds or not, is an update of the document. -/
theorem on_apply_ofPath_of_not_blocked {d : Members} {p : PropertyPath} (h : ¬Blocked d p)
    (key : String) (op : PatchLeaf) :
    ∃ members created after, Keyed.get? members p.leaf = (Json.object d).at? p.names ∧
      ((ofPath p op).apply key).on d =
        (((op.apply key p.leaf).on members).1.map (· || created), after) ∧
      UpdatedAt p (Keyed.get? ((op.apply key p.leaf).on members).2 p.leaf) d after := by
  rcases p with ⟨parents, name⟩
  induction parents generalizing d with
  | nil =>
    refine ⟨d, false, ((op.apply key name).on d).2, ?_, ?_, ?_⟩
    · show Keyed.get? d name = (Json.object d).at? [name]
      exact (Json.at?_singleton d name).symm
    · show (op.apply key name).on d = _
      rcases (op.apply key name).on d with ⟨e | modified, after⟩
      · rfl
      · cases modified <;> rfl
    · exact .of_leaf fun other hne => op.get?_on_apply_of_ne key hne d
  | cons n parents ih =>
    rcases henter : enter key n (Keyed.get? d n) with e | ⟨members, created⟩
    · exact absurd (blocked_of_enter_error henter ⟨parents, name⟩) h
    · have hbelow : ¬Blocked members ⟨parents, name⟩ := fun hblocked =>
        h ((blocked_under_of_enter henter ⟨parents, name⟩).mpr hblocked)
      obtain ⟨inner, createdBelow, after, hfound, hrun, hupdated⟩ := ih hbelow
      refine ⟨inner, createdBelow || created, _, ?_, ?_, hupdated.under henter⟩
      · rw [hfound]
        exact (at?_of_enter henter (PropertyPath.names_ne_nil _)).symm
      · show ((modify n (ofPath ⟨parents, name⟩ op)).apply key).on d = _
        rw [on_apply_modify_of_enter henter, hrun]
        rcases (op.apply key name).on inner with ⟨e | modified, left⟩
        · rfl
        · cases modified <;> cases createdBelow <;> rfl

/-- A chain whose path is blocked, or whose operation adds to what is no array, is refused. -/
theorem on_apply_ofPath_of_refused {d : Members} {p : PropertyPath} {op : PatchLeaf}
    (h : Blocked d p ∨ op.Unaddable ((Json.object d).at? p.names)) (key : String) :
    ∃ reason, (((ofPath p op).apply key).on d).1 = .error (.backend reason) := by
  by_cases hblocked : Blocked d p
  · exact on_apply_ofPath_of_blocked hblocked key op
  · have hadd := h.resolve_left hblocked
    obtain ⟨members, created, after, hfound, hrun, _⟩ :=
      on_apply_ofPath_of_not_blocked hblocked key op
    rw [← hfound] at hadd
    obtain ⟨reason, hrefused⟩ := PatchLeaf.on_apply_of_unaddable hadd key
    rw [hrun, hrefused]
    exact ⟨reason, rfl⟩

/-- A chain whose path is free and whose previous value is missing or another one is in conflict. -/
theorem on_apply_ofPath_of_conflicts {d : Members} {p : PropertyPath} {op : PatchLeaf}
    (hfree : ¬Blocked d p) (h : op.Conflicts ((Json.object d).at? p.names)) (key : String) :
    ∃ reason, (((ofPath p op).apply key).on d).1 = .error (.concurrency key reason) := by
  obtain ⟨members, created, after, hfound, hrun, _⟩ := on_apply_ofPath_of_not_blocked hfree key op
  rw [← hfound] at h
  obtain ⟨reason, hconflict⟩ := PatchLeaf.on_apply_of_conflicts h key
  rw [hrun, hconflict]
  exact ⟨reason, rfl⟩

/-- A chain that nothing speaks against succeeds, and leaves its result at its path. -/
theorem on_apply_ofPath_of_applicable {d : Members} {p : PropertyPath} {op : PatchLeaf}
    (hfree : ¬Blocked d p) (hadd : ¬op.Unaddable ((Json.object d).at? p.names))
    (hprev : ¬op.Conflicts ((Json.object d).at? p.names)) (key : String) :
    ∃ modified after, ((ofPath p op).apply key).on d = (.ok modified, after) ∧
      UpdatedAt p (op.result ((Json.object d).at? p.names)) d after := by
  obtain ⟨members, created, after, hfound, hrun, hupdated⟩ :=
    on_apply_ofPath_of_not_blocked hfree key op
  rw [← hfound] at hadd hprev
  obtain ⟨modified, left, hleaf, hresult⟩ := PatchLeaf.on_apply_of_applicable hadd hprev key
  rw [hleaf] at hrun hupdated
  rw [hresult, hfound] at hupdated
  exact ⟨modified || created, after, hrun, hupdated⟩

/-- **A chain is one update at its path.**  It is refused just when the way to the path is blocked,
or it adds to what is no array.  It is in conflict just when the way is free, and the previous value
is missing or another one.  Otherwise it succeeds, and the document that it leaves is the old one
with the result of the operation at the path. -/
theorem apply_ofPath_updates (key : String) (d : Members) (p : PropertyPath) (op : PatchLeaf) :
    let found := (Json.object d).at? p.names
    let outcome := ((ofPath p op).apply key).on d
    ((∃ reason, outcome.1 = .error (.backend reason)) ↔ Blocked d p ∨ op.Unaddable found) ∧
    ((∃ reason, outcome.1 = .error (.concurrency key reason)) ↔
      ¬Blocked d p ∧ op.Conflicts found) ∧
    (¬(Blocked d p ∨ op.Unaddable found) ∧ ¬op.Conflicts found →
      ∃ modified after, outcome = (.ok modified, after) ∧
        UpdatedAt p (op.result found) d after) := by
  intro found outcome
  by_cases hrefused : Blocked d p ∨ op.Unaddable found
  · obtain ⟨reason, hrun⟩ := on_apply_ofPath_of_refused hrefused key
    have hrun : outcome.1 = .error (.backend reason) := hrun
    refine ⟨iff_of_true ⟨reason, hrun⟩ hrefused, iff_of_false ?_ ?_, fun h => absurd hrefused h.1⟩
    · rintro ⟨other, h⟩
      cases hrun.symm.trans h
    · rintro ⟨hfree, hconflicts⟩
      exact (hrefused.resolve_left hfree).not_conflicts hconflicts
  · have hfree : ¬Blocked d p := fun h => hrefused (Or.inl h)
    by_cases hconflicts : op.Conflicts found
    · obtain ⟨reason, hrun⟩ := on_apply_ofPath_of_conflicts hfree hconflicts key
      have hrun : outcome.1 = .error (.concurrency key reason) := hrun
      refine ⟨iff_of_false ?_ hrefused, iff_of_true ⟨reason, hrun⟩ ⟨hfree, hconflicts⟩,
        fun h => absurd hconflicts h.2⟩
      rintro ⟨other, h⟩
      cases hrun.symm.trans h
    · have hadd : ¬op.Unaddable found := fun h => hrefused (Or.inr h)
      obtain ⟨modified, after, hrun, hupdated⟩ :=
        on_apply_ofPath_of_applicable hfree hadd hconflicts key
      have hrun : outcome = (.ok modified, after) := hrun
      refine ⟨iff_of_false ?_ hrefused, iff_of_false ?_ fun h => hconflicts h.2,
        fun _ => ⟨modified, after, hrun, hupdated⟩⟩
      · rintro ⟨reason, h⟩
        rw [hrun] at h
        cases h
      · rintro ⟨reason, h⟩
        rw [hrun] at h
        cases h

end PatchNode

end PatchStore
