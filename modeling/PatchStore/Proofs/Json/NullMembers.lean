import PatchStore.Proofs.Json.Stripping

/-!
# What is left when nulls are dropped

Dropping nulls takes from a value the object members that are `null`, at every depth, and nothing
else.  Arrays keep all their items, also those that are `null`.

What is left is told by the paths of a value.  A path goes to members by their names and to items by
their positions.  The paths of the result are those paths of the value that come by no member that is
`null`, and each leads to what is left of the value that it led to.

* `Json.NullFree` — no object member in a value is `null`.
* `Json.nullFree_stripNulls`, `Json.stripNulls_eq_self_iff` — such values are left, and they are the
  ones that are left as they are.
* `Json.along?`, `Json.AvoidsNullMembers` — where a path leads, and what it comes by.
* `Json.along?_stripNulls_eq_some_iff` — the paths of the result.
* `Serializer.drops_null_members` — all of this for the serializer that drops nulls.
-/

namespace PatchStore

namespace Json

/-! ## Values without null members -/

/-- No object member in the value is `null`, at any depth. -/
inductive NullFree : Json → Prop
  | null : NullFree .null
  | bool {b : Bool} : NullFree (.bool b)
  | number {n : Number} : NullFree (.number n)
  | string {s : String} : NullFree (.string s)
  | array {items : List Json} : (∀ v ∈ items, NullFree v) → NullFree (.array items)
  | object {m : Members} : (∀ e ∈ m, e.2 ≠ .null) → (∀ e ∈ m, NullFree e.2) →
      NullFree (.object m)

theorem stripNulls_eq_null_iff {v : Json} : v.stripNulls = .null ↔ v = .null := by
  rw [← isNull_iff, ← isNull_iff, stripNulls_isNull]

mutual

/-- No member that is `null` is left, and dropping nulls inside the others makes none `null`. -/
theorem nullFree_stripNulls : (v : Json) → v.stripNulls.NullFree
  | .null => .null
  | .bool _ => .bool
  | .number _ => .number
  | .string _ => .string
  | .array items => .array (nullFree_of_mem_stripItems items)
  | .object m =>
    .object (fun e he => (nullFree_of_mem_stripMembers m e he).1)
      (fun e he => (nullFree_of_mem_stripMembers m e he).2)

theorem nullFree_of_mem_stripItems : (items : List Json) → ∀ w ∈ stripItems items, w.NullFree
  | [] => by simp [stripItems]
  | v :: items =>
    List.forall_mem_cons.mpr ⟨nullFree_stripNulls v, nullFree_of_mem_stripItems items⟩

theorem nullFree_of_mem_stripMembers :
    (m : List (String × Json)) → ∀ e ∈ stripMembers m, e.2 ≠ .null ∧ e.2.NullFree
  | [] => by simp [stripMembers]
  | (name, v) :: m => by
    have hrest := nullFree_of_mem_stripMembers m
    cases hv : v.isNull with
    | true =>
      rw [isNull_iff.mp hv, stripMembers_cons_null]
      exact hrest
    | false =>
      rw [stripMembers_cons hv]
      have hkept : v.stripNulls ≠ .null := mt stripNulls_eq_null_iff.mp (isNull_eq_false_iff.mp hv)
      exact List.forall_mem_cons.mpr ⟨⟨hkept, nullFree_stripNulls v⟩, hrest⟩

end

/-- The values without null members are those that are left as they are. -/
theorem stripNulls_eq_self_iff {v : Json} : v.stripNulls = v ↔ v.NullFree := by
  constructor
  · intro h
    exact h ▸ nullFree_stripNulls v
  · intro h
    induction h with
    | array _ ih =>
      rw [stripNulls, stripItems_eq_map, List.map_congr_left ih, List.map_id']
    | @object m hm _ ih =>
      have hsame : ∀ e ∈ m, (e.1, e.2.stripNulls) = e := fun e he => Prod.ext rfl (ih e he)
      rw [stripNulls, stripMembers_eq_map hm, List.map_congr_left hsame, List.map_id']
    | _ => rfl

/-! ## Paths through objects and arrays -/

/-- A step of a path: to the member of a name, or to the item at a position. -/
inductive Step where
  | member (name : String)
  | item (position : Nat)

/-- Where a step leads. -/
def step? : Json → Step → Option Json
  | .object m, .member name => Keyed.get? m name
  | .array items, .item i => items[i]?
  | _, _ => none

/-- Where a path leads, through objects and through arrays. -/
def along? : Json → List Step → Option Json
  | v, [] => some v
  | v, s :: path => (v.step? s).bind fun w => w.along? path

@[simp] theorem along?_nil (v : Json) : v.along? [] = some v := rfl

theorem along?_cons (v : Json) (s : Step) (path : List Step) :
    v.along? (s :: path) = (v.step? s).bind fun w => w.along? path := rfl

/-- A step leads from a value in order to a value in order. -/
theorem InOrder.step? {v w : Json} (h : v.InOrder) {s : Step} (hs : v.step? s = some w) :
    w.InOrder := by
  cases h with
  | object hsorted hmembers =>
    cases s with
    | member name => exact hmembers _ (Keyed.mem_of_get? hs)
    | item i => cases hs
  | array hitems =>
    cases s with
    | member name => cases hs
    | item i => exact hitems w (List.mem_of_getElem? hs)
  | _ => cases s <;> cases hs

/-- The path comes by no object member that is `null`, its end included. -/
def AvoidsNullMembers (v : Json) (path : List Step) : Prop :=
  ∀ before name, before ++ [.member name] <+: path →
    v.along? (before ++ [.member name]) ≠ some .null

theorem avoidsNullMembers_nil (v : Json) : v.AvoidsNullMembers [] := by
  intro before name h
  have hempty := List.prefix_nil.mp h
  simp at hempty

/-- Where a step leads, it leads to no null member. -/
def Step.keeps : Step → Json → Bool
  | .member _, w => !w.isNull
  | .item _, _ => true

/-- A path avoids null members if its first step and the rest of it do. -/
theorem avoidsNullMembers_cons {v w : Json} {s : Step} (hs : v.step? s = some w)
    (path : List Step) :
    v.AvoidsNullMembers (s :: path) ↔ s.keeps w = true ∧ w.AvoidsNullMembers path := by
  constructor
  · intro h
    refine ⟨?_, fun before name hbefore => ?_⟩
    · cases s with
      | item i => rfl
      | member name =>
        have hfirst := h [] name (List.prefix_append [Step.member name] path)
        rw [List.nil_append, along?_cons, hs] at hfirst
        simpa [Step.keeps, isNull_eq_false_iff] using hfirst
    · have hlater := h (s :: before) name (List.cons_prefix_cons.mpr ⟨rfl, hbefore⟩)
      rwa [List.cons_append, along?_cons, hs] at hlater
  · rintro ⟨hfirst, hrest⟩ before name hbefore
    cases before with
    | nil =>
      obtain ⟨rfl, _⟩ := List.cons_prefix_cons.mp hbefore
      rw [List.nil_append, along?_cons, hs]
      simpa [Step.keeps, isNull_eq_false_iff] using hfirst
    | cons s' before =>
      obtain ⟨rfl, hlater⟩ := List.cons_prefix_cons.mp hbefore
      rw [List.cons_append, along?_cons, hs]
      exact hrest before name hlater

/-- A path that goes on from `null` goes nowhere. -/
theorem eq_null_of_along?_null {path : List Step} {w : Json} (h : Json.null.along? path = some w) :
    w = .null := by
  cases path with
  | nil => exact (Option.some.inj h).symm
  | cons s path => cases h

/-- A path to a value that is not `null` comes by no null member. -/
theorem avoidsNullMembers_of_along? {v w : Json} {path : List Step} (h : v.along? path = some w)
    (hw : w ≠ .null) : v.AvoidsNullMembers path := by
  induction path generalizing v with
  | nil => exact avoidsNullMembers_nil v
  | cons s path ih =>
    obtain ⟨u, hs, hu⟩ := Option.bind_eq_some_iff.mp h
    have hnull : u ≠ .null := by
      rintro rfl
      exact hw (eq_null_of_along?_null hu)
    refine (avoidsNullMembers_cons hs path).mpr ⟨?_, ih hu⟩
    cases s with
    | member name => simpa [Step.keeps, isNull_eq_false_iff] using hnull
    | item i => rfl

/-! ## Paths and nulls -/

/-- Once nulls are dropped, a step leads to what is left of the value that it led to, unless that
was a null member. -/
theorem step?_stripNulls {v : Json} (h : v.InOrder) (s : Step) :
    v.stripNulls.step? s = ((v.step? s).filter s.keeps).map stripNulls := by
  cases h with
  | @object m hsorted hmembers =>
    cases s with
    | member name => exact get?_stripMembers hsorted name
    | item i => rfl
  | @array items hitems =>
    cases s with
    | member name => rfl
    | item i =>
      show (stripItems items)[i]? = (items[i]?.filter fun _ => true).map stripNulls
      rw [stripItems_eq_map, List.getElem?_map]
      cases items[i]? <;> rfl
  | _ => cases s <;> rfl

/-- **The paths of the result.**  They are the paths of the value that avoid null members, and each
leads to what is left of the value that it led to. -/
theorem along?_stripNulls_eq_some_iff {v : Json} (h : v.InOrder) (path : List Step) (u : Json) :
    v.stripNulls.along? path = some u ↔
      v.AvoidsNullMembers path ∧ ∃ w, v.along? path = some w ∧ w.stripNulls = u := by
  induction path generalizing v with
  | nil => simp [avoidsNullMembers_nil]
  | cons s path ih =>
    rw [along?_cons, along?_cons, step?_stripNulls h]
    cases hs : v.step? s with
    | none => simp
    | some w =>
      rw [avoidsNullMembers_cons hs, Option.filter_some]
      cases hkept : s.keeps w with
      | false => simp
      | true => simpa [hkept] using ih (h.step? hs)

/-- An array stays where it is, with its length and its order, and the same items are `null`. -/
theorem along?_stripNulls_array {v : Json} (h : v.InOrder) {path : List Step} {items : List Json}
    (hpath : v.along? path = some (.array items)) :
    ∃ kept : List Json, v.stripNulls.along? path = some (.array kept) ∧
      kept.length = items.length ∧
      ∀ i : Nat, kept[i]? = items[i]?.map stripNulls ∧
        (kept[i]? = some Json.null ↔ items[i]? = some Json.null) := by
  have hfound : v.stripNulls.along? path = some (.array (stripItems items)) :=
    (along?_stripNulls_eq_some_iff h path _).mpr
      ⟨avoidsNullMembers_of_along? hpath Json.noConfusion, _, hpath, rfl⟩
  rw [stripItems_eq_map] at hfound
  refine ⟨items.map stripNulls, hfound, List.length_map _, fun i => ?_⟩
  rw [List.getElem?_map]
  refine ⟨rfl, ?_⟩
  cases items[i]? with
  | none => simp
  | some w => simp [stripNulls_eq_null_iff]

end Json

/-- **What a serializer leaves that drops nulls.**  No object member that is `null` is left, at any
depth; the values without such members, and no others, stay as they are, and so a second time does
nothing.  Arrays keep their length, the order of their items and those that are `null`.  The result
has the paths of the value that come by no null member, and no others, and each leads to what is left
of the value that it led to. -/
theorem Serializer.drops_null_members {v : Json} (h : v.InOrder) :
    ({ ignoreNulls := true } : Serializer).toJson (.ofJson v) = .ok v.stripNulls ∧
    v.stripNulls.NullFree ∧
    (v.stripNulls = v ↔ v.NullFree) ∧
    v.stripNulls.stripNulls = v.stripNulls ∧
    (∀ path items, v.along? path = some (.array items) →
      ∃ kept : List Json, v.stripNulls.along? path = some (.array kept) ∧
        kept.length = items.length ∧
        ∀ i : Nat, kept[i]? = items[i]?.map Json.stripNulls ∧
          (kept[i]? = some Json.null ↔ items[i]? = some Json.null)) ∧
    (∀ path u, v.stripNulls.along? path = some u ↔
      v.AvoidsNullMembers path ∧ ∃ w, v.along? path = some w ∧ w.stripNulls = u) := by
  have hserialized : ({ ignoreNulls := true } : Serializer).toJson (.ofJson v) = .ok v.stripNulls :=
    Serializer.toJson_of_ok _ (Datum.toJson_ofJson h)
  exact ⟨hserialized, Json.nullFree_stripNulls v, Json.stripNulls_eq_self_iff,
    Json.stripNulls_idem v, fun _ _ => Json.along?_stripNulls_array h,
    Json.along?_stripNulls_eq_some_iff h⟩

/-- An object with null members at two depths, and an array with an item that is `null`. -/
def nestedNulls : Json :=
  .object [("a", .bool true), ("b", .null),
    ("c", .object [("d", .null), ("e", .array [.object [("f", .null)], .null])])]

/-- The null item is found where it was, and the null members are gone. -/
theorem nulls_left_in_nested : nestedNulls.InOrder ∧
    ({ ignoreNulls := true } : Serializer).toJson (.ofJson nestedNulls) =
      .ok (.object [("a", .bool true), ("c", .object [("e", .array [.object [], .null])])]) ∧
    nestedNulls.stripNulls.along? [.member "c", .member "e", .item 1] = some .null ∧
    nestedNulls.stripNulls.along? [.member "c", .member "e", .item 0, .member "f"] = none := by
  have h : nestedNulls.InOrder := Datum.inOrder_of_toJson (.ofJson nestedNulls) rfl
  obtain ⟨hserialized, _, _, _, _, hpaths⟩ := Serializer.drops_null_members h
  have hitem : nestedNulls.AvoidsNullMembers [.member "c", .member "e", .item 1] := by
    rw [Json.avoidsNullMembers_cons rfl, Json.avoidsNullMembers_cons rfl,
      Json.avoidsNullMembers_cons rfl]
    exact ⟨rfl, rfl, rfl, Json.avoidsNullMembers_nil _⟩
  have hmember : ¬nestedNulls.AvoidsNullMembers [.member "c", .member "e", .item 0, .member "f"] :=
    fun havoids => havoids [.member "c", .member "e", .item 0] "f" (List.prefix_refl _) rfl
  refine ⟨h, hserialized, (hpaths _ _).mpr ⟨hitem, .null, rfl, rfl⟩, ?_⟩
  rw [Option.eq_none_iff_forall_ne_some]
  exact fun u hu => hmember ((hpaths _ u).mp hu).1

end PatchStore
