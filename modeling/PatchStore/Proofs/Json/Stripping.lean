import PatchStore.Serializer

/-!
# Dropping nulls commutes with paths

The nulls of a document may be dropped in the whole document, or in the value that a path leads to:
the one leads to the other.  Only a path to a `null` leads nowhere once the nulls are dropped.

This needs documents whose objects are in order at every depth, since in any other list of members a
second member could come to light once the first of its name is dropped.  The serializer makes no
others.

* `Json.InOrder` — the objects inside a value are in order.
* `Datum.inOrder_of_toJson`, `Datum.toJson_ofJson` — what is serialized is in order, and what is in
  order is serialized as it is.
* `Json.at?_append`, `Json.at?_eq_some_object` — a path goes through objects.
* `Json.at?_stripNulls` — where a path leads once nulls are dropped.
* `Serializer.at?_tidy` — what a serializer leaves of a document and of a value in it.
-/

namespace PatchStore

namespace Json

/-- The members of every object in the value stand in the order of their names. -/
inductive InOrder : Json → Prop
  | null : InOrder .null
  | bool {b : Bool} : InOrder (.bool b)
  | number {n : Number} : InOrder (.number n)
  | string {s : String} : InOrder (.string s)
  | array {items : List Json} : (∀ v ∈ items, InOrder v) → InOrder (.array items)
  | object {m : Members} : m.Sorted → (∀ e ∈ m, InOrder e.2) → InOrder (.object m)

/-- Members in order that come from entries in order are an object in order. -/
theorem inOrder_object_ofList {entries : List (String × Json)} (h : ∀ e ∈ entries, InOrder e.2) :
    InOrder (.object (Keyed.ofList entries)) :=
  .object (Keyed.sorted_ofList entries) fun e he => h e (Keyed.mem_ofList he)

/-- A member of an object in order is in order. -/
theorem InOrder.get? {m : Members} (h : InOrder (.object m)) {name : String} {v : Json}
    (hfound : Keyed.get? m name = some v) : v.InOrder := by
  cases h with
  | object _ hmembers => exact hmembers _ (Keyed.mem_of_get? hfound)

end Json

namespace Datum

mutual

/-- What is serialized is in order. -/
theorem inOrder_of_toJson : (d : Datum) → {v : Json} → d.toJson = .ok v → v.InOrder
  | .null, _, h => by
    cases h
    exact .null
  | .bool _, _, h => by
    cases h
    exact .bool
  | .integer n, _, h => by
    rw [toJson] at h
    split at h
    · cases h
      exact .number
    · cases h
  | .float (some _), _, h => by
    cases h
    exact .number
  | .float none, _, h => by
    cases h
    exact .null
  | .string _, _, h => by
    cases h
    exact .string
  | .list items, _, h => by
    rcases hitems : itemsToJson items with e | vs
    · rw [toJson, hitems] at h
      cases h
    · rw [toJson, hitems] at h
      cases h
      exact .array (inOrder_of_itemsToJson items hitems)
  | .record fields, _, h => by
    rcases hfields : fieldsToJson fields with e | members
    · rw [toJson, hfields] at h
      cases h
    · rw [toJson, hfields] at h
      cases h
      exact Json.inOrder_object_ofList (inOrder_of_fieldsToJson fields hfields)
  | .map entries, _, h => by
    rcases hentries : entriesToJson entries with e | members
    · rw [toJson, hentries] at h
      cases h
    · rw [toJson, hentries] at h
      cases h
      exact Json.inOrder_object_ofList (inOrder_of_entriesToJson entries hentries)

theorem inOrder_of_itemsToJson : (items : List Datum) → {vs : List Json} →
    itemsToJson items = .ok vs → ∀ v ∈ vs, v.InOrder
  | [], _, h => by
    cases h
    exact nofun
  | x :: xs, _, h => by
    rcases hx : toJson x with e | w
    · rw [itemsToJson, hx] at h
      cases h
    · rcases hxs : itemsToJson xs with e | ws
      · rw [itemsToJson, hx, hxs] at h
        cases h
      · rw [itemsToJson, hx, hxs] at h
        cases h
        exact List.forall_mem_cons.mpr
          ⟨inOrder_of_toJson x hx, inOrder_of_itemsToJson xs hxs⟩

theorem inOrder_of_fieldsToJson : (fields : List (String × Datum)) →
    {members : List (String × Json)} → fieldsToJson fields = .ok members →
    ∀ e ∈ members, e.2.InOrder
  | [], _, h => by
    cases h
    exact nofun
  | (_, x) :: xs, _, h => by
    rcases hx : toJson x with e | w
    · rw [fieldsToJson, hx] at h
      cases h
    · rcases hxs : fieldsToJson xs with e | ws
      · rw [fieldsToJson, hx, hxs] at h
        cases h
      · rw [fieldsToJson, hx, hxs] at h
        cases h
        exact List.forall_mem_cons.mpr
          ⟨inOrder_of_toJson x hx, inOrder_of_fieldsToJson xs hxs⟩

theorem inOrder_of_entriesToJson : (entries : List (Datum × Datum)) →
    {members : List (String × Json)} → entriesToJson entries = .ok members →
    ∀ e ∈ members, e.2.InOrder
  | [], _, h => by
    cases h
    exact nofun
  | (key, x) :: xs, _, h => by
    rcases hkey : key.keyName? with _ | name
    · rw [entriesToJson, hkey] at h
      cases h
    · rcases hx : toJson x with e | w
      · rw [entriesToJson, hkey, hx] at h
        cases h
      · rcases hxs : entriesToJson xs with e | ws
        · rw [entriesToJson, hkey, hx, hxs] at h
          cases h
        · rw [entriesToJson, hkey, hx, hxs] at h
          cases h
          exact List.forall_mem_cons.mpr
            ⟨inOrder_of_toJson x hx, inOrder_of_entriesToJson xs hxs⟩

end

/-- Items that are their own JSON forms are so as a list. -/
theorem itemsToJson_ofItems {items : List Json} (h : ∀ v ∈ items, (ofJson v).toJson = .ok v) :
    itemsToJson (ofItems items) = .ok items := by
  induction items with
  | nil => rfl
  | cons v items ih =>
    obtain ⟨hfirst, hrest⟩ := List.forall_mem_cons.mp h
    rw [ofItems, itemsToJson, hfirst, ih hrest]
    rfl

/-- Members that are their own JSON forms are so as fields. -/
theorem fieldsToJson_ofMembers {m : Members} (h : ∀ e ∈ m, (ofJson e.2).toJson = .ok e.2) :
    fieldsToJson (ofMembers m) = .ok m := by
  induction m with
  | nil => rfl
  | cons e m ih =>
    obtain ⟨hfirst, hrest⟩ := List.forall_mem_cons.mp h
    rw [ofMembers, fieldsToJson, hfirst, ih hrest]
    rfl

/-- A value in order is its own JSON form. -/
theorem toJson_ofJson {v : Json} (h : v.InOrder) : (ofJson v).toJson = .ok v := by
  induction h with
  | null => rfl
  | bool => rfl
  | @number n =>
    cases n with
    | integer n hn =>
      rw [ofJson, toJson, Number.ofInt?, dif_pos hn]
    | float x => rfl
  | string => rfl
  | array _ ih =>
    rw [ofJson, toJson, itemsToJson_ofItems ih]
    rfl
  | object hsorted _ ih =>
    rw [ofJson, toJson, fieldsToJson_ofMembers ih]
    exact congrArg (fun m => Except.ok (Json.object m)) hsorted.ofList_eq

end Datum

namespace Json

/-! ## Paths -/

/-- No path leads on from what is no object. -/
theorem at?_cons_of_not_object {v : Json} (h : v.object? = none) (name : String)
    (path : List String) : v.at? (name :: path) = none := by
  rw [at?]
  rintro m rfl
  cases h

/-- A path goes on from where its first part leads. -/
theorem at?_append (v : Json) (first rest : List String) :
    v.at? (first ++ rest) = (v.at? first).bind fun w => w.at? rest := by
  induction first generalizing v with
  | nil => rw [List.nil_append, at?_nil, Option.bind_some]
  | cons name first ih =>
    cases hv : v.object? with
    | none =>
      rw [List.cons_append, at?_cons_of_not_object hv, at?_cons_of_not_object hv]
      rfl
    | some m =>
      cases v with
      | object m' =>
        rw [List.cons_append, at?_cons, at?_cons, Option.bind_assoc]
        exact congrArg _ (funext ih)
      | _ => cases hv

/-- Before its end a path leads to objects. -/
theorem at?_eq_some_object {v x : Json} {path q : List String} (h : v.at? path = some x)
    (hbefore : q <+: path) (hproper : q ≠ path) : ∃ m, v.at? q = some (.object m) := by
  obtain ⟨rest, rfl⟩ := hbefore
  rw [at?_append, Option.bind_eq_some_iff] at h
  obtain ⟨w, hw, hrest⟩ := h
  cases rest with
  | nil => exact absurd (List.append_nil q).symm hproper
  | cons name rest =>
    cases w with
    | object m => exact ⟨m, hw⟩
    | _ =>
      rw [at?_cons_of_not_object rfl] at hrest
      cases hrest

/-! ## Items and members -/

/-- Every item is kept. -/
theorem stripItems_eq_map (items : List Json) : stripItems items = items.map stripNulls := by
  induction items with
  | nil => rfl
  | cons v items ih => rw [stripItems, ih, List.map_cons]

/-- Every member is kept if none is `null`. -/
theorem stripMembers_eq_map {m : Members} (h : ∀ e ∈ m, e.2 ≠ .null) :
    stripMembers m = m.map fun e => (e.1, e.2.stripNulls) := by
  induction m with
  | nil => rfl
  | cons e m ih =>
    obtain ⟨hfirst, hrest⟩ := List.forall_mem_cons.mp h
    rw [stripMembers_cons (isNull_eq_false_iff.mpr hfirst), ih hrest, List.map_cons]

/-! ## Paths and nulls -/

/-- A member is there once nulls are dropped if it is there and is not `null`. -/
theorem get?_stripMembers {m : Members} (h : m.Sorted) (name : String) :
    Keyed.get? (stripMembers m) name =
      ((Keyed.get? m name).filter fun v => !v.isNull).map stripNulls := by
  induction m with
  | nil => rfl
  | cons e rest ih =>
    rcases e with ⟨k, v⟩
    obtain ⟨hfirst, hrest⟩ := Keyed.sorted_cons.mp h
    rw [Keyed.get?_cons]
    cases hnull : v.isNull with
    | true =>
      obtain rfl := isNull_iff.mp hnull
      rw [stripMembers_cons_null, ih hrest]
      by_cases hk : k = name
      · -- nothing else stands under the name that is dropped
        subst hk
        rw [if_pos rfl, Keyed.get?_eq_none_of_lt hfirst]
        rfl
      · rw [if_neg hk]
    | false =>
      rw [stripMembers_cons hnull, Keyed.get?_cons]
      by_cases hk : k = name
      · rw [if_pos hk, if_pos hk, Option.filter_some, hnull]
        rfl
      · rw [if_neg hk, if_neg hk, ih hrest]

/-- Once nulls are dropped, a path leads where it led without them, or nowhere if it led to
`null`. -/
theorem at?_stripNulls {v : Json} (h : v.InOrder) (hnull : v.isNull = false) (path : List String) :
    v.stripNulls.at? path = ((v.at? path).filter fun w => !w.isNull).map stripNulls := by
  induction path generalizing v with
  | nil =>
    rw [at?_nil, at?_nil, Option.filter_some, hnull]
    rfl
  | cons name path ih =>
    cases h with
    | @object m hsorted hmembers =>
      show (Json.object (stripMembers m)).at? (name :: path) = _
      rw [at?_cons, at?_cons, get?_stripMembers hsorted]
      cases hfound : Keyed.get? m name with
      | none => rfl
      | some w =>
        cases hw : w.isNull with
        | false =>
          rw [Option.filter_some, hw]
          exact ih (hmembers _ (Keyed.mem_of_get? hfound)) hw
        | true =>
          obtain rfl := isNull_iff.mp hw
          cases path with
          | nil =>
            rw [Option.bind_some, at?_nil]
            rfl
          | cons n path =>
            rw [Option.bind_some, at?_null]
            rfl
    | _ =>
      rw [at?_cons_of_not_object rfl, at?_cons_of_not_object rfl]
      rfl

end Json

/-! ## The settings of the serializer -/

namespace Serializer

/-- What the settings leave of a JSON form. -/
def tidy (s : Serializer) (v : Json) : Json := if s.ignoreNulls then v.stripNulls else v

theorem toJson_of_ok (s : Serializer) {d : Datum} {v : Json} (h : d.toJson = .ok v) :
    s.toJson d = .ok (s.tidy v) := by
  rw [toJson, h]
  rfl

@[simp] theorem tidy_null (s : Serializer) : s.tidy .null = .null := ite_self _

theorem tidy_object (s : Serializer) (m : Members) : ∃ m', s.tidy (.object m) = .object m' := by
  by_cases h : s.ignoreNulls = true
  · exact ⟨Json.stripMembers m, if_pos h⟩
  · exact ⟨m, if_neg h⟩

/-- Tidying a document and tidying the value at a path come to the same. -/
theorem at?_tidy (s : Serializer) {v x : Json} (hordered : v.InOrder) (hnull : v ≠ .null)
    {path : List String} (hat : v.at? path = some x) (hx : x ≠ .null) :
    (s.tidy v).at? path = some (s.tidy x) := by
  by_cases h : s.ignoreNulls = true
  · have hv : v.isNull = false := Json.isNull_eq_false_iff.mpr hnull
    have hfound : x.isNull = false := Json.isNull_eq_false_iff.mpr hx
    have hstripped : v.stripNulls.at? path = some x.stripNulls := by
      rw [Json.at?_stripNulls hordered hv, hat, Option.filter_some, hfound]
      rfl
    rw [tidy, tidy, if_pos h, if_pos h]
    exact hstripped
  · rw [tidy, tidy, if_neg h, if_neg h]
    exact hat

end Serializer

end PatchStore
