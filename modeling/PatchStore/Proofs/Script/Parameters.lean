import Mathlib.Data.List.Induction
import Mathlib.Data.List.Nodup
import PatchStore.Proofs.Json.Stripping
import PatchStore.Script.Basic

/-!
# Two ways of giving parameters to a script

Parameters are given as pairs of a name and a value, which are taken one after the other, or as the
fields of one value, which is serialized as a whole.  What the command holds in the end does not depend
on which way is taken, nor on the order of the pairs.

Pairs with values that can be serialized fail for one reason only: a name repeats an earlier one.  The
invariant of the loop is that the values so far are those of the pairs so far, in the order of their
names.

* `FirstRepeat` — the first name of a list that repeats an earlier one.
* `Datum.fieldsToJson_cons_eq_ok`, `Datum.fieldsToJson_of_perm` — what pairs become as members.
* `pairValues_of_fresh`, `pairValues_append`, `values_of_firstRepeat`, `values_eq_ok_iff` — the loop over
  pairs.
* `Serializer.tidy_object_of_kept` — the fields of a value none of whose fields is dropped.
* `ScriptCommand.create_of_parameters` — both ways.
-/

namespace PatchStore

/-! ## Names that repeat -/

/-- Of the names of a list this is the first that repeats an earlier one. -/
def FirstRepeat (names : List String) (name : String) : Prop :=
  ∃ before after, names = before ++ name :: after ∧ before.Nodup ∧ name ∈ before

theorem exists_firstRepeat {names : List String} (h : ¬names.Nodup) :
    ∃ name, FirstRepeat names name := by
  induction names using List.reverseRecOn with
  | nil => exact absurd List.nodup_nil h
  | append_singleton names last ih =>
    by_cases hnodup : names.Nodup
    · -- the last name is the only one that can repeat another
      have hmem : last ∈ names := by
        refine Decidable.byContradiction fun hnew => h ?_
        rw [← List.concat_eq_append]
        exact List.Nodup.concat hnew hnodup
      exact ⟨last, names, [], rfl, hnodup, hmem⟩
    · obtain ⟨name, before, after, rfl, hbefore, hmem⟩ := ih hnodup
      exact ⟨name, before, after ++ [last], by simp, hbefore, hmem⟩

/-- Names one of which repeats an earlier one are not all different. -/
theorem not_nodup_of_mem {name : String} {before : List String} (h : name ∈ before)
    (after : List String) : ¬(before ++ name :: after).Nodup := fun hnodup =>
  (List.nodup_append.mp hnodup).2.2 name h name List.mem_cons_self rfl

/-- A list has at most one first name that repeats an earlier one. -/
theorem FirstRepeat.unique {names : List String} {a b : String} (ha : FirstRepeat names a)
    (hb : FirstRepeat names b) : a = b := by
  obtain ⟨before, after, hnames, hbefore, hmem⟩ := ha
  obtain ⟨before', after', rfl, hbefore', hmem'⟩ := hb
  -- if one of the two stands before the other, it repeats a name among different names
  rcases List.append_eq_append_iff.mp hnames with ⟨between, rfl, hrest⟩ | ⟨between, rfl, hrest⟩
  · cases between with
    | nil =>
      cases hrest
      rfl
    | cons first between =>
      cases hrest
      exact absurd hbefore (not_nodup_of_mem hmem' between)
  · cases between with
    | nil =>
      cases hrest
      rfl
    | cons first between =>
      cases hrest
      exact absurd hbefore' (not_nodup_of_mem hmem between)

/-! ## Pairs as members -/

/-- One step after another succeeds if both succeed. -/
theorem bind_eq_ok_iff {ε α β : Type} {x : Except ε α} {f : α → Except ε β} {b : β} :
    (x >>= f) = .ok b ↔ ∃ a, x = .ok a ∧ f a = .ok b := by
  constructor
  · intro h
    rcases x with e | a
    · cases h
    · exact ⟨a, rfl, h⟩
  · rintro ⟨a, rfl, h⟩
    exact h

namespace Datum

/-- The members that pairs become, one by one. -/
theorem fieldsToJson_cons_eq_ok {name : String} {d : Datum} {ps : List (String × Datum)}
    {es : List (String × Json)} :
    fieldsToJson ((name, d) :: ps) = .ok es ↔
      ∃ v vs, d.toJson = .ok v ∧ fieldsToJson ps = .ok vs ∧ es = (name, v) :: vs := by
  rw [fieldsToJson, bind_eq_ok_iff]
  constructor
  · rintro ⟨v, hv, hrest⟩
    obtain ⟨vs, hvs, heq⟩ := bind_eq_ok_iff.mp hrest
    exact ⟨v, vs, hv, hvs, (Except.ok.inj heq).symm⟩
  · rintro ⟨v, vs, hv, hvs, rfl⟩
    exact ⟨v, hv, bind_eq_ok_iff.mpr ⟨vs, hvs, rfl⟩⟩

/-- Pairs become members if each value has a JSON form. -/
theorem exists_fieldsToJson {ps : List (String × Datum)} (h : ∀ p ∈ ps, ∃ v, p.2.toJson = .ok v) :
    ∃ es, fieldsToJson ps = .ok es := by
  induction ps with
  | nil => exact ⟨[], rfl⟩
  | cons p ps ih =>
    obtain ⟨⟨v, hv⟩, hrest⟩ := List.forall_mem_cons.mp h
    obtain ⟨vs, hvs⟩ := ih hrest
    exact ⟨(p.1, v) :: vs, fieldsToJson_cons_eq_ok.mpr ⟨v, vs, hv, hvs, rfl⟩⟩

/-- Members have the names of the pairs that they come from. -/
theorem names_of_fieldsToJson {ps : List (String × Datum)} {es : List (String × Json)}
    (h : fieldsToJson ps = .ok es) : es.map Prod.fst = ps.map Prod.fst := by
  induction ps generalizing es with
  | nil =>
    cases h
    rfl
  | cons p ps ih =>
    obtain ⟨v, vs, _, hvs, rfl⟩ := fieldsToJson_cons_eq_ok.mp h
    rw [List.map_cons, List.map_cons, ih hvs]

/-- Members are the JSON forms of the pairs. -/
theorem mem_of_fieldsToJson {ps : List (String × Datum)} {es : List (String × Json)}
    (h : fieldsToJson ps = .ok es) (name : String) (v : Json) :
    (name, v) ∈ es ↔ ∃ d, (name, d) ∈ ps ∧ d.toJson = .ok v := by
  induction ps generalizing es with
  | nil =>
    cases h
    simp
  | cons p ps ih =>
    obtain ⟨w, vs, hw, hvs, rfl⟩ := fieldsToJson_cons_eq_ok.mp h
    rw [List.mem_cons, ih hvs]
    constructor
    · rintro (heq | ⟨d, hmem, hd⟩)
      · cases heq
        exact ⟨p.2, List.mem_cons_self, hw⟩
      · exact ⟨d, List.mem_cons_of_mem p hmem, hd⟩
    · rintro ⟨d, hmem, hd⟩
      rcases List.mem_cons.mp hmem with rfl | hmem
      · cases hw.symm.trans hd
        exact Or.inl rfl
      · exact Or.inr ⟨d, hmem, hd⟩

/-- Pairs in another order become the same members in another order. -/
theorem fieldsToJson_of_perm {ps qs : List (String × Datum)} (h : qs.Perm ps)
    {es : List (String × Json)} (hps : fieldsToJson ps = .ok es) :
    ∃ fs, fieldsToJson qs = .ok fs ∧ fs.Perm es := by
  induction h generalizing es with
  | nil => exact ⟨es, hps, List.Perm.refl es⟩
  | @cons p qs ps _ ih =>
    obtain ⟨v, vs, hv, hvs, rfl⟩ := fieldsToJson_cons_eq_ok.mp hps
    obtain ⟨ws, hws, hperm⟩ := ih hvs
    exact ⟨(p.1, v) :: ws, fieldsToJson_cons_eq_ok.mpr ⟨v, ws, hv, hws, rfl⟩, hperm.cons _⟩
  | swap p q ps =>
    obtain ⟨v, vs, hv, hvs, rfl⟩ := fieldsToJson_cons_eq_ok.mp hps
    obtain ⟨w, ws, hw, hws, rfl⟩ := fieldsToJson_cons_eq_ok.mp hvs
    have hswapped : fieldsToJson (q :: p :: ps) = .ok ((q.1, w) :: (p.1, v) :: ws) :=
      fieldsToJson_cons_eq_ok.mpr
        ⟨w, _, hw, fieldsToJson_cons_eq_ok.mpr ⟨v, ws, hv, hws, rfl⟩, rfl⟩
    exact ⟨_, hswapped, List.Perm.swap _ _ _⟩
  | trans _ _ ih₁ ih₂ =>
    obtain ⟨gs, hgs, hperm⟩ := ih₂ hps
    obtain ⟨fs, hfs, hperm'⟩ := ih₁ hgs
    exact ⟨fs, hfs, hperm'.trans hperm⟩

end Datum

namespace Serializer

/-- The members that a serializer makes of members. -/
def tidyMembers (s : Serializer) (m : List (String × Json)) : List (String × Json) :=
  m.map fun e => (e.1, s.tidy e.2)

theorem names_of_tidyMembers (s : Serializer) (m : List (String × Json)) :
    (s.tidyMembers m).map Prod.fst = m.map Prod.fst := by
  rw [tidyMembers, List.map_map]
  rfl

/-- Of an object every field is kept if none is to be dropped. -/
theorem tidy_object_of_kept (s : Serializer) {m : Members}
    (h : s.ignoreNulls = true → ∀ e ∈ m, e.2 ≠ .null) :
    s.tidy (.object m) = .object (s.tidyMembers m) := by
  by_cases hs : s.ignoreNulls = true
  · have htidy : s.tidy = Json.stripNulls := funext fun v => if_pos hs
    rw [tidyMembers, htidy, ← Json.stripMembers_eq_map (h hs)]
    rfl
  · have htidy : s.tidy = id := funext fun v => if_neg hs
    rw [tidyMembers, htidy]
    exact congrArg Json.object (List.map_id' m).symm

/-- A value is serialized by its JSON form and the settings. -/
theorem toJson_eq_ok {s : Serializer} {d : Datum} {v : Json} :
    s.toJson d = .ok v ↔ ∃ w, d.toJson = .ok w ∧ s.tidy w = v := by
  rw [toJson, bind_eq_ok_iff]
  exact exists_congr fun w => and_congr_right fun _ => ⟨Except.ok.inj, congrArg Except.ok⟩

end Serializer

/-! ## The loop over pairs -/

namespace ScriptParameters

variable {s : Serializer} {ps : List (String × Datum)} {es : List (String × Json)}

/-- What a serializer makes of pairs has the names of the pairs. -/
theorem names_of_tidied (s : Serializer) (hps : Datum.fieldsToJson ps = .ok es) :
    (s.tidyMembers es).map Prod.fst = ps.map Prod.fst :=
  (s.names_of_tidyMembers es).trans (Datum.names_of_fieldsToJson hps)

/-- Pairs whose names are new and do not repeat are all taken. -/
theorem pairValues_of_fresh (hps : Datum.fieldsToJson ps = .ok es)
    (hnodup : (ps.map Prod.fst).Nodup) {values : Members}
    (hfresh : ∀ p ∈ ps, Keyed.contains values p.1 = false) :
    pairValues s values ps = .ok (Keyed.insertAll values (s.tidyMembers es)) := by
  induction ps generalizing values es with
  | nil =>
    cases hps
    rfl
  | cons p ps ih =>
    obtain ⟨v, vs, hv, hvs, rfl⟩ := Datum.fieldsToJson_cons_eq_ok.mp hps
    obtain ⟨hnew, hrest⟩ := List.nodup_cons.mp hnodup
    obtain ⟨hfirst, hlater⟩ := List.forall_mem_cons.mp hfresh
    rw [pairValues_cons, if_neg (by simp [hfirst]), s.toJson_of_ok hv]
    refine ih hvs hrest fun q hq => ?_
    have hne : p.1 ≠ q.1 := fun heq => hnew (heq ▸ List.mem_map_of_mem hq)
    rw [Keyed.contains, Keyed.get?_insert, if_neg hne]
    exact hlater q hq

/-- The loop goes on from the values of the pairs that it has taken. -/
theorem pairValues_append (s : Serializer) (values : Members) (as bs : List (String × Datum)) :
    pairValues s values (as ++ bs) =
      (pairValues s values as).bind fun taken => pairValues s taken bs := by
  induction as generalizing values with
  | nil => rfl
  | cons a as ih =>
    rw [List.cons_append, pairValues_cons, pairValues_cons]
    split
    · rfl
    · rcases s.toJson a.2 with e | v
      · rfl
      · exact ih (Keyed.insert values a.1 v)

/-- Pairs with different names are all taken. -/
theorem values_of_nodup (hps : Datum.fieldsToJson ps = .ok es) (hnodup : (ps.map Prod.fst).Nodup) :
    (pairs ps).values s = .ok (Keyed.ofList (s.tidyMembers es)) :=
  pairValues_of_fresh hps hnodup fun _ _ => rfl

/-- The order of pairs with different names does not matter. -/
theorem values_of_perm (hps : Datum.fieldsToJson ps = .ok es) (hnodup : (ps.map Prod.fst).Nodup)
    {qs : List (String × Datum)} (hperm : qs.Perm ps) :
    (pairs qs).values s = (pairs ps).values s := by
  obtain ⟨fs, hqs, hforms⟩ := Datum.fieldsToJson_of_perm hperm hps
  have hnodup' : (qs.map Prod.fst).Nodup := (hperm.map Prod.fst).nodup_iff.mpr hnodup
  have htidied : (s.tidyMembers fs).Perm (s.tidyMembers es) := hforms.map _
  rw [values_of_nodup hqs hnodup', values_of_nodup hps hnodup,
    Keyed.ofList_eq_of_perm htidied (names_of_tidied s hqs ▸ hnodup')]

/-- The loop stops at the first name that repeats an earlier one. -/
theorem values_of_firstRepeat (hps : ∀ p ∈ ps, ∃ v, p.2.toJson = .ok v) {name : String}
    (h : FirstRepeat (ps.map Prod.fst) name) :
    (pairs ps).values s = .error (.duplicateParameter name) := by
  obtain ⟨before, after, hnames, hnodup, hmem⟩ := h
  obtain ⟨as, bs, rfl, rfl, hbs⟩ := List.map_eq_append_iff.mp hnames
  obtain ⟨p, cs, rfl, rfl, rfl⟩ := List.map_eq_cons_iff.mp hbs
  obtain ⟨es, has⟩ := Datum.exists_fieldsToJson fun q hq => hps q (List.mem_append_left _ hq)
  -- the pairs before have been taken, and the name is among theirs
  have htaken : pairValues s [] as = .ok (Keyed.ofList (s.tidyMembers es)) :=
    values_of_nodup has hnodup
  have hcontains : Keyed.contains (Keyed.ofList (s.tidyMembers es)) p.1 = true := by
    rw [← names_of_tidied s has] at hnodup hmem
    obtain ⟨e, he, hname⟩ := List.mem_map.mp hmem
    have hfound : Keyed.get? (Keyed.ofList (s.tidyMembers es)) e.1 = some e.2 :=
      (Keyed.get?_ofList_eq_some_iff hnodup e.1 e.2).mpr he
    rw [Keyed.contains, ← hname, hfound]
    rfl
  show pairValues s [] (as ++ p :: cs) = _
  rw [pairValues_append, htaken]
  show pairValues s (Keyed.ofList (s.tidyMembers es)) (p :: cs) = _
  rw [pairValues_cons, if_pos hcontains]

/-- Pairs whose names are not all different fail for the first name that repeats an earlier one. -/
theorem values_of_repeat (hps : ∀ p ∈ ps, ∃ v, p.2.toJson = .ok v)
    (h : ¬(ps.map Prod.fst).Nodup) : ∃ name, FirstRepeat (ps.map Prod.fst) name ∧
      (pairs ps).values s = .error (.duplicateParameter name) := by
  obtain ⟨name, hname⟩ := exists_firstRepeat h
  exact ⟨name, hname, values_of_firstRepeat hps hname⟩

/-- Pairs with JSON forms have values just when their names are different. -/
theorem values_eq_ok_iff (hps : ∀ p ∈ ps, ∃ v, p.2.toJson = .ok v)
    (hes : Datum.fieldsToJson ps = .ok es) {values : Members} :
    (pairs ps).values s = .ok values ↔
      (ps.map Prod.fst).Nodup ∧ values = Keyed.ofList (s.tidyMembers es) := by
  constructor
  · intro h
    have hnodup : (ps.map Prod.fst).Nodup := by
      refine Decidable.byContradiction fun hrepeat => ?_
      obtain ⟨name, _, herror⟩ := values_of_repeat hps hrepeat
      cases h.symm.trans herror
    cases h.symm.trans (values_of_nodup hes hnodup)
    exact ⟨hnodup, rfl⟩
  · rintro ⟨hnodup, rfl⟩
    exact values_of_nodup hes hnodup

/-- The values of the parameters of pairs with different names are found under these names. -/
theorem get?_values_of_nodup (hps : Datum.fieldsToJson ps = .ok es)
    (hnodup : (ps.map Prod.fst).Nodup) (name : String) (v : Json) :
    Keyed.get? (Keyed.ofList (s.tidyMembers es)) name = some v ↔
      ∃ d, (name, d) ∈ ps ∧ s.toJson d = .ok v := by
  rw [← names_of_tidied s hps] at hnodup
  rw [Keyed.get?_ofList_eq_some_iff hnodup, Serializer.tidyMembers, List.mem_map]
  constructor
  · rintro ⟨⟨n, w⟩, hmem, heq⟩
    cases heq
    obtain ⟨d, hd, hw⟩ := (Datum.mem_of_fieldsToJson hps n w).mp hmem
    exact ⟨d, hd, s.toJson_of_ok hw⟩
  · rintro ⟨d, hd, hv⟩
    obtain ⟨w, hw, rfl⟩ := Serializer.toJson_eq_ok.mp hv
    exact ⟨(name, w), (Datum.mem_of_fieldsToJson hps name w).mpr ⟨d, hd, hw⟩, rfl⟩

/-- A value all of whose fields are kept gives the values of its fields as pairs, in any order. -/
theorem values_fields_eq_pairs {d : Datum} {m : Members} (hd : d.toJson = .ok (.object m))
    (hkept : s.ignoreNulls = true → ∀ e ∈ m, e.2 ≠ .null) (hps : Datum.fieldsToJson ps = .ok es)
    (hperm : es.Perm m) :
    ∃ values, (fields d).values s = .ok values ∧ (pairs ps).values s = .ok values := by
  have hsorted : m.Sorted := by
    cases Datum.inOrder_of_toJson d hd with
    | object hsorted _ => exact hsorted
  have hnodup : (ps.map Prod.fst).Nodup := by
    rw [← Datum.names_of_fieldsToJson hps]
    exact (hperm.map Prod.fst).nodup_iff.mpr hsorted.nodup
  have hsame : Keyed.ofList (s.tidyMembers es) = s.tidyMembers m := by
    have htidied : (s.tidyMembers es).Perm (s.tidyMembers m) := hperm.map _
    have hordered : Keyed.Sorted (s.tidyMembers m) := by
      rw [Keyed.Sorted, Keyed.keys, s.names_of_tidyMembers]
      exact hsorted
    rw [Keyed.ofList_eq_of_perm htidied (names_of_tidied s hps ▸ hnodup), hordered.ofList_eq]
  refine ⟨s.tidyMembers m, ?_, hsame ▸ values_of_nodup hps hnodup⟩
  show (s.toJson d >>= _) = _
  rw [s.toJson_of_ok hd, s.tidy_object_of_kept hkept]
  rfl

end ScriptParameters

/-! ## Commands -/

namespace ScriptCommand

variable {s : Serializer} {key script : String} {etag : Option Etag}

/-- With a key and a script, the command is made if the parameters have values. -/
theorem create_of_given (hkey : key ≠ "") (hscript : Text.trim script ≠ "")
    (parameters : ScriptParameters) :
    create s key script parameters etag =
      (parameters.values s >>= fun values => .ok ⟨key, etag, script, values⟩) := by
  have hkey : key.isEmpty = false := by simpa using hkey
  have hscript : (Text.trim script).isEmpty = false := by simpa using hscript
  rw [create, hkey, hscript]
  rfl

theorem create_eq_ok_iff (hkey : key ≠ "") (hscript : Text.trim script ≠ "")
    {parameters : ScriptParameters} {c : ScriptCommand} :
    create s key script parameters etag = .ok c ↔
      ∃ values, parameters.values s = .ok values ∧ ⟨key, etag, script, values⟩ = c := by
  rw [create_of_given hkey hscript, bind_eq_ok_iff]
  simp only [Except.ok.injEq]

theorem create_of_values_error (hkey : key ≠ "") (hscript : Text.trim script ≠ "")
    {parameters : ScriptParameters} {e : StoreError} (h : parameters.values s = .error e) :
    create s key script parameters etag = .error e := by
  rw [create_of_given hkey hscript, h]
  rfl

/-- **Parameters do not depend on how they are given.**  With a key and a script: pairs whose values
can be serialized make a command just when no name repeats; its values are then the serialized values
under their names, and pairs in another order make the same command.  Otherwise the failure names the
first name that repeats an earlier one.  A value whose JSON form is an object, none of whose members
is dropped, and pairs that become the members of that object, in any order, make the same command. -/
theorem create_of_parameters (s : Serializer) (hkey : key ≠ "") (hscript : Text.trim script ≠ "")
    (etag : Option Etag) :
    (∀ ps : List (String × Datum), (∀ p ∈ ps, ∃ v, s.toJson p.2 = .ok v) →
      ((∃ c, create s key script (.pairs ps) etag = .ok c) ↔ (ps.map Prod.fst).Nodup) ∧
      (∀ c, create s key script (.pairs ps) etag = .ok c →
        c.key = key ∧ c.etag = etag ∧ c.script = script ∧ c.values.Sorted ∧
        (∀ name v, Keyed.get? c.values name = some v ↔
          ∃ d, (name, d) ∈ ps ∧ s.toJson d = .ok v) ∧
        ∀ qs, qs.Perm ps → create s key script (.pairs qs) etag = .ok c) ∧
      (¬(ps.map Prod.fst).Nodup → ∃ name, FirstRepeat (ps.map Prod.fst) name ∧
        create s key script (.pairs ps) etag = .error (.duplicateParameter name))) ∧
    ∀ (d : Datum) (m : Members) (ps : List (String × Datum)) (es : List (String × Json)),
      d.toJson = .ok (.object m) → Datum.fieldsToJson ps = .ok es → es.Perm m →
      (s.ignoreNulls = true → ∀ e ∈ m, e.2 ≠ .null) →
      ∃ c, create s key script (.fields d) etag = .ok c ∧
        create s key script (.pairs ps) etag = .ok c := by
  constructor
  · intro ps hps
    have hforms : ∀ p ∈ ps, ∃ v, p.2.toJson = .ok v := by
      intro p hp
      obtain ⟨v, hv⟩ := hps p hp
      obtain ⟨w, hw, _⟩ := Serializer.toJson_eq_ok.mp hv
      exact ⟨w, hw⟩
    obtain ⟨es, hes⟩ := Datum.exists_fieldsToJson hforms
    refine ⟨⟨?_, fun hnodup => ?_⟩, fun c hc => ?_, fun hrepeat => ?_⟩
    · rintro ⟨c, hc⟩
      obtain ⟨values, hvalues, _⟩ := (create_eq_ok_iff hkey hscript).mp hc
      exact ((ScriptParameters.values_eq_ok_iff hforms hes).mp hvalues).1
    · have hvalues := ScriptParameters.values_of_nodup (s := s) hes hnodup
      exact ⟨_, (create_eq_ok_iff hkey hscript).mpr ⟨_, hvalues, rfl⟩⟩
    · obtain ⟨values, hvalues, rfl⟩ := (create_eq_ok_iff hkey hscript).mp hc
      obtain ⟨hnodup, rfl⟩ := (ScriptParameters.values_eq_ok_iff hforms hes).mp hvalues
      refine ⟨rfl, rfl, rfl, Keyed.sorted_ofList _,
        ScriptParameters.get?_values_of_nodup hes hnodup, fun qs hperm => ?_⟩
      have hsame := (ScriptParameters.values_of_perm hes hnodup hperm).trans hvalues
      exact (create_eq_ok_iff hkey hscript).mpr ⟨_, hsame, rfl⟩
    · obtain ⟨name, hname, herror⟩ := ScriptParameters.values_of_repeat hforms hrepeat
      exact ⟨name, hname, create_of_values_error hkey hscript herror⟩
  · intro d m ps es hd hps hperm hkept
    obtain ⟨values, hfields, hpairs⟩ :=
      ScriptParameters.values_fields_eq_pairs hd hkept hps hperm
    exact ⟨_, (create_eq_ok_iff hkey hscript).mpr ⟨values, hfields, rfl⟩,
      (create_eq_ok_iff hkey hscript).mpr ⟨values, hpairs, rfl⟩⟩

/-- Two parameters, one of them with a null inside. -/
def countedViews : List (String × Datum) :=
  [("views", .integer 1), ("by", .record [("name", .string "Ann"), ("note", .null)])]

/-- Both ways make one command, which holds the second value without its null, and the pairs given
twice are refused for their first name. -/
theorem create_of_countedViews :
    "posts/1" ≠ "" ∧ Text.trim "this.Views += views;" ≠ "" ∧
    (∀ p ∈ countedViews, ∃ v, ({} : Serializer).toJson p.2 = .ok v) ∧
    (∃ c, create {} "posts/1" "this.Views += views;" (.fields (.record countedViews.reverse)) none =
        .ok c ∧
      create {} "posts/1" "this.Views += views;" (.pairs countedViews) none = .ok c ∧
      Keyed.get? c.values "by" = some (.object [("name", .string "Ann")])) ∧
    create {} "posts/1" "this.Views += views;" (.pairs (countedViews ++ countedViews)) none =
      .error (.duplicateParameter "views") := by
  have hkey : "posts/1" ≠ "" := by decide
  have hscript : Text.trim "this.Views += views;" ≠ "" := by decide +kernel
  have hserialized : ∀ p ∈ countedViews, ∃ v, ({} : Serializer).toJson p.2 = .ok v :=
    List.forall_mem_cons.mpr ⟨⟨_, rfl⟩, List.forall_mem_singleton.mpr ⟨_, rfl⟩⟩
  obtain ⟨hpairs, hfields⟩ := create_of_parameters {} hkey hscript none
  obtain ⟨c, hc, hc'⟩ := hfields (.record countedViews.reverse) _ countedViews _ rfl rfl
    (List.Perm.swap _ _ _) fun _ => List.forall_mem_cons.mpr
      ⟨Json.noConfusion, List.forall_mem_singleton.mpr Json.noConfusion⟩
  obtain ⟨_, hmade, _⟩ := hpairs countedViews hserialized
  obtain ⟨_, _, _, _, hvalues, _⟩ := hmade c hc'
  have hby : Keyed.get? c.values "by" = some (.object [("name", .string "Ann")]) :=
    (hvalues "by" _).mpr ⟨_, List.mem_cons_of_mem _ List.mem_cons_self, rfl⟩
  obtain ⟨_, _, hrefused⟩ := hpairs (countedViews ++ countedViews)
    (List.forall_mem_append.mpr ⟨hserialized, hserialized⟩)
  obtain ⟨name, hname, herror⟩ := hrefused (by decide)
  have hviews : FirstRepeat ((countedViews ++ countedViews).map Prod.fst) "views" :=
    ⟨["views", "by"], ["by"], rfl, by decide, by decide⟩
  rw [hname.unique hviews] at herror
  exact ⟨hkey, hscript, hserialized, ⟨c, hc, hc', hby⟩, herror⟩

end ScriptCommand

end PatchStore
