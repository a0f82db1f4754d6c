import Mathlib.Data.List.Forall2
import PatchStore.Patch.Builder
import PatchStore.Proofs.Selector.Chain

/-!
# What a patch gathers

The eight kinds of calls check in different orders, and they all work on the one list of chains.  A
call that fails leaves that list alone, and one that succeeds puts one chain at its end; so after any
calls the list holds the chains of those that succeeded, in their order.

* `PatchCall.Means` — the operation that a call stands for.
* `PatchNode.Fits`, `PatchCall.AsksFor` — the chains for an operation on a field, and for a call.
* `GathersOne` — work on a patch gathers one chain, or fails and gathers none.
* `gathersOne_gather` — every call does so.
* `build_gatherAll` — what is built after any calls.
-/

namespace PatchStore

/-! ## Calls and chains -/

namespace PatchCall

/-- The selector of the field that a call is for. -/
def selector : PatchCall → Selector
  | .add s _ => s
  | .addValue s _ => s
  | .set s _ => s
  | .setIf s _ _ => s
  | .setValue s _ _ => s
  | .unset s => s
  | .unsetIf s _ => s
  | .unsetValue s _ => s

/-- The operation that a call stands for, by what the serializer makes of its values.  A previous
value that becomes `null` asserts nothing; one that is given as JSON is asserted even if it is
`null`. -/
inductive Means (serializer : Serializer) : PatchCall → PatchLeaf → Prop
  | add {s : Selector} {d : Datum} {v : Json} :
      serializer.toJson d = .ok v → Means serializer (.add s d) (.add v)
  | addValue {s : Selector} {v : Json} : Means serializer (.addValue s v) (.add v)
  | set {s : Selector} {d : Datum} {v : Json} :
      serializer.toJson d = .ok v → Means serializer (.set s d) (.set v none)
  | setIfNull {s : Selector} {d prev : Datum} {v : Json} :
      serializer.toJson d = .ok v → serializer.toJson prev = .ok .null →
      Means serializer (.setIf s d prev) (.set v none)
  | setIf {s : Selector} {d prev : Datum} {v w : Json} :
      serializer.toJson d = .ok v → serializer.toJson prev = .ok w → w ≠ .null →
      Means serializer (.setIf s d prev) (.set v (some w))
  | setValue {s : Selector} {v : Json} {prev : Option Json} :
      Means serializer (.setValue s v prev) (.set v prev)
  | unset {s : Selector} : Means serializer (.unset s) (.unset none)
  | unsetIfNull {s : Selector} {prev : Datum} :
      serializer.toJson prev = .ok .null → Means serializer (.unsetIf s prev) (.unset none)
  | unsetIf {s : Selector} {prev : Datum} {w : Json} :
      serializer.toJson prev = .ok w → w ≠ .null →
      Means serializer (.unsetIf s prev) (.unset (some w))
  | unsetValue {s : Selector} {prev : Option Json} :
      Means serializer (.unsetValue s prev) (.unset prev)

end PatchCall

/-- The chain applies an operation to the field that a selector leads to.  What is added or set is
not `null`, and what is added to is a collection. -/
structure PatchNode.Fits (node : PatchNode) (schema : Schema) (s : Selector) (op : PatchLeaf) :
    Prop where
  names : ∃ path, s.extract schema = .ok path ∧ node.names = path.names
  operation : node.operation = op
  value : op.value? ≠ some .null
  collection : op.kind = .add → ∃ members r, s.body.members s.parameter = .ok members ∧
    schema.LeadsTo schema.rootFields members r ∧ r.field.kind = .collection

/-- The chain is one for the operation that a call stands for, on the field that it is for. -/
def PatchCall.AsksFor (schema : Schema) (serializer : Serializer) (call : PatchCall)
    (node : PatchNode) : Prop :=
  ∃ op, call.Means serializer op ∧ node.Fits schema call.selector op

namespace PatchNode

/-- The chain for the field that is resolved fits. -/
theorem fits_ofPath {schema : Schema} {s : Selector} {r : ResolvedField}
    (h : s.resolve schema = .ok r) {op : PatchLeaf} (hvalue : op.value? ≠ some .null)
    (hkind : op.kind = .add → r.field.kind = .collection) :
    (ofPath r.path op).Fits schema s op where
  names := ⟨r.path, Selector.extract_of_resolve h, names_ofPath r.path op⟩
  operation := operation_ofPath r.path op
  value := hvalue
  collection hadd := by
    obtain ⟨members, hmembers, hleads⟩ := Selector.resolve_eq_ok_iff.mp h
    exact ⟨members, r, hmembers, hleads, hkind hadd⟩

/-- No chain fits a field that is not resolved. -/
theorem not_fits_of_error {schema : Schema} {s : Selector} {e : StoreError}
    (h : s.resolve schema = .error e) (node : PatchNode) (op : PatchLeaf) :
    ¬node.Fits schema s op := by
  rintro ⟨⟨path, hpath, _⟩, _⟩
  rw [Selector.extract, h] at hpath
  cases hpath

/-- No chain that adds fits a field that is no collection. -/
theorem not_fits_of_not_collection {schema : Schema} {s : Selector} {r : ResolvedField}
    (h : s.resolve schema = .ok r) {op : PatchLeaf} (hadd : op.kind = .add)
    (hkind : r.field.kind ≠ .collection) (node : PatchNode) : ¬node.Fits schema s op := by
  intro hfits
  obtain ⟨members, found, hmembers, hleads, hcollection⟩ := hfits.collection hadd
  have hfound : s.resolve schema = .ok found :=
    Selector.resolve_eq_ok_iff.mpr ⟨members, hmembers, hleads⟩
  cases h.symm.trans hfound
  exact hkind hcollection

end PatchNode

theorem requireValue_null : requireValue .null = .error (.argumentNull .value) := rfl

theorem requireValue_of_ne_null {v : Json} (h : v ≠ .null) : requireValue v = .ok v := by
  cases v with
  | null => exact absurd rfl h
  | bool | number | string | array | object => rfl

theorem nonNull?_of_ne_null {v : Json} (h : v ≠ .null) : nonNull? v = some v := by
  cases v with
  | null => exact absurd rfl h
  | bool | number | string | array | object => rfl

theorem eq_of_nonNull? {v w : Json} (h : nonNull? v = some w) : v = w := by
  rw [nonNull?] at h
  split at h
  · cases h
  · exact Option.some.inj h

theorem isCollection_iff {α : Type} {kind : FieldKind α} :
    kind.isCollection = true ↔ kind = .collection := by
  cases kind <;> simp [FieldKind.isCollection]

namespace DocumentPatch

/-! ## One call -/

/-- Work on a patch gathers one chain that is asked for; or it fails, and gathers none, and none is
asked for. -/
def GathersOne (w : Work DocumentPatch Unit) (p : DocumentPatch) (asked : PatchNode → Prop) :
    Prop :=
  (∃ node, w.on p = (.ok (), p.push node) ∧ asked node) ∨
    ∃ e, w.on p = (.error e, p) ∧ ∀ node, ¬asked node

theorem GathersOne.congr {w : Work DocumentPatch Unit} {p : DocumentPatch}
    {asked asked' : PatchNode → Prop} (h : GathersOne w p asked)
    (hiff : ∀ node, asked node ↔ asked' node) : GathersOne w p asked' := by
  rcases h with ⟨node, hrun, hasked⟩ | ⟨e, hrun, hnone⟩
  · exact Or.inl ⟨node, hrun, (hiff node).mp hasked⟩
  · exact Or.inr ⟨e, hrun, fun node hnode => hnone node ((hiff node).mpr hnode)⟩

/-- Work that goes on from a serialized value asks for what it asks for then, and for nothing if the
value cannot be serialized. -/
theorem gathersOne_serialize {f : Json → Work DocumentPatch Unit} {p : DocumentPatch}
    {asked : Json → PatchNode → Prop} (h : ∀ v, GathersOne (f v) p (asked v)) (d : Datum) :
    GathersOne (serialize d >>= f) p fun node =>
      ∃ v, p.serializer.toJson d = .ok v ∧ asked v node := by
  rcases hd : p.serializer.toJson d with e | v
  · refine Or.inr ⟨e, ?_, ?_⟩
    · rw [Work.on_bind, on_serialize, hd]
    · rintro node ⟨v, hv, _⟩
      cases hv
  · have hrun : (serialize d >>= f).on p = (f v).on p := by
      rw [Work.on_bind, on_serialize, hd]
    rcases h v with ⟨node, hnode, hasked⟩ | ⟨e, herror, hnone⟩
    · exact Or.inl ⟨node, hrun.trans hnode, v, rfl, hasked⟩
    · refine Or.inr ⟨e, hrun.trans herror, ?_⟩
      rintro node ⟨v', hv', hasked⟩
      cases hv'
      exact hnone node hasked

theorem gathersOne_addValue (s : Selector) (v : Json) (p : DocumentPatch) :
    GathersOne (addValue s v) p fun node => node.Fits p.schema s (.add v) := by
  by_cases hnull : v = .null
  · subst hnull
    exact Or.inr ⟨_, by rw [on_addValue, requireValue_null], fun node h => h.value rfl⟩
  · have hvalue : (PatchLeaf.add v).value? ≠ some .null := fun h => hnull (Option.some.inj h)
    rcases hr : s.resolve p.schema with e | r
    · refine Or.inr ⟨e, ?_, fun node => PatchNode.not_fits_of_error hr node _⟩
      rw [on_addValue, requireValue_of_ne_null hnull, hr]
    · by_cases hkind : r.field.kind = .collection
      · refine Or.inl ⟨.ofPath r.path (.add v), ?_,
          PatchNode.fits_ofPath hr hvalue fun _ => hkind⟩
        rw [on_addValue, requireValue_of_ne_null hnull, hr]
        exact if_pos (isCollection_iff.mpr hkind)
      · refine Or.inr ⟨.invalidSelector s.source (.notCollection r.field.ident), ?_,
          PatchNode.not_fits_of_not_collection hr rfl hkind⟩
        rw [on_addValue, requireValue_of_ne_null hnull, hr]
        exact if_neg fun h => hkind (isCollection_iff.mp h)

theorem gathersOne_setValue (s : Selector) (v : Json) (prev : Option Json) (p : DocumentPatch) :
    GathersOne (setValue s v prev) p fun node => node.Fits p.schema s (.set v prev) := by
  by_cases hnull : v = .null
  · subst hnull
    exact Or.inr ⟨_, by rw [on_setValue, requireValue_null], fun node h => h.value rfl⟩
  · have hvalue : (PatchLeaf.set v prev).value? ≠ some .null :=
      fun h => hnull (Option.some.inj h)
    rcases hr : s.resolve p.schema with e | r
    · refine Or.inr ⟨e, ?_, fun node => PatchNode.not_fits_of_error hr node _⟩
      rw [on_setValue, requireValue_of_ne_null hnull, hr]
    · refine Or.inl ⟨.ofPath r.path (.set v prev), ?_, PatchNode.fits_ofPath hr hvalue nofun⟩
      rw [on_setValue, requireValue_of_ne_null hnull, hr]

theorem gathersOne_unsetValue (s : Selector) (prev : Option Json) (p : DocumentPatch) :
    GathersOne (unsetValue s prev) p fun node => node.Fits p.schema s (.unset prev) := by
  rcases hr : s.resolve p.schema with e | r
  · refine Or.inr ⟨e, ?_, fun node => PatchNode.not_fits_of_error hr node _⟩
    rw [on_unsetValue, hr]
  · refine Or.inl ⟨.ofPath r.path (.unset prev), ?_, PatchNode.fits_ofPath hr nofun nofun⟩
    rw [on_unsetValue, hr]

/-- Every call gathers one chain that it asks for, or fails and gathers none. -/
theorem gathersOne_gather (call : PatchCall) (p : DocumentPatch) :
    GathersOne (gather call) p (call.AsksFor p.schema p.serializer) := by
  cases call with
  | add s d =>
    refine (gathersOne_serialize (fun v => gathersOne_addValue s v p) d).congr fun node => ?_
    constructor
    · rintro ⟨v, hv, hfits⟩
      exact ⟨_, .add hv, hfits⟩
    · rintro ⟨_, hmeans, hfits⟩
      cases hmeans with
      | add hv => exact ⟨_, hv, hfits⟩
  | addValue s v =>
    refine (gathersOne_addValue s v p).congr fun node => ?_
    constructor
    · intro hfits
      exact ⟨_, .addValue, hfits⟩
    · rintro ⟨_, hmeans, hfits⟩
      cases hmeans
      exact hfits
  | set s d =>
    refine (gathersOne_serialize (fun v => gathersOne_setValue s v none p) d).congr
      fun node => ?_
    constructor
    · rintro ⟨v, hv, hfits⟩
      exact ⟨_, .set hv, hfits⟩
    · rintro ⟨_, hmeans, hfits⟩
      cases hmeans with
      | set hv => exact ⟨_, hv, hfits⟩
  | setIf s d prev =>
    refine (gathersOne_serialize (fun v => gathersOne_serialize
      (fun w => gathersOne_setValue s v (nonNull? w) p) prev) d).congr fun node => ?_
    constructor
    · rintro ⟨v, hv, w, hw, hfits⟩
      by_cases hnull : w = .null
      · subst hnull
        exact ⟨_, .setIfNull hv hw, hfits⟩
      · rw [nonNull?_of_ne_null hnull] at hfits
        exact ⟨_, .setIf hv hw hnull, hfits⟩
    · rintro ⟨_, hmeans, hfits⟩
      cases hmeans with
      | setIfNull hv hw => exact ⟨_, hv, _, hw, hfits⟩
      | setIf hv hw hnull => exact ⟨_, hv, _, hw, (nonNull?_of_ne_null hnull).symm ▸ hfits⟩
  | setValue s v prev =>
    refine (gathersOne_setValue s v prev p).congr fun node => ?_
    constructor
    · intro hfits
      exact ⟨_, .setValue, hfits⟩
    · rintro ⟨_, hmeans, hfits⟩
      cases hmeans
      exact hfits
  | unset s =>
    refine (gathersOne_unsetValue s none p).congr fun node => ?_
    constructor
    · intro hfits
      exact ⟨_, .unset, hfits⟩
    · rintro ⟨_, hmeans, hfits⟩
      cases hmeans
      exact hfits
  | unsetIf s prev =>
    refine (gathersOne_serialize (fun w => gathersOne_unsetValue s (nonNull? w) p) prev).congr
      fun node => ?_
    constructor
    · rintro ⟨w, hw, hfits⟩
      by_cases hnull : w = .null
      · subst hnull
        exact ⟨_, .unsetIfNull hw, hfits⟩
      · rw [nonNull?_of_ne_null hnull] at hfits
        exact ⟨_, .unsetIf hw hnull, hfits⟩
    · rintro ⟨_, hmeans, hfits⟩
      cases hmeans with
      | unsetIfNull hw => exact ⟨_, hw, hfits⟩
      | unsetIf hw hnull => exact ⟨_, hw, (nonNull?_of_ne_null hnull).symm ▸ hfits⟩
  | unsetValue s prev =>
    refine (gathersOne_unsetValue s prev p).congr fun node => ?_
    constructor
    · intro hfits
      exact ⟨_, .unsetValue, hfits⟩
    · rintro ⟨_, hmeans, hfits⟩
      cases hmeans
      exact hfits

/-! ## Any calls -/

/-- The calls of which something came. -/
def successful (calls : List PatchCall) (outcomes : List (StoreResult Unit)) : List PatchCall :=
  ((calls.zip outcomes).filter fun c => c.2.isOk).map Prod.fst

theorem length_gatherAll (p : DocumentPatch) (calls : List PatchCall) :
    (p.gatherAll calls).1.length = calls.length := by
  induction calls generalizing p with
  | nil => rfl
  | cons call calls ih => exact congrArg (· + 1) (ih ((gather call).on p).2)

/-- Calls put the chains of those that succeed at the end, in their order, and change nothing
else. -/
theorem gatherAll_eq (p : DocumentPatch) (calls : List PatchCall) :
    ∃ chains, (p.gatherAll calls).2 = { p with patches := p.patches ++ chains } ∧
      List.Forall₂ (PatchCall.AsksFor p.schema p.serializer)
        (successful calls (p.gatherAll calls).1) chains := by
  induction calls generalizing p with
  | nil => exact ⟨[], by rw [List.append_nil]; rfl, .nil⟩
  | cons call calls ih =>
    rcases gathersOne_gather call p with ⟨node, hrun, hasked⟩ | ⟨e, hrun, _⟩
    · obtain ⟨chains, hlast, hchains⟩ := ih (p.push node)
      have hall : p.gatherAll (call :: calls) =
          (.ok () :: ((p.push node).gatherAll calls).1, ((p.push node).gatherAll calls).2) := by
        rw [gatherAll, hrun]
      refine ⟨node :: chains, ?_, ?_⟩
      · rw [hall]
        show ((p.push node).gatherAll calls).2 = _
        rw [hlast, push_patches, List.append_assoc]
        rfl
      · rw [hall]
        exact .cons hasked hchains
    · -- nothing came of the call, so the others begin where it began
      obtain ⟨chains, hlast, hchains⟩ := ih p
      have hall : p.gatherAll (call :: calls) =
          (.error e :: (p.gatherAll calls).1, (p.gatherAll calls).2) := by
        rw [gatherAll, hrun]
      rw [hall]
      exact ⟨chains, hlast, hchains⟩

/-- **A patch holds the chains of the calls that succeeded.**  A patch can be started for any key
but the empty one.  Take any calls on it.  What is then built has the key and exactly the chains that
the successful calls ask for, in the order of the calls.  A further call that fails leaves what is
built, and asks for no chain; one that succeeds puts one chain that it asks for at the end.  Being
bound to a version is the only difference that an etag makes. -/
theorem build_gatherAll (key : String) (schema : Schema) (serializer : Serializer)
    (calls : List PatchCall) :
    match create key schema serializer with
    | .error e => key = "" ∧ e = .argumentNull .key
    | .ok p =>
      let outcomes := (p.gatherAll calls).1
      let q := (p.gatherAll calls).2
      key ≠ "" ∧ outcomes.length = calls.length ∧
      (∃ chains, q.build none = ⟨key, none, chains⟩ ∧
        List.Forall₂ (PatchCall.AsksFor schema serializer) (successful calls outcomes) chains) ∧
      (∀ call,
        match (gather call).on q with
        | (.error _, after) => after.build none = q.build none ∧
          ∀ node, ¬call.AsksFor schema serializer node
        | (.ok (), after) => ∃ node, call.AsksFor schema serializer node ∧
          after.build none = ⟨key, none, (q.build none).patches ++ [node]⟩) ∧
      ∀ tag, q.build (some tag) = { q.build none with etag := some tag } := by
  by_cases hkey : key = ""
  · subst hkey
    exact ⟨rfl, rfl⟩
  · have hcreate : create key schema serializer = .ok ⟨key, schema, serializer, []⟩ :=
      if_neg fun h => hkey (String.isEmpty_iff.mp h)
    obtain ⟨chains, hlast, hchains⟩ := gatherAll_eq ⟨key, schema, serializer, []⟩ calls
    rw [hcreate]
    dsimp only
    rw [hlast]
    refine ⟨hkey, length_gatherAll _ calls, ⟨chains, rfl, hchains⟩, fun call => ?_, fun _ => rfl⟩
    show match (gather call).on ⟨key, schema, serializer, chains⟩ with
      | (.error _, after) => _
      | (.ok (), after) => _
    rcases gathersOne_gather call ⟨key, schema, serializer, chains⟩ with
      ⟨node, hrun, hasked⟩ | ⟨e, hrun, hnone⟩
    · rw [hrun]
      exact ⟨node, hasked, rfl⟩
    · rw [hrun]
      exact ⟨rfl, hnone⟩

end DocumentPatch

end PatchStore
