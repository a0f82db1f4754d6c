import PatchStore.Proofs.Schema.Options

/-!
# The fields that a struct describes

A struct that a schema is derived from describes each of its fields that is not skipped, in their
order, by what its options say and by its type.  What is in a type through `Option` and `Box`
(`UnwrapsTo`), and which types are sequences (`HoldsSequence`), is said here by their forms.

* `unwrapsTo_iff`, `isSequence_iff` — taking wrappers off finds what is in a type.
* `deriveFields_eq_ok` — the fields that are derived are those that the declaration describes.
* `kind_eq_collection_iff`, `kind_eq_object_iff` — what the kind of a field says about it.
-/

namespace PatchStore

open Source

/-! ## Types -/

/-- A type that is one layer of `Option` or `Box`, named from any module, around another. -/
inductive Wraps : TypeExpr → TypeExpr → Prop
  | layer {name : Ident} (h : name.text ∈ wrapperTypes) (isGlobal : Bool)
      (modules : List (Ident × Bool)) (inner : TypeExpr) (tokens : List Token) :
      Wraps (.mk (.path (.mk false isGlobal modules name (.angled [.type inner]))) tokens) inner

/-- What is in a type when all layers of `Option` and `Box` are taken off. -/
inductive UnwrapsTo : TypeExpr → TypeExpr → Prop
  | bare {t : TypeExpr} : (∀ inner, ¬Wraps t inner) → UnwrapsTo t t
  | layer {t inner u : TypeExpr} : Wraps t inner → UnwrapsTo inner u → UnwrapsTo t u

/-- The forms of types that hold a sequence of values. -/
inductive IsSequenceForm : TypeForm → Prop
  | array : IsSequenceForm .array
  | slice : IsSequenceForm .slice
  | borrowed (tokens : List Token) : IsSequenceForm (.reference (.mk .slice tokens))
  | named {p : Path} : p.qualified = false → p.name.text ∈ sequenceTypes → IsSequenceForm (.path p)

/-- A type is a sequence, through any layers of `Option` and `Box`. -/
def HoldsSequence (t : TypeExpr) : Prop := ∃ u, UnwrapsTo t u ∧ IsSequenceForm u.form

theorem unwrapped_of_wraps {t inner : TypeExpr} (h : Wraps t inner) :
    unwrapped t = unwrapped inner := by
  cases h with
  | layer hname isGlobal modules inner tokens =>
    exact unwrapped_wrap hname isGlobal modules inner tokens

theorem unwrapsTo_unwrapped (t : TypeExpr) : UnwrapsTo t (unwrapped t) := by
  fun_induction unwrapped t with
  | case1 isGlobal modules name inner tokens hname ih =>
    exact .layer (.layer (by simpa using hname) isGlobal modules inner tokens) ih
  | case2 isGlobal modules name inner tokens hname =>
    refine .bare fun inner' h => ?_
    cases h with
    | layer hname' => exact hname (by simpa using hname')
  | case3 t hother =>
    refine .bare fun inner h => ?_
    cases h with
    | layer hname isGlobal modules inner tokens => exact hother _ _ _ _ _ rfl

/-- Taking off the wrappers gives what is in a type, and nothing else is in it. -/
theorem unwrapsTo_iff {t u : TypeExpr} : UnwrapsTo t u ↔ unwrapped t = u := by
  constructor
  · intro h
    induction h with
    | @bare t hbare =>
      -- nothing can be taken off, or there would be a layer around it
      have ht := unwrapsTo_unwrapped t
      generalize unwrapped t = u at ht
      cases ht with
      | bare => rfl
      | layer hlayer => exact absurd hlayer (hbare _)
    | layer hlayer _ ih => exact (unwrapped_of_wraps hlayer).trans ih
  · rintro rfl
    exact unwrapsTo_unwrapped t

/-- Sequences are recognized by their forms. -/
theorem isSequence_iff {t : TypeExpr} : isSequence t = true ↔ HoldsSequence t := by
  have hform : isSequence t = true ↔ IsSequenceForm (unwrapped t).form := by
    rw [isSequence]
    constructor
    · intro h
      split at h
      · rename_i hform
        exact hform ▸ .array
      · rename_i hform
        exact hform ▸ .slice
      · rename_i tokens hform
        exact hform ▸ .borrowed tokens
      · rename_i p hform
        rw [hform]
        have hpath : p.qualified = false ∧ p.name.text ∈ sequenceTypes := by simpa using h
        exact .named hpath.1 hpath.2
      · cases h
    · intro h
      generalize (unwrapped t).form = form at h
      cases h with
      | array => rfl
      | slice => rfl
      | borrowed tokens => rfl
      | named hpath hname => simpa using ⟨hpath, hname⟩
  rw [hform]
  constructor
  · intro h
    exact ⟨_, unwrapsTo_unwrapped t, h⟩
  · rintro ⟨u, hu, h⟩
    rw [unwrapsTo_iff.mp hu]
    exact h

/-! ## Declared fields -/

namespace Source

namespace FieldDecl

/-- The field is marked as a collection, or its type is a sequence. -/
def Collects (f : FieldDecl) : Prop := f.collection = true ∨ HoldsSequence f.type

/-- The kind of the field. -/
def kind (f : FieldDecl) : FieldKind TypeExpr :=
  if f.nested then .object (unwrapped f.type)
  else if f.collection || isSequence f.type then .collection
  else .value

/-- The field that is described in a struct with a rename rule. -/
def described (rule : RenameRule) (f : FieldDecl) : Field TypeExpr :=
  ⟨f.ident.name, f.storedName rule, f.kind⟩

theorem collects_iff {f : FieldDecl} :
    f.Collects ↔ (f.collection || isSequence f.type) = true := by
  rw [Collects, Bool.or_eq_true, isSequence_iff]

/-- What deriving sees to in a field: it is no collection if it is marked nested, and no option gives
it an empty name for the schema alone. -/
structure Accepted (f : FieldDecl) : Prop where
  single : f.skipped = false → f.nested = true → ¬f.Collects
  named : NamesForSchema f.options

end FieldDecl

/-- The named fields of a declaration. -/
def TypeDecl.fields (d : TypeDecl) : List FieldDecl :=
  match d.body with
  | .named fields => fields
  | _ => []

end Source

theorem kind_eq_object_iff {f : FieldDecl} {t : TypeExpr} :
    f.kind = .object t ↔ f.nested = true ∧ UnwrapsTo f.type t := by
  rw [FieldDecl.kind, unwrapsTo_iff]
  cases f.nested <;> cases f.collection || isSequence f.type <;> simp

/-- What is derived from a field is what the field describes, unless it is skipped, and the field is
accepted. -/
theorem deriveField_eq_ok {rule : RenameRule} {f : FieldDecl} {o : Option (Field TypeExpr)}
    (h : deriveField rule f = .ok o) :
    o = (if f.skipped then none else some (f.described rule)) ∧ f.Accepted := by
  rcases hoptions : f.attributes.foldlM FieldOptions.ofAttribute {} with e | options
  · rw [deriveField, hoptions] at h
    cases h
  · rw [deriveField, hoptions] at h
    replace h : describeField rule f.ident f.type options = .ok o := h
    have heq : options = ⟨lastGiven? "rename" f.options, f.skipped, f.nested, f.collection⟩ :=
      (fieldOptions_reads hoptions).eq
    have hnamed : NamesForSchema f.options := (fieldOptions_reads hoptions).named
    rw [heq] at h
    simp only [describeField] at h
    suffices hdescribed : o = (if f.skipped then none else some (f.described rule)) ∧
        (f.skipped = false → f.nested = true → ¬f.Collects) from
      ⟨hdescribed.1, hdescribed.2, hnamed⟩
    rw [FieldDecl.collects_iff, FieldDecl.described, FieldDecl.kind, FieldDecl.storedName]
    cases hskipped : f.skipped with
    | true =>
      rw [hskipped] at h
      cases h
      exact ⟨rfl, nofun⟩
    | false =>
      cases hnested : f.nested with
      | true =>
        cases hcollection : f.collection <;> cases hsequence : isSequence f.type <;>
          simp_all
      | false =>
        simp only [hskipped, hnested] at h
        cases h
        exact ⟨rfl, nofun⟩

/-! ## Declared structs -/

theorem mapM_cons_eq_ok {α β ε : Type} {f : α → Except ε β} {x : α} {xs : List α} {ys : List β}
    (h : (x :: xs).mapM f = .ok ys) :
    ∃ y rest, f x = .ok y ∧ xs.mapM f = .ok rest ∧ ys = y :: rest := by
  rw [List.mapM_cons] at h
  rcases hx : f x with e | y
  · rw [hx] at h
    cases h
  · rcases hxs : xs.mapM f with e | rest
    · rw [hx, hxs] at h
      cases h
    · rw [hx, hxs] at h
      cases h
      exact ⟨y, rest, rfl, rfl, rfl⟩

namespace Source.TypeDecl

/-- The fields that a declaration describes. -/
def described (d : TypeDecl) : List (Field TypeExpr) :=
  (d.fields.filter fun f => !f.skipped).map (FieldDecl.described d.rule)

end Source.TypeDecl

/-- Fields are derived one by one. -/
theorem mapM_deriveField_eq_ok {rule : RenameRule} {fs : List FieldDecl}
    {os : List (Option (Field TypeExpr))} (h : fs.mapM (deriveField rule) = .ok os) :
    os.filterMap id = (fs.filter fun f => !f.skipped).map (FieldDecl.described rule) ∧
      ∀ f ∈ fs, f.Accepted := by
  induction fs generalizing os with
  | nil =>
    cases h
    exact ⟨rfl, nofun⟩
  | cons f fs ih =>
    obtain ⟨o, rest, hfirst, hrest, rfl⟩ := mapM_cons_eq_ok h
    obtain ⟨ho, haccepted⟩ := deriveField_eq_ok hfirst
    obtain ⟨hfields, hall⟩ := ih hrest
    refine ⟨?_, List.forall_mem_cons.mpr ⟨haccepted, hall⟩⟩
    rw [List.filterMap_cons, hfields, ho]
    cases hskipped : f.skipped <;> simp [hskipped]

/-- The fields that are derived are those that the declaration describes, and all its fields are
accepted. -/
theorem deriveFields_eq_ok {d : TypeDecl} {fields : List (Field TypeExpr)}
    (h : deriveFields d = .ok fields) :
    fields = d.described ∧ ∀ f ∈ d.fields, f.Accepted := by
  rw [TypeDecl.described, TypeDecl.fields]
  rw [deriveFields] at h
  by_cases hgeneric : d.generic = true
  · rw [if_pos hgeneric] at h
    cases h
  · rw [if_neg hgeneric] at h
    cases hbody : d.body with
    | named fs =>
      rw [hbody] at h
      rcases hoptions : d.attributes.foldlM ContainerOptions.ofAttribute {} with e | options
      · simp only [hoptions] at h
        cases h
      · have hrule : options.rule = d.rule :=
          congrArg ContainerOptions.rule (containerOptions_eq hoptions)
        rcases hfields : fs.mapM (deriveField options.rule) with e | os
        · simp only [hoptions, hfields, bind, Except.bind] at h
          cases h
        · simp only [hoptions, hfields, bind, Except.bind] at h
          cases h
          rw [hrule] at hfields
          exact mapM_deriveField_eq_ok hfields
    | tuple | unit | enumeration | union =>
      rw [hbody] at h
      cases h

/-! ## What can be derived -/

/-- A field can be derived: its attributes can be read, and if it is marked nested it is no
collection. -/
structure Source.FieldDecl.Derivable (f : FieldDecl) : Prop where
  readable : ∃ o, f.attributes.foldlM FieldOptions.ofAttribute {} = .ok o
  single : f.skipped = false → f.nested = true → ¬f.Collects

theorem exists_deriveField_iff {rule : RenameRule} {f : FieldDecl} :
    (∃ o, deriveField rule f = .ok o) ↔ f.Derivable := by
  constructor
  · rintro ⟨o, h⟩
    refine ⟨?_, (deriveField_eq_ok h).2.single⟩
    rcases hoptions : f.attributes.foldlM FieldOptions.ofAttribute {} with e | options
    · rw [deriveField, hoptions] at h
      cases h
    · exact ⟨options, rfl⟩
  · rintro ⟨⟨options, hoptions⟩, hsingle⟩
    have heq : options = ⟨lastGiven? "rename" f.options, f.skipped, f.nested, f.collection⟩ :=
      (fieldOptions_reads hoptions).eq
    rw [FieldDecl.collects_iff] at hsingle
    rw [deriveField, hoptions]
    show ∃ o, describeField rule f.ident f.type options = .ok o
    rw [heq]
    simp only [describeField]
    cases hskipped : f.skipped with
    | true => exact ⟨none, rfl⟩
    | false =>
      cases hnested : f.nested with
      | true =>
        have hcollects := hsingle hskipped hnested
        rw [Bool.not_eq_true, Bool.or_eq_false_iff] at hcollects
        rw [hcollects.1, hcollects.2]
        exact ⟨_, rfl⟩
      | false => exact ⟨_, rfl⟩

theorem exists_mapM_iff {α β ε : Type} {f : α → Except ε β} {xs : List α} :
    (∃ ys, xs.mapM f = .ok ys) ↔ ∀ x ∈ xs, ∃ y, f x = .ok y := by
  induction xs with
  | nil => exact iff_of_true ⟨[], rfl⟩ nofun
  | cons x xs ih =>
    rw [List.forall_mem_cons, ← ih]
    constructor
    · rintro ⟨ys, h⟩
      obtain ⟨y, rest, hx, hxs, -⟩ := mapM_cons_eq_ok h
      exact ⟨⟨y, hx⟩, rest, hxs⟩
    · rintro ⟨⟨y, hx⟩, rest, hxs⟩
      refine ⟨y :: rest, ?_⟩
      rw [List.mapM_cons, hx, hxs]
      rfl

/-- A declaration can be derived if it is a struct with named fields and without parameters whose
attributes can be read, and if each of its fields can. -/
theorem exists_deriveFields_iff {d : TypeDecl} :
    (∃ fields, deriveFields d = .ok fields) ↔
      d.generic = false ∧ (∃ fs, d.body = .named fs) ∧
        (∃ o, d.attributes.foldlM ContainerOptions.ofAttribute {} = .ok o) ∧
        ∀ f ∈ d.fields, f.Derivable := by
  rw [deriveFields]
  cases hgeneric : d.generic with
  | true =>
    constructor
    · rintro ⟨fields, h⟩
      cases h
    · rintro ⟨h, -⟩
      cases h
  | false =>
    rw [if_neg Bool.false_ne_true, TypeDecl.fields]
    cases hbody : d.body with
    | tuple | unit | enumeration | union =>
      constructor
      · rintro ⟨fields, h⟩
        cases h
      · rintro ⟨-, ⟨fs, h⟩, -⟩
        cases h
    | named fs =>
      rcases hoptions : d.attributes.foldlM ContainerOptions.ofAttribute {} with e | options
      · constructor
        · rintro ⟨fields, h⟩
          cases h
        · rintro ⟨-, -, ⟨o, h⟩, -⟩
          cases h
      · have hall : (∃ ys, fs.mapM (deriveField options.rule) = .ok ys) ↔
            ∀ f ∈ fs, f.Derivable := by
          rw [exists_mapM_iff]
          exact forall₂_congr fun f _ => exists_deriveField_iff
        dsimp only
        rw [← hall]
        constructor
        · rintro ⟨fields, h⟩
          refine ⟨rfl, ⟨fs, rfl⟩, ⟨options, rfl⟩, ?_⟩
          rcases hfields : fs.mapM (deriveField options.rule) with e | ys
          · simp only [hfields, bind, Except.bind] at h
            cases h
          · exact ⟨ys, rfl⟩
        · rintro ⟨-, -, -, ys, hys⟩
          refine ⟨ys.filterMap id, ?_⟩
          simp only [hys, bind, Except.bind]
          rfl

end PatchStore
