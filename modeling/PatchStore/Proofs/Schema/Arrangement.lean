import Mathlib.Data.List.Forall2
import PatchStore.Proofs.Schema.Fields

/-!
# The order of attributes

The attributes of a struct and of its fields may stand in any order.  Whether they can be read, which
fields are skipped, and what kind a field has does not depend on the order.  The name of a field may,
as the last attribute that gives one decides, whatever it is for; and so may the rename rule of the
struct.

* `exists_foldlM_iff` — a list of steps can be taken when each of them can.
* `listedOptions_eq_flatMap`, `lastGiven?_flatMap` — the options of attributes are those of each, and
  the last attribute that gives a name decides.
* `fields_of_rearranged` — the fields in another order of the attributes, and when they are the same
  in all orders.
* `not_fields_of_rearranged` — a name for the schema does not always win over one for serialization.
-/

namespace PatchStore

open Source

/-! ## Reading attributes one by one -/

/-- If what a step starts from does not matter to whether it can be taken, a list of steps can be
taken just when each of them can. -/
theorem exists_foldlM_iff {α σ ε : Type} {f : σ → α → Except ε σ}
    (h : ∀ a s t s', f s a = .ok s' → ∃ t', f t a = .ok t') {xs : List α} {s : σ} :
    (∃ s', xs.foldlM f s = .ok s') ↔ ∀ x ∈ xs, ∃ s', f s x = .ok s' := by
  induction xs generalizing s with
  | nil => exact iff_of_true ⟨s, rfl⟩ nofun
  | cons x xs ih =>
    rw [List.forall_mem_cons, List.foldlM_cons]
    constructor
    · rintro ⟨s', hok⟩
      rcases hx : f s x with e | mid
      · rw [hx] at hok
        cases hok
      · rw [hx] at hok
        refine ⟨⟨mid, rfl⟩, fun y hy => ?_⟩
        obtain ⟨t, ht⟩ := ih.mp ⟨s', hok⟩ y hy
        exact h y mid s t ht
    · rintro ⟨⟨mid, hmid⟩, hrest⟩
      rw [hmid]
      refine ih.mpr fun y hy => ?_
      obtain ⟨t, ht⟩ := hrest y hy
      exact h y s mid t ht

namespace FieldOptions

/-- The options of a field are read alike, whatever was read before. -/
theorem serdeOption_alike (name : Path) (o o' : FieldOptions) :
    OptionReader.Mirrors (fun _ _ => True) (serdeOption name o) (serdeOption name o') := by
  rw [serdeOption, serdeOption]
  split
  · refine .after _ fun stored => ?_
    cases stored with
    | none => exact .pure trivial
    | some stored => exact .pure trivial
  · split
    · exact .pure trivial
    · exact .after _ fun _ => .pure trivial

theorem schemaOption_alike (name : Path) (o o' : FieldOptions) :
    OptionReader.Mirrors (fun _ _ => True) (schemaOption name o) (schemaOption name o') := by
  rw [schemaOption, schemaOption]
  split
  · refine .after _ fun stored => ?_
    split
    · exact .throw _ _
    · exact .pure trivial
  · split
    · exact .pure trivial
    · split
      · exact .pure trivial
      · split
        · exact .pure trivial
        · exact .throw _ _

theorem exists_ofAttribute (a : Attribute) (o t o' : FieldOptions) (h : o.ofAttribute a = .ok o') :
    ∃ t', FieldOptions.ofAttribute t a = .ok t' := by
  obtain ⟨t', ht', -⟩ := ofAttribute_related (R := fun _ _ => True)
    (fun name o o' _ => serdeOption_alike name o o') (fun name o o' _ => schemaOption_alike name o o')
    a o t o' trivial h
  exact ⟨t', ht'⟩

end FieldOptions

namespace ContainerOptions

/-- The options of a struct are read alike, whatever was read before. -/
theorem renameRule_alike (text : String) (o o' : ContainerOptions) :
    OptionReader.Mirrors (fun _ _ => True)
      (do return { o with rule := ← renameRule text } : OptionReader ContainerOptions)
      (do return { o' with rule := ← renameRule text } : OptionReader ContainerOptions) := by
  rw [renameRule]
  cases RenameRule.ofName? text with
  | none => exact .throw _ _
  | some rule => exact .pure trivial

theorem serdeOption_alike (name : Path) (o o' : ContainerOptions) :
    OptionReader.Mirrors (fun _ _ => True) (serdeOption name o) (serdeOption name o') := by
  rw [serdeOption, serdeOption]
  split
  · refine .after _ fun rule => ?_
    cases rule with
    | none => exact .pure trivial
    | some rule => exact renameRule_alike rule o o'
  · exact .after _ fun _ => .pure trivial

theorem schemaOption_alike (name : Path) (o o' : ContainerOptions) :
    OptionReader.Mirrors (fun _ _ => True) (schemaOption name o) (schemaOption name o') := by
  rw [schemaOption, schemaOption]
  split
  · exact .after _ fun rule => renameRule_alike rule o o'
  · exact .throw _ _

theorem exists_ofAttribute (a : Attribute) (o t o' : ContainerOptions)
    (h : o.ofAttribute a = .ok o') : ∃ t', ContainerOptions.ofAttribute t a = .ok t' := by
  obtain ⟨t', ht', -⟩ := ofAttribute_related (R := fun _ _ => True)
    (fun name o o' _ => serdeOption_alike name o o') (fun name o o' _ => schemaOption_alike name o o')
    a o t o' trivial h
  exact ⟨t', ht'⟩

end ContainerOptions

/-! ## Options attribute by attribute -/

/-- The options that an attribute lists. -/
def Source.Attribute.options (forms : OptionForms) (a : Attribute) : List ListedOption :=
  listedOptions forms [a]

/-- The text that an attribute gives under the word for names; of several the last. -/
def Source.Attribute.given? (forms : OptionForms) (a : Attribute) : Option String :=
  lastGiven? forms.naming (a.options forms)

/-- An option is listed alike after any others. -/
theorem ListedOption.read_mirrors (forms : OptionForms) (before : List ListedOption)
    (space : OptionSpace) (name : Path) (os own : List ListedOption) (h : os = before ++ own) :
    OptionReader.Mirrors (fun os own => os = before ++ own) (ListedOption.read forms space name os)
      (ListedOption.read forms space name own) := by
  rw [ListedOption.read, ListedOption.read]
  exact .after _ fun text => .pure (by rw [h, List.append_assoc])

/-- The options of an attribute do not depend on those that were listed before. -/
theorem ListedOption.ofAttribute_eq {forms : OptionForms} {before os : List ListedOption}
    {a : Attribute} (h : ListedOption.ofAttribute forms before a = .ok os) :
    os = before ++ a.options forms := by
  have hown : ∃ own, ListedOption.ofAttribute forms [] a = .ok own ∧ os = before ++ own :=
    ofAttribute_related (ListedOption.read_mirrors forms before .serde)
      (ListedOption.read_mirrors forms before .schema) a before [] os (List.append_nil before).symm h
  obtain ⟨own, hown, hos⟩ := hown
  rw [hos, Attribute.options, listedOptions, List.foldlM_cons, hown]
  rfl

/-- The options of attributes are those of each of them. -/
theorem listedOptions_eq_flatMap {forms : OptionForms} {attributes : List Attribute}
    {os : List ListedOption} (h : attributes.foldlM (ListedOption.ofAttribute forms) [] = .ok os) :
    listedOptions forms attributes = attributes.flatMap (Attribute.options forms) := by
  have hall : ∀ {attributes : List Attribute} {before os : List ListedOption},
      attributes.foldlM (ListedOption.ofAttribute forms) before = .ok os →
      os = before ++ attributes.flatMap (Attribute.options forms) := by
    intro attributes
    induction attributes with
    | nil =>
      intro before os h
      cases h
      exact (List.append_nil before).symm
    | cons a attributes ih =>
      intro before os h
      rw [List.foldlM_cons] at h
      rcases ha : ListedOption.ofAttribute forms before a with e | mid
      · rw [ha] at h
        cases h
      · rw [ha] at h
        rw [ih h, ListedOption.ofAttribute_eq ha, List.append_assoc, List.flatMap_cons]
  rw [listedOptions, h]
  exact hall h

theorem lastGiven?_append (word : String) (os others : List ListedOption) :
    lastGiven? word (os ++ others) = (lastGiven? word others).or (lastGiven? word os) := by
  rw [lastGiven?, List.filterMap_append, List.getLast?_append]
  rfl

/-- The last of several lists that gives a text under a word decides. -/
theorem lastGiven?_flatMap {α : Type} (word : String) (listed : α → List ListedOption)
    (xs : List α) :
    lastGiven? word (xs.flatMap listed) =
      (xs.filterMap fun x => lastGiven? word (listed x)).getLast? := by
  induction xs with
  | nil => rfl
  | cons x xs ih =>
    rw [List.flatMap_cons, lastGiven?_append, ih, List.filterMap_cons]
    cases lastGiven? word (listed x) with
    | none => simp
    | some text =>
      rw [List.getLast?_cons]
      cases (xs.filterMap fun x => lastGiven? word (listed x)).getLast? <;> rfl

/-! ## Declarations with their attributes in another order -/

namespace Source

/-- A field with its attributes in another order. -/
structure FieldDecl.Rearranged (f f' : FieldDecl) : Prop where
  ident : f'.ident = f.ident
  type : f'.type = f.type
  attributes : f.attributes.Perm f'.attributes

/-- The body of a declaration with the attributes of its fields in another order. -/
inductive DeclBody.Rearranged : DeclBody → DeclBody → Prop
  | named {fs fs' : List FieldDecl} : List.Forall₂ FieldDecl.Rearranged fs fs' →
      Rearranged (.named fs) (.named fs')
  | same (body : DeclBody) : Rearranged body body

/-- A declaration with its attributes, and those of its fields, in another order. -/
structure TypeDecl.Rearranged (d d' : TypeDecl) : Prop where
  ident : d'.ident = d.ident
  generic : d'.generic = d.generic
  attributes : d.attributes.Perm d'.attributes
  body : d.body.Rearranged d'.body

/-- The names that the attributes of a field give it, in their order. -/
def FieldDecl.names (f : FieldDecl) : List String :=
  f.attributes.filterMap (Attribute.given? fieldForms)

/-- The rename rules that the attributes of a struct name, in their order. -/
def TypeDecl.rules (d : TypeDecl) : List RenameRule :=
  (d.attributes.filterMap (Attribute.given? structForms)).map fun name =>
    (RenameRule.ofName? name).getD .keep

/-- The names that a field of a struct may come by: those that its attributes give it, or else those
that the rename rules of the struct make of its identifier. -/
def TypeDecl.candidates (d : TypeDecl) (f : FieldDecl) : List String :=
  if f.names = [] then d.rules.map fun rule => rule.apply f.ident.name else f.names

theorem FieldDecl.rearranged_refl (f : FieldDecl) : f.Rearranged f := ⟨rfl, rfl, .refl _⟩

theorem TypeDecl.Rearranged.fields {d d' : TypeDecl} (h : d.Rearranged d') :
    List.Forall₂ FieldDecl.Rearranged d.fields d'.fields := by
  obtain ⟨-, -, -, hbody⟩ := h
  rw [TypeDecl.fields, TypeDecl.fields]
  generalize d.body = body at hbody
  generalize d'.body = body' at hbody
  cases hbody with
  | named hfields => exact hfields
  | same body => exact List.forall₂_same.mpr fun f _ => f.rearranged_refl

end Source

/-! ## What does not depend on the order -/

/-- The options of a field whose attributes can be read are those of its attributes. -/
theorem options_eq_flatMap {f : FieldDecl}
    (h : ∃ o, f.attributes.foldlM FieldOptions.ofAttribute {} = .ok o) :
    f.options = f.attributes.flatMap (Attribute.options fieldForms) := by
  obtain ⟨o, ho⟩ := h
  have hstart : FieldOptions.Reads {} [] := ⟨rfl, fun _ h => absurd h List.not_mem_nil⟩
  obtain ⟨os, hos, -⟩ := foldlM_related (f := FieldOptions.ofAttribute)
    (g := ListedOption.ofAttribute fieldForms)
    (ofAttribute_related (fun name _ _ => FieldOptions.serdeOption_mirrors name)
      fun name _ _ => FieldOptions.schemaOption_mirrors name) hstart ho
  exact listedOptions_eq_flatMap hos

/-- So are those of a struct. -/
theorem structOptions_eq_flatMap {d : TypeDecl}
    (h : ∃ o, d.attributes.foldlM ContainerOptions.ofAttribute {} = .ok o) :
    listedOptions structForms d.attributes =
      d.attributes.flatMap (Attribute.options structForms) := by
  obtain ⟨o, ho⟩ := h
  have hstart : ({} : ContainerOptions) = ContainerOptions.ofListed [] := rfl
  obtain ⟨os, hos, -⟩ := foldlM_related (R := fun o os => o = ContainerOptions.ofListed os)
    (f := ContainerOptions.ofAttribute) (g := ListedOption.ofAttribute structForms)
    (ofAttribute_related (fun name _ os ho => ho ▸ ContainerOptions.serdeOption_mirrors name os)
      fun name _ os ho => ho ▸ ContainerOptions.schemaOption_mirrors name os) hstart ho
  exact listedOptions_eq_flatMap hos

/-- The last attribute that gives a field a name decides, or else the rename rule of its struct. -/
theorem storedName_eq_getLast? {f : FieldDecl}
    (h : ∃ o, f.attributes.foldlM FieldOptions.ofAttribute {} = .ok o) (rule : RenameRule) :
    f.storedName rule = f.names.getLast?.getD (rule.apply f.ident.name) := by
  rw [FieldDecl.storedName, options_eq_flatMap h, lastGiven?_flatMap]
  rfl

/-- The last attribute that names a rename rule decides. -/
theorem rule_eq_getLast? {d : TypeDecl}
    (h : ∃ o, d.attributes.foldlM ContainerOptions.ofAttribute {} = .ok o) :
    d.rule = d.rules.getLast?.getD .keep := by
  rw [TypeDecl.rule, lastRule, structOptions_eq_flatMap h, lastGiven?_flatMap, TypeDecl.rules,
    List.getLast?_map]
  show ((d.attributes.filterMap (Attribute.given? structForms)).getLast?.bind _).getD _ = _
  cases (d.attributes.filterMap (Attribute.given? structForms)).getLast? <;> rfl

namespace Source.FieldDecl.Rearranged

variable {f f' : FieldDecl}

theorem readable (h : f.Rearranged f')
    (hf : ∃ o, f.attributes.foldlM FieldOptions.ofAttribute {} = .ok o) :
    ∃ o, f'.attributes.foldlM FieldOptions.ofAttribute {} = .ok o := by
  rw [exists_foldlM_iff FieldOptions.exists_ofAttribute] at hf ⊢
  exact fun a ha => hf a (h.attributes.mem_iff.mpr ha)

/-- A test of the options of a field does not depend on the order of its attributes. -/
theorem any_options (h : f.Rearranged f')
    (hf : ∃ o, f.attributes.foldlM FieldOptions.ofAttribute {} = .ok o)
    (test : ListedOption → Bool) : f'.options.any test = f.options.any test := by
  rw [options_eq_flatMap hf, options_eq_flatMap (h.readable hf)]
  exact (h.attributes.flatMap_right _).any_eq.symm

theorem kind_eq (h : f.Rearranged f')
    (hf : ∃ o, f.attributes.foldlM FieldOptions.ofAttribute {} = .ok o) : f'.kind = f.kind := by
  rw [FieldDecl.kind, FieldDecl.kind, h.type, FieldDecl.nested, FieldDecl.collection,
    h.any_options hf, h.any_options hf]
  rfl

theorem derivable (h : f.Rearranged f') (hf : f.Derivable) : f'.Derivable := by
  refine ⟨h.readable hf.readable, ?_⟩
  have hskipped : f'.skipped = f.skipped := h.any_options hf.readable _
  have hnested : f'.nested = f.nested := h.any_options hf.readable _
  have hcollection : f'.collection = f.collection := h.any_options hf.readable _
  rw [hskipped, hnested, FieldDecl.Collects, hcollection, h.type]
  exact hf.single

end Source.FieldDecl.Rearranged

/-- What can be derived can be derived with the attributes in any order. -/
theorem exists_deriveFields_of_rearranged {d d' : TypeDecl} (hr : d.Rearranged d')
    (h : ∃ fields, deriveFields d = .ok fields) : ∃ fields, deriveFields d' = .ok fields := by
  rw [exists_deriveFields_iff] at h ⊢
  obtain ⟨hgeneric, ⟨fs, hfs⟩, hreadable, hall⟩ := h
  refine ⟨hr.generic.trans hgeneric, ?_, ?_, ?_⟩
  · have hbody := hr.body
    rw [hfs] at hbody
    cases hd' : d'.body with
    | named fs' => exact ⟨fs', rfl⟩
    | tuple | unit | enumeration | union =>
      rw [hd'] at hbody
      cases hbody
  · rw [exists_foldlM_iff ContainerOptions.exists_ofAttribute] at hreadable ⊢
    exact fun a ha => hreadable a (hr.attributes.mem_iff.mpr ha)
  · have hfields := hr.fields
    generalize d.fields = fs at hfields hall
    generalize d'.fields = fs' at hfields
    clear hr hfs hreadable
    induction hfields with
    | nil => exact nofun
    | cons hf _ ih =>
      obtain ⟨hfirst, hrest⟩ := List.forall_mem_cons.mp hall
      exact List.forall_mem_cons.mpr ⟨hf.derivable hfirst, ih hrest⟩

/-! ## What depends on the order -/

/-- Whatever the order, it is the same fields that are described. -/
theorem forall₂_described {fs fs' : List FieldDecl} {rule rule' : RenameRule}
    {R : Field TypeExpr → Field TypeExpr → Prop} (h : List.Forall₂ FieldDecl.Rearranged fs fs')
    (hall : ∀ f ∈ fs, f.Derivable)
    (hR : ∀ f ∈ fs, ∀ f', f.Rearranged f' → f.skipped = false →
      R (f.described rule) (f'.described rule')) :
    List.Forall₂ R ((fs.filter fun f => !f.skipped).map (FieldDecl.described rule))
      ((fs'.filter fun f => !f.skipped).map (FieldDecl.described rule')) := by
  induction h with
  | nil => exact .nil
  | @cons f f' fs fs' hf _ ih =>
    obtain ⟨hfirst, hrest⟩ := List.forall_mem_cons.mp hall
    have hskipped : f'.skipped = f.skipped := hf.any_options hfirst.readable _
    have hfields := ih hrest fun g hg => hR g (List.mem_cons_of_mem f hg)
    rw [List.filter_cons, List.filter_cons, hskipped]
    cases hfskipped : f.skipped with
    | true => exact hfields
    | false => exact .cons (hR f List.mem_cons_self f' hf hfskipped) hfields

/-- What is last does not matter where all are the same. -/
theorem getLast?_getD_of_perm {α β : Type} {xs ys : List α} (h : xs.Perm ys) {f : α → β}
    (hall : ∀ x ∈ xs, ∀ y ∈ xs, f x = f y) (default : α) :
    f (ys.getLast?.getD default) = f (xs.getLast?.getD default) := by
  cases hx : xs.getLast? with
  | none =>
    rw [List.getLast?_eq_none_iff.mp hx] at h
    rw [← h.nil_eq]
    rfl
  | some x =>
    cases hy : ys.getLast? with
    | none =>
      rw [List.getLast?_eq_none_iff.mp hy] at h
      rw [h.eq_nil] at hx
      cases hx
    | some y =>
      exact hall y (h.mem_iff.mpr (List.mem_of_getLast? hy)) x (List.mem_of_getLast? hx)

namespace Source.TypeDecl

/-- A field of a struct can be replaced by one with its attributes in another order. -/
theorem rearranged_of_field {d : TypeDecl} (before after : List FieldDecl) {f f' : FieldDecl}
    (hbody : d.body = .named (before ++ f :: after)) (h : f.Rearranged f') :
    d.Rearranged { d with body := .named (before ++ f' :: after) } := by
  refine ⟨rfl, rfl, .refl _, ?_⟩
  rw [hbody]
  refine .named (List.rel_append ?_ (.cons h ?_))
  · exact List.forall₂_same.mpr fun g _ => g.rearranged_refl
  · exact List.forall₂_same.mpr fun g _ => g.rearranged_refl

end Source.TypeDecl

/-- A name that some attribute of a field gives is the stored one if the order never matters. -/
theorem storedName_of_mem_names {d : TypeDecl} {fields : List (Field TypeExpr)}
    (h : ∀ d', d.Rearranged d' → deriveFields d' = .ok fields)
    (hd : deriveFields d = .ok fields) {f : FieldDecl} (hf : f ∈ d.fields)
    (hskipped : f.skipped = false) {n : String} (hn : n ∈ f.names) : f.storedName d.rule = n := by
  obtain ⟨-, ⟨fs, hfs⟩, -, hall⟩ := exists_deriveFields_iff.mp ⟨fields, hd⟩
  rw [TypeDecl.fields, hfs] at hf
  obtain ⟨before, after, rfl⟩ := List.append_of_mem hf
  obtain ⟨a, ha, hgiven⟩ := List.mem_filterMap.mp hn
  obtain ⟨early, late, hattributes⟩ := List.append_of_mem ha
  -- the attribute that gives the name is put last
  let f' : FieldDecl := { f with attributes := early ++ late ++ [a] }
  have hf' : f.Rearranged f' := by
    refine ⟨rfl, rfl, ?_⟩
    rw [hattributes]
    exact List.perm_middle.trans (List.perm_append_singleton a (early ++ late)).symm
  have hreadable := (hall f (by rw [TypeDecl.fields, hfs]; exact hf)).readable
  have hskipped' : f'.skipped = false := (hf'.any_options hreadable _).trans hskipped
  have hname : f'.storedName d.rule = n := by
    have hlast : f'.names.getLast? = some n := by
      show ((early ++ late ++ [a]).filterMap _).getLast? = some n
      rw [List.filterMap_append, List.filterMap_cons_some hgiven, List.filterMap_nil,
        List.getLast?_append]
      rfl
    rw [storedName_eq_getLast? (hf'.readable hreadable), hlast]
    rfl
  have hsame := (deriveFields_eq_ok (h _ (TypeDecl.rearranged_of_field _ _ hfs hf'))).1.symm.trans
    (deriveFields_eq_ok hd).1
  rw [TypeDecl.described, TypeDecl.described, TypeDecl.fields, TypeDecl.fields, hfs] at hsame
  simp only [List.filter_append, List.map_append, List.filter_cons, hskipped, hskipped',
    Bool.not_false, if_true, List.map_cons] at hsame
  have hdescribed := (List.cons.inj (List.append_cancel_left hsame)).1
  rw [← hname]
  exact (congrArg Field.name hdescribed).symm

/-- A rename rule that some attribute of a struct names gives a field without a name of its own the
stored one if the order never matters. -/
theorem storedName_of_mem_rules {d : TypeDecl} {fields : List (Field TypeExpr)}
    (h : ∀ d', d.Rearranged d' → deriveFields d' = .ok fields)
    (hd : deriveFields d = .ok fields) {f : FieldDecl} (hf : f ∈ d.fields)
    (hskipped : f.skipped = false) (hnames : f.names = []) {rule : RenameRule}
    (hrule : rule ∈ d.rules) : f.storedName d.rule = rule.apply f.ident.name := by
  obtain ⟨-, -, hreadable, hall⟩ := exists_deriveFields_iff.mp ⟨fields, hd⟩
  obtain ⟨n, hn, rfl⟩ := List.mem_map.mp hrule
  obtain ⟨a, ha, hgiven⟩ := List.mem_filterMap.mp hn
  obtain ⟨early, late, hattributes⟩ := List.append_of_mem ha
  -- the attribute that names the rule is put last
  let d' : TypeDecl := { d with attributes := early ++ late ++ [a] }
  have hd' : d.Rearranged d' := by
    refine ⟨rfl, rfl, ?_, .same _⟩
    rw [hattributes]
    exact List.perm_middle.trans (List.perm_append_singleton a (early ++ late)).symm
  have hrule' : d'.rule = (RenameRule.ofName? n).getD .keep := by
    obtain ⟨-, -, hreadable', -⟩ := exists_deriveFields_iff.mp ⟨fields, h d' hd'⟩
    rw [rule_eq_getLast? hreadable', TypeDecl.rules]
    show (((early ++ late ++ [a]).filterMap _).map _).getLast?.getD _ = _
    rw [List.filterMap_append, List.filterMap_cons_some hgiven, List.filterMap_nil,
      List.map_append, List.getLast?_append]
    rfl
  have hsame := (deriveFields_eq_ok (h d' hd')).1.symm.trans (deriveFields_eq_ok hd).1
  have hmap : ∀ g ∈ d.fields.filter fun f => !f.skipped,
      g.described d'.rule = g.described d.rule := List.map_inj_left.mp hsame
  have hdescribed := hmap f (List.mem_filter.mpr ⟨hf, by rw [hskipped]; rfl⟩)
  have hname : f.storedName d'.rule = f.storedName d.rule := congrArg Field.name hdescribed
  rw [← hname, storedName_eq_getLast? (hall f hf).readable, hnames, hrule']
  rfl

/-- Where all names that a field may come by are the same, the order of the attributes does not
matter to its stored name. -/
theorem storedName_of_candidates {d d' : TypeDecl} {f f' : FieldDecl} (hd : d.Rearranged d')
    (hf : f.Rearranged f') (hstruct : ∃ o, d.attributes.foldlM ContainerOptions.ofAttribute {} = .ok o)
    (hstruct' : ∃ o, d'.attributes.foldlM ContainerOptions.ofAttribute {} = .ok o)
    (hreadable : ∃ o, f.attributes.foldlM FieldOptions.ofAttribute {} = .ok o)
    (hall : ∀ n ∈ d.candidates f, ∀ m ∈ d.candidates f, n = m) :
    f'.storedName d'.rule = f.storedName d.rule := by
  have hnames : f.names.Perm f'.names := hf.attributes.filterMap _
  have hrules : d.rules.Perm d'.rules := (hd.attributes.filterMap _).map _
  rw [storedName_eq_getLast? hreadable, storedName_eq_getLast? (hf.readable hreadable), hf.ident,
    rule_eq_getLast? hstruct, rule_eq_getLast? hstruct']
  rw [TypeDecl.candidates] at hall
  by_cases hempty : f.names = []
  · rw [if_pos hempty] at hall
    rw [hempty] at hnames ⊢
    rw [← hnames.nil_eq]
    refine getLast?_getD_of_perm (f := fun rule : RenameRule => rule.apply f.ident.name) hrules ?_ .keep
    exact fun rule hrule other hother =>
      hall _ (List.mem_map_of_mem hrule) _ (List.mem_map_of_mem hother)
  · rw [if_neg hempty] at hall
    obtain ⟨n, hn⟩ := Option.ne_none_iff_exists'.mp (mt List.getLast?_eq_none_iff.mp hempty)
    have hn' : f'.names.getLast?.getD n = n := by
      have h := getLast?_getD_of_perm (f := id) hnames hall n
      rw [hn] at h
      exact h
    cases hlast : f'.names.getLast? with
    | none =>
      rw [List.getLast?_eq_none_iff.mp hlast] at hnames
      exact absurd hnames.eq_nil hempty
    | some m =>
      rw [hlast] at hn'
      rw [hn]
      exact hn'

/-- **The last attribute that gives a name decides.**  In every order of its attributes and of those
of its fields, a struct describes the same fields of the same kinds.  Each is stored under the name
that its last naming attribute gives it, be it for serialization or for the schema, or else under
the one that the last rename rule of the struct makes of its identifier.  So the order does not
matter just when all names that a field may come by are the same. -/
theorem fields_of_rearranged {d : TypeDecl} {fields : List (Field TypeExpr)}
    (h : deriveFields d = .ok fields) :
    (∀ d', d.Rearranged d' → ∃ fields', deriveFields d' = .ok fields' ∧
      fields' = (d'.fields.filter fun f => !f.skipped).map (fun f =>
        ⟨f.ident.name, f.names.getLast?.getD ((d'.rules.getLast?.getD .keep).apply f.ident.name),
          f.kind⟩) ∧
      List.Forall₂ (fun x x' => x'.ident = x.ident ∧ x'.kind = x.kind) fields fields') ∧
    ((∀ d', d.Rearranged d' → deriveFields d' = .ok fields) ↔
      ∀ f ∈ d.fields, f.skipped = false →
        ∀ n ∈ d.candidates f, ∀ m ∈ d.candidates f, n = m) := by
  obtain ⟨-, -, hreadable, hall⟩ := exists_deriveFields_iff.mp ⟨fields, h⟩
  obtain ⟨rfl, -⟩ := deriveFields_eq_ok h
  refine ⟨fun d' hr => ?_, fun hsame f hf hskipped => ?_, fun hcandidates d' hr => ?_⟩
  · obtain ⟨fields', h'⟩ := exists_deriveFields_of_rearranged hr ⟨_, h⟩
    obtain ⟨-, -, hreadable', hall'⟩ := exists_deriveFields_iff.mp ⟨fields', h'⟩
    obtain ⟨rfl, -⟩ := deriveFields_eq_ok h'
    refine ⟨_, h', ?_, ?_⟩
    · refine List.map_congr_left fun f hf => ?_
      rw [FieldDecl.described, storedName_eq_getLast? (hall' f (List.mem_of_mem_filter hf)).readable,
        rule_eq_getLast? hreadable']
    · exact forall₂_described hr.fields hall fun f hf f' hff' _ =>
        ⟨congrArg Ident.name hff'.ident, hff'.kind_eq (hall f hf).readable⟩
  · -- whichever name is given last is the stored one, so all of them are
    have hstored : ∀ n ∈ d.candidates f, f.storedName d.rule = n := by
      intro n hn
      rw [TypeDecl.candidates] at hn
      by_cases hnames : f.names = []
      · rw [if_pos hnames] at hn
        obtain ⟨rule, hrule, rfl⟩ := List.mem_map.mp hn
        exact storedName_of_mem_rules hsame h hf hskipped hnames hrule
      · rw [if_neg hnames] at hn
        exact storedName_of_mem_names hsame h hf hskipped hn
    exact fun n hn m hm => (hstored n hn).symm.trans (hstored m hm)
  · obtain ⟨fields', h'⟩ := exists_deriveFields_of_rearranged hr ⟨_, h⟩
    obtain ⟨-, -, hreadable', -⟩ := exists_deriveFields_iff.mp ⟨fields', h'⟩
    have hfields : List.Forall₂ (fun x x' => x = x') d.described d'.described := by
      refine forall₂_described hr.fields hall fun f hf f' hff' hskipped => ?_
      rw [FieldDecl.described, FieldDecl.described, hff'.ident, hff'.kind_eq (hall f hf).readable,
        storedName_of_candidates hr hff' hreadable hreadable' (hall f hf).readable
          (hcandidates f hf hskipped)]
    rw [List.forall₂_eq_eq_eq] at hfields
    rw [h', (deriveFields_eq_ok h').1, hfields]

/-! ## Names for both -/

/-- An attribute for the given purpose that gives a text under a word. -/
def giving (space word text : String) : Attribute where
  path := .ofIdent ⟨space, false⟩
  arguments := some [.ident ⟨word, false⟩, .punct '=' false,
    .literal ⟨.string, '"' :: text.toList ++ ['"']⟩]

/-- Posts with a title that has the given attributes. -/
def postsWith (attributes : List Attribute) : TypeDecl where
  attributes := [giving "serde" "rename_all" "UPPERCASE"]
  ident := ⟨"Post", false⟩
  generic := false
  body := .named
    [⟨⟨"title", false⟩, .mk (.path (.ofIdent ⟨"String", false⟩)) [.ident ⟨"String", false⟩],
      attributes⟩]

theorem exists_fields_of_names {d : TypeDecl} {names : List String}
    (h : (deriveFields d).toOption.map (List.map Field.name) = some names) :
    ∃ fields, deriveFields d = .ok fields ∧ fields.map Field.name = names := by
  rcases hd : deriveFields d with e | fields
  · rw [hd] at h
    cases h
  · rw [hd] at h
    exact ⟨fields, rfl, Option.some.inj h⟩

/-- A title that is given different names for the schema and for serialization may be stored under
either; one that is given the same name for both is stored under it, in any order. -/
theorem fields_of_posts :
    (∃ fields, deriveFields (postsWith [giving "schema" "rename" "Headline",
      giving "serde" "rename" "heading"]) = .ok fields ∧
      ¬∀ d', (postsWith [giving "schema" "rename" "Headline",
        giving "serde" "rename" "heading"]).Rearranged d' → deriveFields d' = .ok fields) ∧
    ∃ fields, deriveFields (postsWith [giving "schema" "rename" "Headline",
      giving "serde" "rename" "Headline"]) = .ok fields ∧
      ∀ d', (postsWith [giving "schema" "rename" "Headline",
        giving "serde" "rename" "Headline"]).Rearranged d' → deriveFields d' = .ok fields := by
  constructor
  · obtain ⟨fields, hfields, -⟩ := exists_fields_of_names
      (show (deriveFields (postsWith [giving "schema" "rename" "Headline",
        giving "serde" "rename" "heading"])).toOption.map (List.map Field.name) =
          some ["heading"] by decide +kernel)
    refine ⟨fields, hfields, fun hsame => ?_⟩
    have h := (fields_of_rearranged hfields).2.mp hsame _ List.mem_cons_self (by decide +kernel)
      "Headline" (by decide +kernel) "heading" (by decide +kernel)
    exact absurd h (by decide)
  · obtain ⟨fields, hfields, -⟩ := exists_fields_of_names
      (show (deriveFields (postsWith [giving "schema" "rename" "Headline",
        giving "serde" "rename" "Headline"])).toOption.map (List.map Field.name) =
          some ["Headline"] by decide +kernel)
    refine ⟨fields, hfields, (fields_of_rearranged hfields).2.mpr fun f hf _ => ?_⟩
    cases List.mem_singleton.mp hf
    decide +kernel

/-- Options of a purpose under a word, one at most for each purpose. -/
def OncePerSpace (word : String) (os : List ListedOption) : Prop :=
  ∀ space, (os.filter fun o => o.space == space && o.name.isWord word).length ≤ 1

/-- The order of attributes does matter, though each purpose gives one name at most: a name for the
schema does not win over one for serialization that stands after it. -/
theorem not_fields_of_rearranged :
    ¬∀ (d d' : TypeDecl) (fields : List (Field TypeExpr)), deriveFields d = .ok fields →
      d.Rearranged d' → OncePerSpace "rename_all" (listedOptions structForms d.attributes) →
      (∀ f ∈ d.fields, OncePerSpace "rename" f.options) → deriveFields d' = .ok fields := by
  intro hall
  obtain ⟨fields, hfields, hnames⟩ := exists_fields_of_names
    (show (deriveFields (postsWith [giving "serde" "rename" "heading",
      giving "schema" "rename" "Headline"])).toOption.map (List.map Field.name) =
        some ["Headline"] by decide +kernel)
  obtain ⟨fields', hfields', hnames'⟩ := exists_fields_of_names
    (show (deriveFields (postsWith [giving "schema" "rename" "Headline",
      giving "serde" "rename" "heading"])).toOption.map (List.map Field.name) =
        some ["heading"] by decide +kernel)
  have hr : (postsWith [giving "serde" "rename" "heading",
      giving "schema" "rename" "Headline"]).Rearranged
      (postsWith [giving "schema" "rename" "Headline", giving "serde" "rename" "heading"]) :=
    TypeDecl.rearranged_of_field [] [] rfl ⟨rfl, rfl, .swap _ _ _⟩
  have hstruct : OncePerSpace "rename_all" (listedOptions structForms
      (postsWith [giving "serde" "rename" "heading",
        giving "schema" "rename" "Headline"]).attributes) := by
    intro space
    cases space <;> decide +kernel
  have hfield : ∀ f ∈ (postsWith [giving "serde" "rename" "heading",
      giving "schema" "rename" "Headline"]).fields, OncePerSpace "rename" f.options := by
    intro f hf space
    cases List.mem_singleton.mp hf
    cases space <;> decide +kernel
  have hsame := hall _ _ _ hfields hr hstruct hfield
  rw [hfields'] at hsame
  cases hsame
  rw [hnames] at hnames'
  exact absurd hnames' (by decide)

end PatchStore
