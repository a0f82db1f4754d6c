import PatchStore.Proofs.Schema.Family

/-!
# Fields without a name

No path can be made of names one of which is empty.  A selector, though, takes the stored names of
declared fields as they are, and these may be empty in two ways.  An option that names a field for
serialization may give an empty name, while one that names it for the schema alone may not; and the
rename rules that drop underscores leave nothing of an identifier that has no other characters.
Nothing else leaves a field without a name, whatever its attributes and its identifier are.

* `RenameRule.apply_eq_empty_iff` — when a rename rule leaves nothing of an identifier.
* `DeclaredField.storedName_eq_empty_iff` — when a field is stored under an empty name.
* `exists_way_of_leadsTo` — a schema leads along declared fields.
* `extract_of_derive` — a selector's path can be made of its names just when no field on the way is
  nameless.
* `not_ofNames_of_extract` — so there are paths of selectors that cannot.
-/

namespace PatchStore

open Source

/-! ## What rename rules drop -/

namespace RenameRule

/-- The rule leaves a character out of names. -/
def Drops (rule : RenameRule) (c : Char) : Prop := (rule = .pascal ∨ rule = .camel) ∧ c = '_'

theorem capitalize_eq_nil_iff {pending : Bool} {cs : List Char} :
    capitalize pending cs = [] ↔ ∀ c ∈ cs, c = '_' := by
  induction cs generalizing pending with
  | nil => simp
  | cons c cs ih =>
    by_cases hc : c = '_'
    · rw [capitalize, if_pos hc, ih, List.forall_mem_cons, and_iff_right hc]
    · rw [capitalize_cons hc]
      exact iff_of_false (List.cons_ne_nil _ _) fun h => hc (h c List.mem_cons_self)

theorem uncapitalize_eq_nil_iff {cs : List Char} : uncapitalize cs = [] ↔ cs = [] := by
  cases cs <;> simp [uncapitalize]

/-- A rule leaves nothing of characters just when it drops each of them. -/
theorem applyChars_eq_nil_iff {rule : RenameRule} {cs : List Char} :
    rule.applyChars cs = [] ↔ ∀ c ∈ cs, rule.Drops c := by
  cases rule with
  | pascal => simp [applyChars, Drops, capitalize_eq_nil_iff]
  | camel => simp [applyChars, Drops, uncapitalize_eq_nil_iff, capitalize_eq_nil_iff]
  | keep | lower | upper | snake | screamingSnake | kebab | screamingKebab =>
    simp [applyChars, Drops, List.eq_nil_iff_forall_not_mem]

/-- A rule leaves nothing of an identifier just when it drops each of its characters. -/
theorem apply_eq_empty_iff {rule : RenameRule} {ident : String} :
    rule.apply ident = "" ↔ ∀ c ∈ ident.toList, rule.Drops c := by
  rw [apply, ← applyChars_eq_nil_iff]
  constructor
  · intro h
    simpa using congrArg String.toList h
  · intro h
    rw [h]

end RenameRule

/-! ## Stored names -/

/-- The text that is last given is given by an option after which none gives any. -/
theorem lastGiven?_eq_some_iff {word text : String} {os : List ListedOption} :
    lastGiven? word os = some text ↔ ∃ before o after, os = before ++ o :: after ∧
      o.given? word = some text ∧ ∀ later ∈ after, later.given? word = none := by
  rw [lastGiven?, List.getLast?_eq_some_iff]
  constructor
  · rintro ⟨texts, htexts⟩
    obtain ⟨before, rest, rfl, -, hrest⟩ := List.filterMap_eq_append_iff.mp htexts
    obtain ⟨silent, o, after, rfl, -, hgiven, hafter⟩ := List.filterMap_eq_cons_iff.mp hrest
    exact ⟨before ++ silent, o, after, by simp, hgiven, List.filterMap_eq_nil_iff.mp hafter⟩
  · rintro ⟨before, o, after, rfl, hgiven, hafter⟩
    refine ⟨before.filterMap (ListedOption.given? word), ?_⟩
    rw [List.filterMap_append, List.filterMap_cons_some hgiven,
      List.filterMap_eq_nil_iff.mpr hafter]

/-- No text is given last when none is given. -/
theorem lastGiven?_eq_none_iff {word : String} {os : List ListedOption} :
    lastGiven? word os = none ↔ ∀ o ∈ os, o.given? word = none := by
  simp [lastGiven?]

/-- A field with the struct that declares it. -/
structure DeclaredField where
  struct : TypeDecl
  field : FieldDecl

namespace DeclaredField

/-- The identifier of the field. -/
def ident (x : DeclaredField) : String := x.field.ident.name

/-- The name that the field is stored under. -/
def storedName (x : DeclaredField) : String := x.field.storedName x.struct.rule

/-- The field is left without a name.  Either an option for serialization gives it an empty one,
which no later option changes, or no option gives any and the rename rule of the struct drops all of
the identifier. -/
inductive Nameless (x : DeclaredField) : Prop
  | renamed {before after : List ListedOption} {o : ListedOption} :
      x.field.options = before ++ o :: after → o.space = .serde → o.given? "rename" = some "" →
      (∀ later ∈ after, later.given? "rename" = none) → Nameless x
  | dropped : (∀ o ∈ x.field.options, o.given? "rename" = none) →
      (∀ c ∈ x.ident.toList, x.struct.rule.Drops c) → Nameless x

/-- The stored name of a field that is accepted is empty just when the field is nameless. -/
theorem storedName_eq_empty_iff {x : DeclaredField} (h : x.field.Accepted) :
    x.storedName = "" ↔ x.Nameless := by
  rw [storedName, FieldDecl.storedName]
  constructor
  · intro hempty
    rcases hlast : lastGiven? "rename" x.field.options with _ | text
    · rw [hlast] at hempty
      exact .dropped (lastGiven?_eq_none_iff.mp hlast) (RenameRule.apply_eq_empty_iff.mp hempty)
    · rw [hlast] at hempty
      cases hempty
      obtain ⟨before, o, after, hoptions, hgiven, hlater⟩ := lastGiven?_eq_some_iff.mp hlast
      have ho : o ∈ x.field.options := by
        rw [hoptions]
        exact List.mem_append_cons_self
      have hspace : o.space = .serde := by
        cases hspace : o.space with
        | serde => rfl
        | schema => exact absurd hgiven (h.named o ho hspace)
      exact .renamed hoptions hspace hgiven hlater
  · intro hnameless
    cases hnameless with
    | renamed hoptions _ hgiven hlater =>
      rw [lastGiven?_eq_some_iff.mpr ⟨_, _, _, hoptions, hgiven, hlater⟩]
      rfl
    | dropped hnone hdropped =>
      rw [lastGiven?_eq_none_iff.mpr hnone]
      exact RenameRule.apply_eq_empty_iff.mpr hdropped

end DeclaredField

/-! ## Ways through declared fields -/

/-- From a struct, a way goes down through declared fields, of which none is skipped and all but the
last are marked nested. -/
inductive Way (decls : List TypeDecl) : String → List DeclaredField → Prop
  | last {struct : String} {x : DeclaredField} :
      Declares decls struct x.ident x.struct x.field → x.field.skipped = false →
      Way decls struct [x]
  | through {struct : String} {x : DeclaredField} {t : TypeExpr} {rest : List DeclaredField} :
      Declares decls struct x.ident x.struct x.field → x.field.skipped = false →
      x.field.nested = true → UnwrapsTo x.field.type t → Way decls (referredType t) rest →
      Way decls struct (x :: rest)

/-- The fields on a way are declared. -/
theorem Way.exists_declares {decls : List TypeDecl} {struct : String} {way : List DeclaredField}
    (h : Way decls struct way) :
    ∀ x ∈ way, x.struct ∈ decls ∧ x.field ∈ x.struct.fields := by
  induction h with
  | last hdeclares => exact List.forall_mem_singleton.mpr ⟨hdeclares.mem, hdeclares.field⟩
  | through hdeclares _ _ _ _ ih =>
    exact List.forall_mem_cons.mpr ⟨⟨hdeclares.mem, hdeclares.field⟩, ih⟩

section

variable {root : String} {texts : List String} {schema : Schema}

/-- Where the schema leads to a field, it leads along declared fields under their stored names. -/
theorem exists_way_of_leadsTo (hderive : Schema.derive root texts = .ok schema) {struct : String}
    {idents : List String} {r : ResolvedField}
    (h : schema.LeadsTo (schema.fieldsOf struct) idents r) :
    ∃ way, Way (declarations texts) struct way ∧ idents = way.map DeclaredField.ident ∧
      r.path.names = way.map DeclaredField.storedName := by
  generalize hfields : schema.fieldsOf struct = fields at h
  induction h generalizing struct with
  | last hfirst =>
    subst hfields
    obtain ⟨d, f, hdeclares, hskipped, rfl⟩ := exists_declares_of_isFirst hderive hfirst
    obtain rfl := hdeclares.ident
    exact ⟨[⟨d, f⟩], .last hdeclares hskipped, rfl, rfl⟩
  | descend hfirst hkind _ ih =>
    subst hfields
    obtain ⟨d, f, hdeclares, hskipped, rfl⟩ := exists_declares_of_isFirst hderive hfirst
    obtain rfl := hdeclares.ident
    obtain ⟨t, hnested, ht, rfl⟩ := kind_described_eq_object_iff.mp hkind
    obtain ⟨way, hway, rfl, hnames⟩ := ih rfl
    exact ⟨⟨d, f⟩ :: way, .through hdeclares hskipped hnested ht hway, rfl,
      congrArg (f.storedName d.rule :: ·) hnames⟩

/-- **Only nameless fields spoil a path.**  In a schema that is derived from declarations, whatever
their attributes are, the path of a selector has the stored names of the fields on its way.  It can
be made of these names just when none of the fields is nameless. -/
theorem extract_of_derive (hderive : Schema.derive root texts = .ok schema) {s : Selector}
    {path : PropertyPath} (h : s.extract schema = .ok path) :
    ∃ way, Way (declarations texts) root way ∧
      s.body.members s.parameter = .ok (way.map DeclaredField.ident) ∧
      path.names = way.map DeclaredField.storedName ∧
      (PropertyPath.ofNames path.names = .ok path ↔ ∀ x ∈ way, ¬x.Nameless) := by
  obtain ⟨r, hr, rfl⟩ := Selector.exists_resolve_of_extract h
  obtain ⟨idents, hmembers, -⟩ := Selector.resolve_eq_ok_iff.mp hr
  have hleads := (resolve_eq_ok_iff_leadsTo hderive hmembers).mp hr
  obtain ⟨way, hway, rfl, hnames⟩ := exists_way_of_leadsTo hderive hleads
  refine ⟨way, hway, hmembers, hnames, ?_⟩
  rw [PropertyPath.ofNames_names_eq_ok_iff, hnames, List.forall_mem_map]
  refine forall₂_congr fun x hx => not_congr ?_
  obtain ⟨hd, hf⟩ := hway.exists_declares x hx
  exact DeclaredField.storedName_eq_empty_iff ((derive_eq_ok hderive).2 x.struct hd x.field hf)

end

/-! ## Selectors as texts -/

/-- The names of the path that the text of a selector has in the schema of declarations. -/
def selectedNames? (root : String) (texts : List String) (source : String) :
    Option (List String) := do
  let schema ← (Schema.derive root texts).toOption
  let s ← (Selector.parse source).toOption
  return (← (s.extract schema).toOption).names

theorem exists_of_selectedNames? {root source : String} {texts names : List String}
    (h : selectedNames? root texts source = some names) :
    ∃ schema s path, Schema.derive root texts = .ok schema ∧ Selector.parse source = .ok s ∧
      s.extract schema = .ok path ∧ path.names = names := by
  rw [selectedNames?] at h
  rcases hderive : Schema.derive root texts with e | schema
  · rw [hderive] at h
    cases h
  · rcases hparse : Selector.parse source with e | s
    · rw [hderive, hparse] at h
      cases h
    · rcases hextract : s.extract schema with e | path
      · simp [hderive, hparse, hextract, Except.toOption] at h
      · have hnames : path.names = names := by
          simpa [hderive, hparse, hextract, Except.toOption] using h
        exact ⟨schema, s, path, rfl, rfl, hextract, hnames⟩

/-- Memos by authors, who have a field whose identifier their rename rule leaves nothing of. -/
def memoTexts : List String :=
  ["struct Memo \x7b #[schema(nested)] author: Author \x7d",
   "#[serde(rename_all = \"PascalCase\")] struct Author \x7b __: String, name: String \x7d"]

/-- The path to the name of a memo's author can be made of its names; the path to the field beside
it cannot, as that field is nameless. -/
theorem extract_of_memo :
    (∃ schema s path way, Schema.derive "Memo" memoTexts = .ok schema ∧
      Selector.parse "m.author.name" = .ok s ∧ s.extract schema = .ok path ∧
      PropertyPath.ofNames path.names = .ok path ∧
      Way (declarations memoTexts) "Memo" way ∧ ∀ x ∈ way, ¬x.Nameless) ∧
    ∃ schema s path way, Schema.derive "Memo" memoTexts = .ok schema ∧
      Selector.parse "m.author.__" = .ok s ∧ s.extract schema = .ok path ∧
      PropertyPath.ofNames path.names ≠ .ok path ∧
      Way (declarations memoTexts) "Memo" way ∧ ∃ x ∈ way, x.Nameless := by
  constructor
  · obtain ⟨schema, s, path, hderive, hparse, hextract, hpath⟩ := exists_of_selectedNames?
      (show selectedNames? "Memo" memoTexts "m.author.name" = some ["author", "Name"] by
        decide +kernel)
    obtain ⟨way, hway, -, -, hnames⟩ := extract_of_derive hderive hextract
    have hok : PropertyPath.ofNames path.names = .ok path := by
      rw [PropertyPath.ofNames_names_eq_ok_iff, hpath]
      decide
    exact ⟨schema, s, path, way, hderive, hparse, hextract, hok, hway, hnames.mp hok⟩
  · obtain ⟨schema, s, path, hderive, hparse, hextract, hpath⟩ := exists_of_selectedNames?
      (show selectedNames? "Memo" memoTexts "m.author.__" = some ["author", ""] by
        decide +kernel)
    obtain ⟨way, hway, -, -, hnames⟩ := extract_of_derive hderive hextract
    have hnot : PropertyPath.ofNames path.names ≠ .ok path := by
      rw [Ne, PropertyPath.ofNames_names_eq_ok_iff, hpath]
      decide
    have hnameless : ∃ x ∈ way, x.Nameless := by
      simpa using fun hall => hnot (hnames.mpr hall)
    exact ⟨schema, s, path, way, hderive, hparse, hextract, hnot, hway, hnameless⟩

/-- The path of a selector cannot always be made of its names. -/
theorem not_ofNames_of_extract :
    ¬∀ (root : String) (texts : List String) (schema : Schema) (source : String) (s : Selector)
      (path : PropertyPath), Schema.derive root texts = .ok schema →
      Selector.parse source = .ok s → s.extract schema = .ok path →
      PropertyPath.ofNames path.names = .ok path := by
  intro hall
  obtain ⟨schema, s, path, hderive, hparse, hextract, hpath⟩ := exists_of_selectedNames?
    (show selectedNames? "Post" ["struct Post \x7b #[serde(rename = \"\")] title: String \x7d"]
      "x.title" = some [""] by decide +kernel)
  have hok := hall _ _ _ _ _ _ hderive hparse hextract
  rw [PropertyPath.ofNames_names_eq_ok_iff, hpath] at hok
  exact hok "" List.mem_cons_self rfl

end PatchStore
