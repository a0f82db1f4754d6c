import PatchStore.Schema.Derive

/-!
# What attributes say about fields and structs

The options of the attributes of a field or a struct are listed in their order (`listedOptions`), each
with the text that it gives, and what they say is said about the whole list: a field is skipped when
some option skips it, and the last option that gives a name gives it.  Deriving reads options one by
one and keeps only what they amount to so far; `Mirrors` relates it to the listing, reader by reader.

* `Mirrors.options` — reading options one by one keeps to a relation that each option keeps to.
* `fieldOptions_reads` — the options of a field amount to what the list of them says.
* `containerOptions_eq` — the rename rule of a struct is the last that its options name.
-/

namespace PatchStore

open Source

/-! ## Readers that go the same way -/

namespace OptionReader

variable {α β γ δ σ τ : Type} {R : α → β → Prop}

/-- Whatever the one reader reads, the other reads as well, from the same place to the same place,
and what they give is related. -/
def Mirrors (R : α → β → Prop) (w : OptionReader α) (w' : OptionReader β) : Prop :=
  ∀ c x c', w.run c = .ok (x, c') → ∃ y, w'.run c = .ok (y, c') ∧ R x y

theorem Mirrors.pure {x : α} {y : β} (h : R x y) : Mirrors R (pure x) (pure y) := by
  intro c x' c' hrun
  cases hrun
  exact ⟨y, rfl, h⟩

/-- A failure goes any way. -/
theorem Mirrors.throw (e : DeriveError) (w' : OptionReader β) : Mirrors R (throw e) w' := by
  intro c x c' hrun
  cases hrun

theorem Mirrors.bind {S : γ → δ → Prop} {w : OptionReader α} {w' : OptionReader β}
    {f : α → OptionReader γ} {f' : β → OptionReader δ} (h : Mirrors R w w')
    (hf : ∀ x y, R x y → Mirrors S (f x) (f' y)) : Mirrors S (w >>= f) (w' >>= f') := by
  intro c z c' hrun
  rw [StateT.run_bind] at hrun
  rcases hw : w.run c with e | ⟨x, mid⟩
  · rw [hw] at hrun
    cases hrun
  · rw [hw] at hrun
    obtain ⟨y, hw', hxy⟩ := h c x mid hw
    obtain ⟨z', hz', hzz'⟩ := hf x y hxy mid z c' hrun
    refine ⟨z', ?_, hzz'⟩
    rw [StateT.run_bind, hw']
    exact hz'

/-- Two readers that begin alike go the same way if they do so from then on. -/
theorem Mirrors.after {S : γ → δ → Prop} (w : OptionReader α) {f : α → OptionReader γ}
    {f' : α → OptionReader δ} (hf : ∀ x, Mirrors S (f x) (f' x)) :
    Mirrors S (w >>= f) (w >>= f') :=
  Mirrors.bind (R := Eq) (fun _ x _ hrun => ⟨x, hrun, rfl⟩) fun x _ hxy => hxy ▸ hf x

/-- Options that are read one by one keep to a relation that each of them keeps to. -/
theorem Mirrors.options {R : σ → τ → Prop} {option : Path → σ → OptionReader σ}
    {option' : Path → τ → OptionReader τ}
    (h : ∀ name s t, R s t → Mirrors R (option name s) (option' name t)) (fuel : Nat) {s : σ}
    {t : τ} (hst : R s t) : Mirrors R (options option fuel s) (options option' fuel t) := by
  -- both stop at the same commas, as neither the names nor the ends depend on what is gathered
  induction fuel generalizing s t with
  | zero => exact .throw _ _
  | succ fuel ih =>
    refine .after _ fun name => .bind (h name s t hst) fun s t hst => .after _ fun atEnd => ?_
    cases atEnd with
    | true => exact .pure hst
    | false =>
      refine .after _ fun _ => .after _ fun atEnd => ?_
      cases atEnd with
      | true => exact .pure hst
      | false => exact ih hst

/-- So do the options of an attribute. -/
theorem ofAttribute_mirrors {R : σ → τ → Prop} {option : Path → σ → OptionReader σ}
    {option' : Path → τ → OptionReader τ}
    (h : ∀ name s t, R s t → Mirrors R (option name s) (option' name t)) {a : Attribute} {s s' : σ}
    {t : τ} (hst : R s t) (hok : ofAttribute option a s = .ok s') :
    ∃ t', ofAttribute option' a t = .ok t' ∧ R s' t' := by
  rcases harguments : a.arguments with _ | _ | ⟨first, body⟩
  · simp only [ofAttribute, harguments] at hok
    cases hok
  · simp only [ofAttribute, harguments] at hok ⊢
    cases hok
    exact ⟨t, rfl, hst⟩
  · simp only [ofAttribute, harguments, bind, Except.bind] at hok ⊢
    split at hok
    · cases hok
    · rename_i r hrun
      obtain ⟨t'', hrun', hst''⟩ := Mirrors.options h _ hst _ _ _ hrun
      rw [hrun']
      split at hok
      · rename_i hdone
        cases hok
        exact ⟨t'', if_pos hdone, hst''⟩
      · cases hok

end OptionReader

/-- Changes one after the other keep to a relation that each of them keeps to. -/
theorem foldlM_related {α σ τ ε : Type} {R : σ → τ → Prop} {f : σ → α → Except ε σ}
    {g : τ → α → Except ε τ}
    (h : ∀ a s t s', R s t → f s a = .ok s' → ∃ t', g t a = .ok t' ∧ R s' t') {xs : List α}
    {s s' : σ} {t : τ} (hst : R s t) (hok : xs.foldlM f s = .ok s') :
    ∃ t', xs.foldlM g t = .ok t' ∧ R s' t' := by
  induction xs generalizing s t with
  | nil =>
    cases hok
    exact ⟨t, rfl, hst⟩
  | cons x xs ih =>
    rw [List.foldlM_cons] at hok ⊢
    rcases hx : f s x with e | s₁
    · rw [hx] at hok
      cases hok
    · rw [hx] at hok
      obtain ⟨t₁, ht₁, hst₁⟩ := h x s t s₁ hst hx
      rw [ht₁]
      exact ih hst₁ hok

/-! ## Listing options -/

/-- What an option is for: serialization, or the schema alone. -/
inductive OptionSpace where
  | serde
  | schema
  deriving DecidableEq

/-- An option of an attribute: what it is for, its name, and the text that it gives if it is one that
gives a name. -/
structure ListedOption where
  space : OptionSpace
  name : Path
  text : Option String

/-- How options are written: the word for the one that gives a name, and the words that stand alone
where others may have a value. -/
structure OptionForms where
  naming : String
  bare : List String

/-- The forms of the options of a field. -/
def fieldForms : OptionForms := ⟨"rename", ["skip", "skip_serializing", "flatten"]⟩

/-- The forms of the options of a struct. -/
def structForms : OptionForms := ⟨"rename_all", []⟩

namespace ListedOption

/-- Reads what follows the name of an option, and gives the text of one that gives a name. -/
def readText (forms : OptionForms) (name : Path) : OptionSpace → OptionReader (Option String)
  | .serde => do
    if name.isWord forms.naming then OptionReader.storedName
    else if forms.bare.any name.isWord then return none
    else
      OptionReader.skip
      return none
  | .schema => do
    if name.isWord forms.naming then return some (← OptionReader.textValue)
    else return none

/-- Reads an option and lists it after others. -/
def read (forms : OptionForms) (space : OptionSpace) (name : Path) (before : List ListedOption) :
    OptionReader (List ListedOption) := do
  return before ++ [⟨space, name, ← readText forms name space⟩]

/-- The options with those that an attribute adds. -/
def ofAttribute (forms : OptionForms) (before : List ListedOption) (a : Attribute) :
    Except DeriveError (List ListedOption) :=
  if a.path.isWord "serde" then OptionReader.ofAttribute (read forms .serde) a before
  else if a.path.isWord "schema" then OptionReader.ofAttribute (read forms .schema) a before
  else .ok before

/-- The option keeps a field from being stored as a member of its own. -/
def skips (o : ListedOption) : Bool :=
  match o.space with
  | .serde => o.name.isWord "skip" || o.name.isWord "skip_serializing" || o.name.isWord "flatten"
  | .schema => o.name.isWord "skip"

/-- The option marks a field for the schema by the given word. -/
def marks (word : String) (o : ListedOption) : Bool := o.space == .schema && o.name.isWord word

/-- The text that the option gives under the given word. -/
def given? (word : String) (o : ListedOption) : Option String :=
  if o.name.isWord word then o.text else none

end ListedOption

/-- The options that attributes list, in their order; none if an attribute is malformed. -/
def listedOptions (forms : OptionForms) (attributes : List Attribute) : List ListedOption :=
  ((attributes.foldlM (ListedOption.ofAttribute forms) []).toOption).getD []

/-- The text that was last given under a word. -/
def lastGiven? (word : String) (os : List ListedOption) : Option String :=
  (os.filterMap (ListedOption.given? word)).getLast?

/-- An option that gives a text under the word overrules the earlier ones. -/
theorem lastGiven?_concat (word : String) (os : List ListedOption) (o : ListedOption) :
    lastGiven? word (os ++ [o]) = (o.given? word).or (lastGiven? word os) := by
  rw [lastGiven?, List.filterMap_append, List.getLast?_append]
  rcases h : o.given? word with _ | text <;> simp [h, lastGiven?]

/-- What options give for the schema alone as the name of a field is not empty. -/
def NamesForSchema (os : List ListedOption) : Prop :=
  ∀ o ∈ os, o.space = .schema → o.given? "rename" ≠ some ""

theorem NamesForSchema.concat {os : List ListedOption} (h : NamesForSchema os) {o : ListedOption}
    (ho : o.space = .schema → o.given? "rename" ≠ some "") : NamesForSchema (os ++ [o]) := by
  intro x hx
  rcases List.mem_append.mp hx with hx | hx
  · exact h x hx
  · cases List.mem_singleton.mp hx
    exact ho

/-- Two words are not the same path. -/
theorem isWord_eq_false {p : Path} {word other : String} (h : p.isWord word = true)
    (hne : word ≠ other) : p.isWord other = false := by
  have hword : p.ident? = some ⟨word, false⟩ := by simpa [Path.isWord] using h
  simpa [Path.isWord, hword] using hne

namespace Source

namespace FieldDecl

/-- The options that the attributes of a field list. -/
def options (f : FieldDecl) : List ListedOption := listedOptions fieldForms f.attributes

/-- Some option keeps the field from being stored as a member of its own. -/
def skipped (f : FieldDecl) : Bool := f.options.any ListedOption.skips

/-- The field is marked nested. -/
def nested (f : FieldDecl) : Bool := f.options.any (ListedOption.marks "nested")

/-- The field is marked as a collection. -/
def collection (f : FieldDecl) : Bool := f.options.any (ListedOption.marks "collection")

/-- The name that a field is stored under in a struct with a rename rule: the last that its options
give, else the one that the rule gives to its identifier. -/
def storedName (rule : RenameRule) (f : FieldDecl) : String :=
  (lastGiven? "rename" f.options).getD (rule.apply f.ident.name)

end FieldDecl

/-- The rename rule that is last named in a list of options. -/
def lastRule (os : List ListedOption) : RenameRule :=
  ((lastGiven? "rename_all" os).bind RenameRule.ofName?).getD .keep

/-- The rename rule of a struct: the last that its options name, else none that changes anything. -/
def TypeDecl.rule (d : TypeDecl) : RenameRule := lastRule (listedOptions structForms d.attributes)

end Source

/-! ## What the options of a field amount to -/

namespace FieldOptions

/-- What a list of options amounts to. -/
def ofListed (os : List ListedOption) : FieldOptions where
  rename := lastGiven? "rename" os
  skipped := os.any ListedOption.skips
  nested := os.any (ListedOption.marks "nested")
  collection := os.any (ListedOption.marks "collection")

theorem ofListed_concat (os : List ListedOption) (o : ListedOption) :
    ofListed (os ++ [o]) =
      { rename := (o.given? "rename").or (ofListed os).rename
        skipped := (ofListed os).skipped || o.skips
        nested := (ofListed os).nested || o.marks "nested"
        collection := (ofListed os).collection || o.marks "collection" } := by
  simp [ofListed, lastGiven?_concat]

/-- An option that neither gives a name nor marks a field changes nothing. -/
theorem ofListed_concat_of_silent {o : ListedOption} (hrename : o.given? "rename" = none)
    (hskips : o.skips = false) (hnested : o.marks "nested" = false)
    (hcollection : o.marks "collection" = false) (os : List ListedOption) :
    ofListed (os ++ [o]) = ofListed os := by
  rw [ofListed_concat, hrename, hskips, hnested, hcollection]
  simp

/-- An option with a name under which the stored name is given changes the stored name alone. -/
theorem ofListed_concat_of_rename {name : Path} (h : name.isWord "rename" = true)
    (space : OptionSpace) (text : Option String) (os : List ListedOption) :
    ofListed (os ++ [⟨space, name, text⟩]) =
      { ofListed os with rename := text.or (ofListed os).rename } := by
  have hword : ∀ other, "rename" ≠ other → name.isWord other = false := fun _ =>
    isWord_eq_false h
  rw [ofListed_concat]
  cases space <;> simp [ListedOption.given?, ListedOption.skips, ListedOption.marks, h, hword]

/-- The options of a field are what a list of options amounts to, none of which gives an empty name
for the schema alone. -/
structure Reads (o : FieldOptions) (os : List ListedOption) : Prop where
  eq : o = ofListed os
  named : NamesForSchema os

theorem serdeOption_mirrors (name : Path) {o : FieldOptions} {os : List ListedOption}
    (h : o.Reads os) :
    OptionReader.Mirrors Reads (serdeOption name o)
      (ListedOption.read fieldForms .serde name os) := by
  obtain ⟨rfl, hnamed⟩ := h
  rw [serdeOption, ListedOption.read, ListedOption.readText]
  by_cases hrename : name.isWord "rename" = true
  · rw [if_pos hrename, show fieldForms.naming = "rename" from rfl, if_pos hrename]
    refine .after _ fun stored => ?_
    cases stored with
    | none => exact .pure ⟨by simp [ofListed_concat_of_rename hrename], hnamed.concat nofun⟩
    | some stored =>
      exact .pure ⟨by simp [ofListed_concat_of_rename hrename], hnamed.concat nofun⟩
  · have hgiven : (⟨.serde, name, none⟩ : ListedOption).given? "rename" = none := by
      simp [ListedOption.given?]
    rw [if_neg hrename, show fieldForms.naming = "rename" from rfl, if_neg hrename]
    by_cases hbare : fieldForms.bare.any name.isWord = true
    · rw [if_pos hbare, if_pos (by simpa [fieldForms, Bool.or_assoc] using hbare)]
      refine .pure ⟨?_, hnamed.concat nofun⟩
      have hskips : (⟨.serde, name, none⟩ : ListedOption).skips = true := by
        simpa [fieldForms, ListedOption.skips, Bool.or_assoc] using hbare
      rw [ofListed_concat, hgiven, hskips]
      simp [ListedOption.marks]
    · rw [if_neg hbare, if_neg (by simpa [fieldForms, Bool.or_assoc] using hbare)]
      have hskips : (⟨.serde, name, none⟩ : ListedOption).skips = false := by
        simpa [fieldForms, ListedOption.skips, Bool.or_assoc] using hbare
      rw [bind_assoc]
      exact .after _ fun _ => .pure
        ⟨(ofListed_concat_of_silent hgiven hskips rfl rfl os).symm, hnamed.concat nofun⟩

theorem schemaOption_mirrors (name : Path) {o : FieldOptions} {os : List ListedOption}
    (h : o.Reads os) :
    OptionReader.Mirrors Reads (schemaOption name o)
      (ListedOption.read fieldForms .schema name os) := by
  obtain ⟨rfl, hnamed⟩ := h
  rw [schemaOption, ListedOption.read, ListedOption.readText]
  by_cases hrename : name.isWord "rename" = true
  · rw [if_pos hrename, show fieldForms.naming = "rename" from rfl, if_pos hrename]
    rw [bind_assoc]
    refine .after _ fun stored => ?_
    by_cases hempty : stored.isEmpty = true
    · rw [if_pos hempty]
      exact .throw _ _
    · rw [if_neg hempty]
      have hgiven : (⟨.schema, name, some stored⟩ : ListedOption).given? "rename" ≠ some "" := by
        simpa [ListedOption.given?, hrename] using hempty
      exact .pure ⟨by simp [ofListed_concat_of_rename hrename], hnamed.concat fun _ => hgiven⟩
  · rw [if_neg hrename, show fieldForms.naming = "rename" from rfl, if_neg hrename, pure_bind]
    have hgiven : (⟨.schema, name, none⟩ : ListedOption).given? "rename" = none := by
      simp [ListedOption.given?]
    replace hnamed : NamesForSchema (os ++ [⟨.schema, name, none⟩]) :=
      hnamed.concat fun _ => by simp [hgiven]
    have hconcat : ofListed (os ++ [⟨.schema, name, none⟩]) =
        { ofListed os with
          skipped := (ofListed os).skipped || name.isWord "skip"
          nested := (ofListed os).nested || name.isWord "nested"
          collection := (ofListed os).collection || name.isWord "collection" } := by
      rw [ofListed_concat, hgiven]
      simp [ListedOption.skips, ListedOption.marks]
    have hword : ∀ {word}, name.isWord word = true → ∀ other, word ≠ other →
        name.isWord other = false := fun h _ => isWord_eq_false h
    split
    · rename_i h
      exact .pure ⟨by simp [hconcat, h, hword h], hnamed⟩
    · split
      · rename_i h
        exact .pure ⟨by simp [hconcat, h, hword h], hnamed⟩
      · split
        · rename_i h
          exact .pure ⟨by simp [hconcat, h, hword h], hnamed⟩
        · exact .throw _ _

end FieldOptions

/-- An attribute is read for what it is for, or passed over, and what is read of it is related in
two ways of reading if each of its options is. -/
theorem ofAttribute_related {σ τ : Type} {R : σ → τ → Prop}
    {serde schema : Path → σ → OptionReader σ} {serde' schema' : Path → τ → OptionReader τ}
    (hserde : ∀ name s t, R s t → OptionReader.Mirrors R (serde name s) (serde' name t))
    (hschema : ∀ name s t, R s t → OptionReader.Mirrors R (schema name s) (schema' name t))
    (a : Attribute) (s : σ) (t : τ) (s' : σ) (hst : R s t)
    (hok : (if a.path.isWord "serde" then OptionReader.ofAttribute serde a s
      else if a.path.isWord "schema" then OptionReader.ofAttribute schema a s
      else .ok s) = .ok s') :
    ∃ t', (if a.path.isWord "serde" then OptionReader.ofAttribute serde' a t
      else if a.path.isWord "schema" then OptionReader.ofAttribute schema' a t
      else .ok t) = .ok t' ∧ R s' t' := by
  by_cases hserial : a.path.isWord "serde" = true
  · rw [if_pos hserial] at hok ⊢
    exact OptionReader.ofAttribute_mirrors hserde hst hok
  · rw [if_neg hserial] at hok ⊢
    by_cases hown : a.path.isWord "schema" = true
    · rw [if_pos hown] at hok ⊢
      exact OptionReader.ofAttribute_mirrors hschema hst hok
    · rw [if_neg hown] at hok ⊢
      cases hok
      exact ⟨t, rfl, hst⟩

/-- What is read of attributes is related to the list of their options. -/
theorem foldlM_listed {σ : Type} {forms : OptionForms} {R : σ → List ListedOption → Prop}
    {step : σ → Attribute → Except DeriveError σ}
    (h : ∀ a s os s', R s os → step s a = .ok s' →
      ∃ os', ListedOption.ofAttribute forms os a = .ok os' ∧ R s' os')
    {attributes : List Attribute} {s s' : σ} (hs : R s [])
    (hok : attributes.foldlM step s = .ok s') : R s' (listedOptions forms attributes) := by
  obtain ⟨os, hlisted, hos⟩ := foldlM_related h hs hok
  rw [listedOptions, hlisted]
  exact hos

/-- The options of a field amount to what the list of them says. -/
theorem fieldOptions_reads {attributes : List Attribute} {o : FieldOptions}
    (h : attributes.foldlM FieldOptions.ofAttribute {} = .ok o) :
    o.Reads (listedOptions fieldForms attributes) :=
  foldlM_listed (ofAttribute_related (fun name _ _ => FieldOptions.serdeOption_mirrors name)
    fun name _ _ => FieldOptions.schemaOption_mirrors name) ⟨rfl, nofun⟩ h

/-! ## What the options of a struct amount to -/

namespace ContainerOptions

/-- What a list of options amounts to. -/
def ofListed (os : List ListedOption) : ContainerOptions := ⟨lastRule os⟩

theorem ofListed_concat_of_silent {o : ListedOption} (h : o.given? "rename_all" = none)
    (os : List ListedOption) : ofListed (os ++ [o]) = ofListed os := by
  simp [ofListed, lastRule, lastGiven?_concat, h]

/-- An option that names a rule sets it, if there is such a rule. -/
theorem renameRule_mirrors {o : ListedOption} {text : String}
    (h : o.given? "rename_all" = some text) (os : List ListedOption) :
    OptionReader.Mirrors (fun o os => o = ofListed os)
      (do return { ofListed os with rule := ← renameRule text }) (pure (os ++ [o])) := by
  rw [renameRule]
  cases hrule : RenameRule.ofName? text with
  | none => exact .throw _ _
  | some rule => exact .pure (by simp [ofListed, lastRule, lastGiven?_concat, h, hrule])

theorem serdeOption_mirrors (name : Path) (os : List ListedOption) :
    OptionReader.Mirrors (fun o os => o = ofListed os) (serdeOption name (ofListed os))
      (ListedOption.read structForms .serde name os) := by
  rw [serdeOption, ListedOption.read, ListedOption.readText]
  by_cases hrename : name.isWord "rename_all" = true
  · rw [if_pos hrename, show structForms.naming = "rename_all" from rfl, if_pos hrename]
    refine .after _ fun rule => ?_
    cases rule with
    | none => exact .pure (ofListed_concat_of_silent (by simp [ListedOption.given?]) os).symm
    | some rule => exact renameRule_mirrors (by simp [ListedOption.given?, hrename]) os
  · rw [if_neg hrename, show structForms.naming = "rename_all" from rfl, if_neg hrename,
      if_neg (by simp [structForms]), bind_assoc]
    exact .after _ fun _ =>
      .pure (ofListed_concat_of_silent (by simp [ListedOption.given?]) os).symm

theorem schemaOption_mirrors (name : Path) (os : List ListedOption) :
    OptionReader.Mirrors (fun o os => o = ofListed os) (schemaOption name (ofListed os))
      (ListedOption.read structForms .schema name os) := by
  rw [schemaOption, ListedOption.read, ListedOption.readText]
  by_cases hrename : name.isWord "rename_all" = true
  · rw [if_pos hrename, show structForms.naming = "rename_all" from rfl, if_pos hrename, bind_assoc]
    exact .after _ fun rule => renameRule_mirrors (by simp [ListedOption.given?, hrename]) os
  · rw [if_neg hrename]
    exact .throw _ _

end ContainerOptions

/-- The options of a struct amount to what the list of them says. -/
theorem containerOptions_eq {attributes : List Attribute} {o : ContainerOptions}
    (h : attributes.foldlM ContainerOptions.ofAttribute {} = .ok o) :
    o = ContainerOptions.ofListed (listedOptions structForms attributes) :=
  foldlM_listed (R := fun o os => o = ContainerOptions.ofListed os)
    (ofAttribute_related
      (fun name _ os ho => ho ▸ ContainerOptions.serdeOption_mirrors name os)
      fun name _ os ho => ho ▸ ContainerOptions.schemaOption_mirrors name os)
    rfl h

end PatchStore
