import PatchStore.Proofs.Schema.OptionLocality
import PatchStore.Proofs.Schema.Fields

/-!
# Options that are not interpreted

Options for serialization that the derivation does not read may be added anywhere, to the struct and to
its fields, by themselves, with an expression as their value, or with further options in parentheses.
They change nothing, unless something stands in the parentheses of one: then the declaration is
malformed, as the parentheses are passed over but not what stands in them.

* `Uninterpreted`, `OptionsAdded` — what is added, and where in an attribute it may stand.
* `OptionReader.Follows` — options are read as their forms say, and passed over if they are not
  interpreted.
* `deriveFields_of_extended` — the fields that are derived when such options are added.
* `not_deriveFields_of_extended` — they are not always the same.
-/

namespace PatchStore

open Source

/-! ## What is added -/

/-- The option is one that is read. -/
def OptionForms.interprets (forms : OptionForms) (name : Path) : Bool :=
  name.isWord forms.naming || forms.bare.any name.isWord

/-- An option that is not interpreted: its name alone, with a value, or with a list in parentheses.
The flag says whether something stands in the parentheses. -/
inductive Uninterpreted (forms : OptionForms) : List Token → Bool → Prop
  | bare {ts : List Token} {name : Path} (hname : Parse.all OptionReader.name ts = some name)
      (hforms : forms.interprets name = false) : Uninterpreted forms ts false
  | value {ts e : List Token} {name : Path} (hname : Parse.all OptionReader.name ts = some name)
      (hforms : forms.interprets name = false) (joint : Bool) (he : IsExpr e) :
      Uninterpreted forms (ts ++ .punct '=' joint :: e) false
  | list {ts : List Token} {name : Path} (hname : Parse.all OptionReader.name ts = some name)
      (hforms : forms.interprets name = false) (body : List Token) :
      Uninterpreted forms (ts ++ [.group .paren body]) (!body.isEmpty)

/-- An option for serialization stands at the start, and after it the rest. -/
def OptionEnds (forms : OptionForms) (ts rest : List Token) : Prop :=
  ∃ text left, OptionReader.Goes
    (OptionReader.ofParse OptionReader.name >>= fun name => ListedOption.readText forms name .serde)
    ts text rest left

/-- Options that are not interpreted are added to those of an attribute, before an option of it, after
its last one, or where there are none.  The flag says whether something stands in the parentheses of
one of them. -/
inductive OptionsAdded (forms : OptionForms) : List Token → List Token → Bool → Prop
  | same (ts : List Token) : OptionsAdded forms ts ts false
  | only {o : List Token} {opened : Bool} (ho : Uninterpreted forms o opened) :
      OptionsAdded forms [] o opened
  | before {o ts ts' : List Token} {opened later : Bool} (ho : Uninterpreted forms o opened)
      (joint : Bool) (h : OptionsAdded forms ts ts' later) :
      OptionsAdded forms ts (o ++ .punct ',' joint :: ts') (opened || later)
  | after {ts added : List Token} {opened : Bool} (hts : OptionEnds forms ts []) (joint : Bool)
      (h : OptionsAdded forms [] added opened) :
      OptionsAdded forms ts (ts ++ .punct ',' joint :: added) opened
  | further {o ts ts' : List Token} {joint opened : Bool}
      (ho : OptionEnds forms (o ++ .punct ',' joint :: ts) (.punct ',' joint :: ts))
      (h : OptionsAdded forms ts ts' opened) :
      OptionsAdded forms (o ++ .punct ',' joint :: ts) (o ++ .punct ',' joint :: ts') opened

theorem OptionsAdded.length_le {forms : OptionForms} {ts ts' : List Token} {opened : Bool}
    (h : OptionsAdded forms ts ts' opened) : ts.length ≤ ts'.length := by
  induction h with
  | same ts => exact Nat.le_refl _
  | only ho => exact Nat.zero_le _
  | before ho joint h ih =>
    rw [List.length_append, List.length_cons]
    omega
  | after hts joint h ih =>
    rw [List.length_append]
    omega
  | further ho h ih =>
    rw [List.length_append, List.length_append, List.length_cons, List.length_cons]
    omega

theorem OptionsAdded.size_le {forms : OptionForms} {ts ts' : List Token} {opened : Bool}
    (h : OptionsAdded forms ts ts' opened) : Token.sizeAll ts ≤ Token.sizeAll ts' := by
  induction h with
  | same ts => exact Nat.le_refl _
  | only ho => exact Nat.zero_le _
  | before ho joint h ih =>
    rw [Token.sizeAll_append, Token.sizeAll]
    omega
  | after hts joint h ih =>
    rw [Token.sizeAll_append]
    omega
  | further ho h ih =>
    rw [Token.sizeAll_append, Token.sizeAll_append, Token.sizeAll, Token.sizeAll]
    omega

/-! ## Options that are passed over -/

namespace OptionReader

variable {σ : Type} {option : Path → σ → OptionReader σ}

/-- The options are read as the forms say: in front of any others, up to where the forms say that they
end, and with no effect if they are not interpreted. -/
structure Follows (option : Path → σ → OptionReader σ) (forms : OptionForms) : Prop where
  carries : ∀ {t : Parse.Tails}, t.Grows → ∀ name s, Carries t (option name s)
  mirrors : ∀ name s,
    Mirrors (fun _ _ => True) (option name s) (ListedOption.readText forms name .serde)
  skips : ∀ name s, forms.interprets name = false → option name s = skip >>= fun _ => pure s

/-- A name goes as far as there are separators. -/
theorem goes_name {ts us : List Token} {p : Path} (h : Parse.all name ts = some p)
    (hus : atMark ":" us = false) : Goes (ofParse name) (ts ++ us) p us false := by
  obtain ⟨written, hrun⟩ := run_of_all h
  obtain ⟨-, hcarries⟩ := carries_name (Parse.Tails.blind_separator hus) ts [] false p _ hrun
  obtain ⟨new, left, -, hleft, hgoes⟩ := hcarries ts [] (List.append_nil ts).symm rfl
  rw [Bool.false_or] at hleft
  rw [← hleft] at hgoes
  exact .ofParse hgoes

/-- An option that is not interpreted is passed over, whatever stops it. -/
theorem Follows.goes_uninterpreted {forms : OptionForms} (hoption : Follows option forms)
    {o u : List Token} {opened : Bool} (ho : Uninterpreted forms o opened) (hu : Parse.IsStop u)
    (s : σ) : Goes (one option s) (o ++ u) s u opened := by
  have hpassed : ∀ {ts us : List Token} {p : Path}, Parse.all name ts = some p →
      forms.interprets p = false → atMark ":" us = false → Goes skip us () u opened →
      Goes (one option s) (ts ++ us) s u opened := by
    intro ts us p hname hforms hus hskip
    have hafter : Goes (option p s) us s u opened := by
      have hgoes := hskip.bind (f := fun _ => pure s) (.pure s u)
      rwa [Bool.or_false, ← hoption.skips p s hforms] at hgoes
    have hone := (goes_name hname hus).bind (f := fun name => option name s) hafter
    rwa [Bool.false_or] at hone
  have hstop : atMark ":" u = false ∧ atMark "=" u = false ∧ atGroup .paren u = false := by
    obtain rfl | ⟨joint, rest, rfl⟩ := hu.cases
    · exact ⟨rfl, rfl, rfl⟩
    · exact ⟨rfl, rfl, rfl⟩
  obtain ⟨hcolon, hequals, hparen⟩ := hstop
  cases ho with
  | bare hname hforms =>
    exact hpassed hname hforms hcolon (.ofParse (.otherwise hequals (.otherwise hparen (.pure () u))))
  | @value ts e p hname hforms joint he =>
    obtain ⟨x, new, hexpr⟩ := goes_expr he hu
    have hmark : Parse.Goes (Parse.mark "=") (.punct '=' joint :: (e ++ u)) () (e ++ u)
        [.punct '=' joint] false := Parse.Goes.mark rfl
    have hvalue := hmark.bind
      (f := fun _ => get >>= fun c => discard ((Grammar.forTokens c.rest).expr true))
      (.byRest (k := fun ts => discard ((Grammar.forTokens ts).expr true)) hexpr.discard)
    rw [List.append_assoc]
    exact hpassed hname hforms rfl (.ofParse (.when rfl hvalue))
  | @list ts p hname hforms body =>
    have hgroup : Parse.Goes (Parse.within .paren (pure ())) (.group .paren body :: u) () u
        [.group .paren []] !body.isEmpty := by
      intro written leftover
      rw [Parse.run_within]
      rfl
    rw [List.append_assoc]
    exact hpassed hname hforms rfl (.ofParse (.otherwise rfl (.when rfl hgroup)))

/-- Where an option ends depends on its tokens alone. -/
theorem Follows.eq_of_optionEnds {forms : OptionForms} (hoption : Follows option forms)
    {ts rest rest' : List Token} {s s' : σ} {left : Bool} (h : Goes (one option s) ts s' rest left)
    (hends : OptionEnds forms ts rest') : rest = rest' := by
  obtain ⟨text, left', hlisted⟩ := hends
  obtain ⟨written, hrun⟩ := h [] false
  obtain ⟨text', hrun', -⟩ := Mirrors.after (S := fun _ _ => True) (ofParse name)
    (fun name => hoption.mirrors name s) _ _ _ hrun
  exact (hlisted.unique hrun').2.1

/-- With options that are added, an attribute is read to the same effect. -/
theorem Follows.readsAll_of_added {forms : OptionForms} (hoption : Follows option forms)
    {ts ts' : List Token} {opened : Bool} (h : OptionsAdded forms ts ts' opened) {s r : σ} {left : Bool}
    (hreads : ReadsAll option s ts r left) : ReadsAll option s ts' r (left || opened) := by
  induction h generalizing s left with
  | same ts =>
    rw [Bool.or_false]
    exact hreads
  | only ho =>
    obtain ⟨rfl, rfl⟩ := hreads.eq_of_nil
    have hgoes := hoption.goes_uninterpreted ho (u := []) trivial r
    rw [List.append_nil] at hgoes
    exact .last hgoes
  | @before o ts ts' opened later ho joint h ih =>
    rw [Bool.or_left_comm]
    exact .more (hoption.goes_uninterpreted ho (u := .punct ',' joint :: ts') trivial s) (ih hreads)
  | @after ts added opened hts joint h ih =>
    have hgrows : Parse.Tails.Grows ⟨[], .punct ',' joint :: added, Nat.zero_le _⟩ :=
      ⟨⟨trivial, trivial⟩, Nat.zero_le _⟩
    cases hreads with
    | nil =>
      obtain ⟨text, left, hgoes⟩ := hts
      obtain ⟨written, hrun⟩ := hgoes [] false
      cases hrun
    | last hgoes =>
      rw [← List.append_nil ts] at hgoes
      have hthere := (carries_one hgrows (hoption.carries hgrows) s).goes_there ts [] hgoes
      exact .more hthere (ih (.nil r))
    | more hgoes hrest => cases hoption.eq_of_optionEnds hgoes hts
  | @further o ts ts' joint opened ho h ih =>
    have hgrows : Parse.Tails.Grows ⟨.punct ',' joint :: ts, .punct ',' joint :: ts',
        Nat.succ_le_succ h.length_le⟩ := by
      refine ⟨⟨trivial, trivial⟩, ?_⟩
      rw [Token.sizeAll, Token.sizeAll]
      exact Nat.add_le_add_left h.size_le _
    generalize hus : o ++ .punct ',' joint :: ts = us at hreads
    cases hreads with
    | nil => exact absurd hus (List.append_ne_nil_of_right_ne_nil o (List.cons_ne_nil _ _))
    | last hgoes =>
      subst hus
      cases hoption.eq_of_optionEnds hgoes ho
    | @more s mid r us rest joint' left later hgoes hrest =>
      subst hus
      obtain ⟨rfl, rfl⟩ : joint' = joint ∧ rest = ts := by
        have heq := hoption.eq_of_optionEnds hgoes ho
        injection heq with htoken hrest
        injection htoken with _ hjoint
        exact ⟨hjoint, hrest⟩
      have hthere := (carries_one hgrows (hoption.carries hgrows) s).goes_there _ [] hgoes
      rw [Bool.or_assoc]
      exact .more hthere (ih hrest)

/-- The options of an attribute that is accepted are read to their end, and no group is left. -/
theorem readsAll_of_ofAttribute (hoption : ∀ name s, Carries .none (option name s)) {path : Path}
    {body : List Token} {s r : σ} (h : ofAttribute option ⟨path, some body⟩ s = .ok r) :
    ReadsAll option s body r false := by
  cases body with
  | nil =>
    cases h
    exact .nil _
  | cons tok body =>
    simp only [ofAttribute, bind, Except.bind] at h
    split at h
    · cases h
    · rename_i result hrun
      obtain ⟨gathered, c⟩ := result
      split at h
      · rename_i hdone
        cases h
        obtain ⟨left, hreads, hleft⟩ := readsAll_of_options hoption hrun
        have hnone : c.leftover = false := by
          simpa using ((Bool.and_eq_true _ _).mp hdone).2
        rw [hnone, Bool.false_or] at hleft
        rw [hleft]
        exact hreads
      · cases h

/-- An attribute whose options are read to their end is accepted if no group is left. -/
theorem ReadsAll.ofAttribute_eq (hoption : ∀ name s, Carries .none (option name s)) {path : Path}
    {body : List Token} {s r : σ} {left : Bool} (h : ReadsAll option s body r left) :
    ofAttribute option ⟨path, some body⟩ s =
      if left = true then .error .malformed else .ok r := by
  cases body with
  | nil =>
    obtain ⟨rfl, rfl⟩ := h.eq_of_nil
    rfl
  | cons tok body =>
    obtain ⟨written, hrun⟩ := h.goes_options hoption (List.cons_ne_nil tok body)
      (Nat.lt_succ_self _) [] false
    have hstart : (options option ((tok :: body).length + 1) s).run (.start (tok :: body)) = _ := hrun
    simp only [ofAttribute, bind, Except.bind, hstart]
    cases left <;> rfl

/-- With options that are added, an attribute has the same effect, or something in the parentheses of
one of them is left. -/
theorem Follows.ofAttribute_of_added {forms : OptionForms} (hoption : Follows option forms)
    {path : Path} {body body' : List Token} {opened : Bool} (h : OptionsAdded forms body body' opened)
    {s r : σ} (hok : ofAttribute option ⟨path, some body⟩ s = .ok r) :
    ofAttribute option ⟨path, some body'⟩ s = if opened = true then .error .malformed else .ok r := by
  have hcarries := hoption.carries Parse.Tails.grows_none
  have hreads := hoption.readsAll_of_added h (readsAll_of_ofAttribute hcarries hok)
  rw [Bool.false_or] at hreads
  exact hreads.ofAttribute_eq hcarries

end OptionReader

/-! ## Fields and structs -/

/-- Neither form of option that is interpreted. -/
theorem OptionForms.not_interprets {forms : OptionForms} {name : Path}
    (h : forms.interprets name = false) :
    ¬name.isWord forms.naming = true ∧ ¬forms.bare.any name.isWord = true := by
  obtain ⟨hnaming, hbare⟩ := (Bool.or_eq_false_iff).mp h
  exact ⟨Bool.eq_false_iff.mp hnaming, Bool.eq_false_iff.mp hbare⟩

/-- A field is skipped by the options that stand alone. -/
theorem fieldForms_bare (name : Path) :
    fieldForms.bare.any name.isWord =
      (name.isWord "skip" || name.isWord "skip_serializing" || name.isWord "flatten") := by
  simp [fieldForms, Bool.or_assoc]

theorem FieldOptions.follows : OptionReader.Follows FieldOptions.serdeOption fieldForms where
  carries ht := carries_serdeOption ht
  mirrors name o := by
    rw [serdeOption, ListedOption.readText, fieldForms_bare]
    by_cases hrename : name.isWord "rename" = true
    · rw [if_pos hrename, if_pos (show name.isWord fieldForms.naming = true from hrename),
        ← bind_pure OptionReader.storedName, bind_assoc]
      refine .after _ fun stored => ?_
      cases stored with
      | none => exact .pure trivial
      | some stored => exact .pure trivial
    · rw [if_neg hrename, if_neg (show ¬name.isWord fieldForms.naming = true from hrename)]
      split
      · exact .pure trivial
      · exact .after _ fun _ => .pure trivial
  skips name o h := by
    obtain ⟨hnaming, hbare⟩ := OptionForms.not_interprets h
    have hrename : ¬name.isWord "rename" = true := hnaming
    rw [fieldForms_bare] at hbare
    rw [serdeOption, if_neg hrename, if_neg hbare]

theorem FieldOptions.ofAttribute_of_serde (o : FieldOptions) (a : Attribute)
    (h : a.path.isWord "serde" = true) : o.ofAttribute a = OptionReader.ofAttribute serdeOption a o :=
  if_pos h

theorem ContainerOptions.follows : OptionReader.Follows ContainerOptions.serdeOption structForms where
  carries ht := carries_serdeOption ht
  mirrors name o := by
    rw [serdeOption, ListedOption.readText]
    by_cases hrename : name.isWord "rename_all" = true
    · rw [if_pos hrename, if_pos (show name.isWord structForms.naming = true from hrename),
        ← bind_pure OptionReader.storedName, bind_assoc]
      refine .after _ fun rule => ?_
      cases rule with
      | none => exact .pure trivial
      | some rule =>
        simp only [pure_bind, renameRule]
        cases RenameRule.ofName? rule with
        | none => exact .throw _ _
        | some rule => exact .pure trivial
    · rw [if_neg hrename, if_neg (show ¬name.isWord structForms.naming = true from hrename),
        if_neg (by simp [structForms])]
      exact .after _ fun _ => .pure trivial
  skips name o h := by
    have hrename : ¬name.isWord "rename_all" = true := (OptionForms.not_interprets h).1
    rw [serdeOption, if_neg hrename]

theorem ContainerOptions.ofAttribute_of_serde (o : ContainerOptions) (a : Attribute)
    (h : a.path.isWord "serde" = true) : o.ofAttribute a = OptionReader.ofAttribute serdeOption a o :=
  if_pos h

/-- Options that are not interpreted are added to attributes, and attributes of such options among
them.  The flag says whether something stands in the parentheses of one of them. -/
inductive AttributesExtended (forms : OptionForms) : List Attribute → List Attribute → Bool → Prop
  | nil : AttributesExtended forms [] [] false
  | keep {as as' : List Attribute} {opened : Bool} (a : Attribute)
      (h : AttributesExtended forms as as' opened) :
      AttributesExtended forms (a :: as) (a :: as') opened
  | extend {as as' : List Attribute} {body body' : List Token} {opened later : Bool} {path : Path}
      (hpath : path.isWord "serde" = true) (hbody : OptionsAdded forms body body' opened)
      (h : AttributesExtended forms as as' later) :
      AttributesExtended forms (⟨path, some body⟩ :: as) (⟨path, some body'⟩ :: as') (opened || later)
  | add {as as' : List Attribute} {body : List Token} {opened later : Bool} {path : Path}
      (hpath : path.isWord "serde" = true) (hbody : OptionsAdded forms [] body opened)
      (h : AttributesExtended forms as as' later) :
      AttributesExtended forms as (⟨path, some body⟩ :: as') (opened || later)

/-- Attributes with options that are added have the same effect, or are malformed. -/
theorem AttributesExtended.foldlM_eq {σ : Type} {forms : OptionForms}
    {option : Path → σ → OptionReader σ} (hoption : OptionReader.Follows option forms)
    {step : σ → Attribute → Except DeriveError σ}
    (hstep : ∀ s a, a.path.isWord "serde" = true → step s a = OptionReader.ofAttribute option a s)
    {as as' : List Attribute} {opened : Bool} (h : AttributesExtended forms as as' opened) {s r : σ}
    (hok : as.foldlM step s = .ok r) :
    as'.foldlM step s = if opened = true then .error .malformed else .ok r := by
  induction h generalizing s with
  | nil => exact hok
  | @keep as as' opened a h ih =>
    rw [List.foldlM_cons] at hok ⊢
    rcases ha : step s a with e | mid
    · rw [ha] at hok
      cases hok
    · rw [ha] at hok
      exact ih hok
  | @extend as as' body body' opened later path hpath hbody h ih =>
    rw [List.foldlM_cons] at hok ⊢
    rcases ha : step s ⟨path, some body⟩ with e | mid
    · rw [ha] at hok
      cases hok
    · rw [ha] at hok
      rw [hstep _ _ hpath] at ha ⊢
      rw [hoption.ofAttribute_of_added hbody ha]
      cases opened with
      | true => rfl
      | false => exact ih hok
  | @add as as' body opened later path hpath hbody h ih =>
    have hnone : OptionReader.ofAttribute option ⟨path, some []⟩ s = .ok s := rfl
    rw [List.foldlM_cons, hstep _ _ hpath, hoption.ofAttribute_of_added hbody hnone]
    cases opened with
    | true => rfl
    | false => exact ih hok

namespace Source

/-- Options that are not interpreted are added to a field. -/
structure FieldDecl.Extended (f f' : FieldDecl) (opened : Bool) : Prop where
  ident : f'.ident = f.ident
  type : f'.type = f.type
  attributes : AttributesExtended fieldForms f.attributes f'.attributes opened

/-- Options that are not interpreted are added to fields. -/
inductive FieldsExtended : List FieldDecl → List FieldDecl → Bool → Prop
  | nil : FieldsExtended [] [] false
  | cons {f f' : FieldDecl} {fs fs' : List FieldDecl} {opened later : Bool}
      (hf : f.Extended f' opened) (h : FieldsExtended fs fs' later) :
      FieldsExtended (f :: fs) (f' :: fs') (opened || later)

/-- Options that are not interpreted are added to a struct with named fields and to its fields. -/
inductive TypeDecl.Extended : TypeDecl → TypeDecl → Bool → Prop
  | intro {as as' : List Attribute} {fs fs' : List FieldDecl} {opened later : Bool}
      (hattributes : AttributesExtended structForms as as' opened)
      (hfields : FieldsExtended fs fs' later) (ident : Ident) (generic : Bool) :
      TypeDecl.Extended ⟨as, ident, generic, .named fs⟩ ⟨as', ident, generic, .named fs'⟩
        (opened || later)

end Source

/-- A field with options that are added is the same field, or is malformed. -/
theorem deriveField_of_extended {f f' : FieldDecl} {opened : Bool} (h : f.Extended f' opened)
    {rule : RenameRule} {x : Option (Field TypeExpr)} (hok : deriveField rule f = .ok x) :
    deriveField rule f' = if opened = true then .error .malformed else .ok x := by
  rcases hoptions : f.attributes.foldlM FieldOptions.ofAttribute {} with e | options
  · rw [deriveField, hoptions] at hok
    cases hok
  · have hextended := h.attributes.foldlM_eq FieldOptions.follows FieldOptions.ofAttribute_of_serde
      hoptions
    rw [deriveField, hoptions] at hok
    rw [deriveField, hextended, h.ident, h.type]
    cases opened with
    | true => rfl
    | false => exact hok

theorem mapM_deriveField_of_extended {fs fs' : List FieldDecl} {opened : Bool}
    (h : FieldsExtended fs fs' opened) {rule : RenameRule} {xs : List (Option (Field TypeExpr))}
    (hok : fs.mapM (deriveField rule) = .ok xs) :
    fs'.mapM (deriveField rule) = if opened = true then .error .malformed else .ok xs := by
  induction h generalizing xs with
  | nil => exact hok
  | @cons f f' fs fs' opened later hf h ih =>
    obtain ⟨x, rest, hx, hrest, rfl⟩ := mapM_cons_eq_ok hok
    rw [List.mapM_cons, deriveField_of_extended hf hx, ih hrest]
    cases opened <;> cases later <;> rfl

theorem deriveFields_named (as : List Attribute) (ident : Ident) (fs : List FieldDecl) :
    deriveFields ⟨as, ident, false, .named fs⟩ =
      as.foldlM ContainerOptions.ofAttribute {} >>= fun options =>
        fs.mapM (deriveField options.rule) >>= fun xs => .ok (xs.filterMap id) := rfl

/-- Options that are not interpreted change nothing about the fields that are derived, unless something
stands in the parentheses of one of them; then the declaration is malformed. -/
theorem deriveFields_of_extended {d d' : TypeDecl} {opened : Bool} (h : d.Extended d' opened)
    {fields : List (Field TypeExpr)} (hok : deriveFields d = .ok fields) :
    deriveFields d' = if opened = true then .error .malformed else .ok fields := by
  obtain ⟨hattributes, hfields, ident, generic⟩ := h
  rename_i as as' fs fs' opened later
  cases generic with
  | true => cases hok
  | false =>
    rw [deriveFields_named] at hok ⊢
    rcases hoptions : as.foldlM ContainerOptions.ofAttribute {} with e | options
    · rw [hoptions] at hok
      cases hok
    rw [hoptions] at hok
    have hok : (fs.mapM (deriveField options.rule) >>= fun xs => .ok (xs.filterMap id)) =
        Except.ok fields := hok
    rcases hxs : fs.mapM (deriveField options.rule) with e | xs
    · rw [hxs] at hok
      cases hok
    rw [hxs] at hok
    rw [hattributes.foldlM_eq ContainerOptions.follows ContainerOptions.ofAttribute_of_serde hoptions]
    cases opened with
    | true => rfl
    | false =>
      show (fs'.mapM (deriveField options.rule) >>= fun xs => Except.ok (xs.filterMap id)) = _
      rw [mapM_deriveField_of_extended hfields hxs, Bool.false_or]
      cases later with
      | true => rfl
      | false => exact hok

/-! ## Options of a post -/

/-- The tokens of an option with a text as its value. -/
def textOption (word text : String) : List Token :=
  [.ident ⟨word, false⟩, .punct '=' false, .literal ⟨.string, '"' :: text.toList ++ ['"']⟩]

/-- An attribute for serialization. -/
def serdeAttribute (options : List Token) : Attribute := ⟨.ofIdent ⟨"serde", false⟩, some options⟩

/-- The title of a post, with options for serialization. -/
def titleWith (options : List Token) : FieldDecl where
  ident := ⟨"title", false⟩
  type := .mk (.path (.ofIdent ⟨"String", false⟩)) [.ident ⟨"String", false⟩]
  attributes := [serdeAttribute options]

/-- A post, with options for serialization, and its title, with such options as well. -/
def postWith (options titleOptions : List Token) : TypeDecl where
  attributes := [serdeAttribute options]
  ident := ⟨"Post", false⟩
  generic := false
  body := .named [titleWith titleOptions]

theorem extended_serdeAttribute {forms : OptionForms} {ts ts' : List Token} {opened : Bool}
    (h : OptionsAdded forms ts ts' opened) :
    AttributesExtended forms [serdeAttribute ts] [serdeAttribute ts'] opened := by
  rw [← Bool.or_false opened]
  exact .extend rfl h .nil

/-- A post is extended if options are added to those of the post and to those of its title. -/
theorem extended_postWith {os os' ts ts' : List Token} {opened later : Bool}
    (hos : OptionsAdded structForms os os' opened) (hts : OptionsAdded fieldForms ts ts' later) :
    (postWith os ts).Extended (postWith os' ts') (opened || later) := by
  have htitle : (titleWith ts).Extended (titleWith ts') later := ⟨rfl, rfl, extended_serdeAttribute hts⟩
  rw [← Bool.or_false later]
  exact .intro (extended_serdeAttribute hos) (.cons htitle .nil) ⟨"Post", false⟩ false

/-- An option by itself before the name of a rule and one with a value after it, and an empty list in
parentheses for the title, which has no options before. -/
theorem deriveFields_of_extended_post :
    deriveFields (postWith (textOption "rename_all" "UPPERCASE") []) =
        .ok [⟨"title", "TITLE", .value⟩] ∧
      deriveFields (postWith
          (.ident ⟨"deny_unknown_fields", false⟩ :: .punct ',' false ::
            (textOption "rename_all" "UPPERCASE" ++ .punct ',' false :: textOption "tag" "type"))
          [.ident ⟨"bound", false⟩, .group .paren []]) =
        .ok [⟨"title", "TITLE", .value⟩] := by
  have hfields : deriveFields (postWith (textOption "rename_all" "UPPERCASE") []) =
      .ok [⟨"title", "TITLE", .value⟩] := rfl
  have hrule : OptionEnds structForms (textOption "rename_all" "UPPERCASE") [] :=
    ⟨some "UPPERCASE", false, fun _ _ => ⟨_, by rw [Bool.or_false]; rfl⟩⟩
  have htagName : Parse.all OptionReader.name [.ident ⟨"tag", false⟩] =
      some (.ofIdent ⟨"tag", false⟩) := rfl
  have htag : Uninterpreted structForms (textOption "tag" "type") false :=
    .value htagName (by decide) false (by unfold IsExpr; decide +kernel)
  have hdeny : Uninterpreted structForms [.ident ⟨"deny_unknown_fields", false⟩] false :=
    .bare rfl (by decide)
  have hboundName : Parse.all OptionReader.name [.ident ⟨"bound", false⟩] =
      some (.ofIdent ⟨"bound", false⟩) := rfl
  have hbound : Uninterpreted fieldForms [.ident ⟨"bound", false⟩, .group .paren []] false :=
    .list hboundName (by decide) []
  exact ⟨hfields, deriveFields_of_extended
    (extended_postWith (.before hdeny false (.after hrule false (.only htag))) (.only hbound)) hfields⟩

/-- The fields are not the same with any options: something stands in the parentheses of
`bound(serialize = "String: Clone")`. -/
theorem not_deriveFields_of_extended :
    ¬∀ (d d' : TypeDecl) (opened : Bool) (fields : List (Field TypeExpr)), d.Extended d' opened →
      deriveFields d = .ok fields → deriveFields d' = .ok fields := by
  intro hall
  have hname : Parse.all OptionReader.name [.ident ⟨"bound", false⟩] =
      some (.ofIdent ⟨"bound", false⟩) := rfl
  have hbound : Uninterpreted fieldForms
      [.ident ⟨"bound", false⟩, .group .paren (textOption "serialize" "String: Clone")] true :=
    .list hname (by decide) _
  have hfields : deriveFields (postWith [] []) = .ok [⟨"title", "title", .value⟩] := rfl
  have hsame := hall _ _ _ _ (extended_postWith (.same []) (.only hbound)) hfields
  have hmalformed : deriveFields (postWith []
      [.ident ⟨"bound", false⟩, .group .paren (textOption "serialize" "String: Clone")]) =
        .error .malformed := rfl
  rw [hmalformed] at hsame
  cases hsame

end PatchStore
