import Mathlib.Data.List.Forall2
import PatchStore.Proofs.Selector.Chain

/-!
# Raw spellings in selectors

An identifier can be written raw, and names the same thing then.  In a selector it can stand as the
parameter of a closure, as the root of a chain and as a member that is accessed.  Members are taken by
their names, and the root of a bare chain is not looked at.  The root of a closure's chain, though, is
compared with the parameter as both are spelled, raw marks included.  So raw marks matter in one way
only: a closure refuses its own parameter where just one of the two is raw.

* `Expr.Respelled` — two expressions differ in raw marks at most.
* `Respelled.exists_fieldChain` — what is respelled is a chain of the same members.
* `Selector.outcome_of_respelled` — a respelled selector has another outcome just when it comes to
  spell, or ceases to spell, its root like its parameter.
* `Selector.not_outcome_of_respelled` — so it may have another outcome.
-/

namespace PatchStore

open Source

/-! ## Respelling -/

namespace Source

/-- Two patterns differ at most in whether the identifier that they bind is written raw. -/
inductive Pattern.Respelled : Pattern → Pattern → Prop
  | ident {i j : Ident} (bound : Bool) : i.name = j.name → Respelled (.ident i bound) (.ident j bound)
  | typed {p q : Pattern} : Respelled p q → Respelled (.typed p) (.typed q)
  | same (p : Pattern) : Respelled p p

/-- Two expressions differ at most in whether parameters of closures, roots and members are written
raw. -/
inductive Expr.Respelled : Expr → Expr → Prop
  | root {p q : Path} {i j : Ident} : p.ident? = some i → q.ident? = some j → i.name = j.name →
      Respelled (.path p) (.path q)
  | named {base base' : Expr} {i j : Ident} : Respelled base base' → i.name = j.name →
      Respelled (.field base (.named i)) (.field base' (.named j))
  | position {base base' : Expr} (index : Nat) : Respelled base base' →
      Respelled (.field base (.position index)) (.field base' (.position index))
  | paren {e e' : Expr} : Respelled e e' → Respelled (.paren e) (.paren e')
  | cast {e e' : Expr} : Respelled e e' → Respelled (.cast e) (.cast e')
  | methodCall {e e' : Expr} (method : Ident) : Respelled e e' →
      Respelled (.methodCall e method) (.methodCall e' method)
  | index {e e' : Expr} : Respelled e e' → Respelled (.index e) (.index e')
  | call {e e' : Expr} : Respelled e e' → Respelled (.call e) (.call e')
  | unary {e e' : Expr} : Respelled e e' → Respelled (.unary e) (.unary e')
  | reference {e e' : Expr} : Respelled e e' → Respelled (.reference e) (.reference e')
  | closure {parameters parameters' : List Pattern} {body body' : Expr} :
      List.Forall₂ Pattern.Respelled parameters parameters' → Respelled body body' →
      Respelled (.closure parameters body) (.closure parameters' body')
  | same (e : Expr) : Respelled e e

namespace Pattern.Respelled

theorem symm {p q : Pattern} (h : p.Respelled q) : q.Respelled p := by
  induction h with
  | ident bound hname => exact .ident bound hname.symm
  | typed _ ih => exact .typed ih
  | same p => exact .same p

/-- What is respelled binds an identifier again. -/
theorem exists_binds {p q : Pattern} (h : p.Respelled q) {name : String} (hp : Binds p name) :
    ∃ name', Binds q name' := by
  induction h generalizing name with
  | ident bound =>
    cases hp
    exact ⟨_, .ident _⟩
  | typed _ ih =>
    cases hp with
    | typed hp =>
      obtain ⟨name', hq⟩ := ih hp
      exact ⟨name', .typed hq⟩
  | same p => exact ⟨name, hp⟩

end Pattern.Respelled

namespace Expr.Respelled

variable {e e' : Expr}

theorem symm (h : e.Respelled e') : e'.Respelled e := by
  induction h with
  | root hp hq hname => exact .root hq hp hname.symm
  | named _ hname ih => exact .named ih hname.symm
  | position index _ ih => exact .position index ih
  | paren _ ih => exact .paren ih
  | cast _ ih => exact .cast ih
  | methodCall method _ ih => exact .methodCall method ih
  | index _ ih => exact .index ih
  | call _ ih => exact .call ih
  | unary _ ih => exact .unary ih
  | reference _ ih => exact .reference ih
  | closure hparameters _ ih => exact .closure (hparameters.flip.imp fun _ _ h => h.symm) ih
  | same e => exact .same e

theorem bare (h : e.Respelled e') : e.bare.Respelled e'.bare := by
  induction h with
  | root hp hq hname => exact .root hp hq hname
  | named _ hname ih => exact .named ih hname
  | position index _ ih => exact .position index ih
  | paren _ ih => exact ih
  | cast _ ih => exact .cast ih
  | methodCall method _ ih => exact .methodCall method ih
  | index _ ih => exact .index ih
  | call _ ih => exact .call ih
  | unary _ ih => exact .unary ih
  | reference _ ih => exact .reference ih
  | closure hparameters _ ih => exact .closure hparameters ih
  | same e => exact .same e.bare

theorem unconverted (h : e.Respelled e') : e.unconverted.Respelled e'.unconverted := by
  cases h with
  | cast h => exact h
  | root hp hq hname => exact .root hp hq hname
  | named h hname => exact .named h hname
  | position index h => exact .position index h
  | paren h => exact .paren h
  | methodCall method h => exact .methodCall method h
  | index h => exact .index h
  | call h => exact .call h
  | unary h => exact .unary h
  | reference h => exact .reference h
  | closure hparameters h => exact .closure hparameters h
  | same => exact .same _

/-- What is respelled is a chain of the same members. -/
theorem exists_fieldChain (h : e.Respelled e') {root : Ident} {fields : List Ident}
    (hchain : FieldChain root e fields) :
    ∃ root' fields', FieldChain root' e' fields' ∧
      fields'.map Ident.name = fields.map Ident.name := by
  induction hchain generalizing e' with
  | root hp =>
    cases h with
    | root _ hq _ => exact ⟨_, [], .root hq, rfl⟩
    | same => exact ⟨_, [], .root hp, rfl⟩
  | access i hbase ih =>
    cases h with
    | @named _ base' _ j h hname =>
      obtain ⟨root', fields', hchain', hnames⟩ := ih h
      refine ⟨root', fields' ++ [j], .access j hchain', ?_⟩
      rw [List.map_append, List.map_append, hnames, List.map_singleton, List.map_singleton, hname]
    | same => exact ⟨_, _, .access i hbase, rfl⟩

/-- What is respelled opens likewise, and its body is respelled. -/
theorem exists_opens (h : e.Respelled e') {parameter : Option String} {body : Expr}
    (hopens : Opens e parameter body) :
    ∃ parameter' body', Opens e' parameter' body' ∧ body.Respelled body' := by
  cases hopens with
  | closure _ hbinds =>
    cases h with
    | closure hparameters hbody =>
      cases hparameters with
      | cons hp hrest =>
        cases hrest
        obtain ⟨name', hq⟩ := hp.exists_binds hbinds
        exact ⟨some name', _, .closure _ hq, hbody⟩
    | same => exact ⟨_, body, .closure body hbinds, .same body⟩
  | plain hne =>
    refine ⟨none, e', .plain fun parameters body heq => ?_, h⟩
    subst heq
    cases h with
    | closure => exact hne _ _ rfl
    | same => exact hne _ _ rfl

end Expr.Respelled

/-! ## Roots and parameters -/

theorem Binds.eq {p : Pattern} {name name' : String} (h : Binds p name) (h' : Binds p name') :
    name = name' :=
  Option.some.inj ((Selector.parameterName?_eq_some_iff.mpr h).symm.trans
    (Selector.parameterName?_eq_some_iff.mpr h'))

theorem Opens.eq {e body body' : Expr} {parameter parameter' : Option String}
    (h : Opens e parameter body) (h' : Opens e parameter' body') :
    parameter = parameter' ∧ body = body' := by
  cases h with
  | closure _ hbinds =>
    cases h' with
    | closure _ hbinds' => exact ⟨congrArg some (hbinds.eq hbinds'), rfl⟩
    | plain hne => exact absurd rfl (hne _ _)
  | plain hne =>
    cases h' with
    | closure => exact absurd rfl (hne _ _)
    | plain => exact ⟨rfl, rfl⟩

theorem FieldChain.root_eq {e : Expr} {root root' : Ident} {fields fields' : List Ident}
    (h : FieldChain root e fields) (h' : FieldChain root' e fields') : root = root' := by
  induction h generalizing fields' with
  | root hp =>
    cases h' with
    | root hp' => exact Option.some.inj (hp.symm.trans hp')
  | access i _ ih =>
    cases h' with
    | access _ h' => exact ih h'

/-- The expression is a chain, and if it is a closure's, its root is spelled like the parameter. -/
def Expr.SpellsRootAlike (e : Expr) : Prop :=
  ∃ parameter body root fields, Opens e parameter body ∧
    FieldChain root body.bare.unconverted fields ∧ (parameter = none ∨ parameter = some root.text)

end Source

namespace Selector

/-- The expression is a chain of at least one field, perhaps with a conversion around it, perhaps in
a closure over any plain parameter, and the schema leads along the chain to the names. -/
def Reaches (schema : Schema) (e : Expr) (names : List String) : Prop :=
  ∃ parameter body root fields, Opens e parameter body ∧
    FieldChain root body.bare.unconverted fields ∧ fields ≠ [] ∧
    schema.Leads schema.rootFields (fields.map Ident.name) names

/-- Selecting is reaching from a root that is spelled like the parameter. -/
theorem selects_iff {schema : Schema} {e : Expr} {names : List String} :
    Selects schema e names ↔ Reaches schema e names ∧ e.SpellsRootAlike := by
  constructor
  · rintro ⟨parameter, body, root, fields, hopens, hchain, hne, hparameter, hleads⟩
    exact ⟨⟨parameter, body, root, fields, hopens, hchain, hne, hleads⟩,
      parameter, body, root, fields, hopens, hchain, hparameter⟩
  · rintro ⟨⟨parameter, body, root, fields, hopens, hchain, hne, hleads⟩,
      parameter', body', root', fields', hopens', hchain', hparameter⟩
    obtain ⟨rfl, rfl⟩ := hopens.eq hopens'
    obtain rfl := hchain.root_eq hchain'
    exact ⟨parameter, body, root, fields, hopens, hchain, hne, hparameter, hleads⟩

/-- What is respelled reaches the same. -/
theorem Reaches.of_respelled {schema : Schema} {e e' : Expr} {names : List String}
    (h : e.Respelled e') (he : Reaches schema e names) : Reaches schema e' names := by
  obtain ⟨parameter, body, root, fields, hopens, hchain, hne, hleads⟩ := he
  obtain ⟨parameter', body', hopens', hbody⟩ := h.exists_opens hopens
  obtain ⟨root', fields', hchain', hnames⟩ := hbody.bare.unconverted.exists_fieldChain hchain
  refine ⟨parameter', body', root', fields', hopens', hchain', ?_, by rw [hnames]; exact hleads⟩
  rintro rfl
  exact hne (List.map_eq_nil_iff.mp hnames.symm)

theorem reaches_iff_of_respelled {e e' : Expr} (h : e.Respelled e') (schema : Schema)
    (names : List String) : Reaches schema e names ↔ Reaches schema e' names :=
  ⟨.of_respelled h, .of_respelled h.symm⟩

/-! ## Outcomes -/

/-- Two outcomes of reading a selector and extracting its path: the same path, or a complaint about
the selector in both. -/
inductive SameOutcome : StoreResult PropertyPath → StoreResult PropertyPath → Prop
  | path (p : PropertyPath) : SameOutcome (.ok p) (.ok p)
  | refused (source source' : String) (fault fault' : SelectorFault) :
      SameOutcome (.error (.invalidSelector source fault)) (.error (.invalidSelector source' fault'))

/-- Two texts that are expressions have the same outcome when they select the same. -/
theorem sameOutcome_iff {text text' : String} {e e' : Expr}
    (h : Expr.parse? (Text.trim text) = some e) (h' : Expr.parse? (Text.trim text') = some e')
    (schema : Schema) :
    SameOutcome (Selector.parse text >>= (·.extract schema))
        (Selector.parse text' >>= (·.extract schema)) ↔
      ∀ names, Selects schema e names ↔ Selects schema e' names := by
  obtain ⟨hselects, hrefused⟩ := extract_parse_iff h schema
  obtain ⟨hselects', hrefused'⟩ := extract_parse_iff h' schema
  simp only [← hselects, ← hselects']
  generalize (Selector.parse text >>= (·.extract schema)) = r at *
  generalize (Selector.parse text' >>= (·.extract schema)) = r' at *
  constructor
  · rintro (p | ⟨source, source', fault, fault'⟩)
    · exact fun names => Iff.rfl
    · exact fun names => iff_of_false (fun ⟨_, h, _⟩ => nomatch h) fun ⟨_, h, _⟩ => nomatch h
  · intro hsame
    rcases r with err | p
    · rcases r' with err' | p'
      · obtain ⟨fault, rfl⟩ := hrefused err rfl
        obtain ⟨fault', rfl⟩ := hrefused' err' rfl
        exact .refused _ _ fault fault'
      · obtain ⟨_, h, _⟩ := (hsame p'.names).mpr ⟨p', rfl, rfl⟩
        cases h
    · obtain ⟨p', rfl, hnames⟩ := (hsame p.names).mp ⟨p, rfl, rfl⟩
      have hp : p' = p := by
        have hread := PropertyPath.ofNames?_names p'
        rw [hnames, PropertyPath.ofNames?_names] at hread
        exact (Option.some.inj hread).symm
      rw [hp]
      exact .path p

/-- **Raw marks matter where one of parameter and root is raw.**  Of two selectors that differ in raw
marks at most, a bare chain has the same outcome as the other.  In general the outcomes differ just
when one of the two, and not the other, spells the root of its chain like its parameter, and the
chain leads to a field.  Raw marks of members never matter. -/
theorem outcome_of_respelled {text text' : String} {e e' : Expr}
    (h : Expr.parse? (Text.trim text) = some e) (h' : Expr.parse? (Text.trim text') = some e')
    (hr : e.Respelled e') (schema : Schema) :
    ((∀ parameters body, e ≠ .closure parameters body) →
      SameOutcome (Selector.parse text >>= (·.extract schema))
        (Selector.parse text' >>= (·.extract schema))) ∧
    (SameOutcome (Selector.parse text >>= (·.extract schema))
        (Selector.parse text' >>= (·.extract schema)) ↔
      (e.SpellsRootAlike ↔ e'.SpellsRootAlike) ∨ ∀ names, ¬Reaches schema e names) := by
  have hiff : SameOutcome (Selector.parse text >>= (·.extract schema))
      (Selector.parse text' >>= (·.extract schema)) ↔
      (e.SpellsRootAlike ↔ e'.SpellsRootAlike) ∨ ∀ names, ¬Reaches schema e names := by
    rw [sameOutcome_iff h h' schema]
    simp only [selects_iff, ← reaches_iff_of_respelled hr schema]
    constructor
    · intro hsame
      by_cases hreaches : ∃ names, Reaches schema e names
      · obtain ⟨names, hnames⟩ := hreaches
        exact Or.inl (by simpa only [hnames, true_and] using hsame names)
      · exact Or.inr fun names hnames => hreaches ⟨names, hnames⟩
    · rintro (halike | hnone)
      · exact fun names => and_congr_right fun _ => halike
      · exact fun names => iff_of_false (fun h => hnone names h.1) fun h => hnone names h.1
  refine ⟨fun hplain => hiff.mpr ?_, hiff⟩
  by_cases hreaches : ∃ names, Reaches schema e names
  · -- without a parameter any root will do
    obtain ⟨names, parameter, body, root, fields, hopens, hchain, -⟩ := hreaches
    have hnone : parameter = none := by
      cases hopens with
      | closure => exact absurd rfl (hplain _ _)
      | plain => rfl
    obtain ⟨parameter', body', hopens', hbody⟩ := hr.exists_opens hopens
    obtain ⟨root', fields', hchain', -⟩ := hbody.bare.unconverted.exists_fieldChain hchain
    have hnone' : parameter' = none := by
      cases hopens' with
      | closure =>
        cases hr with
        | closure => exact absurd rfl (hplain _ _)
        | same => exact absurd rfl (hplain _ _)
      | plain => rfl
    exact Or.inl (iff_of_true ⟨parameter, body, root, fields, hopens, hchain, Or.inl hnone⟩
      ⟨parameter', body', root', fields', hopens', hchain', Or.inl hnone'⟩)
  · exact Or.inr fun names hnames => hreaches ⟨names, hnames⟩

/-- The parameter, the root and the member of a closure over an access to one member. -/
def oneAccess? : Expr → Option (Ident × Ident × Ident)
  | .closure [.ident parameter false] (.field (.path p) (.named member)) =>
    p.ident?.map fun root => (parameter, root, member)
  | _ => none

/-- Closures over an access to one member are made of their three identifiers. -/
theorem eq_of_oneAccess? {e : Expr} {parameter root member : Ident}
    (h : oneAccess? e = some (parameter, root, member)) :
    ∃ p, p.ident? = some root ∧
      e = .closure [.ident parameter false] (.field (.path p) (.named member)) := by
  unfold oneAccess? at h
  split at h
  · rename_i p _
    obtain ⟨root', hroot, heq⟩ := Option.map_eq_some_iff.mp h
    cases heq
    exact ⟨p, hroot, rfl⟩
  · cases h

/-- Such closures over identifiers of the same names are respelled. -/
theorem respelled_of_oneAccess? {e e' : Expr} {parameter root member parameter' root' member' : Ident}
    (h : oneAccess? e = some (parameter, root, member))
    (h' : oneAccess? e' = some (parameter', root', member'))
    (hparameter : parameter.name = parameter'.name) (hroot : root.name = root'.name)
    (hmember : member.name = member'.name) : e.Respelled e' := by
  obtain ⟨p, hp, rfl⟩ := eq_of_oneAccess? h
  obtain ⟨p', hp', rfl⟩ := eq_of_oneAccess? h'
  exact .closure (.cons (.ident false hparameter) .nil) (.named (.root hp hp' hroot) hmember)

theorem spellsRootAlike_iff_of_oneAccess? {e : Expr} {parameter root member : Ident}
    (h : oneAccess? e = some (parameter, root, member)) :
    e.SpellsRootAlike ↔ parameter.text = root.text := by
  obtain ⟨p, hp, rfl⟩ := eq_of_oneAccess? h
  have hopens := Opens.closure (.field (.path p) (.named member)) (.ident parameter)
  have hchain : FieldChain root (.field (.path p) (.named member)) [member] :=
    .access member (.root hp)
  constructor
  · rintro ⟨name, body, root', fields, hopens', hchain', halike⟩
    obtain ⟨rfl, rfl⟩ := hopens.eq hopens'
    obtain rfl := hchain.root_eq hchain'
    simpa using halike
  · intro halike
    exact ⟨_, _, root, [member], hopens, hchain, Or.inr (congrArg some halike)⟩

/-- The expression of a text is read, and is a closure over an access to one member. -/
theorem exists_of_oneAccess? {text : String} {idents : Ident × Ident × Ident}
    (h : (Expr.parse? (Text.trim text)).bind oneAccess? = some idents) :
    ∃ e, Expr.parse? (Text.trim text) = some e ∧ oneAccess? e = some idents :=
  Option.bind_eq_some_iff.mp h

/-- The name of a person under a parameter that is written raw: everywhere, and then not at the root
of the chain. -/
theorem outcome_of_rawParameter :
    SameOutcome (Selector.parse "|x| x.name" >>= (·.extract people))
      (Selector.parse "|r#x| r#x.r#name" >>= (·.extract people)) ∧
    ¬SameOutcome (Selector.parse "|x| x.name" >>= (·.extract people))
      (Selector.parse "|r#x| x.name" >>= (·.extract people)) := by
  obtain ⟨plain, hplain, hplainAccess⟩ := exists_of_oneAccess? (show
    (Expr.parse? (Text.trim "|x| x.name")).bind oneAccess? =
      some (⟨"x", false⟩, ⟨"x", false⟩, ⟨"name", false⟩) by decide +kernel)
  obtain ⟨raw, hraw, hrawAccess⟩ := exists_of_oneAccess? (show
    (Expr.parse? (Text.trim "|r#x| r#x.r#name")).bind oneAccess? =
      some (⟨"x", true⟩, ⟨"x", true⟩, ⟨"name", true⟩) by decide +kernel)
  obtain ⟨mixed, hmixed, hmixedAccess⟩ := exists_of_oneAccess? (show
    (Expr.parse? (Text.trim "|r#x| x.name")).bind oneAccess? =
      some (⟨"x", true⟩, ⟨"x", false⟩, ⟨"name", false⟩) by decide +kernel)
  have hleads : people.Leads people.rootFields ["name"] ["Name"] :=
    .last ⟨rfl, [], _, rfl, nofun⟩
  constructor
  · refine ((outcome_of_respelled hplain hraw ?_ people).2.mpr (Or.inl ?_))
    · exact respelled_of_oneAccess? hplainAccess hrawAccess rfl rfl rfl
    · rw [spellsRootAlike_iff_of_oneAccess? hplainAccess,
        spellsRootAlike_iff_of_oneAccess? hrawAccess]
      exact iff_of_true rfl rfl
  · intro hsame
    have hrespelled := respelled_of_oneAccess? hplainAccess hmixedAccess rfl rfl rfl
    rcases (outcome_of_respelled hplain hmixed hrespelled people).2.mp hsame with halike | hnone
    · rw [spellsRootAlike_iff_of_oneAccess? hplainAccess,
        spellsRootAlike_iff_of_oneAccess? hmixedAccess] at halike
      exact absurd (halike.mp rfl) (by decide)
    · obtain ⟨p, hp, rfl⟩ := eq_of_oneAccess? hplainAccess
      exact hnone ["Name"] ⟨_, _, _, _, .closure _ (.ident _), .access _ (.root hp),
        List.cons_ne_nil _ _, hleads⟩

/-- Raw marks do matter: a parameter that alone is written raw is refused as the root of its
chain. -/
theorem not_outcome_of_respelled :
    ¬∀ (text text' : String) (e e' : Expr) (schema : Schema),
      Expr.parse? (Text.trim text) = some e → Expr.parse? (Text.trim text') = some e' →
      e.Respelled e' → SameOutcome (Selector.parse text >>= (·.extract schema))
        (Selector.parse text' >>= (·.extract schema)) := by
  intro hall
  obtain ⟨plain, hplain, hplainAccess⟩ := exists_of_oneAccess? (show
    (Expr.parse? (Text.trim "|x| x.name")).bind oneAccess? =
      some (⟨"x", false⟩, ⟨"x", false⟩, ⟨"name", false⟩) by decide +kernel)
  obtain ⟨raw, hraw, hrawAccess⟩ := exists_of_oneAccess? (show
    (Expr.parse? (Text.trim "|r#x| x.name")).bind oneAccess? =
      some (⟨"x", true⟩, ⟨"x", false⟩, ⟨"name", false⟩) by decide +kernel)
  have hsame := hall _ _ _ _ people hplain hraw
    (respelled_of_oneAccess? hplainAccess hrawAccess rfl rfl rfl)
  have hpath : (Selector.parse "|x| x.name" >>= (·.extract people)).toOption.isSome = true := by
    decide +kernel
  have hrefused : (Selector.parse "|r#x| x.name" >>= (·.extract people)).toOption.isSome = false := by
    decide +kernel
  generalize (Selector.parse "|x| x.name" >>= (·.extract people)) = r at *
  generalize (Selector.parse "|r#x| x.name" >>= (·.extract people)) = r' at *
  cases hsame with
  | path p => exact Bool.false_ne_true (hrefused.symm.trans hpath)
  | refused => cases hpath

end Selector

end PatchStore
