import PatchStore.Selector.Basic

/-!
# What selectors select

A text that reads as an expression selects a field just when the expression is a chain of accesses
to named fields, perhaps with one conversion around it, perhaps as the body of a closure over the
root of the chain, and a schema has the fields.  The expression is described here without regard to
how selectors are reduced to accesses.

* `Expr.bare` — an expression without its parentheses.
* `Opens` — an expression is a closure over one plain parameter, or no closure.
* `FieldChain` — an expression is a chain of accesses to named fields.
* `Schema.Leads`, `Schema.LeadsTo` — a schema leads along identifiers to stored names, and to the
  field with them.
* `Selector.Selects` — the three together.
* `Selector.extract_parse_iff` — reading a selector and extracting its path gives the stored names
  that the expression selects, and complains about the selector if there are none.
-/

namespace PatchStore

open Source

/-! ## Chains of fields -/

namespace Source

/-- The expression without its parentheses. -/
def Expr.bare : Expr → Expr
  | .path p => .path p
  | .field base member => .field base.bare member
  | .cast operand => .cast operand.bare
  | .methodCall receiver method => .methodCall receiver.bare method
  | .index base => .index base.bare
  | .call callee => .call callee.bare
  | .binary operator left right => .binary operator left.bare right.bare
  | .assign left => .assign left.bare
  | .unary operand => .unary operand.bare
  | .literal => .literal
  | .reference operand => .reference operand.bare
  | .paren inner => inner.bare
  | .closure parameters body => .closure parameters body.bare
  | .other form => .other form

/-- The expression without a conversion around it. -/
def Expr.unconverted : Expr → Expr
  | .cast operand => operand
  | e => e

/-- The expression accesses named fields, one on the result of the other, from a root on. -/
inductive FieldChain (root : Ident) : Expr → List Ident → Prop
  | root {p : Path} : p.ident? = some root → FieldChain root (.path p) []
  | access {base : Expr} {fields : List Ident} (i : Ident) :
      FieldChain root base fields → FieldChain root (.field base (.named i)) (fields ++ [i])

/-- The pattern is an identifier to which no pattern is bound, perhaps with its type. -/
inductive Binds : Pattern → String → Prop
  | ident (i : Ident) : Binds (.ident i false) i.text
  | typed {p : Pattern} {name : String} : Binds p name → Binds (.typed p) name

/-- The expression is a closure over one plain parameter, with its body; or it is no closure, and is
the body itself. -/
inductive Opens : Expr → Option String → Expr → Prop
  | closure {p : Pattern} {name : String} (body : Expr) :
      Binds p name → Opens (.closure [p] body) (some name) body
  | plain {e : Expr} : (∀ parameters body, e ≠ .closure parameters body) → Opens e none e

end Source

namespace Access

theorem checkRoot_eq_ok_iff {parameter : Option String} {root : String} :
    checkRoot parameter root = .ok () ↔ parameter = none ∨ parameter = some root := by
  cases parameter with
  | none => simp [checkRoot]
  | some p => simp [checkRoot]

theorem chain_root_eq_ok_iff {parameter : Option String} {root : String} {names : List String} :
    (Access.root root).chain parameter = .ok names ↔
      names = [] ∧ (parameter = none ∨ parameter = some root) := by
  rw [← checkRoot_eq_ok_iff, chain]
  rcases checkRoot parameter root with fault | _
  · constructor
    · intro h
      cases h
    · rintro ⟨_, h⟩
      cases h
  · constructor
    · intro h
      cases h
      exact ⟨rfl, rfl⟩
    · rintro ⟨rfl, _⟩
      rfl

theorem chain_member_eq_ok_iff {parameter : Option String} {target : Access} {name : String}
    {names : List String} :
    (member target name).chain parameter = .ok names ↔
      ∃ before, target.chain parameter = .ok before ∧ names = before ++ [name] := by
  rw [chain_member]
  rcases target.chain parameter with fault | before
  · constructor
    · intro h
      cases h
    · rintro ⟨before, h, _⟩
      cases h
  · constructor
    · intro h
      cases h
      exact ⟨before, rfl, rfl⟩
    · rintro ⟨_, h, rfl⟩
      cases h
      rfl

/-- What an expression amounts to is a chain just when the expression, without its parentheses, is a
chain of fields that starts at the parameter, if there is one. -/
theorem chain_ofExpr_eq_ok_iff (parameter : Option String) (e : Expr) (names : List String) :
    (ofExpr e).chain parameter = .ok names ↔
      ∃ root fields, FieldChain root e.bare fields ∧ fields.map Ident.name = names ∧
        (parameter = none ∨ parameter = some root.text) := by
  induction e generalizing names with
  | path p =>
    rw [ofExpr]
    cases hp : p.ident? with
    | none =>
      constructor
      · intro h
        cases h
      · rintro ⟨root, fields, hchain, _⟩
        cases hchain with
        | root h => cases hp.symm.trans h
    | some i =>
      show (Access.root i.text).chain parameter = .ok names ↔ _
      rw [chain_root_eq_ok_iff]
      constructor
      · rintro ⟨rfl, hparameter⟩
        exact ⟨i, [], .root hp, rfl, hparameter⟩
      · rintro ⟨root, fields, hchain, hnames, hparameter⟩
        cases hchain with
        | root h =>
          cases hp.symm.trans h
          exact ⟨hnames.symm, hparameter⟩
  | field base m ih =>
    cases m with
    | named i =>
      show (member (ofExpr base) i.name).chain parameter = .ok names ↔ _
      rw [chain_member_eq_ok_iff]
      constructor
      · rintro ⟨before, hbefore, rfl⟩
        obtain ⟨root, fields, hchain, rfl, hparameter⟩ := (ih before).mp hbefore
        exact ⟨root, fields ++ [i], .access i hchain, by rw [List.map_append]; rfl, hparameter⟩
      · rintro ⟨root, fields, hchain, hnames, hparameter⟩
        cases hchain with
        | @access _ before _ hchain =>
          refine ⟨before.map Ident.name, (ih _).mpr ⟨root, before, hchain, rfl, hparameter⟩, ?_⟩
          rw [← hnames, List.map_append]
          rfl
    | position index =>
      constructor
      · intro h
        cases h
      · rintro ⟨root, fields, hchain, _⟩
        cases hchain
  | paren inner ih => exact ih names
  | cast | methodCall | index | call | binary | assign | unary | literal | reference | closure
      | other =>
    constructor
    · intro h
      cases h
    · rintro ⟨root, fields, hchain, _⟩
      cases hchain

/-- Where there is no conversion to drop, dropping one changes nothing. -/
theorem chain_unconverted_of_self {parameter : Option String} {e : Expr} {names : List String}
    (haccess : (ofExpr e).unconverted = ofExpr e) (hbare : e.bare.unconverted = e.bare) :
    (ofExpr e).unconverted.chain parameter = .ok names ↔
      ∃ root fields, FieldChain root e.bare.unconverted fields ∧ fields.map Ident.name = names ∧
        (parameter = none ∨ parameter = some root.text) := by
  rw [haccess, hbare]
  exact chain_ofExpr_eq_ok_iff parameter e names

/-- One conversion is dropped around an expression, also between parentheses. -/
theorem chain_unconverted_ofExpr_eq_ok_iff (parameter : Option String) (e : Expr)
    (names : List String) :
    (ofExpr e).unconverted.chain parameter = .ok names ↔
      ∃ root fields, FieldChain root e.bare.unconverted fields ∧ fields.map Ident.name = names ∧
        (parameter = none ∨ parameter = some root.text) := by
  induction e with
  | paren inner ih => exact ih
  | cast operand => exact chain_ofExpr_eq_ok_iff parameter operand names
  | path p =>
    refine chain_unconverted_of_self ?_ rfl
    rw [ofExpr]
    cases p.ident? <;> rfl
  | field base m =>
    refine chain_unconverted_of_self ?_ rfl
    cases m <;> rfl
  | methodCall | index | call | binary | assign | unary | literal | reference | closure
      | other =>
    exact chain_unconverted_of_self rfl rfl

/-- The members of an access are those of its chain, which may not be at its root. -/
theorem members_eq_ok_iff {parameter : Option String} {a : Access} {names : List String} :
    a.members parameter = .ok names ↔ names ≠ [] ∧ a.unconverted.chain parameter = .ok names := by
  rw [members]
  cases ha : a.unconverted with
  | root name =>
    constructor
    · intro h
      cases h
    · rintro ⟨hne, h⟩
      exact absurd (chain_root_eq_ok_iff.mp h).1 hne
  | member target name =>
    show (member target name).chain parameter = .ok names ↔ _
    refine ⟨fun h => ⟨?_, h⟩, fun h => h.2⟩
    obtain ⟨before, _, rfl⟩ := chain_member_eq_ok_iff.mp h
    exact List.append_ne_nil_of_right_ne_nil before (List.cons_ne_nil _ _)
  | position | conversion | methodCall | indexer | rejected =>
    constructor
    · intro h
      cases h
    · rintro ⟨_, h⟩
      cases h

end Access

/-! ## The way through a schema -/

namespace Schema

/-- The first of the fields that has an identifier. -/
def IsFirst (fields : List (Field String)) (ident : String) (f : Field String) : Prop :=
  f.ident = ident ∧ ∃ before after, fields = before ++ f :: after ∧ ∀ g ∈ before, g.ident ≠ ident

/-- From some fields on, identifiers lead to stored names: each identifier to the name of the first
field that has it, and on to the fields of the object that it holds. -/
inductive Leads (s : Schema) : List (Field String) → List String → List String → Prop
  | last {fields : List (Field String)} {ident : String} {f : Field String} :
      IsFirst fields ident f → Leads s fields [ident] [f.name]
  | descend {fields : List (Field String)} {ident type : String} {f : Field String}
      {idents names : List String} : IsFirst fields ident f → f.kind = .object type →
      Leads s (s.fieldsOf type) idents names → Leads s fields (ident :: idents) (f.name :: names)

theorem findField?_eq_some_iff {fields : List (Field String)} {ident : String}
    {f : Field String} : findField? fields ident = some f ↔ IsFirst fields ident f := by
  simp [findField?, IsFirst, List.find?_eq_some_iff_append]

theorem object?_eq_some_iff {kind : FieldKind String} {type : String} :
    kind.object? = some type ↔ kind = .object type := by
  cases kind <;> simp [FieldKind.object?]

/-- From some fields on, identifiers lead to a field: each identifier to the first field that has it,
and on to the fields of the object that it holds. -/
inductive LeadsTo (s : Schema) : List (Field String) → List String → ResolvedField → Prop
  | last {fields : List (Field String)} {ident : String} {f : Field String} :
      IsFirst fields ident f → LeadsTo s fields [ident] ⟨⟨[], f.name⟩, f⟩
  | descend {fields : List (Field String)} {ident type : String} {f : Field String}
      {idents : List String} {r : ResolvedField} : IsFirst fields ident f →
      f.kind = .object type → LeadsTo s (s.fieldsOf type) idents r →
      LeadsTo s fields (ident :: idents) ⟨r.path.under f.name, r.field⟩

/-- Identifiers that lead to stored names lead to a field with this path. -/
theorem leads_iff {s : Schema} {fields : List (Field String)} {idents names : List String} :
    Leads s fields idents names ↔ ∃ r, LeadsTo s fields idents r ∧ r.path.names = names := by
  constructor
  · intro h
    induction h with
    | last hfirst => exact ⟨_, .last hfirst, rfl⟩
    | descend hfirst hkind _ ih =>
      obtain ⟨r, hr, rfl⟩ := ih
      exact ⟨_, .descend hfirst hkind hr, rfl⟩
  · rintro ⟨r, h, rfl⟩
    induction h with
    | last hfirst => exact .last hfirst
    | descend hfirst hkind _ ih => exact .descend hfirst hkind ih

/-- Walking along members succeeds just when they lead to the field that is found. -/
theorem walk_eq_ok_iff {s : Schema} {fields : List (Field String)} {member : String}
    {rest : List String} {r : ResolvedField} :
    s.walk fields member rest = .ok r ↔ LeadsTo s fields (member :: rest) r := by
  induction rest generalizing fields member r with
  | nil =>
    constructor
    · intro h
      cases hf : findField? fields member with
      | none =>
        rw [walk, hf] at h
        cases h
      | some f =>
        rw [walk_single s hf] at h
        cases h
        exact .last (findField?_eq_some_iff.mp hf)
    · intro h
      cases h with
      | last hfirst => exact walk_single s (findField?_eq_some_iff.mpr hfirst)
      | descend _ _ h => cases h
  | cons next rest ih =>
    constructor
    · intro h
      cases hf : findField? fields member with
      | none =>
        rw [walk, hf] at h
        cases h
      | some f =>
        cases ht : f.kind.object? with
        | none =>
          simp only [walk, hf, ht] at h
          cases h
        | some type =>
          have hkind := object?_eq_some_iff.mp ht
          rw [walk_cons s hf hkind] at h
          rcases hrest : s.walk (s.fieldsOf type) next rest with fault | resolved
          · rw [hrest] at h
            cases h
          · rw [hrest] at h
            cases h
            exact .descend (findField?_eq_some_iff.mp hf) hkind (ih.mp hrest)
    · intro h
      cases h with
      | descend hfirst hkind hrest =>
        rw [walk_cons s (findField?_eq_some_iff.mpr hfirst) hkind, ih.mpr hrest]
        rfl

theorem resolve_eq_ok_iff {s : Schema} {members : List String} {r : ResolvedField} :
    s.resolve members = .ok r ↔ LeadsTo s s.rootFields members r := by
  cases members with
  | nil =>
    constructor
    · intro h
      cases h
    · intro h
      cases h
  | cons member rest => exact walk_eq_ok_iff

end Schema

/-! ## Reading and extracting -/

namespace Selector

theorem parameterName?_eq_some_iff {p : Pattern} {name : String} :
    parameterName? p = some name ↔ Binds p name := by
  induction p with
  | ident i bound =>
    cases bound with
    | false =>
      constructor
      · intro h
        cases h
        exact .ident i
      · intro h
        cases h
        rfl
    | true =>
      constructor
      · intro h
        cases h
      · intro h
        cases h
  | typed p ih =>
    rw [parameterName?, ih]
    constructor
    · exact .typed
    · intro h
      cases h with
      | typed h => exact h
  | rest | range | verbatim | other =>
    constructor
    · intro h
      cases h
    · intro h
      cases h

theorem ofExpr_eq_ok_iff {e : Expr} {parameter : Option String} {a : Access} :
    ofExpr e = .ok (parameter, a) ↔ ∃ body, Opens e parameter body ∧ a = Access.ofExpr body := by
  cases e with
  | closure parameters body =>
    match parameters with
    | [] | _ :: _ :: _ =>
      constructor
      · intro h
        cases h
      · rintro ⟨_, hopens, _⟩
        cases hopens with
        | plain hne => exact absurd rfl (hne _ _)
    | [p] =>
      constructor
      · intro h
        cases hp : parameterName? p with
        | none =>
          simp only [ofExpr, hp] at h
          cases h
        | some name =>
          simp only [ofExpr, hp] at h
          cases h
          exact ⟨body, .closure body (parameterName?_eq_some_iff.mp hp), rfl⟩
      · rintro ⟨_, hopens, rfl⟩
        cases hopens with
        | closure _ hbinds => simp only [ofExpr, parameterName?_eq_some_iff.mpr hbinds]
        | plain hne => exact absurd rfl (hne _ _)
  | path | field | cast | methodCall | index | call | binary | assign | unary | literal | reference
      | paren | other =>
    constructor
    · intro h
      cases h
      exact ⟨_, .plain fun _ _ => Expr.noConfusion, rfl⟩
    · rintro ⟨_, hopens, rfl⟩
      cases hopens
      rfl

/-- The expression selects the field that is stored under the given names: it is a chain of at least
one field, perhaps with a conversion around it, perhaps in a closure over its root, and the schema
leads along the chain to the names. -/
def Selects (schema : Schema) (e : Expr) (names : List String) : Prop :=
  ∃ parameter body root fields, Opens e parameter body ∧
    FieldChain root body.bare.unconverted fields ∧ fields ≠ [] ∧
    (parameter = none ∨ parameter = some root.text) ∧
    schema.Leads schema.rootFields (fields.map Ident.name) names

/-- Resolving succeeds just when the body of a selector has members that lead to the field. -/
theorem resolve_eq_ok_iff {s : Selector} {schema : Schema} {r : ResolvedField} :
    s.resolve schema = .ok r ↔
      ∃ members, s.body.members s.parameter = .ok members ∧
        schema.LeadsTo schema.rootFields members r := by
  rw [resolve]
  rcases s.body.members s.parameter with fault | members
  · constructor
    · intro h
      cases h
    · rintro ⟨_, h, _⟩
      cases h
  · dsimp only
    rcases hr : schema.resolve members with fault | found
    · constructor
      · intro h
        cases h
      · rintro ⟨_, h, hleads⟩
        cases h
        cases hr.symm.trans (Schema.resolve_eq_ok_iff.mpr hleads)
    · constructor
      · intro h
        cases h
        exact ⟨members, rfl, Schema.resolve_eq_ok_iff.mp hr⟩
      · rintro ⟨_, h, hleads⟩
        cases h
        cases hr.symm.trans (Schema.resolve_eq_ok_iff.mpr hleads)
        rfl

/-- Extracting gives the path of the field that is resolved. -/
theorem extract_of_resolve {s : Selector} {schema : Schema} {r : ResolvedField}
    (h : s.resolve schema = .ok r) : s.extract schema = .ok r.path := by
  rw [extract, h]
  rfl

/-- A path that is extracted is that of a field that is resolved. -/
theorem exists_resolve_of_extract {s : Selector} {schema : Schema} {path : PropertyPath}
    (h : s.extract schema = .ok path) : ∃ r, s.resolve schema = .ok r ∧ r.path = path := by
  rcases hr : s.resolve schema with e | r
  · rw [extract, hr] at h
    cases h
  · rw [extract_of_resolve hr] at h
    cases h
    exact ⟨r, rfl, rfl⟩

/-- Extracting succeeds just when the body of a selector has members that lead somewhere. -/
theorem extract_eq_ok_iff {s : Selector} {schema : Schema} {names : List String} :
    (∃ path, s.extract schema = .ok path ∧ path.names = names) ↔
      ∃ members, s.body.members s.parameter = .ok members ∧
        schema.Leads schema.rootFields members names := by
  constructor
  · rintro ⟨path, h, rfl⟩
    obtain ⟨r, hr, rfl⟩ := exists_resolve_of_extract h
    obtain ⟨members, hmembers, hleads⟩ := resolve_eq_ok_iff.mp hr
    exact ⟨members, hmembers, Schema.leads_iff.mpr ⟨r, hleads, rfl⟩⟩
  · rintro ⟨members, hmembers, hleads⟩
    obtain ⟨r, hr, rfl⟩ := Schema.leads_iff.mp hleads
    exact ⟨r.path, extract_of_resolve (resolve_eq_ok_iff.mpr ⟨members, hmembers, hr⟩), rfl⟩

/-- Extracting complains about the selector and nothing else. -/
theorem eq_invalidSelector_of_extract {s : Selector} {schema : Schema} {e : StoreError}
    (h : s.extract schema = .error e) : ∃ fault, e = .invalidSelector s.source fault := by
  rw [extract, resolve] at h
  rcases hm : s.body.members s.parameter with fault | members
  · simp only [hm] at h
    cases h
    exact ⟨fault, rfl⟩
  · rcases hr : schema.resolve members with fault | r
    · simp only [hm, hr] at h
      cases h
      exact ⟨fault, rfl⟩
    · simp only [hm, hr] at h
      cases h

/-- Nothing is no expression. -/
theorem parse?_empty : Expr.parse? "" = none := by
  rw [← Option.isNone_iff_eq_none]
  decide +kernel

/-- Reading a text that is an expression only looks at the expression. -/
theorem parse_of_parse? {text : String} {e : Expr} (h : Expr.parse? (Text.trim text) = some e) :
    Selector.parse text =
      match ofExpr e with
      | .ok (parameter, body) => .ok ⟨Text.trim text, parameter, body⟩
      | .error fault => .error (.invalidSelector (Text.trim text) fault) := by
  have hne : (Text.trim text).isEmpty = false := by
    rw [Bool.eq_false_iff]
    intro hempty
    rw [String.isEmpty_iff.mp hempty, parse?_empty] at h
    cases h
  simp only [parse, hne, h]
  rfl

/-- A path that is extracted from a text is extracted from the selector that the text is read as. -/
theorem exists_of_parse_extract {text : String} {schema : Schema} {path : PropertyPath}
    (h : (Selector.parse text >>= (·.extract schema)).toOption = some path) :
    ∃ selector, Selector.parse text = .ok selector ∧ selector.extract schema = .ok path := by
  rcases hparse : Selector.parse text with e | selector
  · rw [hparse] at h
    cases h
  · rw [hparse] at h
    have h : (selector.extract schema).toOption = some path := h
    rcases hextract : selector.extract schema with e | found
    · rw [hextract] at h
      cases h
    · rw [hextract] at h
      exact ⟨selector, rfl, hextract.trans (congrArg Except.ok (Option.some.inj h))⟩

/-- **A selector selects what its expression does.**  For a text that is an expression, reading it
and extracting a path gives the names that the expression selects; if it selects nothing, what is
wrong is said about the selector. -/
theorem extract_parse_iff {text : String} {e : Expr} (h : Expr.parse? (Text.trim text) = some e)
    (schema : Schema) :
    (∀ names, (∃ path, (Selector.parse text >>= (·.extract schema)) = .ok path ∧
      path.names = names) ↔ Selects schema e names) ∧
    ∀ err, (Selector.parse text >>= (·.extract schema)) = .error err →
      ∃ fault, err = .invalidSelector (Text.trim text) fault := by
  rw [parse_of_parse? h]
  rcases hopen : ofExpr e with fault | ⟨parameter, a⟩
  · refine ⟨fun names => iff_of_false ?_ ?_, ?_⟩
    · rintro ⟨path, hpath, _⟩
      cases hpath
    · rintro ⟨parameter, body, _, _, hopens, _⟩
      cases hopen.symm.trans (ofExpr_eq_ok_iff.mpr ⟨body, hopens, rfl⟩)
    · intro err herr
      cases herr
      exact ⟨fault, rfl⟩
  · refine ⟨fun names => ?_, fun err herr => eq_invalidSelector_of_extract herr⟩
    refine Iff.trans extract_eq_ok_iff ?_
    constructor
    · rintro ⟨members, hmembers, hleads⟩
      obtain ⟨body, hopens, rfl⟩ := ofExpr_eq_ok_iff.mp hopen
      obtain ⟨hne, hchain⟩ := Access.members_eq_ok_iff.mp hmembers
      obtain ⟨root, fields, hfields, rfl, hparameter⟩ :=
        (Access.chain_unconverted_ofExpr_eq_ok_iff _ _ _).mp hchain
      refine ⟨parameter, body, root, fields, hopens, hfields, ?_, hparameter, hleads⟩
      rintro rfl
      exact hne rfl
    · rintro ⟨parameter', body, root, fields, hopens, hfields, hne, hparameter, hleads⟩
      cases hopen.symm.trans (ofExpr_eq_ok_iff.mpr ⟨body, hopens, rfl⟩)
      refine ⟨fields.map Ident.name, Access.members_eq_ok_iff.mpr ⟨?_, ?_⟩, hleads⟩
      · rw [Ne, List.map_eq_nil_iff]
        exact hne
      · exact (Access.chain_unconverted_ofExpr_eq_ok_iff _ _ _).mpr
          ⟨root, fields, hfields, rfl, hparameter⟩

/-- People who have a name and friends. -/
def people : Schema where
  root := "Person"
  types := [("Person", [⟨"name", "Name", .value⟩, ⟨"type", "Kind", .value⟩,
    ⟨"friend", "Friend", .object "Person"⟩])]

/-- A selector through a schema that leads back to itself, with parentheses, a raw identifier and a
conversion. -/
theorem selects_kind_of_friend :
    ∃ e, Expr.parse? (Text.trim " |x: &Person| (x.friend).r#type as u64 ") = some e ∧
      Selects people e ["Friend", "Kind"] := by
  have hisSome : (Expr.parse? (Text.trim " |x: &Person| (x.friend).r#type as u64 ")).isSome =
      true := by decide +kernel
  obtain ⟨e, he⟩ := Option.isSome_iff_exists.mp hisSome
  have hpath : (Selector.parse " |x: &Person| (x.friend).r#type as u64 " >>=
      (·.extract people)).toOption.map PropertyPath.names = some ["Friend", "Kind"] := by
    decide +kernel
  refine ⟨e, he, ((extract_parse_iff he people).1 _).mp ?_⟩
  rcases hrun : (Selector.parse " |x: &Person| (x.friend).r#type as u64 " >>=
      (·.extract people)) with fault | path
  · rw [hrun] at hpath
    cases hpath
  · rw [hrun] at hpath
    exact ⟨path, rfl, Option.some.inj hpath⟩

end Selector

end PatchStore
