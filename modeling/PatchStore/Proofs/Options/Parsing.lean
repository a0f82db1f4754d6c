import PatchStore.Proofs.Options.Assignments

/-!
# Which connection strings are accepted

A connection string is accepted for what it lists.  Some of its faults lie in one segment, whatever
the others say; the others lie in what the last segments of several options say together.

* `Acceptable`, `LastOf` — lists of assignments that are options, and the options that they are.
* `outcome_eq_ok_iff` — the parser accepts these lists, and gives these options.
* `outcome_congr`, `outcome_overridden` — the order of different options does not matter, nor do
  values that are given once more.
* `ConfigurationOnly` — work that fails for a configuration fault if it fails.
* `parse_eq_ok_iff_acceptable` — all of it, for connection strings.
-/

namespace PatchStore

open Text

/-! ## Lists that are options -/

/-- The assignments are options: every failover behavior that they name is one, the last url is not
blank, and there is a user if there is a password. -/
structure Acceptable (as : List Assignment) : Prop where
  failovers : ∀ text ∈ valuesOf .failover as, ∃ f : Failover, f.IsNamed text.toList
  url : ∃ url, lastValue? .url as = some url ∧ url ≠ ""
  credentials : valuesOf .user as = [] ↔ valuesOf .password as = []

/-- Each of the options is what was last given to it. -/
structure LastOf (as : List Assignment) (o : StoreOptions) : Prop where
  url : lastValue? .url as = some o.url
  database : lastValue? .database as = o.database
  apiKey : lastValue? .apiKey as = o.apiKey
  user : lastValue? .user as = o.credentials.map Credentials.user
  password : lastValue? .password as = o.credentials.map Credentials.password
  failover : lastValue? .failover as = none ∧ o.failover = .failImmediately ∨
    ∃ text, lastValue? .failover as = some text ∧ o.failover.IsNamed text.toList

namespace ConnectionSettings

/-- The behaviors that texts name are read just when each of them is one. -/
theorem exists_lastFailover_iff (first : Failover) {texts : List String} :
    (∃ f, lastFailover first texts = .ok f) ↔
      ∀ text ∈ texts, ∃ f, Failover.parse text = .ok f := by
  induction texts generalizing first with
  | nil => exact iff_of_true ⟨first, rfl⟩ (List.forall_mem_nil _)
  | cons text texts ih =>
    rw [lastFailover, List.foldlM_cons, List.forall_mem_cons]
    rcases Failover.parse text with e | g
    · refine iff_of_false ?_ ?_
      · rintro ⟨f, hf⟩
        cases hf
      · rintro ⟨⟨f, hf⟩, -⟩
        cases hf
    · rw [and_iff_right ⟨g, rfl⟩]
      exact ih g

theorem lastFailover_concat (first : Failover) (texts : List String) (last : String) :
    lastFailover first (texts.concat last) =
      (lastFailover first texts).bind fun _ => Failover.parse last := by
  rw [lastFailover, List.concat_eq_append, List.foldlM_append, lastFailover]
  refine congrArg (Except.bind _) (funext fun g => ?_)
  rw [List.foldlM_cons]
  cases Failover.parse last <;> rfl

/-- Of the behaviors that texts name, which must all be read, the last one is kept. -/
theorem lastFailover_eq_ok_iff {first f : Failover} {texts : List String} :
    lastFailover first texts = .ok f ↔
      (∀ text ∈ texts, ∃ g, Failover.parse text = .ok g) ∧
      (texts.getLast? = none ∧ f = first ∨
        ∃ text, texts.getLast? = some text ∧ Failover.parse text = .ok f) := by
  rw [← exists_lastFailover_iff first]
  rcases List.eq_nil_or_concat texts with rfl | ⟨texts, last, rfl⟩
  · simp [lastFailover, pure, Except.pure, eq_comm]
  · have hend : (texts.concat last).getLast? = some last := by
      rw [List.concat_eq_append, List.getLast?_concat]
    rw [hend, lastFailover_concat]
    rcases lastFailover first texts with e | g
    · simp [Except.bind]
    · simp only [Except.bind, reduceCtorEq, false_and, false_or, Option.some.injEq, exists_eq_left']
      exact (and_iff_right_of_imp fun hf => ⟨f, hf⟩).symm

theorem credentials_eq_ok_iff {s : ConnectionSettings} {c : Option Credentials} :
    s.credentials = .ok c ↔
      s.user = c.map Credentials.user ∧ s.password = c.map Credentials.password := by
  rw [credentials]
  rcases c with _ | ⟨user, password⟩ <;> cases s.user <;> cases s.password <;> simp

theorem filter_url_eq_some_iff {given : Option String} {url : String} :
    (given.filter fun url => !url.isEmpty) = some url ↔ given = some url ∧ url ≠ "" := by
  rw [Option.filter_eq_some_iff, Bool.not_eq_true', ← Bool.not_eq_true, String.isEmpty_iff]

theorem options_eq_ok_iff {s : ConnectionSettings} {o : StoreOptions} :
    s.options = .ok o ↔ (s.url = some o.url ∧ o.url ≠ "") ∧ s.database = o.database ∧
      s.apiKey = o.apiKey ∧ s.credentials = .ok o.credentials ∧ s.failover = o.failover := by
  rcases o with ⟨url, database, apiKey, c, failover⟩
  rw [← filter_url_eq_some_iff, options]
  rcases hurl : s.url.filter fun url => !url.isEmpty with _ | given
  · rw [hurl]
    refine iff_of_false nofun ?_
    rintro ⟨hgiven, -⟩
    cases hgiven
  · rw [hurl]
    rcases s.credentials with e | given'
    · refine iff_of_false nofun ?_
      rintro ⟨-, -, -, hcredentials, -⟩
      cases hcredentials
    · simp [bind, Except.bind, pure, Except.pure]

end ConnectionSettings

/-! ## What is accepted -/

/-- Of texts that are trimmed, those name a behavior from which it can be read. -/
theorem isNamed_iff_parse {text : String} (h : Trimmed text.toList) {f : Failover} :
    f.IsNamed text.toList ↔ Failover.parse text = .ok f := by
  rw [Failover.parse_eq_ok_iff, trimList_of_trimmed h]

/-- What is read of behaviors, said by their names. -/
theorem lastFailover_eq_ok_iff_named {first f : Failover} {texts : List String}
    (h : ∀ text ∈ texts, Trimmed text.toList) :
    ConnectionSettings.lastFailover first texts = .ok f ↔
      (∀ text ∈ texts, ∃ g : Failover, g.IsNamed text.toList) ∧
      (texts.getLast? = none ∧ f = first ∨
        ∃ text, texts.getLast? = some text ∧ f.IsNamed text.toList) := by
  have hall : (∀ text ∈ texts, ∃ g : Failover, g.IsNamed text.toList) ↔
      ∀ text ∈ texts, ∃ g, Failover.parse text = .ok g :=
    forall₂_congr fun text htext => exists_congr fun g => isNamed_iff_parse (h text htext)
  have hlast : (∃ text, texts.getLast? = some text ∧ f.IsNamed text.toList) ↔
      ∃ text, texts.getLast? = some text ∧ Failover.parse text = .ok f :=
    exists_congr fun text => and_congr_right fun htext =>
      isNamed_iff_parse (h text (List.mem_of_getLast? htext))
  rw [ConnectionSettings.lastFailover_eq_ok_iff, hall, hlast]

/-- The outcome is options whose parts are read one by one. -/
theorem outcome_eq_ok_iff_parts {as : List Assignment} {o : StoreOptions} :
    outcome as = .ok o ↔
      (lastValue? .url as = some o.url ∧ o.url ≠ "") ∧ lastValue? .database as = o.database ∧
      lastValue? .apiKey as = o.apiKey ∧
      (lastValue? .user as = o.credentials.map Credentials.user ∧
        lastValue? .password as = o.credentials.map Credentials.password) ∧
      ConnectionSettings.lastFailover .failImmediately (valuesOf .failover as) =
        .ok o.failover := by
  rw [outcome]
  rcases ConnectionSettings.lastFailover .failImmediately (valuesOf .failover as) with e | f
  · constructor
    · intro h
      cases h
    · rintro ⟨-, -, -, -, hfailover⟩
      cases hfailover
  · show ConnectionSettings.options _ = .ok o ↔ _
    rw [ConnectionSettings.options_eq_ok_iff, ConnectionSettings.credentials_eq_ok_iff,
      Except.ok.injEq]

/-- The parser accepts just the lists that are options, and gives these options. -/
theorem outcome_eq_ok_iff {as : List Assignment} (h : ∀ a ∈ as, Trimmed a.value.toList)
    {o : StoreOptions} : outcome as = .ok o ↔ Acceptable as ∧ LastOf as o := by
  have htrimmed : ∀ text ∈ valuesOf .failover as, Trimmed text.toList := by
    intro text htext
    exact h _ (mem_valuesOf_iff.mp htext)
  rw [outcome_eq_ok_iff_parts, lastFailover_eq_ok_iff_named htrimmed]
  constructor
  · rintro ⟨hurl, hdatabase, hapiKey, ⟨huser, hpassword⟩, hall, hlast⟩
    refine ⟨⟨hall, ⟨o.url, hurl⟩, ?_⟩, ⟨hurl.1, hdatabase, hapiKey, huser, hpassword, hlast⟩⟩
    rw [← lastValue?_eq_none_iff, ← lastValue?_eq_none_iff, huser, hpassword,
      Option.map_eq_none_iff, Option.map_eq_none_iff]
  · rintro ⟨hacceptable, hof⟩
    obtain ⟨url, hurl, hne⟩ := hacceptable.url
    cases hurl.symm.trans hof.url
    exact ⟨⟨hof.url, hne⟩, hof.database, hof.apiKey, ⟨hof.user, hof.password⟩,
      hacceptable.failovers, hof.failover⟩

/-- Acceptable lists are options. -/
theorem Acceptable.exists_lastOf {as : List Assignment} (h : Acceptable as) :
    ∃ o, LastOf as o := by
  obtain ⟨url, hurl, -⟩ := h.url
  have hfailover : ∃ f : Failover, lastValue? .failover as = none ∧ f = .failImmediately ∨
      ∃ text, lastValue? .failover as = some text ∧ f.IsNamed text.toList := by
    rcases hlast : lastValue? .failover as with _ | text
    · exact ⟨_, Or.inl ⟨rfl, rfl⟩⟩
    · obtain ⟨f, hf⟩ := h.failovers text (List.mem_of_getLast? hlast)
      exact ⟨f, Or.inr ⟨text, rfl, hf⟩⟩
  have hcredentials : ∃ c : Option Credentials, lastValue? .user as = c.map Credentials.user ∧
      lastValue? .password as = c.map Credentials.password := by
    have hboth : lastValue? .user as = none ↔ lastValue? .password as = none := by
      rw [lastValue?_eq_none_iff, lastValue?_eq_none_iff]
      exact h.credentials
    rcases huser : lastValue? .user as with _ | user
    · exact ⟨none, rfl, hboth.mp huser⟩
    · rcases hpassword : lastValue? .password as with _ | password
      · rw [hboth.mpr hpassword] at huser
        cases huser
      · exact ⟨some ⟨user, password⟩, rfl, rfl⟩
  obtain ⟨f, hf⟩ := hfailover
  obtain ⟨c, huser, hpassword⟩ := hcredentials
  exact ⟨⟨url, lastValue? .database as, lastValue? .apiKey as, c, f⟩,
    ⟨hurl, rfl, rfl, huser, hpassword, hf⟩⟩

/-! ## What does not matter -/

/-- The outcome depends on the values of each option alone. -/
theorem outcome_congr {as bs : List Assignment}
    (h : ∀ option, valuesOf option as = valuesOf option bs) : outcome as = outcome bs := by
  simp only [outcome, lastValue?, h]

/-- A behavior that is read does not matter before others. -/
theorem lastFailover_overridden {text : String} {f : Failover}
    (hparse : Failover.parse text = .ok f) {later : List String} (hlater : later ≠ [])
    (first : Failover) (earlier : List String) :
    ConnectionSettings.lastFailover first (earlier ++ text :: later) =
      ConnectionSettings.lastFailover first (earlier ++ later) := by
  rw [ConnectionSettings.lastFailover, ConnectionSettings.lastFailover, List.foldlM_append,
    List.foldlM_append]
  refine congrArg _ (funext fun g => ?_)
  rw [List.foldlM_cons, hparse]
  -- what is kept before the next text is read does not matter
  obtain ⟨next, rest, rfl⟩ := List.exists_cons_of_ne_nil hlater
  rfl

/-- A value that is given to an option does not matter if another one is given to it later. -/
theorem outcome_overridden {before after : List Assignment} {a : Assignment}
    (hlater : ∃ b ∈ after, b.option = a.option)
    (hvalid : a.option = .failover → ∃ f, Failover.parse a.value = .ok f) :
    outcome (before ++ a :: after) = outcome (before ++ after) := by
  have hne : valuesOf a.option after ≠ [] := by
    obtain ⟨b, hb, hoption⟩ := hlater
    exact List.ne_nil_of_mem (mem_valuesOf_iff.mpr (by rw [← hoption]; exact hb))
  have hlast : ∀ option, lastValue? option (before ++ a :: after) =
      lastValue? option (before ++ after) := by
    intro option
    rw [lastValue?, lastValue?, valuesOf_append, valuesOf_append, valuesOf_cons]
    split
    · rename_i heq
      obtain ⟨next, rest, hvalues⟩ := List.exists_cons_of_ne_nil (heq ▸ hne)
      rw [hvalues, List.getLast?_append, List.getLast?_append, List.getLast?_cons_cons]
    · rfl
  have hfailover : ConnectionSettings.lastFailover .failImmediately
      (valuesOf .failover (before ++ a :: after)) =
      ConnectionSettings.lastFailover .failImmediately (valuesOf .failover (before ++ after)) := by
    rw [valuesOf_append, valuesOf_append, valuesOf_cons]
    split
    · rename_i heq
      obtain ⟨f, hf⟩ := hvalid heq
      exact lastFailover_overridden hf (heq ▸ hne) _ _
    · rfl
  simp only [outcome, hlast, hfailover]

/-! ## Faults -/

/-- The work succeeds, or it fails for a fault of the configuration. -/
def ConfigurationOnly {α : Type} (r : StoreResult α) : Prop :=
  (∃ x, r = .ok x) ∨ ∃ fault, r = .error (.configuration fault)

namespace ConfigurationOnly

variable {α β : Type}

theorem ok (x : α) : ConfigurationOnly (.ok x : StoreResult α) := Or.inl ⟨x, rfl⟩

theorem fault (f : ConfigurationFault) :
    ConfigurationOnly (.error (.configuration f) : StoreResult α) := Or.inr ⟨f, rfl⟩

theorem bind {r : StoreResult α} {next : α → StoreResult β} (h : ConfigurationOnly r)
    (hnext : ∀ x, ConfigurationOnly (next x)) : ConfigurationOnly (r >>= next) := by
  rcases h with ⟨x, rfl⟩ | ⟨f, rfl⟩
  · exact hnext x
  · exact fault f

theorem foldlM {step : β → α → StoreResult β} (h : ∀ y x, ConfigurationOnly (step y x)) (y : β)
    (xs : List α) : ConfigurationOnly (xs.foldlM step y) := by
  induction xs generalizing y with
  | nil => exact ok y
  | cons x xs ih =>
    rw [List.foldlM_cons]
    exact (h y x).bind ih

theorem failoverParse (text : String) : ConfigurationOnly (Failover.parse text) := by
  rw [Failover.parse]
  split
  · exact ok _
  · exact fault _

theorem assign (s : ConnectionSettings) (name value : String) :
    ConfigurationOnly (s.assign name value) := by
  unfold ConnectionSettings.assign
  split
  case h_7 => exact (failoverParse value).bind fun f => ok { s with failover := f }
  case h_8 => exact fault _
  all_goals exact ok _

theorem addSegment (s : ConnectionSettings) (segment : List Char) :
    ConfigurationOnly (s.addSegment segment) := by
  rw [ConnectionSettings.addSegment]
  split
  · exact assign s _ _
  · exact fault _

theorem options (s : ConnectionSettings) : ConfigurationOnly s.options := by
  rw [ConnectionSettings.options]
  split
  · refine bind ?_ fun c => ok _
    rw [ConnectionSettings.credentials]
    split
    · exact ok _
    · exact ok _
    · exact fault _
  · exact fault _

theorem parse (connection : String) : ConfigurationOnly (StoreOptions.parse connection) :=
  (foldlM addSegment {} (segments connection)).bind options

end ConfigurationOnly

/-! ## Connection strings -/

/-- What is listed is trimmed. -/
theorem Listing.trimmed {parts : List (List Char)} {as : List Assignment}
    (h : Listing Assigns parts as) : ∀ a ∈ as, Trimmed a.value.toList := by
  induction h with
  | nil => exact nofun
  | blank _ _ ih => exact ih
  | cons hassigns _ ih =>
    obtain ⟨_, _, _, _, _, _, _, hvalue⟩ := hassigns
    exact List.forall_mem_cons.mpr ⟨hvalue.trimmed, ih⟩

theorem Lists.trimmed {connection : String} {as : List Assignment} (h : Lists connection as) :
    ∀ a ∈ as, Trimmed a.value.toList := by
  obtain ⟨parts, -, -, hlisting⟩ := h
  exact hlisting.trimmed

/-- **Connection strings are accepted for what they list.**  A connection string is accepted just
when its parts are blank or give options values, and these values are acceptable as options; the
options are then the last values of each.  It is refused for a fault of the configuration alone.  So
the order in which different options are given does not matter, nor does a value, if it is not
refused itself, that is given to an option before another one. -/
theorem parse_eq_ok_iff_acceptable (connection : String) :
    ((∃ o, StoreOptions.parse connection = .ok o) ↔
      ∃ as, Lists connection as ∧ Acceptable as) ∧
    (∀ as, Lists connection as → ∀ o, StoreOptions.parse connection = .ok o ↔
      Acceptable as ∧ LastOf as o) ∧
    ((∃ o, StoreOptions.parse connection = .ok o) ∨
      ∃ fault, StoreOptions.parse connection = .error (.configuration fault)) ∧
    (∀ other as bs, Lists connection as → Lists other bs →
      (∀ option, valuesOf option as = valuesOf option bs) →
      StoreOptions.parse other = StoreOptions.parse connection) ∧
    ∀ other before after a, Lists connection (before ++ a :: after) →
      Lists other (before ++ after) → (∃ b ∈ after, b.option = a.option) →
      (a.option = .failover → ∃ f : Failover, f.IsNamed a.value.toList) →
      StoreOptions.parse other = StoreOptions.parse connection := by
  have hlast : ∀ as, Lists connection as → ∀ o, StoreOptions.parse connection = .ok o ↔
      Acceptable as ∧ LastOf as o := by
    intro as has o
    rw [parse_of_lists has, outcome_eq_ok_iff has.trimmed]
  refine ⟨⟨?_, ?_⟩, hlast, ConfigurationOnly.parse connection, ?_, ?_⟩
  · rintro ⟨o, ho⟩
    obtain ⟨as, has⟩ := exists_lists_of_parse ho
    exact ⟨as, has, ((hlast as has o).mp ho).1⟩
  · rintro ⟨as, has, hacceptable⟩
    obtain ⟨o, ho⟩ := hacceptable.exists_lastOf
    exact ⟨o, (hlast as has o).mpr ⟨hacceptable, ho⟩⟩
  · intro other as bs has hbs hvalues
    rw [parse_of_lists has, parse_of_lists hbs, outcome_congr hvalues]
  · intro other before after a hconnection hother hlater hvalid
    rw [parse_of_lists hconnection, parse_of_lists hother]
    refine (outcome_overridden hlater fun hfailover => ?_).symm
    obtain ⟨f, hf⟩ := hvalid hfailover
    have htrimmed := hconnection.trimmed a (List.mem_append_right _ List.mem_cons_self)
    exact ⟨f, (isNamed_iff_parse htrimmed).mp hf⟩

theorem parse_of_repeated_options :
    StoreOptions.parse
          "FailoverBehavior=ALLOWreadsFROMsecondaries; URL\t= y=z ;;failoverbehavior=failimmediately" =
        .ok ⟨"y=z", none, none, none, .failImmediately⟩ ∧
      StoreOptions.parse " URL\t= y=z ;failoverbehavior=failimmediately" =
        StoreOptions.parse
          "FailoverBehavior=ALLOWreadsFROMsecondaries; URL\t= y=z ;;failoverbehavior=failimmediately" ∧
      StoreOptions.parse "failoverbehavior=failimmediately; URL\t= y=z " =
        StoreOptions.parse " URL\t= y=z ;failoverbehavior=failimmediately" := by
  have hurl : Assigns " URL\t= y=z ".toList ⟨.url, "y=z"⟩ :=
    ⟨" URL\t".toList, " y=z ".toList, "URL".toList, by decide, by decide, by decide, by decide,
      by decide⟩
  have hfirst : Assigns "FailoverBehavior=ALLOWreadsFROMsecondaries".toList
      ⟨.failover, "ALLOWreadsFROMsecondaries"⟩ :=
    ⟨"FailoverBehavior".toList, "ALLOWreadsFROMsecondaries".toList, "FailoverBehavior".toList,
      by decide, by decide, by decide, by decide, by decide⟩
  have hsecond : Assigns "failoverbehavior=failimmediately".toList
      ⟨.failover, "failimmediately"⟩ :=
    ⟨"failoverbehavior".toList, "failimmediately".toList, "failoverbehavior".toList,
      by decide, by decide, by decide, by decide, by decide⟩
  have hblank : AllBlank [] := nofun
  have hall : Lists
      "FailoverBehavior=ALLOWreadsFROMsecondaries; URL\t= y=z ;;failoverbehavior=failimmediately"
      [⟨.failover, "ALLOWreadsFROMsecondaries"⟩, ⟨.url, "y=z"⟩, ⟨.failover, "failimmediately"⟩] :=
    ⟨_, by decide, by decide, .cons hfirst (.cons hurl (.blank hblank (.cons hsecond .nil)))⟩
  have hrest : Lists " URL\t= y=z ;failoverbehavior=failimmediately"
      [⟨.url, "y=z"⟩, ⟨.failover, "failimmediately"⟩] :=
    ⟨_, by decide, by decide, .cons hurl (.cons hsecond .nil)⟩
  have hswapped : Lists "failoverbehavior=failimmediately; URL\t= y=z "
      [⟨.failover, "failimmediately"⟩, ⟨.url, "y=z"⟩] :=
    ⟨_, by decide, by decide, .cons hsecond (.cons hurl .nil)⟩
  have hacceptable : Acceptable
      [⟨.failover, "ALLOWreadsFROMsecondaries"⟩, ⟨.url, "y=z"⟩, ⟨.failover, "failimmediately"⟩] :=
    { failovers := List.forall_mem_cons.mpr ⟨⟨.allowReadsFromSecondaries, by decide⟩,
        List.forall_mem_singleton.mpr ⟨.failImmediately, by decide⟩⟩
      url := ⟨"y=z", by decide, by decide⟩
      credentials := by decide }
  obtain ⟨-, hok, -, -, hdropped⟩ := parse_eq_ok_iff_acceptable
    "FailoverBehavior=ALLOWreadsFROMsecondaries; URL\t= y=z ;;failoverbehavior=failimmediately"
  obtain ⟨-, -, -, hreordered, -⟩ := parse_eq_ok_iff_acceptable
    " URL\t= y=z ;failoverbehavior=failimmediately"
  refine ⟨(hok _ hall _).mpr ⟨hacceptable, by constructor <;> decide⟩,
    hdropped _ [] _ _ hall hrest ⟨⟨.failover, "failimmediately"⟩, by decide, by decide⟩ ?_,
    hreordered _ _ _ hrest hswapped ?_⟩
  · exact fun _ => ⟨.allowReadsFromSecondaries, by decide⟩
  · intro option
    cases option <;> decide

end PatchStore
