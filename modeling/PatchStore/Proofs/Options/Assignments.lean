import PatchStore.Options.Basic
import PatchStore.Proofs.Text.AsciiCase
import PatchStore.Proofs.Text.Trimming

/-!
# Connection strings as lists of assignments

A connection string lists assignments of values to options.  The parser goes through its segments
one by one and keeps what it has so far.  Here the list comes first: what the string lists, said
without the parser, and then what the parser makes of the list.

* `OptionName.IsNamed`, `Failover.IsNamed` — names in any case.
* `Assigns` — a part of a connection string gives an option a value.
* `Listing`, `Lists` — parts, and whole connection strings, that list assignments.
* `addSegment_of_assigns`, `addSegment_of_not_assigns` — one segment.
* `foldlM_take` — all segments: each option but the failover behavior keeps its last value, and the
  behaviors are read in their order.
* `parse_of_lists`, `exists_lists_of_parse` — the outcome of a connection string, by what it lists.
-/

namespace PatchStore

open Text

/-! ## Names -/

/-- The options that a connection string can give values to. -/
inductive OptionName where
  | url
  | database
  | apiKey
  | user
  | password
  | failover
  deriving DecidableEq

namespace OptionName

/-- The names of an option in a connection string. -/
def names : OptionName → List String
  | url => ["Url"]
  | database => ["Database", "DefaultDatabase"]
  | apiKey => ["ApiKey"]
  | user => ["User"]
  | password => ["Password"]
  | failover => ["FailoverBehavior"]

/-- The text is a name of the option, in any case. -/
def IsNamed (option : OptionName) (text : List Char) : Prop :=
  ∃ name ∈ option.names, EqIgnoringCase text name.toList

instance (option : OptionName) (text : List Char) : Decidable (option.IsNamed text) :=
  decidable_of_iff (option.names.any (EqIgnoringCase text ·.toList) = true) (by simp [IsNamed])

theorem isNamed_of_lowered {option : OptionName} {text : List Char} {name lowered : String}
    (h : String.ofList (text.map Char.toLower) = lowered) (hname : name ∈ option.names)
    (hlowered : lowered.toList = name.toList.map Char.toLower) : option.IsNamed text := by
  refine ⟨name, hname, ?_⟩
  rw [EqIgnoringCase, ← hlowered, ← h, String.toList_ofList]

end OptionName

namespace Failover

/-- The text is the name of the behavior, in any case. -/
def IsNamed (f : Failover) (text : List Char) : Prop := EqIgnoringCase text f.name.toList

instance (f : Failover) (text : List Char) : Decidable (f.IsNamed text) :=
  inferInstanceAs (Decidable (EqIgnoringCase _ _))

theorem toLower_name_inj {f g : Failover} : f.name.toLower = g.name.toLower ↔ f = g := by
  rw [← String.toList_inj, toList_toLower, toList_toLower]
  cases f <;> cases g <;> decide

theorem find?_name_toLower (f : Failover) :
    (all.find? fun g => g.name.toLower == f.name.toLower) = some f := by
  have htest : (fun g : Failover => g.name.toLower == f.name.toLower) = fun g => g == f := by
    funext g
    rw [Bool.eq_iff_iff, beq_iff_eq, beq_iff_eq, toLower_name_inj]
  rw [htest]
  cases f <;> rfl

theorem isNamed_iff {f : Failover} {text : List Char} :
    f.IsNamed text ↔ f.name.toLower = (String.ofList text).toLower := by
  rw [IsNamed, EqIgnoringCase, ← String.toList_inj, toList_toLower, toList_toLower,
    String.toList_ofList]
  exact eq_comm

/-- A behavior is read from its names. -/
theorem parse_eq_ok_iff {text : String} {f : Failover} :
    parse text = .ok f ↔ f.IsNamed (trimList text.toList) := by
  rw [isNamed_iff, ← trim, parse]
  constructor
  · intro h
    rcases hfound : all.find? fun f => f.name.toLower == (trim text).toLower with _ | g
    · rw [hfound] at h
      cases h
    · rw [hfound] at h
      cases h
      simpa using List.find?_some hfound
  · intro h
    rw [← h, find?_name_toLower]

end Failover

/-! ## Assignments -/

/-- A value for an option. -/
structure Assignment where
  option : OptionName
  value : String
  deriving DecidableEq

/-- The part of a connection string gives an option a value: before its first equals sign stands a
name of the option and after it the value, with any blanks around either. -/
def Assigns (part : List Char) (a : Assignment) : Prop :=
  ∃ before after name, part = before ++ '=' :: after ∧ '=' ∉ before ∧ TrimsTo before name ∧
    a.option.IsNamed name ∧ TrimsTo after a.value.toList

/-- The parts are blank, or they give the options values, one after the other. -/
inductive Listing (Gives : List Char → Assignment → Prop) :
    List (List Char) → List Assignment → Prop
  | nil : Listing Gives [] []
  | blank {part : List Char} {parts : List (List Char)} {as : List Assignment} :
      AllBlank part → Listing Gives parts as → Listing Gives (part :: parts) as
  | cons {part : List Char} {parts : List (List Char)} {a : Assignment} {as : List Assignment} :
      Gives part a → Listing Gives parts as → Listing Gives (part :: parts) (a :: as)

/-- What stands between the semicolons of a connection string gives the options these values. -/
def Lists (connection : String) (as : List Assignment) : Prop :=
  ∃ parts, connection.toList = [';'].intercalate parts ∧ (∀ part ∈ parts, ';' ∉ part) ∧
    Listing Assigns parts as

/-- The values that are given to an option, in their order. -/
def valuesOf (option : OptionName) (as : List Assignment) : List String :=
  (as.filter fun a => a.option = option).map Assignment.value

/-- The value that is given to an option last. -/
def lastValue? (option : OptionName) (as : List Assignment) : Option String :=
  (valuesOf option as).getLast?

theorem valuesOf_cons (option : OptionName) (a : Assignment) (as : List Assignment) :
    valuesOf option (a :: as) =
      if a.option = option then a.value :: valuesOf option as else valuesOf option as := by
  rw [valuesOf, List.filter_cons]
  by_cases h : a.option = option <;> simp [h, valuesOf]

theorem valuesOf_append (option : OptionName) (as bs : List Assignment) :
    valuesOf option (as ++ bs) = valuesOf option as ++ valuesOf option bs := by
  rw [valuesOf, List.filter_append, List.map_append, valuesOf, valuesOf]

theorem mem_valuesOf_iff {option : OptionName} {as : List Assignment} {value : String} :
    value ∈ valuesOf option as ↔ ⟨option, value⟩ ∈ as := by
  constructor
  · intro h
    obtain ⟨a, ha, rfl⟩ := List.mem_map.mp h
    obtain ⟨hmem, hoption⟩ := List.mem_filter.mp ha
    obtain rfl : a.option = option := by simpa using hoption
    exact hmem
  · intro h
    exact List.mem_map.mpr ⟨_, List.mem_filter.mpr ⟨h, by simp⟩, rfl⟩

theorem lastValue?_eq_none_iff {option : OptionName} {as : List Assignment} :
    lastValue? option as = none ↔ valuesOf option as = [] := by
  rw [lastValue?, List.getLast?_eq_none_iff]

/-- Of a value and those after it the last one counts. -/
theorem lastValue?_cons (option : OptionName) (a : Assignment) (as : List Assignment) :
    lastValue? option (a :: as) =
      (lastValue? option as).or (if a.option = option then some a.value else none) := by
  rw [lastValue?, valuesOf_cons, lastValue?]
  by_cases h : a.option = option
  · rw [if_pos h, if_pos h, List.getLast?_cons]
    cases (valuesOf option as).getLast? <;> rfl
  · rw [if_neg h, if_neg h, Option.or_none]

namespace ConnectionSettings

/-! ## One segment -/

/-- Takes an assignment. -/
def take (s : ConnectionSettings) (a : Assignment) : StoreResult ConnectionSettings :=
  match a.option with
  | .url => .ok { s with url := some a.value }
  | .database => .ok { s with database := some a.value }
  | .apiKey => .ok { s with apiKey := some a.value }
  | .user => .ok { s with user := some a.value }
  | .password => .ok { s with password := some a.value }
  | .failover => (Failover.parse a.value).map fun f => { s with failover := f }

theorem assign_of_isNamed {option : OptionName} {text : List Char} (h : option.IsNamed text)
    (s : ConnectionSettings) (value : String) :
    s.assign (String.ofList (text.map Char.toLower)) value = s.take ⟨option, value⟩ := by
  obtain ⟨name, hname, heq⟩ := h
  rw [heq]
  cases option with
  | database =>
    rcases List.mem_cons.mp hname with rfl | hname
    · rfl
    · cases List.mem_singleton.mp hname
      rfl
  | url | apiKey | user | password | failover =>
    cases List.mem_singleton.mp hname
    rfl

theorem assign_of_not_isNamed {text : List Char} (h : ∀ option : OptionName, ¬option.IsNamed text)
    (s : ConnectionSettings) (value : String) :
    ∃ name, s.assign (String.ofList (text.map Char.toLower)) value =
      .error (.configuration (.unknownOption name)) := by
  unfold assign
  split
  case h_1 heq => exact absurd (OptionName.isNamed_of_lowered heq List.mem_cons_self rfl) (h .url)
  case h_2 heq =>
    exact absurd (OptionName.isNamed_of_lowered heq List.mem_cons_self rfl) (h .database)
  case h_3 heq =>
    exact absurd (OptionName.isNamed_of_lowered heq
      (List.mem_cons_of_mem _ List.mem_cons_self) rfl) (h .database)
  case h_4 heq =>
    exact absurd (OptionName.isNamed_of_lowered heq List.mem_cons_self rfl) (h .apiKey)
  case h_5 heq => exact absurd (OptionName.isNamed_of_lowered heq List.mem_cons_self rfl) (h .user)
  case h_6 heq =>
    exact absurd (OptionName.isNamed_of_lowered heq List.mem_cons_self rfl) (h .password)
  case h_7 heq =>
    exact absurd (OptionName.isNamed_of_lowered heq List.mem_cons_self rfl) (h .failover)
  case h_8 => exact ⟨_, rfl⟩

theorem splitAtEquals?_append {before : List Char} (h : '=' ∉ before) (after : List Char) :
    splitAtEquals? (before ++ '=' :: after) = some (before, after) := by
  have hsplit : (before ++ '=' :: after).dropWhile (· != '=') = '=' :: after ∧
      (before ++ '=' :: after).takeWhile (· != '=') = before := by
    induction before with
    | nil => exact ⟨rfl, rfl⟩
    | cons c before ih =>
      have hc : (c != '=') = true := by simpa using (List.ne_of_not_mem_cons h).symm
      obtain ⟨hdrop, htake⟩ := ih (List.not_mem_of_not_mem_cons h)
      rw [List.cons_append, List.dropWhile_cons, if_pos hc, List.takeWhile_cons, if_pos hc]
      exact ⟨hdrop, congrArg (c :: ·) htake⟩
  rw [splitAtEquals?, hsplit.1, hsplit.2]

theorem splitAtEquals?_of_not_mem {segment : List Char} (h : '=' ∉ segment) :
    splitAtEquals? segment = none := by
  rcases hdrop : segment.dropWhile (· != '=') with _ | ⟨c, rest⟩
  · rw [splitAtEquals?, hdrop]
  · have hmem : c ∈ segment := List.dropWhile_subset (· != '=') (hdrop ▸ List.mem_cons_self)
    have hc := List.head?_dropWhile_not (· != '=') segment
    rw [hdrop] at hc
    have heq : c = '=' := by simpa using hc
    exact absurd (heq ▸ hmem) h

/-- A segment is taken apart at its first equals sign, and both texts are trimmed. -/
theorem addSegment_append {before : List Char} (h : '=' ∉ before) (after : List Char)
    (s : ConnectionSettings) :
    s.addSegment (trimList (before ++ '=' :: after)) =
      s.assign (String.ofList ((trimList before).map Char.toLower))
        (String.ofList (trimList after)) := by
  have hbefore : '=' ∉ trimStart before := fun hmem => h (List.dropWhile_subset _ hmem)
  rw [trimList_middle (by decide), addSegment, splitAtEquals?_append hbefore]
  simp only [trimList_trimStart, trimList_trimEnd]

/-- A segment that assigns is taken. -/
theorem addSegment_of_assigns {part : List Char} {a : Assignment} (h : Assigns part a)
    (s : ConnectionSettings) : s.addSegment (trimList part) = s.take a := by
  obtain ⟨before, after, name, rfl, hbefore, hname, hnamed, hvalue⟩ := h
  rw [addSegment_append hbefore, trimsTo_iff.mp hname, trimsTo_iff.mp hvalue,
    assign_of_isNamed hnamed, String.ofList_toList]

/-- A segment that does not assign is refused. -/
theorem addSegment_of_not_assigns {part : List Char} (h : ∀ a, ¬Assigns part a)
    (s : ConnectionSettings) :
    ∃ fault, s.addSegment (trimList part) = .error (.configuration fault) := by
  by_cases hmem : '=' ∈ part
  · obtain ⟨before, after, rfl, hbefore⟩ := List.eq_append_cons_of_mem hmem
    have hunknown : ∀ option : OptionName, ¬option.IsNamed (trimList before) := by
      intro option hnamed
      refine h ⟨option, String.ofList (trimList after)⟩ ⟨before, after, trimList before, rfl,
        hbefore, trimsTo_trimList before, hnamed, ?_⟩
      rw [String.toList_ofList]
      exact trimsTo_trimList after
    rw [addSegment_append hbefore]
    obtain ⟨name, hname⟩ := assign_of_not_isNamed hunknown s (String.ofList (trimList after))
    exact ⟨_, hname⟩
  · have htrimmed : '=' ∉ trimList part := by
      obtain ⟨start, rest, -, -, hpart⟩ := (trimsTo_trimList part).pads
      intro hin
      rw [hpart] at hmem
      exact hmem (List.mem_append_left _ (List.mem_append_right _ hin))
    rw [addSegment, splitAtEquals?_of_not_mem htrimmed]
    exact ⟨_, rfl⟩

/-! ## All segments -/

/-- The last of the behaviors that texts name; one that is unknown is refused. -/
def lastFailover (first : Failover) (texts : List String) : StoreResult Failover :=
  texts.foldlM (fun _ text => Failover.parse text) first

/-- Taking assignments leaves each option its last value.  The behaviors are read in their order. -/
theorem foldlM_take (as : List Assignment) (s : ConnectionSettings) :
    as.foldlM take s = (lastFailover s.failover (valuesOf .failover as)).map fun failover =>
      { url := (lastValue? .url as).or s.url
        database := (lastValue? .database as).or s.database
        apiKey := (lastValue? .apiKey as).or s.apiKey
        user := (lastValue? .user as).or s.user
        password := (lastValue? .password as).or s.password
        failover := failover } := by
  induction as generalizing s with
  | nil => rfl
  | cons a as ih =>
    rcases a with ⟨option, value⟩
    cases option with
    | url | database | apiKey | user | password =>
      rw [List.foldlM_cons, take]
      simp [ih, lastValue?_cons, valuesOf_cons, bind, Except.bind]
    | failover =>
      rw [List.foldlM_cons, take, valuesOf_cons, if_pos rfl, lastFailover, List.foldlM_cons]
      rcases hparse : Failover.parse value with e | f
      · simp [bind, Except.bind, Except.map]
      · simp [ih, lastValue?_cons, bind, Except.bind, Except.map, lastFailover]

end ConnectionSettings

/-! ## Whole connection strings -/

/-- What the parser makes of assignments. -/
def outcome (as : List Assignment) : StoreResult StoreOptions := do
  let failover ← ConnectionSettings.lastFailover .failImmediately (valuesOf .failover as)
  ConnectionSettings.options
    { url := lastValue? .url as
      database := lastValue? .database as
      apiKey := lastValue? .apiKey as
      user := lastValue? .user as
      password := lastValue? .password as
      failover := failover }

/-- The segments of parts that are joined by semicolons. -/
theorem segments_of_parts {connection : String} {parts : List (List Char)}
    (hparts : connection.toList = [';'].intercalate parts) (hfree : ∀ part ∈ parts, ';' ∉ part) :
    segments connection = (parts.map trimList).filter fun segment => !segment.isEmpty := by
  rw [segments, hparts]
  cases parts with
  | nil => rfl
  | cons part parts => rw [splitAtChar_intercalate (List.cons_ne_nil _ _) hfree]

/-- A part that assigns is not blank. -/
theorem Assigns.trimList_ne_nil {part : List Char} {a : Assignment} (h : Assigns part a) :
    trimList part ≠ [] := by
  obtain ⟨before, after, -, rfl, -⟩ := h
  rw [trimList_middle (by decide)]
  exact List.append_ne_nil_of_right_ne_nil _ (List.cons_ne_nil _ _)

/-- The segments of parts that list assignments are taken one by one. -/
theorem Listing.foldlM_addSegment {parts : List (List Char)} {as : List Assignment}
    (h : Listing Assigns parts as) (s : ConnectionSettings) :
    ((parts.map trimList).filter fun segment => !segment.isEmpty).foldlM
      ConnectionSettings.addSegment s = as.foldlM ConnectionSettings.take s := by
  induction h generalizing s with
  | nil => rfl
  | blank hblank hrest ih =>
    rw [List.map_cons, List.filter_cons_of_neg (by simp [trimList_eq_nil_iff.mpr hblank])]
    exact ih s
  | cons hassigns hrest ih =>
    rw [List.map_cons, List.filter_cons_of_pos (by simpa using hassigns.trimList_ne_nil),
      List.foldlM_cons, List.foldlM_cons, ConnectionSettings.addSegment_of_assigns hassigns]
    exact congrArg _ (funext ih)

/-- The outcome of a connection string is what the parser makes of its assignments. -/
theorem parse_of_lists {connection : String} {as : List Assignment} (h : Lists connection as) :
    StoreOptions.parse connection = outcome as := by
  obtain ⟨parts, hparts, hfree, hlisting⟩ := h
  rw [StoreOptions.parse, segments_of_parts hparts hfree, hlisting.foldlM_addSegment,
    ConnectionSettings.foldlM_take, outcome]
  cases ConnectionSettings.lastFailover .failImmediately (valuesOf .failover as) with
  | error e => rfl
  | ok failover => simp [bind, Except.bind, Except.map]

/-- Parts whose segments are all taken list assignments. -/
theorem exists_listing_of_foldlM {parts : List (List Char)} {s t : ConnectionSettings}
    (h : ((parts.map trimList).filter fun segment => !segment.isEmpty).foldlM
      ConnectionSettings.addSegment s = .ok t) : ∃ as, Listing Assigns parts as := by
  induction parts generalizing s with
  | nil => exact ⟨[], .nil⟩
  | cons part parts ih =>
    by_cases hblank : trimList part = []
    · rw [List.map_cons, List.filter_cons_of_neg (by simp [hblank])] at h
      obtain ⟨as, has⟩ := ih h
      exact ⟨as, .blank (trimList_eq_nil_iff.mp hblank) has⟩
    · rw [List.map_cons, List.filter_cons_of_pos (by simpa using hblank), List.foldlM_cons] at h
      by_cases hassigns : ∃ a, Assigns part a
      · obtain ⟨a, ha⟩ := hassigns
        rcases hstep : s.addSegment (trimList part) with e | next
        · rw [hstep] at h
          cases h
        · rw [hstep] at h
          obtain ⟨as, has⟩ := ih h
          exact ⟨a :: as, .cons ha has⟩
      · obtain ⟨fault, hfault⟩ :=
          ConnectionSettings.addSegment_of_not_assigns (not_exists.mp hassigns) s
        rw [hfault] at h
        cases h

/-- A connection string that gives options lists assignments. -/
theorem exists_lists_of_parse {connection : String} {o : StoreOptions}
    (h : StoreOptions.parse connection = .ok o) : ∃ as, Lists connection as := by
  have hparts := (intercalate_splitAtChar ';' connection.toList).symm
  have hfree : ∀ part ∈ splitAtChar ';' connection.toList, ';' ∉ part := fun part hpart =>
    not_mem_of_mem_splitAtChar hpart
  rw [StoreOptions.parse] at h
  rcases hfold : (segments connection).foldlM ConnectionSettings.addSegment {} with e | s
  · rw [hfold] at h
    cases h
  · obtain ⟨as, has⟩ := exists_listing_of_foldlM hfold
    exact ⟨as, _, hparts, hfree, has⟩

end PatchStore
