import PatchStore.Proofs.Options.Parsing

/-!
# Options written as connection strings

There are many ways to write options as a connection string.  The present options are given in any
order, in any case and with any blanks, between any blank segments.  All of them are read as the same
options.

* `PlainText`, `StoreOptions.Plain` — texts that a connection string can say as they are.
* `Writes` — a part of a connection string is written for an assignment.
* `StoreOptions.Given`, `StoreOptions.ListedBy` — what a connection string says of options.
* `StoreOptions.Written` — all the connection strings for options.
* `Writes.assigns`, `Writes.free` — a part is read as the assignment that it was written for.
* `parse_of_written` — options are read back from each of their connection strings.
-/

namespace PatchStore

open Text

/-! ## What is written -/

/-- A text that stands in a connection string as it is. -/
structure PlainText (text : String) : Prop where
  free : ';' ∉ text.toList
  trimmed : Trimmed text.toList

/-- The part of a connection string is written for the assignment: a name of the option, an equals
sign and the value, with any blanks around the name and around the value. -/
def Writes (part : List Char) (a : Assignment) : Prop :=
  ∃ left right name, part = left ++ '=' :: right ∧ Pads left name ∧ a.option.IsNamed name ∧
    Pads right a.value.toList

namespace StoreOptions

/-- The texts of the options can be said as they are. -/
structure Plain (o : StoreOptions) : Prop where
  url : PlainText o.url
  database : ∀ database ∈ o.database, PlainText database
  apiKey : ∀ apiKey ∈ o.apiKey, PlainText apiKey
  credentials : ∀ c ∈ o.credentials, PlainText c.user ∧ PlainText c.password

/-- What is given for each option: its text, and nothing if it is missing.  Of the failover behavior
it is the name, in any case, or nothing if it is the one that needs not be given. -/
def Given (o : StoreOptions) : OptionName → Option String → Prop
  | .url, text => text = some o.url
  | .database, text => text = o.database
  | .apiKey, text => text = o.apiKey
  | .user, text => text = o.credentials.map Credentials.user
  | .password, text => text = o.credentials.map Credentials.password
  | .failover, some text => o.failover.IsNamed text.toList
  | .failover, none => o.failover = .failImmediately

/-- The assignments give the options, each of them at most once. -/
def ListedBy (o : StoreOptions) (as : List Assignment) : Prop :=
  ∀ option, ∃ text, valuesOf option as = text.toList ∧ o.Given option text

/-- The connection string is written for the options: between its semicolons they are given once, in
some order, and the rest is blank. -/
def Written (o : StoreOptions) (connection : String) : Prop :=
  ∃ parts as, connection.toList = [';'].intercalate parts ∧ Listing Writes parts as ∧ o.ListedBy as

end StoreOptions

/-! ## Names -/

/-- The character is a blank, or it separates names and values. -/
def isMark (c : Char) : Bool := isBlank c || c == '=' || c == ';'

/-- Text that differs in case only from text without marks has no marks either. -/
theorem unmarked_of_eqIgnoringCase {text : List Char} {name : String}
    (h : EqIgnoringCase text name.toList) (hname : (name.toList.any isMark) = false) :
    ∀ c ∈ text, isMark c = false := by
  refine h.forall (by decide) fun d hd => ?_
  have hnone := List.any_eq_false.mp hname d hd
  simpa using hnone

theorem OptionName.IsNamed.unmarked {option : OptionName} {text : List Char}
    (h : option.IsNamed text) : ∀ c ∈ text, isMark c = false := by
  obtain ⟨name, hname, heq⟩ := h
  have hnames : ∀ name ∈ option.names, (name.toList.any isMark) = false := by
    cases option <;> decide
  exact unmarked_of_eqIgnoringCase heq (hnames name hname)

theorem Failover.IsNamed.unmarked {f : Failover} {text : List Char} (h : f.IsNamed text) :
    ∀ c ∈ text, isMark c = false := by
  have hname : (f.name.toList.any isMark) = false := by cases f <;> decide
  exact unmarked_of_eqIgnoringCase h hname

section Unmarked

variable {text : List Char} (h : ∀ c ∈ text, isMark c = false)

include h

theorem trimmed_of_unmarked : Trimmed text := by
  refine trimmed_of_forall fun c hc => ?_
  have hmark := h c hc
  rw [isMark, Bool.or_eq_false_iff, Bool.or_eq_false_iff] at hmark
  exact hmark.1.1

theorem not_mem_of_unmarked {c : Char} (hc : isMark c = true) : c ∉ text := by
  intro hmem
  exact Bool.false_ne_true ((h c hmem).symm.trans hc)

end Unmarked

/-! ## Parts -/

/-- Blanks around a text bring no other characters. -/
theorem Text.Pads.not_mem {cs inner : List Char} (h : Pads cs inner) {c : Char}
    (hc : isBlank c = false) (hinner : c ∉ inner) : c ∉ cs := by
  obtain ⟨before, after, hbefore, hafter, rfl⟩ := h
  rw [List.mem_append, List.mem_append]
  rintro ((hmem | hmem) | hmem)
  · exact hbefore.not_mem hc hmem
  · exact hinner hmem
  · exact hafter.not_mem hc hmem

namespace Writes

variable {part : List Char} {a : Assignment}

/-- A part is read as the assignment that it was written for: its first equals sign is the one after
the name. -/
theorem assigns (h : Writes part a) (hvalue : Trimmed a.value.toList) : Assigns part a := by
  obtain ⟨left, right, name, rfl, hleft, hnamed, hright⟩ := h
  have hfirst : '=' ∉ left :=
    hleft.not_mem (by decide) (not_mem_of_unmarked hnamed.unmarked (by decide))
  exact ⟨left, right, name, rfl, hfirst, ⟨hleft, trimmed_of_unmarked hnamed.unmarked⟩, hnamed,
    hright, hvalue⟩

/-- A part is not torn apart. -/
theorem free (h : Writes part a) (hvalue : ';' ∉ a.value.toList) : ';' ∉ part := by
  obtain ⟨left, right, name, rfl, hleft, hnamed, hright⟩ := h
  rw [List.mem_append, List.mem_cons]
  rintro (hmem | hmem | hmem)
  · exact hleft.not_mem (by decide) (not_mem_of_unmarked hnamed.unmarked (by decide)) hmem
  · exact absurd hmem (by decide)
  · exact hright.not_mem (by decide) hvalue hmem

end Writes

/-- Parts that are written for plain assignments are whole, and they are read as these. -/
theorem Listing.of_writes {parts : List (List Char)} {as : List Assignment}
    (h : Listing Writes parts as) (hplain : ∀ a ∈ as, PlainText a.value) :
    (∀ part ∈ parts, ';' ∉ part) ∧ Listing Assigns parts as := by
  induction h with
  | nil => exact ⟨nofun, .nil⟩
  | blank hblank _ ih =>
    obtain ⟨hfree, hlisting⟩ := ih hplain
    exact ⟨List.forall_mem_cons.mpr ⟨hblank.not_mem (by decide), hfree⟩, .blank hblank hlisting⟩
  | cons hwrites _ ih =>
    obtain ⟨hvalue, hrest⟩ := List.forall_mem_cons.mp hplain
    obtain ⟨hfree, hlisting⟩ := ih hrest
    exact ⟨List.forall_mem_cons.mpr ⟨hwrites.free hvalue.free, hfree⟩,
      .cons (hwrites.assigns hvalue.trimmed) hlisting⟩

/-! ## Options -/

namespace StoreOptions

variable {o : StoreOptions} {as : List Assignment}

/-- What is given for plain options is plain. -/
theorem Given.plain {option : OptionName} {text : String} (h : o.Given option (some text))
    (ho : o.Plain) : PlainText text := by
  cases option with
  | url =>
    cases h
    exact ho.url
  | database => exact ho.database text h.symm
  | apiKey => exact ho.apiKey text h.symm
  | user =>
    obtain ⟨c, hc, rfl⟩ := Option.map_eq_some_iff.mp h.symm
    exact (ho.credentials c hc).1
  | password =>
    obtain ⟨c, hc, rfl⟩ := Option.map_eq_some_iff.mp h.symm
    exact (ho.credentials c hc).2
  | failover =>
    have hunmarked := Failover.IsNamed.unmarked h
    exact ⟨not_mem_of_unmarked hunmarked (by decide), trimmed_of_unmarked hunmarked⟩

/-- What is given at most once is given last. -/
theorem ListedBy.given_lastValue? (h : o.ListedBy as) (option : OptionName) :
    valuesOf option as = (lastValue? option as).toList ∧ o.Given option (lastValue? option as) := by
  obtain ⟨text, hvalues, hgiven⟩ := h option
  have hlast : lastValue? option as = text := by
    rw [lastValue?, hvalues]
    cases text <;> rfl
  rw [hlast]
  exact ⟨hvalues, hgiven⟩

theorem ListedBy.plain (h : o.ListedBy as) (ho : o.Plain) : ∀ a ∈ as, PlainText a.value := by
  intro a ha
  obtain ⟨hvalues, hgiven⟩ := h.given_lastValue? a.option
  have hmem : a.value ∈ valuesOf a.option as := mem_valuesOf_iff.mpr ha
  rw [hvalues, Option.mem_toList] at hmem
  rw [Option.mem_def.mp hmem] at hgiven
  exact hgiven.plain ho

/-- The options that are listed are the last values. -/
theorem ListedBy.lastOf (h : o.ListedBy as) : LastOf as o where
  url := (h.given_lastValue? .url).2
  database := (h.given_lastValue? .database).2
  apiKey := (h.given_lastValue? .apiKey).2
  user := (h.given_lastValue? .user).2
  password := (h.given_lastValue? .password).2
  failover := by
    have hgiven := (h.given_lastValue? .failover).2
    rcases hlast : lastValue? .failover as with _ | text
    · rw [hlast] at hgiven
      exact Or.inl ⟨rfl, hgiven⟩
    · rw [hlast] at hgiven
      exact Or.inr ⟨text, rfl, hgiven⟩

/-- Options with a url are accepted as they are listed. -/
theorem ListedBy.acceptable (h : o.ListedBy as) (hurl : o.url ≠ "") : Acceptable as where
  failovers text htext := by
    obtain ⟨hvalues, hgiven⟩ := h.given_lastValue? .failover
    rw [hvalues, Option.mem_toList] at htext
    rw [Option.mem_def.mp htext] at hgiven
    exact ⟨o.failover, hgiven⟩
  url := ⟨o.url, h.lastOf.url, hurl⟩
  credentials := by
    rw [(h.given_lastValue? .user).1, (h.given_lastValue? .password).1, h.lastOf.user,
      h.lastOf.password]
    cases o.credentials <;> simp

/-- Options that can be built have a url. -/
theorem url_ne_of_build {built : StoreOptions} (h : o.build = .ok built) :
    built = o ∧ o.url ≠ "" := by
  rw [build] at h
  split at h
  · cases h
  · rename_i hurl
    cases h
    refine ⟨rfl, ?_⟩
    rintro hempty
    rw [hempty] at hurl
    exact hurl (by decide)

end StoreOptions

/-- **Connection strings for options are read as the options.**  Options that can be built, and whose
texts can be said as they are, are what is read from each connection string that is written for
them: whatever the order, the names, the case and the blanks, with blank segments anywhere and with
equals signs in the values. -/
theorem parse_of_written {o built : StoreOptions} (hbuild : o.build = .ok built)
    (hplain : built.Plain) {connection : String} (h : built.Written connection) :
    StoreOptions.parse connection = .ok built := by
  obtain ⟨rfl, hurl⟩ := StoreOptions.url_ne_of_build hbuild
  obtain ⟨parts, as, hparts, hwritten, hlisted⟩ := h
  obtain ⟨hfree, hlisting⟩ := hwritten.of_writes (hlisted.plain hplain)
  have hlists : Lists connection as := ⟨parts, hparts, hfree, hlisting⟩
  rw [parse_of_lists hlists, outcome_eq_ok_iff hlists.trimmed]
  exact ⟨hlisted.acceptable hurl, hlisted.lastOf⟩

/-- Options with an equals sign in the url and with an empty password. -/
def StoreOptions.blog : StoreOptions where
  url := "h?a=b"
  database := some "Blog"
  credentials := some ⟨"me", ""⟩

theorem parse_of_padded_options :
    StoreOptions.blog.build = .ok .blog ∧ StoreOptions.blog.Plain ∧
      StoreOptions.blog.Written
        " ;passWORD=; uRL\t= h?a=b ;;failoverbehavior= FAILimmediately;defaultDataBase=Blog;User=me" ∧
      StoreOptions.parse
        " ;passWORD=; uRL\t= h?a=b ;;failoverbehavior= FAILimmediately;defaultDataBase=Blog;User=me" =
        .ok .blog := by
  have hbuild : StoreOptions.blog.build = .ok .blog := if_neg (by decide)
  have hplain : StoreOptions.blog.Plain :=
    { url := ⟨by decide, by decide⟩
      database := by
        rintro database ⟨⟩
        exact ⟨by decide, by decide⟩
      apiKey := nofun
      credentials := by
        rintro c ⟨⟩
        exact ⟨⟨by decide, by decide⟩, by decide, by decide⟩ }
  have hlisted : StoreOptions.blog.ListedBy [⟨.password, ""⟩, ⟨.url, "h?a=b"⟩,
      ⟨.failover, "FAILimmediately"⟩, ⟨.database, "Blog"⟩, ⟨.user, "me"⟩] := by
    intro option
    cases option with
    | url | database | user | password => exact ⟨some _, rfl, rfl⟩
    | apiKey => exact ⟨none, rfl, rfl⟩
    | failover =>
      have hnamed : Failover.failImmediately.IsNamed "FAILimmediately".toList := by decide
      exact ⟨some "FAILimmediately", rfl, hnamed⟩
  have hpassword : Writes "passWORD=".toList ⟨.password, ""⟩ :=
    ⟨"passWORD".toList, [], "passWORD".toList, by decide, TrimsTo.pads (by decide), by decide,
      TrimsTo.pads (by decide)⟩
  have hurl : Writes " uRL\t= h?a=b ".toList ⟨.url, "h?a=b"⟩ :=
    ⟨" uRL\t".toList, " h?a=b ".toList, "uRL".toList, by decide, TrimsTo.pads (by decide),
      by decide, TrimsTo.pads (by decide)⟩
  have hfailover : Writes "failoverbehavior= FAILimmediately".toList
      ⟨.failover, "FAILimmediately"⟩ :=
    ⟨"failoverbehavior".toList, " FAILimmediately".toList, "failoverbehavior".toList, by decide,
      TrimsTo.pads (by decide), by decide, TrimsTo.pads (by decide)⟩
  have hdatabase : Writes "defaultDataBase=Blog".toList ⟨.database, "Blog"⟩ :=
    ⟨"defaultDataBase".toList, "Blog".toList, "defaultDataBase".toList, by decide,
      TrimsTo.pads (by decide), by decide, TrimsTo.pads (by decide)⟩
  have huser : Writes "User=me".toList ⟨.user, "me"⟩ :=
    ⟨"User".toList, "me".toList, "User".toList, by decide, TrimsTo.pads (by decide), by decide,
      TrimsTo.pads (by decide)⟩
  have hnone : AllBlank [] := nofun
  have hblank : AllBlank " ".toList := by decide
  have hwritten : StoreOptions.blog.Written
      " ;passWORD=; uRL\t= h?a=b ;;failoverbehavior= FAILimmediately;defaultDataBase=Blog;User=me" :=
    ⟨_, _, by decide, .blank hblank (.cons hpassword (.cons hurl (.blank hnone
      (.cons hfailover (.cons hdatabase (.cons huser .nil)))))), hlisted⟩
  exact ⟨hbuild, hplain, hwritten, parse_of_written hbuild hplain hwritten⟩

end PatchStore
