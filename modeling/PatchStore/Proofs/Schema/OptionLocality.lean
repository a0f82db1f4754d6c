import PatchStore.Proofs.Source.Locality.Depth
import PatchStore.Schema.Derive

/-!
# Options in front of other options

An option of an attribute is read in the same way whatever options stand after it, with commas between
them, and however the tokens before it were read.

* `OptionReader.Carries` — what is read in front of one tail is read in front of the other.
* `carries_skip` — an option that is not interpreted is passed over in front of other options.
* `ReadsAll`, `readsAll_of_options` — options read one after the other, without a limit on their number.
* `FieldOptions.carries_serdeOption`, `ContainerOptions.carries_serdeOption` — so are all options read.
-/

namespace PatchStore

open Source Source.Parse

namespace OptionReader

variable {α β σ : Type} {t : Tails}

/-! ## Readers that are carried over -/

/-- Before the given tokens the reader gives a value, leaves the rest, and leaves a group before its
end or not, whatever was read before. -/
def Goes (p : OptionReader α) (ts : List Token) (x : α) (rest : List Token) (left : Bool) : Prop :=
  ∀ written leftover, ∃ written',
    p.run ⟨ts, written, leftover⟩ = .ok (x, ⟨rest, written', leftover || left⟩)

/-- The reader goes towards the end, and what it reads in front of the tail here it reads in front of
the tail there. -/
def Carries (t : Tails) (p : OptionReader α) : Prop :=
  ∀ us written leftover x c, p.run ⟨us, written, leftover⟩ = .ok (x, c) →
    c.rest <:+ us ∧ ∀ ts rest, us = ts ++ t.here → c.rest = rest ++ t.here →
      ∃ left, c.leftover = (leftover || left) ∧ Goes p (ts ++ t.there) x (rest ++ t.there) left

theorem Goes.pure (x : α) (ts : List Token) : Goes (pure x) ts x ts false :=
  fun written leftover => ⟨written, by rw [Bool.or_false]; rfl⟩

theorem Goes.bind {p : OptionReader α} {f : α → OptionReader β} {x : α} {y : β}
    {ts mid rest : List Token} {left later : Bool} (hp : Goes p ts x mid left)
    (hf : Goes (f x) mid y rest later) : Goes (p >>= f) ts y rest (left || later) := by
  intro written leftover
  obtain ⟨written', hrun⟩ := hp written leftover
  obtain ⟨written'', hrun'⟩ := hf written' (leftover || left)
  refine ⟨written'', ?_⟩
  rw [StateT.run_bind, hrun, ← Bool.or_assoc]
  exact hrun'

/-- A reader reads the same from given tokens, however it got there. -/
theorem Goes.unique {p : OptionReader α} {x y : α} {ts rest written : List Token}
    {left leftover : Bool} {c : Cursor} (h : Goes p ts x rest left)
    (hrun : p.run ⟨ts, written, leftover⟩ = .ok (y, c)) :
    y = x ∧ c.rest = rest ∧ c.leftover = (leftover || left) := by
  obtain ⟨written', hgoes⟩ := h written leftover
  rw [hrun] at hgoes
  cases hgoes
  exact ⟨rfl, rfl, rfl⟩

theorem run_ofParse_of_some {p : Parse α} {c : Cursor} {r : α × Cursor} (h : p.run c = some r) :
    (ofParse p).run c = .ok r := by
  show ofParse p c = _
  unfold ofParse
  rw [h]

theorem run_ofParse_of_none {p : Parse α} {c : Cursor} (h : p.run c = none) :
    (ofParse p).run c = .error .malformed := by
  show ofParse p c = _
  unfold ofParse
  rw [h]

theorem run_of_ofParse {p : Parse α} {c : Cursor} {r : α × Cursor} (h : (ofParse p).run c = .ok r) :
    p.run c = some r := by
  rcases hr : p.run c with _ | r'
  · rw [run_ofParse_of_none hr] at h
    cases h
  · rw [run_ofParse_of_some hr] at h
    cases h
    rfl

/-- A reader that reads something after another one reads it from where that one led. -/
theorem exists_of_run_bind {p : OptionReader α} {f : α → OptionReader β} {c : Cursor}
    {r : β × Cursor} (h : (p >>= f).run c = .ok r) :
    ∃ x mid, p.run c = .ok (x, mid) ∧ (f x).run mid = .ok r := by
  rw [StateT.run_bind] at h
  rcases hx : p.run c with e | ⟨x, mid⟩
  · rw [hx] at h
    cases h
  · rw [hx] at h
    exact ⟨x, mid, rfl, h⟩

theorem Goes.ofParse {p : Parse α} {x : α} {ts rest new : List Token} {left : Bool}
    (h : Parse.Goes p ts x rest new left) : Goes (ofParse p) ts x rest left :=
  fun written leftover => ⟨new ++ written, run_ofParse_of_some (h written leftover)⟩

namespace Carries

theorem pure (x : α) : Carries t (pure x) := by
  intro us written leftover y c hrun
  cases hrun
  refine ⟨List.suffix_rfl, fun ts rest hts hrest => ⟨false, by rw [Bool.or_false], ?_⟩⟩
  rw [List.append_cancel_right (hrest.symm.trans hts)]
  exact .pure x _

theorem throw (e : DeriveError) : Carries t (throw e : OptionReader α) := by
  intro us written leftover x c hrun
  cases hrun

theorem bind {p : OptionReader α} {f : α → OptionReader β} (hp : Carries t p)
    (hf : ∀ x, Carries t (f x)) : Carries t (p >>= f) := by
  intro us written leftover y c hrun
  obtain ⟨x, mid, hx, hnext⟩ := exists_of_run_bind hrun
  obtain ⟨hmid, hfirst⟩ := hp us written leftover x mid hx
  obtain ⟨hc, hsecond⟩ := hf x mid.rest mid.written mid.leftover y c hnext
  refine ⟨hc.trans hmid, fun ts rest hts htail => ?_⟩
  -- the second reader goes towards the end, so the first one has left the tail alone
  obtain ⟨between, hbetween⟩ := hc
  rw [htail, ← List.append_assoc] at hbetween
  obtain ⟨left, hleft, hgoes⟩ := hfirst ts _ hts hbetween.symm
  obtain ⟨later, hlater, hgoes'⟩ := hsecond _ rest hbetween.symm htail
  exact ⟨left || later, by rw [hlater, hleft, Bool.or_assoc], hgoes.bind hgoes'⟩

theorem ite {c : Prop} [Decidable c] {p q : OptionReader α} (hp : Carries t p) (hq : Carries t q) :
    Carries t (if c then p else q) := by
  split
  · exact hp
  · exact hq

theorem ofParse {p : Parse α} (hp : Parse.Carries t p p) : Carries t (ofParse p) := by
  intro us written leftover x c hrun
  obtain ⟨hsuffix, hcarries⟩ := hp us written leftover x c (run_of_ofParse hrun)
  refine ⟨hsuffix, fun ts rest hts hrest => ?_⟩
  obtain ⟨new, left, -, hleft, hgoes⟩ := hcarries ts rest hts hrest
  exact ⟨left, hleft, .ofParse hgoes⟩

/-- Where nothing follows, a reader reads the same, whatever was read before. -/
theorem goes {p : OptionReader α} (hp : Carries .none p) {us written : List Token} {leftover : Bool}
    {x : α} {c : Cursor} (h : p.run ⟨us, written, leftover⟩ = .ok (x, c)) :
    ∃ left, c.leftover = (leftover || left) ∧ Goes p us x c.rest left := by
  obtain ⟨left, hleft, hgoes⟩ := (hp us written leftover x c h).2 us c.rest
    (List.append_nil _).symm (List.append_nil _).symm
  have hthere : ∀ ts : List Token, ts ++ Tails.none.there = ts := List.append_nil
  rw [hthere, hthere] at hgoes
  exact ⟨left, hleft, hgoes⟩

/-- What goes in front of the tail here goes in front of the tail there. -/
theorem goes_there {p : OptionReader α} (hp : Carries t p) (ts rest : List Token) {x : α} {left : Bool}
    (h : Goes p (ts ++ t.here) x (rest ++ t.here) left) :
    Goes p (ts ++ t.there) x (rest ++ t.there) left := by
  obtain ⟨written, hrun⟩ := h [] false
  obtain ⟨left', hleft, hgoes⟩ := (hp _ _ _ _ _ hrun).2 ts rest rfl rfl
  rw [Bool.false_or] at hleft
  have hleft : left = left' := hleft
  rwa [← hleft] at hgoes

end Carries

/-! ## Names and values -/

theorem carries_name (hcolons : t.Blind (atMark "::")) : Parse.Carries t name name := by
  refine (Parse.Carries.mark? hcolons).bind fun isGlobal => Parse.Carries.bind
    (.gather fun _ => Parse.Carries.anyIdent.bind fun _ =>
      (Parse.Carries.mark? hcolons).bind fun _ => .pure _) fun names => ?_
  cases names with
  | nil => exact .fails _
  | cons first more => exact .pure _

theorem carries_textValue : Carries t textValue :=
  .ofParse <| (Parse.Carries.mark _).bind fun _ => .stringLiteral

/-! ## Lists of options -/

/-- Options are read as they stand, whatever was read before, if each of them is. -/
theorem carries_options {option : Path → σ → OptionReader σ}
    (hoption : ∀ name s, Carries .none (option name s)) (fuel : Nat) (s : σ) :
    Carries .none (options option fuel s) := by
  induction fuel generalizing s with
  | zero => exact .throw _
  | succ fuel ih =>
    have hend : Carries .none (ofParse atEnd) := .ofParse (.peek (Tails.blind_none _))
    refine (Carries.ofParse (carries_name (Tails.blind_none _))).bind fun name =>
      (hoption name s).bind fun s => hend.bind fun _ => .ite (.pure s) ?_
    exact (Carries.ofParse (.mark _)).bind fun _ => hend.bind fun _ => .ite (.pure s) (ih s)

/-- Options in parentheses are read in front of any tail. -/
theorem carries_nested {option : Path → σ → OptionReader σ}
    (hoption : ∀ name s, Carries .none (option name s)) (s : σ) : Carries t (nested option s) := by
  refine (Carries.ofParse (.groupBody _)).bind fun body us written leftover x c hrun => ?_
  have hrun : ((options option (body.length + 1) s).run ⟨body, written, leftover⟩ >>= fun r =>
      Except.ok (r.1, (⟨us, r.2.written, r.2.leftover⟩ : Cursor))) = .ok (x, c) := hrun
  rcases hbody : (options option (body.length + 1) s).run ⟨body, written, leftover⟩ with e | ⟨y, inside⟩
  · rw [hbody] at hrun
    cases hrun
  · rw [hbody] at hrun
    cases hrun
    obtain ⟨left, hleft, hgoes⟩ := (carries_options hoption (body.length + 1) s).goes hbody
    refine ⟨List.suffix_rfl, fun ts rest hts hrest => ⟨left, hleft, fun written' leftover' => ?_⟩⟩
    obtain rfl : ts = rest := List.append_cancel_right (hts.symm.trans hrest)
    obtain ⟨written'', hthere⟩ := hgoes written' leftover'
    refine ⟨written'', ?_⟩
    show ((options option (body.length + 1) s).run ⟨body, written', leftover'⟩ >>= fun r =>
      Except.ok (r.1, (⟨ts ++ t.there, r.2.written, r.2.leftover⟩ : Cursor))) = _
    rw [hthere]
    rfl

/-! ## Options that are not interpreted -/

/-- An option that is not interpreted is passed over in front of other options. -/
theorem carries_skip (ht : t.Grows) : Carries t skip :=
  .ofParse <| .when (ht.stops.mark (by decide)) ((Parse.Carries.mark _).bind fun _ =>
    carries_exprOfRest ht) <| .when (ht.stops.group _) (.within _ (.pure ())) (.pure ())

/-! ## Names for the stored form -/

theorem carries_storedName (ht : t.Grows) : Carries t storedName := by
  have hnested : ∀ (name : Path) (found : Option String), Carries .none
      (if name.isWord "serialize" = true then textValue >>= fun text => pure (some text)
      else skip >>= fun _ => pure found) := fun _ _ =>
    .ite (carries_textValue.bind fun _ => .pure _) <|
      (carries_skip Tails.grows_none).bind fun _ => .pure _
  exact (Carries.ofParse (.peek (ht.stops.mark (by decide)))).bind fun _ =>
    .ite (carries_textValue.bind fun _ => .pure _) (carries_nested hnested none)

/-! ## Options read one after the other -/

section

variable {option : Path → σ → OptionReader σ}

/-- One option with its name. -/
def one (option : Path → σ → OptionReader σ) (s : σ) : OptionReader σ :=
  ofParse name >>= fun name => option name s

/-- The options are read to their end; the flag says whether a group is left before its end. -/
inductive ReadsAll (option : Path → σ → OptionReader σ) : σ → List Token → σ → Bool → Prop
  | nil (s : σ) : ReadsAll option s [] s false
  | last {s s' : σ} {ts : List Token} {left : Bool} (h : Goes (one option s) ts s' [] left) :
      ReadsAll option s ts s' left
  | more {s mid s' : σ} {ts rest : List Token} {joint left later : Bool}
      (h : Goes (one option s) ts mid (.punct ',' joint :: rest) left)
      (hrest : ReadsAll option mid rest s' later) : ReadsAll option s ts s' (left || later)

theorem carries_one {t : Parse.Tails} (ht : t.Grows) (hoption : ∀ name s, Carries t (option name s))
    (s : σ) : Carries t (one option s) :=
  (Carries.ofParse (carries_name (ht.stops.mark (by decide)))).bind fun name => hoption name s

/-- Where there are no tokens, there is no option. -/
theorem not_goes_nil {s s' : σ} {rest : List Token} {left : Bool} :
    ¬Goes (one option s) [] s' rest left := by
  intro h
  obtain ⟨written, hrun⟩ := h [] false
  cases hrun

theorem ReadsAll.eq_of_nil {s s' : σ} {left : Bool} (h : ReadsAll option s [] s' left) :
    s' = s ∧ left = false := by
  cases h with
  | nil => exact ⟨rfl, rfl⟩
  | last h => exact absurd h not_goes_nil
  | more h hrest => exact absurd h not_goes_nil

/-- Reading stops at the end, and goes on before it. -/
def unlessEnd (s : σ) (q : OptionReader σ) : OptionReader σ :=
  ofParse Parse.atEnd >>= fun done => if done = true then pure s else q

theorem goes_unlessEnd_nil (s : σ) (q : OptionReader σ) : Goes (unlessEnd s q) [] s [] false :=
  fun written leftover => ⟨written, by rw [Bool.or_false]; rfl⟩

theorem goes_unlessEnd_cons {s r : σ} {q : OptionReader σ} {tok : Token} {ts rest : List Token}
    {left : Bool} (hq : Goes q (tok :: ts) r rest left) :
    Goes (unlessEnd s q) (tok :: ts) r rest left := fun written leftover => hq written leftover

theorem cases_of_unlessEnd {s r : σ} {q : OptionReader σ} {ts written : List Token} {leftover : Bool}
    {c : Cursor} (h : (unlessEnd s q).run ⟨ts, written, leftover⟩ = .ok (r, c)) :
    (ts = [] ∧ r = s ∧ c = ⟨[], written, leftover⟩) ∨ q.run ⟨ts, written, leftover⟩ = .ok (r, c) := by
  cases ts with
  | nil =>
    cases h
    exact Or.inl ⟨rfl, rfl, rfl⟩
  | cons tok ts => exact Or.inr h

/-- What follows an option: the end, a comma and the end, or a comma and further options. -/
def next (option : Path → σ → OptionReader σ) (fuel : Nat) (s : σ) : OptionReader σ :=
  unlessEnd s (ofParse (Parse.mark ",") >>= fun _ => unlessEnd s (options option fuel s))

theorem options_succ (fuel : Nat) (s : σ) :
    options option (fuel + 1) s = one option s >>= next option fuel := by
  rw [options, one, bind_assoc]
  rfl

/-- After an option stands the end, or a comma with the end or further options. -/
theorem cases_of_next {fuel : Nat} {s r : σ} {ts written : List Token} {leftover : Bool} {c : Cursor}
    (h : (next option fuel s).run ⟨ts, written, leftover⟩ = .ok (r, c)) :
    (ts = [] ∧ r = s ∧ c = ⟨[], written, leftover⟩) ∨ ∃ joint rest, ts = .punct ',' joint :: rest ∧
      ((rest = [] ∧ r = s ∧ c = ⟨[], .punct ',' joint :: written, leftover⟩) ∨
        (options option fuel s).run ⟨rest, .punct ',' joint :: written, leftover⟩ = .ok (r, c)) := by
  refine (cases_of_unlessEnd h).imp_right fun h => ?_
  obtain ⟨_, after, hmark, hnext⟩ := exists_of_run_bind h
  have hmark := run_of_ofParse hmark
  by_cases hcomma : atMark "," ts = true
  · obtain ⟨joint, rest, rfl⟩ := Parse.eq_of_atMarks hcomma
    rw [Parse.Goes.mark hcomma, Bool.or_false] at hmark
    cases hmark
    exact ⟨joint, rest, rfl, cases_of_unlessEnd hnext⟩
  · rw [Parse.Fails.mark (Bool.eq_false_iff.mpr hcomma)] at hmark
    cases hmark

/-- What is read within a limit is read without one. -/
theorem readsAll_of_options (hoption : ∀ name s, Carries .none (option name s)) {fuel : Nat} {s r : σ}
    {ts written : List Token} {leftover : Bool} {c : Cursor}
    (h : (options option fuel s).run ⟨ts, written, leftover⟩ = .ok (r, c)) :
    ∃ left, ReadsAll option s ts r left ∧ c.leftover = (leftover || left) := by
  induction fuel generalizing s ts written leftover with
  | zero => cases h
  | succ fuel ih =>
    rw [options_succ] at h
    obtain ⟨mid, ⟨rest, written', leftover'⟩, hone, hnext⟩ := exists_of_run_bind h
    obtain ⟨left, hleft, hgoes⟩ := (carries_one Parse.Tails.grows_none hoption s).goes hone
    rcases cases_of_next hnext with ⟨rfl, rfl, rfl⟩ | ⟨joint, more, rfl, ⟨rfl, rfl, rfl⟩ | hmore⟩
    · exact ⟨left, .last hgoes, hleft⟩
    · exact ⟨left || false, .more hgoes (.nil _), by rw [Bool.or_false]; exact hleft⟩
    · obtain ⟨later, hall, hlater⟩ := ih hmore
      have hleft : leftover' = (leftover || left) := hleft
      exact ⟨left || later, .more hgoes hall, by rw [hlater, hleft, Bool.or_assoc]⟩

/-- What is read without a limit is read within one that is high enough. -/
theorem ReadsAll.goes_options (hoption : ∀ name s, Carries .none (option name s)) {s r : σ}
    {ts : List Token} {left : Bool} (h : ReadsAll option s ts r left) (hts : ts ≠ []) {fuel : Nat}
    (hfuel : ts.length < fuel) : Goes (options option fuel s) ts r [] left := by
  induction h generalizing fuel with
  | nil s => exact absurd rfl hts
  | @last s s' ts left h =>
    obtain ⟨fuel, rfl⟩ := Nat.exists_eq_succ_of_ne_zero (Nat.ne_zero_of_lt hfuel)
    rw [Nat.succ_eq_add_one, options_succ]
    have hgoes := h.bind (f := next option fuel) (goes_unlessEnd_nil s' _)
    rwa [Bool.or_false] at hgoes
  | @more s mid s' ts rest joint left later h hrest ih =>
    obtain ⟨fuel, rfl⟩ := Nat.exists_eq_succ_of_ne_zero (Nat.ne_zero_of_lt hfuel)
    have hlength : rest.length < fuel := by
      obtain ⟨written, hrun⟩ := h [] false
      have := (carries_one Parse.Tails.grows_none hoption s _ _ _ _ _ hrun).1.length_le
      simp only [List.length_cons] at this
      omega
    have hfurther : Goes (unlessEnd mid (options option fuel mid)) rest s' [] later := by
      cases rest with
      | nil =>
        obtain ⟨rfl, rfl⟩ := hrest.eq_of_nil
        exact goes_unlessEnd_nil _ _
      | cons tok rest => exact goes_unlessEnd_cons (ih (List.cons_ne_nil _ _) hlength)
    have hcomma : Goes (ofParse (Parse.mark ",")) (.punct ',' joint :: rest) () rest false :=
      .ofParse (Parse.Goes.mark rfl)
    have hnext := hcomma.bind (f := fun _ => unlessEnd mid (options option fuel mid)) hfurther
    rw [Bool.false_or] at hnext
    rw [Nat.succ_eq_add_one, options_succ]
    exact h.bind (goes_unlessEnd_cons hnext)

end

end OptionReader

/-! ## The options of fields and structs -/

theorem FieldOptions.carries_serdeOption {t : Tails} (ht : t.Grows) (name : Path) (o : FieldOptions) :
    OptionReader.Carries t (serdeOption name o) := by
  refine .ite ((OptionReader.carries_storedName ht).bind fun stored => ?_) <| .ite (.pure _)
    ((OptionReader.carries_skip ht).bind fun _ => .pure _)
  cases stored with
  | none => exact .pure _
  | some stored => exact .pure _

theorem ContainerOptions.carries_serdeOption {t : Tails} (ht : t.Grows) (name : Path)
    (o : ContainerOptions) : OptionReader.Carries t (serdeOption name o) := by
  refine .ite ((OptionReader.carries_storedName ht).bind fun rule => ?_)
    ((OptionReader.carries_skip ht).bind fun _ => .pure _)
  cases rule with
  | none => exact .pure _
  | some rule =>
    dsimp only
    rw [renameRule]
    cases RenameRule.ofName? rule with
    | none => exact .throw _
    | some rule => exact .pure _

end PatchStore
