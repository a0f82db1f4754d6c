import PatchStore.Proofs.Source.Locality.Basic

/-!
# Small readers in front of other tokens

The readers that take single tokens do so in front of any tail, and so do readers that write, that read
what stands in a group, or that repeat others.  A test of the tokens to come can only tell the tails
apart where it looks at them; one of tokens that are taken does not.

* `Spans` — a test holds where so many tokens stand, and looks at no others.
* `Carries.mark`, `Carries.ident`, `Carries.mark?` — taking tokens.
* `Carries.captured`, `Carries.taken`, `Carries.within` — writing, and what stands in groups.
* `Carries.gather`, `Carries.listUntil`, `Carries.lifetimesFirst` — lists.
* `Carries.attempt_bind`, `Carries.ahead` — trying, and looking ahead.
* `Fails.mark`, `Fails.otherWord`, `Fails.gather` — where nothing is read.
-/

namespace PatchStore.Source.Parse

variable {α β γ : Type} {t : Tails} {us : List Token}

/-! ## Tests of tokens that are taken -/

/-- The test holds only where so many tokens stand, and looks at no others then. -/
structure Spans (n : Nat) (test : List Token → Bool) : Prop where
  le_length : ∀ us, test us = true → n ≤ us.length
  append : ∀ ts us us', n ≤ ts.length → test (ts ++ us) = test (ts ++ us')

theorem Spans.or {n : Nat} {test test' : List Token → Bool} (h : Spans n test)
    (h' : Spans n test') : Spans n fun ts => test ts || test' ts where
  le_length us hor := ((Bool.or_eq_true _ _).mp hor).elim (h.le_length us) (h'.le_length us)
  append ts us us' hn := by rw [h.append ts us us' hn, h'.append ts us us' hn]

/-- A test of the first token. -/
theorem spans_first {test : List Token → Bool} (hnil : test [] = false)
    (hcons : ∀ tok us us', test (tok :: us) = test (tok :: us')) : Spans 1 test where
  le_length us h := by
    cases us with
    | nil => exact absurd (hnil.symm.trans h) Bool.false_ne_true
    | cons tok us => exact Nat.succ_le_succ (Nat.zero_le _)
  append ts us us' h := by
    cases ts with
    | nil => exact absurd h (Nat.not_succ_le_zero 0)
    | cons tok ts => exact hcons tok _ _

theorem spans_word (w : String) : Spans 1 (atWord w) :=
  spans_first rfl fun tok _ _ => by cases tok <;> rfl

theorem spans_anyWord (ws : List String) : Spans 1 (atAnyWord ws) := by
  refine spans_first (List.any_eq_false.mpr fun _ _ => Bool.false_ne_true) fun tok us us' => ?_
  rw [atAnyWord, atAnyWord]
  exact congrArg ws.any (funext fun w => (spans_word w).append [tok] us us' (Nat.le_refl 1))

theorem spans_ident : Spans 1 atIdent := spans_first rfl fun tok _ _ => by cases tok <;> rfl

/-- The tokens of a mark of one character. -/
theorem eq_of_atMarks {c : Char} {ts : List Token} (h : atMarks [c] ts = true) :
    ∃ joint us, ts = .punct c joint :: us := by
  rcases ts with _ | ⟨_ | ⟨m, joint⟩ | _ | _, us⟩
  · cases h
  · cases h
  · obtain rfl : m = c := eq_of_beq h
    exact ⟨joint, us, rfl⟩
  · cases h
  · cases h

/-- The token of a word. -/
theorem eq_of_atWord {w : String} {ts : List Token} (h : atWord w ts = true) :
    ∃ us, ts = .ident ⟨w, false⟩ :: us := by
  rcases ts with _ | ⟨⟨name, raw⟩ | _ | _ | _, us⟩
  · cases h
  · obtain ⟨hraw, hname⟩ := (Bool.and_eq_true _ _).mp (show (!raw && name == w) = true from h)
    obtain rfl : name = w := eq_of_beq hname
    cases raw with
    | false => exact ⟨us, rfl⟩
    | true => cases hraw
  · cases h
  · cases h
  · cases h

/-- A mark spans its characters. -/
theorem spans_marks (cs : List Char) : Spans cs.length (atMarks cs) := by
  induction cs with
  | nil => exact ⟨fun us _ => Nat.zero_le _, fun ts us us' _ => rfl⟩
  | cons c cs ih =>
    refine ⟨fun us h => ?_, fun ts us us' hn => ?_⟩
    · cases us with
      | nil => rw [atMarks_nil] at h; cases h
      | cons tok us =>
        refine Nat.succ_le_succ ?_
        cases cs with
        | nil => exact Nat.zero_le _
        | cons d cs =>
          cases tok with
          | punct m joint => exact ih.le_length us ((Bool.and_eq_true _ _).mp h).2
          | _ => cases h
    · cases ts with
      | nil => exact absurd hn (Nat.not_succ_le_zero _)
      | cons tok ts =>
        cases cs with
        | nil => cases tok <;> rfl
        | cons d cs =>
          cases tok with
          | punct m joint =>
            exact congrArg (m == c && joint && ·) (ih.append ts us us' (Nat.le_of_succ_le_succ hn))
          | _ => rfl

theorem spans_mark (m : String) : Spans m.length (atMark m) := by
  have h := spans_marks m.toList
  rwa [String.length_toList] at h

/-- A lifetime is an apostrophe and a word joint with it. -/
theorem atLifetime_punct (m : Char) (joint : Bool) (ts : List Token) :
    atLifetime (.punct m joint :: ts) = (m == '\'' && joint && atAnyIdent ts) := by
  by_cases hm : m = '\''
  · subst hm
    rcases joint with _ | _
    · rfl
    · rcases ts with _ | ⟨_ | _ | _ | _, ts⟩ <;> rfl
  · rw [beq_false_of_ne hm]
    unfold atLifetime
    split
    · rename_i heq
      cases heq
      exact absurd rfl hm
    · rfl

theorem spans_lifetime : Spans 2 atLifetime where
  le_length us h := by
    unfold atLifetime at h
    split at h
    · exact Nat.succ_le_succ (Nat.succ_le_succ (Nat.zero_le _))
    · cases h
  append ts us us' hn := by
    rcases ts with _ | ⟨tok, _ | ⟨tok', ts⟩⟩
    · cases hn
    · cases hn with | step hn => cases hn
    · cases tok with
      | punct m joint =>
        show atLifetime (.punct m joint :: (tok' :: ts ++ us)) =
          atLifetime (.punct m joint :: (tok' :: ts ++ us'))
        rw [atLifetime_punct, atLifetime_punct]
        cases tok' <;> rfl
      | _ => rfl

/-! ## Taking tokens -/

namespace Carries

/-- Tokens are taken where a test of them holds, and nothing is read elsewhere. -/
theorem takeIf {n : Nat} {test : List Token → Bool} (h : Spans n test) :
    Carries t (Parse.peek test >>= fun b => if b = true then take n else failure)
      (Parse.peek test >>= fun b => if b = true then take n else failure) := by
  intro us written leftover x c hrun
  have hrun : (if test us = true then take n else failure : Parse Unit).run
      ⟨us, written, leftover⟩ = some (x, c) := hrun
  by_cases htest : test us = true
  · rw [if_pos htest] at hrun
    have hn := h.le_length us htest
    obtain ⟨hsuffix, hcarries⟩ := CarriesFrom.taking hn written leftover x c hrun
    refine ⟨hsuffix, fun ts rest hts hrest => ?_⟩
    obtain ⟨new, left, hwritten, hleft, hgoes⟩ := hcarries ts rest hts hrest
    refine ⟨new, left, hwritten, hleft, fun written leftover => ?_⟩
    -- the tokens that the test looks at have been taken, so they are no part of the tail
    cases hrun
    subst hts
    have hthere : test (ts ++ t.there) = true := by
      rw [← h.append ts t.here t.there (CarriesFrom.le_length_of_drop hn hrest)]
      exact htest
    show (if test (ts ++ t.there) = true then take n else failure : Parse Unit).run _ = _
    rw [if_pos hthere]
    exact hgoes written leftover
  · rw [if_neg htest] at hrun
    cases hrun

/-- Where a test holds that looks at tokens to be taken, reading goes on after them, and elsewhere in
another way. -/
theorem whenTaken {n : Nat} {test : List Token → Bool} (hblind : t.Blind test)
    (hn : ∀ us, test us = true → n ≤ us.length) {f f' : Bool → Unit → Parse α}
    {q q' : Bool → Parse α} (hf : Carries t (f true ()) (f' true ()))
    (hq : Carries t (q false) (q' false)) :
    Carries t (Parse.peek test >>= fun b => if b = true then take n >>= f b else q b)
      (Parse.peek test >>= fun b => if b = true then take n >>= f' b else q' b) := by
  refine fun us => .peek_bind (fun ts hts => hts ▸ hblind ts) ?_
  by_cases htest : test us = true
  · rw [if_pos htest, if_pos htest, htest]
    exact (CarriesFrom.taking (hn us htest)).bind fun _ _ _ c _ => hf c.rest
  · rw [if_neg htest, if_neg htest, Bool.eq_false_iff.mpr htest]
    exact hq us

/-- A way that is taken where a test holds, and another one elsewhere. -/
theorem when {test : List Token → Bool} (hblind : t.Blind test) {p p' q q' : Parse α}
    (hp : Carries t p p') (hq : Carries t q q') :
    Carries t (Parse.peek test >>= fun b => if b = true then p else q)
      (Parse.peek test >>= fun b => if b = true then p' else q') :=
  (peek hblind).bind fun _ => .ite hp hq

/-- A way that is taken where a test does not hold, and another one elsewhere. -/
theorem whenNot {test : List Token → Bool} (hblind : t.Blind test) {p p' q q' : Parse α}
    (hp : Carries t p p') (hq : Carries t q q') :
    Carries t (Parse.peek test >>= fun b => if (!b) = true then p else q)
      (Parse.peek test >>= fun b => if (!b) = true then p' else q') :=
  (peek hblind).bind fun _ => .ite hp hq

theorem mark (m : String) : Carries t (mark m) (mark m) := takeIf (spans_mark m)

theorem word (w : String) : Carries t (word w) (word w) := takeIf (spans_word w)

theorem identOr (words : List String) : Carries t (identOr words) (identOr words) :=
  takeIf (spans_ident.or (spans_anyWord words))

theorem lifetime : Carries t lifetime lifetime := takeIf spans_lifetime

theorem mark? {m : String} (hblind : t.Blind (atMark m)) : Carries t (mark? m) (mark? m) :=
  whenTaken (f := fun b _ => Pure.pure b) (q := fun b => Pure.pure b) hblind
    (spans_mark m).le_length (.pure true) (.pure false)

theorem word? {w : String} (hblind : t.Blind (atWord w)) : Carries t (word? w) (word? w) :=
  whenTaken (f := fun b _ => Pure.pure b) (q := fun b => Pure.pure b) hblind
    (spans_word w).le_length (.pure true) (.pure false)

theorem lifetime? (hblind : t.Blind atLifetime) : Carries t lifetime? lifetime? := by
  unfold Parse.lifetime?
  rw [← bind_pure (take 2)]
  exact whenTaken hblind spans_lifetime.le_length (.pure ()) (.pure ())

/-- Where one token is taken in front of a tail, it stands alone before what is left. -/
theorem eq_cons_of_taken {tok : Token} {us ts rest here : List Token} (hts : tok :: us = ts ++ here)
    (hrest : us = rest ++ here) : ts = tok :: rest := by
  have happend : tok :: rest ++ here = ts ++ here := by
    rw [← hts, hrest]
    rfl
  exact (List.append_cancel_right happend).symm

/-- A reader that takes one token, if it takes any, and goes by no others. -/
structure TakesOne (p : Parse α) : Prop where
  nil : Fails p []
  cons : ∀ tok, ∃ r : Option (α × Token), ∀ us written leftover,
    p.run ⟨tok :: us, written, leftover⟩ = r.map fun r => (r.1, ⟨us, r.2 :: written, leftover⟩)

/-- Such a reader is carried over, whatever follows. -/
theorem takesOne (h : TakesOne p) : Carries t p p := by
  intro us written leftover x c hrun
  cases us with
  | nil =>
    rw [h.nil] at hrun
    cases hrun
  | cons tok us =>
    obtain ⟨r, hr⟩ := h.cons tok
    rw [hr] at hrun
    obtain ⟨⟨y, new⟩, rfl, heq⟩ := Option.map_eq_some_iff.mp hrun
    cases heq
    refine ⟨List.suffix_cons tok us, fun ts rest hts hrest => ?_⟩
    obtain rfl := eq_cons_of_taken hts hrest
    refine ⟨[new], false, rfl, by simp, fun written leftover => ?_⟩
    rw [Bool.or_false]
    exact hr (rest ++ t.there) written leftover

theorem anyIdent : Carries t anyIdent anyIdent := by
  refine takesOne ⟨fun _ _ => rfl, fun tok => ?_⟩
  cases tok with
  | ident i => exact ⟨some (i, .ident i), fun _ _ _ => rfl⟩
  | _ => exact ⟨none, fun _ _ _ => rfl⟩

theorem ident : Carries t ident ident := by
  refine takesOne ⟨fun _ _ => rfl, fun tok => ?_⟩
  cases tok with
  | ident i =>
    refine ⟨if i.isFree = true then some (i, .ident i) else none, fun us written leftover => ?_⟩
    show (if i.isFree = true then Parse.anyIdent else failure : Parse Ident).run _ = _
    by_cases h : i.isFree = true
    · rw [if_pos h, if_pos h]
      rfl
    · rw [if_neg h, if_neg h]
      rfl
  | _ => exact ⟨none, fun _ _ _ => rfl⟩

theorem anyGroup : Carries t anyGroup anyGroup := by
  refine takesOne ⟨fun _ _ => rfl, fun tok => ?_⟩
  cases tok with
  | group d body => exact ⟨some ((d, body), .group d body), fun _ _ _ => rfl⟩
  | _ => exact ⟨none, fun _ _ _ => rfl⟩

theorem groupBody (d : Delimiter) : Carries t (groupBody d) (groupBody d) := by
  refine takesOne ⟨fun _ _ => rfl, fun tok => ?_⟩
  cases tok with
  | group e body =>
    refine ⟨if d = e then some (body, .group e body) else none, fun us written leftover => ?_⟩
    cases d <;> cases e <;> rfl
  | _ => exact ⟨none, fun _ _ _ => rfl⟩

theorem takesOne_stringLiteral : TakesOne stringLiteral := by
  refine ⟨fun _ _ => rfl, fun tok => ?_⟩
  cases tok with
  | literal l =>
    refine ⟨l.stringValue?.map fun s => (s, .literal l), fun us written leftover => ?_⟩
    simp only [Parse.stringLiteral, StateT.run_bind, StateT.run_get, pure_bind]
    cases l.stringValue? <;> rfl
  | _ => exact ⟨none, fun _ _ _ => rfl⟩

theorem stringLiteral : Carries t stringLiteral stringLiteral := takesOne takesOne_stringLiteral

theorem position : Carries t position position := by
  refine takesOne ⟨fun _ _ => rfl, fun tok => ?_⟩
  cases tok with
  | literal l =>
    refine ⟨l.index?.map fun i => (i, positionToken i), fun us written leftover => ?_⟩
    simp only [Parse.position, StateT.run_bind, StateT.run_get, pure_bind]
    cases l.index? <;> rfl
  | _ => exact ⟨none, fun _ _ _ => rfl⟩

end Carries

/-! ## Writing and groups -/

/-- Where nothing follows, the other reader reads the same. -/
theorem Carries.goes {p p' : Parse α} (hp : Carries .none p p') {written : List Token}
    {leftover : Bool} {x : α} {c : Cursor} (h : p.run ⟨us, written, leftover⟩ = some (x, c)) :
    ∃ new left, c.written = new ++ written ∧ c.leftover = (leftover || left) ∧
      Goes p' us x c.rest new left := by
  obtain ⟨new, left, hwritten, hleft, hgoes⟩ := (hp us written leftover x c h).2 us c.rest
    (List.append_nil _).symm (List.append_nil _).symm
  have hthere : ∀ ts : List Token, ts ++ Tails.none.there = ts := List.append_nil
  rw [hthere, hthere] at hgoes
  exact ⟨new, left, hwritten, hleft, hgoes⟩

/-- What is captured is what the reader writes where nothing was written. -/
theorem run_captured (p : Parse α) (c : Cursor) :
    (captured p).run c = (p.run { c with written := [] }).map fun r =>
      ((r.1, r.2.written.reverse), { r.2 with written := c.written }) := by
  show (p.run { c with written := [] }).bind _ = _
  cases p.run { c with written := [] } <;> rfl

/-- What a reader takes are the tokens up to those that it leaves. -/
theorem run_taken (p : Parse α) (c : Cursor) :
    (taken p).run c = (p.run c).map fun r =>
      ((r.1, c.rest.take (c.rest.length - r.2.rest.length)), r.2) := by
  show (p.run c).bind _ = _
  cases p.run c <;> rfl

/-- What stands in a group is read by itself. -/
theorem run_within (d : Delimiter) (p : Parse α) (us written : List Token) (leftover : Bool) :
    (within d p).run ⟨us, written, leftover⟩ =
      match us with
      | .group e body :: us =>
        if d = e then (p.run ⟨body, [], leftover⟩).map fun r => (r.1, ⟨us,
          .group d r.2.written.reverse :: written, r.2.leftover || !r.2.rest.isEmpty⟩)
        else none
      | _ => none := by
  rcases us with _ | ⟨_ | _ | _ | ⟨e, body⟩, us⟩
  · rfl
  · rfl
  · rfl
  · rfl
  · show _ = if d = e then _ else none
    by_cases h : d = e
    · subst h
      rw [if_pos rfl]
      have hbody : (unwritten (groupBody d)).run ⟨.group d body :: us, written, leftover⟩ =
          some (body, ⟨us, written, leftover⟩) := by cases d <;> rfl
      rw [within, StateT.run_bind, hbody]
      show (p.run ⟨body, [], leftover⟩).bind _ = _
      cases p.run ⟨body, [], leftover⟩ <;> rfl
    · rw [if_neg h]
      have hbody : (unwritten (groupBody d)).run ⟨.group e body :: us, written, leftover⟩ =
          none := by
        cases d <;> cases e <;> first | rfl | exact absurd rfl h
      rw [within, StateT.run_bind, hbody]
      rfl

namespace CarriesFrom

variable {p p' : Parse α}

theorem captured (hp : CarriesFrom t us p p') : CarriesFrom t us (captured p) (captured p') := by
  intro written leftover x c hrun
  rw [run_captured] at hrun
  obtain ⟨⟨y, c'⟩, hy, heq⟩ := Option.map_eq_some_iff.mp hrun
  cases heq
  obtain ⟨hsuffix, hcarries⟩ := hp [] leftover y c' hy
  refine ⟨hsuffix, fun ts rest hts hrest => ?_⟩
  obtain ⟨new, left, hwritten, hleft, hgoes⟩ := hcarries ts rest hts hrest
  refine ⟨[], left, rfl, hleft, fun written leftover => ?_⟩
  rw [run_captured, hgoes [] leftover, hwritten]
  rfl

theorem unwritten (hp : CarriesFrom t us p p') : CarriesFrom t us (unwritten p) (unwritten p') :=
  hp.captured.bind fun _ _ _ _ _ => .pure _

end CarriesFrom

namespace Carries

variable {p p' : Parse α}

theorem write (ts : List Token) : Carries t (write ts) (write ts) := by
  intro us written leftover x c hrun
  cases hrun
  refine ⟨List.suffix_rfl, fun ts' rest hts hrest => ⟨ts.reverse, false, rfl, by simp, ?_⟩⟩
  rw [List.append_cancel_right (hrest.symm.trans hts)]
  intro written leftover
  rw [Bool.or_false]
  rfl

theorem captured (hp : Carries t p p') : Carries t (captured p) (captured p') :=
  fun us => (hp us).captured

theorem unwritten (hp : Carries t p p') : Carries t (unwritten p) (unwritten p') :=
  fun us => (hp us).unwritten

theorem taken (hp : Carries t p p') : Carries t (taken p) (taken p') := by
  intro us written leftover x c hrun
  rw [run_taken] at hrun
  obtain ⟨⟨y, c'⟩, hy, heq⟩ := Option.map_eq_some_iff.mp hrun
  cases heq
  obtain ⟨hsuffix, hcarries⟩ := hp us written leftover y c' hy
  refine ⟨hsuffix, fun ts rest hts hrest => ?_⟩
  obtain ⟨new, left, hwritten, hleft, hgoes⟩ := hcarries ts rest hts hrest
  refine ⟨new, left, hwritten, hleft, fun written leftover => ?_⟩
  -- as many tokens are taken in front of either tail, and so the same ones
  have htaken : ∀ tail : List Token, (ts ++ tail).take ((ts ++ tail).length -
      (rest ++ tail).length) = ts.take (ts.length - rest.length) := by
    intro tail
    rw [List.length_append, List.length_append, Nat.add_sub_add_right]
    exact List.take_append_of_le_length (Nat.sub_le _ _)
  subst hts
  rw [run_taken, hgoes written leftover]
  have hrest : c'.rest = rest ++ t.here := hrest
  simp only [hrest, htaken, Option.map_some]

theorem verbatimIf (hp : Carries t p p') (test : α → Bool) :
    Carries t (verbatimIf test p) (verbatimIf test p') :=
  hp.taken.captured.bind fun _ => (write _).bind fun _ => .pure _

theorem attributed (hp : Carries t p p') (attributes : List Token)
    (attribution : α → Attribution) :
    Carries t (attributed attributes attribution p) (attributed attributes attribution p') := by
  refine hp.captured.bind fun ⟨x, tokens⟩ => .ite ((write _).bind fun _ => .pure x) ?_
  cases attribution x with
  | plain => exact (write _).bind fun _ => .pure x
  | dropped => exact (write _).bind fun _ => .pure x
  | parenthesized => exact (write _).bind fun _ => .pure x

theorem within (d : Delimiter) (hp : Carries .none p p') : Carries t (within d p) (within d p') := by
  intro us written leftover x c hrun
  rw [run_within] at hrun
  rcases us with _ | ⟨_ | _ | _ | ⟨e, body⟩, us⟩
  · cases hrun
  · cases hrun
  · cases hrun
  · cases hrun
  · have hrun : (if d = e then _ else none) = _ := hrun
    by_cases hd : d = e
    · subst hd
      rw [if_pos rfl] at hrun
      obtain ⟨⟨y, inside⟩, hy, heq⟩ := Option.map_eq_some_iff.mp hrun
      cases heq
      obtain ⟨new, left, hwritten, hleft, hgoes⟩ := hp.goes hy
      refine ⟨List.suffix_cons _ us, fun ts rest hts hrest => ?_⟩
      obtain rfl := eq_cons_of_taken hts hrest
      refine ⟨[.group d new.reverse], left || !inside.rest.isEmpty, ?_, ?_,
        fun written leftover => ?_⟩
      · show [.group d inside.written.reverse] ++ written = _
        rw [hwritten, List.append_nil]
      · show (inside.leftover || !inside.rest.isEmpty) = _
        rw [hleft, Bool.or_assoc]
      · rw [run_within]
        show (if d = d then _ else none) = _
        rw [if_pos rfl, hgoes [] leftover, List.append_nil, ← Bool.or_assoc]
        rfl
    · rw [if_neg hd] at hrun
      cases hrun

end Carries

/-! ## Repetition -/

namespace Carries

variable {item item' : List α → Parse α}

/-- What is repeated within a limit is repeated within a higher one. -/
theorem repeatUntil {step step' : List α → Parse (List α × Bool)}
    (h : ∀ acc, Carries t (step acc) (step' acc)) {fuel fuel' : Nat} (hle : fuel ≤ fuel')
    (acc : List α) : Carries t (repeatUntil step fuel acc) (repeatUntil step' fuel' acc) := by
  induction fuel generalizing fuel' acc with
  | zero => exact .fails _
  | succ fuel ih =>
    obtain ⟨fuel', rfl⟩ := Nat.exists_eq_add_of_le hle
    rw [Nat.add_right_comm]
    exact (h acc).bind fun ⟨acc, _⟩ => .ite (.pure _) (ih (Nat.le_add_right fuel fuel') acc)

/-- Whether a reader made progress is the same in front of both tails. -/
theorem progress {p p' : Parse α} {q q' r r' : α → Parse β} (hp : Carries t p p')
    (hq : ∀ x, Carries t (q x) (q' x)) (hr : ∀ x, Carries t (r x) (r' x)) :
    Carries t
      (Parse.remaining >>= fun before => p >>= fun x => Parse.remaining >>= fun after =>
        if (after == before) = true then q x else r x)
      (Parse.remaining >>= fun before => p' >>= fun x => Parse.remaining >>= fun after =>
        if (after == before) = true then q' x else r' x) := by
  intro us written leftover y c hrun
  obtain ⟨⟨x, mid⟩, hx, hnext⟩ := Option.bind_eq_some_iff.mp (show (p.run _).bind (fun r' =>
    (if (r'.2.rest.length == us.length) = true then q r'.1 else r r'.1).run r'.2) = _ from hrun)
  have hthen : Carries t (if (mid.rest.length == us.length) = true then q x else r x)
      (if (mid.rest.length == us.length) = true then q' x else r' x) := .ite (hq x) (hr x)
  obtain ⟨hmid, hfirst⟩ := hp us written leftover x mid hx
  obtain ⟨hc, hsecond⟩ := hthen mid.rest mid.written mid.leftover y c hnext
  refine ⟨hc.trans hmid, fun ts rest hts htail => ?_⟩
  obtain ⟨between, hbetween⟩ := hc
  rw [htail, ← List.append_assoc] at hbetween
  obtain ⟨new, left, hwritten, hleft, hgoes⟩ := hfirst ts _ hts hbetween.symm
  obtain ⟨more, later, hmore, hlater, hgoes'⟩ := hsecond _ rest hbetween.symm htail
  refine ⟨more ++ new, left || later, ?_, ?_, fun written' leftover' => ?_⟩
  · rw [hmore, hwritten, List.append_assoc]
  · rw [hlater, hleft, Bool.or_assoc]
  · -- both tails stand before and after, so their lengths do not matter
    have hlength : ((between ++ rest ++ t.there).length == (ts ++ t.there).length) =
        (mid.rest.length == us.length) := by
      rw [← hbetween, hts, Bool.eq_iff_iff]
      simp only [List.length_append, beq_iff_eq]
      omega
    have hthere := hgoes' (new ++ written') (leftover' || left)
    rw [← hlength] at hthere
    show ((p'.run ⟨ts ++ t.there, written', leftover'⟩).bind _) = _
    rw [hgoes written' leftover', List.append_assoc more, ← Bool.or_assoc]
    exact hthere

theorem gather {step step' : List α → Parse (List α × Bool)}
    (h : ∀ acc, Carries t (step acc) (step' acc)) : Carries t (gather step) (gather step') :=
  remaining fun _ _ hle => repeatUntil h (Nat.succ_le_succ hle) []

theorem listUntil {ending : Parse Bool} (hending : Carries t ending ending)
    (hitem : ∀ before, Carries t (item before) (item' before)) :
    Carries t (listUntil ending item) (listUntil ending item') :=
  gather fun acc => hending.bind fun _ => .ite (.pure _) <| (hitem acc.reverse).bind fun _ =>
    hending.bind fun _ => .ite (.pure _) <| (mark ",").bind fun _ => .pure _

theorem forM {xs : List β} {f f' : β → Parse PUnit} (h : ∀ x, Carries t (f x) (f' x)) :
    Carries t (xs.forM f) (xs.forM f') := by
  induction xs with
  | nil => exact .pure _
  | cons x xs ih => exact (h x).bind fun _ => ih

theorem lifetimesFirst {item item' : Parse α} (isLifetime : α → Bool)
    (hending : t.Blind (atMark ">")) (hitem : Carries t item item') :
    Carries t (lifetimesFirst isLifetime item) (lifetimesFirst isLifetime item') := by
  refine Carries.bind (gather fun acc => ?_) fun items => ?_
  · refine (peek hending).bind fun _ => .ite (.pure _) <| hitem.captured.bind fun ⟨x, tokens⟩ => ?_
    exact (peek hending).bind fun _ => .ite (.pure _) <| (mark ",").unwritten.bind fun _ => .pure _
  · exact (forM fun _ => write _).bind fun _ => (forM fun _ => write _).bind fun _ => .pure _

theorem forIn {xs : List β} {f f' : β → γ → Parse (ForInStep γ)}
    (h : ∀ x s, Carries t (f x s) (f' x s)) (s : γ) :
    Carries t (forIn xs s f) (forIn xs s f') := by
  induction xs generalizing s with
  | nil => exact .pure s
  | cons x xs ih =>
    rw [List.forIn_cons, List.forIn_cons]
    refine (h x s).bind fun step => ?_
    cases step with
    | done s => exact .pure s
    | yield s => exact ih s

end Carries

/-! ## Trying and looking ahead -/

theorem run_attempt_of_none {p : Parse α} {c : Cursor} (h : p.run c = none) :
    (attempt p).run c = some (none, c) := by
  show attempt p c = _
  unfold attempt
  rw [h]

theorem run_attempt_of_some {p : Parse α} {x : α} {c after : Cursor} (h : p.run c = some (x, after)) :
    (attempt p).run c = some (some x, after) := by
  show attempt p c = _
  unfold attempt
  rw [h]

/-- What goes on after a reader goes on after trying it. -/
theorem run_attempt_bind {p : Parse α} {f : Option α → Parse β} {c : Cursor} {r : β × Cursor}
    (h : (p >>= fun x => f (some x)).run c = some r) : (attempt p >>= f).run c = some r := by
  rw [StateT.run_bind] at h
  obtain ⟨⟨x, after⟩, hx, hr⟩ := Option.bind_eq_some_iff.mp h
  rw [StateT.run_bind, run_attempt_of_some hx]
  exact hr

/-- Trying is carried over if what is tried is, and if, where it fails, it fails in front of the other
tail as well or nothing is read after it. -/
theorem Carries.attempt_bind {p p' : Parse α} {f f' : Option α → Parse β} (hp : Carries t p p')
    (hf : ∀ r, Carries t (f r) (f' r))
    (hfails : ∀ ts written leftover, p.run ⟨ts ++ t.here, written, leftover⟩ = none →
      (f none).run ⟨ts ++ t.here, written, leftover⟩ = none ∨ Fails p' (ts ++ t.there)) :
    Carries t (attempt p >>= f) (attempt p' >>= f') := by
  intro us written leftover x c hrun
  rcases hp' : p.run ⟨us, written, leftover⟩ with _ | ⟨y, after⟩
  · rw [StateT.run_bind, run_attempt_of_none hp'] at hrun
    have hrun : (f none).run ⟨us, written, leftover⟩ = some (x, c) := hrun
    obtain ⟨hsuffix, hcarries⟩ := hf none us written leftover x c hrun
    refine ⟨hsuffix, fun ts rest hts hrest => ?_⟩
    obtain ⟨new, left, hwritten, hleft, hgoes⟩ := hcarries ts rest hts hrest
    refine ⟨new, left, hwritten, hleft, fun written' leftover' => ?_⟩
    subst hts
    rcases hfails ts written leftover hp' with hnone | hfails
    · rw [hnone] at hrun
      cases hrun
    · rw [StateT.run_bind, run_attempt_of_none (hfails written' leftover')]
      exact hgoes written' leftover'
  · have hboth : (p >>= fun y => f (some y)).run ⟨us, written, leftover⟩ = some (x, c) := by
      rw [StateT.run_bind, run_attempt_of_some hp'] at hrun
      rw [StateT.run_bind, hp']
      exact hrun
    obtain ⟨hsuffix, hcarries⟩ := hp.bind (fun y => hf (some y)) us written leftover x c hboth
    refine ⟨hsuffix, fun ts rest hts hrest => ?_⟩
    obtain ⟨new, left, hwritten, hleft, hgoes⟩ := hcarries ts rest hts hrest
    exact ⟨new, left, hwritten, hleft, fun written' leftover' =>
      run_attempt_bind (hgoes written' leftover')⟩

theorem Carries.attempt {p p' : Parse α} (hp : Carries t p p')
    (hfails : ∀ ts written leftover, p.run ⟨ts ++ t.here, written, leftover⟩ = none →
      Fails p' (ts ++ t.there)) : Carries t (attempt p) (attempt p') := by
  rw [← bind_pure (Parse.attempt p), ← bind_pure (Parse.attempt p')]
  exact hp.attempt_bind .pure fun ts written leftover h => Or.inr (hfails ts written leftover h)

/-- Where nothing follows, looking ahead is carried over if what is tried is, both ways. -/
theorem Carries.ahead {test test' : Parse Bool} (h : Carries .none test test')
    (h' : Carries .none test' test) : Carries .none (ahead test) (ahead test') := by
  have hsame : ∀ us written leftover written' leftover',
      (test'.run ⟨us, written', leftover'⟩).any Prod.fst =
        (test.run ⟨us, written, leftover⟩).any Prod.fst := by
    intro us written leftover written' leftover'
    rcases hhere : test.run ⟨us, written, leftover⟩ with _ | ⟨x, c⟩
    · rcases hthere : test'.run ⟨us, written', leftover'⟩ with _ | ⟨x, c⟩
      · rfl
      · obtain ⟨_, _, -, -, hgoes⟩ := h'.goes hthere
        rw [hgoes written leftover] at hhere
        cases hhere
    · obtain ⟨_, _, -, -, hgoes⟩ := h.goes hhere
      rw [hgoes written' leftover']
      rfl
  intro us written leftover x c hrun
  cases hrun
  refine ⟨List.suffix_rfl, fun ts rest hts hrest => ⟨[], false, rfl, by simp, ?_⟩⟩
  obtain rfl := List.append_cancel_right (hrest.symm.trans hts)
  obtain rfl : us = rest := hts.trans (List.append_nil rest)
  intro written' leftover'
  rw [Bool.or_false, ← hsame us written leftover written' leftover']
  show some ((test'.run ⟨us ++ [], written', leftover'⟩).any Prod.fst, _) = _
  rw [List.append_nil]
  rfl

/-! ## Failing -/

theorem Goes.mark {m : String} (h : atMark m us = true) :
    Goes (Parse.mark m) us () (us.drop m.length) (us.take m.length).reverse false := by
  intro written leftover
  show (if atMark m us = true then take m.length else failure : Parse Unit).run _ = _
  rw [if_pos h, Bool.or_false]
  rfl

theorem Goes.mark? {m : String} (h : atMark m us = true) :
    Goes (Parse.mark? m) us true (us.drop m.length) (us.take m.length).reverse false := by
  intro written leftover
  show (if atMark m us = true then take m.length >>= fun _ => Pure.pure (atMark m us)
    else Pure.pure (atMark m us) : Parse Bool).run _ = _
  rw [if_pos h, h, Bool.or_false]
  rfl

theorem Goes.mark?_of_false {m : String} (h : atMark m us = false) :
    Goes (Parse.mark? m) us false us [] false := by
  intro written leftover
  show (if atMark m us = true then take m.length >>= fun _ => Pure.pure (atMark m us)
    else Pure.pure (atMark m us) : Parse Bool).run _ = _
  rw [h, if_neg Bool.false_ne_true, Bool.or_false]
  rfl

theorem Goes.word {w : String} (h : atWord w us = true) :
    Goes (Parse.word w) us () (us.drop 1) (us.take 1).reverse false := by
  intro written leftover
  show (if atWord w us = true then take 1 else failure : Parse Unit).run _ = _
  rw [if_pos h, Bool.or_false]
  rfl

theorem Goes.word? {w : String} (h : atWord w us = true) :
    Goes (Parse.word? w) us true (us.drop 1) (us.take 1).reverse false := by
  intro written leftover
  show (if atWord w us = true then take 1 >>= fun _ => Pure.pure (atWord w us)
    else Pure.pure (atWord w us) : Parse Bool).run _ = _
  rw [if_pos h, h, Bool.or_false]
  rfl

theorem Goes.word?_of_false {w : String} (h : atWord w us = false) :
    Goes (Parse.word? w) us false us [] false := by
  intro written leftover
  show (if atWord w us = true then take 1 >>= fun _ => Pure.pure (atWord w us)
    else Pure.pure (atWord w us) : Parse Bool).run _ = _
  rw [h, if_neg Bool.false_ne_true, Bool.or_false]
  rfl

theorem Fails.mark {m : String} (h : atMark m us = false) : Fails (mark m) us :=
  .otherwise h fun _ _ => rfl

theorem Fails.word {w : String} (h : atWord w us = false) : Fails (word w) us :=
  .otherwise h fun _ _ => rfl

/-- Another word stands there. -/
theorem Fails.otherWord {w : String} {p q : Parse α} (h : atWord w us = false) (hq : Fails q us) :
    Fails (word? w >>= fun b => if b = true then p else q) us :=
  .of_goes (Goes.word?_of_false h) hq

/-- So few tokens cannot close a type that a path starts inside and go on after it. -/
theorem fails_closing {f : Unit → Parse α} (h : us.length ≤ 2) :
    Fails (mark ">" >>= fun _ => mark "::" >>= f) us := by
  by_cases hclose : atMark ">" us = true
  · refine .of_goes (Goes.mark hclose) (Fails.bind (.mark (Bool.eq_false_iff.mpr fun hcolons => ?_)) f)
    have hlength : 2 ≤ (us.drop 1).length := (spans_mark "::").le_length _ hcolons
    rw [List.length_drop] at hlength
    omega
  · exact (Fails.mark (Bool.eq_false_iff.mpr hclose)).bind _

/-- A reader that goes towards the end leaves no more tokens than there are. -/
theorem Fails.of_short {p p' : Parse α} {f : α → Parse β} {n : Nat} (hp : Carries t p p')
    (hn : us.length ≤ n) (hf : ∀ x vs, vs.length ≤ n → Fails (f x) vs) : Fails (p >>= f) us :=
  .of_rest fun x written leftover c hrun =>
    hf x c.rest (Nat.le_trans (hp us written leftover x c hrun).1.length_le hn)

theorem Fails.verbatimIf {p : Parse α} (h : Fails p us) (test : α → Bool) :
    Fails (verbatimIf test p) us := by
  refine Fails.bind (fun written leftover => ?_) _
  rw [run_captured, run_taken, h]
  rfl

/-- Another mark stands there. -/
theorem Fails.otherMark {m : String} {p q : Parse α} (h : atMark m us = false) (hq : Fails q us) :
    Fails (mark? m >>= fun b => if b = true then p else q) us :=
  .of_goes (Goes.mark?_of_false h) hq

theorem Fails.whenNot {test : List Token → Bool} {p q : Parse α} (h : test us = true)
    (hq : Fails q us) : Fails (peek test >>= fun b => if (!b) = true then p else q) us := by
  intro written leftover
  show (if (!test us) = true then p else q).run _ = none
  rw [h]
  exact hq written leftover

theorem Fails.captured {p : Parse α} (h : Fails p us) : Fails (captured p) us := by
  intro written leftover
  rw [run_captured, h]
  rfl

theorem Fails.gather {step : List α → Parse (List α × Bool)} (h : Fails (step []) us) :
    Fails (gather step) us :=
  Fails.of_rest fun n _ _ c hrun => by
    cases hrun
    exact h.bind _

theorem Goes.captured {p : Parse α} {x : α} {rest new : List Token} {left : Bool}
    (h : Goes p us x rest new left) : Goes (captured p) us (x, new.reverse) rest [] left := by
  intro written leftover
  rw [run_captured, h, List.append_nil]
  rfl

theorem Goes.verbatimIf {p : Parse α} {x : α} {rest new : List Token} {left : Bool}
    (h : Goes p us x rest new left) {test : α → Bool} (hx : test x = false) :
    Goes (verbatimIf test p) us x rest new left := by
  have htaken : Goes (taken p) us (x, us.take (us.length - rest.length)) rest new left := by
    intro written leftover
    rw [run_taken, h]
    rfl
  intro written leftover
  rw [Parse.verbatimIf, htaken.captured.run_bind]
  show some (x, (⟨rest, (if test x = true then _ else new.reverse).reverse ++ written, _⟩ : Cursor)) = _
  rw [hx, if_neg Bool.false_ne_true, List.reverse_reverse]

theorem Goes.when {test : List Token → Bool} {p q : Parse α} {x : α} {rest new : List Token}
    {left : Bool} (h : test us = true) (hp : Goes p us x rest new left) :
    Goes (peek test >>= fun b => if b = true then p else q) us x rest new left :=
  fun written leftover => (run_when h p q written leftover).trans (hp written leftover)

theorem Goes.otherwise {test : List Token → Bool} {p q : Parse α} {x : α} {rest new : List Token}
    {left : Bool} (h : test us = false) (hq : Goes q us x rest new left) :
    Goes (peek test >>= fun b => if b = true then p else q) us x rest new left :=
  fun written leftover => (run_otherwise h p q written leftover).trans (hq written leftover)

/-- Another word stands there. -/
theorem Goes.otherWord {w : String} {p q : Parse α} {x : α} {rest new : List Token} {left : Bool}
    (h : atWord w us = false) (hq : Goes q us x rest new left) :
    Goes (Parse.word? w >>= fun b => if b = true then p else q) us x rest new left := by
  intro written leftover
  rw [(Goes.word?_of_false h).run_bind, Bool.or_false]
  exact hq written leftover

end PatchStore.Source.Parse
