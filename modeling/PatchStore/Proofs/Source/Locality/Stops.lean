import Mathlib.Logic.Basic
import PatchStore.Proofs.Source.Locality.Readers
import PatchStore.Source.Grammar.Expr

/-!
# Where expressions stop

An expression stops in front of a comma as it does at the end.  No test that decides how an expression
goes on tells the two apart, as the tests look for other tokens; the one exception is the test for the
parameters of a closure, which looks for the comma between them (`atParameters`).

* `StopBlind` — a test does not tell stops apart.
* `stopBlind_mark`, `stopBlind_word` — tests of the first token.
* `StopBlind.guarded`, `StopBlind.afterSeparator` — tests further on, behind what they stand behind.
-/

namespace PatchStore.Source.Parse

variable {α β : Type} {t : Tails}

/-- No tokens, or tokens that begin with a comma. -/
def IsStop : List Token → Prop
  | [] => True
  | .punct ',' _ :: _ => True
  | _ => False

theorem IsStop.cases {s : List Token} (h : IsStop s) :
    s = [] ∨ ∃ joint rest, s = .punct ',' joint :: rest := by
  unfold IsStop at h
  split at h
  · exact Or.inl rfl
  · exact Or.inr ⟨_, _, rfl⟩
  · exact h.elim

/-- Both tails are stops. -/
structure Tails.Stops (t : Tails) : Prop where
  here : IsStop t.here
  there : IsStop t.there

theorem Tails.stops_none : Tails.none.Stops := ⟨trivial, trivial⟩

/-- A token that stands at the start stands before the stop, if it is no comma. -/
theorem Tails.Stops.exists_cons (ht : t.Stops) {tok : Token} {ts us : List Token}
    (h : ts ++ t.here = tok :: us) (htok : ∀ joint, tok ≠ .punct ',' joint) :
    ∃ vs, ts = tok :: vs := by
  cases ts with
  | nil =>
    obtain hnil | ⟨joint, rest, hcomma⟩ := ht.here.cases
    · rw [hnil] at h
      cases h
    · rw [List.nil_append, hcomma] at h
      injection h with hfirst
      exact absurd hfirst.symm (htok joint)
  | cons first ts =>
    injection h with hfirst
    exact ⟨ts, hfirst ▸ rfl⟩

/-- What is looked at is the same in front of all stops. -/
def StopBlind (f : List Token → β) : Prop :=
  ∀ ts s s', IsStop s → IsStop s' → f (ts ++ s) = f (ts ++ s')

/-! ## Tests that do not tell stops apart -/

/-- What is the same at all stops, and in front of them once a token stands there. -/
theorem StopBlind.of_cons {f : List Token → β} {v : β} (hnil : f [] = v)
    (hcomma : ∀ joint us, f (.punct ',' joint :: us) = v)
    (hcons : ∀ tok ts s s', IsStop s → IsStop s' → f (tok :: (ts ++ s)) = f (tok :: (ts ++ s'))) :
    StopBlind f := by
  have hstop : ∀ s, IsStop s → f s = v := by
    intro s hs
    obtain rfl | ⟨joint, rest, rfl⟩ := hs.cases
    · exact hnil
    · exact hcomma joint rest
  intro ts s s' hs hs'
  cases ts with
  | nil => exact (hstop s hs).trans (hstop s' hs').symm
  | cons tok ts => exact hcons tok ts s s' hs hs'

namespace StopBlind

variable {test test' : List Token → Bool}

theorem and (h : StopBlind test) (h' : StopBlind test') :
    StopBlind fun ts => test ts && test' ts :=
  fun ts s s' hs hs' => congrArg₂ (· && ·) (h ts s s' hs hs') (h' ts s s' hs hs')

theorem or (h : StopBlind test) (h' : StopBlind test') :
    StopBlind fun ts => test ts || test' ts :=
  fun ts s s' hs hs' => congrArg₂ (· || ·) (h ts s s' hs hs') (h' ts s s' hs hs')

theorem not (h : StopBlind test) : StopBlind fun ts => !test ts :=
  fun ts s s' hs hs' => congrArg (!·) (h ts s s' hs hs')

theorem const (b : β) : StopBlind fun _ => b := fun _ _ _ _ _ => rfl

end StopBlind

/-! ## Tests of the first token -/

theorem stopBlind_marks {cs : List Char} (h : ',' ∉ cs) : StopBlind (atMarks cs) := by
  induction cs with
  | nil => exact fun _ _ _ _ _ => rfl
  | cons c cs ih =>
    have hc : (',' == c) = false := beq_false_of_ne fun heq => h (heq ▸ List.mem_cons_self)
    refine .of_cons (v := false) (atMarks_nil c cs) (fun joint us => ?_) fun tok ts s s' hs hs' => ?_
    · cases cs with
      | nil => exact hc
      | cons d cs =>
        show (',' == c && joint && _) = false
        rw [hc]
        rfl
    · cases cs with
      | nil => cases tok <;> rfl
      | cons d cs =>
        cases tok with
        | punct m joint =>
          exact congrArg (m == c && joint && ·)
            (ih (fun hmem => h (List.mem_cons_of_mem c hmem)) ts s s' hs hs')
        | _ => rfl

theorem stopBlind_mark {m : String} (h : ',' ∉ m.toList) : StopBlind (atMark m) := stopBlind_marks h

/-- A test of the first token that no stop satisfies. -/
theorem stopBlind_first {test : List Token → Bool} (hnil : test [] = false)
    (hcomma : ∀ joint us, test (.punct ',' joint :: us) = false)
    (hcons : ∀ tok us us', test (tok :: us) = test (tok :: us')) : StopBlind test :=
  .of_cons hnil hcomma fun tok _ _ _ _ _ => hcons tok _ _

theorem stopBlind_word (w : String) : StopBlind (atWord w) :=
  stopBlind_first rfl (fun _ _ => rfl) fun tok _ _ => by cases tok <;> rfl

theorem stopBlind_anyWord (ws : List String) : StopBlind (atAnyWord ws) :=
  fun ts s s' hs hs' => congrArg ws.any (funext fun w => stopBlind_word w ts s s' hs hs')

theorem stopBlind_ident : StopBlind atIdent :=
  stopBlind_first rfl (fun _ _ => rfl) fun tok _ _ => by cases tok <;> rfl

theorem stopBlind_anyIdent : StopBlind atAnyIdent :=
  stopBlind_first rfl (fun _ _ => rfl) fun tok _ _ => by cases tok <;> rfl

theorem stopBlind_group (d : Delimiter) : StopBlind (atGroup d) :=
  stopBlind_first rfl (fun _ _ => rfl) fun tok _ _ => by cases tok <;> rfl

/-- What stands in a group is none of what follows. -/
theorem stopBlind_inside (test : List Token → Bool) : StopBlind (inside test) :=
  stopBlind_first rfl (fun _ _ => rfl) fun tok _ _ => by cases tok <;> rfl

theorem stopBlind_number : StopBlind atNumber :=
  stopBlind_first rfl (fun _ _ => rfl) fun tok _ _ => by cases tok <;> rfl

theorem stopBlind_lifetime : StopBlind atLifetime := by
  refine .of_cons (v := false) rfl (fun joint us => atLifetime_punct ',' joint us) ?_
  intro tok ts s s' hs hs'
  cases tok with
  | punct m joint =>
    rw [atLifetime_punct, atLifetime_punct, stopBlind_anyIdent ts s s' hs hs']
  | _ => rfl

/-- A literal that begins with a mark is a number after a minus sign. -/
theorem atLiteral_punct (m : Char) (joint : Bool) (us : List Token) :
    atLiteral (.punct m joint :: us) = (m == '-' && atNumber us) := by
  by_cases hm : m = '-'
  · subst hm
    rfl
  · rw [beq_false_of_ne hm]
    unfold atLiteral
    split
    all_goals rename_i heq
    · cases heq
    · cases heq
    · cases heq
      exact absurd rfl hm
    · rfl

theorem stopBlind_literal : StopBlind atLiteral := by
  refine .of_cons (v := false) rfl (fun _ _ => rfl) fun tok ts s s' hs hs' => ?_
  cases tok with
  | punct m joint => rw [atLiteral_punct, atLiteral_punct, stopBlind_number ts s s' hs hs']
  | _ => rfl

/-! ## Tests further on -/

/-- The first tree is no part of a stop. -/
theorem skipTree_append {tok : Token} {ts s : List Token} (hs : IsStop s) :
    skipTree (tok :: (ts ++ s)) = skipTree (tok :: ts) ++ s := by
  have hskip : ∀ us, skipTree (tok :: us) = if atLifetime (tok :: us) then us.drop 1 else us := by
    intro us
    unfold skipTree
    split
    · rename_i heq
      cases heq
    · rename_i heq
      cases heq
      rfl
    · rename_i hnot heq
      cases heq
      rw [if_neg]
      unfold atLifetime
      split
      · rename_i heq
        cases heq
        exact (hnot _ _ rfl rfl).elim
      · exact Bool.false_ne_true
  have hlifetime := stopBlind_lifetime (tok :: ts) s [] hs trivial
  rw [List.append_nil, List.cons_append] at hlifetime
  rw [hskip, hskip, hlifetime]
  split
  · rename_i h
    cases ts with
    | nil =>
      exact absurd h (by cases tok <;> simp [atLifetime])
    | cons tok' ts => rfl
  · rfl

/-- Two tokens at most are one tree. -/
theorem length_le_of_skipTree {us : List Token} (h : skipTree us = []) : us.length ≤ 2 := by
  unfold skipTree at h
  split at h
  all_goals
    subst_vars
    simp

/-- A test after the first tree does not tell stops apart behind one that no stop satisfies. -/
theorem StopBlind.guarded {guard test : List Token → Bool} (hguard : StopBlind guard)
    (hnil : guard [] = false) (htest : StopBlind test) :
    StopBlind fun ts => guard ts && second test ts := by
  intro ts s s' hs hs'
  cases ts with
  | nil =>
    have hstop : ∀ s, IsStop s → guard s = false := fun s hs => by
      rw [← hnil]
      exact hguard [] s [] hs trivial
    show (guard s && _) = (guard s' && _)
    rw [hstop s hs, hstop s' hs']
    rfl
  | cons tok ts =>
    show (guard (tok :: ts ++ s) && test (skipTree (tok :: (ts ++ s)))) =
      (guard (tok :: ts ++ s') && test (skipTree (tok :: (ts ++ s'))))
    rw [hguard (tok :: ts) s s' hs hs', skipTree_append hs, skipTree_append hs', htest _ s s' hs hs']

/-- The separator of a path is two colons. -/
theorem eq_of_separator {ts : List Token} (h : atMark "::" ts = true) :
    ∃ joint us, ts = .punct ':' true :: .punct ':' joint :: us := by
  rcases ts with _ | ⟨_ | ⟨m, joint⟩ | _ | _, ts⟩
  · cases h
  · cases h
  · have hmarks : (m == ':' && joint && atMark ":" ts) = true := h
    obtain ⟨hfirst, hcolon⟩ := (Bool.and_eq_true _ _).mp hmarks
    obtain ⟨hm, rfl⟩ := (Bool.and_eq_true _ _).mp hfirst
    obtain rfl : m = ':' := eq_of_beq hm
    obtain ⟨joint, us, rfl⟩ := eq_of_atMarks hcolon
    exact ⟨joint, us, rfl⟩
  · cases h
  · cases h

theorem atMark_colon_of_separator {ts : List Token} (h : atMark "::" ts = true) :
    atMark ":" (skipTree ts) = true := by
  obtain ⟨joint, us, rfl⟩ := eq_of_separator h
  rfl

/-- A test after the separator of a path does not tell stops apart. -/
theorem StopBlind.afterSeparator {test : List Token → Bool} (htest : StopBlind test) :
    StopBlind fun ts => atMark "::" ts && third test ts := by
  have hmark : ∀ m : String, ',' ∉ m.toList → StopBlind (atMark m) := fun _ => stopBlind_mark
  have hblind : StopBlind fun ts =>
      atMark "::" ts && second (fun ts => atMark ":" ts && second test ts) ts :=
    (hmark "::" (by decide)).guarded rfl ((hmark ":" (by decide)).guarded rfl htest)
  refine cast (congrArg StopBlind (funext fun ts => ?_)) hblind
  show (atMark "::" ts && (atMark ":" (skipTree ts) && third test ts)) = _
  by_cases h : atMark "::" ts = true
  · rw [atMark_colon_of_separator h, Bool.true_and]
  · rw [Bool.eq_false_iff.mpr h]
    rfl

/-- A separator that is begun goes on only with a colon. -/
theorem Tails.blind_separator {us : List Token} (h : atMark ":" us = false) :
    Tails.Blind ⟨[], us, Nat.zero_le _⟩ (atMark "::") := by
  intro ts
  rcases ts with _ | ⟨tok, _ | ⟨tok', ts⟩⟩
  · refine (Bool.eq_false_iff.mpr fun hseparator => ?_).symm
    obtain ⟨joint, vs, rfl⟩ := eq_of_separator hseparator
    cases h
  · cases tok with
    | punct m joint =>
      show (m == ':' && joint && atMark ":" []) = (m == ':' && joint && atMark ":" us)
      rw [h]
      rfl
    | _ => rfl
  · exact (spans_mark "::").append (tok :: tok' :: ts) _ _
      (Nat.succ_le_succ (Nat.succ_le_succ (Nat.zero_le _)))

/-! ## What is seen in front of two stops -/

namespace Tails.Stops

variable (ht : t.Stops)
include ht

theorem blind {f : List Token → β} (h : StopBlind f) : t.Blind f :=
  fun ts => h ts t.here t.there ht.here ht.there

theorem mark {m : String} (h : ',' ∉ m.toList) : t.Blind (atMark m) := ht.blind (stopBlind_mark h)

theorem word (w : String) : t.Blind (atWord w) := ht.blind (stopBlind_word w)

theorem anyWord (ws : List String) : t.Blind (atAnyWord ws) := ht.blind (stopBlind_anyWord ws)

theorem ident : t.Blind atIdent := ht.blind stopBlind_ident

theorem group (d : Delimiter) : t.Blind (atGroup d) := ht.blind (stopBlind_group d)

theorem lifetime : t.Blind atLifetime := ht.blind stopBlind_lifetime

theorem literal : t.Blind atLiteral := ht.blind stopBlind_literal

end Tails.Stops

/-- As many tokens as a literal is spelled with stand where one stands. -/
theorem le_length_of_atLiteral {us : List Token} (h : atLiteral us = true) :
    (if atMark "-" us = true then 2 else 1) ≤ us.length := by
  cases us with
  | nil => cases h
  | cons tok us =>
    split
    · rename_i hminus
      cases tok with
      | punct m joint =>
        rw [atLiteral_punct] at h
        cases us with
        | nil => rw [show atNumber [] = false from rfl, Bool.and_false] at h; cases h
        | cons tok us => exact Nat.succ_le_succ (Nat.succ_le_succ (Nat.zero_le _))
      | _ => cases hminus
    · exact Nat.succ_le_succ (Nat.zero_le _)

theorem Tails.Stops.carries_literal (ht : t.Stops) : Carries t Parse.literal Parse.literal := by
  refine fun us => .peek_bind (fun ts hts => hts ▸ ht.literal ts) ?_
  by_cases hliteral : atLiteral us = true
  · rw [hliteral]
    exact CarriesFrom.peek_bind (fun ts hts => hts ▸ ht.mark (by decide) ts)
      (.taking (le_length_of_atLiteral hliteral))
  · rw [Bool.eq_false_iff.mpr hliteral]
    exact .of_fails fun _ _ => rfl

end PatchStore.Source.Parse
