import PatchStore.Proofs.Source.Locality.TypeExpr

/-!
# Patterns in front of other tokens

Patterns are carried over to deeper grammars in front of stops.  A range may end without an upper bound,
and then a comma ends it as the end does.

* `carries_rangeRest` — ranges are carried over.
* `carries_pattern` — patterns are carried over.
-/

namespace PatchStore.Source

open Parse

section

variable {g g' : Grammar} {t : Tails} (hg : g.Deeper g') (ht : t.Stops)

/-! ## Tests -/

/-- At all stops, either the tokens or the items of a list are at an end. -/
theorem stopBlind_end : StopBlind fun ts => ts.isEmpty || atMark "," ts :=
  .of_cons (v := true) rfl (fun _ _ => rfl) fun tok _ _ _ _ _ => by cases tok <;> rfl

theorem stopBlind_colon : StopBlind atColon :=
  (stopBlind_mark (m := ":") (by decide)).and (stopBlind_mark (m := "::") (by decide)).not

theorem stopBlind_patternEnd : StopBlind atPatternEnd := by
  have hblind : StopBlind fun ts => (ts.isEmpty || atMark "," ts) ||
      (atMark "|" ts || atMark "=" ts || atColon ts || atMark ";" ts || atWord "if" ts) :=
    stopBlind_end.or <| ((((stopBlind_mark (m := "|") (by decide)).or
      (stopBlind_mark (m := "=") (by decide))).or stopBlind_colon).or
        (stopBlind_mark (m := ";") (by decide))).or (stopBlind_word "if")
  refine cast (congrArg StopBlind (funext fun ts => ?_)) hblind
  rw [atPatternEnd]
  ac_rfl

theorem stopBlind_alternative : StopBlind atAlternative :=
  ((stopBlind_mark (m := "|") (by decide)).and (stopBlind_mark (m := "||") (by decide)).not).and
    (stopBlind_mark (m := "|=") (by decide)).not

/-- Whether a path is followed by what makes a macro call of it. -/
theorem stopBlind_macroCall (p : Path) :
    StopBlind fun ts => atBang ts && !p.qualified && p.isPlain :=
  (stopBlind_bang.and (StopBlind.const _)).and (StopBlind.const _)

theorem stopBlind_pathPattern : StopBlind atPathPattern := by
  have hgoesOn : StopBlind fun ts =>
      atMark "::" ts || atMark "!" ts || atGroup .brace ts || atGroup .paren ts || atMark ".." ts :=
    ((((stopBlind_mark (m := "::") (by decide)).or (stopBlind_mark (m := "!") (by decide))).or
      (stopBlind_group _)).or (stopBlind_group _)).or (stopBlind_mark (m := "..") (by decide))
  exact ((((stopBlind_ident.guarded rfl hgoesOn).or ((stopBlind_word "self").guarded rfl
    (stopBlind_mark (m := "::") (by decide)))).or (stopBlind_mark (m := "::") (by decide))).or
      (stopBlind_mark (m := "<") (by decide))).or (stopBlind_anyWord _)

/-! ## Alternatives and ranges -/

include ht

theorem carries_macroCall? (p : Path) : Carries t (macroCall? p) (macroCall? p) :=
  .when (ht.blind (stopBlind_macroCall p))
    ((Carries.mark "!").bind fun _ => Carries.anyGroup.bind fun _ => .pure _) (.pure _)

theorem carries_rangeMark (obsolete : Bool) :
    Carries t (rangeMark obsolete) (rangeMark obsolete) := by
  refine (Carries.mark? (ht.mark (by decide))).bind fun _ => .ite (.pure _) <|
    .when (ht.mark (by decide)) (.ite (.fails_bind _ _) ?_) ((Carries.mark _).bind fun _ => .pure _)
  exact (Carries.mark _).unwritten.bind fun _ => (Carries.write _).bind fun _ => .pure _

include hg

theorem carries_alternatives : Carries t (alternatives g) (alternatives g') :=
  (Carries.mark? (ht.mark (by decide))).bind fun _ => (hg.pattern ht).bind fun _ =>
    .bind (.gather fun _ => .whenNot (ht.blind stopBlind_alternative) (.pure _) <|
      (Carries.mark _).bind fun _ => (hg.pattern ht).bind fun _ => .pure _) fun _ => .pure _

theorem carries_rangeBound : Carries t (rangeBound g) (rangeBound g') :=
  .when (ht.blind stopBlind_patternEnd) (.pure _) <|
    .when ht.literal (ht.carries_literal.bind fun _ => .pure _) <|
    .when (ht.blind stopBlind_path) ((carries_path hg ht true).discard.bind fun _ => .pure _) <|
    (Carries.word _).bind fun _ => (carries_attributedBlock hg).bind fun _ => .pure _

theorem carries_rangeRest (obsolete : Bool) :
    Carries t (rangeRest g obsolete) (rangeRest g' obsolete) :=
  (carries_rangeMark ht obsolete).bind fun _ => (carries_rangeBound hg ht).bind fun _ =>
    .ite (.fails_bind _ _) (.pure _)

/-! ## Patterns with parts -/

omit ht

theorem carries_alternativesList :
    Carries .none (commaList (alternatives g)) (commaList (alternatives g')) :=
  .listUntil (.peek (Tails.blind_none _)) fun _ => carries_alternatives hg Tails.stops_none

theorem carries_fieldPattern : Carries .none (fieldPattern g) (fieldPattern g') := by
  have hpattern : Carries .none (mark ":" >>= fun _ => discard (alternatives g))
      (mark ":" >>= fun _ => discard (alternatives g')) :=
    (Carries.mark ":").bind fun _ => (carries_alternatives hg Tails.stops_none).discard
  unfold fieldPattern
  refine (Carries.word? (Tails.blind_none _)).bind fun boxed =>
    (Carries.word? (Tails.blind_none _)).bind fun byRef =>
      (Carries.word? (Tails.blind_none _)).bind fun mutable => ?_
  refine (Carries.peek (Tails.blind_none _)).bind fun named =>
    .ite (Carries.ident.discard.bind fun _ => ?_) (Carries.position.discard.bind fun _ => ?_)
  all_goals exact (Carries.peek (Tails.blind_none _)).bind fun _ => .ite hpattern (.pure _)

theorem carries_fieldPatterns : Carries .none (fieldPatterns g) (fieldPatterns g') := by
  refine .discard <| .listUntil (.peek (Tails.blind_none _)) fun _ => ?_
  exact (carries_outerAttributes hg Tails.stops_none).discard.bind fun _ =>
    (Carries.mark? (Tails.blind_none _)).bind fun _ =>
      .ite (.whenNot (Tails.blind_none _) (.fails _) (.pure _)) (carries_fieldPattern hg)

include ht

theorem carries_pathPattern : Carries t (pathPattern g) (pathPattern g') := by
  refine (carries_path hg ht true).bind fun p => (carries_macroCall? ht p).bind fun _ =>
    .ite (.pure _) <| .when (ht.group _) ?_ <| .when (ht.group _) ?_ <|
      .when (ht.mark (by decide)) ((carries_rangeRest hg ht true).bind fun _ => .pure _) (.pure _)
  · exact (Carries.within _ (carries_fieldPatterns hg)).bind fun _ => .pure _
  · exact (Carries.within _ (carries_alternativesList hg)).discard.bind fun _ => .pure _

omit ht in
theorem carries_slicePattern : Carries t (slicePattern g) (slicePattern g') :=
  (Carries.within _ (carries_alternativesList hg)).bind fun _ => .ite (.fails_bind _ _) (.pure _)

theorem carries_identPattern : Carries t (identPattern g) (identPattern g') := by
  refine (Carries.word? (ht.word "ref")).discard.bind fun _ =>
    (Carries.word? (ht.word "mut")).discard.bind fun _ => .when (ht.word "self")
      (Carries.anyIdent.bind fun i => ?_) (Carries.ident.bind fun i => ?_)
  all_goals
    exact (Carries.mark? (ht.mark (by decide))).bind fun _ =>
      .ite ((hg.pattern ht).discard.bind fun _ => .pure _) (.pure _)

theorem carries_constantPattern : Carries t (constantPattern g) (constantPattern g') :=
  (carries_rangeBound hg ht).bind fun _ => .ite (.fails_bind _ _) <|
    .when (ht.mark (by decide)) ((carries_rangeRest hg ht true).bind fun _ => .pure _) (.pure _)

theorem carries_restPattern : Carries t (restPattern g) (restPattern g') :=
  (carries_rangeRest hg ht false).bind fun _ => .ite (.pure _) (.pure _)

/-! ## All patterns -/

theorem carries_pattern : Carries t (pattern g) (pattern g') := by
  have hconstant : StopBlind fun ts => atMark "-" ts || atLiteral ts || atWord "const" ts :=
    ((stopBlind_mark (m := "-") (by decide)).or stopBlind_literal).or (stopBlind_word _)
  have hident : StopBlind fun ts => atAnyWord ["ref", "mut", "self"] ts || atIdent ts :=
    (stopBlind_anyWord _).or stopBlind_ident
  have hrest : StopBlind fun ts => atMark ".." ts && !atMark "..." ts :=
    (stopBlind_mark (m := "..") (by decide)).and (stopBlind_mark (m := "...") (by decide)).not
  refine .verbatimIf (.when (ht.blind stopBlind_pathPattern) (carries_pathPattern hg ht) <|
    (Carries.word? (ht.word "_")).bind fun _ => .ite (.pure _) <|
    (Carries.word? (ht.word "box")).bind fun _ => .ite ?_ <|
    .when (ht.blind hconstant) (carries_constantPattern hg ht) <|
    .when (ht.blind hident) (carries_identPattern hg ht) <|
    (Carries.mark? (ht.mark (by decide))).bind fun _ => .ite ?_ <|
    .when (ht.group _) ?_ <| .when (ht.group _) (carries_slicePattern hg) <|
    .when (ht.blind hrest) (carries_restPattern hg ht) (.fails _)) _
  · exact (hg.pattern ht).discard.bind fun _ => .pure _
  · exact (Carries.word? (ht.word "mut")).discard.bind fun _ =>
      (hg.pattern ht).discard.bind fun _ => .pure _
  · exact (Carries.within _ (carries_alternativesList hg)).discard.bind fun _ => .pure _

omit ht in
theorem fails_pattern_unclosed (joint : Bool) {us : List Token} (h : us.length ≤ 2) :
    Fails (pattern g) (.punct '<' joint :: us) :=
  .verbatimIf (.when rfl <| (fails_path_unclosed hg true joint h).bind _) _

omit hg ht in
/-- The word `self` is a pattern in front of a colon, if that is no part of a separator. -/
theorem pattern_self (g : Grammar) (mutable joint : Bool) {us : List Token}
    (h : atMark "::" (.punct ':' joint :: us) = false ∨ atMark "::" us = true) :
    Fails (pattern g) (selfTokens mutable ++ .punct ':' joint :: us) ∨
      ∃ p, Goes (pattern g) (selfTokens mutable ++ .punct ':' joint :: us) p (.punct ':' joint :: us)
        (selfTokens mutable).reverse false := by
  cases mutable with
  | true =>
    have hident : Goes (identPattern g)
        (.ident ⟨"mut", false⟩ :: .ident ⟨"self", false⟩ :: .punct ':' joint :: us)
        (.ident ⟨"self", false⟩ false) (.punct ':' joint :: us)
        [.ident ⟨"self", false⟩, .ident ⟨"mut", false⟩] false := fun written leftover => by
      rw [Bool.or_false]
      rfl
    exact Or.inr ⟨_, .verbatimIf (.otherwise rfl <| .otherWord rfl <| .otherWord rfl <| .otherwise rfl <|
      .when rfl hident) rfl⟩
  | false =>
    have hstart : atPathPattern (.ident ⟨"self", false⟩ :: .punct ':' joint :: us) =
        atMark "::" (.punct ':' joint :: us) := by
      show (false || (true && atMark "::" (.punct ':' joint :: us)) || false || false || false) = _
      rw [Bool.false_or, Bool.true_and, Bool.or_false, Bool.or_false, Bool.or_false]
    by_cases hpath : atMark "::" (.punct ':' joint :: us) = true
    · have hnone := fails_path_separators g true hpath
        (h.resolve_left fun h => Bool.false_ne_true (h.symm.trans hpath))
      exact Or.inl (.verbatimIf (.when (hstart.trans hpath) (Fails.bind hnone _)) _)
    · have hident : Goes (identPattern g) (.ident ⟨"self", false⟩ :: .punct ':' joint :: us)
          (.ident ⟨"self", false⟩ false) (.punct ':' joint :: us) [.ident ⟨"self", false⟩] false :=
        fun written leftover => by
          rw [Bool.or_false]
          rfl
      exact Or.inr ⟨_, .verbatimIf (.otherwise (hstart.trans (Bool.eq_false_iff.mpr hpath)) <|
        .otherWord rfl <| .otherWord rfl <| .otherwise rfl <| .when rfl hident) rfl⟩

end

end PatchStore.Source
