import PatchStore.Proofs.Source.Locality.Stops

/-!
# Paths in front of other tokens

A grammar is deeper than another one if its readers carry over what those of the other one read.  Then
attributes, bounds and paths are carried over too, as they are made of what these readers read.

* `Grammar.Deeper` — the readers of a deeper grammar carry over those of another one.
* `carries_boundsUntil` — bounds up to where they end are carried over.
* `carries_path`, `carries_traitBounds` — paths and bounds are carried over.
* `fails_path_unclosed`, `fails_path_separators` — tokens that no path is read from.
-/

namespace PatchStore.Source

open Parse

/-! ## Grammars -/

/-- The word `self`, which may be marked mutable. -/
def selfTokens (mutable : Bool) : List Token :=
  if mutable = true then [.ident ⟨"mut", false⟩, .ident ⟨"self", false⟩]
  else [.ident ⟨"self", false⟩]

/-- The readers of the one grammar are carried over by those of the other one: in front of stops, and
what is only read in groups where nothing follows. -/
structure Grammar.Deeper (g g' : Grammar) : Prop where
  type : ∀ {t : Tails}, t.Stops → ∀ plus, Carries t (g.type plus) (g'.type plus)
  bound : ∀ {t : Tails}, t.Stops → ∀ capture constant,
    Carries t (g.bound capture constant) (g'.bound capture constant)
  expr : ∀ {t : Tails}, t.Stops → ∀ struct, Carries t (g.expr struct) (g'.expr struct)
  operand : ∀ {t : Tails}, t.Stops → ∀ struct, Carries t (g.operand struct) (g'.operand struct)
  operators : ∀ {t : Tails}, t.Stops → ∀ struct least left,
    Carries t (g.operators struct least left) (g'.operators struct least left)
  pattern : ∀ {t : Tails}, t.Stops → Carries t g.pattern g'.pattern
  statementExpr : Carries .none g.statementExpr g'.statementExpr
  statements : Carries .none g.statements g'.statements
  declaration : Carries .none g.declaration g'.declaration
  fields : Carries .none g.fields g'.fields
  /-- Where a list of bounds must go on, the end is none of its ends. -/
  bound_nil : ∀ capture constant, Fails (g.bound capture constant) []
  /-- A path that starts inside a type needs more than two tokens after its angle bracket. -/
  pattern_unclosed : ∀ joint us, us.length ≤ 2 → Fails g.pattern (.punct '<' joint :: us)
  /-- The word `self` is a pattern in front of a colon, if that is no part of a separator. -/
  pattern_self : ∀ mutable joint us,
    atMark "::" (.punct ':' joint :: us) = false ∨ atMark "::" us = true →
      Fails g.pattern (selfTokens mutable ++ .punct ':' joint :: us) ∨
        ∃ p, Goes g.pattern (selfTokens mutable ++ .punct ':' joint :: us) p (.punct ':' joint :: us)
          (selfTokens mutable).reverse false
  /-- No type begins with a colon or a point, if that is no part of a separator. -/
  type_mark : ∀ plus m joint us, m = ':' ∨ m = '.' → atMark "::" (.punct m joint :: us) = false →
    Fails (g'.type plus) (.punct m joint :: us)

section

variable {g g' : Grammar} {t : Tails} (hg : g.Deeper g') (ht : t.Stops)

/-! ## Attributes and blocks -/

section

include ht

theorem carries_plainPath : Carries t plainPath plainPath := by
  have hname : StopBlind atPathName := stopBlind_ident.or (stopBlind_anyWord _)
  unfold plainPath
  refine (Carries.mark? (ht.mark (by decide))).bind fun isGlobal => ?_
  refine .bind (.gather fun acc => ?_) fun names => ?_
  · exact .whenNot (ht.blind hname) (.fails_bind _ _) <| Carries.anyIdent.bind fun _ =>
      (Carries.mark? (ht.mark (by decide))).bind fun _ => .pure _
  · cases names with
    | nil => exact .fails _
    | cons first more => exact .pure _

end

include hg

theorem carries_attributeBody : Carries .none (attributeBody g) (attributeBody g') := by
  have ht := Tails.stops_none
  unfold attributeBody
  refine .when (ht.word "unsafe")
    (Carries.anyIdent.bind fun _ => (Carries.pure _).bind fun path => ?_)
    ((carries_plainPath ht).bind fun path => ?_)
  all_goals
    refine .look (fun _ _ _ _ _ => rfl) fun us _ _ _ _ => ?_
    dsimp only
    split
    · exact (CarriesFrom.taking (Nat.succ_le_succ (Nat.zero_le _))).bind fun _ _ _ _ _ => .pure _
    · have hvalue : Carries .none (discard (g.expr true) >>= fun _ => pure (Attribute.mk path none))
          (discard (g'.expr true) >>= fun _ => pure (Attribute.mk path none)) :=
        (hg.expr ht true).discard.bind fun _ => .pure _
      exact ((Carries.mark? (ht.mark (by decide))).bind fun _ => .ite
        (.when (Tails.blind_none _) (.fails_bind _ _) hvalue) (.pure _)) us

theorem carries_outerAttribute : Carries t (outerAttribute g) (outerAttribute g') :=
  (Carries.mark "#").bind fun _ => .within _ (carries_attributeBody hg)

include ht

theorem carries_outerAttributes : Carries t (outerAttributes g) (outerAttributes g') :=
  .gather fun _ => .when (ht.mark (by decide)) ((carries_outerAttribute hg).bind fun _ => .pure _)
    (.pure _)

theorem carries_attributeTokens : Carries t (attributeTokens g) (attributeTokens g') :=
  (carries_outerAttributes hg ht).captured.bind fun _ => .pure _

omit ht

theorem carries_innerAttributes : Carries .none (innerAttributes g) (innerAttributes g') := by
  refine .discard <| .gather fun _ => .when (Tails.blind_none _) ?_ (.pure _)
  exact (Carries.mark "#").bind fun _ => (Carries.mark "!").bind fun _ =>
    (Carries.within _ (carries_attributeBody hg)).discard.bind fun _ => .pure _

theorem carries_block : Carries t (block g) (block g') := .within _ hg.statements

theorem carries_attributedBlock : Carries t (attributedBlock g) (attributedBlock g') :=
  .within _ <| (carries_innerAttributes hg).bind fun _ => hg.statements

/-! ## Bounds and parameters -/

include ht

theorem carries_constantArgument : Carries t (constantArgument g) (constantArgument g') :=
  .when ht.literal ht.carries_literal <| .when ht.ident Carries.ident.discard <|
    carries_attributedBlock hg

omit hg ht

/-- Bounds up to an ending are carried over, if both tails end them or none does, or if nothing is
left where a bound must be. -/
theorem carries_boundsUntil {ending : List Token → Bool} {bound bound' : Parse Unit}
    (hending : ∀ ts, ending (ts ++ t.here) = ending (ts ++ t.there) ∨
      ts ++ t.here = [] ∧ ending [] = false)
    (hplus : t.Blind (atMark "+")) (hbound : Carries t bound bound') (hnil : Fails bound []) :
    Carries t (boundsUntil ending bound) (boundsUntil ending bound') := by
  refine .bind (.gather fun acc us => ?_) fun _ => .pure _
  by_cases hend : us = [] ∧ ending [] = false
  · obtain ⟨rfl, hend⟩ := hend
    refine .of_fails fun written leftover => ?_
    show (if ending [] = true then _ else bound >>= _ : Parse _).run _ = none
    rw [hend, if_neg Bool.false_ne_true, StateT.run_bind, hnil written leftover]
    rfl
  · refine .peek_bind (fun ts hts => ?_) <| .ite (fun _ => .pure _) fun _ =>
      (hbound.bind fun _ => (Carries.mark? hplus).bind fun _ => .pure _) us
    rcases hending ts with h | ⟨hempty, h⟩
    · rw [hts, h]
    · exact absurd ⟨hts.trans hempty, h⟩ hend

theorem carries_optionalBounds {ending : List Token → Bool} {bound bound' : Parse Unit}
    (hending : ∀ ts, ending (ts ++ t.here) = ending (ts ++ t.there) ∨
      ts ++ t.here = [] ∧ ending [] = false)
    (hcolon : t.Blind (atMark ":")) (hplus : t.Blind (atMark "+")) (hbound : Carries t bound bound')
    (hnil : Fails bound []) :
    Carries t (optionalBounds ending bound) (optionalBounds ending bound') := by
  refine Carries.bind (.captured ?_) fun ⟨any, tokens⟩ => .ite (.write tokens) (.pure ())
  exact (Carries.mark? hcolon).bind fun _ =>
    .ite (carries_boundsUntil hending hplus hbound hnil) (.pure false)

include ht in
/-- Among parameters, bounds end at a comma as at no other stop, but must go on at the end. -/
theorem ends_at_comma {test : List Token → Bool} (htest : StopBlind test) (hnil : test [] = false)
    (ts : List Token) :
    (atMark "," (ts ++ t.here) || test (ts ++ t.here)) =
        (atMark "," (ts ++ t.there) || test (ts ++ t.there)) ∨
      ts ++ t.here = [] ∧ (atMark "," [] || test []) = false := by
  cases ts with
  | cons tok ts =>
    have hcomma : atMark "," (tok :: ts ++ t.here) = atMark "," (tok :: ts ++ t.there) :=
      (spans_mark ",").append (tok :: ts) t.here t.there (Nat.succ_le_succ (Nat.zero_le _))
    exact Or.inl (by rw [hcomma, ht.blind htest])
  | nil =>
    obtain hhere | ⟨joint, rest, hhere⟩ := ht.here.cases
    · exact Or.inr ⟨hhere, by rw [hnil]; rfl⟩
    · obtain hthere | ⟨joint', rest', hthere⟩ := ht.there.cases
      · have hlength := t.length_le
        rw [hhere, hthere] at hlength
        cases hlength
      · exact Or.inl (by rw [hhere, hthere]; rfl)

theorem fails_lifetime_nil : Fails lifetime [] := fun _ _ => rfl

include hg

theorem fails_constantBound_nil : Fails (constantBound g) [] := by
  intro written leftover
  show ((g.bound false true).run ⟨[], written, leftover⟩).bind _ = none
  rw [hg.bound_nil]
  rfl

include ht

theorem carries_constantBound : Carries t (constantBound g) (constantBound g') :=
  (hg.bound ht false true).discard

theorem carries_parameter (unnamed : Bool) :
    Carries t (parameter g unnamed) (parameter g' unnamed) := by
  have hcolon : t.Blind (atMark ":") := ht.mark (by decide)
  have hplus : t.Blind (atMark "+") := ht.mark (by decide)
  have hequals : t.Blind (atMark "=") := ht.mark (by decide)
  have hgreater : StopBlind (atMark ">") := stopBlind_mark (by decide)
  unfold parameter
  refine (carries_outerAttributes hg ht).discard.bind fun _ => .when ht.lifetime ?_ ?_
  · refine Carries.lifetime.bind fun _ => .bind ?_ fun _ => .pure true
    exact carries_optionalBounds (ends_at_comma ht hgreater rfl) hcolon hplus .lifetime
      fails_lifetime_nil
  refine .when ht.ident ?_ <| (Carries.word? (ht.word "const")).bind fun _ => .ite ?_ <|
    .ite ((Carries.word "_").bind fun _ => .pure false) (.fails_bind _ _)
  · refine Carries.ident.discard.bind fun _ => .bind ?_ fun _ =>
      (Carries.mark? hequals).bind fun _ =>
        .ite ((hg.type ht true).discard.bind fun _ => .pure false) (.pure false)
    refine carries_optionalBounds (fun ts => ?_) hcolon hplus (carries_constantBound hg ht)
      (fails_constantBound_nil hg)
    simpa only [Bool.or_assoc] using
      ends_at_comma ht (hgreater.or (stopBlind_mark (m := "=") (by decide))) rfl ts
  · exact Carries.ident.discard.bind fun _ => (Carries.mark ":").bind fun _ =>
      (hg.type ht true).discard.bind fun _ => (Carries.mark? hequals).bind fun _ =>
        .ite ((carries_constantArgument hg ht).bind fun _ => .pure false) (.pure false)

theorem carries_parameters : Carries t (parameters g) (parameters g') := by
  refine .whenNot (ht.mark (by decide)) (.pure false) (.bind (.captured ?_) fun ⟨kinds, tokens⟩ => ?_)
  · exact (Carries.mark "<").bind fun _ =>
      (Carries.lifetimesFirst id (ht.mark (by decide)) (carries_parameter hg ht true)).bind fun _ =>
        (Carries.mark ">").bind fun _ => .pure _
  · exact .ite (.pure false) ((Carries.write tokens).bind fun _ => .pure true)

theorem carries_binder? : Carries t (binder? g) (binder? g') := by
  refine (Carries.word? (ht.word "for")).bind fun bounded => .ite ?_ (.pure bounded)
  exact (Carries.mark "<").bind fun _ =>
    (Carries.listUntil (.peek (ht.mark (by decide))) fun _ =>
      carries_parameter hg ht false).discard.bind fun _ => (Carries.mark ">").bind fun _ => .pure _

/-! ## Paths -/

theorem carries_genericArgument : Carries t (genericArgument g) (genericArgument g') := by
  have hconstant : StopBlind fun ts => atLiteral ts || atGroup .brace ts :=
    stopBlind_literal.or (stopBlind_group _)
  have hlifetime : StopBlind fun ts => atLifetime ts && !second (atMark "+") ts :=
    stopBlind_lifetime.guarded rfl (stopBlind_mark (m := "+") (by decide)).not
  unfold genericArgument
  refine .when (ht.blind hlifetime) (Carries.lifetime.bind fun _ => .pure _) <|
    .when (ht.blind hconstant) ((carries_constantArgument hg ht).bind fun _ => .pure _) <|
      (hg.type ht true).bind fun type => ?_
  split
  · rename_i p _
    refine .ite (.pure _) <| (Carries.mark? (ht.mark (by decide))).bind fun _ => .ite ?_ <|
      (Carries.mark? (ht.mark (by decide))).bind fun _ => .ite ?_ (.pure _)
    · exact .when (ht.blind hconstant) ((carries_constantArgument hg ht).bind fun _ => .pure _)
        ((hg.type ht true).discard.bind fun _ => .pure _)
    · refine .bind (.discard ?_) fun _ => .pure _
      exact carries_boundsUntil (ends_at_comma ht (stopBlind_mark (by decide)) rfl)
        (ht.mark (by decide)) (carries_constantBound hg ht) (fails_constantBound_nil hg)
  · exact .pure _

theorem carries_genericArguments : Carries t (genericArguments g) (genericArguments g') :=
  (Carries.mark "<").bind fun _ =>
    (Carries.lifetimesFirst _ (ht.mark (by decide)) (carries_genericArgument hg ht)).bind fun _ =>
      (Carries.mark ">").bind fun _ => .pure _

omit hg ht

theorem stopBlind_arguments (inExpr : Bool) : StopBlind (atArguments inExpr) := by
  have hless : StopBlind (atMark "<") := stopBlind_mark (by decide)
  have hblind : StopBlind fun ts => !inExpr && atMark "<" ts && !atMark "<=" ts && !atMark "<<=" ts :=
    (((StopBlind.const _).and hless).and (stopBlind_mark (m := "<=") (by decide)).not).and
      (stopBlind_mark (m := "<<=") (by decide)).not
  exact hblind.or hless.afterSeparator

theorem stopBlind_functionArguments : StopBlind atFunctionArguments :=
  (stopBlind_group _).or (stopBlind_group _).afterSeparator

theorem stopBlind_furtherSegment : StopBlind atFurtherSegment :=
  (stopBlind_group _).not.afterSeparator

include hg ht

theorem carries_pathSegment (inExpr : Bool) :
    Carries t (pathSegment g inExpr) (pathSegment g' inExpr) := by
  unfold pathSegment
  refine .when (ht.anyWord _) (Carries.anyIdent.bind fun _ => .pure _) <|
    .when (ht.word "Self") (Carries.anyIdent.bind fun i => ?_) (Carries.ident.bind fun i => ?_)
  all_goals
    refine .whenNot (ht.blind (stopBlind_arguments inExpr)) (.pure _) <|
      .bind (.captured ?_) fun ⟨arguments, tokens⟩ => ?_
    · exact (Carries.mark? (ht.mark (by decide))).discard.bind fun _ =>
        carries_genericArguments hg ht
    · exact .whenNot (ht.blind ((StopBlind.const _).and stopBlind_functionArguments))
        ((Carries.write tokens).bind fun _ => .pure _) (.pure _)

theorem carries_furtherSegments (inExpr : Bool) {follows : List Token → Bool}
    (hfollows : t.Blind follows) (p : Path) :
    Carries t (furtherSegments g inExpr follows p) (furtherSegments g' inExpr follows p) :=
  .bind (.gather fun _ => .whenNot hfollows (.pure _) <| (Carries.mark "::").bind fun _ =>
    (carries_pathSegment hg ht inExpr).bind fun _ => .pure _) fun _ => .pure _

theorem carries_simplePath (inExpr : Bool) :
    Carries t (simplePath g inExpr) (simplePath g' inExpr) :=
  (Carries.mark? (ht.mark (by decide))).bind fun _ =>
    (carries_pathSegment hg ht inExpr).bind fun ⟨_, _⟩ =>
      carries_furtherSegments hg ht inExpr (ht.blind stopBlind_furtherSegment) _

theorem carries_path (inExpr : Bool) : Carries t (path g inExpr) (path g' inExpr) := by
  unfold path
  refine (Carries.mark? (ht.mark (by decide))).bind fun _ =>
    .ite (carries_simplePath hg ht inExpr) <| (hg.type ht true).discard.bind fun _ =>
      (Carries.word? (ht.word "as")).bind fun _ =>
        .ite ((carries_simplePath hg ht false).discard.bind fun _ => ?_) ?_
  all_goals
    exact (Carries.mark ">").bind fun _ => (Carries.mark "::").bind fun _ =>
      (carries_pathSegment hg ht inExpr).bind fun ⟨_, _⟩ =>
        carries_furtherSegments hg ht inExpr (ht.mark (by decide)) _

omit ht in
/-- A path that starts inside a type needs more than two tokens after its angle bracket. -/
theorem fails_path_unclosed (inExpr joint : Bool) {us : List Token} (h : us.length ≤ 2) :
    Fails (path g inExpr) (.punct '<' joint :: us) := by
  have ht := Tails.stops_none
  refine .of_goes (Goes.mark? rfl) (.of_short (hg.type ht true).discard h fun _ vs hvs => ?_)
  refine .of_short (Carries.word? (ht.word "as")) hvs fun as vs hvs => ?_
  cases as with
  | true =>
    exact .of_short (carries_simplePath hg ht false).discard hvs fun _ _ hvs => fails_closing hvs
  | false => exact fails_closing hvs

omit hg ht in
/-- Two separators with one mark in common are no part of a path. -/
theorem fails_path_separators (g : Grammar) (inExpr : Bool) {joint : Bool} {us : List Token}
    (h : atMark "::" (.punct ':' joint :: us) = true) (h' : atMark "::" us = true) :
    Fails (path g inExpr) (.ident ⟨"self", false⟩ :: .punct ':' joint :: us) := by
  obtain ⟨joint', vs, rfl⟩ := eq_of_separator h'
  have hname : Goes (pathSegment g inExpr)
      (.ident ⟨"self", false⟩ :: .punct ':' joint :: .punct ':' true :: .punct ':' joint' :: vs)
      (⟨"self", false⟩, .none) (.punct ':' joint :: .punct ':' true :: .punct ':' joint' :: vs)
      [.ident ⟨"self", false⟩] false := fun written leftover => by
    rw [Bool.or_false]
    rfl
  have hfurther : Fails (pathSegment g inExpr) (.punct ':' joint' :: vs) :=
    .otherwise rfl (.otherwise rfl (Fails.bind (.otherwise rfl fun _ _ => rfl) _))
  have hfollows : atFurtherSegment (.punct ':' joint :: .punct ':' true :: .punct ':' joint' :: vs) =
      true := by
    rw [atFurtherSegment, h]
    rfl
  have hsimple : Fails (simplePath g inExpr)
      (.ident ⟨"self", false⟩ :: .punct ':' joint :: .punct ':' true :: .punct ':' joint' :: vs) := by
    refine .of_goes (Goes.mark?_of_false rfl) (.of_goes hname (Fails.bind (.gather ?_) _))
    exact .whenNot hfollows (.of_goes (Goes.mark h) (Fails.bind hfurther _))
  exact .of_goes (Goes.mark?_of_false rfl) hsimple

/-! ## Function traits and bounds -/

theorem carries_resultType (plus : Bool) : Carries t (resultType g plus) (resultType g' plus) :=
  (Carries.mark? (ht.mark (by decide))).bind fun _ => .ite (hg.type ht plus).discard (.pure _)

theorem carries_functionArguments : Carries t (functionArguments g) (functionArguments g') :=
  (Carries.mark? (ht.mark (by decide))).unwritten.discard.bind fun _ =>
    (Carries.within _ (.listUntil (.peek (Tails.blind_none _)) fun _ =>
      hg.type Tails.stops_none true)).discard.bind fun _ => carries_resultType hg ht false

theorem carries_traitBound (constant : Bool) :
    Carries t (traitBound g constant) (traitBound g' constant) := by
  unfold traitBound
  refine (carries_binder? hg ht).bind fun bounded => .when (ht.group _)
    ((Carries.within _ (.word _)).bind fun _ => (Carries.pure _).bind fun marked => ?_)
    ((Carries.word? (ht.word "const")).bind fun marked => ?_)
  all_goals
    refine .ite (.fails_bind _ _) <| (Carries.mark? (ht.mark (by decide))).bind fun _ =>
      .ite ((Carries.peek (ht.word "for")).bind fun _ => .ite (.fails_bind _ _) ?_) ?_
    all_goals
      exact (carries_simplePath hg ht false).bind fun p => .when
        (ht.blind ((StopBlind.const p.arguments.isEmpty).and stopBlind_functionArguments))
        ((carries_functionArguments hg ht).bind fun _ => .pure _) (.pure _)

omit hg in
theorem carries_capturedParameters : Carries t capturedParameters capturedParameters := by
  refine (Carries.word "use").bind fun _ => (Carries.mark "<").bind fun _ => .bind (.discard ?_)
    fun _ => Carries.mark ">"
  exact .lifetimesFirst id (ht.mark (by decide)) <| (Carries.peek ht.lifetime).bind fun _ =>
    .ite (Carries.lifetime.bind fun _ => .pure _) ((Carries.identOr _).bind fun _ => .pure _)

theorem carries_bound (capture constant : Bool) :
    Carries t (bound g capture constant) (bound g' capture constant) := by
  refine .when ht.lifetime (Carries.lifetime.bind fun _ => .pure _) <|
    .when (ht.word "use") (.ite (.fails_bind _ _)
      ((carries_capturedParameters ht).bind fun _ => .pure _)) ?_
  refine .bind (.discard (.verbatimIf (.when (ht.group _) (.within _ ?_) ?_) id)) fun _ => .pure _
  · exact carries_traitBound hg Tails.stops_none constant
  · exact carries_traitBound hg ht constant

theorem carries_traitBounds (plus capture constant : Bool) :
    Carries t (traitBounds g plus capture constant) (traitBounds g' plus capture constant) := by
  have hmore : StopBlind fun ts =>
      atAnyIdent ts || atMark "::" ts || atMark "?" ts || atLifetime ts || atGroup .paren ts ||
        (constant && atGroup .bracket ts) :=
    ((((stopBlind_anyIdent.or (stopBlind_mark (m := "::") (by decide))).or
      (stopBlind_mark (m := "?") (by decide))).or stopBlind_lifetime).or (stopBlind_group _)).or
        ((StopBlind.const _).and (stopBlind_group _))
  unfold traitBounds
  refine .bind (.gather fun acc => ?_) fun kinds => .ite (.fails _) (.pure _)
  refine (carries_bound hg ht capture constant).bind fun _ => .ite
    ((Carries.mark? (ht.mark (by decide))).bind fun _ => ?_) ((Carries.pure _).bind fun _ => ?_)
  all_goals exact (Carries.peek (ht.blind hmore)).bind fun _ => .pure _

end

end PatchStore.Source
