import PatchStore.Proofs.Source.Locality.Declaration
import PatchStore.Source.Grammar.Statement

/-!
# Items and statements in deeper grammars

Items and statements stand in blocks, where nothing follows them.

* `carries_item` — items are carried over.
* `carries_statements` — so are the statements of a block.
-/

namespace PatchStore.Source

open Parse

section

variable {g g' : Grammar} (hg : g.Deeper g')

/-! ## Members -/

theorem carries_macroMember : Carries .none macroMember macroMember :=
  (carries_plainPath Tails.stops_none).discard.bind fun _ => (Carries.mark _).bind fun _ =>
    Carries.anyGroup.bind fun ⟨_, _⟩ => .ite (.mark _) (.pure _)

include hg

theorem carries_constant (needsValue : Bool) :
    Carries .none (constant g needsValue) (constant g' needsValue) := by
  have ht := Tails.stops_none
  refine (Carries.word _).bind fun _ => (Carries.identOr _).bind fun _ =>
    (Carries.peek (Tails.blind_none _)).bind fun _ => (carries_parameters hg ht).discard.bind fun _ =>
      (Carries.mark _).bind fun _ => (hg.type ht true).discard.bind fun _ =>
        (Carries.mark? (Tails.blind_none _)).bind fun _ => .ite
          ((hg.expr ht true).discard.bind fun _ => ?_) ?_
  all_goals exact (carries_whereClause hg).bind fun _ => (Carries.mark _).bind fun _ => .pure _

theorem carries_typeName (place : ConditionPlace) :
    Carries .none (typeName g place) (typeName g' place) := by
  have ht := Tails.stops_none
  refine (Carries.word _).bind fun _ => Carries.ident.discard.bind fun _ =>
    (carries_parameters hg ht).discard.bind fun _ => (Carries.peek (Tails.blind_none _)).bind fun _ =>
      (carries_optionalBounds (fun _ => Or.inl rfl) (Tails.blind_none _) (Tails.blind_none _)
        (carries_constantBound hg ht) (fails_constantBound_nil hg)).bind fun _ => .ite
          ((Carries.pure _).bind fun _ => ?_) ((carries_whereClause hg).bind fun _ => ?_)
  all_goals
    refine (Carries.mark? (Tails.blind_none _)).bind fun _ => .ite
      ((hg.type ht true).discard.bind fun _ => ?_) ?_
    all_goals
      exact .ite ((carries_whereClause hg).discard.bind fun _ => (Carries.mark _).bind fun _ => .pure _)
        ((Carries.mark _).bind fun _ => .pure _)

theorem carries_traitMember : Carries .none (traitMember g) (traitMember g') := by
  refine (carries_outerAttributes hg Tails.stops_none).discard.bind fun _ =>
    carries_visibility.bind fun _ => (Carries.word? (Tails.blind_none _)).bind fun _ =>
      (carries_functionFollows false).bind fun _ => .ite
        ((carries_function hg).discard.bind fun _ => .pure _) <|
      .when (Tails.blind_none _) ((carries_constant hg false).bind fun _ => .pure _) <|
      .when (Tails.blind_none _) ((carries_typeName hg .after).discard.bind fun _ => .pure _) <|
      .ite (.fails _) <| .whenNot (Tails.blind_none _) (.fails_bind _ _) <|
        carries_macroMember.bind fun _ => .pure _

theorem carries_implementationMember :
    Carries .none (implementationMember g) (implementationMember g') := by
  refine (carries_outerAttributes hg Tails.stops_none).discard.bind fun _ =>
    carries_visibility.bind fun _ => (Carries.peek (Tails.blind_none _)).bind fun _ =>
      .ite ((Carries.word _).bind fun _ => ?_) ?_
  all_goals
    exact (carries_functionFollows false).bind fun _ => .ite (carries_function hg) <|
      .when (Tails.blind_none _) (carries_constant hg true) <|
      .when (Tails.blind_none _) ((carries_typeName hg .after).bind fun ⟨_, _⟩ => .pure _) <|
      .ite (.fails _) <| .whenNot (Tails.blind_none _) (.fails_bind _ _) <|
        carries_macroMember.bind fun _ => .pure _

theorem carries_foreignValue : Carries .none (foreignValue g) (foreignValue g') := by
  have ht := Tails.stops_none
  refine (Carries.word? (Tails.blind_none _)).bind fun _ => .ite ((Carries.pure _).bind fun _ => ?_)
    ((Carries.word? (Tails.blind_none _)).bind fun _ => ?_)
  all_goals
    refine (Carries.word _).bind fun _ => (Carries.word? (Tails.blind_none _)).discard.bind fun _ =>
      Carries.ident.discard.bind fun _ => (Carries.mark _).bind fun _ =>
        (hg.type ht true).discard.bind fun _ => (Carries.mark? (Tails.blind_none _)).bind fun _ =>
          .ite ((hg.expr ht true).discard.bind fun _ => ?_) ?_
    all_goals exact (Carries.mark _).bind fun _ => .pure _

theorem carries_foreignMember : Carries .none (foreignMember g) (foreignMember g') := by
  refine (carries_outerAttributes hg Tails.stops_none).discard.bind fun _ =>
    carries_visibility.bind fun _ => (carries_functionFollows true).bind fun _ => .ite
      ((carries_signature hg true).bind fun _ => (Carries.peek (Tails.blind_none _)).bind fun _ =>
        .ite ((carries_attributedBlock hg).bind fun _ => .pure _) ((Carries.mark _).bind fun _ => .pure _)) <|
    .when (Tails.blind_none _) (carries_foreignValue hg) <|
    .when (Tails.blind_none _) ((carries_typeName hg .either).bind fun ⟨_, _⟩ => .pure _) <|
    .ite (.fails _) <| .whenNot (Tails.blind_none _) (.fails_bind _ _) <|
      carries_macroMember.bind fun _ => .pure _

omit hg in
theorem carries_itemsToEnd {α : Type} {p p' : Parse α} (hp : Carries .none p p') :
    Carries .none (itemsToEnd p) (itemsToEnd p') :=
  .gather fun _ => .when (Tails.blind_none _) (.pure _) (hp.bind fun _ => .pure _)

theorem carries_members {member : Grammar → Parse Bool}
    (hmember : Carries .none (member g) (member g')) :
    Carries .none (members g member) (members g' member) :=
  .within _ <| (carries_innerAttributes hg).bind fun _ =>
    (carries_itemsToEnd (hmember.verbatimIf _)).discard

/-! ## Items -/

omit hg

theorem carries_useTree {fuel fuel' : Nat} (hle : fuel ≤ fuel') (rootAllowed : Bool) :
    Carries .none (useTree fuel rootAllowed) (useTree fuel' rootAllowed) := by
  induction fuel generalizing fuel' rootAllowed with
  | zero => exact .fails _
  | succ fuel ih =>
    obtain ⟨fuel', rfl⟩ := Nat.exists_eq_add_of_le hle
    have htree := ih (Nat.le_add_right fuel fuel')
    rw [Nat.add_right_comm, useTree, useTree]
    refine (Carries.mark? (Tails.blind_none _)).bind fun _ => .ite (.pure _) <|
      .when (Tails.blind_none _) (Carries.bind (.within _ (.listUntil (.peek (Tails.blind_none _))
        fun _ => .ite ((Carries.mark? (Tails.blind_none _)).bind fun _ => ?_)
          ((Carries.pure _).bind fun _ => ?_))) fun _ => .pure _) <|
      (Carries.identOr _).bind fun _ => (Carries.mark? (Tails.blind_none _)).bind fun _ =>
        .ite (htree _) <| (Carries.word? (Tails.blind_none _)).bind fun _ =>
          .ite ((Carries.identOr _).bind fun _ => .pure _) (.pure _)
    all_goals exact (htree _).bind fun _ => .pure _

theorem carries_useItem : Carries .none useItem useItem := by
  refine (Carries.word _).bind fun _ => (Carries.mark? (Tails.blind_none _)).bind fun _ =>
    .look (fun _ _ _ _ _ => rfl) fun us _ _ _ _ => ?_
  exact ((carries_useTree (Nat.le_refl _) _).bind fun _ => (Carries.mark _).bind fun _ => .pure _) us

include hg

theorem carries_staticItem : Carries .none (staticItem g) (staticItem g') := by
  have ht := Tails.stops_none
  refine (Carries.word _).bind fun _ => (Carries.word? (Tails.blind_none _)).discard.bind fun _ =>
    Carries.ident.discard.bind fun _ => (Carries.mark? (Tails.blind_none _)).bind fun _ => .ite
      ((hg.type ht true).discard.bind fun _ => ?_) ?_
  all_goals
    refine (Carries.mark? (Tails.blind_none _)).bind fun _ => .ite
      ((hg.expr ht true).discard.bind fun _ => ?_) ?_
    all_goals exact .ite (.fails_bind _ _) ((Carries.mark _).bind fun _ => .pure _)

theorem carries_typeItem : Carries .none (typeItem g) (typeItem g') :=
  (carries_typeName hg .before).bind fun ⟨_, _⟩ => .pure _

omit hg in
theorem carries_macroItem : Carries .none macroItem macroItem := by
  refine (carries_plainPath Tails.stops_none).discard.bind fun _ => (Carries.mark _).bind fun _ =>
    .when (Tails.blind_none _) (Carries.anyIdent.discard.bind fun _ => ?_) ?_
  all_goals
    exact Carries.anyGroup.bind fun ⟨_, _⟩ => .ite ((Carries.mark _).bind fun _ => .pure _) (.pure _)

omit hg in
theorem carries_macroRule : Carries .none macroRule macroRule := by
  refine (Carries.word _).bind fun _ => Carries.ident.discard.bind fun _ => .when (Tails.blind_none _)
    ((Carries.groupBody _).discard.bind fun _ => ?_) ?_
  all_goals exact (Carries.groupBody _).discard.bind fun _ => .pure _

theorem fails_addedBound_nil : Fails (addedBound g) [] := Fails.discard (hg.bound_nil false false)

theorem carries_traitItem : Carries .none (traitItem g) (traitItem g') := by
  have ht := Tails.stops_none
  refine (Carries.peek (Tails.blind_none _)).bind fun _ =>
    (Carries.word? (Tails.blind_none _)).discard.bind fun _ =>
      (Carries.word? (Tails.blind_none _)).discard.bind fun _ => (Carries.word _).bind fun _ =>
        Carries.ident.discard.bind fun _ => (carries_parameters hg ht).discard.bind fun _ =>
          .when (Tails.blind_none _) ((Carries.mark _).bind fun _ => ?_) ?_
  · exact (carries_boundsUntil (fun _ => Or.inl rfl) (Tails.blind_none _)
      (hg.bound ht false false).discard (fails_addedBound_nil hg)).discard.bind fun _ =>
        (carries_whereClause hg).discard.bind fun _ => (Carries.mark _).bind fun _ => .pure _
  · exact (carries_optionalBounds (fun _ => Or.inl rfl) (Tails.blind_none _) (Tails.blind_none _)
      (carries_constantBound hg ht) (fails_constantBound_nil hg)).bind fun _ =>
        (carries_whereClause hg).discard.bind fun _ =>
          (carries_members hg (carries_traitMember hg)).bind fun _ => .pure _

theorem carries_implementation (visible : Bool) :
    Carries .none (implementation g visible) (implementation g' visible) := by
  have ht := Tails.stops_none
  refine (Carries.word? (Tails.blind_none _)).discard.bind fun _ =>
    (Carries.word? (Tails.blind_none _)).discard.bind fun _ => (Carries.word _).bind fun _ =>
      .when (Tails.blind_none _) ((carries_parameters hg ht).discard.bind fun _ => ?_) ?_
  all_goals
    refine (Carries.peek (Tails.blind_none _)).bind fun _ => .ite
      ((Carries.mark? (Tails.blind_none _)).discard.bind fun _ => (Carries.word _).bind fun _ => ?_) ?_
    all_goals
      refine (Carries.peek (Tails.blind_none _)).bind fun _ => .ite ((Carries.mark _).bind fun _ => ?_) ?_
      all_goals
        refine (hg.type ht true).bind fun _ => (Carries.word? (Tails.blind_none _)).bind fun _ =>
          .ite ((hg.type ht true).discard.bind fun _ => ?_) (.ite (.fails_bind _ _) ?_)
        all_goals
          exact (carries_whereClause hg).discard.bind fun _ =>
            (carries_members hg (carries_implementationMember hg)).bind fun _ => .pure _

theorem carries_moduleItem : Carries .none (moduleItem g) (moduleItem g') := by
  refine (Carries.word? (Tails.blind_none _)).discard.bind fun _ => (Carries.word _).bind fun _ =>
    (Carries.identOr _).bind fun _ => (Carries.mark? (Tails.blind_none _)).bind fun _ =>
      .ite (Carries.bind (.within _ ?_) fun _ => .pure _) (.pure _)
  refine (carries_innerAttributes hg).bind fun _ => .discard <| carries_itemsToEnd <| .verbatimIf ?_ _
  exact (carries_outerAttributes hg Tails.stops_none).discard.bind fun _ => hg.declaration

omit hg in
theorem carries_externCrate : Carries .none externCrate externCrate := by
  refine (Carries.word _).bind fun _ => (Carries.word _).bind fun _ => (Carries.identOr _).bind fun _ =>
    (Carries.word? (Tails.blind_none _)).bind fun _ => .ite ((Carries.identOr _).bind fun _ => ?_) ?_
  all_goals exact (Carries.mark _).bind fun _ => .pure _

theorem carries_foreignBlock : Carries .none (foreignBlock g) (foreignBlock g') :=
  (Carries.word? (Tails.blind_none _)).discard.bind fun _ =>
    (carries_callingConvention Tails.stops_none).bind fun _ =>
      (carries_members hg (carries_foreignMember hg)).bind fun _ => .pure _

theorem carries_item : Carries .none (item g) (item g') := by
  refine carries_visibility.bind fun visible => (carries_functionFollows false).bind fun _ => .ite
      (carries_function hg) <|
    .when (Tails.blind_none _) carries_externCrate <|
    .when (Tails.blind_none _) (.ite (.fails_bind _ _) (carries_foreignBlock hg)) <|
    .when (Tails.blind_none _) carries_useItem <|
    .when (Tails.blind_none _) (carries_staticItem hg) <|
    .when (Tails.blind_none _) (carries_constant hg true) <|
    .when (Tails.blind_none _) (carries_moduleItem hg) <|
    .when (Tails.blind_none _) (carries_typeItem hg) <|
    .when (Tails.blind_none _) ((carries_typeDeclRest hg []).discard.bind fun _ => .pure _) <|
    .when (Tails.blind_none _) (carries_traitItem hg) <|
    .when (Tails.blind_none _) (carries_implementation hg visible) <|
    .when (Tails.blind_none _) carries_macroRule <|
    (Carries.peek (Tails.blind_none _)).bind fun _ => .ite (.fails _) carries_macroItem

/-! ## Statements -/

omit hg in
theorem carries_macroFollows (test : List Token → Bool) :
    Carries .none (macroFollows test) (macroFollows test) := by
  have htest : Carries .none (plainPath *> peek fun ts => atMark "!" ts && second test ts)
      (plainPath *> peek fun ts => atMark "!" ts && second test ts) :=
    (carries_plainPath Tails.stops_none).seqRight (.peek (Tails.blind_none _))
  exact htest.ahead htest

theorem carries_letStatement : Carries .none (letStatement g) (letStatement g') := by
  have ht := Tails.stops_none
  have hvalue : Carries .none (taken (g.expr true)) (taken (g'.expr true)) := (hg.expr ht true).taken
  refine (Carries.word _).bind fun _ => (hg.pattern ht).discard.bind fun _ =>
    (Carries.mark? (Tails.blind_none _)).bind fun _ => .ite ((hg.type ht true).discard.bind fun _ => ?_) ?_
  all_goals
    refine (Carries.mark? (Tails.blind_none _)).bind fun _ => .ite (hvalue.bind fun ⟨_, tokens⟩ => ?_)
      (.mark _)
    exact .ite ((Carries.word? (Tails.blind_none _)).bind fun _ =>
      .ite ((carries_block hg).bind fun _ => .mark _) (.mark _)) (.mark _)

theorem carries_statement : Carries .none (statement g) (statement g') := by
  refine .verbatimIf ((carries_attributeTokens hg Tails.stops_none).bind fun attributes =>
    (carries_macroFollows _).bind fun _ => .ite ?_ <| .when (Tails.blind_none _)
      ((Carries.write _).bind fun _ => (carries_letStatement hg).bind fun _ => .pure _) <|
    (carries_macroFollows _).bind fun _ => (Carries.peek (Tails.blind_none _)).bind fun _ => .ite
      ((Carries.write _).bind fun _ => hg.declaration.bind fun _ => ?_)
      ((hg.statementExpr.attributed attributes _).bind fun _ =>
        (Carries.mark? (Tails.blind_none _)).bind fun _ => .pure _)) _
  · exact (Carries.write _).bind fun _ => (carries_plainPath Tails.stops_none).discard.bind fun _ =>
      (Carries.mark _).bind fun _ => Carries.anyGroup.discard.bind fun _ =>
        (Carries.mark? (Tails.blind_none _)).discard.bind fun _ => .pure _
  · exact .pure _

theorem carries_statements : Carries .none (statements g) (statements g') :=
  .discard <| .gather fun _ => (Carries.mark? (Tails.blind_none _)).bind fun _ => .ite (.pure _) <|
    .when (Tails.blind_none _) (.pure _) <| (carries_statement hg).bind fun _ =>
      .when (Tails.blind_none _) (.pure _) (.ite (.fails_bind _ _) (.pure _))

end

end PatchStore.Source
