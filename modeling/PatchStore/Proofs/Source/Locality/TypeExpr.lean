import PatchStore.Proofs.Source.Locality.Path

/-!
# Types in front of other tokens

Types are carried over to deeper grammars in front of stops: none of the tests that decide the form of
a type, or whether bounds are added to it, looks for a comma.  The parameters of function types stand
in parentheses, where nothing follows them.

* `carries_typeForm`, `carries_typeExpr` — types are carried over.
-/

namespace PatchStore.Source

open Parse

section

variable {g g' : Grammar} {t : Tails} (hg : g.Deeper g') (ht : t.Stops)

/-! ## Tests -/

theorem stopBlind_path : StopBlind atPath :=
  ((stopBlind_ident.or (stopBlind_anyWord _)).or (stopBlind_mark (m := "::") (by decide))).or
    (stopBlind_mark (m := "<") (by decide))

theorem stopBlind_bang : StopBlind atBang :=
  (stopBlind_mark (m := "!") (by decide)).and (stopBlind_mark (m := "!=") (by decide)).not

theorem stopBlind_builtin : StopBlind atBuiltin :=
  (stopBlind_word _).guarded rfl (stopBlind_mark (m := "#") (by decide))

/-! ## Further bounds -/

include hg ht

theorem carries_furtherBounds (trailing : Bool) :
    Carries t (furtherBounds g trailing) (furtherBounds g' trailing) := by
  have hfollows : StopBlind fun ts =>
      atAnyIdent ts || atMark "::" ts || atMark "?" ts || atLifetime ts || atGroup .paren ts :=
    (((stopBlind_anyIdent.or (stopBlind_mark (m := "::") (by decide))).or
      (stopBlind_mark (m := "?") (by decide))).or stopBlind_lifetime).or (stopBlind_group _)
  refine .discard <| .gather fun _ => (Carries.mark? (ht.mark (by decide))).bind fun _ =>
    .ite (.pure _) <| (Carries.peek (ht.blind hfollows)).bind fun _ => .ite (.pure _) ?_
  exact (hg.bound ht false false).discard.bind fun _ => .pure _

/-! ## Function types -/

omit ht

theorem carries_bareParameter (isFirst : Bool) :
    Carries .none (bareParameter g isFirst) (bareParameter g' isFirst) := by
  have ht := Tails.stops_none
  have hself : Carries .none (word "self" >>= fun _ => pure true)
      (word "self" >>= fun _ => pure true) := (Carries.word "self").bind fun _ => .pure true
  have htype : ∀ mutable : Bool, Carries .none (discard (g.type true) >>= fun _ => pure mutable)
      (discard (g'.type true) >>= fun _ => pure mutable) := fun mutable =>
    (hg.type ht true).discard.bind fun _ => .pure mutable
  unfold bareParameter
  refine .discard <| .verbatimIf ((Carries.peek (Tails.blind_none _)).bind fun mutable =>
    .ite ((Carries.word "mut").bind fun _ => ?_) ?_) id
  all_goals
    refine (Carries.peek (Tails.blind_none _)).bind fun isSelf =>
      (Carries.peek (Tails.blind_none _)).bind fun named =>
        .ite (Carries.anyIdent.discard.bind fun _ => (Carries.mark ":").bind fun _ => ?_) ?_
    all_goals
      exact (Carries.peek (Tails.blind_none _)).bind fun _ =>
        .ite ((Carries.word "mut").bind fun _ => hself) (.ite hself (htype mutable))

theorem carries_bareParameters : Carries .none (bareParameters g) (bareParameters g') := by
  have hcomma : ∀ acc : List Unit, Carries .none (discard (mark? ",") >>= fun _ => pure (acc, true))
      (discard (mark? ",") >>= fun _ => pure (acc, true)) := fun acc =>
    (Carries.mark? (Tails.blind_none _)).discard.bind fun _ => .pure _
  refine .discard <| .gather fun acc => .when (Tails.blind_none _) (.pure _) <|
    (carries_outerAttributes hg Tails.stops_none).discard.bind fun _ =>
      .when (Tails.blind_none _) ?_ ?_
  · exact (Carries.mark? (Tails.blind_none _)).bind fun _ => .ite
      (Carries.anyIdent.discard.bind fun _ => (Carries.mark ":").bind fun _ =>
        (Carries.mark "...").bind fun _ => hcomma acc) (hcomma acc)
  · exact (carries_bareParameter hg acc.isEmpty).bind fun _ => .when (Tails.blind_none _) (.pure _) <|
      (Carries.mark ",").bind fun _ => .pure _

include ht

omit hg in
theorem carries_callingConvention : Carries t callingConvention callingConvention := by
  refine (Carries.word? (ht.word "extern")).bind fun _ => .ite (.discard ?_) (.pure _)
  refine Carries.stringLiteral.attempt fun ts written leftover hrun => ?_
  cases ts with
  | nil =>
    obtain h | ⟨joint, rest, h⟩ := ht.there.cases
    · rw [h]
      exact fun _ _ => rfl
    · rw [h]
      exact fun _ _ => rfl
  | cons tok ts =>
    obtain ⟨r, hr⟩ := Carries.takesOne_stringLiteral.cons tok
    rw [List.cons_append, hr, Option.map_eq_none_iff] at hrun
    intro written leftover
    rw [List.cons_append, hr, hrun]
    rfl

theorem carries_bareFunction : Carries t (bareFunction g) (bareFunction g') :=
  (Carries.word? (ht.word "unsafe")).discard.bind fun _ =>
    (carries_callingConvention ht).bind fun _ => (Carries.word "fn").bind fun _ =>
      (Carries.within _ (carries_bareParameters hg)).bind fun _ => carries_resultType hg ht false

/-! ## Types between parentheses -/

theorem carries_enclosedType (plus : Bool) :
    Carries t (enclosedType g plus) (enclosedType g' plus) := by
  have hplus : t.Blind (atMark "+") := ht.mark (by decide)
  have hnone := Tails.stops_none
  unfold enclosedType
  refine Carries.bind (.captured (.within _ ?_)) fun ⟨first, tokens⟩ => ?_
  · refine (hg.type hnone true).bind fun first => (Carries.mark? (Tails.blind_none _)).bind fun _ =>
      .ite (.pure _) ?_
    exact (Carries.listUntil (.peek (Tails.blind_none _)) fun _ =>
      hg.type hnone true).discard.bind fun _ => .pure _
  · have hbounds : Carries t (furtherBounds g false >>= fun _ => pure (TypeForm.bounds false))
        (furtherBounds g' false >>= fun _ => pure (TypeForm.bounds false)) :=
      (carries_furtherBounds hg ht false).bind fun _ => .pure _
    rcases first with _ | ⟨form, inner⟩
    · exact (Carries.write tokens).bind fun _ => .pure _
    · refine (Carries.peek hplus).bind fun _ => .ite ((Carries.write tokens).bind fun _ => .pure _) ?_
      dsimp only
      split
      all_goals exact (Carries.write _).bind fun _ => hbounds

theorem carries_parenthesizedType (plus : Bool) :
    Carries t (parenthesizedType g plus) (parenthesizedType g' plus) := by
  have hnone := Tails.stops_none
  unfold parenthesizedType
  refine .when (ht.blind (stopBlind_inside _)) ((Carries.groupBody _).discard.bind fun _ => .pure _) <|
    .when (ht.blind (stopBlind_inside _))
      ((Carries.within _ (carries_traitBounds hg hnone true false false)).bind fun _ => .pure _) <|
    .when (ht.blind (stopBlind_inside _)) ?_ (carries_enclosedType hg ht plus)
  exact (Carries.within _ (carries_traitBound hg hnone false)).discard.bind fun _ =>
    (Carries.peek (ht.blind (stopBlind_mark (m := "+") (by decide)).not)).bind fun _ =>
      (carries_furtherBounds hg ht false).bind fun _ => .pure _

/-! ## Types that begin with a path -/

theorem carries_pathType (plus bounded : Bool) (binder : List Token) :
    Carries t (pathType g plus bounded binder) (pathType g' plus bounded binder) := by
  unfold pathType
  refine (carries_path hg ht false).captured.bind fun ⟨p, tokens⟩ => ?_
  have hmacro : StopBlind fun ts => atBang ts && !p.qualified && p.isPlain :=
    (stopBlind_bang.and (StopBlind.const _)).and (StopBlind.const _)
  have hmore : StopBlind fun ts => plus && !p.qualified && atMark "+" ts :=
    ((StopBlind.const _).and (StopBlind.const _)).and (stopBlind_mark (by decide))
  refine .when (ht.blind hmacro) ?_ <| (Carries.write _).bind fun _ =>
    (Carries.peek (ht.blind hmore)).bind fun _ => .ite (.pure _) <|
      .ite ((carries_furtherBounds hg ht true).bind fun _ => .pure _) (.pure _)
  exact (Carries.write tokens).bind fun _ => (Carries.mark "!").bind fun _ =>
    Carries.anyGroup.discard.bind fun _ => .pure _

/-! ## All types -/

omit hg ht in
theorem carries_builtinForm : Carries t builtinForm builtinForm :=
  (Carries.word "builtin").bind fun _ => (Carries.mark "#").bind fun _ =>
    Carries.ident.discard.bind fun _ => (Carries.groupBody .paren).discard

theorem carries_typeForm (plus : Bool) : Carries t (typeForm g plus) (typeForm g' plus) := by
  have hnone := Tails.stops_none
  have hnamed : StopBlind fun ts => atPathName ts || atAnyWord ["fn", "unsafe", "extern"] ts :=
    (stopBlind_ident.or (stopBlind_anyWord _)).or (stopBlind_anyWord _)
  have hsequence : Carries .none
      (do
        discard (g.type true)
        if !(← mark? ";") then return TypeForm.slice
        discard (g.expr true)
        return TypeForm.array)
      (do
        discard (g'.type true)
        if !(← mark? ";") then return TypeForm.slice
        discard (g'.expr true)
        return TypeForm.array) :=
    (hg.type hnone true).discard.bind fun _ => (Carries.mark? (Tails.blind_none _)).bind fun _ =>
      .ite (.pure _) ((hg.expr hnone true).discard.bind fun _ => .pure _)
  have hpointer : Carries t (discard (g.type false) >>= fun _ => pure TypeForm.other)
      (discard (g'.type false) >>= fun _ => pure TypeForm.other) :=
    (hg.type ht false).discard.bind fun _ => .pure _
  unfold typeForm
  refine (carries_binder? hg ht).captured.bind fun ⟨bounded, binder⟩ =>
    .ite (.whenNot (ht.blind hnamed) (.fails_bind _ _) ?_) ?_
  all_goals
    refine .when (ht.group _) (carries_parenthesizedType hg ht plus) <| .when (ht.anyWord _) ?_ <|
      .when (ht.blind stopBlind_builtin) (carries_builtinForm.bind fun _ => .pure _) <|
      .when (ht.blind stopBlind_path) (carries_pathType hg ht plus bounded binder) <|
      (Carries.word? (ht.word "dyn")).bind fun _ => .ite ?_ <|
      .when (ht.group _) (.within _ hsequence) <|
      (Carries.mark? (ht.mark (by decide))).bind fun _ => .ite ?_ <|
      (Carries.mark? (ht.mark (by decide))).bind fun _ => .ite ?_ <|
      (Carries.mark? (ht.mark (by decide))).bind fun _ => .ite (.pure _) <|
      (Carries.word? (ht.word "impl")).bind fun _ => .ite ?_ <|
      (Carries.word? (ht.word "_")).bind fun _ => .ite (.pure _) <|
      .when ht.lifetime ((carries_traitBounds hg ht true false false).bind fun _ => .pure _)
        (.fails _)
    · exact (Carries.write binder).bind fun _ => (carries_bareFunction hg ht).bind fun _ => .pure _
    · exact (Carries.mark? (ht.mark (by decide))).bind fun _ =>
        (carries_traitBounds hg ht plus false false).bind fun _ => .pure _
    · exact (Carries.word? (ht.word "const")).bind fun _ =>
        .ite ((Carries.word "mut").bind fun _ => hpointer) hpointer
    · exact (Carries.lifetime? ht.lifetime).bind fun _ => (Carries.word? (ht.word "mut")).discard.bind
        fun _ => (hg.type ht false).bind fun _ => .pure _
    · exact (carries_traitBounds hg ht plus true true).bind fun _ => .pure _

theorem carries_typeExpr (plus : Bool) : Carries t (typeExpr g plus) (typeExpr g' plus) :=
  ((carries_typeForm hg ht plus).verbatimIf _).captured.bind fun ⟨_, tokens⟩ =>
    (Carries.write tokens).bind fun _ => .pure _

omit hg ht in
/-- No type begins with a colon or a point, if that is no part of a separator. -/
theorem fails_type_mark (g : Grammar) (plus : Bool) {m : Char} (joint : Bool) {us : List Token}
    (hm : m = ':' ∨ m = '.') (h : atMark "::" (.punct m joint :: us) = false) :
    Fails (typeExpr g plus) (.punct m joint :: us) := by
  have hbinder : Goes (binder? g) (.punct m joint :: us) false (.punct m joint :: us) [] false :=
    fun written leftover => by
      rw [Bool.or_false]
      rfl
  have hpath : atPath (.punct m joint :: us) = false := by
    rw [atPath, h]
    rcases hm with rfl | rfl <;> rfl
  have hform : Fails (typeForm g plus) (.punct m joint :: us) := by
    refine .of_goes hbinder.captured ?_
    rcases hm with rfl | rfl
    all_goals
      exact .otherwise rfl <| .otherwise rfl <| .otherwise rfl <| .otherwise hpath <| .otherWord rfl <|
        .otherwise rfl <| .otherMark rfl <| .otherMark rfl <| .otherMark rfl <| .otherWord rfl <|
        .otherWord rfl <| .otherwise (atLifetime_punct _ _ _) fun _ _ => rfl
  exact Fails.bind (Fails.captured (.verbatimIf hform _)) _

end

end PatchStore.Source
