import PatchStore.Proofs.Source.Locality.Operator

/-!
# Expressions in front of other tokens

Expressions are carried over to deeper grammars in front of stops.  The one test that tells stops apart
is the test for parameters after the word `for`; but where it does, a loop would have to begin, and
there is no pattern for one.

* `second_atParameters_or_unclosed` — where the test for parameters tells stops apart.
* `fails_labeled`, `fails_atom` — there nothing is read.
* `carries_atom`, `carries_operand`, `carries_expr` — expressions are carried over.
-/

namespace PatchStore.Source

open Parse

section

variable {g g' : Grammar} {t : Tails} (hg : g.Deeper g') (ht : t.Stops)

/-! ## Trailers -/

include hg

theorem carries_expressionList :
    Carries .none (commaList (g.expr true)) (commaList (g'.expr true)) :=
  .listUntil (.peek (Tails.blind_none _)) fun _ => hg.expr Tails.stops_none true

include ht

theorem carries_memberAccess (base : Expr) :
    Carries t (memberAccess g base) (memberAccess g' base) := by
  unfold memberAccess
  refine (Carries.word? (ht.word "await")).bind fun _ => .ite (.pure _) <|
    .whenNot ht.ident (Carries.position.bind fun _ => .pure _) <| Carries.ident.bind fun name =>
      (Carries.mark? (ht.mark (by decide))).bind fun turbofish =>
        .ite ((carries_genericArguments hg ht).discard.bind fun _ => ?_) ?_
  all_goals
    exact (Carries.peek (ht.group _)).bind fun _ => .ite
      ((Carries.within _ (carries_expressionList hg)).discard.bind fun _ => .pure _) (.pure _)

theorem carries_accesses (base : Expr) : Carries t (accesses g base) (accesses g' base) := by
  intro us
  refine .look (fun ts _ _ _ _ hts => ?_) fun _ _ _ _ => ?_
  · subst hts
    cases ts with
    | nil =>
      obtain h | ⟨joint, rest, h⟩ := ht.here.cases
      all_goals
        obtain h' | ⟨joint', rest', h'⟩ := ht.there.cases
        all_goals
          simp only [h, h', List.nil_append]
    | cons tok ts =>
      cases tok with
      | literal l =>
        obtain ⟨kind, spelling⟩ := l
        cases kind <;> rfl
      | _ => rfl
  · dsimp only
    split
    · split
      · rename_i indices trailing _
        have hwrite : ∀ entry : Nat × Bool, Carries t
            (write [positionToken entry.1] >>= fun _ =>
              if entry.2 = true then write (Token.ofMark ".") else pure ())
            (write [positionToken entry.1] >>= fun _ =>
              if entry.2 = true then write (Token.ofMark ".") else pure ()) := fun entry =>
          (Carries.write _).bind fun _ => .ite (.write _) (.pure _)
        refine (CarriesFrom.taking (Nat.succ_le_succ (Nat.zero_le _))).unwritten.bind
          fun _ _ _ c _ => ?_
        exact ((Carries.forM hwrite).bind fun _ =>
          .ite (carries_memberAccess hg ht _) (.pure _)) c.rest
      · exact .of_fails fun _ _ => rfl
    · exact carries_memberAccess hg ht base us

theorem carries_trailers_loop {fuel fuel' : Nat} (hle : fuel ≤ fuel') (e : Expr) :
    Carries t (trailers.loop g fuel e) (trailers.loop g' fuel' e) := by
  induction fuel generalizing fuel' e with
  | zero => exact .fails _
  | succ fuel ih =>
    obtain ⟨fuel', rfl⟩ := Nat.exists_eq_add_of_le hle
    have hloop := ih (Nat.le_add_right fuel fuel')
    rw [Nat.add_right_comm, trailers.loop, trailers.loop]
    intro us
    refine .look (fun ts _ _ _ _ hts => ?_) fun _ _ _ _ => ?_
    · subst hts
      have hquestion : t.Blind (atMark "?") := ht.mark (by decide)
      dsimp only
      rw [ht.group _ ts, ht.blind stopBlind_point ts, ht.group _ ts, hquestion ts]
    · refine (Carries.ite ?_ <| .ite ?_ <| .ite ?_ <| .ite ?_ (.pure e)) us
      · exact (Carries.within _ (carries_expressionList hg)).discard.bind fun _ => hloop _
      · exact (Carries.mark ".").bind fun _ => (carries_accesses hg ht e).bind fun _ => hloop _
      · exact (Carries.within _ (hg.expr Tails.stops_none true)).discard.bind fun _ => hloop _
      · exact (Carries.mark "?").bind fun _ => hloop _

theorem carries_trailers (atom : Expr) : Carries t (trailers g atom) (trailers g' atom) :=
  .remaining fun _ _ hle => carries_trailers_loop hg ht (Nat.succ_le_succ hle) atom

/-! ## Paths, lists and structs -/

omit ht

theorem carries_fieldValue : Carries .none (fieldValue g) (fieldValue g') := by
  have hnone := Tails.stops_none
  have hvalue : Carries .none (mark ":" >>= fun _ => discard (g.expr true))
      (mark ":" >>= fun _ => discard (g'.expr true)) :=
    (Carries.mark ":").bind fun _ => (hg.expr hnone true).discard
  unfold fieldValue
  refine (carries_outerAttributes hg hnone).discard.bind fun _ =>
    (Carries.peek (Tails.blind_none _)).bind fun named =>
      .ite (Carries.ident.discard.bind fun _ => ?_) (Carries.position.discard.bind fun _ => ?_)
  all_goals exact (Carries.peek (Tails.blind_none _)).bind fun _ => .ite hvalue (.pure _)

theorem carries_structBody : Carries .none (structBody g) (structBody g') := by
  have hnone := Tails.stops_none
  refine .discard <| .listUntil (.peek (Tails.blind_none _)) fun _ =>
    (Carries.mark? (Tails.blind_none _)).bind fun _ => .ite ?_ (carries_fieldValue hg)
  exact .whenNot (Tails.blind_none _) ((hg.expr hnone true).discard.bind fun _ =>
    .whenNot (Tails.blind_none _) (.fails _) (.pure _)) (.pure _)

theorem carries_parenExpr : Carries t (parenExpr g) (parenExpr g') := by
  have hnone := Tails.stops_none
  exact .within _ <| .when (Tails.blind_none _) (.pure _) <| (hg.expr hnone true).bind fun _ =>
    .when (Tails.blind_none _) (.pure _) <| (Carries.mark ",").bind fun _ =>
      (carries_expressionList hg).discard.bind fun _ => .pure _

theorem carries_arrayExpr : Carries t (arrayExpr g) (arrayExpr g') := by
  have hnone := Tails.stops_none
  refine .within _ <| .when (Tails.blind_none _) (.pure _) <| (hg.expr hnone true).discard.bind
    fun _ => (Carries.mark? (Tails.blind_none _)).bind fun _ => .ite ?_ ?_
  · exact (hg.expr hnone true).discard.bind fun _ => .pure _
  · exact .whenNot (Tails.blind_none _) ((Carries.mark ",").bind fun _ =>
      (carries_expressionList hg).discard.bind fun _ => .pure _) (.pure _)

include ht

theorem carries_pathExpr (struct : Bool) : Carries t (pathExpr g struct) (pathExpr g' struct) := by
  unfold pathExpr
  refine (carries_path hg ht true).bind fun p => (carries_macroCall? ht p).bind fun call => ?_
  cases call with
  | some d => exact .pure _
  | none =>
    exact (Carries.peek (ht.group _)).bind fun _ => .ite
      ((Carries.within _ (carries_structBody hg)).bind fun _ => .pure _) (.pure _)

/-! ## Closures -/

theorem carries_closureParameter : Carries t (closureParameter g) (closureParameter g') := by
  refine (carries_attributeTokens hg ht).bind fun attributes =>
    .attributed ((hg.pattern ht).bind fun p => ?_) attributes Pattern.attribution
  exact (Carries.mark? (ht.mark (by decide))).bind fun typed => .ite (.pure _) <|
    (hg.type ht true).discard.bind fun _ => .pure _

theorem carries_closure (struct : Bool) : Carries t (closure g struct) (closure g' struct) := by
  unfold closure
  refine (carries_binder? hg ht).discard.bind fun _ => Carries.bind
    (.forIn (fun w _ => (Carries.word? (ht.word w)).discard.bind fun _ => .pure _) _) fun _ =>
      (Carries.mark "|").bind fun _ => .bind
        (.listUntil (.peek (ht.mark (by decide))) fun _ => carries_closureParameter hg ht)
        fun _ => (Carries.mark "|").bind fun _ => (Carries.mark? (ht.mark (by decide))).bind fun _ =>
          .ite ?_ ?_
  · exact (hg.type ht true).discard.bind fun _ => (carries_block hg).bind fun _ => .pure _
  · exact (hg.expr ht struct).bind fun _ => .pure _

/-! ## Jumps and block-like forms -/

omit hg ht

theorem stopBlind_expr : StopBlind atExpr := by
  have hmark : ∀ m : String, ',' ∉ m.toList → StopBlind (atMark m) := fun _ => stopBlind_mark
  have hless : StopBlind fun ts => atMark "<" ts && !atMark "<=" ts && !atMark "<<=" ts :=
    ((hmark "<" (by decide)).and (hmark "<=" (by decide)).not).and (hmark "<<=" (by decide)).not
  have hminus : StopBlind fun ts => atMark "-" ts && !atMark "-=" ts && !atMark "->" ts :=
    ((hmark "-" (by decide)).and (hmark "-=" (by decide)).not).and (hmark "->" (by decide)).not
  have hsign : ∀ m m' : String, ',' ∉ m.toList → ',' ∉ m'.toList →
      StopBlind fun ts => atMark m ts && !atMark m' ts := fun m m' h h' =>
    (hmark m h).and (hmark m' h').not
  exact ((((((((((((((stopBlind_anyIdent.and (stopBlind_word "as").not).or (stopBlind_group _)).or
    (stopBlind_group _)).or (stopBlind_group _)).or stopBlind_literal).or stopBlind_bang).or
    hminus).or (hsign "*" "*=" (by decide) (by decide))).or
    (hsign "|" "|=" (by decide) (by decide))).or (hsign "&" "&=" (by decide) (by decide))).or
    (hmark ".." (by decide))).or hless).or (hmark "::" (by decide))).or stopBlind_lifetime).or
    (hmark "#" (by decide))

include hg ht

theorem carries_breakTail (struct : Bool) :
    Carries t (breakTail g struct) (breakTail g' struct) := by
  have hlabel : StopBlind fun ts => atLifetime ts && second (atMark ":") ts :=
    stopBlind_lifetime.guarded rfl (stopBlind_mark (m := ":") (by decide))
  have hvalue : StopBlind fun ts => atExpr ts && (struct || !atGroup .brace ts) :=
    stopBlind_expr.and ((StopBlind.const _).or (stopBlind_group _).not)
  exact .when (ht.blind hlabel) (.fails_bind _ _) <| (Carries.lifetime? ht.lifetime).bind fun _ =>
    .when (ht.blind hvalue) (hg.expr ht true).discard (.pure _)

theorem carries_conditional_loop {fuel fuel' : Nat} (hle : fuel ≤ fuel') :
    Carries t (conditional.loop g fuel) (conditional.loop g' fuel') := by
  induction fuel generalizing fuel' with
  | zero => exact .fails _
  | succ fuel ih =>
    obtain ⟨fuel', rfl⟩ := Nat.exists_eq_add_of_le hle
    rw [Nat.add_right_comm, conditional.loop, conditional.loop]
    exact (Carries.word "if").bind fun _ => (hg.expr ht false).discard.bind fun _ =>
      (carries_block hg).bind fun _ => (Carries.word? (ht.word "else")).bind fun _ => .ite
        (.when (ht.word "if") (ih (Nat.le_add_right fuel fuel')) (carries_block hg)) (.pure _)

theorem carries_conditional : Carries t (conditional g) (conditional g') :=
  .remaining fun _ _ hle => carries_conditional_loop hg ht (Nat.succ_le_succ hle)

omit ht

theorem carries_matchArm : Carries .none (matchArm g) (matchArm g') := by
  have hnone := Tails.stops_none
  unfold matchArm
  refine (carries_outerAttributes hg hnone).discard.bind fun _ =>
    (carries_alternatives hg hnone).discard.bind fun _ =>
      (Carries.word? (Tails.blind_none _)).bind fun _ => .ite
        ((hg.expr hnone true).discard.bind fun _ => ?_) ?_
  all_goals
    exact (Carries.mark "=>").bind fun _ => hg.statementExpr.bind fun body =>
      (Carries.peek (Tails.blind_none _)).bind fun _ =>
        .ite (.mark ",") (Carries.mark? (Tails.blind_none _)).discard

theorem carries_matchBody : Carries t (matchBody g) (matchBody g') := by
  refine .within _ <| (carries_innerAttributes hg).bind fun _ => .discard <| .gather fun _ => ?_
  exact .when (Tails.blind_none _) (.pure _) ((carries_matchArm hg).bind fun _ => .pure _)

include ht

theorem carries_labeled : Carries t (labeled g) (labeled g') := by
  have hbody := carries_attributedBlock (t := t) hg
  refine (Carries.word? (ht.word "while")).bind fun _ =>
    .ite ((hg.expr ht false).discard.bind fun _ => hbody) <|
      (Carries.word? (ht.word "for")).bind fun _ =>
        .ite ?_ ((Carries.word? (ht.word "loop")).discard.bind fun _ => hbody)
  exact (carries_alternatives hg ht).discard.bind fun _ => (Carries.word "in").bind fun _ =>
    (hg.expr ht false).discard.bind fun _ => hbody

/-! ## Parameters and conditions -/

omit hg

omit ht in
/-- What the test for parameters looks at after an angle bracket. -/
theorem atParameters_angle (joint : Bool) (us : List Token) :
    atParameters (.punct '<' joint :: us) =
      ((atMark ">" us || atMark "#" us || atWord "const" us) || ((atLifetime us || atIdent us) &&
        (atMark "," (skipTree us) || (atMark ">" (skipTree us) || atColon (skipTree us) ||
          atMark "=" (skipTree us))))) := by
  have hskip : skipTree (.punct '<' joint :: us) = us := by
    unfold skipTree
    split
    all_goals
      rename_i heq
      cases heq
    rfl
  rw [atParameters, second, second, third, hskip]
  show (true && _) = _
  rw [Bool.true_and]
  congr 2
  ac_rfl

/-- After the angle bracket the test tells stops apart only where too few tokens follow. -/
theorem atParameters_angle_or_short (joint : Bool) (ts : List Token) :
    atParameters (.punct '<' joint :: (ts ++ t.here)) =
        atParameters (.punct '<' joint :: (ts ++ t.there)) ∨
      atParameters (.punct '<' joint :: (ts ++ t.here)) = false ∧ (ts ++ t.here).length ≤ 2 := by
  have hfirst : StopBlind fun ts => atMark ">" ts || atMark "#" ts || atWord "const" ts :=
    ((stopBlind_mark (m := ">") (by decide)).or (stopBlind_mark (m := "#") (by decide))).or
      (stopBlind_word _)
  have hname : StopBlind fun ts => atLifetime ts || atIdent ts := stopBlind_lifetime.or stopBlind_ident
  have hmore : StopBlind fun ts => atMark ">" ts || atColon ts || atMark "=" ts :=
    ((stopBlind_mark (m := ">") (by decide)).or stopBlind_colon).or
      (stopBlind_mark (m := "=") (by decide))
  have hopen := ht.blind hfirst ts
  have hnamed := ht.blind hname ts
  rw [atParameters_angle, atParameters_angle, hopen, hnamed]
  cases ts with
  | nil =>
    have hnone : ∀ s, IsStop s → (atLifetime s || atIdent s) = false := by
      intro s hs
      obtain h | ⟨joint, rest, h⟩ := hs.cases
      all_goals
        rw [h]
        rfl
    left
    rw [List.nil_append, List.nil_append, hnone _ ht.there, Bool.false_and, Bool.false_and]
  | cons tok ts =>
    rw [List.cons_append, List.cons_append, skipTree_append ht.here, skipTree_append ht.there]
    rcases ends_at_comma ht hmore rfl (skipTree (tok :: ts)) with h | ⟨hempty, h⟩
    · exact Or.inl (by rw [h])
    · obtain ⟨htree, hhere⟩ := List.append_eq_nil_iff.mp hempty
      rw [hempty, h, Bool.and_false, Bool.or_false]
      by_cases hclosed : (atMark ">" (tok :: (ts ++ t.there)) ||
          atMark "#" (tok :: (ts ++ t.there)) || atWord "const" (tok :: (ts ++ t.there))) = true
      · exact Or.inl (by rw [hclosed, Bool.true_or])
      · refine Or.inr ⟨Bool.eq_false_iff.mpr hclosed, ?_⟩
        rw [hhere, List.append_nil]
        exact length_le_of_skipTree htree

/-- The test for parameters tells stops apart only where too few tokens follow the angle bracket for
a path that starts inside a type. -/
theorem atParameters_or_unclosed (ts : List Token) :
    atParameters (ts ++ t.here) = atParameters (ts ++ t.there) ∨
      atParameters (ts ++ t.here) = false ∧
        ∃ joint us, us.length ≤ 2 ∧ ts ++ t.here = .punct '<' joint :: us := by
  by_cases hangle : atMark "<" (ts ++ t.here) = true
  · obtain ⟨joint, us, hus⟩ := eq_of_atMarks hangle
    obtain ⟨ts, rfl⟩ := ht.exists_cons hus fun _ h => by cases h
    rcases atParameters_angle_or_short ht joint ts with h | ⟨h, hlength⟩
    · exact Or.inl h
    · exact Or.inr ⟨h, joint, _, hlength, rfl⟩
  · left
    rw [atParameters, atParameters, ← ht.mark (m := "<") (by decide) ts, Bool.eq_false_iff.mpr hangle]
    rfl

omit ht

/-- The word `for` before an angle bracket that opens neither parameters nor a pattern. -/
def Unclosed (us : List Token) : Prop :=
  second atParameters us = false ∧
    ∃ joint vs, vs.length ≤ 2 ∧ us = .ident ⟨"for", false⟩ :: .punct '<' joint :: vs

include ht

theorem second_atParameters_or_unclosed (ts : List Token) :
    (atWord "for" (ts ++ t.here) && second atParameters (ts ++ t.here)) =
      (atWord "for" (ts ++ t.there) && second atParameters (ts ++ t.there)) ∨
        Unclosed (ts ++ t.here) := by
  by_cases hfor : atWord "for" (ts ++ t.here) = true
  · obtain ⟨us, hus⟩ := eq_of_atWord hfor
    obtain ⟨ts, rfl⟩ := ht.exists_cons hus fun _ h => by cases h
    rcases atParameters_or_unclosed ht ts with h | ⟨h, joint, us, hlength, hangle⟩
    · exact Or.inl h
    · exact Or.inr ⟨h, joint, us, hlength, congrArg (Token.ident _ :: ·) hangle⟩
  · left
    rw [← ht.word "for" ts, Bool.eq_false_iff.mpr hfor]
    rfl

/-! ## Block-like forms -/

include hg

omit ht in
theorem fails_labeled {us : List Token} (h : Unclosed us) : Fails (labeled g) us := by
  obtain ⟨-, joint, vs, hlength, rfl⟩ := h
  have hpattern : Fails (alternatives g) (.punct '<' joint :: vs) :=
    .of_goes (Goes.mark?_of_false rfl) ((hg.pattern_unclosed joint vs hlength).bind _)
  exact .otherWord rfl (.of_goes (Goes.word? rfl) (hpattern.discard.bind _))

omit ht in
theorem fails_blockLike? {us : List Token} (h : Unclosed us) : Fails (blockLike? g) us := by
  refine .otherwise ?_ (.when ?_ ((fails_labeled hg h).bind _))
  · obtain ⟨-, joint, vs, -, rfl⟩ := h
    rfl
  · obtain ⟨hparameters, joint, vs, -, rfl⟩ := h
    rw [atLoop, hparameters]
    rfl

omit hg in
theorem atLoop_of_closed {us : List Token} (h : ¬Unclosed us) (ts : List Token)
    (hts : us = ts ++ t.here) : atLoop us = atLoop (ts ++ t.there) := by
  subst hts
  have hparameters := (second_atParameters_or_unclosed ht ts).resolve_right h
  rw [atLoop, atLoop, ht.anyWord _ ts, ht.word "for" ts]
  rw [ht.word "for" ts] at hparameters
  cases hfor : atWord "for" (ts ++ t.there) with
  | false => rfl
  | true =>
    rw [hfor, Bool.true_and, Bool.true_and] at hparameters
    rw [hparameters]

theorem carries_blockLike? : Carries t (blockLike? g) (blockLike? g') := by
  intro us
  by_cases hunclosed : Unclosed us
  · exact .of_fails (fails_blockLike? hg hunclosed)
  · have htry : StopBlind fun ts => atWord "try" ts && second (atGroup .brace) ts :=
      (stopBlind_word _).guarded rfl (stopBlind_group _)
    have hconst : StopBlind fun ts => atWord "const" ts && second (atGroup .brace) ts :=
      (stopBlind_word _).guarded rfl (stopBlind_group _)
    refine .when (fun ts hts => hts ▸ ht.word _ ts)
      (((carries_conditional hg ht).bind fun _ => .pure _) us) <|
      .when (atLoop_of_closed ht hunclosed) (((carries_labeled hg ht).bind fun _ => .pure _) us) <|
      Carries.bind (Carries.word? (ht.word "match")) (fun _ => ?_) us
    refine .ite ((hg.expr ht false).discard.bind fun _ => (carries_matchBody hg).bind fun _ =>
      .pure _) <| .when (ht.blind htry) ?_ <| (Carries.word? (ht.word "unsafe")).bind fun _ => .ite
        ((carries_attributedBlock hg).bind fun _ => .pure _) <| .when (ht.blind hconst) ?_ <|
          .when (ht.group _) ((carries_attributedBlock hg).bind fun _ => .pure _) <|
            .when ht.lifetime ?_ (.pure _)
    · exact (Carries.word _).bind fun _ => (carries_block hg).bind fun _ => .pure _
    · exact (Carries.word _).bind fun _ => (carries_attributedBlock hg).bind fun _ => .pure _
    · exact Carries.lifetime.bind fun _ => (Carries.mark _).bind fun _ =>
        (carries_labeled hg ht).bind fun _ => .pure _

/-! ## Operands -/

omit hg ht

theorem stopBlind_asyncBlock : StopBlind atAsyncBlock :=
  (stopBlind_word _).guarded rfl
    ((stopBlind_group _).or ((stopBlind_word _).guarded rfl (stopBlind_group _)))

theorem stopBlind_pathExpr : StopBlind atPathExpr :=
  stopBlind_path.or ((stopBlind_word _).guarded rfl
    ((stopBlind_mark (m := "!") (by decide)).or (stopBlind_mark (m := "::") (by decide))))

include hg ht

omit ht in
theorem fails_atom (struct : Bool) {us : List Token} (h : Unclosed us) :
    Fails (atom g struct) us := by
  have hblock := (fails_blockLike? hg h).bind fun blockLike =>
    if blockLike = true then pure (Expr.other .blockLike) else failure
  obtain ⟨hparameters, joint, vs, -, rfl⟩ := h
  have hclosure : atClosure (.ident ⟨"for", false⟩ :: .punct '<' joint :: vs) = false := by
    rw [atClosure, hparameters]
    rfl
  exact .otherwise rfl <| .otherwise rfl <| .otherwise hclosure <| .otherwise rfl <| .otherwise rfl <|
    .otherwise rfl <| .otherWord rfl <| .otherWord rfl <| .otherwise rfl <| .otherWord rfl <|
      .otherwise rfl <| .otherWord rfl <| .otherwise rfl <| .otherWord rfl hblock

omit hg in
theorem atClosure_of_closed {us : List Token} (h : ¬Unclosed us) (ts : List Token)
    (hts : us = ts ++ t.here) : atClosure us = atClosure (ts ++ t.there) := by
  subst hts
  have hconst : StopBlind fun ts => atWord "const" ts && !second (atGroup .brace) ts :=
    (stopBlind_word _).guarded rfl (stopBlind_group _).not
  have hasync : StopBlind fun ts =>
      atWord "async" ts && second (fun ts => atMark "|" ts || atWord "move" ts) ts :=
    (stopBlind_word _).guarded rfl ((stopBlind_mark (m := "|") (by decide)).or (stopBlind_word _))
  have hbar : t.Blind (atMark "|") := ht.mark (by decide)
  have hconst := ht.blind hconst ts
  have hasync := ht.blind hasync ts
  rw [atClosure, atClosure, hbar ts, ht.word "move" ts, ht.word "static" ts, hconst, hasync,
    (second_atParameters_or_unclosed ht ts).resolve_right h]

theorem carries_atom (struct : Bool) : Carries t (atom g struct) (atom g' struct) := by
  intro us
  by_cases hunclosed : Unclosed us
  · exact .of_fails (fails_atom hg struct hunclosed)
  have hplain : ∀ e : Expr, Carries t (pure e) (pure e) := fun _ => .pure _
  refine .when (fun ts hts => hts ▸ ht.literal ts) ((ht.carries_literal.bind fun _ => .pure _) us) <|
    .when (fun ts hts => hts ▸ ht.blind stopBlind_asyncBlock ts) (Carries.bind (.word _) ?_ us) <|
    .when (atClosure_of_closed ht hunclosed) (carries_closure hg ht struct us) <| Carries.when
      (ht.blind stopBlind_builtin) (carries_builtinForm.bind fun _ => .pure _) (.when
      (ht.blind stopBlind_pathExpr) (carries_pathExpr hg ht struct) <|
    .when (ht.group _) (carries_parenExpr hg) <| (Carries.word? (ht.word "break")).bind fun _ => .ite
      ((carries_breakTail hg ht struct).bind fun _ => .pure _) <|
    (Carries.word? (ht.word "continue")).bind fun _ => .ite
      ((Carries.lifetime? ht.lifetime).bind fun _ => .pure _) <| .when (ht.anyWord _) ?_ <|
    (Carries.word? (ht.word "become")).bind fun _ => .ite
      ((hg.expr ht true).discard.bind fun _ => .pure _) <|
    .when (ht.group _) (carries_arrayExpr hg) <|
    (Carries.word? (ht.word "let")).bind fun _ => .ite ?_ <|
    .when (ht.mark (by decide)) ((carries_rangeTail hg ht struct).bind fun _ => .pure _) <|
    (Carries.word? (ht.word "_")).bind fun _ => .ite (.pure _) <|
    (carries_blockLike? hg ht).bind fun _ => .ite (.pure _) (.fails _)) us
  · exact fun _ => (Carries.word? (ht.word _)).discard.bind fun _ => (carries_block hg).bind fun _ =>
      .pure _
  · exact Carries.anyIdent.discard.bind fun _ => .when (ht.blind stopBlind_expr)
      ((hg.expr ht true).discard.bind fun _ => .pure _) (.pure _)
  · exact (carries_alternatives hg ht).discard.bind fun _ => (Carries.mark _).bind fun _ =>
      (hg.operand ht struct).bind fun e => (hg.operators ht struct .compare e).discard.bind fun _ =>
        .pure _

theorem carries_operand (struct : Bool) : Carries t (operand g struct) (operand g' struct) := by
  have hraw : StopBlind atRawReference := (stopBlind_word _).guarded rfl (stopBlind_anyWord _)
  have hsign : Spans 1 fun ts => atMark "*" ts || atMark "!" ts || atMark "-" ts :=
    ((spans_mark "*").or (spans_mark "!")).or (spans_mark "-")
  have hblind : StopBlind fun ts => atMark "*" ts || atMark "!" ts || atMark "-" ts :=
    ((stopBlind_mark (m := "*") (by decide)).or (stopBlind_mark (m := "!") (by decide))).or
      (stopBlind_mark (m := "-") (by decide))
  have hunary : Carries t (g.operand struct >>= fun e => pure e.unary)
      (g'.operand struct >>= fun e => pure e.unary) := (hg.operand ht struct).bind fun _ => .pure _
  unfold operand
  refine .verbatimIf ((carries_outerAttributes hg ht).bind fun attributes =>
    (Carries.mark? (ht.mark (by decide))).bind fun _ => .ite
      (.when (ht.blind hraw) ((Carries.word _).bind fun _ => (Carries.word? (ht.word _)).bind
        fun _ => .ite ((Carries.word _).bind fun _ => ?_) ?_)
        ((Carries.word? (ht.word _)).discard.bind fun _ => (hg.operand ht struct).bind fun _ => .pure _))
      (.whenTaken (ht.blind hblind) hsign.le_length hunary <| (carries_atom hg ht struct).bind fun _ =>
        (carries_trailers hg ht _).bind fun _ => .ite (.fails_bind _ _) (.pure _))) _
  all_goals exact (hg.operand ht struct).discard.bind fun _ => .pure _

theorem carries_expr (struct : Bool) : Carries t (expr g struct) (expr g' struct) :=
  (carries_operand hg ht struct).bind fun _ => carries_operators hg ht struct .jump _

omit ht

theorem carries_statementExpr : Carries .none (statementExpr g) (statementExpr g') := by
  have ht := Tails.stops_none
  unfold statementExpr
  refine (carries_attributeTokens hg ht).bind fun attributes =>
    (carries_blockLike? hg ht).captured.bind fun ⟨_, tokens⟩ => .ite
      ((Carries.write _).bind fun _ => .when (Tails.blind_none _) ?_ (.pure _)) ?_
  · exact (carries_trailers hg ht _).bind fun _ => carries_operators hg ht true .jump _
  · exact ((carries_operand hg ht true).attributed attributes _).bind fun _ =>
      carries_operators hg ht true .jump _

end

end PatchStore.Source
