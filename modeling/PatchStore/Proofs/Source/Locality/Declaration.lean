import PatchStore.Proofs.Source.Locality.Expr
import PatchStore.Source.Grammar.Function

/-!
# Declarations and functions in deeper grammars

Declarations only stand in blocks, and what they consist of in groups of theirs, so nothing follows
them there.

* `carries_typeDeclRest` — structs, enumerations and unions are carried over.
* `carries_function` — functions are carried over.
-/

namespace PatchStore.Source

open Parse

section

variable {g g' : Grammar} (hg : g.Deeper g')

/-! ## Visibility and conditions -/

theorem carries_visibility : Carries .none visibility visibility := by
  have ht := Tails.stops_none
  refine (Carries.word? (Tails.blind_none _)).bind fun given => (Carries.peek (Tails.blind_none _)).bind
    fun _ => .ite (Carries.bind (.within _ ?_) fun _ => .pure _) (.pure _)
  exact (Carries.word? (Tails.blind_none _)).bind fun _ =>
    .ite (carries_plainPath ht).discard Carries.anyIdent.discard

include hg

theorem carries_wherePredicate : Carries .none (wherePredicate g) (wherePredicate g') := by
  have ht := Tails.stops_none
  have hsame : ∀ ending : List Token → Bool, ∀ ts,
      ending (ts ++ Tails.none.here) = ending (ts ++ Tails.none.there) ∨
        ts ++ Tails.none.here = [] ∧ ending [] = false := fun _ _ => Or.inl rfl
  refine .when (Tails.blind_none _) (Carries.lifetime.bind fun _ => (Carries.mark _).bind fun _ => ?_) <|
    (carries_binder? hg ht).discard.bind fun _ => (hg.type ht true).discard.bind fun _ =>
      (Carries.mark _).bind fun _ => ?_
  · exact (carries_boundsUntil (hsame _) (Tails.blind_none _) .lifetime fails_lifetime_nil).discard
  · exact (carries_boundsUntil (hsame _) (Tails.blind_none _) (carries_constantBound hg ht)
      (fails_constantBound_nil hg)).discard

theorem carries_whereClause : Carries .none (whereClause g) (whereClause g') := by
  refine .whenNot (Tails.blind_none _) (.pure _) <| Carries.bind (.captured ?_) fun ⟨_, tokens⟩ =>
    .ite ((Carries.write tokens).bind fun _ => .pure _) (.pure _)
  refine (Carries.word _).bind fun _ => .when (Tails.blind_none _) (.fails_bind _ _) <| .gather
    fun _ => .when (Tails.blind_none _) (.pure _) <| (carries_wherePredicate hg).bind fun _ => ?_
  exact (Carries.mark? (Tails.blind_none _)).bind fun _ => .pure _

/-! ## Fields and variants -/

theorem carries_namedField : Carries .none (namedField g) (namedField g') := by
  have ht := Tails.stops_none
  have hnested : Carries .none (anyIdent *> g.fields) (anyIdent *> g'.fields) :=
    Carries.anyIdent.seqRight hg.fields
  unfold namedField
  refine (carries_outerAttributes hg ht).bind fun attributes => carries_visibility.discard.bind fun _ =>
    (Carries.peek (Tails.blind_none _)).bind fun _ => .ite (Carries.anyIdent.bind fun i => ?_)
      (Carries.ident.bind fun i => ?_)
  all_goals
    refine (Carries.mark _).bind fun _ => .when (Tails.blind_none _)
      ((hnested.taken.verbatimIf _).bind fun ⟨_, tokens⟩ => .pure _) ?_
    exact (hg.type ht true).bind fun _ => .pure _

theorem carries_tupleField : Carries .none (tupleField g) (tupleField g') :=
  (carries_outerAttributes hg Tails.stops_none).discard.bind fun _ =>
    carries_visibility.discard.bind fun _ => (hg.type Tails.stops_none true).discard

theorem carries_namedFields {t : Tails} : Carries t (namedFields g) (namedFields g') :=
  .within _ <| .listUntil (.peek (Tails.blind_none _)) fun _ => carries_namedField hg

theorem carries_tupleFields : Carries .none (tupleFields g) (tupleFields g') :=
  .discard <| .within _ <| .listUntil (.peek (Tails.blind_none _)) fun _ => carries_tupleField hg

theorem carries_variant : Carries .none (variant g) (variant g') := by
  have ht := Tails.stops_none
  have hvalue : Carries .none
      (mark? "=" >>= fun b => if b = true then discard (g.expr true) else pure ())
      (mark? "=" >>= fun b => if b = true then discard (g'.expr true) else pure ()) :=
    (Carries.mark? (Tails.blind_none _)).bind fun _ => .ite (hg.expr ht true).discard (.pure _)
  refine (carries_outerAttributes hg ht).discard.bind fun _ =>
    carries_visibility.unwritten.discard.bind fun _ => Carries.ident.discard.bind fun _ =>
      .when (Tails.blind_none _) ((carries_namedFields hg).discard.bind fun _ => hvalue) <|
        .when (Tails.blind_none _) ((carries_tupleFields hg).bind fun _ => hvalue) hvalue

theorem carries_structDeclBody : Carries .none (structDeclBody g) (structDeclBody g') := by
  refine (carries_whereClause hg).bind fun _ => .when (Tails.blind_none _)
    ((carries_tupleFields hg).bind fun _ => (carries_whereClause hg).discard.bind fun _ =>
      (Carries.mark _).bind fun _ => .pure _) <|
    .when (Tails.blind_none _) ((carries_namedFields hg).bind fun _ => .pure _) <|
      (Carries.mark _).bind fun _ => .pure _

/-! ## Declarations -/

theorem carries_typeDeclRest (attributes : List Attribute) :
    Carries .none (typeDeclRest g attributes) (typeDeclRest g' attributes) := by
  have ht := Tails.stops_none
  have hparameters := carries_parameters hg ht
  have hconditions := (carries_whereClause hg).discard
  refine (Carries.word? (Tails.blind_none _)).bind fun _ => .ite (Carries.ident.bind fun _ =>
      hparameters.bind fun _ => (carries_structDeclBody hg).bind fun _ => .pure _) <|
    (Carries.word? (Tails.blind_none _)).bind fun _ => .ite (Carries.ident.bind fun _ =>
      hparameters.bind fun _ => hconditions.bind fun _ => ?_) <|
    (Carries.word _).bind fun _ => Carries.ident.bind fun _ => hparameters.bind fun _ =>
      hconditions.bind fun _ => (carries_namedFields hg).discard.bind fun _ => .pure _
  exact (Carries.within _ (.listUntil (.peek (Tails.blind_none _)) fun _ =>
    carries_variant hg)).discard.bind fun _ => .pure _

/-! ## Words before a function -/

omit hg

theorem carries_functionWords (safeAllowed : Bool) :
    Carries .none (functionWords safeAllowed) (functionWords safeAllowed) := by
  have ht := Tails.stops_none
  refine (Carries.word? (Tails.blind_none _)).discard.bind fun _ =>
    (Carries.word? (Tails.blind_none _)).discard.bind fun _ =>
      (Carries.word? (Tails.blind_none _)).bind fun _ =>
        .ite ((Carries.word? (Tails.blind_none _)).bind fun safe => ?_)
          ((Carries.pure _).bind fun safe => ?_)
  all_goals exact (carries_callingConvention ht).bind fun _ => .pure safe

theorem carries_functionFollows (safeAllowed : Bool) :
    Carries .none (functionFollows safeAllowed) (functionFollows safeAllowed) := by
  have htest : Carries .none (functionWords safeAllowed *> peek (atWord "fn"))
      (functionWords safeAllowed *> peek (atWord "fn")) :=
    (carries_functionWords safeAllowed).seqRight (.peek (Tails.blind_none _))
  exact htest.ahead htest

/-! ## Receivers -/

/-- A receiver from the word `self` on, where it may have a type. -/
def receiverRest (g : Grammar) : Parse Unit := do
  word "self"
  if ← mark? ":" then discard (g.type true)

/-- After the word, a receiver is read without a type and so by all grammars alike, or a colon
follows. -/
theorem receiverRest_or_typed (us : List Token) :
    (∀ (g g' : Grammar) (written : List Token) (leftover : Bool),
      (receiverRest g).run ⟨us, written, leftover⟩ = (receiverRest g').run ⟨us, written, leftover⟩) ∨
      ∃ joint vs, us = .ident ⟨"self", false⟩ :: .punct ':' joint :: vs := by
  by_cases hself : atWord "self" us = true
  · obtain ⟨us, rfl⟩ := eq_of_atWord hself
    by_cases hcolon : atMark ":" us = true
    · obtain ⟨joint, us, rfl⟩ := eq_of_atMarks hcolon
      exact Or.inr ⟨joint, us, rfl⟩
    · have hnone := Goes.mark?_of_false (Bool.eq_false_iff.mpr hcolon)
      exact Or.inl fun g g' => (Goes.word hself).run_bind_congr <|
        hnone.run_bind_congr fun _ _ => rfl
  · left
    intro g g' written leftover
    have hnone := Fails.word (Bool.eq_false_iff.mpr hself)
    rw [receiverRest, receiverRest, hnone.bind _ written leftover, hnone.bind _ written leftover]

/-- A receiver is read by all grammars alike, or it is taken by value and a colon follows. -/
theorem receiver_or_typed (us : List Token) :
    (∀ (g g' : Grammar) (written : List Token) (leftover : Bool),
      (receiver g).run ⟨us, written, leftover⟩ = (receiver g').run ⟨us, written, leftover⟩) ∨
      ∃ mutable joint vs, us = selfTokens mutable ++ .punct ':' joint :: vs := by
  by_cases hborrowed : atMark "&" us = true
  · exact Or.inl fun g g' => (Goes.mark? hborrowed).run_bind_congr fun _ _ => rfl
  have hvalue := Goes.mark?_of_false (Bool.eq_false_iff.mpr hborrowed)
  by_cases hmut : atWord "mut" us = true
  · obtain ⟨us, rfl⟩ := eq_of_atWord hmut
    rcases receiverRest_or_typed us with h | ⟨joint, vs, rfl⟩
    · exact Or.inl fun g g' => hvalue.run_bind_congr <|
        (Goes.discard (Goes.word? hmut)).run_bind_congr fun _ _ => h g g' _ _
    · exact Or.inr ⟨true, joint, vs, rfl⟩
  · rcases receiverRest_or_typed us with h | ⟨joint, vs, rfl⟩
    · exact Or.inl fun g g' => hvalue.run_bind_congr <|
        (Goes.discard (Goes.word?_of_false (Bool.eq_false_iff.mpr hmut))).run_bind_congr
          fun _ _ => h g g' _ _
    · exact Or.inr ⟨false, joint, vs, rfl⟩

/-- The receiver of a method that has a type. -/
theorem run_receiver_typed (g : Grammar) (mutable joint : Bool) (us written : List Token)
    (leftover : Bool) :
    (receiver g).run ⟨selfTokens mutable ++ .punct ':' joint :: us, written, leftover⟩ =
      (discard (g.type true)).run
        ⟨us, .punct ':' joint :: ((selfTokens mutable).reverse ++ written), leftover⟩ := by
  cases mutable <;> rfl

include hg

theorem carries_receiver : Carries .none (receiver g) (receiver g') := by
  refine (Carries.mark? (Tails.blind_none _)).bind fun borrowed => ?_
  have hrest : ∀ borrowed : Bool, Carries .none
      (discard (word? "mut") >>= fun _ => word "self" >>= fun _ =>
        if (!borrowed) = true then mark? ":" >>= fun b =>
          if b = true then discard (g.type true) else pure ()
        else pure ())
      (discard (word? "mut") >>= fun _ => word "self" >>= fun _ =>
        if (!borrowed) = true then mark? ":" >>= fun b =>
          if b = true then discard (g'.type true) else pure ()
        else pure ()) := fun borrowed =>
    (Carries.word? (Tails.blind_none _)).discard.bind fun _ => (Carries.word _).bind fun _ =>
      .ite ((Carries.mark? (Tails.blind_none _)).bind fun _ =>
        .ite (hg.type Tails.stops_none true).discard (.pure _)) (.pure _)
  exact .ite ((Carries.lifetime? (Tails.blind_none _)).bind fun _ => hrest _) (hrest _)

/-! ## Parameters -/

omit hg

/-- A parameter of a function that is no receiver. -/
def plainParameter (g : Grammar) : Parse ParameterKind := do
  if ← peek fun ts => atIdent ts && second (atMark "<") ts then
    write (.ident ⟨"_", false⟩ :: Token.ofMark ":")
  else
    discard g.pattern
    mark ":"
    if ← mark? "..." then return .variadic
  discard (g.type true)
  return .typed

theorem functionParameter_eq (g : Grammar) :
    functionParameter g = (do
      discard (outerAttributes g)
      if ← mark? "..." then return .variadic
      if (← attempt (receiver g)).isSome then return .receiver
      plainParameter g) := rfl

include hg

theorem carries_plainParameter : Carries .none (plainParameter g) (plainParameter g') := by
  have ht := Tails.stops_none
  have htype : Carries .none (discard (g.type true) >>= fun _ => pure ParameterKind.typed)
      (discard (g'.type true) >>= fun _ => pure ParameterKind.typed) :=
    (hg.type ht true).discard.bind fun _ => .pure _
  refine .when (Tails.blind_none _) ((Carries.write _).bind fun _ => htype) <|
    (hg.pattern ht).discard.bind fun _ => (Carries.mark _).bind fun _ =>
      (Carries.mark? (Tails.blind_none _)).bind fun _ => .ite (.pure _) htype

/-- After the word `self` and a colon, a parameter of a function fails if its type does. -/
theorem run_plainParameter_typed (mutable joint : Bool) {us written : List Token} {leftover : Bool}
    (hself : atMark "::" (.punct ':' joint :: us) = false ∨ atMark "::" us = true)
    (hdots : atMark "..." us = false)
    (h : (discard (g.type true)).run
      ⟨us, .punct ':' joint :: ((selfTokens mutable).reverse ++ written), leftover⟩ = none) :
    (plainParameter g).run ⟨selfTokens mutable ++ .punct ':' joint :: us, written, leftover⟩ =
      none := by
  have hstart : (fun ts => atIdent ts && second (atMark "<") ts)
      (selfTokens mutable ++ .punct ':' joint :: us) = false := by cases mutable <;> rfl
  rw [plainParameter, run_otherwise hstart]
  rcases hg.pattern_self mutable joint us hself with hnone | ⟨p, hpattern⟩
  · exact hnone.discard.bind _ written leftover
  · rw [hpattern.discard.run_bind, (Goes.mark (m := ":") rfl).run_bind, Bool.or_false, Bool.or_false]
    refine ((Goes.mark?_of_false hdots).run_bind _ _ _).trans ?_
    rw [if_neg Bool.false_ne_true, StateT.run_bind, Bool.or_false]
    show Option.bind ((discard (g.type true)).run
      ⟨us, .punct ':' joint :: ((selfTokens mutable).reverse ++ written), leftover⟩) _ = none
    rw [h]
    rfl

/-- Where a receiver cannot be read, a deeper grammar cannot either, or nothing else is read. -/
theorem receiver_or_plainParameter {us written : List Token} {leftover : Bool}
    (h : (receiver g).run ⟨us, written, leftover⟩ = none) :
    (plainParameter g).run ⟨us, written, leftover⟩ = none ∨ Fails (receiver g') us := by
  rcases receiver_or_typed us with hsame | ⟨mutable, joint, vs, rfl⟩
  · right
    intro written' leftover'
    rcases hrun : (receiver g').run ⟨us, written', leftover'⟩ with _ | ⟨x, c⟩
    · rfl
    · obtain ⟨_, _, -, -, hgoes⟩ := (carries_receiver hg).goes ((hsame g g' _ _).trans hrun)
      rw [hsame g g', hgoes] at h
      cases h
  · rw [run_receiver_typed] at h
    have hfails : Fails (g'.type true) vs →
        Fails (receiver g') (selfTokens mutable ++ .punct ':' joint :: vs) := fun hnone _ _ =>
      (run_receiver_typed g' mutable joint vs _ _).trans (hnone.discard _ _)
    by_cases hdots : atMark "..." vs = true
    · obtain ⟨joint', us, rfl⟩ : ∃ joint us, vs = .punct '.' joint :: us := by
        rcases vs with _ | ⟨_ | ⟨m, joint⟩ | _ | _, vs⟩
        · cases hdots
        · cases hdots
        · have hm : (m == '.' && joint && atMark ".." vs) = true := hdots
          obtain rfl := eq_of_beq ((Bool.and_eq_true _ _).mp ((Bool.and_eq_true _ _).mp hm).1).1
          exact ⟨joint, vs, rfl⟩
        · cases hdots
        · cases hdots
      exact Or.inr (hfails (hg.type_mark true '.' joint' us (Or.inr rfl) rfl))
    have hdots := Bool.eq_false_iff.mpr hdots
    by_cases hcolons : atMark "::" (.punct ':' joint :: vs) = true
    · by_cases hmore : atMark "::" vs = true
      · exact Or.inl (run_plainParameter_typed hg mutable joint (Or.inr hmore) hdots h)
      · obtain ⟨joint', us, hvs⟩ := eq_of_separator hcolons
        cases hvs
        exact Or.inr (hfails (hg.type_mark true ':' joint' us (Or.inl rfl)
          (Bool.eq_false_iff.mpr hmore)))
    · exact Or.inl (run_plainParameter_typed hg mutable joint
        (Or.inl (Bool.eq_false_iff.mpr hcolons)) hdots h)

theorem carries_functionParameter : Carries .none (functionParameter g) (functionParameter g') := by
  rw [functionParameter_eq, functionParameter_eq]
  refine (carries_outerAttributes hg Tails.stops_none).discard.bind fun _ =>
    (Carries.mark? (Tails.blind_none _)).bind fun _ => .ite (.pure _) <|
      (carries_receiver hg).attempt_bind (fun _ => .ite (.pure _) (carries_plainParameter hg)) ?_
  intro ts written leftover h
  exact receiver_or_plainParameter hg h

theorem carries_functionParameters :
    Carries .none (functionParameters g) (functionParameters g') := by
  refine .discard <| .gather fun acc => .when (Tails.blind_none _) (.pure _) <|
    (carries_functionParameter hg).bind fun kind => ?_
  have hnext : Carries .none
      (atEnd >>= fun b => if b = true then pure (() :: acc, true) else
        mark "," >>= fun _ => pure (() :: acc, false))
      (atEnd >>= fun b => if b = true then pure (() :: acc, true) else
        mark "," >>= fun _ => pure (() :: acc, false)) :=
    .when (Tails.blind_none _) (.pure _) ((Carries.mark _).bind fun _ => .pure _)
  cases kind with
  | variadic =>
    exact .whenNot (Tails.blind_none _) ((Carries.mark _).bind fun _ => .pure _) (.pure _)
  | receiver => exact .ite (.fails_bind _ _) hnext
  | typed => exact hnext

/-! ## Functions -/

theorem carries_signature (safeAllowed : Bool) :
    Carries .none (signature g safeAllowed) (signature g' safeAllowed) :=
  (carries_functionWords safeAllowed).bind fun _ => (Carries.word _).bind fun _ =>
    Carries.ident.discard.bind fun _ => (carries_parameters hg Tails.stops_none).discard.bind fun _ =>
      (Carries.within _ (carries_functionParameters hg)).bind fun _ =>
        (carries_resultType hg Tails.stops_none true).bind fun _ =>
          (carries_whereClause hg).discard.bind fun _ => .pure _

theorem carries_function : Carries .none (function g) (function g') :=
  (carries_signature hg false).discard.bind fun _ => (Carries.mark? (Tails.blind_none _)).bind fun _ =>
    .ite ((carries_attributedBlock hg).bind fun _ => .pure _) (.pure _)

end

end PatchStore.Source
