import PatchStore.Proofs.Source.Locality.Pattern

/-!
# Operators in front of other tokens

Operators and their right operands are carried over to deeper grammars in front of stops: no operator
begins with a comma, and a range ends at one as it does at the end.

* `carries_rightOperand` — the right operand of an operator is carried over.
* `carries_operators` — so are the operators after a left operand.
-/

namespace PatchStore.Source

open Parse

section

variable {g g' : Grammar} {t : Tails} (hg : g.Deeper g') (ht : t.Stops)

/-! ## Tests -/

theorem stopBlind_binaryOperator? : StopBlind binaryOperator? := by
  have hops : ∀ ops : List (String × Precedence), (∀ op ∈ ops, ',' ∉ op.1.toList) →
      StopBlind fun ts => ops.find? fun op => atMark op.1 ts := by
    intro ops hcomma ts s s' hs hs'
    induction ops with
    | nil => rfl
    | cons op ops ih =>
      have hop := stopBlind_mark (hcomma op List.mem_cons_self) ts s s' hs hs'
      have hrest := ih fun op hmem => hcomma op (List.mem_cons_of_mem _ hmem)
      simp only [List.find?_cons, hop, hrest]
  exact hops binaryOperators (by decide)

theorem stopBlind_assignment : StopBlind atAssignment :=
  (stopBlind_mark (m := "=") (by decide)).and (stopBlind_mark (m := "=>") (by decide)).not

theorem stopBlind_nextPrecedence : StopBlind nextPrecedence := by
  intro ts s s' hs hs'
  have hrange : StopBlind (atMark "..") := stopBlind_mark (by decide)
  rw [nextPrecedence, nextPrecedence, stopBlind_binaryOperator? ts s s' hs hs',
    stopBlind_assignment ts s s' hs hs', hrange ts s s' hs hs', stopBlind_word "as" ts s s' hs hs']

theorem stopBlind_point : StopBlind atPoint :=
  (stopBlind_mark (m := ".") (by decide)).and (stopBlind_mark (m := "..") (by decide)).not

theorem stopBlind_rangeEnd (struct : Bool) : StopBlind (atRangeEnd struct) := by
  have hmark : ∀ m : String, ',' ∉ m.toList → StopBlind (atMark m) := fun _ => stopBlind_mark
  have hbrace : StopBlind fun ts => !struct && atGroup .brace ts :=
    (StopBlind.const _).and (stopBlind_group _)
  exact ((((((((((((((((((stopBlind_end.or (hmark ";" (by decide))).or stopBlind_point).or
    (hmark "?" (by decide))).or (hmark "=>" (by decide))).or hbrace).or (hmark "=" (by decide))).or
    (hmark "+" (by decide))).or (hmark "/" (by decide))).or (hmark "%" (by decide))).or
    (hmark "^" (by decide))).or (hmark ">" (by decide))).or (hmark "<=" (by decide))).or
    (hmark "!=" (by decide))).or (hmark "-=" (by decide))).or (hmark "*=" (by decide))).or
    (hmark "&=" (by decide))).or (hmark "|=" (by decide))).or (hmark "<<=" (by decide))).or
    (stopBlind_word "as")

theorem stopBlind_afterCast : StopBlind afterCast :=
  (((stopBlind_point.or (stopBlind_mark (m := "?") (by decide))).or (stopBlind_group _)).or
    (stopBlind_group _)).not

/-! ## Operands and operators -/

include hg ht

theorem carries_rightOperand_loop (struct : Bool) (outer : Precedence) {fuel fuel' : Nat}
    (hle : fuel ≤ fuel') (e : Expr) :
    Carries t (rightOperand.loop g struct outer fuel e) (rightOperand.loop g' struct outer fuel' e) := by
  induction fuel generalizing fuel' e with
  | zero => exact .fails _
  | succ fuel ih =>
    obtain ⟨fuel', rfl⟩ := Nat.exists_eq_add_of_le hle
    rw [Nat.add_right_comm, rightOperand.loop, rightOperand.loop]
    intro us
    refine .look (fun ts _ _ _ _ hts => ?_) fun _ _ _ _ => ?_
    · subst hts
      dsimp only
      rw [ht.blind stopBlind_nextPrecedence ts]
    · exact (Carries.ite (.progress (hg.operators ht struct _ e) .pure fun e =>
        ih (Nat.le_add_right fuel fuel') e) (.pure e)) us

theorem carries_rightOperand (struct : Bool) (outer : Precedence) :
    Carries t (rightOperand g struct outer) (rightOperand g' struct outer) :=
  (hg.operand ht struct).bind fun first => .remaining fun _ _ hle =>
    carries_rightOperand_loop hg ht struct outer (Nat.succ_le_succ hle) first

theorem carries_rangeTail (struct : Bool) : Carries t (rangeTail g struct) (rangeTail g' struct) :=
  (carries_rangeMark ht false).bind fun _ =>
    (Carries.peek (ht.blind (stopBlind_rangeEnd struct))).bind fun _ =>
      .ite (carries_rightOperand hg ht struct .range).discard (.pure _)

theorem carries_operators_loop (struct : Bool) (least : Precedence) {fuel fuel' : Nat}
    (hle : fuel ≤ fuel') (e : Expr) :
    Carries t (operators.loop g struct least fuel e) (operators.loop g' struct least fuel' e) := by
  induction fuel generalizing fuel' e with
  | zero => exact .fails _
  | succ fuel ih =>
    obtain ⟨fuel', rfl⟩ := Nat.exists_eq_add_of_le hle
    have hloop := ih (Nat.le_add_right fuel fuel')
    rw [Nat.add_right_comm, operators.loop, operators.loop]
    refine .ite (.pure _) fun us => .look (fun ts _ _ _ _ hts => ?_) fun _ _ _ _ => ?_
    · subst hts
      have hrange : t.Blind (atMark "..") := ht.mark (by decide)
      dsimp only
      rw [ht.blind stopBlind_binaryOperator? ts, ht.blind stopBlind_assignment ts, hrange ts,
        ht.word "as" ts]
    · have hright := carries_rightOperand hg ht struct
      dsimp only
      cases binaryOperator? us with
      | some op =>
        exact (Carries.ite (.pure _) <| .ite (.fails_bind _ _) <| (Carries.mark _).bind fun _ =>
          (hright _).bind fun _ => hloop _) us
      | none =>
        refine (Carries.ite ?_ <| .ite ?_ <| .ite ?_ (.pure _)) us
        · exact (Carries.mark "=").bind fun _ => (hright _).discard.bind fun _ => hloop _
        · exact (carries_rangeTail hg ht struct).bind fun _ => hloop _
        · exact (Carries.word "as").bind fun _ => (hg.type ht false).discard.bind fun _ =>
            .whenNot (ht.blind stopBlind_afterCast) (.fails_bind _ _) (hloop _)

theorem carries_operators (struct : Bool) (least : Precedence) (left : Expr) :
    Carries t (operators g struct least left) (operators g' struct least left) :=
  .remaining fun _ _ hle => carries_operators_loop hg ht struct least (Nat.succ_le_succ hle) left

end

end PatchStore.Source
