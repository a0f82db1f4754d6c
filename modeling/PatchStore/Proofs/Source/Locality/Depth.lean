import PatchStore.Proofs.Source.Locality.Item
import PatchStore.Source.Reader

/-!
# Grammars for deeper nesting

A grammar for a deeper nesting carries over what one for a shallower nesting reads, as its readers do
if those of the level below them do.  So an expression does not depend on the tokens that follow it,
although the depth of the grammar is taken from all that are left.

* `Grammar.Deeper.step` — one level carries over if the level below it does.
* `Grammar.deeper_ofDepth` — a deeper grammar carries over what a shallower one reads.
* `goes_expr` — an expression that is read alone is read in front of any stop.
-/

namespace PatchStore.Source

open Parse

/-! ## Levels -/

theorem fails_bound_nil (g : Grammar) (capture constant : Bool) : Fails (bound g capture constant) [] :=
  fun _ _ => rfl

/-- One level carries over if the level below it does. -/
theorem Grammar.Deeper.step {g g' : Grammar} (hg : g.Deeper g') : g.step.Deeper g'.step where
  type ht := carries_typeExpr hg ht
  bound ht := carries_bound hg ht
  expr ht := carries_expr hg ht
  operand ht := carries_operand hg ht
  operators ht := carries_operators hg ht
  pattern ht := carries_pattern hg ht
  statementExpr := carries_statementExpr hg
  statements := carries_statements hg
  declaration := carries_item hg
  fields := (carries_namedFields hg).discard
  bound_nil := fails_bound_nil g
  pattern_unclosed joint _ h := fails_pattern_unclosed hg joint h
  pattern_self mutable joint _ h := PatchStore.Source.pattern_self g mutable joint h
  type_mark plus _ joint _ hm h := fails_type_mark g' plus joint hm h

/-- A grammar that reads nothing is carried over by any other. -/
theorem Grammar.deeper_empty (n : Nat) : Grammar.empty.Deeper (Grammar.ofDepth n) where
  type _ _ := .fails _
  bound _ _ _ := .fails _
  expr _ _ := .fails _
  operand _ _ := .fails _
  operators _ _ _ _ := .fails _
  pattern _ := .fails _
  statementExpr := .fails _
  statements := .fails _
  declaration := .fails _
  fields := .fails _
  bound_nil _ _ _ _ := rfl
  pattern_unclosed _ _ _ _ _ := rfl
  pattern_self _ _ _ _ := Or.inl fun _ _ => rfl
  type_mark plus m joint us hm h := by
    cases n with
    | zero => exact fun _ _ => rfl
    | succ n => exact fails_type_mark _ plus joint hm h

/-- A deeper grammar carries over what a shallower one reads. -/
theorem Grammar.deeper_ofDepth {m n : Nat} (h : m ≤ n) :
    (Grammar.ofDepth m).Deeper (Grammar.ofDepth n) := by
  induction m generalizing n with
  | zero => exact deeper_empty n
  | succ m ih =>
    obtain ⟨k, rfl⟩ := Nat.exists_eq_add_of_le h
    rw [Nat.add_right_comm]
    exact (ih (Nat.le_add_right m k)).step

/-- So does the grammar for more tokens. -/
theorem Grammar.deeper_forTokens {ts us : List Token} (h : Token.sizeAll ts ≤ Token.sizeAll us) :
    (Grammar.forTokens ts).Deeper (Grammar.forTokens us) :=
  deeper_ofDepth (Nat.add_le_add_right (Nat.mul_le_mul_left 4 h) 16)

/-! ## Expressions -/

theorem Token.sizeAll_append (ts us : List Token) :
    Token.sizeAll (ts ++ us) = Token.sizeAll ts + Token.sizeAll us := by
  induction ts with
  | nil => rw [List.nil_append, Token.sizeAll, Nat.zero_add]
  | cons tok ts ih => rw [List.cons_append, Token.sizeAll, Token.sizeAll, ih, Nat.add_assoc]

/-- The tokens are an expression. -/
def IsExpr (ts : List Token) : Prop :=
  (Parse.all ((Grammar.forTokens ts).expr true) ts).isSome = true

/-- What is read of a whole text leaves nothing. -/
theorem run_of_all {α : Type} {p : Parse α} {ts : List Token} {x : α} (h : Parse.all p ts = some x) :
    ∃ written, p.run (.start ts) = some (x, ⟨[], written, false⟩) := by
  obtain ⟨⟨y, rest, written, leftover⟩, hrun, hdone⟩ := Option.bind_eq_some_iff.mp h
  have hdone : (if (rest.isEmpty && !leftover) = true then some y else none) = some x := hdone
  split at hdone
  · rename_i hall
    cases hdone
    obtain ⟨hrest, hleftover⟩ := (Bool.and_eq_true _ _).mp hall
    obtain rfl := List.isEmpty_iff.mp hrest
    cases leftover with
    | false => exact ⟨written, hrun⟩
    | true => cases hleftover
  · cases hdone

/-- An expression that is read alone is read in front of any stop. -/
theorem goes_expr {ts s : List Token} (h : IsExpr ts) (hs : IsStop s) :
    ∃ e new, Goes ((Grammar.forTokens (ts ++ s)).expr true) (ts ++ s) e s new false := by
  obtain ⟨e, he⟩ := Option.isSome_iff_exists.mp h
  obtain ⟨written, hrun⟩ := run_of_all he
  have hsize : Token.sizeAll ts ≤ Token.sizeAll (ts ++ s) := by
    rw [Token.sizeAll_append]
    exact Nat.le_add_right _ _
  have ht : Tails.Stops ⟨[], s, Nat.zero_le _⟩ := ⟨trivial, hs⟩
  obtain ⟨-, hcarries⟩ := (Grammar.deeper_forTokens hsize).expr ht true ts [] false e _ hrun
  obtain ⟨new, left, -, hleft, hgoes⟩ := hcarries ts [] (List.append_nil ts).symm rfl
  rw [Bool.false_or] at hleft
  rw [← hleft] at hgoes
  exact ⟨e, new, hgoes⟩

/-- Both tails are stops, and the one there nests no less. -/
structure Parse.Tails.Grows (t : Tails) : Prop where
  stops : t.Stops
  size_le : Token.sizeAll t.here ≤ Token.sizeAll t.there

theorem Parse.Tails.grows_none : Tails.none.Grows := ⟨Tails.stops_none, Nat.le_refl 0⟩

theorem Parse.Goes.byRest {α : Type} {k : List Token → Parse α} {x : α} {ts rest new : List Token}
    {left : Bool} (h : Goes (k ts) ts x rest new left) :
    Goes (get >>= fun c => k c.rest) ts x rest new left := fun written leftover => h written leftover

/-- A reader may be chosen by the tokens that are left, if more nesting makes no difference. -/
theorem Parse.Tails.Grows.carries {α : Type} {t : Tails} (ht : t.Grows) {k : List Token → Parse α}
    (hk : ∀ us us', Token.sizeAll us ≤ Token.sizeAll us' → Carries t (k us) (k us')) :
    Carries t (get >>= fun c => k c.rest) (get >>= fun c => k c.rest) := by
  intro us written leftover x c hrun
  refine ⟨(hk us us (Nat.le_refl _) us written leftover x c hrun).1, fun ts rest hts hrest => ?_⟩
  have hsize : Token.sizeAll us ≤ Token.sizeAll (ts ++ t.there) := by
    rw [hts, Token.sizeAll_append, Token.sizeAll_append]
    exact Nat.add_le_add_left ht.size_le _
  obtain ⟨new, left, hwritten, hleft, hgoes⟩ :=
    (hk us _ hsize us written leftover x c hrun).2 ts rest hts hrest
  exact ⟨new, left, hwritten, hleft, hgoes⟩

/-- The depth of the grammar may be taken from all tokens that are left. -/
theorem carries_exprOfRest {t : Tails} (ht : t.Grows) :
    Carries t (get >>= fun c => discard ((Grammar.forTokens c.rest).expr true))
      (get >>= fun c => discard ((Grammar.forTokens c.rest).expr true)) :=
  ht.carries (k := fun us => discard ((Grammar.forTokens us).expr true)) fun _ _ hsize =>
    ((Grammar.deeper_forTokens hsize).expr ht.stops true).discard

end PatchStore.Source
