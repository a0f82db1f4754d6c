import PatchStore.Source.Grammar.Basic

/-!
# What is read does not depend on what follows

A reader that stops before the end of its tokens has looked at some of those that are left, and so
might read something else where other tokens follow.  `Carries t p p'` says that it does not: whatever
`p` reads in front of the one tail of `t`, `p'` reads in front of the other, with the same value, the
same tokens written and the same groups left before their ends.  The two readers are the same one with
two grammars.

* `CarriesFrom` — the same from given tokens on.
* `CarriesFrom.bind`, `Carries.bind` — readers that are put together are carried over if their parts
  are.
* `CarriesFrom.look`, `Carries.peek` — looking at the tokens is carried over if the same is seen.
-/

namespace PatchStore.Source.Parse

variable {α β γ : Type}

/-! ## Tails -/

/-- The tokens that follow what is read, here and there.  There are no fewer of them there. -/
structure Tails where
  here : List Token
  there : List Token
  length_le : here.length ≤ there.length

namespace Tails

/-- Nothing follows. -/
def none : Tails := ⟨[], [], Nat.le_refl 0⟩

/-- What is looked at is the same in front of both tails. -/
def Blind (t : Tails) (f : List Token → β) : Prop := ∀ ts, f (ts ++ t.here) = f (ts ++ t.there)

theorem blind_none (f : List Token → β) : none.Blind f := fun _ => rfl

end Tails

/-! ## Readers that are carried over -/

/-- Before the given tokens the reader gives a value, leaves the rest, adds to what is written and
leaves a group before its end or not, whatever was written and left before. -/
def Goes (p : Parse α) (ts : List Token) (x : α) (rest new : List Token) (left : Bool) : Prop :=
  ∀ written leftover,
    p.run ⟨ts, written, leftover⟩ = some (x, ⟨rest, new ++ written, leftover || left⟩)

/-- The reader reads nothing from the given tokens on. -/
def Fails (p : Parse α) (us : List Token) : Prop :=
  ∀ written leftover, p.run ⟨us, written, leftover⟩ = none

/-- From the given tokens on, the one reader goes towards the end, and what it reads in front of the
tail here the other one reads in front of the tail there. -/
def CarriesFrom (t : Tails) (us : List Token) (p p' : Parse α) : Prop :=
  ∀ written leftover x c, p.run ⟨us, written, leftover⟩ = some (x, c) →
    c.rest <:+ us ∧ ∀ ts rest, us = ts ++ t.here → c.rest = rest ++ t.here →
      ∃ new left, c.written = new ++ written ∧ c.leftover = (leftover || left) ∧
        Goes p' (ts ++ t.there) x (rest ++ t.there) new left

/-- The one reader goes towards the end, and what it reads in front of the tail here the other one
reads in front of the tail there. -/
def Carries (t : Tails) (p p' : Parse α) : Prop := ∀ us, CarriesFrom t us p p'

variable {t : Tails} {us : List Token}

/-! ## Readers put together -/

theorem Goes.pure (x : α) (ts : List Token) : Goes (pure x) ts x ts [] false := by
  intro written leftover
  rw [Bool.or_false]
  rfl

/-- What a reader leaves is read by the one after it. -/
theorem Goes.run_bind {p : Parse α} {x : α} {ts rest new : List Token} {left : Bool}
    (hp : Goes p ts x rest new left) (f : α → Parse β) (written : List Token) (leftover : Bool) :
    (p >>= f).run ⟨ts, written, leftover⟩ = (f x).run ⟨rest, new ++ written, leftover || left⟩ := by
  rw [StateT.run_bind, hp written leftover]
  rfl

theorem Goes.run_bind_congr {p : Parse α} {f f' : α → Parse β} {x : α} {ts rest new : List Token}
    {left : Bool} (hp : Goes p ts x rest new left)
    (h : ∀ written leftover, (f x).run ⟨rest, written, leftover⟩ =
      (f' x).run ⟨rest, written, leftover⟩) (written : List Token) (leftover : Bool) :
    (p >>= f).run ⟨ts, written, leftover⟩ = (p >>= f').run ⟨ts, written, leftover⟩ := by
  rw [hp.run_bind, hp.run_bind, h]

theorem Goes.bind {p : Parse α} {f : α → Parse β} {x : α} {y : β}
    {ts mid rest new more : List Token} {left later : Bool} (hp : Goes p ts x mid new left)
    (hf : Goes (f x) mid y rest more later) :
    Goes (p >>= f) ts y rest (more ++ new) (left || later) := by
  intro written leftover
  rw [hp.run_bind, List.append_assoc, ← Bool.or_assoc]
  exact hf (new ++ written) (leftover || left)

/-- A way that is taken where a test holds. -/
theorem run_when {test : List Token → Bool} (h : test us = true) (p q : Parse α)
    (written : List Token) (leftover : Bool) :
    (peek test >>= fun b => if b = true then p else q).run ⟨us, written, leftover⟩ =
      p.run ⟨us, written, leftover⟩ := by
  show (if test us = true then p else q).run _ = _
  rw [if_pos h]

/-- A way that is taken where a test does not hold. -/
theorem run_otherwise {test : List Token → Bool} (h : test us = false) (p q : Parse α)
    (written : List Token) (leftover : Bool) :
    (peek test >>= fun b => if b = true then p else q).run ⟨us, written, leftover⟩ =
      q.run ⟨us, written, leftover⟩ := by
  show (if test us = true then p else q).run _ = _
  rw [h, if_neg Bool.false_ne_true]

theorem discard_eq_bind (p : Parse α) : discard p = p >>= fun _ => pure () := by
  rw [Functor.discard, map_const, Function.comp_apply, map_eq_pure_bind]

theorem Goes.discard {p : Parse α} {x : α} {ts rest new : List Token} {left : Bool}
    (hp : Goes p ts x rest new left) : Goes (discard p) ts () rest new left := by
  intro written leftover
  rw [discard_eq_bind, hp.run_bind]
  rfl

namespace Fails

theorem bind {p : Parse α} (h : Fails p us) (f : α → Parse β) : Fails (p >>= f) us := by
  intro written leftover
  rw [StateT.run_bind, h written leftover]
  rfl

theorem of_goes {p : Parse α} {f : α → Parse β} {x : α} {rest new : List Token} {left : Bool}
    (hp : Goes p us x rest new left) (hf : Fails (f x) rest) : Fails (p >>= f) us := by
  intro written leftover
  rw [hp.run_bind]
  exact hf (new ++ written) (leftover || left)

theorem discard {p : Parse α} (h : Fails p us) : Fails (discard p) us := by
  rw [discard_eq_bind]
  exact h.bind _

/-- What fails wherever a reader leads fails after it. -/
theorem of_rest {p : Parse α} {f : α → Parse β}
    (h : ∀ x written leftover c, p.run ⟨us, written, leftover⟩ = some (x, c) →
      Fails (f x) c.rest) : Fails (p >>= f) us := by
  intro written leftover
  rw [StateT.run_bind]
  rcases hx : p.run ⟨us, written, leftover⟩ with _ | ⟨x, c⟩
  · rfl
  · exact h x written leftover c hx c.written c.leftover

theorem when {test : List Token → Bool} {p q : Parse α} (h : test us = true) (hp : Fails p us) :
    Fails (peek test >>= fun b => if b = true then p else q) us := fun written leftover =>
  (run_when h p q written leftover).trans (hp written leftover)

theorem otherwise {test : List Token → Bool} {p q : Parse α} (h : test us = false)
    (hq : Fails q us) : Fails (peek test >>= fun b => if b = true then p else q) us :=
  fun written leftover => (run_otherwise h p q written leftover).trans (hq written leftover)

end Fails

namespace CarriesFrom

/-- A reader that fails is carried over. -/
theorem of_fails {p p' : Parse α} (h : Fails p us) : CarriesFrom t us p p' := by
  intro written leftover x c hrun
  rw [h written leftover] at hrun
  cases hrun

theorem pure (x : α) : CarriesFrom t us (pure x) (pure x) := by
  intro written leftover y c hrun
  cases hrun
  refine ⟨List.suffix_rfl, fun ts rest hts hrest => ⟨[], false, rfl, by simp, ?_⟩⟩
  rw [List.append_cancel_right (hrest.symm.trans hts)]
  exact .pure x _

/-- Readers that are put together are carried over if the first one is, and the second one from
wherever the first one leads. -/
theorem bind {p p' : Parse α} {f f' : α → Parse β} (hp : CarriesFrom t us p p')
    (hf : ∀ x written leftover c, p.run ⟨us, written, leftover⟩ = some (x, c) →
      CarriesFrom t c.rest (f x) (f' x)) : CarriesFrom t us (p >>= f) (p' >>= f') := by
  intro written leftover y c hrun
  rw [StateT.run_bind] at hrun
  obtain ⟨⟨x, mid⟩, hx, hrest⟩ := Option.bind_eq_some_iff.mp hrun
  obtain ⟨hmid, hfirst⟩ := hp written leftover x mid hx
  obtain ⟨hc, hsecond⟩ := hf x written leftover mid hx mid.written mid.leftover y c hrest
  refine ⟨hc.trans hmid, fun ts rest hts htail => ?_⟩
  -- the second reader goes towards the end, so the first one has left the tail alone
  obtain ⟨between, hbetween⟩ := hc
  rw [htail, ← List.append_assoc] at hbetween
  obtain ⟨new, left, hwritten, hleft, hgoes⟩ := hfirst ts _ hts hbetween.symm
  obtain ⟨more, later, hmore, hlater, hgoes'⟩ := hsecond _ rest hbetween.symm htail
  refine ⟨more ++ new, left || later, ?_, ?_, hgoes.bind hgoes'⟩
  · rw [hmore, hwritten, List.append_assoc]
  · rw [hlater, hleft, Bool.or_assoc]

/-- What is taken in front of a tail is no part of the tail. -/
theorem le_length_of_drop {n : Nat} {ts rest here : List Token} (h : n ≤ (ts ++ here).length)
    (hrest : (ts ++ here).drop n = rest ++ here) : n ≤ ts.length := by
  have hlength := congrArg List.length hrest
  simp only [List.length_drop, List.length_append] at hlength h
  omega

/-- Taking tokens that are there is carried over. -/
theorem taking {n : Nat} (h : n ≤ us.length) : CarriesFrom t us (take n) (take n) := by
  intro written leftover x c hrun
  cases hrun
  refine ⟨us.drop_suffix n, ?_⟩
  rintro ts rest rfl hrest
  have hn := le_length_of_drop h hrest
  have hdrop : ts.drop n = rest :=
    List.append_cancel_right ((List.drop_append_of_le_length hn).symm.trans hrest)
  refine ⟨(ts.take n).reverse, false, ?_, by simp, fun written leftover => ?_⟩
  · exact congrArg (fun us : List Token => us.reverse ++ written)
      (List.take_append_of_le_length hn)
  · show some ((), (⟨(ts ++ t.there).drop n, ((ts ++ t.there).take n).reverse ++ written, leftover⟩ :
      Cursor)) = _
    rw [List.drop_append_of_le_length hn, List.take_append_of_le_length hn, hdrop, Bool.or_false]

theorem ite {c : Prop} [Decidable c] {p p' q q' : Parse α} (hp : c → CarriesFrom t us p p')
    (hq : ¬c → CarriesFrom t us q q') :
    CarriesFrom t us (if c then p else q) (if c then p' else q') := by
  split
  · exact hp ‹_›
  · exact hq ‹_›

/-- A reader that looks at the tokens is carried over from where it goes on in the same way in front
of both tails. -/
theorem look {f f' : Cursor → Parse α}
    (hsame : ∀ ts written leftover written' leftover', us = ts ++ t.here →
      f' ⟨us, written, leftover⟩ = f' ⟨ts ++ t.there, written', leftover'⟩)
    (hf : ∀ written leftover written' leftover',
      CarriesFrom t us (f ⟨us, written, leftover⟩) (f' ⟨us, written', leftover'⟩)) :
    CarriesFrom t us (get >>= f) (get >>= f') := by
  intro written leftover x c hrun
  obtain ⟨hsuffix, hcarries⟩ := hf written leftover written leftover written leftover x c hrun
  refine ⟨hsuffix, fun ts rest hts hrest => ?_⟩
  obtain ⟨new, left, hwritten, hleft, hgoes⟩ := hcarries ts rest hts hrest
  refine ⟨new, left, hwritten, hleft, fun written' leftover' => ?_⟩
  show (f' ⟨ts ++ t.there, written', leftover'⟩).run _ = _
  rw [← hsame ts written leftover written' leftover' hts]
  exact hgoes written' leftover'

theorem peek_bind {test : List Token → Bool} {f f' : Bool → Parse α}
    (htest : ∀ ts, us = ts ++ t.here → test us = test (ts ++ t.there))
    (hf : CarriesFrom t us (f (test us)) (f' (test us))) :
    CarriesFrom t us (peek test >>= f) (peek test >>= f') :=
  look (f := fun c => f (test c.rest)) (fun ts _ _ _ _ hts => congrArg f' (htest ts hts))
    fun _ _ _ _ => hf

/-- A way that is taken where a test holds, and another one elsewhere. -/
theorem when {test : List Token → Bool} {p p' q q' : Parse α}
    (htest : ∀ ts, us = ts ++ t.here → test us = test (ts ++ t.there)) (hp : CarriesFrom t us p p')
    (hq : CarriesFrom t us q q') :
    CarriesFrom t us (peek test >>= fun b => if b = true then p else q)
      (peek test >>= fun b => if b = true then p' else q') :=
  .peek_bind htest (.ite (fun _ => hp) fun _ => hq)

end CarriesFrom

namespace Carries

variable {p p' q q' : Parse α}

theorem pure (x : α) : Carries t (pure x) (pure x) := fun _ => .pure x

theorem fails (p' : Parse α) : Carries t failure p' := fun _ => .of_fails fun _ _ => rfl

/-- A failure goes any way, whatever would come after it. -/
theorem fails_bind (f : β → Parse α) (p' : Parse α) :
    Carries t ((Alternative.failure : Parse β) >>= f) p' := fun _ => .of_fails fun _ _ => rfl

theorem bind {f f' : α → Parse β} (hp : Carries t p p') (hf : ∀ x, Carries t (f x) (f' x)) :
    Carries t (p >>= f) (p' >>= f') :=
  fun us => (hp us).bind fun x _ _ c _ => hf x c.rest

theorem seqRight {p p' : Parse α} {q q' : Parse β} (hp : Carries t p p') (hq : Carries t q q') :
    Carries t (p *> q) (p' *> q') := by
  rw [seqRight_eq_bind, seqRight_eq_bind]
  exact hp.bind fun _ => hq

theorem discard (hp : Carries t p p') : Carries t (discard p) (discard p') := by
  rw [discard_eq_bind, discard_eq_bind]
  exact hp.bind fun _ => .pure ()

theorem ite {c : Prop} [Decidable c] (hp : Carries t p p') (hq : Carries t q q') :
    Carries t (if c then p else q) (if c then p' else q') := by
  split
  · exact hp
  · exact hq

/-- Where nothing follows, all that is looked at is the same. -/
theorem look {f f' : Cursor → Parse α}
    (hsame : ∀ us written leftover written' leftover',
      f' ⟨us, written, leftover⟩ = f' ⟨us, written', leftover'⟩)
    (hf : ∀ us written leftover written' leftover',
      CarriesFrom .none us (f ⟨us, written, leftover⟩) (f' ⟨us, written', leftover'⟩)) :
    Carries .none (get >>= f) (get >>= f') :=
  fun us => .look (fun ts written leftover written' leftover' hts => by
    subst hts
    exact hsame (ts ++ []) written leftover written' leftover') (hf us)

theorem peek {test : List Token → Bool} (hblind : t.Blind test) :
    Carries t (peek test) (peek test) := by
  rw [← bind_pure (Parse.peek test)]
  exact fun us => .peek_bind (fun ts hts => hts ▸ hblind ts) (.pure _)

/-- How many tokens are left may set a limit, and a higher one may be set there. -/
theorem remaining {k k' : Nat → Parse α} (hk : ∀ n n', n ≤ n' → Carries t (k n) (k' n')) :
    Carries t (remaining >>= k) (remaining >>= k') := by
  intro us written leftover x c hrun
  refine ⟨(hk _ _ (Nat.le_refl _) us written leftover x c hrun).1, fun ts rest hts hrest => ?_⟩
  have hle : us.length ≤ (ts ++ t.there).length := by
    rw [hts, List.length_append, List.length_append]
    have := t.length_le
    omega
  obtain ⟨new, left, hwritten, hleft, hgoes⟩ := (hk _ _ hle us written leftover x c hrun).2 ts rest
    hts hrest
  exact ⟨new, left, hwritten, hleft, hgoes⟩

end Carries

end PatchStore.Source.Parse
