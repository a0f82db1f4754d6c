import PatchStore.Text.Blank
import PatchStore.Text.Split

/-!
# Blanks around text, and the parts of text

A text is what is left of another one without the blanks around it, if blanks can be put around it to
give the other one, and it neither starts nor ends with a blank itself.  There is always one such
text, and trimming gives it.  The parts of a text between separators are those texts without a
separator that give it when they are joined.

* `AllBlank`, `Pads`, `Trimmed`, `TrimsTo` — blanks around a text, and the text without them.
* `trimsTo_iff` — trimming gives the text without the blanks around it.
* `trimList_middle` — a text that is held apart by a character is trimmed at its outer ends.
* `splitAtChar_intercalate`, `intercalate_splitAtChar`, `not_mem_of_mem_splitAtChar` — splitting and
  joining.
-/

namespace PatchStore.Text

/-! ## Blanks around text -/

/-- The text has nothing but blanks in it, if anything. -/
def AllBlank (cs : List Char) : Prop := ∀ c ∈ cs, isBlank c = true

instance (cs : List Char) : Decidable (AllBlank cs) :=
  decidable_of_iff (cs.all isBlank = true) List.all_eq_true

/-- The text neither starts nor ends with a blank. -/
structure Trimmed (cs : List Char) : Prop where
  first : ∀ c ∈ cs.head?, isBlank c = false
  last : ∀ c ∈ cs.getLast?, isBlank c = false

/-- The first text is the second one with blanks around it, if any. -/
def Pads (cs inner : List Char) : Prop :=
  ∃ before after, AllBlank before ∧ AllBlank after ∧ cs = before ++ inner ++ after

/-- The second text is what is left of the first without the blanks around it. -/
structure TrimsTo (cs inner : List Char) : Prop where
  pads : Pads cs inner
  trimmed : Trimmed inner

theorem AllBlank.append {cs ds : List Char} (hcs : AllBlank cs) (hds : AllBlank ds) :
    AllBlank (cs ++ ds) := by
  intro c hc
  rcases List.mem_append.mp hc with hc | hc
  · exact hcs c hc
  · exact hds c hc

/-- A character that is no blank does not stand among blanks. -/
theorem AllBlank.not_mem {cs : List Char} (h : AllBlank cs) {c : Char} (hc : isBlank c = false) :
    c ∉ cs := by
  intro hmem
  exact Bool.false_ne_true (hc.symm.trans (h c hmem))

/-- Text without any blanks is trimmed. -/
theorem trimmed_of_forall {cs : List Char} (h : ∀ c ∈ cs, isBlank c = false) : Trimmed cs where
  first c hc := h c (List.mem_of_mem_head? hc)
  last c hc := h c (List.mem_of_getLast? hc)

theorem allBlank_takeWhile (cs : List Char) : AllBlank (cs.takeWhile isBlank) := by
  induction cs with
  | nil => exact fun c hc => absurd hc List.not_mem_nil
  | cons c cs ih =>
    rw [List.takeWhile_cons]
    split
    · rename_i hblank
      exact List.forall_mem_cons.mpr ⟨hblank, ih⟩
    · exact fun c hc => absurd hc List.not_mem_nil

theorem trimStart_append {before : List Char} (h : AllBlank before) (cs : List Char) :
    trimStart (before ++ cs) = trimStart cs := by
  induction before with
  | nil => rfl
  | cons c before ih =>
    obtain ⟨hc, hbefore⟩ := List.forall_mem_cons.mp h
    rw [List.cons_append, trimStart, List.dropWhile_cons_of_pos hc]
    exact ih hbefore

/-- Nothing is trimmed at a start that is no blank, whatever follows. -/
theorem trimStart_of_first {cs : List Char} (h : ∀ c ∈ cs.head?, isBlank c = false) :
    trimStart cs = cs := by
  cases cs with
  | nil => rfl
  | cons c cs => exact trimStart_eq_self (h c rfl)

theorem trimEnd_append {after : List Char} (h : AllBlank after) (cs : List Char) :
    trimEnd (cs ++ after) = trimEnd cs := by
  have hreverse : AllBlank after.reverse := fun c hc => h c (List.mem_reverse.mp hc)
  rw [trimEnd, List.reverse_append, trimStart_append hreverse, trimEnd]

theorem trimEnd_of_last {cs : List Char} (h : ∀ c ∈ cs.getLast?, isBlank c = false) :
    trimEnd cs = cs := by
  have hreverse : ∀ c ∈ cs.reverse.head?, isBlank c = false := by
    intro c hc
    rw [List.head?_reverse] at hc
    exact h c hc
  rw [trimEnd, trimStart_of_first hreverse, List.reverse_reverse]

theorem trimList_of_trimmed {cs : List Char} (h : Trimmed cs) : trimList cs = cs := by
  rw [trimList, trimStart_of_first h.first, trimEnd_of_last h.last]

/-- What is dropped at the start of a text. -/
theorem exists_eq_append_trimStart (cs : List Char) :
    ∃ before, AllBlank before ∧ cs = before ++ trimStart cs :=
  ⟨cs.takeWhile isBlank, allBlank_takeWhile cs, List.takeWhile_append_dropWhile.symm⟩

theorem first_trimStart (cs : List Char) : ∀ c ∈ (trimStart cs).head?, isBlank c = false := by
  intro c hc
  have h := List.head?_dropWhile_not isBlank cs
  rw [← trimStart, Option.mem_def.mp hc] at h
  simpa using h

/-- What is dropped at the end of a text. -/
theorem exists_eq_trimEnd_append (cs : List Char) :
    ∃ after, AllBlank after ∧ cs = trimEnd cs ++ after := by
  obtain ⟨before, hbefore, hcs⟩ := exists_eq_append_trimStart cs.reverse
  refine ⟨before.reverse, fun c hc => hbefore c (List.mem_reverse.mp hc), ?_⟩
  rw [trimEnd, ← List.reverse_append, ← hcs, List.reverse_reverse]

theorem last_trimEnd (cs : List Char) : ∀ c ∈ (trimEnd cs).getLast?, isBlank c = false := by
  intro c hc
  rw [trimEnd, List.getLast?_reverse] at hc
  exact first_trimStart cs.reverse c hc

/-- Trimming at the end leaves the start. -/
theorem first_trimEnd {cs : List Char} (h : ∀ c ∈ cs.head?, isBlank c = false) :
    ∀ c ∈ (trimEnd cs).head?, isBlank c = false := by
  obtain ⟨after, -, hcs⟩ := exists_eq_trimEnd_append cs
  intro c hc
  refine h c ?_
  rw [hcs, List.head?_append, Option.mem_def.mp hc]
  rfl

/-- Trimming gives the text without the blanks around it. -/
theorem trimsTo_trimList (cs : List Char) : TrimsTo cs (trimList cs) where
  pads := by
    obtain ⟨before, hbefore, hstart⟩ := exists_eq_append_trimStart cs
    obtain ⟨after, hafter, hend⟩ := exists_eq_trimEnd_append (trimStart cs)
    refine ⟨before, after, hbefore, hafter, ?_⟩
    rw [trimList, List.append_assoc, ← hend]
    exact hstart
  trimmed := ⟨first_trimEnd (first_trimStart cs), last_trimEnd _⟩

theorem AllBlank.trimStart_eq_nil {cs : List Char} (h : AllBlank cs) : trimStart cs = [] := by
  have happend := trimStart_append h []
  rwa [List.append_nil] at happend

theorem trimList_append {before after : List Char} (hbefore : AllBlank before)
    (hafter : AllBlank after) (cs : List Char) :
    trimList (before ++ cs ++ after) = trimList cs := by
  rw [List.append_assoc, trimList, trimStart_append hbefore]
  obtain ⟨start, hstart, hcs⟩ := exists_eq_append_trimStart cs
  rcases hinner : trimStart cs with _ | ⟨c, ds⟩
  · -- there are blanks only, and they are dropped at the start
    have hblank : AllBlank (cs ++ after) := by
      rw [hcs, hinner, List.append_nil]
      exact hstart.append hafter
    rw [hblank.trimStart_eq_nil, trimList, hinner]
  · have hfirst : isBlank c = false := by
      have h := first_trimStart cs
      rw [hinner] at h
      exact h c rfl
    have hdrop : trimStart (cs ++ after) = trimStart cs ++ after := by
      rw [hcs, List.append_assoc, trimStart_append hstart, trimStart_append hstart, hinner,
        trimStart_eq_self hfirst]
      exact trimStart_eq_self hfirst
    rw [hdrop, trimEnd_append hafter, trimList]

/-- There is one text that is left without the blanks around it. -/
theorem trimsTo_iff {cs inner : List Char} : TrimsTo cs inner ↔ trimList cs = inner := by
  constructor
  · rintro ⟨⟨before, after, hbefore, hafter, rfl⟩, htrimmed⟩
    rw [trimList_append hbefore hafter, trimList_of_trimmed htrimmed]
  · rintro rfl
    exact trimsTo_trimList cs

instance (cs inner : List Char) : Decidable (TrimsTo cs inner) :=
  decidable_of_iff (trimList cs = inner) trimsTo_iff.symm

theorem trimmed_iff {cs : List Char} : Trimmed cs ↔ trimList cs = cs := by
  constructor
  · exact trimList_of_trimmed
  · intro h
    exact (trimsTo_iff.mpr h).trimmed

instance (cs : List Char) : Decidable (Trimmed cs) :=
  decidable_of_iff (trimList cs = cs) trimmed_iff.symm

theorem trimList_eq_nil_iff {cs : List Char} : trimList cs = [] ↔ AllBlank cs := by
  constructor
  · intro h
    obtain ⟨before, after, hbefore, hafter, hcs⟩ := (trimsTo_trimList cs).pads
    rw [h, List.append_nil] at hcs
    exact hcs ▸ hbefore.append hafter
  · intro h
    rw [trimList, h.trimStart_eq_nil]
    rfl

/-- Text around a character that is no blank has its ends in the two parts. -/
theorem trimmed_middle {c : Char} (hc : isBlank c = false) {cs ds : List Char}
    (hfirst : ∀ d ∈ cs.head?, isBlank d = false) (hlast : ∀ d ∈ ds.getLast?, isBlank d = false) :
    Trimmed (cs ++ c :: ds) where
  first d hd := by
    cases cs with
    | nil =>
      cases hd
      exact hc
    | cons e cs => exact hfirst d hd
  last d hd := by
    rw [List.getLast?_append, List.getLast?_cons] at hd
    rcases hend : ds.getLast? with _ | e
    · rw [hend] at hd
      cases hd
      exact hc
    · rw [hend] at hd
      cases hd
      exact hlast e hend

/-- Text around a character that is no blank is trimmed at its outer ends only. -/
theorem trimList_middle {c : Char} (hc : isBlank c = false) (cs ds : List Char) :
    trimList (cs ++ c :: ds) = trimStart cs ++ c :: trimEnd ds := by
  obtain ⟨before, hbefore, hcs⟩ := exists_eq_append_trimStart cs
  obtain ⟨after, hafter, hds⟩ := exists_eq_trimEnd_append ds
  refine trimsTo_iff.mp ⟨⟨before, after, hbefore, hafter, ?_⟩,
    trimmed_middle hc (first_trimStart cs) (last_trimEnd ds)⟩
  calc cs ++ c :: ds = (before ++ trimStart cs) ++ c :: (trimEnd ds ++ after) := by
        rw [← hcs, ← hds]
    _ = before ++ (trimStart cs ++ c :: trimEnd ds) ++ after := by simp

theorem trimList_trimStart (cs : List Char) : trimList (trimStart cs) = trimList cs := by
  rw [trimList, trimStart_of_first (first_trimStart cs), trimList]

theorem trimList_trimEnd (cs : List Char) : trimList (trimEnd cs) = trimList cs := by
  obtain ⟨after, hafter, hcs⟩ := exists_eq_trimEnd_append cs
  have hnone : AllBlank [] := fun c hc => absurd hc List.not_mem_nil
  have hpadded := trimList_append hnone hafter (trimEnd cs)
  rw [List.nil_append, ← hcs] at hpadded
  exact hpadded.symm

/-! ## Parts -/

theorem splitAtChar_append {separator : Char} {part : List Char} (h : separator ∉ part)
    (rest : List Char) :
    splitAtChar separator (part ++ separator :: rest) = part :: splitAtChar separator rest := by
  induction part with
  | nil => rw [List.nil_append, splitAtChar, if_pos rfl]
  | cons c part ih =>
    have hc : c ≠ separator := (List.ne_of_not_mem_cons h).symm
    rw [List.cons_append, splitAtChar, if_neg hc, ih (List.not_mem_of_not_mem_cons h)]

/-- Parts without a separator are found again. -/
theorem splitAtChar_intercalate {separator : Char} {parts : List (List Char)} (hne : parts ≠ [])
    (h : ∀ part ∈ parts, separator ∉ part) :
    splitAtChar separator ([separator].intercalate parts) = parts := by
  induction parts with
  | nil => exact absurd rfl hne
  | cons part parts ih =>
    obtain ⟨hpart, hparts⟩ := List.forall_mem_cons.mp h
    cases parts with
    | nil =>
      rw [List.intercalate_singleton]
      exact splitAtChar_of_not_mem hpart
    | cons next parts =>
      rw [List.intercalate_cons_cons, List.append_assoc, List.singleton_append,
        splitAtChar_append hpart, ih (List.cons_ne_nil _ _) hparts]

/-- The parts of a text, joined again, are the text. -/
theorem intercalate_splitAtChar (separator : Char) (cs : List Char) :
    [separator].intercalate (splitAtChar separator cs) = cs := by
  induction cs with
  | nil => rfl
  | cons c cs ih =>
    obtain ⟨part, parts, hsplit⟩ := exists_splitAtChar_eq_cons separator cs
    rw [hsplit] at ih
    rw [splitAtChar]
    split
    · rename_i hc
      rw [hsplit, List.intercalate_cons_cons, ih, hc]
      rfl
    · rw [hsplit]
      cases parts with
      | nil =>
        rw [List.intercalate_singleton] at ih ⊢
        exact congrArg (c :: ·) ih
      | cons next parts =>
        rw [List.intercalate_cons_cons] at ih ⊢
        exact congrArg (c :: ·) ih

theorem not_mem_of_mem_splitAtChar {separator : Char} {cs part : List Char}
    (h : part ∈ splitAtChar separator cs) : separator ∉ part := by
  induction cs generalizing part with
  | nil =>
    rw [List.mem_singleton.mp h]
    exact List.not_mem_nil
  | cons c cs ih =>
    obtain ⟨first, parts, hsplit⟩ := exists_splitAtChar_eq_cons separator cs
    rw [splitAtChar, hsplit] at h
    rw [hsplit] at ih
    split at h
    · rcases List.mem_cons.mp h with rfl | h
      · exact List.not_mem_nil
      · exact ih h
    · rename_i hc
      rcases List.mem_cons.mp h with rfl | h
      · exact List.not_mem_cons_of_ne_of_not_mem (Ne.symm hc) (ih List.mem_cons_self)
      · exact ih (List.mem_cons_of_mem _ h)

end PatchStore.Text
