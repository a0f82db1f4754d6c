import PatchStore.Proofs.Text.CaseTables

/-!
# The final sigma

The lower case of a whole text is that of its characters, each lowered for itself, except at the
capital sigmas that end a word.  Which letters end a word can be told from the lowered characters:
what a sigma sees of its neighbours does not depend on their case.

So if the characters of two texts have the same lower case, one by one, the texts themselves have
the same lower case just when the capital sigmas that end a word stand at the same places.

* `lowerEach`, `sources` — the lowered characters of a text, and the characters that they come from.
* `meetsCased_lowerEach`, `meetsCased_reverse_lowerEach` — what a sigma sees ahead of it and behind
  it.
* `getElem?_lowerFrom` — the lower case of a text, place by place.
* `lowerCase_eq_iff` — when two texts have the same lower case.
-/

namespace PatchStore.Text

/-! ## Characters lowered one by one -/

/-- The characters of a text, each lowered wherever it stands. -/
def lowerEach (cs : List Char) : List Char := cs.flatMap lowerChar

/-- The characters of a text, each as often as its lower case has characters. -/
def sources (cs : List Char) : List Char := cs.flatMap fun c => (lowerChar c).map fun _ => c

theorem lowerEach_cons (c : Char) (cs : List Char) :
    lowerEach (c :: cs) = lowerChar c ++ lowerEach cs := List.flatMap_cons

theorem lowerEach_append (cs ds : List Char) :
    lowerEach (cs ++ ds) = lowerEach cs ++ lowerEach ds := List.flatMap_append

theorem sources_cons (c : Char) (cs : List Char) :
    sources (c :: cs) = (lowerChar c).map (fun _ => c) ++ sources cs := List.flatMap_cons

/-! ## What a sigma sees of its neighbours -/

/-- What is seen of a text does not change if every character of it is replaced by characters that
look the same whatever follows them. -/
theorem meetsCased_flatMap {f : Char → List Char}
    (hf : ∀ c rest, meetsCased (f c ++ rest) = meetsCased (c :: rest)) (cs : List Char) :
    meetsCased (cs.flatMap f) = meetsCased cs := by
  induction cs with
  | nil => rfl
  | cons c cs ih => rw [List.flatMap_cons, hf, meetsCased, meetsCased, ih]

/-- The dotted capital I is lowered to a cased letter and a case-ignorable dot. -/
theorem case_of_dottedI : lowerChar 'İ' = ['i', '\u0307'] ∧ isCaseIgnorable 'İ' = false ∧
    isCased 'İ' = true ∧ isCaseIgnorable 'i' = false ∧ isCased 'i' = true ∧
    isCaseIgnorable '\u0307' = true := by
  decide

theorem meetsCased_lowerChar_append (c : Char) (rest : List Char) :
    meetsCased (lowerChar c ++ rest) = meetsCased (c :: rest) := by
  by_cases hc : c = 'İ'
  · subst hc
    simp [meetsCased, case_of_dottedI]
  · obtain ⟨d, hlower, hignorable, hcased⟩ := exists_lowerChar hc
    simp [meetsCased, hlower, hignorable, hcased]

theorem meetsCased_reverse_lowerChar_append (c : Char) (rest : List Char) :
    meetsCased ((lowerChar c).reverse ++ rest) = meetsCased (c :: rest) := by
  by_cases hc : c = 'İ'
  · subst hc
    simp [meetsCased, case_of_dottedI]
  · obtain ⟨d, hlower, hignorable, hcased⟩ := exists_lowerChar hc
    simp [meetsCased, hlower, hignorable, hcased]

/-- A sigma sees the same ahead of it when the text is lowered. -/
theorem meetsCased_lowerEach (cs : List Char) : meetsCased (lowerEach cs) = meetsCased cs :=
  meetsCased_flatMap meetsCased_lowerChar_append cs

/-- A sigma sees the same behind it when the text is lowered. -/
theorem meetsCased_reverse_lowerEach (cs : List Char) :
    meetsCased (lowerEach cs).reverse = meetsCased cs.reverse := by
  rw [lowerEach, List.reverse_flatMap]
  exact meetsCased_flatMap meetsCased_reverse_lowerChar_append cs.reverse

/-! ## The lower case of a text, place by place -/

/-- A letter at this place of a text ends a word: there is a cased letter before it and none after
it, but for case-ignorable characters in between. -/
def EndsWord (cs : List Char) (i : Nat) : Prop :=
  meetsCased (cs.take i).reverse = true ∧ meetsCased (cs.drop (i + 1)) = false

instance (cs : List Char) (i : Nat) : Decidable (EndsWord cs i) :=
  inferInstanceAs (Decidable (_ ∧ _))

/-- What stands at this place when the characters of a text are lowered comes from a capital sigma.
-/
def CapitalSigmaAt (cs : List Char) (i : Nat) : Prop := (sources cs)[i]? = some 'Σ'

instance (cs : List Char) (i : Nat) : Decidable (CapitalSigmaAt cs i) :=
  inferInstanceAs (Decidable (_ = _))

/-- The lower case of a capital sigma, wherever it stands. -/
theorem lowerChar_sigma : lowerChar 'Σ' = ['σ'] := by
  decide

theorem length_lowerAt (before : List Char) (c : Char) (after : List Char) :
    (lowerAt before c after).length = (lowerChar c).length := by
  by_cases hc : c = 'Σ'
  · rw [hc, lowerChar_sigma]
    rfl
  · rw [lowerAt, if_neg hc]

/-- Whether a sigma ends a word can be told from the lowered characters. -/
theorem endsWord_lowerEach (pre cs : List Char) :
    EndsWord (lowerEach (pre ++ 'Σ' :: cs)) (lowerEach pre).length ↔
      meetsCased pre.reverse = true ∧ meetsCased cs = false := by
  have htake : (lowerEach (pre ++ 'Σ' :: cs)).take (lowerEach pre).length = lowerEach pre := by
    rw [lowerEach_append, List.take_left]
  have hdrop : (lowerEach (pre ++ 'Σ' :: cs)).drop ((lowerEach pre).length + 1) =
      lowerEach cs := by
    rw [lowerEach_append, lowerEach_cons, lowerChar_sigma, ← List.drop_drop, List.drop_left]
    rfl
  rw [EndsWord, htake, hdrop, meetsCased_reverse_lowerEach, meetsCased_lowerEach]

/-- What stands where a character is lowered comes from that character. -/
theorem capitalSigmaAt_cons_of_lt {c : Char} (cs : List Char) {i : Nat}
    (hi : i < (lowerChar c).length) : CapitalSigmaAt (c :: cs) i ↔ c = 'Σ' := by
  rw [CapitalSigmaAt, sources_cons, List.getElem?_append_left (by rwa [List.length_map]),
    List.getElem?_map, List.getElem?_eq_getElem hi, Option.map_some, Option.some_inj]

theorem capitalSigmaAt_cons_of_le {c : Char} (cs : List Char) {i : Nat}
    (hi : (lowerChar c).length ≤ i) :
    CapitalSigmaAt (c :: cs) i ↔ CapitalSigmaAt cs (i - (lowerChar c).length) := by
  rw [CapitalSigmaAt, sources_cons, List.getElem?_append_right (by rwa [List.length_map]),
    List.length_map]
  rfl

/-- The lower case of one character in a text, place by place. -/
theorem getElem?_lowerAt (pre cs : List Char) (c : Char) {i : Nat} (hi : i < (lowerChar c).length) :
    (lowerAt pre.reverse c cs)[i]? =
      if c = 'Σ' ∧ EndsWord (lowerEach (pre ++ c :: cs)) ((lowerEach pre).length + i) then some 'ς'
      else (lowerChar c)[i]? := by
  by_cases hc : c = 'Σ'
  · subst hc
    obtain rfl : i = 0 := by
      rw [lowerChar_sigma] at hi
      exact Nat.lt_one_iff.mp hi
    have hends : EndsWord (lowerEach (pre ++ 'Σ' :: cs)) ((lowerEach pre).length + 0) ↔
        (meetsCased pre.reverse && !meetsCased cs) = true := by
      rw [Nat.add_zero, endsWord_lowerEach, Bool.and_eq_true, Bool.not_eq_true']
    simp only [hends, lowerAt, lowerChar_sigma, if_true, true_and]
    split <;> rfl
  · rw [lowerAt, if_neg hc, if_neg fun h => hc h.1]

/-- The lower case of the rest of a text after what came before: the final form at a capital sigma
that ends a word, and elsewhere the lowered characters. -/
theorem getElem?_lowerFrom (pre cs : List Char) (i : Nat) :
    (lowerFrom pre.reverse cs)[i]? =
      if CapitalSigmaAt cs i ∧ EndsWord (lowerEach (pre ++ cs)) ((lowerEach pre).length + i) then
        some 'ς'
      else (lowerEach cs)[i]? := by
  -- a sigma looks back at all that came before, so `pre` grows with every character
  induction cs generalizing pre i with
  | nil => simp [CapitalSigmaAt, sources, lowerEach]
  | cons c cs ih =>
    have hlength := length_lowerAt pre.reverse c cs
    rw [lowerFrom_cons, lowerEach_cons c cs]
    by_cases hi : i < (lowerChar c).length
    · rw [List.getElem?_append_left (hlength ▸ hi), List.getElem?_append_left hi,
        getElem?_lowerAt pre cs c hi]
      simp only [capitalSigmaAt_cons_of_lt cs hi]
    · have hi : (lowerChar c).length ≤ i := Nat.le_of_not_lt hi
      have hrest := ih (pre ++ [c]) (i - (lowerChar c).length)
      have hplace : (lowerEach (pre ++ [c])).length + (i - (lowerChar c).length) =
          (lowerEach pre).length + i := by
        simp only [lowerEach, List.flatMap_append, List.flatMap_singleton, List.length_append]
        omega
      rw [List.reverse_append, List.append_assoc, hplace] at hrest
      rw [List.getElem?_append_right (hlength ▸ hi), List.getElem?_append_right hi, hlength]
      simp only [capitalSigmaAt_cons_of_le cs hi]
      exact hrest

/-! ## Two texts -/

/-- Where a capital sigma was lowered stands a small one. -/
theorem getElem?_lowerEach_of_capitalSigmaAt {cs : List Char} {i : Nat} (h : CapitalSigmaAt cs i) :
    (lowerEach cs)[i]? = some 'σ' := by
  induction cs generalizing i with
  | nil => cases h
  | cons c cs ih =>
    rw [lowerEach_cons]
    by_cases hi : i < (lowerChar c).length
    · obtain rfl := (capitalSigmaAt_cons_of_lt cs hi).mp h
      rw [lowerChar_sigma] at hi ⊢
      obtain rfl : i = 0 := Nat.lt_one_iff.mp hi
      rfl
    · have hi : (lowerChar c).length ≤ i := Nat.le_of_not_lt hi
      rw [List.getElem?_append_right hi]
      exact ih ((capitalSigmaAt_cons_of_le cs hi).mp h)

/-- The lower case of a text, place by place. -/
theorem getElem?_lowerCase (s : String) (i : Nat) :
    (lowerCase s).toList[i]? =
      if CapitalSigmaAt s.toList i ∧ EndsWord (lowerEach s.toList) i then some 'ς'
      else (lowerEach s.toList)[i]? := by
  have h := getElem?_lowerFrom [] s.toList i
  have hplace : (lowerEach []).length + i = i := Nat.zero_add i
  rw [hplace] at h
  rw [lowerCase, String.toList_ofList]
  exact h

/-- Of the letters that end a word, the same come from capital sigmas in both texts. -/
def SameFinalSigmas (s t : String) : Prop :=
  ∀ i, EndsWord (lowerEach s.toList) i →
    (CapitalSigmaAt s.toList i ↔ CapitalSigmaAt t.toList i)

/-- A capital sigma that ends a word shows in the lower case of the text. -/
theorem capitalSigmaAt_of_lowerCase_eq {s t : String}
    (heach : lowerEach s.toList = lowerEach t.toList) (h : lowerCase s = lowerCase t) {i : Nat}
    (hends : EndsWord (lowerEach s.toList) i) (hs : CapitalSigmaAt s.toList i) :
    CapitalSigmaAt t.toList i := by
  refine Classical.byContradiction fun ht => ?_
  have hplace := getElem?_lowerCase s i
  rw [if_pos ⟨hs, hends⟩, h, getElem?_lowerCase t i, if_neg fun h => ht h.1, ← heach,
    getElem?_lowerEach_of_capitalSigmaAt hs] at hplace
  cases hplace

/-- Two texts whose characters have the same lower case, one by one, have the same lower case just
when of the letters that end a word the same are capital sigmas. -/
theorem lowerCase_eq_iff {s t : String} (heach : lowerEach s.toList = lowerEach t.toList) :
    lowerCase s = lowerCase t ↔ SameFinalSigmas s t := by
  constructor
  · intro h i hends
    exact ⟨capitalSigmaAt_of_lowerCase_eq heach h hends,
      capitalSigmaAt_of_lowerCase_eq heach.symm h.symm (heach ▸ hends)⟩
  · intro h
    refine String.toList_injective (List.ext_getElem? fun i => ?_)
    rw [getElem?_lowerCase, getElem?_lowerCase, ← heach]
    by_cases hends : EndsWord (lowerEach s.toList) i
    · simp only [h i hends]
    · rw [if_neg fun h => hends h.2, if_neg fun h => hends h.2]

end PatchStore.Text
