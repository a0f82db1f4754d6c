import PatchStore.Proofs.Text.FinalSigma

/-!
# Lower-casing and the case of ASCII letters

The case of an ASCII letter never shows in the lower case of a text.  Both forms of the letter have
one lower case, neither is a sigma, and a sigma beside it cannot tell them apart.

* `toLower_eq_self_or_mem` — only the 26 capitals of ASCII have another ASCII lower case.
* `lowerEach_toLower`, `sources_toLower` — the lowered characters of a text whose ASCII letters are
  in lower case, and where they come from.
* `lowerCase_toLower` — putting the ASCII letters of a text in lower case does not change its lower
  case.
* `EqIgnoringCase` — texts that differ in the case of ASCII letters only.
-/

namespace PatchStore.Text

/-- The capital letters of ASCII. -/
def asciiCapitals : List Char := "ABCDEFGHIJKLMNOPQRSTUVWXYZ".toList

/-- Only the capitals of ASCII have another ASCII lower case. -/
theorem toLower_eq_self_or_mem (c : Char) : c.toLower = c ∨ c ∈ asciiCapitals := by
  by_cases hc : c.val ≥ 'A'.val ∧ c.val ≤ 'Z'.val
  · right
    have hall : ((List.range' 65 26).all fun n => asciiCapitals.contains (Char.ofNat n)) = true := by
      decide
    have hlow : 65 ≤ c.toNat := hc.1
    have hhigh : c.toNat ≤ 90 := hc.2
    have hcode : c.toNat ∈ List.range' 65 26 := List.mem_range'_1.mpr ⟨hlow, by omega⟩
    exact List.contains_iff_mem.mp (of_all_codes (fun c => asciiCapitals.contains c) hall hcode)
  · exact Or.inl (dif_neg hc)

/-- What does not tell the capitals of ASCII from their lower case does not see the case of ASCII
letters at all. -/
theorem apply_toLower {α : Type} {f : Char → α}
    (h : asciiCapitals.map (f ·.toLower) = asciiCapitals.map f) (c : Char) : f c.toLower = f c := by
  rcases toLower_eq_self_or_mem c with hc | hc
  · rw [hc]
  · exact List.map_inj_left.mp h c hc

theorem lowerChar_toLower (c : Char) : lowerChar c.toLower = lowerChar c :=
  apply_toLower (by decide) c

theorem toLower_eq_sigma_iff (c : Char) : c.toLower = 'Σ' ↔ c = 'Σ' := by
  have h : decide (c.toLower = 'Σ') = decide (c = 'Σ') :=
    apply_toLower (f := fun d => decide (d = 'Σ')) (by decide) c
  exact decide_eq_decide.mp h

theorem lowerEach_toLower (cs : List Char) : lowerEach (cs.map Char.toLower) = lowerEach cs := by
  rw [lowerEach, lowerEach, List.flatMap_map, funext lowerChar_toLower]

theorem sources_toLower (cs : List Char) :
    sources (cs.map Char.toLower) = (sources cs).map Char.toLower := by
  simp only [sources, List.flatMap_map, List.map_flatMap, List.map_map, lowerChar_toLower,
    Function.comp_def]

theorem toList_toLower (s : String) : s.toLower.toList = s.toList.map Char.toLower :=
  String.toList_map

/-- The capital sigmas of a text stay where they are when its ASCII letters are put in lower
case. -/
theorem capitalSigmaAt_toLower (cs : List Char) (i : Nat) :
    CapitalSigmaAt (cs.map Char.toLower) i ↔ CapitalSigmaAt cs i := by
  rw [CapitalSigmaAt, CapitalSigmaAt, sources_toLower, List.getElem?_map, Option.map_eq_some_iff]
  simp only [toLower_eq_sigma_iff, exists_eq_right]

/-- Putting the ASCII letters of a text in lower case does not change its lower case. -/
theorem lowerCase_toLower (s : String) : lowerCase s.toLower = lowerCase s := by
  have heach : lowerEach s.toLower.toList = lowerEach s.toList := by
    rw [toList_toLower, lowerEach_toLower]
  refine (lowerCase_eq_iff heach).mpr fun i _ => ?_
  rw [toList_toLower]
  exact capitalSigmaAt_toLower s.toList i

/-- Texts that differ only in the case of ASCII letters have one lower case. -/
theorem lowerCase_eq_of_toLower_eq {s t : String} (h : s.toLower = t.toLower) :
    lowerCase s = lowerCase t := by
  rw [← lowerCase_toLower s, h, lowerCase_toLower t]

/-! ## Texts that differ in case -/

/-- The texts differ in the case of ASCII letters only. -/
def EqIgnoringCase (cs ds : List Char) : Prop := cs.map Char.toLower = ds.map Char.toLower

instance (cs ds : List Char) : Decidable (EqIgnoringCase cs ds) :=
  inferInstanceAs (Decidable (_ = _))

/-- What holds of the characters of a text in any case holds of the characters of each text that
differs in case only. -/
theorem EqIgnoringCase.forall {cs ds : List Char} (h : EqIgnoringCase cs ds) {f : Char → Bool}
    (hf : asciiCapitals.map (f ·.toLower) = asciiCapitals.map f) (hds : ∀ d ∈ ds, f d = false) :
    ∀ c ∈ cs, f c = false := by
  intro c hc
  have hlower : c.toLower ∈ ds.map Char.toLower := h ▸ List.mem_map_of_mem hc
  obtain ⟨d, hd, heq⟩ := List.mem_map.mp hlower
  rw [← apply_toLower hf c, ← heq, apply_toLower hf d]
  exact hds d hd

end PatchStore.Text
