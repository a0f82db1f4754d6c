import PatchStore.Json.Printer
import PatchStore.Proofs.Json.Same

/-!
# The text of values that are the same

Two values that are the same need not have one text: the zeros of floats are one number, and the
text of each shows its sign.  Values that are the same and not equal never have one text.

* `renderNumber_inj_of_same` — numbers that are the same, by the texts that they begin.
* `renderOnto_inj_of_same` — values that are the same, likewise.
* `render_eq_iff_of_same` — values that are the same have one text just when they are equal.
-/

namespace PatchStore

namespace Json

/-- The text of a float zero shows its sign, and so it never goes on as that of the other one. -/
theorem renderNumber_zero_inj {x y : Decimal.Binary64} (hx : x.word = 0) (hy : y.word = 0)
    {tail rest : List Char}
    (h : renderNumber (.float x) ++ tail = renderNumber (.float y) ++ rest) :
    x = y ∧ tail = rest := by
  rcases x with ⟨s, w, hw⟩
  rcases y with ⟨t, v, hv⟩
  obtain rfl : w = 0 := hx
  obtain rfl : v = 0 := hy
  cases s <;> cases t <;> simp_all [renderNumber, FloatLayout.render]

/-- Numbers that are the same are equal if their texts go on alike. -/
theorem renderNumber_inj_of_same {a b : Number} (hsame : a.same b = true) {tail rest : List Char}
    (h : renderNumber a ++ tail = renderNumber b ++ rest) : a = b ∧ tail = rest := by
  have hequal : a = b → a = b ∧ tail = rest := by
    rintro rfl
    exact ⟨rfl, List.append_cancel_left h⟩
  cases a with
  | integer m hm =>
    cases b with
    | integer n hn =>
      obtain rfl : m = n := by simpa [Number.same] using hsame
      exact hequal rfl
    | float y => cases hsame
  | float x =>
    cases b with
    | integer n hn => cases hsame
    | float y =>
      rcases Decimal.Binary64.sameNumber_iff.mp hsame with rfl | ⟨hx, hy⟩
      · exact hequal rfl
      · obtain ⟨rfl, htail⟩ := renderNumber_zero_inj hx hy h
        exact ⟨rfl, htail⟩

mutual

/-- Values that are the same are equal if their texts go on alike. -/
theorem renderOnto_inj_of_same : (v w : Json) → same v w = true → (tail rest : List Char) →
    renderOnto v tail = renderOnto w rest → v = w ∧ tail = rest
  | .null, w, hsame, tail, rest, h => by
    cases w with
    | null => simpa [renderOnto] using h
    | _ => cases hsame
  | .bool a, w, hsame, tail, rest, h => by
    cases w with
    | bool b =>
      obtain rfl : a = b := by simpa [same] using hsame
      cases a <;> simpa [renderOnto] using h
    | _ => cases hsame
  | .number a, w, hsame, tail, rest, h => by
    cases w with
    | number b =>
      obtain ⟨rfl, htail⟩ := renderNumber_inj_of_same hsame h
      exact ⟨rfl, htail⟩
    | _ => cases hsame
  | .string a, w, hsame, tail, rest, h => by
    cases w with
    | string b =>
      obtain rfl : a = b := by simpa [same] using hsame
      exact ⟨rfl, List.append_cancel_left h⟩
    | _ => cases hsame
  | .array [], w, hsame, tail, rest, h => by
    cases w with
    | array ys =>
      cases ys with
      | nil => simpa [renderOnto] using h
      | cons y ys => cases hsame
    | _ => cases hsame
  | .array (x :: xs), w, hsame, tail, rest, h => by
    cases w with
    | array ys =>
      cases ys with
      | nil => cases hsame
      | cons y ys =>
        simp only [same, sameItems, Bool.and_eq_true] at hsame
        obtain ⟨rfl, hitems⟩ := renderOnto_inj_of_same x y hsame.1 _ _ (List.tail_eq_of_cons_eq h)
        obtain ⟨rfl, htail⟩ := renderItemsOnto_inj_of_same xs ys hsame.2 _ _ hitems
        exact ⟨rfl, htail⟩
    | _ => cases hsame
  | .object [], w, hsame, tail, rest, h => by
    cases w with
    | object ns =>
      cases ns with
      | nil => simpa [renderOnto] using h
      | cons n ns => cases hsame
    | _ => cases hsame
  | .object ((m, x) :: ms), w, hsame, tail, rest, h => by
    cases w with
    | object ns =>
      cases ns with
      | nil => cases hsame
      | cons n ns =>
        rcases n with ⟨n, y⟩
        simp only [same, sameMembers, Bool.and_eq_true, beq_iff_eq] at hsame
        obtain ⟨⟨rfl, hvalue⟩, hrest⟩ := hsame
        have hafter := List.append_cancel_left (List.tail_eq_of_cons_eq h)
        obtain ⟨rfl, hmembers⟩ :=
          renderOnto_inj_of_same x y hvalue _ _ (List.tail_eq_of_cons_eq hafter)
        obtain ⟨rfl, htail⟩ := renderMembersOnto_inj_of_same ms ns hrest _ _ hmembers
        exact ⟨rfl, htail⟩
    | _ => cases hsame

theorem renderItemsOnto_inj_of_same : (xs ys : List Json) → sameItems xs ys = true →
    (tail rest : List Char) → renderItemsOnto xs tail = renderItemsOnto ys rest →
      xs = ys ∧ tail = rest
  | [], [], _, tail, rest, h => by simpa [renderItemsOnto] using h
  | [], _ :: _, hsame, _, _, _ => by cases hsame
  | _ :: _, [], hsame, _, _, _ => by cases hsame
  | x :: xs, y :: ys, hsame, tail, rest, h => by
    rw [sameItems, Bool.and_eq_true] at hsame
    obtain ⟨rfl, hitems⟩ := renderOnto_inj_of_same x y hsame.1 _ _ (List.tail_eq_of_cons_eq h)
    obtain ⟨rfl, htail⟩ := renderItemsOnto_inj_of_same xs ys hsame.2 _ _ hitems
    exact ⟨rfl, htail⟩

theorem renderMembersOnto_inj_of_same : (ms ns : List (String × Json)) →
    sameMembers ms ns = true → (tail rest : List Char) →
      renderMembersOnto ms tail = renderMembersOnto ns rest → ms = ns ∧ tail = rest
  | [], [], _, tail, rest, h => by simpa [renderMembersOnto] using h
  | [], _ :: _, hsame, _, _, _ => by cases hsame
  | _ :: _, [], hsame, _, _, _ => by cases hsame
  | (m, x) :: ms, (n, y) :: ns, hsame, tail, rest, h => by
    simp only [sameMembers, Bool.and_eq_true, beq_iff_eq] at hsame
    obtain ⟨⟨rfl, hvalue⟩, hrest⟩ := hsame
    have hafter := List.append_cancel_left (List.tail_eq_of_cons_eq h)
    obtain ⟨rfl, hmembers⟩ := renderOnto_inj_of_same x y hvalue _ _ (List.tail_eq_of_cons_eq hafter)
    obtain ⟨rfl, htail⟩ := renderMembersOnto_inj_of_same ms ns hrest _ _ hmembers
    exact ⟨rfl, htail⟩

end

/-- Values that are the same have one text just when they are equal. -/
theorem render_eq_iff_of_same {v w : Json} (hsame : same v w = true) :
    v.render = w.render ↔ v = w := by
  constructor
  · intro h
    exact (renderOnto_inj_of_same v w hsame [] [] (String.ofList_injective h)).1
  · rintro rfl
    rfl

end Json

end PatchStore
