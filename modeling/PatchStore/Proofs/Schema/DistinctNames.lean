import PatchStore.Proofs.Schema.SerializedNames
import PatchStore.Proofs.Text.Trimming

/-!
# Stored names tell identifiers apart

The usual identifier of a field is made of words with single underscores between them.  No rename rule
gives one stored name to two such identifiers, for the identifier can be read back from the stored
name.  Letters change their case in one direction only, so most rules are undone character by
character.  The two rules that drop underscores leave a capital where each word starts, and there are
no other capitals; under the rule `camelCase` the first word has none, and needs none.

* `Word`, `SnakeName` — words, and identifiers that are made of words.
* `separate_flatMap_capitalized` — the words are found again by their capitals.
* `restoreChars_applyChars` — every rule is undone.
* `apply_eq_apply_iff` — two such identifiers have one stored name only if they are the same;
  `apply_postTitle2_ne` has two that differ by an underscore.
-/

namespace PatchStore

/-! ## Identifiers made of words -/

/-- A word: a small letter, and small letters and digits after it. -/
structure Word where
  first : Char
  rest : List Char
  isLower_first : first.isLower = true
  rest_fits : ∀ c ∈ rest, c.isLower = true ∨ c.isDigit = true

/-- The characters of a word. -/
def Word.chars (w : Word) : List Char := w.first :: w.rest

/-- The word with the given characters, which are tested. -/
def Word.spelled (first : Char) (rest : List Char) (hfirst : first.isLower = true)
    (hrest : (rest.all fun c => c.isLower || c.isDigit) = true) : Word where
  first := first
  rest := rest
  isLower_first := hfirst
  rest_fits c hc := by
    have hchar := List.all_eq_true.mp hrest c hc
    simpa using hchar

/-- An identifier that is made of one word or more. -/
structure SnakeName where
  first : Word
  further : List Word

namespace SnakeName

/-- The words of the identifier. -/
def words (n : SnakeName) : List Word := n.first :: n.further

/-- The characters of the identifier: its words with single underscores between them. -/
def chars (n : SnakeName) : List Char := ['_'].intercalate (n.words.map Word.chars)

/-- The identifier as text. -/
def text (n : SnakeName) : String := String.ofList n.chars

end SnakeName

/-! ## Characters of identifiers -/

/-- The character may stand in an identifier that is made of words. -/
def IsNameChar (c : Char) : Prop := c.isLower = true ∨ c.isDigit = true ∨ c = '_'

/-- The code points of these characters. -/
def nameCodes : List Nat := List.range' 97 26 ++ List.range' 48 10 ++ [95]

theorem IsNameChar.mem_nameCodes {c : Char} (h : IsNameChar c) : c.toNat ∈ nameCodes := by
  simp only [nameCodes, List.mem_append, List.mem_range'_1, List.mem_singleton]
  rcases h with hlower | hdigit | rfl
  · delta Char.isLower at hlower
    have hbounds : 97 ≤ c.toNat ∧ c.toNat ≤ 122 := by
      simpa [UInt32.le_iff_toNat_le] using hlower
    omega
  · have hbounds : 48 ≤ c.toNat ∧ c.toNat ≤ 57 := Char.isDigit_iff_toNat.mp hdigit
    omega
  · exact Or.inr rfl

/-- Characters of identifiers are no capitals, and the lower case of their upper case. -/
theorem IsNameChar.toLower_toUpper {c : Char} (h : IsNameChar c) :
    c.isUpper = false ∧ c.toUpper.toLower = c := by
  have hchar := Text.of_all_codes (fun c => !c.isUpper && c.toUpper.toLower == c) (by decide)
    h.mem_nameCodes
  simpa using hchar

/-- A small letter has a capital. -/
theorem isUpper_toUpper {c : Char} (h : c.isLower = true) : c.toUpper.isUpper = true := by
  have hchar := Text.of_all_codes (fun c => !c.isLower || c.toUpper.isUpper) (by decide)
    (IsNameChar.mem_nameCodes (Or.inl h))
  simpa [h] using hchar

/-- The characters of a word are letters and digits. -/
theorem Word.isLower_or_isDigit {w : Word} {c : Char} (h : c ∈ w.chars) :
    c.isLower = true ∨ c.isDigit = true := by
  rcases List.mem_cons.mp h with rfl | hrest
  · exact Or.inl w.isLower_first
  · exact w.rest_fits c hrest

theorem Word.isNameChar {w : Word} {c : Char} (h : c ∈ w.chars) : IsNameChar c :=
  (Word.isLower_or_isDigit h).imp_right Or.inl

theorem Word.underscore_not_mem (w : Word) : '_' ∉ w.chars := by
  intro h
  exact absurd (Word.isLower_or_isDigit h) (by decide)

namespace SnakeName

/-- Words after others, with an underscore before each. -/
def underscored (ws : List Word) : List Char := ws.flatMap fun w => '_' :: w.chars

theorem intercalate_eq (w : Word) (ws : List Word) :
    ['_'].intercalate ((w :: ws).map Word.chars) = w.chars ++ underscored ws := by
  induction ws generalizing w with
  | nil => simp [underscored]
  | cons v ws ih =>
    rw [List.map_cons, List.map_cons, List.intercalate_cons_cons, ← List.map_cons, ih]
    simp [underscored]

/-- The identifier begins with its first word, and an underscore stands before each further one. -/
theorem chars_eq (n : SnakeName) : n.chars = n.first.chars ++ underscored n.further :=
  intercalate_eq n.first n.further

theorem isNameChar {n : SnakeName} {c : Char} (h : c ∈ n.chars) : IsNameChar c := by
  rw [chars_eq, List.mem_append, underscored, List.mem_flatMap] at h
  rcases h with hfirst | ⟨w, -, hw⟩
  · exact Word.isNameChar hfirst
  · rcases List.mem_cons.mp hw with rfl | hw
    · exact Or.inr (Or.inr rfl)
    · exact Word.isNameChar hw

/-- What stands between the underscores are the words. -/
theorem splitAtChar_chars (n : SnakeName) :
    Text.splitAtChar '_' n.chars = n.words.map Word.chars := by
  refine Text.splitAtChar_intercalate (by simp [words]) ?_
  intro part hpart
  obtain ⟨w, -, rfl⟩ := List.mem_map.mp hpart
  exact w.underscore_not_mem

end SnakeName

/-! ## Reading identifiers back -/

namespace RenameRule

/-- A capital becomes an underscore and its small letter. -/
def separateChar (c : Char) : List Char := if c.isUpper then ['_', c.toLower] else [c]

/-- The characters with an underscore and a small letter for each capital. -/
def separate (cs : List Char) : List Char := cs.flatMap separateChar

/-- An underscore for a hyphen. -/
def unhyphenate (c : Char) : Char := if c = '-' then '_' else c

/-- The identifier that the rule made a stored name of, if it was made of words. -/
def restoreChars (rule : RenameRule) (cs : List Char) : List Char :=
  match rule with
  | .keep | .snake | .lower => cs
  | .upper | .screamingSnake => cs.map Char.toLower
  | .kebab => cs.map unhyphenate
  | .screamingKebab => cs.map fun c => unhyphenate c.toLower
  | .pascal => (separate cs).tail
  | .camel => separate cs

theorem separate_append (as bs : List Char) : separate (as ++ bs) = separate as ++ separate bs :=
  List.flatMap_append

/-- Characters without capitals stay as they are. -/
theorem separate_eq_self {cs : List Char} (h : ∀ c ∈ cs, c.isUpper = false) :
    separate cs = cs := by
  induction cs with
  | nil => rfl
  | cons c cs ih =>
    obtain ⟨hfirst, hrest⟩ := List.forall_mem_cons.mp h
    rw [separate, List.flatMap_cons, ← separate, ih hrest, separateChar, hfirst]
    rfl

theorem separate_chars (w : Word) : separate w.chars = w.chars :=
  separate_eq_self fun _ hc => (Word.isNameChar hc).toLower_toUpper.1

/-- The capital of a word becomes an underscore before the word. -/
theorem separate_capitalized (w : Word) : separate (capitalized w.chars) = '_' :: w.chars := by
  have hrest : separate w.rest = w.rest := separate_eq_self fun c hc =>
    (Word.isNameChar (List.mem_cons_of_mem w.first hc)).toLower_toUpper.1
  have hfirst : IsNameChar w.first := Or.inl w.isLower_first
  rw [Word.chars, capitalized, separate, List.flatMap_cons, ← separate, hrest, separateChar,
    if_pos (isUpper_toUpper w.isLower_first), hfirst.toLower_toUpper.2]
  rfl

/-- The words are found again by their capitals. -/
theorem separate_flatMap_capitalized (ws : List Word) :
    separate ((ws.map Word.chars).flatMap capitalized) = SnakeName.underscored ws := by
  induction ws with
  | nil => rfl
  | cons w ws ih =>
    rw [List.map_cons, List.flatMap_cons, separate_append, separate_capitalized, ih]
    rfl

/-- The scan for capitals writes each word of an identifier with a capital. -/
theorem capitalize_chars (n : SnakeName) :
    capitalize true n.chars = (n.words.map Word.chars).flatMap capitalized := by
  rw [capitalize_eq_pascalCase, pascalCase, n.splitAtChar_chars]

/-- With its first character small again, the first word has no capital. -/
theorem uncapitalize_capitalize_chars (n : SnakeName) :
    uncapitalize (capitalize true n.chars) =
      n.first.chars ++ (n.further.map Word.chars).flatMap capitalized := by
  have hfirst : IsNameChar n.first.first := Or.inl n.first.isLower_first
  rw [capitalize_chars, SnakeName.words, List.map_cons, List.flatMap_cons, Word.chars, capitalized,
    List.cons_append, uncapitalize, hfirst.toLower_toUpper.2]
  rfl

/-- What undoes a change of each character of identifiers undoes it on identifiers. -/
theorem map_map_chars (change undo : Char → Char) (h : ∀ c, IsNameChar c → undo (change c) = c)
    (n : SnakeName) : (n.chars.map change).map undo = n.chars := by
  rw [List.map_map]
  calc n.chars.map (undo ∘ change) = n.chars.map id :=
        List.map_congr_left fun c hc => h c (SnakeName.isNameChar hc)
    _ = n.chars := List.map_id _

/-- Hyphens in the place of underscores are undone, in either case of the letters. -/
theorem unhyphenate_hyphenate {c : Char} (h : IsNameChar c) :
    unhyphenate (hyphenate c) = c ∧ unhyphenate (hyphenate c.toUpper).toLower = c := by
  have hchar := Text.of_all_codes
    (fun c => unhyphenate (hyphenate c) == c && unhyphenate (hyphenate c.toUpper).toLower == c)
    (by decide) h.mem_nameCodes
  simpa using hchar

/-- Every rule is undone on identifiers that are made of words. -/
theorem restoreChars_applyChars (rule : RenameRule) (n : SnakeName) :
    rule.restoreChars (rule.applyChars n.chars) = n.chars := by
  cases rule with
  | keep | snake => rfl
  | lower =>
    exact map_toLower_eq_self_iff.mpr fun c hc => (SnakeName.isNameChar hc).toLower_toUpper.1
  | upper | screamingSnake =>
    exact map_map_chars Char.toUpper Char.toLower (fun _ hc => hc.toLower_toUpper.2) n
  | kebab => exact map_map_chars hyphenate unhyphenate (fun _ hc => (unhyphenate_hyphenate hc).1) n
  | screamingKebab =>
    exact map_map_chars (fun c => hyphenate c.toUpper) (fun c => unhyphenate c.toLower)
      (fun _ hc => (unhyphenate_hyphenate hc).2) n
  | pascal =>
    -- every word has a capital, so there is one underscore too many, in front
    show (separate (capitalize true n.chars)).tail = n.chars
    rw [capitalize_chars, separate_flatMap_capitalized, n.chars_eq]
    rfl
  | camel =>
    show separate (uncapitalize (capitalize true n.chars)) = n.chars
    rw [uncapitalize_capitalize_chars, separate_append, separate_chars,
      separate_flatMap_capitalized, n.chars_eq]

/-- **Stored names tell identifiers apart.**  Whatever the rename rule, two identifiers that are made of
words with single underscores between them have one stored name only if they are one identifier. -/
theorem apply_eq_apply_iff (rule : RenameRule) (a b : SnakeName) :
    rule.apply a.text = rule.apply b.text ↔ a.text = b.text := by
  constructor
  · intro h
    have hchars : rule.applyChars a.chars = rule.applyChars b.chars := by
      simpa only [apply, SnakeName.text, String.toList_ofList, String.ofList_inj] using h
    have hrestored := congrArg rule.restoreChars hchars
    rw [restoreChars_applyChars, restoreChars_applyChars] at hrestored
    rw [SnakeName.text, SnakeName.text, hrestored]
  · exact congrArg rule.apply

/-- An identifier of two words. -/
def postTitle2 : SnakeName where
  first := .spelled 'p' ['o', 's', 't'] rfl (by decide)
  further := [.spelled 't' ['i', 't', 'l', 'e', '2'] rfl (by decide)]

/-- The same letters and the digit in one word. -/
def joinedPostTitle2 : SnakeName where
  first := .spelled 'p' ['o', 's', 't', 't', 'i', 't', 'l', 'e', '2'] rfl (by decide)
  further := []

/-- No rule takes two words for one, also not the rules that drop the underscore between them. -/
theorem apply_postTitle2_ne :
    postTitle2.text = "post_title2" ∧ camel.apply postTitle2.text = "postTitle2" ∧
      joinedPostTitle2.text = "posttitle2" ∧ camel.apply joinedPostTitle2.text = "posttitle2" ∧
      ∀ rule : RenameRule, rule.apply postTitle2.text ≠ rule.apply joinedPostTitle2.text := by
  refine ⟨by decide, by decide, by decide, by decide, ?_⟩
  have htexts : postTitle2.text ≠ joinedPostTitle2.text := by decide
  intro rule hsame
  exact htexts ((apply_eq_apply_iff rule postTitle2 joinedPostTitle2).mp hsame)

/-- Two underscores in a row are not told from one. -/
example : pascal.apply "post__title" = pascal.apply "post_title" := by decide

end RenameRule

end PatchStore
