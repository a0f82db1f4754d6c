import PatchStore.Schema.RenameRule
import PatchStore.Text.Split

/-!
# Rename rules and serialization

Serialization has rename rules of its own, under the same names, and gives the identifiers of fields
the names that documents have.  A derived schema stores patches under the names that its own rules
give, so the two must agree.  What serialization does is said here word by word, where the rules scan
character by character.

* `capitalize_eq_pascalCase` — the scan for capitals writes each word with a capital.
* `map_toLower_eq_self_iff` — putting a text in lower case changes its ASCII capitals and no more.
* `apply_eq_serializedName_iff` — the rules agree on all identifiers but those with a capital under
  the rule `lowercase`, which serialization takes to be in lower case already.
* `not_apply_eq_serializedName` — so they do not always agree.
-/

namespace PatchStore.RenameRule

/-! ## Names in serialization -/

/-- A word with its first character in upper case. -/
def capitalized : List Char → List Char
  | [] => []
  | c :: cs => c.toUpper :: cs

/-- What stands between the underscores of an identifier, each word with a capital.  A run of
underscores has empty words in it, which leave nothing. -/
def pascalCase (cs : List Char) : List Char := (Text.splitAtChar '_' cs).flatMap capitalized

/-- What serialization makes of the identifier of a field under the rule of the given name.
Identifiers are taken to be in lower case, with underscores between their words. -/
def serializedChars? : (ruleName : String) → Option (List Char → List Char)
  | "lowercase" => some id
  | "UPPERCASE" => some (List.map Char.toUpper)
  | "PascalCase" => some pascalCase
  | "camelCase" => some fun cs => (pascalCase cs).modifyHead Char.toLower
  | "snake_case" => some id
  | "SCREAMING_SNAKE_CASE" => some (List.map Char.toUpper)
  | "kebab-case" => some (List.map fun c => if c = '_' then '-' else c)
  | "SCREAMING-KEBAB-CASE" =>
    some fun cs => (cs.map Char.toUpper).map fun c => if c = '_' then '-' else c
  | _ => none

/-- The name that serialization gives to the identifier of a field under the rule of the given
name. -/
def serializedName? (ruleName ident : String) : Option String :=
  (serializedChars? ruleName).map fun rename => String.ofList (rename ident.toList)

/-! ## The scan for capitals -/

/-- Whether or not a capital is pending, the scan writes the first word so and each further word with
a capital. -/
theorem capitalize_of_splitAtChar {cs word : List Char} {further : List (List Char)}
    (h : Text.splitAtChar '_' cs = word :: further) (pending : Bool) :
    capitalize pending cs =
      (if pending then capitalized word else word) ++ further.flatMap capitalized := by
  induction cs generalizing word further pending with
  | nil =>
    cases h
    cases pending <;> rfl
  | cons c cs ih =>
    obtain ⟨next, others, hrest⟩ := Text.exists_splitAtChar_eq_cons '_' cs
    rw [Text.splitAtChar, hrest] at h
    by_cases hc : c = '_'
    · rw [if_pos hc] at h
      cases h
      rw [capitalize, if_pos hc, ih hrest]
      cases pending <;> rfl
    · rw [if_neg hc] at h
      cases h
      rw [capitalize_cons hc, ih hrest]
      cases pending <;> rfl

/-- The scan for capitals writes each word with a capital. -/
theorem capitalize_eq_pascalCase (cs : List Char) : capitalize true cs = pascalCase cs := by
  obtain ⟨word, further, h⟩ := Text.exists_splitAtChar_eq_cons '_' cs
  rw [capitalize_of_splitAtChar h, pascalCase, h]
  rfl

theorem uncapitalize_eq_modifyHead (cs : List Char) :
    uncapitalize cs = cs.modifyHead Char.toLower := by
  cases cs <;> rfl

/-! ## Lower case -/

theorem toLower_eq_self_iff {c : Char} : c.toLower = c ↔ c.isUpper = false := by
  delta Char.toLower Char.isUpper
  split
  · rename_i h
    have hne : c.val + ('a'.val - 'A'.val) ≠ c.val := by
      intro heq
      have hzero : 'a'.val - 'A'.val = 0 := by simpa only [UInt32.add_eq_left] using heq
      exact absurd hzero (by decide)
    refine iff_of_false (fun heq => hne (congrArg Char.val heq)) ?_
    simpa using h
  · rename_i h
    refine iff_of_true rfl ?_
    simpa using h

/-- Putting a text in lower case changes its ASCII capitals and no more. -/
theorem map_toLower_eq_self_iff {cs : List Char} :
    cs.map Char.toLower = cs ↔ ∀ c ∈ cs, c.isUpper = false := by
  induction cs with
  | nil => simp
  | cons c cs ih =>
    rw [List.map_cons, List.cons.injEq, List.forall_mem_cons, ih, toLower_eq_self_iff]

/-! ## Agreement -/

/-- The rules other than `lowercase` do on characters what serialization does, and there are no
others. -/
theorem map_applyChars_ofName? {ruleName : String} (h : ruleName ≠ "lowercase") :
    (ofName? ruleName).map applyChars = serializedChars? ruleName := by
  unfold ofName?
  split
  case h_1 => exact absurd rfl h
  case h_2 => rfl
  case h_3 => exact congrArg some (funext capitalize_eq_pascalCase)
  case h_4 =>
    refine congrArg some (funext fun cs => ?_)
    show uncapitalize (capitalize true cs) = _
    rw [uncapitalize_eq_modifyHead, capitalize_eq_pascalCase]
  case h_5 => rfl
  case h_6 => rfl
  case h_7 => rfl
  case h_8 =>
    refine congrArg some (funext fun cs => ?_)
    rw [List.map_map]
    rfl
  case h_9 =>
    unfold serializedChars?
    split <;> simp_all

/-- **Fields are stored as they are serialized.**  Without a rule an identifier is kept.  A rule gives
the name that serialization gives under the rule of this name, and there are no other rules; the one
exception is the rule `lowercase` on identifiers with capitals, which serialization keeps. -/
theorem apply_eq_serializedName_iff (ident : String) :
    RenameRule.keep.apply ident = ident ∧
    ∀ ruleName, (ofName? ruleName).map (apply · ident) = serializedName? ruleName ident ↔
      ¬(ruleName = "lowercase" ∧ ∃ c ∈ ident.toList, c.isUpper = true) := by
  refine ⟨String.ofList_toList, fun ruleName => ?_⟩
  by_cases hlower : ruleName = "lowercase"
  · subst hlower
    show some (String.ofList (ident.toList.map Char.toLower)) =
      some (String.ofList ident.toList) ↔ _
    rw [Option.some_inj, String.ofList_inj, map_toLower_eq_self_iff]
    simp
  · refine iff_of_true ?_ fun h => hlower h.1
    rw [serializedName?, ← map_applyChars_ofName? hlower, Option.map_map]
    rfl

/-- Not every identifier is stored as it is serialized: under the rule `lowercase` a capital in it is
kept by serialization alone. -/
theorem not_apply_eq_serializedName :
    ¬∀ ruleName ident : String, (∀ c ∈ ident.toList, c = '_' ∨ c.isAlphanum = true) →
      (∃ c ∈ ident.toList, c ≠ '_') →
      (ofName? ruleName).map (apply · ident) = serializedName? ruleName ident := by
  intro hall
  have hword : ("postTitle".toList.all fun c => c.isAlphanum) = true := by decide
  have h := hall "lowercase" "postTitle" (fun c hc => Or.inr (List.all_eq_true.mp hword c hc))
    ⟨'p', by decide, by decide⟩
  exact absurd h (by decide)

end PatchStore.RenameRule
