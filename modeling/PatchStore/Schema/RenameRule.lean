/-!
# Rename rules

A rename rule turns the identifiers of a struct's fields into stored names.  The rules change ASCII
letters only and leave all other characters as they are.

* `capitalize_nil`, `capitalize_cons` — how the scan for capitals goes from character to character.
-/

namespace PatchStore

/-- How field identifiers become stored names. -/
inductive RenameRule where
  | keep
  | lower
  | upper
  | pascal
  | camel
  | snake
  | screamingSnake
  | kebab
  | screamingKebab
  deriving DecidableEq, Inhabited

namespace RenameRule

/-- The rule of the given name. -/
def ofName? : String → Option RenameRule
  | "lowercase" => some .lower
  | "UPPERCASE" => some .upper
  | "PascalCase" => some .pascal
  | "camelCase" => some .camel
  | "snake_case" => some .snake
  | "SCREAMING_SNAKE_CASE" => some .screamingSnake
  | "kebab-case" => some .kebab
  | "SCREAMING-KEBAB-CASE" => some .screamingKebab
  | _ => none

/-- Drops underscores and gives a capital to the first character and to those after underscores. -/
def capitalize : (pending : Bool) → List Char → List Char
  | _, [] => []
  | pending, c :: cs =>
    if c = '_' then capitalize true cs
    else (if pending then c.toUpper else c) :: capitalize false cs

@[simp] theorem capitalize_nil (pending : Bool) : capitalize pending [] = [] := rfl

/-- The first character takes a capital when one is pending. -/
theorem capitalize_cons {c : Char} (h : c ≠ '_') (pending : Bool) (cs : List Char) :
    capitalize pending (c :: cs) = (if pending then c.toUpper else c) :: capitalize false cs := by
  simp [capitalize, h]

/-- Writes the first character small. -/
def uncapitalize : List Char → List Char
  | [] => []
  | c :: cs => c.toLower :: cs

/-- Writes a hyphen for an underscore. -/
def hyphenate (c : Char) : Char := if c = '_' then '-' else c

/-- The rule on the characters of an identifier. -/
def applyChars (rule : RenameRule) (cs : List Char) : List Char :=
  match rule with
  | .keep | .snake => cs
  | .lower => cs.map Char.toLower
  | .upper | .screamingSnake => cs.map Char.toUpper
  | .kebab => cs.map hyphenate
  | .screamingKebab => cs.map fun c => hyphenate c.toUpper
  | .pascal => capitalize true cs
  | .camel => uncapitalize (capitalize true cs)

/-- The stored name that the rule gives to an identifier. -/
def apply (rule : RenameRule) (ident : String) : String :=
  String.ofList (rule.applyChars ident.toList)

end RenameRule

end PatchStore
