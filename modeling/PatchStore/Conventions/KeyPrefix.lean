import PatchStore.Text.Case

/-!
# Key prefixes

The keys of documents begin with a prefix that is made from the tag name of their type: capitals are
written small, and a hyphen goes before each capital that follows a small letter.  Runs of capitals
are not split.

* `keyPrefixFrom_append` — the scan goes on with the last character that it has seen.
-/

namespace PatchStore

/-- What a character becomes after another one. -/
def keyPrefixStep (previous : Option Char) (c : Char) : List Char :=
  if Text.isUpper c then
    if previous.any Text.isLower then '-' :: Text.lowerChar c else Text.lowerChar c
  else [c]

/-- What characters become after another one. -/
def keyPrefixFrom (previous : Option Char) : List Char → List Char
  | [] => []
  | c :: cs => keyPrefixStep previous c ++ keyPrefixFrom (some c) cs

/-- The key prefix that a tag name becomes. -/
def keyPrefix (tagName : String) : String := String.ofList (keyPrefixFrom none tagName.toList)

/-- The scan goes on with the last character that it has seen. -/
theorem keyPrefixFrom_append (previous : Option Char) (as bs : List Char) :
    keyPrefixFrom previous (as ++ bs) =
      keyPrefixFrom previous as ++ keyPrefixFrom (as.getLast?.or previous) bs := by
  induction as generalizing previous with
  | nil => simp [keyPrefixFrom]
  | cons a as ih =>
    rw [List.cons_append, keyPrefixFrom, keyPrefixFrom, ih, List.append_assoc]
    cases as with
    | nil => simp
    | cons b bs => simp [List.getLast?_cons]

end PatchStore
