import Mathlib.Data.List.SplitBy
import PatchStore.Conventions.KeyPrefix

/-!
# Where the hyphens of a key prefix stand

A key prefix is made in one scan over a tag name, which looks back at one character of the name, as it
was before it was lowered.  So the prefix of two names in a row is that of the one and that of the
other, with a hyphen in between just if the one ends with a small letter and the other begins with a
capital.

From this law the rest follows.  A name falls into words, at every capital that follows a small letter
and nowhere else; the prefix consists of the words, their capitals written small, with hyphens between
them.  A prefix of a name in ASCII has no capitals left, and is its own prefix.

* `keyPrefixChars_append` — the law, for lists of characters.
* `nameWords` — the words of a name.
* `FallsInto.keyPrefixChars_eq`, `flatten_map_lowerCapitals` — the prefix, word by word.
* `isUpper_of_mem_keyPrefixFrom`, `keyPrefixFrom_eq_self` — names without capitals.
* `hyphens_of_keyPrefix` — all of this for texts.
-/

namespace PatchStore

open Text (isLower isUpper lowerChar)

/-- A new word starts at a capital after a small letter. -/
def startsWord (previous c : Char) : Bool := isLower previous && isUpper c

/-- A capital becomes its lower case, and any other character stays as it is. -/
def lowerCapital (c : Char) : List Char := if isUpper c then lowerChar c else [c]

/-- The characters with the capitals among them in lower case. -/
def lowerCapitals (cs : List Char) : List Char := cs.flatMap lowerCapital

/-- What goes between two names in a row: a hyphen if the one ends with a small letter and the other
begins with a capital. -/
def hyphenBetween (as bs : List Char) : List Char :=
  if as.getLast?.any isLower && bs.head?.any isUpper then ['-'] else []

/-! ## Names in a row -/

/-- The key prefix of characters. -/
abbrev keyPrefixChars (cs : List Char) : List Char := keyPrefixFrom none cs

theorem keyPrefixStep_eq (previous : Option Char) (c : Char) :
    keyPrefixStep previous c =
      (if previous.any isLower && isUpper c then ['-'] else []) ++ lowerCapital c := by
  rw [keyPrefixStep, lowerCapital]
  cases isUpper c with
  | false => simp
  | true => cases previous.any isLower <;> rfl

/-- What stands before characters only decides whether a hyphen goes in front of them. -/
theorem keyPrefixFrom_eq (previous : Option Char) (cs : List Char) :
    keyPrefixFrom previous cs =
      (if previous.any isLower && cs.head?.any isUpper then ['-'] else []) ++ keyPrefixChars cs := by
  cases cs with
  | nil => simp [keyPrefixFrom]
  | cons c cs =>
    rw [keyPrefixChars, keyPrefixFrom, keyPrefixFrom, keyPrefixStep_eq, keyPrefixStep_eq none]
    simp

/-- The prefix of two names in a row. -/
theorem keyPrefixChars_append (as bs : List Char) :
    keyPrefixChars (as ++ bs) = keyPrefixChars as ++ hyphenBetween as bs ++ keyPrefixChars bs := by
  rw [keyPrefixChars, keyPrefixFrom_append, Option.or_none, keyPrefixFrom_eq as.getLast?,
    ← List.append_assoc]
  rfl

/-! ## Words -/

/-- A name falls into these words: none is empty, in a row they are the name, no word starts within one
of them, and each but the first starts after the one before it. -/
structure FallsInto (cs : List Char) (ws : List (List Char)) : Prop where
  flatten : ws.flatten = cs
  nonempty : ∀ w ∈ ws, w ≠ []
  within : ∀ w ∈ ws, w.IsChain fun a b => startsWord a b = false
  between : ws.IsChain fun v w => ∃ hv hw, startsWord (v.getLast hv) (w.head hw) = true

/-- The words of a name: it is cut at every capital that follows a small letter. -/
def nameWords (cs : List Char) : List (List Char) := cs.splitBy fun a b => !startsWord a b

theorem fallsInto_nameWords (cs : List Char) : FallsInto cs (nameWords cs) where
  flatten := List.flatten_splitBy _ cs
  nonempty _ hw := List.ne_nil_of_mem_splitBy hw
  within _ hw := (List.isChain_of_mem_splitBy hw).imp fun _ _ h => by simpa using h
  between := (List.isChain_getLast_head_splitBy _ cs).imp
    fun _ _ ⟨hv, hw, h⟩ => ⟨hv, hw, by simpa using h⟩

/-- A name that is one word has its capitals lowered. -/
theorem keyPrefixChars_word {w : List Char} (h : w.IsChain fun a b => startsWord a b = false) :
    keyPrefixChars w = lowerCapitals w := by
  induction w with
  | nil => rfl
  | cons a w ih =>
    have hfirst : keyPrefixChars [a] = lowerCapital a := by
      rw [keyPrefixChars, keyPrefixFrom, keyPrefixStep_eq]
      simp [keyPrefixFrom]
    have hjoined : hyphenBetween [a] w = [] := by
      cases w with
      | nil => simp [hyphenBetween]
      | cons b w =>
        have hab : (isLower a && isUpper b) = false := (List.isChain_cons_cons.mp h).1
        simp [hyphenBetween, hab]
    rw [← List.singleton_append, keyPrefixChars_append, hfirst, hjoined, ih h.tail]
    simp [lowerCapitals]

/-- The prefix of a name consists of its words, with hyphens between them. -/
theorem FallsInto.keyPrefixChars_eq {cs : List Char} {ws : List (List Char)} (h : FallsInto cs ws) :
    keyPrefixChars cs = ['-'].intercalate (ws.map lowerCapitals) := by
  obtain ⟨rfl, -, hwithin, hbetween⟩ := h
  induction ws with
  | nil => rfl
  | cons v ws ih =>
    obtain ⟨hfirst, hrest⟩ := List.forall_mem_cons.mp hwithin
    cases ws with
    | nil =>
      rw [List.flatten_singleton, keyPrefixChars_word hfirst]
      simp
    | cons w ws =>
      obtain ⟨⟨hv, hw, hstart⟩, hlater⟩ := List.isChain_cons_cons.mp hbetween
      have hhyphen : hyphenBetween v (w :: ws).flatten = ['-'] := by
        obtain ⟨b, bs, rfl⟩ := List.exists_cons_of_ne_nil hw
        rw [startsWord, List.head_cons] at hstart
        simp [hyphenBetween, List.getLast?_eq_some_getLast hv, hstart]
      rw [List.flatten_cons, keyPrefixChars_append, keyPrefixChars_word hfirst, hhyphen,
        ih hrest hlater]
      simp only [List.map_cons, List.intercalate_cons_cons]

/-- Without hyphens between them the words are the name with its capitals lowered. -/
theorem flatten_map_lowerCapitals (ws : List (List Char)) :
    (ws.map lowerCapitals).flatten = lowerCapitals ws.flatten := by
  induction ws with
  | nil => rfl
  | cons w ws ih =>
    rw [List.map_cons, List.flatten_cons, List.flatten_cons, ih, lowerCapitals, lowerCapitals,
      lowerCapitals, List.flatMap_append]

/-! ## Names without capitals -/

/-- A name without capitals is its own prefix. -/
theorem keyPrefixFrom_eq_self {cs : List Char} (h : ∀ c ∈ cs, isUpper c = false)
    (previous : Option Char) : keyPrefixFrom previous cs = cs := by
  induction cs generalizing previous with
  | nil => rfl
  | cons c cs ih =>
    obtain ⟨hfirst, hrest⟩ := List.forall_mem_cons.mp h
    rw [keyPrefixFrom, keyPrefixStep_eq, lowerCapital, hfirst, ih hrest]
    simp

/-- A prefix has no capitals left if the lower case of those in the name has none. -/
theorem isUpper_of_mem_keyPrefixFrom {cs : List Char}
    (h : ∀ c ∈ cs, ∀ d ∈ lowerCapital c, isUpper d = false) (previous : Option Char) :
    ∀ d ∈ keyPrefixFrom previous cs, isUpper d = false := by
  have hhyphen : isUpper '-' = false := by decide
  induction cs generalizing previous with
  | nil => simp [keyPrefixFrom]
  | cons c cs ih =>
    obtain ⟨hfirst, hrest⟩ := List.forall_mem_cons.mp h
    rw [keyPrefixFrom, keyPrefixStep_eq]
    refine List.forall_mem_append.mpr ⟨List.forall_mem_append.mpr ⟨?_, hfirst⟩, ih hrest (some c)⟩
    split
    · exact List.forall_mem_singleton.mpr hhyphen
    · exact List.forall_mem_nil _

/-- No capital of ASCII has a capital in its lower case. -/
theorem isUpper_of_mem_lowerCapital {c d : Char} (hc : c.toNat < 128) (hd : d ∈ lowerCapital c) :
    isUpper d = false := by
  have hall : ((List.range 128).all fun n =>
      (lowerCapital (Char.ofNat n)).all fun d => !isUpper d) = true := by decide
  have hchar : ((lowerCapital c).all fun d => !isUpper d) = true :=
    Text.of_all_codes (fun c => (lowerCapital c).all fun d => !isUpper d) hall
      (List.mem_range.mpr hc)
  simpa using List.all_eq_true.mp hchar d hd

/-! ## Key prefixes of texts -/

/-- **Where the hyphens of a key prefix stand.**  The prefix of two names in a row is that of the one,
a hyphen if the one ends with a small letter and the other begins with a capital, and that of the
other.  So the prefix of a name consists of the words that the name falls into, their capitals in
lower case, with hyphens between them; without these hyphens it is the name with its capitals in
lower case.  The prefix of a name in ASCII has no capitals and is its own prefix. -/
theorem hyphens_of_keyPrefix :
    (∀ a b : String, keyPrefix (a ++ b) = keyPrefix a ++
      (if a.toList.getLast?.any isLower && b.toList.head?.any isUpper then "-" else "") ++
      keyPrefix b) ∧
    (∀ name : String, FallsInto name.toList (nameWords name.toList) ∧
      (keyPrefix name).toList = ['-'].intercalate ((nameWords name.toList).map lowerCapitals) ∧
      ((nameWords name.toList).map lowerCapitals).flatten = lowerCapitals name.toList) ∧
    ∀ name : String, (∀ c ∈ name.toList, c.toNat < 128) →
      (∀ c ∈ (keyPrefix name).toList, isUpper c = false) ∧
      keyPrefix (keyPrefix name) = keyPrefix name := by
  refine ⟨fun a b => ?_, fun name => ?_, fun name hascii => ?_⟩
  · show String.ofList (keyPrefixChars (a ++ b).toList) = _
    rw [String.toList_append, keyPrefixChars_append, String.ofList_append, String.ofList_append,
      hyphenBetween]
    split <;> rfl
  · have hwords := fallsInto_nameWords name.toList
    refine ⟨hwords, ?_, ?_⟩
    · rw [keyPrefix, String.toList_ofList]
      exact hwords.keyPrefixChars_eq
    · rw [flatten_map_lowerCapitals, hwords.flatten]
  · have hlowered : ∀ c ∈ (keyPrefix name).toList, isUpper c = false := by
      rw [keyPrefix, String.toList_ofList]
      exact isUpper_of_mem_keyPrefixFrom
        (fun c hc d hd => isUpper_of_mem_lowerCapital (hascii c hc) hd) none
    refine ⟨hlowered, ?_⟩
    rw [keyPrefix, keyPrefixFrom_eq_self hlowered, String.ofList_toList]

/-- A run of capitals is not cut, and no word starts at a digit. -/
theorem hyphens_of_myRSSFeedV2 :
    (∀ c ∈ "myRSSFeedV2".toList, c.toNat < 128) ∧ keyPrefix "myRSSFeedV2" = "my-rssfeed-v2" ∧
      keyPrefix "my-rssfeed-v2" = "my-rssfeed-v2" := by
  have hall : ("myRSSFeedV2".toList.all fun c => decide (c.toNat < 128)) = true := by decide +kernel
  have hascii : ∀ c ∈ "myRSSFeedV2".toList, c.toNat < 128 := fun c hc =>
    of_decide_eq_true (List.all_eq_true.mp hall c hc)
  have hmade : keyPrefix "myRSSFeedV2" = "my-rssfeed-v2" := by decide +kernel
  have hagain := (hyphens_of_keyPrefix.2.2 "myRSSFeedV2" hascii).2
  rw [hmade] at hagain
  exact ⟨hascii, hmade, hagain⟩

end PatchStore
