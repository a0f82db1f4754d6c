import PatchStore.Document.Basic
import PatchStore.Json.Record

/-!
# Articles

Articles are kept in the collection `ArticleSet`.  The members of an article have the names of its
fields with capitals; a subtitle that is missing is left out, and a missing score is `null`.
-/

namespace PatchStore

/-- An article. -/
structure Article where
  title : String
  views : Nat
  tags : List String
  subtitle : Option String
  score : Option Decimal.Binary64

namespace Article

/-- A count that fits a 32-bit word. -/
def count? (v : Json) : Option Nat := do
  let n ← v.integer?
  if 0 ≤ n ∧ n < 4294967296 then some n.toNat else none

/-- A number as a float; an integer is rounded to the nearest one. -/
def float? : Json → Option Decimal.Binary64
  | .number (.float x) => some x
  | .number (.integer n _) => Decimal.Binary64.ofDecimal? (n < 0) n.natAbs 0
  | _ => none

/-- A list of texts. -/
def texts? (v : Json) : Option (List String) := do
  (← v.array?).mapM Json.string?

/-- What is given to a serializer. -/
def toDatum (a : Article) : Datum :=
  .record <|
    [("Title", .string a.title), ("Views", .integer a.views),
     ("Tags", .list (a.tags.map Datum.string))] ++
      (a.subtitle.map fun s => ("Subtitle", Datum.string s)).toList ++
      [("Score", (a.score.map fun x => Datum.float (some x)).getD .null)]

/-- The article that a value is the JSON form of. -/
def ofJson? (v : Json) : Option Article := do
  if !v.isRecord 5 then failure
  let title ← v.required 0 "Title" Json.string?
  let views ← v.required 1 "Views" count?
  let tags ← v.required 2 "Tags" texts?
  let subtitle ← v.optional 3 "Subtitle" Json.string?
  let score ← v.optional 4 "Score" float?
  return ⟨title, views, tags, subtitle, score⟩

instance : Document Article where
  kind := ⟨"Article", some "ArticleSet"⟩
  fields :=
    [⟨"title", "Title", .value⟩, ⟨"views", "Views", .value⟩, ⟨"tags", "Tags", .collection⟩,
     ⟨"subtitle", "Subtitle", .value⟩, ⟨"score", "Score", .value⟩]
  toDatum := toDatum
  ofJson? := ofJson?

end Article

end PatchStore
