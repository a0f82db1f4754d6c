import PatchStore.Proofs.Schema.Fields

/-!
# Wrapped types describe the same field

A field that may be missing has its type in an `Option`, and a type that contains itself needs a `Box`.
Neither changes what a selector addresses, so a field is derived as if the type inside were its own,
however many layers there are, in whatever order, and from whatever modules they are named.  This holds
of every type inside, also of one that only looks like a wrapper: `Option` without arguments or with
two of them, a raw `r#Option`, an `Option` that is named from inside a type.

* `Layer`, `aroundAll` — layers, and a type with layers around it.
* `unwrapped_aroundAll`, `unwrapsTo_aroundAll_iff` — layers are taken off, and what is in a type does
  not depend on them.
* `deriveField_aroundAll` — the same field is derived, or the same failure.
-/

namespace PatchStore

open Source

/-! ## Layers -/

/-- A layer of `Option` or `Box` as it is written around a type: whether its path starts with a
separator, the modules that it is named from, its name, and the tokens of the whole. -/
structure Layer where
  isGlobal : Bool
  modules : List (Ident × Bool)
  name : Ident
  isWrapper : name.text ∈ wrapperTypes
  tokens : List Token

/-- The type with the layer around it. -/
def Layer.around (l : Layer) (t : TypeExpr) : TypeExpr :=
  .mk (.path (.mk false l.isGlobal l.modules l.name (.angled [.type t]))) l.tokens

/-- The type with layers around it, the first one outermost. -/
def aroundAll (layers : List Layer) (t : TypeExpr) : TypeExpr := layers.foldr Layer.around t

theorem Layer.wraps (l : Layer) (t : TypeExpr) : Wraps (l.around t) t :=
  .layer l.isWrapper l.isGlobal l.modules t l.tokens

/-- All layers are taken off. -/
theorem unwrapped_aroundAll (layers : List Layer) (t : TypeExpr) :
    unwrapped (aroundAll layers t) = unwrapped t := by
  induction layers with
  | nil => rfl
  | cons l layers ih =>
    calc unwrapped (aroundAll (l :: layers) t)
        = unwrapped (aroundAll layers t) := unwrapped_of_wraps (l.wraps _)
      _ = unwrapped t := ih

/-- What is in a type does not depend on the layers around it. -/
theorem unwrapsTo_aroundAll_iff {layers : List Layer} {t u : TypeExpr} :
    UnwrapsTo (aroundAll layers t) u ↔ UnwrapsTo t u := by
  rw [unwrapsTo_iff, unwrapsTo_iff, unwrapped_aroundAll]

/-- Nothing can be taken off what is in a type. -/
theorem UnwrapsTo.not_wraps {t u : TypeExpr} (h : UnwrapsTo t u) (inner : TypeExpr) :
    ¬Wraps u inner := by
  induction h with
  | bare hbare => exact hbare inner
  | layer _ _ ih => exact ih

/-! ## Fields -/

/-- A field is described by what is in its type. -/
theorem describeField_congr {s t : TypeExpr} (h : unwrapped s = unwrapped t) (rule : RenameRule)
    (ident : Ident) (o : FieldOptions) :
    describeField rule ident s o = describeField rule ident t o := by
  have hsequence : isSequence s = isSequence t := by rw [isSequence, isSequence, h]
  rw [describeField, describeField, hsequence, h]

/-- The object that a nested field holds is what is in its type. -/
theorem unwrapsTo_of_deriveField {rule : RenameRule} {f : FieldDecl} {x : Field TypeExpr}
    {u : TypeExpr} (h : deriveField rule f = .ok (some x)) (hkind : x.kind = .object u) :
    UnwrapsTo f.type u := by
  obtain ⟨hdescribed, -⟩ := deriveField_eq_ok h
  split at hdescribed
  · cases hdescribed
  · cases hdescribed
    exact (kind_eq_object_iff.mp hkind).2

/-- **Layers of `Option` and `Box` make no difference.**  A field is derived from a type with layers
around it as from the type itself: with the same failure, or skipped alike, or with the same
identifier, stored name and kind.  The type of a nested field is what is in the type when all layers
are taken off, and nothing more can be taken off it. -/
theorem deriveField_aroundAll (layers : List Layer) (rule : RenameRule) (ident : Ident)
    (t : TypeExpr) (attributes : List Attribute) :
    deriveField rule ⟨ident, aroundAll layers t, attributes⟩ =
        deriveField rule ⟨ident, t, attributes⟩ ∧
      ∀ x u, deriveField rule ⟨ident, aroundAll layers t, attributes⟩ = .ok (some x) →
        x.kind = .object u → UnwrapsTo t u ∧ ∀ inner, ¬Wraps u inner := by
  constructor
  · rw [deriveField, deriveField]
    simp only [describeField_congr (unwrapped_aroundAll layers t)]
  · intro x u h hkind
    have hu : UnwrapsTo t u := unwrapsTo_aroundAll_iff.mp (unwrapsTo_of_deriveField h hkind)
    exact ⟨hu, hu.not_wraps⟩

/-! ## An author in a box -/

/-- A layer that is named from modules, around a type with the given tokens. -/
def Layer.named (modules : List String) (name : String) (h : name ∈ wrapperTypes)
    (inner : List Token) : Layer where
  isGlobal := false
  modules := modules.map fun m => (⟨m, false⟩, false)
  name := ⟨name, false⟩
  isWrapper := h
  tokens := modules.flatMap (fun m => .ident ⟨m, false⟩ :: Token.ofMark "::") ++
    .ident ⟨name, false⟩ :: Token.ofMark "<" ++ inner ++ Token.ofMark ">"

/-- The type of authors. -/
def authorType : TypeExpr :=
  .mk (.path (.ofIdent ⟨"Author", false⟩)) [.ident ⟨"Author", false⟩]

/-- A box around an author. -/
def boxLayer : Layer := .named [] "Box" (by decide) authorType.tokens

/-- An author that may be missing and is kept in a box. -/
def leadAuthorLayers : List Layer :=
  [.named ["std", "option"] "Option" (by decide) (boxLayer.around authorType).tokens, boxLayer]

/-- The attribute that marks a field as nested. -/
def nestedAttribute : Attribute := ⟨.ofIdent ⟨"schema", false⟩, some [.ident ⟨"nested", false⟩]⟩

/-- An author that may be missing and is kept in a box is an object of the type of authors. -/
theorem deriveField_of_boxedAuthor :
    deriveField .camel
        ⟨⟨"lead_author", false⟩, aroundAll leadAuthorLayers authorType, [nestedAttribute]⟩ =
        .ok (some ⟨"lead_author", "leadAuthor", .object authorType⟩) ∧
      UnwrapsTo authorType authorType ∧ ∀ inner, ¬Wraps authorType inner := by
  have hbare : deriveField .camel ⟨⟨"lead_author", false⟩, authorType, [nestedAttribute]⟩ =
      .ok (some ⟨"lead_author", "leadAuthor", .object authorType⟩) := rfl
  obtain ⟨hsame, hnested⟩ := deriveField_aroundAll leadAuthorLayers .camel ⟨"lead_author", false⟩
    authorType [nestedAttribute]
  have hderived := hsame.trans hbare
  exact ⟨hderived, hnested _ authorType hderived rfl⟩

/-- The layers have the tokens of `std::option::Option<Box<Author>>`. -/
example : (aroundAll leadAuthorLayers authorType).spell = "std::option::Option<Box<Author>>" := by
  decide

end PatchStore
