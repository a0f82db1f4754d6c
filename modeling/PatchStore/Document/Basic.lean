import PatchStore.Document.Kind
import PatchStore.Schema.Basic
import PatchStore.Serializer

/-!
# Documents

A type of documents has a kind, a schema, and a JSON form in both directions.  Two such types are
given: articles, with fields of several shapes, and categories, which may have a parent of their own
type.

* `Document.fromJson` — reads a document; a value of the wrong shape is a serialization failure.
-/

namespace PatchStore

/-- A type of documents. -/
class Document (α : Type) where
  /-- The name of the type and of its collection. -/
  kind : DocumentKind
  /-- The fields that selectors can address. -/
  fields : List (Field String)
  /-- What is given to a serializer. -/
  toDatum : α → Datum
  /-- The document that a value is the JSON form of. -/
  ofJson? : Json → Option α

namespace Document

variable {α : Type} [Document α]

/-- Reads a document. -/
def fromJson (v : Json) : StoreResult α :=
  match ofJson? v with
  | some d => .ok d
  | none => .error (.serialization .unexpectedShape)

/-- The JSON form of a document. -/
def toJson (d : α) : StoreResult Json := (toDatum d).toJson

end Document

end PatchStore
