/-!
# Tag names

The tag name of a document type, unless the type names its collection, is the plural of the type's
name.  Endings are compared without regard to the case of ASCII letters.

* `endsWith_nil` — every text has the empty ending.
-/

namespace PatchStore

/-- Whether a text ends with the given small letters, in any case. -/
def endsWith (text ending : List Char) : Bool :=
  ending.reverse.isPrefixOf (text.reverse.map Char.toLower)

@[simp] theorem endsWith_nil (text : List Char) : endsWith text [] = true := rfl

/-- Whether a text has one of the endings. -/
def endsWithAny (text : List Char) (endings : List String) : Bool :=
  endings.any fun ending => endsWith text ending.toList

/-- The plural of a name. -/
def pluralChars (name : List Char) : List Char :=
  if endsWith name ['y'] && !endsWithAny name ["ay", "ey", "oy", "uy"] then
    name.dropLast ++ "ies".toList
  else if endsWithAny name ["s", "x", "z", "ch", "sh"] then name ++ "es".toList
  else name ++ ['s']

/-- The tag name of a type of the given name. -/
def defaultTagName (typeName : String) : String := String.ofList (pluralChars typeName.toList)

end PatchStore
