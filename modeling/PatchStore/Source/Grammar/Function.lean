import PatchStore.Source.Grammar.Declaration

/-!
# Functions

The words before a function, its parameters and its result.  Where a function is declared says
whether it may be marked safe and whether its body may be left out.
-/

namespace PatchStore.Source

open Parse

/-! ## Words before a function -/

/-- The words before a function; says whether it is marked safe, where it may be. -/
def functionWords (safeAllowed : Bool) : Parse Bool := do
  discard (word? "const")
  discard (word? "async")
  let isUnsafe ← word? "unsafe"
  let safe ← if safeAllowed && !isUnsafe then word? "safe" else pure false
  callingConvention
  return safe

/-- Whether a function stands at the start, after its visibility. -/
def functionFollows (safeAllowed : Bool) : Parse Bool :=
  ahead (functionWords safeAllowed *> peek (atWord "fn"))

/-! ## Parameters -/

/-- What a parameter of a function is: the receiver of a method, one that stands for all others, or
another. -/
inductive ParameterKind where
  | receiver
  | variadic
  | typed

/-- The receiver of a method: the word `self`, by reference, or by value and perhaps with a type. -/
def receiver (g : Grammar) : Parse Unit := do
  let borrowed ← mark? "&"
  if borrowed then lifetime?
  discard (word? "mut")
  word "self"
  if !borrowed then
    if ← mark? ":" then discard (g.type true)

/-- One parameter of a function.  A type may stand without a pattern if it begins with a name that
has arguments; it is written with the empty pattern. -/
def functionParameter (g : Grammar) : Parse ParameterKind := do
  discard (outerAttributes g)
  if ← mark? "..." then return .variadic
  if (← attempt (receiver g)).isSome then return .receiver
  if ← peek fun ts => atIdent ts && second (atMark "<") ts then
    write (.ident ⟨"_", false⟩ :: Token.ofMark ":")
  else
    discard g.pattern
    mark ":"
    if ← mark? "..." then return .variadic
  discard (g.type true)
  return .typed

/-- The parameters of a function.  Only the first can be a receiver, and only the last can stand for
all others. -/
def functionParameters (g : Grammar) : Parse Unit := discard <| gather fun acc => do
  if ← atEnd then return (acc, true)
  let kind ← functionParameter g
  match kind with
  | .variadic =>
    if !(← atEnd) then mark ","
    return (acc, true)
  | .receiver => if !acc.isEmpty then failure
  | .typed => pure ()
  if ← atEnd then return (() :: acc, true)
  mark ","
  return (() :: acc, false)

/-! ## Functions -/

/-- A function without its body; says whether it is marked safe. -/
def signature (g : Grammar) (safeAllowed : Bool) : Parse Bool := do
  let safe ← functionWords safeAllowed
  word "fn"
  discard ident
  discard (parameters g)
  within .paren (functionParameters g)
  resultType g true
  discard (whereClause g)
  return safe

/-- A function; says whether its body is left out. -/
def function (g : Grammar) : Parse Bool := do
  discard (signature g false)
  let omitted ← mark? ";"
  if !omitted then attributedBlock g
  return omitted

end PatchStore.Source
