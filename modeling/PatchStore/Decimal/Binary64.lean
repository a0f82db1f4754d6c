/-!
# Finite binary64 numbers

A finite number of the 64-bit binary format is a sign and a magnitude word: the eleven exponent bits
and the fifty-two fraction bits, read as one natural number.  Magnitudes are ordered as the numbers
are, and the word of an infinity bounds them.

## Rounding

`nearest? num den` is the magnitude word of the number nearest to `num / den`, a tie going to the
even word; there is none when the quotient rounds to infinity.  It works on natural numbers alone:

* the *scale* `2 ^ q` is the spacing of the format around the quotient, never below `2 ^ (-1074)`;
* `roundHalfEven` divides by the scale;
* a mantissa that reaches `2 ^ 53` carries into the exponent bits by itself, because the word of
  `m * 2 ^ q` is `(q + 1074) * 2 ^ 52 + m`.

* `sameNumber_iff` — numeric equality identifies the two zeros and nothing else.
-/

namespace PatchStore.Decimal

/-- The magnitude word of an infinity. -/
def infinityWord : Nat := 0x7FF0000000000000

/-- A finite binary64 number. -/
structure Binary64 where
  negative : Bool
  word : Nat
  word_lt : word < infinityWord
  deriving DecidableEq

/-- The bit of a mantissa that the word leaves out, `2 ^ 52`. -/
def hiddenBit : Nat := 4503599627370496

namespace Binary64

/-- Zero, with a sign. -/
def zero (negative : Bool) : Binary64 := ⟨negative, 0, by decide⟩

/-- The mantissa `m` of the magnitude `m * 2 ^ q`. -/
def mantissa (x : Binary64) : Nat :=
  if x.word < hiddenBit then x.word else x.word % hiddenBit + hiddenBit

/-- The exponent `q` of the magnitude `m * 2 ^ q`. -/
def exponent (x : Binary64) : Int :=
  if x.word < hiddenBit then -1074 else (x.word / hiddenBit : Nat) - 1075

/-- Whether two words stand for one number: they are equal, or both are zero. -/
def sameNumber (x y : Binary64) : Bool :=
  x.word == y.word && (x.negative == y.negative || x.word == 0)

theorem sameNumber_iff {x y : Binary64} :
    x.sameNumber y = true ↔ x = y ∨ (x.word = 0 ∧ y.word = 0) := by
  rcases x with ⟨s, w, hw⟩
  rcases y with ⟨t, v, hv⟩
  simp only [sameNumber, Bool.and_eq_true, Bool.or_eq_true, beq_iff_eq, Binary64.mk.injEq]
  constructor
  · rintro ⟨rfl, rfl | rfl⟩
    · exact .inl ⟨rfl, rfl⟩
    · exact .inr ⟨rfl, rfl⟩
  · rintro (⟨rfl, rfl⟩ | ⟨rfl, rfl⟩)
    · exact ⟨rfl, .inl rfl⟩
    · exact ⟨rfl, .inr rfl⟩

@[simp] theorem sameNumber_refl (x : Binary64) : x.sameNumber x = true :=
  sameNumber_iff.2 (.inl rfl)

end Binary64

/-! ## Rounding a quotient -/

/-- The natural number nearest to `num / den`; a tie goes to the even one. -/
def roundHalfEven (num den : Nat) : Nat :=
  let q := num / den
  let twice := 2 * (num % den)
  if twice < den ∨ (twice = den ∧ q % 2 = 0) then q else q + 1

/-- `num / den / 2 ^ q` as a quotient of natural numbers. -/
def scaled (num den : Nat) (q : Int) : Nat × Nat :=
  if 0 ≤ q then (num, den * Nat.pow 2 q.toNat) else (num * Nat.pow 2 (-q).toNat, den)

/-- The exponent of the spacing of the format around `num / den`, for positive `num` and `den`. -/
def scaleExponent (num den : Nat) : Int :=
  let guess := max ((num.log2 : Int) - den.log2 - 52) (-1074)
  let (n, d) := scaled num den guess
  if -1074 < guess ∧ n < d * hiddenBit then guess - 1 else guess

/-- The magnitude word of the number nearest to `num / den`; none when that is an infinity. -/
def nearest? (num den : Nat) : Option { w : Nat // w < infinityWord } :=
  if num = 0 then some ⟨0, by decide⟩
  else
    let q := scaleExponent num den
    let (n, d) := scaled num den q
    let w := (q + 1074).toNat * hiddenBit + roundHalfEven n d
    if h : w < infinityWord then some ⟨w, h⟩ else none

/-- The number nearest to `digits * 10 ^ power`, with a sign; none when that is an infinity.  The
powers that the format cannot reach are settled first, by the count of digits. -/
def Binary64.ofDecimal? (negative : Bool) (digits : Nat) (power : Int) : Option Binary64 :=
  let count : Int := (Nat.toDigits 10 digits).length
  if digits = 0 ∨ count + power < -330 then some (.zero negative)
  else if 310 < count + power then none
  else
    let (num, den) :=
      if 0 ≤ power then (digits * Nat.pow 10 power.toNat, 1)
      else (digits, Nat.pow 10 (-power).toNat)
    (nearest? num den).map fun w => ⟨negative, w.1, w.2⟩

end PatchStore.Decimal
