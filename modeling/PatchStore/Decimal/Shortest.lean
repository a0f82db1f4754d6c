import PatchStore.Decimal.Binary64

/-!
# Shortest decimal digits

The decimal numbers that read back as a given positive binary64 number fill an interval: from half
the gap below the number to half the gap above it, both ends included exactly when the mantissa is
even.  Among the grids of multiples of a power of ten, `shortest` takes the coarsest one that meets
the interval and, of the grid's two neighbours of the number, the nearer one inside; a tie goes to
the even multiple.  A coarser grid has fewer digits, so no decimal number with fewer digits reads
back.

All comparisons are exact: a multiple `x * 10 ^ g` and a quarter gap `c * 2 ^ (q - 2)` are compared
after both have been cleared of negative powers.
-/

namespace PatchStore.Decimal

/-- The interval that reads back as `m * 2 ^ q`, in quarters of the spacing. -/
structure Interval where
  low : Nat
  mid : Nat
  high : Nat
  closed : Bool

/-- The spacing below a power of two is half of the spacing above it, except at the bottom of the
format. -/
def Binary64.interval (x : Binary64) : Interval :=
  let m := x.mantissa
  { low := if m = hiddenBit ∧ -1074 < x.exponent then 4 * m - 1 else 4 * m - 2
    mid := 4 * m
    high := 4 * m + 2
    closed := m % 2 == 0 }

/-- The factors that clear `x * 10 ^ g` and `c * 2 ^ q` of negative powers: the first multiplies
`x`, the second multiplies `c`. -/
def commonScale (g q : Int) : Nat × Nat :=
  (Nat.pow 10 g.toNat * Nat.pow 2 (-q).toNat, Nat.pow 2 q.toNat * Nat.pow 10 (-g).toNat)

/-- The multiple of `10 ^ g` next to the number that lies in the interval, if there is one. -/
def Interval.gridPoint? (i : Interval) (q g : Int) : Option Nat :=
  let (grid, unit) := commonScale g q
  let low := i.low * unit
  let mid := i.mid * unit
  let high := i.high * unit
  let down := mid / grid
  let inside (x : Nat) : Bool :=
    if i.closed then low ≤ x * grid && x * grid ≤ high else low < x * grid && x * grid < high
  let up := down + 1
  match inside down, inside up with
  | true, false => some down
  | false, true => some up
  | false, false => none
  | true, true =>
    let below := mid - down * grid
    let above := up * grid - mid
    if below < above ∨ (below = above ∧ down % 2 = 0) then some down else some up

/-- Tries the grids `10 ^ g`, `10 ^ (g - 1)`, … until one meets the interval. -/
def Interval.coarsest (i : Interval) (q : Int) : Nat → Int → Nat × Int
  | 0, g => (0, g)
  | tries + 1, g =>
    match i.gridPoint? q g with
    | some x => (x, g)
    | none => i.coarsest q tries (g - 1)

/-- A power of ten above the number. -/
def Binary64.tenPowerAbove (x : Binary64) : Int :=
  (x.exponent + x.mantissa.log2 + 1) * 30103 / 100000 + 2

/-- The shortest decimal `x * 10 ^ g` that reads back as the magnitude of a number that is not
zero. -/
def Binary64.shortest (x : Binary64) : Nat × Int :=
  x.interval.coarsest (x.exponent - 2) 24 x.tenPowerAbove

end PatchStore.Decimal
