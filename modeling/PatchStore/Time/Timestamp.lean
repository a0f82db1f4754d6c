import PatchStore.Time.Civil

/-!
# Timestamps

A timestamp is a moment together with the offset of the clock that it was read from.  A leap second
is the 59th second with a nanosecond count of a thousand million or more.  Two timestamps are the
same moment whatever their offsets.

* `atSameMoment_refl` — a timestamp is at its own moment.
-/

namespace PatchStore.Time

/-- A moment in seconds from the start of 1970, without the offset, and nanoseconds, and the offset
of the clock in seconds. -/
structure Timestamp where
  seconds : Int
  nanos : Nat
  offset : Int
  deriving DecidableEq, Inhabited

/-- The number of seconds of a day. -/
def secondsPerDay : Int := 86400

/-- The number of nanoseconds of a second. -/
def nanosPerSecond : Nat := 1000000000

/-- What a clock shows: a date, a time of day, and the fraction of the second.  The 60th second is a
leap second. -/
structure Reading where
  date : Civil
  hour : Nat
  minute : Nat
  second : Nat
  nanos : Nat
  deriving DecidableEq, Inhabited

/-- Whether a clock can show this. -/
def Reading.isValid (r : Reading) : Bool :=
  r.date.isValid && r.hour ≤ 23 && r.minute ≤ 59 && r.second ≤ 60 &&
    decide (r.nanos < nanosPerSecond)

namespace Timestamp

/-- Whether two timestamps are at the same moment. -/
def atSameMoment (a b : Timestamp) : Bool := a.seconds == b.seconds && a.nanos == b.nanos

@[simp] theorem atSameMoment_refl (t : Timestamp) : t.atSameMoment t = true := by
  simp [atSameMoment]

/-- The first second of the first year. -/
def minSeconds : Int := Civil.toDays ⟨-262143, 1, 1⟩ * secondsPerDay

/-- The last second of the last year. -/
def maxSeconds : Int := (Civil.toDays ⟨262142, 12, 31⟩ + 1) * secondsPerDay - 1

/-- The moment at which a clock with the given offset shows a reading. -/
def ofReading? (r : Reading) (offset : Int) : Option Timestamp :=
  if r.isValid && -secondsPerDay < offset && offset < secondsPerDay then
    let second := if r.second = 60 then 59 else r.second
    let nanos := if r.second = 60 then r.nanos + nanosPerSecond else r.nanos
    let shown := r.date.toDays * secondsPerDay + ((r.hour * 60 + r.minute) * 60 + second : Nat)
    let seconds := shown - offset
    if minSeconds ≤ seconds ∧ seconds ≤ maxSeconds then some ⟨seconds, nanos, offset⟩ else none
  else none

/-- What the clock shows at a timestamp. -/
def reading (t : Timestamp) : Reading :=
  let shown := t.seconds + t.offset
  let day := shown / secondsPerDay
  let time := (shown - day * secondsPerDay).toNat
  let leap := nanosPerSecond ≤ t.nanos
  { date := Civil.ofDays day
    hour := time / 3600
    minute := time / 60 % 60
    second := if leap then time % 60 + 1 else time % 60
    nanos := if leap then t.nanos - nanosPerSecond else t.nanos }

end Timestamp

end PatchStore.Time
