import Mathlib.Data.List.Induction
import PatchStore.Time.Format

/-!
# Internet timestamps as text

An internet timestamp (RFC 3339) is the text of what a clock shows, in numbers of a fixed width, with an
optional fraction of the second and the offset of the clock.  There is some freedom in it: the letter
between the date and the time may be small or be a blank, the fraction may have any number of digits,
and a clock without an offset may be marked by a letter of either case.  All such texts are read as
the timestamp that they tell.

* `FractionText`, `OffsetText`, `InternetText` — the texts of a fraction, of an offset, of a timestamp.
* `Scan.run_digits`, `Scan.run_fixedNumber`, `Scan.run_fraction` — digits are read.
* `Scan.run_internetReading` — what a clock shows is read.
* `InternetText.ofText?_eq` — a timestamp is read from each of its texts.
-/

namespace PatchStore.Time

open Timestamp (padded)

/-! ## Digits -/

namespace Timestamp

theorem isDigit_of_mem_padded {width n : Nat} {c : Char} (h : c ∈ padded width n) :
    c.isDigit = true := by
  rcases List.mem_append.mp h with hzero | hdigit
  · rw [(List.mem_replicate.mp hzero).2]
    rfl
  · exact Nat.isDigit_of_mem_toDigits (by decide) (by decide) hdigit

theorem length_padded {width n : Nat} (hwidth : 0 < width) (h : n < Nat.pow 10 width) :
    (padded width n).length = width := by
  have hlength : (Nat.toDigits 10 n).length ≤ width :=
    (Nat.length_toDigits_le_iff (by decide) hwidth).mpr h
  rw [padded, List.length_append, List.length_replicate]
  omega

theorem digitsValue_padded (width n : Nat) : digitsValue (padded width n) = n := by
  have hzeros : ∀ k, digitsValue (List.replicate k '0') = 0 := by
    intro k
    induction k with
    | zero => rfl
    | succ k ih => exact ih
  have hdigits : digitsValue (Nat.toDigits 10 n) = n := by
    have hvalue := Nat.ofDigitChars_toDigits (b := 10) (n := n) (by decide) (by decide)
    rw [Nat.ofDigitChars] at hvalue
    simp only [Nat.mul_comm 10] at hvalue
    exact hvalue
  simp only [digitsValue] at hzeros hdigits ⊢
  rw [padded, List.foldl_append, hzeros, hdigits]

end Timestamp

theorem digitsValue_append_singleton (ds : List Char) (c : Char) :
    digitsValue (ds ++ [c]) = digitsValue ds * 10 + (c.toNat - '0'.toNat) := by
  rw [digitsValue, digitsValue, List.foldl_append]
  rfl

/-- The value of digits in a row. -/
theorem digitsValue_append (ds es : List Char) :
    digitsValue (ds ++ es) = digitsValue ds * Nat.pow 10 es.length + digitsValue es := by
  induction es using List.reverseRecOn with
  | nil => simp [digitsValue]
  | append_singleton es e ih =>
    rw [← List.append_assoc, digitsValue_append_singleton, ih, digitsValue_append_singleton,
      List.length_append, List.length_singleton]
    show _ = digitsValue ds * (Nat.pow 10 es.length * 10) + _
    rw [← Nat.mul_assoc, Nat.add_mul, Nat.add_assoc]

theorem digitsValue_lt {ds : List Char} (h : ∀ c ∈ ds, c.isDigit = true) :
    digitsValue ds < Nat.pow 10 ds.length := by
  induction ds using List.reverseRecOn with
  | nil => exact Nat.one_pos
  | append_singleton ds c ih =>
    obtain ⟨hds, hc⟩ := List.forall_mem_append.mp h
    have hlast : c.toNat ≤ 57 := (Char.isDigit_iff_toNat.mp (hc c List.mem_cons_self)).2
    have hzero : '0'.toNat = 48 := rfl
    have hlt := ih hds
    rw [digitsValue_append_singleton, List.length_append, List.length_singleton]
    show _ < Nat.pow 10 ds.length * 10
    omega

/-- The first nine digits of a fraction of a second are its whole nanoseconds. -/
theorem digitsValue_take_nine {ds : List Char} (hdigits : ∀ c ∈ ds, c.isDigit = true) :
    digitsValue (ds.take 9) * Nat.pow 10 (9 - (ds.take 9).length) =
      digitsValue ds * nanosPerSecond / Nat.pow 10 ds.length := by
  by_cases hfew : ds.length ≤ 9
  · have hpower : nanosPerSecond = Nat.pow 10 (9 - ds.length) * Nat.pow 10 ds.length := by
      show Nat.pow 10 9 = _
      rw [← Nat.sub_add_cancel hfew, Nat.add_sub_cancel]
      exact Nat.pow_add 10 (9 - ds.length) ds.length
    have hpos : 0 < Nat.pow 10 ds.length := Nat.pow_pos (by decide)
    rw [List.take_of_length_le hfew, hpower, ← Nat.mul_assoc, Nat.mul_div_cancel _ hpos]
  · have htaken : (ds.take 9).length = 9 := by
      rw [List.length_take]
      omega
    have hlength : ds.length = 9 + (ds.drop 9).length := by
      rw [List.length_drop]
      omega
    have hdropped : digitsValue (ds.drop 9) < Nat.pow 10 (ds.drop 9).length :=
      digitsValue_lt fun c hc => hdigits c (List.mem_of_mem_drop hc)
    have hpower : Nat.pow 10 ds.length = Nat.pow 10 (ds.drop 9).length * nanosPerSecond := by
      rw [hlength, Nat.mul_comm]
      exact Nat.pow_add 10 9 _
    have hsplit : digitsValue ds =
        Nat.pow 10 (ds.drop 9).length * digitsValue (ds.take 9) + digitsValue (ds.drop 9) := by
      rw [Nat.mul_comm, ← digitsValue_append, List.take_append_drop]
    have hpos : 0 < Nat.pow 10 (ds.drop 9).length := Nat.pow_pos (by decide)
    rw [htaken, hpower]
    calc digitsValue (ds.take 9) * 1
        = digitsValue ds / Nat.pow 10 (ds.drop 9).length := by
          rw [hsplit, Nat.mul_add_div hpos, Nat.div_eq_of_lt hdropped, Nat.mul_one, Nat.add_zero]
      _ = digitsValue ds * nanosPerSecond / (Nat.pow 10 (ds.drop 9).length * nanosPerSecond) :=
          (Nat.mul_div_mul_right _ _ (by decide)).symm

/-! ## The texts of a timestamp -/

/-- The texts of a fraction of a second: none for no nanoseconds, or a full stop and any number of digits
with this many whole nanoseconds. -/
inductive FractionText : (nanos : Nat) → List Char → Prop
  | none : FractionText 0 []
  | digits {nanos : Nat} {ds : List Char} (hne : ds ≠ []) (hdigits : ∀ c ∈ ds, c.isDigit = true)
      (hvalue : digitsValue ds * nanosPerSecond / Nat.pow 10 ds.length = nanos) :
      FractionText nanos ('.' :: ds)

/-- The texts of the offset of a clock in seconds: a letter for universal time, or the hours and the
minutes that the clock is ahead or behind. -/
inductive OffsetText : (offset : Int) → List Char → Prop
  | universal {letter : Char} (h : letter = 'Z' ∨ letter = 'z') : OffsetText 0 [letter]
  | ahead {hours minutes : Nat} (hhours : hours < 24) (hminutes : minutes < 60) :
      OffsetText ((hours * 60 + minutes) * 60) ('+' :: (padded 2 hours ++ ':' :: padded 2 minutes))
  | behind {hours minutes : Nat} (hhours : hours < 24) (hminutes : minutes < 60) :
      OffsetText (-((hours * 60 + minutes) * 60)) ('-' :: (padded 2 hours ++ ':' :: padded 2 minutes))

/-- The characters that may stand between the date and the time. -/
def IsDivider (c : Char) : Prop := c = 'T' ∨ c = 't' ∨ c = ' '

/-- The internet texts of a timestamp: what a clock shows, in a year of four digits, and the offset of
the clock, which shows this at the moment of the timestamp. -/
inductive InternetText : Timestamp → List Char → Prop
  | shown {t : Timestamp} {r : Reading} {year : Nat} {divider : Char} {fraction zone : List Char}
      {offset : Int} (hyear : r.date.year = year) (hyears : year < 10000)
      (hdivider : IsDivider divider) (hfraction : FractionText r.nanos fraction)
      (hzone : OffsetText offset zone) (hshown : Timestamp.ofReading? r offset = some t) :
      InternetText t (padded 4 year ++ '-' :: (padded 2 r.date.month ++ '-' :: (padded 2 r.date.day ++
        divider :: (padded 2 r.hour ++ ':' :: (padded 2 r.minute ++ ':' :: (padded 2 r.second ++
        (fraction ++ zone)))))))

/-- The text of an offset starts with neither a digit nor a full stop. -/
theorem OffsetText.head {offset : Int} {zone : List Char} (h : OffsetText offset zone) :
    ∃ c rest, zone = c :: rest ∧ c.isDigit = false ∧ (c == '.') = false := by
  cases h with
  | universal h =>
    rcases h with rfl | rfl
    · exact ⟨'Z', [], rfl, rfl, rfl⟩
    · exact ⟨'z', [], rfl, rfl, rfl⟩
  | ahead => exact ⟨'+', _, rfl, rfl, rfl⟩
  | behind => exact ⟨'-', _, rfl, rfl, rfl⟩

/-! ## Scanning the texts -/

namespace Scan

open Timestamp

/-- A scan goes on with the characters that are left. -/
theorem run_bind_of_some {α β : Type} {p : Scan α} {cs rest : List Char} {a : α}
    (h : p.run cs = some (a, rest)) (f : α → Scan β) : (p >>= f).run cs = (f a).run rest := by
  rw [StateT.run_bind, h]
  rfl

/-- Digits are taken up to their highest number or to what is no digit. -/
theorem run_digits {least most : Nat} {ds rest : List Char} (hdigits : ∀ c ∈ ds, c.isDigit = true)
    (hleast : least ≤ ds.length) (hmost : ds.length ≤ most)
    (hrest : ds.length = most ∨ ∀ c ∈ rest.head?, c.isDigit = false) :
    (digits least (some most)).run (ds ++ rest) = some (ds, rest) := by
  have hend : (rest.take (most - ds.length)).takeWhile Char.isDigit = [] := by
    rcases hrest with hfull | hother
    · rw [hfull, Nat.sub_self]
      rfl
    · cases rest with
      | nil => rw [List.take_nil, List.takeWhile_nil]
      | cons c rest =>
        cases most - ds.length with
        | zero => rfl
        | succ k =>
          rw [List.take_succ_cons, List.takeWhile_cons, hother c rfl, if_neg Bool.false_ne_true]
  have htaken : ((ds ++ rest).take most).takeWhile Char.isDigit = ds := by
    rw [List.take_append, List.take_of_length_le hmost, List.takeWhile_append_of_pos hdigits, hend,
      List.append_nil]
  have hrun : (digits least (some most)).run (ds ++ rest) =
      (if (((ds ++ rest).take most).takeWhile Char.isDigit).length < least then failure
        else set ((ds ++ rest).drop (((ds ++ rest).take most).takeWhile Char.isDigit).length) >>=
          fun _ => pure (((ds ++ rest).take most).takeWhile Char.isDigit) : Scan (List Char)).run
        (ds ++ rest) := rfl
  rw [hrun, htaken, if_neg (Nat.not_lt.mpr hleast), List.drop_left]
  rfl

/-- A number with leading zeros is read back. -/
theorem run_fixedNumber {width n : Nat} (hwidth : 0 < width) (h : n < Nat.pow 10 width)
    (rest : List Char) : (fixedNumber width).run (padded width n ++ rest) = some (n, rest) := by
  have hlength := length_padded hwidth h
  have hrun : (digits width (some width)).run (padded width n ++ rest) =
      some (padded width n, rest) :=
    run_digits (fun _ => isDigit_of_mem_padded) (Nat.le_of_eq hlength.symm) (Nat.le_of_eq hlength)
      (Or.inl hlength)
  rw [fixedNumber, number, StateT.run_bind, hrun]
  show some (digitsValue (padded width n), rest) = _
  rw [digitsValue_padded]

/-- The digits of a fraction are read, those after the ninth being dropped. -/
theorem run_fraction {nanos : Nat} {ds rest : List Char} (hne : ds ≠ [])
    (hdigits : ∀ c ∈ ds, c.isDigit = true)
    (hvalue : digitsValue ds * nanosPerSecond / Nat.pow 10 ds.length = nanos)
    (hrest : ∀ c ∈ rest.head?, c.isDigit = false) :
    fraction.run (ds ++ rest) = some (nanos, rest) := by
  have htaken : (digits 1 (some 9)).run (ds.take 9 ++ (ds.drop 9 ++ rest)) =
      some (ds.take 9, ds.drop 9 ++ rest) := by
    have hpos : 0 < ds.length := List.length_pos_iff.mpr hne
    refine run_digits (fun c hc => hdigits c (List.mem_of_mem_take hc)) ?_ ?_ ?_
    · rw [List.length_take]
      omega
    · exact List.length_take_le 9 ds
    · by_cases hfew : ds.length < 9
      · rw [List.drop_of_length_le (Nat.le_of_lt hfew)]
        exact Or.inr hrest
      · rw [List.length_take]
        exact Or.inl (by omega)
  have hdropped : (ds.drop 9 ++ rest).dropWhile Char.isDigit = rest := by
    rw [List.dropWhile_append_of_pos fun c hc => hdigits c (List.mem_of_mem_drop hc)]
    cases rest with
    | nil => rfl
    | cons c rest => rw [List.dropWhile_cons, hrest c rfl, if_neg Bool.false_ne_true]
  rw [← List.append_assoc, List.take_append_drop] at htaken
  rw [fraction, StateT.run_bind, htaken]
  show some (digitsValue (ds.take 9) * Nat.pow 10 (9 - (ds.take 9).length),
    (ds.drop 9 ++ rest).dropWhile Char.isDigit) = _
  rw [hdropped, digitsValue_take_nine hdigits, hvalue]

/-- A fraction of a second is read from its texts, in front of the text of an offset. -/
theorem run_optionalFraction {nanos : Nat} {offset : Int} {fraction zone : List Char}
    (h : FractionText nanos fraction) (hzone : OffsetText offset zone) :
    optionalFraction.run (fraction ++ zone) = some (nanos, zone) := by
  obtain ⟨c, rest, hhead, hdigit, hpoint⟩ := hzone.head
  cases h with
  | none =>
    have hpeek : (peek (· == '.')).run (c :: rest) = some (c == '.', c :: rest) := rfl
    rw [hpoint] at hpeek
    rw [List.nil_append, hhead, optionalFraction, run_bind_of_some hpeek,
      if_neg Bool.false_ne_true]
    rfl
  | @digits nanos ds hne hdigits hvalue =>
    have hpeek : (peek (· == '.')).run ('.' :: (ds ++ zone)) = some (true, '.' :: (ds ++ zone)) := rfl
    have hrest : ∀ c ∈ zone.head?, c.isDigit = false := by
      intro d hd
      rw [hhead] at hd
      cases hd
      exact hdigit
    rw [List.cons_append, optionalFraction, run_bind_of_some hpeek, if_pos rfl,
      run_bind_of_some (run_char '.' _), run_fraction hne hdigits hvalue hrest]

/-- An offset in hours and minutes is read after its sign. -/
theorem run_signedOffset {sign : Char} {negative : Bool}
    (hsign : ∀ cs, (offsetSign true).run (sign :: cs) = some (negative, cs)) {hours minutes : Nat}
    (hhours : hours < 24) (hminutes : minutes < 60) :
    (signedOffset (char ':') true).run (sign :: (padded 2 hours ++ ':' :: padded 2 minutes)) =
      some (if negative then -((hours * 60 + minutes) * 60 : Int) else (hours * 60 + minutes) * 60,
        []) := by
  have hlast : (fixedNumber 2).run (padded 2 minutes) = some (minutes, []) := by
    have h : (fixedNumber 2).run (padded 2 minutes ++ []) = some (minutes, []) :=
      run_fixedNumber (by decide) (Nat.lt_trans hminutes (by decide)) []
    rwa [List.append_nil] at h
  have hfirst : (fixedNumber 2).run (padded 2 hours ++ ':' :: padded 2 minutes) =
      some (hours, ':' :: padded 2 minutes) :=
    run_fixedNumber (by decide) (Nat.lt_trans hhours (by decide)) _
  rw [signedOffset, run_bind_of_some (hsign _), run_bind_of_some hfirst,
    run_bind_of_some (run_char ':' _), run_bind_of_some hlast, if_neg (Nat.not_le.mpr hminutes)]
  cases negative <;> rfl

/-- What is not the letter for universal time is read as an offset with a sign. -/
theorem run_zonedOffset_of_sign {sign : Char} (h : ¬(sign = 'Z' ∨ sign = 'z'))
    (separator : Scan Unit) (cs : List Char) :
    (zonedOffset separator).run (sign :: cs) = (signedOffset separator true).run (sign :: cs) := by
  show (if sign = 'Z' ∨ sign = 'z' then set cs >>= fun _ => pure 0
    else signedOffset separator true : Scan Int).run (sign :: cs) = _
  rw [if_neg h]

/-- An offset is read from its texts. -/
theorem run_zonedOffset {offset : Int} {zone : List Char} (h : OffsetText offset zone) :
    (zonedOffset (char ':')).run zone = some (offset, []) := by
  cases h with
  | universal h =>
    rcases h with rfl | rfl
    · rfl
    · rfl
  | ahead hhours hminutes =>
    have hsign : ∀ cs, (offsetSign true).run ('+' :: cs) = some (false, cs) := fun _ => rfl
    rw [run_zonedOffset_of_sign (by decide), run_signedOffset hsign hhours hminutes]
    rfl
  | behind hhours hminutes =>
    have hsign : ∀ cs, (offsetSign true).run ('-' :: cs) = some (true, cs) := fun _ => rfl
    rw [run_zonedOffset_of_sign (by decide), run_signedOffset hsign hhours hminutes]
    rfl

/-- The character between the date and the time is passed over. -/
theorem run_divider {divider : Char} (h : IsDivider divider) (cs : List Char) :
    (peek fun c => c == 'T' || c == 't' || c == ' ').run (divider :: cs) =
      some (true, divider :: cs) := by
  rcases h with rfl | rfl | rfl
  · rfl
  · rfl
  · rfl

/-- What a clock shows is read, in front of the text of an offset. -/
theorem run_internetReading {r : Reading} {year : Nat} {divider : Char} {fraction zone : List Char}
    {offset : Int} (hyear : r.date.year = year) (hyears : year < 10000)
    (hdivider : IsDivider divider) (hfraction : FractionText r.nanos fraction)
    (hzone : OffsetText offset zone) (hvalid : r.isValid = true) :
    internetReading.run (padded 4 year ++ '-' :: (padded 2 r.date.month ++
      '-' :: (padded 2 r.date.day ++ divider :: (padded 2 r.hour ++
      ':' :: (padded 2 r.minute ++ ':' :: (padded 2 r.second ++ (fraction ++ zone))))))) =
        some (r, zone) := by
  simp only [Reading.isValid, Civil.isValid, Bool.and_eq_true, decide_eq_true_eq] at hvalid
  obtain ⟨⟨⟨⟨⟨⟨⟨⟨_, _⟩, hmonth⟩, _⟩, hday⟩, hhour⟩, hminute⟩, hsecond⟩, _⟩ := hvalid
  have hdays : r.date.day ≤ 31 := by
    rw [Civil.daysInMonth] at hday
    split at hday
    · split at hday <;> omega
    · split at hday <;> omega
  have htail : ∀ cs, (modify List.tail : Scan Unit).run (divider :: cs) = some ((), cs) :=
    fun _ => rfl
  have htwo : 0 < 2 := by decide
  rw [internetReading, run_bind_of_some (run_fixedNumber (by decide) hyears _),
    run_bind_of_some (run_char '-' _),
    run_bind_of_some (run_fixedNumber htwo (Nat.lt_of_le_of_lt hmonth (by decide)) _),
    run_bind_of_some (run_char '-' _),
    run_bind_of_some (run_fixedNumber htwo (Nat.lt_of_le_of_lt hdays (by decide)) _),
    run_bind_of_some (run_divider hdivider _), if_neg (by decide), run_bind_of_some (htail _),
    run_bind_of_some (run_fixedNumber htwo (Nat.lt_of_le_of_lt hhour (by decide)) _),
    run_bind_of_some (run_char ':' _),
    run_bind_of_some (run_fixedNumber htwo (Nat.lt_of_le_of_lt hminute (by decide)) _),
    run_bind_of_some (run_char ':' _),
    run_bind_of_some (run_fixedNumber htwo (Nat.lt_of_le_of_lt hsecond (by decide)) _),
    run_bind_of_some (run_optionalFraction hfraction hzone), ← hyear]
  rfl

/-- The moment of a reading takes no characters. -/
theorem run_momentOf {r : Reading} {offset : Int} {t : Timestamp}
    (h : Timestamp.ofReading? r offset = some t) (cs : List Char) :
    (momentOf r offset).run cs = some (t, cs) := by
  delta momentOf
  rw [h]
  rfl

end Scan

/-! ## Reading timestamps -/

/-- Clocks show what they can show. -/
theorem Timestamp.isValid_of_ofReading? {r : Reading} {offset : Int} {t : Timestamp}
    (h : ofReading? r offset = some t) : r.isValid = true := by
  rw [ofReading?] at h
  split at h
  · rename_i hguard
    simp only [Bool.and_eq_true] at hguard
    exact hguard.1.1
  · cases h

namespace InternetText

open Scan

theorem ofInternet?_eq {t : Timestamp} {text : String} (h : InternetText t text.toList) :
    Timestamp.ofInternet? text = some t := by
  generalize htext : text.toList = cs at h
  cases h with
  | shown hyear hyears hdivider hfraction hzone hshown =>
    have hvalid := Timestamp.isValid_of_ofReading? hshown
    rw [Timestamp.ofInternet?, Scan.all, htext, internetTimestamp,
      run_bind_of_some (run_internetReading hyear hyears hdivider hfraction hzone hvalid),
      run_bind_of_some (run_zonedOffset hzone), run_momentOf hshown]
    rfl

/-- A timestamp is read from each of its internet texts, as metadata is read. -/
theorem ofText?_eq {t : Timestamp} {text : String} (h : InternetText t text.toList) :
    Timestamp.ofText? text = some t := by
  rw [Timestamp.ofText?, h.ofInternet?_eq]
  rfl

end InternetText

end PatchStore.Time
