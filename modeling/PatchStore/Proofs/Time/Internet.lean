import PatchStore.Proofs.Time.Calendar
import PatchStore.Proofs.Time.InternetText

/-!
# Internet timestamps are read back

A timestamp is written in the strict internet form.  What is written is an internet text of the
timestamp, if its clock shows a year of four digits and goes by whole minutes; so the timestamp is
read back from it.  This includes leap seconds.

* `Timestamp.IsWritable` — the clock shows a year of four digits and goes by whole minutes.
* `IsWritable.ofReading?_reading` — what a clock shows tells the moment.
* `IsWritable.internetText_render` — what is written is a text of the timestamp.
* `Timestamp.IsPlain` — the clock shows universal time, a year of four digits and no leap second.
* `IsPlain.ofText?_render` — a timestamp is read back.
-/

namespace PatchStore.Time

namespace Timestamp

/-! ## What clocks show -/

/-- The clock shows a year of four digits, and is some whole minutes ahead of universal time or behind
it.  A leap second comes at the end of a minute. -/
structure IsWritable (t : Timestamp) : Prop where
  minutes : t.offset % 60 = 0
  offset : -secondsPerDay < t.offset ∧ t.offset < secondsPerDay
  nanos : t.nanos < nanosPerSecond ∨ t.nanos < 2 * nanosPerSecond ∧ t.seconds % 60 = 59
  year : 0 ≤ t.reading.date.year ∧ t.reading.date.year ≤ 9999

namespace IsWritable

/-- The reading of a clock, from the day and the second of the day.  A leap second is shown as the 60th
of its minute, and no other second is. -/
theorem exists_reading {t : Timestamp} (h : t.IsWritable) :
    ∃ (day : Int) (time second nanos : Nat), time < 86400 ∧
      t.seconds + t.offset = day * secondsPerDay + time ∧
      t.reading = ⟨Civil.ofDays day, time / 3600, time / 60 % 60, second, nanos⟩ ∧
      second ≤ 60 ∧ nanos < nanosPerSecond ∧ (if second = 60 then 59 else second) = time % 60 ∧
      (if second = 60 then nanos + nanosPerSecond else nanos) = t.nanos := by
  obtain ⟨day, hday⟩ : ∃ day, (t.seconds + t.offset) / secondsPerDay = day := ⟨_, rfl⟩
  obtain ⟨time, htime⟩ : ∃ time, (t.seconds + t.offset - day * secondsPerDay).toNat = time :=
    ⟨_, rfl⟩
  have hminutes := h.minutes
  have hreading : t.reading = ⟨Civil.ofDays day, time / 3600, time / 60 % 60,
      if nanosPerSecond ≤ t.nanos then time % 60 + 1 else time % 60,
      if nanosPerSecond ≤ t.nanos then t.nanos - nanosPerSecond else t.nanos⟩ := by
    rw [← htime, ← hday]
    rfl
  rw [secondsPerDay] at hday htime ⊢
  refine ⟨day, time, _, _, by omega, by omega, hreading, ?_⟩
  rcases h.nanos with hnanos | ⟨hnanos, hlast⟩
  · have hsecond : ¬time % 60 = 60 := by omega
    rw [if_neg (Nat.not_le.mpr hnanos), if_neg (Nat.not_le.mpr hnanos), if_neg hsecond,
      if_neg hsecond]
    exact ⟨by omega, hnanos, rfl, rfl⟩
  · by_cases hleap : nanosPerSecond ≤ t.nanos
    · have hsecond : time % 60 + 1 = 60 := by omega
      rw [if_pos hleap, if_pos hleap, if_pos hsecond, if_pos hsecond]
      exact ⟨by omega, by omega, by omega, Nat.sub_add_cancel hleap⟩
    · have hsecond : ¬time % 60 = 60 := by omega
      rw [if_neg hleap, if_neg hleap, if_neg hsecond, if_neg hsecond]
      exact ⟨by omega, Nat.not_le.mp hleap, rfl, rfl⟩

theorem isValid_reading {t : Timestamp} (h : t.IsWritable) : t.reading.isValid = true := by
  obtain ⟨day, time, second, nanos, htime, -, hreading, hsecond, hnanos, -, -⟩ := h.exists_reading
  have hyear := h.year
  rw [hreading] at hyear ⊢
  have hyear : 0 ≤ (Civil.ofDays day).year ∧ (Civil.ofDays day).year ≤ 9999 := hyear
  have hrange : Civil.inRange (Civil.ofDays day).year = true := by
    rw [Civil.inRange, Bool.and_eq_true, decide_eq_true_eq, decide_eq_true_eq]
    omega
  have hhour : time / 3600 ≤ 23 := by omega
  have hminute : time / 60 % 60 ≤ 59 := by omega
  simp only [Reading.isValid, Civil.isValid_ofDays hrange, hhour, hminute, hsecond, hnanos,
    decide_true, Bool.and_self]

/-- What a clock shows tells the moment. -/
theorem ofReading?_reading {t : Timestamp} (h : t.IsWritable) :
    ofReading? t.reading t.offset = some t := by
  have hvalid := h.isValid_reading
  have hyear := h.year
  have hoffset := h.offset
  obtain ⟨day, time, second, nanos, htime, hshown, hreading, -, -, hsecond, hnanos⟩ :=
    h.exists_reading
  rw [hreading] at hvalid hyear ⊢
  obtain ⟨hfirst, hlast⟩ := Civil.bounds_of_year hyear
  -- the range of moments is wider than the years of four digits by far
  have hmin : minSeconds ≤ -1000000000000 := by decide
  have hmax : 1000000000000 ≤ maxSeconds := by decide
  have hseconds : day * secondsPerDay +
      ((time / 3600 * 60 + time / 60 % 60) * 60 + time % 60 : Nat) - t.offset = t.seconds := by
    omega
  have hrange : minSeconds ≤ t.seconds ∧ t.seconds ≤ maxSeconds := by
    rw [secondsPerDay] at hshown hoffset
    omega
  simp only [ofReading?, hvalid, hoffset, Civil.toDays_ofDays, hsecond, hnanos, hseconds,
    decide_true, Bool.and_self, if_true, if_pos hrange]

end IsWritable

/-! ## What is written -/

/-- A fraction of a second is written in groups of digits. -/
theorem fractionText_renderFraction {nanos : Nat} (h : nanos < nanosPerSecond) :
    FractionText nanos (renderFraction nanos) := by
  have hgroups : ∀ width n, 0 < width → n < Nat.pow 10 width →
      n * nanosPerSecond = nanos * Nat.pow 10 width → FractionText nanos ('.' :: padded width n) := by
    intro width n hwidth hn hnanos
    have hlength := length_padded hwidth hn
    have hpos : 0 < Nat.pow 10 width := Nat.pow_pos (by decide)
    refine .digits (List.length_pos_iff.mp (hlength.symm ▸ hwidth))
      (fun _ => isDigit_of_mem_padded) ?_
    rw [digitsValue_padded, hlength, hnanos, Nat.mul_div_cancel _ hpos]
  rw [nanosPerSecond] at h hgroups
  rw [renderFraction]
  split
  · next hzero =>
    subst hzero
    exact .none
  · split
    · next hmillis =>
      exact hgroups 3 (nanos / 1000000) (by decide) (show _ < 1000 by omega)
        (show _ = nanos * 1000 by omega)
    · split
      · next hmicros =>
        exact hgroups 6 (nanos / 1000) (by decide) (show _ < 1000000 by omega)
          (show _ = nanos * 1000000 by omega)
      · exact hgroups 9 nanos (by decide) h rfl

/-- An offset of whole minutes is written in hours and minutes, or as a letter. -/
theorem offsetText_renderOffset {offset : Int} (hminutes : offset % 60 = 0)
    (h : -secondsPerDay < offset ∧ offset < secondsPerDay) :
    OffsetText offset (renderOffset offset) := by
  rw [secondsPerDay] at h
  rw [renderOffset]
  split
  · next hzero =>
    subst hzero
    exact .universal (Or.inl rfl)
  · obtain ⟨minutes, hwhole⟩ : ∃ minutes, (offset.natAbs + 30) / 60 = minutes := ⟨_, rfl⟩
    have hhours : minutes / 60 < 24 := by omega
    have hrest : minutes % 60 < 60 := Nat.mod_lt _ (by decide)
    simp only [hwhole]
    split
    · next hbehind =>
      have hoffset : offset = -(((minutes / 60 : Nat) * 60 + (minutes % 60 : Nat)) * 60) := by omega
      conv => lhs; rw [hoffset]
      exact .behind hhours hrest
    · next hahead =>
      have hoffset : offset = ((minutes / 60 : Nat) * 60 + (minutes % 60 : Nat)) * 60 := by omega
      conv => lhs; rw [hoffset]
      exact .ahead hhours hrest

/-- What is written of a timestamp is an internet text of it. -/
theorem IsWritable.internetText_render {t : Timestamp} (h : t.IsWritable) :
    InternetText t t.render.toList := by
  obtain ⟨year, hyear⟩ := Int.eq_ofNat_of_zero_le h.year.1
  have hlast := h.year.2
  have hwritten : renderYear t.reading.date.year = padded 4 year := by
    rw [renderYear, if_pos h.year, hyear, Int.toNat_natCast]
  have hvalid := h.isValid_reading
  rw [Reading.isValid, Bool.and_eq_true, decide_eq_true_eq] at hvalid
  have hshown := InternetText.shown hyear (by omega) (Or.inl rfl)
    (fractionText_renderFraction hvalid.2) (offsetText_renderOffset h.minutes h.offset)
    h.ofReading?_reading
  rw [render, String.toList_ofList, renderChars, hwritten]
  simpa only [List.append_assoc, List.cons_append] using hshown

/-! ## Plain timestamps -/

/-- The clock shows universal time, a year of four digits and no leap second. -/
structure IsPlain (t : Timestamp) : Prop where
  offset : t.offset = 0
  nanos : t.nanos < nanosPerSecond
  year : 0 ≤ t.reading.date.year ∧ t.reading.date.year ≤ 9999

theorem isPlain_default : (default : Timestamp).IsPlain := ⟨rfl, by decide, by decide⟩

theorem IsPlain.isWritable {t : Timestamp} (h : t.IsPlain) : t.IsWritable where
  minutes := by rw [h.offset]; rfl
  offset := by rw [h.offset]; decide
  nanos := Or.inl h.nanos
  year := h.year

/-- **Timestamps are read back.**  A timestamp whose clock shows universal time, a year of four
digits and no leap second is read back from its text. -/
theorem IsPlain.ofText?_render {t : Timestamp} (h : t.IsPlain) : ofText? t.render = some t :=
  h.isWritable.internetText_render.ofText?_eq

end Timestamp

end PatchStore.Time
