import PatchStore.Text.Case

/-!
# What the tables of letter case say of one another

A character that has another lower case is cased and not case-ignorable, and the same holds of its
lower case.  So whoever passes over the case-ignorable characters of a text and asks for a cased one
sees the same before and after the text is lowered.

The tables are compared in sweeps.  For the code points of a run of the map a table is searched from the
first of its runs that does not end before them, and for the next run from there on, so that a table is
gone through once as long as the code points increase.

* `Run.members`, `exists_shift_of_image?` — the code points of a run, and those that a map of shifts
  sends elsewhere.
* `runsFrom`, `member_runsFrom` — a table without the runs that end before a code point.
* `sweep`, `accepts_of_sweep` — what a table says of the code points of a map, or of their images.
* `case_of_image?` — the comparisons.
* `exists_lowerChar` — the lower case of one character.
-/

namespace PatchStore.Text

/-! ## The code points of a run -/

/-- The code points of a run, in increasing order. -/
def Run.members (r : Run) : List Nat := List.range' r.first ((r.last - r.first) / r.step + 1) r.step

theorem Run.mem_members {r : Run} {n : Nat} (hfirst : r.first ≤ n) (hlast : n ≤ r.last)
    (hhits : r.hits n = true) : n ∈ r.members := by
  have hmod : (n - r.first) % r.step = 0 := by simpa [hits] using hhits
  have hcount : (n - r.first) / r.step < (r.last - r.first) / r.step + 1 :=
    Nat.lt_succ_of_le (Nat.div_le_div_right (by omega))
  have hn : n = r.first + r.step * ((n - r.first) / r.step) := by
    have hdiv := Nat.div_add_mod (n - r.first) r.step
    omega
  exact List.mem_range'.mpr ⟨_, hcount, hn⟩

theorem Run.first_le_of_mem_members {r : Run} {n : Nat} (h : n ∈ r.members) : r.first ≤ n := by
  obtain ⟨i, _, rfl⟩ := List.mem_range'.mp h
  exact Nat.le_add_right r.first _

/-- A code point with an image is one of a run of the map, and keeps its distance from the start of
the run. -/
theorem exists_shift_of_image? {ss : List Shift} {n m : Nat} (h : image? ss n = some m) :
    ∃ s ∈ ss, n ∈ s.run.members ∧ m = s.target + (n - s.run.first) := by
  induction ss with
  | nil => cases h
  | cons s ss ih =>
    rw [image?] at h
    split at h
    · cases h
    · split at h
      · split at h
        · cases h
          exact ⟨s, List.mem_cons_self, Run.mem_members (by omega) (by omega) ‹_›, rfl⟩
        · cases h
      · obtain ⟨found, hmem, himage⟩ := ih h
        exact ⟨found, List.mem_cons_of_mem s hmem, himage⟩

/-! ## Tables from a code point on -/

/-- A table without the runs at its start that end before a code point. -/
def runsFrom (n : Nat) : List Run → List Run
  | [] => []
  -- a Boolean test, as the kernel is slow to decide a comparison
  | r :: rs => bif Nat.ble n r.last then r :: rs else runsFrom n rs

/-- What follows a code point is in a table just when it is in the runs from that code point on. -/
theorem member_runsFrom {rs : List Run} (hrs : (rs.all fun r => decide (r.first ≤ r.last)) = true)
    {start n : Nat} (hn : start ≤ n) : member (runsFrom start rs) n = member rs n := by
  induction rs with
  | nil => rfl
  | cons r rs ih =>
    obtain ⟨hr, hrest⟩ := List.forall_mem_cons.mp (List.all_eq_true.mp hrs)
    have hr : r.first ≤ r.last := of_decide_eq_true hr
    rw [runsFrom]
    cases hlast : Nat.ble start r.last with
    | true => rfl
    | false =>
      have hlast : ¬start ≤ r.last := by simp [← Nat.ble_eq, hlast]
      rw [cond_false, ih (List.all_eq_true.mpr hrest),
        member_cons_of_last_lt (by omega) (by omega)]

theorem mem_of_mem_runsFrom {n : Nat} {rs : List Run} {r : Run} (h : r ∈ runsFrom n rs) : r ∈ rs := by
  induction rs with
  | nil => exact h
  | cons first rs ih =>
    rw [runsFrom] at h
    cases hlast : Nat.ble n first.last with
    | true => rwa [hlast, cond_true] at h
    | false =>
      rw [hlast, cond_false] at h
      exact List.mem_cons_of_mem first (ih h)

/-- Whether it is accepted what a table says of a value of each code point of shifts, where the table has
been searched as far as the value `before`. -/
def sweepFrom (table : List Run) (value : Shift → Nat → Nat) (accepts : Nat → Bool → Bool)
    (before : Nat) (rest : List Run) : List Shift → Bool
  | [] => true
  | s :: ss =>
    let first := value s s.run.first
    -- a shift with smaller values than the one before has the table searched from its start again
    let here := runsFrom first (bif Nat.ble before first then rest else table)
    (s.run.members.all fun n => accepts n (member here (value s n))) &&
      sweepFrom table value accepts first here ss

/-- Whether it is accepted what a table says of a value of each code point of shifts. -/
def sweep (table : List Run) (value : Shift → Nat → Nat) (accepts : Nat → Bool → Bool)
    (ss : List Shift) : Bool := sweepFrom table value accepts 0 table ss

section

variable {table : List Run} {value : Shift → Nat → Nat} {accepts : Nat → Bool → Bool} {ss : List Shift}

theorem accepts_of_sweepFrom (htable : (table.all fun r => decide (r.first ≤ r.last)) = true)
    (hvalue : ∀ s n, s.run.first ≤ n → value s s.run.first ≤ value s n) {before : Nat}
    {rest : List Run} (hrest : rest ⊆ table)
    (hmember : ∀ n, before ≤ n → member rest n = member table n)
    (h : sweepFrom table value accepts before rest ss = true) {s : Shift} (hs : s ∈ ss) {n : Nat}
    (hn : n ∈ s.run.members) : accepts n (member table (value s n)) = true := by
  induction ss generalizing before rest with
  | nil => cases hs
  | cons first ss ih =>
    obtain ⟨source, hsource, hsame, hsweep⟩ : ∃ source, source ⊆ table ∧
        (∀ m, value first first.run.first ≤ m → member source m = member table m) ∧
        ((first.run.members.all fun n => accepts n
          (member (runsFrom (value first first.run.first) source) (value first n))) &&
            sweepFrom table value accepts (value first first.run.first)
              (runsFrom (value first first.run.first) source) ss) = true := by
      refine ⟨_, ?_, ?_, h⟩
      · cases Nat.ble before (value first first.run.first) with
        | true => exact hrest
        | false => exact List.Subset.refl table
      · intro m hm
        cases hbefore : Nat.ble before (value first first.run.first) with
        | true => exact hmember m (Nat.le_trans (Nat.le_of_ble_eq_true hbefore) hm)
        | false => rfl
    obtain ⟨hfirst, hnext⟩ := (Bool.and_eq_true _ _).mp hsweep
    have hruns : (source.all fun r => decide (r.first ≤ r.last)) = true :=
      List.all_eq_true.mpr fun r hr => List.all_eq_true.mp htable r (hsource hr)
    have hhere : ∀ m, value first first.run.first ≤ m →
        member (runsFrom (value first first.run.first) source) m = member table m :=
      fun m hm => (member_runsFrom hruns hm).trans (hsame m hm)
    rcases List.mem_cons.mp hs with rfl | hs
    · rw [← hhere _ (hvalue s n (Run.first_le_of_mem_members hn))]
      exact List.all_eq_true.mp hfirst n hn
    · exact ih (fun r hr => hsource (mem_of_mem_runsFrom hr)) hhere hnext hs

/-- What a sweep accepts is what the table says. -/
theorem accepts_of_sweep (htable : (table.all fun r => decide (r.first ≤ r.last)) = true)
    (hvalue : ∀ s n, s.run.first ≤ n → value s s.run.first ≤ value s n)
    (h : sweep table value accepts ss = true) {s : Shift} (hs : s ∈ ss) {n : Nat}
    (hn : n ∈ s.run.members) : accepts n (member table (value s n)) = true :=
  accepts_of_sweepFrom htable hvalue (List.Subset.refl table) (fun _ _ => rfl) h hs hn

end

/-! ## The comparisons -/

/-- A code point with another lower case is upper-case or title-case, its lower case is lower-case,
and neither is case-ignorable. -/
theorem case_of_image? {n m : Nat} (h : image? lowerShifts n = some m) :
    (member upperRuns n || member titleRuns n) = true ∧ member caseIgnorableRuns n = false ∧
      member lowerRuns m = true ∧ member caseIgnorableRuns m = false := by
  obtain ⟨s, hs, hn, rfl⟩ := exists_shift_of_image? h
  have hself : ∀ (s : Shift) (n : Nat), s.run.first ≤ n → s.run.first ≤ n := fun _ _ h => h
  have himage : ∀ (s : Shift) (n : Nat), s.run.first ≤ n →
      s.target + (s.run.first - s.run.first) ≤ s.target + (n - s.run.first) :=
    fun s n h => Nat.add_le_add_left (Nat.sub_le_sub_right h _) _
  have hignorable : (caseIgnorableRuns.all fun r => decide (r.first ≤ r.last)) = true := by
    decide +kernel
  have hcased : sweep upperRuns (fun _ n => n) (fun n upper => upper || member titleRuns n)
      lowerShifts = true := by
    decide +kernel
  have hplain : sweep caseIgnorableRuns (fun _ n => n) (fun _ ignorable => !ignorable)
      lowerShifts = true := by
    decide +kernel
  have hlower : sweep lowerRuns (fun s n => s.target + (n - s.run.first)) (fun _ lower => lower)
      lowerShifts = true := by
    decide +kernel
  have hplain' : sweep caseIgnorableRuns (fun s n => s.target + (n - s.run.first))
      (fun _ ignorable => !ignorable) lowerShifts = true := by
    decide +kernel
  refine ⟨?_, ?_, ?_, ?_⟩
  · exact accepts_of_sweep (by decide +kernel) hself hcased hs hn
  · exact (Bool.not_eq_true' _).mp (accepts_of_sweep hignorable hself hplain hs hn)
  · exact accepts_of_sweep (by decide +kernel) himage hlower hs hn
  · exact (Bool.not_eq_true' _).mp (accepts_of_sweep hignorable himage hplain' hs hn)

/-- The code points of the lower-case table are characters. -/
theorem isValidChar_of_member_lowerRuns {n : Nat} (h : member lowerRuns n = true) :
    n.isValidChar := by
  have hruns : (lowerRuns.all fun r =>
      decide (r.last < 55296 ∨ 57343 < r.first ∧ r.last < 1114112)) = true := by decide +kernel
  obtain ⟨r, hr, hfirst, hlast⟩ := exists_run_of_member h
  have hrun := of_decide_eq_true (List.all_eq_true.mp hruns r hr)
  show n < 55296 ∨ 57343 < n ∧ n < 1114112
  omega

/-! ## The lower case of one character -/

/-- The lower case of a character, the dotted capital I apart, is one character, which is
case-ignorable, or cased, just when the character itself is. -/
theorem exists_lowerChar {c : Char} (hc : c ≠ 'İ') :
    ∃ d, lowerChar c = [d] ∧ isCaseIgnorable d = isCaseIgnorable c ∧ isCased d = isCased c := by
  refine ⟨((image? lowerShifts c.toNat).map Char.ofNat).getD c, ?_, ?_⟩
  · rw [lowerChar, if_neg hc]
  · cases himage : image? lowerShifts c.toNat with
    | none => exact ⟨rfl, rfl⟩
    | some m =>
      obtain ⟨hcased, hplain, hlower, hplain'⟩ := case_of_image? himage
      have hcode : (Char.ofNat m).toNat = m := by
        rw [Char.ofNat, dif_pos (isValidChar_of_member_lowerRuns hlower)]
        rfl
      show isCaseIgnorable (Char.ofNat m) = _ ∧ isCased (Char.ofNat m) = _
      constructor
      · rw [isCaseIgnorable, isCaseIgnorable, hcode, hplain, hplain']
      · rw [isCased, isCased, isLower, isLower, isUpper, isUpper, hcode, hlower, Bool.or_assoc,
          Bool.or_assoc, hcased, Bool.true_or, Bool.or_true]

end PatchStore.Text
