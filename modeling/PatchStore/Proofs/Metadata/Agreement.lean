import PatchStore.Metadata.Basic
import PatchStore.Proofs.Text.AsciiCase
import PatchStore.Proofs.Time.Internet

/-!
# Readings of metadata agree

A raw object and a descriptor may give the same facts about a document: its key, its etag, its time of
modification, and whether the reading may be out of date.  Whatever else is in the raw object, and in
whichever of the allowed forms it has these facts, both are read as the same metadata; and so is the raw
object with an etag from elsewhere, which only counts where the raw object has none.  Times are the same
if they are at the same moment; they may be told by clocks with different offsets.

* `Gives` — a raw object gives the facts of a descriptor.
* `GivesTime.rel_lastModified`, `GivesEtag.etag_eq`, `GivesFlag.flag_eq` — each fact is read.
* `agrees_of_gives` — the readings agree, and are the same if the clocks have the same offset.
-/

namespace PatchStore.Metadata

open Text (EqIgnoringCase)
open Time (InternetText Timestamp)

/-! ## Facts in a raw object -/

/-- No time can be read from a member: it is missing, or is no text, or its text has none of the
formats. -/
def Timeless (raw : Members) (name : String) : Prop :=
  ∀ text, Keyed.get? raw name = some (.string text) → Timestamp.ofText? text = none

/-- A member is an internet text for the moment of a timestamp, told by any clock. -/
def TellsTime (raw : Members) (name : String) (t : Timestamp) : Prop :=
  ∃ text shown, Keyed.get? raw name = some (.string text) ∧ InternetText shown text.toList ∧
    shown.atSameMoment t = true

/-- The raw object gives a time of modification: under the store's own name, or under the other one if
no time can be read from the former.  It gives none if none can be read from either. -/
inductive GivesTime (raw : Members) : Option Timestamp → Prop
  | own {t : Timestamp} (h : TellsTime raw modifiedName t) : GivesTime raw (some t)
  | foreign {t : Timestamp} (hown : Timeless raw modifiedName)
      (h : TellsTime raw foreignModifiedName t) : GivesTime raw (some t)
  | none (hown : Timeless raw modifiedName) (hforeign : Timeless raw foreignModifiedName) :
      GivesTime raw none

/-- The raw object gives an etag as text; what is no text gives none. -/
inductive GivesEtag (raw : Members) : Option Etag → Prop
  | some {etag : Etag} (h : Keyed.get? raw etagName = some (.string etag.text)) :
      GivesEtag raw (some etag)
  | none (h : ∀ text, Keyed.get? raw etagName ≠ some (.string text)) : GivesEtag raw none

/-- The word for a flag. -/
def flagWord (flag : Bool) : String := if flag then "true" else "false"

/-- The raw object gives a flag as a truth value, or as its word in any case of the letters; a flag that
is missing is not given. -/
inductive GivesFlag (raw : Members) : Option Bool → Prop
  | bool {flag : Bool} (h : Keyed.get? raw nonAuthoritativeName = some (.bool flag)) :
      GivesFlag raw (some flag)
  | text {flag : Bool} {text : String}
      (h : Keyed.get? raw nonAuthoritativeName = some (.string text))
      (hword : EqIgnoringCase text.toList (flagWord flag).toList) : GivesFlag raw (some flag)
  | none (h : Keyed.get? raw nonAuthoritativeName = Option.none) : GivesFlag raw none

/-- A raw object gives the facts of a descriptor.  It may have any other members. -/
structure Gives (raw : Members) (d : Descriptor) : Prop where
  key : Keyed.get? raw keyName = some (.string d.key)
  etag : GivesEtag raw d.etag
  time : GivesTime raw d.lastModified
  flag : GivesFlag raw d.nonAuthoritative

/-! ## Reading the facts -/

theorem text?_eq_some_iff {raw : Members} {name text : String} :
    text? raw name = some text ↔ Keyed.get? raw name = some (.string text) := by
  rw [text?]
  rcases Keyed.get? raw name with _ | v
  · simp
  · cases v <;> simp [Json.string?]

theorem time?_of_timeless {raw : Members} {name : String} (h : Timeless raw name) :
    time? raw name = none := by
  rw [time?]
  rcases htext : text? raw name with _ | text
  · rfl
  · exact h text (text?_eq_some_iff.mp htext)

theorem time?_of_tellsTime {raw : Members} {name : String} {t : Timestamp}
    (h : TellsTime raw name t) :
    ∃ shown, time? raw name = some shown ∧ shown.atSameMoment t = true := by
  obtain ⟨text, shown, hmember, htext, hsame⟩ := h
  refine ⟨shown, ?_, hsame⟩
  rw [time?, text?_eq_some_iff.mpr hmember]
  exact htext.ofText?_eq

/-- The time that is read is at the moment of the time that is given, and none is read if none is
given. -/
theorem GivesTime.rel_lastModified {raw : Members} {given : Option Timestamp}
    (h : GivesTime raw given) :
    Option.Rel (fun s t => s.atSameMoment t = true) (ofRaw raw).lastModified given := by
  cases h with
  | own h =>
    obtain ⟨shown, hshown, hsame⟩ := time?_of_tellsTime h
    rw [ofRaw, hshown]
    exact .some hsame
  | foreign hown h =>
    obtain ⟨shown, hshown, hsame⟩ := time?_of_tellsTime h
    rw [ofRaw, time?_of_timeless hown, hshown]
    exact .some hsame
  | none hown hforeign =>
    rw [ofRaw, time?_of_timeless hown, time?_of_timeless hforeign]
    exact .none

theorem GivesEtag.etag_eq {raw : Members} {etag : Option Etag} (h : GivesEtag raw etag) :
    (ofRaw raw).etag = etag := by
  cases h with
  | some h => rw [ofRaw, text?_eq_some_iff.mpr h, Option.map_some]
  | none h =>
    rcases htext : text? raw etagName with _ | text
    · rw [ofRaw, htext, Option.map_none]
    · exact absurd (text?_eq_some_iff.mp htext) (h text)

/-- The word for a flag is told in any case of its letters. -/
theorem toLower_beq_true {text : String} {flag : Bool}
    (h : EqIgnoringCase text.toList (flagWord flag).toList) :
    (text.toLower == "true") = flag := by
  have hlower : text.toLower = flagWord flag := by
    rw [← String.toList_inj, Text.toList_toLower, h]
    cases flag <;> decide
  rw [hlower]
  cases flag <;> decide

theorem GivesFlag.flag_eq {raw : Members} {given : Option Bool} (h : GivesFlag raw given) :
    flag raw nonAuthoritativeName = given.getD false := by
  cases h with
  | bool h =>
    rw [flag, h]
    rfl
  | text h hword =>
    rw [flag, h]
    exact toLower_beq_true hword
  | none h =>
    rw [flag, h]
    rfl

theorem Gives.key_eq {raw : Members} {d : Descriptor} (h : Gives raw d) :
    (ofRaw raw).key = some d.key := text?_eq_some_iff.mpr h.key

/-! ## Agreement -/

/-- What is read from a raw object that gives the facts of a descriptor is what the descriptor says, but
for the clock that tells the time. -/
theorem Gives.ofRaw_eq {raw : Members} {d : Descriptor} (h : Gives raw d) :
    ofRaw raw = { ofDescriptor d with lastModified := (ofRaw raw).lastModified } := by
  have hflag : (ofRaw raw).nonAuthoritative = d.nonAuthoritative.getD false := h.flag.flag_eq
  calc ofRaw raw = ⟨(ofRaw raw).key, (ofRaw raw).etag, (ofRaw raw).lastModified,
        (ofRaw raw).nonAuthoritative⟩ := rfl
    _ = _ := by rw [h.key_eq, h.etag.etag_eq, hflag]; rfl

/-- Metadata with another clock's time for the same moment says the same. -/
theorem agrees_of_rel {m : Metadata} {time : Option Timestamp}
    (h : Option.Rel (fun s t => s.atSameMoment t = true) time m.lastModified) :
    ({ m with lastModified := time } : Metadata).agrees m = true := by
  obtain ⟨key, etag, lastModified, nonAuthoritative⟩ := m
  cases h with
  | some hsame => simp [agrees, hsame]
  | none => simp [agrees]

/-- Times at the same moment are the same if their clocks have the same offset. -/
theorem eq_of_rel {s t : Option Timestamp}
    (h : Option.Rel (fun s t => s.atSameMoment t = true) s t)
    (hoffset : s.map Timestamp.offset = t.map Timestamp.offset) : s = t := by
  cases h with
  | @some s t hsame =>
    rw [Timestamp.atSameMoment, Bool.and_eq_true, beq_iff_eq, beq_iff_eq] at hsame
    have hoffset : s.offset = t.offset := Option.some_inj.mp hoffset
    cases s
    cases t
    rw [Option.some_inj, Timestamp.mk.injEq]
    exact ⟨hsame.1, hsame.2, hoffset⟩
  | none => rfl

/-- **Readings agree.**  Take a raw object that gives the facts of a descriptor.  What is read from the
one agrees with what the other says; it is the very same if the time is told by a clock with the same
offset, and not otherwise.  Without an etag from elsewhere the raw object says it all.  An etag from
elsewhere changes nothing if the descriptor has one, and else it is the one etag that there is. -/
theorem agrees_of_gives {raw : Members} {d : Descriptor} (h : Gives raw d) :
    (ofRaw raw).agrees (ofDescriptor d) = true ∧
      (ofRaw raw = ofDescriptor d ↔
        (ofRaw raw).lastModified.map Timestamp.offset = d.lastModified.map Timestamp.offset) ∧
      ofRawOr none (some raw) = ofRaw raw ∧
      ∀ e, ofRawOr (some e) (some raw) =
        if d.etag.isSome then ofRaw raw else { ofRaw raw with etag := some e } := by
  refine ⟨?_, ⟨?_, ?_⟩, ofRawOr_none raw, ?_⟩
  · rw [h.ofRaw_eq]
    exact agrees_of_rel h.time.rel_lastModified
  · intro heq
    rw [heq]
    rfl
  · intro hoffset
    rw [h.ofRaw_eq, eq_of_rel h.time.rel_lastModified hoffset]
    rfl
  · intro e
    have hetag : (ofRaw raw).etag = d.etag := h.etag.etag_eq
    cases hd : d.etag with
    | some etag =>
      rw [hd] at hetag
      rw [ofRawOr, hetag, Option.isSome_some, if_pos rfl]
      show { ofRaw raw with etag := some etag } = ofRaw raw
      rw [← hetag]
    | none =>
      rw [hd] at hetag
      rw [ofRawOr, hetag]
      rfl

/-! ## A post that was changed in the night -/

/-- A raw object without an etag, since `null` is none, with a time that cannot be read under the store's
own name and one that can under the other name, and with a flag in capitals. -/
def nightRaw : Members :=
  [("@etag", .null), ("@id", .string "posts/1"),
    ("Last-Modified", .string "2020-01-02t04:04:05.50+01:00"),
    ("Non-Authoritative-Information", .string "TRUE"), ("Raven-Entity-Name", .string "Posts"),
    ("Raven-Last-Modified", .string "at night")]

/-- What a look-up says of the same post, in universal time. -/
def nightDescriptor : Descriptor where
  key := "posts/1"
  etag := none
  lastModified := some ⟨1577934245, 500000000, 0⟩
  nonAuthoritative := some true
  metadata := []

theorem gives_night : Gives nightRaw nightDescriptor where
  key := rfl
  etag := .none (by intro text h; cases h)
  time := by
    have hfraction : Time.FractionText 500000000 ['.', '5', '0'] :=
      .digits (List.cons_ne_nil _ _) (List.all_eq_true.mp (by decide)) (by decide)
    have hzone : Time.OffsetText 3600 ['+', '0', '1', ':', '0', '0'] :=
      .ahead (show 1 < 24 by decide) (show 0 < 60 by decide)
    have htext : InternetText ⟨1577934245, 500000000, 3600⟩
        "2020-01-02t04:04:05.50+01:00".toList :=
      .shown (r := ⟨⟨2020, 1, 2⟩, 4, 4, 5, 500000000⟩) rfl (show 2020 < 10000 by decide)
        (Or.inr (Or.inl rfl)) hfraction hzone (by decide)
    refine .foreign ?_ ⟨_, _, rfl, htext, rfl⟩
    intro text h
    cases h
    decide
  flag := .text rfl (by decide)

/-- The raw object and the look-up agree, though not on the offset of the clock.  An etag from elsewhere
is the one etag that there is. -/
theorem agrees_of_night :
    Gives nightRaw nightDescriptor ∧ (ofRaw nightRaw).agrees (ofDescriptor nightDescriptor) = true ∧
      ofRaw nightRaw ≠ ofDescriptor nightDescriptor ∧
      ofRawOr none (some nightRaw) = ofRaw nightRaw ∧
      ofRawOr (some ⟨"etag"⟩) (some nightRaw) = { ofRaw nightRaw with etag := some ⟨"etag"⟩ } := by
  obtain ⟨hagrees, hsame, hnone, hsome⟩ := agrees_of_gives gives_night
  refine ⟨gives_night, hagrees, ?_, hnone, hsome ⟨"etag"⟩⟩
  rw [Ne, hsame]
  decide

end PatchStore.Metadata
