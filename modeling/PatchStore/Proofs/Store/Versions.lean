import Mathlib.Data.Set.Basic
import PatchStore.Proofs.Patch.Modified
import PatchStore.Proofs.Store.Run

/-!
# Versions

An etag names a version of a document.  If no etag is drawn twice, two documents with one etag are
one version, whenever and by whomever they are seen, and an update that is bound to an etag is
applied to the version that its sender has seen.

* `SameVersion` — equal up to the spelling of numbers in the body.
* `Known` — the invariant: among the documents seen so far one etag means one version, and no etag
  that was seen will be drawn again.
* `Known.step`, `Known.batch`, `Known.afterBatches` — a step, a batch and a run keep it.
* `Spent` — no document has the etag any more, and none will have it again.
* `etag_names_version` — no update is lost.
-/

namespace PatchStore

/-- Two documents are one version: only numbers in their bodies may be spelled differently. -/
structure SameVersion (d e : StoredDocument) : Prop where
  key : d.key = e.key
  body : Json.same (.object d.body) (.object e.body) = true
  metadata : d.metadata = e.metadata
  stamp : d.stamp = e.stamp

namespace SameVersion

theorem refl (d : StoredDocument) : SameVersion d d :=
  ⟨rfl, Json.same_refl _, rfl, rfl⟩

theorem symm {d e : StoredDocument} (h : SameVersion d e) : SameVersion e d :=
  ⟨h.key.symm, Json.same_symm _ _ h.body, h.metadata.symm, h.stamp.symm⟩

theorem trans {d e f : StoredDocument} (h : SameVersion d e) (h' : SameVersion e f) :
    SameVersion d f :=
  ⟨h.key.trans h'.key, Json.same_trans _ _ _ h.body h'.body, h.metadata.trans h'.metadata,
    h.stamp.trans h'.stamp⟩

end SameVersion

/-- The version that a command is bound to is that of the document that it may be applied to. -/
theorem etag_of_checkEtag {key : String} {tag : Etag} {d : StoredDocument}
    (h : checkEtag key (some tag) (some d) = .ok ()) : d.stamp.etag = tag := by
  rw [checkEtag] at h
  split at h
  · assumption
  · cases h

namespace Attempt

/-- The command is bound to the etag, and finds a document. -/
def BoundTo (tag : Etag) (a : Attempt) : Prop := a.command.etag = some tag ∧ a.found.isSome = true

instance (tag : Etag) : DecidablePred (BoundTo tag) := fun a =>
  inferInstanceAs (Decidable (a.command.etag = some tag ∧ a.found.isSome = true))

/-- The command is bound to the etag, and may be applied to the document that it finds. -/
structure AppliesTo (a : Attempt) (tag : Etag) (d : StoredDocument) : Prop where
  etag : a.command.etag = some tag
  found : a.found = some d
  check : checkEtag a.command.key (some tag) (some d) = .ok ()

/-- The command is a patch that answers that it modified nothing. -/
def IsIdle (a : Attempt) : Prop :=
  ∃ c r, a.command = .patch c ∧ a.outcome = .ok r ∧ r.patchOutcome = some .notModified

end Attempt

namespace MemoryStore

/-- The documents of a store, each with the normalized key that it is filed under. -/
def filed (s : MemoryStore) : Set (String × StoredDocument) :=
  {v | s.documents.get? v.1 = some v.2}

/-! ## What a step leaves filed -/

/-- After a step, a document has the stamp that was just drawn, or is a version that was filed
before. -/
theorem Step.filed_cases {s t : MemoryStore} {c : Command} {r : BatchResult} (h : Step s c r t)
    {key : String} {d : StoredDocument} (hd : (key, d) ∈ t.filed) :
    (key = normalizeKey c.key ∧ d.stamp = s.supply.next ∧ t.supply = s.supply.advance) ∨
      ∃ e, (key, e) ∈ s.filed ∧ SameVersion e d := by
  by_cases hkey : normalizeKey c.key = key
  · subst hkey
    cases h with
    | put =>
      obtain rfl := eq_of_get?_file hd
      exact Or.inl ⟨rfl, rfl, rfl⟩
    | delete => cases (Table.get?_erase_self _ _).symm.trans hd
    | missing hfind => cases hfind.symm.trans hd
    | @idle c e body hfind _ hall =>
      obtain rfl := eq_of_get?_file hd
      exact Or.inr ⟨e, hfind, rfl, PatchNode.sameMembers_of_on_applyAll hall, rfl, rfl⟩
    | patched =>
      obtain rfl := eq_of_get?_file hd
      exact Or.inl ⟨rfl, rfl, rfl⟩
  · have hframe := get?_on_perform_of_ne c s hkey
    rw [on_perform_eq_ok_iff.mpr h] at hframe
    exact Or.inr ⟨d, hframe.symm.trans hd, .refl d⟩

/-- A command that found a document and is no idle patch leaves the document with the stamp that was
just drawn, if it leaves it at all. -/
theorem Step.stamp_of_not_isIdle {s t : MemoryStore} {c : Command} {r : BatchResult}
    (h : Step s c r t) (hfound : (s.documents.find? c.key).isSome = true)
    (hidle : ¬Attempt.IsIdle ⟨c, s.documents.find? c.key, .ok r⟩) {d : StoredDocument}
    (hd : (normalizeKey c.key, d) ∈ t.filed) : d.stamp = s.supply.next := by
  cases h with
  | put =>
    obtain rfl := eq_of_get?_file hd
    rfl
  | delete => cases (Table.get?_erase_self _ _).symm.trans hd
  | missing hfind => cases (congrArg Option.isSome hfind).symm.trans hfound
  | @idle c => exact absurd ⟨c, _, rfl, rfl, rfl⟩ hidle
  | patched =>
    obtain rfl := eq_of_get?_file hd
    rfl

/-- A step of a command that is bound to an etag and finds a document finds that version. -/
theorem Step.etag_of_found {s t : MemoryStore} {c : Command} {r : BatchResult} (h : Step s c r t)
    {tag : Etag} (htag : c.etag = some tag) {d : StoredDocument}
    (hfound : s.documents.find? c.key = some d) : d.stamp.etag = tag := by
  have hcheck := h.check hfound
  rw [htag] at hcheck
  exact etag_of_checkEtag hcheck

/-! ## One etag means one version -/

/-- Among the documents that have been seen, filed under their keys, one etag means one version; and
no etag that has been seen will be drawn again. -/
structure Known (seen : Set (String × StoredDocument)) (u : Supply) : Prop where
  fresh : u.Fresh
  past : ∀ v ∈ seen, ∀ n, u.drawn ≤ n → (u.stamp n).etag ≠ v.2.stamp.etag
  agree : ∀ v ∈ seen, ∀ w ∈ seen, v.2.stamp.etag = w.2.stamp.etag →
    v.1 = w.1 ∧ SameVersion v.2 w.2

/-- At the start nothing has been seen. -/
theorem Known.start {u : Supply} (h : u.Fresh) : Known ∅ u :=
  ⟨h, fun _ hv => hv.elim, fun _ hv => hv.elim⟩

theorem Known.later {seen : Set (String × StoredDocument)} {u v : Supply} (h : Known seen u)
    (hlater : u.Later v) : Known seen v where
  fresh m n hm hn heq := by
    rw [hlater.stamp] at heq
    exact h.fresh m n (Nat.le_trans hlater.drawn hm) (Nat.le_trans hlater.drawn hn) heq
  past w hw n hn := by
    rw [hlater.stamp]
    exact h.past w hw n (Nat.le_trans hlater.drawn hn)
  agree := h.agree

/-- What is seen after a step has the stamp that was just drawn, or is a version that was seen
before. -/
theorem Step.seen_cases {seen : Set (String × StoredDocument)} {s t : MemoryStore} {c : Command}
    {r : BatchResult} (h : Step s c r t) (hfiled : s.filed ⊆ seen) {v : String × StoredDocument}
    (hv : v ∈ seen ∪ t.filed) :
    (v ∈ t.filed ∧ v.1 = normalizeKey c.key ∧ v.2.stamp = s.supply.next ∧
        t.supply = s.supply.advance) ∨
      ∃ w ∈ seen, w.1 = v.1 ∧ SameVersion w.2 v.2 := by
  rcases hv with hv | hv
  · exact Or.inr ⟨v, hv, rfl, .refl _⟩
  · have hv : (v.1, v.2) ∈ t.filed := hv
    rcases h.filed_cases hv with ⟨hkey, hstamp, hsupply⟩ | ⟨e, he, hsame⟩
    · exact Or.inl ⟨hv, hkey, hstamp, hsupply⟩
    · exact Or.inr ⟨(v.1, e), hfiled he, rfl, hsame⟩

/-- The stamp that is drawn next has an etag that has not been seen. -/
theorem Known.etag_next_ne {seen : Set (String × StoredDocument)} {u : Supply} (h : Known seen u)
    {v : String × StoredDocument} (hv : v ∈ seen) : u.next.etag ≠ v.2.stamp.etag :=
  h.past v hv u.drawn (Nat.le_refl _)

/-- A step keeps the invariant when what it leaves has been seen too. -/
theorem Known.step {seen : Set (String × StoredDocument)} {s t : MemoryStore} {c : Command}
    {r : BatchResult} (hk : Known seen s.supply) (hfiled : s.filed ⊆ seen) (h : Step s c r t) :
    Known (seen ∪ t.filed) t.supply where
  fresh := (hk.later h.later).fresh
  past v hv n hn := by
    rcases h.seen_cases hfiled hv with ⟨_, _, hstamp, hsupply⟩ | ⟨w, hw, _, hsame⟩
    · -- the stamp was just drawn, and a later one has another etag
      rw [hsupply] at hn ⊢
      rw [hstamp]
      intro heq
      have hdrawn : n = s.supply.drawn :=
        hk.fresh n s.supply.drawn (Nat.le_of_succ_le hn) (Nat.le_refl _) heq
      rw [hdrawn] at hn
      exact Nat.not_succ_le_self _ hn
    · rw [← hsame.stamp]
      exact (hk.later h.later).past w hw n hn
  agree v hv w hw heq := by
    rcases h.seen_cases hfiled hv with ⟨hvt, hvkey, hvstamp, _⟩ | ⟨v', hv', hvkey, hvsame⟩
    · rcases h.seen_cases hfiled hw with ⟨hwt, hwkey, _, _⟩ | ⟨w', hw', _, hwsame⟩
      · -- both were just drawn, so both are the document that the step left under its key
        have hkey : v.1 = w.1 := hvkey.trans hwkey.symm
        have hvt : t.documents.get? v.1 = some v.2 := hvt
        have hwt : t.documents.get? w.1 = some w.2 := hwt
        rw [hkey] at hvt
        refine ⟨hkey, ?_⟩
        rw [Option.some.inj (hvt.symm.trans hwt)]
        exact .refl _
      · rw [hvstamp, ← hwsame.stamp] at heq
        exact absurd heq (hk.etag_next_ne hw')
    · rcases h.seen_cases hfiled hw with ⟨_, _, hwstamp, _⟩ | ⟨w', hw', hwkey, hwsame⟩
      · rw [hwstamp, ← hvsame.stamp] at heq
        exact absurd heq.symm (hk.etag_next_ne hv')
      · rw [← hvsame.stamp, ← hwsame.stamp] at heq
        obtain ⟨hkey, hsame⟩ := hk.agree v' hv' w' hw' heq
        exact ⟨(hvkey.symm.trans hkey).trans hwkey, (hvsame.symm.trans hsame).trans hwsame⟩

/-- A batch keeps the invariant, whether it succeeds or fails; every document that its commands find
has then been seen. -/
theorem Known.batch {seen : Set (String × StoredDocument)} {s : MemoryStore}
    (hk : Known seen s.supply) (hfiled : s.filed ⊆ seen) (cs : List Command) :
    ∃ seen', seen ⊆ seen' ∧ Known seen' (s.batch cs).2.supply ∧ (s.batch cs).2.filed ⊆ seen' ∧
      ∀ a ∈ s.attempts cs, ∀ d, a.found = some d → (normalizeKey a.command.key, d) ∈ seen' := by
  induction cs generalizing s seen with
  | nil => exact ⟨seen, fun _ hv => hv, hk, hfiled, fun a ha => by cases ha⟩
  | cons c cs ih =>
    rcases hc : (perform c).on s with ⟨e | r, t⟩
    · rw [batch_cons_of_error hc, attempts_cons_of_error hc]
      refine ⟨seen, fun _ hv => hv, ?_, hfiled, ?_⟩
      · show Known seen t.supply
        rw [supply_of_on_perform_error hc]
        exact hk
      · intro a ha d hd
        rw [List.mem_singleton] at ha
        subst ha
        exact hfiled hd
    · have hstep : Step s c r t := on_perform_eq_ok_iff.mp hc
      obtain ⟨seen', hsub, hk', hfiled', hattempts⟩ := ih (hk.step hfiled hstep)
        Set.subset_union_right
      have hsub : seen ⊆ seen' := Set.Subset.trans Set.subset_union_left hsub
      refine ⟨seen', hsub, ?_, ?_, ?_⟩
      · rw [batch_cons_of_ok hc]
        rcases hrest : t.batch cs with ⟨e | results, u⟩ <;> rw [hrest] at hk' <;> exact hk'
      · rw [batch_cons_of_ok hc]
        rcases hrest : t.batch cs with ⟨e | results, u⟩ <;> rw [hrest] at hfiled'
        · exact Set.Subset.trans hfiled hsub
        · exact hfiled'
      · rw [attempts_cons_of_ok hc]
        intro a ha d hd
        rcases List.mem_cons.mp ha with rfl | ha
        · exact hsub (hfiled hd)
        · exact hattempts a ha d hd

/-- A run keeps the invariant; every document that is filed between its batches, and every document
that its commands find, has then been seen. -/
theorem Known.afterBatches {seen : Set (String × StoredDocument)} {s : MemoryStore}
    (hk : Known seen s.supply) (hfiled : s.filed ⊆ seen) (batches : List (List Command)) :
    ∃ seen' u, seen ⊆ seen' ∧ Known seen' u ∧
      (∀ before, before <+: batches → (s.afterBatches before).filed ⊆ seen') ∧
      ∀ a ∈ s.allAttempts batches, ∀ d, a.found = some d →
        (normalizeKey a.command.key, d) ∈ seen' := by
  induction batches generalizing s seen with
  | nil =>
    refine ⟨seen, s.supply, fun _ hv => hv, hk, ?_, fun a ha => by cases ha⟩
    intro before hbefore
    rw [List.prefix_nil] at hbefore
    subst hbefore
    exact hfiled
  | cons cs batches ih =>
    obtain ⟨seen₁, hsub₁, hk₁, hfiled₁, hattempts₁⟩ := hk.batch hfiled cs
    obtain ⟨seen₂, u, hsub₂, hk₂, hfiled₂, hattempts₂⟩ := ih hk₁ hfiled₁
    refine ⟨seen₂, u, Set.Subset.trans hsub₁ hsub₂, hk₂, ?_, ?_⟩
    · intro before hbefore
      cases before with
      | nil => exact Set.Subset.trans hfiled (Set.Subset.trans hsub₁ hsub₂)
      | cons cs' before =>
        obtain ⟨rfl, hrest⟩ := List.cons_prefix_cons.mp hbefore
        exact hfiled₂ before hrest
    · intro a ha d hd
      rcases List.mem_append.mp ha with ha | ha
      · exact hsub₂ (hattempts₁ a ha d hd)
      · exact hattempts₂ a ha d hd

/-! ## An etag is spent once -/

/-- No document has the etag, and none will have it again. -/
structure Spent (tag : Etag) (s : MemoryStore) : Prop where
  past : ∀ n, s.supply.drawn ≤ n → (s.supply.stamp n).etag ≠ tag
  unfiled : ∀ v ∈ s.filed, v.2.stamp.etag ≠ tag

/-- A spent etag stays spent when stamps are drawn. -/
theorem Spent.lapse {tag : Etag} {s : MemoryStore} {supply : Supply} (h : Spent tag s)
    (hlater : s.supply.Later supply) : Spent tag { s with supply := supply } where
  past n hn := by
    show (supply.stamp n).etag ≠ tag
    rw [hlater.stamp]
    exact h.past n (Nat.le_trans hlater.drawn hn)
  unfiled := h.unfiled

/-- A spent etag stays spent in every step. -/
theorem Spent.step {tag : Etag} {s t : MemoryStore} {c : Command} {r : BatchResult}
    (h : Spent tag s) (hstep : Step s c r t) : Spent tag t where
  past n hn := by
    rw [hstep.later.stamp]
    exact h.past n (Nat.le_trans hstep.later.drawn hn)
  unfiled v hv := by
    have hv : (v.1, v.2) ∈ t.filed := hv
    rcases hstep.filed_cases hv with ⟨_, hstamp, _⟩ | ⟨e, he, hsame⟩
    · rw [hstamp]
      exact h.past s.supply.drawn (Nat.le_refl _)
    · rw [← hsame.stamp]
      exact h.unfiled (v.1, e) he

/-- A command that is bound to an etag, finds a document and is no idle patch spends the etag. -/
theorem Step.spent {seen : Set (String × StoredDocument)} {s t : MemoryStore} {c : Command}
    {r : BatchResult} (h : Step s c r t) (hk : Known seen s.supply) (hfiled : s.filed ⊆ seen)
    {tag : Etag} (hbound : Attempt.BoundTo tag ⟨c, s.documents.find? c.key, .ok r⟩)
    (hidle : ¬Attempt.IsIdle ⟨c, s.documents.find? c.key, .ok r⟩) : Spent tag t := by
  obtain ⟨d, hd⟩ := Option.isSome_iff_exists.mp hbound.2
  have hd : s.documents.find? c.key = some d := hd
  have hseen : (normalizeKey c.key, d) ∈ seen := hfiled hd
  have htag : d.stamp.etag = tag := h.etag_of_found hbound.1 hd
  constructor
  · intro n hn
    rw [← htag]
    exact (hk.later h.later).past _ hseen n hn
  · rintro ⟨key, e⟩ he heq
    rcases h.filed_cases he with ⟨_, hstamp, _⟩ | ⟨f, hf, hsame⟩
    · have heq : e.stamp.etag = tag := heq
      rw [hstamp, ← htag] at heq
      exact hk.etag_next_ne hseen heq
    · -- whoever had the etag before was the document that the command found
      have hftag : f.stamp.etag = d.stamp.etag := by rw [hsame.stamp, heq, htag]
      obtain ⟨hkey, _⟩ := hk.agree _ (hfiled hf) _ hseen hftag
      obtain rfl : key = normalizeKey c.key := hkey
      have hstamp := h.stamp_of_not_isIdle hbound.2 hidle he
      have heq : e.stamp.etag = tag := heq
      rw [hstamp, ← htag] at heq
      exact hk.etag_next_ne hseen heq

/-- No command of a run is applied on the strength of a spent etag. -/
theorem Run.filter_boundTo_of_spent {tag : Etag} {s t : MemoryStore} {as : List Attempt}
    (h : Run s as t) (hspent : Spent tag s) : as.filter (Attempt.BoundTo tag) = [] := by
  induction h with
  | refl => rfl
  | @step s t u c r as hstep _ ih =>
    rw [List.filter_cons_of_neg, ih (hspent.step hstep)]
    intro hbound
    have hbound : Attempt.BoundTo tag ⟨c, s.documents.find? c.key, .ok r⟩ := by simpa using hbound
    obtain ⟨d, hd⟩ := Option.isSome_iff_exists.mp hbound.2
    exact hspent.unfiled (normalizeKey c.key, d) hd (hstep.etag_of_found hbound.1 hd)
  | lapse hlater _ ih => exact ih (hspent.lapse hlater)

/-- In a run, a command that is bound to an etag and finds a document is an idle patch if another
such command follows. -/
theorem Run.pairwise_isIdle {seen : Set (String × StoredDocument)} {s t : MemoryStore}
    {as : List Attempt} (h : Run s as t) (hk : Known seen s.supply) (hfiled : s.filed ⊆ seen)
    (tag : Etag) : (as.filter (Attempt.BoundTo tag)).Pairwise fun a _ => a.IsIdle := by
  induction h generalizing seen with
  | refl => exact List.Pairwise.nil
  | @step s t u c r as hstep hrun ih =>
    have hrest := ih (hk.step hfiled hstep) Set.subset_union_right
    by_cases hbound : Attempt.BoundTo tag ⟨c, s.documents.find? c.key, .ok r⟩
    · rw [List.filter_cons_of_pos (by simpa using hbound), List.pairwise_cons]
      refine ⟨fun b hb => ?_, hrest⟩
      refine Classical.byContradiction fun hidle => ?_
      rw [hrun.filter_boundTo_of_spent (hstep.spent hk hfiled hbound hidle)] at hb
      cases hb
    · rw [List.filter_cons_of_neg (by simpa using hbound)]
      exact hrest
  | lapse hlater _ ih => exact ih (hk.later hlater) hfiled

/-- What holds of every member that another follows holds of all members but the last. -/
theorem forall_mem_dropLast_of_pairwise {α : Type} {p : α → Prop} {as : List α}
    (h : as.Pairwise fun a _ => p a) : ∀ a ∈ as.dropLast, p a := by
  intro a ha
  have hne : as ≠ [] := by
    rintro rfl
    cases ha
  rw [← List.dropLast_concat_getLast hne, List.pairwise_append] at h
  exact h.2.2 a ha (as.getLast hne) (List.mem_singleton.mpr rfl)

/-- **No update is lost.**  Take any run of batches, from any number of senders, that starts with an
empty store, and let no etag be drawn twice.

Two documents with one etag, each seen between two batches, are filed under one normalized key and
are one version.  A command that is bound to an etag and may be applied to the document that it
finds is applied to the body that anybody saw with this etag.  Of the committed commands that are
bound to an etag and find a document, all but the last are patches that modified nothing. -/
theorem etag_names_version (u : Supply) (hu : u.Fresh) (batches : List (List Command)) :
    (∀ p q, p <+: batches → q <+: batches → ∀ k l d e,
      ((MemoryStore.mk ∅ u).afterBatches p).documents.get? k = some d →
      ((MemoryStore.mk ∅ u).afterBatches q).documents.get? l = some e →
      d.stamp.etag = e.stamp.etag → k = l ∧ SameVersion d e) ∧
    (∀ a ∈ (MemoryStore.mk ∅ u).allAttempts batches, ∀ tag d, a.AppliesTo tag d →
      ∀ p, p <+: batches → ∀ k e,
        ((MemoryStore.mk ∅ u).afterBatches p).documents.get? k = some e → e.stamp.etag = tag →
        Json.same (.object d.body) (.object e.body) = true) ∧
    (∀ tag, ∀ a ∈ (((MemoryStore.mk ∅ u).committed batches).filter
      (Attempt.BoundTo tag)).dropLast, a.IsIdle) := by
  have hk : Known ∅ (MemoryStore.mk ∅ u).supply := .start hu
  have hfiled : (MemoryStore.mk ∅ u).filed ⊆ ∅ := fun v hv => by cases hv
  obtain ⟨seen, w, _, hknown, hbetween, hattempts⟩ := hk.afterBatches hfiled batches
  refine ⟨?_, ?_, ?_⟩
  · intro p q hp hq k l d e hd he hetag
    exact hknown.agree (k, d) (hbetween p hp hd) (l, e) (hbetween q hq he) hetag
  · intro a ha tag d happlies p hp k e he hetag
    have hd := hattempts a ha d happlies.found
    have hdtag : d.stamp.etag = e.stamp.etag := by
      rw [hetag]
      exact etag_of_checkEtag happlies.check
    exact (hknown.agree _ hd (k, e) (hbetween p hp he) hdtag).2.body
  · intro tag
    exact forall_mem_dropLast_of_pairwise
      ((run_committed ⟨∅, u⟩ batches).pairwise_isIdle hk hfiled tag)

/-- Stamps whose etags are strokes, one more each time. -/
def strokes : Supply where
  stamp n := ⟨⟨String.ofList (List.replicate (n + 1) 'i')⟩, ⟨n, 0, 0⟩⟩

theorem fresh_strokes : strokes.Fresh := by
  intro m n _ _ h
  have hlist : List.replicate (m + 1) 'i' = List.replicate (n + 1) 'i' :=
    String.ofList_injective (congrArg Etag.text h)
  have hlength := congrArg List.length hlist
  rw [List.length_replicate, List.length_replicate] at hlength
  omega

/-- A document is stored, and then two senders who both saw it as `i` patch it: the first sets its
zero to the other zero, the second to a text. -/
def twoSenders : List (List Command) :=
  let patch (v : Json) : Command :=
    .patch ⟨"posts/1", some ⟨"i"⟩, [.ofPath ⟨[], "views"⟩ (.set v none)]⟩
  [[.put ⟨"Posts/1", none, .object [("views", .number (.float (.zero false)))], []⟩],
    [patch (.number (.float (.zero true)))], [patch (.string "many")]]

/-- The document keeps its version under the patch of the first sender, who modifies nothing; so the
second may still modify it. -/
theorem version_of_twoSenders :
    strokes.Fresh ∧
    (∃ d e,
      ((MemoryStore.mk ∅ strokes).afterBatches (twoSenders.take 1)).documents.get? "posts/1" =
        some d ∧
      ((MemoryStore.mk ∅ strokes).afterBatches (twoSenders.take 2)).documents.get? "posts/1" =
        some e ∧ SameVersion d e) ∧
    (((MemoryStore.mk ∅ strokes).committed twoSenders).filter
      (Attempt.BoundTo ⟨"i"⟩)).length = 2 ∧
    ∀ a ∈ (((MemoryStore.mk ∅ strokes).committed twoSenders).filter
      (Attempt.BoundTo ⟨"i"⟩)).dropLast, a.IsIdle := by
  obtain ⟨hversions, _, hidle⟩ := etag_names_version strokes fresh_strokes twoSenders
  have hfirst : (((MemoryStore.mk ∅ strokes).afterBatches
      (twoSenders.take 1)).documents.get? "posts/1").map (·.stamp.etag) = some ⟨"i"⟩ := by
    decide +kernel
  have hsecond : (((MemoryStore.mk ∅ strokes).afterBatches
      (twoSenders.take 2)).documents.get? "posts/1").map (·.stamp.etag) = some ⟨"i"⟩ := by
    decide +kernel
  obtain ⟨d, hd, hdtag⟩ := Option.map_eq_some_iff.mp hfirst
  obtain ⟨e, he, hetag⟩ := Option.map_eq_some_iff.mp hsecond
  refine ⟨fresh_strokes, ⟨d, e, hd, he, ?_⟩, by decide +kernel, hidle ⟨"i"⟩⟩
  exact (hversions _ _ (List.take_prefix _ _) (List.take_prefix _ _) _ _ d e hd he
    (hdtag.trans hetag.symm)).2

end MemoryStore

end PatchStore
