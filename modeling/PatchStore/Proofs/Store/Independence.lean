import PatchStore.Proofs.Store.Results
import PatchStore.Proofs.Store.Simulation

/-!
# Batches on different documents

A batch reads and writes only the documents that are filed under the keys of its commands.  Two
batches that have no such document in common can therefore be sent in either order, also when one of
them fails and is taken back.

* `OnKeys` — the commands of a batch have their normalized keys among the given ones.
* `restricted` — the simulation: one command on two stores that agree under its key.
* `batch_congr` — what a batch answers is a function of the documents that it names.
* `Step.kept_by_patch`, `keeps` — a patch keeps the key and the metadata of a document; a batch
  keeps what it does not name, and that of what it only patches.
* `batches_commute` — batches on different documents, in either order.
-/

namespace PatchStore.MemoryStore

/-! ## What a batch reads -/

/-- Stores that agree under some keys in all there is of documents have the same documents there. -/
theorem AgreeOn.get? {keys : Set String} {s t : MemoryStore} (h : AgreeOn keys Eq s t)
    {key : String} (hkey : key ∈ keys) : s.documents.get? key = t.documents.get? key := by
  have hrel := h.documents key hkey
  revert hrel
  generalize s.documents.get? key = d
  generalize t.documents.get? key = e
  rintro (heq | _)
  · rw [heq]
  · rfl

/-- Stores that draw the same stamps and have the same documents under some keys. -/
theorem agreeOn_eq {keys : Set String} {s t : MemoryStore}
    (hdocuments : ∀ key ∈ keys, s.documents.get? key = t.documents.get? key)
    (hsupply : s.supply = t.supply) : AgreeOn keys Eq s t where
  documents key hkey := by
    rw [hdocuments key hkey]
    cases t.documents.get? key with
    | none => exact .none
    | some d => exact .some rfl
  supply := hsupply

/-- A command does the same on stores that agree under its key. -/
theorem AgreeOn.perform {keys : Set String} {s t : MemoryStore} (h : AgreeOn keys Eq s t)
    {c : Command} (hkey : normalizeKey c.key ∈ keys) :
    ((perform c).on s).1 = ((perform c).on t).1 ∧
      AgreeOn keys Eq ((perform c).on s).2 ((perform c).on t).2 := by
  cases c with
  | put c =>
    have hfind : s.documents.find? c.key = t.documents.find? c.key := h.get? hkey
    show ((put c).on s).1 = ((put c).on t).1 ∧ AgreeOn keys Eq ((put c).on s).2 ((put c).on t).2
    rw [on_put, on_put, hfind, h.supply]
    split
    · exact ⟨rfl, h⟩
    · exact ⟨rfl, h.advance.file rfl rfl⟩
    · exact ⟨rfl, h⟩
  | delete c =>
    have hfind : s.documents.find? c.key = t.documents.find? c.key := h.get? hkey
    show ((delete c).on s).1 = ((delete c).on t).1 ∧
      AgreeOn keys Eq ((delete c).on s).2 ((delete c).on t).2
    rw [on_delete, on_delete, hfind]
    split
    · exact ⟨rfl, h⟩
    · exact ⟨rfl, h.erase (normalizeKey c.key)⟩
  | patch c =>
    have hfind : s.documents.find? c.key = t.documents.find? c.key := h.get? hkey
    show ((patch c).on s).1 = ((patch c).on t).1 ∧
      AgreeOn keys Eq ((patch c).on s).2 ((patch c).on t).2
    rcases ht : t.documents.find? c.key with _ | d
    · rw [on_patch_of_missing ht, on_patch_of_missing (hfind.trans ht)]
      exact ⟨rfl, h⟩
    · rw [on_patch_of_found ht, on_patch_of_found (hfind.trans ht), h.supply]
      split
      · exact ⟨rfl, h⟩
      · exact ⟨rfl, h.file rfl rfl⟩
      · exact ⟨rfl, h.file rfl rfl⟩
      · exact ⟨rfl, h.advance.file rfl rfl⟩
  | script c => exact ⟨rfl, h⟩

/-- One command, on two stores that agree under its key. -/
def restricted (keys : Set String) : Simulation where
  stores := AgreeOn keys Eq
  commands c d := c = d ∧ normalizeKey c.key ∈ keys
  results := Eq
  failures := Eq
  perform := by
    rintro s t c _ h ⟨rfl, hkey⟩
    obtain ⟨hresult, hafter⟩ := h.perform hkey
    exact ⟨alike_eq_iff.mpr hresult, hafter⟩
  restore h h' := h.restore h'

/-- The commands of a batch have their normalized keys among the given ones. -/
def OnKeys (keys : Set String) (cs : List Command) : Prop := ∀ c ∈ cs, normalizeKey c.key ∈ keys

theorem OnKeys.forall₂ {keys : Set String} {cs : List Command} (h : OnKeys keys cs) :
    List.Forall₂ (restricted keys).commands cs cs := by
  induction cs with
  | nil => exact .nil
  | cons c cs ih =>
    exact .cons ⟨rfl, h c List.mem_cons_self⟩ (ih fun d hd => h d (List.mem_cons_of_mem c hd))

/-- What a batch answers, and what it leaves of the documents that it names, is a function of these
documents and of the stamps that it draws. -/
theorem batch_congr {keys : Set String} {s t : MemoryStore} (h : AgreeOn keys Eq s t)
    {cs : List Command} (hcs : OnKeys keys cs) :
    (s.batch cs).1 = (t.batch cs).1 ∧ AgreeOn keys Eq (s.batch cs).2 (t.batch cs).2 := by
  obtain ⟨hresults, hafter⟩ := (restricted keys).batch h hcs.forall₂
  rw [show (restricted keys).results = Eq from rfl, List.forall₂_eq_eq_eq] at hresults
  exact ⟨alike_eq_iff.mp hresults, hafter⟩

/-! ## What a batch keeps -/

/-- What stays of a document from version to version: its key and the metadata that it came with. -/
def origin? (s : MemoryStore) (key : String) : Option (String × Members) :=
  (s.documents.get? key).map fun d => (d.key, d.metadata)

theorem origin?_file {s : MemoryStore} {key : String} {d e : StoredDocument}
    (h : s.documents.find? key = some d) (hkey : e.key = d.key)
    (hmetadata : e.metadata = d.metadata) :
    (s.file key e).origin? (normalizeKey key) = s.origin? (normalizeKey key) := by
  have hbefore : s.documents.get? (normalizeKey key) = some d := h
  have hafter : (s.file key e).documents.get? (normalizeKey key) = some e := s.find?_file key e
  rw [origin?, origin?, hbefore, hafter, Option.map_some, Option.map_some, hkey, hmetadata]

/-- A patch keeps the key of a document and the metadata that it came with. -/
theorem Step.kept_by_patch {s t : MemoryStore} {c : Command} {r : BatchResult} (h : Step s c r t)
    (hpatch : c.method = .patch) :
    t.origin? (normalizeKey c.key) = s.origin? (normalizeKey c.key) := by
  cases h with
  | put => cases hpatch
  | delete => cases hpatch
  | missing => rfl
  | idle hfind => exact origin?_file hfind rfl rfl
  | patched hfind => exact origin?_file (s := s.advance) hfind rfl rfl

/-- What a batch keeps: documents that it does not name as they are, and of those that it only
patches the key and the metadata. -/
structure Keeps (s : MemoryStore) (cs : List Command) : Prop where
  unnamed : ∀ key, (∀ c ∈ cs, normalizeKey c.key ≠ key) →
    (s.batch cs).2.documents.get? key = s.documents.get? key
  patched : ∀ key, (∀ c ∈ cs, normalizeKey c.key = key → c.method = .patch) →
    (s.batch cs).2.origin? key = s.origin? key

theorem keeps (s : MemoryStore) (cs : List Command) : s.Keeps cs where
  unnamed _ h := get?_batch_of_ne s h
  patched key h := by
    refine batch_keeps (P := fun t => t.origin? key = s.origin? key) rfl (fun _ h => h) ?_
    intro s' t c r hc hstep hkept
    rw [← hkept]
    by_cases hkey : normalizeKey c.key = key
    · subst hkey
      exact hstep.kept_by_patch (h c hc rfl)
    · rw [origin?, origin?, hstep.get?_of_ne hkey]

/-! ## Two batches -/

/-- The normalized keys of the commands of a batch. -/
def keysOf (cs : List Command) : Set String := fun key => ∃ c ∈ cs, normalizeKey c.key = key

theorem onKeys_keysOf (cs : List Command) : OnKeys (keysOf cs) cs := fun c hc => ⟨c, hc, rfl⟩

/-- The batches name no document in common. -/
def Apart (as bs : List Command) : Prop :=
  ∀ a ∈ as, ∀ b ∈ bs, normalizeKey a.key ≠ normalizeKey b.key

instance (as bs : List Command) : Decidable (Apart as bs) :=
  inferInstanceAs (Decidable (∀ a ∈ as, ∀ b ∈ bs, normalizeKey a.key ≠ normalizeKey b.key))

theorem Apart.symm {as bs : List Command} (h : Apart as bs) : Apart bs as :=
  fun b hb a ha hkey => h a ha b hb hkey.symm

/-- A batch before it that names none of its documents changes nothing of what a batch answers, and
nothing of what it leaves of the documents that it names. -/
theorem Apart.batch_after {as bs : List Command} (h : Apart as bs) (docs : Documents)
    (u v : Supply) :
    ((MemoryStore.mk ((MemoryStore.mk docs u).batch as).2.documents v).batch bs).1 =
        ((MemoryStore.mk docs v).batch bs).1 ∧
      AgreeOn (keysOf bs) Eq
        ((MemoryStore.mk ((MemoryStore.mk docs u).batch as).2.documents v).batch bs).2
        ((MemoryStore.mk docs v).batch bs).2 := by
  have hagree : AgreeOn (keysOf bs) Eq
      (MemoryStore.mk ((MemoryStore.mk docs u).batch as).2.documents v)
      (MemoryStore.mk docs v) := by
    refine agreeOn_eq ?_ rfl
    rintro key ⟨b, hb, rfl⟩
    exact ((MemoryStore.mk docs u).keeps as).unnamed _ fun a ha => h a ha b hb
  exact batch_congr hagree (onKeys_keysOf bs)

/-- **Batches on different documents do not interfere.**  Take any documents and two batches that
name none in common, each with its own supply of stamps.  In either order each answers what it
answers alone, be it results or a failure, and draws the same stamps; the documents left are the
same.  Either batch keeps the documents that it does not name as they are, and the keys and the
metadata of those that it only patches. -/
theorem batches_commute (docs : Documents) (u v : Supply) {as bs : List Command}
    (h : Apart as bs) :
    let afterA := (MemoryStore.mk docs u).batch as
    let afterB := (MemoryStore.mk docs v).batch bs
    let thenB := (MemoryStore.mk afterA.2.documents v).batch bs
    let thenA := (MemoryStore.mk afterB.2.documents u).batch as
    (thenA.1 = afterA.1 ∧ thenA.2.supply = afterA.2.supply) ∧
    (thenB.1 = afterB.1 ∧ thenB.2.supply = afterB.2.supply) ∧
    thenB.2.documents = thenA.2.documents ∧
    (MemoryStore.mk docs u).Keeps as ∧ (MemoryStore.mk docs v).Keeps bs := by
  intro afterA afterB thenB thenA
  obtain ⟨hresultB, hleftB⟩ := h.batch_after docs u v
  obtain ⟨hresultA, hleftA⟩ := h.symm.batch_after docs v u
  refine ⟨⟨hresultA, hleftA.supply⟩, ⟨hresultB, hleftB.supply⟩, Table.ext_get? fun key => ?_,
    keeps _ _, keeps _ _⟩
  have hA : (∀ a ∈ as, normalizeKey a.key ≠ key) →
      thenA.2.documents.get? key = afterB.2.documents.get? key := get?_batch_of_ne _
  have hB : (∀ b ∈ bs, normalizeKey b.key ≠ key) →
      thenB.2.documents.get? key = afterA.2.documents.get? key := get?_batch_of_ne _
  -- a document is named by the one batch, and then not by the other, or by the other, or by none
  by_cases hkeyA : key ∈ keysOf as
  · obtain ⟨a, ha, rfl⟩ := hkeyA
    rw [hB fun b hb hkey => h a ha b hb hkey.symm]
    exact (hleftA.get? ⟨a, ha, rfl⟩).symm
  · have hkeyA : ∀ a ∈ as, normalizeKey a.key ≠ key := fun a ha hkey => hkeyA ⟨a, ha, hkey⟩
    rw [hA hkeyA]
    by_cases hkeyB : key ∈ keysOf bs
    · exact hleftB.get? hkeyB
    · have hkeyB : ∀ b ∈ bs, normalizeKey b.key ≠ key := fun b hb hkey => hkeyB ⟨b, hb, hkey⟩
      have hbefore : afterB.2.documents.get? key = docs.get? key := get?_batch_of_ne _ hkeyB
      rw [hB hkeyB, hbefore]
      exact get?_batch_of_ne _ hkeyA

/-- A batch that patches one document and stores another, before or after a batch that deletes a
third one and then fails. -/
theorem patched_beside_failure :
    let docs := ((MemoryStore.mk ∅ default).batch
      [.put ⟨"Posts/1", none, .object [("views", .null)], []⟩,
        .put ⟨"Posts/2", none, .object [], []⟩]).2.documents
    let as := [.patch ⟨"posts/1", none, [.ofPath ⟨[], "views"⟩ (.unset none)]⟩,
      .put ⟨"Posts/3", none, .object [], []⟩]
    let bs := [.delete ⟨"POSTS/2", none⟩, .script ⟨"Posts/2", none, "", []⟩]
    let afterA := (MemoryStore.mk docs default).batch as
    let afterB := (MemoryStore.mk docs ⟨default, 1⟩).batch bs
    afterA.1.toOption.isSome = true ∧ afterB.1.toOption.isSome = false ∧
      ((MemoryStore.mk afterA.2.documents ⟨default, 1⟩).batch bs).2.documents =
        ((MemoryStore.mk afterB.2.documents default).batch as).2.documents := by
  intro docs as bs afterA afterB
  have happart : Apart as bs := by decide +kernel
  obtain ⟨_, _, hdocuments, _⟩ := batches_commute docs default ⟨default, 1⟩ happart
  exact ⟨by decide +kernel, by decide +kernel, hdocuments⟩

end PatchStore.MemoryStore
