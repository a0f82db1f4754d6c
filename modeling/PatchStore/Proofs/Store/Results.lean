import PatchStore.Proofs.Store.Run

/-!
# What results say of the store

A batch that succeeds answers every command, and what it answers agrees with what can be looked up
afterwards: the last result for a key says what the store then says of that key, under whatever
spelling.

* `WellFiled` — every document is filed under its own key, normalized; steps, batches and runs keep
  that.
* `BatchResult.Describes`, `BatchResult.Reports` — a result says what a descriptor says; it says
  what a look-up answers, be it a descriptor or nothing.
* `Step.answers`, `Step.reports` — what the result of one command says of the store before it and
  after it.
* `get?_batch_of_ne` — the frame of a batch.
* `results_of_batch` — what the results of a batch say.
-/

namespace PatchStore

/-! ## Metadata as it is reported -/

namespace StoredDocument

/-- What is reported of a document says its key, its etag and its time of modification, whatever the
metadata that it came with. -/
theorem get?_reportedMetadata (d : StoredDocument) (name : String) :
    Keyed.get? d.reportedMetadata name =
      if name = Metadata.keyName then some (.string d.key)
      else if name = Metadata.etagName then some (.string d.stamp.etag.text)
      else if name = Metadata.modifiedName then some (.string d.stamp.modified.render)
      else Keyed.get? d.metadata name := by
  show Keyed.get? (Keyed.insert (Keyed.insert (Keyed.insert d.metadata Metadata.keyName _)
    Metadata.etagName _) Metadata.modifiedName _) name = _
  rw [Keyed.get?_insert, Keyed.get?_insert, Keyed.get?_insert]
  by_cases hkey : name = Metadata.keyName
  · subst hkey
    rfl
  · by_cases hetag : name = Metadata.etagName
    · subst hetag
      rfl
    · rw [if_neg hkey, if_neg hetag, if_neg (Ne.symm hkey), if_neg (Ne.symm hetag)]
      by_cases hmodified : name = Metadata.modifiedName
      · rw [if_pos hmodified, if_pos hmodified.symm]
      · rw [if_neg hmodified, if_neg (Ne.symm hmodified)]

theorem get?_reportedMetadata_key (d : StoredDocument) :
    Keyed.get? d.reportedMetadata Metadata.keyName = some (.string d.key) := by
  rw [get?_reportedMetadata, if_pos rfl]

theorem get?_reportedMetadata_etag (d : StoredDocument) :
    Keyed.get? d.reportedMetadata Metadata.etagName = some (.string d.stamp.etag.text) := by
  rw [get?_reportedMetadata, if_neg (by decide), if_pos rfl]

theorem get?_reportedMetadata_modified (d : StoredDocument) :
    Keyed.get? d.reportedMetadata Metadata.modifiedName =
      some (.string d.stamp.modified.render) := by
  rw [get?_reportedMetadata, if_neg (by decide), if_neg (by decide), if_pos rfl]

end StoredDocument

/-- The metadata of a descriptor is the store's own: it says the key, the etag and the time of
modification that the descriptor says. -/
structure Descriptor.IsOwn (d : Descriptor) : Prop where
  key : Keyed.get? d.metadata Metadata.keyName = some (.string d.key)
  etag : ∃ tag, d.etag = some tag ∧
    Keyed.get? d.metadata Metadata.etagName = some (.string tag.text)
  modified : ∃ time, d.lastModified = some time ∧
    Keyed.get? d.metadata Metadata.modifiedName = some (.string time.render)

theorem StoredDocument.isOwn_descriptor (d : StoredDocument) : d.descriptor.IsOwn where
  key := d.get?_reportedMetadata_key
  etag := ⟨d.stamp.etag, rfl, d.get?_reportedMetadata_etag⟩
  modified := ⟨d.stamp.modified, rfl, d.get?_reportedMetadata_modified⟩

/-! ## What a result says -/

namespace BatchResult

/-- The result says of a document what the descriptor says of it, and what is read from the result
says so as well. -/
structure Describes (r : BatchResult) (d : Descriptor) : Prop where
  key : r.key = d.key
  etag : r.etag = d.etag
  metadata : r.metadata = some d.metadata
  documentMetadata : r.documentMetadata.etag = d.etag

/-- The result says what is looked up after its command: a document after it was stored, or found
and patched; none after it was deleted, or not found. -/
inductive Reports (r : BatchResult) : Option Descriptor → Prop
  | present {d : Descriptor} :
      r.method = .put ∨ r.method = .patch ∧ r.patchOutcome ≠ some .documentDoesNotExist →
      r.Describes d → d.IsOwn → Reports r (some d)
  | absent :
      r.method = .delete ∨ r.method = .patch ∧ r.patchOutcome = some .documentDoesNotExist →
      Reports r none

/-- The etag that is reported of a document is read from its metadata. -/
theorem etag_ofRawOr_reportedMetadata (d : StoredDocument) (tag : Option Etag) :
    (Metadata.ofRawOr tag (some d.reportedMetadata)).etag = some d.stamp.etag := by
  have htext : Metadata.text? d.reportedMetadata Metadata.etagName = some d.stamp.etag.text := by
    rw [Metadata.text?, d.get?_reportedMetadata_etag]
    rfl
  show ((Metadata.text? d.reportedMetadata Metadata.etagName).map Etag.mk <|> tag) = _
  rw [htext]
  rfl

theorem describes_putResult (d : StoredDocument) : d.putResult.Describes d.descriptor :=
  ⟨rfl, rfl, rfl, etag_ofRawOr_reportedMetadata d _⟩

theorem describes_patchResult (d : StoredDocument) (outcome : PatchOutcome) :
    (d.patchResult outcome).Describes d.descriptor :=
  ⟨rfl, rfl, rfl, etag_ofRawOr_reportedMetadata d _⟩

end BatchResult

namespace MemoryStore

/-! ## Documents are filed under their keys -/

/-- Every document is filed under its own key, normalized. -/
def WellFiled (s : MemoryStore) : Prop :=
  ∀ key d, s.documents.get? key = some d → normalizeKey d.key = key

theorem wellFiled_empty (u : Supply) : (MemoryStore.mk ∅ u).WellFiled := by
  intro key d h
  cases h

/-- Filing a document under its own key keeps documents filed under their keys. -/
theorem WellFiled.file {s : MemoryStore} (h : s.WellFiled) {key : String} {d : StoredDocument}
    (hkey : normalizeKey d.key = normalizeKey key) : (s.file key d).WellFiled := by
  intro other e he
  by_cases hother : normalizeKey key = other
  · subst hother
    obtain rfl := eq_of_get?_file he
    exact hkey
  · rw [get?_file_of_ne s hother] at he
    exact h other e he

/-- A step keeps documents filed under their keys. -/
theorem WellFiled.step {s t : MemoryStore} {c : Command} {r : BatchResult} (h : s.WellFiled)
    (hstep : Step s c r t) : t.WellFiled := by
  cases hstep with
  | put => exact WellFiled.file (s := s.advance) h rfl
  | @delete c =>
    intro key d hd
    have hd : (s.documents.erase (normalizeKey c.key)).get? key = some d := hd
    rw [Table.get?_erase] at hd
    split at hd
    · cases hd
    · exact h key d hd
  | missing => exact h
  | @idle c d body hfind => exact h.file (h (normalizeKey c.key) d hfind)
  | @patched c d body hfind =>
    exact WellFiled.file (s := s.advance) h (h (normalizeKey c.key) d hfind)

/-- A batch keeps documents filed under their keys, whether it succeeds or fails. -/
theorem WellFiled.batch {s : MemoryStore} (h : s.WellFiled) (cs : List Command) :
    (s.batch cs).2.WellFiled :=
  batch_keeps h (fun _ h => h) fun _ hstep h => h.step hstep

/-- Batches keep documents filed under their keys. -/
theorem WellFiled.afterBatches {s : MemoryStore} (h : s.WellFiled)
    (batches : List (List Command)) : (s.afterBatches batches).WellFiled :=
  afterBatches_keeps h (fun _ h => h) (fun hstep h => h.step hstep) batches

/-! ## Looking up -/

/-- A look-up goes by the normalized key. -/
theorem head_congr (s : MemoryStore) {key other : String}
    (h : normalizeKey key = normalizeKey other) : s.head key = s.head other := by
  show (s.documents.get? (normalizeKey key)).map _ = (s.documents.get? (normalizeKey other)).map _
  rw [h]

theorem head_of_find? {s : MemoryStore} {key : String} {d : StoredDocument}
    (h : s.documents.find? key = some d) : s.head key = some d.descriptor := by
  rw [head, h]
  rfl

theorem head_eq_none_iff {s : MemoryStore} {key : String} :
    s.head key = none ↔ s.documents.find? key = none := by
  rw [head, Option.map_eq_none_iff]

theorem head_file (s : MemoryStore) (key : String) (d : StoredDocument) :
    (s.file key d).head key = some d.descriptor :=
  head_of_find? (s.find?_file key d)

/-- A step touches no document but the one that is filed under the key of its command. -/
theorem Step.get?_of_ne {s t : MemoryStore} {c : Command} {r : BatchResult} (h : Step s c r t)
    {key : String} (hkey : normalizeKey c.key ≠ key) :
    t.documents.get? key = s.documents.get? key := by
  have hframe := get?_on_perform_of_ne c s hkey
  rw [on_perform_eq_ok_iff.mpr h] at hframe
  exact hframe

/-- A batch touches no documents but those that are filed under the keys of its commands. -/
theorem get?_batch_of_ne {cs : List Command} (s : MemoryStore) {key : String}
    (h : ∀ c ∈ cs, normalizeKey c.key ≠ key) :
    (s.batch cs).2.documents.get? key = s.documents.get? key :=
  batch_keeps (P := fun t => t.documents.get? key = s.documents.get? key) rfl (fun _ h => h)
    fun hc hstep hkept => (hstep.get?_of_ne (h _ hc)).trans hkept

/-! ## Results of commands -/

/-- What the result of a command says of the store that the command came to. -/
structure Answers (s : MemoryStore) (c : Command) (r : BatchResult) : Prop where
  method : r.method = c.method
  key : normalizeKey r.key = normalizeKey c.key
  deleted : c.method = .delete → r.deleted = some (s.head c.key).isSome
  missing : c.method = .patch →
    (r.patchOutcome = some .documentDoesNotExist ↔ s.head c.key = none)

/-- A command is answered with its method and its key, and with what it found. -/
theorem Step.answers {s t : MemoryStore} {c : Command} {r : BatchResult} (h : Step s c r t)
    (hfiled : s.WellFiled) : Answers s c r := by
  cases h with
  | put => exact ⟨rfl, rfl, nofun, nofun⟩
  | @delete c =>
    refine ⟨rfl, rfl, fun _ => ?_, nofun⟩
    show some (s.documents.find? c.key).isSome = some ((s.documents.find? c.key).map _).isSome
    rw [Option.isSome_map]
  | missing hfind =>
    exact ⟨rfl, rfl, nofun, fun _ => iff_of_true rfl (head_eq_none_iff.mpr hfind)⟩
  | @idle c d body hfind =>
    refine ⟨rfl, hfiled _ d hfind, nofun, fun _ => iff_of_false nofun ?_⟩
    intro hnone
    cases hfind.symm.trans (head_eq_none_iff.mp hnone)
  | @patched c d body hfind =>
    refine ⟨rfl, hfiled _ d hfind, nofun, fun _ => iff_of_false nofun ?_⟩
    intro hnone
    cases hfind.symm.trans (head_eq_none_iff.mp hnone)

/-- The result of a command says what is looked up right after it. -/
theorem Step.reports {s t : MemoryStore} {c : Command} {r : BatchResult} (h : Step s c r t) :
    r.Reports (t.head c.key) := by
  cases h with
  | @put c body =>
    show BatchResult.Reports _ ((s.advance.file c.key _).head c.key)
    rw [head_file]
    exact .present (Or.inl rfl) (BatchResult.describes_putResult _)
      (StoredDocument.isOwn_descriptor _)
  | @delete c =>
    have hnone : ({ s with documents := s.documents.erase (normalizeKey c.key) } :
        MemoryStore).head c.key = none := head_eq_none_iff.mpr (Table.get?_erase_self _ _)
    show BatchResult.Reports _ (MemoryStore.head _ c.key)
    rw [hnone]
    exact .absent (Or.inl rfl)
  | @missing c hfind =>
    show BatchResult.Reports _ (s.head c.key)
    rw [head_eq_none_iff.mpr hfind]
    exact .absent (Or.inr ⟨rfl, rfl⟩)
  | @idle c d body =>
    show BatchResult.Reports _ ((s.file c.key _).head c.key)
    rw [head_file]
    exact .present (Or.inr ⟨rfl, nofun⟩) (BatchResult.describes_patchResult _ _)
      (StoredDocument.isOwn_descriptor _)
  | @patched c d body =>
    show BatchResult.Reports _ ((s.advance.file c.key _).head c.key)
    rw [head_file]
    exact .present (Or.inr ⟨rfl, nofun⟩) (BatchResult.describes_patchResult _ _)
      (StoredDocument.isOwn_descriptor _)

/-- **Results agree with the store.**  Take any store that batches can leave, and a batch that
succeeds on it.  There is one result for each command, in order.  Each has the method of its command
and a key that normalizes like the command's; a deletion says whether there was a document just
before it, and a patch whether there was none.  After the batch, the last result for a key says what
is looked up under that key, in any spelling. -/
theorem results_of_batch (u : Supply) (batches : List (List Command)) {cs : List Command}
    {results : List BatchResult} {t : MemoryStore}
    (h : ((MemoryStore.mk ∅ u).afterBatches batches).batch cs = (.ok results, t)) :
    results.length = cs.length ∧
    ∀ before c after, cs = before ++ c :: after →
      ∃ answered r more s, results = answered ++ r :: more ∧ answered.length = before.length ∧
        ((MemoryStore.mk ∅ u).afterBatches batches).batch before = (.ok answered, s) ∧
        Answers s c r ∧
        ((∀ c' ∈ after, normalizeKey c'.key ≠ normalizeKey c.key) →
          ∀ key, normalizeKey key = normalizeKey c.key → r.Reports (t.head key)) := by
  refine ⟨length_of_batch_ok h, ?_⟩
  rintro before c after rfl
  obtain ⟨answered, s, _, hbefore, hrest, rfl⟩ := batch_append_eq_ok_iff.mp h
  obtain ⟨r, v, more, hstep, hafter, rfl⟩ := batch_cons_eq_ok_iff.mp hrest
  have hfiled : s.WellFiled := by
    have hkept := ((wellFiled_empty u).afterBatches batches).batch before
    rw [hbefore] at hkept
    exact hkept
  refine ⟨answered, r, more, s, rfl, length_of_batch_ok hbefore, hbefore, hstep.answers hfiled, ?_⟩
  intro hlast key hkey
  -- no later command has the key, so what is looked up is what this command left
  have hframe := get?_batch_of_ne v hlast
  rw [hafter] at hframe
  have hhead : t.head key = v.head c.key := by
    rw [head_congr t hkey]
    exact congrArg (Option.map StoredDocument.descriptor) hframe
  rw [hhead]
  exact hstep.reports

/-- A document whose metadata claims an etag of its own is stored; then, under other spellings of
its key, it is patched, stored once more and deleted, with another document in between. -/
def respelled : List Command :=
  [.patch ⟨"POSTS/1", none, [.ofPath ⟨[], "views"⟩ (.unset none)]⟩,
    .put ⟨"Posts/2", none, .object [], [("@etag", .string "mine")]⟩,
    .delete ⟨"posts/1", none⟩]

/-- The deletion says that there was a document, and the document in between is looked up as its
result says. -/
theorem results_of_respelled :
    let s := (MemoryStore.mk ∅ default).afterBatches
      [[.put ⟨"Posts/1", none, .object [("views", .null)], [("@etag", .string "mine")]⟩]]
    ∃ results t, s.batch respelled = (.ok results, t) ∧
      (∃ r, results[1]? = some r ∧ r.Reports (t.head "pOSTS/2")) ∧
      (results[2]?.bind BatchResult.deleted) = some true := by
  intro s
  have hisSome : (s.batch respelled).1.toOption.isSome = true := by decide +kernel
  rcases hrun : s.batch respelled with ⟨e | results, t⟩
  · rw [hrun] at hisSome
    cases hisSome
  · have hparts := (results_of_batch default _ hrun).2
    refine ⟨results, t, rfl, ?_, ?_⟩
    · obtain ⟨answered, r, more, _, rfl, hlength, _, _, hreports⟩ :=
        hparts (respelled.take 1) respelled[1] (respelled.drop 2) rfl
      refine ⟨r, ?_, hreports (by decide +kernel) "pOSTS/2" (by decide +kernel)⟩
      have hlength : answered.length = 1 := hlength
      rw [List.getElem?_append_right (Nat.le_of_eq hlength), hlength]
      rfl
    · have hdeleted : ((s.batch respelled).1.toOption.bind fun results =>
          results[2]?.bind BatchResult.deleted) = some true := by decide +kernel
      rw [hrun] at hdeleted
      exact hdeleted

end MemoryStore

end PatchStore
