import PatchStore.Proofs.Store.Results

/-!
# Documents are found under the keys they report

A document is filed under its normalized key and keeps the key that it was stored under as it was
spelled then.  The two change at different moments: storing a document again gives it the spelling
of the new command, a patch leaves the spelling as it is, and a batch that fails brings back the
spelling that was there before.  `WellFiled` holds through all of this; here it is turned into what
readers see.

* `WellFiled.find?_of_mem` — a document is found under any spelling of its key.
* `WellFiled.nodup_normalizeKey` — no two documents have keys with the same normalization.
* `found_under_reported_key` — what holds of every store that batches can leave.
-/

namespace PatchStore

namespace Table

variable {α : Type}

theorem mem_entries_iff {t : Table α} {key : String} {value : α} :
    (key, value) ∈ t.entries ↔ t.get? key = some value :=
  ⟨t.sorted.get?_of_mem, Keyed.mem_of_get?⟩

end Table

namespace MemoryStore

variable {s : MemoryStore} {key : String} {d : StoredDocument}

/-- A document is found under any spelling of its key. -/
theorem WellFiled.find?_of_mem (h : s.WellFiled) {filedUnder : String}
    (hd : (filedUnder, d) ∈ s.documents.entries) (hkey : normalizeKey key = normalizeKey d.key) :
    s.documents.find? key = some d := by
  have hget := Table.mem_entries_iff.mp hd
  rw [Documents.find?, hkey, h filedUnder d hget, hget]

/-- No two documents have keys with the same normalization. -/
theorem WellFiled.nodup_normalizeKey (h : s.WellFiled) :
    (s.documents.entries.map fun e => normalizeKey e.2.key).Nodup := by
  have hsame : s.documents.entries.map (fun e => normalizeKey e.2.key) =
      s.documents.entries.map Prod.fst :=
    List.map_congr_left fun e he => h e.1 e.2 (Table.mem_entries_iff.mp he)
  rw [hsame]
  exact s.documents.sorted.nodup

/-- A document that is found is described in its place in a list of look-ups. -/
theorem getMetadata_of_find? (h : s.documents.find? key = some d) (before after : List String) :
    s.getMetadata (before ++ key :: after) =
      s.getMetadata before ++ d.descriptor :: s.getMetadata after := by
  rw [getMetadata, List.filterMap_append, List.filterMap_cons_some (head_of_find? h)]
  rfl

/-- **Documents are found under the keys they report.**  In any store that batches can leave, failed
ones included, every document is filed under the normalization of its own key, and so no two
documents have keys with the same normalization.  Whoever asks for the key that a document reports,
in any spelling with that normalization, is answered with that document. -/
theorem found_under_reported_key (u : Supply) (batches : List (List Command)) :
    let s := (MemoryStore.mk ∅ u).afterBatches batches
    (∀ e ∈ s.documents.entries, normalizeKey e.2.key = e.1) ∧
    (s.documents.entries.map fun e => normalizeKey e.2.key).Nodup ∧
    ∀ e ∈ s.documents.entries, ∀ key, normalizeKey key = normalizeKey e.2.descriptor.key →
      s.head key = some e.2.descriptor ∧
      s.document? key = some (.object e.2.body) ∧
      ∀ before after, s.getMetadata (before ++ key :: after) =
        s.getMetadata before ++ e.2.descriptor :: s.getMetadata after := by
  intro s
  have hfiled : s.WellFiled := (wellFiled_empty u).afterBatches batches
  refine ⟨fun e he => hfiled e.1 e.2 (Table.mem_entries_iff.mp he), hfiled.nodup_normalizeKey, ?_⟩
  intro e he key hkey
  have hfind := hfiled.find?_of_mem he hkey
  exact ⟨head_of_find? hfind, document?_of_find? hfind, getMetadata_of_find? hfind⟩

/-- A document is stored; a batch stores it again under another spelling and then fails; the document
is patched under a third spelling. -/
def respelledInVain : List (List Command) :=
  [[.put ⟨"Posts/1", none, .object [], []⟩, .put ⟨"Posts/2", none, .object [], []⟩],
    [.put ⟨"POSTS/1", none, .object [], []⟩, .delete ⟨"posts/2", some ⟨"stale"⟩⟩],
    [.patch ⟨"posts/1", none, [.ofPath ⟨[], "views"⟩ (.set .null none)]⟩]]

/-- The document still reports the key that it was stored under first, and is found by it. -/
theorem found_after_respelledInVain :
    let s := (MemoryStore.mk ∅ default).afterBatches respelledInVain
    ∃ d, ("posts/1", d) ∈ s.documents.entries ∧ d.descriptor.key = "Posts/1" ∧
      normalizeKey "pOSTS/1" = normalizeKey d.descriptor.key ∧
      s.head "pOSTS/1" = some d.descriptor := by
  intro s
  obtain ⟨d, hd⟩ : ∃ d, s.documents.get? "posts/1" = some d := ⟨_, rfl⟩
  have hkey : d.descriptor.key = "Posts/1" := by
    cases hd
    rfl
  have hsame : normalizeKey "pOSTS/1" = normalizeKey d.descriptor.key := by
    rw [hkey]
    decide +kernel
  have hmem : ("posts/1", d) ∈ s.documents.entries := Table.mem_entries_iff.mpr hd
  exact ⟨d, hmem, hkey, hsame,
    ((found_under_reported_key default respelledInVain).2.2 _ hmem "pOSTS/1" hsame).1⟩

end MemoryStore

end PatchStore
