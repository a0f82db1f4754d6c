import PatchStore.Proofs.Store.Results
import PatchStore.Proofs.Store.Versions
import PatchStore.Proofs.Time.Internet

/-!
# Two reports of one document

The metadata of a document comes as a raw object with the results of batches, and as a descriptor
from look-ups.  The raw object is what the document came with, with the key, the etag and the time
of modification put over it; so both reports agree in these.  The flag for readings that may be out
of date is not put over it: a descriptor always says that a reading is up to date, and the raw
object says what the document came with.

* `Supply.ReadBack` — the times of the stamps are read back from their text.
* `MemoryStore.Stamped` — the invariant: every document has a stamp of the supply.
* `StoredDocument.ofRaw_reportedMetadata` — what the raw object says, from what the descriptor says.
* `reports_of_stored` — where both reports of a stored document agree, and when they do throughout.
-/

namespace PatchStore

open Time (Timestamp)

/-! ## Stamps of a supply -/

/-- The time of every stamp is read back from its text. -/
def Supply.ReadBack (u : Supply) : Prop :=
  ∀ n, Timestamp.ofText? (u.stamp n).modified.render = some (u.stamp n).modified

theorem Supply.readBack_of_isPlain {u : Supply} (h : ∀ n, (u.stamp n).modified.IsPlain) :
    u.ReadBack := fun n => (h n).ofText?_render

namespace MemoryStore

/-- The store draws its stamps from the supply, and every document has one of them. -/
structure Stamped (u : Supply) (s : MemoryStore) : Prop where
  supply : s.supply.stamp = u.stamp
  documents : ∀ v ∈ s.filed, ∃ n, v.2.stamp = u.stamp n

theorem stamped_empty (u : Supply) : Stamped u ⟨∅, u⟩ where
  supply := rfl
  documents v h := by cases h

/-- A step leaves documents with stamps of the supply. -/
theorem Stamped.step {u : Supply} {s t : MemoryStore} {c : Command} {r : BatchResult}
    (h : Stamped u s) (hstep : Step s c r t) : Stamped u t where
  supply := hstep.later.stamp.trans h.supply
  documents := by
    rintro ⟨key, d⟩ hd
    rcases hstep.filed_cases hd with ⟨_, hstamp, _⟩ | ⟨e, he, hsame⟩
    · exact ⟨s.supply.drawn, hstamp.trans (congrFun h.supply s.supply.drawn)⟩
    · obtain ⟨n, hn⟩ := h.documents _ he
      exact ⟨n, hsame.stamp.symm.trans hn⟩

theorem Stamped.afterBatches {u : Supply} {s : MemoryStore} (h : Stamped u s)
    (batches : List (List Command)) : Stamped u (s.afterBatches batches) :=
  afterBatches_keeps h (fun hlater h => ⟨hlater.stamp.trans h.supply, h.documents⟩)
    (fun hstep h => h.step hstep) batches

end MemoryStore

/-! ## What the reports say -/

/-- The raw object says what the descriptor says, but for the flag, which is that of the metadata
that the document came with. -/
theorem StoredDocument.ofRaw_reportedMetadata {d : StoredDocument}
    (hread : Timestamp.ofText? d.stamp.modified.render = some d.stamp.modified) :
    Metadata.ofRaw d.reportedMetadata =
      { Metadata.ofDescriptor d.descriptor with
        nonAuthoritative := Metadata.flag d.metadata Metadata.nonAuthoritativeName } := by
  have hkey : Metadata.text? d.reportedMetadata Metadata.keyName = some d.key := by
    rw [Metadata.text?, d.get?_reportedMetadata_key]
    rfl
  have hetag : Metadata.text? d.reportedMetadata Metadata.etagName = some d.stamp.etag.text := by
    rw [Metadata.text?, d.get?_reportedMetadata_etag]
    rfl
  have hmodified : Metadata.time? d.reportedMetadata Metadata.modifiedName =
      some d.stamp.modified := by
    rw [Metadata.time?, Metadata.text?, d.get?_reportedMetadata_modified]
    exact hread
  have hflag : Metadata.flag d.reportedMetadata Metadata.nonAuthoritativeName =
      Metadata.flag d.metadata Metadata.nonAuthoritativeName := by
    rw [Metadata.flag, Metadata.flag, d.get?_reportedMetadata, if_neg (by decide),
      if_neg (by decide), if_neg (by decide)]
  rw [Metadata.ofRaw, hkey, hetag, hmodified, hflag]
  rfl

namespace MemoryStore

/-- **Two reports of a stored document.**  Take any store that batches can leave, in which times are
read back from their text.  The raw metadata of a document and the descriptor that is looked up say
the same key, the same etag and the same time of modification.  They say the same throughout exactly
if the metadata that the document came with does not flag it as out of date. -/
theorem reports_of_stored {u : Supply} (hread : u.ReadBack)
    (batches : List (List Command)) {key : String} {d : StoredDocument}
    (h : ((MemoryStore.mk ∅ u).afterBatches batches).documents.find? key = some d) :
    let raw := Metadata.ofRaw d.reportedMetadata
    let looked := Metadata.ofDescriptor d.descriptor
    raw.key = looked.key ∧ raw.etag = looked.etag ∧ raw.lastModified = looked.lastModified ∧
      (raw = looked ↔ Metadata.flag d.metadata Metadata.nonAuthoritativeName = false) := by
  intro raw looked
  obtain ⟨n, hn⟩ := ((stamped_empty u).afterBatches batches).documents (normalizeKey key, d) h
  have hn : d.stamp = u.stamp n := hn
  have hraw : raw = { looked with
      nonAuthoritative := Metadata.flag d.metadata Metadata.nonAuthoritativeName } := by
    refine StoredDocument.ofRaw_reportedMetadata ?_
    rw [hn]
    exact hread n
  refine ⟨by rw [hraw], by rw [hraw], by rw [hraw], ?_⟩
  constructor
  · intro heq
    exact (congrArg Metadata.nonAuthoritative hraw).symm.trans
      (congrArg Metadata.nonAuthoritative heq)
  · intro hflag
    rw [hraw, hflag]
    rfl

/-- A document is stored with metadata of its own, and then patched. -/
def storedWith (metadata : Members) : List (List Command) :=
  [[.put ⟨"posts/1", none, .object [("views", .null)], metadata⟩],
    [.patch ⟨"posts/1", none, [.ofPath ⟨[], "views"⟩ (.unset none)]⟩]]

/-- A document that came with metadata which flags it as out of date. -/
def flagged : Members := [(Metadata.nonAuthoritativeName, .bool true)]

theorem readBack_default : (default : Supply).ReadBack :=
  Supply.readBack_of_isPlain fun _ => Timestamp.isPlain_default

/-- The reports of a document that came without metadata agree after it is patched; those of a
document that came with a flag agree but for the flag. -/
theorem reports_of_storedWith :
    (∃ d, ((MemoryStore.mk ∅ default).afterBatches (storedWith [])).documents.find? "posts/1" =
        some d ∧ Metadata.ofRaw d.reportedMetadata = Metadata.ofDescriptor d.descriptor) ∧
      ∃ d, ((MemoryStore.mk ∅ default).afterBatches (storedWith flagged)).documents.find?
        "posts/1" = some d ∧ (Metadata.ofRaw d.reportedMetadata).lastModified =
          (Metadata.ofDescriptor d.descriptor).lastModified := by
  constructor
  · obtain ⟨d, hd⟩ : ∃ d, ((MemoryStore.mk ∅ default).afterBatches
        (storedWith [])).documents.find? "posts/1" = some d := ⟨_, rfl⟩
    refine ⟨d, hd, (reports_of_stored readBack_default _ hd).2.2.2.mpr ?_⟩
    cases hd
    rfl
  · obtain ⟨d, hd⟩ : ∃ d, ((MemoryStore.mk ∅ default).afterBatches
        (storedWith flagged)).documents.find? "posts/1" = some d := ⟨_, rfl⟩
    exact ⟨d, hd, (reports_of_stored readBack_default _ hd).2.2.1⟩

/-- The reports of a stored document do not always agree: of a document that came with a flag, the
raw object says that the reading is out of date, and the descriptor says that it is not. -/
theorem not_reports_agree :
    ¬∀ u : Supply, u.ReadBack → ∀ (batches : List (List Command)) (key : String)
      (d : StoredDocument),
        ((MemoryStore.mk ∅ u).afterBatches batches).documents.find? key = some d →
          Metadata.ofRaw d.reportedMetadata = Metadata.ofDescriptor d.descriptor := by
  intro hagree
  obtain ⟨d, hd⟩ : ∃ d, ((MemoryStore.mk ∅ default).afterBatches
      (storedWith flagged)).documents.find? "posts/1" = some d := ⟨_, rfl⟩
  have hflag := congrArg Metadata.nonAuthoritative
    (hagree default readBack_default (storedWith flagged) "posts/1" d hd)
  cases hd
  cases hflag

end MemoryStore

end PatchStore
