import PatchStore.Proofs.Store.Filing
import PatchStore.Proofs.Store.Respelling
import PatchStore.Proofs.Text.FinalSigma

/-!
# Keys in upper and lower case

A document is found under every spelling of its key with the same lower case.  The key is lowered as
a whole, so a capital sigma at the end of a word and a small one are told apart, though each of them
has the same lower case where it stands alone.  That is the only way in which the case of a key
matters, for characters of any script.

* `found_congr` — what is found under keys that normalize alike.
* `addressed_alike` — keys that are spelled alike but for their case: when they address the same
  document, and what they address when they do not.
-/

namespace PatchStore.MemoryStore

open Text

/-- Under keys that normalize alike the very same document is found, and the same is read, alone or
in a list of look-ups. -/
theorem found_congr (s : MemoryStore) {key other : String}
    (h : normalizeKey key = normalizeKey other) :
    s.documents.find? key = s.documents.find? other ∧
      s.head key = s.head other ∧ s.document? key = s.document? other ∧
      ∀ before after, s.getMetadata (before ++ key :: after) =
        s.getMetadata (before ++ other :: after) := by
  have hfind : s.documents.find? key = s.documents.find? other := by
    rw [Documents.find?, Documents.find?, h]
  have hhead : s.head key = s.head other := s.head_congr h
  refine ⟨hfind, hhead, ?_, fun before after => ?_⟩
  · rw [document?, document?, hfind]
  · rw [getMetadata, getMetadata, List.filterMap_append, List.filterMap_append,
      List.filterMap_cons, List.filterMap_cons, hhead]

/-- **Keys that differ in case alone.**  Take any store that batches can leave, and two keys whose
characters have the same lower case, one by one.  The keys normalize alike just when of the letters
that end a word the same are capital sigmas in both.  Then the very same document is found and read
under both keys, and storing, patching or deleting a document under the one does what it does under
the other, but for the spelling that is kept and reported.  If they do not normalize alike, no
command under the one key touches what is stored under the other. -/
theorem addressed_alike (u : Supply) (batches : List (List Command)) {key other : String}
    (h : lowerEach key.toList = lowerEach other.toList) :
    let s := (MemoryStore.mk ∅ u).afterBatches batches
    (normalizeKey key = normalizeKey other ↔ SameFinalSigmas key other) ∧
    (SameFinalSigmas key other →
      (s.documents.find? key = s.documents.find? other ∧
        s.head key = s.head other ∧ s.document? key = s.document? other ∧
        ∀ before after, s.getMetadata (before ++ key :: after) =
          s.getMetadata (before ++ other :: after)) ∧
      (∀ etag document metadata,
        AlikeOn (put ⟨key, etag, document, metadata⟩) (put ⟨other, etag, document, metadata⟩) s s) ∧
      (∀ etag patches, AlikeOn (patch ⟨key, etag, patches⟩) (patch ⟨other, etag, patches⟩) s s) ∧
      ∀ etag, AlikeOn (delete ⟨key, etag⟩) (delete ⟨other, etag⟩) s s) ∧
    (¬SameFinalSigmas key other → ∀ c : Command, c.key = key →
      ((perform c).on s).2.documents.find? other = s.documents.find? other) := by
  intro s
  have hiff : normalizeKey key = normalizeKey other ↔ SameFinalSigmas key other :=
    lowerCase_eq_iff h
  refine ⟨hiff, fun hsigmas => ?_, ?_⟩
  · have hkey := hiff.mpr hsigmas
    have hself := SameButKeys.refl s
    exact ⟨s.found_congr hkey, hself.put hkey, hself.patch hkey, hself.delete hkey⟩
  · rintro hsigmas c rfl
    exact get?_on_perform_of_ne c s (mt hiff.mp hsigmas)

/-- A store with a document under a key. -/
def filedUnder (key : String) : MemoryStore :=
  (MemoryStore.mk ∅ default).afterBatches [[.put ⟨key, none, .object [], []⟩]]

/-- A capital I with a dot may be spelled as a small one and the dot on its own, before a sigma that
is a capital one in both keys. -/
theorem addressed_with_dot :
    lowerEach "Posts/İΣ".toList = lowerEach "posts/i\u0307Σ".toList ∧
      SameFinalSigmas "Posts/İΣ" "posts/i\u0307Σ" ∧
      ((filedUnder "Posts/İΣ").head "posts/i\u0307Σ").isSome = true := by
  have heach : lowerEach "Posts/İΣ".toList = lowerEach "posts/i\u0307Σ".toList := by
    decide +kernel
  obtain ⟨hiff, halike, -⟩ := addressed_alike default
    [[.put ⟨"Posts/İΣ", none, .object [], []⟩]] heach
  have hsigmas := hiff.mp (by decide +kernel)
  obtain ⟨⟨-, hhead, -⟩, -⟩ := halike hsigmas
  have hfound : ((filedUnder "Posts/İΣ").head "Posts/İΣ").isSome = true := by decide +kernel
  refine ⟨heach, hsigmas, ?_⟩
  rw [filedUnder, ← hhead]
  exact hfound

/-- A document that is stored under a key that ends in a capital sigma is not found under the same
key in small letters. -/
theorem not_head_eq_of_lowerEach_eq :
    ¬∀ (u : Supply) (batches : List (List Command)) (key other : String),
      lowerEach key.toList = lowerEach other.toList →
        ((MemoryStore.mk ∅ u).afterBatches batches).head key =
          ((MemoryStore.mk ∅ u).afterBatches batches).head other := by
  intro halways
  have heach : lowerEach "ΑΣ".toList = lowerEach "ασ".toList := by decide +kernel
  have hhead := halways default [[.put ⟨"ΑΣ", none, .object [], []⟩]] "ΑΣ" "ασ" heach
  have hfound : ((filedUnder "ΑΣ").head "ΑΣ").isSome = true := by decide +kernel
  have hmissing : ((filedUnder "ΑΣ").head "ασ").isSome = false := by decide +kernel
  rw [filedUnder, hhead] at hfound
  exact Bool.false_ne_true (hmissing.symm.trans hfound)

end PatchStore.MemoryStore
