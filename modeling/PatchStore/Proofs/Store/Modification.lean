import PatchStore.Proofs.Json.Text
import PatchStore.Proofs.Patch.Modified
import PatchStore.Proofs.Patch.Settled
import PatchStore.Proofs.Store.Results

/-!
# What the answer to a patch means

A patch of a document that is there answers that it patched the document, or that it modified
nothing.  The answer follows the chains: a document that they changed gets a new stamp, and one that
they did not change keeps its own.

* `Step.patch_cases` — what a patch of a document that is there has done.
* `modified_iff_changed` — chains report a change just when there is one, and the stamp follows the
  report.
* `idle_when_sent_again` — a patch that sets and unsets fields at independent paths does nothing
  when it is sent again.
* `text_of_notModified` — what readers see after a patch that answers that it modified nothing.  The
  document may have another text than before, as a zero may be written over the other one.
-/

namespace PatchStore.MemoryStore

open PatchNode

/-! ## Patches of documents that are there -/

/-- What a patch of a document that is there has done: the chains said that they modified the
document and it got a new stamp, or they said that they did not and it kept its own. -/
theorem Step.patch_cases {s t : MemoryStore} {c : PatchCommand} {r : BatchResult}
    (h : Step s (.patch c) r t) {d : StoredDocument} (hfound : s.documents.find? c.key = some d) :
    ∃ modified body, (applyAll c.key c.patches).on d.body = (.ok modified, body) ∧
      ((modified = false ∧ r = StoredDocument.patchResult { d with body := body } .notModified ∧
          t = s.file c.key { d with body := body }) ∨
        (modified = true ∧
          r = StoredDocument.patchResult { d with body := body, stamp := s.supply.next } .patched ∧
          t = s.advance.file c.key { d with body := body, stamp := s.supply.next })) := by
  cases h with
  | missing hfind => cases hfind.symm.trans hfound
  | @idle _ _ body hfind _ hall =>
    cases hfind.symm.trans hfound
    exact ⟨false, body, hall, Or.inl ⟨rfl, rfl, rfl⟩⟩
  | @patched _ _ body hfind _ hall =>
    cases hfind.symm.trans hfound
    exact ⟨true, body, hall, Or.inr ⟨rfl, rfl, rfl⟩⟩

/-- **Reports of changes are exact.**  A chain that succeeds says that it modified the document just
when the document is another one than before.  Chains that succeed one after the other say so just
when some chain of them changed what it was applied to; if they do not, the last document is the
same as the first.  A patch of a stored document that succeeds goes by what its chains say: if they
modified nothing the document keeps its etag and its time of modification, and otherwise it gets the
stamp that is drawn next. -/
theorem modified_iff_changed :
    (∀ (key : String) (node : PatchNode) (d after : Members) (modified : Bool),
      (node.apply key).on d = (.ok modified, after) →
        (modified = true ↔ (Json.object d == Json.object after) = false)) ∧
    (∀ (key : String) (nodes : List PatchNode) (d after : Members) (modified : Bool),
      (applyAll key nodes).on d = (.ok modified, after) →
        (modified = true ↔ ∃ node t, AppliedTo key nodes d node t ∧ node.Changes key t) ∧
        (modified = false → (Json.object d == Json.object after) = true)) ∧
    ∀ (s t : MemoryStore) (c : PatchCommand) (d : StoredDocument) (r : BatchResult),
      s.documents.find? c.key = some d → (perform (.patch c)).on s = (.ok r, t) →
        ∃ modified body, (applyAll c.key c.patches).on d.body = (.ok modified, body) ∧
          (modified = false →
            (Json.object d.body == Json.object body) = true ∧
            r.patchOutcome = some .notModified ∧ r.etag = some d.stamp.etag ∧
            t = s.file c.key { d with body := body }) ∧
          (modified = true →
            r.patchOutcome = some .patched ∧ r.etag = some s.supply.next.etag ∧
            t = s.advance.file c.key { d with body := body, stamp := s.supply.next }) := by
  refine ⟨?_, ?_, ?_⟩
  · intro key node d after modified h
    have hexact : (Json.object d == Json.object after) = !modified := sameMembers_eq_not_modified h
    simp [hexact]
  · intro key nodes d after modified h
    refine ⟨modified_eq_true_iff h, ?_⟩
    rintro rfl
    exact sameMembers_of_on_applyAll h
  · intro s t c d r hfound h
    obtain ⟨modified, body, hall, hcases⟩ := (on_perform_eq_ok_iff.mp h).patch_cases hfound
    refine ⟨modified, body, hall, ?_⟩
    rcases hcases with ⟨rfl, rfl, rfl⟩ | ⟨rfl, rfl, rfl⟩
    · exact ⟨fun _ => ⟨sameMembers_of_on_applyAll hall, rfl, rfl, rfl⟩, fun h => by cases h⟩
    · exact ⟨fun h => (by cases h), fun _ => ⟨rfl, rfl, rfl⟩⟩

/-- A document that nobody has viewed, stored in an empty store. -/
def drafted : MemoryStore :=
  let body : Members := [("title", .string "Draft"), ("views", .number (.float (.zero false)))]
  (MemoryStore.mk ∅ default).afterBatches [[.put ⟨"Posts/1", none, .object body, []⟩]]

/-- The title is set to another one and then back again. -/
def backAndForth : PatchCommand :=
  ⟨"posts/1", none, [.ofPath ⟨[], "title"⟩ (.set (.string "Final") none),
    .ofPath ⟨[], "title"⟩ (.set (.string "Draft") none)]⟩

/-- A title that is changed and changed back counts as a change: the document is the one that it
was, and has a new stamp. -/
theorem changed_back_and_forth :
    ∃ d r t, drafted.documents.find? backAndForth.key = some d ∧
      (perform (.patch backAndForth)).on drafted = (.ok r, t) ∧
      r.patchOutcome = some .patched ∧
      t = drafted.advance.file "posts/1" { d with stamp := drafted.supply.next } := by
  obtain ⟨d, hfound⟩ : ∃ d, drafted.documents.find? backAndForth.key = some d := ⟨_, rfl⟩
  obtain ⟨r, t, hrun⟩ : ∃ r t, (perform (.patch backAndForth)).on drafted = (.ok r, t) :=
    ⟨_, _, rfl⟩
  obtain ⟨modified, body, hall, -, hpatched⟩ :=
    modified_iff_changed.2.2 drafted t backAndForth d r hfound hrun
  cases hfound
  cases hall
  obtain ⟨houtcome, -, ht⟩ := hpatched rfl
  exact ⟨_, r, t, rfl, hrun, houtcome, ht⟩

/-! ## The same patch again -/

/-- A patch whose chains do nothing to the document that is there does nothing to the store. -/
theorem step_patch_of_idle {s : MemoryStore} {key : String} {nodes : List PatchNode}
    {d : StoredDocument} (hfound : s.documents.find? key = some d)
    (hidle : (applyAll key nodes).on d.body = (.ok false, d.body)) :
    Step s (.patch ⟨key, none, nodes⟩) (d.patchResult .notModified) s := by
  have hstep : Step s (.patch ⟨key, none, nodes⟩) (d.patchResult .notModified) (s.file key d) :=
    Step.idle hfound rfl hidle
  rwa [file_eq_self hfound] at hstep

/-- **A patch that is sent again does nothing.**  Take a document and a patch of it that is bound to
no version, and that sets and unsets fields, without asking for previous values, at paths none of
which leads through another or to it.  If the patch succeeds, then sent once more it succeeds with
the same key, etag and metadata, says that it modified nothing, and leaves the store as it is. -/
theorem idle_when_sent_again {s t : MemoryStore} {key : String} {d : StoredDocument}
    {updates : List (PropertyPath × PatchLeaf)} {results : List BatchResult}
    (hfound : s.documents.find? key = some d)
    (hupdates : ∀ u ∈ updates, u.2.Unconditional)
    (hindependent : updates.Pairwise fun a b => Independent a.1 b.1)
    (h : s.batch [.patch ⟨key, none, chainsOf updates⟩] = (.ok results, t)) :
    ∃ r, results = [r] ∧ t.batch [.patch ⟨key, none, chainsOf updates⟩] =
      (.ok [{ r with patchOutcome := some .notModified }], t) := by
  obtain ⟨r, u, rest, hstep, hnil, rfl⟩ := batch_cons_eq_ok_iff.mp h
  cases hnil
  refine ⟨r, rfl, batch_cons_eq_ok_iff.mpr ⟨_, _, [], ?_, rfl, rfl⟩⟩
  obtain ⟨modified, body, hall, hcases⟩ := hstep.patch_cases hfound
  have hidle : (applyAll key (chainsOf updates)).on body = (.ok false, body) :=
    on_applyAll_of_on_applyAll hupdates hindependent hall
  -- the document that the first patch left has this body, whether or not it got a new stamp
  rcases hcases with ⟨_, rfl, rfl⟩ | ⟨_, rfl, rfl⟩
  · exact step_patch_of_idle (d := { d with body := body }) (s.find?_file key _) hidle
  · exact step_patch_of_idle (d := { d with body := body, stamp := s.supply.next })
      (s.advance.find?_file key _) hidle

/-- An author is made for the sake of a field that is then unset, and the title is set. -/
def signingDraft : List (PropertyPath × PatchLeaf) :=
  [(⟨["author"], "born"⟩, .unset none), (⟨[], "title"⟩, .set (.string "Final") none)]

/-- The author that was made the first time is there the second time. -/
theorem idle_after_signing :
    ∃ r t, drafted.batch [.patch ⟨"posts/1", none, chainsOf signingDraft⟩] = (.ok [r], t) ∧
      r.patchOutcome = some .patched ∧
      t.batch [.patch ⟨"posts/1", none, chainsOf signingDraft⟩] =
        (.ok [{ r with patchOutcome := some .notModified }], t) := by
  obtain ⟨d, hfound⟩ : ∃ d, drafted.documents.find? "posts/1" = some d := ⟨_, rfl⟩
  obtain ⟨r, t, hrun, houtcome⟩ :
      ∃ r t, drafted.batch [.patch ⟨"posts/1", none, chainsOf signingDraft⟩] = (.ok [r], t) ∧
        r.patchOutcome = some .patched := ⟨_, _, rfl, rfl⟩
  have hupdates : ∀ u ∈ signingDraft, u.2.Unconditional :=
    List.forall_mem_cons.mpr ⟨.unset, List.forall_mem_singleton.mpr (.set _)⟩
  have hindependent : signingDraft.Pairwise fun a b => Independent a.1 b.1 := by
    unfold Independent
    decide
  obtain ⟨r', hr, hagain⟩ := idle_when_sent_again hfound hupdates hindependent hrun
  cases hr
  exact ⟨r, t, hrun, houtcome, hagain⟩

/-! ## What readers see -/

/-- The text of the body of a document. -/
def text? (s : MemoryStore) (key : String) : Option String := (s.document? key).map Json.render

/-- A patch that answers that it modified nothing has written a body, and nothing else. -/
theorem Step.body_of_notModified {s t : MemoryStore} {c : PatchCommand} {r : BatchResult}
    (h : Step s (.patch c) r t) {d : StoredDocument} (hfound : s.documents.find? c.key = some d)
    (hr : r.patchOutcome = some .notModified) :
    ∃ body, (applyAll c.key c.patches).on d.body = (.ok false, body) ∧
      t = s.file c.key { d with body := body } := by
  obtain ⟨modified, body, hall, ⟨rfl, _, rfl⟩ | ⟨_, rfl, _⟩⟩ := h.patch_cases hfound
  · exact ⟨body, hall, rfl⟩
  · cases hr

/-- A document with another body is described as before. -/
theorem head_file_body {s : MemoryStore} {key : String} {d : StoredDocument}
    (hfound : s.documents.find? key = some d) (body : Members) (other : String) :
    (s.file key { d with body := body }).head other = s.head other := by
  by_cases hother : normalizeKey key = normalizeKey other
  · rw [← head_congr _ hother, ← head_congr s hother, head_file, head_of_find? hfound]
    rfl
  · exact congrArg (Option.map StoredDocument.descriptor) (get?_file_of_ne s hother _)

/-- Under the spellings of its key a document with another body is read with that body, and under
other keys nothing has changed. -/
theorem document?_file_body {s : MemoryStore} {key : String} {d : StoredDocument}
    (hfound : s.documents.find? key = some d) (body : Members) (other : String) :
    (s.document? other = some (.object d.body) ∧
      (s.file key { d with body := body }).document? other = some (.object body)) ∨
    (s.file key { d with body := body }).document? other = s.document? other := by
  by_cases hother : normalizeKey key = normalizeKey other
  · have hbefore : s.documents.find? other = some d := by
      rw [Documents.find?, ← hother]
      exact hfound
    have hafter : (s.file key { d with body := body }).documents.find? other =
        some { d with body := body } := by
      rw [Documents.find?, ← hother]
      exact s.find?_file key _
    exact Or.inl ⟨document?_of_find? hbefore, document?_of_find? hafter⟩
  · exact Or.inr (congrArg (Option.map fun d : StoredDocument => Json.object d.body)
      (get?_file_of_ne s hother _))

/-- **What readers see after a patch that modified nothing.**  Take a patch of a document that
answers that it modified nothing.  Every document is described as before, with its etag and its time
of modification, and is the same up to the signs of zeros.  Its text is the same just when the
document is the very same.  That is so if no chain sets a value where the document, as it is then,
has the same value in another spelling; and a patch of one chain that does so changes the text. -/
theorem text_of_notModified {s t : MemoryStore} {c : PatchCommand} {d : StoredDocument}
    {r : BatchResult} (hfound : s.documents.find? c.key = some d)
    (h : (perform (.patch c)).on s = (.ok r, t)) (hr : r.patchOutcome = some .notModified) :
    (∀ key, t.head key = s.head key) ∧
    (∀ key, (t.document? key).map Json.unsigned = (s.document? key).map Json.unsigned) ∧
    (∀ key, t.text? key = s.text? key ↔ t.document? key = s.document? key) ∧
    ((∀ node u, AppliedTo c.key c.patches d.body node u → ¬node.Rewrites u) →
      ∀ key, t.text? key = s.text? key) ∧
    ∀ node, c.patches = [node] → node.Rewrites d.body → t.text? c.key ≠ s.text? c.key := by
  obtain ⟨body, hall, rfl⟩ := (on_perform_eq_ok_iff.mp h).body_of_notModified hfound hr
  have hsame : Json.same (.object d.body) (.object body) = true := sameMembers_of_on_applyAll hall
  have htext : ∀ key, (s.file c.key { d with body := body }).text? key = s.text? key ↔
      (s.file c.key { d with body := body }).document? key = s.document? key := by
    intro key
    rw [text?, text?]
    rcases document?_file_body hfound body key with ⟨hbefore, hafter⟩ | hother
    · simp only [hbefore, hafter, Option.map_some, Option.some.injEq]
      exact Json.render_eq_iff_of_same (Json.same_symm _ _ hsame)
    · simp [hother]
  refine ⟨head_file_body hfound body, ?_, htext, ?_, ?_⟩
  · intro key
    rcases document?_file_body hfound body key with ⟨hbefore, hafter⟩ | hother
    · simp [hbefore, hafter, (Json.same_iff_unsigned_eq _ _).mp hsame]
    · rw [hother]
  · intro hnot key
    obtain rfl := eq_self_of_not_rewrites hall hnot
    rw [file_eq_self hfound]
  · intro node hpatches hrewrites heq
    rw [hpatches] at hall
    obtain ⟨modified, changed, more, hnode, hnil, hflags⟩ := on_applyAll_cons_eq_ok hall
    cases hnil
    obtain rfl : modified = false := by simpa using hflags.symm
    have hbody := (htext c.key).mp heq
    rw [document?_of_find? (s.find?_file c.key _), document?_of_find? hfound] at hbody
    cases hbody
    exact (eq_self_iff_not_rewrites hnode).mp rfl hrewrites

/-- The views are set to the other zero. -/
def otherZero : PatchCommand :=
  ⟨"posts/1", none, [.ofPath ⟨[], "views"⟩ (.set (.number (.float (.zero true))) none)]⟩

/-- The other zero is written, although the document keeps its etag. -/
theorem text_of_otherZero :
    ∃ r t, (perform (.patch otherZero)).on drafted = (.ok r, t) ∧
      r.patchOutcome = some .notModified ∧ t.head "posts/1" = drafted.head "posts/1" ∧
      t.text? "posts/1" ≠ drafted.text? "posts/1" := by
  obtain ⟨d, hfound⟩ : ∃ d, drafted.documents.find? otherZero.key = some d := ⟨_, rfl⟩
  obtain ⟨r, t, hrun, houtcome⟩ : ∃ r t, (perform (.patch otherZero)).on drafted = (.ok r, t) ∧
      r.patchOutcome = some .notModified := ⟨_, _, rfl, rfl⟩
  obtain ⟨hhead, -, -, -, hchanged⟩ := text_of_notModified hfound hrun houtcome
  refine ⟨r, t, hrun, houtcome, hhead _, hchanged _ rfl (rewrites_leaf_iff.mpr ⟨_, _, rfl, ?_⟩)⟩
  cases hfound
  intro hviews
  have hzeros : Decimal.Binary64.zero false = .zero true :=
    Number.float.inj (Json.number.inj (Option.some.inj hviews))
  cases hzeros

/-- A patch that answers that it modified nothing may change the text of the document. -/
theorem not_text_of_notModified :
    ¬∀ (s t : MemoryStore) (c : PatchCommand) (d : StoredDocument) (r : BatchResult),
      s.documents.find? c.key = some d → (perform (.patch c)).on s = (.ok r, t) →
        r.patchOutcome = some .notModified → t.text? c.key = s.text? c.key := by
  intro halways
  have htext := halways drafted _ otherZero _ _ rfl rfl rfl
  revert htext
  decide +kernel

end PatchStore.MemoryStore
