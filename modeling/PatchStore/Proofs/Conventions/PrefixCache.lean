import Mathlib.Data.List.Basic
import PatchStore.Conventions.Basic

/-!
# The cache of key prefixes cannot be noticed

Conventions that are cloned from one another share a cache of key prefixes, and go their own ways in
all other respects.  A prefix that one of them has put into the cache is answered by the others, so
they must all mean the same by it.  They do, as a new hook always comes with a new cache: the handles
on a cache have one transform, and what is kept there is what that transform makes.

The handles are followed through any calls, beside naming rules that keep nothing and make every
prefix anew.

* `HandleCall` — what can be asked of handles, one of which is named in each call.
* `Handles.carryOut`, `NamingRules.carryOut` — what handles answer, with caches and without.
* `Handles.Sound` — the invariant of handles and their caches.
* `Sound.carryOut` — one call keeps it, and is answered alike.
* `answers_eq_withoutCache` — so are any calls in any order.
-/

namespace PatchStore

/-! ## Naming without a cache -/

/-- What conventions say of names when nothing is kept from call to call. -/
structure NamingRules where
  serializer : Serializer := {}
  failover : Failover := .failImmediately
  separator : String := "/"
  transform : String → String := keyPrefix

namespace NamingRules

/-- The key prefix of a type: its tag name, transformed. -/
def documentKeyPrefix (n : NamingRules) (t : DocumentKind) : String :=
  n.transform (Conventions.tagName t)

/-- The key of the document of a type that has the given identity. -/
def generateDocumentKey (n : NamingRules) (t : DocumentKind) (identity : String) : String :=
  n.documentKeyPrefix t ++ n.separator ++ identity

end NamingRules

/-! ## Calls on handles -/

/-- A call on one of the handles that there are, which are numbered as they were made.  A call that
changes a setting changes the handle; to keep the old one as well, clone it first. -/
inductive HandleCall where
  | create
  | ofOptions (options : StoreOptions)
  | clone (handle : Nat)
  | withSerializer (handle : Nat) (serializer : Serializer)
  | withFailover (handle : Nat) (failover : Failover)
  | withSeparator (handle : Nat) (separator : String)
  | withHook (handle : Nat) (transform : String → String)
  | documentKeyPrefix (handle : Nat) (type : Nat)
  | generateDocumentKey (handle : Nat) (type : Nat) (identity : String)

/-- The answers to calls one after the other, and what they leave. -/
def answerAll {σ : Type} (carryOut : σ → HandleCall → Option String × σ) :
    σ → List HandleCall → List (Option String) × σ
  | s, [] => ([], s)
  | s, call :: calls =>
    let (answer, t) := carryOut s call
    let (answers, u) := answerAll carryOut t calls
    (answer :: answers, u)

/-- Handles in the order in which they were made, with the registry of their caches. -/
structure Handles where
  list : List Conventions := []
  registry : PrefixRegistry := {}

namespace Handles

/-- One handle more. -/
def add (h : Handles) (w : StateM PrefixRegistry Conventions) : Handles :=
  ⟨h.list ++ [(w.run h.registry).1], (w.run h.registry).2⟩

/-- The handles with one of them changed. -/
def change (h : Handles) (i : Nat) (f : Conventions → StateM PrefixRegistry Conventions) :
    Handles :=
  match h.list[i]? with
  | some c => ⟨h.list.set i ((f c).run h.registry).1, ((f c).run h.registry).2⟩
  | none => h

/-- The answer of a handle, and the handles after it. -/
def ask (h : Handles) (i : Nat) (f : Conventions → StateM PrefixRegistry String) :
    Option String × Handles :=
  match h.list[i]? with
  | some c => (some ((f c).run h.registry).1, ⟨h.list, ((f c).run h.registry).2⟩)
  | none => (none, h)

/-- What a call answers, if anything, and leaves.  Types are told apart by numbers. -/
def carryOut (kinds : Nat → DocumentKind) (h : Handles) : HandleCall → Option String × Handles
  | .create => (none, h.add Conventions.create)
  | .ofOptions o => (none, h.add (Conventions.ofOptions o))
  | .clone i => (none, { h with list := h.list ++ h.list[i]?.toList })
  | .withSerializer i s => (none, h.change i fun c => return c.withSerializer s)
  | .withFailover i b => (none, h.change i fun c => return c.withFailover b)
  | .withSeparator i t => (none, h.change i fun c => return c.withSeparator t)
  | .withHook i f => (none, h.change i fun c => c.withHook (.ofFunction f))
  | .documentKeyPrefix i t => h.ask i fun c => c.documentKeyPrefix ⟨t, kinds t⟩
  | .generateDocumentKey i t identity =>
    h.ask i fun c => c.generateDocumentKey ⟨t, kinds t⟩ identity

end Handles

/-- What a call answers and leaves when there is no cache. -/
def NamingRules.carryOut (kinds : Nat → DocumentKind) (ns : List NamingRules) :
    HandleCall → Option String × List NamingRules
  | .create => (none, ns ++ [{}])
  | .ofOptions o => (none, ns ++ [{ failover := o.failover }])
  | .clone i => (none, ns ++ ns[i]?.toList)
  | .withSerializer i s => (none, ns.modify i fun n => { n with serializer := s })
  | .withFailover i b => (none, ns.modify i fun n => { n with failover := b })
  | .withSeparator i t => (none, ns.modify i fun n => { n with separator := t })
  | .withHook i f => (none, ns.modify i fun n => { n with transform := f })
  | .documentKeyPrefix i t => (ns[i]?.map fun n => n.documentKeyPrefix (kinds t), ns)
  | .generateDocumentKey i t identity =>
    (ns[i]?.map fun n => n.generateDocumentKey (kinds t) identity, ns)

/-! ## What is in the caches -/

namespace PrefixRegistry

/-- A new cache has no entries, and the others keep theirs. -/
theorem entries_allocate (r : PrefixRegistry) (cache : Nat) :
    r.allocate.2.entries cache = r.entries cache := by
  show ((r.caches ++ [[]])[cache]?).getD [] = (r.caches[cache]?).getD []
  by_cases hold : cache < r.caches.length
  · rw [List.getElem?_append_left hold]
  · rw [List.getElem?_append_right (Nat.le_of_not_lt hold),
      List.getElem?_eq_none (Nat.le_of_not_lt hold)]
    rcases cache - r.caches.length with _ | n <;> rfl

/-- What is kept in a cache is found there, and nowhere else. -/
theorem mem_entries_remember {r : PrefixRegistry} {cache type other : Nat} {value : String}
    {e : Nat × String} (h : e ∈ (r.remember cache type value).entries other) :
    (cache = other ∧ e = (type, value)) ∨ e ∈ r.entries other := by
  have h : e ∈ ((r.caches.modify cache fun entries => (type, value) :: entries)[other]?).getD [] :=
    h
  rw [List.getElem?_modify] at h
  show _ ∨ e ∈ (r.caches[other]?).getD []
  rcases there : r.caches[other]? with _ | entries
  · rw [there] at h
    exact .inr h
  · rw [there] at h
    by_cases this : cache = other
    · have h : e ∈ (type, value) :: entries := by simpa [this] using h
      rcases List.mem_cons.mp h with new | old
      · exact .inl ⟨this, new⟩
      · exact .inr old
    · exact .inr (by simpa [this] using h)

/-- Keeping a prefix makes no cache. -/
@[simp]
theorem length_caches_remember (r : PrefixRegistry) (cache type : Nat) (value : String) :
    (r.remember cache type value).caches.length = r.caches.length :=
  List.length_modify ..

end PrefixRegistry

/-! ## What handles and their caches keep to -/

namespace Conventions

/-- What the hook makes of a tag name when it has not been called. -/
def transform (c : Conventions) (name : String) : String := ((c.hook name).run 0).1

/-- The rules that the settings of conventions amount to. -/
def rules (c : Conventions) : NamingRules :=
  ⟨c.serializer, c.failover, c.separator, c.transform⟩

variable {c : Conventions} {t : DocumentType} {r : PrefixRegistry}

/-- A prefix that is in the cache is the answer. -/
theorem run_documentKeyPrefix_of_kept {value : String}
    (found : (r.entries c.cache).lookup t.number = some value) :
    (c.documentKeyPrefix t).run r = (value, r) := by
  rw [documentKeyPrefix, StateT.run_bind, StateT.run_get, pure_bind, found]
  rfl

/-- A prefix that is not in the cache is made and kept there. -/
theorem run_documentKeyPrefix_of_missing (missing : (r.entries c.cache).lookup t.number = none)
    (plain : c.hook = .ofFunction c.transform) :
    (c.documentKeyPrefix t).run r = (c.transform (tagName t.kind),
      r.remember c.cache t.number (c.transform (tagName t.kind))) := by
  have made : (c.registerPrefix t).run r = (c.transform (tagName t.kind),
      r.remember c.cache t.number (c.transform (tagName t.kind))) := by
    unfold registerPrefix
    rw [plain]
    rfl
  rw [documentKeyPrefix, StateT.run_bind, StateT.run_get, pure_bind, missing]
  exact made

end Conventions

/-- Handles whose caches hold what the transforms make: a transform is a function of the tag name,
and handles on one cache have the same. -/
structure Handles.Sound (kinds : Nat → DocumentKind) (h : Handles) : Prop where
  plain : ∀ c ∈ h.list, c.hook = PrefixHook.ofFunction c.transform
  allocated : ∀ c ∈ h.list, c.cache < h.registry.caches.length
  shared : ∀ c ∈ h.list, ∀ d ∈ h.list, c.cache = d.cache → c.transform = d.transform
  kept : ∀ c ∈ h.list, ∀ e ∈ h.registry.entries c.cache,
    e.2 = c.transform (Conventions.tagName (kinds e.1))

namespace Handles.Sound

variable {kinds : Nat → DocumentKind} {h : Handles}

/-- There are no handles at first. -/
theorem empty (kinds : Nat → DocumentKind) : Handles.Sound kinds {} where
  plain _ hc := absurd hc List.not_mem_nil
  allocated _ hc := absurd hc List.not_mem_nil
  shared _ hc := absurd hc List.not_mem_nil
  kept _ hc := absurd hc List.not_mem_nil

/-- Handles may be joined by others that have the hooks and the caches of old ones. -/
theorem of_alike (sound : h.Sound kinds) {list : List Conventions}
    (alike : ∀ c ∈ list, ∃ d ∈ h.list, c.hook = d.hook ∧ c.cache = d.cache) :
    Handles.Sound kinds ⟨list, h.registry⟩ := by
  have alike : ∀ c ∈ list, ∃ d ∈ h.list,
      c.hook = d.hook ∧ c.cache = d.cache ∧ c.transform = d.transform := by
    intro c hc
    obtain ⟨d, hd, hook, cache⟩ := alike c hc
    exact ⟨d, hd, hook, cache, by unfold Conventions.transform; rw [hook]⟩
  constructor
  · intro c hc
    obtain ⟨d, hd, hook, -, transform⟩ := alike c hc
    rw [hook, transform, sound.plain d hd]
  · intro c hc
    obtain ⟨d, hd, -, cache, -⟩ := alike c hc
    exact cache ▸ sound.allocated d hd
  · intro c hc c' hc' same
    obtain ⟨d, hd, -, cache, transform⟩ := alike c hc
    obtain ⟨d', hd', -, cache', transform'⟩ := alike c' hc'
    rw [transform, transform']
    exact sound.shared d hd d' hd' (by rw [← cache, ← cache', same])
  · intro c hc e he
    obtain ⟨d, hd, -, cache, transform⟩ := alike c hc
    rw [transform]
    exact sound.kept d hd e (cache ▸ he)

/-- A handle with a new cache may join them or take the place of one of them. -/
theorem of_fresh (sound : h.Sound kinds) {c : Conventions} {list : List Conventions}
    (plain : c.hook = .ofFunction c.transform) (fresh : c.cache = h.registry.allocate.1)
    (others : ∀ d ∈ list, d ∈ h.list ∨ d = c) :
    Handles.Sound kinds ⟨list, h.registry.allocate.2⟩ := by
  -- caches are numbered as they come, so no handle has the new one, and nothing is in it yet
  have fresh : c.cache = h.registry.caches.length := fresh
  have apart : ∀ d ∈ h.list, d.cache ≠ c.cache := fun d hd =>
    fresh ▸ Nat.ne_of_lt (sound.allocated d hd)
  have nothing : h.registry.entries c.cache = [] := by
    rw [fresh, PrefixRegistry.entries, List.getElem?_eq_none (Nat.le_refl _)]
    rfl
  constructor
  · intro d hd
    rcases others d hd with old | rfl
    · exact sound.plain d old
    · exact plain
  · intro d hd
    show d.cache < (h.registry.caches ++ [[]]).length
    rw [List.length_append]
    rcases others d hd with old | rfl
    · exact Nat.lt_succ_of_lt (sound.allocated d old)
    · exact fresh ▸ Nat.lt_succ_self _
  · intro d hd d' hd' same
    rcases others d hd with old | rfl <;> rcases others d' hd' with old' | rfl
    · exact sound.shared d old d' old' same
    · exact absurd same (apart d old)
    · exact absurd same.symm (apart d' old')
    · rfl
  · intro d hd e he
    rw [PrefixRegistry.entries_allocate] at he
    rcases others d hd with old | rfl
    · exact sound.kept d old e he
    · exact absurd (nothing ▸ he) List.not_mem_nil

/-- A handle may keep what its transform makes, which is what the others on its cache would keep. -/
theorem of_remember (sound : h.Sound kinds) {c : Conventions} (hc : c ∈ h.list) (t : Nat) :
    Handles.Sound kinds ⟨h.list,
      h.registry.remember c.cache t (c.transform (Conventions.tagName (kinds t)))⟩ where
  plain := sound.plain
  allocated d hd := by
    show d.cache < (h.registry.remember ..).caches.length
    rw [PrefixRegistry.length_caches_remember]
    exact sound.allocated d hd
  shared := sound.shared
  kept d hd e he := by
    rcases PrefixRegistry.mem_entries_remember he with ⟨same, rfl⟩ | old
    · rw [sound.shared c hc d hd same]
    · exact sound.kept d hd e old

/-- **A handle answers with its own transform of the tag name**, whether it finds the prefix in its
cache or makes it, and the caches hold what they should as before. -/
theorem run_documentKeyPrefix (sound : h.Sound kinds) {c : Conventions} (hc : c ∈ h.list)
    (t : Nat) :
    ((c.documentKeyPrefix ⟨t, kinds t⟩).run h.registry).1 = c.rules.documentKeyPrefix (kinds t) ∧
      Handles.Sound kinds ⟨h.list, ((c.documentKeyPrefix ⟨t, kinds t⟩).run h.registry).2⟩ := by
  rcases found : (h.registry.entries c.cache).lookup t with _ | value
  · rw [Conventions.run_documentKeyPrefix_of_missing found (sound.plain c hc)]
    exact ⟨rfl, sound.of_remember hc t⟩
  · obtain ⟨before, after, there, -⟩ := List.lookup_eq_some_iff.mp found
    have held : (t, value) ∈ h.registry.entries c.cache := there ▸ List.mem_append_cons_self
    rw [Conventions.run_documentKeyPrefix_of_kept found]
    exact ⟨sound.kept c hc (t, value) held, sound⟩

end Handles.Sound

/-! ## With caches as without -/

/-- The handles are sound after a step that answers and leaves what the rules say. -/
structure Handles.GoesBy (kinds : Nat → DocumentKind) (step : Option String × Handles)
    (rules : Option String × List NamingRules) : Prop where
  sound : step.2.Sound kinds
  answer : step.1 = rules.1
  left : step.2.list.map Conventions.rules = rules.2

namespace Handles.Sound

variable {kinds : Nat → DocumentKind} {h : Handles}

/-- A handle more, with a cache of its own and a transform, is a rule more. -/
theorem add (sound : h.Sound kinds) {w : StateM PrefixRegistry Conventions} {c : Conventions}
    (made : w.run h.registry = (c, h.registry.allocate.2))
    (plain : c.hook = .ofFunction c.transform) (fresh : c.cache = h.registry.allocate.1) :
    Handles.GoesBy kinds (none, h.add w) (none, h.list.map Conventions.rules ++ [c.rules]) := by
  have : h.add w = ⟨h.list ++ [c], h.registry.allocate.2⟩ := by
    unfold Handles.add
    rw [made]
  rw [this]
  refine ⟨sound.of_fresh plain fresh fun d hd => ?_, rfl, List.map_append⟩
  exact (List.mem_append.mp hd).imp_right List.mem_singleton.mp

/-- A handle that changes as its rules do leaves what they say, if it leaves sound handles. -/
theorem change (sound : h.Sound kinds) (i : Nat)
    {f : Conventions → StateM PrefixRegistry Conventions} {g : NamingRules → NamingRules}
    (left : ∀ c ∈ h.list, ((f c).run h.registry).1.rules = g c.rules ∧ Handles.Sound kinds
      ⟨h.list.set i ((f c).run h.registry).1, ((f c).run h.registry).2⟩) :
    Handles.GoesBy kinds (none, h.change i f)
      (none, (h.list.map Conventions.rules).modify i g) := by
  rw [List.modify_eq_set_getElem?, List.getElem?_map]
  unfold Handles.change
  rcases there : h.list[i]? with _ | c
  · exact ⟨sound, rfl, rfl⟩
  · obtain ⟨same, sound⟩ := left c (List.mem_of_getElem? there)
    refine ⟨sound, rfl, ?_⟩
    show (h.list.set i _).map Conventions.rules = (h.list.map Conventions.rules).set i (g c.rules)
    rw [List.map_set, same]

/-- A handle may change what has nothing to do with prefixes. -/
theorem change_setting (sound : h.Sound kinds) (i : Nat) {f : Conventions → Conventions}
    {g : NamingRules → NamingRules} (same : ∀ c, (f c).rules = g c.rules)
    (alike : ∀ c, (f c).hook = c.hook ∧ (f c).cache = c.cache) :
    Handles.GoesBy kinds (none, h.change i fun c => return f c)
      (none, (h.list.map Conventions.rules).modify i g) := by
  refine sound.change i fun c hc => ⟨same c, sound.of_alike fun d hd => ?_⟩
  rcases List.mem_or_eq_of_mem_set hd with old | rfl
  · exact ⟨d, old, rfl, rfl⟩
  · exact ⟨c, hc, alike c⟩

/-- A handle may have a new transform, which comes with a new cache. -/
theorem change_hook (sound : h.Sound kinds) (i : Nat) (f : String → String) :
    Handles.GoesBy kinds (none, h.change i fun c => c.withHook (.ofFunction f))
      (none, (h.list.map Conventions.rules).modify i fun n => { n with transform := f }) :=
  sound.change i fun _ _ => ⟨rfl, sound.of_fresh rfl rfl fun _ => List.mem_or_eq_of_mem_set⟩

/-- A handle is asked what it is sound to ask, and there is no answer if there is no such handle. -/
theorem ask (sound : h.Sound kinds) (i : Nat) {f : Conventions → StateM PrefixRegistry String}
    {g : NamingRules → String}
    (left : ∀ c ∈ h.list, ((f c).run h.registry).1 = g c.rules ∧
      Handles.Sound kinds ⟨h.list, ((f c).run h.registry).2⟩) :
    Handles.GoesBy kinds (h.ask i f)
      ((h.list.map Conventions.rules)[i]?.map g, h.list.map Conventions.rules) := by
  rw [List.getElem?_map]
  unfold Handles.ask
  rcases there : h.list[i]? with _ | c
  · exact ⟨sound, rfl, rfl⟩
  · obtain ⟨same, sound⟩ := left c (List.mem_of_getElem? there)
    exact ⟨sound, congrArg some same, rfl⟩

/-- **One call goes by the rules**, and leaves the handles sound. -/
theorem carryOut (sound : h.Sound kinds) (call : HandleCall) :
    Handles.GoesBy kinds (h.carryOut kinds call)
      (NamingRules.carryOut kinds (h.list.map Conventions.rules) call) := by
  cases call with
  | create => exact sound.add (c := { cache := h.registry.allocate.1 }) rfl rfl rfl
  | ofOptions o =>
    exact sound.add (c := { failover := o.failover, cache := h.registry.allocate.1 }) rfl rfl rfl
  | clone i =>
    refine ⟨sound.of_alike fun c hc => ?_, rfl, ?_⟩
    · rcases List.mem_append.mp hc with old | copy
      · exact ⟨c, old, rfl, rfl⟩
      · exact ⟨c, List.mem_of_getElem? (Option.mem_toList.mp copy), rfl, rfl⟩
    · show (h.list ++ h.list[i]?.toList).map Conventions.rules =
        h.list.map Conventions.rules ++ (h.list.map Conventions.rules)[i]?.toList
      rw [List.map_append, List.getElem?_map]
      cases h.list[i]? <;> rfl
  | withSerializer i s =>
    exact sound.change_setting i (fun _ => rfl) fun _ => ⟨rfl, rfl⟩
  | withFailover i b =>
    exact sound.change_setting i (fun _ => rfl) fun _ => ⟨rfl, rfl⟩
  | withSeparator i t =>
    exact sound.change_setting i (fun _ => rfl) fun _ => ⟨rfl, rfl⟩
  | withHook i f => exact sound.change_hook i f
  | documentKeyPrefix i t => exact sound.ask i fun _ hc => sound.run_documentKeyPrefix hc t
  | generateDocumentKey i t identity =>
    refine sound.ask i fun c hc => ?_
    obtain ⟨answer, left⟩ := sound.run_documentKeyPrefix hc t
    exact ⟨congrArg (· ++ c.separator ++ identity) answer, left⟩

/-- Any calls go by the rules. -/
theorem answerAll_eq (sound : h.Sound kinds) (calls : List HandleCall) :
    (answerAll (Handles.carryOut kinds) h calls).1 =
        (answerAll (NamingRules.carryOut kinds) (h.list.map Conventions.rules) calls).1 ∧
      (answerAll (Handles.carryOut kinds) h calls).2.list.map Conventions.rules =
        (answerAll (NamingRules.carryOut kinds) (h.list.map Conventions.rules) calls).2 := by
  induction calls generalizing h with
  | nil => exact ⟨rfl, rfl⟩
  | cons call calls ih =>
    have step := sound.carryOut call
    obtain ⟨answers, left⟩ := ih step.sound
    rw [step.left] at answers left
    exact ⟨congrArg₂ List.cons step.answer answers, left⟩

end Handles.Sound

/-- **The cache of key prefixes cannot be noticed.**  Whatever is asked of handles, and in whatever
order, they answer as naming rules do that keep nothing: a prefix is the handle's own transform of
the type's tag name, and a key is made of that prefix with the handle's own separator. -/
theorem answers_eq_withoutCache (kinds : Nat → DocumentKind) (calls : List HandleCall) :
    (answerAll (Handles.carryOut kinds) {} calls).1 =
        (answerAll (NamingRules.carryOut kinds) [] calls).1 ∧
      (answerAll (Handles.carryOut kinds) {} calls).2.list.map Conventions.rules =
        (answerAll (NamingRules.carryOut kinds) [] calls).2 :=
  (Handles.Sound.empty kinds).answerAll_eq calls

/-- Two handles on one cache have their own separators; one with a new hook has its own prefix. -/
example : (answerAll (Handles.carryOut fun _ => ⟨"Post", some "Posts"⟩) {}
    [.create, .clone 0, .withSeparator 1 ":", .generateDocumentKey 0 7 "1",
      .generateDocumentKey 1 7 "1", .withHook 1 id, .documentKeyPrefix 1 7]).1 =
    [none, none, none, some "posts/1", some "posts:1", none, some "Posts"] := by
  decide +kernel

end PatchStore
