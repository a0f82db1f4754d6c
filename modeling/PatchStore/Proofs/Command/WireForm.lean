import PatchStore.Command.Basic
import PatchStore.Proofs.Patch.ReadBack

/-!
# The wire form loses nothing

On the wire a command is one object.  Members that carry nothing are left out, the chain after a node
stands in an array of one item, and the method stands beside the members that it gives a meaning to.
Still nothing is lost: every part of a chain and of a command stands under a name of its own.

Values are equal in two ways, outright and by `same`, and the wire form keeps both.  The second
follows from the first, since dropping the signs of zeros commutes with the wire form.

* `Json.ofMembers_inj` — an object tells the entries that it is made of.
* `PatchNode.Tells`, `PatchNode.tells_toJson` — what the object for a chain has under each name.
* `PatchNode.toJson_inj`, `Command.toJson_inj` — equal wire forms come from equal chains and commands.
* `Command.same`, `Command.unsigned_toJson` — commands whose values are the same.
* `wire_form_loses_nothing` — both equalities, for commands and for chains.
-/

namespace PatchStore

/-! ## Objects and the entries that they are made of -/

namespace Keyed

variable {α β : Type}

theorem get?_map (f : α → β) (m : Keyed α) (key : String) :
    get? (m.map fun e => (e.1, f e.2)) key = (get? m key).map f := by
  induction m with
  | nil => rfl
  | cons e rest ih =>
    rw [List.map_cons, get?_cons, get?_cons, ih]
    split <;> rfl

theorem contains_map (f : α → β) (m : Keyed α) (key : String) :
    contains (m.map fun e => (e.1, f e.2)) key = contains m key := by
  rw [contains, contains, get?_map, Option.isSome_map]

/-- Where a value goes does not depend on the values. -/
theorem insert_map (f : α → β) (m : Keyed α) (key : String) (value : α) :
    insert (m.map fun e => (e.1, f e.2)) key (f value) =
      (insert m key value).map fun e => (e.1, f e.2) := by
  induction m with
  | nil => rfl
  | cons e rest ih =>
    rcases e with ⟨k, v⟩
    rw [List.map_cons, insert, insert, contains_map, ih]
    split
    · rfl
    · split <;> rfl

theorem ofList_map (f : α → β) (entries : List (String × α)) :
    ofList (entries.map fun e => (e.1, f e.2)) = (ofList entries).map fun e => (e.1, f e.2) := by
  suffices h : ∀ m : Keyed α, insertAll (m.map fun e => (e.1, f e.2))
      (entries.map fun e => (e.1, f e.2)) = (insertAll m entries).map fun e => (e.1, f e.2) from
    h []
  induction entries with
  | nil => exact fun m => rfl
  | cons e entries ih =>
    intro m
    show insertAll (insert (m.map fun e => (e.1, f e.2)) e.1 (f e.2)) _ = _
    rw [insert_map, ih]
    rfl

end Keyed

/-- Entries with the same names in one order are equal if none has an entry that the other lacks. -/
theorem eq_of_forall_mem_iff {α : Type} {es fs : List (String × α)}
    (hnames : es.map Prod.fst = fs.map Prod.fst) (hnodup : (es.map Prod.fst).Nodup)
    (h : ∀ e, e ∈ es ↔ e ∈ fs) : es = fs := by
  induction es generalizing fs with
  | nil =>
    cases fs with
    | nil => rfl
    | cons f fs => cases hnames
  | cons e es ih =>
    cases fs with
    | nil => cases hnames
    | cons f fs =>
      obtain ⟨hfirst, hrest⟩ := List.cons.inj hnames
      obtain ⟨hnew, hnodup⟩ := List.nodup_cons.mp hnodup
      have hlater : ∀ g ∈ fs, g.1 ≠ e.1 := by
        intro g hg heq
        exact hnew (heq ▸ hrest ▸ List.mem_map_of_mem hg)
      have hearlier : ∀ g ∈ es, g.1 ≠ e.1 := by
        intro g hg heq
        exact hnew (heq ▸ List.mem_map_of_mem hg)
      obtain rfl : e = f := by
        rcases List.mem_cons.mp ((h e).mp List.mem_cons_self) with heq | hmem
        · exact heq
        · exact absurd rfl (hlater e hmem)
      refine congrArg (e :: ·) (ih hrest hnodup fun g => ⟨fun hg => ?_, fun hg => ?_⟩)
      · rcases List.mem_cons.mp ((h g).mp (List.mem_cons_of_mem _ hg)) with rfl | hmem
        · exact absurd rfl (hearlier g hg)
        · exact hmem
      · rcases List.mem_cons.mp ((h g).mpr (List.mem_cons_of_mem _ hg)) with rfl | hmem
        · exact absurd rfl (hlater g hg)
        · exact hmem

namespace Json

theorem ofMembers_eq_iff {es fs : List (String × Json)} :
    ofMembers es = ofMembers fs ↔ Keyed.ofList es = Keyed.ofList fs := by
  rw [ofMembers, ofMembers, object.injEq]

/-- An object tells the entries that it is made of. -/
theorem ofMembers_inj {es fs : List (String × Json)} (hnames : es.map Prod.fst = fs.map Prod.fst)
    (hnodup : (es.map Prod.fst).Nodup) : ofMembers es = ofMembers fs ↔ es = fs := by
  constructor
  · intro h
    rw [ofMembers_eq_iff] at h
    refine eq_of_forall_mem_iff hnames hnodup fun e => ?_
    rw [← Keyed.get?_ofList_eq_some_iff hnodup, h,
      Keyed.get?_ofList_eq_some_iff (hnames ▸ hnodup)]
  · rintro rfl
    rfl

theorem unsignedMembers_eq_map (m : Members) :
    unsignedMembers m = m.map fun e => (e.1, e.2.unsigned) := by
  induction m with
  | nil => rfl
  | cons e rest ih => rw [unsignedMembers, ih, List.map_cons]

theorem unsignedItems_eq_map (items : List Json) : unsignedItems items = items.map unsigned := by
  induction items with
  | nil => rfl
  | cons v rest ih => rw [unsignedItems, ih, List.map_cons]

theorem unsigned_ofMembers (es : List (String × Json)) :
    (ofMembers es).unsigned = ofMembers (es.map fun e => (e.1, e.2.unsigned)) := by
  rw [ofMembers, unsigned, unsignedMembers_eq_map, ← Keyed.ofList_map, ofMembers]

end Json

/-! ## Chains -/

theorem PatchKind.word_inj {k l : PatchKind} : k.word = l.word ↔ k = l := by
  cases k <;> cases l <;> simp [word]

namespace PatchNode

/-- The members tell each part of a chain's first node under a name of its own. -/
structure Tells (m : Members) (node : PatchNode) : Prop where
  kind : Keyed.get? m "Type" = some (.string node.kind.word)
  name : Keyed.get? m "Name" = some (.string node.name)
  value : Keyed.get? m "Value" = node.value?
  prevVal : Keyed.get? m "PrevVal" = node.prevVal?
  nested : Keyed.get? m "Nested" = node.nested?.map fun nested => .array [nested.toJson]

/-- The wire form of a chain tells its parts. -/
theorem tells_toJson (node : PatchNode) : ∃ m, node.toJson = .object m ∧ Tells m node := by
  cases node with
  | leaf n op =>
    refine ⟨_, rfl, ?_⟩
    cases hvalue : op.value? <;> cases hprev : op.prevVal? <;>
      constructor <;>
        simp [Keyed.ofList, Keyed.insertAll, Keyed.get?_insert, hvalue, hprev, PatchNode.kind,
          PatchNode.name, value?, prevVal?, nested?]
  | modify n nested =>
    refine ⟨_, rfl, ?_⟩
    constructor <;>
      simp [Keyed.ofList, Keyed.insertAll, Keyed.get?_insert, PatchNode.kind, PatchNode.name,
        value?, prevVal?, nested?]

/-- What is told of two chains at once is equal in both. -/
theorem Tells.parts_eq {m : Members} {p q : PatchNode} (hp : Tells m p) (hq : Tells m q) :
    p.kind = q.kind ∧ p.name = q.name ∧ p.value? = q.value? ∧ p.prevVal? = q.prevVal? ∧
      p.nested?.map toJson = q.nested?.map toJson := by
  have hkind := hp.kind.symm.trans hq.kind
  have hname := hp.name.symm.trans hq.name
  have hnested := hp.nested.symm.trans hq.nested
  rw [Option.some.injEq, Json.string.injEq] at hkind hname
  refine ⟨PatchKind.word_inj.mp hkind, hname, hp.value.symm.trans hq.value,
    hp.prevVal.symm.trans hq.prevVal, ?_⟩
  cases hpn : p.nested? <;> cases hqn : q.nested? <;> simp_all

/-- Chains with equal wire forms are equal. -/
theorem toJson_inj {p q : PatchNode} : p.toJson = q.toJson ↔ p = q := by
  constructor
  · intro h
    induction p generalizing q with
    | leaf n op =>
      obtain ⟨m, hm, hp⟩ := tells_toJson (leaf n op)
      obtain ⟨m', hm', hq⟩ := tells_toJson q
      obtain rfl : m = m' := Json.object.inj (hm.symm.trans (h.trans hm'))
      obtain ⟨hkind, hname, hvalue, hprev, hnested⟩ := hp.parts_eq hq
      cases q with
      | leaf n' op' =>
        obtain rfl : n = n' := hname
        exact congrArg (leaf n) (PatchLeaf.ext_of_parts hkind hvalue hprev)
      | modify n' nested' => cases hnested
    | modify n nested ih =>
      obtain ⟨m, hm, hp⟩ := tells_toJson (modify n nested)
      obtain ⟨m', hm', hq⟩ := tells_toJson q
      obtain rfl : m = m' := Json.object.inj (hm.symm.trans (h.trans hm'))
      obtain ⟨hkind, hname, hvalue, hprev, hnested⟩ := hp.parts_eq hq
      cases q with
      | leaf n' op' => cases hnested
      | modify n' nested' =>
        obtain rfl : n = n' := hname
        exact congrArg (modify n) (ih (Option.some.inj hnested))
  · rintro rfl
    rfl

/-- The signs of zeros may be dropped before or after a chain is written. -/
theorem unsigned_toJson (node : PatchNode) : node.toJson.unsigned = node.signless.toJson := by
  induction node with
  | leaf n op =>
    rw [toJson, Json.unsigned_ofMembers]
    cases op with
    | add v => rfl
    | set v p => cases p <;> rfl
    | unset p => cases p <;> rfl
  | modify n nested ih =>
    rw [toJson, Json.unsigned_ofMembers]
    show Json.ofMembers [("Type", _), ("Name", _), ("Nested", .array [nested.toJson.unsigned])] = _
    rw [ih]
    rfl

theorem same_toJson_iff {p q : PatchNode} :
    p.toJson.same q.toJson = true ↔ p.same q = true := by
  rw [Json.same_iff_unsigned_eq, unsigned_toJson, unsigned_toJson, toJson_inj,
    same_iff_signless_eq]

theorem isEqv_same_iff {ps qs : List PatchNode} :
    ps.isEqv qs same = true ↔ ps.map signless = qs.map signless := by
  induction ps generalizing qs with
  | nil => cases qs <;> simp
  | cons p ps ih =>
    cases qs with
    | nil => simp
    | cons q qs => simp [List.isEqv, same_iff_signless_eq, ih]

end PatchNode

/-! ## Commands -/

theorem Etag.toJson?_inj {e f : Option Etag} : Etag.toJson? e = Etag.toJson? f ↔ e = f := by
  rcases e with - | ⟨⟨e⟩⟩ <;> rcases f with - | ⟨⟨f⟩⟩ <;> simp [toJson?, Json.ofString?]

theorem Etag.unsigned_toJson? (e : Option Etag) : (Etag.toJson? e).unsigned = Etag.toJson? e := by
  cases e <;> rfl

theorem Method.word_inj {m n : Method} : m.word = n.word ↔ m = n := by
  constructor
  · intro h
    have hread := congrArg ofWord? h
    rw [ofWord?_word, ofWord?_word] at hread
    exact Option.some.inj hread
  · rintro rfl
    rfl

namespace Command

/-- The commands are of one kind, for one key and one version, and all that they carry is the
same. -/
def same : Command → Command → Bool
  | put c, put d =>
    c.key == d.key && c.etag == d.etag && c.document.same d.document &&
      Json.sameMembers c.metadata d.metadata
  | patch c, patch d =>
    c.key == d.key && c.etag == d.etag && c.patches.isEqv d.patches PatchNode.same
  | script c, script d =>
    c.key == d.key && c.etag == d.etag && c.script == d.script &&
      Json.sameMembers c.values d.values
  | delete c, delete d => c.key == d.key && c.etag == d.etag
  | _, _ => false

/-- The command with its values without the signs of their zeros. -/
def signless : Command → Command
  | put c =>
    put { c with document := c.document.unsigned, metadata := Json.unsignedMembers c.metadata }
  | patch c => patch { c with patches := c.patches.map PatchNode.signless }
  | script c => script { c with values := Json.unsignedMembers c.values }
  | delete c => delete c

theorem same_iff_signless_eq {c d : Command} : c.same d = true ↔ c.signless = d.signless := by
  cases c with
  | put c =>
    cases d with
    | put d =>
      simp [same, signless, Json.same_iff_unsigned_eq, Json.sameMembers_iff_unsignedMembers_eq,
        and_assoc]
    | _ => simp [same, signless]
  | patch c =>
    cases d with
    | patch d => simp [same, signless, PatchNode.isEqv_same_iff, and_assoc]
    | _ => simp [same, signless]
  | script c =>
    cases d with
    | script d => simp [same, signless, Json.sameMembers_iff_unsignedMembers_eq, and_assoc]
    | _ => simp [same, signless]
  | delete c =>
    cases d with
    | delete d =>
      rcases c with ⟨key, etag⟩
      rcases d with ⟨key', etag'⟩
      simp [same, signless]
    | _ => simp [same, signless]

/-- The object for a command tells its method. -/
theorem get?_toJson_method (c : Command) :
    ∃ m, c.toJson = .object m ∧ Keyed.get? m "Method" = some (.string c.method.word) := by
  refine ⟨_, rfl, ?_⟩
  cases c <;> simp [members, Keyed.ofList, Keyed.insertAll, Keyed.get?_insert]

theorem method_eq_of_toJson_eq {c d : Command} (h : c.toJson = d.toJson) : c.method = d.method := by
  obtain ⟨m, hm, hc⟩ := get?_toJson_method c
  obtain ⟨m', hm', hd⟩ := get?_toJson_method d
  obtain rfl : m = m' := Json.object.inj (hm.symm.trans (h.trans hm'))
  have hword := hc.symm.trans hd
  rw [Option.some.injEq, Json.string.injEq] at hword
  exact Method.word_inj.mp hword

/-- The names of the members beside the method. -/
def memberNames : Method → List String
  | .put => ["Key", "Etag", "Document", "Metadata"]
  | .patch => ["Key", "Etag", "Patches"]
  | .eval => ["Key", "Etag", "Patch"]
  | .delete => ["Key", "Etag"]

theorem map_fst_members (c : Command) : c.members.map Prod.fst = memberNames c.method := by
  cases c <;> rfl

theorem nodup_memberNames (m : Method) : ("Method" :: memberNames m).Nodup := by
  cases m <;> decide

/-- The object for a command tells all its members. -/
theorem members_eq_of_toJson_eq {c d : Command} (h : c.toJson = d.toJson) :
    c.members = d.members := by
  have hnames : (("Method", Json.string c.method.word) :: c.members).map Prod.fst =
      "Method" :: memberNames c.method := congrArg ("Method" :: ·) (map_fst_members c)
  have hnames' : (("Method", Json.string d.method.word) :: d.members).map Prod.fst =
      "Method" :: memberNames c.method := by
    rw [method_eq_of_toJson_eq h]
    exact congrArg ("Method" :: ·) (map_fst_members d)
  have hnodup : ((("Method", Json.string c.method.word) :: c.members).map Prod.fst).Nodup :=
    hnames ▸ nodup_memberNames c.method
  exact (List.cons.inj ((Json.ofMembers_inj (hnames.trans hnames'.symm) hnodup).mp h)).2

/-- The request of a scripted patch tells the script and its values. -/
theorem request_inj {script script' : String} {values values' : Members} :
    Json.ofMembers [("Script", .string script), ("Values", .object values)] =
      Json.ofMembers [("Script", .string script'), ("Values", .object values')] ↔
    script = script' ∧ values = values' := by
  have hnodup : ["Script", "Values"].Nodup := by decide
  have hinj : Json.ofMembers [("Script", .string script), ("Values", .object values)] =
      Json.ofMembers [("Script", .string script'), ("Values", .object values')] ↔ _ :=
    Json.ofMembers_inj rfl hnodup
  rw [hinj]
  simp

/-- Commands with equal wire forms are equal. -/
theorem toJson_inj {c d : Command} : c.toJson = d.toJson ↔ c = d := by
  constructor
  · intro h
    have hmethod := method_eq_of_toJson_eq h
    have hmembers := members_eq_of_toJson_eq h
    cases c with
    | put c =>
      cases d with
      | put d =>
        rcases c with ⟨key, etag, document, metadata⟩
        rcases d with ⟨key', etag', document', metadata'⟩
        simpa [members, Etag.toJson?_inj] using hmembers
      | _ => cases hmethod
    | patch c =>
      cases d with
      | patch d =>
        rcases c with ⟨key, etag, patches⟩
        rcases d with ⟨key', etag', patches'⟩
        have hpatches : patches.map PatchNode.toJson = patches'.map PatchNode.toJson ↔
            patches = patches' :=
          List.map_inj_right fun p q => PatchNode.toJson_inj.mp
        simpa [members, Etag.toJson?_inj, hpatches] using hmembers
      | _ => cases hmethod
    | script c =>
      cases d with
      | script d =>
        rcases c with ⟨key, etag, script, values⟩
        rcases d with ⟨key', etag', script', values'⟩
        simpa [members, Etag.toJson?_inj, request_inj] using hmembers
      | _ => cases hmethod
    | delete c =>
      cases d with
      | delete d =>
        rcases c with ⟨key, etag⟩
        rcases d with ⟨key', etag'⟩
        simpa [members, Etag.toJson?_inj] using hmembers
      | _ => cases hmethod
  · rintro rfl
    rfl

/-- The signs of zeros may be dropped before or after a command is written. -/
theorem unsigned_toJson (c : Command) : c.toJson.unsigned = c.signless.toJson := by
  rw [toJson, Json.unsigned_ofMembers]
  cases c with
  | put c => simp [signless, toJson, members, method, Json.unsigned, Etag.unsigned_toJson?]
  | patch c =>
    simp [signless, toJson, members, method, Json.unsigned, Etag.unsigned_toJson?,
      Json.unsignedItems_eq_map, PatchNode.unsigned_toJson, Function.comp_def]
  | script c =>
    simp [signless, toJson, members, method, Json.unsigned, Etag.unsigned_toJson?,
      Json.unsigned_ofMembers]
  | delete c => simp [signless, toJson, members, method, Json.unsigned, Etag.unsigned_toJson?]

end Command

/-- **The wire form loses nothing.**  Commands whose wire forms are equal are equal, in kind and in
every part; and if the wire forms are the same as values, then so are all values of the commands, the
rest being equal.  It is so for each chain of a patch, too: one that asks for no previous value is
not written as one that asks for `null`. -/
theorem wire_form_loses_nothing :
    (∀ c d : Command, (c.toJson = d.toJson ↔ c = d) ∧
      (c.toJson.same d.toJson = true ↔ c.same d = true)) ∧
    (∀ p q : PatchNode, (p.toJson = q.toJson ↔ p = q) ∧
      (p.toJson.same q.toJson = true ↔ p.same q = true)) ∧
    ∀ (n : String) (v : Json), (PatchNode.leaf n (.set v none)).toJson.same
      (PatchNode.leaf n (.set v (some .null))).toJson = false := by
  refine ⟨fun c d => ⟨Command.toJson_inj, ?_⟩,
    fun p q => ⟨PatchNode.toJson_inj, PatchNode.same_toJson_iff⟩, fun n v => ?_⟩
  · rw [Json.same_iff_unsigned_eq, Command.unsigned_toJson, Command.unsigned_toJson,
      Command.toJson_inj, Command.same_iff_signless_eq]
  · rw [← Bool.not_eq_true, PatchNode.same_toJson_iff]
    simp [PatchNode.same, PatchLeaf.same, Json.sameOptional]

end PatchStore
