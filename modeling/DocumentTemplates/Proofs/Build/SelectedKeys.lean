import DocumentTemplates.Proofs.Build.PhaseOrder

/-!
# Keys of a filtered build

Under a filter, a document has the keys that the filter selects, and those that unnamed nodes bring
in: what such a node computes is merged without regard to the filter. Nothing else leaves a key that
is not selected, however deep glue and extensions nest.
-/

namespace DocumentTemplates

namespace Contribution

def keys : Contribution → List String
  | .entry key _ => [key]
  | .merged other => OrderedMap.keys other

theorem mem_keys_addAll {doc : Document} {cs : List Contribution} {key : String}
    (h : key ∈ OrderedMap.keys (addAll doc cs)) :
    key ∈ OrderedMap.keys doc ∨ ∃ c ∈ cs, key ∈ c.keys := by
  induction cs generalizing doc with
  | nil => exact Or.inl h
  | cons c rest ih =>
    rcases ih h with h | ⟨d, hd, hkey⟩
    · cases c with
      | entry k v =>
        rcases OrderedMap.mem_keys_insert.1 h with rfl | h
        · exact Or.inr ⟨_, List.mem_cons_self, List.mem_singleton_self _⟩
        · exact Or.inl h
      | merged other =>
        rcases OrderedMap.mem_keys_merge.1 h with h | h
        · exact Or.inl h
        · exact Or.inr ⟨_, List.mem_cons_self, h⟩
    · exact Or.inr ⟨d, List.mem_cons_of_mem c hd, hkey⟩

end Contribution

namespace NilPolicy

theorem keys_mapEntries (leaf : Value → Value) (entries : List (String × Value)) :
    OrderedMap.keys (mapEntries leaf entries) = OrderedMap.keys entries := by
  induction entries with
  | nil => rfl
  | cons entry rest ih => exact congrArg (entry.1 :: ·) ih

theorem keys_dropNullsEntries (entries : List (String × Value)) :
    (OrderedMap.keys (dropNullsEntries entries)).Sublist (OrderedMap.keys entries) := by
  induction entries with
  | nil => exact .slnil
  | cons entry rest ih =>
    obtain ⟨key, v⟩ := entry
    cases v with
    | null => exact ih.cons key
    | _ => exact ih.cons_cons key

/-- A policy adds no keys and does not move any. -/
theorem keys_apply (policy : NilPolicy) (doc : Document) :
    (OrderedMap.keys (policy.apply doc)).Sublist (OrderedMap.keys doc) := by
  cases policy with
  | keep => exact .refl _
  | blankToEmpty => exact (keys_mapEntries _ _).symm ▸ .refl _
  | emptyToNil => exact (keys_mapEntries _ _).symm ▸ .refl _
  | dropNil => exact keys_dropNullsEntries doc

end NilPolicy

/-- Data that can be merged: neither blank nor a collection. -/
def Data.isMergeable (data : Data) : Bool :=
  !data.isBlank && !data.isCollection

/-- The nested build that a directive merges: that of a template for an object. -/
inductive Directive.Merges (S : Setting) (object : Data) : Directive → Template → Data → Prop
  | glue {selector : Selector} {guard : Guard} {body : Template} {data : Data}
    (hguard : guard.passes object S.scope = true)
    (hdata : (selector.resolve? object S.scope).filter Data.isMergeable = some data) :
    Merges S object (.glue selector guard body) body data
  | extend {base : String} {target : Option Selector} {guard : Guard} {extra b : Template}
    {data : Data} (hguard : guard.passes object S.scope = true)
    (hdata : (Strategy.extensionTarget S object target).filter Data.isMergeable = some data)
    (hload : S.load base = .ok b) :
    Merges S object (.extend base target guard extra) (b.extendedWith S.digestOf extra) data

/-- The plan by which an object is built at the top. -/
def BuildOptions.topPlan (options : BuildOptions) (S : Setting) (object : Data) : Plan :=
  let root := (options.root.getD S.config.root).resolve? (deriveName? none object none)
  ⟨object, root, Filter.scoped options.activeFilter root⟩

namespace Strategy

/-- Keys that unnamed nodes bring into a document: those of what they compute on the document that
is merged in front of them, in the template itself or in one that it merges. -/
inductive UnnamedNodeKey (S : Setting) (f : Option Filter) : Nat → Template → Data → String → Prop
  | node {levels : Nat} {t : Template} {object : Data} {before after : List Directive} {n : Node}
    {earlier : List Contribution} {other : Document} {key : String}
    (hsplit : t.inPhases = before ++ .node n :: after) (hname : n.name = none)
    (hearlier : inTurn S ((plain S).evaluate S levels) object f [] before = .ok earlier)
    (hother : n.contribution S object f (Contribution.addAll [] earlier) = .ok (some (.merged other)))
    (hkey : key ∈ OrderedMap.keys other) : UnnamedNodeKey S f (levels + 1) t object key
  | merged {levels : Nat} {t u : Template} {object data : Data} {d : Directive} {key : String}
    (hd : d ∈ t.directives) (hmerges : d.Merges S object u data)
    (hkey : UnnamedNodeKey S f levels u data key) : UnnamedNodeKey S f (levels + 1) t object key

variable {S : Setting} {e : Template → Data → Option Filter → Except BuildError Document}
  {object : Data} {f : Option Filter}

/-- A contribution has its own place in the turn. -/
theorem mem_inTurn {doc : Document} {ds : List Directive} {cs : List Contribution}
    (h : inTurn S e object f doc ds = .ok cs) {c : Contribution} (hc : c ∈ cs) :
    ∃ before d after earlier, ds = before ++ d :: after ∧
      inTurn S e object f doc before = .ok earlier ∧
      contributionOn S e object f (Contribution.addAll doc earlier) d = .ok (some c) := by
  induction ds generalizing doc cs with
  | nil =>
    obtain rfl := Except.ok.inj h
    cases hc
  | cons d rest ih =>
    obtain ⟨first, more, hfirst, hmore, rfl⟩ := inTurn_cons_eq_ok.1 h
    rcases List.mem_append.1 hc with hc | hc
    · obtain rfl := Option.mem_toList.1 hc
      exact ⟨[], d, rest, [], rfl, rfl, hfirst⟩
    · obtain ⟨before, d', after, earlier, rfl, hearlier, hd'⟩ := ih hmore hc
      refine ⟨d :: before, d', after, first.toList ++ earlier, rfl, ?_, ?_⟩
      · exact inTurn_cons_eq_ok.2 ⟨first, earlier, hfirst, hearlier, rfl⟩
      · rw [Contribution.addAll_append]
        exact hd'

theorem attribute_contribution {a : Attribute} {c : Contribution}
    (h : a.contribution S object f = .ok (some c)) :
    ∃ member, object.member? a.name = some member ∧
      c = .entry a.key (Filter.stored f a.key member.toValue) ∧ Filter.admits f a.key = true := by
  unfold Attribute.contribution at h
  split at h
  · rename_i hpass
    split at h
    · rename_i member hmember
      cases h
      exact ⟨member, hmember, rfl, (Bool.and_eq_true_iff.1 hpass).2⟩
    · split at h <;> cases h
  · cases h

theorem child_contribution {selector : Selector} {objectRoot : Option RootSetting} {guard : Guard}
    {body : Template} {c : Contribution}
    (h : (plain S).child S e object f selector objectRoot guard body = .ok (some c)) :
    ∃ data name v, selector.resolve? object S.scope = some data ∧
      deriveName? (some selector) data none = some name ∧ c = .entry name v ∧
      Filter.admits f name = true := by
  unfold child at h
  split at h
  · split at h
    · cases h
    · rename_i data hdata
      have hresolved := (Option.filter_eq_some_iff.1 hdata).1
      split at h
      · cases h
      · rename_i name hname
        split at h
        · rename_i hadmits
          split at h
          · obtain ⟨results, -, hc⟩ := bind_eq_ok.1 h
            cases hc
            exact ⟨_, name, _, hresolved, hname, rfl, hadmits⟩
          · obtain ⟨result, -, hc⟩ := bind_eq_ok.1 h
            cases hc
            exact ⟨_, name, _, hresolved, hname, rfl, hadmits⟩
        · cases h
  · cases h

theorem glue_contribution {selector : Selector} {guard : Guard} {body : Template}
    {c : Contribution} (h : glue S e object f selector guard body = .ok (some c)) :
    ∃ data doc, (Directive.glue selector guard body).Merges S object body data ∧
      e body data f = .ok doc ∧ c = .merged doc := by
  unfold glue at h
  split at h
  · rename_i hguard
    split at h
    · rename_i data hdata
      obtain ⟨doc, hdoc, hc⟩ := bind_eq_ok.1 h
      cases hc
      exact ⟨data, doc, .glue hguard hdata, hdoc, rfl⟩
    · cases h
  · cases h

theorem extension_contribution {base : String} {target : Option Selector} {guard : Guard}
    {extra : Template} {c : Contribution}
    (h : (plain S).extension S e object f base target guard extra = .ok (some c)) :
    ∃ u data doc, (Directive.extend base target guard extra).Merges S object u data ∧
      e u data f = .ok doc ∧ c = .merged doc := by
  unfold extension at h
  split at h
  · rename_i hguard
    split at h
    · rename_i data hdata
      obtain ⟨b, hload, h⟩ := bind_eq_ok.1 h
      obtain ⟨doc, hdoc, hc⟩ := bind_eq_ok.1 h
      cases hc
      exact ⟨_, data, doc, .extend hguard hdata hload, hdoc, rfl⟩
    · cases h
  · cases h

theorem node_contribution {n : Node} {doc : Document} {c : Contribution}
    (h : n.contribution S object f doc = .ok (some c)) :
    (∃ key v, c = .entry key v ∧ Filter.admits f key = true) ∨
      n.name = none ∧ ∃ other, c = .merged other := by
  unfold Node.contribution at h
  split at h
  · rename_i hpass
    obtain ⟨v, -, hc⟩ := bind_eq_ok.1 h
    split at hc
    · rename_i name hname
      cases hc
      refine Or.inl ⟨name, _, rfl, ?_⟩
      simpa [hname] using (Bool.and_eq_true_iff.1 hpass).2
    · rename_i hname
      cases hc
      exact Or.inr ⟨hname, _, rfl⟩
    · cases hc
  · cases h

/-- What a directive can contribute: a value under a key that the filter admits, a document built
for a merge, or the document of an unnamed node. -/
theorem contributionOn_cases {doc : Document} {d : Directive} {c : Contribution}
    (h : contributionOn S e object f doc d = .ok (some c)) :
    (∃ key v, c = .entry key v ∧ Filter.admits f key = true) ∨
      (∃ u data other, d.Merges S object u data ∧ e u data f = .ok other ∧ c = .merged other) ∨
      ∃ n other, d = .node n ∧ n.name = none ∧ c = .merged other := by
  cases d with
  | «attribute» a =>
    obtain ⟨member, -, hc, hadmits⟩ := attribute_contribution ((liftExcept_eq _).symm.trans h)
    exact Or.inl ⟨a.key, _, hc, hadmits⟩
  | child selector objectRoot guard body =>
    obtain ⟨data, name, v, -, -, hc, hadmits⟩ := child_contribution h
    exact Or.inl ⟨name, v, hc, hadmits⟩
  | glue selector guard body =>
    obtain ⟨data, other, hmerges, hother, rfl⟩ := glue_contribution h
    exact Or.inr (Or.inl ⟨body, data, other, hmerges, hother, rfl⟩)
  | extend base target guard extra => exact Or.inr (Or.inl (extension_contribution h))
  | node n =>
    rcases node_contribution h with hentry | ⟨hname, other, rfl⟩
    · exact Or.inl hentry
    · exact Or.inr (Or.inr ⟨n, other, rfl, hname, rfl⟩)

/-- Every key of a document is admitted by the filter or comes from an unnamed node. -/
theorem admits_or_unnamedNodeKey {levels : Nat} {t : Template} {doc : Document}
    (h : (plain S).evaluate S levels t object f = .ok doc) {key : String}
    (hkey : key ∈ OrderedMap.keys doc) :
    Filter.admits f key = true ∨ UnnamedNodeKey S f levels t object key := by
  induction levels generalizing t object doc with
  | zero => cases h
  | succ levels ih =>
    obtain ⟨cs, hcs, rfl⟩ := (level_eq_ok (e := (plain S).evaluate S levels)).1 h
    rcases Contribution.mem_keys_addAll ((NilPolicy.keys_apply _ _).subset hkey) with hnil | hc
    · cases hnil
    · obtain ⟨c, hc, hkey⟩ := hc
      obtain ⟨before, d, after, earlier, hsplit, hearlier, hd⟩ := mem_inTurn hcs hc
      rcases contributionOn_cases hd with ⟨k, v, rfl, hk⟩ | ⟨u, data, other, hmerges, hother, rfl⟩ |
        ⟨n, other, rfl, hname, rfl⟩
      · obtain rfl := List.mem_singleton.1 hkey
        exact Or.inl hk
      · -- the same filter was passed on to what is merged
        refine (ih hother hkey).imp_right fun hkey => .merged ?_ hmerges hkey
        rw [← Template.mem_inPhases, hsplit]
        exact List.mem_append_right _ List.mem_cons_self
      · exact Or.inr (.node hsplit hname hearlier hd hkey)

/-- The result for an object is that of one plan. -/
theorem build_object {m : Type → Type} [Monad m] [MonadExceptOf BuildError m] (s : Strategy m)
    (options : BuildOptions) (t : Template) (hobject : object.isObject = true) :
    s.build S options t object =
      s.single t (options.topPlan S object) (compute (s.document S) t) := by
  cases object with
  | null => cases hobject
  | list _ elements => cases hobject
  | _ => rfl

/-- Without root, that plan has the filter of the options. -/
theorem build_object_eq {m : Type → Type} [Monad m] [MonadExceptOf BuildError m] (s : Strategy m)
    {options : BuildOptions} {t : Template} (hobject : object.isObject = true)
    (hroot : (options.root.getD S.config.root).resolve? (deriveName? none object none) = none) :
    s.build S options t object =
      s.single t ⟨object, none, options.activeFilter⟩ (compute (s.document S) t) := by
  have hscoped : Filter.scoped options.activeFilter none = options.activeFilter := by
    cases options.activeFilter <;> rfl
  rw [build_object s options t hobject, BuildOptions.topPlan, hroot, hscoped]

theorem compute_eq_ok {t : Template} {plan : Plan} {v : Value} :
    compute e t plan = .ok v ↔ ∃ doc, e t plan.item plan.filter = .ok doc ∧
      v = .document (match plan.root with
        | some root => Document.wrap doc root
        | none => doc) := by
  rw [compute, bind_eq_ok]
  constructor
  · rintro ⟨doc, hdoc, hv⟩
    exact ⟨doc, hdoc, (Except.ok.inj hv).symm⟩
  · rintro ⟨doc, hdoc, rfl⟩
    exact ⟨doc, hdoc, rfl⟩

theorem build_object_eq_ok {options : BuildOptions} {t : Template}
    (hobject : object.isObject = true)
    (hroot : (options.root.getD S.config.root).resolve? (deriveName? none object none) = none)
    {v : Value} :
    t.build S options object = .ok v ↔
      ∃ doc, (plain S).document S t object options.activeFilter = .ok doc ∧ v = .document doc := by
  have hbuild : t.build S options object =
      compute ((plain S).document S) t ⟨object, none, options.activeFilter⟩ :=
    build_object_eq (plain S) hobject hroot
  rw [hbuild, compute_eq_ok]

end Strategy

theorem BuildOptions.activeFilter_eq {options : BuildOptions} {f : Filter}
    (hfilter : options.filter = some f) (hf : f.isEmpty = false) : options.activeFilter = some f := by
  rw [activeFilter, hfilter, Option.filter_some, hf]
  rfl

/-- Every key of a document is one that the filter has a field for. -/
def Filter.Covers (f : Filter) (doc : Document) : Prop :=
  ∀ key ∈ OrderedMap.keys doc, f.selects key = true

namespace Template

open Strategy

/-- A filtered build of an object, without root, has the keys that the filter selects and keys that
unnamed nodes bring in. So it keeps to the filter exactly if the filter selects all that unnamed
nodes leave in it. -/
theorem build_covers_iff {S : Setting} {options : BuildOptions} {t : Template}
    {object : Data} {f : Filter} (hobject : object.isObject = true)
    (hroot : (options.root.getD S.config.root).resolve? (deriveName? none object none) = none)
    (hfilter : options.filter = some f) (hf : f.isEmpty = false) {v : Value}
    (hv : t.build S options object = .ok v) :
    ∃ doc, v = .document doc ∧
      (∀ key ∈ OrderedMap.keys doc, f.selects key = true ∨
        UnnamedNodeKey S (some f) (S.config.maxDepth + 1) t object key) ∧
      (f.Covers doc ↔ ∀ key ∈ OrderedMap.keys doc,
        UnnamedNodeKey S (some f) (S.config.maxDepth + 1) t object key → f.selects key = true) := by
  obtain ⟨doc, hdoc, rfl⟩ := (build_object_eq_ok hobject hroot).1 hv
  rw [BuildOptions.activeFilter_eq hfilter hf] at hdoc
  have hkeys : ∀ key ∈ OrderedMap.keys doc, f.selects key = true ∨
      UnnamedNodeKey S (some f) (S.config.maxDepth + 1) t object key :=
    fun key hkey => admits_or_unnamedNodeKey hdoc hkey
  refine ⟨doc, rfl, hkeys, fun h key hkey _ => h key hkey, fun h key hkey => ?_⟩
  rcases hkeys key hkey with hselected | hnode
  · exact hselected
  · exact h key hkey hnode

/-- Of two members the filter selects one; the other is merged by an unnamed node in glue. -/
theorem build_covers_iff_glued :
    let S : Setting := ⟨{}, .empty, .memory [], id⟩
    let f := Filter.mk none [.mk "id" [] none]
    let extra := Template.mk none [.node ⟨none, {}, .value (.document [("name", .string "eve")])⟩] ""
    let t := Template.mk none [.attribute { name := "id" }, .attribute { name := "name" },
      .glue .current {} extra] ""
    let object := Data.record none none [("id", .integer 1), ("name", .string "leo")]
    object.isObject = true ∧ f.isEmpty = false ∧
      t.build S { filter := some f } object =
        .ok (.document [("id", .integer 1), ("name", .string "eve")]) ∧
      UnnamedNodeKey S (some f) (S.config.maxDepth + 1) t object "name" := by
  intro S f extra t object
  have hv : t.build S { filter := some f } object =
      .ok (.document [("id", .integer 1), ("name", .string "eve")]) := rfl
  have hobject : object.isObject = true := rfl
  obtain ⟨doc, hdoc, hkeys, -⟩ := build_covers_iff hobject rfl rfl rfl hv
  obtain rfl := Value.document.inj hdoc
  have hname := (hkeys "name" (by decide)).resolve_left (by decide)
  exact ⟨rfl, rfl, hv, hname⟩

/-- An unnamed node leaves a key that the filter does not select. -/
theorem not_covers_unnamed_node :
    let S : Setting := ⟨{}, .empty, .memory [], id⟩
    let f := Filter.mk none [.mk "id" [] none]
    let t := Template.mk none [.node ⟨none, {}, .value (.document [("a", .integer 1)])⟩] ""
    let object := Data.record none none [("id", .integer 1)]
    object.isObject = true ∧ f.isEmpty = false ∧
      t.build S { filter := some f } object = .ok (.document [("a", .integer 1)]) ∧
      ¬ f.Covers [("a", .integer 1)] := by
  intro S f t object
  refine ⟨rfl, rfl, rfl, fun h => ?_⟩
  have ha := h "a" List.mem_cons_self
  revert ha
  decide

end Template

end DocumentTemplates
