import DocumentTemplates.Cache.Memory
import DocumentTemplates.Proofs.Build.PhaseOrder
import DocumentTemplates.Proofs.Build.Registered
import DocumentTemplates.Proofs.Build.SelectedKeys
import DocumentTemplates.Proofs.Filter.Pruning
import DocumentTemplates.Proofs.OrderedMap.Reordering
import Mathlib.Data.List.Forall2

/-!
# The order of attributes

Attributes that write different keys may stand in any order: a build succeeds or fails all the same,
and only the order of keys in its documents can differ. Whatever overwrites those keys later, in
extensions, children, glue and nodes, finds the same keys and the same values. Only the function of
a node could tell the orders apart, since it sees the document.
-/

namespace DocumentTemplates

/-! ## Builds with the same success -/

/-- Both succeed, with related results, or both fail, whatever the errors. -/
inductive SameSuccess {ε α β : Type} (P : α → β → Prop) : Except ε α → Except ε β → Prop
  | ok {a : α} {b : β} (h : P a b) : SameSuccess P (.ok a) (.ok b)
  | error (e e' : ε) : SameSuccess P (.error e) (.error e')

def Simulation.succeeds (ε : Type) : Simulation (Except ε) (Except ε) where
  rel := SameSuccess
  pure := .ok
  bind := by
    intro α β γ δ P Q x y f g hx hf
    cases hx with
    | ok h => exact hf _ _ h
    | error e e' => exact .error e e'

namespace SameSuccess

variable {ε α β : Type} {P : α → β → Prop}

theorem of_forall {x : Except ε α} {y : Except ε β}
    (h : ∀ a, x = .ok a → ∃ b, y = .ok b ∧ P a b) (h' : ∀ b, y = .ok b → ∃ a, x = .ok a) :
    SameSuccess P x y := by
  cases x with
  | ok a =>
    obtain ⟨b, rfl, hab⟩ := h a rfl
    exact .ok hab
  | error e =>
    cases y with
    | error e' => exact .error e e'
    | ok b =>
      obtain ⟨a, ha⟩ := h' b rfl
      cases ha

theorem mapM {γ : Type} {f : γ → Except ε α} {g : γ → Except ε β} {xs : List γ}
    (h : ∀ x ∈ xs, SameSuccess P (f x) (g x)) :
    SameSuccess (List.Forall₂ P) (xs.mapM f) (xs.mapM g) := by
  induction xs with
  | nil => exact .ok .nil
  | cons x rest ih =>
    rw [List.mapM_cons, List.mapM_cons]
    obtain ⟨hx, hrest⟩ := List.forall_mem_cons.1 h
    refine (Simulation.succeeds ε).bind hx fun a b hab => ?_
    exact (Simulation.succeeds ε).bind (ih hrest) fun as bs habs => .ok (.cons hab habs)

end SameSuccess

/-! ## Contributions in any order -/

namespace Contribution

open OrderedMap (Reordered)

variable {doc other : Document}

theorem mem_keys_of_value? {c : Contribution} {key : String} {v : Value}
    (h : c.value? key = some v) : key ∈ c.keys := by
  cases c with
  | entry k w =>
    rw [value?] at h
    split at h
    · rename_i hkey
      exact List.mem_singleton.2 hkey.symm
    · cases h
  | merged merged =>
    have hmem : key ∈ OrderedMap.keys (OrderedMap.merge [] merged) :=
      (OrderedMap.isSome_get? _ key).1 (Option.isSome_iff_exists.2 ⟨v, h⟩)
    exact (OrderedMap.mem_keys_merge.1 hmem).resolve_left List.not_mem_nil

theorem reordered_addTo (h : Reordered doc other) (c : Contribution) :
    Reordered (c.addTo doc) (c.addTo other) := by
  refine .of_get? (distinctKeys_addTo h.distinct c) (distinctKeys_addTo h.distinct_other c) ?_
  intro key
  rw [get?_addTo, get?_addTo, h.get? key]

theorem reordered_addAll (h : Reordered doc other) (cs : List Contribution) :
    Reordered (addAll doc cs) (addAll other cs) := by
  induction cs generalizing doc other with
  | nil => exact h
  | cons c rest ih => exact ih (reordered_addTo h c)

theorem reordered_swap (h : Reordered doc other) {c d : Contribution}
    (hkeys : c.keys.Disjoint d.keys) :
    Reordered (d.addTo (c.addTo doc)) (c.addTo (d.addTo other)) := by
  refine .of_get? (distinctKeys_addTo (distinctKeys_addTo h.distinct c) d)
    (distinctKeys_addTo (distinctKeys_addTo h.distinct_other d) c) fun key => ?_
  rw [get?_addTo, get?_addTo, get?_addTo, get?_addTo, h.get? key]
  cases hc : c.value? key with
  | none => rfl
  | some v =>
    cases hd : d.value? key with
    | none => rfl
    | some w => exact absurd (mem_keys_of_value? hd) (hkeys (mem_keys_of_value? hc))

/-- Contributions with no key in common may be added in any order. -/
theorem reordered_addAll_perm {cs ds : List Contribution} (hp : cs.Perm ds)
    (hkeys : (cs.flatMap keys).Nodup) (h : Reordered doc other) :
    Reordered (addAll doc cs) (addAll other ds) := by
  induction hp generalizing doc other with
  | nil => exact h
  | cons c _ ih =>
    rw [List.flatMap_cons, List.nodup_append'] at hkeys
    exact ih hkeys.2.1 (reordered_addTo h c)
  | swap c d rest =>
    rw [List.flatMap_cons, List.flatMap_cons, ← List.append_assoc, List.nodup_append',
      List.nodup_append'] at hkeys
    exact reordered_addAll (reordered_swap h hkeys.1.2.2) rest
  | trans hp _ ih ih' =>
    have hmid := (hp.flatMap_right keys).nodup_iff.1 hkeys
    exact (ih hkeys h).trans (ih' hmid (.refl h.distinct_other))

end Contribution

theorem NilPolicy.reordered_apply (policy : NilPolicy) {doc other : Document}
    (h : OrderedMap.Reordered doc other) :
    OrderedMap.Reordered (policy.apply doc) (policy.apply other) := by
  refine .of_perm ((policy.keys_apply doc).nodup h.distinct) ?_
  rw [apply_eq_filterMap, apply_eq_filterMap]
  exact h.perm.filterMap _

/-! ## Nodes -/

namespace Node

variable {S : Setting} {object : Data} {f : Option Filter}

theorem contribution_of_not_isFunction {n : Node} (h : n.compute.isFunction = false)
    (doc other : Document) : n.contribution S object f doc = n.contribution S object f other := by
  have hvalue : n.value S object doc = n.value S object other := by
    unfold value
    cases hc : n.compute with
    | function label g => rw [hc] at h; cases h
    | _ => rfl
  rw [contribution, contribution, hvalue]

/-- Nodes that are not functions do the same on documents that differ in the order of keys. -/
theorem foldlM_addTo_reordered {ns : List Node} (h : ∀ n ∈ ns, n.compute.isFunction = false)
    {doc other : Document} (hr : OrderedMap.Reordered doc other) :
    SameSuccess OrderedMap.Reordered (ns.foldlM (addTo S object f) doc)
      (ns.foldlM (addTo S object f) other) := by
  induction ns generalizing doc other with
  | nil => exact .ok hr
  | cons n rest ih =>
    obtain ⟨hn, hrest⟩ := List.forall_mem_cons.1 h
    have hstep : SameSuccess OrderedMap.Reordered (n.addTo S object f doc)
        (n.addTo S object f other) := by
      rw [addTo_eq, addTo_eq, contribution_of_not_isFunction hn doc other]
      cases n.contribution S object f other with
      | error e => exact .error e e
      | ok c => exact .ok (Contribution.reordered_addAll hr c.toList)
    rw [List.foldlM_cons, List.foldlM_cons]
    exact (Simulation.succeeds BuildError).bind hstep fun _ _ => ih hrest

end Node

/-! ## Templates -/

namespace Template

def attributes (t : Template) : List Attribute :=
  t.directives.filterMap fun d => match d with
    | .attribute a => some a
    | _ => none

/-- The same attributes in some order, and the same directives in every other phase. -/
structure AttributesReordered (t u : Template) : Prop where
  attributes : t.attributes.Perm u.attributes
  others : ∀ phase, phase ≠ .attributes → t.ofPhase phase = u.ofPhase phase

theorem AttributesReordered.symm {t u : Template} (h : t.AttributesReordered u) :
    u.AttributesReordered t :=
  ⟨h.attributes.symm, fun phase hphase => (h.others phase hphase).symm⟩

theorem ofPhase_attributes (t : Template) :
    t.ofPhase .attributes = t.attributes.map .attribute := by
  rw [ofPhase, attributes]
  induction t.directives with
  | nil => rfl
  | cons d rest ih =>
    cases d with
    | «attribute» a => exact congrArg (Directive.attribute a :: ·) ih
    | _ => exact ih

theorem nodes_eq_of_ofPhase (t : Template) :
    t.nodes = (t.ofPhase .nodes).filterMap fun d => match d with
      | .node n => some n
      | _ => none := by
  rw [nodes, ofPhase]
  induction t.directives with
  | nil => rfl
  | cons d rest ih =>
    cases d with
    | node n => exact congrArg (n :: ·) ih
    | _ => exact ih

namespace AttributesReordered

variable {t u : Template}

theorem nodes_eq (h : t.AttributesReordered u) : t.nodes = u.nodes := by
  rw [nodes_eq_of_ofPhase, nodes_eq_of_ofPhase, h.others .nodes (by decide)]

theorem mem_directives (h : t.AttributesReordered u) {d : Directive} (hd : d ∈ u.directives) :
    d ∈ t.directives := by
  have hphase : d ∈ u.ofPhase d.phase := List.mem_filter.2 ⟨hd, by simp⟩
  have hsame : d ∈ t.ofPhase d.phase := by
    by_cases hp : d.phase = .attributes
    · rw [hp, ofPhase_attributes] at hphase ⊢
      exact (h.attributes.map _).mem_iff.2 hphase
    · rw [h.others _ hp]
      exact hphase
  exact (List.mem_filter.1 hsame).1

end AttributesReordered

end Template

namespace Strategy

variable {s : Strategy (Except BuildError)} {S : Setting}
  {e : Template → Data → Option Filter → Except BuildError Document} {object : Data}
  {f : Option Filter} {t u : Template}

/-- An attribute writes its own key or nothing. -/
theorem keys_contributed (as : List Attribute) :
    (((as.map .attribute).filterMap (contributed s S e object f)).flatMap
      Contribution.keys).Sublist (as.map Attribute.key) := by
  induction as with
  | nil => exact .slnil
  | cons a rest ih =>
    rw [List.map_cons, List.map_cons, List.filterMap_cons]
    cases hc : contributed s S e object f (.attribute a) with
    | none => exact ih.cons a.key
    | some c =>
      have hcontribution : a.contribution S object f = .ok (some c) := by
        unfold contributed at hc
        split at hc
        · rename_i hd
          rw [← hc]
          exact (liftExcept_eq _).symm.trans hd
        · cases hc
      obtain ⟨member, -, rfl, -⟩ := attribute_contribution hcontribution
      exact ih.cons_cons a.key

/-- The attributes come first, then the phases in which nested builds are merged. -/
theorem mergeByPhase_contributed (t : Template) :
    Contribution.mergeByPhase
        (t.directives.filterMap fun d => (contributed s S e object f d).map (d.phase, ·)) =
      Contribution.addAll
        (Contribution.addAll [] ((t.attributes.map .attribute).filterMap
          (contributed s S e object f)))
        ([Phase.extensions, .children, .glue].flatMap fun phase =>
          (t.ofPhase phase).filterMap (contributed s S e object f)) := by
  rw [Contribution.mergeByPhase_eq, Phase.merging, List.flatMap_cons, Contribution.addAll_append,
    filter_gathered, ← Template.ofPhase_attributes]
  simp only [filter_gathered]
  rfl

theorem gather_reordered (h : t.AttributesReordered u)
    (hkeys : (t.attributes.map Attribute.key).Nodup) :
    SameSuccess
      (fun gathered gathered' => OrderedMap.Reordered (Contribution.mergeByPhase gathered)
        (Contribution.mergeByPhase gathered'))
      (s.gather S e object f t.directives) (s.gather S e object f u.directives) := by
  refine .of_forall (fun gathered hg => ?_) fun gathered hg => ?_
  · obtain ⟨hsuccess, rfl⟩ := gather_eq_ok.1 hg
    refine ⟨_, gather_eq_ok.2 ⟨fun d hd => hsuccess d (h.mem_directives hd), rfl⟩, ?_⟩
    rw [mergeByPhase_contributed, mergeByPhase_contributed]
    have hothers : [Phase.extensions, .children, .glue].flatMap (fun phase =>
          (t.ofPhase phase).filterMap (contributed s S e object f)) =
        [Phase.extensions, .children, .glue].flatMap (fun phase =>
          (u.ofPhase phase).filterMap (contributed s S e object f)) := by
      simp only [List.flatMap_cons, List.flatMap_nil, h.others .extensions (by decide),
        h.others .children (by decide), h.others .glue (by decide)]
    rw [hothers]
    refine Contribution.reordered_addAll (Contribution.reordered_addAll_perm
      ((h.attributes.map _).filterMap _) ((keys_contributed _).nodup hkeys) ?_) _
    exact .refl OrderedMap.distinctKeys_nil
  · exact ⟨_, gather_eq_ok.2 ⟨fun d hd => (gather_eq_ok.1 hg).1 d (h.symm.mem_directives hd), rfl⟩⟩

/-- A template with its attributes in another order gives the same document up to the order of
keys, or fails where the first does. -/
theorem evaluate_reordered (h : t.AttributesReordered u)
    (hkeys : (t.attributes.map Attribute.key).Nodup)
    (hnodes : ∀ n ∈ t.nodes, n.compute.isFunction = false) (levels : Nat) (object : Data)
    (f : Option Filter) :
    SameSuccess OrderedMap.Reordered (s.evaluate S levels t object f)
      (s.evaluate S levels u object f) := by
  cases levels with
  | zero => exact .error _ _
  | succ levels =>
    let R := Simulation.succeeds BuildError
    refine R.bind (gather_reordered h hkeys) fun gathered gathered' hgathered => ?_
    rw [liftExcept_eq, liftExcept_eq, ← h.nodes_eq]
    refine R.bind (Node.foldlM_addTo_reordered hnodes hgathered) fun doc other hdoc => ?_
    exact R.pure (S.config.nilPolicy.reordered_apply hdoc)

end Strategy

/-! ## Results -/

/-- Results that differ at most in the order of keys of the documents built at the top. -/
inductive Value.Reordered : Value → Value → Prop
  | null : Reordered .null .null
  | document {doc other : Document} (h : OrderedMap.Reordered doc other) :
    Reordered (.document doc) (.document other)
  | wrapped (root : String) {v w : Value} (h : Reordered v w) :
    Reordered (.document (Document.single root v)) (.document (Document.single root w))
  | array {vs ws : List Value} (h : List.Forall₂ Reordered vs ws) :
    Reordered (.array vs) (.array ws)

theorem OrderedMap.Reordered.isEmpty_eq {β : Type} {m other : OrderedMap β}
    (h : m.Reordered other) : m.isEmpty = other.isEmpty :=
  h.perm.isEmpty_eq

theorem Value.Reordered.isEmpty_eq {v w : Value} (h : v.Reordered w) : v.isEmpty = w.isEmpty := by
  cases h with
  | null => rfl
  | document h => exact h.isEmpty_eq
  | wrapped root h => rfl
  | array h => cases h <;> rfl

/-- The result of a plan with a document: the document itself, or wrapped under the root. -/
def Plan.wrap (plan : Plan) (doc : Document) : Value :=
  .document (match plan.root with
    | some root => Document.wrap doc root
    | none => doc)

theorem Plan.reordered_wrap (plan : Plan) {doc other : Document}
    (h : OrderedMap.Reordered doc other) : (plan.wrap doc).Reordered (plan.wrap other) := by
  unfold wrap
  split
  · exact .wrapped _ (.document h)
  · exact .document h

namespace Strategy

variable {S : Setting} {load : String → Except BuildError Template} {t u : Template}

theorem compute_reordered {e : Template → Data → Option Filter → Except BuildError Document}
    (h : ∀ object f, SameSuccess OrderedMap.Reordered (e t object f) (e u object f)) (plan : Plan) :
    SameSuccess
      (fun v w => ∃ doc other, OrderedMap.Reordered doc other ∧ v = plan.wrap doc ∧
        w = plan.wrap other)
      (compute e t plan) (compute e u plan) := by
  let R := Simulation.succeeds BuildError
  exact R.bind (h plan.item plan.filter) fun doc other hdoc =>
    R.pure ⟨doc, other, hdoc, rfl, rfl⟩

theorem items_reordered {e : Template → Data → Option Filter → Except BuildError Document}
    (h : ∀ object f, SameSuccess OrderedMap.Reordered (e t object f) (e u object f))
    (elementRoot : RootSetting) (collection : Option String) (f : Option Filter)
    (elements : List Data) :
    SameSuccess (List.Forall₂ Value.Reordered)
      ((loading load).items S e t elementRoot collection f elements)
      ((loading load).items S e u elementRoot collection f elements) := by
  let R := Simulation.succeeds BuildError
  have hplan : ∀ plan, SameSuccess Value.Reordered (compute e t plan) (compute e u plan) := by
    refine fun plan => R.mono (compute_reordered h plan) ?_
    rintro _ _ ⟨doc, other, hdoc, rfl, rfl⟩
    exact plan.reordered_wrap hdoc
  refine R.bind (SameSuccess.mapM fun plan _ => hplan plan) fun vs ws hvs => R.pure ?_
  split
  · refine List.rel_filter (fun v w hvw => ?_) hvs
    change (!v.isEmpty) = true ↔ (!w.isEmpty) = true
    rw [hvw.isEmpty_eq]
  · exact hvs

theorem build_object_reordered
    (h : ∀ object f, SameSuccess OrderedMap.Reordered ((loading load).document S t object f)
      ((loading load).document S u object f)) (options : BuildOptions) {object : Data}
    (hobject : object.isObject = true) :
    SameSuccess
      (fun v w => ∃ doc other, OrderedMap.Reordered doc other ∧
        v = (options.topPlan S object).wrap doc ∧ w = (options.topPlan S object).wrap other)
      ((loading load).build S options t object) ((loading load).build S options u object) := by
  rw [build_object _ options t hobject, build_object _ options u hobject]
  exact compute_reordered h _

theorem build_reordered
    (h : ∀ object f, SameSuccess OrderedMap.Reordered ((loading load).document S t object f)
      ((loading load).document S u object f)) (options : BuildOptions) (data : Data) :
    SameSuccess Value.Reordered ((loading load).build S options t data)
      ((loading load).build S options u data) := by
  let R := Simulation.succeeds BuildError
  by_cases hobject : data.isObject = true
  · refine R.mono (build_object_reordered h options hobject) ?_
    rintro _ _ ⟨doc, other, hdoc, rfl, rfl⟩
    exact Plan.reordered_wrap _ hdoc
  · cases data with
    | null => exact R.pure .null
    | list name elements =>
      refine R.bind (items_reordered h _ _ _ _) fun vs ws hvs => R.pure ?_
      split
      · exact .wrapped _ (.array hvs)
      · exact .array hvs
    | _ => exact absurd rfl hobject

end Strategy

/-- Where no results are kept, attributes with distinct keys may be put in any order: any build
succeeds or fails as before, if no node is a function, and an object has the same document up to
the order of keys. -/
theorem StoreBuild.attribute_order {σ : Type} [ResultCache σ] (S : Setting)
    (options : BuildOptions) {store : Store σ} (hu : store.Uncached S) {t u : Template}
    (h : t.AttributesReordered u) (hkeys : (t.attributes.map Attribute.key).Nodup)
    (hnodes : ∀ n ∈ t.nodes, n.compute.isFunction = false) :
    let build (t : Template) (data : Data) : Except BuildError Value :=
      ((Strategy.stored S options).build S options t data |>.runOn store).1
    let buildAll (t : Template) (objects : List Data) : Except BuildError (List Value) :=
      ((Strategy.stored S options).buildAll S options t objects |>.runOn store).1
    (∀ object, object.isObject = true →
      SameSuccess
        (fun v w => ∃ doc other, OrderedMap.Reordered doc other ∧
          v = (options.topPlan S object).wrap doc ∧ w = (options.topPlan S object).wrap other)
        (build t object) (build u object)) ∧
    (∀ data, SameSuccess Value.Reordered (build t data) (build u data)) ∧
    ∀ objects, SameSuccess (List.Forall₂ Value.Reordered) (buildAll t objects)
      (buildAll u objects) := by
  intro build buildAll
  have hdocument : ∀ object f, SameSuccess OrderedMap.Reordered
      ((Strategy.loading (store.load S)).document S t object f)
      ((Strategy.loading (store.load S)).document S u object f) :=
    Strategy.evaluate_reordered h hkeys hnodes _
  have hbuild : ∀ t data, build t data =
      (Strategy.loading (store.load S)).build S options t data :=
    fun t data => Strategy.runOn_stored_build_of_uncached options t data hu
  have hbuildAll : ∀ t objects, buildAll t objects =
      (Strategy.loading (store.load S)).buildAll S options t objects :=
    fun t objects => Strategy.runOn_stored_buildAll_of_uncached options t objects hu
  refine ⟨fun object hobject => ?_, fun data => ?_, fun objects => ?_⟩
  · rw [hbuild, hbuild]
    exact Strategy.build_object_reordered hdocument options hobject
  · rw [hbuild, hbuild]
    exact Strategy.build_reordered hdocument options data
  · rw [hbuildAll, hbuildAll]
    exact Strategy.items_reordered hdocument _ _ _ _

/-- Three attributes turned around. One of them is overwritten by glue and one by a node, each in
its place, and the null policy drops the third. -/
theorem StoreBuild.attribute_order_overwritten :
    let number : Attribute := { name := "id" }
    let title : Attribute := { name := "title", shownAs := some "name" }
    let note : Attribute := { name := "note" }
    let owner := Template.mk none [.attribute { name := "id" }, .attribute { name := "city" }] ""
    let rest := [Directive.glue (.member "owner") {} owner,
      .node ⟨some "name", {}, .value (.string "hidden")⟩]
    let t := Template.mk none (.attribute number :: .attribute title :: .attribute note :: rest) "t"
    let u := Template.mk none (.attribute note :: .attribute title :: .attribute number :: rest) "u"
    let object := Data.record (some "page") none [("id", .integer 1), ("title", .string "on"),
      ("note", .null), ("owner", .record none none [("id", .integer 2), ("city", .string "bonn")])]
    let S : Setting := ⟨{ nilPolicy := .dropNil, root := .enabled true }, .empty, .nowhere, id⟩
    let store : Store MemoryCache := {}
    let build (t : Template) : Except BuildError Value :=
      ((Strategy.stored S {}).build S {} t object |>.runOn store).1
    (store.Uncached S ∧ t.AttributesReordered u ∧ (t.attributes.map Attribute.key).Nodup ∧
      ∀ n ∈ t.nodes, n.compute.isFunction = false) ∧
      SameSuccess Value.Reordered (build t) (build u) ∧
      build t = .ok (.document [("page", .document
        [("id", .integer 2), ("name", .string "hidden"), ("city", .string "bonn")])]) ∧
      build u = .ok (.document [("page", .document
        [("name", .string "hidden"), ("id", .integer 2), ("city", .string "bonn")])]) := by
  intro number title note owner rest t u object S store build
  have hu : store.Uncached S := Or.inl rfl
  have hreordered : t.AttributesReordered u := by
    refine ⟨?_, fun phase hphase => ?_⟩
    · exact List.reverse_perm [note, title, number]
    · cases phase with
      | «attributes» => exact absurd rfl hphase
      | _ => rfl
  have hkeys : (t.attributes.map Attribute.key).Nodup := by decide
  have hnodes : ∀ n ∈ t.nodes, n.compute.isFunction = false :=
    List.forall_mem_singleton.2 rfl
  exact ⟨⟨hu, hreordered, hkeys, hnodes⟩,
    (StoreBuild.attribute_order S {} hu hreordered hkeys hnodes).2.1 object, rfl, rfl⟩

end DocumentTemplates
