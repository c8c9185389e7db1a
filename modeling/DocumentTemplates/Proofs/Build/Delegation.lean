import DocumentTemplates.Cache.Memory
import DocumentTemplates.Proofs.Build.DepthLimit
import DocumentTemplates.Proofs.Build.Registered
import DocumentTemplates.Proofs.Build.SelectedKeys
import DocumentTemplates.Proofs.Value.Nulls

/-!
# Templates that only delegate

A template that does nothing but extend a base for the object at hand, or glue that object in, takes
one level of nesting and builds what it delegates to. For what comes back is finished: to merge it
into an empty document, and to apply the null policy once more, change nothing.
-/

namespace DocumentTemplates

theorem Data.filter_isMergeable {data : Data} (h : data.isMergeable = true) :
    (some data).filter (fun data => !data.isBlank && !data.isCollection) = some data := by
  rw [Option.filter_some]
  exact if_pos h

/-- True of what a build gives: no key stands twice, and nothing is left to the null policy. -/
structure Document.Finished (policy : NilPolicy) (doc : Document) : Prop where
  distinct : OrderedMap.DistinctKeys doc
  applied : policy.apply doc = doc

namespace Document

variable {policy : NilPolicy} {doc : Document}

theorem finished_apply (h : OrderedMap.DistinctKeys doc) : Finished policy (policy.apply doc) :=
  ⟨(policy.keys_apply doc).nodup h, policy.apply_apply doc⟩

theorem Finished.apply_merge (h : Finished policy doc) :
    policy.apply (OrderedMap.merge [] doc) = doc := by
  have hmerge : OrderedMap.merge [] doc = doc := OrderedMap.ofEntries_of_distinctKeys h.distinct
  rw [hmerge, h.applied]

end Document

theorem Contribution.mergeByPhase_singleton {phase : Phase} (h : phase ≠ .nodes)
    (c : Contribution) : mergeByPhase [(phase, c)] = c.addTo [] := by
  cases phase with
  | nodes => exact absurd rfl h
  | _ => rfl

namespace Node

variable {S : Setting} {object : Data} {f : Option Filter}

theorem distinctKeys_addTo {doc after : Document} (h : OrderedMap.DistinctKeys doc) {n : Node}
    (hn : n.addTo S object f doc = .ok after) : OrderedMap.DistinctKeys after := by
  rw [addTo_eq] at hn
  cases hc : n.contribution S object f doc with
  | error e => rw [hc] at hn; cases hn
  | ok c =>
    rw [hc] at hn
    cases hn
    exact Contribution.distinctKeys_addAll h _

theorem distinctKeys_foldlM_addTo {doc after : Document} (h : OrderedMap.DistinctKeys doc)
    {ns : List Node} (hns : ns.foldlM (addTo S object f) doc = .ok after) :
    OrderedMap.DistinctKeys after := by
  induction ns generalizing doc with
  | nil =>
    cases hns
    exact h
  | cons n rest ih =>
    rw [List.foldlM_cons] at hns
    obtain ⟨next, hnext, hrest⟩ := bind_eq_ok.1 hns
    exact ih (distinctKeys_addTo h hnext) hrest

end Node

namespace Strategy

section
variable {s : Strategy (Except BuildError)} {S : Setting} {levels : Nat} {t u : Template}
  {object : Data} {f : Option Filter}

theorem evaluate_finished {doc : Document} (h : s.evaluate S levels t object f = .ok doc) :
    doc.Finished S.config.nilPolicy := by
  cases levels with
  | zero => cases h
  | succ levels =>
    obtain ⟨gathered, -, h⟩ := bind_eq_ok.1 h
    obtain ⟨after, hafter, h⟩ := bind_eq_ok.1 h
    cases h
    refine Document.finished_apply (Node.distinctKeys_foldlM_addTo ?_ (liftExcept_eq _ ▸ hafter))
    rw [Contribution.mergeByPhase_eq]
    exact Contribution.distinctKeys_addAll OrderedMap.distinctKeys_nil _

/-! ## One directive -/

/-- A template of one directive that merges the document of another template for the same object. -/
theorem evaluate_of_merged {name : Option String} {d : Directive} {digest : String}
    (hphase : d.phase ≠ .nodes)
    (hd : s.contribution S (s.evaluate S levels) object f d =
      do return some (.merged (← s.evaluate S levels u object f))) :
    s.evaluate S (levels + 1) (.mk name [d] digest) object f = s.evaluate S levels u object f := by
  have hnodes : (Template.mk name [d] digest).nodes = [] := by
    cases d with
    | node n => exact absurd rfl hphase
    | _ => rfl
  have hgather : s.gather S (s.evaluate S levels) object f [d] =
      (s.evaluate S levels u object f).map fun doc => [(d.phase, .merged doc)] := by
    rw [gather, hd]
    cases s.evaluate S levels u object f <;> rfl
  rw [evaluate, Template.directives, hgather, hnodes]
  cases hdoc : s.evaluate S levels u object f with
  | error e => rfl
  | ok doc =>
    change Except.ok (S.config.nilPolicy.apply
      (Contribution.mergeByPhase [(d.phase, .merged doc)])) = _
    rw [Contribution.mergeByPhase_singleton hphase]
    exact congrArg Except.ok (evaluate_finished hdoc).apply_merge

variable {guard : Guard} (hguard : guard.passes object S.scope = true)
  (hobject : object.isMergeable = true) (name : Option String) (digest : String)

include hguard hobject

theorem evaluate_glue {selector : Selector} (hself : selector.resolve? object S.scope = some object)
    (body : Template) :
    s.evaluate S (levels + 1) (.mk name [.glue selector guard body] digest) object f =
      s.evaluate S levels body object f := by
  refine evaluate_of_merged (fun h => (nomatch h)) ?_
  rw [contribution, glue, if_pos hguard, hself, Data.filter_isMergeable hobject]

theorem evaluate_extension {target : Option Selector}
    (hself : extensionTarget S object target = some object) {base : String} {b : Template}
    (hload : s.load base = .ok b) (extra : Template) :
    s.evaluate S (levels + 1) (.mk name [.extend base target guard extra] digest) object f =
      s.evaluate S levels (b.extendedWith S.digestOf extra) object f := by
  refine evaluate_of_merged (fun h => (nomatch h)) ?_
  rw [contribution, extension, if_pos hguard, hself, Data.filter_isMergeable hobject]
  simp only [hload]
  rfl

end

/-- Apart from the error of the limit, a template counts by its directives alone. -/
theorem evaluate_congr_directives {s : Strategy (Except BuildError)} {S : Setting} {levels : Nat}
    {t u : Template} (h : t.directives = u.directives) {object : Data} {f : Option Filter}
    {doc : Document} (hdoc : s.evaluate S levels t object f = .ok doc) :
    s.evaluate S levels u object f = .ok doc := by
  cases levels with
  | zero => cases hdoc
  | succ levels =>
    rw [evaluate, Template.nodes, ← h]
    exact hdoc

variable {S : Setting} {load : String → Except BuildError Template}

/-- With the levels fixed, the limit is only for the error to report. -/
theorem evaluate_withMaxDepth (limit₁ limit₂ levels : Nat) (t : Template) (object : Data)
    (f : Option Filter) :
    (Simulation.refines BuildError).rel Eq
      ((loading load).evaluate (S.withMaxDepth limit₁) levels t object f)
      ((loading load).evaluate (S.withMaxDepth limit₂) levels t object f) := by
  have hrefl : ∀ {α : Type} (x : Except BuildError α), (Simulation.refines BuildError).rel Eq x x :=
    fun x a ha => ⟨a, ha, rfl⟩
  induction levels generalizing t object f with
  | zero => exact fun doc h => (nomatch h)
  | succ levels ih =>
    have hs : Simulates (Simulation.refines BuildError) (S.withMaxDepth limit₁)
        (S.withMaxDepth limit₂) (loading load) (loading load)
        ((loading load).evaluate (S.withMaxDepth limit₁) levels)
        ((loading load).evaluate (S.withMaxDepth limit₂) levels) SameBuild (fun _ _ => True) :=
      .of_same ⟨rfl, rfl, rfl, rfl⟩ rfl (fun _ _ _ _ => hrefl _) (fun _ _ _ => hrefl _)
        (fun _ => hrefl _) ih (Simulation.compute _ ih) fun t plans => Simulation.mapM _
          fun plan _ => Simulation.compute _ ih t plan
    exact hs.level ⟨rfl, rfl⟩

theorem evaluate_withMaxDepth_eq_ok {limit₁ limit₂ levels : Nat} {t : Template} {object : Data}
    {f : Option Filter} {doc : Document} :
    (loading load).evaluate (S.withMaxDepth limit₁) levels t object f = .ok doc ↔
      (loading load).evaluate (S.withMaxDepth limit₂) levels t object f = .ok doc := by
  constructor
  · intro h
    obtain ⟨_, h', rfl⟩ := evaluate_withMaxDepth limit₁ limit₂ levels t object f doc h
    exact h'
  · intro h
    obtain ⟨_, h', rfl⟩ := evaluate_withMaxDepth limit₂ limit₁ levels t object f doc h
    exact h'

/-- The builds of an object succeed alike if its documents do, whatever the root and the filter. -/
theorem build_eq_ok_congr {limit₁ limit₂ : Nat} {t u : Template} {object : Data}
    (hobject : object.isObject = true)
    (h : ∀ f doc,
      (loading load).evaluate (S.withMaxDepth limit₁) (limit₁ + 1) t object f = .ok doc ↔
        (loading load).evaluate (S.withMaxDepth limit₂) (limit₂ + 1) u object f = .ok doc)
    (options : BuildOptions) (v : Value) :
    (loading load).build (S.withMaxDepth limit₁) options t object = .ok v ↔
      (loading load).build (S.withMaxDepth limit₂) options u object = .ok v := by
  rw [build_object _ options t hobject, build_object _ options u hobject]
  refine compute_eq_ok.trans (Iff.trans ?_ compute_eq_ok.symm)
  exact exists_congr fun doc => and_congr_left' (h _ doc)

end Strategy

/-- The outcome of a build under a depth limit, on a store. -/
def StoreBuild.outcomeWithin {σ : Type} [ResultCache σ] (limit : Nat) (S : Setting)
    (options : BuildOptions) (store : Store σ) (t : Template) (object : Data) :
    Except BuildError Value :=
  ((Strategy.stored (S.withMaxDepth limit) options).build (S.withMaxDepth limit) options t object
    |>.runOn store).1

/-- Where no results are kept, what delegates needs one level more and builds the same: a template
that only extends a base for the object at hand builds what the directives of the base and the
extra ones build directly, and one that only glues that object in builds what the glued template
builds. -/
theorem StoreBuild.delegation_transparent {σ : Type} [ResultCache σ] (S : Setting)
    (options : BuildOptions) {store : Store σ} (hu : store.Uncached S) {object : Data}
    (hblank : object.isBlank = false) (hlist : object.isCollection = false) {guard : Guard}
    (hguard : guard.passes object S.scope = true) (limit : Nat) (name : Option String)
    (digest : String) :
    (∀ base target extra b direct,
      Strategy.extensionTarget S object target = some object → store.load S base = .ok b →
      direct.directives = b.directives ++ extra.directives → ∀ v,
        (outcomeWithin (limit + 1) S options store
            (.mk name [.extend base target guard extra] digest) object = .ok v ↔
          outcomeWithin limit S options store direct object = .ok v)) ∧
    ∀ selector body, selector.resolve? object S.scope = some object → ∀ v,
      (outcomeWithin (limit + 1) S options store
          (.mk name [.glue selector guard body] digest) object = .ok v ↔
        outcomeWithin limit S options store body object = .ok v) := by
  have hmergeable : object.isMergeable = true := by rw [Data.isMergeable, hblank, hlist]; rfl
  have hobject : object.isObject = true := by
    cases object with
    | null => cases hblank
    | list _ _ => cases hlist
    | _ => rfl
  have houtcome : ∀ n t, outcomeWithin n S options store t object =
      (Strategy.loading (store.load S)).build (S.withMaxDepth n) options t object :=
    fun n t => Strategy.runOn_stored_build_of_uncached options t object hu
  simp only [houtcome]
  constructor
  · intro base target extra b direct hself hload hdirect
    refine Strategy.build_eq_ok_congr hobject (fun f doc => ?_) options
    rw [Strategy.evaluate_extension (s := .loading (store.load S))
      (S := S.withMaxDepth (limit + 1)) hguard hmergeable name digest hself hload,
      Strategy.evaluate_withMaxDepth_eq_ok]
    have hdirectives : (b.extendedWith S.digestOf extra).directives = direct.directives :=
      (b.directives_extendedWith S.digestOf extra).trans hdirect.symm
    exact ⟨Strategy.evaluate_congr_directives hdirectives,
      Strategy.evaluate_congr_directives hdirectives.symm⟩
  · intro selector body hself
    refine Strategy.build_eq_ok_congr hobject (fun f doc => ?_) options
    rw [Strategy.evaluate_glue (S := S.withMaxDepth (limit + 1)) hguard hmergeable name digest
      hself, Strategy.evaluate_withMaxDepth_eq_ok]

/-- A page extends a base with one more attribute. The base stores a child and a null, which the
policy drops, and a node of the extension counts what is merged so far. A limit of one is enough
for the directives themselves, but not for the page. -/
theorem StoreBuild.delegation_transparent_page :
    let author := Template.mk none [.attribute { name := "name" }] "author"
    let base := Template.mk (some "base") [.child (.member "author") none {} author,
      .attribute { name := "title" }, .attribute { name := "note" }] "base"
    let extra := Template.mk none [.attribute { name := "stars" },
      .node ⟨some "size", {}, .function "size" fun context =>
        .integer (Int64.ofNat context.document.length)⟩] "extra"
    let page := Template.mk (some "page") [.extend "base" none {} extra] "page"
    let direct := Template.mk none (base.directives ++ extra.directives) "direct"
    let glued := Template.mk (some "page") [.glue .current {} direct] "page"
    let object := Data.record none none [("title", .string "on"), ("stars", .integer 3),
      ("note", .null), ("author", .record none none [("name", .string "ida")])]
    let S : Setting := ⟨{ nilPolicy := .dropNil }, .empty, .nowhere, id⟩
    let store : Store MemoryCache := { registry := some [("base", base)] }
    let result := Value.document [("title", .string "on"), ("stars", .integer 3),
      ("author", .document [("name", .string "ida")]), ("size", .integer 4)]
    (store.Uncached S ∧ object.isBlank = false ∧ object.isCollection = false) ∧
      Strategy.extensionTarget S object none = some object ∧ store.load S "base" = .ok base ∧
      (outcomeWithin 2 S {} store page object = .ok result ↔
        outcomeWithin 1 S {} store direct object = .ok result) ∧
      (outcomeWithin 2 S {} store glued object = .ok result ↔
        outcomeWithin 1 S {} store direct object = .ok result) ∧
      outcomeWithin 1 S {} store direct object = .ok result ∧
      outcomeWithin 2 S {} store page object = .ok result ∧
      outcomeWithin 1 S {} store page object = .error (.templateCycle "<inline>" 2 1) := by
  intro author base extra page direct glued object S store result
  have hu : store.Uncached S := Or.inl rfl
  have htransparent := @StoreBuild.delegation_transparent MemoryCache _ S {} store hu object rfl rfl
    {} rfl 1 (some "page") "page"
  exact ⟨⟨hu, rfl, rfl⟩, rfl, rfl, htransparent.1 "base" none extra base direct rfl rfl rfl result,
    htransparent.2 .current direct rfl result, rfl, rfl, rfl⟩

end DocumentTemplates
