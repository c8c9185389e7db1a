import DocumentTemplates.Proofs.Build.Agreement
import DocumentTemplates.Proofs.Build.SelectedKeys
import DocumentTemplates.Proofs.Cache.Runs

/-!
# Filtering while building, pruning afterwards

A build without nodes under a filter without calls is compared with the unfiltered build. After
pruning, the two are the same. Before it, the filtered build may have more than pruning leaves,
and only in one place: an attribute under a key with a nested filter is written as it is.
-/

namespace DocumentTemplates

/-- A filter that leaves the values of attributes as they are. -/
def Filter.LeavesAttributes (f : Filter) (t : Template) (object : Data) : Prop :=
  ∀ a, Directive.attribute a ∈ t.directives → ∀ member field,
    object.member? a.name = some member → f.field? a.key = some field →
      pruneField field member.toValue = member.toValue

/-- Builds for which filtering and pruning are compared: without nodes and roots, under filters
without calls, with no result left out. -/
structure Setting.Prunable (S : Setting) (exact : Prop)
    (Built : Template → Data → Option Filter → Prop) (Asked : Template → Plan → Prop) : Prop where
  closed : S.Closed Built Asked
  complete : S.config.excludeEmpty = false
  selective : ∀ {t object f}, Built t object (some f) → f.isEmpty = false
  callFree : ∀ {t object f}, Built t object (some f) → f.hasCalls = false
  nodeFree : ∀ {t object f}, Built t object (some f) → ∀ d ∈ t.directives, d.phase ≠ .nodes
  unwrapped : ∀ {t plan}, Asked t plan → plan.root = none
  exact : exact → ∀ {t object f}, Built t object (some f) → f.LeavesAttributes t object

namespace Strategy

variable {S : Setting} {exact : Prop} {Built : Template → Data → Option Filter → Prop}
  {Asked : Template → Plan → Prop}
  {e : Template → Data → Option Filter → Except BuildError Document}
  {t : Template} {object : Data} {f : Filter}

theorem stored_of_callFree (hf : f.hasCalls = false) (key : String) (v : Value) :
    Filter.stored (some f) key v = v := by
  rw [Filter.stored, Filter.applyCalls]
  split
  · rename_i field hfield
    rw [FilterField.calls_eq_nil (Filter.hasCalls_of_field? hf hfield), Filter.applyToValue_nil]
  · rfl

theorem selectItems_of_callFree (elements : List Data) (hf : f.hasCalls = false) {key : String}
    {field : FilterField} (h : f.field? key = some field) :
    FilterField.selectItems (some field) elements = elements := by
  rw [FilterField.selectItems, FilterField.calls_eq_nil (Filter.hasCalls_of_field? hf h)]
  rfl

theorem admits_eq_isSome (f : Filter) (key : String) :
    Filter.admits (some f) key = (f.field? key).isSome := rfl

section
variable (hp : S.Prunable exact Built Asked)
  (he : ∀ {t object f}, Built t object (some f) →
    Follows exact f.prune (e t object none) (e t object (some f)))
include hp

theorem attribute_follows (hb : Built t object (some f)) {a : Attribute}
    (ha : Directive.attribute a ∈ t.directives) :
    Follows exact (Contribution.leftBy f) (a.contribution S object none)
      (a.contribution S object (some f)) := by
  cases hfield : f.field? a.key with
  | none =>
    have hbarred : a.contribution S object (some f) = .ok none := by
      rw [Attribute.contribution, admits_eq_isSome, hfield, Option.isSome_none, Bool.and_false]
      rfl
    rw [hbarred]
    refine Follows.to_none fun c hc => ?_
    obtain ⟨member, -, rfl, -⟩ := attribute_contribution hc
    rw [Contribution.prunedBy, hfield, Option.map_none]
  | some field =>
    have hsame : a.contribution S object none = a.contribution S object (some f) := by
      have hadmits : Filter.admits none a.key = Filter.admits (some f) a.key := by
        rw [admits_eq_isSome, hfield]
        rfl
      simp only [Attribute.contribution, hadmits, stored_of_callFree (hp.callFree hb)]
      rfl
    refine Follows.of_eq hsame fun c hc hexact => ?_
    cases c with
    | none => rfl
    | some c =>
      obtain ⟨member, hmember, rfl, -⟩ := attribute_contribution hc
      rw [Contribution.leftBy_entry hfield]
      exact congrArg (fun v => some (Contribution.entry a.key v))
        (hp.exact hexact hb a ha member field hmember hfield)

include he

theorem compute_follows {plan : Plan} (ha : Asked t plan) (hf : plan.filter = some f) :
    Follows exact (Filter.mapDocuments f.prune) (compute e t ⟨plan.item, none, none⟩)
      (compute e t plan) := by
  obtain ⟨item, root, _⟩ := plan
  obtain rfl : root = none := hp.unwrapped ha
  obtain rfl : _ = some f := hf
  exact (he (hp.closed.plan ha)).map Value.document fun doc => rfl

theorem results_follow {elementRoot : RootSetting} {collection : Option String}
    {elements : List Data}
    (ha : ∀ plan ∈ Plan.ofItems elementRoot collection (some f) elements, Asked t plan) :
    Follows exact (List.map (Filter.mapDocuments f.prune))
      ((Plan.ofItems elementRoot collection none elements).mapM (compute e t))
      ((Plan.ofItems elementRoot collection (some f) elements).mapM (compute e t)) := by
  induction elements with
  | nil => exact .of_eq rfl fun vs hvs _ => by cases hvs; rfl
  | cons item rest ih =>
    have hitem := ha _ List.mem_cons_self
    have hrest := ih fun plan hplan => ha plan (List.mem_cons_of_mem _ hplan)
    unfold Plan.ofItems at hitem hrest ⊢
    rw [List.map_cons, List.map_cons, List.mapM_cons, List.mapM_cons]
    have hroot := hp.unwrapped hitem
    simp only at hroot hitem ⊢
    rw [hroot] at hitem ⊢
    refine (Simulation.refines BuildError).bind (compute_follows hp he hitem rfl) fun v w hvw => ?_
    refine (Simulation.refines BuildError).bind hrest fun vs ws hvs => ?_
    exact Simulation.pure _ (hvw.cons hvs)

theorem items_follows {elementRoot : RootSetting} {collection : Option String}
    {elements : List Data}
    (ha : ∀ plan ∈ Plan.ofItems elementRoot collection (some f) elements, Asked t plan) :
    Follows exact (List.map (Filter.mapDocuments f.prune))
      ((plain S).items S e t elementRoot collection none elements)
      ((plain S).items S e t elementRoot collection (some f) elements) := by
  unfold items
  rw [hp.complete]
  exact (results_follow hp he ha).map (fun results => results) fun _ => rfl

omit he in
/-- What is stored under a key follows, if what is built for it under the nested filter does. -/
theorem entry_follows {α : Type} (x : Option Filter → Except BuildError α) (g : α → Value)
    (p : Filter → α → α) (hg : ∀ f' a, Filter.mapDocuments f'.prune (g a) = g (p f' a))
    (hb : Built t object (some f)) {name : String} {field : FilterField}
    (hfield : f.field? name = some field)
    (hx : ∀ f', f.nestedFor? name = some f' → Follows exact (p f') (x none) (x (some f'))) :
    Follows exact (Contribution.leftBy f)
      (x none >>= fun a => pure (some (.entry name (g a))))
      (x (f.nestedFor? name) >>= fun a => pure (some (.entry name (g a)))) := by
  cases hnested : f.nestedFor? name with
  | none =>
    refine .of_eq rfl fun c hc _ => ?_
    obtain ⟨a, -, hc⟩ := bind_eq_ok.1 hc
    cases hc
    rw [Contribution.leftBy_entry hfield,
      Filter.pruneField_of_not_nestedFor? (hp.callFree hb) hfield hnested]
  | some f' =>
    refine (hx f' hnested).map (fun a => some (Contribution.entry name (g a))) fun a => ?_
    rw [Contribution.leftBy_entry hfield,
      Filter.pruneField_of_nestedFor? (hp.callFree hb) hfield hnested, hg]

theorem child_follows (hb : Built t object (some f)) {selector : Selector}
    {objectRoot : Option RootSetting} {guard : Guard} {body : Template}
    (hd : Directive.child selector objectRoot guard body ∈ t.directives) :
    Follows exact (Contribution.leftBy f)
      ((plain S).child S e object none selector objectRoot guard body)
      ((plain S).child S e object (some f) selector objectRoot guard body) := by
  cases hguard : guard.passes object S.scope with
  | false =>
    simp only [child, hguard]
    exact .nothing
  | true =>
    cases hdata : (selector.resolve? object S.scope).filter fun data => !data.isBlank with
    | none =>
      simp only [child, hguard, hdata]
      exact .nothing
    | some data =>
      have hresolved := (Option.filter_eq_some_iff.1 hdata).1
      cases hname : deriveName? (some selector) data none with
      | none =>
        simp only [child, hguard, hdata, hname]
        exact .nothing
      | some name =>
        cases hfield : f.field? name with
        | none =>
          have hbarred : (plain S).child S e object (some f) selector objectRoot guard body =
              .ok none := by
            simp only [child, hguard, hdata, hname, admits_eq_isSome, hfield]
            rfl
          -- the whole build may still contribute, but under this name, which pruning removes
          rw [hbarred]
          refine Follows.to_none fun c hc => ?_
          obtain ⟨data', name', v, hresolved', hname', rfl, -⟩ := child_contribution hc
          obtain rfl := Option.some.inj (hresolved.symm.trans hresolved')
          obtain rfl := Option.some.inj (hname.symm.trans hname')
          rw [Contribution.prunedBy, hfield, Option.map_none]
        | some field =>
          have hselect := fun elements => selectItems_of_callFree elements (hp.callFree hb) hfield
          have hadmits : Filter.admits none name = true := rfl
          have hplans := hp.closed.child hb hd
          simp only [childPlans, hresolved, hname, Option.bind_some, hfield, hselect] at hplans
          simp only [child, hguard, hdata, hname, hadmits, admits_eq_isSome, hfield,
            Option.bind_some, hselect]
          cases data with
          | list _ elements =>
            refine entry_follows hp (fun f' => (plain S).items S e body _ (some name) f' elements)
              Value.array (fun f' => List.map (Filter.mapDocuments f'.prune))
              (fun f' => Filter.mapDocuments_array f'.prune) hb hfield fun f' hf' => ?_
            rw [hf'] at hplans
            exact items_follows hp he hplans
          | _ =>
            refine entry_follows hp (fun f' => compute e body ⟨_, none, f'⟩) (fun v => v)
              (fun f' => Filter.mapDocuments f'.prune) (fun _ _ => rfl) hb hfield fun f' hf' => ?_
            rw [hf'] at hplans
            exact compute_follows hp he (hplans _ (List.mem_singleton_self _)) rfl

theorem glue_follows (hb : Built t object (some f)) {selector : Selector} {guard : Guard}
    {body : Template} (hd : Directive.glue selector guard body ∈ t.directives) :
    Follows exact (Contribution.leftBy f)
      (glue S e object none selector guard body) (glue S e object (some f) selector guard body) := by
  unfold glue
  split
  · split
    · rename_i data hdata
      have hbody := hp.closed.glue hb hd (Option.filter_eq_some_iff.1 hdata).1
      exact (he hbody).map (fun doc => some (Contribution.merged doc)) fun doc => rfl
    · exact .nothing
  · exact .nothing

theorem extension_follows (hb : Built t object (some f)) {base : String}
    {target : Option Selector} {guard : Guard} {extra : Template}
    (hd : Directive.extend base target guard extra ∈ t.directives) :
    Follows exact (Contribution.leftBy f)
      ((plain S).extension S e object none base target guard extra)
      ((plain S).extension S e object (some f) base target guard extra) := by
  unfold extension
  split
  · split
    · rename_i data hdata
      intro c hc
      obtain ⟨b, hload, hc⟩ := bind_eq_ok.1 hc
      have hbase := hp.closed.extend hb hd (Option.filter_eq_some_iff.1 hdata).1 hload
      have hmerged : Follows exact (Contribution.leftBy f) _ _ :=
        (he hbase).map (fun doc => some (Contribution.merged doc)) fun doc => rfl
      obtain ⟨c', hc', hagrees⟩ := hmerged c hc
      exact ⟨c', bind_eq_ok.2 ⟨b, hload, hc'⟩, hagrees⟩
    · exact .nothing
  · exact .nothing

theorem contributionOn_follows (hb : Built t object (some f)) {d : Directive}
    (hd : d ∈ t.directives) (doc left : Document) :
    Follows exact (Contribution.leftBy f)
      (contributionOn S e object none doc d) (contributionOn S e object (some f) left d) := by
  cases d with
  | «attribute» a =>
    have h := attribute_follows hp hb hd
    rw [← liftExcept_eq (a.contribution S object none),
      ← liftExcept_eq (a.contribution S object (some f))] at h
    exact h
  | node n => exact absurd rfl (hp.nodeFree hb _ hd)
  | child selector objectRoot guard body => exact child_follows hp he hb hd
  | glue selector guard body => exact glue_follows hp he hb hd
  | extend base target guard extra => exact extension_follows hp he hb hd

theorem inTurn_follows (hb : Built t object (some f)) {ds : List Directive}
    (hds : ∀ d ∈ ds, d ∈ t.directives) (doc left : Document) :
    Follows exact (List.filterMap (Contribution.prunedBy f)) (inTurn S e object none doc ds)
      (inTurn S e object (some f) left ds) := by
  induction ds generalizing doc left with
  | nil => exact Follows.of_eq rfl fun cs hcs _ => by cases hcs; rfl
  | cons d rest ih =>
    refine (Simulation.refines BuildError).bind
      (contributionOn_follows hp he hb (hds d List.mem_cons_self) doc left) fun c c' hc => ?_
    refine (Simulation.refines BuildError).bind
      (ih (fun x hx => hds x (List.mem_cons_of_mem d hx)) _ _) fun cs cs' hcs => ?_
    exact Simulation.pure _ (hc.toList_append hcs)

end

/-- The document under a filter follows the whole document, by induction on the bound of nesting. -/
theorem evaluate_follows (hp : S.Prunable exact Built Asked) (levels : Nat)
    (hb : Built t object (some f)) :
    Follows exact f.prune ((plain S).evaluate S levels t object none)
      ((plain S).evaluate S levels t object (some f)) := by
  induction levels generalizing t object f with
  | zero => exact fun doc hdoc => by cases hdoc
  | succ levels ih =>
    intro doc hdoc
    obtain ⟨cs, hcs, rfl⟩ := (level_eq_ok (e := (plain S).evaluate S levels)).1 hdoc
    -- no node is there to look at the document, so it does not matter where the turns start
    obtain ⟨cs', hcs', hagrees⟩ := inTurn_follows hp (fun hb => ih hb) hb
      (fun d hd => Template.mem_inPhases.1 hd) [] [] cs hcs
    refine ⟨_, level_eq_ok.2 ⟨cs', hcs', rfl⟩, hagrees.map
      (fun cs => S.config.nilPolicy.apply (Contribution.addAll [] cs)) fun cs => ?_⟩
    rw [Filter.prune_apply _ _ (hp.callFree hb), Contribution.prune_addAll (hp.selective hb),
      Filter.prune_nil]

/-- The build under a filter follows the unfiltered build, if nothing is wrapped at the top. -/
theorem build_follows (hp : S.Prunable exact Built Asked) {options : BuildOptions} {data : Data}
    (hroot : (options.root.getD S.config.root).resolve? (deriveName? none data none) = none)
    (hfilter : options.activeFilter = some f) (ha : ∀ plan ∈ buildPlans S options data, Asked t plan) :
    Follows exact (Filter.mapDocuments f.prune) (t.build S { options with filter := none } data)
      (t.build S options data) := by
  have he : ∀ {t object f}, Built t object (some f) → Follows exact f.prune
      ((plain S).document S t object none) ((plain S).document S t object (some f)) :=
    fun hb => evaluate_follows hp _ hb
  have hwhole : BuildOptions.activeFilter { options with filter := none } = none := rfl
  unfold Template.build Strategy.build
  unfold buildPlans at ha
  simp only [hroot, hfilter, hwhole] at ha ⊢
  cases data with
  | null => exact .of_eq rfl fun v hv _ => by cases hv; rfl
  | list _ elements =>
    exact (items_follows hp he ha).map Value.array fun results =>
      Filter.mapDocuments_array _ results
  | _ => exact compute_follows hp he (ha _ (List.mem_singleton_self _)) rfl

end Strategy

/-- What a build leads to, if it has no nodes, no roots and no calls. -/
theorem Reached.prunable {S : Setting} {options : BuildOptions} {t : Template} {data : Data}
    {f : Filter} (hactive : options.activeFilter = some f) (hcalls : f.hasCalls = false)
    (hcomplete : S.config.excludeEmpty = false)
    (hroots : ∀ u plan, Reached S [.build options t data] (.result u plan) → plan.root = none)
    (hnodes : ∀ u object g, Reached S [.build options t data] (.document u object (some g)) →
      ∀ d ∈ u.directives, d.phase ≠ .nodes) :
    S.Prunable
      (∀ u object g, Reached S [.build options t data] (.document u object (some g)) →
        g.LeavesAttributes u object)
      (fun u object g => Reached S [.build options t data] (.document u object g))
      (Call.Asked S [.build options t data]) where
  closed := Reached.closed S _
  complete := hcomplete
  selective hb := Reached.active hb _ rfl
  callFree := by
    refine fun hb => Reached.filters (Q := fun g => g.hasCalls = false)
      (fun f name g hf hg => Filter.hasCalls_of_nestedFor? hf hg) ?_ hb _ rfl
    intro call hcall g hg
    obtain rfl := List.mem_singleton.1 hcall
    obtain rfl : f = g := Option.some.inj (hactive.symm.trans hg)
    exact hcalls
  nodeFree hb := hnodes _ _ _ hb
  unwrapped ha := hroots _ _ ha
  exact hexact _ _ _ hb := hexact _ _ _ hb

namespace Template

/-- Filtering while building and pruning afterwards. Without nodes and roots, with no result left
out, and for a filter without calls, the filtered build succeeds where the unfiltered one does, and
pruning leaves the same of both. It gives the pruned result exactly if nothing of it is left to
prune; so it does where the filter leaves the values of attributes as they are. -/
theorem build_filter_prune {S : Setting} {options : BuildOptions} {t : Template} {data : Data}
    {f : Filter} (hfilter : options.filter = some f) (hf : f.isEmpty = false)
    (hcalls : f.hasCalls = false) (hcomplete : S.config.excludeEmpty = false)
    (hroot : (options.root.getD S.config.root).resolve? (deriveName? none data none) = none)
    (hroots : ∀ u plan, Reached S [.build options t data] (.result u plan) → plan.root = none)
    (hnodes : ∀ u object g, Reached S [.build options t data] (.document u object (some g)) →
      ∀ d ∈ u.directives, d.phase ≠ .nodes)
    {v : Value} (hv : t.build S { options with filter := none } data = .ok v) :
    ∃ w, t.build S options data = .ok w ∧
      Filter.mapDocuments f.prune w = Filter.mapDocuments f.prune v ∧
      (w = Filter.mapDocuments f.prune v ↔ Filter.mapDocuments f.prune w = w) ∧
      ((∀ u object g, Reached S [.build options t data] (.document u object (some g)) →
        g.LeavesAttributes u object) → w = Filter.mapDocuments f.prune v) := by
  have hactive : options.activeFilter = some f := BuildOptions.activeFilter_eq hfilter hf
  have hp := Reached.prunable hactive hcalls hcomplete hroots hnodes
  obtain ⟨w, hw, hagrees⟩ := Strategy.build_follows hp hroot hactive
    (fun plan hplan => .call (List.mem_singleton_self _) ⟨rfl, hplan⟩) v hv
  refine ⟨w, hw, hagrees.prune_eq, ⟨fun h => ?_, fun h => ?_⟩, hagrees.eq_prune⟩
  · rw [hagrees.prune_eq, ← h]
  · rw [← hagrees.prune_eq, h]

/-- A list of posts, of which the filter selects the titles, and a name that it does not select. -/
theorem build_filter_prune_posts :
    let S : Setting := ⟨{}, .empty, .memory [], id⟩
    let nested := Filter.mk (some "posts") [.mk "title" [] none]
    let f := Filter.mk none [.mk "posts" [] (some nested)]
    let post := Template.mk none [.attribute { name := "id" }, .attribute { name := "title" }] ""
    let other := Template.mk none [.attribute { name := "name" }] ""
    let t := Template.mk none [.child (.member "posts") none {} post, .glue .current {} other] ""
    let data := Data.record none none [("name", .string "leo"), ("posts", .list (some "posts")
      [.record none none [("id", .integer 1), ("title", .string "first")]])]
    let options : BuildOptions := { filter := some f }
    let v := Value.document [("posts", .array [.document
      [("id", .integer 1), ("title", .string "first")]]), ("name", .string "leo")]
    f.isEmpty = false ∧ f.hasCalls = false ∧
      (∀ u plan, Reached S [.build options t data] (.result u plan) → plan.root = none) ∧
      (∀ u object g, Reached S [.build options t data] (.document u object (some g)) →
        ∀ d ∈ u.directives, d.phase ≠ .nodes) ∧
      t.build S { options with filter := none } data = .ok v ∧
      t.build S options data = .ok (Filter.mapDocuments f.prune v) := by
  intro S nested f post other t data options v
  have hasks : ∀ call ∈ [Call.build options t data], ∀ u plan, call.Asks S u plan →
      u = t ∧ plan = ⟨data, none, some f⟩ := by
    intro call hcall u plan ha
    obtain rfl := List.mem_singleton.1 hcall
    exact ⟨ha.1, List.mem_singleton.1 ha.2⟩
  have htemplates : ∀ part, Reached S [.build options t data] part →
      part.template = t ∨ part.template = post ∨ part.template = other := by
    refine fun part => Reached.templates (Q := fun u => u = t ∨ u = post ∨ u = other)
      (fun call hcall u plan ha => Or.inl (hasks call hcall u plan ha).1) ?_ ?_ ?_
    · rintro u selector objectRoot guard body (rfl | rfl | rfl) hd <;>
        simp_all [t, post, other, Template.directives]
    · rintro u selector guard body (rfl | rfl | rfl) hd <;>
        simp_all [t, post, other, Template.directives]
    · rintro u base target guard extra b (rfl | rfl | rfl) hd <;>
        simp_all [t, post, other, Template.directives]
  have hfilters : ∀ part, Reached S [.build options t data] part →
      ∀ g ∈ part.filter, g = f ∨ g = nested := by
    refine fun part => Reached.filters (Q := fun g => g = f ∨ g = nested) ?_ ?_
    · intro f₀ name g hf₀ hg
      rw [Filter.nestedFor?] at hg
      split at hg
      · rename_i field hfield
        have hmem := List.mem_of_find?_eq_some hfield
        rcases hf₀ with h | h <;> rw [h] at hmem <;> obtain rfl := List.mem_singleton.1 hmem
        · exact Or.inr (Option.some.inj hg).symm
        · cases hg
      · cases hg
    · intro call hcall g hg
      obtain rfl := List.mem_singleton.1 hcall
      exact Or.inl (Option.some.inj hg).symm
  have hroots : ∀ u plan, Reached S [.build options t data] (.result u plan) → plan.root = none := by
    refine fun u plan => Reached.root_eq_none ?_ ?_
    · intro call hcall u plan ha
      rw [(hasks call hcall u plan ha).2]
    · intro u object g selector objectRoot guard body hu hd
      have h := htemplates _ hu
      change u = t ∨ u = post ∨ u = other at h
      rcases h with h | h | h <;> rw [h] at hd
      · obtain ⟨rfl, rfl, rfl, rfl⟩ : _ ∧ _ ∧ _ ∧ _ := by
          simpa [t, Template.directives] using hd
        rfl
      · simp [post, Template.directives] at hd
      · simp [other, Template.directives] at hd
  have hnodes : ∀ u object g, Reached S [.build options t data] (.document u object (some g)) →
      ∀ d ∈ u.directives, d.phase ≠ .nodes := by
    intro u object g hu
    rcases htemplates _ hu with rfl | rfl | rfl <;>
      simp [t, other, post, Template.directives, Directive.phase]
  have hleaves : ∀ u object g, Reached S [.build options t data] (.document u object (some g)) →
      g.LeavesAttributes u object := by
    intro u object g hu a ha member field _ hfield
    have hkey : a.key ≠ "posts" := by
      have h := htemplates _ hu
      change u = t ∨ u = post ∨ u = other at h
      rcases h with h | h | h <;> rw [h] at ha
      · simp [t, Template.directives] at ha
      · rcases List.mem_pair.1 ha with h | h <;> cases h <;> decide
      · cases List.mem_singleton.1 ha
        decide
    have hmem := List.mem_of_find?_eq_some hfield
    have hname := List.find?_some hfield
    rcases hfilters _ hu g rfl with h | h <;> rw [h] at hmem <;>
      obtain rfl := List.mem_singleton.1 hmem
    · exact absurd (beq_iff_eq.1 hname).symm hkey
    · rw [Filter.pruneField, Filter.applyToValue_nil]
  have hv : t.build S { options with filter := none } data = .ok v := rfl
  have hfilter : options.filter = some f := rfl
  obtain ⟨w, hw, -, -, hexact⟩ :=
    build_filter_prune hfilter rfl rfl rfl rfl hroots hnodes hv
  exact ⟨rfl, rfl, hroots, hnodes, hv, hexact hleaves ▸ hw⟩

/-- An attribute that holds a record is written whole, though the filter selects only a part. -/
theorem not_build_filter_prune_attribute :
    let S : Setting := ⟨{}, .empty, .memory [], id⟩
    let f := Filter.mk none [.mk "user" [] (some (.mk (some "user") [.mk "name" [] none]))]
    let t := Template.mk none [.attribute { name := "user" }] ""
    let user := [("name", Value.string "leo"), ("email", .string "leo@example.com")]
    let data := Data.record none none [("user", .record none none
      [("name", .string "leo"), ("email", .string "leo@example.com")])]
    let options : BuildOptions := { filter := some f }
    f.isEmpty = false ∧ f.hasCalls = false ∧
      t.build S { options with filter := none } data =
        .ok (.document [("user", .document user)]) ∧
      t.build S options data = .ok (.document [("user", .document user)]) ∧
      Filter.mapDocuments f.prune (.document [("user", .document user)]) =
        .document [("user", .document [("name", .string "leo")])] ∧
      Value.document [("user", .document user)] ≠
        Filter.mapDocuments f.prune (.document [("user", .document user)]) := by
  intro S f t user data options
  have hpruned : Filter.mapDocuments f.prune (.document [("user", .document user)]) =
      .document [("user", .document [("name", .string "leo")])] := rfl
  refine ⟨rfl, rfl, rfl, rfl, hpruned, ?_⟩
  rw [hpruned]
  simp [user]

end Template

end DocumentTemplates
