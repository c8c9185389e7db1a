import DocumentTemplates.Cache.Memory
import DocumentTemplates.Proofs.Build.Narrowing
import DocumentTemplates.Proofs.Build.Registered
import DocumentTemplates.Proofs.Build.SelectedKeys
import DocumentTemplates.Proofs.Filter.Sequences

/-!
# Filtered builds beside whole builds

A filter leaves out what it does not select before it is computed. So a build that succeeds without
a filter succeeds under every filter. Where every node has a name and no function computes its
value, the filtered document is the whole one narrowed: it has the selected keys, in their order.
-/

namespace DocumentTemplates

/-- True of a node with a name whose value does not come from a function. -/
def Node.isDeclarative (n : Node) : Bool :=
  n.name.isSome && !n.compute.isFunction

namespace Template

variable {S : Setting} {load : String → Except BuildError Template} {t u v : Template}

theorem Includes.trans (hu : t.Includes S load u) (hv : u.Includes S load v) :
    t.Includes S load v := by
  induction hv with
  | self => exact hu
  | glue _ hd ih => exact ih.glue hd
  | extend _ hd hload ih => exact ih.extend hd hload

/-- Every node is declarative, in the template and in those merged into it. -/
def Declarative (S : Setting) (load : String → Except BuildError Template) (t : Template) : Prop :=
  ∀ u, t.Includes S load u → ∀ n, Directive.node n ∈ u.directives → n.isDeclarative = true

theorem Declarative.of_includes (h : t.Declarative S load) (hu : t.Includes S load u) :
    u.Declarative S load :=
  fun v hv => h v (hu.trans hv)

end Template

theorem exists_mapM_eq_ok {ε α β : Type} {f : α → Except ε β} {as : List α} :
    (∃ bs, as.mapM f = .ok bs) ↔ ∀ a ∈ as, ∃ b, f a = .ok b := by
  induction as with
  | nil => exact ⟨fun _ _ ha => (nomatch ha), fun _ => ⟨[], rfl⟩⟩
  | cons a rest ih =>
    rw [List.forall_mem_cons, ← ih]
    simp only [List.mapM_cons, bind_eq_ok]
    constructor
    · rintro ⟨bs, b, hb, more, hmore, -⟩
      exact ⟨⟨b, hb⟩, more, hmore⟩
    · rintro ⟨⟨b, hb⟩, more, hmore⟩
      exact ⟨b :: more, b, hb, more, hmore, rfl⟩

namespace Strategy

/-- A document under a filter succeeds where the whole one does, and is narrowed if `P` holds. -/
def Narrows (policy : NilPolicy) (f : Option Filter) (P : Prop)
    (whole left : Except BuildError Document) : Prop :=
  (Simulation.refines BuildError).rel (fun doc kept => P → policy.Narrowed f doc kept) whole left

/-- Builds that succeed under every filter where they do without, and that narrow the documents of
declarative templates. -/
def Narrowing (S : Setting) (load : String → Except BuildError Template)
    (e : Template → Data → Option Filter → Except BuildError Document) : Prop :=
  ∀ t object f,
    Narrows S.config.nilPolicy f (t.Declarative S load) (e t object none) (e t object f)

/-- What a directive contributes under a filter beside what it contributes without. -/
def Beside (policy : NilPolicy) (f : Option Filter) (P : Prop)
    (whole left : Except BuildError (Option Contribution)) : Prop :=
  (Simulation.refines BuildError).rel
    (fun c d => P → Contribution.Narrows policy f c.toList d.toList) whole left

section
variable {policy : NilPolicy} {f : Option Filter} {P : Prop}

theorem Beside.nothing : Beside policy f P (.ok none) (.ok none) :=
  Simulation.pure _ fun _ => .nil

/-- What is stored under a key that the filter does not admit is left out. -/
theorem Beside.barred {key : String} (hkey : Filter.admits f key = false)
    {whole : Except BuildError (Option Contribution)}
    (h : ∀ c, whole = .ok (some c) → ∃ v, c = .entry key v) :
    Beside policy f P whole (.ok none) := by
  rintro (_ | c) hc
  · exact ⟨none, rfl, fun _ => .nil⟩
  · obtain ⟨v, rfl⟩ := h c hc
    exact ⟨none, rfl, fun _ => .barred hkey v⟩

variable {S : Setting} {load : String → Except BuildError Template}
  {e : Template → Data → Option Filter → Except BuildError Document} {t : Template} {object : Data}

theorem selectItems_subset (field : Option FilterField) (items : List Data) :
    FilterField.selectItems field items ⊆ items := by
  cases field with
  | none => exact List.Subset.refl _
  | some field => exact (FunctionCall.applyAll_subperm field.calls).subset

theorem gather_cons (d : Directive) (rest : List Directive) :
    (loading load).gather S e object f (d :: rest) = (do
      let first ← (loading load).contribution S e object f d
      let more ← (loading load).gather S e object f rest
      return (first.map (d.phase, ·)).toList ++ more) := by
  rw [gather]
  refine bind_congr fun first => bind_congr fun more => ?_
  cases first <;> rfl

/-! ## Directives -/

theorem attribute_beside (a : Attribute) :
    Beside policy f P (a.contribution S object none) (a.contribution S object f) := by
  cases hkey : Filter.admits f a.key with
  | false =>
    have hbarred : a.contribution S object f = .ok none := by
      rw [Attribute.contribution, hkey, Bool.and_false]
      rfl
    rw [hbarred]
    refine .barred hkey fun c hc => ?_
    obtain ⟨member, -, rfl, -⟩ := attribute_contribution hc
    exact ⟨_, rfl⟩
  | true =>
    have hnone : Filter.admits none a.key = true := rfl
    simp only [Attribute.contribution, hkey, hnone]
    split
    · split
      · exact Simulation.pure _ fun _ => .entry hkey (policy.drops_stored f a.key _)
      · split
        · exact fun c hc => nomatch hc
        · exact .nothing
    · exact .nothing

/-! ## Nested builds -/

section
variable (he : Narrowing S load e)
include he

theorem compute_succeeds {item : Data} {root : Option String}
    (h : ∃ v, compute e t ⟨item, root, none⟩ = .ok v) (f : Option Filter) :
    ∃ w, compute e t ⟨item, root, f⟩ = .ok w := by
  obtain ⟨v, hv⟩ := h
  obtain ⟨whole, hwhole, -⟩ := compute_eq_ok.1 hv
  obtain ⟨left, hleft, -⟩ := he t item f whole hwhole
  exact ⟨_, compute_eq_ok.2 ⟨left, hleft, rfl⟩⟩

/-- If all items can be built, then those that are left can be built under a filter. -/
theorem items_succeed {elementRoot : RootSetting} {collection : Option String}
    {elements left : List Data} (hleft : left ⊆ elements) (f : Option Filter) {vs : List Value}
    (hvs : (loading load).items S e t elementRoot collection none elements = .ok vs) :
    ∃ ws, (loading load).items S e t elementRoot collection f left = .ok ws := by
  obtain ⟨results, hresults, -⟩ := bind_eq_ok.1 hvs
  have hall := exists_mapM_eq_ok.1 ⟨results, hresults⟩
  have hplans : ∀ plan ∈ Plan.ofItems elementRoot collection f left,
      ∃ v, compute e t plan = .ok v := by
    intro plan hplan
    obtain ⟨item, hitem, rfl⟩ := List.mem_map.1 hplan
    exact compute_succeeds he (hall _ (List.mem_map_of_mem (hleft hitem))) _
  obtain ⟨ws, hws⟩ := exists_mapM_eq_ok.2 hplans
  exact ⟨_, bind_eq_ok.2 ⟨ws, hws, rfl⟩⟩

theorem child_beside (selector : Selector) (objectRoot : Option RootSetting) (guard : Guard)
    (body : Template) :
    Beside policy f P ((loading load).child S e object none selector objectRoot guard body)
      ((loading load).child S e object f selector objectRoot guard body) := by
  unfold child
  split
  · split
    · exact .nothing
    · rename_i data hdata
      split
      · exact .nothing
      · rename_i name hname
        cases hkey : Filter.admits f name with
        | false =>
          -- the whole build may still contribute, but under this name
          refine .barred hkey fun c hc => ?_
          cases data with
          | list _ elements =>
            obtain ⟨results, -, hc⟩ := bind_eq_ok.1 hc
            cases hc
            exact ⟨_, rfl⟩
          | _ =>
            obtain ⟨result, -, hc⟩ := bind_eq_ok.1 hc
            cases hc
            exact ⟨_, rfl⟩
        | true =>
          intro c hc
          cases data with
          | list _ elements =>
            obtain ⟨results, hresults, hc⟩ := bind_eq_ok.1 hc
            obtain ⟨left, hleft⟩ := items_succeed he (selectItems_subset _ elements) _ hresults
            refine ⟨_, bind_eq_ok.2 ⟨left, hleft, rfl⟩, fun _ => ?_⟩
            cases hc
            exact .entry hkey ((policy.drops_array _).trans (policy.drops_array _).symm)
          | _ =>
            obtain ⟨result, hresult, hc⟩ := bind_eq_ok.1 hc
            obtain ⟨left, hleft⟩ := compute_succeeds he ⟨result, hresult⟩ _
            refine ⟨_, bind_eq_ok.2 ⟨left, hleft, rfl⟩, fun _ => ?_⟩
            cases hc
            obtain ⟨doc, -, rfl⟩ := compute_eq_ok.1 hresult
            obtain ⟨kept, -, rfl⟩ := compute_eq_ok.1 hleft
            exact .entry hkey ((policy.drops_document _).trans (policy.drops_document _).symm)
  · exact .nothing

theorem glue_beside (selector : Selector) (guard : Guard) {body : Template}
    (hbody : P → body.Declarative S load) :
    Beside S.config.nilPolicy f P (glue S e object none selector guard body)
      (glue S e object f selector guard body) := by
  unfold glue
  split
  · split
    · rename_i data hdata
      exact Simulation.bind _ (he body data f) fun whole left h =>
        Simulation.pure _ fun hp => .merged (h (hbody hp))
    · exact .nothing
  · exact .nothing

theorem extension_beside (base : String) (target : Option Selector) (guard : Guard)
    {extra : Template} (hbase : P → ∀ b, load base = .ok b →
      (b.extendedWith S.digestOf extra).Declarative S load) :
    Beside S.config.nilPolicy f P
      ((loading load).extension S e object none base target guard extra)
      ((loading load).extension S e object f base target guard extra) := by
  unfold extension
  split
  · split
    · rename_i data hdata
      refine Simulation.bind (Simulation.refines BuildError)
        (P := fun b b' => b = b' ∧ load base = .ok b) (fun b hb => ⟨b, hb, rfl, hb⟩) ?_
      rintro b _ ⟨rfl, hb⟩
      exact Simulation.bind _ (he _ data f) fun whole left h =>
        Simulation.pure _ fun hp => .merged (h (hbase hp b hb))
    · exact .nothing
  · exact .nothing

theorem contribution_beside {d : Directive} (hd : d ∈ t.directives) :
    Beside S.config.nilPolicy f (t.Declarative S load)
      ((loading load).contribution S e object none d)
      ((loading load).contribution S e object f d) := by
  cases d with
  | «attribute» a =>
    simp only [contribution, liftExcept_eq]
    exact attribute_beside a
  | node n => exact .nothing
  | child selector objectRoot guard body => exact child_beside he selector objectRoot guard body
  | glue selector guard body =>
    exact glue_beside he selector guard fun ht => ht.of_includes (.glue .self hd)
  | extend base target guard extra =>
    exact extension_beside he base target guard fun ht b hb => ht.of_includes (.extend .self hd hb)

theorem gather_beside {ds : List Directive} (hds : ∀ d ∈ ds, d ∈ t.directives) :
    (Simulation.refines BuildError).rel
      (fun whole left => t.Declarative S load → ∀ phase,
        Contribution.Narrows S.config.nilPolicy f (Contribution.ofPhase whole phase)
          (Contribution.ofPhase left phase))
      ((loading load).gather S e object none ds) ((loading load).gather S e object f ds) := by
  induction ds with
  | nil => exact Simulation.pure _ fun _ _ => .nil
  | cons d rest ih =>
    rw [gather_cons, gather_cons]
    refine Simulation.bind _ (contribution_beside he (hds d List.mem_cons_self)) fun c c' hc => ?_
    refine Simulation.bind _ (ih fun x hx => hds x (List.mem_cons_of_mem d hx)) fun cs cs' hcs => ?_
    refine Simulation.pure _ fun ht phase => ?_
    rw [Contribution.ofPhase_append, Contribution.ofPhase_append, Contribution.ofPhase_of,
      Contribution.ofPhase_of]
    refine Contribution.Narrows.append ?_ (hcs ht phase)
    split
    · exact hc ht
    · exact .nil

end

/-! ## Nodes -/

/-- A node has a value on every document, or on none, and the same unless a function computes it. -/
theorem value_beside {n : Node} (hn : P → n.isDeclarative = true) (whole left : Document) :
    (Simulation.refines BuildError).rel (fun v w => P → v = w) (n.value S object whole)
      (n.value S object left) := by
  unfold Node.value
  unfold Node.isDeclarative at hn
  cases hcompute : n.compute with
  | function label g =>
    refine Simulation.pure _ fun hp => absurd (hn hp) ?_
    rw [hcompute, Computation.isFunction, Bool.not_true, Bool.and_false]
    exact Bool.false_ne_true
  | helper name => exact fun v hv => ⟨v, hv, fun _ => rfl⟩
  | value v => exact Simulation.pure _ fun _ => rfl

theorem addTo_narrows {n : Node} (hn : P → n.isDeclarative = true) {whole left : Document}
    (h : P → S.config.nilPolicy.Narrowed f whole left) :
    Narrows S.config.nilPolicy f P (n.addTo S object none whole) (n.addTo S object f left) := by
  have hnone : n.name.all (Filter.admits none) = true := by cases n.name <;> rfl
  unfold Node.addTo
  rw [hnone]
  cases hguard : n.guard.passes object S.scope with
  | false => exact Simulation.pure _ h
  | true =>
    cases hname : n.name with
    | none =>
      refine Simulation.bind _ (value_beside hn whole left) fun v w _ => ?_
      refine Simulation.pure _ fun hp => absurd (hn hp) ?_
      rw [Node.isDeclarative, hname]
      exact Bool.false_ne_true
    | some name =>
      rw [Option.all_some]
      cases hkey : Filter.admits f name with
      | true =>
        refine Simulation.bind _ (value_beside hn whole left) fun v w hvw => ?_
        refine Simulation.pure _ fun hp => (h hp).insert hkey ?_
        rw [hvw hp]
        exact (NilPolicy.drops_stored _ _ _ _).trans (NilPolicy.drops_stored _ _ _ _).symm
      | false =>
        intro doc hdoc
        obtain ⟨v, -, hdoc⟩ := bind_eq_ok.1 hdoc
        obtain rfl := Except.ok.inj hdoc
        exact ⟨left, rfl, fun hp => (h hp).insert_barred hkey _⟩

theorem nodes_narrow {ns : List Node} (hns : P → ∀ n ∈ ns, n.isDeclarative = true)
    {whole left : Document} (h : P → S.config.nilPolicy.Narrowed f whole left) :
    Narrows S.config.nilPolicy f P (ns.foldlM (Node.addTo S object none) whole)
      (ns.foldlM (Node.addTo S object f) left) := by
  induction ns generalizing whole left with
  | nil => exact Simulation.pure _ h
  | cons n rest ih =>
    rw [List.foldlM_cons, List.foldlM_cons]
    refine Simulation.bind _ (addTo_narrows (fun hp => hns hp n List.mem_cons_self) h)
      fun whole left h => ?_
    exact ih (fun hp x hx => hns hp x (List.mem_cons_of_mem n hx)) h

/-- Builds of one level more narrow as well. -/
theorem Narrowing.level (he : Narrowing S load e) : Narrowing S load ((loading load).level S e) := by
  intro t object f
  have hnodes : t.Declarative S load → ∀ n ∈ t.nodes, n.isDeclarative = true := by
    intro ht n hn
    obtain ⟨d, hd, hdn⟩ := List.mem_filterMap.1 hn
    cases d with
    | node m =>
      obtain rfl := Option.some.inj hdn
      exact ht t .self m hd
    | _ => cases hdn
  unfold Strategy.level
  simp only [liftExcept_eq]
  refine Simulation.bind _ (gather_beside he fun d hd => hd) fun gathered left h => ?_
  refine Simulation.bind _ (nodes_narrow hnodes fun ht => Contribution.narrowed_mergeByPhase (h ht))
    fun whole left h => ?_
  exact Simulation.pure _ fun ht => (h ht).apply

end

end Strategy

end DocumentTemplates
