import DocumentTemplates.Proofs.Build.Contributions

/-!
# The order of phases

A template acts as its directives do one after the other, phase by phase: attributes, extensions,
children and glue, then nodes, each phase in declared order. How the kinds are mixed in the template
does not count. The errors of a build may depend on it, its success and its result do not.
-/

namespace DocumentTemplates

namespace Template

/-- The directives of one phase, in declared order. -/
def ofPhase (t : Template) (phase : Phase) : List Directive :=
  t.directives.filter (·.phase = phase)

/-- The directives in the order in which they act. -/
def inPhases (t : Template) : List Directive :=
  Phase.merging.flatMap t.ofPhase ++ t.ofPhase .nodes

/-- The same directives in every phase, whatever stands between them. -/
def SamePhases (t u : Template) : Prop :=
  ∀ phase, t.ofPhase phase = u.ofPhase phase

theorem SamePhases.symm {t u : Template} (h : t.SamePhases u) : u.SamePhases t :=
  fun phase => (h phase).symm

theorem SamePhases.inPhases_eq {t u : Template} (h : t.SamePhases u) : t.inPhases = u.inPhases := by
  have ht : t.ofPhase = u.ofPhase := funext h
  rw [inPhases, inPhases, ht]

theorem phase_of_mem_ofPhase {t : Template} {phase : Phase} {d : Directive}
    (h : d ∈ t.ofPhase phase) : d.phase = phase := by
  simpa using (List.mem_filter.1 h).2

theorem phase_of_mem_merging {t : Template} {d : Directive}
    (h : d ∈ Phase.merging.flatMap t.ofPhase) : d.phase ≠ .nodes := by
  obtain ⟨phase, hphase, hd⟩ := List.mem_flatMap.1 h
  rw [phase_of_mem_ofPhase hd]
  rintro rfl
  revert hphase
  decide

theorem mem_inPhases {t : Template} {d : Directive} : d ∈ t.inPhases ↔ d ∈ t.directives := by
  constructor
  · intro h
    rcases List.mem_append.1 h with h | h
    · obtain ⟨phase, -, hd⟩ := List.mem_flatMap.1 h
      exact (List.mem_filter.1 hd).1
    · exact (List.mem_filter.1 h).1
  · intro h
    have hd : d ∈ t.ofPhase d.phase := List.mem_filter.2 ⟨h, by simp⟩
    cases hphase : d.phase with
    | nodes => exact List.mem_append_right _ (hphase ▸ hd)
    | _ =>
      refine List.mem_append_left _ (List.mem_flatMap.2 ⟨d.phase, ?_, hd⟩)
      rw [hphase]
      decide

end Template

namespace Contribution

theorem mergeByPhase_eq (gathered : List (Phase × Contribution)) :
    mergeByPhase gathered =
      addAll [] (Phase.merging.flatMap fun phase =>
        (gathered.filter (·.1 = phase)).map Prod.snd) := by
  rw [mergeByPhase]
  generalize ([] : Document) = doc
  induction Phase.merging generalizing doc with
  | nil => rfl
  | cons phase rest ih =>
    rw [List.foldl_cons, ih, List.flatMap_cons, addAll_append]
    rfl

end Contribution

namespace Strategy

variable {S : Setting} {e : Template → Data → Option Filter → Except BuildError Document}
  {object : Data} {f : Option Filter}

theorem filter_gathered (s : Strategy (Except BuildError)) (ds : List Directive) (phase : Phase) :
    ((ds.filterMap fun d => (contributed s S e object f d).map (d.phase, ·)).filter
        (·.1 = phase)).map Prod.snd =
      (ds.filter (·.phase = phase)).filterMap (contributed s S e object f) := by
  induction ds with
  | nil => rfl
  | cons d rest ih =>
    rw [List.filterMap_cons]
    cases hc : contributed s S e object f d with
    | none =>
      simp only [Option.map_none, ih]
      by_cases hp : d.phase = phase
      · rw [List.filter_cons_of_pos (by simpa using hp), List.filterMap_cons, hc]
      · rw [List.filter_cons_of_neg (by simpa using hp)]
    | some c =>
      simp only [Option.map_some]
      by_cases hp : d.phase = phase
      · rw [List.filter_cons_of_pos (by simpa using hp), List.filter_cons_of_pos (by simpa using hp),
          List.filterMap_cons, hc, List.map_cons, ih]
      · rw [List.filter_cons_of_neg (by simpa using hp), List.filter_cons_of_neg (by simpa using hp),
          ih]

/-- The nodes of a template, run on a document. -/
theorem foldlM_nodes (ds : List Directive) (doc : Document) :
    (ds.filterMap fun d => match d with
        | .node n => some n
        | _ => none).foldlM (Node.addTo S object f) doc =
      (inTurn S e object f doc (ds.filter (·.phase = .nodes))).map (Contribution.addAll doc) := by
  induction ds generalizing doc with
  | nil => rfl
  | cons d rest ih =>
    cases d with
    | node n =>
      rw [List.filterMap_cons, List.filter_cons_of_pos (by rfl)]
      simp only [List.foldlM_cons, Node.addTo_eq, inTurn, contributionOn]
      cases n.contribution S object f doc with
      | error e => rfl
      | ok c =>
        refine (ih _).trans ?_
        cases hrest : inTurn S e object f (Contribution.addAll doc c.toList)
            (rest.filter (·.phase = .nodes)) with
        | error e => simp [hrest, bind, Except.bind, Except.map]
        | ok more =>
          simp [hrest, bind, Except.bind, Except.map, pure, Except.pure,
            Contribution.addAll_append]
    | _ => exact ih doc

/-- What directives contribute before the nodes run is what they contribute in turn. -/
theorem gather_merging {t : Template} {gathered : List (Phase × Contribution)} :
    (plain S).gather S e object f t.directives = .ok gathered →
      ∃ cs, inTurn S e object f [] (Phase.merging.flatMap t.ofPhase) = .ok cs ∧
        Contribution.mergeByPhase gathered = Contribution.addAll [] cs := by
  intro h
  obtain ⟨hsuccess, rfl⟩ := gather_eq_ok.1 h
  refine ⟨_, (inTurn_eq_ok_of_ne_nodes fun d hd => Template.phase_of_mem_merging hd).2
    ⟨fun d hd => hsuccess d (Template.mem_inPhases.1 (List.mem_append_left _ hd)), rfl⟩, ?_⟩
  rw [Contribution.mergeByPhase_eq, List.filterMap_flatMap]
  simp only [filter_gathered]
  rfl

theorem exists_gather_of_inTurn {t : Template} {cs : List Contribution}
    (h : inTurn S e object f [] (Phase.merging.flatMap t.ofPhase) = .ok cs) :
    ∃ gathered, (plain S).gather S e object f t.directives = .ok gathered := by
  obtain ⟨hsuccess, -⟩ := (inTurn_eq_ok_of_ne_nodes fun d hd => Template.phase_of_mem_merging hd).1 h
  refine ⟨_, gather_eq_ok.2 ⟨fun d hd => ?_, rfl⟩⟩
  rcases List.mem_append.1 (Template.mem_inPhases.2 hd) with hd | hd
  · exact hsuccess d hd
  · cases d with
    | node n => exact ⟨none, rfl⟩
    | _ => cases Template.phase_of_mem_ofPhase hd

/-- A build of one level succeeds exactly if the directives succeed in turn, phase by phase, and
then its document is made of their contributions. -/
theorem level_eq_ok {t : Template} {doc : Document} :
    (plain S).level S e t object f = .ok doc ↔
      ∃ cs, inTurn S e object f [] t.inPhases = .ok cs ∧
        doc = S.config.nilPolicy.apply (Contribution.addAll [] cs) := by
  have hnodes : ∀ merged : Document,
      (liftExcept (t.nodes.foldlM (Node.addTo S object f) merged) : Except BuildError Document) =
        (inTurn S e object f merged (t.ofPhase .nodes)).map (Contribution.addAll merged) :=
    fun merged => (liftExcept_eq _).trans (foldlM_nodes t.directives merged)
  rw [level, bind_eq_ok]
  constructor
  · rintro ⟨gathered, hgathered, hrest⟩
    obtain ⟨before, hbefore, hmerged⟩ := gather_merging hgathered
    rw [hmerged, hnodes] at hrest
    cases hafter : inTurn S e object f (Contribution.addAll [] before) (t.ofPhase .nodes) with
    | error e => rw [hafter] at hrest; cases hrest
    | ok after =>
      rw [hafter] at hrest
      refine ⟨before ++ after, inTurn_append_eq_ok.2 ⟨before, after, hbefore, hafter, rfl⟩, ?_⟩
      rw [Contribution.addAll_append]
      exact (Except.ok.inj hrest).symm
  · rintro ⟨cs, hcs, rfl⟩
    obtain ⟨before, after, hbefore, hafter, rfl⟩ := inTurn_append_eq_ok.1 hcs
    -- gathering runs in declared order, so it may fail elsewhere; but it fails only where this does
    obtain ⟨gathered, hgathered⟩ := exists_gather_of_inTurn hbefore
    obtain ⟨before', hbefore', hmerged⟩ := gather_merging hgathered
    obtain rfl := Except.ok.inj (hbefore.symm.trans hbefore')
    refine ⟨gathered, hgathered, ?_⟩
    rw [hmerged, hnodes, hafter, Contribution.addAll_append]
    rfl

/-- A build depends on its template only through the template's documents. -/
theorem build_refines_of_document {t u : Template}
    (h : ∀ object f, (Simulation.refines BuildError).rel Eq ((plain S).document S t object f)
      ((plain S).document S u object f)) (options : BuildOptions) (data : Data) :
    (Simulation.refines BuildError).rel Eq (t.build S options data) (u.build S options data) := by
  have hcompute : ∀ plan, (Simulation.refines BuildError).rel Eq
      (compute ((plain S).document S) t plan) (compute ((plain S).document S) u plan) :=
    fun plan => Simulation.bind_eq _ (h plan.item plan.filter) fun doc => Simulation.pure _ rfl
  unfold Template.build Strategy.build
  cases data with
  | null => exact Simulation.pure _ rfl
  | list _ elements =>
    refine Simulation.bind_eq _ ?_ fun results => Simulation.pure _ rfl
    exact Simulation.bind_eq _ (Simulation.mapM _ fun plan _ => hcompute plan) fun results =>
      Simulation.pure _ rfl
  | _ => exact hcompute _

end Strategy

namespace Template

open Strategy

theorem SamePhases.evaluate_eq_ok {t u : Template} (h : t.SamePhases u) {S : Setting}
    {levels : Nat} {object : Data} {f : Option Filter} {doc : Document}
    (hdoc : (plain S).evaluate S levels t object f = .ok doc) :
    (plain S).evaluate S levels u object f = .ok doc := by
  cases levels with
  | zero => cases hdoc
  | succ levels =>
    refine level_eq_ok.2 ?_
    rw [← h.inPhases_eq]
    exact level_eq_ok.1 hdoc

theorem SamePhases.build_eq_ok {t u : Template} (h : t.SamePhases u) {S : Setting}
    {options : BuildOptions} {data : Data} {v : Value} (hv : t.build S options data = .ok v) :
    u.build S options data = .ok v := by
  obtain ⟨_, hw, rfl⟩ := build_refines_of_document
    (fun object f doc hdoc => ⟨doc, h.evaluate_eq_ok hdoc, rfl⟩) options data v hv
  exact hw

/-- The order of phases is fixed. Templates with the same directives in every phase have the same
results, or both fail. And a document is made of the contributions of the directives, each in its
turn, phase by phase and in declared order; what stands under a key, before the null policy, is
what the last of them says, and a node contributes on the document that those in front of it
make. -/
theorem build_phase_by_phase (S : Setting) :
    (∀ t u : Template, t.SamePhases u → ∀ (options : BuildOptions) (data : Data),
      (t.build S options data).toOption = (u.build S options data).toOption) ∧
    ∀ (t : Template) (levels : Nat) (object : Data) (f : Option Filter) (doc : Document),
      (plain S).evaluate S (levels + 1) t object f = .ok doc ↔
        ∃ cs, inTurn S ((plain S).evaluate S levels) object f [] t.inPhases = .ok cs ∧
          doc = S.config.nilPolicy.apply (Contribution.addAll [] cs) ∧
          (∀ key, OrderedMap.get? (Contribution.addAll [] cs) key =
            cs.reverse.findSome? fun c => c.value? key) ∧
          ∀ before n after, t.inPhases = before ++ .node n :: after →
            ∃ earlier own later,
              inTurn S ((plain S).evaluate S levels) object f [] before = .ok earlier ∧
              n.contribution S object f (Contribution.addAll [] earlier) = .ok own ∧
              cs = earlier ++ own.toList ++ later := by
  refine ⟨fun t u h options data => ?_, fun t levels object f doc => ?_⟩
  · exact toOption_eq_of_forall (fun _ => h.build_eq_ok) (fun _ => h.symm.build_eq_ok)
  · refine (level_eq_ok (e := (plain S).evaluate S levels)).trans ⟨?_, ?_⟩
    · rintro ⟨cs, hcs, rfl⟩
      refine ⟨cs, hcs, rfl, fun key => ?_, fun before n after hsplit => ?_⟩
      · rw [Contribution.get?_addAll, OrderedMap.get?, Option.or_none]
      · rw [hsplit] at hcs
        obtain ⟨earlier, _, hearlier, hrest, rfl⟩ := inTurn_append_eq_ok.1 hcs
        obtain ⟨own, later, hown, -, rfl⟩ := inTurn_cons_eq_ok.1 hrest
        exact ⟨earlier, own, later, hearlier, hown, (List.append_assoc _ _ _).symm⟩
    · rintro ⟨cs, hcs, rfl, -⟩
      exact ⟨cs, hcs, rfl⟩

/-- A node declared first still sees the attribute declared last, and its value stands in the
attribute's place. -/
theorem build_phase_by_phase_mixed :
    let S : Setting := ⟨{}, .empty, .memory [], id⟩
    let double : Node := ⟨some "name", {}, .function "double" fun context =>
      .array [(OrderedMap.get? context.document "name").getD .null,
        (OrderedMap.get? context.document "id").getD .null]⟩
    let body := Template.mk none [.attribute { name := "id" }] ""
    let t := Template.mk none [.node double, .glue (.member "owner") {} body,
      .attribute { name := "name" }, .attribute { name := "id" }] ""
    let u := Template.mk none [.attribute { name := "name" }, .attribute { name := "id" },
      .node double, .glue (.member "owner") {} body] ""
    let object := Data.record none none [("id", .integer 1), ("name", .string "leo"),
      ("owner", .record none none [("id", .integer 2)])]
    t.SamePhases u ∧ (t.build S {} object).toOption = (u.build S {} object).toOption ∧
      t.build S {} object = .ok (.document
        [("name", .array [.string "leo", .integer 2]), ("id", .integer 2)]) := by
  intro S double body t u object
  have h : t.SamePhases u := by
    intro phase
    cases phase <;> rfl
  exact ⟨h, (build_phase_by_phase S).1 t u h {} object, rfl⟩

end Template

end DocumentTemplates
