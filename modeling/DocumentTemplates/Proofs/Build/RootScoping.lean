import DocumentTemplates.Proofs.Build.ElementNames

/-!
# Roots and what a filter says about them

The root under which a result is wrapped and the filter that selects from it go together: what a
filter says about the root is what it says about the result inside. The parent that a nested filter
knows makes no difference, for no build reads it.
-/

namespace DocumentTemplates

/-- The document that holds a value under a name. -/
def Value.under (name : String) (v : Value) : Value :=
  .document (Document.single name v)

/-- The options with another filter, or with none. -/
def BuildOptions.withFilter (options : BuildOptions) (f : Option Filter) : BuildOptions :=
  { options with filter := f }

/-- Related results, or the same error. -/
def Simulation.sameOutcome : Simulation (Except BuildError) (Except BuildError) where
  rel := SameOutcome
  pure := .ok
  bind := by
    intro α β γ δ P Q x y f g hx hf
    cases hx with
    | ok h => exact hf _ _ h
    | error e => exact .error e

theorem FilterField.selectItems_of_no_calls {field : Option FilterField}
    (h : ∀ g, field = some g → g.calls = []) (items : List Data) : selectItems field items = items := by
  cases field with
  | none => rfl
  | some g =>
    rw [selectItems, h g rfl]
    rfl

namespace Filter

variable {f₁ f₂ : Option Filter}

theorem Same.scoped (h : Same f₁ f₂) (root : Option String) :
    Same (Filter.scoped f₁ root) (Filter.scoped f₂ root) := by
  rcases h.cases with ⟨rfl, rfl⟩ | ⟨p₁, p₂, fields, rfl, rfl⟩
  · rfl
  · cases root with
    | none => rfl
    | some root =>
      have hselects : (mk p₁ fields).selects root = (mk p₂ fields).selects root := rfl
      rw [Filter.scoped, Filter.scoped, hselects]
      split
      · rfl
      · rfl

end Filter

namespace Strategy

variable {S : Setting} {load : String → Except BuildError Template} {t : Template} {data : Data}
  {f₁ f₂ : Option Filter}

/-- No build reads the parent of a filter. -/
theorem evaluate_congr_filter (h : Filter.Same f₁ f₂) (levels : Nat) (t : Template)
    (object : Data) :
    (loading load).evaluate S levels t object f₁ = (loading load).evaluate S levels t object f₂ := by
  induction levels generalizing t object f₁ f₂ with
  | zero => rfl
  | succ levels ih =>
    have hrefl : ∀ {α : Type} (x : Except BuildError α), Simulation.sameOutcome.rel Eq x x :=
      fun _ => .of_eq rfl
    have hcompute : ∀ t plan, Simulation.sameOutcome.rel Eq
        (compute ((loading load).evaluate S levels) t plan)
        (compute ((loading load).evaluate S levels) t plan) := fun _ _ => hrefl _
    have hs : Simulates Simulation.sameOutcome S S (loading load) (loading load)
        ((loading load).evaluate S levels) ((loading load).evaluate S levels)
        (fun t₁ t₂ _ f₁ f₂ => t₁ = t₂ ∧ Filter.Same f₁ f₂) (fun _ _ => True) := by
      constructor
      case alike => exact .refl S
      case nodes => exact fun _ _ _ _ => hrefl _
      case attributes => exact fun _ _ _ => hrefl _
      case directives => exact fun task => congrArg Template.directives task.1
      case filters => exact fun task => task.2
      case evaluate =>
        rintro t _ object f₁ f₂ ⟨rfl, hf⟩
        exact .of_eq (ih hf t object)
      case glue => exact fun task _ _ => ⟨rfl, task.2⟩
      case extend =>
        rintro t _ object f₁ f₂ base target guard extra data ⟨rfl, hf⟩ _ _
        refine Simulation.sameOutcome.mono (hrefl (load base)) ?_
        rintro b _ rfl
        exact ⟨rfl, hf⟩
      case child => exact fun _ _ _ _ => trivial
      case single => exact fun _ => hcompute _ _
      case many => exact fun _ => hrefl _
    exact (hs.level ⟨rfl, h⟩).eq

theorem document_congr_filter (h : Filter.Same f₁ f₂) (t : Template) (object : Data) :
    (loading load).document S t object f₁ = (loading load).document S t object f₂ :=
  evaluate_congr_filter h _ t object

theorem items_congr_filter (h : Filter.Same f₁ f₂) (t : Template) (elementRoot : RootSetting)
    (collection : Option String) (items : List Data) :
    (loading load).items S ((loading load).document S) t elementRoot collection f₁ items =
      (loading load).items S ((loading load).document S) t elementRoot collection f₂ items := by
  rw [items_loading, items_loading]
  congr 1
  refine mapM_congr_mem fun item _ => ?_
  let root := elementRoot.resolve? (deriveName? none item collection)
  rw [compute, compute]
  exact congrArg (· >>= _) (document_congr_filter (h.scoped root) t item)

/-! ## With the root and without -/

/-- A list whose root has no calls in the filter is built with all its elements. -/
theorem build_list_eq {options : BuildOptions} {own : Option String} {elements : List Data}
    {root : Option String}
    (hroot : (options.root.getD S.config.root).resolve? (deriveName? none (.list own elements) none)
      = root)
    (hcalls : ∀ field, (options.activeFilter.bind fun f => root.bind fun root => f.field? root)
      = some field → field.calls = []) (t : Template) :
    (loading load).build S options t (.list own elements) =
      ((loading load).items S ((loading load).document S) t options.elementRoot
        (deriveName? none (.list own elements) none) (Filter.scoped options.activeFilter root)
        elements).map (Value.arrayUnder root) := by
  subst hroot
  rw [build_list_items S options t rfl, FilterField.selectItems_of_no_calls hcalls]

theorem compute_under (h : Filter.Same f₁ f₂) (t : Template) (object : Data) (root : String) :
    compute ((loading load).document S) t ⟨object, some root, f₁⟩ =
      (compute ((loading load).document S) t ⟨object, none, f₂⟩).map (Value.under root) := by
  rw [compute, compute, document_congr_filter h t object]
  cases (loading load).document S t object f₂ <;> rfl

/-- What the filter says about the root, without calls, is the filter of the result inside. -/
theorem build_under {options : BuildOptions} (hdata : data.isNull = false) {root : String}
    (hroot : (options.root.getD S.config.root).resolve? (deriveName? none data none) = some root)
    (hcalls : ∀ field, (options.activeFilter.bind fun f => f.field? root) = some field →
      field.calls = [])
    {f : Option Filter}
    (hf : Filter.Same (Filter.scoped options.activeFilter (some root))
      (f.filter fun f => !f.isEmpty)) (t : Template) :
    (loading load).build S options t data =
      ((loading load).build S ((options.withRoot (.enabled false)).withFilter f) t data).map
        (Value.under root) := by
  let bare := (options.withRoot (.enabled false)).withFilter f
  have hnone : bare.activeFilter = Filter.scoped bare.activeFilter none := by
    cases bare.activeFilter <;> rfl
  have hinner : Filter.Same (Filter.scoped options.activeFilter (some root))
      (Filter.scoped bare.activeFilter none) := hnone ▸ hf
  cases data with
  | null => cases hdata
  | list own elements =>
    have hbare : ∀ field, (bare.activeFilter.bind fun f =>
        (none : Option String).bind fun root => f.field? root) = some field → field.calls = [] := by
      intro field h
      cases hactive : bare.activeFilter <;> rw [hactive] at h <;> cases h
    have hoff : (bare.root.getD S.config.root).resolve? (deriveName? none (.list own elements) none)
        = none := rfl
    have hunder : ∀ results : Except BuildError (List Value),
        results.map (Value.arrayUnder (some root)) =
          (results.map (Value.arrayUnder none)).map (Value.under root) :=
      fun results => by cases results <;> rfl
    rw [build_list_eq hroot hcalls, build_list_eq hoff hbare, items_congr_filter hinner, hunder]
    rfl
  | _ =>
    rw [build_object _ _ _ rfl, build_object _ _ _ rfl, BuildOptions.topPlan, hroot]
    exact compute_under hinner t _ root

end Strategy

section
variable (parent : Option String) (name : String) (nested : Option Filter)

theorem Filter.field?_single :
    (mk parent [.mk name [] nested]).field? name = some (.mk name [] nested) := by
  simp [field?, fields, FilterField.name]

/-- Inside the root that its only field is for, a filter says what it nests in that field. -/
theorem Filter.scoped_single :
    Filter.scoped (some (mk parent [.mk name [] nested])) (some name) =
      nested.filter fun nested => !nested.isEmpty := by
  rw [Filter.scoped, selects, nestedFor?, field?_single]
  rfl

end

/-- Where no results are kept, an object or a list comes to the same under a root and a filter of
one field for that root as it does bare under what the filter nests in that field, and is then
wrapped; and the same errors arise. Without filter, or where nothing is nested in its field, it is
the result without filter that is wrapped. -/
theorem StoreBuild.root_scopes_filter {σ : Type} [ResultCache σ] (S : Setting)
    (options : BuildOptions) (t : Template) {store : Store σ} (hu : store.Uncached S) {data : Data}
    (hdata : data.isNull = false) {root : String}
    (hroot : (options.root.getD S.config.root).resolve? (deriveName? none data none) = some root) :
    let outcome (options : BuildOptions) :=
      ((Strategy.stored S options).build S options t data |>.runOn store).1
    let wrapped (f : Option Filter) := outcome (options.withFilter f)
    let bare (f : Option Filter) := outcome ((options.withRoot (.enabled false)).withFilter f)
    (∀ f nested parent, f.isEmpty = false → nested.fields = f.fields →
      wrapped (some (.mk parent [.mk root [] (some nested)])) =
        (bare (some f)).map (Value.under root)) ∧
      (∀ parent, wrapped (some (.mk parent [.mk root [] none])) =
        (bare none).map (Value.under root)) ∧
      wrapped none = (bare none).map (Value.under root) := by
  intro outcome wrapped bare
  have houtcome : ∀ options, outcome options =
      (Strategy.loading (store.load S)).build S options t data :=
    fun options => Strategy.runOn_stored_build_of_uncached options t data hu
  have hwrapped : ∀ (g f : Option Filter),
      (∀ field, ((options.withFilter g).activeFilter.bind fun g => g.field? root) = some field →
        field.calls = []) →
      Filter.Same (Filter.scoped (options.withFilter g).activeFilter (some root))
        (f.filter fun f => !f.isEmpty) →
      wrapped g = (bare f).map (Value.under root) := by
    intro g f hcalls hf
    have hnamed : ((options.withFilter g).root.getD S.config.root).resolve?
        (deriveName? none data none) = some root := hroot
    have hbuild : (Strategy.loading (store.load S)).build S (options.withFilter g) t data = _ :=
      Strategy.build_under hdata hnamed hcalls hf t
    exact (houtcome _).trans (hbuild.trans (congrArg _ (houtcome _).symm))
  have hsingle : ∀ parent nested (f : Option Filter),
      Filter.Same (nested.filter fun nested => !nested.isEmpty) (f.filter fun f => !f.isEmpty) →
      wrapped (some (.mk parent [.mk root [] nested])) = (bare f).map (Value.under root) := by
    intro parent nested f hf
    refine hwrapped _ f (fun field h => ?_) ?_
    · obtain rfl := Option.some.inj ((Filter.field?_single parent root nested).symm.trans h)
      rfl
    · exact (congrArg (Option.map Filter.fields) (Filter.scoped_single parent root nested)).trans hf
  refine ⟨fun f nested parent hf hnested => ?_, fun parent => hsingle parent none none rfl,
    hwrapped none none (fun field h => (nomatch h)) rfl⟩
  have hempty : nested.isEmpty = false := by rw [Filter.isEmpty, hnested, ← Filter.isEmpty, hf]
  refine hsingle parent (some nested) (some f) ?_
  rw [Option.filter_some, Option.filter_some, hempty, hf]
  exact congrArg some hnested

/-- Two users as people, each wrapped by itself, by a strict template with an attribute that one of
them lacks: the filter leaves it out, and without filter it is missed with the root and without. -/
theorem StoreBuild.root_scopes_filter_people :
    let t := Template.mk none [.attribute { name := "nick" }, .attribute { name := "name" }] "t"
    let data := Data.list none [.record (some "user") none [("name", .string "ida"), ("nick", .null)],
      .record (some "user") none [("name", .string "leo")]]
    let fields := [FilterField.mk "user" [] (some (.mk (some "user") [.mk "name" [] none]))]
    let S : Setting := ⟨{ strictAttributes := true }, .empty, .nowhere, id⟩
    let options : BuildOptions :=
      { root := some (.named "people"), objectRoot := some (.enabled true) }
    let store : Store MemoryCache := {}
    let outcome (options : BuildOptions) :=
      ((Strategy.stored S options).build S options t data |>.runOn store).1
    let wrapped (f : Option Filter) := outcome (options.withFilter f)
    let bare (f : Option Filter) := outcome ((options.withRoot (.enabled false)).withFilter f)
    let people := Filter.mk none [.mk "people" [] (some (.mk (some "people") fields))]
    let user (name : String) := Value.document [("user", .document [("name", .string name)])]
    (store.Uncached S ∧ data.isNull = false ∧
      (options.root.getD S.config.root).resolve? (deriveName? none data none) = some "people" ∧
      (Filter.mk none fields).isEmpty = false) ∧
      wrapped (some people) = (bare (some (.mk none fields))).map (Value.under "people") ∧
      wrapped (some people) = .ok (.document [("people", .array [user "ida", user "leo"])]) ∧
      wrapped none = (bare none).map (Value.under "people") ∧
      wrapped none = .error (.missingAttribute "nick") := by
  intro t data fields S options store outcome wrapped bare people user
  have hu : store.Uncached S := .inl rfl
  have hdata : data.isNull = false := rfl
  have hroot : (options.root.getD S.config.root).resolve? (deriveName? none data none) =
      some "people" := rfl
  obtain ⟨hnested, -, hnone⟩ := StoreBuild.root_scopes_filter S options t hu hdata hroot
  exact ⟨⟨hu, hdata, hroot, rfl⟩, hnested (.mk none fields) (.mk (some "people") fields) none rfl rfl,
    rfl, hnone, rfl⟩

end DocumentTemplates
