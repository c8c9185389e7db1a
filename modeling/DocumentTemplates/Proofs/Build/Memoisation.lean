import DocumentTemplates.Cache.Memory
import DocumentTemplates.Proofs.Build.FullDigest
import DocumentTemplates.Renderer

/-!
# Builds with and without a registry

Templates are read once where there is a registry, and whenever they are needed where there is
none. If the source always gives the same and the registry starts empty, no request can tell the
difference: outcomes and caches are the same. Every build on a faithful store is followed by the
same build on that store without its registry, step by step.
-/

namespace DocumentTemplates

/-! ## Registries that grow -/

/-- What is registered stays registered. Where there is no registry, none appears. -/
inductive Registry.Grown : Option Registry → Option Registry → Prop
  | absent : Grown none none
  | kept {registry grown : Registry} :
    (∀ name t, registry.get? name = some t → grown.get? name = some t) →
    Grown (some registry) (some grown)

namespace Registry

theorem Grown.refl : ∀ registry, Grown registry registry
  | none => .absent
  | some _ => .kept fun _ _ h => h

theorem Grown.trans {r₁ r₂ r₃ : Option Registry} (h : Grown r₁ r₂) (h' : Grown r₂ r₃) :
    Grown r₁ r₃ := by
  cases h with
  | absent => exact h'
  | kept h =>
    cases h' with
    | kept h' => exact .kept fun name t ht => h' name t (h name t ht)

theorem Grown.get? {registry : Registry} {r : Option Registry} (h : Grown (some registry) r) :
    ∃ grown, r = some grown ∧
      ∀ name t, registry.get? name = some t → grown.get? name = some t := by
  cases h with
  | kept h => exact ⟨_, rfl, h⟩

variable {registry : Registry} {read : String → Except BuildError Template} {name : String}

theorem grown_load (registry : Registry) (read : String → Except BuildError Template)
    (name : String) : Grown (some registry) (some (registry.load read name).2) := by
  refine .kept fun other t ht => ?_
  unfold Registry.load
  cases hg : registry.get? name with
  | some u => exact ht
  | none =>
    cases read name with
    | error e => exact ht
    | ok u =>
      have hn : name ≠ other := by
        rintro rfl
        rw [hg] at ht
        cases ht
      rwa [OrderedMap.get?_insert, if_neg hn]

/-- A load that fails leaves no trace. -/
theorem load_error {e : BuildError} (h : (registry.load read name).1 = .error e) :
    (registry.load read name).2 = registry := by
  unfold Registry.load at h ⊢
  cases hg : registry.get? name with
  | some t => simp [hg] at h
  | none =>
    cases hr : read name with
    | ok t => simp [hg, hr] at h
    | error e => rfl

theorem get?_load {t : Template} (h : (registry.load read name).1 = .ok t) :
    (registry.load read name).2.get? name = some t := by
  unfold Registry.load at h ⊢
  cases hg : registry.get? name with
  | some u =>
    simp only [hg, Except.ok.injEq] at h
    rw [hg, h]
  | none =>
    cases hr : read name with
    | error e => simp [hg, hr] at h
    | ok u =>
      simp only [hg, hr, Except.ok.injEq] at h
      simp [OrderedMap.get?_insert, h]

end Registry

namespace StoreBuild

variable {σ α β : Type}

theorem runOn_load_of_none {S : Setting} {store : Store σ} (h : store.registry = none)
    (name : String) : runOn (load S name) store = (S.load name, store) := by
  rw [load, runOn_bind_ok (runOn_get store), h]
  exact runOn_liftExcept _ _

theorem runOn_load_of_some {S : Setting} {store : Store σ} {registry : Registry}
    (h : store.registry = some registry) (name : String) :
    runOn (load S name) store = ((registry.load S.load name).1,
      { store with registry := some (registry.load S.load name).2 }) := by
  rw [load, runOn_bind_ok (runOn_get store), h]
  refine (runOn_bind_ok (runOn_modify _ store) _).trans ?_
  exact runOn_liftExcept _ _

/-- A load that fails leaves the store as it was. -/
theorem runOn_load_error {S : Setting} {name : String} {store rest : Store σ} {e : BuildError}
    (h : runOn (load S name) store = (.error e, rest)) : rest = store := by
  cases hr : store.registry with
  | none =>
    rw [runOn_load_of_none hr] at h
    exact (Prod.mk.inj h).2.symm
  | some registry =>
    rw [runOn_load_of_some hr] at h
    obtain ⟨he, rfl⟩ := Prod.mk.inj h
    rw [Registry.load_error he, ← hr]

/-- What is loaded is registered. -/
theorem runOn_load_ok {S : Setting} {name : String} {store rest : Store σ} {t : Template}
    (h : runOn (load S name) store = (.ok t, rest)) (hr : store.registry.isSome) :
    ∃ registry, rest.registry = some registry ∧ registry.get? name = some t := by
  obtain ⟨registry, hr⟩ := Option.isSome_iff_exists.1 hr
  rw [runOn_load_of_some hr] at h
  obtain ⟨ht, rfl⟩ := Prod.mk.inj h
  exact ⟨_, rfl, Registry.get?_load ht⟩

/-- What is registered is given again, and the store left as it is. -/
theorem runOn_load_registered {S : Setting} {name : String} {store : Store σ} {t : Template}
    {registry : Registry} (hr : store.registry = some registry)
    (hg : registry.get? name = some t) : runOn (load S name) store = (.ok t, store) := by
  rw [runOn_load_of_some hr]
  simp only [Registry.load, hg]
  rw [← hr]

/-! ## Builds keep what is registered -/

/-- Whatever store a build runs on, what is registered stays registered. -/
def KeepsTemplates (x : StoreBuild σ α) : Prop :=
  ∀ store, Registry.Grown store.registry (runOn x store).2.registry

theorem keepsTemplates_pure (a : α) : KeepsTemplates (pure a : StoreBuild σ α) :=
  fun _ => .refl _

theorem keepsTemplates_get : KeepsTemplates (get : StoreBuild σ (Store σ)) :=
  fun _ => .refl _

theorem KeepsTemplates.bind {x : StoreBuild σ α} {f : α → StoreBuild σ β} (hx : KeepsTemplates x)
    (hf : ∀ a, KeepsTemplates (f a)) : KeepsTemplates (x >>= f) := by
  intro store
  have h := hx store
  rw [runOn_bind]
  rcases hr : runOn x store with ⟨_ | a, rest⟩
  · rwa [hr] at h
  · rw [hr] at h
    exact h.trans (hf a rest)

theorem keepsTemplates_load (S : Setting) (name : String) :
    KeepsTemplates (load S name : StoreBuild σ Template) := by
  intro store
  cases hr : store.registry with
  | none =>
    rw [runOn_load_of_none hr, hr]
    exact .absent
  | some registry =>
    rw [runOn_load_of_some hr]
    exact registry.grown_load S.load name

theorem keepsTemplates_load? (S : Setting) (name : String) :
    KeepsTemplates (load? S name : StoreBuild σ (Option Template)) := by
  intro store
  have h : KeepsTemplates (some <$> load S name : StoreBuild σ (Option Template)) := by
    rw [map_eq_pure_bind]
    exact (keepsTemplates_load S name).bind fun t => keepsTemplates_pure _
  have h := h store
  rw [load?, runOn_tryCatch]
  rcases hr : runOn (some <$> load S name) store with ⟨_ | t, rest⟩
  · rwa [hr] at h
  · rwa [hr] at h

theorem keepsTemplates_visit (S : Setting) (length : Nat) (names : List String)
    (met : BaseDigests) :
    KeepsTemplates (BaseDigests.visit (load? S) length names met : StoreBuild σ BaseDigests) := by
  induction length generalizing names met with
  | zero => exact keepsTemplates_pure met
  | succ length ih =>
    unfold BaseDigests.visit
    induction names generalizing met with
    | nil => exact keepsTemplates_pure met
    | cons name rest ih' =>
      rw [List.foldlM_cons]
      refine KeepsTemplates.bind ?_ ih'
      split
      · exact keepsTemplates_pure _
      · refine (keepsTemplates_load? S name).bind fun base => ?_
        cases base with
        | some base => exact ih _ _
        | none => exact keepsTemplates_pure _

theorem keepsTemplates_fullDigest (S : Setting) (t : Template) :
    KeepsTemplates (fullDigest S t : StoreBuild σ String) := by
  unfold fullDigest baseDigests
  refine KeepsTemplates.bind ?_ fun bases => keepsTemplates_pure _
  exact keepsTemplates_get.bind fun store => keepsTemplates_visit S _ _ _

end StoreBuild

/-! ## The same build without the registry -/

def Store.withoutRegistry {σ : Type} (store : Store σ) : Store σ :=
  { store with registry := none }

theorem Store.faithful_withoutRegistry {σ : Type} (S : Setting) (store : Store σ) :
    store.withoutRegistry.Faithful S := by
  rintro _ ⟨⟩

/-- A store without a registry is known by its cache. -/
theorem Store.eq_withoutRegistry {σ : Type} {store rest : Store σ} (hr : rest.registry = none)
    (hc : rest.cache = store.cache) : rest = store.withoutRegistry := by
  cases rest
  cases hr
  cases hc
  rfl

/-- On a faithful store and on the same store without its registry, the outcomes and the caches
that are left are the same. The registry stays faithful, and grows. -/
def Simulation.unregistered (σ : Type) (S : Setting) :
    Simulation (StoreBuild σ) (StoreBuild σ) where
  rel P x y := ∀ store : Store σ, store.Faithful S →
    ∃ r r' rest, x.runOn store = (r, rest) ∧
      y.runOn store.withoutRegistry = (r', rest.withoutRegistry) ∧ SameOutcome P r r' ∧
      rest.Faithful S ∧ Registry.Grown store.registry rest.registry
  pure := fun h store hf => ⟨_, _, store, rfl, rfl, .ok h, hf, .refl _⟩
  bind := by
    intro α β γ δ P Q x y f g hx hf store hs
    obtain ⟨r, r', rest, hr, hr', ho, hs₁, hg₁⟩ := hx store hs
    rw [StoreBuild.runOn_bind, StoreBuild.runOn_bind, hr, hr']
    cases ho with
    | error e => exact ⟨_, _, rest, rfl, rfl, .error e, hs₁, hg₁⟩
    | ok hab =>
      obtain ⟨r, r', rest', hr, hr', ho, hs₂, hg₂⟩ := hf _ _ hab rest hs₁
      exact ⟨r, r', rest', hr, hr', ho, hs₂, hg₁.trans hg₂⟩

namespace StoreBuild

variable {σ α : Type} {S : Setting}

theorem unregistered_liftExcept (x : Except BuildError α) :
    (Simulation.unregistered σ S).rel Eq (liftExcept x) (liftExcept x) :=
  fun store hs => ⟨x, x, store, runOn_liftExcept x store, runOn_liftExcept x _, .of_eq rfl, hs,
    .refl _⟩

theorem unregistered_load (name : String) :
    (Simulation.unregistered σ S).rel Eq (load S name) (load S name) := by
  intro store hs
  obtain ⟨rest, hr, hf, hc⟩ := runOn_load hs name
  have hg := keepsTemplates_load S name store
  rw [hr] at hg
  refine ⟨_, _, rest, hr, ?_, .of_eq rfl, hf, hg⟩
  rw [runOn_load_of_none rfl]
  exact congrArg _ (Store.eq_withoutRegistry rfl hc.symm)

theorem unregistered_fullDigest (t : Template) :
    (Simulation.unregistered σ S).rel Eq (fullDigest S t) (fullDigest S t) := by
  intro store hs
  obtain ⟨rest, hr, hf, hc⟩ := runOn_fullDigest hs t
  obtain ⟨bare, hr', _, hc'⟩ := runOn_fullDigest (store.faithful_withoutRegistry S) t
  have hg := keepsTemplates_fullDigest S t store
  rw [hr] at hg
  have hnone : bare.registry = none := by
    have hg' := keepsTemplates_fullDigest S t store.withoutRegistry
    rw [hr'] at hg'
    generalize bare.registry = r at hg'
    cases hg'
    rfl
  refine ⟨_, _, rest, hr, ?_, .of_eq rfl, hf, hg⟩
  rw [hr', Store.eq_withoutRegistry hnone (hc'.trans hc.symm)]

theorem unregistered_isCaching :
    (Simulation.unregistered σ S).rel Eq (isCaching S) (isCaching S) :=
  fun store hs => ⟨_, _, store, rfl, rfl, .of_eq rfl, hs, .refl _⟩

theorem runOn_callIfAny_some {store : Store σ} {cache : σ} (h : store.cache = some cache)
    (action : CacheCall σ α) (absent : α) :
    runOn (callIfAny action absent) store =
      ((Id.run (action.run.run cache)).1.mapError .cache,
        { store with cache := some (Id.run (action.run.run cache)).2 }) := by
  rw [callIfAny, runOn_bind_ok (runOn_get store), h]
  change runOn (call cache action) store = _
  unfold call
  rcases action.run.run cache with ⟨result, left⟩
  cases result with
  | ok a => rfl
  | error reason => rfl

/-- A call on the cache neither sees nor changes the registry. -/
theorem unregistered_callIfAny (action : CacheCall σ α) (absent : α) :
    (Simulation.unregistered σ S).rel Eq (callIfAny action absent) (callIfAny action absent) := by
  intro store hs
  cases hc : store.cache with
  | none =>
    refine ⟨.ok absent, .ok absent, store, ?_, ?_, .ok rfl, hs, .refl _⟩
    · rw [callIfAny, runOn_bind_ok (runOn_get store), hc]
      rfl
    · rw [callIfAny, runOn_bind_ok (runOn_get _), Store.withoutRegistry, hc]
      rfl
  | some cache =>
    have hbare : store.withoutRegistry.cache = some cache := hc
    exact ⟨_, _, _, runOn_callIfAny_some hc action absent,
      runOn_callIfAny_some hbare action absent, .of_eq rfl, hs, .refl _⟩

variable [ResultCache σ] {compute compute' : Plan → StoreBuild σ Value}

theorem unregistered_fetch {x y : StoreBuild σ Value}
    (h : (Simulation.unregistered σ S).rel Eq x y) (key : CacheKey) (expiresIn : Option Nat) :
    (Simulation.unregistered σ S).rel Eq (fetch key expiresIn x) (fetch key expiresIn y) := by
  refine Simulation.bind_eq _ (unregistered_callIfAny _ _) fun found => ?_
  cases found with
  | some v => exact Simulation.pure _ rfl
  | none =>
    refine Simulation.bind_eq _ h fun v => ?_
    exact Simulation.bind_eq _ (unregistered_callIfAny _ _) fun _ => Simulation.pure _ rfl

theorem unregistered_single (options : BuildOptions) (t : Template) (plan : Plan)
    (h : (Simulation.unregistered σ S).rel Eq (compute plan) (compute' plan)) :
    (Simulation.unregistered σ S).rel Eq (single S options t plan compute)
      (single S options t plan compute') := by
  refine Simulation.bind_eq _ unregistered_isCaching fun caching => ?_
  split
  · refine Simulation.bind_eq _ (unregistered_fullDigest t) fun digest => ?_
    cases plan.key? S.config options.format digest with
    | some key => exact unregistered_fetch h key _
    | none => exact h
  · exact h

theorem unregistered_fromHits (options : BuildOptions) (hits : List (CacheKey × Value))
    (plan : Plan) (key : Option CacheKey)
    (h : (Simulation.unregistered σ S).rel Eq (compute plan) (compute' plan)) :
    (Simulation.unregistered σ S).rel Eq (fromHits options hits compute plan key)
      (fromHits options hits compute' plan key) := by
  cases key with
  | none => exact h
  | some key =>
    simp only [fromHits]
    cases hits.lookup key with
    | some v => exact Simulation.pure _ rfl
    | none =>
      refine Simulation.bind_eq _ h fun v => ?_
      exact Simulation.bind_eq _ (unregistered_callIfAny _ _) fun _ => Simulation.pure _ rfl

theorem unregistered_readTogether (keys : List CacheKey) :
    (Simulation.unregistered σ S).rel Eq (readTogether keys) (readTogether keys) := by
  unfold readTogether
  split
  · exact Simulation.pure _ rfl
  · exact unregistered_callIfAny _ _

theorem unregistered_many (options : BuildOptions) (t : Template) (plans : List Plan)
    (h : ∀ plan, (Simulation.unregistered σ S).rel Eq (compute plan) (compute' plan)) :
    (Simulation.unregistered σ S).rel Eq (many S options t plans compute)
      (many S options t plans compute') := by
  refine Simulation.bind_eq _ unregistered_isCaching fun caching => ?_
  split
  · refine Simulation.bind_eq _ (unregistered_fullDigest t) fun digest => ?_
    split
    · refine Simulation.bind_eq _ (unregistered_readTogether _) fun hits => ?_
      exact Simulation.mapM _ fun keyed _ => unregistered_fromHits options hits _ _ (h _)
    · exact Simulation.mapM _ fun plan _ => unregistered_single options t plan (h plan)
  · exact Simulation.mapM _ fun plan _ => h plan

end StoreBuild

namespace Strategy

open StoreBuild

variable {σ : Type} [ResultCache σ] {S : Setting}

theorem stored_unregistered (options : BuildOptions)
    {e₁ e₂ : Template → Data → Option Filter → StoreBuild σ Document}
    (he : ∀ t object f, (Simulation.unregistered σ S).rel Eq (e₁ t object f) (e₂ t object f)) :
    Simulates (Simulation.unregistered σ S) S S (stored S options) (stored S options) e₁ e₂
      SameBuild (fun _ _ => True) := by
  exact .of_same (.refl S) rfl (fun _ _ _ _ => unregistered_liftExcept _)
    (fun _ _ _ => unregistered_liftExcept _) unregistered_load he
    (fun t plan => unregistered_single options t plan (Simulation.compute _ he t plan))
    fun t plans => unregistered_many options t plans (Simulation.compute _ he t)

theorem stored_evaluate_unregistered (options : BuildOptions) (levels : Nat) (t : Template)
    (object : Data) (f : Option Filter) :
    (Simulation.unregistered σ S).rel Eq ((stored S options).evaluate S levels t object f)
      ((stored S options).evaluate S levels t object f) := by
  induction levels generalizing t object f with
  | zero => exact fun store hs => ⟨_, _, store, rfl, rfl, .error _, hs, .refl _⟩
  | succ levels ih => exact (stored_unregistered options ih).level ⟨rfl, rfl⟩

theorem stored_build_unregistered (options : BuildOptions) (t : Template) (data : Data) :
    (Simulation.unregistered σ S).rel Eq ((stored S options).build S options t data)
      ((stored S options).build S options t data) :=
  (stored_unregistered options (stored_evaluate_unregistered options (S.config.maxDepth + 1))).build
    rfl fun _ _ => trivial

theorem stored_buildAll_unregistered (options : BuildOptions) (t : Template)
    (objects : List Data) :
    (Simulation.unregistered σ S).rel Eq ((stored S options).buildAll S options t objects)
      ((stored S options).buildAll S options t objects) :=
  (stored_unregistered options (stored_evaluate_unregistered options (S.config.maxDepth + 1))).items
    fun _ _ => trivial

end Strategy

end DocumentTemplates
