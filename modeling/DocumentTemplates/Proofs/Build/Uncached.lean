import DocumentTemplates.Proofs.Build.Store

/-!
# Builds that cache nothing

Where there is no cache, or caching is off, a build on a store with a faithful registry is the
plain build: it has the same outcome, errors included, and leaves the store faithful.
-/

namespace DocumentTemplates

/-- True of a store in which no result is kept: there is no cache, or caching is off. -/
def Store.Uncached {σ : Type} (S : Setting) (store : Store σ) : Prop :=
  S.config.caching = false ∨ store.cache = none

theorem Store.Uncached.of_cache_eq {σ : Type} {S : Setting} {store rest : Store σ}
    (h : store.Uncached S) (hc : rest.cache = store.cache) : rest.Uncached S := by
  unfold Store.Uncached at h ⊢
  rwa [hc]

/-- On a faithful store that keeps no results, the outcomes are the same, and the store stays
faithful. -/
def Simulation.mirrors (σ : Type) (S : Setting) :
    Simulation (StoreBuild σ) (Except BuildError) where
  rel P x y := ∀ store : Store σ, store.Faithful S → store.Uncached S →
    ∃ r rest, x.runOn store = (r, rest) ∧ SameOutcome P r y ∧ rest.Faithful S ∧
      rest.cache = store.cache
  pure := fun h store hf _ => ⟨_, store, rfl, .ok h, hf, rfl⟩
  bind := by
    intro α β γ δ P Q x y f g hx hf store hs hu
    obtain ⟨r, rest, hr, ho, hs₁, hc₁⟩ := hx store hs hu
    rw [StoreBuild.runOn_bind, hr]
    cases ho with
    | error e => exact ⟨_, rest, rfl, .error e, hs₁, hc₁⟩
    | ok hab =>
      obtain ⟨r', rest', hr', ho', hs₂, hc₂⟩ := hf _ _ hab rest hs₁ (hu.of_cache_eq hc₁)
      exact ⟨r', rest', hr', ho', hs₂, hc₂.trans hc₁⟩

namespace StoreBuild

variable {σ : Type} {S : Setting} {store : Store σ}

theorem runOn_isCaching (S : Setting) (store : Store σ) :
    runOn (isCaching S) store = (.ok (S.config.caching && store.cache.isSome), store) := rfl

theorem isCaching_eq_false (h : store.Uncached S) :
    (S.config.caching && store.cache.isSome) = false := by
  rcases h with h | h
  · rw [h]
    rfl
  · rw [h]
    exact Bool.and_false _

theorem runOn_single_of_uncached [ResultCache σ] (h : store.Uncached S) (options : BuildOptions)
    (t : Template) (plan : Plan) (compute : Plan → StoreBuild σ Value) :
    runOn (single S options t plan compute) store = runOn (compute plan) store := by
  rw [single, runOn_bind_ok (runOn_isCaching S store), isCaching_eq_false h]
  rfl

theorem runOn_many_of_uncached [ResultCache σ] (h : store.Uncached S) (options : BuildOptions)
    (t : Template) (plans : List Plan) (compute : Plan → StoreBuild σ Value) :
    runOn (many S options t plans compute) store = runOn (plans.mapM compute) store := by
  rw [many, runOn_bind_ok (runOn_isCaching S store), isCaching_eq_false h]
  rfl

end StoreBuild

namespace Strategy

variable {σ : Type} [ResultCache σ] {S : Setting}

def SameBuild (t₁ t₂ : Template) (_ : Data) (f₁ f₂ : Option Filter) : Prop :=
  t₁ = t₂ ∧ f₁ = f₂

theorem stored_mirrors_plain (options : BuildOptions)
    {e₁ : Template → Data → Option Filter → StoreBuild σ Document}
    {e₂ : Template → Data → Option Filter → Except BuildError Document}
    (he : ∀ t object f, (Simulation.mirrors σ S).rel Eq (e₁ t object f) (e₂ t object f)) :
    Simulates (Simulation.mirrors σ S) S S (stored S options) (plain S) e₁ e₂ SameBuild
      (fun _ _ => True) := by
  have hl : ∀ {α : Type} (x : Except BuildError α),
      (Simulation.mirrors σ S).rel Eq (liftExcept x) (liftExcept x) := by
    intro α x store hs _
    exact ⟨x, store, StoreBuild.runOn_liftExcept x store, by cases x <;> exact .of_eq rfl, hs, rfl⟩
  refine .of_same (.refl S) rfl (fun _ _ _ _ => hl _) (fun _ _ _ => hl _) ?_ he ?_ ?_
  · intro base store hs _
    obtain ⟨rest, hr, hf, hc⟩ := StoreBuild.runOn_load hs base
    exact ⟨_, rest, hr, .of_eq rfl, hf, hc⟩
  · intro t plan store hs hu
    obtain ⟨r, rest, hr, ho⟩ := Simulation.compute _ he t plan store hs hu
    exact ⟨r, rest, (StoreBuild.runOn_single_of_uncached hu options t plan _).trans hr, ho⟩
  · intro t plans store hs hu
    have hm : (Simulation.mirrors σ S).rel Eq (plans.mapM (compute e₁ t))
        (plans.mapM (compute e₂ t)) := Simulation.mapM _ fun plan _ => Simulation.compute _ he t plan
    obtain ⟨r, rest, hr, ho⟩ := hm store hs hu
    exact ⟨r, rest, (StoreBuild.runOn_many_of_uncached hu options t plans _).trans hr, ho⟩

theorem stored_evaluate_mirrors (options : BuildOptions) (levels : Nat) (t : Template)
    (object : Data) (f : Option Filter) :
    (Simulation.mirrors σ S).rel Eq ((stored S options).evaluate S levels t object f)
      ((plain S).evaluate S levels t object f) := by
  induction levels generalizing t object f with
  | zero => exact fun store hs _ => ⟨_, store, rfl, .error _, hs, rfl⟩
  | succ levels ih => exact (stored_mirrors_plain options ih).level ⟨rfl, rfl⟩

/-- A build that caches nothing is the plain build. -/
theorem runOn_stored_build (options : BuildOptions) (t : Template) (data : Data)
    {store : Store σ} (hs : store.Faithful S) (hu : store.Uncached S) :
    ((stored S options).build S options t data |>.runOn store).1 =
      (plain S).build S options t data := by
  have h := stored_mirrors_plain (σ := σ) options
    (stored_evaluate_mirrors (S := S) options (S.config.maxDepth + 1))
  have hb : (Simulation.mirrors σ S).rel Eq ((stored S options).build S options t data)
      ((plain S).build S options t data) := h.build rfl fun _ _ => trivial
  obtain ⟨r, rest, hr, ho, _⟩ := hb store hs hu
  rw [hr]
  exact ho.eq

theorem runOn_stored_buildAll (options : BuildOptions) (t : Template) (objects : List Data)
    {store : Store σ} (hs : store.Faithful S) (hu : store.Uncached S) :
    ((stored S options).buildAll S options t objects |>.runOn store).1 =
      (plain S).buildAll S options t objects := by
  have h := stored_mirrors_plain (σ := σ) options
    (stored_evaluate_mirrors (S := S) options (S.config.maxDepth + 1))
  have hb : (Simulation.mirrors σ S).rel Eq ((stored S options).buildAll S options t objects)
      ((plain S).buildAll S options t objects) := h.items fun _ _ => trivial
  obtain ⟨r, rest, hr, ho, _⟩ := hb store hs hu
  rw [hr]
  exact ho.eq

end Strategy

end DocumentTemplates
