import DocumentTemplates.Proofs.Build.Childless

/-!
# Builds through any registry

Where no results are kept, a build looks at a store only for its templates. So it is a build that
takes the templates as the store gives them, whether they are registered or come from the source.
-/

namespace DocumentTemplates

/-- The outcome is the same on every store that keeps no results and through which the same is
loaded. -/
def Simulation.onlyLoads (σ : Type) (S : Setting) (load : String → Except BuildError Template) :
    Simulation (StoreBuild σ) (Except BuildError) where
  rel P x y := ∀ store : Store σ, store.load S = load → store.Uncached S →
    ∃ r rest, x.runOn store = (r, rest) ∧ SameOutcome P r y ∧ rest.load S = load ∧
      rest.cache = store.cache
  pure := fun h store hl _ => ⟨_, store, rfl, .ok h, hl, rfl⟩
  bind := by
    intro α β γ δ P Q x y f g hx hf store hl hu
    obtain ⟨r, mid, hr, ho, hmid, hc⟩ := hx store hl hu
    rw [StoreBuild.runOn_bind, hr]
    cases ho with
    | error e => exact ⟨_, mid, rfl, .error e, hmid, hc⟩
    | ok hab =>
      obtain ⟨r', rest, hr', ho', hrest, hc'⟩ := hf _ _ hab mid hmid (hu.of_cache_eq hc)
      exact ⟨r', rest, hr', ho', hrest, hc'.trans hc⟩

namespace Strategy

variable {σ : Type} [ResultCache σ] {S : Setting} {load : String → Except BuildError Template}

theorem stored_onlyLoads (options : BuildOptions)
    {e₁ : Template → Data → Option Filter → StoreBuild σ Document}
    {e₂ : Template → Data → Option Filter → Except BuildError Document}
    (he : ∀ t object f, (Simulation.onlyLoads σ S load).rel Eq (e₁ t object f) (e₂ t object f)) :
    Simulates (Simulation.onlyLoads σ S load) S S (stored S options) (loading load) e₁ e₂
      SameBuild (fun _ _ => True) := by
  have hlift : ∀ {α : Type} (x : Except BuildError α),
      (Simulation.onlyLoads σ S load).rel Eq (liftExcept x) (liftExcept x) := by
    intro α x store hl _
    exact ⟨x, store, StoreBuild.runOn_liftExcept x store, by cases x <;> exact .of_eq rfl, hl, rfl⟩
  refine .of_same (.refl S) rfl (fun _ _ _ _ => hlift _) (fun _ _ _ => hlift _) ?_ he ?_ ?_
  · intro base store hl _
    obtain ⟨rest, hr, hrest, hc⟩ := store.runOn_load S base
    rw [hl] at hr hrest
    exact ⟨_, rest, hr, .of_eq rfl, hrest, hc⟩
  · intro t plan store hl hu
    obtain ⟨r, rest, hr, ho⟩ := Simulation.compute _ he t plan store hl hu
    exact ⟨r, rest, (StoreBuild.runOn_single_of_uncached hu options t plan _).trans hr, ho⟩
  · intro t plans store hl hu
    have hm : (Simulation.onlyLoads σ S load).rel Eq (plans.mapM (compute e₁ t))
        (plans.mapM (compute e₂ t)) := Simulation.mapM _ fun plan _ => Simulation.compute _ he t plan
    obtain ⟨r, rest, hr, ho⟩ := hm store hl hu
    exact ⟨r, rest, (StoreBuild.runOn_many_of_uncached hu options t plans _).trans hr, ho⟩

theorem stored_evaluate_onlyLoads (options : BuildOptions) (levels : Nat) (t : Template)
    (object : Data) (f : Option Filter) :
    (Simulation.onlyLoads σ S load).rel Eq ((stored S options).evaluate S levels t object f)
      ((loading load).evaluate S levels t object f) := by
  induction levels generalizing t object f with
  | zero => exact fun store hl _ => ⟨_, store, rfl, .error _, hl, rfl⟩
  | succ levels ih => exact (stored_onlyLoads options ih).level ⟨rfl, rfl⟩

theorem stored_document_onlyLoads (options : BuildOptions) :
    Simulates (Simulation.onlyLoads σ S load) S S (stored S options) (loading load)
      ((stored S options).document S) ((loading load).document S) SameBuild (fun _ _ => True) :=
  stored_onlyLoads options (stored_evaluate_onlyLoads options _)

/-- A build that caches nothing depends on the store by what is loaded through it. -/
theorem runOn_stored_build_of_uncached (options : BuildOptions) (t : Template) (data : Data)
    {store : Store σ} (hu : store.Uncached S) :
    ((stored S options).build S options t data |>.runOn store).1 =
      (loading (store.load S)).build S options t data := by
  have hb : (Simulation.onlyLoads σ S (store.load S)).rel Eq
      ((stored S options).build S options t data)
      ((loading (store.load S)).build S options t data) :=
    (stored_document_onlyLoads options).build rfl fun _ _ => trivial
  obtain ⟨r, rest, hr, ho, _⟩ := hb store rfl hu
  rw [hr]
  exact ho.eq

theorem runOn_stored_buildAll_of_uncached (options : BuildOptions) (t : Template)
    (objects : List Data) {store : Store σ} (hu : store.Uncached S) :
    ((stored S options).buildAll S options t objects |>.runOn store).1 =
      (loading (store.load S)).buildAll S options t objects := by
  have hb : (Simulation.onlyLoads σ S (store.load S)).rel Eq
      ((stored S options).buildAll S options t objects)
      ((loading (store.load S)).buildAll S options t objects) :=
    (stored_document_onlyLoads options).items fun _ _ => trivial
  obtain ⟨r, rest, hr, ho, _⟩ := hb store rfl hu
  rw [hr]
  exact ho.eq

end Strategy

end DocumentTemplates
