import DocumentTemplates.Build.Cached
import DocumentTemplates.Proofs.Build.Refinement

/-!
# Builds on a store

How a build with a registry and a cache runs on a store, step by step. Loading a template, also
when it fails, leaves a registry through which the same is loaded as before. A registry that holds
only what the source gives is faithful: loading through it gives what the source gives.
-/

namespace DocumentTemplates

namespace StoreBuild

variable {σ : Type} {α β : Type}

/-- The outcome of a build on a store, with the store that is left. -/
def runOn (x : StoreBuild σ α) (store : Store σ) : Except BuildError α × Store σ :=
  Id.run (x.run.run store)

theorem runOn_pure (a : α) (store : Store σ) :
    runOn (pure a : StoreBuild σ α) store = (.ok a, store) := rfl

theorem runOn_bind (x : StoreBuild σ α) (f : α → StoreBuild σ β) (store : Store σ) :
    runOn (x >>= f) store =
      match runOn x store with
      | (.ok a, rest) => runOn (f a) rest
      | (.error e, rest) => (.error e, rest) := by
  change runOn (ExceptT.mk (x.run >>= ExceptT.bindCont f)) store = _
  unfold runOn
  simp only [ExceptT.run_mk, StateT.run_bind, Id.run_bind]
  rcases h : (x.run.run store).run with ⟨r, rest⟩
  cases r with
  | ok a => rfl
  | error e => rfl

theorem runOn_bind_ok {x : StoreBuild σ α} {store rest : Store σ} {a : α}
    (h : runOn x store = (.ok a, rest)) (f : α → StoreBuild σ β) :
    runOn (x >>= f) store = runOn (f a) rest := by
  rw [runOn_bind, h]

theorem runOn_get (store : Store σ) :
    runOn (get : StoreBuild σ (Store σ)) store = (.ok store, store) := rfl

theorem runOn_modify (f : Store σ → Store σ) (store : Store σ) :
    runOn (modify f : StoreBuild σ Unit) store = (.ok (), f store) := rfl

theorem runOn_liftExcept (x : Except BuildError α) (store : Store σ) :
    runOn (liftExcept x : StoreBuild σ α) store = (x, store) := by
  cases x <;> rfl

theorem runOn_tryCatch (x : StoreBuild σ α) (handle : BuildError → StoreBuild σ α)
    (store : Store σ) :
    runOn (tryCatch x handle) store =
      match runOn x store with
      | (.ok a, rest) => (.ok a, rest)
      | (.error e, rest) => runOn (handle e) rest := by
  change runOn (ExceptT.tryCatch x handle) store = _
  unfold runOn ExceptT.tryCatch
  simp only [ExceptT.run_mk, StateT.run_bind, Id.run_bind]
  change _ = match (StateT.run x store).run with
    | (Except.ok a, rest) => (Except.ok a, rest)
    | (Except.error e, rest) => runOn (handle e) rest
  rcases (StateT.run x store).run with ⟨r, rest⟩
  cases r with
  | ok a => rfl
  | error e => rfl

end StoreBuild

/-- What loading gives through the registry of a store. -/
def Store.load {σ : Type} (S : Setting) (store : Store σ) (name : String) :
    Except BuildError Template :=
  match store.registry with
  | some registry => (registry.load S.load name).1
  | none => S.load name

/-- Loading leaves a registry through which the same is loaded. -/
theorem Registry.load_load (registry : Registry) (read : String → Except BuildError Template)
    (name other : String) :
    ((registry.load read name).2.load read other).1 = (registry.load read other).1 := by
  unfold Registry.load
  cases hg : registry.get? name with
  | some t => rfl
  | none =>
    cases hl : read name with
    | error e => rfl
    | ok t =>
      simp only [OrderedMap.get?_insert]
      by_cases hn : name = other
      · subst hn
        simp only [hg, hl, if_true]
      · rw [if_neg hn]
        cases registry.get? other with
        | some u => rfl
        | none => cases read other <;> rfl

namespace Store

variable {σ : Type} (S : Setting) (store : Store σ)

theorem runOn_load (name : String) :
    ∃ rest : Store σ, (StoreBuild.load S name).runOn store = (store.load S name, rest) ∧
      rest.load S = store.load S ∧ rest.cache = store.cache := by
  rw [StoreBuild.load, StoreBuild.runOn_bind_ok (StoreBuild.runOn_get store)]
  cases hr : store.registry with
  | none =>
    refine ⟨store, ?_, rfl, rfl⟩
    rw [load, hr]
    exact StoreBuild.runOn_liftExcept _ _
  | some registry =>
    refine ⟨{ store with registry := some (registry.load S.load name).2 }, ?_, ?_, rfl⟩
    · refine (StoreBuild.runOn_bind_ok (StoreBuild.runOn_modify _ store) _).trans ?_
      rw [StoreBuild.runOn_liftExcept, load, hr]
      rfl
    · funext other
      simp only [load, hr]
      exact registry.load_load S.load name other

theorem runOn_load? (name : String) :
    ∃ rest : Store σ,
      (StoreBuild.load? S name).runOn store = (.ok (store.load S name).toOption, rest) ∧
      rest.load S = store.load S ∧ rest.cache = store.cache := by
  obtain ⟨rest, hl, hf, hc⟩ := store.runOn_load S name
  refine ⟨rest, ?_, hf, hc⟩
  rw [StoreBuild.load?, StoreBuild.runOn_tryCatch, map_eq_pure_bind, StoreBuild.runOn_bind, hl]
  cases store.load S name with
  | ok t => rfl
  | error e => rfl

/-- What is loaded is in the registry, or comes from the source. -/
theorem load_eq_ok {name : String} {t : Template} (h : store.load S name = .ok t) :
    (∃ registry, store.registry = some registry ∧ registry.get? name = some t) ∨
      S.load name = .ok t := by
  unfold load at h
  cases hr : store.registry with
  | none =>
    rw [hr] at h
    exact Or.inr h
  | some registry =>
    rw [hr] at h
    simp only [Registry.load] at h
    cases hg : registry.get? name with
    | some u =>
      rw [hg] at h
      exact Or.inl ⟨registry, rfl, hg.trans (congrArg some (Except.ok.inj h))⟩
    | none =>
      rw [hg] at h
      cases hl : S.load name with
      | ok u =>
        rw [hl] at h
        exact Or.inr h
      | error e =>
        rw [hl] at h
        cases h

end Store

/-- A registry that holds only what the source gives. -/
def Registry.Faithful (S : Setting) (registry : Registry) : Prop :=
  ∀ name t, registry.get? name = some t → S.load name = .ok t

def Store.Faithful {σ : Type} (S : Setting) (store : Store σ) : Prop :=
  ∀ registry, store.registry = some registry → registry.Faithful S

theorem Store.faithful_iff_load_eq {σ : Type} {S : Setting} {store : Store σ} :
    store.Faithful S ↔ store.load S = S.load := by
  constructor
  · intro h
    funext name
    unfold Store.load
    cases hr : store.registry with
    | none => rfl
    | some registry =>
      simp only [Registry.load]
      cases hg : registry.get? name with
      | some t => exact (h registry hr name t hg).symm
      | none => cases S.load name <;> rfl
  · intro h registry hr name t hg
    rw [← h]
    simp only [Store.load, hr, Registry.load, hg]

/-- No registry, or one in which nothing is registered yet. -/
def Registry.IsFresh (registry : Option Registry) : Prop :=
  registry = none ∨ registry = some []

theorem Store.faithful_of_isFresh {σ : Type} {S : Setting} {store : Store σ}
    (h : Registry.IsFresh store.registry) : store.Faithful S := by
  intro registry hr name t ht
  rcases h with h | h
  · rw [h] at hr
    cases hr
  · rw [h] at hr
    obtain rfl := Option.some.inj hr
    cases ht

/-- Through a faithful registry, loading gives what the source gives. -/
theorem StoreBuild.runOn_load {σ : Type} {S : Setting} {store : Store σ} (h : store.Faithful S)
    (name : String) :
    ∃ rest : Store σ, runOn (load S name) store = (S.load name, rest) ∧ rest.Faithful S ∧
      rest.cache = store.cache := by
  obtain ⟨rest, hl, hf, hc⟩ := store.runOn_load S name
  rw [Store.faithful_iff_load_eq.1 h] at hl hf
  exact ⟨rest, hl, Store.faithful_iff_load_eq.2 hf, hc⟩

end DocumentTemplates
