import DocumentTemplates.Proofs.Build.Levels
import DocumentTemplates.Proofs.Cache.Keys
import DocumentTemplates.Proofs.Cache.Memory

/-!
# Builds through a cache

The invariant of a cache is that whatever is stored under a key is the settled result of a plan
that was asked for under this key. If plans asked for under one key settle on one result, a build
through the cache keeps the invariant, and returns what the plain build settles on. It may succeed
where the plain build fails on the bound of nesting, so the plain build is looked at under every
bound.
-/

namespace DocumentTemplates

/-- What a cache may hold: settled results of plans asked for, under their keys. -/
def Setting.Remembers (S : Setting) (Asked : Template → Plan → Prop) (key : CacheKey)
    (v : Value) : Prop :=
  ∃ t plan format, Asked t plan ∧ S.key? format t plan = some key ∧ S.Settled t plan v

/-- Plans asked for under the same key have the same results. -/
def Setting.KeysTell (S : Setting) (Asked : Template → Plan → Prop) : Prop :=
  ∀ {t t' plan plan' format format' key}, Asked t plan → Asked t' plan' →
    S.key? format t plan = some key → S.key? format' t' plan' = some key →
    t.directives = t'.directives ∧ plan.Same plan'

/-- A faithful store whose cache holds only what was asked for. -/
structure Store.Sound (S : Setting) (Asked : Template → Plan → Prop) (store : Store MemoryCache) :
    Prop where
  faithful : store.Faithful S
  cached : ∃ cache, store.cache = some cache ∧ cache.Holds (S.Remembers Asked)

/-- On sound stores, a success is one on which the other computation settles, and whatever the
other one gives under the bound on nesting is given. -/
def Simulation.caches (S : Setting) (Asked : Template → Plan → Prop) (levels : Nat) :
    Simulation (StoreBuild MemoryCache) Levelled where
  rel P x y := ∀ store : Store MemoryCache, store.Sound S Asked →
    ∃ r rest, x.runOn store = (r, rest) ∧ rest.Sound S Asked ∧
      (∀ a, r = .ok a → ∃ b, y.Settles b ∧ P a b) ∧
      (∀ b, y.run levels = .ok b → ∃ a, r = .ok a ∧ P a b)
  pure := by
    intro α β P a b h store hs
    refine ⟨.ok a, store, rfl, hs, ?_, ?_⟩
    · rintro _ ⟨⟩
      exact ⟨b, .pure b, h⟩
    · rintro _ ⟨⟩
      exact ⟨a, rfl, h⟩
  bind := by
    intro α β γ δ P Q x y f g hx hf store hs
    obtain ⟨r, rest, hr, hs₁, hsettle, hgive⟩ := hx store hs
    rw [StoreBuild.runOn_bind, hr]
    cases r with
    | error e =>
      refine ⟨.error e, rest, rfl, hs₁, fun _ h => (by cases h), fun d hd => ?_⟩
      obtain ⟨b, hb, _⟩ := Levelled.run_bind_eq_ok hd
      obtain ⟨a, ha, _⟩ := hgive b hb
      cases ha
    | ok a =>
      obtain ⟨b, hb, hab⟩ := hsettle a rfl
      obtain ⟨r', rest', hr', hs₂, hsettle', _⟩ := hf a b hab rest hs₁
      refine ⟨r', rest', hr', hs₂, fun c hc => ?_, fun d hd => ?_⟩
      · obtain ⟨d, hd, hcd⟩ := hsettle' c hc
        exact ⟨d, hb.bind hd, hcd⟩
      · obtain ⟨b', hb', hd⟩ := Levelled.run_bind_eq_ok hd
        obtain ⟨a', ha', hab'⟩ := hgive b' hb'
        obtain rfl := Except.ok.inj ha'
        obtain ⟨r'', rest'', hr'', _, _, hgive'⟩ := hf a b' hab' rest hs₁
        obtain ⟨rfl, -⟩ := Prod.mk.inj (hr'.symm.trans hr'')
        exact hgive' d hd

namespace Store.Sound

variable {S : Setting} {Asked : Template → Plan → Prop} {store : Store MemoryCache}

theorem of_cache_eq (h : store.Sound S Asked) {rest : Store MemoryCache} (hf : rest.Faithful S)
    (hc : rest.cache = store.cache) : rest.Sound S Asked := by
  obtain ⟨cache, hs, hh⟩ := h.cached
  exact ⟨hf, cache, hc.trans hs, hh⟩

end Store.Sound

namespace StoreBuild

variable {S : Setting} {Asked : Template → Plan → Prop} {levels : Nat} {t : Template}
  {plan : Plan} {format : Format} {key : CacheKey} {options : BuildOptions}
  {x : StoreBuild MemoryCache Value}

end StoreBuild

/-- Documents and results closed under what building them leads to. -/
structure Setting.Closed (S : Setting) (Built : Template → Data → Option Filter → Prop)
    (Asked : Template → Plan → Prop) : Prop where
  plan : ∀ {t plan}, Asked t plan → Built t plan.item plan.filter
  glue : ∀ {t object f selector guard body data}, Built t object f →
    Directive.glue selector guard body ∈ t.directives →
    selector.resolve? object S.scope = some data → Built body data f
  extend : ∀ {t object f base target guard extra data b}, Built t object f →
    Directive.extend base target guard extra ∈ t.directives →
    Strategy.extensionTarget S object target = some data → S.load base = .ok b →
    Built (b.extendedWith S.digestOf extra) data f
  child : ∀ {t object f selector objectRoot guard body}, Built t object f →
    Directive.child selector objectRoot guard body ∈ t.directives →
    ∀ plan ∈ childPlans S object f selector objectRoot, Asked body plan

namespace Strategy

variable {S : Setting} {Built : Template → Data → Option Filter → Prop}
  {Asked : Template → Plan → Prop} {options : BuildOptions}

end Strategy

/-- What is left of the simulation at the top: the store stays sound, and what the plain build
gives is given. -/
theorem Simulation.caches.run {α : Type} {S : Setting} {Asked : Template → Plan → Prop}
    {levels : Nat} {x : StoreBuild MemoryCache α} {y : Levelled α}
    (h : (Simulation.caches S Asked levels).rel Eq x y) {store : Store MemoryCache}
    (hs : store.Sound S Asked) :
    (x.runOn store).2.Sound S Asked ∧
      ∀ a, y.run levels = .ok a → (x.runOn store).1 = .ok a := by
  obtain ⟨r, rest, hr, hs', _, hgive⟩ := h store hs
  rw [hr]
  refine ⟨hs', fun a ha => ?_⟩
  obtain ⟨_, rfl, rfl⟩ := hgive a ha
  rfl

end DocumentTemplates
