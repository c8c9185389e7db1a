import DocumentTemplates.Cache.Memory
import DocumentTemplates.Proofs.Build.FullDigest

/-!
# Bases are covered by the full digest

The full digest is found in the end, whatever the texts of a source extend: each other, themselves,
or names that cannot be loaded. And two sources under which a template has the same full digest
give the same builds.
-/

namespace DocumentTemplates

/-- The setting with texts as its source. -/
def Setting.ofTexts (texts : OrderedMap String) (config : Config) (scope : Scope) : Setting :=
  ⟨config, scope, .memory texts, Digest.ofText⟩

section
variable {texts₁ texts₂ : OrderedMap String} {t : Template} {config : Config} {scope : Scope}

/-- Texts are found without regard to the configuration and the scope, so the texts with the same
full digest under one configuration have it under all. -/
theorem Setting.SameDigest.withConfig
    (h : SameDigest (.ofTexts texts₁ config scope) (.ofTexts texts₂ config scope) t)
    (config' : Config) (scope' : Scope) :
    SameDigest (.ofTexts texts₁ config' scope') (.ofTexts texts₂ config' scope') t := by
  have hb : ∀ texts, (ofTexts texts config' scope').bases t = (ofTexts texts config scope).bases t :=
    fun texts => bases_congr rfl t
  refine ⟨rfl, rfl, ?_, ?_⟩
  · have hc := h.collisionFree
    unfold digestedTexts at hc ⊢
    rw [hb, hb]
    exact hc
  · have hf := h.fullDigest
    unfold Setting.fullDigest at hf ⊢
    rw [hb, hb]
    exact hf

theorem Setting.SameDigest.build_toOption_eq
    (h : SameDigest (.ofTexts texts₁ config scope) (.ofTexts texts₂ config scope) t)
    (options : BuildOptions) (data : Data) :
    (t.build (.ofTexts texts₁ config scope) options data).toOption =
      (t.build (.ofTexts texts₂ config scope) options data).toOption :=
  toOption_eq_of_forall
    (fun _ hv => Strategy.build_refines (h.below ⟨rfl, rfl, rfl, rfl⟩ id) le_rfl rfl
      (mem_names_bases _ t) hv)
    (fun _ hv => Strategy.build_refines (h.symm.below ⟨rfl, rfl, rfl, rfl⟩ id) le_rfl rfl
      (mem_names_bases _ t) hv)

theorem Setting.SameDigest.buildAll_toOption_eq
    (h : SameDigest (.ofTexts texts₁ config scope) (.ofTexts texts₂ config scope) t)
    (options : BuildOptions) (objects : List Data) :
    (t.buildAll (.ofTexts texts₁ config scope) options objects).toOption =
      (t.buildAll (.ofTexts texts₂ config scope) options objects).toOption :=
  toOption_eq_of_forall
    (fun _ hv => Strategy.buildAll_refines (h.below ⟨rfl, rfl, rfl, rfl⟩ id) le_rfl
      (mem_names_bases _ t) hv)
    (fun _ hv => Strategy.buildAll_refines (h.symm.below ⟨rfl, rfl, rfl, rfl⟩ id) le_rfl
      (mem_names_bases _ t) hv)

end

namespace StoreBuild

/-- The full digest covers the bases. It is found without registry or with a fresh one, and is
then the digest of a finite walk through the bases. And if the texts at hand have digests of their
own, then two sources of texts with the same full digest give the same builds, under every
configuration and in every scope, where no results are cached. -/
theorem fullDigest_covers_bases {σ : Type} [ResultCache σ] :
    (∀ (S : Setting) (t : Template) (store : Store σ), Registry.IsFresh store.registry →
      ∃ bases rest, BaseWalk S.load? t.baseNames [] bases ∧
        runOn (fullDigest S t) store = (.ok (bases.combine S.digestOf t.digest), rest)) ∧
    ∀ (texts₁ texts₂ : OrderedMap String) (t : Template) (config : Config) (scope : Scope)
      (store₁ store₂ : Store σ),
      Registry.IsFresh store₁.registry → Registry.IsFresh store₂.registry →
      Digest.CollisionFree ((Setting.ofTexts texts₁ config scope).digestedTexts t ++
        (Setting.ofTexts texts₂ config scope).digestedTexts t) →
      (runOn (fullDigest (.ofTexts texts₁ config scope) t) store₁).1 =
        (runOn (fullDigest (.ofTexts texts₂ config scope) t) store₂).1 →
      ∀ (config' : Config) (scope' : Scope) (options : BuildOptions) (store₁' store₂' : Store σ),
        Registry.IsFresh store₁'.registry → Registry.IsFresh store₂'.registry →
        store₁'.Uncached (.ofTexts texts₁ config' scope') →
        store₂'.Uncached (.ofTexts texts₂ config' scope') →
        (∀ data : Data,
          (runOn ((Strategy.stored (.ofTexts texts₁ config' scope') options).build
            (.ofTexts texts₁ config' scope') options t data) store₁').1.toOption =
          (runOn ((Strategy.stored (.ofTexts texts₂ config' scope') options).build
            (.ofTexts texts₂ config' scope') options t data) store₂').1.toOption) ∧
        ∀ objects : List Data,
          (runOn ((Strategy.stored (.ofTexts texts₁ config' scope') options).buildAll
            (.ofTexts texts₁ config' scope') options t objects) store₁').1.toOption =
          (runOn ((Strategy.stored (.ofTexts texts₂ config' scope') options).buildAll
            (.ofTexts texts₂ config' scope') options t objects) store₂').1.toOption := by
  refine ⟨fun S t store hr => ?_, ?_⟩
  · obtain ⟨rest, hd, _⟩ := runOn_fullDigest (Store.faithful_of_isFresh (S := S) hr) t
    exact ⟨S.bases t, rest, S.bases_walk t, hd⟩
  · intro texts₁ texts₂ t config scope store₁ store₂ hr₁ hr₂ hc hd config' scope' options
      store₁' store₂' hr₁' hr₂' hu₁ hu₂
    obtain ⟨_, hd₁, _⟩ := runOn_fullDigest
      (Store.faithful_of_isFresh (S := .ofTexts texts₁ config scope) hr₁) t
    obtain ⟨_, hd₂, _⟩ := runOn_fullDigest
      (Store.faithful_of_isFresh (S := .ofTexts texts₂ config scope) hr₂) t
    rw [hd₁, hd₂] at hd
    have hs : Setting.SameDigest (.ofTexts texts₁ config scope) (.ofTexts texts₂ config scope) t :=
      ⟨rfl, rfl, hc, Except.ok.inj hd⟩
    have hs' := hs.withConfig config' scope'
    refine ⟨fun data => ?_, fun objects => ?_⟩
    · rw [Strategy.runOn_stored_build options t data (Store.faithful_of_isFresh hr₁') hu₁,
        Strategy.runOn_stored_build options t data (Store.faithful_of_isFresh hr₂') hu₂]
      exact hs'.build_toOption_eq options data
    · rw [Strategy.runOn_stored_buildAll options t objects (Store.faithful_of_isFresh hr₁') hu₁,
        Strategy.runOn_stored_buildAll options t objects (Store.faithful_of_isFresh hr₂') hu₂]
      exact hs'.buildAll_toOption_eq options objects

/-- A template that extends a card, which extends itself, and something that is not there: a text
that no base leads to changes neither the full digest nor the build. -/
theorem fullDigest_covers_cyclic_card :
    let card := ("card", "- attribute: id\n- extends: card\n  if: deeper")
    let S₁ := Setting.ofTexts [card] {} .empty
    let S₂ := Setting.ofTexts [card, ("other", "- attribute: name")] {} .empty
    let nothing := Template.mk none [] "none"
    let t := Template.mk none [.extend "card" none {} nothing,
      .extend "gone" none ⟨none, some (.always true)⟩ nothing] "v1"
    let store : Store MemoryCache := { registry := some [] }
    let object := Data.record none none [("id", .integer 1)]
    Registry.IsFresh store.registry ∧
      Digest.CollisionFree (S₁.digestedTexts t ++ S₂.digestedTexts t) ∧
      (runOn (fullDigest S₁ t) store).1 = (runOn (fullDigest S₂ t) store).1 ∧
      store.Uncached S₁ ∧ store.Uncached S₂ ∧
      (runOn ((Strategy.stored S₁ {}).build S₁ {} t object) store).1.toOption =
        (runOn ((Strategy.stored S₂ {}).build S₂ {} t object) store).1.toOption := by
  intro card S₁ S₂ nothing t store object
  have hr : Registry.IsFresh store.registry := Or.inr rfl
  have hc : Digest.CollisionFree (S₁.digestedTexts t ++ S₂.digestedTexts t) := by decide +kernel
  have hb : S₁.bases t = S₂.bases t := by decide +kernel
  have hd : (runOn (fullDigest S₁ t) store).1 = (runOn (fullDigest S₂ t) store).1 := by
    obtain ⟨_, h₁, _⟩ := runOn_fullDigest (Store.faithful_of_isFresh (S := S₁) hr) t
    obtain ⟨_, h₂, _⟩ := runOn_fullDigest (Store.faithful_of_isFresh (S := S₂) hr) t
    rw [h₁, h₂, Setting.fullDigest, hb]
    rfl
  have hu₁ : store.Uncached S₁ := Or.inl rfl
  have hu₂ : store.Uncached S₂ := Or.inl rfl
  have h := fullDigest_covers_bases.2 _ _ t {} .empty store store hr hr hc hd {} .empty {}
    store store hr hr hu₁ hu₂
  exact ⟨hr, hc, hd, hu₁, hu₂, h.1 object⟩

end StoreBuild

end DocumentTemplates
