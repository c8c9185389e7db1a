import DocumentTemplates.Proofs.Build.FullDigest
import DocumentTemplates.Proofs.Build.Levels

/-!
# Keys of results

The key of a plan's result, and what two plans with the same key have in common. Where content keys,
digests and queries identify what they stand for, so do keys, as long as their digest parts tell the
digests apart.
-/

namespace DocumentTemplates

/-- The key of a plan's result under a setting, if its object has a content key. -/
def Setting.key? (S : Setting) (format : Format) (t : Template) (plan : Plan) : Option CacheKey :=
  plan.key? S.config format (S.fullDigest t)

theorem CacheKey.digestWith_left_inj {digest₁ digest₂ : String} {f : Option Filter}
    (h : CacheKey.digestWith digest₁ f = CacheKey.digestWith digest₂ f) : digest₁ = digest₂ := by
  cases f with
  | none => exact h
  | some f =>
    have hl := congrArg String.toList h
    simp only [CacheKey.digestWith, String.toList_append, List.append_cancel_right_eq] at hl
    exact String.toList_inj.1 hl

/-- Behind the same digest, the query of the filter can be read back. -/
theorem CacheKey.digestWith_right_inj {digest : String} {f f' : Option Filter}
    (h : CacheKey.digestWith digest f = CacheKey.digestWith digest f') :
    f.map Filter.query = f'.map Filter.query := by
  have hl := congrArg String.toList h
  cases f with
  | none =>
    cases f' with
    | none => rfl
    | some f' =>
      have hn := congrArg List.length hl
      simp [digestWith] at hn
  | some f =>
    cases f' with
    | none =>
      have hn := congrArg List.length hl
      simp [digestWith] at hn
    | some f' =>
      simp only [digestWith, String.toList_append, List.append_assoc,
        List.append_cancel_left_eq] at hl
      rw [Option.map_some, Option.map_some, String.toList_inj.1 hl]

theorem Plan.key?_eq_some {config : Config} {format : Format} {digest : String} {plan : Plan}
    {key : CacheKey} (h : plan.key? config format digest = some key) :
    key.space = config.cachePrefix ∧ key.digest = CacheKey.digestWith digest plan.filter := by
  obtain ⟨object, _, rfl⟩ := Option.map_eq_some_iff.1 h
  exact ⟨rfl, rfl⟩

theorem Setting.key?_inj {S₁ S₂ : Setting} {format : Format} {t : Template} {plan : Plan}
    {key : CacheKey} (h₁ : S₁.key? format t plan = some key)
    (h₂ : S₂.key? format t plan = some key) :
    S₁.config.cachePrefix = S₂.config.cachePrefix ∧ S₁.fullDigest t = S₂.fullDigest t := by
  obtain ⟨hs₁, hd₁⟩ := Plan.key?_eq_some h₁
  obtain ⟨hs₂, hd₂⟩ := Plan.key?_eq_some h₂
  exact ⟨hs₁.symm.trans hs₂, CacheKey.digestWith_left_inj (hd₁.symm.trans hd₂)⟩

/-! ## What keys identify -/

namespace CacheKey

variable {digest : Template → String} {Asked : Template → Plan → Prop}

/-- In the plans asked for, content keys stand for objects, digests for templates and queries for
filters. -/
structure PartsIdentify (digest : Template → String) (Asked : Template → Plan → Prop) : Prop where
  objects : ∀ {t t' plan plan' key}, Asked t plan → Asked t' plan' →
    plan.item.contentKey? = some key → plan'.item.contentKey? = some key → plan.item = plan'.item
  templates : ∀ {t t' plan plan'}, Asked t plan → Asked t' plan' → digest t = digest t' →
    t.directives = t'.directives
  filters : ∀ {t t' plan plan' f f'}, Asked t plan → Asked t' plan' → plan.filter = some f →
    plan'.filter = some f' → f.query = f'.query → f.fields = f'.fields

/-- In the plans asked for, the digest parts of keys tell the digests of templates apart. -/
def TellDigests (digest : Template → String) (Asked : Template → Plan → Prop) : Prop :=
  ∀ {t t' plan plan'}, Asked t plan → Asked t' plan' →
    digestWith (digest t) plan.filter = digestWith (digest t') plan'.filter → digest t = digest t'

/-- Plans under the same key have the same results. -/
theorem PartsIdentify.same (h : PartsIdentify digest Asked) (ht : TellDigests digest Asked)
    {t t' : Template} {plan plan' : Plan} (ha : Asked t plan) (ha' : Asked t' plan')
    {config : Config} {format format' : Format} {key : CacheKey}
    (hk : plan.key? config format (digest t) = some key)
    (hk' : plan'.key? config format' (digest t') = some key) :
    t.directives = t'.directives ∧ plan.Same plan' := by
  obtain ⟨object, ho, rfl⟩ := Option.map_eq_some_iff.1 hk
  obtain ⟨object', ho', hkey⟩ := Option.map_eq_some_iff.1 hk'
  obtain ⟨-, hobject, hroot, -, hdigest⟩ := CacheKey.mk.inj hkey
  have hfull := ht ha' ha hdigest
  refine ⟨(h.templates ha' ha hfull).symm, ?_, hroot.symm, ?_⟩
  · exact h.objects ha ha' ho (hobject ▸ ho')
  · rw [hfull] at hdigest
    have hq := digestWith_right_inj hdigest
    cases hf : plan.filter with
    | none =>
      rw [hf, Option.map_none] at hq
      rw [Option.map_eq_none_iff.1 hq]
      rfl
    | some f =>
      rw [hf, Option.map_some] at hq
      obtain ⟨f', hf', hq⟩ := Option.map_eq_some_iff.1 hq
      rw [hf']
      exact congrArg some (h.filters ha ha' hf hf' hq.symm)

end CacheKey

end DocumentTemplates
