import DocumentTemplates.Proofs.Cache.Keys

/-!
# Keys under two configurations

A key names the object, the root, the format, the template with its bases and the filter, but of
the configuration only its prefix. Bases found in other search directories show in the digest, and
strictness and depth decide only whether a build succeeds. The null policy, the roots of children
and the exclusion of empty results decide what it gives, and no key tells them apart.
-/

namespace DocumentTemplates

/-- The result of a plan, built without registry and cache. -/
def Setting.result (S : Setting) (t : Template) (plan : Plan) : Except BuildError Value :=
  Strategy.compute ((Strategy.plain S).document S) t plan

/-- Under two configurations, over the same scope and source, equal keys mean equal results of
whatever succeeds under both. -/
def Config.KeysDetermineResults (c₁ c₂ : Config) : Prop :=
  ∀ (scope : Scope) (source : Source) (format : Format) (t : Template) (plan : Plan)
    (key : CacheKey) (v₁ v₂ : Value),
    let S₁ : Setting := ⟨c₁, scope, source, Digest.ofText⟩
    let S₂ : Setting := ⟨c₂, scope, source, Digest.ofText⟩
    Digest.CollisionFree (S₁.digestedTexts t ++ S₂.digestedTexts t) →
    S₁.key? format t plan = some key → S₂.key? format t plan = some key →
    S₁.result t plan = .ok v₁ → S₂.result t plan = .ok v₂ → v₁ = v₂

/-- The settings that decide what a successful build gives. -/
structure Config.SameDocuments (c₁ c₂ : Config) : Prop where
  nilPolicy : c₁.nilPolicy = c₂.nilPolicy
  childRoot : c₁.childRoot = c₂.childRoot
  excludeEmpty : c₁.excludeEmpty = c₂.excludeEmpty

namespace Setting

variable {S₁ S₂ : Setting} {t : Template} {plan : Plan}

theorem result_ok {v : Value} (h : S₁.result t plan = .ok v) :
    ∃ doc, (Strategy.plain S₁).document S₁ t plan.item plan.filter = .ok doc ∧
      v = .document (match plan.root with
        | some root => Document.wrap doc root
        | none => doc) := by
  obtain ⟨doc, hd, hv⟩ := bind_eq_ok.1 h
  cases hv
  exact ⟨doc, hd, rfl⟩

/-- Under the same full digest, successful results do not depend on strictness, on depth or on
where the bases are found. -/
theorem SameDigest.result_eq (h : SameDigest S₁ S₂ t) (ha : S₁.Alike S₂) {v₁ v₂ : Value}
    (h₁ : S₁.result t plan = .ok v₁) (h₂ : S₂.result t plan = .ok v₂) : v₁ = v₂ := by
  -- both results are those of the first setting without strictness, at the greater depth
  let S : Setting := { S₁ with config := { S₁.config with strictAttributes := false } }
  have ha₁ : S₁.Alike S := ⟨rfl, rfl, rfl, rfl⟩
  have ha₂ : S₂.Alike S := ⟨ha.scope.symm, ha.nilPolicy.symm, ha.childRoot.symm,
    ha.excludeEmpty.symm⟩
  have hb₁ : Below (· ∈ (S₁.bases t).names) S₁ S :=
    ⟨ha₁, fun hs => (by cases hs), fun {name base} hn hl => by
      obtain ⟨_, _, _, hnames⟩ := h.load hn hl
      exact ⟨base, hl, rfl, hnames⟩⟩
  have hb₂ : Below (· ∈ (S₂.bases t).names) S₂ S :=
    ⟨ha₂, fun hs => (by cases hs), fun hn hl => h.symm.load hn hl⟩
  obtain ⟨doc₁, hd₁, rfl⟩ := result_ok h₁
  obtain ⟨doc₂, hd₂, rfl⟩ := result_ok h₂
  have hm₁ := Strategy.evaluate_refines hb₁
    (Nat.succ_le_succ (Nat.le_max_left S₁.config.maxDepth S₂.config.maxDepth))
    ⟨rfl, .refl _, S₁.mem_names_bases t⟩ hd₁
  have hm₂ := Strategy.evaluate_refines hb₂
    (Nat.succ_le_succ (Nat.le_max_right S₁.config.maxDepth S₂.config.maxDepth))
    ⟨rfl, .refl _, S₂.mem_names_bases t⟩ hd₂
  rw [hm₁] at hm₂
  rw [Except.ok.inj hm₂]

end Setting

/-- Configurations that make the same documents agree on results under the same key. -/
theorem Config.SameDocuments.keysDetermineResults {c₁ c₂ : Config} (h : c₁.SameDocuments c₂) :
    c₁.KeysDetermineResults c₂ := by
  intro scope source format t plan key v₁ v₂ S₁ S₂ hc hk₁ hk₂ h₁ h₂
  have hs : S₁.SameDigest S₂ t := ⟨rfl, rfl, hc, (Setting.key?_inj hk₁ hk₂).2⟩
  exact hs.result_eq ⟨rfl, h.nilPolicy, h.childRoot, h.excludeEmpty⟩ h₁ h₂

/-! ## Settings that no key names -/

/-- The object and the template that tell the null policies apart: one member is null, the other
empty. -/
def blankObject : Data := .record none (some "1") [("a", .null), ("b", .string "")]

@[inherit_doc blankObject]
def blankTemplate : Template :=
  .mk none [.attribute { name := "a" }, .attribute { name := "b" }] "blank"

/-- The object and the templates that tell the treatments of list elements apart: the result for
the one element is empty, and wrapped as the template or else the configuration says. -/
def listObject : Data := .record none (some "1") [("items", .list none [.record none none []])]

@[inherit_doc listObject]
def listTemplate (objectRoot : Option RootSetting) : Template :=
  .mk none [.child (.member "items") objectRoot {} (.mk none [] "")] "list"

theorem Setting.result_blank (S : Setting) :
    S.result blankTemplate ⟨blankObject, none, none⟩ =
      .ok (.document (S.config.nilPolicy.apply [("a", .null), ("b", .string "")])) := rfl

theorem Setting.result_list (S : Setting) (hd : 0 < S.config.maxDepth)
    (objectRoot : Option RootSetting) :
    S.result (listTemplate objectRoot) ⟨listObject, none, none⟩ =
      .ok (.document [("items", .array
        (match (objectRoot.getD (.enabled S.config.childRoot)).resolve?
            (some (Inflection.singularize "items")) with
          | some root => [.document (Document.wrap [] root)]
          | none => if S.config.excludeEmpty then [] else [.document []]))]) := by
  obtain ⟨⟨strict, policy, caching, bulk, root, childRoot, excludeEmpty, depth, paths, ext, space⟩,
    scope, source, digestOf⟩ := S
  obtain ⟨depth, rfl⟩ : ∃ n, depth = n + 1 := ⟨depth - 1, by change 0 < depth at hd; omega⟩
  rcases objectRoot with _ | ⟨on⟩ | ⟨name⟩
  · cases childRoot <;> cases policy <;> cases excludeEmpty <;> rfl
  · cases on <;> cases policy <;> cases excludeEmpty <;> rfl
  · cases policy <;> cases excludeEmpty <;> rfl

def Config.alone (c : Config) : Setting :=
  ⟨c, .empty, .nowhere, Digest.ofText⟩

namespace Config.KeysDetermineResults

variable {c₁ c₂ : Config}

theorem result_eq (h : c₁.KeysDetermineResults c₂) (hp : c₁.cachePrefix = c₂.cachePrefix)
    {t : Template} (ht : t.baseNames = []) {plan : Plan} (hk : plan.item.contentKey?.isSome)
    {v₁ v₂ : Value} (h₁ : c₁.alone.result t plan = .ok v₁)
    (h₂ : c₂.alone.result t plan = .ok v₂) : v₁ = v₂ := by
  have hc : Digest.CollisionFree (c₁.alone.digestedTexts t ++ c₂.alone.digestedTexts t) := by
    have htexts : ∀ c : Config, c.alone.digestedTexts t = [BaseDigests.joined t.digest []] := by
      intro c
      rw [Setting.digestedTexts, c.alone.bases_eq_nil ht]
      rfl
    rw [htexts, htexts]
    intro s hs s' hs' _
    simp only [List.mem_append, List.mem_singleton, or_self] at hs hs'
    rw [hs, hs']
  obtain ⟨object, ho⟩ := Option.isSome_iff_exists.1 hk
  refine h .empty .nowhere .json t plan _ v₁ v₂ hc (Option.map_eq_some_iff.2 ⟨object, ho, rfl⟩)
    (Option.map_eq_some_iff.2 ⟨object, ho, ?_⟩) h₁ h₂
  change CacheKey.mk c₂.cachePrefix _ _ _ (CacheKey.digestWith (c₂.alone.fullDigest t) _) =
    CacheKey.mk c₁.cachePrefix _ _ _ (CacheKey.digestWith (c₁.alone.fullDigest t) _)
  rw [hp, Setting.fullDigest_eq_digest _ ht, Setting.fullDigest_eq_digest _ ht]

theorem nilPolicy_eq (h : c₁.KeysDetermineResults c₂) (hp : c₁.cachePrefix = c₂.cachePrefix) :
    c₁.nilPolicy = c₂.nilPolicy := by
  have hv := h.result_eq hp rfl rfl c₁.alone.result_blank c₂.alone.result_blank
  change Value.document (c₁.nilPolicy.apply _) = .document (c₂.nilPolicy.apply _) at hv
  cases h₁ : c₁.nilPolicy <;> cases h₂ : c₂.nilPolicy <;> rw [h₁, h₂] at hv <;>
    first
      | rfl
      | simp [NilPolicy.apply, NilPolicy.mapEntries, NilPolicy.mapLeaves, NilPolicy.blankLeaf,
          NilPolicy.emptyLeaf, NilPolicy.dropNullsEntries, NilPolicy.dropNulls] at hv

theorem childRoot_eq (h : c₁.KeysDetermineResults c₂) (hp : c₁.cachePrefix = c₂.cachePrefix)
    (hd₁ : 0 < c₁.maxDepth) (hd₂ : 0 < c₂.maxDepth) : c₁.childRoot = c₂.childRoot := by
  have hv := h.result_eq hp rfl rfl (c₁.alone.result_list hd₁ none) (c₂.alone.result_list hd₂ none)
  change Value.document [("items", .array
      (match RootSetting.resolve? (.enabled c₁.childRoot) _ with
        | some root => _ | none => if c₁.excludeEmpty then [] else _))] =
    Value.document [("items", .array
      (match RootSetting.resolve? (.enabled c₂.childRoot) _ with
        | some root => _ | none => if c₂.excludeEmpty then [] else _))] at hv
  cases h₁ : c₁.childRoot <;> cases h₂ : c₂.childRoot <;> rw [h₁, h₂] at hv <;>
    first
      | rfl
      | (simp [RootSetting.resolve?, Document.wrap, Document.single] at hv
         split at hv <;> simp at hv)

theorem excludeEmpty_eq (h : c₁.KeysDetermineResults c₂) (hp : c₁.cachePrefix = c₂.cachePrefix)
    (hd₁ : 0 < c₁.maxDepth) (hd₂ : 0 < c₂.maxDepth) : c₁.excludeEmpty = c₂.excludeEmpty := by
  have hv := h.result_eq hp rfl rfl (c₁.alone.result_list hd₁ (some (.enabled false)))
    (c₂.alone.result_list hd₂ (some (.enabled false)))
  change Value.document [("items", .array (if c₁.excludeEmpty then [] else [.document []]))] =
    Value.document [("items", .array (if c₂.excludeEmpty then [] else [.document []]))] at hv
  cases h₁ : c₁.excludeEmpty <;> cases h₂ : c₂.excludeEmpty <;> rw [h₁, h₂] at hv <;>
    first
      | rfl
      | simp at hv

end Config.KeysDetermineResults

/-- Under two configurations equal keys mean equal results exactly if no two keys are equal, or
the configurations agree on nulls, on the roots of children and on empty results. -/
theorem Config.keysDetermineResults_iff (c₁ c₂ : Config) :
    (c₁.cachePrefix ≠ c₂.cachePrefix ∨ c₁.SameDocuments c₂ → c₁.KeysDetermineResults c₂) ∧
      (c₁.validated = .ok c₁ → c₂.validated = .ok c₂ → c₁.KeysDetermineResults c₂ →
        c₁.cachePrefix ≠ c₂.cachePrefix ∨ c₁.SameDocuments c₂) := by
  constructor
  · rintro (hp | hs)
    · intro scope source format t plan key v₁ v₂ S₁ S₂ _ hk₁ hk₂ _ _
      exact absurd (Setting.key?_inj hk₁ hk₂).1 hp
    · exact hs.keysDetermineResults
  · intro hv₁ hv₂ h
    have hd : ∀ {c : Config}, c.validated = .ok c → 0 < c.maxDepth := by
      intro c hv
      unfold Config.validated at hv
      split at hv
      · cases hv
      · omega
    by_cases hp : c₁.cachePrefix = c₂.cachePrefix
    · exact Or.inr ⟨h.nilPolicy_eq hp, h.childRoot_eq hp (hd hv₁) (hd hv₂),
        h.excludeEmpty_eq hp (hd hv₁) (hd hv₂)⟩
    · exact Or.inl hp

/-- A strict configuration agrees with a shallow one, and a configuration with itself. -/
theorem Config.keysDetermineResults_strict_shallow :
    KeysDetermineResults { caching := true, strictAttributes := true }
        { caching := true, maxDepth := 3 } ∧
      SameDocuments { caching := true } { caching := true } := by
  have hs : SameDocuments { caching := true, strictAttributes := true }
      { caching := true, maxDepth := 3 } := ⟨rfl, rfl, rfl⟩
  have hk := (keysDetermineResults_iff { caching := true } { caching := true }).1
    (Or.inr ⟨rfl, rfl, rfl⟩)
  refine ⟨(keysDetermineResults_iff _ _).1 (Or.inr hs), ?_⟩
  exact ((keysDetermineResults_iff _ _).2 rfl rfl hk).resolve_left fun hp => hp rfl

/-- Configurations that differ in their null policies alone share keys, but not results. -/
theorem Config.not_keysDetermineResults_dropNil :
    ¬ KeysDetermineResults { caching := true } { caching := true, nilPolicy := .dropNil } := by
  intro h
  have hp := h.nilPolicy_eq rfl
  cases hp

end DocumentTemplates
