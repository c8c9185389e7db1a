import DocumentTemplates.Proofs.Build.FullDigest
import DocumentTemplates.Proofs.Cache.Memory

/-!
# Readings of a cache

What a build can see of a memory cache is its reading: the value that is found under each key now.
Results taken one by one are taken by the reading of the moment, results taken together all by the
reading at the start. In both ways what is found is returned, and what is not found is computed and
kept.
-/

namespace DocumentTemplates

/-- What is stored does not expire at once. -/
def BuildOptions.Lasting (options : BuildOptions) : Prop :=
  options.expiresIn.all (0 < ·) = true

/-- What is found under each key. -/
abbrev Reading := CacheKey → Option Value

namespace Reading

/-- Everything that one reading finds, the other finds too. -/
def Below (ρ ρ' : Reading) : Prop :=
  ∀ ⦃key v⦄, ρ key = some v → ρ' key = some v

theorem Below.refl (ρ : Reading) : ρ.Below ρ := fun _ _ h => h

theorem Below.trans {ρ ρ' ρ'' : Reading} (h : ρ.Below ρ') (h' : ρ'.Below ρ'') : ρ.Below ρ'' :=
  fun _ _ hv => h' (h hv)

/-- The reading after a value is stored. -/
def keep (ρ : Reading) (key : CacheKey) (v : Value) (expiresIn : Option Nat) : Reading :=
  Function.update ρ key (if expiresIn.all (0 < ·) then some v else none)

variable {ρ : Reading} {key : CacheKey} {v : Value} {expiresIn : Option Nat}

/-- Storing what is found already changes nothing. -/
theorem keep_eq_self (hl : expiresIn.all (0 < ·) = true) (h : ρ key = some v) :
    ρ.keep key v expiresIn = ρ := by
  rw [keep, if_pos hl, ← h, Function.update_eq_self]

/-- Storing what expires at once changes nothing, where nothing is found. -/
theorem keep_of_expired (hl : ¬ expiresIn.all (0 < ·) = true) (h : ρ key = none) :
    ρ.keep key v expiresIn = ρ := by
  rw [keep, if_neg hl, ← h, Function.update_eq_self]

theorem keep_self (hl : expiresIn.all (0 < ·) = true) : ρ.keep key v expiresIn key = some v := by
  rw [keep, if_pos hl, Function.update_self]

theorem keep_of_ne {other : CacheKey} (h : other ≠ key) :
    ρ.keep key v expiresIn other = ρ other :=
  Function.update_of_ne h _ _

end Reading

namespace MemoryCache

theorem lookup_filter_ne {α : Type} {key other : CacheKey} (h : other ≠ key)
    (entries : List (CacheKey × α)) :
    (entries.filter (·.1 ≠ key)).lookup other = entries.lookup other := by
  induction entries with
  | nil => rfl
  | cons entry rest ih =>
    obtain ⟨k, a⟩ := entry
    by_cases hk : k = key
    · subst hk
      rw [List.filter_cons_of_neg (by simp), ih, List.lookup_cons, beq_false_of_ne h]
    · rw [List.filter_cons_of_pos (by simpa using hk), List.lookup_cons, List.lookup_cons, ih]

theorem find?_store_of_ne (cache : MemoryCache) {key other : CacheKey} (h : other ≠ key)
    (v : Value) (expiresIn : Option Nat) :
    (cache.store key v expiresIn).find? other = cache.find? other := by
  unfold find? store
  rw [List.lookup_cons, beq_false_of_ne h, lookup_filter_ne h]

/-- Reading keys together finds what reading one of them finds. -/
theorem lookup_findMany (cache : MemoryCache) {keys : List CacheKey} {key : CacheKey}
    (h : key ∈ keys) : (cache.findMany keys).lookup key = cache.find? key := by
  unfold findMany
  rw [← List.mem_eraseDups] at h
  generalize keys.eraseDups = keys at h
  induction keys with
  | nil => cases h
  | cons other rest ih =>
    cases hv : cache.find? other with
    | none =>
      rw [List.filterMap_cons_none (by rw [hv]; rfl)]
      by_cases hk : key = other
      · subst hk
        rw [hv, List.lookup_eq_none_iff]
        intro hit hm
        obtain ⟨k, _, hk⟩ := List.mem_filterMap.1 hm
        obtain ⟨w, hw, rfl⟩ := Option.map_eq_some_iff.1 hk
        refine bne_iff_ne.2 ?_
        rintro rfl
        rw [hv] at hw
        cases hw
      · exact ih ((List.mem_cons.1 h).resolve_left hk)
    | some v =>
      rw [List.filterMap_cons_some (by rw [hv]; rfl), List.lookup_cons]
      by_cases hk : key = other
      · subst hk
        rw [beq_self_eq_true, hv]
      · rw [beq_false_of_ne hk]
        exact ih ((List.mem_cons.1 h).resolve_left hk)

end MemoryCache

/-- What is found in the cache of a store. -/
def Store.reading (store : Store MemoryCache) : Reading :=
  fun key => store.cache.bind fun cache => cache.find? key

theorem Store.reading_eq {store : Store MemoryCache} {cache : MemoryCache}
    (h : store.cache = some cache) : store.reading = cache.find? := by
  funext key
  rw [reading, h]
  rfl

theorem Store.reading_of_cache_eq {store rest : Store MemoryCache} (h : rest.cache = store.cache) :
    rest.reading = store.reading := by
  unfold reading
  rw [h]

theorem Store.reading_store (registry : Option Registry) (cache : MemoryCache) (key : CacheKey)
    (v : Value) (expiresIn : Option Nat) (sets : Nat) :
    ({ registry := registry, cache := some { cache.store key v expiresIn with sets := sets } } :
      Store MemoryCache).reading = Reading.keep cache.find? key v expiresIn := by
  funext other
  change (cache.store key v expiresIn).find? other = _
  by_cases h : other = key
  · subst h
    rw [cache.find?_store, Reading.keep, Function.update_self]
  · rw [cache.find?_store_of_ne h, Reading.keep_of_ne h]

/-- The cache after keys were read together. Without keys there is no call. -/
def MemoryCache.afterReading (cache : MemoryCache) (keys : List CacheKey) : MemoryCache :=
  if keys.isEmpty then cache else { cache with bulkGets := cache.bulkGets + 1 }

theorem MemoryCache.find?_afterReading (cache : MemoryCache) (keys : List CacheKey) :
    (cache.afterReading keys).find? = cache.find? := by
  unfold afterReading
  split <;> rfl

theorem Store.reading_of_afterReading {store rest : Store MemoryCache} {keys : List CacheKey}
    (h : rest.cache = store.cache.map fun cache => cache.afterReading keys) :
    rest.reading = store.reading := by
  funext key
  unfold reading
  rw [h]
  cases store.cache with
  | none => rfl
  | some cache => exact congrFun (cache.find?_afterReading keys) key

/-! ## Reading together or one by one -/

def Setting.withBulkReads (S : Setting) (bulk : Bool) : Setting :=
  { S with config := { S.config with bulkReads := bulk } }

/-- A store with a cache, through which the same is loaded as through another. -/
structure Store.Follows (S : Setting) (store origin : Store MemoryCache) : Prop where
  load : store.load S = origin.load S
  cached : ∃ cache, store.cache = some cache

/-- The key under which the result of a plan is looked up, if it is. -/
def Store.key? (S : Setting) (options : BuildOptions) (store : Store MemoryCache) (t : Template)
    (plan : Plan) : Option CacheKey :=
  if S.config.caching then plan.key? S.config options.format (store.fullDigest S t) else none

namespace StoreBuild

/-- Computes a value and stores it. -/
def keep (key : CacheKey) (expiresIn : Option Nat) (x : StoreBuild MemoryCache Value) :
    StoreBuild MemoryCache Value := do
  let v ← x
  callIfAny (ResultCache.set key v expiresIn) ()
  return v

/-- The value that a reading has under a key, or else the computed one, which is stored. -/
def takeBy (ρ : Reading) (expiresIn : Option Nat) (key : Option CacheKey)
    (x : StoreBuild MemoryCache Value) : StoreBuild MemoryCache Value :=
  match key with
  | none => x
  | some key =>
    match ρ key with
    | some v => pure v
    | none => keep key expiresIn x

section
variable {S : Setting} {options : BuildOptions} {origin store : Store MemoryCache}

theorem ext {σ α : Type} {x y : StoreBuild σ α} (h : ∀ store, runOn x store = runOn y store) :
    x = y :=
  funext h

theorem runOn_keep_cache {x : StoreBuild MemoryCache Value} {v : Value} {mid : Store MemoryCache}
    {cache : MemoryCache} (hx : runOn x store = (.ok v, mid)) (hc : mid.cache = some cache)
    (key : CacheKey) (expiresIn : Option Nat) :
    runOn (keep key expiresIn x) store = (.ok v, { mid with
      cache := some { cache.store key v expiresIn with sets := cache.sets + 1 } }) :=
  (runOn_bind_ok hx _).trans (runOn_bind_ok (runOn_set_cache hc key v expiresIn) _)

theorem runOn_keep {x : StoreBuild MemoryCache Value} {v : Value} {mid : Store MemoryCache}
    (hx : runOn x store = (.ok v, mid)) (hf : mid.Follows S origin) (key : CacheKey)
    (expiresIn : Option Nat) :
    ∃ rest, runOn (keep key expiresIn x) store = (.ok v, rest) ∧ rest.Follows S origin ∧
      rest.reading = mid.reading.keep key v expiresIn := by
  obtain ⟨cache, hc⟩ := hf.cached
  refine ⟨_, runOn_keep_cache hx hc key expiresIn, ⟨hf.load, _, rfl⟩, ?_⟩
  rw [Store.reading_store, Store.reading_eq hc]

theorem runOn_keep_error {x : StoreBuild MemoryCache Value} {e : BuildError}
    {mid : Store MemoryCache} (hx : runOn x store = (.error e, mid)) (key : CacheKey)
    (expiresIn : Option Nat) : runOn (keep key expiresIn x) store = (.error e, mid) := by
  rw [keep, runOn_bind, hx]

theorem runOn_fetch (hf : store.Follows S origin) (key : CacheKey) (expiresIn : Option Nat)
    (x : StoreBuild MemoryCache Value) :
    ∃ rest, rest.Follows S origin ∧ rest.reading = store.reading ∧
      runOn (fetch key expiresIn x) store =
        runOn (takeBy store.reading expiresIn (some key) x) rest := by
  obtain ⟨cache, hc⟩ := hf.cached
  refine ⟨{ store with cache := some { cache with gets := cache.gets + 1 } }, ⟨hf.load, _, rfl⟩,
    ?_, ?_⟩
  · rw [Store.reading_eq hc]
    rfl
  · rw [fetch, runOn_bind_ok (runOn_get_cache hc key), takeBy, Store.reading_eq hc]
    cases cache.find? key <;> rfl

theorem runOn_load_of_follows (hf : store.Follows S origin) (bulk : Bool) (name : String) :
    ∃ rest, runOn (load (S.withBulkReads bulk) name) store = (origin.load S name, rest) ∧
      rest.Follows S origin ∧ rest.reading = store.reading := by
  obtain ⟨cache, hc⟩ := hf.cached
  obtain ⟨rest, hr, hl, hrest⟩ := store.runOn_load (S.withBulkReads bulk) name
  have hload : store.load (S.withBulkReads bulk) name = origin.load S name := congrFun hf.load name
  rw [hload] at hr
  exact ⟨rest, hr, ⟨Eq.trans hl hf.load, cache, hrest.trans hc⟩, Store.reading_of_cache_eq hrest⟩

theorem runOn_fullDigest_of_follows (hf : store.Follows S origin) (bulk : Bool) (t : Template) :
    ∃ rest, runOn (fullDigest (S.withBulkReads bulk) t) store =
        (.ok (origin.fullDigest S t), rest) ∧
      rest.Follows S origin ∧ rest.cache = store.cache := by
  obtain ⟨cache, hc⟩ := hf.cached
  obtain ⟨rest, hd, hl, hrest⟩ := store.runOn_fullDigest (S.withBulkReads bulk) t
  have hdigest : store.fullDigest (S.withBulkReads bulk) t = origin.fullDigest S t :=
    Store.fullDigest_congr hf.load t
  rw [hdigest] at hd
  exact ⟨rest, hd, ⟨Eq.trans hl hf.load, cache, hrest.trans hc⟩, hrest⟩

theorem runOn_isCaching_of_follows (hf : store.Follows S origin) (bulk : Bool) :
    runOn (isCaching (S.withBulkReads bulk)) store = (.ok S.config.caching, store) := by
  obtain ⟨cache, hc⟩ := hf.cached
  rw [runOn_isCaching, hc]
  exact congrArg (fun b => (Except.ok b, store)) (Bool.and_true _)

/-- A result taken by itself is taken by the reading of the moment. -/
theorem runOn_single (hf : store.Follows S origin) (bulk : Bool) (t : Template) (plan : Plan)
    (compute : Plan → StoreBuild MemoryCache Value) :
    ∃ rest, rest.Follows S origin ∧ rest.reading = store.reading ∧
      runOn (single (S.withBulkReads bulk) options t plan compute) store =
        runOn (takeBy store.reading options.expiresIn (origin.key? S options t plan)
          (compute plan)) rest := by
  rw [single, runOn_bind_ok (runOn_isCaching_of_follows hf bulk), Store.key?]
  by_cases hon : S.config.caching = true
  · rw [if_pos hon, hon, Bool.true_and]
    cases ho : plan.item.contentKey? with
    | none =>
      have hk : plan.key? S.config options.format (origin.fullDigest S t) = none := by
        rw [Plan.key?, ho]
        rfl
      rw [hk]
      exact ⟨store, hf, rfl, rfl⟩
    | some object =>
      obtain ⟨rest, hd, hf', hcache⟩ := runOn_fullDigest_of_follows hf bulk t
      have hreading := Store.reading_of_cache_eq hcache
      obtain ⟨key, hk⟩ :
          ∃ key, plan.key? S.config options.format (origin.fullDigest S t) = some key :=
        ⟨_, by rw [Plan.key?, ho]; rfl⟩
      obtain ⟨rest', hf'', hreading', hrun⟩ := runOn_fetch hf' key options.expiresIn (compute plan)
      refine ⟨rest', hf'', hreading'.trans hreading, ?_⟩
      have hk' : plan.key? (S.withBulkReads bulk).config options.format (origin.fullDigest S t) =
          some key := hk
      rw [if_pos (by rfl), runOn_bind_ok hd, ← hreading, hk, ← hrun]
      simp only [hk']
  · rw [if_neg hon, Bool.eq_false_iff.2 hon, Bool.false_and]
    exact ⟨store, hf, rfl, rfl⟩

theorem single_of_not_caching (h : S.config.caching = false) (options : BuildOptions)
    (t : Template) (plan : Plan) (compute : Plan → StoreBuild MemoryCache Value) :
    single S options t plan compute = compute plan :=
  ext fun _ => runOn_single_of_uncached (Or.inl h) options t plan compute

/-- Read one by one, results are taken each by itself. -/
theorem runOn_many_singly (hf : store.Follows S origin) (t : Template) (plans : List Plan)
    (compute : Plan → StoreBuild MemoryCache Value) :
    ∃ rest, rest.Follows S origin ∧ rest.reading = store.reading ∧
      runOn (many (S.withBulkReads false) options t plans compute) store =
        runOn (plans.mapM fun plan => single (S.withBulkReads false) options t plan compute)
          rest := by
  rw [many, runOn_bind_ok (runOn_isCaching_of_follows hf false)]
  by_cases hon : S.config.caching = true
  · obtain ⟨rest, hd, hf', hcache⟩ := runOn_fullDigest_of_follows hf false t
    rw [if_pos hon, runOn_bind_ok hd]
    exact ⟨rest, hf', Store.reading_of_cache_eq hcache, rfl⟩
  · rw [if_neg hon]
    have hoff : (S.withBulkReads false).config.caching = false := Bool.eq_false_iff.2 hon
    simp only [single_of_not_caching hoff]
    exact ⟨store, hf, rfl, rfl⟩

theorem runOn_readTogether_of_follows (hf : store.Follows S origin) (keys : List CacheKey) :
    ∃ hits rest, runOn (readTogether keys) store = (.ok hits, rest) ∧ rest.Follows S origin ∧
      rest.cache = (store.cache.map fun cache => cache.afterReading keys) ∧
      ∀ key ∈ keys, hits.lookup key = store.reading key := by
  obtain ⟨cache, hc⟩ := hf.cached
  unfold readTogether
  by_cases he : keys.isEmpty
  · rw [if_pos he]
    refine ⟨[], store, rfl, hf, ?_, fun key hk => ?_⟩
    · rw [hc, Option.map_some, MemoryCache.afterReading, if_pos he]
    · rw [List.isEmpty_iff.1 he] at hk
      cases hk
  · rw [if_neg he]
    refine ⟨_, _, runOn_getMany_cache hc keys, ⟨hf.load, _, rfl⟩, ?_, fun key hk => ?_⟩
    · rw [hc, Option.map_some, MemoryCache.afterReading, if_neg he]
    · rw [cache.lookup_findMany hk, Store.reading_eq hc]

theorem fromHits_eq_takeBy {hits : List (CacheKey × Value)} {ρ : Reading}
    {compute : Plan → StoreBuild MemoryCache Value} {plan : Plan} {key : Option CacheKey}
    (h : ∀ k ∈ key, hits.lookup k = ρ k) :
    fromHits options hits compute plan key = takeBy ρ options.expiresIn key (compute plan) := by
  cases key with
  | none => rfl
  | some key =>
    rw [fromHits, takeBy, h key rfl]
    cases ρ key <;> rfl

/-- Read together, results are taken by the reading at the start. -/
theorem runOn_many_together (hf : store.Follows S origin) (t : Template) (plans : List Plan)
    (compute : Plan → StoreBuild MemoryCache Value) :
    ∃ rest, rest.Follows S origin ∧
      rest.cache = (store.cache.map fun cache =>
        cache.afterReading (plans.filterMap (origin.key? S options t))) ∧
      runOn (many (S.withBulkReads true) options t plans compute) store =
        runOn (plans.mapM fun plan => takeBy store.reading options.expiresIn
          (origin.key? S options t plan) (compute plan)) rest := by
  rw [many, runOn_bind_ok (runOn_isCaching_of_follows hf true)]
  by_cases hon : S.config.caching = true
  · obtain ⟨mid, hd, hf', hmid⟩ := runOn_fullDigest_of_follows hf true t
    have hkey : origin.key? S options t =
        fun plan => plan.key? S.config options.format (origin.fullDigest S t) :=
      funext fun plan => if_pos hon
    obtain ⟨hits, rest, hr, hf'', hrest, hhits⟩ :=
      runOn_readTogether_of_follows hf' (plans.filterMap (origin.key? S options t))
    refine ⟨rest, hf'', hmid ▸ hrest, ?_⟩
    rw [if_pos hon, runOn_bind_ok hd, if_pos (by rfl)]
    have hkeys : (plans.map fun plan => (plan, plan.key? S.config options.format
        (origin.fullDigest S t))).filterMap Prod.snd =
          plans.filterMap (origin.key? S options t) := by
      rw [List.filterMap_map, hkey]
      rfl
    rw [← hkeys] at hr
    refine (runOn_bind_ok hr _).trans ?_
    rw [List.mapM_map]
    congr 1
    refine mapM_congr_mem fun plan hp => ?_
    rw [hkey]
    refine fromHits_eq_takeBy fun key hk => ?_
    rw [← Store.reading_of_cache_eq hmid]
    exact hhits key (List.mem_filterMap.2 ⟨plan, hp, (congrFun hkey plan).trans hk⟩)
  · rw [if_neg hon]
    have hkey : origin.key? S options t = fun _ => none := funext fun plan => if_neg hon
    rw [hkey, List.filterMap_none]
    refine ⟨store, hf, ?_, rfl⟩
    cases store.cache <;> rfl

end

end StoreBuild

end DocumentTemplates
