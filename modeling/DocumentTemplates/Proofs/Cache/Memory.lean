import DocumentTemplates.Cache.Memory
import DocumentTemplates.Proofs.Build.Store

/-!
# Calls on a cache in memory

What is found in a memory cache was stored in it, so a property of all entries is one of all that
is found, and is kept if what is stored has it. No call on a memory cache fails.
-/

namespace DocumentTemplates

namespace MemoryCache

variable {P : CacheKey → Value → Prop} {cache : MemoryCache}

/-- Every entry, expired or not, has a property. -/
def Holds (P : CacheKey → Value → Prop) (cache : MemoryCache) : Prop :=
  ∀ entry ∈ cache.entries, P entry.1 entry.2.value

theorem Holds.store (h : cache.Holds P) {key : CacheKey} {v : Value} (hv : P key v)
    (expiresIn : Option Nat) : (cache.store key v expiresIn).Holds P := by
  intro entry he
  rcases List.mem_cons.1 he with rfl | he
  · exact hv
  · exact h entry (List.mem_filter.1 he).1

theorem find?_store (cache : MemoryCache) (key : CacheKey) (v : Value) (expiresIn : Option Nat) :
    (cache.store key v expiresIn).find? key =
      if expiresIn.all (0 < ·) then some v else none := by
  unfold find? store
  rw [List.lookup_cons_self]
  cases expiresIn with
  | none => rfl
  | some n => simp

end MemoryCache

namespace StoreBuild

variable {store : Store MemoryCache} {cache : MemoryCache}

theorem runOn_get_cache (h : store.cache = some cache) (key : CacheKey) :
    runOn (callIfAny (ResultCache.get key) none) store =
      (.ok (cache.find? key),
        { store with cache := some { cache with gets := cache.gets + 1 } }) := by
  obtain ⟨registry, _⟩ := store
  obtain rfl : _ = some cache := h
  rfl

theorem runOn_getMany_cache (h : store.cache = some cache) (keys : List CacheKey) :
    runOn (callIfAny (ResultCache.getMany keys) []) store =
      (.ok (cache.findMany keys),
        { store with cache := some { cache with bulkGets := cache.bulkGets + 1 } }) := by
  obtain ⟨registry, _⟩ := store
  obtain rfl : _ = some cache := h
  rfl

theorem runOn_set_cache (h : store.cache = some cache) (key : CacheKey) (v : Value)
    (expiresIn : Option Nat) :
    runOn (callIfAny (ResultCache.set key v expiresIn) ()) store =
      (.ok (), { store with
        cache := some { cache.store key v expiresIn with sets := cache.sets + 1 } }) := by
  obtain ⟨registry, _⟩ := store
  obtain rfl : _ = some cache := h
  rfl

end StoreBuild

end DocumentTemplates
