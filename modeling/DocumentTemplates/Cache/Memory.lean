import DocumentTemplates.Cache

/-!
# A cache in memory

Entries by key, some of which expire, with counts of the calls made. An entry that has expired is
no longer found but still takes its place.
-/

namespace DocumentTemplates

/-- A stored result and the time at which it expires. -/
structure CacheEntry where
  value : Value
  expiresAt : Option Nat

/-- A cache in memory, with the time in seconds on its clock. -/
structure MemoryCache where
  entries : List (CacheKey × CacheEntry) := []
  now : Nat := 0
  gets : Nat := 0
  bulkGets : Nat := 0
  sets : Nat := 0

namespace MemoryCache

/-- The value under a key that has not expired. -/
def find? (cache : MemoryCache) (key : CacheKey) : Option Value :=
  match cache.entries.lookup key with
  | some entry => if entry.expiresAt.all (cache.now < ·) then some entry.value else none
  | none => none

/-- Stores a value under a key, in place of the entry that may be there. -/
def store (cache : MemoryCache) (key : CacheKey) (value : Value) (expiresIn : Option Nat) :
    MemoryCache :=
  let entry : CacheEntry := ⟨value, expiresIn.map (cache.now + ·)⟩
  { cache with entries := (key, entry) :: cache.entries.filter (·.1 ≠ key) }

def clear (cache : MemoryCache) : MemoryCache :=
  { cache with entries := [] }

def findMany (cache : MemoryCache) (keys : List CacheKey) : List (CacheKey × Value) :=
  keys.eraseDups.filterMap fun key => (cache.find? key).map fun value => (key, value)

instance : ResultCache MemoryCache where
  get key := do
    modify fun cache => { cache with gets := cache.gets + 1 }
    return (← get).find? key
  getMany keys := do
    modify fun cache => { cache with bulkGets := cache.bulkGets + 1 }
    return (← get).findMany keys
  set key value expiresIn := do
    modify fun cache => { cache.store key value expiresIn with sets := cache.sets + 1 }

end MemoryCache

end DocumentTemplates
