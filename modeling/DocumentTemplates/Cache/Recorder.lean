import DocumentTemplates.Cache.Memory

/-!
# A cache that records its calls

A memory cache that keeps a record of its calls, and that can be set to refuse calls of one kind.
It may also answer a bulk read by reading the keys one by one, each recorded too.
-/

namespace DocumentTemplates

/-- The kinds of calls on a cache. -/
inductive CacheOperation where
  | get
  | getMany
  | set
  deriving DecidableEq

def CacheOperation.name : CacheOperation → String
  | .get => "get"
  | .getMany => "get_multi"
  | .set => "set"

def CacheOperation.ofName? (s : String) : Option CacheOperation :=
  [CacheOperation.get, .getMany, .set].find? (·.name = s)

/-- A memory cache with a record of its calls, in order. -/
structure RecordingCache where
  memory : MemoryCache := {}
  record : List String := []
  /-- True if several keys are read one by one. -/
  readsSingly : Bool := false
  /-- The kind of calls to refuse, and how many of them are still answered. -/
  refusal : Option (CacheOperation × Nat) := none

namespace RecordingCache

/-- Records a call, and refuses it if that is due. -/
def note (operation : CacheOperation) (keys : List CacheKey) : CacheCall RecordingCache Unit := do
  let line := String.intercalate " " (operation.name :: keys.map CacheKey.text)
  modify fun cache => { cache with record := cache.record ++ [line] }
  match (← get).refusal with
  | some (refused, left) =>
    if refused = operation then
      match left with
      | 0 => throw (operation.name ++ " refused")
      | left + 1 => modify fun cache => { cache with refusal := some (refused, left) }
  | none => return ()

def inMemory {α : Type} (call : CacheCall MemoryCache α) : CacheCall RecordingCache α := do
  let (result, memory) := call.run.run (← get).memory
  modify fun cache => { cache with memory := memory }
  match result with
  | .ok a => return a
  | .error reason => throw reason

def read (key : CacheKey) : CacheCall RecordingCache (Option Value) := do
  note .get [key]
  inMemory (ResultCache.get key)

instance : ResultCache RecordingCache where
  get := read
  getMany keys := do
    note .getMany keys
    if (← get).readsSingly then ResultCache.getEach read keys
    else inMemory (ResultCache.getMany keys)
  set key value expiresIn := do
    note .set [key]
    inMemory (ResultCache.set key value expiresIn)

end RecordingCache

end DocumentTemplates
