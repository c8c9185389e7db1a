import DocumentTemplates.Proofs.Build.Childless
import DocumentTemplates.Proofs.Cache.Reading

/-!
# Several objects at once

What several objects are given when they are built together, with bulk reads and a template without
children, and which calls this makes on the cache: one bulk read if any of them has a key, and one
write for each that has a key under which nothing was found at the start. The first object that
fails ends the build; the results in front of it stay written.
-/

namespace DocumentTemplates

/-! ## Writing several results -/

namespace MemoryCache

/-- The cache after a call that stores a value. -/
def put (cache : MemoryCache) (expiresIn : Option Nat) (write : CacheKey × Value) : MemoryCache :=
  { cache.store write.1 write.2 expiresIn with sets := cache.sets + 1 }

variable (cache : MemoryCache) (expiresIn : Option Nat) (writes : List (CacheKey × Value))

end MemoryCache

/-! ## The objects of a batch -/

/-- The plan for one of several objects. -/
def BuildOptions.planOf (options : BuildOptions) (item : Data) : Plan :=
  let root := options.elementRoot.resolve? (deriveName? none item none)
  ⟨item, root, Filter.scoped options.activeFilter root⟩

/-- What several objects are built with. -/
structure Batch where
  setting : Setting
  options : BuildOptions
  template : Template
  store : Store MemoryCache

namespace Batch

/-- The results for objects, and the store that is left. -/
def run (b : Batch) (items : List Data) : Except BuildError (List Value) × Store MemoryCache :=
  ((Strategy.stored b.setting b.options).buildAll b.setting b.options b.template items).runOn
    b.store

/-- The same without a cache. -/
def withoutCache (b : Batch) : Batch :=
  { b with store := { b.store with cache := none } }

/-- The outcome for an object by itself, without a cache. -/
def alone (b : Batch) (item : Data) : Except BuildError (List Value) :=
  (b.withoutCache.run [item]).1

/-- The key of an object, if it has one. -/
def key? (b : Batch) (item : Data) : Option CacheKey :=
  b.store.key? b.setting b.options b.template (b.options.planOf item)

/-- What is found for an object at the start. -/
def live? (b : Batch) (item : Data) : Option Value :=
  (b.key? item).bind b.store.reading

/-- An object is given what is found for it, or else its result by itself. -/
inductive Given (b : Batch) (item : Data) (v : Value) : Prop
  | live (h : b.live? item = some v)
  | built (hmiss : b.live? item = none) (h : b.alone item = .ok [v])

/-- How a build ends, with the objects that are done: all of them, or those in front of the first
for which nothing is found and which fails by itself. -/
inductive Ends (b : Batch) : List Data → List (Data × Value) → Except BuildError (List Value) → Prop
  | all {items : List Data} {values : List Value} (h : List.Forall₂ b.Given items values) :
    Ends b items (items.zip values) (.ok values)
  | failed {before after : List Data} {item : Data} {values : List Value} {e : BuildError}
    (h : List.Forall₂ b.Given before values) (hmiss : b.live? item = none)
    (hfails : b.alone item = .error e) :
    Ends b (before ++ item :: after) (before.zip values) (.error e)

variable {b : Batch}

theorem Ends.cons {item : Data} {v : Value} (hgiven : b.Given item v) {items : List Data}
    {done : List (Data × Value)} {r : Except BuildError (List Value)} (h : b.Ends items done r) :
    b.Ends (item :: items) ((item, v) :: done) (r.map (List.cons v)) := by
  cases h with
  | all h => exact .all (.cons hgiven h)
  | failed h hmiss hfails => exact .failed (.cons hgiven h) hmiss hfails

/-! ## One object -/

/-- The result for an object, computed. -/
def compute (b : Batch) (item : Data) : StoreBuild MemoryCache Value :=
  Strategy.compute ((Strategy.stored b.setting b.options).document b.setting) b.template
    (b.options.planOf item)

/-- The result for an object, as it is found or computed and stored. -/
def take (b : Batch) (item : Data) : StoreBuild MemoryCache Value :=
  StoreBuild.takeBy b.store.reading b.options.expiresIn (b.key? item) (b.compute item)

/-- The result for an object by itself, where there is no cache. -/
def built (b : Batch) (item : Data) : Except BuildError Value :=
  ((b.compute item).runOn b.withoutCache.store).1

theorem Ends.mem {items : List Data} {done : List (Data × Value)}
    {r : Except BuildError (List Value)} (h : b.Ends items done r) {entry : Data × Value}
    (he : entry ∈ done) : entry.1 ∈ items := by
  cases h with
  | all h => exact (List.of_mem_zip he).1
  | failed h hmiss hfails => exact List.mem_append_left _ (List.of_mem_zip he).1

end Batch

end DocumentTemplates
