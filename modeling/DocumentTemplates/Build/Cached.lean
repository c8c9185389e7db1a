import DocumentTemplates.Build
import DocumentTemplates.Cache
import DocumentTemplates.Registry
import DocumentTemplates.Template.Bases

/-!
# Builds with a registry and a cache

Templates are taken from a registry, if there is one, and results from a cache, if there is one and
caching is on. Only objects with a content key are cached. The key of a result covers the object,
the root, the format, and a digest of the template with everything it extends and of the filter.
-/

namespace DocumentTemplates

/-- What outlives a build. -/
structure Store (σ : Type) where
  registry : Option Registry := none
  cache : Option σ := none

/-- A build that reads and writes a store. -/
abbrev StoreBuild (σ : Type) := ExceptT BuildError (StateM (Store σ))

namespace StoreBuild

variable {σ : Type}

def load (setting : Setting) (name : String) : StoreBuild σ Template := do
  let read (name : String) :=
    setting.source.template setting.digestOf name setting.config.searchPaths
  match (← get).registry with
  | some registry =>
    let (result, registry) := registry.load read name
    modify fun store => { store with registry := some registry }
    liftExcept result
  | none => liftExcept (read name)

def load? (setting : Setting) (name : String) : StoreBuild σ (Option Template) :=
  tryCatch (some <$> load setting name) fun _ => pure none

def call {α : Type} (cache : σ) (action : CacheCall σ α) : StoreBuild σ α := do
  let (result, cache) := action.run.run cache
  modify fun store => { store with cache := some cache }
  match result with
  | .ok a => return a
  | .error reason => throw (.cache reason)

def callIfAny {α : Type} (action : CacheCall σ α) (absent : α) : StoreBuild σ α := do
  match (← get).cache with
  | some cache => call cache action
  | none => return absent

def isCaching (setting : Setting) : StoreBuild σ Bool := do
  return setting.config.caching && (← get).cache.isSome

end StoreBuild

def Source.texts : Source → List String
  | .nowhere => []
  | .memory texts => texts.values
  | .files store _ => store.entries.filterMap Prod.snd

/-- The names of the templates that the texts of a source extend. -/
def Source.baseNames (digestOf : String → String) (source : Source) : List String :=
  source.texts.flatMap fun text => match Template.read digestOf "" text with
    | .ok t => t.baseNames
    | .error _ => []

/-- The names of the templates that registered templates extend. -/
def Registry.baseNames (registry : Registry) : List String :=
  registry.flatMap fun entry => entry.2.baseNames

namespace StoreBuild

variable {σ : Type}

/-- The bases of a template with their digests. No chain of bases is longer than the number of
names that occur in any template at hand. -/
def baseDigests (setting : Setting) (t : Template) : StoreBuild σ BaseDigests := do
  let names := t.baseNames
  let registry := (← get).registry.getD []
  let length := names.length + (setting.source.baseNames setting.digestOf).length
    + registry.baseNames.length
  BaseDigests.visit (load? setting) length names []

/-- The digest that covers a template and its bases. -/
def fullDigest (setting : Setting) (t : Template) : StoreBuild σ String := do
  let bases ← baseDigests setting t
  return bases.combine setting.digestOf t.digest

end StoreBuild

/-- The digest part of a key: that of the template, and the query of the filter. -/
def CacheKey.digestWith (digest : String) (f : Option Filter) : String :=
  match f with
  | some f => digest ++ "|" ++ f.query
  | none => digest

/-- The key of a plan's result, if its object has a content key. -/
def Plan.key? (config : Config) (format : Format) (digest : String) (plan : Plan) :
    Option CacheKey :=
  plan.item.contentKey?.map fun object =>
    { space := config.cachePrefix
      object := object
      root := plan.root
      format := format
      digest := CacheKey.digestWith digest plan.filter }

namespace StoreBuild

variable {σ : Type} [ResultCache σ]

/-- The value under a key, or else the computed one, which is stored. -/
def fetch (key : CacheKey) (expiresIn : Option Nat) (compute : StoreBuild σ Value) :
    StoreBuild σ Value := do
  match ← callIfAny (ResultCache.get key) none with
  | some v => return v
  | none =>
    let v ← compute
    callIfAny (ResultCache.set key v expiresIn) ()
    return v

def single (setting : Setting) (options : BuildOptions) (t : Template) (plan : Plan)
    (compute : Plan → StoreBuild σ Value) : StoreBuild σ Value := do
  if (← isCaching (σ := σ) setting) && plan.item.contentKey?.isSome then
    let digest ← fullDigest setting t
    match plan.key? setting.config options.format digest with
    | some key => fetch key options.expiresIn (compute plan)
    | none => compute plan
  else compute plan

/-- What the cache has under several keys, read all at once. Without keys nothing is read. -/
def readTogether (keys : List CacheKey) : StoreBuild σ (List (CacheKey × Value)) :=
  if keys.isEmpty then pure [] else callIfAny (ResultCache.getMany keys) []

/-- The result of a plan with its key, where `hits` were found in the cache. -/
def fromHits (options : BuildOptions) (hits : List (CacheKey × Value))
    (compute : Plan → StoreBuild σ Value) (plan : Plan) (key : Option CacheKey) :
    StoreBuild σ Value := do
  match key with
  | some key => match hits.lookup key with
    | some v => return v
    | none =>
      let v ← compute plan
      callIfAny (ResultCache.set key v options.expiresIn) ()
      return v
  | none => compute plan

/-- The results of plans, through the cache: read all at once, or one by one. -/
def many (setting : Setting) (options : BuildOptions) (t : Template) (plans : List Plan)
    (compute : Plan → StoreBuild σ Value) : StoreBuild σ (List Value) := do
  if ← isCaching setting then
    let digest ← fullDigest setting t
    if setting.config.bulkReads then
      let keyed := plans.map fun plan => (plan, plan.key? setting.config options.format digest)
      let keys := keyed.filterMap Prod.snd
      let hits ← readTogether keys
      keyed.mapM fun (plan, key) => fromHits options hits compute plan key
    else plans.mapM fun plan => single setting options t plan compute
  else plans.mapM compute

end StoreBuild

/-- Takes templates from the registry and results from the cache of a store. -/
def Strategy.stored {σ : Type} [ResultCache σ] (setting : Setting) (options : BuildOptions) :
    Strategy (StoreBuild σ) where
  load := StoreBuild.load setting
  single := StoreBuild.single setting options
  many := StoreBuild.many setting options

end DocumentTemplates
