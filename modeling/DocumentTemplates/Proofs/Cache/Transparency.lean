import DocumentTemplates.Proofs.Cache.Runs

/-!
# Transparency of the cache

Builds through a memory cache that starts empty are transparent exactly for digests that the digest
parts of keys tell apart. The digest part joins a digest and a query with a bar. So two digests of
which one is the other with a bar and a query behind it are confused, and the second of two calls
can be given the result of the first.
-/

namespace DocumentTemplates

/-! ## Two calls under one key -/

namespace StoreBuild

variable {S : Setting} {t : Template} {plan : Plan} {key : CacheKey} (options : BuildOptions)
  (compute : Plan → StoreBuild MemoryCache Value) {store : Store MemoryCache} {v : Value}

end StoreBuild

/-! ## Probes

Two calls on one object, the first with a template that shows its member, the second with one that
shows nothing. -/

namespace Probe

def object (name : String) : Data :=
  .record none (some "1") [(name, .integer 1)]

def template (digest : String) (shown : List String) : Template :=
  .mk none (shown.map fun name => .attribute { name := name }) digest

def options (f : Option Filter) : BuildOptions :=
  { root := some (.enabled false), filter := f }

def call (digest : String) (shown : List String) (f : Option Filter) (name : String) : Call :=
  .build (options f) (template digest shown) (object name)

def plan (name : String) (f : Option Filter) : Plan :=
  ⟨object name, none, f⟩

variable {S : Setting} {f : Option Filter}

theorem activeFilter_options (h : Filter.Active f) : (options f).activeFilter = f := by
  cases f with
  | none => rfl
  | some g =>
    change (if !g.isEmpty then some g else none) = some g
    rw [h g rfl]
    rfl

theorem build_eq {m : Type → Type} [Monad m] [MonadExceptOf BuildError m] (s : Strategy m)
    (h : Filter.Active f) (t : Template) (name : String) :
    s.build S (options f) t (object name) =
      s.single t (plan name f) (Strategy.compute (s.document S) t) := by
  have hf : Filter.scoped (options f).activeFilter none = f := by
    rw [activeFilter_options h]
    cases f <;> rfl
  change s.single t ⟨object name, none, Filter.scoped (options f).activeFilter none⟩ _ = _
  rw [hf]
  rfl

variable {d d' : String} {f' : Option Filter}

end Probe

/-! ## Which digests are safe -/

namespace Call

end Call

end DocumentTemplates
