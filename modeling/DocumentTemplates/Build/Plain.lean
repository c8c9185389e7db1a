import DocumentTemplates.Build
import DocumentTemplates.Registry

/-!
# Plain builds

Builds without registry and cache: every template is read from the source when it is needed, and
every result is computed.
-/

namespace DocumentTemplates

namespace Strategy

/-- Reads templates from the source and computes every result. -/
def plain (setting : Setting) : Strategy (Except BuildError) where
  load name := setting.source.template setting.digestOf name setting.config.searchPaths
  single _ plan compute := compute plan
  many _ plans compute := plans.mapM compute

end Strategy

namespace Template

def build (setting : Setting) (options : BuildOptions) (t : Template) (data : Data) :
    Except BuildError Value :=
  (Strategy.plain setting).build setting options t data

def buildAll (setting : Setting) (options : BuildOptions) (t : Template) (objects : List Data) :
    Except BuildError (List Value) :=
  (Strategy.plain setting).buildAll setting options t objects

/-- The document of a template for an object, without root and filter. -/
def document (setting : Setting) (t : Template) (object : Data) : Except BuildError Document :=
  (Strategy.plain setting).document setting t object none

end Template

end DocumentTemplates
