import DocumentTemplates.Build.Cached
import DocumentTemplates.Codec

/-!
# Rendering

A renderer holds a configuration and a source of templates. It keeps the templates that it has
read or that were registered in the registry of its store, and may share a cache with others.
-/

namespace DocumentTemplates

/-- A configuration with the source of its templates. -/
structure Renderer where
  config : Config
  source : Source
  digestOf : String → String

namespace Renderer

/-- A renderer that reads template files. -/
def ofFiles (config : Config) (files : Files) (digestOf : String → String) : Renderer :=
  ⟨config, .files files config.templateExtension, digestOf⟩

def setting (r : Renderer) (scope : Scope) : Setting :=
  ⟨r.config, scope, r.source, r.digestOf⟩

variable {σ : Type}

def register (name : String) (t : Template) : StoreBuild σ Unit :=
  modify fun store => { store with registry := some ((store.registry.getD []).register name t) }

def template (r : Renderer) (name : String) : StoreBuild σ Template :=
  StoreBuild.load (r.setting .empty) name

variable [ResultCache σ]

def build (r : Renderer) (scope : Scope) (options : BuildOptions) (t : Template) (data : Data) :
    StoreBuild σ Value :=
  (Strategy.stored (r.setting scope) options).build (r.setting scope) options t data

def buildNamed (r : Renderer) (scope : Scope) (options : BuildOptions) (name : String)
    (data : Data) : StoreBuild σ Value := do
  let t ← r.template name
  r.build scope options t data

/-- The results for several objects with the template of a name. -/
def buildAll (r : Renderer) (scope : Scope) (options : BuildOptions) (name : String)
    (objects : List Data) : StoreBuild σ (List Value) := do
  let t ← r.template name
  (Strategy.stored (r.setting scope) options).buildAll (r.setting scope) options t objects

/-- The encoded result for data with the template of a name, built for the codec's format. -/
def render (r : Renderer) (scope : Scope) (options : BuildOptions) (codec : Codec)
    (rootElement : Option String) (name : String) (data : Data) : StoreBuild σ String := do
  let result ← r.buildNamed scope { options with format := codec.format } name data
  return codec.encode rootElement result

end Renderer

end DocumentTemplates
