import DocumentTemplates.Source

/-!
# Template registries

Templates by name, each read at most once. A template registered in code takes the name it is
registered under and stands in front of the source.
-/

namespace DocumentTemplates

/-- Templates by name. -/
abbrev Registry := OrderedMap Template

/-- Reads the template of a name from a source. -/
def Source.template (source : Source) (digestOf : String → String) (name : String)
    (searchPaths : List String) : Except BuildError Template := do
  let found ← source.resolve name searchPaths
  (Template.read digestOf name found.text).mapError (BuildError.ofFault name)

namespace Registry

/-- Registers a template under a name, in place of the one that may have it. -/
def register (registry : Registry) (name : String) (t : Template) : Registry :=
  registry.insert name (t.withName name)

/-- The template of a name: the one registered, else the one that `read` gives, which is registered
then. -/
def load (registry : Registry) (read : String → Except BuildError Template) (name : String) :
    Except BuildError Template × Registry :=
  match registry.get? name with
  | some t => (.ok t, registry)
  | none => match read name with
    | .ok t => (.ok t, OrderedMap.insert registry name t)
    | .error e => (.error e, registry)

end Registry

end DocumentTemplates
