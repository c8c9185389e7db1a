import DocumentTemplates.Json.Reader
import DocumentTemplates.NilPolicy
import DocumentTemplates.Yaml.Tree.Typed

/-!
# Reading null policies

A policy is written as its name. In YAML the name may be that of a local tag instead, put on a
scalar that is empty or null, and in JSON the only key of an object with the value null.
-/

namespace DocumentTemplates.NilPolicy

def ofTree? : Yaml.Tree → Option NilPolicy
  | .scalar tag text style =>
    match tag.bind Yaml.Tag.localName? with
    | some name =>
      if style = .plain && (text.isEmpty || Yaml.isNullWord text) then ofName? name else none
    | none => ofName? text
  | _ => none

def ofJson? : Json → Option NilPolicy
  | .string name => ofName? name
  | .object [(name, .null)] => ofName? name
  | _ => none

end DocumentTemplates.NilPolicy
