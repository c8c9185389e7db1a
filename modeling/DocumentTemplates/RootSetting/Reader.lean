import DocumentTemplates.Json.Reader
import DocumentTemplates.RootSetting
import DocumentTemplates.Yaml.Tree.Typed

/-!
# Reading root settings

A root setting is written as a truth value, or as a text that is the name.
-/

namespace DocumentTemplates.RootSetting

def ofTree? (tree : Yaml.Tree) : Option RootSetting :=
  match tree.meaning? with
  | some (.bool on) => some (.enabled on)
  | some (.text name) => some (.named name)
  | _ => none

def ofJson? : Json → Option RootSetting
  | .bool on => some (.enabled on)
  | .string name => some (.named name)
  | _ => none

end DocumentTemplates.RootSetting
