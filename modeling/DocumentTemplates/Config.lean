import DocumentTemplates.NilPolicy.Reader
import DocumentTemplates.RootSetting.Reader
import DocumentTemplates.Source
import DocumentTemplates.Text.Blank

/-!
# Configuration

The settings of builds, and how they are read from YAML and JSON texts. A setting that is not
written keeps its default; one that is unknown or written twice is an error.
-/

namespace DocumentTemplates

/-- The settings of builds. -/
structure Config where
  /-- An absent attribute is an error; else its key is left out. -/
  strictAttributes : Bool := false
  /-- What becomes of nulls and empty strings in every finished document. -/
  nilPolicy : NilPolicy := .keep
  /-- Results for objects with a content key are kept in a cache. -/
  caching : Bool := false
  /-- The results of a list's elements are read from the cache together. -/
  bulkReads : Bool := true
  /-- How results are wrapped at the top. -/
  root : RootSetting := .enabled false
  /-- The elements of nested lists are wrapped. -/
  childRoot : Bool := false
  /-- Empty results are left out of lists. -/
  excludeEmpty : Bool := false
  /-- How deep nested builds may go. -/
  maxDepth : Nat := 32
  /-- Where template files are looked for, in order. -/
  searchPaths : List String := []
  templateExtension : String := "yml"
  /-- What stands in front of every cache key. -/
  cachePrefix : Option String := none
  deriving DecidableEq, Inhabited

/-- Why a configuration cannot be read. -/
inductive ConfigError where
  | malformedYaml
  | malformedJson
  | unreadableFile (path : String)
  | zeroDepth

/-- The wording of an error, without what the text or the file suffers from. -/
def ConfigError.message : ConfigError → String
  | .malformedYaml => "Invalid YAML configuration"
  | .malformedJson => "Invalid JSON configuration"
  | .unreadableFile path => "Cannot read configuration file " ++ path
  | .zeroDepth => "max_depth must be at least 1"

namespace Config

/-- How the settings of each type are read from a text of type `α`. -/
structure Form (α : Type) where
  bool? : α → Option Bool
  count? : α → Option Nat
  text? : α → Option String
  optionalText? : α → Option (Option String)
  texts? : α → Option (List String)
  root? : α → Option RootSetting
  policy? : α → Option NilPolicy

def yamlForm : Form Yaml.Tree where
  bool? := Yaml.Tree.bool?
  count? := Yaml.Tree.count?
  text? := Yaml.Tree.text?
  optionalText? tree :=
    match tree.optional? with
    | some (some tree) => tree.text?.map some
    | some none => some none
    | none => none
  texts? tree := tree.items?.bind fun items => items.mapM Yaml.Tree.text?
  root? := RootSetting.ofTree?
  policy? := NilPolicy.ofTree?

def jsonText? : Json → Option String
  | .string s => some s
  | _ => none

def jsonForm : Form Json where
  bool?
    | .bool b => some b
    | _ => none
  count?
    | .integer i => if 0 ≤ i then some i.toNat else none
    | _ => none
  text? := jsonText?
  optionalText?
    | .null => some none
    | json => (jsonText? json).map some
  texts?
    | .array items => items.mapM jsonText?
    | _ => none
  root? := RootSetting.ofJson?
  policy? := NilPolicy.ofJson?

/-- The names of the settings, in the order in which a JSON array gives them. -/
def settingNames : List String :=
  ["raise_on_missing_attribute", "nil_policy", "perform_caching", "use_read_multi",
    "include_root", "include_child_root", "exclude_empty_values_in_collections", "max_depth",
    "search_paths", "template_extension", "cache_key_prefix"]

/-- The configuration with one more setting read. -/
def setting? {α : Type} (form : Form α) (c : Config) (name : String) (a : α) : Option Config :=
  match name with
  | "raise_on_missing_attribute" => (form.bool? a).map fun x => { c with strictAttributes := x }
  | "nil_policy" => (form.policy? a).map fun x => { c with nilPolicy := x }
  | "perform_caching" => (form.bool? a).map fun x => { c with caching := x }
  | "use_read_multi" => (form.bool? a).map fun x => { c with bulkReads := x }
  | "include_root" => (form.root? a).map fun x => { c with root := x }
  | "include_child_root" => (form.bool? a).map fun x => { c with childRoot := x }
  | "exclude_empty_values_in_collections" =>
    (form.bool? a).map fun x => { c with excludeEmpty := x }
  | "max_depth" => (form.count? a).map fun x => { c with maxDepth := x }
  | "search_paths" => (form.texts? a).map fun x => { c with searchPaths := x }
  | "template_extension" => (form.text? a).map fun x => { c with templateExtension := x }
  | "cache_key_prefix" => (form.optionalText? a).map fun x => { c with cachePrefix := x }
  | _ => none

/-- The configuration that settings make. No setting may be given twice. -/
def ofSettings? {α : Type} (form : Form α) (settings : List (String × α)) : Option Config :=
  if (settings.map Prod.fst).Nodup then
    settings.foldlM (fun c entry => setting? form c entry.1 entry.2) {}
  else none

/-- A configuration allows at least one level of building. -/
def validated (c : Config) : Except ConfigError Config :=
  if c.maxDepth = 0 then .error .zeroDepth else .ok c

/-- Reads a YAML text. One of blanks only is the default. -/
def ofYaml (text : String) : Except ConfigError Config :=
  if Text.isBlankText text then .ok {}
  else match (Yaml.Tree.ofText? text).bind Yaml.Tree.fields? with
    | some settings => match ofSettings? yamlForm settings with
      | some c => c.validated
      | none => .error .malformedYaml
    | none => .error .malformedYaml

/-- Reads a JSON tree: an object, or an array of the first settings in order. -/
def ofJsonTree (json : Json) : Except ConfigError Config :=
  let settings? := match json with
    | .object entries => some entries
    | .array items =>
      if items.length ≤ settingNames.length then some (settingNames.zip items) else none
    | _ => none
  match settings?.bind (ofSettings? jsonForm) with
  | some c => c.validated
  | none => .error .malformedJson

def ofJson (text : String) : Except ConfigError Config :=
  match Json.read? text with
  | some json => ofJsonTree json
  | none => .error .malformedJson

/-- Reads a file: as JSON if its extension says so, else as YAML. -/
def ofFile (files : Files) (path : String) : Except ConfigError Config :=
  match files.find? path with
  | some (some text) => if Path.extension? path = some "json" then ofJson text else ofYaml text
  | _ => .error (.unreadableFile path)

end Config

end DocumentTemplates
