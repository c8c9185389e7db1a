import DocumentTemplates.RootSetting.Reader
import DocumentTemplates.Template
import DocumentTemplates.Yaml.Tree.Typed

/-!
# Template entries

A template text is a list of entries. An entry holds fields: the directive keys, of which a
meaningful entry has exactly one, and options. Here an entry is only read; whether its fields go
together is decided when its directives are made.
-/

namespace DocumentTemplates

/-- An item of a list of attributes: a member, or members with their output keys. -/
inductive AttributeItem where
  | plain (name : String)
  | aliased (names : List (String × String))

/-- The fields of an entry, apart from its body. -/
structure EntryFields where
  attributeName : Option String := none
  attributeItems : Option (List AttributeItem) := none
  node : Option String := none
  merge : Option String := none
  child : Option String := none
  glue : Option String := none
  extend : Option String := none
  shownAs : Option String := none
  onlyIf : Option Condition := none
  exceptIf : Option Condition := none
  helper : Option String := none
  value : Option Value := none
  objectRoot : Option RootSetting := none
  object : Option String := none

/-- An entry: its fields, and the entries of the template nested in it. -/
inductive Entry where
  | mk (fields : EntryFields) (body : Option (List Entry))

namespace Entry

open Yaml (Tree)

def optional? {α : Type} (read : Tree → Option α) (tree : Tree) : Option (Option α) :=
  match tree.optional? with
  | some (some tree) => (read tree).map some
  | some none => some none
  | none => none

/-- A condition: a truth value, or the name of a member. -/
def condition? (tree : Tree) : Option Condition :=
  match tree.meaning? with
  | some (.bool outcome) => some (.always outcome)
  | some (.text name) => some (.member name)
  | _ => none

/-- A scalar that means text. -/
def word? (tree : Tree) : Option String :=
  match tree.meaning? with
  | some (.text s) => some s
  | _ => none

def attributeItem? : Tree → Option AttributeItem
  | .mapping tag entries =>
    if Tree.isUntyped tag then do
      let names ← entries.mapM fun entry => do
        return (← word? entry.1, ← word? entry.2)
      return .aliased (OrderedMap.ofEntries names)
    else none
  | tree => (word? tree).map .plain

/-- The fields with one more field read, other than the body. -/
def field? (fields : EntryFields) (name : String) (tree : Tree) : Option EntryFields :=
  match name with
  | "attribute" => (optional? Tree.text? tree).map fun x => { fields with attributeName := x }
  | "attributes" =>
    (optional? (fun tree => tree.items?.bind fun items => items.mapM attributeItem?) tree).map
      fun x => { fields with attributeItems := x }
  | "node" => (optional? Tree.text? tree).map fun x => { fields with node := x }
  | "merge" => (optional? Tree.text? tree).map fun x => { fields with merge := x }
  | "child" => (optional? Tree.text? tree).map fun x => { fields with child := x }
  | "glue" => (optional? Tree.text? tree).map fun x => { fields with glue := x }
  | "extends" => (optional? Tree.text? tree).map fun x => { fields with extend := x }
  | "as" => (optional? Tree.text? tree).map fun x => { fields with shownAs := x }
  | "if" => (optional? condition? tree).map fun x => { fields with onlyIf := x }
  | "unless" => (optional? condition? tree).map fun x => { fields with exceptIf := x }
  | "helper" => (optional? Tree.text? tree).map fun x => { fields with helper := x }
  | "value" => (optional? Tree.value? tree).map fun x => { fields with value := x }
  | "object_root" => (optional? RootSetting.ofTree? tree).map fun x => { fields with objectRoot := x }
  | "object" => (optional? Tree.text? tree).map fun x => { fields with object := x }
  | _ => none

mutual

def ofTree? : Tree → Option Entry
  | .mapping _ entries => ofFields? [] {} none entries
  | tree => if tree.isOmitted then some (.mk {} none) else none

/-- Reads the fields of an entry behind those `seen` so far. No field may occur twice. -/
def ofFields? (seen : List String) (fields : EntryFields) (body : Option (List Entry)) :
    List (Tree × Tree) → Option Entry
  | [] => some (.mk fields body)
  | (key, tree) :: rest => do
    let name ← key.text?
    if name ∈ seen then none
    else if name = "template" then
      let body ← match tree.optional? with
        | some (some _) => (ofItems? tree).map some
        | some none => some none
        | none => none
      ofFields? (name :: seen) fields body rest
    else
      let fields ← field? fields name tree
      ofFields? (name :: seen) fields body rest

/-- Reads a list of entries. -/
def ofItems? : Tree → Option (List Entry)
  | .sequence _ items => ofTrees? items
  | tree => if tree.isOmitted then some [] else none

/-- Reads entries one by one. -/
def ofTrees? : List Tree → Option (List Entry)
  | [] => some []
  | tree :: rest => do
    let entry ← ofTree? tree
    let entries ← ofTrees? rest
    return entry :: entries

end

end Entry

end DocumentTemplates
