import DocumentTemplates.Template.Entry
import DocumentTemplates.Template.Fingerprint
import DocumentTemplates.Text.Blank

/-!
# Reading templates

The directives that the entries of a template text stand for. An entry is refused if it has no
directive key or several, if an option does not go with its directive, or if a node has both a
helper and a value.
-/

namespace DocumentTemplates

/-- What is wrong with an entry. -/
inductive EntryFault where
  | noDirective
  | mixed (kinds : List String)
  | misplaced (option kind : String)
  | helperAndValue

def EntryFault.message : EntryFault → String
  | .noDirective => "entry has no directive key"
  | .mixed kinds => "entry mixes directives: " ++ String.intercalate ", " kinds
  | .misplaced option kind => "`" ++ option ++ "` is not valid on `" ++ kind ++ "`"
  | .helperAndValue => "`node` takes `helper` or `value`, not both"

/-- A fault with the positions of the entries it lies in, counted from one, the outermost
first. -/
structure PlacedFault where
  path : List Nat
  fault : EntryFault

namespace PlacedFault

/-- The fault as seen from the list in which its entry has a position. -/
def within (f : PlacedFault) (position : Nat) : PlacedFault :=
  { f with path := position :: f.path }

/-- The wording of a fault behind its positions. -/
def message (f : PlacedFault) : String :=
  String.join (f.path.map fun position => "directive " ++ toString position ++ ": ")
    ++ f.fault.message

end PlacedFault

namespace EntryFields

/-- The directive keys of an entry. -/
def kinds (f : EntryFields) : List String :=
  [("attribute", f.attributeName.isSome), ("attributes", f.attributeItems.isSome),
    ("node", f.node.isSome), ("merge", f.merge.isSome), ("child", f.child.isSome),
    ("glue", f.glue.isSome), ("extends", f.extend.isSome)].filterMap
      fun (kind, present) => if present then some kind else none

/-- The options of an entry, where `hasBody` says that it nests a template. -/
def options (f : EntryFields) (hasBody : Bool) : List String :=
  [("as", f.shownAs.isSome), ("if", f.onlyIf.isSome), ("unless", f.exceptIf.isSome),
    ("helper", f.helper.isSome), ("value", f.value.isSome),
    ("object_root", f.objectRoot.isSome), ("object", f.object.isSome),
    ("template", hasBody)].filterMap
      fun (option, present) => if present then some option else none

/-- The options that go with a directive key. -/
def allowedOptions (kind : String) : List String :=
  match kind with
  | "attribute" => ["as", "if", "unless"]
  | "attributes" => []
  | "node" => ["helper", "value", "if", "unless"]
  | "merge" => ["if", "unless"]
  | "child" => ["as", "if", "unless", "object_root", "template"]
  | "glue" => ["if", "unless", "template"]
  | _ => ["if", "unless", "object", "template"]

/-- The one directive key of an entry, if its options go with it. -/
def kind (f : EntryFields) (hasBody : Bool) : Except EntryFault String :=
  match f.kinds with
  | [] => .error .noDirective
  | [kind] =>
    match (f.options hasBody).find? (· ∉ allowedOptions kind) with
    | some option => .error (.misplaced option kind)
    | none => .ok kind
  | kinds => .error (.mixed kinds)

def guard (f : EntryFields) : Guard :=
  ⟨f.onlyIf, f.exceptIf⟩

/-- The way the node of an entry gets its value: by the helper of its own name if nothing else is
said. -/
def computation (f : EntryFields) (name : String) : Except EntryFault Computation :=
  match f.helper, f.value with
  | some helper, none => .ok (.helper helper)
  | none, some value => .ok (.value value)
  | some _, some _ => .error .helperAndValue
  | none, none => .ok (.helper name)

/-- The attributes that the items of a list stand for. -/
def attributeDirectives (items : List AttributeItem) : List Directive :=
  items.flatMap fun item => match item with
    | .plain name => [.attribute { name := name }]
    | .aliased names => names.map fun (name, key) => .attribute { name := name, shownAs := some key }

/-- The selector that a text stands for, with a name for the result if one is given. -/
def selector (text : String) (name : Option String) : Selector :=
  match name with
  | some name => (Selector.parse text).withName name
  | none => Selector.parse text

/-- The directives of an entry without a nested template, or with the nested template `body`. -/
def directives (f : EntryFields) (body : Template) : Except EntryFault (List Directive) :=
  match f.attributeName, f.attributeItems, f.node, f.merge, f.child, f.glue, f.extend with
  | some name, _, _, _, _, _, _ =>
    .ok [.attribute { name := name, shownAs := f.shownAs, guard := f.guard }]
  | _, some items, _, _, _, _, _ => .ok (attributeDirectives items)
  | _, _, some name, _, _, _, _ => do
    let compute ← f.computation name
    return [.node { name := some name, guard := f.guard, compute := compute }]
  | _, _, _, some helper, _, _, _ =>
    .ok [.node { name := none, guard := f.guard, compute := .helper helper }]
  | _, _, _, _, some text, _, _ =>
    .ok [.child (selector text f.shownAs) f.objectRoot f.guard body]
  | _, _, _, _, _, some text, _ => .ok [.glue (Selector.parse text) f.guard body]
  | _, _, _, _, _, _, some base =>
    .ok [.extend base (f.object.map Selector.parse) f.guard body]
  | _, _, _, _, _, _, _ => .error .noDirective

end EntryFields

namespace Entry

/-- A fault of the entry itself. -/
def here {α : Type} (result : Except EntryFault α) : Except PlacedFault α :=
  result.mapError fun fault => ⟨[], fault⟩

mutual

/-- The directives of an entry. Its own fields are looked at before the template nested in it. -/
def directives (digestOf : String → String) : Entry → Except PlacedFault (List Directive)
  | .mk fields none => do
    let _ ← here (fields.kind false)
    here (fields.directives (Template.ofDirectives digestOf []))
  | .mk fields (some entries) => do
    let _ ← here (fields.kind true)
    let body ← allDirectives digestOf 1 entries
    here (fields.directives (Template.ofDirectives digestOf body))

/-- The directives of entries, of which the first has the given position. -/
def allDirectives (digestOf : String → String) (position : Nat) :
    List Entry → Except PlacedFault (List Directive)
  | [] => .ok []
  | entry :: rest => do
    let first ← (directives digestOf entry).mapError fun f => f.within position
    let more ← allDirectives digestOf (position + 1) rest
    return first ++ more

end

end Entry

/-- What is wrong with a template text: it is no list of entries, or an entry is at fault. -/
inductive TemplateFault where
  | malformed
  | entry (fault : PlacedFault)

/-- The entries of a template text. A text of blanks only has none. -/
def Template.entries (text : String) : Except TemplateFault (List Entry) :=
  if Text.isBlankText text then .ok []
  else match (Yaml.Tree.ofText? text).bind Entry.ofItems? with
    | some entries => .ok entries
    | none => .error .malformed

/-- Reads a template, which takes the given name. Its digest is that of the text. -/
def Template.read (digestOf : String → String) (name text : String) :
    Except TemplateFault Template := do
  let entries ← Template.entries text
  let directives ← (Entry.allDirectives digestOf 1 entries).mapError .entry
  return .mk (some name) directives (digestOf text)

end DocumentTemplates
