import DocumentTemplates.Inflection
import DocumentTemplates.Value.Text

/-!
# XML elements

A value as a tree of elements. Names come from keys, with hyphens for underscores; the items of an
array are named by the singular of the array's own name. Attributes tell nulls, arrays and the
scalars that are no strings.
-/

namespace DocumentTemplates.Xml

/-- What stands inside an element. -/
inductive Content (α : Type) where
  | empty
  | text (s : String)
  | children (elements : List α)

/-- An element with its attributes. -/
inductive Element where
  | mk (name : String) (attributes : List (String × String)) (content : Content Element)

/-- The element name that a key gives. -/
def elementName (key : String) : String :=
  String.ofList (key.toList.map fun c => if c = '_' then '-' else c)

/-- The attributes of the element of a value. -/
def attributesOf : Value → List (String × String)
  | .null => [("nil", "true")]
  | .bool _ => [("type", "boolean")]
  | .integer _ => [("type", "integer")]
  | .float _ => [("type", "float")]
  | .array _ => [("type", "array")]
  | _ => []

mutual

def ofValue (key : String) : Value → Element
  | .null => .mk (elementName key) (attributesOf .null) .empty
  | .document [] => .mk (elementName key) [] .empty
  | .document entries => .mk (elementName key) [] (.children (ofEntries entries))
  | .array [] => .mk (elementName key) (attributesOf (.array [])) .empty
  | .array items =>
    .mk (elementName key) (attributesOf (.array [])) <|
      .children (ofItems (Inflection.singularize key) items)
  | v => .mk (elementName key) (attributesOf v) (.text (v.text?.getD ""))

def ofItems (key : String) : List Value → List Element
  | [] => []
  | v :: rest => ofValue key v :: ofItems key rest

def ofEntries : List (String × Value) → List Element
  | [] => []
  | (key, v) :: rest => ofValue key v :: ofEntries rest

end

/-- The root element of a value: under the given name, or else the only entry of a document, or
else a name for arrays or for all other values. -/
def root (name : Option String) (v : Value) : Element :=
  match name, v with
  | some name, v => ofValue name v
  | none, .document [(key, v)] => ofValue key v
  | none, .array items => ofValue "objects" (.array items)
  | none, v => ofValue "hash" v

end DocumentTemplates.Xml
