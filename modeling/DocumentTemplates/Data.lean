import DocumentTemplates.Text.Blank
import DocumentTemplates.Value

/-!
# Input data

What templates are evaluated against: scalars, records with named members, and lists. A record
is an object even though its members can be listed; only lists are collections.
-/

namespace DocumentTemplates

/-- A value that a template can be evaluated against. -/
inductive Data where
  | null
  | bool (b : Bool)
  | integer (i : Int64)
  | float (x : Double)
  | string (s : String)
  /-- An ordered collection, perhaps with a name of its own. -/
  | list (name : Option String) (items : List Data)
  /-- An object with members. The kind is the name of its type, the content key identifies its
  present content. -/
  | record (kind : Option String) (contentKey : Option String) (members : List (String × Data))
  deriving Inhabited

namespace Data

def isNull : Data → Bool
  | .null => true
  | _ => false

/-- Null, false, strings of blanks only and empty lists are blank. -/
def isBlank : Data → Bool
  | .null => true
  | .bool b => !b
  | .string s => Text.isBlankText s
  | .list _ items => items.isEmpty
  | _ => false

/-- Everything except null and false is truthy. -/
def isTruthy : Data → Bool
  | .null => false
  | .bool b => b
  | _ => true

def isCollection : Data → Bool
  | .list _ _ => true
  | _ => false

/-- True of what is neither null nor a collection. -/
def isObject (d : Data) : Bool :=
  !d.isNull && !d.isCollection

def member? : Data → String → Option Data
  | .record _ _ members, name => OrderedMap.get? members name
  | _, _ => none

def hasMember (d : Data) (name : String) : Bool :=
  (d.member? name).isSome

def kind? : Data → Option String
  | .record kind _ _ => kind
  | _ => none

/-- The content key of a record. Nothing else has one. -/
def contentKey? : Data → Option String
  | .record _ key _ => key
  | _ => none

/-- The name of a value's type: a record's declared kind, or the name of its variant. -/
def typeName : Data → String
  | .null => "nil"
  | .bool _ => "boolean"
  | .integer _ => "integer"
  | .float _ => "float"
  | .string _ => "string"
  | .list _ _ => "list"
  | .record kind _ _ => kind.getD "record"

mutual

/-- The plain value: records become documents of all their members, lists become arrays. -/
def toValue : Data → Value
  | .null => .null
  | .bool b => .bool b
  | .integer i => .integer i
  | .float x => .float x
  | .string s => .string s
  | .list _ items => .array (toValues items)
  | .record _ _ members => .document (toEntries members)

def toValues : List Data → List Value
  | [] => []
  | d :: rest => toValue d :: toValues rest

def toEntries : List (String × Data) → List (String × Value)
  | [] => []
  | (name, d) :: rest => (name, toValue d) :: toEntries rest

end

end Data

end DocumentTemplates
