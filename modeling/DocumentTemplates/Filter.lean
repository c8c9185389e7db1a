/-!
# Field selection

A filter selects fields of a document by name. A field may carry calls that cut or sort the
sequence found under it, and a nested filter for what lies inside it. Names are compared exactly,
and of several fields with one name the first counts.
-/

namespace DocumentTemplates

/-- The functions of the query language. -/
inductive FilterFunction where
  /-- Keeps the first elements of a sequence. -/
  | limit
  /-- Orders a sequence by a key, ascending or descending. -/
  | sort
  deriving DecidableEq

namespace FilterFunction

def name : FilterFunction → String
  | .limit => "limit"
  | .sort => "sort"

def ofName? (s : String) : Option FilterFunction :=
  [FilterFunction.limit, .sort].find? (·.name = s)

end FilterFunction

/-- A call such as `limit(5)`. -/
structure FunctionCall where
  function : FilterFunction
  args : List String
  deriving DecidableEq

mutual

inductive FilterField where
  | mk (name : String) (calls : List FunctionCall) (nested : Option Filter)

/-- Selected fields in order. A filter nested under a field knows the underscored name of that
field. -/
inductive Filter where
  | mk (parent : Option String) (fields : List FilterField)

end

instance : Inhabited Filter := ⟨.mk none []⟩

instance : Inhabited FilterField := ⟨.mk "" [] none⟩

namespace FilterField

def name : FilterField → String
  | .mk name _ _ => name

def calls : FilterField → List FunctionCall
  | .mk _ calls _ => calls

def nested : FilterField → Option Filter
  | .mk _ _ nested => nested

end FilterField

namespace Filter

def parent : Filter → Option String
  | .mk parent _ => parent

def fields : Filter → List FilterField
  | .mk _ fields => fields

/-- A filter selects nothing in particular when it has no field. -/
def isEmpty (f : Filter) : Bool :=
  f.fields.isEmpty

/-- The first field with a name. -/
def field? (f : Filter) (name : String) : Option FilterField :=
  f.fields.find? (·.name = name)

def selects (f : Filter) (name : String) : Bool :=
  (f.field? name).isSome

/-- The filter nested under a name, unless it is empty. -/
def nestedFor? (f : Filter) (name : String) : Option Filter :=
  match f.field? name with
  | some field => field.nested.filter fun nested => !nested.isEmpty
  | none => none

mutual

/-- Equality of filters, parent names and order included. -/
def equal : Filter → Filter → Bool
  | .mk parent fields, .mk parent' fields' => parent == parent' && equalFields fields fields'

def equalFields : List FilterField → List FilterField → Bool
  | [], [] => true
  | field :: rest, field' :: rest' => equalField field field' && equalFields rest rest'
  | _, _ => false

def equalField : FilterField → FilterField → Bool
  | .mk name calls none, .mk name' calls' none => name == name' && calls == calls'
  | .mk name calls (some nested), .mk name' calls' (some nested') =>
    name == name' && calls == calls' && equal nested nested'
  | _, _ => false

end

instance : BEq Filter := ⟨equal⟩

mutual

/-- The canonical query of a filter. -/
def render : Filter → List Char
  | .mk _ fields => renderFields fields

/-- The fields of a query, separated by commas. -/
def renderFields : List FilterField → List Char
  | [] => []
  | [field] => renderField field
  | field :: rest => renderField field ++ ',' :: renderFields rest

/-- A field with its calls and its nested group. -/
def renderField : FilterField → List Char
  | .mk name calls none => name.toList ++ calls.flatMap renderCall
  | .mk name calls (some nested) =>
    name.toList ++ calls.flatMap renderCall ++ '{' :: (render nested ++ ['}'])

/-- A call with its arguments, separated by commas. -/
def renderCall (call : FunctionCall) : List Char :=
  '.' :: call.function.name.toList
    ++ '(' :: ((String.intercalate "," call.args).toList ++ [')'])

end

def query (f : Filter) : String :=
  String.ofList f.render

end Filter

def FilterField.query (field : FilterField) : String :=
  String.ofList (Filter.renderField field)

end DocumentTemplates
