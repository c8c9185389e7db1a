import DocumentTemplates.Double
import DocumentTemplates.OrderedMap

/-!
# Document values

The leaves and branches of a built document. A document is an insertion-ordered map from keys to
values; equality ignores the order of keys, and a number is an integer or a double but never
both.
-/

namespace DocumentTemplates

/-- A value of a document. -/
inductive Value where
  | null
  | bool (b : Bool)
  | integer (i : Int64)
  | float (x : Double)
  | string (s : String)
  | array (items : List Value)
  | document (entries : List (String × Value))
  deriving Inhabited

/-- A document: its entries in order. -/
abbrev Document := OrderedMap Value

namespace Value

def isNull : Value → Bool
  | .null => true
  | _ => false

/-- Null, the empty string, the empty array and the empty document are empty. -/
def isEmpty : Value → Bool
  | .null => true
  | .string s => s.isEmpty
  | .array items => items.isEmpty
  | .document entries => entries.isEmpty
  | _ => false

def typeName : Value → String
  | .null => "null"
  | .bool _ => "boolean"
  | .integer _ => "integer"
  | .float _ => "float"
  | .string _ => "string"
  | .array _ => "array"
  | .document _ => "document"

/-- A whole number as a signed 64-bit number, if it is one. -/
def int64? (i : Int) : Option Int64 :=
  if Int64.minValue.toInt ≤ i && i ≤ Int64.maxValue.toInt then some (Int64.ofInt i) else none

def toFloat? : Value → Option Double
  | .integer i => some (Double.ofInt i.toInt)
  | .float x => some x
  | _ => none

/-- The entries of a document, and none of any other value. -/
def entries : Value → Document
  | .document entries => entries
  | _ => []

/-- Follows keys through nested documents. Any other value ends the walk. -/
def getPath? (v : Value) : List String → Option Value
  | [] => some v
  | key :: rest => match v with
    | .document entries => match OrderedMap.get? entries key with
      | some inner => inner.getPath? rest
      | none => none
    | _ => none

mutual

/-- Equality of values: integers by value, doubles as numbers (so a NaN differs from itself),
documents by key whatever their order. -/
def equal : Value → Value → Bool
  | .null, .null => true
  | .bool a, .bool b => a == b
  | .integer a, .integer b => a == b
  | .float a, .float b => a.sameNumber b
  | .string a, .string b => a == b
  | .array as, .array bs => equalItems as bs
  | .document as, .document bs => as.length == bs.length && equalEntries as bs
  | _, _ => false

def equalItems : List Value → List Value → Bool
  | [], [] => true
  | a :: as, b :: bs => equal a b && equalItems as bs
  | _, _ => false

/-- Every entry of the first list has an equal value under its key in the second. -/
def equalEntries : List (String × Value) → List (String × Value) → Bool
  | [], _ => true
  | (key, a) :: rest, bs =>
    (match OrderedMap.get? bs key with
      | some b => equal a b
      | none => false) && equalEntries rest bs

end

instance : BEq Value := ⟨equal⟩

end Value

namespace Document

def single (key : String) (value : Value) : Document :=
  [(key, value)]

/-- The document that holds this one under `root`. -/
def wrap (doc : Document) (root : String) : Document :=
  single root (.document doc)

/-- The number of top-level nulls. -/
def nullCount (doc : Document) : Nat :=
  (OrderedMap.values doc).countP Value.isNull

end Document

end DocumentTemplates
