import DocumentTemplates.Value

/-!
# Null handling

A policy says what becomes of nulls and empty strings in a finished document. Each policy acts
at every depth, on the items of arrays too, and acting a second time changes nothing.
-/

namespace DocumentTemplates

/-- What becomes of nulls and empty strings. -/
inductive NilPolicy where
  /-- Everything stays. -/
  | keep
  /-- Nulls become empty strings. -/
  | blankToEmpty
  /-- Empty strings become nulls. -/
  | emptyToNil
  /-- Keys whose value is null are removed. Nulls in arrays stay. -/
  | dropNil
  deriving DecidableEq, Inhabited

namespace NilPolicy

def name : NilPolicy → String
  | .keep => "none"
  | .blankToEmpty => "blank-to-empty"
  | .emptyToNil => "empty-to-nil"
  | .dropNil => "drop-nil"

def ofName? (s : String) : Option NilPolicy :=
  [NilPolicy.keep, .blankToEmpty, .emptyToNil, .dropNil].find? (·.name = s)

mutual

/-- Applies `leaf` to the leaves of a value. -/
def mapLeaves (leaf : Value → Value) : Value → Value
  | .array items => .array (mapItems leaf items)
  | .document entries => .document (mapEntries leaf entries)
  | v => leaf v

def mapItems (leaf : Value → Value) : List Value → List Value
  | [] => []
  | v :: rest => mapLeaves leaf v :: mapItems leaf rest

def mapEntries (leaf : Value → Value) : List (String × Value) → List (String × Value)
  | [] => []
  | (key, v) :: rest => (key, mapLeaves leaf v) :: mapEntries leaf rest

end

def blankLeaf : Value → Value
  | .null => .string ""
  | v => v

def emptyLeaf : Value → Value
  | .string s => if s.isEmpty then .null else .string s
  | v => v

mutual

/-- Removes the keys with null values in every document inside a value. -/
def dropNulls : Value → Value
  | .array items => .array (dropNullsItems items)
  | .document entries => .document (dropNullsEntries entries)
  | v => v

def dropNullsItems : List Value → List Value
  | [] => []
  | v :: rest => dropNulls v :: dropNullsItems rest

/-- Removes the entries whose value is null, and acts inside the others. -/
def dropNullsEntries : List (String × Value) → List (String × Value)
  | [] => []
  | (_, .null) :: rest => dropNullsEntries rest
  | (key, v) :: rest => (key, dropNulls v) :: dropNullsEntries rest

end

def applyValue : NilPolicy → Value → Value
  | .keep, v => v
  | .blankToEmpty, v => mapLeaves blankLeaf v
  | .emptyToNil, v => mapLeaves emptyLeaf v
  | .dropNil, v => dropNulls v

def apply : NilPolicy → Document → Document
  | .keep, doc => doc
  | .blankToEmpty, doc => mapEntries blankLeaf doc
  | .emptyToNil, doc => mapEntries emptyLeaf doc
  | .dropNil, doc => dropNullsEntries doc

end NilPolicy

end DocumentTemplates
