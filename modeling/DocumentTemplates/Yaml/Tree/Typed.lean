import DocumentTemplates.Sorting
import DocumentTemplates.Value
import DocumentTemplates.Yaml.Schema
import DocumentTemplates.Yaml.Tree

/-!
# Reading trees as data

What a tree gives where text, a truth value, a count, a list, named fields or any value is asked
for, and nothing if it is of another form.
-/

namespace DocumentTemplates.Yaml.Tree

def isOmitted : Tree → Bool
  | .void => true
  | .scalar _ text style => text.isEmpty && style = .plain
  | _ => false

/-- Text: that of any scalar, whatever it means. -/
def text? : Tree → Option String
  | .scalar _ text _ => some text
  | _ => none

/-- Something optional: plain null, or nothing written, stands for its absence. -/
def optional? (tree : Tree) : Option (Option Tree) :=
  match tree with
  | .void => some none
  | .scalar tag text .plain => match tag with
    | none => some (if text.isEmpty || isNullWord text then none else some tree)
    | some tag =>
      if tag = .null then if isNullWord text then some none else none
      else some (some tree)
  | tree => some (some tree)

/-- The text of a scalar that is plain, or a literal block with the given tag. -/
def plainText? (tag : Tag) : Tree → Option String
  | .scalar _ text .plain => some text
  | .scalar (some tag') text .literal => if tag' = tag then some text else none
  | _ => none

def bool? (tree : Tree) : Option Bool :=
  (tree.plainText? .bool).bind Yaml.bool?

def count? (tree : Tree) : Option Nat :=
  ((tree.plainText? .integer).bind unsigned?).filter (· < UInt64.size)

def meaning? : Tree → Option Meaning
  | .scalar tag text style => Yaml.meaning? tag text style
  | _ => none

/-- The items of a list, of which there are none where nothing is written. -/
def items? (tree : Tree) : Option (List Tree) :=
  match tree with
  | .sequence _ items => some items
  | tree => if tree.isOmitted then some [] else none

/-- Named fields, of which there are none where nothing is written. -/
def fields? (tree : Tree) : Option (List (String × Tree)) :=
  match tree with
  | .mapping _ entries => entries.mapM fun entry => entry.1.text?.map fun name => (name, entry.2)
  | tree => if tree.isOmitted then some [] else none

/-- True if a collection may be read as a value: it has no local tag with a name. -/
def isUntyped (tag : Option Tag) : Bool :=
  tag.all (·.localName?.isNone)

/-- The value that a scalar's meaning gives. Numbers that are not finite become null, whole
numbers of 64 bits that are too large for a signed number become doubles, and larger ones give
nothing. -/
def valueOfMeaning? : Meaning → Option Value
  | .null => some .null
  | .bool b => some (.bool b)
  | .integer i =>
    match Value.int64? i with
    | some n => some (.integer n)
    | none => if 0 ≤ i && i < UInt64.size then some (.float (.ofInt i)) else none
  | .float x => some (if x.isFinite then .float x else .null)
  | .text s => some (.string s)

/-- The document of entries, in the order of their keys; of several with one key the last
counts. -/
def sortedDocument (entries : List (String × Value)) : Value :=
  .document (Sorting.stableSort (fun a b => a.1 < b.1) (OrderedMap.ofEntries entries))

mutual

/-- Any value. The keys of documents are scalars and count by their text. -/
def value? : Tree → Option Value
  | .void => some .null
  | .scalar tag text style => (Yaml.meaning? tag text style).bind valueOfMeaning?
  | .sequence tag items =>
    if isUntyped tag then (values? items).map .array else none
  | .mapping tag entries =>
    if isUntyped tag then (entries? entries).map sortedDocument else none

def values? : List Tree → Option (List Value)
  | [] => some []
  | tree :: rest => do
    let v ← value? tree
    let vs ← values? rest
    return v :: vs

def entries? : List (Tree × Tree) → Option (List (String × Value))
  | [] => some []
  | (key, tree) :: rest => do
    let name ← key.text?
    let v ← value? tree
    let more ← entries? rest
    return (name, v) :: more

end

end DocumentTemplates.Yaml.Tree
