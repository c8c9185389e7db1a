import DocumentTemplates.Decimal.Digits
import DocumentTemplates.Filter
import DocumentTemplates.Sorting
import DocumentTemplates.Value.Order

/-!
# Filters at work

The calls of a field act on a sequence in declared order: `limit` keeps the first items, `sort`
orders them stably by a key of each item. Pruning keeps the selected fields of a document, with
their calls and nested filters applied, and keeps their order.
-/

namespace DocumentTemplates

/-- One call on a sequence of items. `sortKey` is the value to sort an item by, under the key
given in the call if there is one. -/
def FunctionCall.apply {α : Type} (sortKey : α → Option String → Value) (call : FunctionCall)
    (items : List α) : List α :=
  match call.function with
  | .limit => match call.args.head?.bind Decimal.count? with
    | some n => items.take n
    | none => items
  | .sort =>
    let keyed := items.map fun item => (sortKey item call.args.head?, item)
    let ordered :=
      if call.args[1]? = some "desc" then .gt else Ordering.lt
    (Sorting.stableSort (fun a b => a.1.sortCompare b.1 = ordered) keyed).map Prod.snd

def FunctionCall.applyAll {α : Type} (sortKey : α → Option String → Value)
    (calls : List FunctionCall) (items : List α) : List α :=
  calls.foldl (fun items call => call.apply sortKey items) items

/-- The value to sort an array's item by: the item itself, or what a document holds under the
key. -/
def Value.sortKey (item : Value) : Option String → Value
  | none => item
  | some key => match item with
    | .document entries => (OrderedMap.get? entries key).getD .null
    | _ => .null

namespace Filter

/-- Calls on a value. Only arrays are changed. -/
def applyToValue (calls : List FunctionCall) : Value → Value
  | .array items => .array (FunctionCall.applyAll Value.sortKey calls items)
  | v => v

/-- The calls declared for a field name, on a value. -/
def applyCalls (f : Filter) (v : Value) (name : String) : Value :=
  match f.field? name with
  | some field => applyToValue field.calls v
  | none => v

mutual

/-- Acts by `inside` on a document, or on every document among the items of nested arrays. -/
def mapDocuments (inside : Document → Document) : Value → Value
  | .document entries => .document (inside entries)
  | .array items => .array (mapDocumentsItems inside items)
  | v => v

def mapDocumentsItems (inside : Document → Document) : List Value → List Value
  | [] => []
  | v :: rest => mapDocuments inside v :: mapDocumentsItems inside rest

end

mutual

/-- Keeps the selected fields of a document, at every depth. An empty filter keeps everything. -/
def prune : Filter → Document → Document
  | .mk _ [], doc => doc
  | .mk _ (field :: fields), doc => doc.filterMap (pruneEntry (field :: fields))

/-- The entry that is left of an entry: nothing if no field has its key, else its value under
the calls and the nested filter of the first field that has. -/
def pruneEntry : List FilterField → String × Value → Option (String × Value)
  | [], _ => none
  | field :: fields, entry =>
    if field.name = entry.1 then some (entry.1, pruneField field entry.2)
    else pruneEntry fields entry

/-- The value under a selected key: the field's calls, then its nested filter. -/
def pruneField : FilterField → Value → Value
  | .mk _ calls none, v => applyToValue calls v
  | .mk _ calls (some nested), v => mapDocuments (prune nested) (applyToValue calls v)

end

end Filter

end DocumentTemplates
