import DocumentTemplates.Data

/-!
# The calling scope

The only way in which a build reaches beyond the data it was given: named variables, and named
helpers that compute a value from the current object.
-/

namespace DocumentTemplates

/-- Variables and helpers by name. -/
structure Scope where
  lookup? : String → Option Data
  helper? : String → Option (Data → Value)

namespace Scope

def empty : Scope :=
  ⟨fun _ => none, fun _ => none⟩

instance : Inhabited Scope := ⟨empty⟩

/-- The scope of the given variables and helpers. A later one replaces an earlier one of the same
name. -/
def ofLists (bindings : List (String × Data)) (helpers : List (String × (Data → Value))) :
    Scope :=
  ⟨(OrderedMap.ofEntries bindings).get?, (OrderedMap.ofEntries helpers).get?⟩

def call? (scope : Scope) (helper : String) (object : Data) : Option Value :=
  (scope.helper? helper).map fun f => f object

end Scope

end DocumentTemplates
