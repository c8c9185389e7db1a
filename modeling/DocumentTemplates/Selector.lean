import DocumentTemplates.Inflection
import DocumentTemplates.Scope

/-!
# Selectors and names

A selector says what data a nested build works on. The name of its result comes from the
selector, from the data, or from the collection that the data belongs to.
-/

namespace DocumentTemplates

/-- What a nested build works on. -/
inductive Selector where
  | current
  /-- A member of the object, or else a variable of the scope. -/
  | member (name : String)
  | variable (name : String)
  | value (data : Data)
  /-- Another selector with a name for the result. -/
  | named (inner : Selector) (name : String)
  deriving Inhabited

namespace Selector

/-- Gives a selector a name for its result, in place of the one it may have. -/
def withName : Selector → String → Selector
  | .named inner _, name => .named inner name
  | selector, name => .named selector name

def givenName? : Selector → Option String
  | .named _ name => some name
  | _ => none

/-- The name by which a selector refers to its data. -/
def token? : Selector → Option String
  | .member name => some name
  | .variable name => some name
  | .named inner _ => inner.token?
  | _ => none

/-- The data a selector points at, from an object in a scope. -/
def resolve? (selector : Selector) (object : Data) (scope : Scope) : Option Data :=
  match selector with
  | .current => some object
  | .member name => (object.member? name).or (scope.lookup? name)
  | .variable name => scope.lookup? name
  | .value data => some data
  | .named inner _ => inner.resolve? object scope

/-- Reads a selector: `self` is the object, a name after an at sign a variable, any other text a
member. -/
def parse (text : String) : Selector :=
  if text = "self" then .current
  else match text.toList with
    | '@' :: name => .variable (String.ofList name)
    | _ => .member text

end Selector

/-- The name under which a result for `data` is stored; null has none.

The name given with the selector comes first. Then a collection takes its own name, the plural of
the kind of its first element, or the selector's token. An object takes the token, the singular
of the name of its collection, or its kind. -/
def deriveName? (selector : Option Selector) (data : Data) (collection : Option String) :
    Option String :=
  match data with
  | .null => none
  | .list name items =>
    (selector.bind Selector.givenName?).or <| name.or <|
      ((items.head?.bind Data.kind?).map Inflection.pluralize).or <|
        selector.bind Selector.token?
  | data =>
    (selector.bind Selector.givenName?).or <| (selector.bind Selector.token?).or <|
      (collection.map Inflection.singularize).or data.kind?

end DocumentTemplates
