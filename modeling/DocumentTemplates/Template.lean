import DocumentTemplates.RootSetting
import DocumentTemplates.Selector

/-!
# Templates

A template is a list of directives. Attributes project members of the object being built, nodes
compute values, and the other directives run nested builds: a child is stored under a name, glue
is merged, and an extension merges the result of another template found by name.
-/

namespace DocumentTemplates

/-- A condition on the object being built. -/
inductive Condition where
  /-- A fixed outcome. -/
  | always (outcome : Bool)
  /-- The truth of a member of the object, or else of a variable of the scope; a name that is
  neither counts as false. -/
  | member (name : String)
  /-- Any test. The label tells it from other tests in fingerprints. -/
  | predicate (label : String) (test : Data → Bool)

def Condition.holds (condition : Condition) (object : Data) (scope : Scope) : Bool :=
  match condition with
  | .always outcome => outcome
  | .member name =>
    (((object.member? name).or (scope.lookup? name)).map Data.isTruthy).getD false
  | .predicate _ test => test object

/-- The conditions under which a directive acts: the one must hold and the other must not, where
they are given. -/
structure Guard where
  onlyIf : Option Condition := none
  exceptIf : Option Condition := none

/-- True if a directive with this guard acts. -/
def Guard.passes (guard : Guard) (object : Data) (scope : Scope) : Bool :=
  (match guard.onlyIf with
    | some condition => condition.holds object scope
    | none => true) &&
  (match guard.exceptIf with
    | some condition => !condition.holds object scope
    | none => true)

/-- What the function of a node can see: the object, the document merged so far, and the
scope. -/
structure NodeContext where
  object : Data
  document : Document
  scope : Scope

/-- How a node gets its value. -/
inductive Computation where
  /-- By a function. The label tells it from other functions in fingerprints. -/
  | function (label : String) (f : NodeContext → Value)
  | helper (name : String)
  | value (v : Value)

/-- A member of the object, written under its alias or its own name. -/
structure Attribute where
  name : String
  shownAs : Option String := none
  guard : Guard := {}

def Attribute.key (a : Attribute) : String :=
  a.shownAs.getD a.name

/-- A computed value. Without a name, a document that it computes is merged. -/
structure Node where
  name : Option String
  guard : Guard := {}
  compute : Computation

mutual

/-- One instruction of a template. -/
inductive Directive where
  | attribute (a : Attribute)
  | node (n : Node)
  /-- A nested build stored under a name. If the data is a collection, `objectRoot` says how its
  elements are wrapped. -/
  | child (selector : Selector) (objectRoot : Option RootSetting) (guard : Guard)
      (body : Template)
  /-- A nested build merged into the document. -/
  | glue (selector : Selector) (guard : Guard) (body : Template)
  /-- The template `base` with the directives of `extra` after its own, built and merged. -/
  | extend (base : String) (object : Option Selector) (guard : Guard) (extra : Template)

/-- Directives in order, with the name they were loaded under and the digest that stands for them
in cache keys. -/
inductive Template where
  | mk (name : Option String) (directives : List Directive) (digest : String)

end

instance : Inhabited Template := ⟨.mk none [] ""⟩

namespace Template

def name : Template → Option String
  | .mk name _ _ => name

def directives : Template → List Directive
  | .mk _ directives _ => directives

/-- The text that stands for a template in cache keys. -/
def digest : Template → String
  | .mk _ _ digest => digest

def withName (t : Template) (name : String) : Template :=
  .mk (some name) t.directives t.digest

def withDigest (t : Template) (digest : String) : Template :=
  .mk t.name t.directives digest

/-- A template appended to another. The digest, by the given digest function, covers both; nothing
changes if there is nothing to append. -/
def extendedWith (digestOf : String → String) (t extra : Template) : Template :=
  if extra.directives.isEmpty then t
  else .mk t.name (t.directives ++ extra.directives) (digestOf (t.digest ++ "+" ++ extra.digest))

end Template

namespace Directive

def kind : Directive → String
  | .attribute _ => "attribute"
  | .node _ => "node"
  | .child _ _ _ _ => "child"
  | .glue _ _ _ => "glue"
  | .extend _ _ _ _ => "extends"

def guard : Directive → Guard
  | .attribute a => a.guard
  | .node n => n.guard
  | .child _ _ guard _ => guard
  | .glue _ guard _ => guard
  | .extend _ _ guard _ => guard

end Directive

/-- True of a test given as a function. -/
def Condition.isPredicate : Condition → Bool
  | .predicate _ _ => true
  | _ => false

/-- True if one of the conditions is given as a function. -/
def Guard.hasPredicate (guard : Guard) : Bool :=
  guard.onlyIf.any Condition.isPredicate || guard.exceptIf.any Condition.isPredicate

/-- True of a value computed by a function. -/
def Computation.isFunction : Computation → Bool
  | .function _ _ => true
  | _ => false

mutual

/-- True if functions occur anywhere in a template: such a template is not determined by its
fingerprint. -/
def Template.hasFunctions : Template → Bool
  | .mk _ directives _ => Template.anyHasFunctions directives

def Template.anyHasFunctions : List Directive → Bool
  | [] => false
  | d :: rest => Directive.hasFunctions d || Template.anyHasFunctions rest

def Directive.hasFunctions : Directive → Bool
  | .attribute a => a.guard.hasPredicate
  | .node n => n.guard.hasPredicate || n.compute.isFunction
  | .child _ _ guard body => guard.hasPredicate || Template.hasFunctions body
  | .glue _ guard body => guard.hasPredicate || Template.hasFunctions body
  | .extend _ _ guard extra => guard.hasPredicate || Template.hasFunctions extra

end

end DocumentTemplates
