import DocumentTemplates.Config
import DocumentTemplates.Filter.Apply
import DocumentTemplates.Format

/-!
# Building documents

A template is evaluated against one object. Its directives act in phases, wherever they stand in
the template: attributes, then extensions, children and glue, then nodes. What the first four
kinds contribute is computed in template order and merged phase by phase; nodes run last and see
the document merged so far. The null policy acts on every finished document.

How templates are found, and whether results come from a cache, is left to a `Strategy`, in any
monad that carries build errors.
-/

namespace DocumentTemplates

/-- What a build depends on besides its object and template. The digest function stands for the
texts it is applied to in cache keys. -/
structure Setting where
  config : Config
  scope : Scope
  source : Source
  digestOf : String → String

/-- The choices made for a single call. -/
structure BuildOptions where
  format : Format := .json
  /-- How the result is wrapped, in place of the configured choice. -/
  root : Option RootSetting := none
  /-- How the elements of a list are wrapped. -/
  objectRoot : Option RootSetting := none
  filter : Option Filter := none
  /-- After how many seconds stored results expire. -/
  expiresIn : Option Nat := none

namespace BuildOptions

def activeFilter (options : BuildOptions) : Option Filter :=
  options.filter.filter fun f => !f.isEmpty

/-- How elements are wrapped: not at all, unless asked for. -/
def elementRoot (options : BuildOptions) : RootSetting :=
  options.objectRoot.getD (.enabled false)

end BuildOptions

/-! ## Selection -/

/-- The value to sort an item by: what it holds under the key, or its plain value. -/
def Data.sortKey (item : Data) : Option String → Value
  | some key => ((item.member? key).map Data.toValue).getD .null
  | none => item.toValue

/-- The items that are left by the calls of a field. -/
def FilterField.selectItems (field : Option FilterField) (items : List Data) : List Data :=
  match field with
  | some field => FunctionCall.applyAll Data.sortKey field.calls items
  | none => items

/-- The filter that applies inside a result wrapped under `root`: what it says about the root if it
has a field for it, and else the filter itself. -/
def Filter.scoped (f : Option Filter) (root : Option String) : Option Filter :=
  match f, root with
  | some f, some root => if f.selects root then f.nestedFor? root else some f
  | f, _ => f

def Filter.admits (f : Option Filter) (key : String) : Bool :=
  f.all fun f => f.selects key

def Filter.stored (f : Option Filter) (key : String) (v : Value) : Value :=
  match f with
  | some f => f.applyCalls v key
  | none => v

/-! ## Contributions -/

/-- What a directive adds to a document. -/
inductive Contribution where
  | entry (key : String) (value : Value)
  | merged (doc : Document)

def Contribution.addTo (doc : Document) : Contribution → Document
  | .entry key value => OrderedMap.insert doc key value
  | .merged other => OrderedMap.merge doc other

/-- The phases in which directives act. -/
inductive Phase where
  | attributes
  | extensions
  | children
  | glue
  | nodes
  deriving DecidableEq

def Phase.merging : List Phase :=
  [.attributes, .extensions, .children, .glue]

def Directive.phase : Directive → Phase
  | .attribute _ => .attributes
  | .extend _ _ _ _ => .extensions
  | .child _ _ _ _ => .children
  | .glue _ _ _ => .glue
  | .node _ => .nodes

/-- The document that contributions make when they are added phase by phase. -/
def Contribution.mergeByPhase (gathered : List (Phase × Contribution)) : Document :=
  Phase.merging.foldl (fun doc phase =>
    ((gathered.filter (·.1 = phase)).map Prod.snd).foldl Contribution.addTo doc) []

namespace Attribute

/-- What an attribute contributes. An absent member contributes nothing, or is an error. -/
def contribution (setting : Setting) (object : Data) (f : Option Filter) (a : Attribute) :
    Except BuildError (Option Contribution) :=
  if a.guard.passes object setting.scope && Filter.admits f a.key then
    match object.member? a.name with
    | some member => .ok (some (.entry a.key (Filter.stored f a.key member.toValue)))
    | none =>
      if setting.config.strictAttributes then .error (.missingAttribute a.name) else .ok none
  else .ok none

end Attribute

namespace Node

/-- The value of a node, which sees the document merged so far. -/
def value (setting : Setting) (object : Data) (doc : Document) (n : Node) :
    Except BuildError Value :=
  match n.compute with
  | .function _ f => .ok (f ⟨object, doc, setting.scope⟩)
  | .helper name => match setting.scope.call? name object with
    | some v => .ok v
    | none => .error (.unknownHelper name)
  | .value v => .ok v

/-- The document with a node's value added: under its name, or merged if it has none. -/
def addTo (setting : Setting) (object : Data) (f : Option Filter) (doc : Document) (n : Node) :
    Except BuildError Document :=
  if n.guard.passes object setting.scope && n.name.all (Filter.admits f) then do
    let v ← n.value setting object doc
    return match n.name, v with
      | some name, v => OrderedMap.insert doc name (Filter.stored f name v)
      | none, .document other => OrderedMap.merge doc other
      | none, _ => doc
  else .ok doc

end Node

def Template.nodes (t : Template) : List Node :=
  t.directives.filterMap fun d => match d with
    | .node n => some n
    | _ => none

/-! ## Nested builds -/

/-- One object to build: how its result is wrapped, and the filter that applies inside. -/
structure Plan where
  item : Data
  root : Option String
  filter : Option Filter

/-- How a build gets at templates and results. `single` and `many` are given a template, the plans
for it, and the way to compute a plan's result. -/
structure Strategy (m : Type → Type) where
  load : String → m Template
  /-- The result of a plan. -/
  single : Template → Plan → (Plan → m Value) → m Value
  /-- The results of the plans for the elements of a list, in order. -/
  many : Template → List Plan → (Plan → m Value) → m (List Value)

/-- The plans for the elements of a list with a name, under a filter. -/
def Plan.ofItems (elementRoot : RootSetting) (collection : Option String) (f : Option Filter)
    (items : List Data) : List Plan :=
  items.map fun item =>
    let root := elementRoot.resolve? (deriveName? none item collection)
    ⟨item, root, Filter.scoped f root⟩

namespace Strategy

variable {m : Type → Type} [Monad m] [MonadExceptOf BuildError m]

/-- The result of a plan, computed by `evaluate`: the document, wrapped if the plan has a root. -/
def compute (evaluate : Template → Data → Option Filter → m Document) (t : Template)
    (plan : Plan) : m Value := do
  let doc ← evaluate t plan.item plan.filter
  return .document (match plan.root with
    | some root => Document.wrap doc root
    | none => doc)

/-- The results for the items of a list. Empty ones may be left out. -/
def items (s : Strategy m) (setting : Setting)
    (evaluate : Template → Data → Option Filter → m Document) (t : Template)
    (elementRoot : RootSetting) (collection : Option String) (f : Option Filter)
    (items : List Data) : m (List Value) := do
  let results ← s.many t (Plan.ofItems elementRoot collection f items) (compute evaluate t)
  return if setting.config.excludeEmpty then results.filter fun v => !v.isEmpty else results

/-- The object that an extension builds on: the one being built, if no other is given. -/
def extensionTarget (setting : Setting) (object : Data) (target : Option Selector) : Option Data :=
  match target with
  | some selector => selector.resolve? object setting.scope
  | none => some object

/-- What an extension contributes: the document of the base with the extra directives. Targets
that are absent, blank or lists contribute nothing. -/
def extension (s : Strategy m) (setting : Setting)
    (evaluate : Template → Data → Option Filter → m Document) (object : Data)
    (f : Option Filter) (base : String) (target : Option Selector) (guard : Guard)
    (extra : Template) : m (Option Contribution) :=
  if guard.passes object setting.scope then
    match (extensionTarget setting object target).filter
        fun data => !data.isBlank && !data.isCollection with
    | some data => do
      let t ← s.load base
      return some (.merged (← evaluate (t.extendedWith setting.digestOf extra) data f))
    | none => pure none
  else pure none

/-- What glue contributes: the document of its template. Data that is absent, blank or a list
contributes nothing. -/
def glue (setting : Setting) (evaluate : Template → Data → Option Filter → m Document)
    (object : Data) (f : Option Filter) (selector : Selector) (guard : Guard) (body : Template) :
    m (Option Contribution) :=
  if guard.passes object setting.scope then
    match (selector.resolve? object setting.scope).filter
        fun data => !data.isBlank && !data.isCollection with
    | some data => return some (.merged (← evaluate body data f))
    | none => pure none
  else pure none

/-- What a child contributes: a document, or the results for a list, under a name. Data that is
absent or blank or has no name contributes nothing. -/
def child (s : Strategy m) (setting : Setting)
    (evaluate : Template → Data → Option Filter → m Document) (object : Data)
    (f : Option Filter) (selector : Selector) (objectRoot : Option RootSetting) (guard : Guard)
    (body : Template) : m (Option Contribution) :=
  if guard.passes object setting.scope then
    match (selector.resolve? object setting.scope).filter fun data => !data.isBlank with
    | none => pure none
    | some data =>
      match deriveName? (some selector) data none with
      | none => pure none
      | some name =>
        if Filter.admits f name then
          let nested := f.bind fun f => f.nestedFor? name
          match data with
          | .list _ elements => do
            let field := f.bind fun f => f.field? name
            let elementRoot := objectRoot.getD (.enabled setting.config.childRoot)
            let results ← s.items setting evaluate body elementRoot (some name) nested
              (FilterField.selectItems field elements)
            return some (.entry name (.array results))
          | data => do
            let result ← s.single body ⟨data, none, nested⟩ (compute evaluate body)
            return some (.entry name result)
        else pure none
  else pure none

/-- What a directive contributes before the nodes run; `evaluate` builds what is nested in it. -/
def contribution (s : Strategy m) (setting : Setting)
    (evaluate : Template → Data → Option Filter → m Document) (object : Data)
    (f : Option Filter) : Directive → m (Option Contribution)
  | .attribute a => liftExcept (a.contribution setting object f)
  | .node _ => pure none
  | .child selector objectRoot guard body =>
    s.child setting evaluate object f selector objectRoot guard body
  | .glue selector guard body => glue setting evaluate object f selector guard body
  | .extend base target guard extra => s.extension setting evaluate object f base target guard extra

/-- The contributions of directives with their phases, computed in order. -/
def gather (s : Strategy m) (setting : Setting)
    (evaluate : Template → Data → Option Filter → m Document) (object : Data)
    (f : Option Filter) : List Directive → m (List (Phase × Contribution))
  | [] => pure []
  | d :: rest => do
    let first ← s.contribution setting evaluate object f d
    let more ← s.gather setting evaluate object f rest
    return match first with
      | some c => (d.phase, c) :: more
      | none => more

/-- The document of a template for an object, where at most `levels` builds are nested. -/
def evaluate (s : Strategy m) (setting : Setting) :
    Nat → Template → Data → Option Filter → m Document
  | 0, t, _, _ =>
    let limit := setting.config.maxDepth
    throw (.templateCycle (t.name.getD "<inline>") (limit + 1) limit)
  | levels + 1, t, object, f => do
    let gathered ← s.gather setting (s.evaluate setting levels) object f t.directives
    let doc ← liftExcept <|
      t.nodes.foldlM (Node.addTo setting object f) (Contribution.mergeByPhase gathered)
    return setting.config.nilPolicy.apply doc

def document (s : Strategy m) (setting : Setting) (t : Template) (object : Data)
    (f : Option Filter) : m Document :=
  s.evaluate setting (setting.config.maxDepth + 1) t object f

/-- The result for an object or a list: null for null, a document for an object, an array for a
list. The document or the array is wrapped as the options or the configuration say. -/
def build (s : Strategy m) (setting : Setting) (options : BuildOptions) (t : Template)
    (data : Data) : m Value :=
  let root := (options.root.getD setting.config.root).resolve? (deriveName? none data none)
  let f := options.activeFilter
  let inner := Filter.scoped f root
  match data with
  | .null => pure .null
  | .list _ elements => do
    let field := f.bind fun f => root.bind fun root => f.field? root
    let results ← s.items setting (s.document setting) t options.elementRoot
      (deriveName? none data none) inner (FilterField.selectItems field elements)
    return match root with
      | some root => .document (Document.single root (.array results))
      | none => .array results
  | data => s.single t ⟨data, root, inner⟩ (compute (s.document setting) t)

def buildAll (s : Strategy m) (setting : Setting) (options : BuildOptions) (t : Template)
    (objects : List Data) : m (List Value) :=
  s.items setting (s.document setting) t options.elementRoot none options.activeFilter objects

end Strategy

end DocumentTemplates
