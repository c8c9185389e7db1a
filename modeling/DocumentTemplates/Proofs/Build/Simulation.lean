import DocumentTemplates.Build

/-!
# Simulations between builds

The same build can be run by two strategies, in two monads and under two settings. A simulation is
a relation between the computations of the monads that sequencing respects. If it relates what the
strategies do and what the nested builds give, it relates the documents of one level, whatever the
template. The statements about levels, sources, registries and caches are instances.
-/

namespace DocumentTemplates

theorem mapM_congr_mem {m : Type → Type} [Monad m] [LawfulMonad m] {α β : Type} {f g : α → m β}
    {xs : List α} (h : ∀ x ∈ xs, f x = g x) : xs.mapM f = xs.mapM g := by
  induction xs with
  | nil => rfl
  | cons x rest ih =>
    rw [List.mapM_cons, List.mapM_cons, h x (by simp), ih fun y hy => h y (by simp [hy])]

/-- Relations between the computations of two monads, one for each relation between results. -/
structure Simulation (m₁ m₂ : Type → Type) [Monad m₁] [Monad m₂] where
  rel : {α β : Type} → (α → β → Prop) → m₁ α → m₂ β → Prop
  pure : ∀ {α β : Type} {P : α → β → Prop} {a : α} {b : β}, P a b →
    rel P (Pure.pure a) (Pure.pure b)
  bind : ∀ {α β γ δ : Type} {P : α → β → Prop} {Q : γ → δ → Prop} {x : m₁ α} {y : m₂ β}
    {f : α → m₁ γ} {g : β → m₂ δ}, rel P x y → (∀ a b, P a b → rel Q (f a) (g b)) →
    rel Q (x >>= f) (y >>= g)

namespace Simulation

variable {m₁ m₂ : Type → Type} [Monad m₁] [Monad m₂] (R : Simulation m₁ m₂)

theorem bind_eq {α γ δ : Type} {Q : γ → δ → Prop} {x : m₁ α} {y : m₂ α} {f : α → m₁ γ}
    {g : α → m₂ δ} (hx : R.rel Eq x y) (hf : ∀ a, R.rel Q (f a) (g a)) :
    R.rel Q (x >>= f) (y >>= g) := by
  refine R.bind hx ?_
  rintro a b rfl
  exact hf a

theorem mono [LawfulMonad m₁] [LawfulMonad m₂] {α β : Type} {P Q : α → β → Prop} {x : m₁ α}
    {y : m₂ β} (h : R.rel P x y) (hpq : ∀ a b, P a b → Q a b) : R.rel Q x y := by
  have hb := R.bind h (f := Pure.pure) (g := Pure.pure) fun a b hab => R.pure (hpq a b hab)
  rwa [bind_pure, bind_pure] at hb

theorem mapM [LawfulMonad m₁] [LawfulMonad m₂] {α β : Type} {f : α → m₁ β} {g : α → m₂ β}
    {xs : List α} (h : ∀ x ∈ xs, R.rel Eq (f x) (g x)) : R.rel Eq (xs.mapM f) (xs.mapM g) := by
  induction xs with
  | nil => exact R.pure rfl
  | cons x rest ih =>
    rw [List.mapM_cons, List.mapM_cons]
    refine R.bind_eq (h x (by simp)) fun b => ?_
    refine R.bind_eq (ih fun y hy => h y (by simp [hy])) fun bs => ?_
    exact R.pure rfl

theorem compute {e₁ : Template → Data → Option Filter → m₁ Document}
    {e₂ : Template → Data → Option Filter → m₂ Document}
    (he : ∀ t object f, R.rel Eq (e₁ t object f) (e₂ t object f)) (t : Template) (plan : Plan) :
    R.rel Eq (Strategy.compute e₁ t plan) (Strategy.compute e₂ t plan) :=
  R.bind_eq (he t plan.item plan.filter) fun _ => R.pure rfl

end Simulation

/-- The plans for which a child asks on an object, whether or not its guard and the filter let it
through. -/
def childPlans (setting : Setting) (object : Data) (f : Option Filter) (selector : Selector)
    (objectRoot : Option RootSetting) : List Plan :=
  match selector.resolve? object setting.scope with
  | none => []
  | some data =>
    match deriveName? (some selector) data none with
    | none => []
    | some name =>
      let nested := f.bind fun f => f.nestedFor? name
      match data with
      | .list _ elements =>
        Plan.ofItems (objectRoot.getD (.enabled setting.config.childRoot)) (some name) nested
          (FilterField.selectItems (f.bind fun f => f.field? name) elements)
      | data => [⟨data, none, nested⟩]

/-- Two settings under which the same contributions make the same document. -/
structure Setting.Alike (S₁ S₂ : Setting) : Prop where
  scope : S₁.scope = S₂.scope
  nilPolicy : S₁.config.nilPolicy = S₂.config.nilPolicy
  childRoot : S₁.config.childRoot = S₂.config.childRoot
  excludeEmpty : S₁.config.excludeEmpty = S₂.config.excludeEmpty

theorem Setting.Alike.refl (S : Setting) : S.Alike S :=
  ⟨rfl, rfl, rfl, rfl⟩

/-- Filters that select the same, whatever field they are nested under. -/
def Filter.Same (f₁ f₂ : Option Filter) : Prop :=
  f₁.map Filter.fields = f₂.map Filter.fields

theorem Filter.Same.refl (f : Option Filter) : Filter.Same f f := rfl

theorem Filter.Same.cases {f₁ f₂ : Option Filter} (h : Filter.Same f₁ f₂) :
    (f₁ = none ∧ f₂ = none) ∨
      ∃ p₁ p₂ fields, f₁ = some (.mk p₁ fields) ∧ f₂ = some (.mk p₂ fields) := by
  unfold Filter.Same at h
  rcases f₁ with _ | ⟨p₁, fields₁⟩ <;> rcases f₂ with _ | ⟨p₂, fields₂⟩
  · exact Or.inl ⟨rfl, rfl⟩
  · simp at h
  · simp at h
  · obtain rfl : fields₁ = fields₂ := by simpa [Filter.fields] using h
    exact Or.inr ⟨p₁, p₂, fields₁, rfl, rfl⟩

theorem Node.addTo_congr {S₁ S₂ : Setting} (hs : S₁.scope = S₂.scope) {f₁ f₂ : Option Filter}
    (hf : Filter.Same f₁ f₂) (object : Data) :
    Node.addTo S₁ object f₁ = Node.addTo S₂ object f₂ := by
  funext doc n
  unfold Node.addTo Node.value
  rw [hs]
  rcases hf.cases with ⟨rfl, rfl⟩ | ⟨p₁, p₂, fields, rfl, rfl⟩
  · rfl
  · rfl

/-- The plans for which the build of an object or a list asks at the top. -/
def buildPlans (setting : Setting) (options : BuildOptions) (data : Data) : List Plan :=
  let root := (options.root.getD setting.config.root).resolve? (deriveName? none data none)
  let f := options.activeFilter
  let inner := Filter.scoped f root
  match data with
  | .null => []
  | .list _ elements =>
    let field := f.bind fun f => root.bind fun root => f.field? root
    Plan.ofItems options.elementRoot (deriveName? none data none) inner
      (FilterField.selectItems field elements)
  | data => [⟨data, root, inner⟩]

/-- The plans for which the build of several objects asks at the top. -/
def buildAllPlans (options : BuildOptions) (objects : List Data) : List Plan :=
  Plan.ofItems options.elementRoot none options.activeFilter objects

namespace Strategy

variable {m : Type → Type} [Monad m] [MonadExceptOf BuildError m]

/-- The document of a template for an object, where `evaluate` builds what is nested in it. -/
def level (s : Strategy m) (setting : Setting)
    (evaluate : Template → Data → Option Filter → m Document) (t : Template) (object : Data)
    (f : Option Filter) : m Document := do
  let gathered ← s.gather setting evaluate object f t.directives
  let doc ← liftExcept <|
    t.nodes.foldlM (Node.addTo setting object f) (Contribution.mergeByPhase gathered)
  return setting.config.nilPolicy.apply doc

/-- The result for an object or a list, where `evaluate` builds the documents at the top. -/
def buildBy (s : Strategy m) (setting : Setting)
    (evaluate : Template → Data → Option Filter → m Document) (options : BuildOptions)
    (t : Template) (data : Data) : m Value :=
  let root := (options.root.getD setting.config.root).resolve? (deriveName? none data none)
  let f := options.activeFilter
  let inner := Filter.scoped f root
  match data with
  | .null => pure .null
  | .list _ elements => do
    let field := f.bind fun f => root.bind fun root => f.field? root
    let results ← s.items setting evaluate t options.elementRoot
      (deriveName? none data none) inner (FilterField.selectItems field elements)
    return match root with
      | some root => .document (Document.single root (.array results))
      | none => .array results
  | data => s.single t ⟨data, root, inner⟩ (compute evaluate t)

theorem build_eq (s : Strategy m) (setting : Setting) (options : BuildOptions) (t : Template)
    (data : Data) :
    s.build setting options t data = s.buildBy setting (s.document setting) options t data := rfl

end Strategy

/-- What relates the builds of one level under two strategies. `Task` relates the nested builds
that may be met, and `Asked` holds of the templates and plans for which results are asked. -/
structure Simulates {m₁ m₂ : Type → Type} [Monad m₁] [Monad m₂] [MonadExceptOf BuildError m₁]
    [MonadExceptOf BuildError m₂] (R : Simulation m₁ m₂) (S₁ S₂ : Setting) (s₁ : Strategy m₁)
    (s₂ : Strategy m₂) (e₁ : Template → Data → Option Filter → m₁ Document)
    (e₂ : Template → Data → Option Filter → m₂ Document)
    (Task : Template → Template → Data → Option Filter → Option Filter → Prop)
    (Asked : Template → Plan → Prop) : Prop where
  alike : S₁.Alike S₂
  nodes : ∀ (ns : List Node) (object : Data) (f : Option Filter) (doc : Document),
    R.rel Eq (liftExcept (ns.foldlM (Node.addTo S₂ object f) doc))
      (liftExcept (ns.foldlM (Node.addTo S₂ object f) doc))
  attributes : ∀ (object : Data) (f : Option Filter) (a : Attribute),
    R.rel Eq (liftExcept (a.contribution S₁ object f)) (liftExcept (a.contribution S₂ object f))
  directives : ∀ {t₁ t₂ object f₁ f₂}, Task t₁ t₂ object f₁ f₂ → t₁.directives = t₂.directives
  filters : ∀ {t₁ t₂ object f₁ f₂}, Task t₁ t₂ object f₁ f₂ → Filter.Same f₁ f₂
  evaluate : ∀ {t₁ t₂ object f₁ f₂}, Task t₁ t₂ object f₁ f₂ →
    R.rel Eq (e₁ t₁ object f₁) (e₂ t₂ object f₂)
  glue : ∀ {t₁ t₂ object f₁ f₂ selector guard body data}, Task t₁ t₂ object f₁ f₂ →
    Directive.glue selector guard body ∈ t₁.directives →
    selector.resolve? object S₁.scope = some data → Task body body data f₁ f₂
  extend : ∀ {t₁ t₂ object f₁ f₂ base target guard extra data}, Task t₁ t₂ object f₁ f₂ →
    Directive.extend base target guard extra ∈ t₁.directives →
    Strategy.extensionTarget S₁ object target = some data →
    R.rel (fun b₁ b₂ => Task (b₁.extendedWith S₁.digestOf extra)
      (b₂.extendedWith S₂.digestOf extra) data f₁ f₂) (s₁.load base) (s₂.load base)
  child : ∀ {t₁ t₂ object f₁ f₂ selector objectRoot guard body}, Task t₁ t₂ object f₁ f₂ →
    Directive.child selector objectRoot guard body ∈ t₁.directives →
    ∀ plan ∈ childPlans S₁ object f₁ selector objectRoot, Asked body plan
  single : ∀ {t plan}, Asked t plan →
    R.rel Eq (s₁.single t plan (Strategy.compute e₁ t)) (s₂.single t plan (Strategy.compute e₂ t))
  many : ∀ {t plans}, (∀ plan ∈ plans, Asked t plan) →
    R.rel Eq (s₁.many t plans (Strategy.compute e₁ t)) (s₂.many t plans (Strategy.compute e₂ t))

namespace Simulates

section
variable {m₁ m₂ : Type → Type} [Monad m₁] [Monad m₂] [MonadExceptOf BuildError m₁]
  [MonadExceptOf BuildError m₂] {R : Simulation m₁ m₂} {S₁ S₂ : Setting} {s₁ : Strategy m₁}
  {s₂ : Strategy m₂} {e₁ : Template → Data → Option Filter → m₁ Document}
  {e₂ : Template → Data → Option Filter → m₂ Document}
  {Task : Template → Template → Data → Option Filter → Option Filter → Prop}
  {Asked : Template → Plan → Prop} {t₁ t₂ : Template} {object : Data} {f₁ f₂ : Option Filter}

/-- Builds of the same templates under the same filters: it is enough that the parts of the
strategies and the nested builds are related, whatever they are asked for. -/
theorem of_same [LawfulMonad m₁] [LawfulMonad m₂] (halike : S₁.Alike S₂)
    (hdigest : S₁.digestOf = S₂.digestOf)
    (hnodes : ∀ (ns : List Node) (object : Data) (f : Option Filter) (doc : Document),
      R.rel Eq (liftExcept (ns.foldlM (Node.addTo S₂ object f) doc))
        (liftExcept (ns.foldlM (Node.addTo S₂ object f) doc)))
    (hattributes : ∀ (object : Data) (f : Option Filter) (a : Attribute),
      R.rel Eq (liftExcept (a.contribution S₁ object f)) (liftExcept (a.contribution S₂ object f)))
    (hload : ∀ name, R.rel Eq (s₁.load name) (s₂.load name))
    (he : ∀ t object f, R.rel Eq (e₁ t object f) (e₂ t object f))
    (hsingle : ∀ t plan, R.rel Eq (s₁.single t plan (Strategy.compute e₁ t))
      (s₂.single t plan (Strategy.compute e₂ t)))
    (hmany : ∀ t plans, R.rel Eq (s₁.many t plans (Strategy.compute e₁ t))
      (s₂.many t plans (Strategy.compute e₂ t))) :
    Simulates R S₁ S₂ s₁ s₂ e₁ e₂ (fun t₁ t₂ _ f₁ f₂ => t₁ = t₂ ∧ f₁ = f₂) (fun _ _ => True) where
  alike := halike
  nodes := hnodes
  attributes := hattributes
  directives task := by rw [task.1]
  filters task := by rw [task.2]; exact .refl _
  evaluate := by
    rintro t _ object f _ ⟨rfl, rfl⟩
    exact he t object f
  glue task _ _ := ⟨rfl, task.2⟩
  extend := by
    rintro t _ object f _ base target guard extra data ⟨rfl, rfl⟩ _ _
    refine R.mono (hload base) ?_
    rintro b _ rfl
    exact ⟨by rw [hdigest], rfl⟩
  child _ _ _ _ := trivial
  single _ := hsingle _ _
  many _ := hmany _ _

theorem items (h : Simulates R S₁ S₂ s₁ s₂ e₁ e₂ Task Asked) {t : Template}
    {elementRoot : RootSetting} {collection : Option String} {f : Option Filter}
    {elements : List Data}
    (ha : ∀ plan ∈ Plan.ofItems elementRoot collection f elements, Asked t plan) :
    R.rel Eq (s₁.items S₁ e₁ t elementRoot collection f elements)
      (s₂.items S₂ e₂ t elementRoot collection f elements) := by
  unfold Strategy.items
  refine R.bind_eq (h.many ha) fun results => ?_
  rw [h.alike.excludeEmpty]
  exact R.pure rfl

theorem glue_contribution (h : Simulates R S₁ S₂ s₁ s₂ e₁ e₂ Task Asked)
    (task : Task t₁ t₂ object f₁ f₂) {selector : Selector} {guard : Guard} {body : Template}
    (hd : Directive.glue selector guard body ∈ t₁.directives) :
    R.rel Eq (Strategy.glue S₁ e₁ object f₁ selector guard body)
      (Strategy.glue S₂ e₂ object f₂ selector guard body) := by
  unfold Strategy.glue
  rw [← h.alike.scope]
  split
  · cases hr : (selector.resolve? object S₁.scope).filter
        fun data => !data.isBlank && !data.isCollection with
    | none => exact R.pure rfl
    | some data =>
      have hs := (Option.filter_eq_some_iff.1 hr).1
      exact R.bind_eq (h.evaluate (h.glue task hd hs)) fun doc => R.pure rfl
  · exact R.pure rfl

theorem extension_contribution (h : Simulates R S₁ S₂ s₁ s₂ e₁ e₂ Task Asked)
    (task : Task t₁ t₂ object f₁ f₂) {base : String} {target : Option Selector} {guard : Guard}
    {extra : Template} (hd : Directive.extend base target guard extra ∈ t₁.directives) :
    R.rel Eq (s₁.extension S₁ e₁ object f₁ base target guard extra)
      (s₂.extension S₂ e₂ object f₂ base target guard extra) := by
  have ht : Strategy.extensionTarget S₂ object target = Strategy.extensionTarget S₁ object target := by
    unfold Strategy.extensionTarget
    rw [h.alike.scope]
  unfold Strategy.extension
  rw [ht, ← h.alike.scope]
  split
  · cases hr : (Strategy.extensionTarget S₁ object target).filter
        fun data => !data.isBlank && !data.isCollection with
    | none => exact R.pure rfl
    | some data =>
      have hs := (Option.filter_eq_some_iff.1 hr).1
      refine R.bind (h.extend task hd hs) fun b₁ b₂ hb => ?_
      exact R.bind_eq (h.evaluate hb) fun doc => R.pure rfl
  · exact R.pure rfl

theorem child_contribution (h : Simulates R S₁ S₂ s₁ s₂ e₁ e₂ Task Asked)
    (task : Task t₁ t₂ object f₁ f₂) {selector : Selector} {objectRoot : Option RootSetting}
    {guard : Guard} {body : Template}
    (hd : Directive.child selector objectRoot guard body ∈ t₁.directives) :
    R.rel Eq (s₁.child S₁ e₁ object f₁ selector objectRoot guard body)
      (s₂.child S₂ e₂ object f₂ selector objectRoot guard body) := by
  have ha := h.child task hd
  unfold Strategy.child
  rw [← h.alike.scope, ← h.alike.childRoot]
  split
  · cases hr : (selector.resolve? object S₁.scope).filter fun data => !data.isBlank with
    | none => exact R.pure rfl
    | some data =>
      have hs := (Option.filter_eq_some_iff.1 hr).1
      cases hn : deriveName? (some selector) data none with
      | none => simp only [hn]; exact R.pure rfl
      | some name =>
        simp only [childPlans, hs, hn] at ha ⊢
        -- the filters differ at most in the field they are nested under, which nothing here reads
        rcases (h.filters task).cases with ⟨rfl, rfl⟩ | ⟨p₁, p₂, fields, rfl, rfl⟩
        · cases data with
          | list _ elements =>
            exact R.bind_eq (h.items ha) fun results => R.pure rfl
          | _ =>
            exact R.bind_eq (h.single (ha _ (by simp))) fun result => R.pure rfl
        · change R.rel Eq (if Filter.admits (some (.mk p₁ fields)) name then _ else _)
            (if Filter.admits (some (.mk p₁ fields)) name then _ else _)
          split
          · cases data with
            | list _ elements =>
              exact R.bind_eq (h.items ha) fun results => R.pure rfl
            | _ =>
              exact R.bind_eq (h.single (ha _ (by simp))) fun result => R.pure rfl
          · exact R.pure rfl
  · exact R.pure rfl

theorem contribution (h : Simulates R S₁ S₂ s₁ s₂ e₁ e₂ Task Asked)
    (task : Task t₁ t₂ object f₁ f₂) {d : Directive} (hd : d ∈ t₁.directives) :
    R.rel Eq (s₁.contribution S₁ e₁ object f₁ d) (s₂.contribution S₂ e₂ object f₂ d) := by
  cases d with
  | «attribute» a =>
    have ha := h.attributes object f₁ a
    rcases (h.filters task).cases with ⟨rfl, rfl⟩ | ⟨p₁, p₂, fields, rfl, rfl⟩
    · exact ha
    · exact ha
  | node n => exact R.pure rfl
  | child selector objectRoot guard body => exact h.child_contribution task hd
  | glue selector guard body => exact h.glue_contribution task hd
  | extend base target guard extra => exact h.extension_contribution task hd

theorem gather (h : Simulates R S₁ S₂ s₁ s₂ e₁ e₂ Task Asked)
    (task : Task t₁ t₂ object f₁ f₂) {ds : List Directive} (hd : ∀ d ∈ ds, d ∈ t₁.directives) :
    R.rel Eq (s₁.gather S₁ e₁ object f₁ ds) (s₂.gather S₂ e₂ object f₂ ds) := by
  induction ds with
  | nil => exact R.pure rfl
  | cons d rest ih =>
    simp only [Strategy.gather]
    refine R.bind_eq (h.contribution task (hd d (by simp))) fun first => ?_
    refine R.bind_eq (ih fun e he => hd e (by simp [he])) fun more => ?_
    exact R.pure rfl

/-- Related tasks have related documents of one level. -/
theorem level (h : Simulates R S₁ S₂ s₁ s₂ e₁ e₂ Task Asked) (task : Task t₁ t₂ object f₁ f₂) :
    R.rel Eq (s₁.level S₁ e₁ t₁ object f₁) (s₂.level S₂ e₂ t₂ object f₂) := by
  unfold Strategy.level Template.nodes
  rw [← h.directives task, ← h.alike.nilPolicy]
  refine R.bind_eq (h.gather task fun d hd => hd) fun gathered => ?_
  rw [Node.addTo_congr h.alike.scope (h.filters task)]
  exact R.bind_eq (h.nodes _ _ _ _) fun doc => R.pure rfl

/-- The builds of an object or a list are related if the documents at the top are. -/
theorem build (h : Simulates R S₁ S₂ s₁ s₂ e₁ e₂ Task Asked)
    (hr : S₁.config.root = S₂.config.root) {options : BuildOptions} {t : Template} {data : Data}
    (ha : ∀ plan ∈ buildPlans S₁ options data, Asked t plan) :
    R.rel Eq (s₁.buildBy S₁ e₁ options t data) (s₂.buildBy S₂ e₂ options t data) := by
  unfold Strategy.buildBy
  rw [← hr]
  cases data with
  | null => exact R.pure rfl
  | list _ elements =>
    refine R.bind_eq (h.items ha) fun results => ?_
    split
    · exact R.pure rfl
    · exact R.pure rfl
  | _ => exact h.single (ha _ (by simp [buildPlans]))

end

end Simulates

end DocumentTemplates
