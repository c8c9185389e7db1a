import DocumentTemplates.Proofs.Cache.Reading
import DocumentTemplates.Proofs.Cache.Runs

/-!
# Results recalled from a reading

A result can be computed one level deep, with all nested results that have keys recalled from a
reading of the cache. What is recalled from a reading is recalled from every reading above it. A
build that takes results one by one adds to the reading only what can be recalled from the reading
it leaves; and a build that takes them together changes nothing and gives what can be recalled,
wherever everything can be.
-/

namespace DocumentTemplates

/-- A computation for every reading. -/
abbrev Recalled := ReaderT Reading (Except BuildError)

/-- The value under a key, which must be there. What has no key is computed. -/
def Recalled.recall (key : Option CacheKey) (x : Recalled Value) : Recalled Value :=
  match key with
  | none => x
  | some key => fun ρ =>
    match ρ key with
    | some v => .ok v
    | none => .error (.cache "not found")

theorem Recalled.recall_eq_ok {key : CacheKey} {x : Recalled Value} {ρ : Reading} {v : Value} :
    (Recalled.recall (some key) x).run ρ = .ok v ↔ ρ key = some v := by
  change (match ρ key with | some v => Except.ok v | none => _) = Except.ok v ↔ _
  cases ρ key with
  | none => exact ⟨fun h => (by cases h), fun h => (by cases h)⟩
  | some w => exact ⟨fun h => congrArg some (Except.ok.inj h), fun h => by rw [Option.some.inj h]⟩

/-- Recalls every result that has a key. -/
def Strategy.recalling (load : String → Except BuildError Template)
    (key? : Template → Plan → Option CacheKey) : Strategy Recalled where
  load name := liftExcept (load name)
  single t plan compute := Recalled.recall (key? t plan) (compute plan)
  many t plans compute := plans.mapM fun plan => Recalled.recall (key? t plan) (compute plan)

namespace Store

variable (S : Setting) (options : BuildOptions) (origin : Store MemoryCache)

def recalling : Strategy Recalled :=
  .recalling (origin.load S) (origin.key? S options)

/-- The result of a plan, where what is nested in it is recalled. -/
def recalled (levels : Nat) (t : Template) (plan : Plan) : Recalled Value :=
  Strategy.compute ((origin.recalling S options).evaluate S levels) t plan

end Store

/-! ## Above a reading, the same is recalled -/

/-- What is recalled from one reading is recalled from another, with related results. -/
def Simulation.recalls (ρ ρ' : Reading) : Simulation Recalled Recalled where
  rel P x y := ∀ a, x.run ρ = .ok a → ∃ b, y.run ρ' = .ok b ∧ P a b
  pure := by
    rintro α β P a b h _ ⟨⟩
    exact ⟨b, rfl, h⟩
  bind := by
    intro α β γ δ P Q x y f g hx hf c hc
    obtain ⟨a, ha, hc⟩ := bind_eq_ok.1 hc
    obtain ⟨b, hb, hab⟩ := hx a ha
    obtain ⟨d, hd, hcd⟩ := hf a b hab c hc
    exact ⟨d, bind_eq_ok.2 ⟨b, hb, hd⟩, hcd⟩

namespace Store

variable {S : Setting} {options : BuildOptions} {origin : Store MemoryCache} {ρ ρ' : Reading}

theorem recall_recalls (hρ : ρ.Below ρ') (key : Option CacheKey) {x y : Recalled Value}
    (hxy : (Simulation.recalls ρ ρ').rel Eq x y) :
    (Simulation.recalls ρ ρ').rel Eq (Recalled.recall key x) (Recalled.recall key y) := by
  cases key with
  | none => exact hxy
  | some key =>
    exact fun v hv => ⟨v, Recalled.recall_eq_ok.2 (hρ (Recalled.recall_eq_ok.1 hv)), rfl⟩

theorem recalling_recalls (hρ : ρ.Below ρ')
    {e₁ e₂ : Template → Data → Option Filter → Recalled Document}
    (he : ∀ {t₁ t₂ object f₁ f₂}, Strategy.SameTask (fun _ => True) t₁ t₂ object f₁ f₂ →
      (Simulation.recalls ρ ρ').rel Eq (e₁ t₁ object f₁) (e₂ t₂ object f₂)) :
    Simulates (Simulation.recalls ρ ρ') S S (origin.recalling S options)
      (origin.recalling S options) e₁ e₂ (Strategy.SameTask fun _ => True) (fun _ _ => True) := by
  have hl : ∀ {α : Type} (x : Except BuildError α),
      (Simulation.recalls ρ ρ').rel Eq (liftExcept x) (liftExcept x) := by
    intro α x a ha
    refine ⟨a, ?_, rfl⟩
    cases x with
    | ok b => exact ha
    | error e => cases ha
  have hc : ∀ (t : Template) (plan : Plan), (Simulation.recalls ρ ρ').rel Eq
      (Recalled.recall (origin.key? S options t plan) (Strategy.compute e₁ t plan))
      (Recalled.recall (origin.key? S options t plan) (Strategy.compute e₂ t plan)) := by
    intro t plan
    refine recall_recalls hρ _ ?_
    exact Simulation.bind_eq _ (he ⟨rfl, .refl _, fun _ _ => trivial⟩) fun doc =>
      Simulation.pure _ rfl
  constructor
  case alike => exact .refl S
  case nodes => exact fun ns object f doc => hl _
  case attributes => exact fun object f a => hl _
  case directives => exact fun task => task.1
  case filters => exact fun task => task.2.1
  case evaluate => exact fun task => he task
  case glue => exact fun task _ _ => ⟨rfl, task.2.1, fun _ _ => trivial⟩
  case extend =>
    intro t₁ t₂ object f₁ f₂ base target guard extra data task _ _ b hb
    refine ⟨b, ?_, rfl, task.2.1, fun _ _ => trivial⟩
    change (liftExcept (origin.load S base) : Recalled Template).run ρ' = .ok b
    change (liftExcept (origin.load S base) : Recalled Template).run ρ = .ok b at hb
    obtain ⟨_, hb', rfl⟩ := hl _ b hb
    exact hb'
  case child => exact fun _ _ _ _ => trivial
  case single => exact fun _ => hc _ _
  case many => exact fun _ => Simulation.mapM _ fun plan _ => hc _ plan

theorem evaluate_recalls (hρ : ρ.Below ρ') {levels levels' : Nat} (hl : levels ≤ levels')
    {t₁ t₂ : Template} {object : Data} {f₁ f₂ : Option Filter}
    (task : Strategy.SameTask (fun _ => True) t₁ t₂ object f₁ f₂) :
    (Simulation.recalls ρ ρ').rel Eq ((origin.recalling S options).evaluate S levels t₁ object f₁)
      ((origin.recalling S options).evaluate S levels' t₂ object f₂) := by
  induction levels generalizing levels' t₁ t₂ object f₁ f₂ with
  | zero => exact fun doc hd => (by cases hd)
  | succ n ih =>
    obtain ⟨m, rfl⟩ : ∃ m, levels' = m + 1 := ⟨levels' - 1, by omega⟩
    have hs : Simulates (Simulation.recalls ρ ρ') S S (origin.recalling S options)
        (origin.recalling S options) ((origin.recalling S options).evaluate S n)
        ((origin.recalling S options).evaluate S m) (Strategy.SameTask fun _ => True)
        (fun _ _ => True) :=
      recalling_recalls hρ fun task => ih (by omega) task
    exact hs.level task

/-- What is recalled for a plan is recalled from every reading above, with more levels, and for a
template with the same directives. -/
theorem recalled_mono (hρ : ρ.Below ρ') {levels levels' : Nat} (hl : levels ≤ levels')
    {t t' : Template} (ht : t.directives = t'.directives) {plan plan' : Plan}
    (hp : plan.Same plan') {v : Value}
    (h : (origin.recalled S options levels t plan).run ρ = .ok v) :
    (origin.recalled S options levels' t' plan').run ρ' = .ok v := by
  obtain ⟨item, root, f⟩ := plan
  obtain ⟨item', root', f'⟩ := plan'
  obtain ⟨rfl, rfl, hf⟩ : item = item' ∧ root = root' ∧ Filter.Same f f' := hp
  obtain ⟨doc, hd, hv⟩ := bind_eq_ok.1 h
  obtain ⟨_, hd', rfl⟩ := evaluate_recalls hρ hl ⟨ht, hf, fun _ _ => trivial⟩ doc hd
  exact bind_eq_ok.2 ⟨doc, hd', hv⟩

end Store

/-! ## What is reached -/

/-- The parts to which results lead, whatever the guards on the way, where `load` gives the
templates that are extended. -/
inductive ReachedFrom (S : Setting) (load : String → Except BuildError Template)
    (start : Template → Plan → Prop) : Part → Prop
  | start {t : Template} {plan : Plan} : start t plan → ReachedFrom S load start (.result t plan)
  | plan {t : Template} {plan : Plan} :
    ReachedFrom S load start (.result t plan) →
    ReachedFrom S load start (.document t plan.item plan.filter)
  | child {t : Template} {object : Data} {f : Option Filter} {selector : Selector}
    {objectRoot : Option RootSetting} {guard : Guard} {body : Template} {plan : Plan} :
    ReachedFrom S load start (.document t object f) →
    Directive.child selector objectRoot guard body ∈ t.directives →
    plan ∈ childPlans S object f selector objectRoot → ReachedFrom S load start (.result body plan)
  | glue {t : Template} {object : Data} {f : Option Filter} {selector : Selector} {guard : Guard}
    {body : Template} {data : Data} :
    ReachedFrom S load start (.document t object f) →
    Directive.glue selector guard body ∈ t.directives →
    selector.resolve? object S.scope = some data →
    ReachedFrom S load start (.document body data f)
  | extend {t : Template} {object : Data} {f : Option Filter} {base : String}
    {target : Option Selector} {guard : Guard} {extra : Template} {data : Data} {b : Template} :
    ReachedFrom S load start (.document t object f) →
    Directive.extend base target guard extra ∈ t.directives →
    Strategy.extensionTarget S object target = some data → load base = .ok b →
    ReachedFrom S load start (.document (b.extendedWith S.digestOf extra) data f)

namespace ReachedFrom

/-- The same document is built on both sides. -/
def Task (S : Setting) (load : String → Except BuildError Template)
    (start : Template → Plan → Prop) (t₁ t₂ : Template) (object : Data) (f₁ f₂ : Option Filter) :
    Prop :=
  t₁ = t₂ ∧ f₁ = f₂ ∧ ReachedFrom S load start (.document t₁ object f₁)

/-- The results for which is asked. -/
def Asked (S : Setting) (load : String → Except BuildError Template)
    (start : Template → Plan → Prop) (t : Template) (plan : Plan) : Prop :=
  ReachedFrom S load start (.result t plan)

variable {m₁ m₂ : Type → Type} [Monad m₁] [Monad m₂] {R : Simulation m₁ m₂} {S : Setting}
  {load : String → Except BuildError Template} {start : Template → Plan → Prop}
  {s₁ : Strategy m₁} {s₂ : Strategy m₂} {e₁ : Template → Data → Option Filter → m₁ Document}
  {e₂ : Template → Data → Option Filter → m₂ Document}

theorem compute_rel
    (he : ∀ {t object f}, ReachedFrom S load start (.document t object f) →
      R.rel Eq (e₁ t object f) (e₂ t object f)) {t : Template} {plan : Plan}
    (h : Asked S load start t plan) :
    R.rel Eq (Strategy.compute e₁ t plan) (Strategy.compute e₂ t plan) :=
  R.bind_eq (he h.plan) fun _ => R.pure rfl

/-- Under settings that differ in how results are read, the same parts are reached; so it is enough
to relate what the strategies do there. -/
theorem simulates [LawfulMonad m₁] [LawfulMonad m₂] [MonadExceptOf BuildError m₁]
    [MonadExceptOf BuildError m₂] {bulk₁ bulk₂ : Bool}
    (hlift : ∀ {α : Type} (x : Except BuildError α), R.rel Eq (liftExcept x) (liftExcept x))
    (hload : ∀ name, R.rel (fun b₁ b₂ => b₁ = b₂ ∧ load name = .ok b₁) (s₁.load name)
      (s₂.load name))
    (he : ∀ {t object f}, ReachedFrom S load start (.document t object f) →
      R.rel Eq (e₁ t object f) (e₂ t object f))
    (hsingle : ∀ {t plan}, Asked S load start t plan →
      R.rel Eq (s₁.single t plan (Strategy.compute e₁ t))
        (s₂.single t plan (Strategy.compute e₂ t)))
    (hmany : ∀ {t plans}, (∀ plan ∈ plans, Asked S load start t plan) →
      R.rel Eq (s₁.many t plans (Strategy.compute e₁ t))
        (s₂.many t plans (Strategy.compute e₂ t))) :
    Simulates R (S.withBulkReads bulk₁) (S.withBulkReads bulk₂) s₁ s₂ e₁ e₂ (Task S load start)
      (Asked S load start) where
  alike := ⟨rfl, rfl, rfl, rfl⟩
  nodes := fun ns object f doc => hlift _
  attributes := fun object f a => hlift _
  directives := fun task => by rw [task.1]
  filters := fun task => by rw [task.2.1]; exact .refl _
  evaluate := by
    rintro t _ object f _ ⟨rfl, rfl, h⟩
    exact he h
  glue := by
    rintro t _ object f _ selector guard body data ⟨rfl, rfl, h⟩ hd hs
    exact ⟨rfl, rfl, h.glue hd hs⟩
  extend := by
    rintro t _ object f _ base target guard extra data ⟨rfl, rfl, h⟩ hd ht
    refine R.mono (hload base) ?_
    rintro b _ ⟨rfl, hb⟩
    exact ⟨rfl, rfl, h.extend hd ht hb⟩
  child := by
    rintro t _ object f _ selector objectRoot guard body ⟨rfl, rfl, h⟩ hd plan hp
    exact h.child hd hp
  single := hsingle
  many := hmany

end ReachedFrom

/-! ## One by one, the reading grows -/

namespace Store

/-- Plans asked for under the same key have the same results. -/
def KeysTell (S : Setting) (options : BuildOptions) (origin : Store MemoryCache)
    (Asked : Template → Plan → Prop) : Prop :=
  ∀ {t t' plan plan' key}, Asked t plan → Asked t' plan' →
    origin.key? S options t plan = some key → origin.key? S options t' plan' = some key →
    t.directives = t'.directives ∧ plan.Same plan'

/-- From one reading to the next, nothing is lost, and what is new under a key is what can be
recalled for every plan with this key. -/
structure Grows (S : Setting) (options : BuildOptions) (origin : Store MemoryCache)
    (Asked : Template → Plan → Prop) (levels : Nat) (ρ ρ' : Reading) : Prop where
  kept : ρ.Below ρ'
  new : ∀ {key v}, ρ key = none → ρ' key = some v → ∀ {t plan}, Asked t plan →
    origin.key? S options t plan = some key →
    (origin.recalled S options levels t plan).run ρ' = .ok v

section
variable {S : Setting} {options : BuildOptions} {origin : Store MemoryCache}
  {Asked : Template → Plan → Prop} {levels : Nat} {ρ ρ' ρ'' : Reading} {t : Template}
  {plan : Plan} {key : CacheKey} {v : Value}

theorem Grows.refl (ρ : Reading) : origin.Grows S options Asked levels ρ ρ where
  kept := .refl ρ
  new := fun hn hv => by
    rw [hn] at hv
    cases hv

theorem Grows.trans (h : origin.Grows S options Asked levels ρ ρ')
    (h' : origin.Grows S options Asked levels ρ' ρ'') :
    origin.Grows S options Asked levels ρ ρ'' where
  kept := h.kept.trans h'.kept
  new := by
    intro key v hn hv t plan ha hk
    cases hmid : ρ' key with
    | none => exact h'.new hmid hv ha hk
    | some w =>
      have hw := h.new hn hmid ha hk
      obtain rfl : w = v := Option.some.inj ((h'.kept hmid).symm.trans hv)
      exact recalled_mono h'.kept le_rfl rfl ⟨rfl, rfl, .refl _⟩ hw

theorem Grows.succ (h : origin.Grows S options Asked levels ρ ρ') :
    origin.Grows S options Asked (levels + 1) ρ ρ' where
  kept := h.kept
  new := fun hn hv _ _ ha hk =>
    recalled_mono (.refl _) (Nat.le_succ _) rfl ⟨rfl, rfl, .refl _⟩ (h.new hn hv ha hk)

/-- What was computed under a key can be stored there, also where a nested build has stored a
result under the same key in the meantime. -/
theorem Grows.keep (hlive : options.Lasting)
    (htell : origin.KeysTell S options Asked) (h : origin.Grows S options Asked levels ρ ρ')
    (ha : Asked t plan) (hk : origin.key? S options t plan = some key) (hn : ρ key = none)
    (hv : (origin.recalled S options levels t plan).run ρ' = .ok v) :
    origin.Grows S options Asked levels ρ (ρ'.keep key v options.expiresIn) := by
  have hkept : ρ'.Below (ρ'.keep key v options.expiresIn) := by
    intro other w hw
    by_cases ho : other = key
    · subst ho
      have hw' := h.new hn hw ha hk
      obtain rfl : w = v := Except.ok.inj (hw'.symm.trans hv)
      exact Reading.keep_self hlive
    · rwa [Reading.keep_of_ne ho]
  refine ⟨h.kept.trans hkept, fun {other w} hno hw t' plan' ha' hk' => ?_⟩
  by_cases ho : other = key
  · subst ho
    rw [Reading.keep_self hlive] at hw
    obtain rfl := Option.some.inj hw
    obtain ⟨ht, hp⟩ := htell ha ha' hk hk'
    exact recalled_mono hkept le_rfl ht hp hv
  · rw [Reading.keep_of_ne ho] at hw
    exact recalled_mono hkept le_rfl rfl ⟨rfl, rfl, .refl _⟩ (h.new hno hw ha' hk')

end

end Store

/-- A run makes the reading grow, and its result can be recalled from every reading above the one
it leaves. -/
def Simulation.grows (S : Setting) (options : BuildOptions) (origin : Store MemoryCache)
    (Asked : Template → Plan → Prop) (levels : Nat) :
    Simulation (StoreBuild MemoryCache) Recalled where
  rel P x y := ∀ store : Store MemoryCache, store.Follows S origin →
    ∃ r rest, x.runOn store = (r, rest) ∧ rest.Follows S origin ∧
      origin.Grows S options Asked levels store.reading rest.reading ∧
      ∀ a, r = .ok a → ∀ ρ, rest.reading.Below ρ → ∃ b, y.run ρ = .ok b ∧ P a b
  pure := by
    intro α β P a b h store hs
    refine ⟨.ok a, store, rfl, hs, .refl _, ?_⟩
    rintro _ ⟨⟩ ρ _
    exact ⟨b, rfl, h⟩
  bind := by
    intro α β γ δ P Q x y f g hx hf store hs
    obtain ⟨r, mid, hr, hmid, hgrows, hrecall⟩ := hx store hs
    rw [StoreBuild.runOn_bind, hr]
    cases r with
    | error e => exact ⟨.error e, mid, rfl, hmid, hgrows, fun _ h => by cases h⟩
    | ok a =>
      obtain ⟨b, -, hab⟩ := hrecall a rfl _ (.refl _)
      obtain ⟨r', rest, hr', hrest, hgrows', -⟩ := hf a b hab mid hmid
      refine ⟨r', rest, hr', hrest, hgrows.trans hgrows', fun c hc ρ hρ => ?_⟩
      obtain ⟨b', hb', hab'⟩ := hrecall a rfl ρ (hgrows'.kept.trans hρ)
      obtain ⟨r'', rest', hr'', -, -, hrecall'⟩ := hf a b' hab' mid hmid
      obtain ⟨rfl, rfl⟩ := Prod.mk.inj (hr'.symm.trans hr'')
      obtain ⟨d, hd, hcd⟩ := hrecall' c hc ρ hρ
      exact ⟨d, bind_eq_ok.2 ⟨b', hb', hd⟩, hcd⟩

namespace StoreBuild

variable {S : Setting} {options : BuildOptions} {origin : Store MemoryCache}
  {Asked : Template → Plan → Prop} {levels : Nat} {t : Template} {plan : Plan}

/-- Taking a result by the reading of the moment makes the reading grow. -/
theorem grows_takeBy (hlive : options.Lasting)
    (htell : origin.KeysTell S options Asked) (ha : Asked t plan)
    {x : StoreBuild MemoryCache Value}
    (hx : (Simulation.grows S options origin Asked levels).rel Eq x
      (origin.recalled S options levels t plan)) {store : Store MemoryCache}
    (hs : store.Follows S origin) :
    ∃ r rest,
      runOn (takeBy store.reading options.expiresIn (origin.key? S options t plan) x) store =
        (r, rest) ∧ rest.Follows S origin ∧
      origin.Grows S options Asked levels store.reading rest.reading ∧
      ∀ a, r = .ok a → ∀ ρ, rest.reading.Below ρ → ∃ b,
        (Recalled.recall (origin.key? S options t plan)
          (origin.recalled S options levels t plan)).run ρ = .ok b ∧ a = b := by
  cases hk : origin.key? S options t plan with
  | none => exact hx store hs
  | some key =>
    cases hv : store.reading key with
    | some v =>
      simp only [takeBy, hv]
      refine ⟨.ok v, store, rfl, hs, .refl _, ?_⟩
      rintro _ ⟨⟩ ρ hρ
      exact ⟨v, Recalled.recall_eq_ok.2 (hρ hv), rfl⟩
    | none =>
      simp only [takeBy, hv]
      obtain ⟨r, mid, hr, hmid, hgrows, hgives⟩ := hx store hs
      cases r with
      | error e =>
        exact ⟨.error e, mid, runOn_keep_error hr key _, hmid, hgrows, fun _ h => by cases h⟩
      | ok v =>
        obtain ⟨_, hcomputed, rfl⟩ := hgives v rfl _ (.refl _)
        obtain ⟨rest, hrun, hrest, hreading⟩ := runOn_keep hr hmid key options.expiresIn
        have hkeep := hgrows.keep hlive htell ha hk hv hcomputed
        rw [← hreading] at hkeep
        refine ⟨.ok v, rest, hrun, hrest, hkeep, ?_⟩
        rintro _ ⟨⟩ ρ hρ
        refine ⟨v, Recalled.recall_eq_ok.2 (hρ ?_), rfl⟩
        rw [hreading, Reading.keep_self hlive]

theorem grows_single (hlive : options.Lasting)
    (htell : origin.KeysTell S options Asked) (ha : Asked t plan)
    {compute : Plan → StoreBuild MemoryCache Value}
    (hx : (Simulation.grows S options origin Asked levels).rel Eq (compute plan)
      (origin.recalled S options levels t plan)) :
    (Simulation.grows S options origin Asked levels).rel Eq
      (single (S.withBulkReads false) options t plan compute)
      (Recalled.recall (origin.key? S options t plan)
        (origin.recalled S options levels t plan)) := by
  intro store hs
  obtain ⟨mid, hmid, hreading, hrun⟩ := runOn_single hs false t plan compute
  rw [hrun, ← hreading]
  exact grows_takeBy hlive htell ha hx hmid

theorem grows_many (hlive : options.Lasting)
    (htell : origin.KeysTell S options Asked) {plans : List Plan}
    (ha : ∀ plan ∈ plans, Asked t plan) {compute : Plan → StoreBuild MemoryCache Value}
    (hx : ∀ plan ∈ plans, (Simulation.grows S options origin Asked levels).rel Eq (compute plan)
      (origin.recalled S options levels t plan)) :
    (Simulation.grows S options origin Asked levels).rel Eq
      (many (S.withBulkReads false) options t plans compute)
      ((origin.recalling S options).many t plans (origin.recalled S options levels t)) := by
  intro store hs
  have hm : (Simulation.grows S options origin Asked levels).rel Eq
      (plans.mapM fun plan => single (S.withBulkReads false) options t plan compute)
      (plans.mapM fun plan => Recalled.recall (origin.key? S options t plan)
        (origin.recalled S options levels t plan)) :=
    Simulation.mapM _ fun plan hp => grows_single hlive htell (ha plan hp) (hx plan hp)
  obtain ⟨mid, hmid, hreading, hrun⟩ := runOn_many_singly hs t plans compute
  rw [hrun, ← hreading]
  exact hm mid hmid

theorem grows_liftExcept {α : Type} (x : Except BuildError α) :
    (Simulation.grows S options origin Asked levels).rel Eq (liftExcept x) (liftExcept x) := by
  intro store hs
  refine ⟨x, store, runOn_liftExcept x store, hs, .refl _, ?_⟩
  rintro a rfl ρ _
  exact ⟨a, rfl, rfl⟩

theorem grows_load (name : String) :
    (Simulation.grows S options origin Asked levels).rel
      (fun b₁ b₂ => b₁ = b₂ ∧ origin.load S name = .ok b₁) (load (S.withBulkReads false) name)
      (liftExcept (origin.load S name)) := by
  intro store hs
  obtain ⟨rest, hr, hrest, hreading⟩ := runOn_load_of_follows hs false name
  refine ⟨_, rest, hr, hrest, ?_, fun b hb ρ _ => ⟨b, ?_, rfl, hb⟩⟩
  · rw [hreading]
    exact .refl _
  · rw [hb]
    rfl

end StoreBuild

namespace Store

variable {S : Setting} {options : BuildOptions} {origin : Store MemoryCache}
  {start : Template → Plan → Prop}

/-- Documents built one by one, by induction on the bound of nesting. -/
theorem evaluate_grows (hlive : options.Lasting)
    (htell : origin.KeysTell S options (ReachedFrom.Asked S (origin.load S) start)) (levels : Nat)
    {t : Template} {object : Data} {f : Option Filter}
    (h : ReachedFrom S (origin.load S) start (.document t object f)) :
    (Simulation.grows S options origin (ReachedFrom.Asked S (origin.load S) start) levels).rel Eq
      ((Strategy.stored (S.withBulkReads false) options).evaluate (S.withBulkReads false) levels t
        object f)
      ((origin.recalling S options).evaluate S levels t object f) := by
  induction levels generalizing t object f with
  | zero => exact fun store hs => ⟨_, store, rfl, hs, .refl _, fun _ ha => by cases ha⟩
  | succ levels ih =>
    have hsim : Simulates (Simulation.grows S options origin
        (ReachedFrom.Asked S (origin.load S) start) levels) (S.withBulkReads false) S
        (Strategy.stored (S.withBulkReads false) options) (origin.recalling S options)
        ((Strategy.stored (S.withBulkReads false) options).evaluate (S.withBulkReads false) levels)
        ((origin.recalling S options).evaluate S levels) (ReachedFrom.Task S (origin.load S) start)
        (ReachedFrom.Asked S (origin.load S) start) :=
      ReachedFrom.simulates StoreBuild.grows_liftExcept StoreBuild.grows_load ih
        (fun ha => StoreBuild.grows_single hlive htell ha (ReachedFrom.compute_rel ih ha))
        fun ha => StoreBuild.grows_many hlive htell ha
          fun plan hp => ReachedFrom.compute_rel ih (ha plan hp)
    intro store hs
    obtain ⟨r, rest, hr, hrest, hgrows, hgives⟩ := hsim.level ⟨rfl, rfl, h⟩ store hs
    exact ⟨r, rest, hr, hrest, hgrows.succ, hgives⟩

end Store

/-! ## Together, what can be recalled changes nothing -/

/-- Where a result can be recalled, a run gives it and leaves the reading as it is. -/
def Simulation.stands (S : Setting) (origin : Store MemoryCache) (ρ : Reading) :
    Simulation (StoreBuild MemoryCache) Recalled where
  rel P x y := ∀ store : Store MemoryCache, store.Follows S origin → store.reading = ρ →
    ∀ b, y.run ρ = .ok b → ∃ a rest, x.runOn store = (.ok a, rest) ∧ rest.Follows S origin ∧
      rest.reading = ρ ∧ P a b
  pure := by
    rintro α β P a b h store hs hρ _ ⟨⟩
    exact ⟨a, store, rfl, hs, hρ, h⟩
  bind := by
    intro α β γ δ P Q x y f g hx hf store hs hρ d hd
    obtain ⟨b, hb, hd⟩ := bind_eq_ok.1 hd
    obtain ⟨a, mid, hr, hmid, hreading, hab⟩ := hx store hs hρ b hb
    rw [StoreBuild.runOn_bind_ok hr]
    exact hf a b hab mid hmid hreading d hd

namespace StoreBuild

variable {S : Setting} {options : BuildOptions} {origin : Store MemoryCache} {ρ : Reading}
  {levels : Nat} {t : Template} {plan : Plan}

theorem stands_takeBy (key : Option CacheKey) {x : StoreBuild MemoryCache Value}
    {y : Recalled Value} (hx : (Simulation.stands S origin ρ).rel Eq x y) :
    (Simulation.stands S origin ρ).rel Eq (takeBy ρ options.expiresIn key x)
      (Recalled.recall key y) := by
  cases key with
  | none => exact hx
  | some key =>
    intro store hs hρ v hv
    rw [takeBy, Recalled.recall_eq_ok.1 hv]
    exact ⟨v, store, rfl, hs, hρ, rfl⟩

theorem stands_single {compute : Plan → StoreBuild MemoryCache Value} {y : Recalled Value}
    (hx : (Simulation.stands S origin ρ).rel Eq (compute plan) y) :
    (Simulation.stands S origin ρ).rel Eq
      (single (S.withBulkReads true) options t plan compute)
      (Recalled.recall (origin.key? S options t plan) y) := by
  intro store hs hρ
  obtain ⟨mid, hmid, hreading, hrun⟩ := runOn_single hs true t plan compute
  rw [hrun, hρ]
  exact stands_takeBy _ hx mid hmid (hreading.trans hρ)

theorem stands_many {plans : List Plan} {compute : Plan → StoreBuild MemoryCache Value}
    {y : Plan → Recalled Value}
    (hx : ∀ plan ∈ plans, (Simulation.stands S origin ρ).rel Eq (compute plan) (y plan)) :
    (Simulation.stands S origin ρ).rel Eq
      (many (S.withBulkReads true) options t plans compute)
      ((origin.recalling S options).many t plans y) := by
  intro store hs hρ
  have hm : (Simulation.stands S origin ρ).rel Eq
      (plans.mapM fun plan =>
        takeBy ρ options.expiresIn (origin.key? S options t plan) (compute plan))
      (plans.mapM fun plan => Recalled.recall (origin.key? S options t plan) (y plan)) :=
    Simulation.mapM _ fun plan hp => stands_takeBy _ (hx plan hp)
  obtain ⟨mid, hmid, hcache, hrun⟩ := runOn_many_together hs t plans compute
  rw [hrun, hρ]
  exact hm mid hmid ((Store.reading_of_afterReading hcache).trans hρ)

theorem stands_liftExcept {α : Type} (x : Except BuildError α) :
    (Simulation.stands S origin ρ).rel Eq (liftExcept x) (liftExcept x) := by
  intro store hs hρ a ha
  rw [runOn_liftExcept]
  cases x with
  | ok b => exact ⟨b, store, rfl, hs, hρ, Except.ok.inj ha⟩
  | error e => cases ha

theorem stands_load (name : String) :
    (Simulation.stands S origin ρ).rel
      (fun b₁ b₂ => b₁ = b₂ ∧ origin.load S name = .ok b₁) (load (S.withBulkReads true) name)
      (liftExcept (origin.load S name)) := by
  intro store hs hρ b hb
  obtain ⟨rest, hr, hrest, hreading⟩ := runOn_load_of_follows hs true name
  cases hload : origin.load S name with
  | error e =>
    rw [hload] at hb
    cases hb
  | ok b' =>
    rw [hload] at hb hr
    obtain rfl := Except.ok.inj hb
    exact ⟨b', rest, hr, hrest, hreading.trans hρ, rfl, rfl⟩

end StoreBuild

namespace Store

variable {S : Setting} {options : BuildOptions} {origin : Store MemoryCache}
  {start : Template → Plan → Prop}

theorem evaluate_stands (ρ : Reading) (levels : Nat) {t : Template} {object : Data}
    {f : Option Filter} (h : ReachedFrom S (origin.load S) start (.document t object f)) :
    (Simulation.stands S origin ρ).rel Eq
      ((Strategy.stored (S.withBulkReads true) options).evaluate (S.withBulkReads true) levels t
        object f)
      ((origin.recalling S options).evaluate S levels t object f) := by
  induction levels generalizing t object f with
  | zero => exact fun store hs hρ b hb => (by cases hb)
  | succ levels ih =>
    have hsim : Simulates (Simulation.stands S origin ρ) (S.withBulkReads true) S
        (Strategy.stored (S.withBulkReads true) options) (origin.recalling S options)
        ((Strategy.stored (S.withBulkReads true) options).evaluate (S.withBulkReads true) levels)
        ((origin.recalling S options).evaluate S levels) (ReachedFrom.Task S (origin.load S) start)
        (ReachedFrom.Asked S (origin.load S) start) :=
      ReachedFrom.simulates StoreBuild.stands_liftExcept StoreBuild.stands_load ih
        (fun ha => StoreBuild.stands_single (ReachedFrom.compute_rel ih ha))
        fun ha => StoreBuild.stands_many fun plan hp => ReachedFrom.compute_rel ih (ha plan hp)
    exact hsim.level ⟨rfl, rfl, h⟩

end Store

end DocumentTemplates
