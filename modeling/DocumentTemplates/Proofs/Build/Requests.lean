import DocumentTemplates.Cache.Memory
import DocumentTemplates.Proofs.Build.Memoisation

/-!
# Requests that share a registry

Renderers with the same source share a registry that starts empty. Whatever is asked of them, in
whatever order and with whatever caches, every outcome is the one that it would be without the
registry: the registry is seen neither in a result nor in an error. A load that fails leaves no
trace in it, and a template once loaded stays.
-/

namespace DocumentTemplates

/-- What is asked of a renderer, or happens to the cache between two requests. -/
inductive Request (σ : Type) where
  /-- Another cache takes the place of the one that is attached, or none does. -/
  | attach (cache : Option σ)
  | template (name : String)
  | build (scope : Scope) (options : BuildOptions) (t : Template) (data : Data)
  | buildEach (scope : Scope) (options : BuildOptions) (t : Template) (objects : List Data)
  | buildNamed (scope : Scope) (options : BuildOptions) (name : String) (data : Data)
  | buildAll (scope : Scope) (options : BuildOptions) (name : String) (objects : List Data)
  | render (scope : Scope) (options : BuildOptions) (codec : Codec) (rootElement : Option String)
      (name : String) (data : Data)

inductive Answer where
  | done
  | template (t : Template)
  | value (v : Value)
  | values (vs : List Value)
  | text (s : String)

theorem Store.Faithful.congr {σ : Type} {S S' : Setting} {store : Store σ}
    (hs : store.Faithful S) (h : S.load = S'.load) : store.Faithful S' := by
  intro registry hr name t ht
  rw [← h]
  exact hs registry hr name t ht

namespace Renderer

variable {σ : Type}

/-- What the source of a renderer gives for a name. -/
def load (r : Renderer) (name : String) : Except BuildError Template :=
  (r.setting .empty).load name

/-- What a renderer does gives the same without the registry. -/
def Unregistered (r : Renderer) {α : Type} (x : StoreBuild σ α) : Prop :=
  (Simulation.unregistered σ (r.setting .empty)).rel Eq x x

namespace Unregistered

variable {r : Renderer} {α β : Type}

theorem pure (a : α) : r.Unregistered (pure a : StoreBuild σ α) :=
  Simulation.pure _ rfl

theorem bind {x : StoreBuild σ α} {f : α → StoreBuild σ β} (hx : r.Unregistered x)
    (hf : ∀ a, r.Unregistered (f a)) : r.Unregistered (x >>= f) :=
  Simulation.bind_eq _ hx hf

theorem template (r : Renderer) (name : String) : r.Unregistered (r.template (σ := σ) name) :=
  StoreBuild.unregistered_load name

variable [ResultCache σ] (r) (scope : Scope) (options : BuildOptions)

theorem build (t : Template) (data : Data) :
    r.Unregistered (r.build (σ := σ) scope options t data) :=
  Strategy.stored_build_unregistered (S := r.setting scope) options t data

theorem buildEach (t : Template) (objects : List Data) :
    r.Unregistered (σ := σ)
      ((Strategy.stored (r.setting scope) options).buildAll (r.setting scope) options t objects) :=
  Strategy.stored_buildAll_unregistered (S := r.setting scope) options t objects

theorem buildNamed (name : String) (data : Data) :
    r.Unregistered (r.buildNamed (σ := σ) scope options name data) :=
  (template r name).bind fun t => build r scope options t data

theorem buildAll (name : String) (objects : List Data) :
    r.Unregistered (r.buildAll (σ := σ) scope options name objects) :=
  (template r name).bind fun t => buildEach r scope options t objects

theorem render (codec : Codec) (rootElement : Option String) (name : String) (data : Data) :
    r.Unregistered (r.render (σ := σ) scope options codec rootElement name data) :=
  (buildNamed r scope _ name data).bind fun _ => pure _

end Unregistered

variable [ResultCache σ]

def answer (r : Renderer) : Request σ → StoreBuild σ Answer
  | .attach cache => do
    modify fun store => { store with cache }
    return .done
  | .template name => return .template (← r.template name)
  | .build scope options t data => return .value (← r.build scope options t data)
  | .buildEach scope options t objects => do
    let S := r.setting scope
    return .values (← (Strategy.stored S options).buildAll S options t objects)
  | .buildNamed scope options name data => return .value (← r.buildNamed scope options name data)
  | .buildAll scope options name objects =>
    return .values (← r.buildAll scope options name objects)
  | .render scope options codec rootElement name data =>
    return .text (← r.render scope options codec rootElement name data)

/-- Whatever a renderer is asked, the answer is the same without the registry. -/
theorem answer_unregistered (r : Renderer) (request : Request σ) :
    r.Unregistered (r.answer request) := by
  cases request with
  | attach cache =>
    intro store hs
    exact ⟨.ok .done, .ok .done, { store with cache }, rfl, rfl, .ok rfl, hs, .refl _⟩
  | template name => exact (Unregistered.template r name).bind fun _ => .pure _
  | build scope options t data =>
    exact (Unregistered.build r scope options t data).bind fun _ => .pure _
  | buildEach scope options t objects =>
    exact (Unregistered.buildEach r scope options t objects).bind fun _ => .pure _
  | buildNamed scope options name data =>
    exact (Unregistered.buildNamed r scope options name data).bind fun _ => .pure _
  | buildAll scope options name objects =>
    exact (Unregistered.buildAll r scope options name objects).bind fun _ => .pure _
  | render scope options codec rootElement name data =>
    exact (Unregistered.render r scope options codec rootElement name data).bind fun _ => .pure _

end Renderer

namespace Request

variable {σ : Type} [ResultCache σ]

/-- The outcomes of requests made one after the other, and the store that is left. -/
def run : List (Renderer × Request σ) → Store σ → List (Except BuildError Answer) × Store σ
  | [], store => ([], store)
  | (r, request) :: rest, store =>
    let (outcome, left) := (r.answer request).runOn store
    let (outcomes, last) := run rest left
    (outcome :: outcomes, last)

variable {origin : Renderer} {requests : List (Renderer × Request σ)}

/-- Requests of renderers with the source of `origin`, on a store that holds only what it gives. -/
theorem run_unregistered (hsource : ∀ request ∈ requests, request.1.load = origin.load)
    {store : Store σ} (hs : store.Faithful (origin.setting .empty)) :
    (run requests store).1 = (run requests store.withoutRegistry).1 ∧
      (run requests store).2.withoutRegistry = (run requests store.withoutRegistry).2 ∧
      (run requests store).2.Faithful (origin.setting .empty) ∧
      Registry.Grown store.registry (run requests store).2.registry := by
  induction requests generalizing store with
  | nil => exact ⟨rfl, rfl, hs, .refl _⟩
  | cons first rest ih =>
    obtain ⟨r, request⟩ := first
    obtain ⟨hr, hrest⟩ := List.forall_mem_cons.1 hsource
    have hs' : store.Faithful (r.setting .empty) := hs.congr hr.symm
    obtain ⟨outcome, bare, left, hout, hbare, ho, hleft, hg⟩ :=
      r.answer_unregistered request store hs'
    obtain ⟨houts, hlast, hfaithful, hg'⟩ := ih hrest (hleft.congr hr)
    simp only [run, hout, hbare, ho.eq]
    exact ⟨by rw [houts], hlast, hfaithful, hg.trans hg'⟩

/-- No request can tell whether there is a registry. -/
theorem registry_invisible (hsource : ∀ request ∈ requests, request.1.load = origin.load)
    (cache : Option σ) :
    let fresh : Store σ := { registry := some [], cache }
    let bare : Store σ := { cache }
    let last := (run requests fresh).2
    (run requests fresh).1 = (run requests bare).1 ∧
    last.withoutRegistry = (run requests bare).2 ∧
    (∀ (r : Renderer) name e rest, (r.template name).runOn last = (.error e, rest) →
      rest = last) ∧
    ∀ (r : Renderer) name t rest, r.load = origin.load →
      (r.template name).runOn last = (.ok t, rest) →
      ∀ more : List (Renderer × Request σ), (∀ request ∈ more, request.1.load = origin.load) →
      ∀ other : Renderer, (other.template name).runOn (run more rest).2 =
        (.ok t, (run more rest).2) := by
  intro fresh bare last
  have hfresh : fresh.Faithful (origin.setting .empty) := Store.faithful_of_isFresh (.inr rfl)
  obtain ⟨houts, hlast, hfaithful, hg⟩ := run_unregistered hsource hfresh
  refine ⟨houts, hlast, fun r name e rest h => StoreBuild.runOn_load_error h, ?_⟩
  intro r name t rest hr h more hmore other
  obtain ⟨grown, hgrown, _⟩ := hg.get?
  obtain ⟨registry, hregistry, ht⟩ := StoreBuild.runOn_load_ok h (by simp [last, hgrown])
  obtain ⟨rest', h', hrest, _⟩ :=
    StoreBuild.runOn_load (S := r.setting .empty) (hfaithful.congr hr.symm) name
  obtain rfl : rest' = rest := congrArg Prod.snd (h'.symm.trans h)
  obtain ⟨_, _, _, hmoreGrown⟩ := run_unregistered hmore (hrest.congr hr)
  rw [hregistry] at hmoreGrown
  obtain ⟨later, hlater, hkept⟩ := hmoreGrown.get?
  exact StoreBuild.runOn_load_registered hlater (hkept name t ht)

/-- A renderer that caches and one that does not share a registry. The user template extends one
that extends itself, a name is missing, and one template text is at fault. -/
theorem registry_invisible_users :
    let texts : OrderedMap String :=
      [("user", "- attribute: name\n- extends: base\n  unless: true"),
        ("base", "- extends: base\n  if: false"), ("faulty", "- {}")]
    let cached : Renderer := ⟨{ caching := true }, .memory texts, id⟩
    let plain : Renderer := ⟨{}, .memory texts, id⟩
    let ada : Data := .record none (some "ada") [("name", .string "Ada")]
    let requests : List (Renderer × Request MemoryCache) :=
      [(plain, .template "faulty"), (cached, .attach (some {})),
        (cached, .buildNamed .empty {} "user" ada), (plain, .template "gone"),
        (plain, .buildNamed .empty {} "user" ada), (cached, .buildNamed .empty {} "user" ada)]
    let fresh : Store MemoryCache := { registry := some [] }
    (∀ request ∈ requests, request.1.load = plain.load) ∧
      (run requests fresh).2.registry.map OrderedMap.keys = some ["user", "base"] ∧
      (run requests fresh).1 = (run requests {}).1 := by
  intro texts cached plain ada requests fresh
  have hsource : ∀ request ∈ requests, request.1.load = plain.load := by
    intro request hrequest
    simp only [requests, List.mem_cons, List.not_mem_nil, or_false] at hrequest
    rcases hrequest with rfl | rfl | rfl | rfl | rfl | rfl <;> rfl
  have hkeys : (run requests fresh).2.registry.map OrderedMap.keys = some ["user", "base"] := by
    decide +kernel
  exact ⟨hsource, hkeys, (registry_invisible hsource none).1⟩

end Request

end DocumentTemplates
