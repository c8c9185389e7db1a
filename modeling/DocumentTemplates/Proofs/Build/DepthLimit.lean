import DocumentTemplates.Cache.Memory
import DocumentTemplates.Proofs.Build.Failures
import DocumentTemplates.Proofs.Build.Uncached
import Mathlib.Logic.Function.Iterate

/-!
# The depth limit

Templates name the templates they extend, in cycles if they like, so nothing in a template says how
deep builds nest. The recursion ends all the same: a document at the limit is the last one for
which anything is built, whatever the strategy. Where no results are kept, the limit does nothing
but cut off: a build that does not end in the error of the limit has the same outcome and leaves
the same store under every higher limit.
-/

namespace DocumentTemplates

/-- The error of the depth limit. -/
inductive BuildError.IsCycle : BuildError → Prop
  | mk (name : String) (depth limit : Nat) : IsCycle (.templateCycle name depth limit)

def Setting.withMaxDepth (S : Setting) (limit : Nat) : Setting :=
  { S with config := { S.config with maxDepth := limit } }

/-- How the limit of a setting bears on a build that is made under every setting alike. -/
structure Setting.LimitOnlyCuts {σ α : Type} (S : Setting) (build : Setting → StoreBuild σ α)
    (store : Store σ) : Prop where
  /-- The error of the limit reports the depth right below the limit. -/
  depth : ∀ name depth limit,
    ((build S).runOn store).1 = .error (.templateCycle name depth limit) →
      limit = S.config.maxDepth ∧ depth = S.config.maxDepth + 1
  /-- Any other outcome, and the store that is left, stay the same under a higher limit. -/
  same : (∀ e, ((build S).runOn store).1 = .error e → ¬ e.IsCycle) →
    ∀ limit, S.config.maxDepth ≤ limit →
      (build (S.withMaxDepth limit)).runOn store = (build S).runOn store

/-! ## The recursion ends -/

namespace Strategy

variable {m : Type → Type} [Monad m] [MonadExceptOf BuildError m]

/-- One call of the recursion by which documents are built: what is nested in a document is built
by `nested`, one deeper. -/
def descend (s : Strategy m) (S : Setting)
    (nested : Nat → Template → Data → Option Filter → m Document) (depth : Nat) (t : Template)
    (object : Data) (f : Option Filter) : m Document :=
  if S.config.maxDepth < depth then
    throw (.templateCycle (t.name.getD "<inline>") depth S.config.maxDepth)
  else s.level S (nested (depth + 1)) t object f

/-- The calls that the limit leaves are enough: what would be nested deeper is never asked for. -/
theorem descend_iterate (s : Strategy m) (S : Setting)
    (nested : Nat → Template → Data → Option Filter → m Document) {n depth : Nat}
    (hd : depth ≤ S.config.maxDepth + 1) (hn : S.config.maxDepth + 2 ≤ n + depth) :
    (s.descend S)^[n] nested depth = s.evaluate S (S.config.maxDepth + 1 - depth) := by
  induction n generalizing depth with
  | zero => omega
  | succ n ih =>
    rw [Function.iterate_succ_apply']
    funext t object f
    rw [descend]
    split
    · rename_i hlimit
      obtain rfl : depth = S.config.maxDepth + 1 := by omega
      rw [Nat.sub_self]
      rfl
    · rename_i hlimit
      have hnext : depth + 1 ≤ S.config.maxDepth + 1 := by omega
      rw [ih hnext (by omega), Nat.add_sub_add_right, Nat.sub_add_comm (by omega)]
      rfl

/-- Documents at the top are what the recursion gives, however it would go on below the limit. -/
theorem descend_iterate_zero (s : Strategy m) (S : Setting)
    (nested : Nat → Template → Data → Option Filter → m Document) {n : Nat}
    (hn : S.config.maxDepth + 2 ≤ n) : (s.descend S)^[n] nested 0 = s.document S :=
  s.descend_iterate S nested (Nat.zero_le _) hn

end Strategy

/-! ## Only the recursion meets the limit -/

/-- A computation that does not meet the depth limit. -/
def OffLimit {α : Type} (x : Except BuildError α) : Prop :=
  ∀ e, x = .error e → ¬ e.IsCycle

theorem FailsOnly.offLimit {α : Type} {P : BuildError → Prop} {x : Except BuildError α}
    (h : FailsOnly P x) (hp : ∀ e, P e → ¬ e.IsCycle) : OffLimit x :=
  h.mono hp

theorem Attribute.contribution_offLimit (S : Setting) (object : Data) (f : Option Filter)
    (a : Attribute) : OffLimit (a.contribution S object f) := by
  refine (a.contribution_failsOnly S object f).offLimit ?_
  rintro _ ⟨-, rfl⟩ ⟨⟩

theorem Node.foldlM_addTo_offLimit (S : Setting) (object : Data) (f : Option Filter)
    (ns : List Node) (doc : Document) : OffLimit (ns.foldlM (Node.addTo S object f) doc) := by
  refine (foldlM_addTo_failsOnly S object f ns doc).offLimit ?_
  rintro _ ⟨name, rfl⟩ ⟨⟩

theorem BuildError.OfTemplate.not_isCycle {e : BuildError} (h : e.OfTemplate) : ¬ e.IsCycle := by
  rintro ⟨⟩
  generalize he : BuildError.templateCycle _ _ _ = e at h
  cases h with
  | fault name fault => cases fault <;> cases he
  | _ => cases he

theorem Store.load_offLimit {σ : Type} (S : Setting) (store : Store σ) (name : String) :
    OffLimit (store.load S name) :=
  (store.load_failsOnly S name).offLimit fun _ => BuildError.OfTemplate.not_isCycle

/-! ## Two limits side by side -/

/-- A run under a limit beside one under a higher limit: the first is cut off, or both give related
results or the same error and leave the same store. -/
inductive Cut {σ α β : Type} (limit : Nat) (P : α → β → Prop) :
    Except BuildError α × Store σ → Except BuildError β × Store σ → Prop
  | ok {a : α} {b : β} (rest : Store σ) : P a b → Cut limit P (.ok a, rest) (.ok b, rest)
  | error {e : BuildError} (rest : Store σ) : ¬ e.IsCycle →
    Cut limit P (.error e, rest) (.error e, rest)
  | cut (name : String) (rest : Store σ) (other : Except BuildError β × Store σ) :
    Cut limit P (.error (.templateCycle name (limit + 1) limit), rest) other

theorem Cut.of_offLimit {σ α : Type} {limit : Nat} {P : α → α → Prop} {r : Except BuildError α}
    (h : OffLimit r) (hp : ∀ a, P a a) (rest : Store σ) :
    Cut limit P (r, rest) (r, rest) := by
  cases r with
  | ok a => exact .ok rest (hp a)
  | error e => exact .error rest (h e rfl)

/-- The first of two runs on a store that keeps no results is at most cut off. -/
def Simulation.cuts (σ : Type) (S : Setting) : Simulation (StoreBuild σ) (StoreBuild σ) where
  rel P x y := ∀ store : Store σ, store.Uncached S →
    Cut S.config.maxDepth P (x.runOn store) (y.runOn store) ∧
      (x.runOn store).2.cache = store.cache
  pure := fun h store _ => ⟨.ok store h, rfl⟩
  bind := by
    intro α β γ δ P Q x y f g hx hf store hu
    obtain ⟨hcut, hcache⟩ := hx store hu
    rw [StoreBuild.runOn_bind, StoreBuild.runOn_bind]
    generalize x.runOn store = r₁ at hcut hcache
    generalize y.runOn store = r₂ at hcut
    cases hcut with
    | ok rest hab =>
      obtain ⟨hcut', hcache'⟩ := hf _ _ hab rest (hu.of_cache_eq hcache)
      exact ⟨hcut', hcache'.trans hcache⟩
    | error rest he => exact ⟨.error rest he, hcache⟩
    | cut name rest other => exact ⟨.cut name rest _, hcache⟩

namespace Strategy

variable {σ : Type} [ResultCache σ] {S : Setting}

theorem stored_cuts (options : BuildOptions) (limit : Nat)
    {e₁ e₂ : Template → Data → Option Filter → StoreBuild σ Document}
    (he : ∀ t object f, (Simulation.cuts σ S).rel Eq (e₁ t object f) (e₂ t object f)) :
    Simulates (Simulation.cuts σ S) S (S.withMaxDepth limit) (stored S options)
      (stored (S.withMaxDepth limit) options) e₁ e₂ SameBuild (fun _ _ => True) := by
  have hl : ∀ {α : Type} {x : Except BuildError α}, OffLimit x →
      (Simulation.cuts σ S).rel Eq (liftExcept x) (liftExcept x) := by
    intro α x hx store _
    rw [StoreBuild.runOn_liftExcept]
    exact ⟨.of_offLimit hx (fun _ => rfl) store, rfl⟩
  refine .of_same ⟨rfl, rfl, rfl, rfl⟩ rfl
    (fun ns object f doc => hl (Node.foldlM_addTo_offLimit _ object f ns doc))
    (fun object f a => hl (a.contribution_offLimit S object f)) ?_ he ?_ ?_
  · intro base store _
    obtain ⟨rest, hr, _, hcache⟩ := store.runOn_load S base
    change Cut _ _ ((StoreBuild.load S base).runOn store) ((StoreBuild.load S base).runOn store) ∧
      ((StoreBuild.load S base).runOn store).2.cache = _
    rw [hr]
    exact ⟨.of_offLimit (store.load_offLimit S base) (fun _ => rfl) rest, hcache⟩
  · intro t plan store hu
    have hu' : store.Uncached (S.withMaxDepth limit) := hu
    change Cut _ _ ((StoreBuild.single S options t plan _).runOn store)
      ((StoreBuild.single (S.withMaxDepth limit) options t plan _).runOn store) ∧
      ((StoreBuild.single S options t plan _).runOn store).2.cache = _
    rw [StoreBuild.runOn_single_of_uncached hu, StoreBuild.runOn_single_of_uncached hu']
    exact Simulation.compute _ he t plan store hu
  · intro t plans store hu
    have hu' : store.Uncached (S.withMaxDepth limit) := hu
    have hm : (Simulation.cuts σ S).rel Eq (plans.mapM (compute e₁ t))
        (plans.mapM (compute e₂ t)) := Simulation.mapM _ fun plan _ => Simulation.compute _ he t plan
    change Cut _ _ ((StoreBuild.many S options t plans _).runOn store)
      ((StoreBuild.many (S.withMaxDepth limit) options t plans _).runOn store) ∧
      ((StoreBuild.many S options t plans _).runOn store).2.cache = _
    rw [StoreBuild.runOn_many_of_uncached hu, StoreBuild.runOn_many_of_uncached hu']
    exact hm store hu

/-- With as many levels or more, an evaluation is at most cut off no more. -/
theorem evaluate_cuts (options : BuildOptions) (limit : Nat) {levels₁ levels₂ : Nat}
    (hl : levels₁ ≤ levels₂) (t : Template) (object : Data) (f : Option Filter) :
    (Simulation.cuts σ S).rel Eq ((stored S options).evaluate S levels₁ t object f)
      ((stored (S.withMaxDepth limit) options).evaluate (S.withMaxDepth limit) levels₂ t object
        f) := by
  induction levels₁ generalizing levels₂ t object f with
  | zero => exact fun store _ => ⟨.cut _ store _, rfl⟩
  | succ n ih =>
    obtain ⟨m, rfl⟩ : ∃ m, levels₂ = m + 1 := ⟨levels₂ - 1, by omega⟩
    exact (stored_cuts options limit fun t object f => ih (by omega) t object f).level ⟨rfl, rfl⟩

theorem document_cuts (options : BuildOptions) {limit : Nat} (hl : S.config.maxDepth ≤ limit) :
    Simulates (Simulation.cuts σ S) S (S.withMaxDepth limit) (stored S options)
      (stored (S.withMaxDepth limit) options) ((stored S options).document S)
      ((stored (S.withMaxDepth limit) options).document (S.withMaxDepth limit)) SameBuild
      (fun _ _ => True) :=
  stored_cuts options limit (evaluate_cuts options limit (Nat.succ_le_succ hl))

end Strategy

theorem Setting.limitOnlyCuts_of_cut {σ α : Type} {S : Setting} {build : Setting → StoreBuild σ α}
    {store : Store σ}
    (h : ∀ limit, S.config.maxDepth ≤ limit → Cut S.config.maxDepth Eq ((build S).runOn store)
      ((build (S.withMaxDepth limit)).runOn store)) : S.LimitOnlyCuts build store := by
  constructor
  · intro name depth limit hcycle
    have hcut := h _ (Nat.le_refl _)
    generalize (build S).runOn store = r at hcut hcycle
    generalize (build (S.withMaxDepth S.config.maxDepth)).runOn store = r' at hcut
    cases hcut with
    | ok rest hab => cases hcycle
    | error rest he =>
      cases hcycle
      exact absurd (.mk name depth limit) he
    | cut name rest other =>
      cases hcycle
      exact ⟨rfl, rfl⟩
  · intro hoff limit hl
    have hcut := h limit hl
    generalize (build S).runOn store = r at hcut hoff
    generalize (build (S.withMaxDepth limit)).runOn store = r' at hcut
    cases hcut with
    | ok rest hab => rw [hab]
    | error rest he => rfl
    | cut name rest other => exact absurd (.mk name _ _) (hoff _ rfl)

/-- Builds end, on every source, registry and template, and where no results are kept the depth
limit only cuts them off. -/
theorem StoreBuild.depth_limit {σ : Type} [ResultCache σ] (S : Setting) (options : BuildOptions)
    (t : Template) {store : Store σ} (hu : store.Uncached S) :
    (∀ nested n, S.config.maxDepth + 2 ≤ n →
      ((Strategy.stored S options).descend S)^[n] nested 0 =
        (Strategy.stored (σ := σ) S options).document S) ∧
    (∀ data, S.LimitOnlyCuts
      (fun S => (Strategy.stored S options).build S options t data) store) ∧
    ∀ objects, S.LimitOnlyCuts
      (fun S => (Strategy.stored S options).buildAll S options t objects) store := by
  refine ⟨fun nested n hn => Strategy.descend_iterate_zero _ S nested hn, fun data => ?_,
    fun objects => ?_⟩
  · refine Setting.limitOnlyCuts_of_cut fun limit hl => ?_
    exact ((Strategy.document_cuts options hl).build rfl (fun _ _ => trivial) store hu).1
  · refine Setting.limitOnlyCuts_of_cut fun limit hl => ?_
    exact ((Strategy.document_cuts options hl).items (fun _ _ => trivial) store hu).1

/-- Two templates that extend each other, along a chain of three records: the limit cuts the build
off below the second record, and is without effect from the third on. -/
theorem StoreBuild.depth_limit_cyclic :
    let nothing := Template.mk none [] "none"
    let person := Template.mk (some "person") [.attribute { name := "name" },
      .extend "pet" (some (.member "pet")) {} nothing] "person"
    let pet := Template.mk (some "pet") [.attribute { name := "kind" },
      .extend "person" (some (.member "owner")) {} nothing] "pet"
    let store : Store MemoryCache := { registry := some [("person", person), ("pet", pet)] }
    let owner := Data.record none none [("name", .string "ida")]
    let cat := Data.record none none [("kind", .string "cat"), ("owner", owner)]
    let leo := Data.record none none [("name", .string "leo"), ("pet", cat)]
    let S : Setting := ⟨{ maxDepth := 1 }, .empty, .nowhere, id⟩
    let build (S : Setting) : StoreBuild MemoryCache Value :=
      (Strategy.stored S {}).build S {} person leo
    let result := Value.document [("name", .string "ida"), ("kind", .string "cat")]
    store.Uncached S ∧ S.LimitOnlyCuts build store ∧
      (build S).runOn store = (.error (.templateCycle "person" 2 1), store) ∧
      ∀ limit, 2 ≤ limit →
        (build (S.withMaxDepth limit)).runOn store = (.ok result, store) := by
  intro nothing person pet store owner cat leo S build result
  have hu : store.Uncached S := Or.inl rfl
  have hcuts := (StoreBuild.depth_limit S {} person hu).2.1 leo
  have hu₂ : store.Uncached (S.withMaxDepth 2) := Or.inl rfl
  have hcuts₂ := (StoreBuild.depth_limit (S.withMaxDepth 2) {} person hu₂).2.1 leo
  have hbuilt : (build (S.withMaxDepth 2)).runOn store = (.ok result, store) := by rfl
  refine ⟨hu, hcuts, by rfl, fun limit hl => ?_⟩
  have hkept := hcuts₂.same (fun e he => ?_) limit hl
  · exact hkept.trans hbuilt
  · change ((build (S.withMaxDepth 2)).runOn store).1 = .error e at he
    rw [hbuilt] at he
    cases he

end DocumentTemplates
