import DocumentTemplates.Cache.Memory
import DocumentTemplates.Proofs.Build.Contributions
import DocumentTemplates.Proofs.Build.Failures
import DocumentTemplates.Proofs.Build.Registered

/-!
# Strict and lenient builds

An absent attribute is an error of a strict build and is left out by a lenient one. Nothing else
tells the two apart, at any depth: a strict build that succeeds has the lenient result, and one that
fails does so for want of an attribute, or as the lenient one does.
-/

namespace DocumentTemplates

/-- The error of an absent attribute. -/
inductive BuildError.IsMissing : BuildError → Prop
  | mk (name : String) : IsMissing (.missingAttribute name)

def Setting.withStrictness (S : Setting) (strict : Bool) : Setting :=
  { S with config := { S.config with strictAttributes := strict } }

/-- How strictness bears on a build that is made under every setting alike. -/
structure Setting.StrictnessOnlyAdds {σ α : Type} (S : Setting) (build : Setting → StoreBuild σ α)
    (store : Store σ) : Prop where
  /-- A lenient build never fails for want of an attribute. -/
  present : ∀ e, ((build (S.withStrictness false)).runOn store).1 = .error e → ¬ e.IsMissing
  same : ∀ a, ((build (S.withStrictness true)).runOn store).1 = .ok a →
    ((build (S.withStrictness false)).runOn store).1 = .ok a
  /-- A strict build that fails where the lenient one succeeds fails for want of an attribute. Any
  other error is the lenient one's as well. -/
  missing : ∀ e, ((build (S.withStrictness true)).runOn store).1 = .error e →
    e.IsMissing ∨ ((build (S.withStrictness false)).runOn store).1 = .error e

/-! ## Strict and lenient computations side by side -/

/-- A strict computation beside a lenient one. What the lenient one gives is related to something,
so that also what follows on it can be told to go on without missing anything. -/
structure Tolerates {α β : Type} (P : α → β → Prop) (strict : Except BuildError α)
    (lenient : Except BuildError β) : Prop where
  ok : ∀ a, strict = .ok a → ∃ b, lenient = .ok b ∧ P a b
  error : ∀ e, strict = .error e → e.IsMissing ∨ lenient = .error e
  related : ∀ b, lenient = .ok b → ∃ a, P a b
  present : FailsOnly (fun e => ¬ e.IsMissing) lenient

/-- A computation that never misses an attribute is as good as itself. -/
theorem Tolerates.refl {α : Type} {x : Except BuildError α}
    (h : FailsOnly (fun e => ¬ e.IsMissing) x) : Tolerates Eq x x where
  ok a ha := ⟨a, ha, rfl⟩
  error _ he := Or.inr he
  related b _ := ⟨b, rfl⟩
  present := h

def Simulation.tolerates : Simulation (Except BuildError) (Except BuildError) where
  rel := Tolerates
  pure := by
    intro α β P a b h
    refine ⟨?_, fun e he => (nomatch he), ?_, .ok b⟩
    · rintro _ ⟨⟩
      exact ⟨b, rfl, h⟩
    · rintro _ ⟨⟩
      exact ⟨a, h⟩
  bind := by
    intro α β γ δ P Q x y f g hx hf
    constructor
    case ok =>
      intro c hc
      obtain ⟨a, ha, hc⟩ := bind_eq_ok.1 hc
      obtain ⟨b, rfl, hab⟩ := hx.ok a ha
      exact (hf a b hab).ok c hc
    case error =>
      intro e he
      cases x with
      | error e' =>
        obtain rfl : e' = e := Except.error.inj he
        exact (hx.error e' rfl).imp_right fun hy => by rw [hy]; rfl
      | ok a =>
        obtain ⟨b, rfl, hab⟩ := hx.ok a rfl
        exact (hf a b hab).error e he
    case related =>
      intro d hd
      obtain ⟨b, hb, hd⟩ := bind_eq_ok.1 hd
      obtain ⟨a, hab⟩ := hx.related b hb
      exact (hf a b hab).related d hd
    case present =>
      cases y with
      | error e => exact .error (hx.present e rfl)
      | ok b =>
        obtain ⟨a, hab⟩ := hx.related b rfl
        exact (hf a b hab).present

theorem BuildError.OfTemplate.not_isMissing {e : BuildError} (h : e.OfTemplate) :
    ¬ e.IsMissing := by
  rintro ⟨⟩
  generalize he : BuildError.missingAttribute _ = e at h
  cases h with
  | fault name fault => cases fault <;> cases he
  | _ => cases he

theorem Setting.withStrictness_below (S : Setting) :
    Setting.Below (fun _ => True) (S.withStrictness true) (S.withStrictness false) where
  alike := ⟨rfl, rfl, rfl, rfl⟩
  strict := fun _ => rfl
  load _ hload := ⟨_, hload, rfl, fun _ _ => trivial⟩

theorem Attribute.contribution_tolerates (S : Setting) (object : Data) (f : Option Filter)
    (a : Attribute) :
    Tolerates Eq (a.contribution (S.withStrictness true) object f)
      (a.contribution (S.withStrictness false) object f) where
  ok c hc := ⟨c, a.contribution_refines S.withStrictness_below object f hc, rfl⟩
  error e he := by
    obtain ⟨-, rfl⟩ := a.contribution_failsOnly _ object f e he
    exact Or.inl ⟨a.name⟩
  related c _ := ⟨c, rfl⟩
  present := by
    refine (a.contribution_failsOnly _ object f).mono ?_
    rintro e ⟨hstrict, -⟩
    cases hstrict

namespace Strategy

variable {S : Setting} {load : String → Except BuildError Template}

theorem loading_tolerates (hload : ∀ name, FailsOnly BuildError.OfTemplate (load name))
    {e₁ e₂ : Template → Data → Option Filter → Except BuildError Document}
    (he : ∀ t object f, Tolerates Eq (e₁ t object f) (e₂ t object f)) :
    Simulates Simulation.tolerates (S.withStrictness true) (S.withStrictness false) (loading load)
      (loading load) e₁ e₂ (fun t₁ t₂ _ f₁ f₂ => t₁ = t₂ ∧ f₁ = f₂) (fun _ _ => True) := by
  refine .of_same ⟨rfl, rfl, rfl, rfl⟩ rfl ?_ ?_ ?_ he (Simulation.compute _ he) ?_
  · intro ns object f doc
    rw [liftExcept_eq]
    refine .refl ((Node.foldlM_addTo_failsOnly _ object f ns doc).mono ?_)
    rintro _ ⟨name, rfl⟩ ⟨⟩
  · intro object f a
    rw [liftExcept_eq, liftExcept_eq]
    exact a.contribution_tolerates S object f
  · exact fun name => .refl ((hload name).mono fun e => BuildError.OfTemplate.not_isMissing)
  · exact fun t plans => Simulation.mapM _ fun plan _ => Simulation.compute _ he t plan

theorem evaluate_tolerates (hload : ∀ name, FailsOnly BuildError.OfTemplate (load name))
    (levels : Nat) (t : Template) (object : Data) (f : Option Filter) :
    Tolerates Eq ((loading load).evaluate (S.withStrictness true) levels t object f)
      ((loading load).evaluate (S.withStrictness false) levels t object f) := by
  induction levels generalizing t object f with
  | zero =>
    refine .refl (.error ?_)
    rintro ⟨⟩
  | succ levels ih => exact (loading_tolerates hload ih).level ⟨rfl, rfl⟩

theorem document_tolerates (hload : ∀ name, FailsOnly BuildError.OfTemplate (load name)) :
    Simulates Simulation.tolerates (S.withStrictness true) (S.withStrictness false) (loading load)
      (loading load) ((loading load).document (S.withStrictness true))
      ((loading load).document (S.withStrictness false)) (fun t₁ t₂ _ f₁ f₂ => t₁ = t₂ ∧ f₁ = f₂)
      (fun _ _ => True) :=
  loading_tolerates hload (evaluate_tolerates hload _)

end Strategy

theorem Setting.strictnessOnlyAdds_of_tolerates {σ α : Type} {S : Setting}
    {build : Setting → StoreBuild σ α} {store : Store σ}
    (h : Tolerates Eq ((build (S.withStrictness true)).runOn store).1
      ((build (S.withStrictness false)).runOn store).1) : S.StrictnessOnlyAdds build store where
  present := h.present
  same a ha := by
    obtain ⟨b, hb, rfl⟩ := h.ok a ha
    exact hb
  missing := h.error

/-- Where no results are kept, strictness only adds errors for absent attributes: to the build of
any object or list, and to the build of several. -/
theorem StoreBuild.strictness_adds_missing {σ : Type} [ResultCache σ] (S : Setting)
    (options : BuildOptions) (t : Template) {store : Store σ} (hu : store.Uncached S) :
    (∀ data, S.StrictnessOnlyAdds
      (fun S => (Strategy.stored S options).build S options t data) store) ∧
    ∀ objects, S.StrictnessOnlyAdds
      (fun S => (Strategy.stored S options).buildAll S options t objects) store := by
  have hu' : ∀ strict, store.Uncached (S.withStrictness strict) := fun _ => hu
  have hdocument := Strategy.document_tolerates (S := S) (store.load_failsOnly S)
  constructor
  · refine fun data => Setting.strictnessOnlyAdds_of_tolerates ?_
    rw [Strategy.runOn_stored_build_of_uncached options t data (hu' true),
      Strategy.runOn_stored_build_of_uncached options t data (hu' false)]
    exact hdocument.build rfl fun _ _ => trivial
  · refine fun objects => Setting.strictnessOnlyAdds_of_tolerates ?_
    rw [Strategy.runOn_stored_buildAll_of_uncached options t objects (hu' true),
      Strategy.runOn_stored_buildAll_of_uncached options t objects (hu' false)]
    exact hdocument.items fun _ _ => trivial

/-- A user with two posts, the second without a title. Strictly, the whole build fails for that
title; leniently, the title is left out. -/
theorem StoreBuild.strictness_adds_missing_title :
    let post := Template.mk none [.attribute { name := "title" }, .attribute { name := "stars" }] ""
    let t := Template.mk none [.child (.member "posts") none {} post,
      .attribute { name := "name" }] "user"
    let user := Data.record none none [("name", .string "leo"), ("posts", .list (some "posts")
      [.record none none [("title", .string "first"), ("stars", .integer 2)],
        .record none none [("stars", .integer 5)]])]
    let S : Setting := ⟨{}, .empty, .nowhere, id⟩
    let store : Store MemoryCache := {}
    let build (S : Setting) : StoreBuild MemoryCache Value :=
      (Strategy.stored S {}).build S {} t user
    store.Uncached S ∧ S.StrictnessOnlyAdds build store ∧
      ((build (S.withStrictness true)).runOn store).1 = .error (.missingAttribute "title") ∧
      ((build (S.withStrictness false)).runOn store).1 = .ok (.document [("name", .string "leo"),
        ("posts", .array [.document [("title", .string "first"), ("stars", .integer 2)],
          .document [("stars", .integer 5)]])]) := by
  intro post t user S store build
  have hu : store.Uncached S := .inl rfl
  exact ⟨hu, (StoreBuild.strictness_adds_missing S {} t hu).1 user, rfl, rfl⟩

end DocumentTemplates
