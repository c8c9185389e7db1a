import DocumentTemplates.Proofs.Build.Refinement

/-!
# Builds at every level

How deep builds may nest decides only whether a build succeeds. A computation is looked at here for
every bound on the nesting at once; it settles on a result if it has that result from some bound
on. Whatever succeeds under one bound settles on the same result.
-/

namespace DocumentTemplates

/-- A computation for every bound on the nesting of builds. -/
abbrev Levelled := ReaderT Nat (Except BuildError)

/-- From some bound on, the result is the given one. -/
def Levelled.Settles {α : Type} (x : Levelled α) (a : α) : Prop :=
  ∃ least, ∀ levels, least ≤ levels → x.run levels = .ok a

namespace Levelled

variable {α β : Type}

theorem Settles.pure (a : α) : Settles (Pure.pure a) a :=
  ⟨0, fun _ _ => rfl⟩

theorem Settles.bind {x : Levelled α} {f : α → Levelled β} {a : α} {b : β} (hx : x.Settles a)
    (hf : (f a).Settles b) : (x >>= f).Settles b := by
  obtain ⟨least₁, h₁⟩ := hx
  obtain ⟨least₂, h₂⟩ := hf
  refine ⟨max least₁ least₂, fun levels hl => ?_⟩
  rw [ReaderT.run_bind, h₁ levels (by omega)]
  exact h₂ levels (by omega)

theorem run_bind_eq_ok {x : Levelled α} {f : α → Levelled β} {levels : Nat} {b : β}
    (h : (x >>= f).run levels = .ok b) :
    ∃ a, x.run levels = .ok a ∧ (f a).run levels = .ok b :=
  bind_eq_ok.1 h

theorem Settles.unique {x : Levelled α} {a a' : α} (h : x.Settles a) (h' : x.Settles a') :
    a = a' := by
  obtain ⟨least₁, h₁⟩ := h
  obtain ⟨least₂, h₂⟩ := h'
  have := (h₁ (max least₁ least₂) (by omega)).symm.trans (h₂ (max least₁ least₂) (by omega))
  exact Except.ok.inj this

end Levelled

namespace Strategy

def documents (S : Setting) (t : Template) (object : Data) (f : Option Filter) :
    Levelled Document :=
  fun levels => (plain S).evaluate S levels t object f

end Strategy

def Simulation.under (levels : Nat) : Simulation Levelled (Except BuildError) where
  rel P x y := SameOutcome P (x.run levels) y
  pure := fun h => .ok h
  bind := by
    intro α β γ δ P Q x y f g hx hf
    rw [ReaderT.run_bind]
    generalize x.run levels = r at hx
    cases hx with
    | ok hab => exact hf _ _ hab
    | error e => exact .error e

namespace Strategy

variable {S : Setting}

end Strategy

/-! ## Settled results -/

/-- The result of a plan settles on a value. -/
def Setting.Settled (S : Setting) (t : Template) (plan : Plan) (v : Value) : Prop :=
  (Strategy.compute (Strategy.documents S) t plan).Settles v

def Plan.Same (plan₁ plan₂ : Plan) : Prop :=
  plan₁.item = plan₂.item ∧ plan₁.root = plan₂.root ∧ Filter.Same plan₁.filter plan₂.filter

namespace Setting

variable {S : Setting} {t t' : Template} {plan plan' : Plan} {v w : Value}

theorem run_compute_mono (ht : t.directives = t'.directives) (hp : plan.Same plan')
    {levels levels' : Nat} (hl : levels ≤ levels')
    (h : (Strategy.compute (Strategy.documents S) t plan).run levels = .ok v) :
    (Strategy.compute (Strategy.documents S) t' plan').run levels' = .ok v := by
  obtain ⟨item, root, f⟩ := plan
  obtain ⟨item', root', f'⟩ := plan'
  obtain ⟨rfl, rfl, hf⟩ : item = item' ∧ root = root' ∧ Filter.Same f f' := hp
  obtain ⟨doc, hd, hv⟩ := Levelled.run_bind_eq_ok h
  have hd' : (Strategy.documents S t' item f').run levels' = .ok doc :=
    Strategy.evaluate_refines (.refl S) hl ⟨ht, hf, fun _ _ => trivial⟩ hd
  exact bind_eq_ok.2 ⟨doc, hd', hv⟩

theorem Settled.congr (h : S.Settled t plan v) (ht : t.directives = t'.directives)
    (hp : plan.Same plan') : S.Settled t' plan' v := by
  obtain ⟨least, hl⟩ := h
  exact ⟨least, fun levels hle => run_compute_mono ht hp (Nat.le_refl _) (hl levels hle)⟩

end Setting

end DocumentTemplates
