import DocumentTemplates.Build.Plain
import DocumentTemplates.Proofs.Build.Simulation
import DocumentTemplates.Template.Bases

/-!
# What the result of a plain build depends on

A plain build that succeeds keeps its result when more levels are allowed, when absent attributes
are tolerated, and when the templates it can load are replaced by templates with the same
directives. Of the configuration only the null policy, the roots of children and the exclusion of
empty results are left.
-/

namespace DocumentTemplates

theorem bind_eq_ok {ε α β : Type} {x : Except ε α} {f : α → Except ε β} {b : β} :
    x >>= f = .ok b ↔ ∃ a, x = .ok a ∧ f a = .ok b := by
  cases x with
  | error e => exact ⟨fun h => (by cases h), fun ⟨_, h, _⟩ => (by cases h)⟩
  | ok a => exact ⟨fun h => ⟨a, rfl, h⟩, fun ⟨_, h, hb⟩ => by cases h; exact hb⟩

theorem toOption_eq_of_forall {ε α : Type} {x y : Except ε α}
    (hxy : ∀ a, x = .ok a → y = .ok a) (hyx : ∀ a, y = .ok a → x = .ok a) :
    x.toOption = y.toOption := by
  cases x with
  | ok a => rw [hxy a rfl]
  | error e =>
    cases y with
    | ok a => cases hyx a rfl
    | error e' => rfl

/-- Success is kept, with related results. -/
def Simulation.refines (ε : Type) : Simulation (Except ε) (Except ε) where
  rel P x y := ∀ a, x = .ok a → ∃ b, y = .ok b ∧ P a b
  pure := by
    rintro α β P a b h _ ⟨⟩
    exact ⟨b, rfl, h⟩
  bind := by
    intro α β γ δ P Q x y f g hx hf c hc
    cases x with
    | error e => cases hc
    | ok a =>
      obtain ⟨b, rfl, hab⟩ := hx a rfl
      exact hf a b hab c hc

/-- The same outcome: related results, or the same error. -/
inductive SameOutcome {α β : Type} (P : α → β → Prop) :
    Except BuildError α → Except BuildError β → Prop
  | ok {a : α} {b : β} : P a b → SameOutcome P (.ok a) (.ok b)
  | error (e : BuildError) : SameOutcome P (.error e) (.error e)

theorem SameOutcome.of_eq {α : Type} {x y : Except BuildError α} (h : x = y) :
    SameOutcome Eq x y := by
  subst h
  cases x with
  | ok a => exact .ok rfl
  | error e => exact .error e

theorem SameOutcome.eq {α : Type} {x y : Except BuildError α} (h : SameOutcome Eq x y) :
    x = y := by
  cases h with
  | ok h => rw [h]
  | error e => rfl

def Setting.load (S : Setting) (name : String) : Except BuildError Template :=
  S.source.template S.digestOf name S.config.searchPaths

theorem Template.baseNames_eq (t : Template) :
    t.baseNames = Template.baseNamesOf t.directives := by
  cases t
  rfl

theorem Template.baseNamesOf_append (ds es : List Directive) :
    Template.baseNamesOf (ds ++ es) = Template.baseNamesOf ds ++ Template.baseNamesOf es := by
  induction ds with
  | nil => rfl
  | cons d rest ih => simp only [List.cons_append, Template.baseNamesOf, ih, List.append_assoc]

theorem Template.mem_baseNames {t : Template} {d : Directive} (hd : d ∈ t.directives)
    {name : String} (hn : name ∈ d.baseNames) : name ∈ t.baseNames := by
  rw [t.baseNames_eq]
  generalize t.directives = ds at hd
  induction ds with
  | nil => cases hd
  | cons e rest ih =>
    simp only [Template.baseNamesOf, List.mem_append]
    rcases List.mem_cons.1 hd with rfl | hd
    · exact Or.inl hn
    · exact Or.inr (ih hd)

theorem Template.directives_extendedWith (digestOf : String → String) (t extra : Template) :
    (t.extendedWith digestOf extra).directives = t.directives ++ extra.directives := by
  unfold Template.extendedWith
  split
  · rename_i he
    rw [List.isEmpty_iff.1 he, List.append_nil]
  · rfl

theorem Template.baseNames_extendedWith (digestOf : String → String) (t extra : Template) :
    (t.extendedWith digestOf extra).baseNames = t.baseNames ++ extra.baseNames := by
  rw [baseNames_eq, directives_extendedWith, baseNamesOf_append, ← baseNames_eq, ← baseNames_eq]

/-- Whatever succeeds under the first setting succeeds under the second, as far as the templates
with the given names are concerned. -/
structure Setting.Below (names : String → Prop) (S₁ S₂ : Setting) : Prop where
  alike : S₁.Alike S₂
  strict : S₂.config.strictAttributes = true → S₁.config.strictAttributes = true
  load : ∀ {name base}, names name → S₁.load name = .ok base →
    ∃ base', S₂.load name = .ok base' ∧ base.directives = base'.directives ∧
      ∀ n ∈ base.baseNames, names n

theorem Setting.Below.refl (S : Setting) : Setting.Below (fun _ => True) S S :=
  ⟨.refl S, id, fun _ hl => ⟨_, hl, rfl, fun _ _ => trivial⟩⟩

theorem Attribute.contribution_refines {names : String → Prop} {S₁ S₂ : Setting}
    (h : Setting.Below names S₁ S₂) (object : Data) (f : Option Filter) (a : Attribute)
    {c : Option Contribution} (hc : a.contribution S₁ object f = .ok c) :
    a.contribution S₂ object f = .ok c := by
  unfold Attribute.contribution at hc ⊢
  rw [← h.alike.scope]
  split at hc
  · rename_i hg
    rw [if_pos hg]
    cases hm : object.member? a.name with
    | some member => simpa only [hm] using hc
    | none =>
      simp only [hm] at hc ⊢
      have hs := h.strict
      cases h₁ : S₁.config.strictAttributes <;> cases h₂ : S₂.config.strictAttributes <;>
        simp_all
  · rename_i hg
    rw [if_neg hg]
    exact hc

namespace Strategy

/-- Tasks whose templates have the same directives and extend only templates of the given
names. -/
def SameTask (names : String → Prop) (t₁ t₂ : Template) (_ : Data) (f₁ f₂ : Option Filter) :
    Prop :=
  t₁.directives = t₂.directives ∧ Filter.Same f₁ f₂ ∧ ∀ n ∈ t₁.baseNames, names n

variable {names : String → Prop} {S₁ S₂ : Setting}

theorem plain_simulates (h : Setting.Below names S₁ S₂)
    {e₁ e₂ : Template → Data → Option Filter → Except BuildError Document}
    (he : ∀ {t₁ t₂ object f₁ f₂}, SameTask names t₁ t₂ object f₁ f₂ →
      (Simulation.refines BuildError).rel Eq (e₁ t₁ object f₁) (e₂ t₂ object f₂)) :
    Simulates (Simulation.refines BuildError) S₁ S₂ (plain S₁) (plain S₂) e₁ e₂
      (SameTask names) (fun t _ => ∀ n ∈ t.baseNames, names n) := by
  have hc : ∀ {t : Template} {plan : Plan}, (∀ n ∈ t.baseNames, names n) →
      (Simulation.refines BuildError).rel Eq (compute e₁ t plan) (compute e₂ t plan) := by
    intro t plan ht
    exact Simulation.bind_eq _ (he ⟨rfl, .refl _, ht⟩) fun doc => Simulation.pure _ rfl
  constructor
  case alike => exact h.alike
  case nodes => exact fun ns object f doc a hx => ⟨a, hx, rfl⟩
  case attributes =>
    intro object f a c hx
    refine ⟨c, ?_, rfl⟩
    cases hx' : a.contribution S₁ object f with
    | error e => rw [hx'] at hx; cases hx
    | ok c' =>
      rw [hx'] at hx
      cases hx
      rw [a.contribution_refines h object f hx']
      rfl
  case directives => exact fun task => task.1
  case filters => exact fun task => task.2.1
  case evaluate => exact fun task => he task
  case glue =>
    intro t₁ t₂ object f₁ f₂ selector guard body data task hd _
    exact ⟨rfl, task.2.1, fun n hn => task.2.2 n (Template.mem_baseNames hd hn)⟩
  case extend =>
    intro t₁ t₂ object f₁ f₂ base target guard extra data task hd _ b hb
    have hbase : names base := task.2.2 base
      (Template.mem_baseNames hd (by simp [Directive.baseNames]))
    obtain ⟨b', hb', hdir, hn⟩ := h.load hbase hb
    refine ⟨b', hb', ?_, task.2.1, ?_⟩
    · simp only [Template.directives_extendedWith, hdir]
    · intro n hm
      rw [Template.baseNames_extendedWith, List.mem_append] at hm
      rcases hm with hm | hm
      · exact hn n hm
      · exact task.2.2 n (Template.mem_baseNames hd (by simp [Directive.baseNames, hm]))
  case child =>
    intro t₁ t₂ object f₁ f₂ selector objectRoot guard body task hd plan _ n hn
    exact task.2.2 n (Template.mem_baseNames hd hn)
  case single => exact fun ha => hc ha
  case many =>
    intro t plans ha
    exact Simulation.mapM _ fun plan hp => hc (ha plan hp)

/-- A successful evaluation stays the same with more levels, under a setting that is above, and
for a template with the same directives. -/
theorem evaluate_refines (h : Setting.Below names S₁ S₂) {levels₁ levels₂ : Nat}
    (hl : levels₁ ≤ levels₂) {t₁ t₂ : Template} {object : Data} {f₁ f₂ : Option Filter}
    (task : SameTask names t₁ t₂ object f₁ f₂) {doc : Document}
    (hd : (plain S₁).evaluate S₁ levels₁ t₁ object f₁ = .ok doc) :
    (plain S₂).evaluate S₂ levels₂ t₂ object f₂ = .ok doc := by
  induction levels₁ generalizing levels₂ t₁ t₂ object f₁ f₂ doc with
  | zero => cases hd
  | succ n ih =>
    obtain ⟨m, rfl⟩ : ∃ m, levels₂ = m + 1 := ⟨levels₂ - 1, by omega⟩
    have hs : Simulates (Simulation.refines BuildError) S₁ S₂ (plain S₁) (plain S₂)
        ((plain S₁).evaluate S₁ n) ((plain S₂).evaluate S₂ m) (SameTask names)
        (fun t _ => ∀ n ∈ t.baseNames, names n) :=
      plain_simulates h fun task doc hd => ⟨doc, ih (by omega) task hd, rfl⟩
    obtain ⟨_, hdoc, rfl⟩ := hs.level task doc hd
    exact hdoc

section
variable {options : BuildOptions} {t : Template}

theorem document_simulates (h : Setting.Below names S₁ S₂)
    (hl : S₁.config.maxDepth ≤ S₂.config.maxDepth) :
    Simulates (Simulation.refines BuildError) S₁ S₂ (plain S₁) (plain S₂)
      ((plain S₁).document S₁) ((plain S₂).document S₂) (SameTask names)
      (fun t _ => ∀ n ∈ t.baseNames, names n) :=
  plain_simulates h fun task doc hd =>
    ⟨doc, evaluate_refines h (Nat.succ_le_succ hl) task hd, rfl⟩

/-- A successful build stays the same under a setting that is above. -/
theorem build_refines (h : Setting.Below names S₁ S₂)
    (hl : S₁.config.maxDepth ≤ S₂.config.maxDepth) (hr : S₁.config.root = S₂.config.root)
    (ht : ∀ n ∈ t.baseNames, names n) {data : Data} {v : Value}
    (hv : (plain S₁).build S₁ options t data = .ok v) :
    (plain S₂).build S₂ options t data = .ok v := by
  obtain ⟨_, hv', rfl⟩ := (document_simulates h hl).build hr (fun _ _ => ht) v hv
  exact hv'

/-- A successful build of several objects stays the same under a setting that is above. -/
theorem buildAll_refines (h : Setting.Below names S₁ S₂)
    (hl : S₁.config.maxDepth ≤ S₂.config.maxDepth) (ht : ∀ n ∈ t.baseNames, names n)
    {objects : List Data} {vs : List Value}
    (hv : (plain S₁).buildAll S₁ options t objects = .ok vs) :
    (plain S₂).buildAll S₂ options t objects = .ok vs := by
  obtain ⟨_, hv', rfl⟩ := (document_simulates h hl).items (fun _ _ => ht) vs hv
  exact hv'

end

end Strategy

end DocumentTemplates
