import DocumentTemplates.Proofs.Build.Contributions
import DocumentTemplates.Proofs.Filter.Pruning

/-!
# Agreement up to pruning

Two results agree if pruning leaves the same of both. One computation follows another if it succeeds
where the other does, with a result that agrees. Sequencing and the adding of contributions keep
agreement.
-/

namespace DocumentTemplates

/-- What is computed under a filter, against what is computed without: pruning leaves the same of
both, and where `exact` holds, the one is what pruning leaves of the other. -/
structure Agrees {α : Type} (exact : Prop) (prune : α → α) (whole filtered : α) : Prop where
  prune_eq : prune filtered = prune whole
  eq_prune : exact → filtered = prune whole

namespace Agrees

variable {α β : Type} {exact : Prop} {p : α → α} {q : β → β}

theorem of_fixed {whole : α} (h : exact → p whole = whole) : Agrees exact p whole whole :=
  ⟨rfl, fun he => (h he).symm⟩

theorem map (g : α → β) (hg : ∀ a, q (g a) = g (p a)) {whole filtered : α}
    (h : Agrees exact p whole filtered) : Agrees exact q (g whole) (g filtered) where
  prune_eq := by rw [hg, hg, h.prune_eq]
  eq_prune he := by rw [hg, h.eq_prune he]

theorem cons {whole filtered : α} (h : Agrees exact p whole filtered) {more left : List α}
    (hmore : Agrees exact (List.map p) more left) :
    Agrees exact (List.map p) (whole :: more) (filtered :: left) where
  prune_eq := by rw [List.map_cons, List.map_cons, h.prune_eq, hmore.prune_eq]
  eq_prune he := by rw [List.map_cons, ← h.eq_prune he, ← hmore.eq_prune he]

/-- An optional first element, and a list of more. -/
theorem toList_append {p : α → Option α} {whole filtered : Option α}
    (h : Agrees exact (fun a => a.bind p) whole filtered) {more left : List α}
    (hmore : Agrees exact (List.filterMap p) more left) :
    Agrees exact (List.filterMap p) (whole.toList ++ more) (filtered.toList ++ left) := by
  have hbind : ∀ a : Option α, a.toList.filterMap p = (a.bind p).toList := by
    intro a
    cases a with
    | none => rfl
    | some a => cases hp : p a <;> simp [hp]
  constructor
  · rw [List.filterMap_append, List.filterMap_append, hbind, hbind, h.prune_eq, hmore.prune_eq]
  · intro he
    rw [List.filterMap_append, hbind, ← h.eq_prune he, ← hmore.eq_prune he]

end Agrees

/-- The filtered computation succeeds if the whole one does, and then their results agree. -/
def Follows {α : Type} (exact : Prop) (prune : α → α) (whole filtered : Except BuildError α) :
    Prop :=
  (Simulation.refines BuildError).rel (Agrees exact prune) whole filtered

namespace Follows

variable {α β : Type} {exact : Prop}

theorem of_eq {p : α → α} {x y : Except BuildError α} (hxy : x = y)
    (h : ∀ a, x = .ok a → exact → p a = a) : Follows exact p x y := by
  subst hxy
  exact fun a ha => ⟨a, ha, .of_fixed (h a ha)⟩

/-- A computation of which pruning leaves nothing agrees with nothing. -/
theorem to_none {p : α → Option α} {x : Except BuildError (Option α)}
    (h : ∀ a, x = .ok (some a) → p a = none) : Follows exact (fun a => a.bind p) x (.ok none) := by
  intro a ha
  have hp : a.bind p = none := by
    cases a with
    | none => rfl
    | some a => exact h a ha
  exact ⟨none, rfl, hp.symm, fun _ => hp.symm⟩

theorem nothing {p : α → Option α} : Follows exact (fun a => a.bind p) (.ok none) (.ok none) :=
  to_none fun _ ha => by cases ha

theorem map {p : α → α} {q : β → β} (g : α → β)
    (hg : ∀ a, q (g a) = g (p a)) {x y : Except BuildError α} (h : Follows exact p x y) :
    Follows exact q (x >>= fun a => pure (g a)) (y >>= fun a => pure (g a)) :=
  (Simulation.refines BuildError).bind h fun _ _ hab => Simulation.pure _ (hab.map g hg)

end Follows

namespace Contribution

/-- What pruning leaves of a contribution. -/
def prunedBy (f : Filter) : Contribution → Option Contribution
  | .entry key v => (f.field? key).map fun field => .entry key (Filter.pruneField field v)
  | .merged other => some (.merged (f.prune other))

/-- What pruning leaves of what a directive contributes. -/
def leftBy (f : Filter) (c : Option Contribution) : Option Contribution :=
  c.bind (prunedBy f)

theorem leftBy_entry {f : Filter} {key : String} {field : FilterField}
    (h : f.field? key = some field) (v : Value) :
    leftBy f (some (.entry key v)) = some (.entry key (Filter.pruneField field v)) := by
  rw [leftBy, Option.bind_some, prunedBy, h, Option.map_some]

theorem prune_addTo {f : Filter} (hf : f.isEmpty = false) (doc : Document) (c : Contribution) :
    f.prune (c.addTo doc) = addAll (f.prune doc) (c.prunedBy f).toList := by
  cases c with
  | entry key v =>
    rw [addTo, prunedBy, Filter.prune_insert hf]
    cases f.field? key <;> rfl
  | merged other => exact Filter.prune_merge hf doc other

/-- Contributions may be pruned before they are added, or the document afterwards. -/
theorem prune_addAll {f : Filter} (hf : f.isEmpty = false) (doc : Document)
    (cs : List Contribution) :
    f.prune (addAll doc cs) = addAll (f.prune doc) (cs.filterMap (prunedBy f)) := by
  induction cs generalizing doc with
  | nil => rfl
  | cons c rest ih =>
    have hc : addAll doc (c :: rest) = addAll (c.addTo doc) rest := rfl
    rw [hc, ih, prune_addTo hf]
    cases hp : c.prunedBy f with
    | none => rw [List.filterMap_cons_none hp]; rfl
    | some d => rw [List.filterMap_cons_some hp]; rfl

end Contribution

end DocumentTemplates
