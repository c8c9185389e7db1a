import DocumentTemplates.Proofs.Build.PhaseOrder
import DocumentTemplates.Proofs.Filter.Pruning

/-!
# Narrowed documents

A document is narrowed to a filter if it has the keys of the whole document that the filter admits,
in their order. Values may differ, but not in whether a null policy removes them with their keys. So
a document that was narrowed stays so when both are added to and when the policy acts.
-/

namespace DocumentTemplates

namespace OrderedMap

variable {β γ : Type}

def mapValues (g : β → γ) (m : OrderedMap β) : OrderedMap γ :=
  m.map fun entry => (entry.1, g entry.2)

theorem keys_mapValues (g : β → γ) (m : OrderedMap β) : (m.mapValues g).keys = m.keys := by
  rw [mapValues, keys, keys, List.map_map]
  rfl

theorem mapValues_insert (g : β → γ) (m : OrderedMap β) (key : String) (value : β) :
    (m.insert key value).mapValues g = (m.mapValues g).insert key (g value) := by
  induction m with
  | nil => rfl
  | cons entry rest ih => grind [insert, mapValues]

theorem mapValues_merge (g : β → γ) (m other : OrderedMap β) :
    (m.merge other).mapValues g = (m.mapValues g).merge (other.mapValues g) := by
  induction other generalizing m with
  | nil => rfl
  | cons entry rest ih =>
    have hm : m.merge (entry :: rest) = (m.insert entry.1 entry.2).merge rest := rfl
    rw [hm, ih, mapValues_insert]
    rfl

/-- The entries under some keys. -/
def restrict (m : OrderedMap β) (keep : String → Bool) : OrderedMap β :=
  m.retain fun key _ => keep key

section
variable (keep : String → Bool)

theorem keys_restrict (m : OrderedMap β) : (m.restrict keep).keys = m.keys.filter keep := by
  rw [restrict, retain, keys, keys, List.filter_map]
  rfl

theorem restrict_insert (m : OrderedMap β) (key : String) (value : β) :
    (m.insert key value).restrict keep =
      if keep key then (m.restrict keep).insert key value else m.restrict keep := by
  induction m with
  | nil => grind [insert, restrict, retain]
  | cons entry rest ih => grind [insert, restrict, retain]

theorem restrict_merge (m other : OrderedMap β) :
    (m.merge other).restrict keep = (m.restrict keep).merge (other.restrict keep) := by
  induction other generalizing m with
  | nil => rfl
  | cons entry rest ih =>
    have hm : m.merge (entry :: rest) = (m.insert entry.1 entry.2).merge rest := rfl
    have hr : restrict (entry :: rest) keep =
        if keep entry.1 then entry :: restrict rest keep else restrict rest keep := by
      rw [restrict, retain, List.filter_cons]
      rfl
    rw [hm, ih, restrict_insert, hr]
    split
    · rfl
    · rfl

end

end OrderedMap

/-! ## What a policy removes -/

namespace NilPolicy

/-- For each key of a document, whether a policy removes it. -/
def marks (policy : NilPolicy) (doc : Document) : OrderedMap Bool :=
  OrderedMap.mapValues policy.drops doc

theorem drops_array (policy : NilPolicy) (items : List Value) :
    policy.drops (.array items) = false := by
  cases policy <;> rfl

theorem drops_document (policy : NilPolicy) (doc : Document) :
    policy.drops (.document doc) = false := by
  cases policy <;> rfl

/-- No value becomes null that was not, where nulls are removed. -/
theorem drops_applyValue (policy : NilPolicy) (v : Value) :
    policy.drops (policy.applyValue v) = policy.drops v := by
  cases policy with
  | dropNil => cases v <;> rfl
  | _ => rfl

/-- The calls of a field change no value but arrays. -/
theorem drops_stored (policy : NilPolicy) (f : Option Filter) (key : String) (v : Value) :
    policy.drops (Filter.stored f key v) = policy.drops v := by
  cases f with
  | none => rfl
  | some f =>
    rw [Filter.stored, Filter.applyCalls]
    split
    · cases v with
      | array items => rw [Filter.applyToValue, drops_array, drops_array]
      | _ => rfl
    · rfl

theorem marks_apply (policy : NilPolicy) (doc : Document) :
    policy.marks (policy.apply doc) = (policy.marks doc).retain fun _ dropped => !dropped := by
  rw [apply_eq_filterMap]
  unfold marks OrderedMap.mapValues OrderedMap.retain
  induction doc with
  | nil => rfl
  | cons entry rest ih =>
    rw [List.filterMap_cons, entry?, List.map_cons, List.filter_cons]
    cases hd : policy.drops entry.2 with
    | true => exact ih
    | false =>
      simp only [Bool.false_eq_true, if_false, List.map_cons, ih, drops_applyValue, hd]
      rfl

/-- Of the keys of the whole document, `left` has those that the filter admits, in their order, and
the policy removes the same ones of them. -/
def Narrowed (policy : NilPolicy) (f : Option Filter) (whole left : Document) : Prop :=
  policy.marks left = (policy.marks whole).restrict (Filter.admits f)

namespace Narrowed

variable {policy : NilPolicy} {f : Option Filter} {whole left : Document}

theorem nil : policy.Narrowed f [] [] := rfl

theorem insert (h : policy.Narrowed f whole left) {key : String} {v w : Value}
    (hkey : Filter.admits f key = true) (hdrops : policy.drops w = policy.drops v) :
    policy.Narrowed f (OrderedMap.insert whole key v) (OrderedMap.insert left key w) := by
  unfold Narrowed marks at *
  rw [OrderedMap.mapValues_insert, OrderedMap.mapValues_insert, OrderedMap.restrict_insert,
    if_pos hkey, h, hdrops]

theorem insert_barred (h : policy.Narrowed f whole left) {key : String}
    (hkey : Filter.admits f key = false) (v : Value) :
    policy.Narrowed f (OrderedMap.insert whole key v) left := by
  unfold Narrowed marks at *
  rw [OrderedMap.mapValues_insert, OrderedMap.restrict_insert, hkey, if_neg Bool.false_ne_true, h]

theorem merge (h : policy.Narrowed f whole left) {other kept : Document}
    (hother : policy.Narrowed f other kept) :
    policy.Narrowed f (OrderedMap.merge whole other) (OrderedMap.merge left kept) := by
  unfold Narrowed marks at *
  rw [OrderedMap.mapValues_merge, OrderedMap.mapValues_merge, OrderedMap.restrict_merge, h, hother]

theorem apply (h : policy.Narrowed f whole left) :
    policy.Narrowed f (policy.apply whole) (policy.apply left) := by
  unfold Narrowed at *
  rw [marks_apply, marks_apply, h]
  exact List.filter_filter.trans (List.filter_filter.trans (by simp only [Bool.and_comm])).symm

theorem keys (h : policy.Narrowed f whole left) :
    OrderedMap.keys left = (OrderedMap.keys whole).filter (Filter.admits f) := by
  have hk := congrArg OrderedMap.keys h
  rwa [OrderedMap.keys_restrict, marks, marks, OrderedMap.keys_mapValues,
    OrderedMap.keys_mapValues] at hk

end Narrowed

end NilPolicy

/-! ## Contributions -/

namespace Contribution

/-- Contributions to two documents that leave the one narrowed if it was. -/
def Narrows (policy : NilPolicy) (f : Option Filter) (cs ds : List Contribution) : Prop :=
  ∀ whole left, policy.Narrowed f whole left → policy.Narrowed f (addAll whole cs) (addAll left ds)

namespace Narrows

variable {policy : NilPolicy} {f : Option Filter} {cs ds cs' ds' : List Contribution}

theorem nil : Narrows policy f [] [] :=
  fun _ _ h => h

theorem append (h : Narrows policy f cs ds) (h' : Narrows policy f cs' ds') :
    Narrows policy f (cs ++ cs') (ds ++ ds') := by
  intro whole left hleft
  rw [addAll_append, addAll_append]
  exact h' _ _ (h _ _ hleft)

theorem entry {key : String} {v w : Value} (hkey : Filter.admits f key = true)
    (hdrops : policy.drops w = policy.drops v) :
    Narrows policy f [.entry key v] [.entry key w] :=
  fun _ _ h => h.insert hkey hdrops

theorem barred {key : String} (hkey : Filter.admits f key = false) (v : Value) :
    Narrows policy f [.entry key v] [] :=
  fun _ _ h => h.insert_barred hkey v

theorem merged {whole left : Document} (h : policy.Narrowed f whole left) :
    Narrows policy f [.merged whole] [.merged left] :=
  fun _ _ hleft => hleft.merge h

theorem flatMap {α : Type} {g g' : α → List Contribution} (h : ∀ a, Narrows policy f (g a) (g' a))
    (as : List α) : Narrows policy f (as.flatMap g) (as.flatMap g') := by
  induction as with
  | nil => exact nil
  | cons a rest ih =>
    rw [List.flatMap_cons, List.flatMap_cons]
    exact (h a).append ih

end Narrows

/-- What was contributed in a phase. -/
def ofPhase (gathered : List (Phase × Contribution)) (phase : Phase) : List Contribution :=
  (gathered.filter (·.1 = phase)).map Prod.snd

theorem ofPhase_append (gathered more : List (Phase × Contribution)) (phase : Phase) :
    ofPhase (gathered ++ more) phase = ofPhase gathered phase ++ ofPhase more phase := by
  unfold ofPhase
  rw [List.filter_append, List.map_append]

/-- What one directive contributed, with the phase of the directive. -/
theorem ofPhase_of (own : Phase) (c : Option Contribution) (phase : Phase) :
    ofPhase (c.map (own, ·)).toList phase = if own = phase then c.toList else [] := by
  unfold ofPhase
  cases c with
  | none => rw [Option.toList_none, ite_self]; rfl
  | some c => by_cases h : own = phase <;> simp [h]

theorem narrowed_mergeByPhase {policy : NilPolicy} {f : Option Filter}
    {whole left : List (Phase × Contribution)}
    (h : ∀ phase, Narrows policy f (ofPhase whole phase) (ofPhase left phase)) :
    policy.Narrowed f (mergeByPhase whole) (mergeByPhase left) := by
  rw [mergeByPhase_eq, mergeByPhase_eq]
  exact Narrows.flatMap h Phase.merging [] [] .nil

end Contribution

end DocumentTemplates
