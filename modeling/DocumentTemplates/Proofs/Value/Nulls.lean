import DocumentTemplates.Proofs.Filter.Pruning
import DocumentTemplates.Proofs.Value.Outline
import Mathlib.Data.List.Basic

/-!
# What null policies change

A policy acts on the outline of a value place by place, and what it does at a place depends on
nothing but the leaf that stands there and on whether it stands under a key. So a policy that acts
twice does what it does once, and of the policies that turn null and the empty string into each
other the last one decides.
-/

namespace DocumentTemplates

namespace Value

/-- True of the empty string. -/
def isEmptyText : Value → Bool
  | .string s => s.isEmpty
  | _ => false

/-- True of a step by a key. -/
def Step.isEntry : Step → Bool
  | .entry _ => true
  | .item _ => false

namespace Place

/-- True of a null under a key. A null in an array is none. -/
def isNullEntry (place : Place) : Bool :=
  place.path.getLast?.any Step.isEntry && place.head.isNull

/-- The place with `leaf` in it, if what stands in it is to be replaced. -/
def replace (replaced : Value → Bool) (leaf : Value) (place : Place) : Place :=
  if replaced place.head then ⟨place.path, leaf⟩ else place

theorem replace_replace (replaced : Value → Bool) (leaf : Value) (place : Place) :
    (place.replace replaced leaf).replace replaced leaf = place.replace replaced leaf := by
  unfold replace
  split
  · exact ite_self _
  · rfl

/-- A replacement is as if not made, if another one behind it turns the new leaf into the old. -/
theorem replace_replaced {first second : Value → Bool} {leaf old : Value}
    (hleaf : second leaf = true) (hold : ∀ v, first v = true → v = old) (place : Place) :
    (place.replace first leaf).replace second old = place.replace second old := by
  obtain ⟨path, v⟩ := place
  unfold replace
  split
  · rename_i hfirst
    obtain rfl : v = old := hold v hfirst
    exact (ite_self _).symm
  · rfl

end Place

theorem eq_null_of_isNull {v : Value} (h : v.isNull = true) : v = .null := by
  cases v with
  | null => rfl
  | _ => cases h

theorem eq_empty_of_isEmptyText {v : Value} (h : v.isEmptyText = true) : v = .string "" := by
  cases v with
  | string s => exact congrArg Value.string (String.isEmpty_iff.1 h)
  | _ => cases h

theorem isNull_head (v : Value) : v.head.isNull = v.isNull := by
  cases v <;> rfl

theorem head_head_of_mem_outline {v : Value} {place : Place} (h : place ∈ v.outline) :
    place.head.head = place.head := by
  induction v using induction_on_children generalizing place with
  | step v ih =>
    rw [outline_eq] at h
    rcases List.mem_cons.1 h with rfl | h
    · cases v <;> rfl
    · obtain ⟨child, hchild, h⟩ := List.mem_flatMap.1 h
      obtain ⟨inner, hinner, rfl⟩ := List.mem_map.1 h
      have hhead : inner.head.head = inner.head := ih child hchild hinner
      exact hhead

end Value

namespace NilPolicy

open Value (Place Step outlineBelow)

variable (policy : NilPolicy)

/-! ## One step inside -/

/-- What a policy leaves of a child. -/
def child? (child : Step × Value) : Option (Step × Value) :=
  if child.1.isEntry && policy.drops child.2 then none
  else some (child.1, policy.applyValue child.2)

/-- What a policy leaves of a place. -/
def place? (place : Place) : Option Place :=
  if place.path.getLast?.any Step.isEntry && policy.drops place.head then none
  else some ⟨place.path, policy.applyValue place.head⟩

theorem head_applyValue (v : Value) : (policy.applyValue v).head = policy.applyValue v.head := by
  cases v with
  | array items => rw [applyValue_array]; exact (applyValue_array policy []).symm
  | document entries =>
    rw [applyValue_document]
    cases policy <;> rfl
  | string s =>
    cases policy with
    | emptyToNil =>
      change Value.head (if s.isEmpty then .null else .string s) =
        if s.isEmpty then .null else .string s
      split <;> rfl
    | _ => rfl
  | _ => cases policy <;> rfl

theorem drops_head (v : Value) : policy.drops v.head = policy.drops v := by
  cases policy with
  | dropNil => exact Value.isNull_head v
  | _ => rfl

theorem children_applyValue (v : Value) :
    (policy.applyValue v).children = v.children.filterMap policy.child? := by
  cases v with
  | array items =>
    rw [applyValue_array, Value.children, Value.children, List.zipIdx_map, List.map_map,
      List.filterMap_map]
    exact (List.filterMap_eq_map_iff_forall_eq_some.2 fun item _ => rfl).symm
  | document entries =>
    rw [applyValue_document, apply_eq_filterMap, Value.children, Value.children,
      List.map_filterMap, List.filterMap_map]
    refine congrArg (fun g => List.filterMap g entries) (funext fun entry => ?_)
    simp only [child?, entry?, Function.comp_apply, Step.isEntry, Bool.true_and]
    split <;> rfl
  | string s =>
    cases policy with
    | emptyToNil =>
      change Value.children (if s.isEmpty then .null else .string s) = []
      split <;> rfl
    | _ => rfl
  | _ => cases policy <;> rfl

/-! ## Every place -/

/-- At a place further inside, it does not matter how one got to the value around it. -/
theorem place?_below {step : Step} {place : Place}
    (h : place.path ≠ [] ∨ (step.isEntry && policy.drops place.head) = false) :
    policy.place? (place.below step) = (policy.place? place).map (Place.below step) := by
  obtain ⟨path, head⟩ := place
  cases path with
  | nil =>
    have hkept := h.resolve_left fun hpath => hpath rfl
    have hstep : policy.place? (Place.below step ⟨[], head⟩) =
        if step.isEntry && policy.drops head then none
        else some ⟨[step], policy.applyValue head⟩ := rfl
    rw [hstep, hkept]
    rfl
  | cons first rest =>
    simp only [place?, Place.below, List.getLast?_cons_cons]
    split <;> rfl

theorem filterMap_place?_outlineBelow {children : List (Step × Value)}
    (h : ∀ child ∈ children,
      (policy.applyValue child.2).outline = child.2.outline.filterMap policy.place?) :
    outlineBelow (children.filterMap policy.child?) =
      (outlineBelow children).filterMap policy.place? := by
  induction children with
  | nil => rfl
  | cons child rest ih =>
    obtain ⟨step, v⟩ := child
    have hv := h _ List.mem_cons_self
    have hrest := ih fun child hchild => h child (List.mem_cons_of_mem _ hchild)
    have hsplit : outlineBelow ((step, v) :: rest) =
        v.outline.map (Place.below step) ++ outlineBelow rest := rfl
    rw [hsplit, List.filterMap_append, ← hrest]
    cases hdrop : step.isEntry && policy.drops v with
    | true =>
      have hdropped : policy.child? (step, v) = none := if_pos hdrop
      have hdrops : policy.drops v = true := (Bool.and_eq_true_iff.1 hdrop).2
      have hnull : v = .null := by
        cases policy with
        | dropNil => exact Value.eq_null_of_isNull hdrops
        | _ => cases hdrops
      have hgone : policy.place? ⟨[step], .null⟩ = none := by
        rw [hnull] at hdrop
        exact if_pos hdrop
      rw [List.filterMap_cons_none hdropped, hnull]
      have hblock : (Value.null.outline.map (Place.below step)).filterMap policy.place? = [] :=
        List.filterMap_cons_none hgone
      rw [hblock, List.nil_append]
    | false =>
      have hkept : policy.child? (step, v) = some (step, policy.applyValue v) :=
        if_neg (by rw [hdrop]; exact Bool.false_ne_true)
      have hbelow : (v.outline.map (Place.below step)).filterMap policy.place? =
          (policy.applyValue v).outline.map (Place.below step) := by
        rw [hv, List.filterMap_map, List.map_filterMap]
        refine List.filterMap_congr fun place hplace => policy.place?_below ?_
        rw [Value.outline_eq] at hplace
        rcases List.mem_cons.1 hplace with rfl | hplace
        · exact Or.inr ((congrArg (step.isEntry && ·) (policy.drops_head v)).trans hdrop)
        · exact Or.inl (Value.path_ne_nil_of_mem_outlineBelow hplace)
      rw [List.filterMap_cons_some hkept, hbelow]
      rfl

/-- A policy acts on every place by itself. -/
theorem outline_applyValue (v : Value) :
    (policy.applyValue v).outline = v.outline.filterMap policy.place? := by
  induction v using Value.induction_on_children with
  | step v ih =>
    have htop : policy.place? ⟨[], v.head⟩ = some ⟨[], policy.applyValue v.head⟩ := rfl
    rw [Value.outline_eq, Value.outline_eq v, List.filterMap_cons_some htop, head_applyValue,
      children_applyValue, policy.filterMap_place?_outlineBelow ih]

/-! ## Each policy -/

theorem outline_dropNil (v : Value) :
    (applyValue .dropNil v).outline = v.outline.filter fun place => !place.isNullEntry := by
  rw [outline_applyValue, ← List.filterMap_eq_filter]
  refine List.filterMap_congr fun place hplace => ?_
  have hhead : applyValue .dropNil place.head = place.head := by
    rw [← Value.head_head_of_mem_outline hplace]
    cases place.head <;> rfl
  rw [place?, hhead]
  change (if place.isNullEntry then none else some place) = Option.guard _ place
  cases hnull : place.isNullEntry <;> simp [Option.guard, hnull]

/-- A policy that drops nothing leaves every place where it is. -/
theorem outline_map {policy : NilPolicy} (hdrops : ∀ v, policy.drops v = false)
    {change : Place → Place}
    (hchange : ∀ place : Place, place.head.head = place.head →
      change place = ⟨place.path, policy.applyValue place.head⟩) (v : Value) :
    (policy.applyValue v).outline = v.outline.map change := by
  rw [outline_applyValue, List.filterMap_eq_map_iff_forall_eq_some]
  intro place hplace
  rw [place?, hdrops, Bool.and_false, if_neg Bool.false_ne_true,
    hchange place (Value.head_head_of_mem_outline hplace)]

theorem outline_blankToEmpty (v : Value) : (applyValue .blankToEmpty v).outline =
    v.outline.map (.replace Value.isNull (.string "")) := by
  refine outline_map (fun _ => rfl) (fun place hplace => ?_) v
  obtain ⟨path, v⟩ := place
  change v.head = v at hplace
  rw [← hplace]
  cases v <;> rfl

theorem outline_emptyToNil (v : Value) : (applyValue .emptyToNil v).outline =
    v.outline.map (.replace Value.isEmptyText .null) := by
  refine outline_map (fun _ => rfl) (fun place hplace => ?_) v
  obtain ⟨path, v⟩ := place
  change v.head = v at hplace
  rw [← hplace]
  cases v with
  | string s =>
    change (if s.isEmpty then _ else _) = Place.mk path (if s.isEmpty then .null else .string s)
    split <;> rfl
  | _ => rfl

/-- Acting a second time changes nothing. -/
theorem applyValue_applyValue (v : Value) :
    policy.applyValue (policy.applyValue v) = policy.applyValue v := by
  refine Value.outline_inj ?_
  cases policy with
  | keep => rfl
  | blankToEmpty =>
    rw [outline_blankToEmpty, outline_blankToEmpty, List.map_map]
    exact List.map_congr_left fun place _ => place.replace_replace _ _
  | emptyToNil =>
    rw [outline_emptyToNil, outline_emptyToNil, List.map_map]
    exact List.map_congr_left fun place _ => place.replace_replace _ _
  | dropNil =>
    rw [outline_dropNil, outline_dropNil, List.filter_filter]
    simp only [Bool.and_self]

theorem apply_apply (doc : Document) : policy.apply (policy.apply doc) = policy.apply doc := by
  have h := policy.applyValue_applyValue (.document doc)
  rw [applyValue_document, applyValue_document] at h
  exact Value.document.inj h

theorem blankToEmpty_emptyToNil (v : Value) :
    applyValue .blankToEmpty (applyValue .emptyToNil v) = applyValue .blankToEmpty v := by
  refine Value.outline_inj ?_
  rw [outline_blankToEmpty, outline_emptyToNil, outline_blankToEmpty, List.map_map]
  exact List.map_congr_left fun place _ =>
    Place.replace_replaced rfl (fun _ => Value.eq_empty_of_isEmptyText) place

theorem emptyToNil_blankToEmpty (v : Value) :
    applyValue .emptyToNil (applyValue .blankToEmpty v) = applyValue .emptyToNil v := by
  refine Value.outline_inj ?_
  rw [outline_emptyToNil, outline_blankToEmpty, outline_emptyToNil, List.map_map]
  exact List.map_congr_left fun place _ =>
    Place.replace_replaced rfl (fun _ => Value.eq_null_of_isNull) place

/-- Policies are exact and idempotent, at every depth and on any mixture of arrays and documents.
Dropping removes the places of nulls under keys and no others, so nulls in arrays stay and the rest
keeps its order. The other two policies put one leaf in place of another, wherever it stands, and
leave all keys, positions and lengths as they are; the later one undoes the earlier. -/
theorem policies_exact_idempotent (v : Value) :
    (∀ policy : NilPolicy, policy.applyValue (policy.applyValue v) = policy.applyValue v) ∧
    (applyValue .dropNil v).outline = v.outline.filter (fun place => !place.isNullEntry) ∧
    (applyValue .blankToEmpty v).outline = v.outline.map (.replace Value.isNull (.string "")) ∧
    (applyValue .emptyToNil v).outline = v.outline.map (.replace Value.isEmptyText .null) ∧
    applyValue .blankToEmpty (applyValue .emptyToNil v) = applyValue .blankToEmpty v ∧
    applyValue .emptyToNil (applyValue .blankToEmpty v) = applyValue .emptyToNil v :=
  ⟨fun policy => policy.applyValue_applyValue v, outline_dropNil v, outline_blankToEmpty v,
    outline_emptyToNil v, blankToEmpty_emptyToNil v, emptyToNil_blankToEmpty v⟩

/-- The null in the array stays, also where the array stands under a key. -/
example : applyValue .dropNil (.document [("a", .null), ("b", .array [.null,
    .document [("c", .null), ("d", .string "")]]), ("e", .bool true)]) =
      .document [("b", .array [.null, .document [("d", .string "")]]), ("e", .bool true)] := rfl

end NilPolicy

end DocumentTemplates
