import DocumentTemplates.Filter.Apply
import DocumentTemplates.NilPolicy

/-!
# Laws of pruning

Pruning keeps or drops an entry by its key alone. So it may come before or after entries are stored
and documents merged, and, if the filter has no calls, before or after a null policy acts.
-/

namespace DocumentTemplates

mutual

/-- True if a field has calls, at any depth. -/
def Filter.hasCalls : Filter → Bool
  | .mk _ fields => Filter.anyHasCalls fields

def Filter.anyHasCalls : List FilterField → Bool
  | [] => false
  | field :: rest => FilterField.hasCalls field || Filter.anyHasCalls rest

def FilterField.hasCalls : FilterField → Bool
  | .mk _ calls none => !calls.isEmpty
  | .mk _ calls (some nested) => !calls.isEmpty || Filter.hasCalls nested

end

theorem FilterField.calls_eq_nil {field : FilterField} (h : field.hasCalls = false) :
    field.calls = [] := by
  obtain ⟨name, calls, _ | nested⟩ := field
  · simpa [hasCalls, FilterField.calls] using h
  · rw [hasCalls, Bool.or_eq_false_iff] at h
    simpa [FilterField.calls] using h.1

namespace Filter

theorem hasCalls_of_field? {f : Filter} (hf : f.hasCalls = false) {key : String}
    {field : FilterField} (h : f.field? key = some field) : field.hasCalls = false := by
  obtain ⟨parent, fields⟩ := f
  rw [hasCalls] at hf
  rw [field?] at h
  have hmem := List.mem_of_find?_eq_some h
  clear h
  change field ∈ fields at hmem
  induction fields with
  | nil => cases hmem
  | cons first rest ih =>
    rw [anyHasCalls, Bool.or_eq_false_iff] at hf
    rcases List.mem_cons.1 hmem with rfl | hmem
    · exact hf.1
    · exact ih hf.2 hmem

/-! ## Entries -/

theorem pruneEntry_eq (fields : List FilterField) (key : String) (v : Value) :
    pruneEntry fields (key, v) =
      (fields.find? (·.name = key)).map fun field => (key, pruneField field v) := by
  induction fields with
  | nil => rfl
  | cons field rest ih =>
    rw [pruneEntry, List.find?_cons]
    by_cases h : field.name = key
    · simp [h]
    · simp [h, ih]

theorem prune_eq_filterMap {f : Filter} (hf : f.isEmpty = false) (doc : Document) :
    prune f doc = doc.filterMap (pruneEntry f.fields) := by
  rcases f with ⟨parent, _ | ⟨field, fields⟩⟩
  · cases hf
  · rfl

theorem prune_of_isEmpty {f : Filter} (hf : f.isEmpty = true) (doc : Document) :
    prune f doc = doc := by
  rcases f with ⟨parent, _ | ⟨field, fields⟩⟩
  · rfl
  · cases hf

theorem prune_nil (f : Filter) : prune f [] = [] := by
  rcases f with ⟨parent, _ | ⟨field, fields⟩⟩ <;> rfl

section
variable {f : Filter}

/-- Whether an entry is left depends on its key only. -/
theorem prune_cons (hf : f.isEmpty = false) (key : String) (v : Value) (doc : Document) :
    prune f ((key, v) :: doc) = (f.field? key).elim (prune f doc) fun field =>
      (key, pruneField field v) :: prune f doc := by
  rw [prune_eq_filterMap hf, prune_eq_filterMap hf, List.filterMap_cons, pruneEntry_eq, ← field?]
  cases f.field? key <;> rfl

/-! ## Storing and merging -/

theorem prune_insert (hf : f.isEmpty = false) (doc : Document) (key : String) (v : Value) :
    prune f (OrderedMap.insert doc key v) = (f.field? key).elim (prune f doc) fun field =>
      OrderedMap.insert (prune f doc) key (pruneField field v) := by
  induction doc with
  | nil => rw [OrderedMap.insert, prune_cons hf, prune_nil]; rfl
  | cons entry rest ih =>
    obtain ⟨k, w⟩ := entry
    rw [OrderedMap.insert]
    by_cases hk : k = key
    · subst hk
      rw [if_pos rfl, prune_cons hf, prune_cons hf]
      cases f.field? k with
      | none => rfl
      | some field => exact (if_pos rfl).symm
    · rw [if_neg hk, prune_cons hf, prune_cons hf, ih]
      cases f.field? k with
      | none => rfl
      | some other =>
        cases f.field? key with
        | none => rfl
        | some field => exact (if_neg hk).symm

theorem prune_merge (hf : f.isEmpty = false) (doc other : Document) :
    prune f (OrderedMap.merge doc other) = OrderedMap.merge (prune f doc) (prune f other) := by
  induction other generalizing doc with
  | nil => rw [prune_nil]; rfl
  | cons entry rest ih =>
    obtain ⟨key, v⟩ := entry
    have hm : OrderedMap.merge doc ((key, v) :: rest) =
        OrderedMap.merge (OrderedMap.insert doc key v) rest := rfl
    rw [hm, ih, prune_insert hf, prune_cons hf]
    cases f.field? key <;> rfl

end

end Filter

/-! ## Null policies -/

namespace NilPolicy

/-- The values that a policy removes with their keys. -/
def drops : NilPolicy → Value → Bool
  | .dropNil, v => v.isNull
  | _, _ => false

/-- What a policy leaves of an entry. -/
def entry? (policy : NilPolicy) (entry : String × Value) : Option (String × Value) :=
  if policy.drops entry.2 then none else some (entry.1, policy.applyValue entry.2)

theorem mapItems_eq_map (leaf : Value → Value) (items : List Value) :
    mapItems leaf items = items.map (mapLeaves leaf) := by
  induction items with
  | nil => rfl
  | cons v rest ih => rw [mapItems, ih, List.map_cons]

theorem dropNullsItems_eq_map (items : List Value) :
    dropNullsItems items = items.map dropNulls := by
  induction items with
  | nil => rfl
  | cons v rest ih => rw [dropNullsItems, ih, List.map_cons]

theorem applyValue_array (policy : NilPolicy) (items : List Value) :
    policy.applyValue (.array items) = .array (items.map policy.applyValue) := by
  cases policy with
  | keep => exact congrArg Value.array (List.map_id items).symm
  | blankToEmpty => exact congrArg Value.array (mapItems_eq_map _ items)
  | emptyToNil => exact congrArg Value.array (mapItems_eq_map _ items)
  | dropNil => exact congrArg Value.array (dropNullsItems_eq_map items)

theorem applyValue_document (policy : NilPolicy) (doc : Document) :
    policy.applyValue (.document doc) = .document (policy.apply doc) := by
  cases policy <;> rfl

theorem apply_eq_filterMap (policy : NilPolicy) (doc : Document) :
    policy.apply doc = doc.filterMap policy.entry? := by
  cases policy with
  | keep => exact (List.filterMap_some).symm
  | dropNil =>
    induction doc with
    | nil => rfl
    | cons entry rest ih =>
      obtain ⟨key, v⟩ := entry
      cases v with
      | null => exact ih
      | _ => exact congrArg (List.cons _) ih
  | _ =>
    induction doc with
    | nil => rfl
    | cons entry rest ih => exact congrArg (List.cons _) ih

end NilPolicy

namespace Filter

theorem applyToValue_nil (v : Value) : applyToValue [] v = v := by
  cases v <;> rfl

theorem mapDocumentsItems_eq_map (inside : Document → Document) (items : List Value) :
    mapDocumentsItems inside items = items.map (mapDocuments inside) := by
  induction items with
  | nil => rfl
  | cons v rest ih => rw [mapDocumentsItems, ih, List.map_cons]

theorem mapDocuments_array (inside : Document → Document) (items : List Value) :
    mapDocuments inside (.array items) = .array (items.map (mapDocuments inside)) := by
  rw [mapDocuments, mapDocumentsItems_eq_map]

theorem isNull_mapDocuments (inside : Document → Document) (v : Value) :
    (mapDocuments inside v).isNull = v.isNull := by
  cases v <;> rfl

mutual

theorem mapDocuments_id : (v : Value) → mapDocuments (fun doc => doc) v = v
  | .array items => congrArg Value.array (mapDocumentsItems_id items)
  | .document _ | .null | .bool _ | .integer _ | .float _ | .string _ => rfl

theorem mapDocumentsItems_id : (items : List Value) →
    mapDocumentsItems (fun doc => doc) items = items
  | [] => rfl
  | v :: rest => by rw [mapDocumentsItems, mapDocuments_id v, mapDocumentsItems_id rest]

end

section
variable {policy : NilPolicy} {inside : Document → Document}

mutual

/-- What respects a policy on documents respects it on the documents inside a value. -/
theorem mapDocuments_applyValue (h : ∀ doc, inside (policy.apply doc) = policy.apply (inside doc)) :
    (v : Value) → mapDocuments inside (policy.applyValue v) =
      policy.applyValue (mapDocuments inside v)
  | .array items => by
    rw [NilPolicy.applyValue_array, mapDocuments, mapDocuments, NilPolicy.applyValue_array,
      mapDocumentsItems_applyValue h items]
  | .document doc => by
    rw [NilPolicy.applyValue_document, mapDocuments, mapDocuments, NilPolicy.applyValue_document,
      h doc]
  | .string s => by
    cases policy with
    | emptyToNil =>
      change mapDocuments inside (if s.isEmpty then .null else .string s) =
        if s.isEmpty then .null else .string s
      split <;> rfl
    | _ => rfl
  | .null | .bool _ | .integer _ | .float _ => by cases policy <;> rfl

theorem mapDocumentsItems_applyValue
    (h : ∀ doc, inside (policy.apply doc) = policy.apply (inside doc)) : (items : List Value) →
      mapDocumentsItems inside (items.map policy.applyValue) =
        (mapDocumentsItems inside items).map policy.applyValue
  | [] => rfl
  | v :: rest => by
    rw [List.map_cons, mapDocumentsItems, mapDocumentsItems, List.map_cons,
      mapDocuments_applyValue h v, mapDocumentsItems_applyValue h rest]

end

end

theorem pruneField_of_nested {name : String} {calls : List FunctionCall} {nested : Filter}
    (h : FilterField.hasCalls (.mk name calls (some nested)) = false) (v : Value) :
    pruneField (.mk name calls (some nested)) v = mapDocuments (prune nested) v := by
  obtain rfl : calls = [] := FilterField.calls_eq_nil h
  rw [pruneField, applyToValue_nil]

theorem pruneField_of_no_nested {name : String} {calls : List FunctionCall}
    (h : FilterField.hasCalls (.mk name calls none) = false) (v : Value) :
    pruneField (.mk name calls none) v = v := by
  obtain rfl : calls = [] := FilterField.calls_eq_nil h
  rw [pruneField, applyToValue_nil]

theorem isNull_pruneField {field : FilterField} (h : field.hasCalls = false) (v : Value) :
    (pruneField field v).isNull = v.isNull := by
  obtain ⟨name, calls, _ | nested⟩ := field
  · rw [pruneField_of_no_nested h]
  · rw [pruneField_of_nested h, isNull_mapDocuments]

theorem drops_pruneField (policy : NilPolicy) {field : FilterField} (h : field.hasCalls = false)
    (v : Value) : policy.drops (pruneField field v) = policy.drops v := by
  cases policy with
  | dropNil => exact isNull_pruneField h v
  | _ => rfl

mutual

/-- Without calls, pruning may come before or after a null policy. -/
theorem prune_apply (policy : NilPolicy) : (f : Filter) → f.hasCalls = false → (doc : Document) →
    prune f (policy.apply doc) = policy.apply (prune f doc)
  | .mk parent [], _, doc => rfl
  | .mk parent (field :: fields), h, doc => by
    have hf : (mk parent (field :: fields)).isEmpty = false := rfl
    rw [prune_eq_filterMap hf, prune_eq_filterMap hf, NilPolicy.apply_eq_filterMap,
      NilPolicy.apply_eq_filterMap, List.filterMap_filterMap, List.filterMap_filterMap]
    exact congrArg (fun g => List.filterMap g doc)
      (funext fun entry => pruneEntry_entry? policy (field :: fields) h entry)

theorem pruneEntry_entry? (policy : NilPolicy) : (fields : List FilterField) →
    anyHasCalls fields = false → (entry : String × Value) →
      (policy.entry? entry).bind (pruneEntry fields) =
        (pruneEntry fields entry).bind policy.entry?
  | [], _, entry => by cases policy.entry? entry <;> rfl
  | field :: rest, h, (key, v) => by
    rw [anyHasCalls, Bool.or_eq_false_iff] at h
    have ih := pruneEntry_entry? policy rest h.2 (key, v)
    rw [pruneEntry]
    by_cases hkey : field.name = key
    · rw [if_pos hkey, Option.bind_some, NilPolicy.entry?, NilPolicy.entry?,
        drops_pruneField policy h.1]
      cases policy.drops v with
      | true => rfl
      | false =>
        simp only [Bool.false_eq_true, if_false, Option.bind_some, pruneEntry, if_pos hkey,
          pruneField_applyValue policy field h.1 v]
    · rw [if_neg hkey, ← ih, NilPolicy.entry?]
      cases policy.drops v with
      | true => rfl
      | false => simp only [Bool.false_eq_true, if_false, Option.bind_some, pruneEntry, if_neg hkey]

theorem pruneField_applyValue (policy : NilPolicy) : (field : FilterField) →
    field.hasCalls = false → (v : Value) →
      pruneField field (policy.applyValue v) = policy.applyValue (pruneField field v)
  | .mk name calls none, h, v => by
    rw [pruneField_of_no_nested h, pruneField_of_no_nested h]
  | .mk name calls (some nested), h, v => by
    rw [pruneField_of_nested h, pruneField_of_nested h]
    rw [FilterField.hasCalls, Bool.or_eq_false_iff] at h
    exact mapDocuments_applyValue (prune_apply policy nested h.2) v

end

/-! ## Nested filters -/

section
variable {f g : Filter} {key : String} {field : FilterField}

theorem nestedFor?_of_field? (h : f.field? key = some field) :
    f.nestedFor? key = field.nested.filter fun nested => !nested.isEmpty := by
  rw [nestedFor?, h]

theorem hasCalls_of_nestedFor? (hf : f.hasCalls = false) (h : f.nestedFor? key = some g) :
    g.hasCalls = false := by
  cases hfield : f.field? key with
  | none =>
    rw [nestedFor?, hfield] at h
    cases h
  | some field =>
    have hcalls := hasCalls_of_field? hf hfield
    rw [nestedFor?_of_field? hfield] at h
    obtain ⟨name, calls, nested⟩ := field
    obtain rfl : nested = some g := (Option.filter_eq_some_iff.1 h).1
    rw [FilterField.hasCalls, Bool.or_eq_false_iff] at hcalls
    exact hcalls.2

theorem pruneField_of_nestedFor? (hf : f.hasCalls = false) (h : f.field? key = some field)
    (hg : f.nestedFor? key = some g) (v : Value) : pruneField field v = mapDocuments (prune g) v := by
  have hcalls := hasCalls_of_field? hf h
  rw [nestedFor?_of_field? h] at hg
  obtain ⟨name, calls, nested⟩ := field
  obtain rfl : nested = some g := (Option.filter_eq_some_iff.1 hg).1
  exact pruneField_of_nested hcalls v

/-- Under a key without nested filter, or with one that is empty, everything is left. -/
theorem pruneField_of_not_nestedFor? (hf : f.hasCalls = false) (h : f.field? key = some field)
    (hg : f.nestedFor? key = none) (v : Value) : pruneField field v = v := by
  have hcalls := hasCalls_of_field? hf h
  rw [nestedFor?_of_field? h] at hg
  obtain ⟨name, calls, _ | nested⟩ := field
  · exact pruneField_of_no_nested hcalls v
  · have hempty : nested.isEmpty = true := by simpa [FilterField.nested] using hg
    have hid : prune nested = fun doc => doc := funext (prune_of_isEmpty hempty)
    rw [pruneField_of_nested hcalls, hid, mapDocuments_id]

end

end Filter

end DocumentTemplates
