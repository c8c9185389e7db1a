import DocumentTemplates.Proofs.Filter.Pruning
import DocumentTemplates.Proofs.Filter.Sequences
import DocumentTemplates.Proofs.OrderedMap.Reordering
import Mathlib.Data.List.Forall2

/-!
# Pruning as a projection

What pruning leaves of a document is a part of it: some of its entries, and of arrays the first
items, all in order and at every depth. As long as nothing is sorted, pruning once more changes
nothing, since all limits of a field together are one limit, and a limit does not look at the items.
What is left depends on the selected entries only.
-/

namespace DocumentTemplates

/-- What a selection may leave of a value. Of a document it leaves some of the keys, of an array the
first items, in order and with projections for values. Anything else is left as it is. -/
inductive Value.Projected : Value → Value → Prop
  | same (v : Value) : Projected v v
  | array {kept items : List Value} (n : Nat) (h : List.Forall₂ Projected kept (items.take n)) :
    Projected (.array kept) (.array items)
  | document {kept picked entries : Document} (hpicked : List.Sublist picked entries)
    (hkeys : kept.keys = picked.keys) (h : List.Forall₂ Projected kept.values picked.values) :
    Projected (.document kept) (.document entries)

mutual

/-- True if a call of the function stands in a filter, at any depth. -/
def Filter.hasCallOf (function : FilterFunction) : Filter → Bool
  | .mk _ fields => Filter.anyHasCallOf function fields

def Filter.anyHasCallOf (function : FilterFunction) : List FilterField → Bool
  | [] => false
  | field :: rest => FilterField.hasCallOf function field || Filter.anyHasCallOf function rest

def FilterField.hasCallOf (function : FilterFunction) : FilterField → Bool
  | .mk _ calls none => calls.any (·.function = function)
  | .mk _ calls (some nested) =>
    calls.any (·.function = function) || Filter.hasCallOf function nested

end

/-! ## Calls that only limit -/

/-- All limits of a field together are one limit, or none. -/
theorem FunctionCall.applyAll_of_no_sort {α : Type} (sortKey : α → Option String → Value)
    {calls : List FunctionCall} (h : calls.any (·.function = .sort) = false) :
    ∃ limit : Option Nat, ∀ items, applyAll sortKey calls items = limit.elim items items.take := by
  induction calls with
  | nil => exact ⟨none, fun _ => rfl⟩
  | cons call rest ih =>
    rw [List.any_cons, Bool.or_eq_false_iff] at h
    obtain ⟨limit, hrest⟩ := ih h.2
    have hcall : call.function = .limit := by
      cases hfunction : call.function with
      | limit => rfl
      | sort => simp [hfunction] at h
    have hstep : ∀ items, applyAll sortKey (call :: rest) items =
        applyAll sortKey rest (call.apply sortKey items) := fun _ => rfl
    cases hn : call.args.head?.bind Decimal.count? with
    | none =>
      refine ⟨limit, fun items => ?_⟩
      rw [hstep, apply_limit hcall, hn, Option.elim_none, hrest]
    | some n =>
      refine ⟨some (limit.elim n fun m => min m n), fun items => ?_⟩
      rw [hstep, apply_limit hcall, hn, Option.elim_some, hrest]
      cases limit with
      | none => rfl
      | some m => exact List.take_take

namespace Filter

theorem applyToValue_of_no_sort {calls : List FunctionCall}
    (h : calls.any (·.function = .sort) = false) :
    ∃ limit : Option Nat, ∀ items,
      applyToValue calls (.array items) = .array (limit.elim items items.take) := by
  obtain ⟨limit, happly⟩ := FunctionCall.applyAll_of_no_sort Value.sortKey h
  exact ⟨limit, fun items => congrArg Value.array (happly items)⟩

theorem applyToValue_applyToValue {calls : List FunctionCall}
    (h : calls.any (·.function = .sort) = false) (v : Value) :
    applyToValue calls (applyToValue calls v) = applyToValue calls v := by
  cases v with
  | array items =>
    obtain ⟨limit, happly⟩ := applyToValue_of_no_sort h
    rw [happly, happly]
    cases limit with
    | none => rfl
    | some n => simp only [Option.elim_some, List.take_take, min_self]
  | _ => rfl

/-- A limit may come before or after what is done to the documents among the items. -/
theorem applyToValue_mapDocuments {calls : List FunctionCall}
    (h : calls.any (·.function = .sort) = false) (inside : Document → Document) (v : Value) :
    applyToValue calls (mapDocuments inside v) = mapDocuments inside (applyToValue calls v) := by
  cases v with
  | array items =>
    obtain ⟨limit, happly⟩ := applyToValue_of_no_sort h
    rw [mapDocuments_array, happly, happly, mapDocuments_array]
    cases limit with
    | none => rfl
    | some n => exact congrArg Value.array List.map_take.symm
  | _ => rfl

/-! ## Once more -/

mutual

theorem mapDocuments_mapDocuments (first second : Document → Document) : (v : Value) →
    mapDocuments second (mapDocuments first v) = mapDocuments (fun doc => second (first doc)) v
  | .array items => congrArg Value.array (mapDocumentsItems_mapDocumentsItems first second items)
  | .document _ | .null | .bool _ | .integer _ | .float _ | .string _ => rfl

theorem mapDocumentsItems_mapDocumentsItems (first second : Document → Document) :
    (items : List Value) → mapDocumentsItems second (mapDocumentsItems first items) =
      mapDocumentsItems (fun doc => second (first doc)) items
  | [] => rfl
  | v :: rest => by
    rw [mapDocumentsItems, mapDocumentsItems, mapDocumentsItems, mapDocuments_mapDocuments first,
      mapDocumentsItems_mapDocumentsItems first]

end

mutual

theorem prune_prune : (f : Filter) → f.hasCallOf .sort = false → (doc : Document) →
    prune f (prune f doc) = prune f doc
  | .mk _ [], _, _ => rfl
  | .mk parent (field :: fields), h, doc => by
    have hf : (mk parent (field :: fields)).isEmpty = false := rfl
    rw [prune_eq_filterMap hf, prune_eq_filterMap hf, List.filterMap_filterMap]
    exact congrArg (fun g => List.filterMap g doc)
      (funext fun entry => pruneEntry_pruneEntry (field :: fields) h entry)

theorem pruneEntry_pruneEntry : (fields : List FilterField) →
    anyHasCallOf .sort fields = false → (entry : String × Value) →
      (pruneEntry fields entry).bind (pruneEntry fields) = pruneEntry fields entry
  | [], _, _ => rfl
  | field :: rest, h, (key, v) => by
    rw [anyHasCallOf, Bool.or_eq_false_iff] at h
    rw [pruneEntry]
    by_cases hkey : field.name = key
    · rw [if_pos hkey, Option.bind_some, pruneEntry, if_pos hkey, pruneField_pruneField field h.1 v]
    · rw [if_neg hkey]
      -- the key stays, so the entry passes over this field once more
      have hpass : ∀ w, pruneEntry (field :: rest) (key, w) = pruneEntry rest (key, w) :=
        fun w => by rw [pruneEntry, if_neg hkey]
      have ih := pruneEntry_pruneEntry rest h.2 (key, v)
      rw [pruneEntry_eq] at ih ⊢
      cases hfield : rest.find? (·.name = key) with
      | none => rfl
      | some other =>
        rw [hfield] at ih
        exact (hpass _).trans ih

theorem pruneField_pruneField : (field : FilterField) → field.hasCallOf .sort = false →
    (v : Value) → pruneField field (pruneField field v) = pruneField field v
  | .mk _ calls none, h, v => applyToValue_applyToValue h v
  | .mk _ calls (some nested), h, v => by
    rw [FilterField.hasCallOf, Bool.or_eq_false_iff] at h
    have hnested : (fun doc => prune nested (prune nested doc)) = prune nested :=
      funext (prune_prune nested h.2)
    rw [pruneField, pruneField, applyToValue_mapDocuments h.1, applyToValue_applyToValue h.1,
      mapDocuments_mapDocuments, hnested]

end

/-! ## A part of the document -/

mutual

theorem projected_mapDocuments {inside : Document → Document}
    (h : ∀ doc, Value.Projected (.document (inside doc)) (.document doc)) : (v : Value) →
      Value.Projected (mapDocuments inside v) v
  | .array items => .array items.length (by
      rw [List.take_length]
      exact projected_mapDocumentsItems h items)
  | .document doc => h doc
  | .null | .bool _ | .integer _ | .float _ | .string _ => .same _

theorem projected_mapDocumentsItems {inside : Document → Document}
    (h : ∀ doc, Value.Projected (.document (inside doc)) (.document doc)) : (items : List Value) →
      List.Forall₂ Value.Projected (mapDocumentsItems inside items) items
  | [] => .nil
  | v :: rest => .cons (projected_mapDocuments h v) (projected_mapDocumentsItems h rest)

end

/-- Calls that only limit, and then a projection of the documents inside. -/
theorem projected_mapDocuments_applyToValue {calls : List FunctionCall}
    (hcalls : calls.any (·.function = .sort) = false) {inside : Document → Document}
    (h : ∀ doc, Value.Projected (.document (inside doc)) (.document doc)) (v : Value) :
    Value.Projected (mapDocuments inside (applyToValue calls v)) v := by
  cases v with
  | array items =>
    obtain ⟨limit, happly⟩ := applyToValue_of_no_sort hcalls
    rw [happly]
    cases limit with
    | none => exact projected_mapDocuments h (.array items)
    | some n => exact .array n (projected_mapDocumentsItems h (items.take n))
  | _ => exact projected_mapDocuments h _

theorem projected_of_fields {f : Filter} (hf : f.isEmpty = false)
    (h : ∀ field ∈ f.fields, ∀ v, Value.Projected (pruneField field v) v)
    (doc : Document) : Value.Projected (.document (prune f doc)) (.document doc) := by
  suffices hpicked : ∃ picked : Document, List.Sublist picked doc ∧
      (prune f doc).keys = picked.keys ∧
      List.Forall₂ Value.Projected (prune f doc).values picked.values by
    obtain ⟨picked, hsub, hkeys, hvalues⟩ := hpicked
    exact .document hsub hkeys hvalues
  induction doc with
  | nil => exact ⟨[], .slnil, by rw [prune_nil], by rw [prune_nil]; exact .nil⟩
  | cons entry rest ih =>
    obtain ⟨key, v⟩ := entry
    obtain ⟨picked, hsub, hkeys, hvalues⟩ := ih
    rw [prune_cons hf]
    cases hfield : f.field? key with
    | none => exact ⟨picked, hsub.cons _, hkeys, hvalues⟩
    | some field =>
      exact ⟨(key, v) :: picked, hsub.cons_cons _, congrArg (List.cons key) hkeys,
        .cons (h field (List.mem_of_find?_eq_some hfield) v) hvalues⟩

mutual

theorem projected_prune : (f : Filter) → f.hasCallOf .sort = false → (doc : Document) →
    Value.Projected (.document (prune f doc)) (.document doc)
  | .mk _ [], _, _ => .same _
  | .mk parent (field :: fields), h, doc =>
    projected_of_fields (f := .mk parent (field :: fields)) rfl
      (projected_pruneField_of_mem (field :: fields) h) doc

theorem projected_pruneField_of_mem : (fields : List FilterField) →
    anyHasCallOf .sort fields = false → ∀ field ∈ fields, ∀ v,
      Value.Projected (pruneField field v) v
  | [], _ => fun _ hmem => (nomatch hmem)
  | first :: rest, h => by
    rw [anyHasCallOf, Bool.or_eq_false_iff] at h
    exact List.forall_mem_cons.2
      ⟨projected_pruneField first h.1, projected_pruneField_of_mem rest h.2⟩

theorem projected_pruneField : (field : FilterField) → field.hasCallOf .sort = false →
    (v : Value) → Value.Projected (pruneField field v) v
  | .mk _ calls none, h, v => by
    have hcut := projected_mapDocuments_applyToValue h (fun doc => .same (.document doc)) v
    rwa [mapDocuments_id] at hcut
  | .mk _ calls (some nested), h, v => by
    rw [FilterField.hasCallOf, Bool.or_eq_false_iff] at h
    exact projected_mapDocuments_applyToValue h.1 (projected_prune nested h.2) v

end

/-! ## What is not selected -/

theorem prune_retain {f : Filter} (hf : f.isEmpty = false) (doc : Document) :
    prune f (doc.retain fun key _ => f.selects key) = prune f doc := by
  induction doc with
  | nil => rfl
  | cons entry rest ih =>
    obtain ⟨key, v⟩ := entry
    have hstep : OrderedMap.retain ((key, v) :: rest) (fun key _ => f.selects key) =
        if f.selects key then (key, v) :: OrderedMap.retain rest (fun key _ => f.selects key)
        else OrderedMap.retain rest fun key _ => f.selects key := List.filter_cons
    rw [hstep, prune_cons hf]
    cases hfield : f.field? key with
    | none =>
      rw [if_neg (by simp [selects, hfield]), ih]
      rfl
    | some field =>
      rw [if_pos (by simp [selects, hfield]), prune_cons hf, hfield, ih]

theorem keys_prune {f : Filter} (hf : f.isEmpty = false) (doc : Document) :
    (prune f doc).keys = doc.keys.filter f.selects := by
  induction doc with
  | nil => rw [prune_nil]; rfl
  | cons entry rest ih =>
    obtain ⟨key, v⟩ := entry
    have hkeys : OrderedMap.keys ((key, v) :: rest) = key :: OrderedMap.keys rest := rfl
    rw [prune_cons hf, hkeys]
    cases hfield : f.field? key with
    | none => rw [List.filter_cons_of_neg (by simp [selects, hfield]), Option.elim_none, ih]
    | some field =>
      rw [List.filter_cons_of_pos (by simp [selects, hfield]), ← ih]
      rfl

/-- Without sorts, pruning leaves a projection of the document, and once more leaves the same. If
the filter has fields, the keys that it has fields for are left, and documents that hold the same
under these keys, in the same order, are pruned to the same. -/
theorem prune_projects {f : Filter} (hsort : f.hasCallOf .sort = false) (doc : Document) :
    prune f (prune f doc) = prune f doc ∧
      Value.Projected (.document (prune f doc)) (.document doc) ∧
      (f.isEmpty = false →
        (prune f doc).keys = doc.keys.filter f.selects ∧
        (doc.DistinctKeys → ∀ other : Document,
          doc.keys.filter f.selects = other.keys.filter f.selects →
          (∀ key, f.selects key = true → doc.get? key = other.get? key) →
          prune f doc = prune f other)) := by
  refine ⟨prune_prune f hsort doc, projected_prune f hsort doc, fun hf =>
    ⟨keys_prune hf doc, fun hdoc other hkeys hget => ?_⟩⟩
  rw [← prune_retain hf doc, ← prune_retain hf other,
    OrderedMap.retain_eq_retain hdoc hkeys hget]

/-- Two posts of three, one of them inside an array of its own, by the first of two fields for
posts. A second document has the same posts among other keys. -/
theorem prune_projects_posts :
    let limit (n : String) := FunctionCall.mk .limit [n]
    let inside := Filter.mk (some "posts") [.mk "title" [] none, .mk "tags" [limit "1"] none]
    let f := Filter.mk none [.mk "posts" [limit "3", limit "2"] (some inside),
      .mk "posts" [] none, .mk "id" [] (some (.mk (some "id") []))]
    let post (title : String) := Value.document [("body", .null), ("title", .string title),
      ("tags", .array [.integer 1, .integer 2])]
    let left (title : String) := Value.document [("title", .string title),
      ("tags", .array [.integer 1])]
    let posts := Value.array [.array [post "on", .null], post "off", post "out"]
    let doc : Document := [("name", .string "ida"), ("posts", posts), ("id", .integer 7)]
    let other : Document := [("posts", posts), ("age", .integer 30), ("id", .integer 7)]
    let pruned : Document := [("posts", .array [.array [left "on", .null], left "off"]),
      ("id", .integer 7)]
    (f.hasCallOf .sort = false ∧ f.isEmpty = false ∧ doc.DistinctKeys ∧
      doc.keys.filter f.selects = other.keys.filter f.selects ∧
      ∀ key, f.selects key = true → doc.get? key = other.get? key) ∧
      prune f doc = pruned ∧ prune f pruned = pruned ∧
      Value.Projected (.document pruned) (.document doc) ∧ prune f doc = prune f other := by
  intro limit inside f post left posts doc other pruned
  have hsort : f.hasCallOf .sort = false := rfl
  have hdoc : doc.DistinctKeys := (by decide : ["name", "posts", "id"].Nodup)
  have hkeys : doc.keys.filter f.selects = other.keys.filter f.selects := rfl
  have hget : ∀ key, f.selects key = true → doc.get? key = other.get? key := by
    intro key hkey
    obtain ⟨field, hfield⟩ := Option.isSome_iff_exists.1 hkey
    obtain rfl : field.name = key := by simpa using List.find?_some hfield
    have hmem := List.mem_of_find?_eq_some hfield
    simp only [f, fields, List.mem_cons, List.not_mem_nil, or_false] at hmem
    rcases hmem with rfl | rfl | rfl <;> rfl
  have hpruned : prune f doc = pruned := rfl
  obtain ⟨honce, hprojected, hselected⟩ := prune_projects hsort doc
  refine ⟨⟨hsort, rfl, hdoc, hkeys, hget⟩, hpruned, ?_, ?_,
    (hselected rfl).2 hdoc other hkeys hget⟩
  · rw [hpruned] at honce
    exact honce
  · rw [hpruned] at hprojected
    exact hprojected

end Filter

end DocumentTemplates
