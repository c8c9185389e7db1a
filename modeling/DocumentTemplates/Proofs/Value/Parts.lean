import DocumentTemplates.Value

/-!
# The parts of a value

A value together with everything that is nested in it, and how deep the nesting goes.
-/

namespace DocumentTemplates.Value

mutual

/-- The value itself and the values nested in it, at every depth. -/
def parts : Value → List Value
  | .array items => .array items :: partsOfItems items
  | .document entries => .document entries :: partsOfEntries entries
  | v => [v]

def partsOfItems : List Value → List Value
  | [] => []
  | v :: rest => parts v ++ partsOfItems rest

def partsOfEntries : List (String × Value) → List Value
  | [] => []
  | (_, v) :: rest => parts v ++ partsOfEntries rest

end

theorem self_mem_parts (v : Value) : v ∈ v.parts := by
  cases v <;> exact List.mem_cons_self

theorem partsOfItems_eq_flatMap (items : List Value) :
    partsOfItems items = items.flatMap parts := by
  induction items with
  | nil => rfl
  | cons v rest ih => rw [partsOfItems, ih, List.flatMap_cons]

theorem partsOfEntries_eq_flatMap (entries : List (String × Value)) :
    partsOfEntries entries = entries.flatMap fun entry => entry.2.parts := by
  induction entries with
  | nil => rfl
  | cons entry rest ih => rw [partsOfEntries, ih, List.flatMap_cons]

/-- The keys of all documents in a value, at every depth. -/
def nestedKeys (v : Value) : List String :=
  v.parts.flatMap fun u => OrderedMap.keys u.entries

theorem forall_nestedKeys_array {items : List Value} {P : String → Prop} :
    (∀ key ∈ nestedKeys (.array items), P key) ↔ ∀ v ∈ items, ∀ key ∈ v.nestedKeys, P key := by
  rw [nestedKeys, parts, List.flatMap_cons, partsOfItems_eq_flatMap, List.flatMap_assoc]
  exact List.forall_mem_flatMap

theorem forall_nestedKeys_document {entries : List (String × Value)} {P : String → Prop} :
    (∀ key ∈ nestedKeys (.document entries), P key) ↔
      ∀ entry ∈ entries, P entry.1 ∧ ∀ key ∈ entry.2.nestedKeys, P key := by
  rw [nestedKeys, parts, List.flatMap_cons, partsOfEntries_eq_flatMap, List.flatMap_assoc,
    List.forall_mem_append]
  change (∀ key ∈ entries.map Prod.fst, P key) ∧
    (∀ key ∈ entries.flatMap fun entry => entry.2.nestedKeys, P key) ↔ _
  rw [List.forall_mem_map, List.forall_mem_flatMap]
  exact ⟨fun h entry he => ⟨h.1 entry he, h.2 entry he⟩,
    fun h => ⟨fun entry he => (h entry he).1, fun entry he => (h entry he).2⟩⟩

mutual

/-- How many arrays and documents are open at the deepest place of a value. -/
def depth : Value → Nat
  | .array items => depthOfItems items + 1
  | .document entries => depthOfEntries entries + 1
  | _ => 0

def depthOfItems : List Value → Nat
  | [] => 0
  | v :: rest => max (depth v) (depthOfItems rest)

def depthOfEntries : List (String × Value) → Nat
  | [] => 0
  | (_, v) :: rest => max (depth v) (depthOfEntries rest)

end

end DocumentTemplates.Value
