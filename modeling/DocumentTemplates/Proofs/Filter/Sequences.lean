import DocumentTemplates.Build
import DocumentTemplates.Proofs.Sorting
import DocumentTemplates.Proofs.Value.Order

/-!
# Calls on sequences

The calls of a field act on a sequence one after the other. What is left of it stands at distinct
positions. A sort leaves all of them, in the order of the keys, and equal keys as they stood; only
where it meets integers and doubles together there may be no such order. Calls look at items only
through their sort keys. So data can be selected before or after it is turned into plain values.
-/

namespace DocumentTemplates

/-- Both integers and doubles are among the keys. -/
def Value.MixNumbers (keys : List Value) : Prop :=
  (∃ i, Value.integer i ∈ keys) ∧ ∃ x, Value.float x ∈ keys

namespace FunctionCall

variable {α β : Type}

/-- The keys by which a call sorts. -/
def keys (sortKey : α → Option String → Value) (call : FunctionCall) (items : List α) :
    List Value :=
  items.map fun item => sortKey item call.args.head?

/-- The order in which a call sorts: that of values, or the reverse. -/
def order (call : FunctionCall) (a b : Value) : Ordering :=
  if call.args[1]? = some "desc" then (a.sortCompare b).swap else a.sortCompare b

/-- What a call makes of a sequence: its first items, if the call has a count, or its items
arranged by their keys. -/
inductive Acts (sortKey : α → Option String → Value) (call : FunctionCall) (items : List α) :
    List α → Prop
  | limit {n : Nat} (hlimit : call.function = .limit)
      (hn : call.args.head?.bind Decimal.count? = some n) : Acts sortKey call items (items.take n)
  | unlimited (hlimit : call.function = .limit)
      (hn : call.args.head?.bind Decimal.count? = none) : Acts sortKey call items items
  | sort {positions : List Nat} (hsort : call.function = .sort)
      (harranged : Sorting.Arranges call.order (call.keys sortKey items) positions) :
      Acts sortKey call items (Sorting.pick items positions)

section
variable {sortKey : α → Option String → Value} {call : FunctionCall} {items : List α}

/-! ## Sorting -/

theorem order_swap (call : FunctionCall) (a b : Value) :
    call.order b a = (call.order a b).swap := by
  unfold order
  rw [Value.sortCompare_swap a b]
  split <;> rfl

theorem order_trans {keys : List Value} (hkeys : ¬ Value.MixNumbers keys) {a b c : Value}
    (ha : a ∈ keys) (hb : b ∈ keys) (hc : c ∈ keys) (hab : call.order a b ≠ .gt)
    (hbc : call.order b c ≠ .gt) : call.order a c ≠ .gt := by
  have hnot : ∀ {a b c : Value}, a ∈ keys → b ∈ keys → ¬ Value.Confused a b c := by
    intro a b c ha hb hconfused
    cases hconfused with
    | mk => exact hkeys ⟨⟨_, ha⟩, ⟨_, hb⟩⟩
  by_cases hdesc : call.args[1]? = some "desc"
  · simp only [order, hdesc, if_true, ← Value.sortCompare_swap] at *
    exact Value.sortCompare_trans (hnot hc hb) hbc hab
  · simp only [order, hdesc, if_false] at *
    exact Value.sortCompare_trans (hnot ha hb) hab hbc

theorem apply_limit (hlimit : call.function = .limit) :
    call.apply sortKey items =
      (call.args.head?.bind Decimal.count?).elim items fun n => items.take n := by
  simp only [apply, hlimit]
  cases call.args.head?.bind Decimal.count? <;> rfl

theorem apply_sort (hsort : call.function = .sort) :
    call.apply sortKey items = Sorting.stableSort (fun x y =>
      call.order (sortKey x call.args.head?) (sortKey y call.args.head?) = .lt) items := by
  simp only [apply, hsort, Sorting.stableSort_map, List.map_map]
  refine (List.map_id' _).trans ?_
  congr 1
  funext x y
  unfold order
  split
  · cases (sortKey x call.args.head?).sortCompare (sortKey y call.args.head?) <;> rfl
  · rfl

/-! ## One call, all calls -/

/-- A call acts in one way only. -/
theorem Acts.unique {left left' : List α} (h : call.Acts sortKey items left)
    (h' : call.Acts sortKey items left') : left = left' := by
  cases h with
  | limit hlimit hn =>
    cases h' with
    | limit _ hn' => rw [Option.some.inj (hn.symm.trans hn')]
    | unlimited _ hn' => cases hn.symm.trans hn'
    | sort hsort => cases hlimit.symm.trans hsort
  | unlimited hlimit hn =>
    cases h' with
    | limit _ hn' => cases hn.symm.trans hn'
    | unlimited _ _ => rfl
    | sort hsort => cases hlimit.symm.trans hsort
  | sort hsort harranged =>
    cases h' with
    | limit hlimit _ => cases hsort.symm.trans hlimit
    | unlimited hlimit _ => cases hsort.symm.trans hlimit
    | sort _ harranged' => rw [harranged.unique call.order_swap harranged']

theorem acts_apply (hkeys : call.function = .sort → ¬ Value.MixNumbers (call.keys sortKey items)) :
    call.Acts sortKey items (call.apply sortKey items) := by
  cases hfunction : call.function with
  | limit =>
    cases hn : call.args.head?.bind Decimal.count? with
    | some n =>
      rw [apply_limit hfunction, hn, Option.elim_some]
      exact .limit hfunction hn
    | none =>
      rw [apply_limit hfunction, hn, Option.elim_none]
      exact .unlimited hfunction hn
  | sort =>
    obtain ⟨positions, harranged, hpick⟩ := Sorting.exists_arranges call.order_swap
      fun a ha b hb c hc => order_trans (hkeys hfunction) ha hb hc
    rw [apply_sort hfunction, hpick]
    exact .sort hfunction harranged

theorem apply_subperm : (call.apply sortKey items).Subperm items := by
  cases hfunction : call.function with
  | limit =>
    rw [apply_limit hfunction]
    cases call.args.head?.bind Decimal.count? with
    | some n => exact (List.take_sublist n items).subperm
    | none => exact .refl _
  | sort =>
    rw [apply_sort hfunction]
    exact (Sorting.stableSort_perm _).subperm

theorem applyAll_subperm (calls : List FunctionCall) :
    (applyAll sortKey calls items).Subperm items := by
  induction calls generalizing items with
  | nil => exact .refl _
  | cons call rest ih => exact ih.trans apply_subperm

end

/-- Calls look at items only through their sort keys. -/
theorem apply_map (sortKey : α → Option String → Value) (call : FunctionCall) (g : β → α)
    (items : List β) :
    call.apply sortKey (items.map g) = (call.apply (fun b => sortKey (g b)) items).map g := by
  cases hfunction : call.function with
  | limit =>
    rw [apply_limit hfunction, apply_limit hfunction]
    cases call.args.head?.bind Decimal.count? with
    | some n => exact List.map_take.symm
    | none => rfl
  | sort => rw [apply_sort hfunction, apply_sort hfunction, Sorting.stableSort_map]

theorem applyAll_map (sortKey : α → Option String → Value) (calls : List FunctionCall) (g : β → α)
    (items : List β) :
    applyAll sortKey calls (items.map g) =
      (applyAll (fun b => sortKey (g b)) calls items).map g := by
  induction calls generalizing items with
  | nil => rfl
  | cons call rest ih =>
    unfold applyAll at *
    rw [List.foldl_cons, List.foldl_cons, apply_map, ih]

theorem applyAll_concat (sortKey : α → Option String → Value) (calls : List FunctionCall)
    (call : FunctionCall) (items : List α) :
    applyAll sortKey (calls ++ [call]) items =
      call.apply sortKey (applyAll sortKey calls items) :=
  List.foldl_append

/-- Each call, in declared order, makes of the sequence that reaches it what it should, and nothing
else; for a sort this takes keys that are not integers and doubles together. Whatever the keys, the
items that are left stand at distinct positions of the sequence. -/
theorem applyAll_arranges (sortKey : α → Option String → Value) (calls : List FunctionCall)
    (items : List α) :
    (∀ before call after, calls = before ++ call :: after →
      (call.function = .sort →
        ¬ Value.MixNumbers (call.keys sortKey (applyAll sortKey before items))) →
      ∀ left, call.Acts sortKey (applyAll sortKey before items) left ↔
        left = applyAll sortKey (before ++ [call]) items) ∧
    ∃ positions, positions.Nodup ∧ (∀ p ∈ positions, p < items.length) ∧
      applyAll sortKey calls items = Sorting.pick items positions := by
  constructor
  · intro before call after _ hkeys left
    rw [applyAll_concat]
    have hacts := acts_apply hkeys
    exact ⟨fun h => h.unique hacts, fun h => h ▸ hacts⟩
  · have hnumbered := applyAll_map sortKey calls Prod.fst items.zipIdx
    rw [List.zipIdx_map_fst] at hnumbered
    have hsub : (applyAll (fun e => sortKey e.1) calls items.zipIdx).Subperm items.zipIdx :=
      applyAll_subperm calls
    obtain ⟨hpick, hnodup, hbound⟩ := Sorting.pick_of_subperm hsub
    exact ⟨_, hnodup, hbound, hnumbered.trans hpick⟩

/-- People by age, the oldest first and those of one age as they stood; then the first three. -/
theorem applyAll_arranges_people :
    let person (id age : Int64) : Value :=
      .document [("id", .integer id), ("age", .integer age)]
    let people := [person 1 30, person 2 41, person 3 41, person 4 52]
    let sort : FunctionCall := ⟨.sort, ["age", "desc"]⟩
    let calls := [sort, ⟨.limit, ["3"]⟩]
    sort.keys Value.sortKey people = [.integer 30, .integer 41, .integer 41, .integer 52] ∧
      ¬ Value.MixNumbers (sort.keys Value.sortKey people) ∧
      sort.Acts Value.sortKey people [person 4 52, person 2 41, person 3 41, person 1 30] ∧
      applyAll Value.sortKey calls people = [person 4 52, person 2 41, person 3 41] := by
  intro person people sort calls
  have hkeys : sort.keys Value.sortKey people =
      [.integer 30, .integer 41, .integer 41, .integer 52] := rfl
  have hunmixed : ¬ Value.MixNumbers (sort.keys Value.sortKey people) := by
    rintro ⟨-, x, hx⟩
    simp [hkeys] at hx
  have hacts := (applyAll_arranges Value.sortKey calls people).1 [] sort [⟨.limit, ["3"]⟩] rfl
    fun _ => hunmixed
  exact ⟨hkeys, hunmixed, (hacts _).2 rfl, rfl⟩

end FunctionCall

/-! ## Data and plain values -/

namespace Data

theorem toValues_eq_map (items : List Data) : toValues items = items.map toValue := by
  induction items with
  | nil => rfl
  | cons item rest ih => rw [toValues, ih, List.map_cons]

theorem get?_toEntries (members : List (String × Data)) (name : String) :
    OrderedMap.get? (toEntries members) name = (OrderedMap.get? members name).map toValue := by
  induction members with
  | nil => rfl
  | cons member rest ih =>
    rw [toEntries, OrderedMap.get?, OrderedMap.get?, ih]
    split <;> rfl

/-- Items sort as their plain values do. -/
theorem sortKey_toValue (item : Data) (key : Option String) :
    item.toValue.sortKey key = item.sortKey key := by
  cases key with
  | none => rfl
  | some name =>
    cases item with
    | record kind contentKey members =>
      exact congrArg (fun v => v.getD Value.null) (get?_toEntries members name)
    | _ => rfl

end Data

namespace Filter

/-- The calls of a field leave the same, whether they select data that is then turned into plain
values, or select among the plain values. -/
theorem applyCalls_toValues (f : Filter) (name : String) (items : List Data) :
    f.applyCalls (.array (Data.toValues items)) name =
      .array (Data.toValues (FilterField.selectItems (f.field? name) items)) := by
  unfold applyCalls
  cases f.field? name with
  | none => rfl
  | some field =>
    have hkey : (fun item => Value.sortKey (Data.toValue item)) = Data.sortKey :=
      funext fun item => funext fun key => Data.sortKey_toValue item key
    rw [Data.toValues_eq_map, Data.toValues_eq_map]
    refine congrArg Value.array ((FunctionCall.applyAll_map _ _ _ _).trans ?_)
    rw [hkey]
    rfl

end Filter

end DocumentTemplates
