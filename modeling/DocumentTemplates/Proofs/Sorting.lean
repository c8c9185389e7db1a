import DocumentTemplates.Sorting
import Mathlib.Data.List.Nodup
import Mathlib.Data.List.Perm.Subperm

/-!
# Laws of stable sorting

Sorting moves elements without looking at more than the test "comes before", so it may be done on
numbered elements and the numbers be read off. They are the positions of the sequence in the order
of the elements, and elements that are equal in that order stand as they stood. No other order of
the positions is like that.
-/

namespace DocumentTemplates.Sorting

variable {α β κ : Type}

/-! ## Moving elements -/

section
variable {before : α → α → Bool}

theorem stableSort_perm (xs : List α) : (stableSort before xs).Perm xs := by
  have hfold : ∀ sorted : List α,
      (xs.foldl (fun sorted x => insertFromEnd before x sorted) sorted).Perm (xs ++ sorted) := by
    induction xs with
    | nil => exact fun sorted => .refl _
    | cons x rest ih =>
      intro sorted
      have hinsert := (insertFromEnd_perm before x sorted).append_left rest
      exact (ih _).trans (hinsert.trans List.perm_middle)
  have h := hfold []
  rw [List.append_nil] at h
  exact (List.reverse_perm _).trans h

theorem insertFromEnd_map (g : β → α) (x : β) (xs : List β) :
    insertFromEnd before (g x) (xs.map g) =
      (insertFromEnd (fun a b => before (g a) (g b)) x xs).map g := by
  induction xs with
  | nil => rfl
  | cons y rest ih =>
    rw [List.map_cons, insertFromEnd, insertFromEnd, ih]
    split <;> rfl

/-- Sorting by what elements are mapped to, and mapping them. -/
theorem stableSort_map (g : β → α) (xs : List β) :
    stableSort before (xs.map g) = (stableSort (fun a b => before (g a) (g b)) xs).map g := by
  have hfold : ∀ sorted : List β,
      (xs.map g).foldl (fun sorted x => insertFromEnd before x sorted) (sorted.map g) =
        (xs.foldl (fun sorted x => insertFromEnd (fun a b => before (g a) (g b)) x sorted)
          sorted).map g := by
    induction xs with
    | nil => exact fun sorted => rfl
    | cons x rest ih =>
      intro sorted
      rw [List.map_cons, List.foldl_cons, List.foldl_cons, insertFromEnd_map, ih]
  rw [stableSort, stableSort, List.map_reverse, ← hfold []]
  rfl

/-- On the elements of a sequence, "does not come before" is a total preorder. -/
structure OrdersOn (before : α → α → Bool) (xs : List α) : Prop where
  asymm : ∀ a ∈ xs, ∀ b ∈ xs, before a b = true → before b a = false
  trans : ∀ a ∈ xs, ∀ b ∈ xs, ∀ c ∈ xs,
    before b a = false → before c b = false → before c a = false

/-- Sorted, with elements that are equal in the order as `earlier` has them. -/
def InOrder (before : α → α → Bool) (earlier : α → α → Prop) (a b : α) : Prop :=
  before a b = true ∨ before b a = false ∧ earlier a b

theorem insertFromEnd_pairwise {earlier : α → α → Prop} {all : List α}
    (h : OrdersOn before all) {x : α} (hx : x ∈ all) {sorted : List α}
    (hsorted : ∀ y ∈ sorted, y ∈ all) (hearlier : ∀ y ∈ sorted, earlier y x)
    (hpairwise : sorted.Pairwise fun b a => InOrder before earlier a b) :
    (insertFromEnd before x sorted).Pairwise fun b a => InOrder before earlier a b := by
  induction sorted with
  | nil => exact List.pairwise_singleton _ x
  | cons y rest ih =>
    obtain ⟨hy, hrest⟩ := List.pairwise_cons.1 hpairwise
    have hrest' := ih (fun z hz => hsorted z (List.mem_cons_of_mem y hz))
      (fun z hz => hearlier z (List.mem_cons_of_mem y hz)) hrest
    rw [insertFromEnd]
    split
    · rename_i hbefore
      refine List.pairwise_cons.2 ⟨fun z hz => ?_, hrest'⟩
      rcases List.mem_cons.1 ((insertFromEnd_perm before x rest).mem_iff.1 hz) with rfl | hz
      · exact Or.inl hbefore
      · exact hy z hz
    · rename_i hnot
      have hxy : before x y = false := by simpa using hnot
      refine List.pairwise_cons.2 ⟨fun z hz => Or.inr ⟨?_, hearlier z hz⟩, hpairwise⟩
      rcases List.mem_cons.1 hz with rfl | hz'
      · exact hxy
      · -- what stands in front of `y` does not come behind it, so neither behind `x`
        have hzall := hsorted z hz
        have hyall := hsorted y List.mem_cons_self
        refine h.trans z hzall y hyall x hx ?_ hxy
        rcases hy z hz' with hzy | ⟨hyz, -⟩
        · exact h.asymm z hzall y hyall hzy
        · exact hyz

/-- The sorted sequence is in order, and equal elements keep theirs. -/
theorem stableSort_pairwise {earlier : α → α → Prop} {xs : List α} (h : OrdersOn before xs)
    (hearlier : xs.Pairwise earlier) : (stableSort before xs).Pairwise (InOrder before earlier) := by
  -- sorted so far are elements from the front, each of them earlier than those to come
  have hfold : ∀ {rest sorted : List α}, (∀ x ∈ rest, x ∈ xs) → (∀ y ∈ sorted, y ∈ xs) →
      rest.Pairwise earlier → (∀ y ∈ sorted, ∀ x ∈ rest, earlier y x) →
      sorted.Pairwise (fun b a => InOrder before earlier a b) →
      (rest.foldl (fun sorted x => insertFromEnd before x sorted) sorted).Pairwise
        fun b a => InOrder before earlier a b := by
    intro rest
    induction rest with
    | nil => exact fun _ _ _ _ hpairwise => hpairwise
    | cons x rest ih =>
      intro sorted hrest hsorted hpairs hcross hpairwise
      obtain ⟨hx, hpairs⟩ := List.pairwise_cons.1 hpairs
      have hxs := hrest x List.mem_cons_self
      have hmem : ∀ {y}, y ∈ insertFromEnd before x sorted → y = x ∨ y ∈ sorted :=
        fun hy => List.mem_cons.1 ((insertFromEnd_perm before x sorted).mem_iff.1 hy)
      refine ih (fun y hy => hrest y (List.mem_cons_of_mem x hy)) ?_ hpairs ?_ ?_
      · intro y hy
        rcases hmem hy with rfl | hy
        · exact hxs
        · exact hsorted y hy
      · intro y hy z hz
        rcases hmem hy with rfl | hy
        · exact hx z hz
        · exact hcross y hy z (List.mem_cons_of_mem x hz)
      · exact insertFromEnd_pairwise h hxs hsorted
          (fun y hy => hcross y hy x List.mem_cons_self) hpairwise
  rw [stableSort, List.pairwise_reverse]
  exact hfold (fun _ hx => hx) (fun _ hy => by cases hy) hearlier (fun _ hy => by cases hy) .nil

end

/-! ## Positions -/

/-- The elements at given positions, in the order of the positions. -/
def pick (items : List α) (positions : List Nat) : List α :=
  positions.filterMap fun p => items[p]?

/-- What is left of the numbered elements stands at the positions that the numbers say. -/
theorem pick_of_subperm {items : List α} {left : List (α × Nat)}
    (h : left.Subperm items.zipIdx) :
    left.map Prod.fst = pick items (left.map Prod.snd) ∧ (left.map Prod.snd).Nodup ∧
      ∀ p ∈ left.map Prod.snd, p < items.length := by
  have hget : ∀ e ∈ left, items[e.2]? = some e.1 :=
    fun e he => List.mem_zipIdx_iff_getElem?.1 (h.subset he)
  refine ⟨?_, ?_, ?_⟩
  · rw [pick, List.filterMap_map, ← List.filterMap_eq_map]
    exact List.filterMap_congr fun e he => (hget e he).symm
  · obtain ⟨kept, hperm, hsublist⟩ := h
    have hnodup : (items.zipIdx.map Prod.snd).Nodup := by
      rw [List.zipIdx_map_snd]
      exact List.nodup_range'
    exact (hperm.map Prod.snd).nodup_iff.1 (hnodup.sublist (hsublist.map Prod.snd))
  · intro p hp
    obtain ⟨e, he, rfl⟩ := List.mem_map.1 hp
    exact (List.getElem?_eq_some_iff.1 (hget e he)).1

/-- The positions of a sequence of keys, in the order of the keys, and where these are equal in the
order in which they stand. -/
structure Arranges (order : κ → κ → Ordering) (keys : List κ) (positions : List Nat) : Prop where
  perm : positions.Perm (List.range keys.length)
  ordered : positions.Pairwise fun p q => ∀ a b, keys[p]? = some a → keys[q]? = some b →
    order a b = .lt ∨ order a b = .eq ∧ p < q

section
variable {order : κ → κ → Ordering} (hswap : ∀ a b, order b a = (order a b).swap)
include hswap

/-- Positions are arranged in one way only. -/
theorem Arranges.unique {keys : List κ} {ps qs : List Nat} (hps : Arranges order keys ps)
    (hqs : Arranges order keys qs) : ps = qs := by
  refine List.Perm.eq_of_pairwise ?_ hps.ordered hqs.ordered (hps.perm.trans hqs.perm.symm)
  intro p q hp hq hpq hqp
  have hpk := List.getElem?_eq_getElem (List.mem_range.1 (hps.perm.mem_iff.1 hp))
  have hqk := List.getElem?_eq_getElem (List.mem_range.1 (hqs.perm.mem_iff.1 hq))
  have hback := hqp _ _ hqk hpk
  rw [hswap] at hback
  rcases hpq _ _ hpk hqk with hlt | ⟨heq, hlt⟩
  · simp [hlt] at hback
  · simp only [heq, Ordering.swap_eq, reduceCtorEq, true_and, false_or] at hback
    omega

theorem OrdersOn.of_keys (key : α → κ) {items : List α}
    (htrans : ∀ a ∈ items.map key, ∀ b ∈ items.map key, ∀ c ∈ items.map key,
      order a b ≠ .gt → order b c ≠ .gt → order a c ≠ .gt) :
    OrdersOn (fun x y => order (key x) (key y) = .lt) items where
  asymm a _ b _ hab := by
    rw [decide_eq_true_eq] at hab
    rw [decide_eq_false_iff_not, hswap, hab]
    decide
  trans a ha b hb c hc hba hcb := by
    have hnot : ∀ {x y : κ}, order y x ≠ .lt ↔ order x y ≠ .gt := by
      intro x y
      rw [hswap x y]
      cases order x y <;> decide
    rw [decide_eq_false_iff_not] at *
    rw [← ne_eq, hnot] at *
    exact htrans _ (List.mem_map_of_mem ha) _ (List.mem_map_of_mem hb) _ (List.mem_map_of_mem hc)
      hba hcb

/-- Sorting by keys arranges the positions. -/
theorem exists_arranges {key : α → κ} {items : List α}
    (htrans : ∀ a ∈ items.map key, ∀ b ∈ items.map key, ∀ c ∈ items.map key,
      order a b ≠ .gt → order b c ≠ .gt → order a c ≠ .gt) :
    ∃ positions, Arranges order (items.map key) positions ∧
      stableSort (fun x y => order (key x) (key y) = .lt) items = pick items positions := by
  let before (x y : α) : Bool := order (key x) (key y) = .lt
  let sorted := stableSort (fun e e' => before e.1 e'.1) items.zipIdx
  have hfst : items.zipIdx.map Prod.fst = items := List.zipIdx_map_fst 0 items
  have hperm : sorted.Perm items.zipIdx := stableSort_perm _
  have hunnumbered : stableSort before items = sorted.map Prod.fst := by
    rw [← stableSort_map Prod.fst items.zipIdx, hfst]
  have hpairwise : sorted.Pairwise
      (InOrder (fun e e' => before e.1 e'.1) fun e e' => e.2 < e'.2) := by
    refine stableSort_pairwise (OrdersOn.of_keys hswap (fun e : α × Nat => key e.1) ?_) ?_
    · have hkeys : items.map key = items.zipIdx.map fun e => key e.1 := by
        rw [← hfst, List.map_map, hfst]
        rfl
      rwa [← hkeys]
    · rw [← List.pairwise_map (f := Prod.snd) (R := (· < ·)), List.zipIdx_map_snd]
      exact List.pairwise_lt_range'
  obtain ⟨hpick, -, -⟩ := pick_of_subperm hperm.subperm
  refine ⟨sorted.map Prod.snd, ⟨?_, ?_⟩, hunnumbered.trans hpick⟩
  · have h := hperm.map Prod.snd
    rwa [List.zipIdx_map_snd, ← List.range_eq_range', ← List.length_map (f := key)] at h
  · rw [List.pairwise_map]
    refine hpairwise.imp_of_mem fun {e e'} he he' hinorder a b ha hb => ?_
    have hkey : ∀ e ∈ sorted, (items.map key)[e.2]? = some (key e.1) := by
      intro e he
      rw [List.getElem?_map, List.mem_zipIdx_iff_getElem?.1 (hperm.mem_iff.1 he)]
      rfl
    obtain rfl := Option.some.inj ((hkey e he).symm.trans ha)
    obtain rfl := Option.some.inj ((hkey e' he').symm.trans hb)
    rcases hinorder with hlt | ⟨hnot, hearlier⟩
    · exact Or.inl (of_decide_eq_true hlt)
    · have hnot := of_decide_eq_false hnot
      rw [hswap] at hnot
      cases hab : order (key e.1) (key e'.1) with
      | lt => exact Or.inl rfl
      | eq => exact Or.inr ⟨rfl, hearlier⟩
      | gt => exact absurd (congrArg Ordering.swap hab) hnot

end

end DocumentTemplates.Sorting
