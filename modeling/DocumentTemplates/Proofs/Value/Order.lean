import DocumentTemplates.Proofs.Decimal.Wholes
import DocumentTemplates.Value.Order

/-!
# Sorting by the order of values

The order by which sequences are sorted compares two integers by value, and an integer with a
double as doubles. Each of the two ways is an order by itself. Together they are one except where
two integers are the same double and that double stands between them: both integers then equal the
double, and still are not equal.
-/

namespace DocumentTemplates.Value

/-- The first integer is larger than the second, but both equal a double that stands between
them. -/
inductive Confused : Value → Value → Value → Prop
  | mk {i j : Int64} {x : Double} : j.toInt < i.toInt →
    (integer i).sortCompare (.float x) = .eq → (Value.float x).sortCompare (.integer j) = .eq →
    Confused (.integer i) (.float x) (.integer j)

theorem compare_ne_gt_trans {α : Type} [Ord α] [Std.TransOrd α] {a b c : α}
    (hab : compare a b ≠ .gt) (hbc : compare b c ≠ .gt) : compare a c ≠ .gt := by
  rw [Ne, Ordering.ne_gt_iff_isLE] at *
  exact Std.TransOrd.isLE_trans hab hbc

theorem rank_le {a b : Value} (h : a.sortCompare b ≠ .gt) : a.rank ≤ b.rank := by
  cases a <;> cases b <;> first | exact Nat.le_refl _ | exact compare_le_iff_le.1 h

theorem sortCompare_of_rank_lt {a b : Value} (h : a.rank < b.rank) : a.sortCompare b = .lt := by
  cases a <;> cases b <;> first | exact absurd h (Nat.lt_irrefl _) | exact compare_lt_iff_lt.2 h

theorem sortCompare_self (a : Value) : a.sortCompare a = .eq := by
  cases a <;> exact Std.ReflOrd.compare_self

theorem sortCompare_swap (a b : Value) : b.sortCompare a = (a.sortCompare b).swap := by
  cases a <;> cases b <;> exact Std.OrientedOrd.eq_swap

/-! ## Numbers -/

/-- The place of a number in the total order of doubles. -/
def doubleRank : Value → Int
  | .integer i => (Double.ofInt i.toInt).rank
  | .float x => x.rank
  | _ => 0

theorem natAbs_toInt_le (i : Int64) : i.toInt.natAbs ≤ 2 ^ 64 := by
  have hl := i.le_toInt
  have hu := i.toInt_lt
  omega

theorem doubleRank_integer (i : Int64) : (integer i).doubleRank = Double.intRank i.toInt :=
  Double.rank_ofInt (natAbs_toInt_le i)

/-- In both ways of comparing, a number that is not larger is not larger as a double. -/
theorem doubleRank_le {a b : Value} (hrank : a.rank = b.rank) (h : a.sortCompare b ≠ .gt) :
    a.doubleRank ≤ b.doubleRank := by
  match a, b, hrank with
  | .integer i, .integer j, _ =>
    rw [doubleRank_integer, doubleRank_integer]
    exact Double.intRank_mono (compare_le_iff_le.1 h)
  | .integer _, .float _, _ => exact compare_le_iff_le.1 h
  | .float _, .integer _, _ => exact compare_le_iff_le.1 h
  | .float _, .float _, _ => exact compare_le_iff_le.1 h
  | .null, .null, _ => exact Int.le_refl _
  | .bool _, .bool _, _ => exact Int.le_refl _
  | .string _, .string _, _ => exact Int.le_refl _
  | .array _, .array _, _ => exact Int.le_refl _
  | .document _, .document _, _ => exact Int.le_refl _

/-- Confusion takes integers that doubles do not tell apart, so a large one. -/
theorem Confused.large {a b c : Value} (h : Confused a b c) :
    ∃ i j : Int64, a = .integer i ∧ c = .integer j ∧
      (2 ^ 53 < i.toInt.natAbs ∨ 2 ^ 53 < j.toInt.natAbs) := by
  cases h with
  | @mk i j x hlt hi hj =>
    refine ⟨i, j, rfl, rfl, ?_⟩
    by_contra hsmall
    rw [not_or, Nat.not_lt, Nat.not_lt] at hsmall
    have hrank := Double.intRank_lt hlt hsmall.2 hsmall.1
    have hix : (integer i).doubleRank = (Value.float x).doubleRank := compare_eq_iff_eq.1 hi
    have hxj : (Value.float x).doubleRank = (integer j).doubleRank := compare_eq_iff_eq.1 hj
    rw [doubleRank_integer] at hix hxj
    omega

theorem sortCompare_trans {a b c : Value} (hconfused : ¬ Confused a b c)
    (hab : a.sortCompare b ≠ .gt) (hbc : b.sortCompare c ≠ .gt) : a.sortCompare c ≠ .gt := by
  rcases ((rank_le hab).trans (rank_le hbc)).lt_or_eq with hlt | hac
  · rw [sortCompare_of_rank_lt hlt]
    decide
  have hrank : a.rank = b.rank := Nat.le_antisymm (rank_le hab) ((rank_le hbc).trans hac.ge)
  have hrank' : b.rank = c.rank := hrank.symm.trans hac
  have hdouble : a.doubleRank ≤ c.doubleRank :=
    (doubleRank_le hrank hab).trans (doubleRank_le hrank' hbc)
  match a, b, c, hrank, hrank' with
  | .null, .null, .null, _, _ => exact nofun
  | .bool _, .bool _, .bool _, _, _ => exact compare_ne_gt_trans hab hbc
  | .string _, .string _, .string _, _, _ => exact compare_ne_gt_trans hab hbc
  | .array _, .array _, .array _, _, _ => exact compare_ne_gt_trans hab hbc
  | .document _, .document _, .document _, _, _ => exact compare_ne_gt_trans hab hbc
  | .integer _, .integer _, .integer _, _, _ => exact compare_ne_gt_trans hab hbc
  | .integer i, .float x, .integer k, _, _ =>
    -- Were the first integer larger, all three would have one place as doubles.
    rw [sortCompare, compare_le_iff_le]
    by_contra hlt
    have hback : (integer k).doubleRank ≤ (integer i).doubleRank :=
      doubleRank_le rfl (compare_le_iff_le.2 (not_le.1 hlt).le)
    have hix : (integer i).doubleRank ≤ (Value.float x).doubleRank := doubleRank_le rfl hab
    have hxk : (Value.float x).doubleRank ≤ (integer k).doubleRank := doubleRank_le rfl hbc
    exact hconfused ⟨not_le.1 hlt, compare_eq_iff_eq.2 (hix.antisymm (hxk.trans hback)),
      compare_eq_iff_eq.2 (hxk.antisymm (hback.trans hix))⟩
  | .integer _, .integer _, .float _, _, _ => exact compare_le_iff_le.2 hdouble
  | .integer _, .float _, .float _, _, _ => exact compare_le_iff_le.2 hdouble
  | .float _, .integer _, .integer _, _, _ => exact compare_le_iff_le.2 hdouble
  | .float _, .integer _, .float _, _, _ => exact compare_le_iff_le.2 hdouble
  | .float _, .float _, .integer _, _, _ => exact compare_le_iff_le.2 hdouble
  | .float _, .float _, .float _, _, _ => exact compare_le_iff_le.2 hdouble

/-- The order of values is a total preorder but for two integers that are confused by a double;
integers up to the power of two at which doubles leave out whole numbers are not. -/
theorem sortCompare_preorder (a b c : Value) :
    a.sortCompare a = .eq ∧
    b.sortCompare a = (a.sortCompare b).swap ∧
    ((a.sortCompare b ≠ .gt → b.sortCompare c ≠ .gt → a.sortCompare c ≠ .gt) ↔
      ¬ Confused a b c) ∧
    (Confused a b c → ∃ i j : Int64, a = .integer i ∧ c = .integer j ∧
      (2 ^ 53 < i.toInt.natAbs ∨ 2 ^ 53 < j.toInt.natAbs)) := by
  refine ⟨sortCompare_self a, sortCompare_swap a b, ⟨fun h hconfused => ?_,
    fun hconfused => sortCompare_trans hconfused⟩, Confused.large⟩
  cases hconfused with
  | @mk i j x hlt hi hj =>
    refine h (by rw [hi]; decide) (by rw [hj]; decide) ?_
    exact compare_gt_iff_gt.2 hlt

/-- A double may equal an integer and its successor. -/
theorem not_sortCompare_trans_double :
    ¬ ∀ a b c : Value, a.sortCompare b ≠ .gt → b.sortCompare c ≠ .gt → a.sortCompare c ≠ .gt := by
  intro h
  refine h (.integer 9007199254740993) (.float (.ofInt 9007199254740992))
    (.integer 9007199254740992) ?_ ?_ ?_
  · decide +kernel
  · decide +kernel
  · decide +kernel

end DocumentTemplates.Value
