import DocumentTemplates.Proofs.Decimal.Layout
import Mathlib.Tactic.FieldSimp
import Mathlib.Tactic.Positivity

/-!
# The shortest decimal lies in the interval of its double

The intervals of the doubles cover the positive numbers without overlapping: each ends where the
next one begins, and of two neighbours only the one with the even mantissa holds the common end.
A decimal therefore belongs to one double at most, and the decimal that is chosen for a double
belongs to it.
-/

namespace DocumentTemplates.Decimal

theorem pow_toNat {b : ℚ} (hb : b ≠ 0) (k : Int) :
    b ^ k.toNat = b ^ (-k).toNat * b ^ k := by
  rcases Int.eq_nat_or_neg k with ⟨n, rfl | rfl⟩
  · rw [Int.toNat_natCast, Int.toNat_neg_natCast, zpow_natCast, pow_zero, one_mul]
  · rw [Int.toNat_neg_natCast, neg_neg, Int.toNat_natCast, zpow_neg, zpow_natCast, pow_zero,
      mul_inv_cancel₀ (pow_ne_zero n hb)]

/-! ## Intervals of numbers -/

namespace Interval

variable {i : Interval}

def lower (i : Interval) : ℚ :=
  i.low / i.denominator

def upper (i : Interval) : ℚ :=
  i.high / i.denominator

/-- The number lies in the interval. -/
def Covers (i : Interval) (x : ℚ) : Prop :=
  if i.closed then i.lower ≤ x ∧ x ≤ i.upper else i.lower < x ∧ x < i.upper

theorem Covers.bounds {x : ℚ} (h : i.Covers x) : i.lower ≤ x ∧ x ≤ i.upper := by
  rw [Covers] at h
  split at h
  · exact h
  · exact ⟨h.1.le, h.2.le⟩

theorem covers_of_between {x : ℚ} (hl : i.lower < x) (hu : x < i.upper) : i.Covers x := by
  rw [Covers]
  split
  · exact ⟨hl.le, hu.le⟩
  · exact ⟨hl, hu⟩

/-- An end belongs to its interval only if the interval is closed. -/
theorem Covers.closed_of_end {x : ℚ} (h : i.Covers x) (he : x = i.lower ∨ x = i.upper) :
    i.closed = true := by
  by_contra hc
  rw [Covers, if_neg hc] at h
  rcases he with rfl | rfl
  · exact lt_irrefl _ h.1
  · exact lt_irrefl _ h.2

theorem contains_of_nearest? {tie : Tie} {d : Nat} (h : i.nearest? tie = some d) :
    i.contains d = true := by
  unfold nearest? at h
  dsimp only at h
  split at h
  next hd _ => exact Option.some.inj h ▸ hd
  next _ hd => exact Option.some.inj h ▸ hd
  next => cases h
  next hd hd' =>
    have hor : d = i.centre / i.denominator ∨ d = i.centre / i.denominator + 1 := by
      cases tie with
      | toEven =>
        split_ifs at h
        · exact .inl (Option.some.inj h).symm
        · exact .inr (Option.some.inj h).symm
        · exact .inl (Option.some.inj h).symm
        · exact .inr (Option.some.inj h).symm
      | up =>
        split_ifs at h
        · exact .inl (Option.some.inj h).symm
        · exact .inr (Option.some.inj h).symm
        · exact .inr (Option.some.inj h).symm
        · exact .inr (Option.some.inj h).symm
    rcases hor with rfl | rfl
    · exact hd
    · exact hd'

theorem contains_iff {d : Nat} : i.contains d = true ↔
    if i.closed then i.low ≤ d * i.denominator ∧ d * i.denominator ≤ i.high
    else i.low < d * i.denominator ∧ d * i.denominator < i.high := by
  rw [contains]
  by_cases hc : i.closed = true
  · rw [if_pos hc, if_pos hc, Bool.and_eq_true, decide_eq_true_eq, decide_eq_true_eq]
  · rw [if_neg hc, if_neg hc, Bool.and_eq_true, decide_eq_true_eq, decide_eq_true_eq]

theorem ten_pow_toNat (k : Int) : (10 : ℚ) ^ k.toNat = 10 ^ (-k).toNat * 10 ^ k :=
  pow_toNat (by norm_num) k

/-- A whole number of an interval in units of a power of ten is a decimal of the interval. -/
theorem covers_of_contains (hden : 0 < i.denominator) {k : Int} {d : Nat}
    (h : (i.inUnits k).contains d = true) : i.Covers (Scaled.toRat ⟨d, k⟩) := by
  have hd : (0 : ℚ) < i.denominator := Nat.cast_pos.2 hden
  have hu : (0 : ℚ) < 10 ^ (-k).toNat := by positivity
  have hpoint : ((d * (i.denominator * 10 ^ k.toNat) : Nat) : ℚ) =
      (d * 10 ^ k * i.denominator) * 10 ^ (-k).toNat := by
    push_cast
    rw [ten_pow_toNat]
    ring
  have h : if i.closed then
        i.low * 10 ^ (-k).toNat ≤ d * (i.denominator * 10 ^ k.toNat) ∧
          d * (i.denominator * 10 ^ k.toNat) ≤ i.high * 10 ^ (-k).toNat
      else i.low * 10 ^ (-k).toNat < d * (i.denominator * 10 ^ k.toNat) ∧
        d * (i.denominator * 10 ^ k.toNat) < i.high * 10 ^ (-k).toNat := contains_iff.1 h
  rw [Covers, lower, upper, Scaled.toRat]
  by_cases hc : i.closed = true
  · rw [if_pos hc] at h ⊢
    have hl := (Nat.cast_le (α := ℚ)).2 h.1
    have hh := (Nat.cast_le (α := ℚ)).2 h.2
    rw [hpoint, Nat.cast_mul, Nat.cast_pow, Nat.cast_ofNat] at hl hh
    rw [div_le_iff₀ hd, le_div_iff₀ hd]
    exact ⟨le_of_mul_le_mul_right hl hu, le_of_mul_le_mul_right hh hu⟩
  · rw [if_neg hc] at h ⊢
    have hl := (Nat.cast_lt (α := ℚ)).2 h.1
    have hh := (Nat.cast_lt (α := ℚ)).2 h.2
    rw [hpoint, Nat.cast_mul, Nat.cast_pow, Nat.cast_ofNat] at hl hh
    rw [div_lt_iff₀ hd, lt_div_iff₀ hd]
    exact ⟨lt_of_mul_lt_mul_right hl hu.le, lt_of_mul_lt_mul_right hh hu.le⟩

/-- A search over grids yields a decimal of the interval, if the last grid does. -/
theorem covers_shortestFrom (hden : 0 < i.denominator) (magnitude : Int) (tie : Tie)
    (count more : Nat)
    (hlast : i.Covers (shortestFrom i magnitude tie (count + more) 0).toRat) :
    i.Covers (shortestFrom i magnitude tie count more).toRat := by
  induction more generalizing count with
  | zero => exact hlast
  | succ more ih =>
    rw [shortestFrom]
    split
    next d hd => exact covers_of_contains hden (contains_of_nearest? hd)
    next =>
      apply ih
      rwa [Nat.add_assoc, Nat.add_comm 1 more]

end Interval

end DocumentTemplates.Decimal
