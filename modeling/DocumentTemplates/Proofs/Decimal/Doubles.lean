import DocumentTemplates.Proofs.Decimal.Shortest

/-!
# The intervals of the doubles

The intervals of the finite doubles follow one another without gaps. The shortest decimal of a
double lies in the interval of that double and of no other.
-/

namespace DocumentTemplates.Decimal

namespace Binary

/-- The mantissa has 53 bits at most, the exponent is not below that of the smallest double, and
the gap below is narrow only at a power of two. -/
structure InRange (b : Binary) : Prop where
  mantissa_lt : b.mantissa < 2 ^ 53
  le_exponent : -1074 ≤ b.exponent
  narrow : b.narrowBelow = true → b.mantissa = 2 ^ 52

theorem ofBits_eq {biased fraction : Nat} (hb : biased < 2 ^ 11) (hf : fraction < 2 ^ 52) :
    ofBits (biased * 2 ^ 52 + fraction) =
      if biased = 0 then ⟨fraction, -1074, false⟩
      else ⟨2 ^ 52 + fraction, (biased : Int) - 1075, fraction = 0 && 1 < biased⟩ := by
  have hm : (biased * 2 ^ 52 + fraction) % Nat.pow 2 52 = fraction := by
    rw [Nat.pow_eq, Nat.mul_comm, Nat.mul_add_mod, Nat.mod_eq_of_lt hf]
  have hd : (biased * 2 ^ 52 + fraction) / Nat.pow 2 52 % Nat.pow 2 11 = biased := by
    rw [Nat.pow_eq, Nat.pow_eq, Nat.mul_comm, Nat.mul_add_div (by decide), Nat.div_eq_of_lt hf,
      Nat.add_zero, Nat.mod_eq_of_lt hb]
  rw [ofBits, hm, hd, Nat.pow_eq]

theorem exists_parts {bits : Nat} (h : bits < 2 ^ 63) :
    ∃ biased fraction, biased < 2 ^ 11 ∧ fraction < 2 ^ 52 ∧
      bits = biased * 2 ^ 52 + fraction := by
  refine ⟨bits / 2 ^ 52, bits % 2 ^ 52, ?_, Nat.mod_lt _ (by decide), ?_⟩
  · rw [Nat.div_lt_iff_lt_mul (by decide), ← Nat.pow_add]
    exact h
  · rw [Nat.mul_comm, Nat.div_add_mod]

theorem inRange_ofBits {bits : Nat} (h : bits < 2 ^ 63) : (ofBits bits).InRange := by
  obtain ⟨biased, fraction, hb, hf, rfl⟩ := exists_parts h
  rw [ofBits_eq hb hf]
  by_cases hz : biased = 0
  · rw [if_pos hz]
    exact ⟨by show fraction < _; omega, le_refl _, fun h => Bool.noConfusion h⟩
  · rw [if_neg hz]
    refine ⟨by show 2 ^ 52 + fraction < _; omega, by show -1074 ≤ (biased : Int) - 1075; omega, ?_⟩
    intro hn
    have hfz : fraction = 0 := of_decide_eq_true (Bool.and_eq_true _ _ ▸ hn).1
    show 2 ^ 52 + fraction = _
    rw [hfz, Nat.add_zero]

/-! ## Ends of an interval -/

theorem two_pow_toNat (e : Int) : (2 : ℚ) ^ e.toNat = 2 ^ (-e).toNat * 2 ^ e :=
  pow_toNat (by norm_num) e

theorem quarters_div (b : Binary) (n : Nat) :
    ((n * Nat.pow 2 b.exponent.toNat : Nat) : ℚ) / (b.interval.denominator : Nat) =
      n * 2 ^ b.exponent / 4 := by
  have hp : (2 : ℚ) ^ (-b.exponent).toNat ≠ 0 := pow_ne_zero _ (by norm_num)
  rw [interval]
  simp only [Nat.pow_eq, Nat.cast_mul, Nat.cast_pow, Nat.cast_ofNat]
  rw [two_pow_toNat]
  field_simp

/-- How many quarters of the unit the lower end is below the double. -/
def below (b : Binary) : Nat :=
  if b.narrowBelow then 1 else 2

theorem lower_interval (b : Binary) :
    b.interval.lower = (4 * b.mantissa - b.below : Nat) * 2 ^ b.exponent / 4 :=
  b.quarters_div _

theorem upper_interval (b : Binary) :
    b.interval.upper = (4 * b.mantissa + 2 : Nat) * 2 ^ b.exponent / 4 :=
  b.quarters_div _

theorem lower_lt_upper (b : Binary) : b.interval.lower < b.interval.upper := by
  have hn : (4 * b.mantissa - b.below : Nat) < 4 * b.mantissa + 2 := by omega
  have hq : ((4 * b.mantissa - b.below : Nat) : ℚ) < (4 * b.mantissa + 2 : Nat) := Nat.cast_lt.2 hn
  have hp : (0 : ℚ) < 2 ^ b.exponent := zpow_pos (by norm_num) _
  rw [lower_interval, upper_interval]
  have := mul_lt_mul_of_pos_right hq hp
  linarith

theorem lower_pos {b : Binary} (h : 0 < b.mantissa) : 0 < b.interval.lower := by
  have hb : b.below ≤ 2 := by
    rw [below]
    split <;> omega
  have hq : (0 : ℚ) < (4 * b.mantissa - b.below : Nat) := Nat.cast_pos.2 (by omega)
  have hp : (0 : ℚ) < 2 ^ b.exponent := zpow_pos (by norm_num) _
  rw [lower_interval]
  positivity

/-- The interval of a double begins where that of the double before it ends. -/
theorem lower_succ {bits : Nat} (h : bits + 1 < 2 ^ 63) :
    (ofBits (bits + 1)).interval.lower = (ofBits bits).interval.upper := by
  obtain ⟨biased, fraction, hb, hf, rfl⟩ := exists_parts (Nat.lt_of_succ_lt h)
  rw [lower_interval, upper_interval, below]
  by_cases hs : fraction + 1 < 2 ^ 52
  · -- Both doubles have the same exponent.
    rw [Nat.add_assoc, ofBits_eq hb hs, ofBits_eq hb hf]
    by_cases hz : biased = 0
    · simp only [if_pos hz, Bool.false_eq_true, if_false]
      rw [show 4 * (fraction + 1) - 2 = 4 * fraction + 2 by omega]
    · simp only [if_neg hz, Nat.succ_ne_zero, decide_false, Bool.false_and, Bool.false_eq_true,
        if_false]
      rw [show 4 * (2 ^ 52 + (fraction + 1)) - 2 = 4 * (2 ^ 52 + fraction) + 2 by omega]
  · -- The next double is a power of two; unless it is the smallest one with full precision, its
    -- unit is twice as large.
    have hfe : fraction = 2 ^ 52 - 1 := by omega
    have hb' : biased + 1 < 2 ^ 11 := by
      have hlt : (biased + 1) * 2 ^ 52 < 2 ^ 11 * 2 ^ 52 := by omega
      exact Nat.lt_of_mul_lt_mul_right hlt
    have hnext : biased * 2 ^ 52 + fraction + 1 = (biased + 1) * 2 ^ 52 + 0 := by omega
    rw [hnext, ofBits_eq hb' (by decide), ofBits_eq hb hf, hfe]
    simp only [Nat.succ_ne_zero, if_false, decide_true, Bool.true_and, decide_eq_true_eq,
      Nat.add_zero]
    by_cases hz : biased = 0
    · subst hz
      norm_num
    · have he : ((biased + 1 : Nat) : Int) - 1075 = ((biased : Int) - 1075) + 1 := by
        push_cast
        ring
      rw [if_pos (by omega : 1 < biased + 1), if_neg hz, he, zpow_add₀ (by norm_num)]
      norm_num
      ring

theorem upper_lt {m n : Nat} (hmn : m < n) (hn : n < 2 ^ 63) :
    (ofBits m).interval.upper < (ofBits n).interval.upper := by
  induction n with
  | zero => omega
  | succ n ih =>
    have hstep : (ofBits n).interval.upper < (ofBits (n + 1)).interval.upper := by
      rw [← lower_succ hn]
      exact lower_lt_upper _
    rcases Nat.lt_succ_iff_lt_or_eq.1 hmn with h | rfl
    · exact (ih h (by omega)).trans hstep
    · exact hstep

theorem closed_iff {bits : Nat} (h : bits < 2 ^ 63) :
    (ofBits bits).interval.closed = true ↔ bits % 2 = 0 := by
  obtain ⟨biased, fraction, hb, hf, rfl⟩ := exists_parts h
  rw [ofBits_eq hb hf]
  by_cases hz : biased = 0
  · rw [if_pos hz]
    show decide (fraction % 2 = 0) = true ↔ _
    rw [decide_eq_true_eq]
    omega
  · rw [if_neg hz]
    show decide ((2 ^ 52 + fraction) % 2 = 0) = true ↔ _
    rw [decide_eq_true_eq]
    omega

/-- No number lies in the intervals of two doubles: a common end would belong to the one with the
even mantissa only. -/
theorem not_covers_of_lt {m n : Nat} (hmn : m < n) (hn : n < 2 ^ 63) {x : ℚ}
    (hm : (ofBits m).interval.Covers x) : ¬ (ofBits n).interval.Covers x := by
  intro hx
  obtain ⟨k, rfl⟩ := Nat.exists_eq_succ_of_ne_zero (Nat.ne_of_gt (Nat.zero_lt_of_lt hmn))
  have hlow : (ofBits (k + 1)).interval.lower = (ofBits k).interval.upper := lower_succ hn
  have hle : (ofBits k).interval.upper ≤ (ofBits m).interval.upper := by
    rw [← hlow]
    exact hx.bounds.1.trans hm.bounds.2
  have hkm : m = k := by
    by_contra hne
    exact absurd (upper_lt (by omega : m < k) (by omega)) (not_lt.2 hle)
  subst hkm
  have hend : x = (ofBits m).interval.upper :=
    le_antisymm hm.bounds.2 (hlow ▸ hx.bounds.1)
  have h₁ := (closed_iff (by omega)).1 (hm.closed_of_end (.inr hend))
  have h₂ := (closed_iff hn).1 (hx.closed_of_end (.inl (hend.trans hlow.symm)))
  omega

theorem covers_inj {m n : Nat} (hm : m < 2 ^ 63) (hn : n < 2 ^ 63) {x : ℚ}
    (hmx : (ofBits m).interval.Covers x) (hnx : (ofBits n).interval.Covers x) : m = n := by
  rcases Nat.lt_trichotomy m n with h | h | h
  · exact absurd hnx (not_covers_of_lt h hn hmx)
  · exact h
  · exact absurd hmx (not_covers_of_lt h hm hnx)

/-! ## The first digit -/

theorem pow_le_of_length_toDigits {n places : Nat} (hn : 0 < n)
    (h : (Nat.toDigits 10 n).length = places + 1) : 10 ^ places ≤ n := by
  cases places with
  | zero => exact hn
  | succ places =>
    by_contra hlt
    have hle := (Nat.length_toDigits_le_iff (by decide) (Nat.succ_pos places)).2 (not_le.1 hlt)
    omega

theorem le_leadingZeros {denominator limit centre : Nat}
    (h : denominator ≤ 10 ^ (limit + 1) * centre) :
    denominator ≤ 10 ^ (leadingZeros denominator limit centre + 1) * centre := by
  induction limit generalizing centre with
  | zero => exact h
  | succ limit ih =>
    rw [leadingZeros]
    by_cases hlt : 10 * centre < denominator
    · rw [if_pos hlt, Nat.pow_succ, Nat.mul_assoc]
      apply ih
      rwa [← Nat.mul_assoc, ← Nat.pow_succ]
    · rw [if_neg hlt]
      omega

variable {b : Binary}

theorem denominator_pos (b : Binary) : 0 < b.interval.denominator := by
  show 0 < 4 * Nat.pow 2 (-b.exponent).toNat
  rw [Nat.pow_eq]
  positivity

theorem centre_pos (hm : 0 < b.mantissa) : 0 < b.interval.centre := by
  show 0 < 4 * b.mantissa * Nat.pow 2 b.exponent.toNat
  rw [Nat.pow_eq]
  positivity

theorem two_pow_le_ten_pow {m n : Nat} (h : m ≤ 3 * n) : 2 ^ m ≤ 10 ^ n :=
  calc 2 ^ m ≤ 2 ^ (3 * n) := Nat.pow_le_pow_right (by decide) h
    _ = (2 ^ 3) ^ n := Nat.pow_mul 2 3 n
    _ ≤ 10 ^ n := Nat.pow_le_pow_left (by decide) n

/-- No double is so small that the search for its first digit gives up. -/
theorem denominator_le (hb : b.InRange) (hm : 0 < b.mantissa) :
    b.interval.denominator ≤ 10 ^ (400 + 1) * b.interval.centre := by
  have hexp : 2 + (-b.exponent).toNat ≤ 3 * (400 + 1) := by
    have := hb.le_exponent
    omega
  have hden : b.interval.denominator = 2 ^ (2 + (-b.exponent).toNat) := by
    rw [Nat.pow_add]
    rfl
  rw [hden]
  exact (two_pow_le_ten_pow hexp).trans (Nat.le_mul_of_pos_right _ (centre_pos hm))

theorem magnitude_le (hb : b.InRange) (hm : 0 < b.mantissa) :
    (10 : ℚ) ^ b.interval.magnitude * b.interval.denominator ≤ b.interval.centre := by
  rw [Interval.magnitude]
  split
  next hz =>
    have hle := le_leadingZeros (denominator_le hb hm)
    generalize leadingZeros b.interval.denominator 400 b.interval.centre = zeros at hle ⊢
    have hq : (b.interval.denominator : ℚ) ≤ 10 ^ (zeros + 1) * b.interval.centre := by
      exact_mod_cast hle
    have he : (-1 - (zeros : Int)) = -((zeros + 1 : Nat) : Int) := by
      push_cast
      ring
    rw [he, zpow_neg, zpow_natCast, inv_mul_le_iff₀ (by positivity)]
    exact hq
  next places hp =>
    have hge : b.interval.denominator ≤ b.interval.centre := by
      by_contra hlt
      rw [wholePlaces, if_pos (not_le.1 hlt)] at hp
      omega
    rw [wholePlaces, if_neg (not_lt.2 hge)] at hp
    have hq := pow_le_of_length_toDigits (Nat.div_pos hge (denominator_pos b)) hp
    rw [zpow_natCast]
    exact_mod_cast (Nat.le_div_iff_mul_le (denominator_pos b)).1 hq

/-! ## The last grid -/

/-- The lower end is further below the double than one unit of the last grid. -/
theorem lower_add_le (hb : b.InRange) :
    (b.interval.low : ℚ) * 2 ^ 54 + b.interval.centre ≤ b.interval.centre * 2 ^ 54 := by
  have hlow : (4 * b.mantissa - b.below) * 2 ^ 54 + 4 * b.mantissa ≤
      4 * b.mantissa * 2 ^ 54 := by
    have hlt := hb.mantissa_lt
    rw [below]
    split
    next hn =>
      have := hb.narrow hn
      omega
    next => omega
  have hscale := Nat.mul_le_mul_right (2 ^ b.exponent.toNat) hlow
  have hlc : b.interval.low = (4 * b.mantissa - b.below) * 2 ^ b.exponent.toNat := rfl
  have hcc : b.interval.centre = 4 * b.mantissa * 2 ^ b.exponent.toNat := rfl
  have hnat : b.interval.low * 2 ^ 54 + b.interval.centre ≤ b.interval.centre * 2 ^ 54 := by
    rw [hlc, hcc]
    linarith
  exact_mod_cast hnat

theorem centre_lt_high (b : Binary) : b.interval.centre < b.interval.high := by
  have hp : 0 < 2 ^ b.exponent.toNat := by positivity
  show 4 * b.mantissa * 2 ^ b.exponent.toNat < (4 * b.mantissa + 2) * 2 ^ b.exponent.toNat
  exact Nat.mul_lt_mul_of_pos_right (by omega) hp

/-- Rounding down on the grid of eighteen digits stays inside the interval. -/
theorem covers_floor (hb : b.InRange) (hm : 0 < b.mantissa) (tie : Tie) :
    b.interval.Covers (shortestFrom b.interval b.interval.magnitude tie 18 0).toRat := by
  have hden := denominator_pos b
  obtain ⟨k, hk⟩ : ∃ k, k = b.interval.magnitude - 17 := ⟨_, rfl⟩
  obtain ⟨d, hd⟩ : ∃ d, d = b.interval.centre * 10 ^ (-k).toNat /
      (b.interval.denominator * 10 ^ k.toNat) := ⟨_, rfl⟩
  have hs : shortestFrom b.interval b.interval.magnitude tie 18 0 = ⟨d, k⟩ := by
    have hke : b.interval.magnitude + 1 - ((18 : Nat) : Int) = k := by omega
    rw [shortestFrom, hke, hd]
    rfl
  have hunit : 0 < b.interval.denominator * 10 ^ k.toNat := by positivity
  have hle := Nat.div_mul_le_self (b.interval.centre * 10 ^ (-k).toNat)
    (b.interval.denominator * 10 ^ k.toNat)
  have hlt := Nat.lt_div_mul_add (a := b.interval.centre * 10 ^ (-k).toNat) hunit
  rw [← hd] at hle hlt
  -- One unit of the grid, over the denominator of the interval.
  obtain ⟨unit, hunit⟩ : ∃ unit : ℚ, unit = 10 ^ k * b.interval.denominator := ⟨_, rfl⟩
  have hu : (0 : ℚ) < 10 ^ (-k).toNat := by positivity
  have hw : (b.interval.denominator : ℚ) * 10 ^ k.toNat = unit * 10 ^ (-k).toNat := by
    rw [Interval.ten_pow_toNat, hunit]
    ring
  have hle' : d * unit ≤ b.interval.centre := by
    refine le_of_mul_le_mul_right ?_ hu
    rw [mul_assoc, ← hw]
    exact_mod_cast hle
  have hlt' : (b.interval.centre : ℚ) < d * unit + unit := by
    refine lt_of_mul_lt_mul_right ?_ hu.le
    rw [add_mul, mul_assoc, ← hw]
    exact_mod_cast hlt
  have hsmall : unit * 10 ^ 17 ≤ b.interval.centre := by
    have hmag := magnitude_le hb hm
    rw [show b.interval.magnitude = k + (17 : Nat) by omega, zpow_add₀ (by norm_num),
      zpow_natCast] at hmag
    rw [hunit]
    linarith
  have hcentre : (0 : ℚ) < b.interval.centre := Nat.cast_pos.2 (centre_pos hm)
  have hhigh : (b.interval.centre : ℚ) < b.interval.high := Nat.cast_lt.2 (centre_lt_high b)
  have hlow := lower_add_le hb
  have hq : (0 : ℚ) < b.interval.denominator := Nat.cast_pos.2 hden
  have hpoint : (d : ℚ) * 10 ^ k * b.interval.denominator = d * unit := by
    rw [hunit]
    ring
  rw [hs]
  apply Interval.covers_of_between
  · rw [Interval.lower, Scaled.toRat, div_lt_iff₀ hq, hpoint]
    linarith
  · rw [Interval.upper, Scaled.toRat, lt_div_iff₀ hq, hpoint]
    linarith

/-- The shortest decimal of a double lies in its interval. -/
theorem covers_shortest (hb : b.InRange) (hm : 0 < b.mantissa) (tie : Tie) :
    b.interval.Covers (b.shortest tie).toRat :=
  Interval.covers_shortestFrom (denominator_pos b) _ tie 1 17 (covers_floor hb hm tie)

end Binary

end DocumentTemplates.Decimal
