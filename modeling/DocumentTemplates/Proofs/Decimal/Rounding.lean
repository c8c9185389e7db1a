import Mathlib

/-!
# Rounding to doubles

Rounding a mantissa to the 53 bits of a double drops its low bits one by one and keeps a round bit
and a sticky bit, which together say how the dropped bits compare with half a unit. So the result
is the nearest quotient by a power of two, half to even. The bits of a normal double are its
mantissa and exponent in one number, and a mantissa that overflows carries into the exponent.
-/

namespace DocumentTemplates.Double

open Float.Model Float.Model.UnpackedFloat

/-! ## Nearest quotients -/

/-- The quotient of a number by a power of two, rounded to the nearest whole number, half to
even. -/
def nearest (n places : Nat) : Nat :=
  if 2 * (n % 2 ^ places) < 2 ^ places then n / 2 ^ places
  else if 2 * (n % 2 ^ places) = 2 ^ places then n / 2 ^ places + n / 2 ^ places % 2
  else n / 2 ^ places + 1

theorem nearest_mono {n n' : Nat} (h : n ≤ n') (places : Nat) :
    nearest n places ≤ nearest n' places := by
  have hn := Nat.div_add_mod n (2 ^ places)
  have hn' := Nat.div_add_mod n' (2 ^ places)
  rcases (Nat.div_le_div_right (c := 2 ^ places) h).lt_or_eq with hq | hq
  · unfold nearest
    repeat' split
    all_goals omega
  · unfold nearest
    rw [hq] at hn ⊢
    repeat' split
    all_goals omega

theorem nearest_mul (q places : Nat) : nearest (q * 2 ^ places) places = q := by
  have hpos : 0 < 2 ^ places := Nat.pow_pos (by decide)
  rw [nearest, Nat.mul_mod_left, Nat.mul_div_left q hpos, if_pos (by omega)]

theorem nearest_bounds {n places : Nat} (hl : 2 ^ (52 + places) ≤ n) (hu : n < 2 ^ (53 + places)) :
    2 ^ 52 ≤ nearest n places ∧ nearest n places ≤ 2 ^ 53 := by
  have hpos : 0 < 2 ^ places := Nat.pow_pos (by decide)
  have hlow : 2 ^ 52 ≤ n / 2 ^ places := by
    rwa [Nat.le_div_iff_mul_le hpos, ← Nat.pow_add]
  have hup : n / 2 ^ places < 2 ^ 53 := by
    rwa [Nat.div_lt_iff_lt_mul hpos, ← Nat.pow_add]
  unfold nearest
  repeat' split
  all_goals omega

/-- What a mantissa and its two residual bits keep of a number shifted to the right. -/
structure Shifted (n places : Nat) (em : ExtendedMantissa) : Prop where
  mantissa : em.mantissa = n / 2 ^ places
  roundBit : em.roundBit = true ↔ 2 ^ places ≤ 2 * (n % 2 ^ places)
  stickyBit : em.stickyBit = true ↔ 2 * (n % 2 ^ places) ≠ 0 ∧ 2 * (n % 2 ^ places) ≠ 2 ^ places

theorem Shifted.zero (n : Nat) : Shifted n 0 ⟨n, false, false⟩ :=
  ⟨by simp, by simp [Nat.mod_one], by simp [Nat.mod_one]⟩

theorem Shifted.succ {n places : Nat} {em : ExtendedMantissa} (h : Shifted n places em) :
    Shifted n (places + 1) em.shiftRightOne := by
  have hmod : n % 2 ^ (places + 1) = 2 ^ places * (n / 2 ^ places % 2) + n % 2 ^ places := by
    rw [Nat.pow_succ, Nat.mod_mul, Nat.add_comm]
  have hlt : n % 2 ^ places < 2 ^ places := Nat.mod_lt _ (Nat.pow_pos (by decide))
  have hbit : n / 2 ^ places % 2 = 0 ∨ n / 2 ^ places % 2 = 1 := by omega
  have hpow : 2 ^ (places + 1) = 2 * 2 ^ places := by rw [Nat.pow_succ, Nat.mul_comm]
  constructor
  · rw [ExtendedMantissa.shiftRightOne, h.mantissa, Nat.div_div_eq_div_mul, Nat.pow_succ]
  · rw [ExtendedMantissa.shiftRightOne, h.mantissa, hmod, hpow, bne_iff_ne]
    rcases hbit with hb | hb <;> rw [hb] <;> omega
  · rw [ExtendedMantissa.shiftRightOne, hmod, hpow, Bool.or_eq_true, h.roundBit, h.stickyBit]
    rcases hbit with hb | hb <;> rw [hb] <;> omega

theorem shifted_shiftRight (n places : Nat) :
    Shifted n places (ExtendedMantissa.ofMantissaAndAccuracy n .exact >>> places) := by
  induction places with
  | zero => exact .zero n
  | succ places ih => exact ih.succ

theorem Shifted.roundedMantissa {n places : Nat} {em : ExtendedMantissa}
    (h : Shifted n places em) : em.roundedMantissa = nearest n places := by
  obtain ⟨m, r, s⟩ := em
  obtain ⟨rfl, hr, hs⟩ := h
  unfold nearest
  cases r <;> cases s <;> simp only [Bool.false_eq_true, false_iff, true_iff] at hr hs
  · rw [if_pos (by omega)]
    rfl
  · rw [if_pos (by omega)]
    rfl
  · rw [if_neg (by omega), if_pos (by omega)]
    rfl
  · rw [if_neg (by omega), if_neg (by omega)]
    rfl

/-! ## Normal doubles -/

/-- The mantissa and the exponent of a normal double that is far from overflowing. -/
structure Normal (m : Nat) (e : Int) : Prop where
  le_mantissa : 2 ^ 52 ≤ m
  mantissa_lt : m < 2 ^ 53
  le_exponent : -1074 ≤ e
  exponent_le : e ≤ 970

theorem Normal.pos {m : Nat} {e : Int} (h : Normal m e) : 0 < m := by
  have := h.le_mantissa
  omega

/-- The normal double of a mantissa and an exponent. -/
def normal (sign : Sign) {m : Nat} {e : Int} (h : Normal m e) : UnpackedFloat :=
  .finite sign m e h.pos

theorem shiftToTargetExponent_eq {n places : Nat} {e : Int} (hl : 2 ^ (52 + places) ≤ n)
    (hu : n < 2 ^ (53 + places)) (he : -1074 ≤ e + places) :
    shiftToTargetExponent Format.binary64 n e .exact =
      (ExtendedMantissa.ofMantissaAndAccuracy n .exact >>> places, e + places) := by
  have hpos : 0 < 2 ^ (52 + places) := Nat.pow_pos (by decide)
  have hlog : n.log2 = 52 + places := by
    rw [Nat.log2_eq_iff (by omega)]
    exact ⟨hl, by rwa [Nat.add_right_comm]⟩
  have hmin : Format.binary64.minExponent = -1074 := rfl
  have hbits : (Format.binary64.mantissaBits : Int) = 53 := rfl
  have htarget : Format.binary64.targetExponent (totalExponent n e) = e + places := by
    rw [Format.targetExponent, totalExponent, hlog, hmin, hbits, max_eq_left] <;> push_cast <;>
      omega
  have hplaces : (e + places - e).toNat = places := by omega
  rw [shiftToTargetExponent, htarget, shiftToExponent]
  simp only [hplaces]

/-- Rounding leaves a mantissa of 53 bits; one that overflows becomes the first of the next
exponent, and both are the same number here. -/
theorem roundWithAccuracy_eq (sign : Sign) {n places : Nat} {e : Int}
    (hl : 2 ^ (52 + places) ≤ n) (hu : n < 2 ^ (53 + places)) (he : -1074 ≤ e + places)
    (he' : e + places < 970) :
    ∃ m e', ∃ h : Normal m e',
      roundWithAccuracy Format.binary64 sign n e .exact = normal sign h ∧
        e' * 2 ^ 52 + m = (e + places) * 2 ^ 52 + nearest n places := by
  obtain ⟨hlow, hup⟩ := nearest_bounds hl hu
  have hround := (shifted_shiftRight n places).roundedMantissa
  have finish : ∀ {em : ExtendedMantissa} {e' : Int},
      shiftToTargetExponent Format.binary64 (nearest n places) (e + places) .exact = (em, e') →
        ∀ h : Normal em.mantissa e',
          roundWithAccuracy Format.binary64 sign n e .exact = normal sign h := by
    intro em e' hshift h
    unfold roundWithAccuracy
    rw [shiftToTargetExponent_eq hl hu he]
    simp only [hround, hshift]
    rw [dif_neg h.pos.ne']
    rfl
  rcases hup.lt_or_eq with hup | hover
  · have hm : (ExtendedMantissa.ofMantissaAndAccuracy (nearest n places) .exact >>> 0).mantissa =
        nearest n places := rfl
    have hnormal : Normal _ (e + places + (0 : Nat)) :=
      ⟨hm ▸ hlow, hm ▸ hup, by omega, by omega⟩
    refine ⟨_, _, hnormal, finish (shiftToTargetExponent_eq hlow hup (by omega)) hnormal, ?_⟩
    rw [hm]
    omega
  · have hm : (ExtendedMantissa.ofMantissaAndAccuracy (nearest n places) .exact >>> 1).mantissa =
        2 ^ 52 := by
      rw [(shifted_shiftRight _ 1).mantissa, hover]
      rfl
    have hnormal : Normal _ (e + places + (1 : Nat)) :=
      ⟨hm.ge, hm.trans_lt (by decide), by omega, by omega⟩
    refine ⟨_, _, hnormal, finish (shiftToTargetExponent_eq hover.ge
      (hover.trans_lt (by decide)) (by omega)) hnormal, ?_⟩
    rw [hm]
    omega

/-! ## Bits -/

theorem Normal.log2_mantissa {m : Nat} {e : Int} (h : Normal m e) : m.log2 = 52 := by
  rw [Nat.log2_eq_iff h.pos.ne']
  exact ⟨h.le_mantissa, h.mantissa_lt⟩

/-- A normal double is packed by its three parts; the leading bit of the mantissa is left out. -/
theorem pack_normal (sign : Sign) {m : Nat} {e : Int} (h : Normal m e) :
    UnpackedFloat.pack Format.binary64 (normal sign h) =
      packComponents Format.binary64 sign (BitVec.ofNat 11 (e + 1075).toNat)
        (BitVec.ofNat 52 m) := by
  have hbiased : (e + Format.binary64.exponentBias
      + Format.binary64.mantissaBitsWithoutImplicit).toNat = (e + 1075).toNat := by
    change (e + (1023 : Nat) + (52 : Nat)).toNat = _
    omega
  have hfits : ¬ 2 ^ 11 ≤ (e + 1075).toNat + 1 := by
    have := h.exponent_le
    omega
  have hfull : 52 + 1 = Format.binary64.mantissaBits := rfl
  rw [normal, UnpackedFloat.pack]
  simp only [hbiased, h.log2_mantissa]
  rw [if_neg hfits, if_pos hfull]

theorem toNat_pack_normal (sign : Sign) {m : Nat} {e : Int} (h : Normal m e) :
    (UnpackedFloat.pack Format.binary64 (normal sign h)).toNat =
      sign.toBitVec.toNat * 2 ^ 63 + ((e + 1074) * 2 ^ 52 + m).toNat := by
  obtain ⟨hml, hmu, hel, heu⟩ := h
  rw [pack_normal, packComponents, BitVec.toNat_append, BitVec.toNat_append,
    ← Nat.shiftLeft_add_eq_or_of_lt (BitVec.isLt _),
    ← Nat.shiftLeft_add_eq_or_of_lt (BitVec.isLt _), Nat.shiftLeft_eq, Nat.shiftLeft_eq,
    BitVec.toNat_ofNat, BitVec.toNat_ofNat]
  omega

theorem unpack_pack_normal (sign : Sign) {m : Nat} {e : Int} (h : Normal m e) :
    UnpackedFloat.unpack Format.binary64 (UnpackedFloat.pack Format.binary64 (normal sign h)) =
      normal sign h := by
  obtain ⟨hml, hmu, hel, heu⟩ := id h
  have hexponent : (BitVec.ofNat 11 (e + 1075).toNat).toNat = (e + 1075).toNat := by
    rw [BitVec.toNat_ofNat, Nat.mod_eq_of_lt (by omega)]
  have hmantissa : (1#1 ++ BitVec.ofNat 52 m).toNat = m := by
    rw [BitVec.toNat_append, ← Nat.shiftLeft_add_eq_or_of_lt (BitVec.isLt _), Nat.shiftLeft_eq,
      BitVec.toNat_ofNat]
    change 1 * 2 ^ 52 + m % 2 ^ 52 = m
    omega
  have hinfinite : BitVec.ofNat 11 (e + 1075).toNat ≠ -1#11 := by
    intro heq
    have hbits : (e + 1075).toNat = 2047 := hexponent.symm.trans (congrArg BitVec.toNat heq)
    omega
  have hsubnormal : BitVec.ofNat 11 (e + 1075).toNat ≠ 0#11 := by
    intro heq
    have hbits : (e + 1075).toNat = 0 := hexponent.symm.trans (congrArg BitVec.toNat heq)
    omega
  rw [pack_normal, UnpackedFloat.unpack]
  simp only [unpackMantissa_packComponents, unpackExponent_packComponents,
    unpackSign_packComponents, Sign.ofBitVec_toBitVec]
  rw [if_neg hinfinite, if_neg hsubnormal, normal]
  simp only [hmantissa, hexponent]
  congr 1
  change ((e + 1075).toNat : Int) - ((1023 : Nat) + (52 : Nat)) = e
  omega

end DocumentTemplates.Double
