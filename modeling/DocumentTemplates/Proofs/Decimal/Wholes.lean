import DocumentTemplates.Double
import DocumentTemplates.Proofs.Decimal.Rounding

/-!
# Whole numbers as doubles

A whole number becomes the double that is nearest to it. Small ones take the way of a product by
one, large ones are rounded at once, and both have the same form. In the total order of doubles,
whole numbers keep their order, and up to the power of two at which doubles leave out whole
numbers, different ones stay different.
-/

namespace DocumentTemplates.Double

open Float.Model Float.Model.UnpackedFloat

theorem mul_normal (s₁ s₂ : Sign) {m₁ m₂ : Nat} {e₁ e₂ : Int} (h₁ : 0 < m₁) (h₂ : 0 < m₂) :
    UnpackedFloat.mul Format.binary64 (.finite s₁ m₁ e₁ h₁) (.finite s₂ m₂ e₂ h₂) =
      roundWithAccuracy Format.binary64 (s₁ * s₂) (m₁ * m₂) (e₁ + e₂) .exact := rfl

theorem scaled_bounds {n length : Nat} (hl : 2 ^ length ≤ n) (hu : n < 2 ^ (length + 1))
    (places : Nat) :
    2 ^ (length + places) ≤ n * 2 ^ places ∧ n * 2 ^ places < 2 ^ (length + 1 + places) := by
  rw [Nat.pow_add, Nat.pow_add]
  exact ⟨Nat.mul_le_mul_right _ hl, Nat.mul_lt_mul_of_pos_right hu (Nat.pow_pos (by decide))⟩

/-- Dividing what was scaled up by more places than the quotient drops. -/
theorem nearest_scaled (n : Nat) {length : Nat} (hlength : length ≤ 52) :
    nearest (n * 2 ^ 53) (length + 1) = n * 2 ^ (52 - length) := by
  rw [show 53 = 52 - length + (length + 1) by omega, Nat.pow_add, ← Nat.mul_assoc, nearest_mul]

/-- A whole number of at most 53 digits needs no rounding. -/
theorem unpacked_ofNat {n length : Nat} (hl : 2 ^ length ≤ n) (hu : n < 2 ^ (length + 1))
    (hlength : length ≤ 52) :
    ∃ h : Normal (n * 2 ^ (52 - length)) (length - 52 : Int),
      UnpackedFloat.ofNat Format.binary64 n = normal .positive h := by
  have hpow : 0 < 2 ^ length := Nat.pow_pos (by decide)
  obtain ⟨hml, hmu⟩ := scaled_bounds hl hu (52 - length)
  rw [show length + (52 - length) = 52 + 0 by omega] at hml
  rw [show length + 1 + (52 - length) = 53 + 0 by omega] at hmu
  obtain ⟨m, e, h, hround, heq⟩ :=
    roundWithAccuracy_eq .positive (e := (length : Int) - 52) hml hmu (by omega) (by omega)
  have hexact := nearest_mul (n * 2 ^ (52 - length)) 0
  rw [Nat.pow_zero, Nat.mul_one] at hexact
  rw [hexact] at heq
  obtain ⟨hmlow, hmup, -, -⟩ := id h
  obtain rfl : e = (length : Int) - 52 := by omega
  obtain rfl : m = n * 2 ^ (52 - length) := by omega
  refine ⟨h, Eq.trans ?_ hround⟩
  have hlog : n.log2 = length := by
    rw [Nat.log2_eq_iff (by omega)]
    exact ⟨hl, hu⟩
  have hmin : Format.binary64.minExponent = -1074 := rfl
  have hbits : (Format.binary64.mantissaBits : Int) = 53 := rfl
  have htarget : Format.binary64.targetExponent (totalExponent n 0) = (length : Int) - 52 := by
    rw [Format.targetExponent, totalExponent, hlog, hmin, hbits, max_eq_left] <;> omega
  have hpositive : compare (n : Int) 0 = .gt := by
    rw [compare_gt_iff_gt]
    omega
  have hplaces : (0 - ((length : Int) - 52)).toNat = 52 - length := by omega
  have hexponent : 0 - ((52 - length : Nat) : Int) = (length : Int) - 52 := by omega
  rw [UnpackedFloat.ofNat, UnpackedFloat.ofInt, UnpackedFloat.normalize, hpositive]
  simp only [UnpackedFloat.round, Int.toNat_natCast, htarget, decreaseExponent, Nat.shiftLeft_eq, hplaces,
    hexponent]

theorem ofNat_of_lt {n length : Nat} (hl : 2 ^ length ≤ n) (hu : n < 2 ^ (length + 1))
    (hlength : length ≤ 52) :
    ∃ m e, ∃ h : Normal m e, Float.ofNat n = .ofModel (.pack (normal .positive h)) ∧
      (e + 1074) * 2 ^ 52 + m =
        (length + 1022) * 2 ^ 52 + nearest (n * 2 ^ 53) (length + 1) := by
  have hsmall : n < 2 ^ 53 := hu.trans_le (Nat.pow_le_pow_right (by decide) (by omega))
  obtain ⟨hwhole, hunpacked⟩ := unpacked_ofNat hl hu hlength
  rw [nearest_scaled n hlength]
  generalize n * 2 ^ (52 - length) = whole at hwhole hunpacked
  have hword : n.toUInt64.toNat = n := by
    change n % 2 ^ 64 = n
    omega
  have hn : n.toUInt64.toFloat.toModel.unpack = normal .positive hwhole := by
    change UnpackedFloat.unpack Format.binary64 (UnpackedFloat.pack Format.binary64
      (UnpackedFloat.ofNat Format.binary64 n.toUInt64.toNat)) = _
    rw [hword, hunpacked, unpack_pack_normal]
  have hone : (Float.ofBits 0x3FF0000000000000).toModel.unpack =
      .finite .positive (2 ^ 52) (-52) (by decide) := by rfl
  have hfloat : Float.ofNat n = n.toUInt64.toFloat * Float.ofBits 0x3FF0000000000000 := by
    change Float.ofScientific n false 0 = _
    rw [Float.ofScientific, dif_pos ⟨hsmall, by decide⟩]
    rfl
  obtain ⟨hml, hmu, -, -⟩ := id hwhole
  have hlow : 2 ^ (52 + 52) ≤ whole * 2 ^ 52 := by omega
  have hup : whole * 2 ^ 52 < 2 ^ (53 + 52) := by omega
  obtain ⟨m, e, h, hround, heq⟩ := roundWithAccuracy_eq .positive (e := (length : Int) - 52 + -52)
    hlow hup (by omega) (by omega)
  rw [nearest_mul] at heq
  refine ⟨m, e, h, ?_, by omega⟩
  rw [hfloat]
  change Float.ofModel (.pack (UnpackedFloat.mul Format.binary64
    n.toUInt64.toFloat.toModel.unpack (Float.ofBits 0x3FF0000000000000).toModel.unpack)) = _
  rw [hone, hn, normal, mul_normal]
  exact congrArg (fun u => Float.ofModel (.pack u)) hround

theorem ofNat_of_le {n length : Nat} (hl : 2 ^ length ≤ n) (hu : n < 2 ^ (length + 1))
    (hlength : 53 ≤ length) (hlength' : length ≤ 64) :
    ∃ m e, ∃ h : Normal m e, Float.ofNat n = .ofModel (.pack (normal .positive h)) ∧
      (e + 1074) * 2 ^ 52 + m =
        (length + 1022) * 2 ^ 52 + nearest (n * 2 ^ 53) (length + 1) := by
  have hlarge : 2 ^ 53 ≤ n := (Nat.pow_le_pow_right (by decide) hlength).trans hl
  have hpos : n ≠ 0 := by omega
  obtain ⟨hml, hmu⟩ := scaled_bounds hl hu 53
  rw [show length + 53 = 52 + (length + 1) by omega] at hml
  rw [show length + 1 + 53 = 53 + (length + 1) by omega] at hmu
  obtain ⟨m, e, h, hround, heq⟩ :=
    roundWithAccuracy_eq .positive (e := -53) hml hmu (by omega) (by omega)
  generalize nearest (n * 2 ^ 53) (length + 1) = r at heq ⊢
  refine ⟨m, e, h, ?_, by omega⟩
  have hfloat : Float.ofNat n = .ofModel (Float.Model.ofScientific n 0) := by
    change Float.ofScientific n false 0 = _
    rw [Float.ofScientific, dif_neg (fun hsmall => by omega)]
    rfl
  have hscaled : n <<< Format.binary64.mantissaBits * 10 ^ (0 : Int).toNat = n * 2 ^ 53 := by
    rw [Nat.shiftLeft_eq, Int.toNat_zero, Nat.pow_zero, Nat.mul_one]
    rfl
  have hlowest : ¬ (0 : Int) < -((2 ^ Format.binary64.exponentBits : Int) + n.log2) := by
    change ¬ (0 : Int) < -((2 ^ 11 : Int) + n.log2)
    omega
  rw [hfloat, Float.Model.ofScientific, UnpackedFloat.ofScientific, dif_neg hpos,
    if_neg (by decide), if_neg hlowest, if_pos (by decide), mul_normal, hscaled]
  exact congrArg (fun u => Float.ofModel (.pack u)) hround

/-! ## Places in the total order -/

theorem rank_of_lt {x : Double} (h : x.bits.toNat < Nat.pow 2 63) : x.rank = x.bits.toNat := by
  have hpositive : ¬ x.isNegative := by
    rw [isNegative, decide_eq_true_eq]
    exact not_le.2 h
  rw [rank, if_neg hpositive, magnitude, Nat.mod_eq_of_lt h]

theorem rank_of_le {x : Double} (h : Nat.pow 2 63 ≤ x.bits.toNat) :
    x.rank = -((x.bits.toNat - Nat.pow 2 63 : Nat) : Int) - 1 := by
  have hnegative : x.isNegative := decide_eq_true h
  have hsize := x.bits.toNat_lt
  have hmod : x.bits.toNat % Nat.pow 2 63 = x.bits.toNat - Nat.pow 2 63 := by
    rw [Nat.pow_eq] at h ⊢
    omega
  rw [rank, if_pos hnegative, magnitude, hmod]

/-- The place of a positive whole number in the total order of doubles: its binary length stands
in front, and the number rounded to 53 digits behind. -/
def wholeRank (n : Nat) : Nat :=
  if n = 0 then 0 else (n.log2 + 1022) * 2 ^ 52 + nearest (n * 2 ^ 53) (n.log2 + 1)

theorem log2_bounds {n : Nat} (h : n ≠ 0) : 2 ^ n.log2 ≤ n ∧ n < 2 ^ (n.log2 + 1) :=
  (Nat.log2_eq_iff h).1 rfl

/-- Positive whole numbers of 64 digits are normal doubles. -/
theorem ofNat_eq {n : Nat} (hn : n ≠ 0) (hu : n ≤ 2 ^ 64) :
    ∃ m e, ∃ h : Normal m e, Float.ofNat n = .ofModel (.pack (normal .positive h)) ∧
      ((e + 1074) * 2 ^ 52 + m).toNat = wholeRank n := by
  obtain ⟨hl, hu'⟩ := log2_bounds hn
  have hlength : n.log2 ≤ 64 := by
    rw [← Nat.pow_le_pow_iff_right (by decide : 1 < 2)]
    exact hl.trans hu
  have heq : ∃ m e, ∃ h : Normal m e, Float.ofNat n = .ofModel (.pack (normal .positive h)) ∧
      (e + 1074) * 2 ^ 52 + m =
        (n.log2 + 1022) * 2 ^ 52 + nearest (n * 2 ^ 53) (n.log2 + 1) := by
    rcases Nat.lt_or_ge n.log2 53 with hsmall | hlarge
    · exact ofNat_of_lt hl hu' (by omega)
    · exact ofNat_of_le hl hu' hlarge hlength
  obtain ⟨m, e, h, hfloat, heq⟩ := heq
  refine ⟨m, e, h, hfloat, ?_⟩
  rw [wholeRank, if_neg hn]
  omega

theorem rank_ofNat {n : Nat} (hu : n ≤ 2 ^ 64) : (ofFloat (Float.ofNat n)).rank = wholeRank n := by
  by_cases hn : n = 0
  · subst hn
    rfl
  obtain ⟨m, e, h, hfloat, hplace⟩ := ofNat_eq hn hu
  have hbits : (ofFloat (Float.ofNat n)).bits.toNat = wholeRank n := by
    have hpack := toNat_pack_normal .positive h
    rw [hplace] at hpack
    rw [hfloat]
    exact hpack.trans (Nat.zero_add _)
  have hbound : wholeRank n < Nat.pow 2 63 := by
    obtain ⟨-, hmu, -, heu⟩ := h
    rw [← hplace, Nat.pow_eq]
    omega
  rw [rank_of_lt (hbits ▸ hbound), hbits]

theorem rank_neg_ofNat {n : Nat} (hn : n ≠ 0) (hu : n ≤ 2 ^ 64) :
    (ofFloat (Float.neg (Float.ofNat n))).rank = -(wholeRank n : Int) - 1 := by
  obtain ⟨m, e, h, hfloat, hplace⟩ := ofNat_eq hn hu
  have hneg : Float.neg (Float.ofNat n) = .ofModel (.pack (normal .negative h)) := by
    rw [hfloat]
    exact congrArg (fun u => Float.ofModel (.pack u.neg)) (unpack_pack_normal .positive h)
  have hbits : (ofFloat (Float.neg (Float.ofNat n))).bits.toNat = Nat.pow 2 63 + wholeRank n := by
    have hpack := toNat_pack_normal .negative h
    rw [hplace] at hpack
    rw [hneg]
    exact hpack
  rw [rank_of_le (hbits ▸ Nat.le_add_right _ _), hbits, Nat.add_sub_cancel_left]

theorem wholeRank_bounds {n : Nat} (hn : n ≠ 0) :
    (n.log2 + 1023) * 2 ^ 52 ≤ wholeRank n ∧ wholeRank n ≤ (n.log2 + 1024) * 2 ^ 52 := by
  obtain ⟨hl, hu⟩ := log2_bounds hn
  obtain ⟨hml, hmu⟩ := scaled_bounds hl hu 53
  rw [show n.log2 + 53 = 52 + (n.log2 + 1) by omega] at hml
  rw [show n.log2 + 1 + 53 = 53 + (n.log2 + 1) by omega] at hmu
  obtain ⟨hlow, hup⟩ := nearest_bounds hml hmu
  rw [wholeRank, if_neg hn]
  omega

theorem log2_mono {n n' : Nat} (hn : n ≠ 0) (h : n ≤ n') : n.log2 ≤ n'.log2 := by
  have hn' : n' ≠ 0 := by omega
  rw [Nat.le_log2 hn']
  exact (log2_bounds hn).1.trans h

theorem wholeRank_mono {n n' : Nat} (h : n ≤ n') : wholeRank n ≤ wholeRank n' := by
  by_cases hn : n = 0
  · rw [wholeRank, if_pos hn]
    exact Nat.zero_le _
  have hn' : n' ≠ 0 := by omega
  rcases (log2_mono hn h).lt_or_eq with hlength | hlength
  · have hlow := (wholeRank_bounds hn').1
    have hup := (wholeRank_bounds hn).2
    omega
  · have hnearest := nearest_mono (Nat.mul_le_mul_right (2 ^ 53) h) (n.log2 + 1)
    rw [wholeRank, wholeRank, if_neg hn, if_neg hn', ← hlength]
    omega

/-- Up to this power of two all whole numbers are doubles. -/
theorem wholeRank_lt {n n' : Nat} (h : n < n') (hu : n' ≤ 2 ^ 53) :
    wholeRank n < wholeRank n' := by
  have hn' : n' ≠ 0 := by omega
  have hlow := (wholeRank_bounds hn').1
  by_cases hn : n = 0
  · rw [wholeRank, if_pos hn]
    omega
  obtain ⟨hl, hu'⟩ := log2_bounds hn
  have hshort : n.log2 ≤ 52 := by
    rw [← Nat.lt_succ_iff, Nat.log2_lt hn]
    omega
  have hrank : wholeRank n = (n.log2 + 1022) * 2 ^ 52 + n * 2 ^ (52 - n.log2) := by
    rw [wholeRank, if_neg hn, nearest_scaled n hshort]
  rcases (log2_mono hn h.le).lt_or_eq with hlength | hlength
  · have hup := (scaled_bounds hl hu' (52 - n.log2)).2
    rw [show n.log2 + 1 + (52 - n.log2) = 53 by omega] at hup
    omega
  · rw [hrank, wholeRank, if_neg hn', ← hlength, nearest_scaled n' hshort]
    exact Nat.add_lt_add_left (Nat.mul_lt_mul_of_pos_right h (Nat.pow_pos (by decide))) _

/-- The place of a whole number in the total order of doubles. -/
def intRank : Int → Int
  | .ofNat n => wholeRank n
  | .negSucc n => -(wholeRank (n + 1) : Int) - 1

theorem rank_ofInt {i : Int} (hi : i.natAbs ≤ 2 ^ 64) : (ofInt i).rank = intRank i := by
  cases i with
  | ofNat n => exact rank_ofNat hi
  | negSucc n => exact rank_neg_ofNat (Nat.succ_ne_zero n) hi

theorem intRank_mono {i j : Int} (h : i ≤ j) : intRank i ≤ intRank j := by
  cases i with
  | ofNat n =>
    cases j with
    | ofNat n' =>
      have hrank := wholeRank_mono (Int.ofNat_le.1 h)
      simp only [intRank]
      omega
    | negSucc n' =>
      change (n : Int) ≤ _ at h
      omega
  | negSucc n =>
    cases j with
    | ofNat n' =>
      simp only [intRank]
      omega
    | negSucc n' =>
      have hrank := wholeRank_mono (show n' + 1 ≤ n + 1 by omega)
      simp only [intRank]
      omega

theorem intRank_lt {i j : Int} (h : i < j) (hi : i.natAbs ≤ 2 ^ 53) (hj : j.natAbs ≤ 2 ^ 53) :
    intRank i < intRank j := by
  cases i with
  | ofNat n =>
    cases j with
    | ofNat n' =>
      have hrank := wholeRank_lt (Int.ofNat_lt.1 h) hj
      simp only [intRank]
      omega
    | negSucc n' =>
      change (n : Int) < _ at h
      omega
  | negSucc n =>
    cases j with
    | ofNat n' =>
      simp only [intRank]
      omega
    | negSucc n' =>
      have hrank := wholeRank_lt (show n' + 1 < n + 1 by omega) hi
      simp only [intRank]
      omega

end DocumentTemplates.Double
