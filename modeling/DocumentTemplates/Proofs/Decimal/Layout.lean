import DocumentTemplates.Decimal.Layout
import DocumentTemplates.Proofs.Decimal.Digits
import Mathlib.Data.Rat.Cast.Order
import Mathlib.Tactic.Linarith
import Mathlib.Tactic.Ring

/-!
# Reading back what a layout writes

Whatever a layout decides on points, signs and exponents, the text of a decimal is read back as a
decimal of the same value.
-/

namespace DocumentTemplates.Decimal

/-- The number that a decimal stands for. -/
def Scaled.toRat (s : Scaled) : ℚ :=
  s.digits * 10 ^ s.exponent

theorem Scaled.toRat_shift (n k : Nat) (e : Int) :
    Scaled.toRat ⟨n * 10 ^ k, e⟩ = Scaled.toRat ⟨n, e + k⟩ := by
  simp only [Scaled.toRat, Nat.cast_mul, Nat.cast_pow, Nat.cast_ofNat]
  rw [zpow_add₀ (by norm_num), zpow_natCast]
  ring

theorem Scaled.toRat_reduce (limit : Nat) (s : Scaled) : (s.reduce limit).toRat = s.toRat := by
  induction limit generalizing s with
  | zero => rfl
  | succ limit ih =>
    rw [Scaled.reduce]
    by_cases h : s.digits ≠ 0 && s.digits % 10 = 0
    · rw [if_pos h, ih]
      have hd : s.digits = s.digits / 10 * 10 ^ 1 := by
        simp only [ne_eq, decide_not, Bool.and_eq_true, decide_eq_true_eq] at h
        omega
      calc Scaled.toRat ⟨s.digits / 10, s.exponent + 1⟩
          = Scaled.toRat ⟨s.digits / 10 * 10 ^ 1, s.exponent⟩ :=
            (Scaled.toRat_shift (s.digits / 10) 1 s.exponent).symm
        _ = s.toRat := by rw [← hd]
    · rw [if_neg h]

/-- A text is read as a decimal of the value of `s`. -/
def ReadsAs (cs : List Char) (s : Scaled) : Prop :=
  ∃ r, scaled? cs = some r ∧ r.toRat = s.toRat

theorem ReadsAs.toRat_eq {cs : List Char} {s t : Scaled} (hs : ReadsAs cs s)
    (ht : ReadsAs cs t) : s.toRat = t.toRat := by
  obtain ⟨r, hr, hrs⟩ := hs
  obtain ⟨q, hq, hqt⟩ := ht
  rw [hr] at hq
  obtain rfl := Option.some.inj hq
  exact hrs.symm.trans hqt

theorem readsAs_point {whole fraction : List Char} (hw : ∀ c ∈ whole, isDigit c)
    (hne : whole ≠ []) (hf : ∀ c ∈ fraction, isDigit c) :
    ReadsAs (whole ++ '.' :: fraction) ⟨value (whole ++ fraction), -fraction.length⟩ := by
  have h : scaled? (whole ++ '.' :: (fraction ++ [])) = _ := scaled?_point hw hne hf rfl
  rw [List.append_nil] at h
  exact ⟨_, h, congrArg (fun e => Scaled.toRat ⟨value (whole ++ fraction), e⟩) (Int.zero_sub _)⟩

variable (l : Layout) (s : Scaled)

theorem readsAs_positionalText_of_nonneg (he : 0 ≤ s.exponent) :
    ReadsAs (l.positionalText s) s := by
  have hwhole : ∀ c ∈ digits s.digits ++ List.replicate s.exponent.toNat '0', isDigit c := by
    intro c hc
    rcases List.mem_append.1 hc with hc | hc
    · exact isDigit_of_mem_digits hc
    · exact isDigit_of_mem_replicate hc
  have hne : digits s.digits ++ List.replicate s.exponent.toNat '0' ≠ [] := by
    intro h
    exact digits_ne_nil s.digits (List.append_eq_nil_iff.1 h).1
  have hv : value (digits s.digits ++ List.replicate s.exponent.toNat '0') =
      s.digits * 10 ^ s.exponent.toNat := by
    rw [value_append_zeros, value_digits]
  have hs : Scaled.toRat ⟨s.digits * 10 ^ s.exponent.toNat, 0⟩ = s.toRat := by
    rw [Scaled.toRat_shift, Int.zero_add, Int.toNat_of_nonneg he]
  rw [Layout.positionalText, if_pos he]
  by_cases hk : l.keepsPoint
  · rw [if_pos hk]
    have hzero : ∀ c ∈ ['0'], isDigit c := List.forall_mem_singleton.2 rfl
    obtain ⟨r, hr, hrv⟩ := readsAs_point hwhole hne hzero
    refine ⟨r, hr, hrv.trans ?_⟩
    rw [value_append, hv, ← hs]
    exact Scaled.toRat_shift (s.digits * 10 ^ s.exponent.toNat) 1 (-1)
  · rw [if_neg hk]
    refine ⟨_, scaled?_whole hwhole hne rfl (fun more h => List.cons_ne_nil _ _ h.symm), ?_⟩
    rw [hv]
    exact hs

variable {s}

/-- A decimal below one: zeros fill the places between the point and its digits. -/
theorem readsAs_positionalText_of_length_le (he : s.exponent < 0)
    (hl : (digits s.digits).length ≤ (-s.exponent).toNat) : ReadsAs (l.positionalText s) s := by
  have hp : -((-s.exponent).toNat : Int) = s.exponent := by omega
  have hzero : ∀ c ∈ List.replicate 1 '0', isDigit c := fun _ => isDigit_of_mem_replicate
  have hf : ∀ c ∈ List.replicate ((-s.exponent).toNat - (digits s.digits).length) '0' ++
      digits s.digits, isDigit c := by
    intro c hc
    rcases List.mem_append.1 hc with hc | hc
    · exact isDigit_of_mem_replicate hc
    · exact isDigit_of_mem_digits hc
  rw [Layout.positionalText, if_neg (by omega), if_pos hl]
  obtain ⟨r, hr, hrv⟩ := readsAs_point hzero (List.cons_ne_nil _ _) hf
  refine ⟨r, hr, hrv.trans ?_⟩
  rw [value_zeros_append, value_zeros_append, value_digits, List.length_append,
    List.length_replicate, Nat.sub_add_cancel hl, hp]

/-- A decimal with the point among its digits. -/
theorem readsAs_positionalText_of_lt_length (he : s.exponent < 0)
    (hl : (-s.exponent).toNat < (digits s.digits).length) : ReadsAs (l.positionalText s) s := by
  have hp : -((-s.exponent).toNat : Int) = s.exponent := by omega
  have hw : ∀ c ∈ (digits s.digits).take ((digits s.digits).length - (-s.exponent).toNat),
      isDigit c := fun c hc => isDigit_of_mem_digits (List.mem_of_mem_take hc)
  have hne : (digits s.digits).take ((digits s.digits).length - (-s.exponent).toNat) ≠ [] := by
    intro h
    rcases List.take_eq_nil_iff.1 h with h | h
    · omega
    · exact digits_ne_nil s.digits h
  have hf : ∀ c ∈ (digits s.digits).drop ((digits s.digits).length - (-s.exponent).toNat),
      isDigit c := fun c hc => isDigit_of_mem_digits (List.mem_of_mem_drop hc)
  rw [Layout.positionalText, if_neg (by omega), if_neg (by omega)]
  obtain ⟨r, hr, hrv⟩ := readsAs_point hw hne hf
  refine ⟨r, hr, hrv.trans ?_⟩
  rw [List.take_append_drop, value_digits, List.length_drop, Nat.sub_sub_self hl.le, hp]

variable (s)

theorem readsAs_positionalText : ReadsAs (l.positionalText s) s := by
  rcases Int.lt_or_le s.exponent 0 with he | he
  · rcases Nat.lt_or_ge (-s.exponent).toNat (digits s.digits).length with hl | hl
    · exact readsAs_positionalText_of_lt_length l he hl
    · exact readsAs_positionalText_of_length_le l he hl
  · exact readsAs_positionalText_of_nonneg l s he

theorem readsAs_exponentText : ReadsAs (l.exponentText s) s := by
  obtain ⟨d, rest, hn, hd⟩ := digits_eq_cons s.digits
  have hds : ∀ c ∈ d :: rest, isDigit c := hn ▸ fun _ => isDigit_of_mem_digits
  have hone : ∀ c ∈ [d], isDigit c := fun c hc =>
    hds c (List.mem_of_mem_take (show c ∈ (d :: rest).take 1 from hc))
  have hv : value ([d] ++ rest) = s.digits := by rw [List.singleton_append, ← hn, value_digits]
  have he := exponent?_intDigits l.signsExponent (s.exponent + (d :: rest).length - 1)
  simp only [Layout.exponentText, hn, List.append_assoc, List.cons_append]
  generalize (if l.signsExponent && 0 ≤ s.exponent + (d :: rest).length - 1 then ['+'] else []) ++
    intDigits (s.exponent + (d :: rest).length - 1) = tail at he ⊢
  cases rest with
  | nil =>
    have hr : scaled? ([d] ++ 'e' :: tail) = _ :=
      scaled?_whole hone (List.cons_ne_nil d []) rfl
        (fun more h => absurd (List.cons.inj h).1 (by decide))
    rw [he, Option.map_some, show value [d] = s.digits from hv] at hr
    refine ⟨_, hr, congrArg (fun e => Scaled.toRat ⟨s.digits, e⟩) ?_⟩
    rw [List.length_singleton]
    omega
  | cons d' rest =>
    have hr : scaled? ([d] ++ '.' :: (d' :: rest ++ 'e' :: tail)) = _ :=
      scaled?_point hone (List.cons_ne_nil d []) (fun c hc => hds c (List.mem_cons_of_mem d hc)) rfl
    rw [he, Option.map_some, hv] at hr
    refine ⟨_, hr, congrArg (fun e => Scaled.toRat ⟨s.digits, e⟩) ?_⟩
    simp only [List.length_cons]
    omega

end DocumentTemplates.Decimal
