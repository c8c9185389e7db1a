import DocumentTemplates.Proofs.Decimal.Doubles
import DocumentTemplates.Template.Fingerprint

/-!
# The text of a double

A layout writes every finite double as a decimal that is read back into the interval of that
double alone, so two doubles that are numbers never share a text. The infinities have texts that
are no decimals, and so have the NaNs, but one for all of them.
-/

namespace DocumentTemplates.Decimal

/-! ## Magnitudes -/

def written (tie : Tie) (bits : Nat) : Scaled :=
  if (Binary.ofBits bits).mantissa = 0 then ⟨0, 0⟩ else (Binary.ofBits bits).shortest tie

theorem readsAs_magnitudeText (l : Layout) (bits : Nat) :
    ReadsAs (l.magnitudeText bits) (written l.tie bits) := by
  rw [Layout.magnitudeText, written]
  by_cases hz : (Binary.ofBits bits).mantissa = 0
  · simp only [if_pos hz]
    exact readsAs_positionalText l ⟨0, 0⟩
  · simp only [if_neg hz]
    have hreduce := Scaled.toRat_reduce 17 ((Binary.ofBits bits).shortest l.tie)
    rw [ReadsAs, ← hreduce]
    split
    · exact readsAs_positionalText l _
    · split
      · exact readsAs_positionalText l _
      · exact readsAs_exponentText l _

theorem covers_written {bits : Nat} (hb : bits < 2 ^ 63) (tie : Tie)
    (hm : (Binary.ofBits bits).mantissa ≠ 0) :
    (Binary.ofBits bits).interval.Covers (written tie bits).toRat := by
  rw [written, if_neg hm]
  exact Binary.covers_shortest (Binary.inRange_ofBits hb) (Nat.pos_of_ne_zero hm) tie

theorem written_pos {bits : Nat} (hb : bits < 2 ^ 63) (tie : Tie)
    (hm : (Binary.ofBits bits).mantissa ≠ 0) : 0 < (written tie bits).toRat :=
  (Binary.lower_pos (Nat.pos_of_ne_zero hm)).trans_le (covers_written hb tie hm).bounds.1

theorem written_zero {bits : Nat} (tie : Tie) (hm : (Binary.ofBits bits).mantissa = 0) :
    (written tie bits).toRat = 0 := by
  rw [written, if_pos hm, Scaled.toRat, Nat.cast_zero, zero_mul]

theorem eq_zero_of_mantissa {bits : Nat} (hb : bits < 2 ^ 63)
    (hm : (Binary.ofBits bits).mantissa = 0) : bits = 0 := by
  obtain ⟨biased, fraction, hbi, hf, rfl⟩ := Binary.exists_parts hb
  rw [Binary.ofBits_eq hbi hf] at hm
  by_cases hz : biased = 0
  · rw [if_pos hz] at hm
    have hm : fraction = 0 := hm
    omega
  · rw [if_neg hz] at hm
    have hm : 2 ^ 52 + fraction = 0 := hm
    omega

/-- Different magnitudes have different texts, in every layout. -/
theorem magnitudeText_inj (l : Layout) {m n : Nat} (hm : m < 2 ^ 63) (hn : n < 2 ^ 63)
    (h : l.magnitudeText m = l.magnitudeText n) : m = n := by
  have hv : (written l.tie m).toRat = (written l.tie n).toRat :=
    (readsAs_magnitudeText l m).toRat_eq (h ▸ readsAs_magnitudeText l n)
  by_cases hzm : (Binary.ofBits m).mantissa = 0
  · by_cases hzn : (Binary.ofBits n).mantissa = 0
    · rw [eq_zero_of_mantissa hm hzm, eq_zero_of_mantissa hn hzn]
    · have hpos := written_pos hn l.tie hzn
      rw [← hv, written_zero l.tie hzm] at hpos
      exact absurd hpos (lt_irrefl _)
  · by_cases hzn : (Binary.ofBits n).mantissa = 0
    · have hpos := written_pos hm l.tie hzm
      rw [hv, written_zero l.tie hzn] at hpos
      exact absurd hpos (lt_irrefl _)
    · have hc := covers_written hm l.tie hzm
      rw [hv] at hc
      exact Binary.covers_inj hm hn hc (covers_written hn l.tie hzn)

/-! ## Characters -/

/-- The character is a digit or one of the marks of decimals. -/
def IsNumeric (c : Char) : Prop :=
  isDigit c ∨ c ∈ ['.', 'e', '+', '-']

theorem isNumeric_digits (n : Nat) : ∀ c ∈ digits n, IsNumeric c :=
  fun _ hc => .inl (isDigit_of_mem_digits hc)

theorem isNumeric_replicate (n : Nat) : ∀ c ∈ List.replicate n '0', IsNumeric c :=
  fun _ hc => .inl (isDigit_of_mem_replicate hc)

theorem isNumeric_positionalText (l : Layout) (s : Scaled) :
    ∀ c ∈ l.positionalText s, IsNumeric c := by
  have hds := isNumeric_digits s.digits
  have hpoint : IsNumeric '.' := .inr (by decide)
  have hzero : IsNumeric '0' := .inl (by decide)
  rw [Layout.positionalText]
  by_cases he : 0 ≤ s.exponent
  · rw [if_pos he, List.forall_mem_append, List.forall_mem_append]
    refine ⟨⟨hds, isNumeric_replicate _⟩, ?_⟩
    by_cases hk : l.keepsPoint
    · rw [if_pos hk, List.forall_mem_cons, List.forall_mem_singleton]
      exact ⟨hpoint, hzero⟩
    · rw [if_neg hk]
      exact fun c hc => absurd hc List.not_mem_nil
  · rw [if_neg he]
    by_cases hl : (digits s.digits).length ≤ (-s.exponent).toNat
    · rw [if_pos hl, List.forall_mem_append, List.forall_mem_cons, List.forall_mem_cons]
      exact ⟨⟨hzero, hpoint, isNumeric_replicate _⟩, hds⟩
    · rw [if_neg hl, List.forall_mem_append, List.forall_mem_cons]
      exact ⟨fun c hc => hds c (List.mem_of_mem_take hc), hpoint,
        fun c hc => hds c (List.mem_of_mem_drop hc)⟩

theorem isNumeric_intDigits (i : Int) : ∀ c ∈ intDigits i, IsNumeric c := by
  cases i with
  | ofNat n => exact isNumeric_digits n
  | negSucc n => exact List.forall_mem_cons.2 ⟨.inr (by decide), isNumeric_digits _⟩

theorem isNumeric_exponentText (l : Layout) (s : Scaled) :
    ∀ c ∈ l.exponentText s, IsNumeric c := by
  have hpoint : IsNumeric '.' := .inr (by decide)
  have he : IsNumeric 'e' := .inr (by decide)
  have hplus : IsNumeric '+' := .inr (by decide)
  obtain ⟨d, rest, hn, -⟩ := digits_eq_cons s.digits
  have hds := hn ▸ isNumeric_digits s.digits
  have hd := hds d List.mem_cons_self
  rw [Layout.exponentText]
  simp only [hn]
  rw [List.forall_mem_append, List.forall_mem_append, List.forall_mem_cons]
  refine ⟨⟨?_, he, ?_⟩, isNumeric_intDigits _⟩
  · cases rest with
    | nil => exact hds
    | cons d' rest =>
      rw [List.forall_mem_cons, List.forall_mem_cons]
      exact ⟨hd, hpoint, fun c hc => hds c (List.mem_cons_of_mem d hc)⟩
  · split
    · exact List.forall_mem_singleton.2 hplus
    · exact fun c hc => absurd hc List.not_mem_nil

theorem isNumeric_magnitudeText (l : Layout) (bits : Nat) :
    ∀ c ∈ l.magnitudeText bits, IsNumeric c := by
  rw [Layout.magnitudeText]
  by_cases hz : (Binary.ofBits bits).mantissa = 0
  · simp only [if_pos hz]
    exact isNumeric_positionalText l _
  · simp only [if_neg hz]
    split
    · exact isNumeric_positionalText l _
    · split
      · exact isNumeric_positionalText l _
      · exact isNumeric_exponentText l _

/-! ## Texts of doubles in fingerprints -/

section Fingerprints

open Fingerprint (floatLayout)

def unsignedText (bits : Nat) : List Char :=
  if bits = Double.infinity then ['i', 'n', 'f'] else floatLayout.magnitudeText bits

theorem scaled?_magnitudeText (l : Layout) (bits : Nat) : scaled? (l.magnitudeText bits) ≠ none := by
  obtain ⟨r, hr, -⟩ := readsAs_magnitudeText l bits
  rw [hr]
  exact Option.some_ne_none r

theorem magnitudeText_ne {l : Layout} {bits : Nat} {cs : List Char} (h : scaled? cs = none) :
    l.magnitudeText bits ≠ cs := by
  intro he
  have hs := scaled?_magnitudeText l bits
  rw [he] at hs
  exact hs h

theorem unsignedText_inj {m n : Nat} (hm : m ≤ Double.infinity) (hn : n ≤ Double.infinity)
    (h : unsignedText m = unsignedText n) : m = n := by
  rw [unsignedText, unsignedText] at h
  by_cases hmi : m = Double.infinity
  · by_cases hni : n = Double.infinity
    · rw [hmi, hni]
    · rw [if_pos hmi, if_neg hni] at h
      exact absurd h.symm (magnitudeText_ne rfl)
  · by_cases hni : n = Double.infinity
    · rw [if_neg hmi, if_pos hni] at h
      exact absurd h (magnitudeText_ne rfl)
    · rw [if_neg hmi, if_neg hni] at h
      have hlast : Double.infinity < 2 ^ 63 := by decide
      exact magnitudeText_inj floatLayout (hm.trans_lt hlast) (hn.trans_lt hlast) h

theorem unsignedText_ne_minus (bits : Nat) (cs : List Char) : unsignedText bits ≠ '-' :: cs := by
  rw [unsignedText]
  split
  · exact fun h => absurd (List.cons.inj h).1 (by decide)
  · exact magnitudeText_ne rfl

theorem unsignedText_ne_nan (bits : Nat) : unsignedText bits ≠ ['N', 'a', 'N'] := by
  rw [unsignedText]
  split
  · decide
  · exact magnitudeText_ne rfl

theorem text_nan {x : Double} (h : x.isNaN) : (floatLayout.text x).toList = ['N', 'a', 'N'] := by
  rw [Layout.text, if_pos h]
  rfl

theorem text_unsigned {x : Double} (h : ¬ x.isNaN) :
    (floatLayout.text x).toList =
      (if x.isNegative then ['-'] else []) ++ unsignedText x.magnitude := by
  rw [Layout.text, if_neg h, unsignedText]
  by_cases hi : x.magnitude = Double.infinity
  · rw [if_pos hi, if_pos hi]
    cases x.isNegative <;> rfl
  · rw [if_neg hi, if_neg hi]
    exact String.toList_ofList

theorem unsigned_ne_nan {x : Double} (h : ¬ x.isNaN) :
    (floatLayout.text x).toList ≠ ['N', 'a', 'N'] := by
  rw [text_unsigned h]
  split
  · exact fun h => absurd (List.cons.inj h).1 (by decide)
  · exact unsignedText_ne_nan _

theorem magnitude_le {x : Double} (h : ¬ x.isNaN) : x.magnitude ≤ Double.infinity := by
  rw [Double.isNaN, decide_eq_true_eq] at h
  exact not_lt.1 h

/-- Doubles with the same text are the same, or both are NaNs. -/
theorem floatLayout_text_inj {x y : Double} (h : floatLayout.text x = floatLayout.text y) :
    x = y ∨ x.isNaN ∧ y.isNaN := by
  have ht : (floatLayout.text x).toList = (floatLayout.text y).toList := congrArg String.toList h
  by_cases hx : x.isNaN <;> by_cases hy : y.isNaN
  · exact .inr ⟨hx, hy⟩
  · rw [text_nan hx] at ht
    exact absurd ht.symm (unsigned_ne_nan hy)
  · rw [text_nan hy] at ht
    exact absurd ht (unsigned_ne_nan hx)
  · rw [text_unsigned hx, text_unsigned hy] at ht
    left
    by_cases hsx : x.isNegative <;> by_cases hsy : y.isNegative
    · rw [if_pos hsx, if_pos hsy] at ht
      have hm := unsignedText_inj (magnitude_le hx) (magnitude_le hy) (List.cons.inj ht).2
      exact Double.ext_of_magnitude (hsx.trans hsy.symm) hm
    · rw [if_pos hsx, if_neg hsy] at ht
      exact absurd ht.symm (unsignedText_ne_minus _ _)
    · rw [if_neg hsx, if_pos hsy] at ht
      exact absurd ht (unsignedText_ne_minus _ _)
    · rw [if_neg hsx, if_neg hsy] at ht
      have hm := unsignedText_inj (magnitude_le hx) (magnitude_le hy) ht
      rw [Bool.not_eq_true] at hsx hsy
      exact Double.ext_of_magnitude (hsx.trans hsy.symm) hm

theorem not_mem_unsignedText (bits : Nat) : ')' ∉ unsignedText bits := by
  rw [unsignedText]
  split
  · decide
  · intro hc
    exact absurd (isNumeric_magnitudeText floatLayout bits _ hc) (by unfold IsNumeric; decide)

theorem not_mem_text (x : Double) : ')' ∉ (floatLayout.text x).toList := by
  by_cases hx : x.isNaN
  · rw [text_nan hx]
    decide
  · rw [text_unsigned hx, List.mem_append]
    rintro (hc | hc)
    · split at hc
      · exact absurd hc (by decide)
      · exact absurd hc List.not_mem_nil
    · exact not_mem_unsignedText _ hc

end Fingerprints

end DocumentTemplates.Decimal
