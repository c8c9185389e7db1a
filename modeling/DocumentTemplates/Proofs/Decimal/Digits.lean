import DocumentTemplates.Decimal.Reader
import Mathlib.Algebra.Order.Field.Power

/-!
# Digits and the numbers they write
-/

namespace DocumentTemplates.Decimal

theorem isDigit_eq (c : Char) : isDigit c = c.isDigit :=
  rfl

theorem value_eq (cs : List Char) : value cs = Nat.ofDigitChars 10 cs 0 :=
  rfl

@[simp] theorem value_digits (n : Nat) : value (digits n) = n := by
  rw [value_eq, digits, Nat.ofDigitChars_ten_toDigits]

theorem digits_ne_nil (n : Nat) : digits n ≠ [] :=
  Nat.toDigits_ne_nil

theorem isDigit_of_mem_digits {n : Nat} {c : Char} (hc : c ∈ digits n) : isDigit c := by
  rw [isDigit_eq]
  exact Nat.isDigit_of_mem_toDigits (by decide) (by decide) hc

theorem isDigit_of_mem_replicate {n : Nat} {c : Char} (hc : c ∈ List.replicate n '0') :
    isDigit c := by
  rw [(List.mem_replicate.1 hc).2]
  decide

theorem value_append (cs ds : List Char) :
    value (cs ++ ds) = value cs * 10 ^ ds.length + value ds := by
  rw [value_eq, Nat.ofDigitChars_append, Nat.ofDigitChars_eq_ofDigitChars_zero, ← value_eq,
    ← value_eq, Nat.mul_comm]

theorem value_append_zeros (cs : List Char) (n : Nat) :
    value (cs ++ List.replicate n '0') = value cs * 10 ^ n := by
  rw [value_eq, Nat.ofDigitChars_append, Nat.ofDigitChars_replicate_zero, ← value_eq,
    Nat.mul_comm]

theorem value_zeros_append (n : Nat) (cs : List Char) :
    value (List.replicate n '0' ++ cs) = value cs := by
  rw [value_eq, Nat.ofDigitChars_append, Nat.ofDigitChars_replicate_zero, Nat.mul_zero, value_eq]

theorem splitSign_of_isDigit {c : Char} (hc : isDigit c) (cs : List Char) :
    splitSign (c :: cs) = (false, c :: cs) := by
  by_cases hm : c = '-'
  · subst hm
    exact absurd hc (by decide)
  by_cases hp : c = '+'
  · subst hp
    exact absurd hc (by decide)
  rw [splitSign]
  · exact fun rest h => hm (List.cons.inj h).1
  · exact fun rest h => hp (List.cons.inj h).1

theorem digits_eq_cons (n : Nat) : ∃ d rest, digits n = d :: rest ∧ isDigit d := by
  obtain ⟨d, rest, hd⟩ := List.exists_cons_of_ne_nil (digits_ne_nil n)
  exact ⟨d, rest, hd, isDigit_of_mem_digits (hd ▸ List.mem_cons_self)⟩

/-- No digit follows a leading zero. -/
theorem digits_ne_zero_cons (n : Nat) (d : Char) (rest : List Char) :
    digits n ≠ '0' :: d :: rest := by
  induction n using Nat.strongRecOn generalizing d rest with
  | ind n ih =>
    rw [digits, Nat.toDigits_eq_if (by decide)]
    split
    · exact fun h => List.cons_ne_nil d rest (List.cons.inj h).2.symm
    · intro h
      obtain ⟨c, cs, hc, -⟩ := digits_eq_cons (n / 10)
      have hv := value_digits (n / 10)
      rw [← digits, hc] at h
      obtain rfl := (List.cons.inj h).1
      cases cs with
      | nil =>
        rw [hc] at hv
        have hzero : value ['0'] = 0 := rfl
        omega
      | cons d cs => exact ih (n / 10) (by omega) d cs hc

theorem splitSign_digits (n : Nat) : splitSign (digits n) = (false, digits n) := by
  obtain ⟨d, rest, hn, hd⟩ := digits_eq_cons n
  rw [hn, splitSign_of_isDigit hd]

theorem all_isDigit_digits (n : Nat) : (digits n).all isDigit :=
  List.all_eq_true.2 fun _ hc => isDigit_of_mem_digits hc

/-- The exponent of a written decimal, after an optional plus sign, is the number itself. -/
theorem exponent?_intDigits (plus : Bool) (p : Int) :
    exponent? ('e' :: ((if plus && 0 ≤ p then ['+'] else []) ++ intDigits p)) = some p := by
  have hne : ∀ n, (digits n).isEmpty = false := fun n =>
    List.isEmpty_eq_false_iff.2 (digits_ne_nil n)
  cases p with
  | ofNat n =>
    have hs : splitSign ((if plus && 0 ≤ Int.ofNat n then ['+'] else []) ++ digits n) =
        (false, digits n) := by
      by_cases hp : plus && 0 ≤ Int.ofNat n
      · rw [if_pos hp]
        rfl
      · rw [if_neg hp, List.nil_append, splitSign_digits]
    simp only [exponent?, intDigits, hs, hne, all_isDigit_digits, value_digits]
    rfl
  | negSucc n =>
    have hp : ¬ 0 ≤ Int.negSucc n := by omega
    simp only [exponent?, intDigits, hp, decide_false, Bool.and_false, Bool.false_eq_true,
      if_false, List.nil_append, splitSign, hne, all_isDigit_digits, value_digits]
    rfl

theorem intDigits_inj {i j : Int} (h : intDigits i = intDigits j) : i = j := by
  have hi := exponent?_intDigits false i
  have hj := exponent?_intDigits false j
  simp only [Bool.false_and, Bool.false_eq_true, if_false, List.nil_append] at hi hj
  rw [h, hj] at hi
  exact (Option.some.inj hi).symm

theorem not_mem_intDigits {c : Char} (hc : isDigit c = false) (hm : c ≠ '-') (i : Int) :
    c ∉ intDigits i := by
  have hd : ∀ n, c ∉ digits n := by
    intro n h
    rw [isDigit_of_mem_digits h] at hc
    exact absurd hc (by decide)
  cases i with
  | ofNat n => exact hd n
  | negSucc n =>
    intro h
    rcases List.mem_cons.1 h with rfl | h
    · exact hm rfl
    · exact hd _ h

/-! ## Reading a decimal -/

theorem takeWhile_isDigit {cs : List Char} (hc : ∀ c ∈ cs, isDigit c) {tail : List Char}
    (ht : tail.takeWhile isDigit = []) :
    (cs ++ tail).takeWhile isDigit = cs ∧ (cs ++ tail).dropWhile isDigit = tail := by
  have hd : tail.dropWhile isDigit = tail := by
    have h := List.takeWhile_append_dropWhile (p := isDigit) (l := tail)
    rwa [ht, List.nil_append] at h
  rw [List.takeWhile_append_of_pos hc, List.dropWhile_append_of_pos hc, ht, hd, List.append_nil]
  exact ⟨rfl, rfl⟩

theorem scaled?_whole {whole tail : List Char} (hw : ∀ c ∈ whole, isDigit c) (hne : whole ≠ [])
    (ht : tail.takeWhile isDigit = []) (hp : ∀ more, tail ≠ '.' :: more) :
    scaled? (whole ++ tail) = (exponent? tail).map fun e => ⟨value whole, e⟩ := by
  obtain ⟨hwhole, hrest⟩ := takeWhile_isDigit hw ht
  have hempty : whole.isEmpty = false := List.isEmpty_eq_false_iff.2 hne
  rw [scaled?, hwhole, hrest]
  split
  next fraction rest hparts =>
    split at hparts
    · exact absurd rfl (hp _)
    · obtain ⟨rfl, rfl⟩ := Prod.mk.inj hparts
      simp only [hempty, Bool.false_and, Bool.false_eq_true, if_false, List.append_nil,
        List.length_nil, Int.natCast_zero, Int.sub_zero]

theorem scaled?_point {whole fraction tail : List Char} (hw : ∀ c ∈ whole, isDigit c)
    (hne : whole ≠ []) (hf : ∀ c ∈ fraction, isDigit c) (ht : tail.takeWhile isDigit = []) :
    scaled? (whole ++ '.' :: (fraction ++ tail)) =
      (exponent? tail).map fun e => ⟨value (whole ++ fraction), e - fraction.length⟩ := by
  have hpoint : ('.' :: (fraction ++ tail)).takeWhile isDigit = [] := rfl
  obtain ⟨hwhole, hrest⟩ := takeWhile_isDigit hw hpoint
  obtain ⟨hfraction, htail⟩ := takeWhile_isDigit hf ht
  have hempty : whole.isEmpty = false := List.isEmpty_eq_false_iff.2 hne
  rw [scaled?, hwhole, hrest]
  simp only [hfraction, htail, hempty, Bool.false_and, Bool.false_eq_true, if_false]

end DocumentTemplates.Decimal
