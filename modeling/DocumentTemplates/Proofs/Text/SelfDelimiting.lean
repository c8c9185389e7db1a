import DocumentTemplates.Text.Hexadecimal
import DocumentTemplates.Text.Quoted
import Mathlib.Data.List.Forall2

/-!
# Codes that end where they say

A code of a value is self-delimiting when only related values have it in front of any text, so
that a reader who meets it knows the value up to the relation, and where the code ends. Names
between delimiters are read the same way, as long as they do not hold their delimiter.
-/

namespace DocumentTemplates.Text

variable {α : Type} {R : α → α → Prop}

/-- The code of `a` can be told from what follows it, and from the codes of all values that are
not related to `a`. -/
def SelfDelimiting (R : α → α → Prop) (code : α → List Char) (a : α) : Prop :=
  ∀ b rest more, code a ++ rest = code b ++ more → R a b ∧ rest = more

/-- A run without a character ends where the character first stands. -/
theorem ended_inj {c : Char} {cs ds rest more : List Char} (hc : c ∉ cs) (hd : c ∉ ds)
    (h : cs ++ c :: rest = ds ++ c :: more) : cs = ds ∧ rest = more := by
  induction cs generalizing ds with
  | nil =>
    cases ds with
    | nil => exact ⟨rfl, (List.cons.inj h).2⟩
    | cons d ds =>
      have hcd : c = d := (List.cons.inj h).1
      exact absurd (hcd ▸ List.mem_cons_self) hd
  | cons x cs ih =>
    cases ds with
    | nil =>
      have hxc : x = c := (List.cons.inj h).1
      exact absurd (hxc ▸ List.mem_cons_self) hc
    | cons d ds =>
      obtain ⟨rfl, ht⟩ := List.cons.inj h
      obtain ⟨rfl, hr⟩ := ih (fun hm => hc (List.mem_cons_of_mem x hm))
        (fun hm => hd (List.mem_cons_of_mem x hm)) ht
      exact ⟨rfl, hr⟩

/-- Codes one after the other, up to a mark that none of them begins with. -/
theorem flatMap_inj {code : α → List Char} {c : Char} {as : List α}
    (ha : ∀ a ∈ as, SelfDelimiting R code a) (hc : ∀ a rest more, code a ++ rest ≠ c :: more)
    {bs : List α} {rest more : List Char}
    (h : as.flatMap code ++ c :: rest = bs.flatMap code ++ c :: more) :
    List.Forall₂ R as bs ∧ rest = more := by
  induction as generalizing bs with
  | nil =>
    cases bs with
    | nil => exact ⟨.nil, (List.cons.inj h).2⟩
    | cons b bs =>
      rw [List.flatMap_cons, List.append_assoc] at h
      exact absurd h.symm (hc b _ _)
  | cons a as ih =>
    cases bs with
    | nil =>
      rw [List.flatMap_cons, List.append_assoc] at h
      exact absurd h (hc a _ _)
    | cons b bs =>
      rw [List.flatMap_cons, List.flatMap_cons, List.append_assoc, List.append_assoc] at h
      obtain ⟨hab, ht⟩ := ha a List.mem_cons_self b _ _ h
      obtain ⟨has, hr⟩ := ih (fun x hx => ha x (List.mem_cons_of_mem a hx)) ht
      exact ⟨.cons hab has, hr⟩

/-! ## Hexadecimal digits -/

theorem hexValue?_digitChar {d : Nat} (hd : d < 16) : hexValue? d.digitChar = some d := by
  have all : ∀ d < 16, hexValue? (Nat.digitChar d) = some d := by decide
  exact all d hd

theorem hexValue?_of_mem_toDigits (n : Nat) :
    ∀ c ∈ Nat.toDigits 16 n, (hexValue? c).isSome := by
  induction n using Nat.strongRecOn with
  | ind n ih =>
    intro c hc
    rw [Nat.toDigits_eq_if (by decide)] at hc
    by_cases hn : n < 16
    · rw [if_pos hn, List.mem_singleton] at hc
      rw [hc, hexValue?_digitChar hn]
      rfl
    · rw [if_neg hn, List.mem_append, List.mem_singleton] at hc
      rcases hc with hc | hc
      · exact ih (n / 16) (by omega) c hc
      · rw [hc, hexValue?_digitChar (by omega)]
        rfl

theorem not_mem_toDigits_sixteen {c : Char} (hc : hexValue? c = none) (n : Nat) :
    c ∉ Nat.toDigits 16 n := by
  intro hm
  have hs := hexValue?_of_mem_toDigits n c hm
  rw [hc] at hs
  exact absurd hs (by decide)

def hexNumber (cs : List Char) : Nat :=
  cs.foldl (fun n c => 16 * n + (hexValue? c).getD 0) 0

theorem hexNumber_toDigits (n : Nat) : hexNumber (Nat.toDigits 16 n) = n := by
  induction n using Nat.strongRecOn with
  | ind n ih =>
    rw [Nat.toDigits_eq_if (by decide)]
    by_cases hn : n < 16
    · rw [if_pos hn, hexNumber, List.foldl_cons, List.foldl_nil, hexValue?_digitChar hn,
        Option.getD_some]
      omega
    · have hq : hexNumber (Nat.toDigits 16 (n / 16)) = n / 16 := ih (n / 16) (by omega)
      rw [if_neg hn, hexNumber, List.foldl_append, ← hexNumber, hq, List.foldl_cons,
        List.foldl_nil, hexValue?_digitChar (by omega), Option.getD_some]
      omega

theorem toDigits_sixteen_inj {m n : Nat} (h : Nat.toDigits 16 m = Nat.toDigits 16 n) : m = n := by
  rw [← hexNumber_toDigits m, h, hexNumber_toDigits]

/-! ## Quoted text -/

/-- The characters with an escape of one letter, each with its letter. -/
def shortEscapes : List (Char × Char) :=
  [(Char.ofNat 0, '0'), ('\t', 't'), ('\r', 'r'), ('\n', 'n'), ('"', '"'), ('\\', '\\')]

theorem shortEscapes_inj : ∀ p ∈ shortEscapes, ∀ q ∈ shortEscapes, p.2 = q.2 → p.1 = q.1 := by
  decide

theorem shortEscapes_ne_u : ∀ p ∈ shortEscapes, p.2 ≠ 'u' := by
  decide

theorem quotedChar_cases (c : Char) :
    (∃ e, (c, e) ∈ shortEscapes ∧ quotedChar c = ['\\', e]) ∨
    quotedChar c = '\\' :: 'u' :: '{' :: (Nat.toDigits 16 c.toNat ++ ['}']) ∨
    (quotedChar c = [c] ∧ c ≠ '"' ∧ c ≠ '\\') := by
  by_cases hz : c.toNat = 0
  · have hc : c = Char.ofNat 0 := by rw [← hz, Char.ofNat_toNat]
    subst hc
    exact .inl ⟨'0', by decide, by rw [quotedChar, if_pos hz]⟩
  by_cases ht : c = '\t'
  · subst ht
    exact .inl ⟨'t', by decide, by decide⟩
  by_cases hr : c = '\r'
  · subst hr
    exact .inl ⟨'r', by decide, by decide⟩
  by_cases hn : c = '\n'
  · subst hn
    exact .inl ⟨'n', by decide, by decide⟩
  by_cases hq : c = '"'
  · subst hq
    exact .inl ⟨'"', by decide, by decide⟩
  by_cases hb : c = '\\'
  · subst hb
    exact .inl ⟨'\\', by decide, by decide⟩
  simp only [quotedChar, hz, ht, hr, hn, hq, hb, if_false]
  by_cases hh : isHidden c
  · rw [if_pos hh]
    exact .inr (.inl rfl)
  · rw [if_neg hh]
    exact .inr (.inr ⟨rfl, hq, hb⟩)

theorem quotedChar_selfDelimiting (c : Char) : SelfDelimiting (· = ·) quotedChar c := by
  intro d rest more h
  rcases quotedChar_cases c with ⟨e, he, hc⟩ | hc | ⟨hc, -, hcb⟩ <;>
  rcases quotedChar_cases d with ⟨f, hf, hd⟩ | hd | ⟨hd, -, hdb⟩ <;>
  rw [hc, hd] at h <;>
  simp only [List.cons_append, List.nil_append, List.append_assoc, List.cons.injEq] at h
  case inl.inl =>
    exact ⟨shortEscapes_inj _ he _ hf h.2.1, h.2.2⟩
  case inl.inr.inl => exact absurd h.2.1 (shortEscapes_ne_u _ he)
  case inr.inl.inl => exact absurd h.2.1.symm (shortEscapes_ne_u _ hf)
  case inr.inl.inr.inl =>
    have closed : ∀ n, '}' ∉ Nat.toDigits 16 n := not_mem_toDigits_sixteen (by decide)
    obtain ⟨hcd, hr⟩ := ended_inj (closed _) (closed _) h.2.2.2
    exact ⟨Char.toNat_inj.1 (toDigits_sixteen_inj hcd), hr⟩
  case inl.inr.inr => exact absurd h.1.symm hdb
  case inr.inl.inr.inr => exact absurd h.1.symm hdb
  case inr.inr.inl => exact absurd h.1 hcb
  case inr.inr.inr.inl => exact absurd h.1 hcb
  case inr.inr.inr.inr => exact h

theorem quotedChar_ne_quote (c : Char) (rest more : List Char) :
    quotedChar c ++ rest ≠ '"' :: more := by
  intro h
  rcases quotedChar_cases c with ⟨e, -, hc⟩ | hc | ⟨hc, hq, -⟩ <;> rw [hc] at h
  · exact absurd (List.cons.inj h).1 (by decide)
  · exact absurd (List.cons.inj h).1 (by decide)
  · exact hq (List.cons.inj h).1

/-- Quoted text ends at the first quotation mark that is not escaped. -/
theorem quoted_selfDelimiting (s : String) : SelfDelimiting (· = ·) quoted s := by
  intro t rest more h
  simp only [quoted, List.cons_append, List.append_assoc, List.nil_append, List.cons.injEq,
    true_and] at h
  obtain ⟨hst, hr⟩ := flatMap_inj (fun c _ => quotedChar_selfDelimiting c) quotedChar_ne_quote h
  rw [List.forall₂_eq_eq_eq] at hst
  exact ⟨String.toList_inj.1 hst, hr⟩

end DocumentTemplates.Text
