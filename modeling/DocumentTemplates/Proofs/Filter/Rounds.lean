import DocumentTemplates.Proofs.Filter.Progress

/-!
# Rounds enough

With one round for each character, more rounds change nothing: neither what is read nor where
reading stops.
-/

namespace DocumentTemplates.Filter

theorem readCalls_nil (rounds : Nat) : readCalls rounds [] = (some [], []) :=
  readCalls_end (fun _ h => by cases h) rounds

theorem readCalls_rounds {rounds more : Nat} {cs : List Char} (h : cs.length ≤ rounds)
    (hm : cs.length ≤ more) : readCalls rounds cs = readCalls more cs := by
  induction rounds generalizing more cs with
  | zero =>
    obtain rfl := List.eq_nil_of_length_eq_zero (Nat.le_zero.1 h)
    rw [readCalls_nil, readCalls_nil]
  | succ rounds ih =>
    cases more with
    | zero =>
      obtain rfl := List.eq_nil_of_length_eq_zero (Nat.le_zero.1 hm)
      rw [readCalls_nil, readCalls_nil]
    | succ more =>
      unfold readCalls
      split
      · rename_i rest
        have hargs := (readArgs_behind_name_suffix rest).length_le
        rw [List.length_cons] at h hm
        split
        · rfl
        · split
          · rfl
          · rename_i args behind hread
            rw [hread] at hargs
            simp only at hargs
            have hbehind : readCalls rounds behind = readCalls more behind :=
              ih (by omega) (by omega)
            rw [hbehind]
      · rfl

variable (parentName : String → String)

/-- A field depends on how groups are read only for texts shorter than its own. -/
theorem readField_congr {group group' : List Char → List FilterField × List Char} {cs : List Char}
    (h : ∀ text, text.length < cs.length → group text = group' text) :
    readField parentName group cs = readField parentName group' cs := by
  have hdrop : (cs.dropWhile isNameChar).length ≤ cs.length :=
    (List.dropWhile_suffix isNameChar).length_le
  have hcalls := (readCalls_suffix (cs.dropWhile isNameChar).length
    (cs.dropWhile isNameChar)).length_le
  unfold readField
  split
  · rfl
  · split
    · rfl
    · rename_i rest hread
      rw [hread] at hcalls
      simp only at hcalls
      have htrim : (Text.trimStart rest).length ≤ rest.length :=
        (List.dropWhile_suffix Text.isBlank).length_le
      unfold readGroup
      split
      · rename_i text hopen
        rw [hopen, List.length_cons] at htrim
        rw [h text (by omega)]
      · rfl

theorem readFields_nil (rounds : Nat) : readFields parentName rounds [] = ([], []) := by
  cases rounds <;> rfl

theorem readFields_rounds {rounds more : Nat} {cs : List Char} (h : cs.length ≤ rounds)
    (hm : cs.length ≤ more) :
    readFields parentName rounds cs = readFields parentName more cs := by
  induction rounds generalizing more cs with
  | zero =>
    obtain rfl := List.eq_nil_of_length_eq_zero (Nat.le_zero.1 h)
    rw [readFields_nil, readFields_nil]
  | succ rounds ih =>
    cases more with
    | zero =>
      obtain rfl := List.eq_nil_of_length_eq_zero (Nat.le_zero.1 hm)
      rw [readFields_nil, readFields_nil]
    | succ more =>
      have htrim : (Text.trimStart cs).length ≤ cs.length :=
        (List.dropWhile_suffix Text.isBlank).length_le
      by_cases hends : EndsField (Text.trimStart cs)
      · rw [readFields, readFields]
        generalize Text.trimStart cs = trimmed at htrim hends
        cases hends with
        | done => rfl
        | brace tail => rfl
        | comma tail =>
          rw [List.length_cons] at htrim
          exact ih (by omega) (by omega)
      · have hfield : readField parentName (readFields parentName rounds) (Text.trimStart cs) =
            readField parentName (readFields parentName more) (Text.trimStart cs) :=
          readField_congr parentName fun text ht => ih (by omega) (by omega)
        have hlt := behindField_lt parentName (readFields_suffix parentName more) hends
        rw [readFields_round parentName hends, readFields_round parentName hends, hfield]
        generalize readField parentName (readFields parentName more) (Text.trimStart cs) = read
          at hlt
        have hmore : readFields parentName rounds (behindField read) =
            readFields parentName more (behindField read) := ih (by omega) (by omega)
        simp only [hmore]

theorem readQuery_rounds {rounds more : Nat} {cs : List Char} (h : cs.length < rounds)
    (hm : cs.length < more) :
    readQuery parentName rounds cs = readQuery parentName more cs := by
  induction rounds generalizing more cs with
  | zero => exact absurd h (Nat.not_lt_zero _)
  | succ rounds ih =>
    cases more with
    | zero => exact absurd hm (Nat.not_lt_zero _)
    | succ more =>
      have hread := (readFields_suffix parentName cs.length cs).length_le
      unfold readQuery
      split
      · rename_i fields rest hfields
        rw [hfields, List.length_cons] at hread
        have hmore : readQuery parentName rounds rest = readQuery parentName more rest :=
          ih (by omega) (by omega)
        rw [hmore]
      · rfl

end DocumentTemplates.Filter
