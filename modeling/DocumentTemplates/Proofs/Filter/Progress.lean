import DocumentTemplates.Proofs.Filter.Spelling

/-!
# Reading goes forward

Every step of reading leaves an end of the text it was given, and a round of reading fields reads
at least one character. So with one round for each character reading stops only at the end of the
text or at a closing brace.
-/

namespace DocumentTemplates.Filter

theorem skipFragment_suffix (depth : Nat) (cs : List Char) : skipFragment depth cs <:+ cs := by
  induction cs generalizing depth with
  | nil => cases depth <;> exact List.suffix_refl []
  | cons c rest ih =>
    cases depth <;> rw [skipFragment] <;> repeat' split
    all_goals first
      | exact List.suffix_refl _
      | exact (ih _).trans (List.suffix_cons c rest)

/-- Outside all groups a fragment ends where a field may end. -/
theorem skipFragment_endsField (depth : Nat) (cs : List Char) :
    EndsField (skipFragment depth cs) := by
  induction cs generalizing depth with
  | nil => cases depth <;> exact .done
  | cons c rest ih =>
    cases depth with
    | zero =>
      rw [skipFragment]
      split
      · rename_i hc
        rcases (by simpa using hc : c = ',' ∨ c = '}') with rfl | rfl
        · exact .comma rest
        · exact .brace rest
      · split <;> exact ih _
    | succ depth =>
      rw [skipFragment]
      repeat' split
      all_goals exact ih _

theorem skipTrailing_suffix (cs : List Char) : skipTrailing cs <:+ cs := by
  have htrim : Text.trimStart cs <:+ cs := List.dropWhile_suffix Text.isBlank
  rw [skipTrailing]
  split
  · exact List.nil_suffix
  · rename_i h
    exact h ▸ htrim
  · rename_i h
    exact h ▸ htrim
  · exact (skipFragment_suffix 0 _).trans htrim

theorem skipTrailing_endsField (cs : List Char) : EndsField (skipTrailing cs) := by
  rw [skipTrailing]
  split
  · exact .done
  · exact .brace _
  · exact .comma _
  · exact skipFragment_endsField 0 _

theorem readUntilParen_suffix (cs : List Char) : (readUntilParen cs).2 <:+ cs := by
  induction cs with
  | nil => exact List.suffix_refl []
  | cons c rest ih =>
    rw [readUntilParen]
    repeat' split
    · exact List.suffix_cons c rest
    · exact List.suffix_cons c rest
    · rename_i h
      rw [h] at ih
      exact ih.trans (List.suffix_cons c rest)

theorem readArgs_suffix (cs : List Char) : (readArgs cs).2 <:+ cs := by
  rw [readArgs.eq_def]
  split
  · rename_i rest
    exact (readUntilParen_suffix rest).trans (List.suffix_cons _ rest)
  · exact List.suffix_refl _

theorem readArgs_behind_name_suffix (cs : List Char) :
    (readArgs (cs.dropWhile isNameChar)).2 <:+ cs :=
  (readArgs_suffix _).trans (List.dropWhile_suffix isNameChar)

theorem readCalls_suffix (rounds : Nat) (cs : List Char) : (readCalls rounds cs).2 <:+ cs := by
  induction rounds generalizing cs with
  | zero => exact List.suffix_refl cs
  | succ rounds ih =>
    unfold readCalls
    split
    · rename_i rest
      have hargs := (readArgs_behind_name_suffix rest).trans (List.suffix_cons '.' rest)
      split
      · exact (List.dropWhile_suffix isNameChar).trans (List.suffix_cons '.' rest)
      · split
        · rename_i h
          rw [h] at hargs
          exact hargs
        · rename_i h
          rw [h] at hargs
          exact (ih _).trans hargs
    · exact List.suffix_refl _

/-- Where no name begins nothing is read of one. -/
theorem dropWhile_of_nameless {cs : List Char} (h : cs.takeWhile isNameChar = []) :
    cs.dropWhile isNameChar = cs :=
  List.dropWhile_eq_self_iff.2 (List.takeWhile_eq_nil_iff.1 h)

/-- One round of reading calls, where a call has a name. -/
theorem readCalls_round {rest : List Char} (h : rest.takeWhile isNameChar ≠ []) (rounds : Nat) :
    readCalls (rounds + 1) ('.' :: rest) =
      match readArgs (rest.dropWhile isNameChar) with
      | (none, behind) => (none, behind)
      | (some args, behind) =>
        ((readCalls rounds behind).1.map
            ((call? (String.ofList (rest.takeWhile isNameChar)) args).toList ++ ·),
          (readCalls rounds behind).2) := by
  rw [readCalls]
  split
  · exact absurd ‹_› h
  · rfl

theorem readGroup_of_not_open {parentName : String → String}
    {group : List Char → List FilterField × List Char} {name : String}
    {calls : List FunctionCall} {rest : List Char}
    (h : ∀ text, Text.trimStart rest ≠ '{' :: text) :
    readGroup parentName group name calls rest =
      (some (.mk name calls none), Text.trimStart rest) := by
  unfold readGroup
  split
  · exact absurd ‹_› (h _)
  · rfl

variable (parentName : String → String)

theorem readGroup_suffix {group : List Char → List FilterField × List Char}
    (hg : ∀ cs, (group cs).2 <:+ cs) (name : String) (calls : List FunctionCall)
    (cs : List Char) : (readGroup parentName group name calls cs).2 <:+ cs := by
  have htrim : Text.trimStart cs <:+ cs := List.dropWhile_suffix Text.isBlank
  unfold readGroup
  split
  · rename_i rest h
    have hrest : rest <:+ cs := (List.suffix_cons '{' rest).trans (h ▸ htrim)
    have hread := hg rest
    split
    · rename_i h
      rw [h] at hread
      exact (List.suffix_cons _ _).trans (hread.trans hrest)
    · rename_i h
      rw [h] at hread
      exact hread.trans hrest
  · exact htrim

theorem readField_suffix {group : List Char → List FilterField × List Char}
    (hg : ∀ cs, (group cs).2 <:+ cs) (cs : List Char) :
    (readField parentName group cs).2 <:+ cs.dropWhile isNameChar := by
  unfold readField
  have hcalls := readCalls_suffix (cs.dropWhile isNameChar).length (cs.dropWhile isNameChar)
  split
  · exact List.suffix_refl _
  · split
    · rename_i h
      rw [h] at hcalls
      exact hcalls
    · rename_i h
      rw [h] at hcalls
      exact (readGroup_suffix parentName hg _ _ _).trans hcalls

theorem readField_nameless {cs : List Char} (h : cs.takeWhile isNameChar = [])
    (group : List Char → List FilterField × List Char) :
    readField parentName group cs = (none, cs) := by
  unfold readField
  rw [h, dropWhile_of_nameless h]

theorem readField_named {cs : List Char} (h : cs.takeWhile isNameChar ≠ [])
    (group : List Char → List FilterField × List Char) :
    readField parentName group cs =
      match readCalls (cs.dropWhile isNameChar).length (cs.dropWhile isNameChar) with
      | (none, rest) => (none, rest)
      | (some calls, rest) =>
        readGroup parentName group (String.ofList (cs.takeWhile isNameChar)) calls rest := by
  unfold readField
  split
  · exact absurd ‹_› h
  · rfl

/-- Where reading goes on behind a field, or behind the fragment that was none. -/
def behindField (field : Option FilterField × List Char) : List Char :=
  skipTrailing (if field.1.isSome then field.2 else skipFragment 0 field.2)

theorem behindField_suffix (field : Option FilterField × List Char) :
    behindField field <:+ field.2 := by
  refine (skipTrailing_suffix _).trans ?_
  split
  · exact List.suffix_refl _
  · exact skipFragment_suffix 0 _

theorem skipFragment_lt {cs : List Char} (h : ¬ EndsField cs) :
    (skipFragment 0 cs).length < cs.length := by
  cases cs with
  | nil => exact absurd .done h
  | cons c rest =>
    have hsplit : ¬ (c = ',' ∨ c = '}') := by
      rintro (rfl | rfl)
      · exact h (.comma rest)
      · exact h (.brace rest)
    rw [skipFragment, if_neg (by simpa using hsplit), List.length_cons, Nat.lt_succ_iff]
    split <;> exact (skipFragment_suffix _ rest).length_le

theorem behindField_lt {group : List Char → List FilterField × List Char}
    (hg : ∀ cs, (group cs).2 <:+ cs) {cs : List Char} (h : ¬ EndsField cs) :
    (behindField (readField parentName group cs)).length < cs.length := by
  by_cases hname : cs.takeWhile isNameChar = []
  · rw [readField_nameless parentName hname, behindField]
    exact (skipTrailing_suffix _).length_le.trans_lt (skipFragment_lt h)
  · have hpos := List.length_pos_iff.2 hname
    have hsplit : cs.takeWhile isNameChar ++ cs.dropWhile isNameChar = cs :=
      List.takeWhile_append_dropWhile
    have hlength := congrArg List.length hsplit
    rw [List.length_append] at hlength
    have hsuffix := (behindField_suffix _).trans (readField_suffix parentName hg cs)
    have hle := hsuffix.length_le
    omega

/-- One round of reading fields, where a field may be looked for. -/
theorem readFields_round {rounds : Nat} {cs : List Char} (h : ¬ EndsField (Text.trimStart cs)) :
    readFields parentName (rounds + 1) cs =
      let read := readField parentName (readFields parentName rounds) (Text.trimStart cs)
      (read.1.toList ++ (readFields parentName rounds (behindField read)).1,
        (readFields parentName rounds (behindField read)).2) := by
  rw [readFields]
  split
  · rename_i hcs
    exact absurd (hcs ▸ .done) h
  · rename_i hcs
    exact absurd (hcs ▸ .brace _) h
  · rename_i hcs
    exact absurd (hcs ▸ .comma _) h
  · rfl

theorem readFields_suffix (rounds : Nat) (cs : List Char) :
    (readFields parentName rounds cs).2 <:+ cs := by
  induction rounds generalizing cs with
  | zero => exact List.suffix_refl cs
  | succ rounds ih =>
    have htrim : Text.trimStart cs <:+ cs := List.dropWhile_suffix Text.isBlank
    by_cases hends : EndsField (Text.trimStart cs)
    · rw [readFields]
      generalize Text.trimStart cs = trimmed at htrim hends
      cases hends with
      | done => exact List.nil_suffix
      | brace tail => exact htrim
      | comma tail => exact (ih tail).trans ((List.suffix_cons ',' tail).trans htrim)
    · rw [readFields_round parentName hends]
      exact (ih _).trans ((behindField_suffix _).trans
        ((readField_suffix parentName ih _).trans ((List.dropWhile_suffix _).trans htrim)))

/-- One round of reading a query. -/
theorem readQuery_succ (rounds : Nat) (cs : List Char) :
    readQuery parentName (rounds + 1) cs =
      (readFields parentName cs.length cs).1 ++
        match (readFields parentName cs.length cs).2 with
        | '}' :: rest => readQuery parentName rounds rest
        | _ => [] := by
  rw [readQuery]
  generalize readFields parentName cs.length cs = read
  obtain ⟨fields, rest⟩ := read
  split
  · rename_i h
    obtain ⟨rfl, rfl⟩ := Prod.mk.inj h
    rfl
  · rename_i hstop h
    obtain ⟨rfl, rfl⟩ := Prod.mk.inj h
    split
    · exact (hstop _ ‹_›).elim
    · exact (List.append_nil _).symm

/-- The text is at its end, or a closing brace follows. -/
def StopsFields (cs : List Char) : Prop :=
  cs = [] ∨ ∃ tail, cs = '}' :: tail

/-- With a round for each character, reading fields stops only at the end of the text or at a
closing brace. -/
theorem readFields_stops {rounds : Nat} {cs : List Char} (h : cs.length ≤ rounds) :
    StopsFields (readFields parentName rounds cs).2 := by
  induction rounds generalizing cs with
  | zero => exact .inl (List.eq_nil_of_length_eq_zero (Nat.le_zero.1 h))
  | succ rounds ih =>
    have htrim : (Text.trimStart cs).length ≤ cs.length :=
      (List.dropWhile_suffix Text.isBlank).length_le
    by_cases hends : EndsField (Text.trimStart cs)
    · rw [readFields]
      generalize Text.trimStart cs = trimmed at htrim hends
      cases hends with
      | done => exact .inl rfl
      | brace tail => exact .inr ⟨tail, rfl⟩
      | comma tail => exact ih (by rw [List.length_cons] at htrim; omega)
    · have hlt := behindField_lt parentName (readFields_suffix parentName rounds) hends
      rw [readFields_round parentName hends]
      exact ih (by omega)

end DocumentTemplates.Filter
