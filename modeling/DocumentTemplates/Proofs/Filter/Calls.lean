import DocumentTemplates.Filter.Parser
import Mathlib.Data.List.DropRight
import Mathlib.Data.List.TakeWhile

/-!
# Calls as reading leaves them

Reading keeps of a call's text its function and its arguments, trimmed and without the empty ones:
no argument holds a comma, a parenthesis or a brace, and none has blanks around it.
-/

namespace DocumentTemplates

namespace Text

theorem trim_eq_rdropWhile (cs : List Char) :
    trim cs = List.rdropWhile isBlank (List.dropWhile isBlank cs) := rfl

theorem trim_trim (cs : List Char) : trim (trim cs) = trim cs := by
  simp only [trim_eq_rdropWhile]
  generalize hds : List.dropWhile isBlank cs = ds
  have hhead : List.dropWhile isBlank (List.rdropWhile isBlank ds) =
      List.rdropWhile isBlank ds := by
    rw [List.dropWhile_eq_self_iff]
    intro hl
    have hbegin := List.rdropWhile_prefix isBlank ds
    have hd : 0 < ds.length := Nat.lt_of_lt_of_le hl hbegin.length_le
    -- what is left begins as before, and that was no blank
    rw [hbegin.getElem hl]
    exact List.dropWhile_eq_self_iff.1 (hds ▸ List.dropWhile_idempotent isBlank cs) hd
  rw [hhead, List.rdropWhile_idempotent]

theorem mem_of_mem_trim {c : Char} {cs : List Char} (h : c ∈ trim cs) : c ∈ cs :=
  (List.dropWhile_sublist _).subset ((List.rdropWhile_prefix _ _).subset h)

theorem trimStart_cons {c : Char} (h : isBlank c = false) (rest : List Char) :
    trimStart (c :: rest) = c :: rest :=
  List.dropWhile_cons_of_neg (by simp [h])

end Text

namespace Filter

/-! ## Arguments -/

/-- The characters that end an argument, its list, or the reading of the list. -/
def isArgMark (c : Char) : Bool :=
  c = ',' || c = '(' || c = ')' || c = '{' || c = '}'

/-- An argument as reading leaves it. -/
structure IsArg (arg : String) : Prop where
  ne_nil : arg.toList ≠ []
  trimmed : Text.trim arg.toList = arg.toList
  unmarked : ∀ c ∈ arg.toList, isArgMark c = false

theorem splitCommas_ne_nil (cs : List Char) : splitCommas cs ≠ [] := by
  cases cs with
  | nil => simp [splitCommas]
  | cons c rest =>
    rw [splitCommas]
    split
    · simp
    · split <;> simp

theorem mem_of_mem_splitCommas {cs part : List Char} (h : part ∈ splitCommas cs) :
    ∀ c ∈ part, c ∈ cs ∧ c ≠ ',' := by
  induction cs generalizing part with
  | nil =>
    obtain rfl : part = [] := by simpa [splitCommas] using h
    simp
  | cons c rest ih =>
    rw [splitCommas] at h
    split at h
    · rcases List.mem_cons.1 h with rfl | h
      · simp
      · exact fun d hd => ⟨List.mem_cons_of_mem c (ih h d hd).1, (ih h d hd).2⟩
    · rename_i hc
      split at h
      · rename_i first parts hs
        rw [hs] at ih
        rcases List.mem_cons.1 h with rfl | h
        · intro d hd
          rcases List.mem_cons.1 hd with rfl | hd
          · exact ⟨List.mem_cons_self, hc⟩
          · have := ih List.mem_cons_self d hd
            exact ⟨List.mem_cons_of_mem c this.1, this.2⟩
        · intro d hd
          have := ih (List.mem_cons_of_mem first h) d hd
          exact ⟨List.mem_cons_of_mem c this.1, this.2⟩
      · rename_i hs
        exact absurd hs (splitCommas_ne_nil rest)

theorem splitCommas_of_not_mem {part : List Char} (h : ',' ∉ part) :
    splitCommas part = [part] := by
  induction part with
  | nil => rfl
  | cons c part ih =>
    rw [splitCommas, if_neg fun hc => h (by simp [hc]), ih fun hm => h (List.mem_cons_of_mem c hm)]

theorem splitCommas_append {part : List Char} (h : ',' ∉ part) (rest : List Char) :
    splitCommas (part ++ ',' :: rest) = part :: splitCommas rest := by
  induction part with
  | nil => rw [List.nil_append, splitCommas, if_pos rfl]
  | cons c part ih =>
    rw [List.cons_append, splitCommas, if_neg fun hc => h (by simp [hc]),
      ih fun hm => h (List.mem_cons_of_mem c hm)]

/-- The text between the parentheses of a call. -/
def argsText (args : List String) : List Char :=
  (String.intercalate "," args).toList

theorem argsText_eq (args : List String) :
    argsText args = [','].intercalate (args.map String.toList) := by
  rw [argsText, String.toList_intercalate]
  rfl

/-- A closing parenthesis or one of the characters that make an argument list fail. -/
def isParenMark (c : Char) : Bool :=
  c = ')' || c = '(' || c = '{' || c = '}'

theorem isArgMark_eq (c : Char) : isArgMark c = (decide (c = ',') || isParenMark c) := by
  simp only [isArgMark, isParenMark]
  grind

theorem readUntilParen_some {cs inner : List Char} (h : (readUntilParen cs).1 = some inner) :
    ∀ c ∈ inner, isParenMark c = false := by
  induction cs generalizing inner with
  | nil => cases h
  | cons c rest ih =>
    rw [readUntilParen] at h
    split at h
    · obtain rfl := Option.some.inj h
      simp
    · split at h
      · cases h
      · rename_i hclose hfail
        obtain ⟨more, hmore, rfl⟩ := Option.map_eq_some_iff.1 h
        intro d hd
        rcases List.mem_cons.1 hd with rfl | hd
        · simp_all [isParenMark]
        · exact ih hmore d hd

theorem readUntilParen_append {inner : List Char} (h : ∀ c ∈ inner, isParenMark c = false)
    (rest : List Char) : readUntilParen (inner ++ ')' :: rest) = (some inner, rest) := by
  induction inner with
  | nil => rfl
  | cons c inner ih =>
    have hc := h c List.mem_cons_self
    simp only [isParenMark, Bool.or_eq_false_iff, decide_eq_false_iff_not] at hc
    rw [List.cons_append, readUntilParen, if_neg hc.1.1.1, if_neg (by simp [hc]),
      ih fun d hd => h d (List.mem_cons_of_mem c hd)]
    rfl

theorem isArg_of_mem_splitArgs {inner : List Char} (h : ∀ c ∈ inner, isParenMark c = false)
    {arg : String} (ha : arg ∈ splitArgs inner) : IsArg arg := by
  obtain ⟨cs, hcs, rfl⟩ := List.mem_map.1 ha
  obtain ⟨hcs, hne⟩ := List.mem_filter.1 hcs
  obtain ⟨part, hpart, rfl⟩ := List.mem_map.1 hcs
  refine ⟨?_, ?_, ?_⟩
  · rw [String.toList_ofList]
    simpa using hne
  · rw [String.toList_ofList, Text.trim_trim]
  · intro c hc
    rw [String.toList_ofList] at hc
    obtain ⟨hin, hcomma⟩ := mem_of_mem_splitCommas hpart c (Text.mem_of_mem_trim hc)
    rw [isArgMark_eq, h c hin]
    simpa using hcomma

theorem readArgs_some {cs : List Char} {args : List String} (h : (readArgs cs).1 = some args) :
    ∀ arg ∈ args, IsArg arg := by
  rw [readArgs.eq_def] at h
  split at h
  · obtain ⟨inner, hinner, rfl⟩ := Option.map_eq_some_iff.1 h
    exact fun arg ha => isArg_of_mem_splitArgs (readUntilParen_some hinner) ha
  · cases h

/-! ## Names -/

/-- The text does not go on with the character of a name. -/
def EndsName (rest : List Char) : Prop :=
  ∀ c tail, rest = c :: tail → isNameChar c = false

theorem EndsName.cons {c : Char} (h : isNameChar c = false) (tail : List Char) :
    EndsName (c :: tail) := by
  rintro _ _ ⟨⟩
  exact h

theorem takeWhile_name {name rest : List Char} (hn : ∀ c ∈ name, isNameChar c = true)
    (hr : EndsName rest) : (name ++ rest).takeWhile isNameChar = name := by
  rw [List.takeWhile_append_of_pos hn]
  cases rest with
  | nil => simp
  | cons c tail =>
    rw [List.takeWhile_cons_of_neg (by simp [hr c tail rfl]), List.append_nil]

theorem dropWhile_name {name rest : List Char} (hn : ∀ c ∈ name, isNameChar c = true)
    (hr : EndsName rest) : (name ++ rest).dropWhile isNameChar = rest := by
  rw [List.dropWhile_append_of_pos hn]
  cases rest with
  | nil => rfl
  | cons c tail => exact List.dropWhile_cons_of_neg (by simp [hr c tail rfl])

/-! ## Calls -/

/-- A call as reading leaves it. -/
structure IsCall (call : FunctionCall) : Prop where
  args : ∀ arg ∈ call.args, IsArg arg
  accepted : acceptsArgs call.function call.args = true

theorem isCall_of_call? {name : String} {args : List String} {call : FunctionCall}
    (ha : ∀ arg ∈ args, IsArg arg) (h : call? name args = some call) : IsCall call := by
  rw [call?] at h
  split at h
  · split at h
    · rename_i haccepted
      obtain rfl := Option.some.inj h
      exact ⟨ha, haccepted⟩
    · cases h
  · cases h

theorem readCalls_some {rounds : Nat} {cs : List Char} {calls : List FunctionCall}
    (h : (readCalls rounds cs).1 = some calls) : ∀ call ∈ calls, IsCall call := by
  induction rounds generalizing cs calls with
  | zero =>
    obtain rfl := Option.some.inj h
    simp
  | succ rounds ih =>
    unfold readCalls at h
    split at h
    · split at h
      · cases h
      · split at h
        · cases h
        · rename_i args rest hargs
          obtain ⟨more, hmore, rfl⟩ := Option.map_eq_some_iff.1 h
          intro call hcall
          rcases List.mem_append.1 hcall with hcall | hcall
          · exact isCall_of_call? (readArgs_some (congrArg Prod.fst hargs))
              (Option.mem_toList.1 hcall)
          · exact ih hmore call hcall
    · obtain rfl := Option.some.inj h
      simp

theorem name_function (function : FilterFunction) :
    function.name.toList ≠ [] ∧ (∀ c ∈ function.name.toList, isNameChar c = true) ∧
      FilterFunction.ofName? (String.ofList function.name.toList) = some function := by
  have hall : function.name.toList.all isNameChar = true := by cases function <;> decide
  exact ⟨by cases function <;> decide, List.all_eq_true.1 hall, by cases function <;> decide⟩

/-- The text does not go on with a call. -/
def EndsCalls (rest : List Char) : Prop :=
  ∀ tail, rest ≠ '.' :: tail

theorem readCalls_end {rest : List Char} (h : EndsCalls rest) (rounds : Nat) :
    readCalls rounds rest = (some [], rest) := by
  cases rounds with
  | zero => rfl
  | succ rounds =>
    unfold readCalls
    split
    · exact absurd rfl (h _)
    · rfl

end Filter

end DocumentTemplates
