import DocumentTemplates.Proofs.Filter.Groups
import DocumentTemplates.Proofs.Filter.Rounds

/-!
# One fragment after another

A query whose brackets are nested may be malformed in every other way: when its text is at an end,
reading is back at the top. For a bracket is only ever lost in a call whose arguments fail, and then
it is an opening one, so that at every place no more groups are being read than the query has open
braces. What stands behind a comma is therefore read as if it stood alone.
-/

namespace DocumentTemplates.Filter

/-- The query goes on with `rest` inside of at least `braces` brace groups. -/
def Inside (query : String) (braces : Nat) (rest : List Char) : Prop :=
  ∃ stack, Place query stack rest ∧ braces ≤ stack.count .brace

variable {query : String} {braces : Nat} {rest : List Char}

theorem Place.pass {stack : List Group} {c : Char} (hc : isParenMark c = false)
    (h : Place query stack (c :: rest)) : Place query stack rest := by
  rw [← List.singleton_append] at h
  exact h.unmarked (by simpa using hc)

theorem Place.inside {stack : List Group} (h : Place query stack rest) :
    Inside query (stack.count .brace) rest :=
  ⟨stack, h, Nat.le_refl _⟩

namespace Inside

theorem mono (h : Inside query braces rest) {fewer : Nat} (hf : fewer ≤ braces) :
    Inside query fewer rest := by
  obtain ⟨stack, hplace, hb⟩ := h
  exact ⟨stack, hplace, hf.trans hb⟩

theorem eq_zero (hn : IsNested query) (h : Inside query braces []) : braces = 0 := by
  obtain ⟨stack, hplace, hb⟩ := h
  rw [hplace.stack_eq_nil hn] at hb
  exact Nat.le_zero.1 hb

theorem openBrace (hn : IsNested query) (h : Inside query braces ('{' :: rest)) :
    Inside query (braces + 1) rest := by
  obtain ⟨stack, hplace, hb⟩ := h
  refine ⟨_, hplace.openBrace hn, ?_⟩
  rw [List.count_cons_self]
  exact Nat.succ_le_succ hb

theorem closeBrace (hn : IsNested query) (h : Inside query braces ('}' :: rest)) :
    Inside query (braces - 1) rest := by
  obtain ⟨stack, hplace, hb⟩ := h
  obtain ⟨outer, rfl, houter⟩ := hplace.closeBrace hn
  rw [List.count_cons_self] at hb
  exact ⟨outer, houter, Nat.sub_le_of_le_add hb⟩

theorem pass {c : Char} (hc : isParenMark c = false) (h : Inside query braces (c :: rest)) :
    Inside query braces rest := by
  obtain ⟨stack, hplace, hb⟩ := h
  exact ⟨stack, hplace.pass hc, hb⟩

theorem dropWhile {p : Char → Bool} (hp : ∀ c, p c = true → isParenMark c = false)
    (h : Inside query braces rest) : Inside query braces (rest.dropWhile p) := by
  obtain ⟨stack, hplace, hb⟩ := h
  exact ⟨stack, hplace.dropWhile hp, hb⟩

end Inside

/-! ## Reading in front of a comma -/

theorem takeWhile_append_stop {p : Char → Bool} {c : Char} (hc : p c = false)
    (text rest : List Char) : (text ++ c :: rest).takeWhile p = text.takeWhile p := by
  induction text with
  | nil => simp [hc]
  | cons d text ih => rw [List.cons_append, List.takeWhile_cons, List.takeWhile_cons, ih]

theorem dropWhile_append_stop {p : Char → Bool} {c : Char} (hc : p c = false)
    (text rest : List Char) : (text ++ c :: rest).dropWhile p = text.dropWhile p ++ c :: rest := by
  induction text with
  | nil => simp [hc]
  | cons d text ih =>
    rw [List.cons_append, List.dropWhile_cons, List.dropWhile_cons, ih]
    split <;> rfl

/-- A text in front of a comma begins with another mark only if it begins with it alone. -/
theorem begins_of_append_comma {mark : Char} (hm : mark ≠ ',') {text more tail : List Char}
    (h : text ++ ',' :: more = mark :: tail) : ∃ rest, text = mark :: rest := by
  cases text with
  | nil => exact absurd (List.cons.inj h).1.symm hm
  | cons c rest => exact ⟨rest, by rw [(List.cons.inj h).1]⟩

theorem trimStart_append_comma (text rest : List Char) :
    Text.trimStart (text ++ ',' :: rest) = Text.trimStart text ++ ',' :: rest :=
  dropWhile_append_stop (by decide) text rest

/-- Skipping from inside groups that were opened on the way. A parenthesis that closes none of them
was opened by a call that failed, and is skipped. -/
theorem skipFragment_append_comma (hn : IsNested query) {inner outer : List Group}
    (h : Place query (inner ++ outer) rest) (more : List Char) :
    skipFragment inner.length (rest ++ ',' :: more) =
        skipFragment inner.length rest ++ ',' :: more ∧
      Inside query (outer.count .brace) (skipFragment inner.length rest) := by
  induction rest generalizing inner outer with
  | nil =>
    obtain ⟨rfl, rfl⟩ := List.append_eq_nil_iff.1 (h.stack_eq_nil hn)
    exact ⟨rfl, h.inside⟩
  | cons c rest ih =>
    by_cases hbrace : c = '{'
    · subst hbrace
      have hinner : Place query ((.brace :: inner) ++ outer) rest := h.openBrace hn
      rw [List.cons_append, skipFragment_open (.inl rfl), skipFragment_open (.inl rfl)]
      exact ih hinner
    by_cases hparen : c = '('
    · subst hparen
      have hinner : Place query ((.paren :: inner) ++ outer) rest := h.openParen hn
      rw [List.cons_append, skipFragment_open (.inr rfl), skipFragment_open (.inr rfl)]
      exact ih hinner
    by_cases hend : c = '}'
    · subst hend
      cases inner with
      | nil => exact ⟨rfl, h.inside⟩
      | cons kind inner =>
        obtain ⟨_, hstack, hplace⟩ := h.closeBrace hn
        obtain rfl := (List.cons.inj hstack).2
        exact ih hplace
    by_cases hclose : c = ')'
    · subst hclose
      obtain ⟨outside, hstack, hplace⟩ := h.closeParen hn
      cases inner with
      | nil =>
        obtain rfl : outer = .paren :: outside := hstack
        rw [List.count_cons_of_ne (by decide)]
        have hskip := @ih [] outside hplace
        exact hskip
      | cons kind inner =>
        obtain rfl := (List.cons.inj hstack).2
        exact ih hplace
    have hunmarked : isParenMark c = false := by simp [isParenMark, *]
    rw [List.cons_append, skipFragment_unmarked hunmarked, skipFragment_unmarked hunmarked]
    split
    · rename_i hcomma
      obtain rfl := List.eq_nil_of_length_eq_zero hcomma.1
      exact ⟨rfl, h.inside⟩
    · exact ih (h.pass hunmarked)

theorem Inside.skipFragment (hn : IsNested query) (h : Inside query braces rest)
    (more : List Char) :
    Filter.skipFragment 0 (rest ++ ',' :: more) = Filter.skipFragment 0 rest ++ ',' :: more ∧
      Inside query braces (Filter.skipFragment 0 rest) := by
  obtain ⟨stack, hplace, hb⟩ := h
  have hplace : Place query ([] ++ stack) rest := hplace
  obtain ⟨hskip, hinside⟩ := skipFragment_append_comma hn hplace more
  exact ⟨hskip, hinside.mono hb⟩

theorem skipTrailing_of_not_endsField (h : ¬ EndsField (Text.trimStart rest)) :
    skipTrailing rest = skipFragment 0 (Text.trimStart rest) := by
  rw [skipTrailing]
  split
  · rename_i hrest
    exact absurd (hrest ▸ .done) h
  · rename_i hrest
    exact absurd (hrest ▸ .brace _) h
  · rename_i hrest
    exact absurd (hrest ▸ .comma _) h
  · rfl

theorem not_endsField_append {text : List Char} (h : ¬ EndsField text) (more : List Char) :
    ¬ EndsField (text ++ more) := by
  cases text with
  | nil => exact absurd .done h
  | cons c tail =>
    intro hends
    refine h ?_
    cases hends with
    | comma => exact .comma tail
    | brace => exact .brace tail

theorem Inside.skipTrailing (hn : IsNested query) (h : Inside query braces rest)
    (more : List Char) :
    Filter.skipTrailing (rest ++ ',' :: more) = Filter.skipTrailing rest ++ ',' :: more ∧
      Inside query braces (Filter.skipTrailing rest) := by
  have htrim : Inside query braces (Text.trimStart rest) :=
    h.dropWhile fun _ => isParenMark_of_isBlank
  have hfront := trimStart_append_comma rest more
  by_cases hends : EndsField (Text.trimStart rest)
  · rw [Filter.skipTrailing, Filter.skipTrailing, hfront]
    generalize Text.trimStart rest = trimmed at htrim hends
    cases hends <;> exact ⟨rfl, htrim⟩
  · have hends' := not_endsField_append hends (',' :: more)
    rw [← hfront] at hends'
    rw [skipTrailing_of_not_endsField hends, skipTrailing_of_not_endsField hends', hfront]
    exact htrim.skipFragment hn more

/-- The text alone and in front of a comma are read alike: what is read is the same, and reading
stops at the same place, inside of as many braces. -/
structure Alike {α : Type} (query : String) (braces : Nat) (more : List Char)
    (alone inFront : α × List Char) : Prop where
  inFront_eq : inFront = (alone.1, alone.2 ++ ',' :: more)
  inside : Inside query braces alone.2

/-! ## Calls -/

/-- Arguments whose parenthesis was opened end at the latest at the one that closes it. If they fail
at an opening bracket, that bracket is lost. -/
theorem readUntilParen_alike (hn : IsNested query) {stack : List Group}
    (h : Place query (.paren :: stack) rest) (more : List Char) :
    Alike query (stack.count .brace) more (readUntilParen rest)
      (readUntilParen (rest ++ ',' :: more)) := by
  induction rest with
  | nil => exact absurd (h.stack_eq_nil hn) (List.cons_ne_nil _ _)
  | cons c rest ih =>
    rw [List.cons_append, readUntilParen, readUntilParen]
    by_cases hclose : c = ')'
    · subst hclose
      obtain ⟨outer, hstack, hplace⟩ := h.closeParen hn
      obtain rfl := (List.cons.inj hstack).2
      exact ⟨rfl, hplace.inside⟩
    by_cases hparen : c = '('
    · subst hparen
      exact ⟨rfl, (h.openParen hn).inside.mono (by simp)⟩
    by_cases hbrace : c = '{'
    · subst hbrace
      exact ⟨rfl, (h.openBrace hn).inside.mono (by simp)⟩
    by_cases hend : c = '}'
    · subst hend
      obtain ⟨outer, hstack, -⟩ := h.closeBrace hn
      exact absurd (List.cons.inj hstack).1 (by decide)
    obtain ⟨hread, hinside⟩ := ih (h.pass (by simp [isParenMark, *]))
    rw [if_neg hclose, if_neg hclose, if_neg (by simp [*]), if_neg (by simp [*]), hread]
    exact ⟨rfl, hinside⟩

theorem readArgs_of_not_open (h : ∀ text, rest ≠ '(' :: text) : readArgs rest = (none, rest) := by
  rw [readArgs.eq_def]
  split
  · exact absurd rfl (h _)
  · rfl

theorem readArgs_alike (hn : IsNested query) (h : Inside query braces rest) (more : List Char) :
    Alike query braces more (readArgs rest) (readArgs (rest ++ ',' :: more)) := by
  by_cases hopen : ∃ text, rest = '(' :: text
  · obtain ⟨text, rfl⟩ := hopen
    obtain ⟨stack, hplace, hb⟩ := h
    obtain ⟨hread, hinside⟩ := readUntilParen_alike hn (hplace.openParen hn) more
    rw [List.cons_append, readArgs, readArgs, hread]
    exact ⟨rfl, hinside.mono hb⟩
  · have hclosed : ∀ text, rest ++ ',' :: more ≠ '(' :: text :=
      fun text h => hopen (begins_of_append_comma (by decide) h)
    rw [readArgs_of_not_open (not_exists.1 hopen), readArgs_of_not_open hclosed]
    exact ⟨rfl, h⟩

theorem readCalls_alike (hn : IsNested query) (h : Inside query braces rest) (more : List Char)
    (rounds : Nat) :
    Alike query braces more (readCalls rounds rest) (readCalls rounds (rest ++ ',' :: more)) := by
  induction rounds generalizing rest with
  | zero => exact ⟨rfl, h⟩
  | succ rounds ih =>
    by_cases hcall : ∃ text, rest = '.' :: text
    · obtain ⟨text, rfl⟩ := hcall
      have hname : Inside query braces (text.dropWhile isNameChar) :=
        (h.pass (by decide)).dropWhile fun _ => isParenMark_of_isNameChar
      obtain ⟨hargs, hinside⟩ := readArgs_alike hn hname more
      rw [List.cons_append, readCalls, readCalls, takeWhile_append_stop (by decide),
        dropWhile_append_stop (by decide)]
      cases text.takeWhile isNameChar with
      | nil => exact ⟨rfl, hname⟩
      | cons c name =>
        simp only [hargs]
        generalize readArgs (text.dropWhile isNameChar) = read at hinside ⊢
        obtain ⟨_ | args, behind⟩ := read
        · exact ⟨rfl, hinside⟩
        · obtain ⟨hcalls, hbehind⟩ := ih hinside
          simp only [hcalls]
          exact ⟨rfl, hbehind⟩
    · have hends : EndsCalls (rest ++ ',' :: more) :=
        fun text h => hcall (begins_of_append_comma (by decide) h)
      rw [readCalls_end (not_exists.1 hcall), readCalls_end hends]
      exact ⟨rfl, h⟩

/-! ## Fields -/

variable (parentName : String → String)

/-- How reading fields alone goes on in front of a comma: it stops at the same closing brace, or,
at the end of the text, it goes on with the fields behind the comma. -/
inductive Resumes (query : String) (braces : Nat) (more : List Char) :
    List FilterField × List Char → List FilterField × List Char → Prop
  | brace {fields : List FilterField} {rest : List Char} (h : Inside query (braces - 1) rest) :
    Resumes query braces more (fields, '}' :: rest) (fields, '}' :: (rest ++ ',' :: more))
  | done {fields : List FilterField} (h : braces = 0) :
    Resumes query braces more (fields, [])
      (fields ++ (readFields parentName more.length more).1,
        (readFields parentName more.length more).2)

variable {parentName} {more : List Char} {group : List Char → List FilterField × List Char}

theorem Resumes.after {alone inFront : List FilterField × List Char}
    (h : Resumes parentName query braces more alone inFront) (fields : List FilterField) :
    Resumes parentName query braces more (fields ++ alone.1, alone.2)
      (fields ++ inFront.1, inFront.2) := by
  cases h with
  | brace h => exact .brace h
  | done h =>
    simp only [← List.append_assoc]
    exact .done h

/-- A group that is opened is closed by a brace of the query. -/
theorem readGroup_alike (hn : IsNested query) (name : String) (calls : List FunctionCall)
    (h : Inside query braces rest)
    (hgroup : ∀ text, text.length < rest.length → Inside query (braces + 1) text →
      Resumes parentName query (braces + 1) more (group text) (group (text ++ ',' :: more))) :
    Alike query braces more (readGroup parentName group name calls rest)
      (readGroup parentName group name calls (rest ++ ',' :: more)) := by
  have htrim : Inside query braces (Text.trimStart rest) :=
    h.dropWhile fun _ => isParenMark_of_isBlank
  have hlength : (Text.trimStart rest).length ≤ rest.length :=
    (List.dropWhile_suffix Text.isBlank).length_le
  have hfront := trimStart_append_comma rest more
  by_cases hopen : ∃ text, Text.trimStart rest = '{' :: text
  · obtain ⟨text, htext⟩ := hopen
    rw [htext] at htrim hlength hfront
    have hread := hgroup text hlength (htrim.openBrace hn)
    unfold readGroup
    rw [hfront, htext, List.cons_append]
    simp only
    generalize group text = alone at hread
    generalize group (text ++ ',' :: more) = inFront at hread
    cases hread with
    | brace hinside => exact ⟨rfl, hinside⟩
    | done hzero => exact absurd hzero (Nat.succ_ne_zero _)
  · have hclosed : ∀ text, Text.trimStart (rest ++ ',' :: more) ≠ '{' :: text := by
      rw [hfront]
      exact fun text h => hopen (begins_of_append_comma (by decide) h)
    rw [readGroup_of_not_open (not_exists.1 hopen), readGroup_of_not_open hclosed, hfront]
    exact ⟨rfl, htrim⟩

theorem readField_alike (hn : IsNested query) (h : Inside query braces rest)
    (hgroup : ∀ text, text.length < rest.length → Inside query (braces + 1) text →
      Resumes parentName query (braces + 1) more (group text) (group (text ++ ',' :: more))) :
    Alike query braces more (readField parentName group rest)
      (readField parentName group (rest ++ ',' :: more)) := by
  have hname : Inside query braces (rest.dropWhile isNameChar) :=
    h.dropWhile fun _ => isParenMark_of_isNameChar
  have hlength : (rest.dropWhile isNameChar).length ≤ rest.length :=
    (List.dropWhile_suffix isNameChar).length_le
  unfold readField
  rw [takeWhile_append_stop (by decide), dropWhile_append_stop (by decide)]
  generalize rest.dropWhile isNameChar = behind at hname hlength
  have hcalls := readCalls_alike hn hname more (behind ++ ',' :: more).length
  rw [readCalls_rounds (by rw [List.length_append]; exact Nat.le_add_right _ _)
    (Nat.le_refl behind.length)] at hcalls
  have hsuffix := (readCalls_suffix behind.length behind).length_le
  cases rest.takeWhile isNameChar with
  | nil => exact ⟨rfl, hname⟩
  | cons c name =>
    simp only
    obtain ⟨hcalls, hinside⟩ := hcalls
    rw [hcalls]
    generalize readCalls behind.length behind = read at hinside hsuffix
    obtain ⟨_ | calls, tail⟩ := read
    · exact ⟨rfl, hinside⟩
    · exact readGroup_alike hn _ calls hinside fun text ht => hgroup text (by
        simp only at hsuffix
        omega)

theorem behindField_alike (hn : IsNested query) {alone inFront : Option FilterField × List Char}
    (h : Alike query braces more alone inFront) :
    behindField inFront = behindField alone ++ ',' :: more ∧
      Inside query braces (behindField alone) := by
  obtain ⟨hfront, hinside⟩ := h
  rw [behindField, behindField, hfront]
  by_cases hfield : alone.1.isSome = true
  · rw [if_pos hfield, if_pos hfield]
    exact hinside.skipTrailing hn more
  · obtain ⟨hskip, hinside⟩ := hinside.skipFragment hn more
    rw [if_neg hfield, if_neg hfield, hskip]
    exact hinside.skipTrailing hn more

/-- Reading fields in front of a comma goes on behind it when the text is at an end, and then no
group is open. -/
theorem resumes_readFields (hn : IsNested query) {rounds : Nat}
    (hl : (rest ++ ',' :: more).length ≤ rounds) (h : Inside query braces rest) :
    Resumes parentName query braces more (readFields parentName rounds rest)
      (readFields parentName rounds (rest ++ ',' :: more)) := by
  induction rounds generalizing rest braces with
  | zero =>
    rw [List.length_append, List.length_cons] at hl
    omega
  | succ rounds ih =>
    have htrim : Inside query braces (Text.trimStart rest) :=
      h.dropWhile fun _ => isParenMark_of_isBlank
    have hlength : (Text.trimStart rest).length ≤ rest.length :=
      (List.dropWhile_suffix Text.isBlank).length_le
    have hfront := trimStart_append_comma rest more
    simp only [List.length_append, List.length_cons] at hl ih
    by_cases hends : EndsField (Text.trimStart rest)
    · rw [readFields, readFields, hfront]
      generalize Text.trimStart rest = trimmed at htrim hlength hends
      cases hends with
      | done =>
        obtain rfl := htrim.eq_zero hn
        have hmore := readFields_rounds parentName (Nat.le_refl more.length)
          (by omega : more.length ≤ rounds)
        simp only [List.nil_append]
        rw [← hmore]
        exact .done rfl
      | brace tail => exact .brace (htrim.closeBrace hn)
      | comma tail =>
        rw [List.length_cons] at hlength
        exact ih (by omega) (htrim.pass (by decide))
    · have hends' := not_endsField_append hends (',' :: more)
      rw [← hfront] at hends'
      have hfield : Alike query braces more
          (readField parentName (readFields parentName rounds) (Text.trimStart rest))
          (readField parentName (readFields parentName rounds)
            (Text.trimStart (rest ++ ',' :: more))) := by
        rw [hfront]
        exact readField_alike hn htrim fun text ht => ih (by omega)
      have hlt := behindField_lt parentName (readFields_suffix parentName rounds) hends
      obtain ⟨hbehind, hinside⟩ := behindField_alike hn hfield
      have hfirst := congrArg Prod.fst hfield.inFront_eq
      rw [readFields_round parentName hends, readFields_round parentName hends']
      simp only [hbehind, hfirst]
      exact (ih (by omega) hinside).after _

/-- A closing brace that closes nothing for the reading ends its fragment in front of a comma as it
does alone. -/
theorem readQuery_append (hn : IsNested query) {rounds : Nat}
    (hl : (rest ++ ',' :: more).length < rounds) (h : Inside query 0 rest) :
    readQuery parentName rounds (rest ++ ',' :: more) =
      readQuery parentName rounds rest ++ readQuery parentName rounds more := by
  induction rounds generalizing rest with
  | zero => exact absurd hl (Nat.not_lt_zero _)
  | succ rounds ih =>
    have hread : Resumes parentName query 0 more _ _ :=
      resumes_readFields hn (Nat.le_refl (rest ++ ',' :: more).length) h
    rw [readFields_rounds parentName (by rw [List.length_append]; exact Nat.le_add_right _ _)
      (Nat.le_refl rest.length)] at hread
    have hsuffix := (readFields_suffix parentName rest.length rest).length_le
    rw [readQuery_succ, readQuery_succ parentName rounds rest]
    generalize readFields parentName rest.length rest = alone at hread hsuffix
    generalize readFields parentName (rest ++ ',' :: more).length (rest ++ ',' :: more) = inFront
      at hread
    simp only [List.length_append, List.length_cons] at hl ih
    cases hread with
    | @brace fields tail hinside =>
      rw [List.length_cons] at hsuffix
      have hmore : readQuery parentName rounds more = readQuery parentName (rounds + 1) more :=
        readQuery_rounds parentName (by omega) (by omega)
      simp only
      rw [ih (by omega) hinside, hmore, List.append_assoc]
    | done _ =>
      rw [readQuery_succ parentName rounds more, List.append_nil, List.append_assoc]

/-- In front of a comma, a query whose brackets are nested has the fields that it has alone, and what
stands behind the comma adds the fields that it has alone. -/
theorem parse_append (parentName : String → String) {query : String} (hn : IsNested query)
    (more : String) :
    (parseWith parentName (query ++ "," ++ more)).fields =
      (parseWith parentName query).fields ++ (parseWith parentName more).fields := by
  have htext : (query ++ "," ++ more).toList = query.toList ++ ',' :: more.toList := by
    simp [String.toList_append]
  have hplace : Place query [] query.toList := ⟨[], rfl, rfl⟩
  have hrounds : ∀ text : String, text.length ≤ (query ++ "," ++ more).length →
      readQuery parentName (text.length + 1) text.toList =
        readQuery parentName ((query ++ "," ++ more).length + 1) text.toList := by
    intro text h
    refine readQuery_rounds parentName ?_ ?_ <;> rw [String.length_toList] <;> omega
  simp only [parseWith, Filter.fields]
  rw [hrounds query (by simp [String.length_append]; omega),
    hrounds more (by simp [String.length_append]), htext]
  refine readQuery_append hn ?_ hplace.inside
  rw [← htext, String.length_toList]
  exact Nat.lt_succ_self _

/-- A call whose arguments fail at a group inside another group, a group without a name and a call
without function, in front of a brace that closes nothing. -/
theorem parse_append_malformed :
    let query := "u\x7ba.limit(\x7bb\x7d,c),d\x7d,\x7be\x7d,f.(g) h"
    let more := "i\x7dj"
    IsNested query ∧
      (parse (query ++ "," ++ more)).fields = (parse query).fields ++ (parse more).fields ∧
      (parse (query ++ "," ++ more)).fields.map FilterField.name = ["u", "c", "d", "i", "j"] := by
  intro query more
  have hn : IsNested query := by decide
  exact ⟨hn, parse_append Text.snakeCase hn more, by decide⟩

end DocumentTemplates.Filter
