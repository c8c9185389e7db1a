import DocumentTemplates.Proofs.Filter.Progress

/-!
# Fields stay in their groups

In a query whose braces and parentheses are nested, the fields of a nested filter should come
from the text of its own group. The reading of arguments fails behind the bracket that it cannot
use, and what is skipped after the failure is counted from there, so text of a broken call may
become a field. Where the first bracket of every argument list closes it, whatever else is wrong
with the query, every field is a word of the query that stands inside as many braces as the
field is nested in, and in no parentheses.
-/

namespace DocumentTemplates

/-- The fields nested directly under a field. -/
def FilterField.inside (field : FilterField) : List FilterField :=
  (field.nested.map Filter.fields).getD []

namespace Filter

/-! ## Groups of a text -/

/-- The brackets that make a group. -/
inductive Group where
  | brace
  | paren
  deriving DecidableEq

/-- The groups left open when the innermost one is closed by a bracket of the given kind. -/
def Group.close (kind : Group) : List Group → Option (List Group)
  | [] => none
  | inner :: outer => if inner = kind then some outer else none

/-- The groups open behind a character, innermost first. -/
def Group.read (stack : List Group) (c : Char) : Option (List Group) :=
  if c = '{' then some (.brace :: stack)
  else if c = '(' then some (.paren :: stack)
  else if c = '}' then Group.close .brace stack
  else if c = ')' then Group.close .paren stack
  else some stack

/-- The groups that a text leaves open. There is no answer where a bracket does not close the
innermost group. -/
def openGroups (text : List Char) : Option (List Group) :=
  text.foldlM Group.read []

/-- Braces and parentheses are properly nested. -/
def IsNested (query : String) : Prop :=
  openGroups query.toList = some []

instance (query : String) : Decidable (IsNested query) :=
  inferInstanceAs (Decidable (_ = _))

/-- What stands behind the text is enclosed by `level` brace groups and by no parentheses. -/
def InBraces (level : Nat) (text : List Char) : Prop :=
  openGroups text = some (List.replicate level .brace)

instance (level : Nat) (text : List Char) : Decidable (InBraces level text) :=
  inferInstanceAs (Decidable (_ = _))

/-- The name is a whole word of the query, at a place enclosed by `level` brace groups and by no
parentheses. -/
def StandsAt (query : String) (level : Nat) (name : String) : Prop :=
  ∃ before after, query.toList = before ++ (name.toList ++ after) ∧ InBraces level before ∧
    EndsName before.reverse ∧ EndsName after

/-- The fields at a level of nesting. -/
def fieldsAt : Nat → List FilterField → List FilterField
  | 0, fields => fields
  | level + 1, fields => (fieldsAt level fields).flatMap FilterField.inside

/-- If the text begins with a call with arguments, the first bracket among them closes them. -/
def isFlat : List Char → Bool
  | '.' :: text => match text.takeWhile isNameChar, text.dropWhile isNameChar with
    | _ :: _, '(' :: inner => inner.find? isParenMark = some ')'
    | _, _ => true
  | _ => true

/-- Outside parentheses no argument list of a call holds a bracket other than the parenthesis that
closes it. -/
def HasFlatCalls (query : String) : Prop :=
  ∀ before rest, query.toList = before ++ rest →
    ∀ stack ∈ openGroups before, .paren ∉ stack → isFlat rest = true

theorem forall_split_iff {cs : List Char} {P : List Char → List Char → Prop} :
    (∀ before rest, cs = before ++ rest → P before rest) ↔
      ∀ n ≤ cs.length, P (cs.take n) (cs.drop n) := by
  constructor
  · exact fun h n _ => h _ _ (List.take_append_drop n cs).symm
  · rintro h before rest rfl
    have hsplit := h before.length (by rw [List.length_append]; exact Nat.le_add_right _ _)
    rwa [List.take_left, List.drop_left] at hsplit

instance (query : String) : Decidable (HasFlatCalls query) :=
  decidable_of_iff _ forall_split_iff.symm

/-! ## Places in a query -/

/-- The query goes on with `rest` where the groups of `stack` are open. -/
def Place (query : String) (stack : List Group) (rest : List Char) : Prop :=
  ∃ before, query.toList = before ++ rest ∧ openGroups before = some stack

/-- A place where a field may start: no word goes on there. -/
def FieldPlace (query : String) (stack : List Group) (rest : List Char) : Prop :=
  ∃ before, query.toList = before ++ rest ∧ openGroups before = some stack ∧
    (EndsName before.reverse ∨ EndsField rest)

theorem openGroups_append (text rest : List Char) :
    openGroups (text ++ rest) = (openGroups text).bind (rest.foldlM Group.read) :=
  List.foldlM_append

theorem openGroups_concat {before : List Char} {stack : List Group}
    (h : openGroups before = some stack) (c : Char) :
    openGroups (before ++ [c]) = Group.read stack c := by
  rw [openGroups_append, h]
  exact bind_pure (Group.read stack c)

theorem Group.read_of_unmarked (stack : List Group) {c : Char} (h : isParenMark c = false) :
    Group.read stack c = some stack := by
  simp only [isParenMark, Bool.or_eq_false_iff, decide_eq_false_iff_not] at h
  obtain ⟨⟨⟨hclose, hopen⟩, hbrace⟩, hend⟩ := h
  rw [Group.read, if_neg hbrace, if_neg hopen, if_neg hend, if_neg hclose]

/-- A class of characters that has none of the four brackets. -/
theorem isParenMark_of_class {p : Char → Bool} (hp : [')', '(', '{', '}'].all (!p ·) = true)
    {c : Char} (h : p c = true) : isParenMark c = false := by
  rw [isParenMark, Bool.eq_false_iff]
  intro hmark
  have hc : c ∈ [')', '(', '{', '}'] := by simpa [or_assoc] using hmark
  have hnot := List.all_eq_true.1 hp c hc
  rw [h] at hnot
  cases hnot

theorem isParenMark_of_isNameChar {c : Char} : isNameChar c = true → isParenMark c = false :=
  isParenMark_of_class (by decide)

theorem isParenMark_of_isBlank {c : Char} : Text.isBlank c = true → isParenMark c = false :=
  isParenMark_of_class (by decide)

theorem Group.close_eq_some {kind : Group} {stack outer : List Group}
    (h : Group.close kind stack = some outer) : stack = kind :: outer := by
  cases stack with
  | nil => cases h
  | cons inner rest =>
    rw [Group.close] at h
    split at h
    · rename_i hkind
      rw [hkind, Option.some.inj h]
    · cases h

variable {query : String} {stack : List Group} {rest : List Char}

/-- Nested text behind a place closes what is open there, so no bracket of it is misplaced. -/
theorem Place.next (hn : IsNested query) {c : Char} (h : Place query stack (c :: rest)) :
    ∃ next, Group.read stack c = some next ∧ Place query next rest := by
  obtain ⟨before, hq, hopen⟩ := h
  rw [← List.singleton_append, ← List.append_assoc] at hq
  have hall : openGroups ((before ++ [c]) ++ rest) = some [] := hq ▸ hn
  rw [openGroups_append, openGroups_concat hopen] at hall
  obtain ⟨next, hnext, -⟩ := Option.bind_eq_some_iff.1 hall
  exact ⟨next, hnext, before ++ [c], hq, (openGroups_concat hopen c).trans hnext⟩

theorem Place.stack_eq_nil (hn : IsNested query) (h : Place query stack []) : stack = [] := by
  obtain ⟨before, hq, hopen⟩ := h
  rw [List.append_nil] at hq
  have hall : openGroups before = some [] := hq ▸ hn
  exact Option.some.inj (hopen.symm.trans hall)

theorem openGroups_unmarked {before text : List Char} (h : openGroups before = some stack)
    (hu : ∀ c ∈ text, isParenMark c = false) : openGroups (before ++ text) = some stack := by
  rw [openGroups_append, h, Option.bind_some]
  induction text with
  | nil => rfl
  | cons c text ih =>
    rw [List.foldlM_cons, Group.read_of_unmarked stack (hu c List.mem_cons_self)]
    exact ih fun d hd => hu d (List.mem_cons_of_mem c hd)

theorem Place.unmarked {text : List Char} (h : Place query stack (text ++ rest))
    (hu : ∀ c ∈ text, isParenMark c = false) : Place query stack rest := by
  obtain ⟨before, hq, hopen⟩ := h
  exact ⟨before ++ text, by rw [hq, List.append_assoc], openGroups_unmarked hopen hu⟩

theorem Place.dropWhile {p : Char → Bool} (hp : ∀ c, p c = true → isParenMark c = false)
    (h : Place query stack rest) : Place query stack (rest.dropWhile p) := by
  rw [← List.takeWhile_append_dropWhile (p := p) (l := rest)] at h
  exact h.unmarked fun c hc => hp c (List.mem_takeWhile_imp hc)

theorem Place.trimStart (h : Place query stack rest) : Place query stack (Text.trimStart rest) :=
  h.dropWhile fun _ => isParenMark_of_isBlank

theorem Place.openBrace (hn : IsNested query) (h : Place query stack ('{' :: rest)) :
    Place query (.brace :: stack) rest := by
  obtain ⟨next, hread, hplace⟩ := h.next hn
  obtain rfl := Option.some.inj hread
  exact hplace

theorem Place.openParen (hn : IsNested query) (h : Place query stack ('(' :: rest)) :
    Place query (.paren :: stack) rest := by
  obtain ⟨next, hread, hplace⟩ := h.next hn
  obtain rfl := Option.some.inj hread
  exact hplace

theorem Place.closeBrace (hn : IsNested query) (h : Place query stack ('}' :: rest)) :
    ∃ outer, stack = .brace :: outer ∧ Place query outer rest := by
  obtain ⟨next, hread, hplace⟩ := h.next hn
  exact ⟨next, Group.close_eq_some hread, hplace⟩

theorem Place.closeParen (hn : IsNested query) (h : Place query stack (')' :: rest)) :
    ∃ outer, stack = .paren :: outer ∧ Place query outer rest := by
  obtain ⟨next, hread, hplace⟩ := h.next hn
  exact ⟨next, Group.close_eq_some hread, hplace⟩

/-- A field that is found behind blanks begins a word. -/
theorem FieldPlace.trimStart (h : FieldPlace query stack rest)
    (hends : ¬ EndsField (Text.trimStart rest)) :
    ∃ before, query.toList = before ++ Text.trimStart rest ∧ openGroups before = some stack ∧
      EndsName before.reverse := by
  obtain ⟨before, hq, hopen, hword⟩ := h
  have hblank : ∀ c ∈ rest.takeWhile Text.isBlank, Text.isBlank c = true :=
    fun c hc => List.mem_takeWhile_imp hc
  have hsplit : rest.takeWhile Text.isBlank ++ Text.trimStart rest = rest :=
    List.takeWhile_append_dropWhile
  generalize rest.takeWhile Text.isBlank = blanks at hblank hsplit
  refine ⟨before ++ blanks, by rw [hq, List.append_assoc, hsplit],
    openGroups_unmarked hopen fun c hc => isParenMark_of_isBlank (hblank c hc), ?_⟩
  rw [List.reverse_append]
  cases hlast : blanks.reverse with
  | nil =>
    obtain rfl := List.reverse_eq_nil_iff.1 hlast
    refine hword.resolve_right fun hrest => hends ?_
    rwa [← hsplit] at hrest
  | cons c tail =>
    have hc : c ∈ blanks := List.mem_reverse.1 (hlast ▸ List.mem_cons_self)
    exact EndsName.cons (isNameChar_of_isBlank (hblank c hc)) _

/-! ## Skipping -/

theorem skipFragment_open {c : Char} (h : c = '{' ∨ c = '(') (depth : Nat) (rest : List Char) :
    skipFragment depth (c :: rest) = skipFragment (depth + 1) rest := by
  rcases h with rfl | rfl <;> cases depth <;> rfl

/-- Outside all groups, skipping stops at a comma and goes on behind any other character. -/
theorem skipFragment_unmarked {c : Char} (h : isParenMark c = false) (depth : Nat)
    (rest : List Char) :
    skipFragment depth (c :: rest) =
      if depth = 0 ∧ c = ',' then c :: rest else skipFragment depth rest := by
  simp only [isParenMark, Bool.or_eq_false_iff, decide_eq_false_iff_not] at h
  obtain ⟨⟨⟨hclose, hopen⟩, hbrace⟩, hend⟩ := h
  cases depth <;> simp [skipFragment, *]

/-- Skipping from inside groups that were opened on the way ends outside them. -/
theorem Place.skipFragment (hn : IsNested query) {inner : List Group} {level : Nat}
    (h : Place query (inner ++ List.replicate level .brace) rest) :
    Place query (List.replicate level .brace) (Filter.skipFragment inner.length rest) := by
  induction rest generalizing inner with
  | nil =>
    obtain rfl := (List.append_eq_nil_iff.1 (h.stack_eq_nil hn)).1
    exact h
  | cons c rest ih =>
    by_cases hbrace : c = '{'
    · subst hbrace
      have hinner : Place query ((.brace :: inner) ++ List.replicate level .brace) rest :=
        h.openBrace hn
      rw [skipFragment_open (.inl rfl)]
      exact ih hinner
    by_cases hparen : c = '('
    · subst hparen
      have hinner : Place query ((.paren :: inner) ++ List.replicate level .brace) rest :=
        h.openParen hn
      rw [skipFragment_open (.inr rfl)]
      exact ih hinner
    by_cases hend : c = '}'
    · subst hend
      cases inner with
      | nil => exact h
      | cons kind inner =>
        obtain ⟨outer, hstack, hplace⟩ := h.closeBrace hn
        obtain rfl := (List.cons.inj hstack).2
        exact ih hplace
    by_cases hclose : c = ')'
    · subst hclose
      obtain ⟨outer, hstack, hplace⟩ := h.closeParen hn
      cases inner with
      | nil =>
        -- no parenthesis is open here
        cases level with
        | zero => cases hstack
        | succ level => exact absurd (List.cons.inj hstack).1 (by decide)
      | cons kind inner =>
        obtain rfl := (List.cons.inj hstack).2
        exact ih hplace
    have hunmarked : isParenMark c = false := by simp [isParenMark, *]
    rw [skipFragment_unmarked hunmarked]
    split
    · rename_i hcomma
      obtain rfl := List.eq_nil_of_length_eq_zero hcomma.1
      exact h
    · rw [← List.singleton_append] at h
      exact ih (h.unmarked (by simpa using hunmarked))

theorem Place.skipTrailing (hn : IsNested query) {level : Nat}
    (h : Place query (List.replicate level .brace) rest) :
    Place query (List.replicate level .brace) (Filter.skipTrailing rest) := by
  have htrim := h.trimStart
  rw [Filter.skipTrailing]
  split
  · rename_i hrest
    exact hrest ▸ htrim
  · rename_i hrest
    exact hrest ▸ htrim
  · rename_i hrest
    exact hrest ▸ htrim
  · have hinner : Place query ([] ++ List.replicate level .brace) (Text.trimStart rest) := htrim
    exact Place.skipFragment hn hinner

theorem Place.behindField (hn : IsNested query) {level : Nat}
    {field : Option FilterField × List Char}
    (h : Place query (List.replicate level .brace) field.2) :
    FieldPlace query (List.replicate level .brace) (Filter.behindField field) := by
  have hplace : Place query (List.replicate level .brace) (Filter.behindField field) := by
    refine Place.skipTrailing hn ?_
    split
    · exact h
    · have hinner : Place query ([] ++ List.replicate level .brace) field.2 := h
      exact Place.skipFragment hn hinner
  obtain ⟨before, hq, hopen⟩ := hplace
  exact ⟨before, hq, hopen, .inr (skipTrailing_endsField _)⟩

/-! ## Calls -/

/-- Arguments that end at their first bracket are read to their end. Arguments that are not there
are not read at all. -/
theorem Place.readArgs (hn : IsNested query) (h : Place query stack rest)
    (hflat : ∀ inner, rest = '(' :: inner → inner.find? isParenMark = some ')') :
    Place query stack (Filter.readArgs rest).2 := by
  rw [readArgs.eq_def]
  split
  · rename_i inner
    obtain ⟨-, text, tail, rfl, hunmarked⟩ :=
      List.find?_eq_some_iff_append.1 (hflat inner rfl)
    have htext : ∀ c ∈ text, isParenMark c = false := fun c hc => by simpa using hunmarked c hc
    obtain ⟨outer, hstack, hplace⟩ := ((h.openParen hn).unmarked htext).closeParen hn
    obtain rfl := (List.cons.inj hstack).2
    rw [readUntilParen_append htext]
    exact hplace
  · exact h

theorem Place.readCalls (hn : IsNested query) (hf : HasFlatCalls query) {level : Nat}
    (h : Place query (List.replicate level .brace) rest) (rounds : Nat) :
    Place query (List.replicate level .brace) (Filter.readCalls rounds rest).2 := by
  induction rounds generalizing rest with
  | zero => exact h
  | succ rounds ih =>
    unfold Filter.readCalls
    split
    · rename_i text
      have hflat : isFlat ('.' :: text) = true := by
        obtain ⟨before, hq, hopen⟩ := h
        refine hf before _ hq _ hopen fun hparen => ?_
        exact absurd (List.eq_of_mem_replicate hparen) (by decide)
      have hname : Place query (List.replicate level .brace) (text.dropWhile isNameChar) :=
        (Place.unmarked (List.singleton_append ▸ h) (by simp [isParenMark])).dropWhile
          fun _ => isParenMark_of_isNameChar
      split
      · exact hname
      · rename_i hne
        have hargs := hname.readArgs hn fun inner hinner => by
          obtain ⟨c, tail, hcons⟩ := List.exists_cons_of_ne_nil hne
          rw [isFlat, hcons, hinner] at hflat
          exact of_decide_eq_true hflat
        split
        · rename_i hread
          rw [hread] at hargs
          exact hargs
        · rename_i hread
          rw [hread] at hargs
          exact ih hargs
    · exact h

/-! ## Fields -/

/-- Fields that stand in the query at a level, with what is nested in them. -/
def Standing (query : String) (level : Nat) (fields : List FilterField) : Prop :=
  ∀ inner, ∀ field ∈ fieldsAt inner fields, StandsAt query (level + inner) field.name

theorem fieldsAt_append (level : Nat) (fields more : List FilterField) :
    fieldsAt level (fields ++ more) = fieldsAt level fields ++ fieldsAt level more := by
  induction level with
  | zero => rfl
  | succ level ih => rw [fieldsAt, ih, List.flatMap_append, fieldsAt, fieldsAt]

theorem fieldsAt_nil (level : Nat) : fieldsAt level [] = [] := by
  induction level with
  | zero => rfl
  | succ level ih => rw [fieldsAt, ih, List.flatMap_nil]

theorem fieldsAt_succ (level : Nat) (fields : List FilterField) :
    fieldsAt (level + 1) fields = fieldsAt level (fields.flatMap FilterField.inside) := by
  induction level with
  | zero => rfl
  | succ level ih => rw [fieldsAt, ih, fieldsAt]

theorem Standing.nil (query : String) (level : Nat) : Standing query level [] := by
  intro inner field hf
  rw [fieldsAt_nil] at hf
  cases hf

theorem Standing.append {level : Nat} {fields more : List FilterField}
    (h : Standing query level fields) (hmore : Standing query level more) :
    Standing query level (fields ++ more) := by
  intro inner field hf
  rw [fieldsAt_append] at hf
  exact (List.mem_append.1 hf).elim (h inner field) (hmore inner field)

theorem Standing.field {level : Nat} {field : FilterField}
    (h : StandsAt query level field.name) (hinside : Standing query (level + 1) field.inside) :
    Standing query level [field] := by
  intro inner found hf
  cases inner with
  | zero =>
    obtain rfl := List.mem_singleton.1 hf
    exact h
  | succ inner =>
    rw [fieldsAt_succ, List.flatMap_singleton] at hf
    have hstands := hinside inner found hf
    rwa [Nat.add_right_comm] at hstands

/-- What is read stands in the query, and reading stops in the groups in which it began. -/
structure Stays (query : String) (level : Nat) (read : List FilterField × List Char) : Prop where
  standing : Standing query level read.1
  place : Place query (List.replicate level .brace) read.2

variable (parentName : String → String) {rounds level : Nat}

/-- The group behind a field is read to its own closing brace: nested text has one, and reading
stops nowhere else. -/
theorem Stays.readGroup (hn : IsNested query) {name : String} (calls : List FunctionCall)
    (hname : StandsAt query level name)
    (hplace : Place query (List.replicate level .brace) rest) (hl : rest.length ≤ rounds)
    (hgroup : ∀ text, text.length ≤ rounds →
      FieldPlace query (List.replicate (level + 1) .brace) text →
        Stays query (level + 1) (readFields parentName rounds text)) :
    Stays query level
      ((Filter.readGroup parentName (readFields parentName rounds) name calls rest).1.toList,
        (Filter.readGroup parentName (readFields parentName rounds) name calls rest).2) := by
  have htrim : (Text.trimStart rest).length ≤ rest.length :=
    (List.dropWhile_suffix Text.isBlank).length_le
  have hbegin := hplace.trimStart
  unfold Filter.readGroup
  split
  · rename_i text hopen
    rw [hopen] at hbegin htrim
    have hlength : text.length ≤ rounds := by
      rw [List.length_cons] at htrim
      omega
    have hfirst : FieldPlace query (List.replicate (level + 1) .brace) text := by
      obtain ⟨before, hq, hstack⟩ := hbegin
      refine ⟨before ++ ['{'], by rw [hq, List.append_assoc]; rfl, ?_, .inl ?_⟩
      · exact openGroups_concat hstack '{'
      · rw [List.reverse_append]
        exact EndsName.cons (by decide) before.reverse
    have hread := hgroup text hlength hfirst
    have hstops := readFields_stops parentName hlength
    split
    · rename_i fields tail hfields
      rw [hfields] at hread
      obtain ⟨outer, hstack, hafter⟩ := hread.place.closeBrace hn
      obtain rfl := (List.cons.inj hstack).2
      exact ⟨Standing.field hname hread.standing, hafter⟩
    · rename_i fields tail hunclosed hfields
      rw [hfields] at hread hstops
      rcases hstops with rfl | ⟨tail, rfl⟩
      · exact absurd (hread.place.stack_eq_nil hn) (List.cons_ne_nil _ _)
      · exact (hunclosed tail rfl).elim
  · exact ⟨Standing.field hname (Standing.nil query _), hbegin⟩

theorem Stays.readField (hn : IsNested query) (hf : HasFlatCalls query) {before : List Char}
    (hq : query.toList = before ++ rest) (hopen : InBraces level before)
    (hword : EndsName before.reverse) (hl : rest.length ≤ rounds + 1)
    (hgroup : ∀ text, text.length ≤ rounds →
      FieldPlace query (List.replicate (level + 1) .brace) text →
        Stays query (level + 1) (readFields parentName rounds text)) :
    Stays query level
      ((Filter.readField parentName (readFields parentName rounds) rest).1.toList,
        (Filter.readField parentName (readFields parentName rounds) rest).2) := by
  have hplace : Place query (List.replicate level .brace) rest := ⟨before, hq, hopen⟩
  have hname := hplace.dropWhile fun _ => isParenMark_of_isNameChar
  have hsplit := List.takeWhile_append_dropWhile (p := isNameChar) (l := rest)
  unfold Filter.readField
  split
  · exact ⟨Standing.nil query level, hname⟩
  · rename_i hne
    have hcalls := hname.readCalls hn hf (rest.dropWhile isNameChar).length
    have hle := (readCalls_suffix (rest.dropWhile isNameChar).length
      (rest.dropWhile isNameChar)).length_le
    have hpos := List.length_pos_iff.2 hne
    have hlength := congrArg List.length hsplit
    rw [List.length_append] at hlength
    split
    · rename_i hread
      rw [hread] at hcalls
      exact ⟨Standing.nil query level, hcalls⟩
    · rename_i hread
      rw [hread] at hcalls hle
      simp only at hle
      refine Stays.readGroup parentName hn _
        ⟨before, rest.dropWhile isNameChar, ?_, hopen, hword, ?_⟩ hcalls (by omega) hgroup
      · rw [String.toList_ofList, hsplit, hq]
      · intro c tail htail
        have hhead := List.head?_dropWhile_not isNameChar rest
        rw [htail] at hhead
        simpa using hhead

/-- Reading fields where a field may start keeps each of them in its groups. -/
theorem Stays.readFields (hn : IsNested query) (hf : HasFlatCalls query)
    (hl : rest.length ≤ rounds) (h : FieldPlace query (List.replicate level .brace) rest) :
    Stays query level (Filter.readFields parentName rounds rest) := by
  induction rounds generalizing level rest with
  | zero =>
    obtain ⟨before, hq, hopen, -⟩ := h
    exact ⟨Standing.nil query level, before, hq, hopen⟩
  | succ rounds ih =>
    have hplace : Place query (List.replicate level .brace) rest := by
      obtain ⟨before, hq, hopen, -⟩ := h
      exact ⟨before, hq, hopen⟩
    have htrim : (Text.trimStart rest).length ≤ rest.length :=
      (List.dropWhile_suffix Text.isBlank).length_le
    by_cases hends : EndsField (Text.trimStart rest)
    · have hbegin := hplace.trimStart
      rw [Filter.readFields]
      generalize Text.trimStart rest = trimmed at hends hbegin htrim
      cases hends with
      | done => exact ⟨Standing.nil query level, hbegin⟩
      | brace tail => exact ⟨Standing.nil query level, hbegin⟩
      | comma tail =>
        obtain ⟨before, hq, hopen⟩ := hbegin
        refine ih (by rw [List.length_cons] at htrim; omega)
          ⟨before ++ [','], by rw [hq, List.append_assoc]; rfl, ?_, .inl ?_⟩
        · exact openGroups_concat hopen ','
        · rw [List.reverse_append]
          exact EndsName.cons (by decide) before.reverse
    · obtain ⟨before, hq, hopen, hword⟩ := h.trimStart hends
      have hread := Stays.readField parentName hn hf hq hopen hword
        (by omega) fun _ hl hplace => ih hl hplace
      have hlt := behindField_lt parentName (readFields_suffix parentName rounds) hends
      have hmore := ih (by omega) (hread.place.behindField hn)
      rw [readFields_round parentName hends]
      exact ⟨hread.standing.append hmore.standing, hmore.place⟩

/-- Every field at a level of what is parsed is a word of the query that stands inside as many
braces, and in no parentheses. -/
theorem parse_stands (parentName : String → String) (query : String) (hn : IsNested query)
    (hf : HasFlatCalls query) (level : Nat) :
    ∀ field ∈ fieldsAt level (parseWith parentName query).fields,
      StandsAt query level field.name := by
  have hfirst : FieldPlace query (List.replicate 0 .brace) query.toList :=
    ⟨[], rfl, rfl, .inl fun c tail h => by cases h⟩
  have hread := Stays.readFields parentName hn hf (Nat.le_refl _) hfirst
  have hfields : (parseWith parentName query).fields =
      (readFields parentName query.toList.length query.toList).1 := by
    rw [parseWith, Filter.fields, readQuery]
    split
    · rename_i fields tail hread'
      -- nothing is open here that a closing brace could close
      rw [hread'] at hread
      obtain ⟨outer, hstack, -⟩ := hread.place.closeBrace hn
      cases hstack
    · rename_i hread'
      rw [hread']
  intro field hfield
  rw [hfields] at hfield
  have hstands := hread.standing level field hfield
  rwa [Nat.zero_add] at hstands

/-- A query with a call that has no arguments, text behind a group and a group without a name. -/
theorem parse_stands_malformed :
    IsNested "a{b.limit x,c{d}.(e{f}),g},{h},i j" ∧
      HasFlatCalls "a{b.limit x,c{d}.(e{f}),g},{h},i j" ∧
      ([0, 1, 2].map fun level =>
        (fieldsAt level (parse "a{b.limit x,c{d}.(e{f}),g},{h},i j").fields).map FilterField.name) =
          [["a", "i"], ["c", "g"], ["d"]] ∧
      ∀ level, ∀ field ∈ fieldsAt level (parse "a{b.limit x,c{d}.(e{f}),g},{h},i j").fields,
        StandsAt "a{b.limit x,c{d}.(e{f}),g},{h},i j" level field.name :=
  have hn : IsNested "a{b.limit x,c{d}.(e{f}),g},{h},i j" := by decide
  have hf : HasFlatCalls "a{b.limit x,c{d}.(e{f}),g},{h},i j" := by decide
  ⟨hn, hf, by decide, parse_stands Text.snakeCase _ hn hf⟩

/-- Text of a call whose arguments open a group becomes a field: here the `c` inside the
parentheses. -/
theorem not_parse_stands_call :
    ¬ ∀ query, IsNested query → ∀ level, ∀ field ∈ fieldsAt level (parse query).fields,
      ∃ before after, query.toList = before ++ (field.name.toList ++ after) ∧
        InBraces level before := by
  intro h
  have hleak : (parse "a.limit((b),c)").fields.map FilterField.name = ["c"] := by decide
  obtain ⟨field, hfield, hname⟩ := List.mem_map.1 (hleak ▸ List.mem_singleton_self "c")
  obtain ⟨before, after, hq, hopen⟩ := h "a.limit((b),c)" (by decide) 0 field hfield
  have hnone : ∀ before rest, "a.limit((b),c)".toList = before ++ rest →
      InBraces 0 before → ¬ "c".toList <+: rest :=
    forall_split_iff.2 (by decide)
  rw [hname] at hq
  exact hnone before _ hq hopen (List.prefix_append _ after)

end Filter

end DocumentTemplates
