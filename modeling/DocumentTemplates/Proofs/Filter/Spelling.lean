import DocumentTemplates.Proofs.Filter.Calls

/-!
# Spellings of a filter

A query is written by hand, with blanks where they help the eye: before a field, behind its name and
calls, around braces and commas, and around the arguments of a call. A text spells fields if it is
their canonical text with any blanks put in at those places. Reading gives the fields back from each
of their spellings, in any surroundings in which a list of fields may end.
-/

namespace DocumentTemplates

namespace Text

/-- A class of characters that has none of the blanks. -/
theorem eq_false_of_isBlank {p : Char → Bool}
    (hp : ∀ code ∈ blankCodes, p (Char.ofNat code) = false) {c : Char} (h : isBlank c = true) :
    p c = false := by
  have := hp c.toNat (by simpa [isBlank] using h)
  rwa [Char.ofNat_toNat] at this

/-- Blanks and nothing else. -/
def Blanks (cs : List Char) : Prop :=
  ∀ c ∈ cs, isBlank c = true

theorem Blanks.nil : Blanks [] := fun _ h => nomatch h

theorem Blanks.trimStart_append {blanks : List Char} (h : Blanks blanks) (rest : List Char) :
    trimStart (blanks ++ rest) = trimStart rest :=
  List.dropWhile_append_of_pos h

theorem rdropWhile_append_blanks (cs : List Char) {blanks : List Char} (h : Blanks blanks) :
    List.rdropWhile isBlank (cs ++ blanks) = List.rdropWhile isBlank cs := by
  have hrev : ∀ c ∈ blanks.reverse, isBlank c = true := fun c hc => h c (List.mem_reverse.1 hc)
  rw [List.rdropWhile, List.reverse_append, List.dropWhile_append_of_pos hrev, ← List.rdropWhile]

theorem Blanks.trim_eq_nil {blanks : List Char} (h : Blanks blanks) : trim blanks = [] := by
  rw [trim_eq_rdropWhile, List.dropWhile_eq_nil_iff.2 h, List.rdropWhile_nil]

/-- Trimming does not see the blanks around a text. -/
theorem trim_blanks {before behind : List Char} (hb : Blanks before) (hf : Blanks behind)
    (cs : List Char) : trim (before ++ cs ++ behind) = trim cs := by
  rw [trim_eq_rdropWhile, trim_eq_rdropWhile, List.append_assoc,
    List.dropWhile_append_of_pos hb, List.dropWhile_append]
  split
  · rename_i hcs
    rw [List.isEmpty_iff.1 hcs, List.dropWhile_eq_nil_iff.2 hf]
  · exact rdropWhile_append_blanks _ hf

end Text

namespace Filter

open Text (Blanks)

/-- The name of a field as reading leaves it. -/
structure IsName (name : String) : Prop where
  ne_nil : name.toList ≠ []
  chars : ∀ c ∈ name.toList, isNameChar c = true

/-- A field as reading leaves it, with its nested fields at every depth. -/
inductive IsField (parentName : String → String) : FilterField → Prop
  | plain {name : String} {calls : List FunctionCall} (hname : IsName name)
      (hcalls : ∀ call ∈ calls, IsCall call) : IsField parentName (.mk name calls none)
  | group {name : String} {calls : List FunctionCall} {fields : List FilterField}
      (hname : IsName name) (hcalls : ∀ call ∈ calls, IsCall call)
      (hfields : ∀ field ∈ fields, IsField parentName field) :
      IsField parentName (.mk name calls (some (.mk (some (parentName name)) fields)))

/-! ## Spellings -/

/-- The text holds spellings of the items, separated by commas, or blanks if there is no item. -/
inductive Separated {α : Type} (spells : α → List Char → Prop) : List α → List Char → Prop
  | none {blanks : List Char} : Blanks blanks → Separated spells [] blanks
  | one {item : α} {text : List Char} : spells item text → Separated spells [item] text
  | more {item next : α} {items : List α} {text rest : List Char} : spells item text →
      Separated spells (next :: items) rest →
      Separated spells (item :: next :: items) (text ++ ',' :: rest)

/-- An argument with blanks around it. -/
inductive SpellsArg (arg : String) : List Char → Prop
  | padded {before behind : List Char} : Blanks before → Blanks behind →
      SpellsArg arg (before ++ arg.toList ++ behind)

/-- Calls one behind the other, with blanks around the arguments only. -/
inductive SpellsCalls : List FunctionCall → List Char → Prop
  | nil : SpellsCalls [] []
  | cons {call : FunctionCall} {more : List FunctionCall} {args rest : List Char} :
      Separated SpellsArg call.args args → SpellsCalls more rest →
      SpellsCalls (call :: more)
        ('.' :: (call.function.name.toList ++ '(' :: (args ++ ')' :: rest)))

/-- A field with blanks before it, behind its name and calls, and around the braces of its group. -/
inductive SpellsField : FilterField → List Char → Prop
  | plain {name : String} {calls : List FunctionCall} {before text behind : List Char} :
      Blanks before → SpellsCalls calls text → Blanks behind →
      SpellsField (.mk name calls none) (before ++ (name.toList ++ text ++ behind))
  | group {name : String} {calls : List FunctionCall} {parent : Option String}
      {fields : List FilterField} {before text between inner behind : List Char} :
      Blanks before → SpellsCalls calls text → Blanks between →
      Separated SpellsField fields inner → Blanks behind →
      SpellsField (.mk name calls (some (.mk parent fields)))
        (before ++ (name.toList ++ text ++ (between ++ '{' :: (inner ++ '}' :: behind))))

/-! ## Arguments -/

theorem isArgMark_of_isBlank {c : Char} : Text.isBlank c = true → isArgMark c = false :=
  Text.eq_false_of_isBlank (by decide +kernel)

theorem SpellsArg.unmarked {arg : String} (ha : IsArg arg) {text : List Char}
    (h : SpellsArg arg text) : ∀ c ∈ text, isArgMark c = false := by
  obtain ⟨hbefore, hbehind⟩ := h
  intro c hc
  rcases List.mem_append.1 hc with hc | hc
  · rcases List.mem_append.1 hc with hc | hc
    · exact isArgMark_of_isBlank (hbefore c hc)
    · exact ha.unmarked c hc
  · exact isArgMark_of_isBlank (hbehind c hc)

theorem SpellsArg.trim_eq {arg : String} (ha : IsArg arg) {text : List Char}
    (h : SpellsArg arg text) : Text.trim text = arg.toList := by
  obtain ⟨hbefore, hbehind⟩ := h
  rw [Text.trim_blanks hbefore hbehind, ha.trimmed]

theorem not_mem_of_unmarked {text : List Char} (h : ∀ c ∈ text, isArgMark c = false) :
    ',' ∉ text :=
  fun hc => absurd (h ',' hc) (by decide)

/-- The argument that trimming leaves of the text between two commas, if it leaves any. -/
def trimmedArg (part : List Char) : List String :=
  if (Text.trim part).isEmpty then [] else [String.ofList (Text.trim part)]

theorem splitArgs_eq (inner : List Char) :
    splitArgs inner = (splitCommas inner).flatMap trimmedArg := by
  rw [splitArgs]
  induction splitCommas inner with
  | nil => rfl
  | cons part parts ih =>
    rw [List.map_cons, List.flatMap_cons, ← ih, trimmedArg]
    by_cases h : Text.trim part = [] <;> simp [h]

theorem SpellsArg.trimmedArg_eq {arg : String} (ha : IsArg arg) {text : List Char}
    (h : SpellsArg arg text) : trimmedArg text = [arg] := by
  rw [trimmedArg, h.trim_eq ha, if_neg (by simpa using ha.ne_nil), String.ofList_toList]

theorem splitArgs_spelled {args : List String} (h : ∀ arg ∈ args, IsArg arg) {text : List Char}
    (hs : Separated SpellsArg args text) : splitArgs text = args := by
  rw [splitArgs_eq]
  induction hs with
  | none hblanks =>
    have hcomma := not_mem_of_unmarked fun c hc => isArgMark_of_isBlank (hblanks c hc)
    rw [splitCommas_of_not_mem hcomma, List.flatMap_singleton, trimmedArg, hblanks.trim_eq_nil]
    rfl
  | one harg =>
    have ha := h _ List.mem_cons_self
    rw [splitCommas_of_not_mem (not_mem_of_unmarked (harg.unmarked ha)), List.flatMap_singleton,
      harg.trimmedArg_eq ha]
  | more harg _ ih =>
    have ha := h _ List.mem_cons_self
    rw [splitCommas_append (not_mem_of_unmarked (harg.unmarked ha)), List.flatMap_cons,
      harg.trimmedArg_eq ha, ih fun arg hm => h arg (List.mem_cons_of_mem _ hm)]
    rfl

theorem isParenMark_of_isArgMark {c : Char} (h : isArgMark c = false) : isParenMark c = false := by
  rw [isArgMark_eq, Bool.or_eq_false_iff] at h
  exact h.2

theorem isParenMark_spelled {args : List String} (h : ∀ arg ∈ args, IsArg arg) {text : List Char}
    (hs : Separated SpellsArg args text) : ∀ c ∈ text, isParenMark c = false := by
  induction hs with
  | none hblanks =>
    exact fun c hc => isParenMark_of_isArgMark (isArgMark_of_isBlank (hblanks c hc))
  | one harg =>
    exact fun c hc => isParenMark_of_isArgMark (harg.unmarked (h _ List.mem_cons_self) c hc)
  | more harg _ ih =>
    intro c hc
    rcases List.mem_append.1 hc with hc | hc
    · exact isParenMark_of_isArgMark (harg.unmarked (h _ List.mem_cons_self) c hc)
    · rcases List.mem_cons.1 hc with rfl | hc
      · decide
      · exact ih (fun arg hm => h arg (List.mem_cons_of_mem _ hm)) c hc

theorem readArgs_spelled {args : List String} (h : ∀ arg ∈ args, IsArg arg) {text : List Char}
    (hs : Separated SpellsArg args text) (rest : List Char) :
    readArgs ('(' :: (text ++ ')' :: rest)) = (some args, rest) := by
  rw [readArgs, readUntilParen_append (isParenMark_spelled h hs)]
  exact congrArg (fun a => (some a, rest)) (splitArgs_spelled h hs)

/-! ## Calls -/

theorem readCalls_spelled {calls : List FunctionCall} (h : ∀ call ∈ calls, IsCall call)
    {text : List Char} (hs : SpellsCalls calls text) {rest : List Char} (hr : EndsCalls rest)
    {rounds : Nat} (hl : text.length ≤ rounds) :
    readCalls rounds (text ++ rest) = (some calls, rest) := by
  induction hs generalizing rounds with
  | nil => exact readCalls_end hr rounds
  | @cons call more args text hargs hmore ih =>
    obtain ⟨hne, hname, hfunction⟩ := name_function call.function
    have hcall := h call List.mem_cons_self
    simp only [List.length_cons, List.length_append] at hl
    obtain ⟨n, rfl⟩ : ∃ n, rounds = n + 1 := ⟨rounds - 1, by omega⟩
    have hread : readCalls n (text ++ rest) = (some more, rest) :=
      ih (fun c hc => h c (List.mem_cons_of_mem call hc)) (by omega)
    have hparen : EndsName ('(' :: (args ++ ')' :: (text ++ rest))) := EndsName.cons (by decide) _
    have htext : '.' :: (call.function.name.toList ++ '(' :: (args ++ ')' :: text)) ++ rest =
        '.' :: (call.function.name.toList ++ '(' :: (args ++ ')' :: (text ++ rest))) := by
      simp
    rw [htext, readCalls, takeWhile_name hname hparen, dropWhile_name hname hparen]
    split
    · rename_i hnil
      exact absurd hnil hne
    · simp only [readArgs_spelled hcall.args hargs, hread, call?, hfunction, hcall.accepted]
      rfl

/-! ## Fields -/

theorem isNameChar_of_isBlank {c : Char} : Text.isBlank c = true → isNameChar c = false :=
  Text.eq_false_of_isBlank (by decide +kernel)

/-- Where a field may end: at a comma, at a closing brace, or at the end of the text. -/
inductive EndsField : List Char → Prop
  | done : EndsField []
  | comma (tail : List Char) : EndsField (',' :: tail)
  | brace (tail : List Char) : EndsField ('}' :: tail)

namespace EndsField

variable {rest : List Char}

theorem trimStart (h : EndsField rest) : Text.trimStart rest = rest := by
  cases h with
  | done => rfl
  | comma tail => exact Text.trimStart_cons (by decide) tail
  | brace tail => exact Text.trimStart_cons (by decide) tail

theorem endsName (h : EndsField rest) : EndsName rest := by
  cases h with
  | done => exact fun c tail h => (by cases h)
  | comma tail => exact EndsName.cons (by decide) tail
  | brace tail => exact EndsName.cons (by decide) tail

theorem endsCalls (h : EndsField rest) : EndsCalls rest := by
  cases h with
  | done => exact fun tail h => (by cases h)
  | comma _ => exact fun tail h => absurd (List.cons.inj h).1 (by decide)
  | brace _ => exact fun tail h => absurd (List.cons.inj h).1 (by decide)

theorem skipTrailing (h : EndsField rest) {blanks : List Char} (hb : Blanks blanks) :
    Filter.skipTrailing (blanks ++ rest) = rest := by
  rw [Filter.skipTrailing, hb.trimStart_append, h.trimStart]
  cases h <;> rfl

end EndsField

theorem EndsName.blanks {blanks rest : List Char} (hb : Blanks blanks) (hr : EndsName rest) :
    EndsName (blanks ++ rest) := by
  cases blanks with
  | nil => exact hr
  | cons c blanks => exact EndsName.cons (isNameChar_of_isBlank (hb c List.mem_cons_self)) _

theorem EndsCalls.blanks {blanks rest : List Char} (hb : Blanks blanks) (hr : EndsCalls rest) :
    EndsCalls (blanks ++ rest) := by
  cases blanks with
  | nil => exact hr
  | cons c blanks =>
    rintro tail ⟨⟩
    exact absurd (hb '.' List.mem_cons_self) (by decide)

theorem SpellsCalls.endsName {calls : List FunctionCall} {text rest : List Char}
    (h : SpellsCalls calls text) (hr : EndsName rest) : EndsName (text ++ rest) := by
  cases h with
  | nil => exact hr
  | cons _ _ => exact EndsName.cons (by decide) _

variable {parentName : String → String}

/-- The name and the calls of a field are read in front of what ends the calls. -/
theorem readField_head (parentName : String → String) {name : String}
    {calls : List FunctionCall} (hname : IsName name) (hcalls : ∀ call ∈ calls, IsCall call)
    {text : List Char} (hs : SpellsCalls calls text) {rest : List Char} (hn : EndsName rest)
    (hc : EndsCalls rest) (group : List Char → List FilterField × List Char) :
    readField parentName group (name.toList ++ text ++ rest) =
      readGroup parentName group name calls rest := by
  have hends := hs.endsName hn
  have hl : text.length ≤ (text ++ rest).length := by
    rw [List.length_append]
    exact Nat.le_add_right _ _
  unfold readField
  rw [List.append_assoc, takeWhile_name hname.chars hends, dropWhile_name hname.chars hends]
  split
  · rename_i hnil
    exact absurd hnil hname.ne_nil
  · simp only [readCalls_spelled hcalls hs hc hl, String.ofList_toList]

theorem readFields_comma (rounds : Nat) (rest : List Char) :
    readFields parentName (rounds + 1) (',' :: rest) = readFields parentName rounds rest := by
  rw [readFields, Text.trimStart_cons (by decide)]
  rfl

/-- Behind a field that was read, reading goes on at the comma or stops. -/
theorem readFields_field {rounds : Nat} {field : FilterField} {name : String}
    (hname : IsName name) {before text behind rest : List Char} (hb : Blanks before)
    (hf : Blanks behind) (hr : EndsField rest)
    (hread : readField parentName (readFields parentName rounds) (name.toList ++ text) =
      (some field, behind ++ rest)) :
    readFields parentName (rounds + 1) (before ++ (name.toList ++ text)) =
      (field :: (readFields parentName rounds rest).1, (readFields parentName rounds rest).2) := by
  obtain ⟨c, tail, hstart⟩ := List.exists_cons_of_ne_nil hname.ne_nil
  have hc : isNameChar c = true := hname.chars c (by rw [hstart]; exact List.mem_cons_self)
  have hblank : Text.isBlank c = false := by
    cases hb : Text.isBlank c with
    | false => rfl
    | true => exact absurd hc (by simp [isNameChar_of_isBlank hb])
  have hmark : ∀ d, isNameChar d = false → c ≠ d := by
    rintro d hd rfl
    rw [hc] at hd
    cases hd
  rw [hstart, List.cons_append] at hread
  rw [hstart, List.cons_append, readFields, hb.trimStart_append, Text.trimStart_cons hblank]
  split
  · rename_i h
    cases h
  · rename_i h
    exact absurd (List.cons.inj h).1 (hmark '}' (by decide))
  · rename_i h
    exact absurd (List.cons.inj h).1 (hmark ',' (by decide))
  · simp only [hread, Option.isSome_some, if_true, hr.skipTrailing hf]
    rfl

/-- Reading the fields of a text gives `fields`, up to the end or a closing brace behind it. -/
def ReadsBack (parentName : String → String) (rounds : Nat) (fields : List FilterField)
    (text : List Char) : Prop :=
  ∀ rest, (rest = [] ∨ ∃ tail, rest = '}' :: tail) →
    readFields parentName rounds (text ++ rest) = (fields, rest)

theorem readsBack_blanks (rounds : Nat) {blanks : List Char} (hb : Blanks blanks)
    (hl : blanks.length ≤ rounds) : ReadsBack parentName rounds [] blanks := by
  intro rest hr
  cases rounds with
  | zero =>
    obtain rfl := List.eq_nil_of_length_eq_zero (Nat.le_zero.1 hl)
    rfl
  | succ rounds =>
    rw [readFields, hb.trimStart_append]
    rcases hr with rfl | ⟨tail, rfl⟩
    · rfl
    · rw [(EndsField.brace tail).trimStart]
      rfl

/-- A field is read back from each of its spellings where a field may end, if the spellings of
nested fields that fit into its own are read back. -/
theorem readFields_spelledField {field : FilterField} (h : IsField parentName field)
    {text : List Char} (hs : SpellsField field text) {rounds : Nat}
    (hl : text.length ≤ rounds + 1)
    (hg : ∀ {fields : List FilterField}, (∀ nested ∈ fields, IsField parentName nested) →
      ∀ {inner : List Char}, Separated SpellsField fields inner → inner.length ≤ rounds →
        ReadsBack parentName rounds fields inner)
    {rest : List Char} (hr : EndsField rest) :
    readFields parentName (rounds + 1) (text ++ rest) =
      (field :: (readFields parentName rounds rest).1, (readFields parentName rounds rest).2) := by
  cases hs with
  | @plain name calls before text behind hbefore hcalls hbehind =>
    obtain ⟨hname, hform⟩ : IsName name ∧ ∀ call ∈ calls, IsCall call := by
      cases h with
      | plain hname hform => exact ⟨hname, hform⟩
    have hread := readField_head parentName hname hform hcalls (hr.endsName.blanks hbehind)
      (hr.endsCalls.blanks hbehind) (readFields parentName rounds)
    have hgroup : readGroup parentName (readFields parentName rounds) name calls (behind ++ rest) =
        (some (.mk name calls none), [] ++ rest) := by
      rw [readGroup, hbehind.trimStart_append, hr.trimStart]
      cases hr <;> rfl
    rw [hgroup, List.append_assoc] at hread
    simp only [List.append_assoc]
    exact readFields_field hname hbefore .nil hr hread
  | @group name calls parent fields before text between inner behind hbefore hcalls hbetween hinner
      hbehind =>
    obtain ⟨rfl, hname, hform, hfields⟩ : parent = some (parentName name) ∧ IsName name ∧
        (∀ call ∈ calls, IsCall call) ∧ ∀ nested ∈ fields, IsField parentName nested := by
      cases h with
      | group hname hform hfields => exact ⟨rfl, hname, hform, hfields⟩
    simp only [List.length_append, List.length_cons] at hl
    have hopen : EndsName ('{' :: (inner ++ '}' :: (behind ++ rest))) := EndsName.cons (by decide) _
    have hcalled : EndsCalls ('{' :: (inner ++ '}' :: (behind ++ rest))) :=
      fun tail h => absurd (List.cons.inj h).1 (by decide)
    have hread := readField_head parentName hname hform hcalls (hopen.blanks hbetween)
      (hcalled.blanks hbetween) (readFields parentName rounds)
    have hback := hg hfields hinner (by omega) ('}' :: (behind ++ rest)) (.inr ⟨_, rfl⟩)
    rw [readGroup, hbetween.trimStart_append, Text.trimStart_cons (by decide)] at hread
    simp only [hback, List.append_assoc] at hread
    simp only [List.append_assoc, List.cons_append]
    exact readFields_field hname hbefore hbehind hr hread

theorem SpellsField.length_pos {field : FilterField} (h : IsField parentName field)
    {text : List Char} (hs : SpellsField field text) : 0 < text.length := by
  have start : ∀ {name : String}, IsName name → 0 < name.toList.length :=
    fun hname => List.length_pos_iff.2 hname.ne_nil
  cases hs with
  | plain =>
    cases h with
    | plain hname _ =>
      have := start hname
      simp only [List.length_append]
      omega
  | group =>
    cases h with
    | group hname _ _ =>
      have := start hname
      simp only [List.length_append]
      omega

/-- Fields as reading leaves them are read back from each of their spellings. -/
theorem readFields_spelled {rounds : Nat} {fields : List FilterField}
    (h : ∀ field ∈ fields, IsField parentName field) {text : List Char}
    (hs : Separated SpellsField fields text) (hl : text.length ≤ rounds) :
    ReadsBack parentName rounds fields text := by
  -- fewer rounds are left for what stands behind a field, and for the fields nested in it
  induction rounds using Nat.strongRecOn generalizing fields text with
  | ind rounds ih =>
    cases hs with
    | none hblanks => exact readsBack_blanks rounds hblanks hl
    | @one field text hfield =>
      have hform := h field List.mem_cons_self
      have hpos := hfield.length_pos hform
      obtain ⟨n, rfl⟩ : ∃ n, rounds = n + 1 := ⟨rounds - 1, by omega⟩
      intro rest hr
      have hend : EndsField rest := by
        rcases hr with rfl | ⟨tail, rfl⟩
        · exact .done
        · exact .brace tail
      have hstop : readFields parentName n rest = ([], rest) :=
        readsBack_blanks n .nil (Nat.zero_le n) rest hr
      rw [readFields_spelledField hform hfield hl (ih n (Nat.lt_succ_self n)) hend, hstop]
    | @more field next fields text more hfield hmore =>
      have hform := h field List.mem_cons_self
      have hpos := hfield.length_pos hform
      rw [List.length_append, List.length_cons] at hl
      obtain ⟨n, rfl⟩ : ∃ n, rounds = n + 1 + 1 := ⟨rounds - 2, by omega⟩
      intro rest hr
      have hback := ih n (by omega) (fun f hf => h f (List.mem_cons_of_mem _ hf)) hmore (by omega)
        rest hr
      rw [List.append_assoc, List.cons_append,
        readFields_spelledField hform hfield (by omega) (ih (n + 1) (Nat.lt_succ_self _))
          (.comma _),
        readFields_comma, hback]

/-- However blanks are put into the canonical query of a filter, at the places where they may stand,
the filter is read from it. -/
theorem parse_spelled {fields : List FilterField} (h : ∀ field ∈ fields, IsField parentName field)
    {query : String} (hs : Separated SpellsField fields query.toList) :
    parseWith parentName query = .mk none fields := by
  have hread := readFields_spelled h hs (Nat.le_refl _) [] (.inl rfl)
  rw [List.append_nil] at hread
  rw [parseWith, readQuery, hread]

/-- Blanks around a group, in an empty group, around arguments and between the parentheses of a call
that has none. -/
theorem parse_spelled_user :
    let tags : FilterField := .mk "tags" [⟨.sort, []⟩] (some (.mk (some "tags") []))
    let user : FilterField := .mk "user" [⟨.sort, ["age", "desc"]⟩, ⟨.limit, ["3"]⟩]
      (some (.mk (some "user") [.mk "id" [] none, tags]))
    let query := " user.sort( age,desc ).limit(3 ) { id , tags.sort( ){ } } "
    (∀ field ∈ [user], IsField Text.snakeCase field) ∧
      Separated SpellsField [user] query.toList ∧
      parseWith Text.snakeCase query = .mk none [user] := by
  intro tags user query
  have blank : Blanks [' '] := List.forall_mem_singleton.2 (by decide)
  have hargs : Separated SpellsArg ["age", "desc"] " age,desc ".toList :=
    .more (SpellsArg.padded blank .nil) (.one (SpellsArg.padded .nil blank))
  have hcount : Separated SpellsArg ["3"] "3 ".toList := .one (SpellsArg.padded .nil blank)
  have hcalls : SpellsCalls [⟨.sort, ["age", "desc"]⟩, ⟨.limit, ["3"]⟩] _ :=
    .cons hargs (.cons hcount .nil)
  have hid : SpellsField (.mk "id" [] none) _ := .plain blank .nil blank
  have htags : SpellsField tags _ :=
    .group blank (.cons (.none blank) .nil) .nil (.none blank) blank
  have hs : Separated SpellsField [user]
      " user.sort( age,desc ).limit(3 ) { id , tags.sort( ){ } } ".toList :=
    .one (.group blank hcalls blank (.more hid (.one htags)) blank)
  have hname : ∀ name ∈ ["user", "id", "tags"], IsName name := by
    have hne : ∀ name ∈ ["user", "id", "tags"], name.toList ≠ [] := by decide
    have hchars : ∀ name ∈ ["user", "id", "tags"], name.toList.all isNameChar = true := by decide
    exact fun name hn => ⟨hne name hn, List.all_eq_true.1 (hchars name hn)⟩
  have harg : ∀ arg ∈ ["age", "desc", "3"], IsArg arg := by
    have hne : ∀ arg ∈ ["age", "desc", "3"], arg.toList ≠ [] := by decide
    have htrim : ∀ arg ∈ ["age", "desc", "3"], Text.trim arg.toList = arg.toList := by decide
    have hmarks : ∀ arg ∈ ["age", "desc", "3"], arg.toList.any isArgMark = false := by decide
    exact fun arg ha => ⟨hne arg ha, htrim arg ha, by simpa using hmarks arg ha⟩
  have hempty : ∀ field ∈ ([] : List FilterField), IsField Text.snakeCase field :=
    fun _ h => nomatch h
  have hnested : ∀ field ∈ [.mk "id" [] none, tags], IsField Text.snakeCase field := by
    refine List.forall_mem_cons.2 ⟨.plain (hname "id" (by decide)) (fun _ h => nomatch h), ?_⟩
    refine List.forall_mem_singleton.2 (.group (hname "tags" (by decide)) ?_ hempty)
    exact List.forall_mem_singleton.2 ⟨(fun _ h => nomatch h), by decide⟩
  have hform : ∀ field ∈ [user], IsField Text.snakeCase field := by
    refine List.forall_mem_singleton.2 (.group (hname "user" (by decide)) ?_ hnested)
    refine List.forall_mem_cons.2 ⟨⟨fun a ha => harg a (by grind), by decide⟩, ?_⟩
    exact List.forall_mem_singleton.2 ⟨fun a ha => harg a (by grind), by decide⟩
  exact ⟨hform, hs, parse_spelled hform hs⟩

end Filter

end DocumentTemplates
