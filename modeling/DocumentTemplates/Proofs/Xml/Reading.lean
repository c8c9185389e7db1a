import DocumentTemplates.Xml.Writer
import Mathlib.Algebra.BigOperators.Group.List.Defs
import Mathlib.Data.List.TakeDrop

/-!
# Reading XML tag by tag

A reader for elements: tags with attributes, between them either text or further elements, which
may stand on lines of their own. Every element with names to read is read back from its text,
whatever its text and its attributes say, since the marks of tags are escaped in them.
-/

namespace DocumentTemplates.Xml

/-- Letters, digits and the marks of which names consist. -/
def isNameChar (c : Char) : Bool :=
  c.isAlphanum || c = '_' || c = '-' || c = '.'

/-- A text that can be read as a name. -/
def IsName (s : String) : Prop :=
  s.toList ≠ [] ∧ ∀ c ∈ s.toList, isNameChar c

instance : DecidablePred IsName := fun s =>
  decidable_of_iff (s.toList ≠ [] ∧ s.toList.all isNameChar = true)
    (and_congr_right fun _ => List.all_eq_true)

/-! ## The reader -/

/-- Undoes escapes. What only looks like an escape is malformed. -/
def unescape : List Char → Option (List Char)
  | [] => some []
  | '&' :: 'l' :: 't' :: ';' :: rest => (unescape rest).map (List.cons '<')
  | '&' :: 'g' :: 't' :: ';' :: rest => (unescape rest).map (List.cons '>')
  | '&' :: 'a' :: 'm' :: 'p' :: ';' :: rest => (unescape rest).map (List.cons '&')
  | '&' :: 'a' :: 'p' :: 'o' :: 's' :: ';' :: rest => (unescape rest).map (List.cons '\'')
  | '&' :: 'q' :: 'u' :: 'o' :: 't' :: ';' :: rest => (unescape rest).map (List.cons '"')
  | c :: rest => if c = '&' then none else (unescape rest).map (List.cons c)

/-- The name at the start and what follows it. -/
def readName (cs : List Char) : Option (String × List Char) :=
  if (cs.takeWhile isNameChar).isEmpty then none
  else some (String.ofList (cs.takeWhile isNameChar), cs.dropWhile isNameChar)

/-- The text in front of a mark, and the rest from the mark on. -/
def readText (mark : Char) (cs : List Char) : Option (String × List Char) :=
  (unescape (cs.takeWhile (· ≠ mark))).map fun text =>
    (String.ofList text, cs.dropWhile (· ≠ mark))

/-- The attributes of a tag, each behind a space. At most `limit` are read. -/
def readAttributes : Nat → List Char → Option (List (String × String) × List Char)
  | limit + 1, ' ' :: cs => do
    let (name, cs) ← readName cs
    match cs with
    | '=' :: '"' :: cs =>
      let (value, cs) ← readText '"' cs
      let (more, rest) ← readAttributes limit (cs.drop 1)
      return ((name, value) :: more, rest)
    | _ => none
  | _, cs => some ([], cs)

/-- What follows the end tag of a name. -/
def readEndTag (name : String) : List Char → Option (List Char)
  | '<' :: '/' :: cs =>
    match readName cs with
    | some (closed, '>' :: rest) => if closed = name then some rest else none
    | _ => none
  | _ => none

/-- Drops the line breaks and spaces between tags. -/
def skipLayout (cs : List Char) : List Char :=
  cs.dropWhile fun c => c = '\n' || c = ' '

mutual

/-- An element and what follows it. At most `limit` calls are nested. -/
def readElement : Nat → List Char → Option (Element × List Char)
  | limit + 1, '<' :: cs => do
    let (name, cs) ← readName cs
    let (attributes, cs) ← readAttributes cs.length cs
    match cs with
    | '/' :: '>' :: rest => return (.mk name attributes .empty, rest)
    | '>' :: cs =>
      let (content, cs) ← readContent limit cs
      let rest ← readEndTag name cs
      return (.mk name attributes content, rest)
    | _ => none
  | _, _ => none

/-- The content of an element, up to its end tag: text, or elements. -/
def readContent : Nat → List Char → Option (Content Element × List Char)
  | 0, _ => none
  | limit + 1, cs =>
    match readText '<' cs with
    | some (s, '<' :: '/' :: rest) => some (.text s, '<' :: '/' :: rest)
    | _ => (readElements limit cs).map fun (es, rest) => (.children es, rest)

/-- The elements in front of an end tag. -/
def readElements : Nat → List Char → Option (List Element × List Char)
  | 0, _ => none
  | limit + 1, cs =>
    match skipLayout cs with
    | '<' :: '/' :: rest => some ([], '<' :: '/' :: rest)
    | cs => do
      let (e, cs) ← readElement limit cs
      let (es, rest) ← readElements limit cs
      return (e :: es, rest)

end

/-- The root element of a text that holds nothing else behind the declaration. -/
def readDocument? (s : String) : Option Element :=
  match declaration.isPrefixOf? s.toList with
  | none => none
  | some cs =>
    match readElement cs.length (skipLayout cs) with
    | some (e, []) => some e
    | _ => none

/-! ## Text -/

theorem unescape_plain {c : Char} (h : c ≠ '&') (rest : List Char) :
    unescape (c :: rest) = (unescape rest).map (List.cons c) := by
  rw [unescape, if_neg h]
  all_goals
    rintro _ rfl
    exact absurd rfl h

theorem unescape_escapeChar (c : Char) (rest : List Char) :
    unescape (escapeChar c ++ rest) = (unescape rest).map (List.cons c) := by
  unfold escapeChar
  split_ifs with hlt hgt hamp hapos hquot
  · rw [hlt]
    rfl
  · rw [hgt]
    rfl
  · rw [hamp]
    rfl
  · rw [hapos]
    rfl
  · rw [hquot]
    rfl
  · exact unescape_plain hamp rest

theorem unescape_escape (s : String) : unescape (escape s) = some s.toList := by
  unfold escape
  induction s.toList with
  | nil => rfl
  | cons c cs ih => rw [List.flatMap_cons, unescape_escapeChar, ih, Option.map_some]

theorem not_mem_escape {mark : Char} (h : mark = '<' ∨ mark = '"') (s : String) :
    mark ∉ escape s := by
  intro hm
  obtain ⟨c, -, hc⟩ := List.mem_flatMap.1 hm
  have hplain : mark ∉ "&lt;".toList ∧ mark ∉ "&gt;".toList ∧ mark ∉ "&amp;".toList ∧
      mark ∉ "&apos;".toList ∧ mark ∉ "&quot;".toList := by
    rcases h with rfl | rfl <;> decide
  obtain ⟨hlt, hgt, hamp, hapos, hquot⟩ := hplain
  unfold escapeChar at hc
  split_ifs at hc with h₁ h₂ h₃ h₄ h₅
  · exact hlt hc
  · exact hgt hc
  · exact hamp hc
  · exact hapos hc
  · exact hquot hc
  · obtain rfl := List.mem_singleton.1 hc
    exact h.elim h₁ h₅

/-- Escaped text ends at the first mark behind it. -/
theorem readText_escape {mark : Char} (h : mark = '<' ∨ mark = '"') (s : String)
    (rest : List Char) :
    readText mark (escape s ++ mark :: rest) = some (s, mark :: rest) := by
  have hpos : ∀ c ∈ escape s, decide (c ≠ mark) = true := by
    intro c hc
    refine decide_eq_true ?_
    rintro rfl
    exact not_mem_escape h s hc
  rw [readText, List.takeWhile_append_of_pos hpos, List.dropWhile_append_of_pos hpos,
    List.takeWhile_cons_of_neg (by simp), List.dropWhile_cons_of_neg (by simp), List.append_nil,
    unescape_escape, Option.map_some, String.ofList_toList]

/-! ## Names and tags -/

/-- No name goes on here. -/
def EndsName (rest : List Char) : Prop :=
  ∀ c ∈ rest.head?, isNameChar c = false

theorem EndsName.cons {c : Char} (h : isNameChar c = false) (rest : List Char) :
    EndsName (c :: rest) := by
  rintro _ ⟨⟩
  exact h

theorem readName_append {name : String} (h : IsName name) {rest : List Char}
    (hrest : EndsName rest) : readName (name.toList ++ rest) = some (name, rest) := by
  have htake : rest.takeWhile isNameChar = [] := by
    cases rest with
    | nil => rfl
    | cons c rest => rw [List.takeWhile_cons_of_neg (by simp [hrest c rfl])]
  have hdrop : rest.dropWhile isNameChar = rest := by
    cases rest with
    | nil => rfl
    | cons c rest => rw [List.dropWhile_cons_of_neg (by simp [hrest c rfl])]
  rw [readName, List.takeWhile_append_of_pos h.2, List.dropWhile_append_of_pos h.2, htake, hdrop,
    List.append_nil, if_neg (by simpa using h.1), String.ofList_toList]

theorem attributesText_cons (name value : String) (attributes : List (String × String))
    (rest : List Char) :
    attributesText ((name, value) :: attributes) ++ rest =
      ' ' :: (name.toList ++ '=' :: '"' :: (escape value ++
        '"' :: (attributesText attributes ++ rest))) := by
  simp only [attributesText, List.flatMap_cons, List.cons_append, List.append_assoc,
    List.nil_append]

theorem readAttributes_attributesText {attributes : List (String × String)}
    (ha : ∀ a ∈ attributes, IsName a.1) {limit : Nat} (hl : attributes.length ≤ limit)
    {rest : List Char} (hrest : ∀ more, rest ≠ ' ' :: more) :
    readAttributes limit (attributesText attributes ++ rest) = some (attributes, rest) := by
  induction attributes generalizing limit with
  | nil =>
    rw [attributesText, List.flatMap_nil, List.nil_append, readAttributes]
    exact fun n more _ => hrest more
  | cons a attributes ih =>
    obtain ⟨name, value⟩ := a
    obtain ⟨limit, rfl⟩ : ∃ n, limit = n + 1 :=
      Nat.exists_eq_add_of_le' (Nat.le_trans (Nat.le_add_left 1 _) hl)
    have hname := readName_append (ha _ List.mem_cons_self) <| EndsName.cons (c := '=') rfl
      ('"' :: (escape value ++ '"' :: (attributesText attributes ++ rest)))
    have hvalue := readText_escape (Or.inr rfl) value (attributesText attributes ++ rest)
    have hmore := ih (fun a hm => ha a (List.mem_cons_of_mem _ hm)) (Nat.le_of_succ_le_succ hl)
    rw [attributesText_cons, readAttributes, hname]
    change (readText '"' _).bind _ = _
    rw [hvalue]
    change (readAttributes limit (attributesText attributes ++ rest)).bind _ = _
    rw [hmore]
    rfl

theorem readEndTag_append {name : String} (h : IsName name) (rest : List Char) :
    readEndTag name (endTag name ++ rest) = some rest := by
  have hname := readName_append h (EndsName.cons (c := '>') rfl rest)
  rw [endTag, List.append_assoc, List.cons_append, List.cons_append, List.singleton_append,
    readEndTag, hname]
  exact if_pos rfl

/-! ## Elements -/

theorem eq_or_eq_of_mem_lineBreak {indented : Bool} {level : Nat} {c : Char}
    (h : c ∈ lineBreak indented level) : c = '\n' ∨ c = ' ' := by
  unfold lineBreak at h
  split at h
  · exact (List.mem_cons.1 h).imp_right List.eq_of_mem_replicate
  · cases h

theorem skipLayout_lineBreak (indented : Bool) (level : Nat) {c : Char} (h : c ≠ '\n' ∧ c ≠ ' ')
    (rest : List Char) : skipLayout (lineBreak indented level ++ c :: rest) = c :: rest := by
  have hpos : ∀ d ∈ lineBreak indented level, (d = '\n' || d = ' ') = true := by
    intro d hd
    rcases eq_or_eq_of_mem_lineBreak hd with rfl | rfl <;> rfl
  rw [skipLayout, List.dropWhile_append_of_pos hpos, List.dropWhile_cons_of_neg (by simp [h])]

mutual

/-- True of an element that can be told from its text: all names are names, and no list of children
is empty. -/
def Element.Readable : Element → Prop
  | .mk name attributes (.children es) =>
    (IsName name ∧ ∀ a ∈ attributes, IsName a.1) ∧ es ≠ [] ∧ Element.AllReadable es
  | .mk name attributes _ => IsName name ∧ ∀ a ∈ attributes, IsName a.1

def Element.AllReadable : List Element → Prop
  | [] => True
  | e :: es => e.Readable ∧ Element.AllReadable es

end

/-- The text of an element starts with a mark and a character of its name. -/
theorem elementText_eq_cons (indented : Bool) (level : Nat) {e : Element} (h : e.Readable) :
    ∃ c cs, elementText indented level e = '<' :: c :: cs ∧ isNameChar c := by
  obtain ⟨name, attributes, content⟩ := e
  have hname : IsName name := by
    cases content with
    | children es => exact h.1.1
    | _ => exact h.1
  obtain ⟨c, cs, hc⟩ := List.exists_cons_of_ne_nil hname.1
  have hchar : isNameChar c := hname.2 c (by rw [hc]; exact List.mem_cons_self)
  cases content <;> simp only [elementText, tagStart, hc, List.cons_append] <;>
    exact ⟨c, _, rfl, hchar⟩

theorem length_le_attributesText (attributes : List (String × String)) :
    attributes.length ≤ (attributesText attributes).length := by
  induction attributes with
  | nil => exact Nat.le_refl 0
  | cons a attributes ih =>
    rw [← List.append_nil (attributesText (a :: attributes)), attributesText_cons]
    simp only [List.append_nil, List.length_cons, List.length_append]
    omega

/-- What follows the start of a tag is read after its name and attributes. -/
theorem readName_tagStart {name : String} {attributes : List (String × String)}
    (hname : IsName name) {rest : List Char} (hrest : EndsName rest) :
    readName (name.toList ++ attributesText attributes ++ rest) =
      some (name, attributesText attributes ++ rest) := by
  rw [List.append_assoc]
  refine readName_append hname ?_
  cases attributes with
  | nil => exact hrest
  | cons a attributes =>
    rw [attributesText_cons]
    exact EndsName.cons rfl _

theorem readAttributes_tagStart {attributes : List (String × String)}
    (ha : ∀ a ∈ attributes, IsName a.1) {rest : List Char} (hrest : ∀ more, rest ≠ ' ' :: more) :
    readAttributes (attributesText attributes ++ rest).length (attributesText attributes ++ rest) =
      some (attributes, rest) := by
  refine readAttributes_attributesText ha ?_ hrest
  rw [List.length_append]
  exact Nat.le_add_right_of_le (length_le_attributesText attributes)

theorem readElement_empty {name : String} {attributes : List (String × String)}
    (hname : IsName name) (ha : ∀ a ∈ attributes, IsName a.1) (limit : Nat) (rest : List Char) :
    readElement (limit + 1) (tagStart name attributes ++ '/' :: '>' :: rest) =
      some (.mk name attributes .empty, rest) := by
  rw [tagStart, List.cons_append, List.cons_append, readElement,
    readName_tagStart hname (EndsName.cons rfl _)]
  change (readAttributes _ (_ ++ '/' :: '>' :: rest)).bind _ = _
  rw [readAttributes_tagStart ha (by rintro _ ⟨⟩)]
  rfl

/-- Behind a start tag come the content and the end tag. -/
theorem readElement_content {name : String} {attributes : List (String × String)}
    (hname : IsName name) (ha : ∀ a ∈ attributes, IsName a.1) {limit : Nat}
    {content : Content Element} {cs rest : List Char}
    (hcontent : readContent limit cs = some (content, endTag name ++ rest)) :
    readElement (limit + 1) (tagStart name attributes ++ '>' :: cs) =
      some (.mk name attributes content, rest) := by
  rw [tagStart, List.cons_append, List.cons_append, readElement,
    readName_tagStart hname (EndsName.cons rfl _)]
  change (readAttributes _ (_ ++ '>' :: cs)).bind _ = _
  rw [readAttributes_tagStart ha (by rintro _ ⟨⟩)]
  change (readContent limit cs).bind _ = _
  rw [hcontent]
  change (readEndTag name (endTag name ++ rest)).bind _ = _
  rw [readEndTag_append hname]
  rfl

theorem readContent_text (limit : Nat) (s name : String) (rest : List Char) :
    readContent (limit + 1) (escape s ++ (endTag name ++ rest)) =
      some (.text s, endTag name ++ rest) := by
  rw [readContent, endTag, List.cons_append, List.cons_append, readText_escape (Or.inl rfl)]
  rfl

/-- In front of an element there is no text that an end tag would close. -/
theorem readContent_children {limit : Nat} {indented : Bool} {level : Nat} {e : Element}
    (he : e.Readable) {cs : List Char} {es : List Element} {rest : List Char}
    (hread : readElements limit (lineBreak indented level ++ (elementText indented level e ++ cs)) =
      some (es, rest)) :
    readContent (limit + 1) (lineBreak indented level ++ (elementText indented level e ++ cs)) =
      some (.children es, rest) := by
  obtain ⟨c, more, htext, hc⟩ := elementText_eq_cons indented level he
  have hslash : c ≠ '/' := by
    rintro rfl
    exact absurd hc (by decide)
  have hdrop : (lineBreak indented level ++ '<' :: c :: (more ++ cs)).dropWhile (· ≠ '<') =
      '<' :: c :: (more ++ cs) := by
    rw [List.dropWhile_append_of_pos, List.dropWhile_cons_of_neg (by simp)]
    intro d hd
    rcases eq_or_eq_of_mem_lineBreak hd with rfl | rfl <;> rfl
  rw [readContent, hread, htext, List.cons_append, List.cons_append, readText, hdrop]
  -- The line break in front is a text, and only what comes behind it tells that it is no content.
  generalize unescape _ = text
  cases text with
  | none => rfl
  | some text =>
    rw [Option.map_some]
    split
    · rename_i h
      simp only [Option.some.injEq, Prod.mk.injEq, List.cons.injEq] at h
      exact absurd h.2.2.1 hslash
    · rfl

mutual

/-- The text of an element is read back, and what follows it is left. Both layouts are read, as
what stands between tags is a mark neither of text nor of names. -/
theorem readElement_elementText (indented : Bool) (e : Element) (he : e.Readable)
    (level limit : Nat) (hl : (elementText indented level e).length ≤ limit) (rest : List Char) :
    readElement limit (elementText indented level e ++ rest) = some (e, rest) := by
  obtain ⟨limit, rfl⟩ : ∃ n, limit = n + 1 := by
    obtain ⟨c, cs, htext, -⟩ := elementText_eq_cons indented level he
    rw [htext] at hl
    exact Nat.exists_eq_add_of_le' (Nat.le_trans (Nat.le_add_left 1 _) hl)
  match e, he, hl with
  | .mk name attributes .empty, he, _ =>
    rw [elementText, List.append_assoc]
    exact readElement_empty he.1 he.2 limit rest
  | .mk name attributes (.text s), he, hl =>
    -- One call for the element, one for its content: the marks of its tags are as many.
    rw [elementText, tagStart] at hl
    obtain ⟨limit, rfl⟩ : ∃ n, limit = n + 1 := by
      simp only [List.length_append, List.length_cons] at hl
      exact Nat.exists_eq_add_of_le' (by omega)
    rw [elementText, List.append_assoc, List.cons_append, List.append_assoc]
    exact readElement_content he.1 he.2 (readContent_text limit s name rest)
  | .mk name attributes (.children []), he, _ => exact absurd rfl he.2.1
  | .mk name attributes (.children (e :: es)), he, hl =>
    rw [elementText, tagStart, endTag] at hl
    simp only [List.length_append, List.length_cons] at hl
    obtain ⟨limit, rfl⟩ : ∃ n, limit = n + 1 := Nat.exists_eq_add_of_le' (by omega)
    have hread := readElements_elementsText indented (e :: es) he.2.2 (level + 1) limit (by omega)
      level name rest
    rw [elementText, List.append_assoc, List.cons_append, List.append_assoc]
    refine readElement_content he.1.1 he.1.2 ?_
    rw [elementsText] at hread ⊢
    simp only [List.append_assoc] at hread ⊢
    exact readContent_children he.2.2.1 hread

/-- A list of elements ends at an end tag. -/
theorem readElements_elementsText (indented : Bool) (es : List Element)
    (hes : Element.AllReadable es) (level limit : Nat)
    (hl : (elementsText indented level es).length < limit) (outer : Nat) (name : String)
    (rest : List Char) :
    readElements limit
      (elementsText indented level es ++ (lineBreak indented outer ++ (endTag name ++ rest))) =
        some (es, endTag name ++ rest) := by
  obtain ⟨limit, rfl⟩ : ∃ n, limit = n + 1 :=
    Nat.exists_eq_add_of_le' (Nat.le_trans (Nat.le_add_left 1 _) hl)
  match es, hes, hl with
  | [], _, _ =>
    have hskip := skipLayout_lineBreak indented outer (c := '<') (by decide)
      ('/' :: (name.toList ++ ['>'] ++ rest))
    rw [elementsText, List.nil_append, readElements, endTag, List.cons_append, List.cons_append,
      List.cons_append, List.cons_append, hskip]
    rfl
  | e :: es, hes, hl =>
    obtain ⟨c, cs, htext, hc⟩ := elementText_eq_cons indented level hes.1
    have hslash : c ≠ '/' := by
      rintro rfl
      exact absurd hc (by decide)
    rw [elementsText, List.length_append, List.length_append] at hl
    -- The limit falls by one for each element, and no element is written as nothing.
    have hpos : 0 < (elementText indented level e).length := by
      rw [htext]
      exact Nat.succ_pos _
    have hfirst := readElement_elementText indented e hes.1 level limit (by omega)
      (elementsText indented level es ++ (lineBreak indented outer ++ (endTag name ++ rest)))
    have hothers := readElements_elementsText indented es hes.2 level limit (by omega)
      outer name rest
    have hskip := skipLayout_lineBreak indented level (c := '<') (by decide)
      (c :: (cs ++
        (elementsText indented level es ++ (lineBreak indented outer ++ (endTag name ++ rest)))))
    rw [htext, List.cons_append, List.cons_append] at hfirst
    rw [elementsText, htext, readElements]
    simp only [List.append_assoc, List.cons_append]
    rw [hskip]
    split
    · rename_i h
      simp only [List.cons.injEq] at h
      exact absurd h.2.1 hslash
    · change (readElement limit _).bind _ = _
      rw [hfirst]
      change (readElements limit _).bind _ = _
      rw [hothers]
      rfl

end

/-- The root element of a document is read back, and nothing else is found behind it. -/
theorem readDocument?_root (indented : Bool) {e : Element} (he : e.Readable) :
    readDocument? (String.ofList <|
      declaration ++ lineBreak indented 0 ++ elementText indented 0 e) = some e := by
  obtain ⟨c, cs, htext, -⟩ := elementText_eq_cons indented 0 he
  have hprefix : declaration.isPrefixOf?
      (declaration ++ (lineBreak indented 0 ++ elementText indented 0 e)) =
        some (lineBreak indented 0 ++ elementText indented 0 e) :=
    List.isPrefixOf?_eq_some_iff_append_eq.2 rfl
  have hskip : skipLayout (lineBreak indented 0 ++ elementText indented 0 e) =
      elementText indented 0 e := by
    rw [htext]
    exact skipLayout_lineBreak indented 0 (by decide) (c :: cs)
  have hread := readElement_elementText indented e he 0
    (lineBreak indented 0 ++ elementText indented 0 e).length (by simp) []
  rw [List.append_nil] at hread
  rw [readDocument?, String.toList_ofList, List.append_assoc, hprefix]
  change (match readElement (lineBreak indented 0 ++ elementText indented 0 e).length
    (skipLayout (lineBreak indented 0 ++ elementText indented 0 e)) with
    | some (e, []) => some e
    | _ => none) = some e
  rw [hskip, hread]

end DocumentTemplates.Xml
