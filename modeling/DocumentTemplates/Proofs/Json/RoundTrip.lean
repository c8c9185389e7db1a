import DocumentTemplates.Json.Reader
import DocumentTemplates.Json.Writer
import DocumentTemplates.Proofs.Decimal.Digits
import DocumentTemplates.Proofs.OrderedMap.Merge
import DocumentTemplates.Proofs.Value.Parts

/-!
# Compact JSON reads back

Each text is read back in front of whatever may follow it: strings end at their closing quote,
numbers at a comma, a bracket or the end of the text. So a value without doubles, in which at most
127 arrays and documents are open at once, is read back from its compact text as it was.
-/

namespace DocumentTemplates

namespace Value

theorem int64?_toInt (i : Int64) : int64? i.toInt = some i := by
  have hlow := i.minValue_le_toInt
  have hhigh := i.toInt_le
  unfold int64?
  rw [if_pos (by rw [decide_eq_true hlow, decide_eq_true hhigh]; rfl), Int64.ofInt_toInt]

def isFloat : Value → Bool
  | .float _ => true
  | _ => false

end Value

namespace Json

/-! ## Strings -/

theorem readString_plain {c : Char} (hquote : c ≠ '"') (hback : c ≠ '\\') (hc : ¬ c.toNat < 0x20)
    (rest : List Char) :
    readString (c :: rest) = (readString rest).map (Prod.map (List.cons c) id) := by
  rw [readString.eq_5 c rest hquote (fun _ _ _ _ _ h => absurd h hback) fun _ _ h => absurd h hback]
  simp only [hc, hback, decide_false, Bool.or_false, Bool.false_eq_true, if_false]
  cases readString rest <;> rfl

theorem readString_short {c e : Char} (hu : c ≠ 'u') (he : shortEscape? c = some e)
    (rest : List Char) :
    readString ('\\' :: c :: rest) = (readString rest).map (Prod.map (List.cons e) id) := by
  rw [readString.eq_4 c rest fun _ _ _ _ _ h => absurd h hu, he]
  cases readString rest <;> rfl

theorem codeUnit?_hexDigit : ∀ n < 0x20,
    codeUnit? '0' '0' (hexDigit (n / 16)) (hexDigit (n % 16)) = some n := by
  decide

theorem readString_unit {n : Nat} (hn : n < 0x20) (rest : List Char) :
    readString ('\\' :: 'u' :: '0' :: '0' :: hexDigit (n / 16) :: hexDigit (n % 16) :: rest) =
      (readString rest).map (Prod.map (List.cons (Char.ofNat n)) id) := by
  have hlow : n < 0xd800 := by omega
  rw [readString.eq_3, codeUnit?_hexDigit n hn]
  simp only [Option.bind_eq_bind, Option.bind_some, hlow, decide_true, Bool.true_or, if_true]
  cases readString rest <;> rfl

/-- What is written for a character reads back as that character. -/
theorem readString_escapeChar (c : Char) (rest : List Char) :
    readString (escapeChar c ++ rest) = (readString rest).map (Prod.map (List.cons c) id) := by
  have hofNat : ∀ n, c.toNat = n → Char.ofNat n = c := by
    rintro n rfl
    exact c.ofNat_toNat
  unfold escapeChar
  split_ifs with hquote hback hline hreturn htab hbackspace hfeed hcontrol
  · exact readString_short (by decide) (by rw [hquote]; rfl) rest
  · exact readString_short (by decide) (by rw [hback]; rfl) rest
  · exact readString_short (by decide) (by rw [hline]; rfl) rest
  · exact readString_short (by decide) (by rw [hreturn]; rfl) rest
  · exact readString_short (by decide) (by rw [htab]; rfl) rest
  · exact readString_short (by decide) (by rw [← hofNat _ hbackspace]; rfl) rest
  · exact readString_short (by decide) (by rw [← hofNat _ hfeed]; rfl) rest
  · have hread := readString_unit hcontrol rest
    rwa [hofNat _ rfl] at hread
  · exact readString_plain hquote hback hcontrol rest

theorem readString_flatMap_escapeChar (cs rest : List Char) :
    readString (cs.flatMap escapeChar ++ '"' :: rest) = some (cs, rest) := by
  induction cs with
  | nil => rfl
  | cons c cs ih =>
    rw [List.flatMap_cons, List.append_assoc, readString_escapeChar, ih]
    rfl

theorem quote_append (s : String) (rest : List Char) :
    quote s ++ rest = '"' :: (s.toList.flatMap escapeChar ++ '"' :: rest) := by
  rw [quote, List.cons_append, List.append_assoc, List.singleton_append]

/-! ## Numbers -/

/-- What may stand behind a value: nothing, or one of the marks that follow items and entries. -/
def EndsValue (rest : List Char) : Prop :=
  ∀ c ∈ rest.head?, c = ',' ∨ c = ']' ∨ c = '}'

theorem EndsValue.cons {c : Char} (h : c = ',' ∨ c = ']' ∨ c = '}') (rest : List Char) :
    EndsValue (c :: rest) := by
  rintro _ ⟨⟩
  exact h

theorem EndsValue.takeWhile_isDigit {rest : List Char} (h : EndsValue rest) :
    rest.takeWhile Decimal.isDigit = [] := by
  cases rest with
  | nil => rfl
  | cons c rest => rcases h c rfl with rfl | rfl | rfl <;> rfl

theorem EndsValue.readFraction {rest : List Char} (h : EndsValue rest) :
    readFraction rest = some (none, rest) := by
  cases rest with
  | nil => rfl
  | cons c rest => rcases h c rfl with rfl | rfl | rfl <;> rfl

theorem EndsValue.readExponent {rest : List Char} (h : EndsValue rest) :
    readExponent rest = some (none, rest) := by
  cases rest with
  | nil => rfl
  | cons c rest => rcases h c rfl with rfl | rfl | rfl <;> rfl

theorem le_foldl_digits (n : Nat) (ds : List Char) :
    n ≤ ds.foldl (fun n c => 10 * n + Decimal.digitValue c) n := by
  induction ds generalizing n with
  | nil => exact le_rfl
  | cons d ds ih =>
    rw [List.foldl_cons]
    have hrest := ih (10 * n + Decimal.digitValue d)
    omega

/-- Digits are all taken in as long as the number that they write fits. -/
theorem accumulate_eq {n : Nat} {ds : List Char}
    (h : ds.foldl (fun n c => 10 * n + Decimal.digitValue c) n < UInt64.size) :
    accumulate n ds = (ds.foldl (fun n c => 10 * n + Decimal.digitValue c) n, []) := by
  induction ds generalizing n with
  | nil => rfl
  | cons d ds ih =>
    rw [List.foldl_cons] at h ⊢
    have hnext := (le_foldl_digits (10 * n + Decimal.digitValue d) ds).trans_lt h
    simp only [accumulate, if_pos hnext, ih h]

theorem accumulate_digits {n : Nat} (h : n < UInt64.size) :
    accumulate 0 (Decimal.digits n) = (n, []) := by
  have hv : (Decimal.digits n).foldl (fun n c => 10 * n + Decimal.digitValue c) 0 = n :=
    Decimal.value_digits n
  rw [accumulate_eq (by rwa [hv]), hv]

theorem readUnsigned_digits {n : Nat} (negative : Bool) {rest : List Char} (h : EndsValue rest) :
    readUnsigned negative (Decimal.digits n ++ rest) =
      (number? negative (Decimal.digits n) none none).map fun v => (v, rest) := by
  obtain ⟨hwhole, hrest⟩ := Decimal.takeWhile_isDigit
    (fun c hc => Decimal.isDigit_of_mem_digits (n := n) hc) h.takeWhile_isDigit
  unfold readUnsigned
  rw [hwhole, hrest]
  dsimp only
  split
  next hnil => exact absurd hnil (Decimal.digits_ne_nil n)
  next d more hzero => exact absurd hzero (Decimal.digits_ne_zero_cons n d more)
  next =>
    rw [h.readFraction]
    simp only [Option.bind_eq_bind, Option.bind_some, h.readExponent]
    cases number? negative (Decimal.digits n) none none <;> rfl

theorem number?_digits {n : Nat} (h : n < UInt64.size) :
    number? false (Decimal.digits n) none none = some (.integer n) := by
  simp only [number?, accumulate_digits h]
  rfl

theorem number?_negative_digits {n : Nat} (hpos : 0 < n) (h : n ≤ Nat.pow 2 63) :
    number? true (Decimal.digits n) none none = some (.integer (-(n : Int))) := by
  have hsize : n < UInt64.size := h.trans_lt (by decide)
  simp only [number?, accumulate_digits hsize, Bool.not_true, Bool.false_eq_true, if_false,
    decide_eq_true hpos, decide_eq_true h, Bool.and_self, if_true]

/-! ## Values -/

theorem skipSpace_cons {c : Char} (h : isSpace c = false) (rest : List Char) :
    skipSpace (c :: rest) = c :: rest := by
  rw [skipSpace, List.dropWhile_cons_of_neg (by simp [h])]

theorem isSpace_of_isDigit {c : Char} (h : Decimal.isDigit c) : isSpace c = false := by
  by_contra hs
  simp only [isSpace, Bool.not_eq_false, Bool.or_eq_true, decide_eq_true_eq] at hs
  rcases hs with ((rfl | rfl) | rfl) | rfl <;> exact absurd h (by decide)

theorem readValue_digit {c : Char} (hc : Decimal.isDigit c) (levels : Nat) (rest : List Char) :
    readValue levels (c :: rest) = readUnsigned false (c :: rest) := by
  have hne : ∀ d, Decimal.isDigit d = false → ∀ more, c :: rest ≠ d :: more := by
    rintro d hd more h
    rw [(List.cons.inj h).1, hd] at hc
    cases hc
  rw [readValue, skipSpace_cons (isSpace_of_isDigit hc)]
  split
  case h_8 => rfl
  all_goals
    rename_i h
    exact absurd h (hne _ rfl _)

theorem readValue_intDigits (levels : Nat) (i : Int64) {rest : List Char} (h : EndsValue rest) :
    readValue levels (Decimal.intDigits i.toInt ++ rest) = some (.integer i.toInt, rest) := by
  have hlow := i.le_toInt
  have hhigh := i.toInt_lt
  -- A number without a sign has the range of unsigned ones, one with a sign has 2 ^ 63 as its end.
  cases hi : i.toInt with
  | ofNat n =>
    obtain ⟨d, ds, hd, hdigit⟩ := Decimal.digits_eq_cons n
    have hsize : n < UInt64.size := by
      rw [hi, Int.ofNat_eq_natCast] at hhigh
      simp only [UInt64.size]
      omega
    have hread := readUnsigned_digits false h (n := n)
    rw [number?_digits hsize] at hread
    rw [Decimal.intDigits, hd, List.cons_append, readValue_digit hdigit, ← List.cons_append, ← hd,
      hread]
    rfl
  | negSucc n =>
    have hsize : n + 1 ≤ Nat.pow 2 63 := by
      rw [hi] at hlow
      change n + 1 ≤ 9223372036854775808
      omega
    have hread := readUnsigned_digits true h (n := n + 1)
    rw [number?_negative_digits (Nat.succ_pos n) hsize] at hread
    rw [Decimal.intDigits, List.cons_append, readValue]
    exact hread

mutual

/-- A value as the tree that its text is read as. -/
def ofValue : Value → Json
  | .null => .null
  | .bool b => .bool b
  | .integer i => .integer i.toInt
  | .float x => .float x
  | .string s => .string s
  | .array items => .array (ofValues items)
  | .document entries => .object (ofEntries entries)

def ofValues : List Value → List Json
  | [] => []
  | v :: rest => ofValue v :: ofValues rest

def ofEntries : List (String × Value) → List (String × Json)
  | [] => []
  | (key, v) :: rest => (key, ofValue v) :: ofEntries rest

end

/-- Without doubles, the text of a value starts with a character that neither is blank nor ends an
array. -/
theorem compactText_eq_cons {v : Value} (h : v.isFloat = false) :
    ∃ c cs, compactText v = c :: cs ∧ isSpace c = false ∧ c ≠ ']' := by
  cases v with
  | null => exact ⟨_, _, rfl, rfl, by decide⟩
  | bool b => cases b <;> exact ⟨_, _, rfl, rfl, by decide⟩
  | integer i =>
    change ∃ c cs, Decimal.intDigits i.toInt = c :: cs ∧ _
    cases i.toInt with
    | ofNat n =>
      obtain ⟨d, ds, hd, hdigit⟩ := Decimal.digits_eq_cons n
      exact ⟨d, ds, hd, isSpace_of_isDigit hdigit, by rintro rfl; exact absurd hdigit (by decide)⟩
    | negSucc n => exact ⟨_, _, rfl, rfl, by decide⟩
  | float x => cases h
  | string s => exact ⟨_, _, rfl, rfl, by decide⟩
  | array items => exact ⟨_, _, rfl, rfl, by decide⟩
  | document entries => exact ⟨_, _, rfl, rfl, by decide⟩

theorem compactItems_cons (v : Value) (items : List Value) :
    compactItems (v :: items) =
      compactText v ++ if items.isEmpty then [']'] else ',' :: compactItems items := by
  cases items <;> rfl

theorem compactEntries_cons (key : String) (v : Value) (entries : List (String × Value)) :
    compactEntries ((key, v) :: entries) =
      quote key ++ ':' :: (compactText v ++
        if entries.isEmpty then ['}'] else ',' :: compactEntries entries) := by
  cases entries <;> rfl

theorem length_le_compactItems (items : List Value) :
    items.length ≤ (compactItems items).length := by
  induction items with
  | nil => exact Nat.zero_le _
  | cons v items ih =>
    rw [compactItems_cons]
    split
    · rename_i he
      rw [List.isEmpty_iff.1 he, List.length_append]
      simp
    · simp only [List.length_append, List.length_cons]
      omega

theorem length_le_compactEntries (entries : List (String × Value)) :
    entries.length ≤ (compactEntries entries).length := by
  induction entries with
  | nil => exact Nat.zero_le _
  | cons entry entries ih =>
    obtain ⟨key, v⟩ := entry
    rw [compactEntries_cons]
    simp only [List.length_append, List.length_cons]
    split
    · rename_i he
      rw [List.isEmpty_iff.1 he, List.length_nil]
      omega
    · simp only [List.length_cons]
      omega

section
variable {item : List Char → Option (Json × List Char)} {limit : Nat} {cs more rest : List Char}
  {v : Json}

theorem readItems_last (h : item cs = some (v, ']' :: rest)) :
    readItems item (limit + 1) cs = some ([v], rest) := by
  rw [readItems, h]
  rfl

theorem readItems_more {vs : List Json} (h : item cs = some (v, ',' :: more))
    (hmore : readItems item limit more = some (vs, rest)) :
    readItems item (limit + 1) cs = some (v :: vs, rest) := by
  rw [readItems, h]
  change (readItems item limit more).bind _ = _
  rw [hmore]
  rfl

theorem readEntries_last (limit : Nat) {key : List Char}
    (hkey : readString cs = some (key, ':' :: more)) (h : item more = some (v, '}' :: rest)) :
    readEntries item (limit + 1) ('"' :: cs) = some ([(String.ofList key, v)], rest) := by
  rw [readEntries, skipSpace_cons rfl]
  change (readString cs).bind _ = _
  rw [hkey]
  change (item more).bind _ = _
  rw [h]
  rfl

theorem readEntries_more {key others : List Char} {es : List (String × Json)}
    (hkey : readString cs = some (key, ':' :: more)) (h : item more = some (v, ',' :: others))
    (hmore : readEntries item limit others = some (es, rest)) :
    readEntries item (limit + 1) ('"' :: cs) = some ((String.ofList key, v) :: es, rest) := by
  rw [readEntries, skipSpace_cons rfl]
  change (readString cs).bind _ = _
  rw [hkey]
  change (item more).bind _ = _
  rw [h]
  change (readEntries item limit others).bind _ = _
  rw [hmore]
  rfl

end

/-- An array that is not empty is read item by item. -/
theorem readValue_array {levels : Nat} {cs rest : List Char} {vs : List Json}
    (hs : ∃ c more, cs = c :: more ∧ isSpace c = false ∧ c ≠ ']')
    (h : readItems (readValue levels) cs.length cs = some (vs, rest)) :
    readValue (levels + 1) ('[' :: cs) = some (.array vs, rest) := by
  obtain ⟨c, more, rfl, hc, hne⟩ := hs
  rw [readValue, skipSpace_cons rfl]
  split
  case h_6 hcs =>
    rw [← (List.cons.inj hcs).2]
    dsimp only
    rw [skipSpace_cons hc]
    split
    next hend => exact absurd (List.cons.inj hend).1 hne
    next => rw [h, Option.map_some]
  case h_8 hno _ => exact absurd rfl (hno (c :: more))
  all_goals
    rename_i hcs
    exact absurd (List.cons.inj hcs).1 (by decide)

/-- An object that is not empty is read entry by entry. -/
theorem readValue_object {levels : Nat} {cs rest : List Char} {es : List (String × Json)}
    (h : readEntries (readValue levels) (cs.length + 1) ('"' :: cs) = some (es, rest)) :
    readValue (levels + 1) ('{' :: '"' :: cs) = some (.object es, rest) := by
  rw [readValue, skipSpace_cons rfl]
  change (readEntries (readValue levels) (cs.length + 1) ('"' :: cs)).map _ = _
  rw [h, Option.map_some]

-- `levels` bounds how deep the reader goes and is given by the depth, `limit` bounds how many items
-- it reads in a row and is given by the length of the text.
mutual

theorem readValue_compactText {levels : Nat} {rest : List Char} (hend : EndsValue rest) :
    (v : Value) → (∀ u ∈ v.parts, u.isFloat = false) → v.depth ≤ levels →
      readValue levels (compactText v ++ rest) = some (ofValue v, rest)
  | .null, _, _ => by rw [readValue]; rfl
  | .bool true, _, _ => by rw [readValue]; rfl
  | .bool false, _, _ => by rw [readValue]; rfl
  | .integer i, _, _ => readValue_intDigits levels i hend
  | .float x, hf, _ => absurd (hf _ List.mem_cons_self) (by simp [Value.isFloat])
  | .string s, _, _ => by
    have hread := readString_flatMap_escapeChar s.toList rest
    have htext : compactText (.string s) = quote s := rfl
    rw [htext, quote_append, readValue, skipSpace_cons rfl]
    change (readString _).map _ = _
    rw [hread, Option.map_some]
    dsimp only
    rw [String.ofList_toList, ofValue]
  | .array [], _, hd => by
    obtain ⟨inner, rfl⟩ : ∃ inner, levels = inner + 1 := Nat.exists_eq_add_of_le' hd
    rw [readValue]
    rfl
  | .array (v :: items), hf, hd => by
    obtain ⟨inner, rfl⟩ : ∃ inner, levels = inner + 1 :=
      Nat.exists_eq_add_of_le' ((Nat.le_add_left 1 _).trans hd)
    have hitems := readItems_compactItems rest (v :: items) (List.cons_ne_nil v items)
      (fun u hu => hf u (List.mem_cons_of_mem _ hu)) (Nat.le_of_succ_le_succ hd)
      (compactItems (v :: items) ++ rest).length
      (by
        have hl := length_le_compactItems (v :: items)
        rw [List.length_append]
        omega)
    refine readValue_array ?_ hitems
    obtain ⟨c, cs, hc, hs, hne⟩ := compactText_eq_cons
      (hf v (List.mem_cons_of_mem _ (List.mem_append_left _ v.self_mem_parts)))
    rw [compactItems_cons, hc]
    exact ⟨c, _, rfl, hs, hne⟩
  | .document [], _, hd => by
    obtain ⟨inner, rfl⟩ : ∃ inner, levels = inner + 1 := Nat.exists_eq_add_of_le' hd
    rw [readValue]
    rfl
  | .document ((key, v) :: entries), hf, hd => by
    obtain ⟨inner, rfl⟩ : ∃ inner, levels = inner + 1 :=
      Nat.exists_eq_add_of_le' ((Nat.le_add_left 1 _).trans hd)
    have hentries := readEntries_compactEntries rest ((key, v) :: entries) (List.cons_ne_nil _ _)
      (fun u hu => hf u (List.mem_cons_of_mem _ hu)) (Nat.le_of_succ_le_succ hd)
      (compactEntries ((key, v) :: entries) ++ rest).length
      (by
        have hl := length_le_compactEntries ((key, v) :: entries)
        rw [List.length_append]
        omega)
    rw [compactText]
    rw [compactEntries_cons, quote] at hentries ⊢
    exact readValue_object hentries

theorem readItems_compactItems {levels : Nat} (rest : List Char) :
    (items : List Value) → items ≠ [] → (∀ u ∈ Value.partsOfItems items, u.isFloat = false) →
      Value.depthOfItems items ≤ levels → ∀ limit, items.length ≤ limit →
      readItems (readValue levels) limit (compactItems items ++ rest) =
        some (ofValues items, rest)
  | [], hne, _, _, _, _ => absurd rfl hne
  | [v], _, hf, hd, limit, hl => by
    obtain ⟨more, rfl⟩ : ∃ more, limit = more + 1 := Nat.exists_eq_add_of_le' hl
    have hv := readValue_compactText (EndsValue.cons (Or.inr (Or.inl rfl)) rest) v
      (fun u hu => hf u (List.mem_append_left _ hu)) ((Nat.le_max_left _ _).trans hd)
    rw [compactItems, List.append_assoc]
    exact readItems_last hv
  | v :: w :: items, _, hf, hd, limit, hl => by
    obtain ⟨more, rfl⟩ : ∃ more, limit = more + 1 :=
      Nat.exists_eq_add_of_le' ((Nat.le_add_left 1 _).trans hl)
    have hv := readValue_compactText
      (EndsValue.cons (Or.inl rfl) (compactItems (w :: items) ++ rest)) v
      (fun u hu => hf u (List.mem_append_left _ hu)) ((Nat.le_max_left _ _).trans hd)
    have hitems := readItems_compactItems rest (w :: items) (List.cons_ne_nil w items)
      (fun u hu => hf u (List.mem_append_right _ hu)) ((Nat.le_max_right _ _).trans hd) more
      (Nat.le_of_succ_le_succ hl)
    rw [compactItems, List.append_assoc]
    · exact readItems_more hv hitems
    · exact List.cons_ne_nil w items

theorem readEntries_compactEntries {levels : Nat} (rest : List Char) :
    (entries : List (String × Value)) → entries ≠ [] →
      (∀ u ∈ Value.partsOfEntries entries, u.isFloat = false) →
      Value.depthOfEntries entries ≤ levels → ∀ limit, entries.length ≤ limit →
      readEntries (readValue levels) limit (compactEntries entries ++ rest) =
        some (ofEntries entries, rest)
  | [], hne, _, _, _, _ => absurd rfl hne
  | [(key, v)], _, hf, hd, limit, hl => by
    obtain ⟨more, rfl⟩ : ∃ more, limit = more + 1 := Nat.exists_eq_add_of_le' hl
    have hv := readValue_compactText (EndsValue.cons (Or.inr (Or.inr rfl)) rest) v
      (fun u hu => hf u (List.mem_append_left _ hu)) ((Nat.le_max_left _ _).trans hd)
    have hkey := readString_flatMap_escapeChar key.toList (':' :: (compactText v ++ '}' :: rest))
    have hread := readEntries_last more hkey hv
    rw [String.ofList_toList] at hread
    rw [compactEntries, List.append_assoc, quote_append, List.cons_append, List.append_assoc]
    exact hread
  | (key, v) :: w :: entries, _, hf, hd, limit, hl => by
    obtain ⟨more, rfl⟩ : ∃ more, limit = more + 1 :=
      Nat.exists_eq_add_of_le' ((Nat.le_add_left 1 _).trans hl)
    have hv := readValue_compactText
      (EndsValue.cons (Or.inl rfl) (compactEntries (w :: entries) ++ rest)) v
      (fun u hu => hf u (List.mem_append_left _ hu)) ((Nat.le_max_left _ _).trans hd)
    have hkey := readString_flatMap_escapeChar key.toList
      (':' :: (compactText v ++ ',' :: (compactEntries (w :: entries) ++ rest)))
    have hentries := readEntries_compactEntries rest (w :: entries) (List.cons_ne_nil w entries)
      (fun u hu => hf u (List.mem_append_right _ hu)) ((Nat.le_max_right _ _).trans hd) more
      (Nat.le_of_succ_le_succ hl)
    have hread := readEntries_more hkey hv hentries
    rw [String.ofList_toList] at hread
    rw [compactEntries, List.append_assoc, quote_append, List.cons_append, List.append_assoc]
    · exact hread
    · exact List.cons_ne_nil w entries

end

mutual

theorem toValue_ofValue : (v : Value) → (∀ u ∈ v.parts, OrderedMap.DistinctKeys u.entries) →
    toValue (ofValue v) = v
  | .null, _ => rfl
  | .bool _, _ => rfl
  | .integer i, _ => by rw [ofValue, toValue, Value.int64?_toInt]
  | .float _, _ => rfl
  | .string _, _ => rfl
  | .array items, h => by
    rw [ofValue, toValue, toValues_ofValues items fun u hu => h u (List.mem_cons_of_mem _ hu)]
  | .document entries, h => by
    have hkeys : OrderedMap.DistinctKeys entries := h _ List.mem_cons_self
    rw [ofValue, toValue, toEntries_ofEntries entries fun u hu => h u (List.mem_cons_of_mem _ hu),
      OrderedMap.ofEntries_of_distinctKeys hkeys]

theorem toValues_ofValues : (items : List Value) →
    (∀ u ∈ Value.partsOfItems items, OrderedMap.DistinctKeys u.entries) →
      toValues (ofValues items) = items
  | [], _ => rfl
  | v :: rest, h => by
    rw [ofValues, toValues, toValue_ofValue v fun u hu => h u (List.mem_append_left _ hu),
      toValues_ofValues rest fun u hu => h u (List.mem_append_right _ hu)]

theorem toEntries_ofEntries : (entries : List (String × Value)) →
    (∀ u ∈ Value.partsOfEntries entries, OrderedMap.DistinctKeys u.entries) →
      toEntries (ofEntries entries) = entries
  | [], _ => rfl
  | (key, v) :: rest, h => by
    rw [ofEntries, toEntries, toValue_ofValue v fun u hu => h u (List.mem_append_left _ hu),
      toEntries_ofEntries rest fun u hu => h u (List.mem_append_right _ hu)]

end

/-- The compact text of a value without doubles, in which no document has a key twice and fewer
than 128 arrays and documents are open at once, is read as this value: with the same keys in the
same order, the same strings and the same integers at every depth. -/
theorem readValue?_compact (v : Value) (hf : ∀ u ∈ v.parts, u.isFloat = false)
    (hk : ∀ u ∈ v.parts, OrderedMap.DistinctKeys u.entries) (hd : v.depth < 128) :
    readValue? (compact v) = some v := by
  have hend : EndsValue [] := fun _ h => nomatch h
  have hread : readValue 127 (compactText v) = some (ofValue v, []) := by
    have h := readValue_compactText hend v hf (Nat.le_of_lt_succ hd)
    rwa [List.append_nil] at h
  have htree : read? (compact v) = some (ofValue v) := by
    rw [read?, compact, String.toList_ofList, hread]
    rfl
  rw [readValue?, htree, Option.map_some, toValue_ofValue v hk]

/-- Integers at both ends of their range, keys and strings that need escapes, nulls, and nothing. -/
theorem readValue?_compact_mixed :
    let v : Value := .document [
      ("a\"b\\", .array [.integer Int64.minValue, .integer Int64.maxValue]), ("", .document []),
      ("\n\u0001é", .array [.null, .bool true, .string "</\u007f😀", .array []])]
    (∀ u ∈ v.parts, u.isFloat = false) ∧ (∀ u ∈ v.parts, OrderedMap.DistinctKeys u.entries) ∧
      v.depth < 128 ∧ readValue? (compact v) = some v := by
  intro v
  have hf : ∀ u ∈ v.parts, u.isFloat = false := by decide
  have hk : ∀ u ∈ v.parts, OrderedMap.DistinctKeys u.entries := by
    unfold OrderedMap.DistinctKeys
    decide
  have hd : v.depth < 128 := by decide
  exact ⟨hf, hk, hd, readValue?_compact v hf hk hd⟩

end Json

end DocumentTemplates
