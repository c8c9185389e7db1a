import DocumentTemplates.Proofs.Inflection
import DocumentTemplates.Proofs.Value.Parts
import DocumentTemplates.Proofs.Xml.Reading

/-!
# The structure of written values

What is read back from the text of a value is the tree of the value: a child for each entry, one
for each item, and the plain text of each scalar. No string that a value holds can change this.
-/

namespace DocumentTemplates.Xml

/-! ## The tree of a value -/

/-- Elements inside another. Without any, the element is empty. -/
def Content.ofElements : List Element → Content Element
  | [] => .empty
  | es => .children es

/-- The element for a value under a key: hyphens stand for the underscores of the key, and the
items of an array are under the singular of the key of the array. -/
inductive Mirrors : String → Value → Element → Prop
  | null (key : String) : Mirrors key .null (.mk (elementName key) [("nil", "true")] .empty)
  | bool (key : String) (b : Bool) (s : String) (hs : (Value.bool b).text? = some s) :
    Mirrors key (.bool b) (.mk (elementName key) [("type", "boolean")] (.text s))
  | integer (key : String) (i : Int64) (s : String) (hs : (Value.integer i).text? = some s) :
    Mirrors key (.integer i) (.mk (elementName key) [("type", "integer")] (.text s))
  | float (key : String) (x : Double) (s : String) (hs : (Value.float x).text? = some s) :
    Mirrors key (.float x) (.mk (elementName key) [("type", "float")] (.text s))
  | string (key s : String) : Mirrors key (.string s) (.mk (elementName key) [] (.text s))
  | array (key : String) (items : List Value) (es : List Element)
    (hes : List.Forall₂ (fun (entry : String × Value) e => Mirrors entry.1 entry.2 e)
      (items.map (Prod.mk (Inflection.singularize key))) es) :
    Mirrors key (.array items)
      (.mk (elementName key) [("type", "array")] (Content.ofElements es))
  | document (key : String) (entries : List (String × Value)) (es : List Element)
    (hes : List.Forall₂ (fun (entry : String × Value) e => Mirrors entry.1 entry.2 e)
      entries es) :
    Mirrors key (.document entries) (.mk (elementName key) [] (Content.ofElements es))

/-- The key and the value of the root element. -/
inductive IsRoot : Option String → Value → String → Value → Prop
  | given (name : String) (v : Value) : IsRoot (some name) v name v
  | onlyEntry (key : String) (v : Value) : IsRoot none (.document [(key, v)]) key v
  | array (items : List Value) : IsRoot none (.array items) "objects" (.array items)
  | other (v : Value) (harray : ∀ items, v ≠ .array items)
    (hentry : ∀ entry, v ≠ .document [entry]) : IsRoot none v "hash" v

mutual

theorem mirrors_ofValue (key : String) : (v : Value) → Mirrors key v (ofValue key v)
  | .null => .null key
  | .bool b => .bool key b _ rfl
  | .integer i => .integer key i _ rfl
  | .float x => .float key x _ rfl
  | .string s => .string key s
  | .array [] => .array key [] [] .nil
  | .array (v :: items) => .array key (v :: items) _ (mirrors_ofItems _ (v :: items))
  | .document [] => .document key [] [] .nil
  | .document (entry :: entries) =>
    .document key (entry :: entries) _ (mirrors_ofEntries (entry :: entries))

theorem mirrors_ofItems (key : String) : (items : List Value) →
    List.Forall₂ (fun (entry : String × Value) e => Mirrors entry.1 entry.2 e)
      (items.map (Prod.mk key)) (ofItems key items)
  | [] => .nil
  | v :: items => .cons (mirrors_ofValue key v) (mirrors_ofItems key items)

theorem mirrors_ofEntries : (entries : List (String × Value)) →
    List.Forall₂ (fun (entry : String × Value) e => Mirrors entry.1 entry.2 e)
      entries (ofEntries entries)
  | [] => .nil
  | (key, v) :: entries => .cons (mirrors_ofValue key v) (mirrors_ofEntries entries)

end

theorem exists_isRoot (rootName : Option String) (v : Value) :
    ∃ key inner, IsRoot rootName v key inner ∧ root rootName v = ofValue key inner := by
  unfold root
  split
  · exact ⟨_, _, .given _ _, rfl⟩
  · exact ⟨_, _, .onlyEntry _ _, rfl⟩
  · exact ⟨_, _, .array _, rfl⟩
  · rename_i hentry harray
    exact ⟨_, _, .other _ harray fun entry => hentry entry.1 entry.2, rfl⟩

/-! ## Names -/

theorem isNameChar_of_isLower {c : Char} (h : c.isLower) : isNameChar c := by
  have halphanum : c.isAlphanum = true := by
    change (c.isUpper || c.isLower || c.isDigit) = true
    rw [h, Bool.or_true, Bool.true_or]
  simp only [isNameChar, halphanum, Bool.true_or]

theorem IsName.formOf {name form : String} (h : IsName name)
    (hform : Inflection.FormOf name form) : IsName form := by
  refine ⟨fun hnil => h.1 ?_, fun c hc => ?_⟩
  · rw [← List.head?_eq_none_iff, ← hform.head?_eq, hnil, List.head?_nil]
  · exact (hform.mem c hc).elim (h.2 c) isNameChar_of_isLower

theorem IsName.elementName {key : String} (h : IsName key) : IsName (elementName key) := by
  rw [IsName, Xml.elementName, String.toList_ofList]
  refine ⟨by simpa using h.1, fun c hc => ?_⟩
  obtain ⟨d, hd, rfl⟩ := List.mem_map.1 hc
  split
  · rfl
  · exact h.2 d hd

theorem isName_of_mem_attributesOf (v : Value) : ∀ a ∈ attributesOf v, IsName a.1 := by
  have hnil : IsName "nil" := by decide
  have htype : IsName "type" := by decide
  cases v <;> simp [attributesOf, hnil, htype]

mutual

theorem readable_ofValue {key : String} (hkey : IsName key) (v : Value)
    (hv : ∀ k ∈ v.nestedKeys, IsName k) : (ofValue key v).Readable := by
  have hname := hkey.elementName
  match v, hv with
  | .null, _ => exact ⟨hname, isName_of_mem_attributesOf .null⟩
  | .bool b, _ => exact ⟨hname, isName_of_mem_attributesOf (.bool b)⟩
  | .integer i, _ => exact ⟨hname, isName_of_mem_attributesOf (.integer i)⟩
  | .float x, _ => exact ⟨hname, isName_of_mem_attributesOf (.float x)⟩
  | .string s, _ => exact ⟨hname, isName_of_mem_attributesOf (.string s)⟩
  | .array [], _ => exact ⟨hname, isName_of_mem_attributesOf (.array [])⟩
  | .array (v :: items), hv =>
    have hitems := readable_ofItems (hkey.formOf (Inflection.formOf_singularize key)) (v :: items)
      (Value.forall_nestedKeys_array.1 hv)
    exact ⟨⟨hname, isName_of_mem_attributesOf (.array [])⟩, List.cons_ne_nil _ _, hitems⟩
  | .document [], _ => exact ⟨hname, isName_of_mem_attributesOf (.document [])⟩
  | .document (entry :: entries), hv =>
    have hentries := readable_ofEntries (entry :: entries)
      (Value.forall_nestedKeys_document.1 hv)
    exact ⟨⟨hname, isName_of_mem_attributesOf (.document [])⟩, List.cons_ne_nil _ _, hentries⟩

theorem readable_ofItems {key : String} (hkey : IsName key) (items : List Value)
    (hitems : ∀ v ∈ items, ∀ k ∈ v.nestedKeys, IsName k) :
    Element.AllReadable (ofItems key items) := by
  match items, hitems with
  | [], _ => trivial
  | v :: items, hitems =>
    exact ⟨readable_ofValue hkey v (hitems v List.mem_cons_self),
      readable_ofItems hkey items fun u hu => hitems u (List.mem_cons_of_mem v hu)⟩

theorem readable_ofEntries (entries : List (String × Value))
    (hentries : ∀ entry ∈ entries, IsName entry.1 ∧ ∀ k ∈ entry.2.nestedKeys, IsName k) :
    Element.AllReadable (ofEntries entries) := by
  match entries, hentries with
  | [], _ => trivial
  | (key, v) :: entries, hentries =>
    obtain ⟨hkey, hv⟩ := hentries _ List.mem_cons_self
    exact ⟨readable_ofValue hkey v hv,
      readable_ofEntries entries fun e he => hentries e (List.mem_cons_of_mem _ he)⟩

end

theorem readable_root {rootName : Option String} {v : Value}
    (hroot : ∀ name ∈ rootName, IsName name) (hkeys : ∀ key ∈ v.nestedKeys, IsName key) :
    (root rootName v).Readable := by
  unfold root
  split
  · exact readable_ofValue (hroot _ rfl) _ hkeys
  · obtain ⟨hkey, hv⟩ := Value.forall_nestedKeys_document.1 hkeys _ List.mem_cons_self
    exact readable_ofValue hkey _ hv
  · exact readable_ofValue (by decide) _ hkeys
  · exact readable_ofValue (by decide) _ hkeys

/-- Where all keys can be read as names, the text of a value holds one element behind the
declaration, and this is the tree of the value under its root key. -/
theorem readDocument?_write (indented : Bool) (rootName : Option String) (v : Value)
    (hroot : ∀ name ∈ rootName, IsName name) (hkeys : ∀ key ∈ v.nestedKeys, IsName key) :
    ∃ key inner e, IsRoot rootName v key inner ∧
      readDocument? (write indented rootName v) = some e ∧ Mirrors key inner e := by
  obtain ⟨key, inner, hisRoot, heq⟩ := exists_isRoot rootName v
  have hread := readDocument?_root indented (readable_root hroot hkeys)
  rw [heq] at hread
  refine ⟨key, inner, ofValue key inner, hisRoot, ?_, mirrors_ofValue key inner⟩
  rw [write, heq]
  exact hread

/-- Strings that look like markup, arrays in an array, and empty ones. -/
theorem readDocument?_write_markup :
    let v : Value := .document [("first_names", .array [.string "</first-name><x a='1'/>&lt;",
      .array [.string "", .array [], .null]]), ("_.x", .document []), ("n", .integer (-1))]
    (∀ name ∈ some "all-of_them", IsName name) ∧ (∀ key ∈ v.nestedKeys, IsName key) ∧
      ∃ key inner e, IsRoot (some "all-of_them") v key inner ∧
        readDocument? (write false (some "all-of_them") v) = some e ∧ Mirrors key inner e := by
  intro v
  have hroot : ∀ name ∈ some "all-of_them", IsName name := by
    rintro _ ⟨⟩
    decide
  have hkeys : ∀ key ∈ v.nestedKeys, IsName key := by decide
  exact ⟨hroot, hkeys, readDocument?_write false (some "all-of_them") v hroot hkeys⟩

end DocumentTemplates.Xml
