import DocumentTemplates.Proofs.Xml.Structure

/-!
# Element names

Names of XML start with a letter or an underscore. Every element is named after a key, with
hyphens for underscores and in the singular as often as arrays are nested in arrays. So from legal
keys a name that is not legal arises exactly where a key starts with an underscore.
-/

namespace DocumentTemplates.Xml

/-- True of the ASCII names that XML allows for an element. -/
def isLegalName (s : String) : Bool :=
  (s.toList.head?.any fun c => c.isAlpha || c = '_') && s.toList.all isNameChar

/-- No underscore comes first. -/
def StartsPlain (key : String) : Prop :=
  key.toList.head? ≠ some '_'

instance : DecidablePred StartsPlain :=
  fun key => inferInstanceAs (Decidable (key.toList.head? ≠ some '_'))

mutual

/-- The names of an element and of the elements in it. -/
def Element.names : Element → List String
  | .mk name _ (.children es) => name :: Element.namesOfAll es
  | .mk name _ _ => [name]

def Element.namesOfAll : List Element → List String
  | [] => []
  | e :: es => e.names ++ Element.namesOfAll es

end

/-! ## Names of keys -/

theorem isName_of_isLegalName {s : String} (h : isLegalName s) : IsName s := by
  rw [isLegalName, Bool.and_eq_true, List.all_eq_true] at h
  refine ⟨fun hnil => ?_, h.2⟩
  rw [hnil] at h
  exact absurd h.1 Bool.false_ne_true

theorem isLegalName_singularize {key : String} (h : isLegalName key) :
    isLegalName (Inflection.singularize key) := by
  have hform := Inflection.formOf_singularize key
  have hname := (isName_of_isLegalName h).formOf hform
  rw [isLegalName, Bool.and_eq_true] at h ⊢
  rw [hform.head?_eq]
  exact ⟨h.1, List.all_eq_true.2 hname.2⟩

theorem startsPlain_singularize (key : String) :
    StartsPlain (Inflection.singularize key) ↔ StartsPlain key := by
  rw [StartsPlain, (Inflection.formOf_singularize key).head?_eq, StartsPlain]

/-- A hyphen in front is the one thing that makes the name of a legal key illegal. -/
theorem isLegalName_elementName {key : String} (h : isLegalName key) :
    isLegalName (elementName key) ↔ StartsPlain key := by
  have hname := (isName_of_isLegalName h).elementName
  obtain ⟨c, cs, hcs⟩ := List.exists_cons_of_ne_nil (isName_of_isLegalName h).1
  have hfirst : c.isAlpha ∨ c = '_' := by
    rw [isLegalName, Bool.and_eq_true, hcs] at h
    simpa using h.1
  have hhead : (elementName key).toList.head? = some (if c = '_' then '-' else c) := by
    rw [elementName, String.toList_ofList, hcs, List.map_cons, List.head?_cons]
  rw [isLegalName, Bool.and_eq_true, hhead, StartsPlain, hcs, List.head?_cons]
  by_cases hc : c = '_'
  · simp [hc]
  · simp [hc, hfirst.resolve_right hc, List.all_eq_true.2 hname.2]

/-! ## Names of a tree -/

/-- An element without others in it has the one name of its key. -/
theorem legalNames_leaf {key : String} (hkey : isLegalName key) {e : Element}
    (he : e.names = [elementName key]) {v : Value} (hv : v.nestedKeys = []) :
    (∀ name ∈ e.names, isLegalName name) ↔
      StartsPlain key ∧ ∀ k ∈ v.nestedKeys, StartsPlain k := by
  rw [he, List.forall_mem_singleton, isLegalName_elementName hkey, hv]
  exact (and_iff_left fun _ h => nomatch h).symm

mutual

theorem legalNames_ofValue {key : String} (hkey : isLegalName key) (v : Value)
    (hv : ∀ k ∈ v.nestedKeys, isLegalName k) :
    (∀ name ∈ (ofValue key v).names, isLegalName name) ↔
      StartsPlain key ∧ ∀ k ∈ v.nestedKeys, StartsPlain k := by
  match v, hv with
  | .null, _ => exact legalNames_leaf hkey rfl rfl
  | .bool _, _ => exact legalNames_leaf hkey rfl rfl
  | .integer _, _ => exact legalNames_leaf hkey rfl rfl
  | .float _, _ => exact legalNames_leaf hkey rfl rfl
  | .string _, _ => exact legalNames_leaf hkey rfl rfl
  | .array [], _ => exact legalNames_leaf hkey rfl rfl
  | .document [], _ => exact legalNames_leaf hkey rfl rfl
  | .array (v :: items), hv =>
    have hitems := legalNames_ofItems (isLegalName_singularize hkey) (v :: items)
      (Value.forall_nestedKeys_array.1 hv)
    change (∀ name ∈ elementName key ::
      Element.namesOfAll (ofItems (Inflection.singularize key) (v :: items)), isLegalName name) ↔ _
    -- The singular starts as the key does, so the names of the items ask for nothing new.
    rw [List.forall_mem_cons, isLegalName_elementName hkey, hitems, startsPlain_singularize,
      Value.forall_nestedKeys_array]
    exact and_congr_right fun hplain => forall₂_congr fun _ _ => and_iff_right hplain
  | .document (entry :: entries), hv =>
    have hentries := legalNames_ofEntries (entry :: entries)
      (Value.forall_nestedKeys_document.1 hv)
    change (∀ name ∈ elementName key :: Element.namesOfAll (ofEntries (entry :: entries)),
      isLegalName name) ↔ _
    rw [List.forall_mem_cons, isLegalName_elementName hkey, hentries,
      Value.forall_nestedKeys_document]

theorem legalNames_ofItems {key : String} (hkey : isLegalName key) (items : List Value)
    (hitems : ∀ v ∈ items, ∀ k ∈ v.nestedKeys, isLegalName k) :
    (∀ name ∈ Element.namesOfAll (ofItems key items), isLegalName name) ↔
      ∀ v ∈ items, StartsPlain key ∧ ∀ k ∈ v.nestedKeys, StartsPlain k := by
  match items, hitems with
  | [], _ => exact iff_of_true (fun _ h => nomatch h) fun _ h => nomatch h
  | v :: items, hitems =>
    rw [ofItems, Element.namesOfAll, List.forall_mem_append, List.forall_mem_cons,
      legalNames_ofValue hkey v (hitems v List.mem_cons_self),
      legalNames_ofItems hkey items fun u hu => hitems u (List.mem_cons_of_mem v hu)]

theorem legalNames_ofEntries (entries : List (String × Value))
    (hentries : ∀ entry ∈ entries, isLegalName entry.1 ∧
      ∀ k ∈ entry.2.nestedKeys, isLegalName k) :
    (∀ name ∈ Element.namesOfAll (ofEntries entries), isLegalName name) ↔
      ∀ entry ∈ entries, StartsPlain entry.1 ∧ ∀ k ∈ entry.2.nestedKeys, StartsPlain k := by
  match entries, hentries with
  | [], _ => exact iff_of_true (fun _ h => nomatch h) fun _ h => nomatch h
  | (key, v) :: entries, hentries =>
    obtain ⟨hkey, hv⟩ := hentries _ List.mem_cons_self
    rw [ofEntries, Element.namesOfAll, List.forall_mem_append, List.forall_mem_cons,
      legalNames_ofValue hkey v hv,
      legalNames_ofEntries entries fun e he => hentries e (List.mem_cons_of_mem _ he)]

end

theorem legalNames_root {rootName : Option String} {v : Value}
    (hroot : ∀ name ∈ rootName, isLegalName name) (hkeys : ∀ key ∈ v.nestedKeys, isLegalName key) :
    (∀ name ∈ (root rootName v).names, isLegalName name) ↔
      (∀ name ∈ rootName, StartsPlain name) ∧ ∀ key ∈ v.nestedKeys, StartsPlain key := by
  have hnone : ∀ name ∈ (none : Option String), StartsPlain name := fun _ h => nomatch h
  unfold root
  split
  · rw [legalNames_ofValue (hroot _ rfl) _ hkeys]
    simp only [Option.mem_some_iff, forall_eq']
  · obtain ⟨hkey, hv⟩ := Value.forall_nestedKeys_document.1 hkeys _ List.mem_cons_self
    rw [legalNames_ofValue hkey _ hv, Value.forall_nestedKeys_document, List.forall_mem_singleton]
    exact (and_iff_right hnone).symm
  · rw [legalNames_ofValue (by decide) _ hkeys]
    exact and_congr_left fun _ => iff_of_true (by decide) hnone
  · rw [legalNames_ofValue (by decide) _ hkeys]
    exact and_congr_left fun _ => iff_of_true (by decide) hnone

/-- Where all keys are legal names, the names of the elements in the text of a value are legal
exactly if neither the name given to the root nor a key starts with an underscore. -/
theorem legalNames_write (indented : Bool) (rootName : Option String) (v : Value)
    (hroot : ∀ name ∈ rootName, isLegalName name) (hkeys : ∀ key ∈ v.nestedKeys, isLegalName key) :
    ∃ e, readDocument? (write indented rootName v) = some e ∧
      ((∀ name ∈ e.names, isLegalName name) ↔
        (∀ name ∈ rootName, StartsPlain name) ∧ ∀ key ∈ v.nestedKeys, StartsPlain key) :=
  ⟨root rootName v,
    readDocument?_root indented (readable_root (fun name h => isName_of_isLegalName (hroot name h))
      fun key h => isName_of_isLegalName (hkeys key h)),
    legalNames_root hroot hkeys⟩

/-- Two words of which only the last has a singular, and a document among arrays in an array. -/
theorem legalNames_write_nested :
    let v : Value := .document [("blog_Xs", .array [.array [.null], .document [("a._-", .null)]])]
    (∀ name ∈ some "wo_men", isLegalName name) ∧ (∀ key ∈ v.nestedKeys, isLegalName key) ∧
      ∃ e, readDocument? (write false (some "wo_men") v) = some e ∧
        ((∀ name ∈ e.names, isLegalName name) ↔
          (∀ name ∈ some "wo_men", StartsPlain name) ∧ ∀ key ∈ v.nestedKeys, StartsPlain key) := by
  intro v
  have hroot : ∀ name ∈ some "wo_men", isLegalName name := by
    rintro _ ⟨⟩
    decide
  have hkeys : ∀ key ∈ v.nestedKeys, isLegalName key := by decide
  exact ⟨hroot, hkeys, legalNames_write false (some "wo_men") v hroot hkeys⟩

/-- The key `_id` is a legal name, and its element is named `-id`. -/
theorem not_legalNames_write_underscore :
    let v : Value := .document [("_id", .integer 1)]
    (∀ key ∈ v.nestedKeys, isLegalName key) ∧
      ∃ e, readDocument? (write false none v) = some e ∧ e.names = ["-id"] ∧
        isLegalName "-id" = false := by
  intro v
  have hkeys : ∀ key ∈ v.nestedKeys, isLegalName key := by decide
  refine ⟨hkeys, root none v, readDocument?_root false ?_, by decide, by decide⟩
  exact readable_root (fun _ h => nomatch h) fun key h => isName_of_isLegalName (hkeys key h)

end DocumentTemplates.Xml
