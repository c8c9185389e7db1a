import DocumentTemplates.Inflection
import Mathlib.Data.List.TakeWhile

/-!
# The letters of inflected names

A singular begins as the name does, and has no characters but those of the name and lowercase
letters. What is not empty stays so.
-/

namespace DocumentTemplates.Inflection

/-- True of a form that begins as the name does and adds only lowercase letters. -/
structure FormOf (name form : String) : Prop where
  head?_eq : form.toList.head? = name.toList.head?
  mem : ∀ c ∈ form.toList, c ∈ name.toList ∨ c.isLower

theorem FormOf.refl (name : String) : FormOf name name :=
  ⟨rfl, fun _ hc => Or.inl hc⟩

/-! ## Words -/

theorem dropFinalS_suffix (word : List Char) : dropFinalS word <:+ word := by
  unfold dropFinalS
  split
  · exact List.suffix_rfl
  · exact List.suffix_cons _ _
  · exact List.suffix_rfl

theorem getLast?_dropFinalS (word : List Char) : (dropFinalS word).getLast? = word.getLast? := by
  unfold dropFinalS
  split
  · rfl
  · rw [List.getLast?_cons_cons]
  · rfl

theorem getLast?_singularEnding (word : List Char) :
    (singularEnding word).getLast? = word.getLast? := by
  unfold singularEnding
  split
  · simp only [List.getLast?_cons_cons]
  · simp only [List.getLast?_cons_cons]
  · split_ifs with hes
    · cases ‹List Char› with
      | nil => cases hes
      | cons c stem => simp only [List.getLast?_cons_cons]
    · exact getLast?_dropFinalS _
  · exact getLast?_dropFinalS _

theorem mem_singularEnding {word : List Char} {c : Char} (h : c ∈ singularEnding word) :
    c ∈ word ∨ c.isLower := by
  unfold singularEnding at h
  split at h
  · rcases List.mem_cons.1 h with rfl | h
    · exact Or.inr rfl
    · exact Or.inl (by simp [h])
  · rcases List.mem_cons.1 h with rfl | h
    · exact Or.inr rfl
    rcases List.mem_cons.1 h with rfl | h
    · exact Or.inr rfl
    · exact Or.inl (by simp [h])
  · split_ifs at h with hes
    · exact Or.inl (by simp [h])
    · exact Or.inl ((dropFinalS_suffix _).mem h)
  · exact Or.inl ((dropFinalS_suffix _).mem h)

/-- The irregular words are written in lowercase letters, and their plurals begin as they do. -/
theorem formOf_of_mem_irregulars :
    ∀ entry ∈ irregulars, entry.1.toList.head? = entry.2.toList.head? ∧
      entry.1.toList.all Char.isLower := by
  decide

theorem formOf_singularizeWord (word : String) : FormOf word (singularizeWord word) := by
  unfold singularizeWord
  split
  · exact FormOf.refl word
  split
  · rename_i entry singular plural hfind
    obtain ⟨hhead, hlower⟩ := formOf_of_mem_irregulars _ (List.mem_of_find?_eq_some hfind)
    have hword : plural = word := by simpa using List.find?_some hfind
    exact ⟨hword ▸ hhead, fun c hc => Or.inr (List.all_eq_true.1 hlower c hc)⟩
  · split
    · exact FormOf.refl word
    constructor
    · rw [String.toList_ofList, List.head?_reverse, getLast?_singularEnding,
        List.getLast?_reverse]
    · intro c hc
      rw [String.toList_ofList, List.mem_reverse] at hc
      exact (mem_singularEnding hc).imp_left List.mem_reverse.1

/-! ## Names -/

/-- What stands in front of the last word of a name is kept. -/
theorem formOf_inflectLast {inflect : String → String} (h : ∀ word, FormOf word (inflect word))
    (name : String) : FormOf name (inflectLast inflect name) := by
  have hsplit : name.toList =
      (name.toList.reverse.dropWhile (· ≠ '_')).reverse ++
        (name.toList.reverse.takeWhile (· ≠ '_')).reverse := by
    rw [← List.reverse_append, List.takeWhile_append_dropWhile, List.reverse_reverse]
  unfold inflectLast
  dsimp only
  split_ifs with hlast
  · exact h name
  obtain ⟨hhead, hmem⟩ := h (String.ofList (name.toList.reverse.takeWhile (· ≠ '_')).reverse)
  rw [String.toList_ofList] at hhead hmem
  constructor
  · rw [String.toList_append, String.toList_ofList, List.head?_append, hhead, ← List.head?_append,
      ← hsplit]
  · intro c hc
    rw [String.toList_append, String.toList_ofList] at hc
    rw [hsplit, List.mem_append]
    rcases List.mem_append.1 hc with hc | hc
    · exact Or.inl (Or.inl hc)
    · exact (hmem c hc).imp_left Or.inr

theorem formOf_singularize (name : String) : FormOf name (singularize name) :=
  formOf_inflectLast formOf_singularizeWord name

end DocumentTemplates.Inflection
