import DocumentTemplates.Proofs.Inflection

/-!
# Singulars of plurals

The singular of a word's plural need not be the word. Different endings have plurals that end alike:
`buses` is written like `houses`, and is read as the plural of `buse`. And the plural that the rules
make of a word may be a listed word by accident, as `news` is for `new`. Every other word is brought
back, and whether a word is can be seen from the word alone.
-/

namespace DocumentTemplates.Inflection

/-! ## Endings -/

/-- The endings, last character first, that the rules bring back from the plural. They lose a single
s. Of the words in e they lose those in che, she, xe, ze and sse, those in ie and ve that have a letter
in front of it, and `fe` alone. -/
def recoversEnding : List Char → Bool
  | 's' :: rest => rest.head? = some 's'
  | ['e', 'f'] => false
  | 'e' :: 'i' :: _ :: _ => false
  | 'e' :: 'v' :: _ :: _ => false
  | 'e' :: stem => !takesEs stem
  | _ => true

theorem dropFinalS_s {c : Char} (hc : c ≠ 's') (rest : List Char) :
    dropFinalS ('s' :: c :: rest) = c :: rest := by
  rw [dropFinalS]
  exact hc

theorem singularEnding_s {c : Char} (hs : c ≠ 's') (he : c ≠ 'e') (rest : List Char) :
    singularEnding ('s' :: c :: rest) = c :: rest := by
  rw [singularEnding, dropFinalS_s hs] <;> simp [he]

theorem singularEnding_es {stem : List Char} (hi : ∀ c rest, stem ≠ 'i' :: c :: rest)
    (hv : ∀ c rest, stem ≠ 'v' :: c :: rest) :
    singularEnding ('s' :: 'e' :: stem) = if takesEs stem then stem else 'e' :: stem := by
  rw [singularEnding, dropFinalS_s (by decide)]
  · exact hi
  · exact hv

theorem takesEs_s (rest : List Char) : takesEs ('s' :: rest) = (rest.head? = some 's') := by
  cases rest with
  | nil => simp [takesEs]
  | cons c rest =>
    by_cases hc : c = 's'
    · subst hc
      simp [takesEs]
    · rw [takesEs] <;> simp [hc]

theorem singularEnding_pluralEnding_iff (word : List Char) :
    singularEnding (pluralEnding word) = word ↔ recoversEnding word = true := by
  fun_cases pluralEnding word with
  | case1 c rest =>
    rw [singularEnding_s (by decide) (by decide)]
    exact iff_of_true rfl rfl
  | case2 c rest => exact iff_of_true rfl rfl
  | case3 rest =>
    cases rest with
    | nil => decide
    | cons c rest => exact iff_of_true rfl rfl
  | case4 rest => exact iff_of_true rfl rfl
  | case5 rest => exact iff_of_true rfl rfl
  | case6 c rest _ _ _ _ hc =>
    have hs : c = 's' ∨ c = 'x' ∨ c = 'z' := by simpa [or_assoc] using hc
    rw [singularEnding_es (by grind) (by grind)]
    rcases hs with rfl | rfl | rfl
    · simp [takesEs_s, recoversEnding]
    · exact iff_of_true rfl rfl
    · exact iff_of_true rfl rfl
  | case7 c rest _ hfe _ _ hc =>
    have hs : c ≠ 's' := by grind
    by_cases he : c = 'e'
    · subst he
      -- only an s was put behind the e, but the two may be taken for the ending of a plural in es
      by_cases hi : ∃ d more, rest = 'i' :: d :: more
      · obtain ⟨d, more, rfl⟩ := hi
        simp [singularEnding, recoversEnding]
      by_cases hv : ∃ d more, rest = 'v' :: d :: more
      · obtain ⟨d, more, rfl⟩ := hv
        simp [singularEnding, recoversEnding]
      have hi' : ∀ d more, rest ≠ 'i' :: d :: more := fun d more h => hi ⟨d, more, h⟩
      have hv' : ∀ d more, rest ≠ 'v' :: d :: more := fun d more h => hv ⟨d, more, h⟩
      have hf : rest ≠ ['f'] := fun h => hfe [] rfl h
      rw [singularEnding_es hi' hv', recoversEnding.eq_5 rest hf hi' hv']
      cases takesEs rest <;> simp
    · have hkept : recoversEnding (c :: rest) = true := by
        rw [recoversEnding] <;> grind
      exact iff_of_true (singularEnding_s hs he rest) hkept
  | case8 => decide

/-! ## Words -/

/-- The words that the tables know, in singular and plural. -/
def listed : List String :=
  uncountables ++ irregulars.map Prod.fst ++ irregulars.map Prod.snd

theorem mem_listed {word : String} :
    word ∈ listed ↔ word ∈ uncountables ∨ word ∈ irregulars.map Prod.fst ∨
      word ∈ irregulars.map Prod.snd := by
  rw [listed, List.mem_append, List.mem_append, or_assoc]

/-- The forms of a word that the tables do not know follow its ending. -/
theorem words_of_not_listed {word : String} (h : word ∉ listed) :
    pluralizeWord word = String.ofList (pluralEnding word.toList.reverse).reverse ∧
      singularizeWord word = String.ofList (singularEnding word.toList.reverse).reverse := by
  simp only [mem_listed, not_or] at h
  obtain ⟨huncountable, hsingular, hplural⟩ := h
  have hfind {p : String × String → Bool} (hp : ∀ entry ∈ irregulars, p entry = false) :
      irregulars.find? p = none ∧ irregulars.any p = false := by
    refine ⟨List.find?_eq_none.2 fun entry he => ?_, List.any_eq_false.2 fun entry he => ?_⟩ <;>
      simp [hp entry he]
  have hs := hfind (p := (·.1 = word)) fun entry he =>
    decide_eq_false fun h => hsingular (h ▸ List.mem_map_of_mem he)
  have hp := hfind (p := (·.2 = word)) fun entry he =>
    decide_eq_false fun h => hplural (h ▸ List.mem_map_of_mem he)
  simp [pluralizeWord, singularizeWord, huncountable, hs, hp]

/-- Words that are not listed, but whose plural by the rules is. -/
def lookalikes : List String :=
  ["analyse", "analysi", "indice", "matrice", "new", "quizz", "sery", "specy", "vertice"]

/-- The words that the singular brings back from the plural. -/
def Recoverable (word : String) : Prop :=
  word ∈ uncountables ∨ word ∈ irregulars.map Prod.fst ∨
    (word ∉ irregulars.map Prod.snd ∧ word ∉ lookalikes ∧
      recoversEnding word.toList.reverse = true)

instance (word : String) : Decidable (Recoverable word) :=
  inferInstanceAs (Decidable (_ ∨ _ ∨ _))

theorem listed_recoverable :
    ∀ word ∈ listed, (singularizeWord (pluralizeWord word) = word ↔ Recoverable word) := by
  decide +kernel

theorem singularizeWord_listed : ∀ word ∈ listed, singularizeWord word ∈ listed := by
  decide +kernel

theorem pluralizeWord_lookalikes : ∀ word ∈ lookalikes, pluralizeWord word ∈ listed := by
  decide +kernel

theorem lookalikes_complete : ∀ word ∈ listed,
    let stem := String.ofList (singularEnding word.toList.reverse).reverse
    pluralizeWord stem = word → stem ∈ listed ∨ stem ∈ lookalikes := by
  decide +kernel

theorem singularizeWord_pluralizeWord_iff (word : String) :
    singularizeWord (pluralizeWord word) = word ↔ Recoverable word := by
  by_cases hlisted : word ∈ listed
  · exact listed_recoverable word hlisted
  have hplural := (words_of_not_listed hlisted).1
  have hending : (pluralizeWord word).toList.reverse = pluralEnding word.toList.reverse := by
    rw [hplural, String.toList_ofList, List.reverse_reverse]
  have hunlisted := hlisted
  simp only [mem_listed, not_or] at hunlisted
  have hrecoverable : Recoverable word ↔
      word ∉ lookalikes ∧ recoversEnding word.toList.reverse = true := by
    simp [Recoverable, hunlisted]
  rw [hrecoverable]
  by_cases hknown : pluralizeWord word ∈ listed
  · refine iff_of_false (fun h => hlisted (h ▸ singularizeWord_listed _ hknown)) ?_
    rintro ⟨hlook, hback⟩
    have hstem : String.ofList (singularEnding (pluralizeWord word).toList.reverse).reverse =
        word := by
      rw [hending, (singularEnding_pluralEnding_iff _).2 hback, List.reverse_reverse,
        String.ofList_toList]
    have hcomplete := lookalikes_complete _ hknown
    rw [hstem] at hcomplete
    exact (hcomplete rfl).elim hlisted hlook
  · have hlook : word ∉ lookalikes := fun h => hknown (pluralizeWord_lookalikes word h)
    rw [(words_of_not_listed hknown).2, hending, ← singularEnding_pluralEnding_iff]
    constructor
    · intro h
      have hletters := congrArg (fun form => form.toList.reverse) h
      simp only [String.toList_ofList, List.reverse_reverse] at hletters
      exact ⟨hlook, hletters⟩
    · rintro ⟨-, h⟩
      rw [h, List.reverse_reverse, String.ofList_toList]

/-! ## Names -/

theorem inflectLast_of_not_mem (inflect : String → String) {name : String}
    (h : '_' ∉ name.toList) : inflectLast inflect name = inflect name := by
  have hall : ∀ c ∈ name.toList.reverse, decide (c ≠ '_') = true := by
    intro c hc
    refine decide_eq_true ?_
    rintro rfl
    exact h (List.mem_reverse.1 hc)
  unfold inflectLast
  simp only [List.takeWhile_eq_self_iff.2 hall, List.dropWhile_eq_nil_iff.2 hall]
  split
  · rfl
  · rw [List.reverse_nil, String.ofList_nil, String.empty_append, List.reverse_reverse,
      String.ofList_toList]

theorem mem_pluralEnding {c : Char} (word : List Char) :
    c ∈ pluralEnding word → c ∈ word ∨ c ∈ ['s', 'e', 'i', 'v'] := by
  fun_cases pluralEnding word <;> grind

theorem underscore_not_mem_pluralizeWord {word : String} (h : '_' ∉ word.toList) :
    '_' ∉ (pluralizeWord word).toList := by
  have htable : ∀ entry ∈ irregulars, '_' ∉ entry.2.toList := by decide
  unfold pluralizeWord
  split
  · exact h
  split
  · rename_i singular plural hfind
    exact htable _ (List.mem_of_find?_eq_some hfind)
  · split
    · exact h
    · rw [String.toList_ofList, List.mem_reverse]
      intro hmem
      rcases mem_pluralEnding _ hmem with hmem | hmem
      · exact h (List.mem_reverse.1 hmem)
      · exact absurd hmem (by decide)

/-- The singular of a name's plural is the name if and only if the name is one of the recoverable
words. -/
theorem singularize_pluralize_iff {name : String} (h : '_' ∉ name.toList) :
    singularize (pluralize name) = name ↔ Recoverable name := by
  have hplural : pluralize name = pluralizeWord name := inflectLast_of_not_mem _ h
  have hsingular : singularize (pluralizeWord name) = singularizeWord (pluralizeWord name) :=
    inflectLast_of_not_mem _ (underscore_not_mem_pluralizeWord h)
  rw [hplural, hsingular, singularizeWord_pluralizeWord_iff]

end DocumentTemplates.Inflection
