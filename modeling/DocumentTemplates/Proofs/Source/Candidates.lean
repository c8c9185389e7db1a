import DocumentTemplates.Source
import DocumentTemplates.Proofs.Path
import Mathlib.Data.List.Destutter
import Mathlib.Data.List.Nodup

/-!
# The places of a name

A name is looked for first under its full spelling in every directory and then under its partial
spelling, and a place that follows itself is looked at once. Places that repeat at a distance stay.
They do so in two ways: a name that is its own partial form gives every place twice, and directories
that differ may be seen as one by a name that begins with a point. In all other cases each place is
looked at once, and a failed search names all of them.
-/

namespace DocumentTemplates

/-- No two of the paths are the same path. -/
def Path.Distinct (paths : List String) : Prop :=
  paths.Pairwise fun a b => Path.same a b = false

instance : DecidablePred Path.Distinct :=
  fun paths => inferInstanceAs (Decidable (paths.Pairwise fun a b => Path.same a b = false))

theorem Path.distinct_iff_nodup {paths : List String} :
    Path.Distinct paths ↔ (paths.map Path.place).Nodup := by
  simp only [Path.Distinct, Path.same_eq_false_iff, List.Nodup, List.pairwise_map]

namespace Source

/-! ## Lists without neighbours that repeat -/

section Destutter

variable {α : Type}

theorem destutter'_eq_cons (R : α → α → Prop) [DecidableRel R] (a : α) (l : List α) :
    ∃ rest, l.destutter' R a = a :: rest ∧ rest.Sublist l := by
  induction l with
  | nil => exact ⟨[], rfl, .slnil⟩
  | cons b l ih =>
    by_cases hab : R a b
    · exact ⟨l.destutter' R b, List.destutter'_cons_pos l hab, l.destutter'_sublist R b⟩
    · obtain ⟨rest, hl, hsublist⟩ := ih
      exact ⟨rest, (List.destutter'_cons_neg l hab).trans hl, hsublist.cons b⟩

/-- What is kept of an appended list depends on the last element kept in front of it. -/
theorem destutter'_append (R : α → α → Prop) [DecidableRel R] (a : α) (l : List α) :
    ∃ kept last, l.destutter' R a = kept ++ [last] ∧
      ∀ m, (l ++ m).destutter' R a = kept ++ m.destutter' R last := by
  induction l generalizing a with
  | nil => exact ⟨[], a, rfl, fun m => rfl⟩
  | cons b l ih =>
    by_cases hab : R a b
    · obtain ⟨kept, last, hl, hm⟩ := ih b
      refine ⟨a :: kept, last, ?_, fun m => ?_⟩
      · rw [List.destutter'_cons_pos l hab, hl, List.cons_append]
      · rw [List.cons_append, List.destutter'_cons_pos _ hab, hm m, List.cons_append]
    · obtain ⟨kept, last, hl, hm⟩ := ih a
      refine ⟨kept, last, ?_, fun m => ?_⟩
      · rw [List.destutter'_cons_neg l hab, hl]
      · rw [List.cons_append, List.destutter'_cons_neg _ hab, hm m]

variable [DecidableEq α] {a b : α} {l m : List α}

theorem mem_destutter'_ne : b ∈ l.destutter' (· ≠ ·) a ↔ b ∈ a :: l := by
  refine ⟨fun h => (l.destutter'_sublist _ a).subset h, fun h => ?_⟩
  induction l generalizing a with
  | nil => exact h
  | cons c l ih =>
    by_cases hac : a ≠ c
    · rw [List.destutter'_cons_pos l hac]
      rcases List.mem_cons.1 h with rfl | hmem
      · exact List.mem_cons_self
      · exact List.mem_cons_of_mem a (ih hmem)
    · rw [List.destutter'_cons_neg l hac]
      obtain rfl : a = c := not_not.1 hac
      exact ih (by simpa using h)

theorem mem_destutter_ne : b ∈ l.destutter (· ≠ ·) ↔ b ∈ l := by
  cases l with
  | nil => rfl
  | cons a l => exact mem_destutter'_ne

theorem nodup_destutter_append (h : l.Disjoint m) :
    ((l ++ m).destutter (· ≠ ·)).Nodup ↔
      (l.destutter (· ≠ ·)).Nodup ∧ (m.destutter (· ≠ ·)).Nodup := by
  have hkept : (l ++ m).destutter (· ≠ ·) = l.destutter (· ≠ ·) ++ m.destutter (· ≠ ·) := by
    cases l with
    | nil => rfl
    | cons a l =>
      obtain ⟨kept, last, hl, hm⟩ := destutter'_append (· ≠ ·) a l
      rw [List.cons_append, List.destutter_cons', List.destutter_cons', hm, hl]
      cases m with
      | nil => simp
      | cons b m =>
        -- the last element kept is one of the first list, so the second loses nothing
        have hlast : last ∈ a :: l := mem_destutter'_ne.1 (hl ▸ List.mem_append_right kept (by simp))
        have hne : last ≠ b := fun heq => h hlast (heq ▸ List.mem_cons_self)
        rw [List.destutter'_cons_pos m hne, List.append_assoc]
        rfl
  have hdisjoint : (l.destutter (· ≠ ·)).Disjoint (m.destutter (· ≠ ·)) :=
    fun _ hl hm => h (mem_destutter_ne.1 hl) (mem_destutter_ne.1 hm)
  rw [hkept, List.nodup_append']
  exact ⟨fun hn => ⟨hn.1, hn.2.1⟩, fun hn => ⟨hn.1, hn.2, hdisjoint⟩⟩

theorem nodup_destutter_append_self :
    ((l ++ l).destutter (· ≠ ·)).Nodup ↔ (l.destutter (· ≠ ·)).length ≤ 1 := by
  cases l with
  | nil => simp
  | cons a l =>
    obtain ⟨kept, last, hl, hm⟩ := destutter'_append (· ≠ ·) a l
    rw [List.cons_append, List.destutter_cons', List.destutter_cons', hm, hl]
    cases kept with
    | nil =>
      obtain rfl : a = last := by simpa [hl] using l.mem_destutter' (· ≠ ·) a
      rw [List.destutter'_cons_neg l (not_not.2 rfl), hl]
      simp
    | cons b kept =>
      have hfirst : b ∈ a :: l := mem_destutter'_ne.1 (by simp [hl])
      have hagain : b ∈ (a :: l).destutter' (· ≠ ·) last :=
        mem_destutter'_ne.2 (List.mem_cons_of_mem last hfirst)
      refine iff_of_false (fun hn => ?_) (by simp)
      exact (List.nodup_append'.1 hn).2.2 List.mem_cons_self hagain

end Destutter

/-! ## Places without neighbours that repeat -/

theorem dropRepeated_eq_destutter (paths : List String) :
    dropRepeated paths = paths.destutter fun a b => Path.place a ≠ Path.place b := by
  induction paths using dropRepeated.induct with
  | case1 => rw [dropRepeated, List.destutter_nil]
  | case2 path => rw [dropRepeated, List.destutter_singleton]
  | case3 path next rest hsame ih =>
    rw [dropRepeated, if_pos hsame, ih, List.destutter_cons', List.destutter_cons',
      List.destutter'_cons_neg]
    exact not_not.2 (Path.same_iff.1 hsame)
  | case4 path next rest hsame ih =>
    rw [dropRepeated, if_neg hsame, ih, List.destutter_cons', List.destutter_cons',
      List.destutter'_cons_pos]
    exact fun hplace => hsame (Path.same_iff.2 hplace)

theorem map_place_dropRepeated (paths : List String) :
    (dropRepeated paths).map Path.place = (paths.map Path.place).destutter (· ≠ ·) := by
  rw [dropRepeated_eq_destutter]
  exact List.map_destutter fun _ _ _ _ => Iff.rfl

theorem dropRepeated_sublist (paths : List String) : (dropRepeated paths).Sublist paths := by
  rw [dropRepeated_eq_destutter]
  exact List.destutter_sublist _ paths

theorem dropRepeated_of_distinct {paths : List String} (h : Path.Distinct paths) :
    dropRepeated paths = paths := by
  rw [dropRepeated_eq_destutter]
  refine List.destutter_of_isChain _ paths (List.Pairwise.isChain ?_)
  exact h.imp fun hab => Path.same_eq_false_iff.1 hab

theorem distinct_dropRepeated_pair (a b : String) : Path.Distinct (dropRepeated [a, b]) := by
  rw [Path.distinct_iff_nodup, map_place_dropRepeated, List.map_cons, List.map_singleton,
    List.destutter_pair]
  split
  · rename_i hne
    simpa using hne
  · exact List.nodup_singleton _

/-- Every one of the places is among the paths, in one spelling or another. -/
def Covers (paths places : List String) : Prop :=
  ∀ place ∈ places, ∃ path ∈ paths, Path.same path place

theorem covers_dropRepeated (paths : List String) : Covers (dropRepeated paths) paths := by
  intro place hplace
  have hmem : Path.place place ∈ (dropRepeated paths).map Path.place := by
    rw [map_place_dropRepeated, mem_destutter_ne]
    exact List.mem_map_of_mem hplace
  obtain ⟨path, hpath, hsame⟩ := List.mem_map.1 hmem
  exact ⟨path, hpath, Path.same_iff.2 hsame⟩

theorem Covers.of_append_right {paths first second : List String}
    (h : Covers paths (first ++ second)) : Covers paths second :=
  fun place hplace => h place (List.mem_append_right first hplace)

/-- The first paths stay in front, and what is added of the others keeps their order. -/
theorem dropRepeated_append (first second : List String) :
    ∃ rest, dropRepeated (first ++ second) = dropRepeated first ++ rest ∧ rest.Sublist second := by
  cases first with
  | nil => exact ⟨dropRepeated second, by simp [dropRepeated], dropRepeated_sublist second⟩
  | cons path first =>
    simp only [dropRepeated_eq_destutter, List.cons_append, List.destutter_cons']
    obtain ⟨kept, last, hfirst, happend⟩ :=
      destutter'_append (fun a b => Path.place a ≠ Path.place b) path first
    obtain ⟨rest, hrest, hsublist⟩ :=
      destutter'_eq_cons (fun a b => Path.place a ≠ Path.place b) last second
    refine ⟨rest, ?_, hsublist⟩
    rw [happend, hfirst, hrest, List.append_assoc, List.singleton_append]

/-! ## The two spellings -/

/-- A name is its own partial form, or the partial form differs from it in the last segment. -/
theorem partialName_cases (name : String) :
    partialName name = name ∨
      (Path.isAbsolute (partialName name) = Path.isAbsolute name ∧
        Path.startsHere (partialName name).toList = Path.startsHere name.toList ∧
        Path.initial (partialName name) = some '_' ∧
        ∃ c ≠ '_', Path.initial name = some c) := by
  rw [partialName, Path.fileName?]
  cases h : Path.split? name with
  | none => exact .inl rfl
  | some parts =>
    obtain ⟨front, file⟩ := parts
    have hname := Path.split?_spells h
    have hfile := hname.2.1
    dsimp only [Option.map_some]
    rw [String.toList_ofList]
    split
    · exact .inl rfl
    · rename_i hunderscore
      have hnamed : Path.Named ("_" ++ String.ofList file).toList := by
        refine ⟨?_, ?_, ?_⟩ <;> simp [hfile.slashFree]
      obtain ⟨habsolute, hstarts, hinitial⟩ := Path.withFileName_keeps h hnamed
      obtain ⟨c, rest, rfl⟩ := List.exists_cons_of_ne_nil hfile.ne_nil
      refine .inr ⟨habsolute, hstarts, by simpa using hinitial, c, ?_, hname.initial⟩
      simpa using hunderscore

theorem isAbsolute_partialName (name : String) :
    Path.isAbsolute (partialName name) = Path.isAbsolute name := by
  rcases partialName_cases name with hself | ⟨hrelative, -⟩
  · rw [hself]
  · exact hrelative

/-! ## The places of a spelling -/

/-- The directories in which a name is looked for, as the name sees them. -/
def seenDirectories (name : String) (directories : List String) : List String :=
  dropRepeated (directories.map (Path.seenFrom name))

section

variable {extension name spelling other : String} {directories : List String}

theorem map_place_placesOf (hspelling : Path.isAbsolute spelling = false)
    (hdirectories : directories ≠ []) :
    (placesOf directories spelling).map Path.place =
      ((directories.map (Path.seenFrom spelling)).map Path.place).map (Path.below spelling) := by
  have hempty : directories.isEmpty = false := by simpa using hdirectories
  simp only [placesOf, hempty, hspelling, Bool.or_self, Bool.false_eq_true, if_false, List.map_map]
  exact List.map_congr_left fun directory _ => Path.place_join hspelling directory

/-- A spelling that starts as the name does is looked for once below each directory that the name
sees. -/
theorem destutter_places (hspelling : Path.isAbsolute spelling = false)
    (hstarts : Path.startsHere spelling.toList = Path.startsHere name.toList)
    (hdirectories : directories ≠ []) :
    ((placesOf directories spelling).map Path.place).destutter (· ≠ ·) =
      ((seenDirectories name directories).map Path.place).map (Path.below spelling) := by
  rw [map_place_placesOf hspelling hdirectories, Path.seenFrom_congr hstarts, seenDirectories,
    map_place_dropRepeated, List.map_destutter_ne _ (Path.below_injective spelling)]

theorem disjoint_places {c c' : Char} (hspelling : Path.isAbsolute spelling = false)
    (hother : Path.isAbsolute other = false) (hdirectories : directories ≠ [])
    (hc : Path.initial spelling = some c) (hc' : Path.initial other = some c') (hne : c ≠ c') :
    ((placesOf directories spelling).map Path.place).Disjoint
      ((placesOf directories other).map Path.place) := by
  rw [map_place_placesOf hspelling hdirectories, map_place_placesOf hother hdirectories]
  intro place hplace hplace'
  obtain ⟨outer, -, rfl⟩ := List.mem_map.1 hplace
  obtain ⟨outer', -, hsame⟩ := List.mem_map.1 hplace'
  have hinitial := Path.initial_below hc' outer'
  rw [hsame, Path.initial_below hc outer] at hinitial
  exact hne (Option.some.inj hinitial)

/-! ## Searches -/

/-- The condition under which no place of a name is looked at twice: the directories are seen as
different ones, and a name that is its own partial form is looked for in one of them at most. -/
def SearchedOnce (name : String) (directories : List String) : Prop :=
  Path.isAbsolute name = true ∨
    (Path.Distinct (seenDirectories name directories) ∧
      ((seenDirectories name directories).length ≤ 1 ∨ partialName name ≠ name))

theorem candidates_distinct_of_single (h : Path.isAbsolute name = true ∨ directories = [])
    (hextension : '/' ∉ extension.toList) :
    Path.Distinct (candidates extension name directories) := by
  have hsingle (spelling : String) (hspelling : Path.isAbsolute spelling = Path.isAbsolute name) :
      placesOf directories spelling = [spelling] := by
    rcases h with habsolute | rfl
    · simp [placesOf, hspelling, habsolute]
    · simp [placesOf]
  have hfull := (Path.withDefaultExtension_keeps name hextension).1
  have hpartial := (Path.withDefaultExtension_keeps (partialName name) hextension).1
  rw [candidates, hsingle _ hfull, hsingle _ (hpartial.trans (isAbsolute_partialName name))]
  exact distinct_dropRepeated_pair _ _

theorem candidates_distinct_iff_of_relative (hname : Path.isAbsolute name = false)
    (hdirectories : directories ≠ []) (hextension : '/' ∉ extension.toList) :
    Path.Distinct (candidates extension name directories) ↔
      Path.Distinct (seenDirectories name directories) ∧
        ((seenDirectories name directories).length ≤ 1 ∨ partialName name ≠ name) := by
  obtain ⟨habsolute, hstarts, hinitial⟩ := Path.withDefaultExtension_keeps name hextension
  obtain ⟨habsolute', hstarts', hinitial'⟩ :=
    Path.withDefaultExtension_keeps (partialName name) hextension
  rw [hname] at habsolute
  have hplaces := destutter_places habsolute hstarts hdirectories
  rw [Path.distinct_iff_nodup, Path.distinct_iff_nodup, candidates, map_place_dropRepeated,
    List.map_append]
  rcases partialName_cases name with hself | ⟨hrelative, hfront, hunderscore, c, hc, hletter⟩
  · -- both spellings are one, so a second directory makes every place come back
    rw [hself, nodup_destutter_append_self, hplaces, List.length_map, List.length_map]
    refine ⟨fun hlength => ⟨?_, .inl hlength⟩, fun h => h.2.resolve_right (not_not.2 rfl)⟩
    generalize seenDirectories name directories = seen at hlength
    match seen, hlength with
    | [], _ => exact List.nodup_nil
    | [directory], _ => exact List.nodup_singleton _
  · have hne : partialName name ≠ name := fun heq => by
      rw [heq, hletter] at hunderscore
      exact hc (Option.some.inj hunderscore)
    rw [hrelative, hname] at habsolute'
    have hplaces' := destutter_places habsolute' (hstarts'.trans hfront) hdirectories
    have hdisjoint := disjoint_places habsolute habsolute' hdirectories
      (hinitial.trans hletter) (hinitial'.trans hunderscore) hc
    rw [nodup_destutter_append hdisjoint, hplaces, hplaces',
      List.nodup_map_iff (Path.below_injective _), List.nodup_map_iff (Path.below_injective _)]
    simp [hne]

theorem candidates_distinct_iff (hextension : '/' ∉ extension.toList) :
    Path.Distinct (candidates extension name directories) ↔ SearchedOnce name directories := by
  by_cases hname : Path.isAbsolute name = true
  · exact iff_of_true (candidates_distinct_of_single (.inl hname) hextension) (.inl hname)
  · by_cases hdirectories : directories = []
    · subst hdirectories
      refine iff_of_true (candidates_distinct_of_single (.inr rfl) hextension) (.inr ?_)
      simp [seenDirectories, dropRepeated, Path.Distinct]
    · rw [SearchedOnce, or_iff_right hname]
      exact candidates_distinct_iff_of_relative (by simpa using hname) hdirectories hextension

/-- For different directories and a name that does not begin with a point. -/
theorem searchedOnce_iff_of_distinct (hdirectories : Path.Distinct directories)
    (hname : Path.startsHere name.toList = false) :
    SearchedOnce name directories ↔
      Path.isAbsolute name = true ∨ directories.length ≤ 1 ∨ partialName name ≠ name := by
  have hseen : directories.map (Path.seenFrom name) = directories := by
    refine List.map_id'' (fun directory => ?_) directories
    simp [Path.seenFrom, hname]
  rw [SearchedOnce, seenDirectories, hseen, dropRepeated_of_distinct hdirectories,
    and_iff_right hdirectories]

theorem resolve_files_not_found {store : Files} {missing : String} {searched : List String}
    (h : resolve (.files store extension) name directories =
      .error (.templateNotFound missing searched)) :
    missing = name ∧ searched = candidates extension name directories ∧
      ∀ place ∈ searched, store.find? place = none := by
  simp only [resolve] at h
  split at h
  · cases h
  · cases h
  · rename_i hnone
    cases h
    refine ⟨rfl, rfl, fun place hplace => ?_⟩
    simpa using List.findSome?_eq_none_iff.1 hnone place hplace

/-- The places of the full name come first, in the order of the directories, and then those of the
partial name. They are different places exactly if the name is searched once; among different
directories that fails only for a name that is its own partial form or begins with a point. A failed
search lists these places, and none of them holds a file. -/
theorem candidates_ordered_distinct (hextension : '/' ∉ extension.toList) (name : String)
    (directories : List String) :
    (∃ full rest, candidates extension name directories = full ++ rest ∧
      full.Sublist (placesOf directories (Path.withDefaultExtension name extension)) ∧
      Covers full (placesOf directories (Path.withDefaultExtension name extension)) ∧
      rest.Sublist
        (placesOf directories (Path.withDefaultExtension (partialName name) extension)) ∧
      Covers (full ++ rest)
        (placesOf directories (Path.withDefaultExtension (partialName name) extension))) ∧
    (Path.Distinct (candidates extension name directories) ↔ SearchedOnce name directories) ∧
    (Path.Distinct directories → Path.startsHere name.toList = false →
      (SearchedOnce name directories ↔
        Path.isAbsolute name = true ∨ directories.length ≤ 1 ∨ partialName name ≠ name)) ∧
    ∀ store missing searched,
      resolve (.files store extension) name directories =
          .error (.templateNotFound missing searched) →
        missing = name ∧ searched = candidates extension name directories ∧
          ∀ place ∈ searched, store.find? place = none := by
  refine ⟨?_, candidates_distinct_iff hextension, searchedOnce_iff_of_distinct,
    fun _ _ _ => resolve_files_not_found⟩
  obtain ⟨rest, hcandidates, hrest⟩ := dropRepeated_append
    (placesOf directories (Path.withDefaultExtension name extension))
    (placesOf directories (Path.withDefaultExtension (partialName name) extension))
  refine ⟨_, rest, hcandidates, dropRepeated_sublist _, covers_dropRepeated _, hrest, ?_⟩
  rw [← hcandidates]
  exact (covers_dropRepeated _).of_append_right

/-- A name without extension, in two directories one of which ends with a slash. -/
theorem candidates_ordered_distinct_row :
    '/' ∉ "yml".toList ∧ Path.Distinct ["views", "shared/"] ∧
      candidates "yml" "users/row" ["views", "shared/"] =
        ["views/users/row.yml", "shared/users/row.yml",
          "views/users/_row.yml", "shared/users/_row.yml"] ∧
      Path.Distinct (candidates "yml" "users/row" ["views", "shared/"]) := by
  have hextension : '/' ∉ "yml".toList := by decide
  have hdirectories : Path.Distinct ["views", "shared/"] := by decide
  have hpartial : partialName "users/row" = "users/_row" := by decide
  have hfull : placesOf ["views", "shared/"] (Path.withDefaultExtension "users/row" "yml") =
      ["views/users/row.yml", "shared/users/row.yml"] := by decide
  have hrest : placesOf ["views", "shared/"] (Path.withDefaultExtension "users/_row" "yml") =
      ["views/users/_row.yml", "shared/users/_row.yml"] := by decide
  obtain ⟨-, hdistinct, honce, -⟩ :=
    candidates_ordered_distinct hextension "users/row" ["views", "shared/"]
  refine ⟨hextension, hdirectories, ?_, hdistinct.2 ?_⟩
  · rw [candidates, hpartial, hfull, hrest]
    exact dropRepeated_of_distinct (by decide)
  · exact (honce hdirectories (by decide)).2 (.inr (.inr (by decide)))

/-- A name that is its own partial form is looked for twice in each of two directories. -/
theorem not_candidates_distinct_partial :
    Path.Distinct ["views", "shared/"] ∧
      candidates "yml" "_x" ["views", "shared/"] =
        ["views/_x.yml", "shared/_x.yml", "views/_x.yml", "shared/_x.yml"] ∧
      ¬ Path.Distinct (candidates "yml" "_x" ["views", "shared/"]) := by
  have hself : partialName "_x" = "_x" := by decide
  have hplaces : placesOf ["views", "shared/"] (Path.withDefaultExtension "_x" "yml") =
      ["views/_x.yml", "shared/_x.yml"] := by decide
  have hvs : Path.same "views/_x.yml" "shared/_x.yml" = false := by decide
  have hsv : Path.same "shared/_x.yml" "views/_x.yml" = false := by decide
  have hcandidates : candidates "yml" "_x" ["views", "shared/"] =
      ["views/_x.yml", "shared/_x.yml", "views/_x.yml", "shared/_x.yml"] := by
    simp [candidates, hself, hplaces, dropRepeated, hvs, hsv]
  refine ⟨by decide, hcandidates, ?_⟩
  rw [hcandidates]
  decide

end

end Source

end DocumentTemplates
