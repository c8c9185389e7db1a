import DocumentTemplates.Proofs.Filter.Spelling

/-!
# The canonical query of a filter

Whatever text a filter was read from, its fields have names, calls and groups of a certain form,
and parents named after their fields. Fields of that form are written so that reading their text
gives them back, in any surroundings in which a field may end. So the canonical query of a filter
that was read says all that was read, and cache keys may tell filters apart by it.
-/

namespace DocumentTemplates.Filter

variable {parentName : String → String}

/-! ## What is read is of that form -/

theorem readGroup_isField {group : List Char → List FilterField × List Char}
    (hg : ∀ cs, ∀ field ∈ (group cs).1, IsField parentName field) {name : String}
    {calls : List FunctionCall} (hname : IsName name) (hcalls : ∀ call ∈ calls, IsCall call)
    {cs : List Char} {field : FilterField}
    (h : (readGroup parentName group name calls cs).1 = some field) : IsField parentName field := by
  unfold readGroup at h
  split at h
  · rename_i rest _
    have hfields := hg rest
    split at h
    · rename_i hgroup
      obtain rfl := Option.some.inj h
      rw [hgroup] at hfields
      exact .group hname hcalls hfields
    · cases h
  · obtain rfl := Option.some.inj h
    exact .plain hname hcalls

theorem readField_isField {group : List Char → List FilterField × List Char}
    (hg : ∀ cs, ∀ field ∈ (group cs).1, IsField parentName field) {cs : List Char}
    {field : FilterField} (h : (readField parentName group cs).1 = some field) :
    IsField parentName field := by
  unfold readField at h
  split at h
  · cases h
  · rename_i hne
    split at h
    · cases h
    · rename_i hread
      refine readGroup_isField hg ⟨?_, ?_⟩ (readCalls_some (congrArg Prod.fst hread)) h
      · rw [String.toList_ofList]
        exact hne
      · rw [String.toList_ofList]
        exact fun c hc => List.mem_takeWhile_imp hc

theorem readFields_isField (rounds : Nat) (cs : List Char) :
    ∀ field ∈ (readFields parentName rounds cs).1, IsField parentName field := by
  induction rounds generalizing cs with
  | zero => simp [readFields]
  | succ rounds ih =>
    unfold readFields
    split
    · simp
    · simp
    · exact ih _
    · intro field hf
      rcases List.mem_append.1 hf with hf | hf
      · exact readField_isField ih (Option.mem_toList.1 hf)
      · exact ih _ field hf

theorem readQuery_isField (rounds : Nat) (cs : List Char) :
    ∀ field ∈ readQuery parentName rounds cs, IsField parentName field := by
  induction rounds generalizing cs with
  | zero => simp [readQuery]
  | succ rounds ih =>
    have hread : ∀ field ∈ (readFields parentName cs.length cs).1, IsField parentName field :=
      readFields_isField cs.length cs
    unfold readQuery
    split
    · rename_i hfields
      rw [hfields] at hread
      intro field hf
      rcases List.mem_append.1 hf with hf | hf
      · exact hread field hf
      · exact ih _ field hf
    · rename_i hfields
      rw [hfields] at hread
      exact hread

/-! ## What is of that form is read back -/

theorem separated_argsText (args : List String) : Separated SpellsArg args (argsText args) := by
  have hbare (arg : String) : SpellsArg arg arg.toList := by
    have hpadded : SpellsArg arg _ := .padded .nil .nil
    simpa using hpadded
  rw [argsText_eq]
  induction args with
  | nil => exact .none .nil
  | cons arg rest ih =>
    cases rest with
    | nil =>
      rw [List.map_singleton, List.intercalate_singleton]
      exact .one (hbare arg)
    | cons next rest =>
      simp only [List.map_cons, List.intercalate_cons_cons, List.append_assoc] at ih ⊢
      exact .more (hbare arg) ih

theorem isParenMark_of_mem_argsText {args : List String} (h : ∀ arg ∈ args, IsArg arg) :
    ∀ c ∈ argsText args, isParenMark c = false :=
  isParenMark_spelled h (separated_argsText args)

theorem spellsCalls_renderCall (calls : List FunctionCall) :
    SpellsCalls calls (calls.flatMap renderCall) := by
  induction calls with
  | nil => exact .nil
  | cons call more ih =>
    have hcalls := SpellsCalls.cons (separated_argsText call.args) ih
    simpa [renderCall, argsText] using hcalls

theorem renderFields_cons (field : FilterField) (more : List FilterField) :
    renderFields (field :: more) =
      renderField field ++ (if more = [] then [] else ',' :: renderFields more) := by
  cases more with
  | nil =>
    rw [if_pos rfl, List.append_nil]
    rfl
  | cons next rest =>
    rw [if_neg (List.cons_ne_nil next rest)]
    rfl

mutual

theorem spellsField_renderField : (field : FilterField) → SpellsField field (renderField field)
  | .mk name calls none => by
    have hfield : SpellsField (.mk name calls none) _ :=
      .plain .nil (spellsCalls_renderCall calls) .nil
    simpa [renderField] using hfield
  | .mk name calls (some (.mk parent fields)) => by
    have hfield : SpellsField (.mk name calls (some (.mk parent fields))) _ :=
      .group .nil (spellsCalls_renderCall calls) .nil (separated_renderFields fields) .nil
    simpa [renderField, render] using hfield

/-- The canonical text of fields is one of their spellings. -/
theorem separated_renderFields :
    (fields : List FilterField) → Separated SpellsField fields (renderFields fields)
  | [] => .none .nil
  | [field] => .one (spellsField_renderField field)
  | field :: next :: rest =>
    .more (spellsField_renderField field) (separated_renderFields (next :: rest))

end

/-- Fields of that form are read back from their text, up to the end or a closing brace. -/
theorem readFields_append {rounds : Nat} {fields : List FilterField}
    (h : ∀ field ∈ fields, IsField parentName field)
    (hl : (renderFields fields).length ≤ rounds) {rest : List Char}
    (hr : rest = [] ∨ ∃ tail, rest = '}' :: tail) :
    readFields parentName rounds (renderFields fields ++ rest) = (fields, rest) :=
  readFields_spelled h (separated_renderFields fields) hl rest hr

/-- Parsing the canonical query of a filter that was read gives the filter again, with its parent
names, whatever parent name a field's name is given. -/
theorem parse_query_parse (parentName : String → String) (query : String) :
    parseWith parentName (parseWith parentName query).query = parseWith parentName query := by
  generalize hfields : readQuery parentName (query.length + 1) query.toList = fields
  have hform : ∀ field ∈ fields, IsField parentName field := by
    rw [← hfields]
    exact readQuery_isField _ _
  have hq : (parseWith parentName query) = .mk none fields := by rw [parseWith, hfields]
  have hread := readFields_append hform (Nat.le_refl _) (Or.inl (rfl : ([] : List Char) = []))
  rw [List.append_nil] at hread
  rw [hq, parseWith, Filter.query, render, String.toList_ofList, readQuery, hread]

end DocumentTemplates.Filter
