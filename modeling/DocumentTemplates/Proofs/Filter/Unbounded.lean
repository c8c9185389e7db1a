import DocumentTemplates.Proofs.Filter.Rounds

/-!
# Reading without bounds

The loops of reading take a bound on their rounds. Here they are relations that have none, so a loop
that went round for ever would be related to nothing. Every round of reading fields leaves less text
than it found, whether it reads a comma, a field, or a fragment that is no field. So the loops stop
on every text, and with a round for each character the bounded loops do what the unbounded ones do:
fields are read up to the end of the text or a closing brace, and a query up to its end.
-/

namespace DocumentTemplates.Filter

/-! ## The loops -/

/-- Calls are read as long as a point follows. Failure comes with the place where reading
stopped. -/
inductive ReadsCalls : List Char → Option (List FunctionCall) → List Char → Prop
  | done {cs : List Char} (hends : EndsCalls cs) : ReadsCalls cs (some []) cs
  | nameless {rest : List Char} (hname : rest.takeWhile isNameChar = []) :
    ReadsCalls ('.' :: rest) none rest
  | failed {rest behind : List Char} (hname : rest.takeWhile isNameChar ≠ [])
      (hargs : readArgs (rest.dropWhile isNameChar) = (none, behind)) :
    ReadsCalls ('.' :: rest) none behind
  | call {rest next behind : List Char} {args : List String}
      {calls : Option (List FunctionCall)} (hname : rest.takeWhile isNameChar ≠ [])
      (hargs : readArgs (rest.dropWhile isNameChar) = (some args, next))
      (hmore : ReadsCalls next calls behind) :
    ReadsCalls ('.' :: rest)
      (calls.map ((call? (String.ofList (rest.takeWhile isNameChar)) args).toList ++ ·)) behind

mutual

/-- Fields are read round after round, until the end of the text or a closing brace follows. -/
inductive ReadsFields (parentName : String → String) :
    List Char → List FilterField → List Char → Prop
  | stop {cs : List Char} (hstop : StopsFields (Text.trimStart cs)) :
    ReadsFields parentName cs [] (Text.trimStart cs)
  | round {cs next rest : List Char} {field : Option FilterField} {fields : List FilterField}
      (hround : Round parentName cs field next)
      (hmore : ReadsFields parentName next fields rest) :
    ReadsFields parentName cs (field.toList ++ fields) rest

/-- A round reads a comma, or a field and the text behind it, or a fragment that is no field and the
text behind it. -/
inductive Round (parentName : String → String) :
    List Char → Option FilterField → List Char → Prop
  | comma {cs next : List Char} (hcomma : Text.trimStart cs = ',' :: next) :
    Round parentName cs none next
  | matched {cs rest : List Char} {field : FilterField} (hends : ¬ EndsField (Text.trimStart cs))
      (hfield : ReadsField parentName (Text.trimStart cs) (some field) rest) :
    Round parentName cs (some field) (skipTrailing rest)
  | fragment {cs rest : List Char} (hends : ¬ EndsField (Text.trimStart cs))
      (hfield : ReadsField parentName (Text.trimStart cs) none rest) :
    Round parentName cs none (skipTrailing (skipFragment 0 rest))

/-- A field is a name, its calls and at most one group, whose fields are read by a loop of their
own. A field that fails may have read nothing. -/
inductive ReadsField (parentName : String → String) :
    List Char → Option FilterField → List Char → Prop
  | nameless {cs : List Char} (hname : cs.takeWhile isNameChar = []) :
    ReadsField parentName cs none cs
  | failed {cs rest : List Char} (hname : cs.takeWhile isNameChar ≠ [])
      (hcalls : ReadsCalls (cs.dropWhile isNameChar) none rest) :
    ReadsField parentName cs none rest
  | plain {cs rest : List Char} {calls : List FunctionCall} (hname : cs.takeWhile isNameChar ≠ [])
      (hcalls : ReadsCalls (cs.dropWhile isNameChar) (some calls) rest)
      (hplain : ∀ inner, Text.trimStart rest ≠ '{' :: inner) :
    ReadsField parentName cs (some (.mk (String.ofList (cs.takeWhile isNameChar)) calls none))
      (Text.trimStart rest)
  | group {cs rest inner behind : List Char} {calls : List FunctionCall}
      {fields : List FilterField} (hname : cs.takeWhile isNameChar ≠ [])
      (hcalls : ReadsCalls (cs.dropWhile isNameChar) (some calls) rest)
      (hopen : Text.trimStart rest = '{' :: inner)
      (hgroup : ReadsFields parentName inner fields ('}' :: behind)) :
    ReadsField parentName cs
      (some (.mk (String.ofList (cs.takeWhile isNameChar)) calls
        (some (.mk (some (parentName (String.ofList (cs.takeWhile isNameChar)))) fields))))
      behind
  | unclosed {cs rest inner behind : List Char} {calls : List FunctionCall}
      {fields : List FilterField} (hname : cs.takeWhile isNameChar ≠ [])
      (hcalls : ReadsCalls (cs.dropWhile isNameChar) (some calls) rest)
      (hopen : Text.trimStart rest = '{' :: inner)
      (hgroup : ReadsFields parentName inner fields behind)
      (hunclosed : ∀ tail, behind ≠ '}' :: tail) :
    ReadsField parentName cs none behind

end

/-- A query is read fields after fields, as long as a closing brace stands between them. What is
left of the text comes last. -/
inductive ReadsQuery (parentName : String → String) :
    List Char → List FilterField → List Char → Prop
  | last {cs rest : List Char} {fields : List FilterField}
      (hread : ReadsFields parentName cs fields rest) (hlast : ∀ tail, rest ≠ '}' :: tail) :
    ReadsQuery parentName cs fields rest
  | brace {cs next rest : List Char} {fields more : List FilterField}
      (hread : ReadsFields parentName cs fields ('}' :: next))
      (hmore : ReadsQuery parentName next more rest) :
    ReadsQuery parentName cs (fields ++ more) rest

/-! ## What bounded reading does -/

theorem ReadsCalls.readCalls_eq {cs rest : List Char} {calls : Option (List FunctionCall)}
    (h : ReadsCalls cs calls rest) {rounds : Nat} (hl : cs.length ≤ rounds) :
    readCalls rounds cs = (calls, rest) := by
  induction h generalizing rounds with
  | done hends => exact readCalls_end hends rounds
  | @nameless rest hname =>
    obtain ⟨n, rfl⟩ := Nat.exists_eq_add_one.2 (Nat.zero_lt_of_lt hl)
    rw [readCalls, hname, dropWhile_of_nameless hname]
  | failed hname hargs =>
    obtain ⟨n, rfl⟩ := Nat.exists_eq_add_one.2 (Nat.zero_lt_of_lt hl)
    rw [readCalls_round hname, hargs]
  | @call rest next behind args calls hname hargs _ ih =>
    obtain ⟨n, rfl⟩ := Nat.exists_eq_add_one.2 (Nat.zero_lt_of_lt hl)
    have hnext : next <:+ rest := by simpa only [hargs] using readArgs_behind_name_suffix rest
    have hle : next.length ≤ n := hnext.length_le.trans (Nat.le_of_succ_le_succ hl)
    rw [readCalls_round hname, hargs]
    simp only [ih hle]

theorem ReadsCalls.suffix {cs rest : List Char} {calls : Option (List FunctionCall)}
    (h : ReadsCalls cs calls rest) : rest <:+ cs := by
  have hsuffix := readCalls_suffix cs.length cs
  rwa [h.readCalls_eq (Nat.le_refl _)] at hsuffix

/-- The text of a group is shorter than that of its field. -/
theorem ReadsCalls.inner_lt {cs rest inner : List Char} {calls : Option (List FunctionCall)}
    (h : ReadsCalls (cs.dropWhile isNameChar) calls rest)
    (hopen : Text.trimStart rest = '{' :: inner) : inner.length < cs.length := by
  have htrim : '{' :: inner <:+ rest := hopen ▸ List.dropWhile_suffix Text.isBlank
  exact (htrim.trans (h.suffix.trans (List.dropWhile_suffix isNameChar))).length_le

variable {parentName : String → String}

/-- A field is read as without bounds, if the groups shorter than its text are. -/
theorem ReadsField.readField_eq {group : List Char → List FilterField × List Char}
    {cs rest : List Char} {field : Option FilterField}
    (hread : ∀ {text fields behind}, text.length < cs.length →
      ReadsFields parentName text fields behind → group text = (fields, behind))
    (h : ReadsField parentName cs field rest) :
    readField parentName group cs = (field, rest) := by
  cases h with
  | nameless hname => exact readField_nameless parentName hname group
  | failed hname hcalls =>
    rw [readField_named parentName hname, hcalls.readCalls_eq (Nat.le_refl _)]
  | plain hname hcalls hplain =>
    rw [readField_named parentName hname, hcalls.readCalls_eq (Nat.le_refl _)]
    exact readGroup_of_not_open hplain
  | group hname hcalls hopen hgroup =>
    rw [readField_named parentName hname, hcalls.readCalls_eq (Nat.le_refl _)]
    simp only [readGroup, hopen, hread (hcalls.inner_lt hopen) hgroup]
  | unclosed hname hcalls hopen hgroup hunclosed =>
    rw [readField_named parentName hname, hcalls.readCalls_eq (Nat.le_refl _)]
    simp only [readGroup, hopen, hread (hcalls.inner_lt hopen) hgroup]

/-- A round of the bounded loop does what a round without bounds does, if the loops of nested groups
do. It leaves less text. -/
theorem ReadsField.readFields_succ {rounds : Nat} {cs rest : List Char}
    {field : Option FilterField}
    (hread : ∀ {text fields behind}, text.length ≤ rounds →
      ReadsFields parentName text fields behind →
        readFields parentName rounds text = (fields, behind))
    (hl : cs.length ≤ rounds + 1) (hends : ¬ EndsField (Text.trimStart cs))
    (h : ReadsField parentName (Text.trimStart cs) field rest) :
    readFields parentName (rounds + 1) cs =
        (field.toList ++ (readFields parentName rounds (behindField (field, rest))).1,
          (readFields parentName rounds (behindField (field, rest))).2) ∧
      behindField (field, rest) <:+ cs ∧ (behindField (field, rest)).length < cs.length := by
  have htrim : Text.trimStart cs <:+ cs := List.dropWhile_suffix Text.isBlank
  have hle := htrim.length_le
  have hfield : readField parentName (readFields parentName rounds) (Text.trimStart cs) =
      (field, rest) := h.readField_eq fun hlt => hread (by omega)
  have hsuffix := readField_suffix parentName (readFields_suffix parentName rounds)
    (Text.trimStart cs)
  have hlt := behindField_lt parentName (readFields_suffix parentName rounds) hends
  rw [hfield] at hsuffix hlt
  refine ⟨?_, ?_, hlt.trans_le hle⟩
  · rw [readFields_round parentName hends, hfield]
  · exact (behindField_suffix _).trans
      (hsuffix.trans ((List.dropWhile_suffix isNameChar).trans htrim))

theorem Round.readFields_succ {rounds : Nat} {cs next : List Char} {field : Option FilterField}
    (hread : ∀ {text fields behind}, text.length ≤ rounds →
      ReadsFields parentName text fields behind →
        readFields parentName rounds text = (fields, behind))
    (hl : cs.length ≤ rounds + 1) (h : Round parentName cs field next) :
    readFields parentName (rounds + 1) cs =
        (field.toList ++ (readFields parentName rounds next).1,
          (readFields parentName rounds next).2) ∧
      next <:+ cs ∧ next.length < cs.length := by
  cases h with
  | comma hcomma =>
    have htrim : ',' :: next <:+ cs := hcomma ▸ List.dropWhile_suffix Text.isBlank
    refine ⟨?_, (List.suffix_cons ',' next).trans htrim, htrim.length_le⟩
    rw [readFields, hcomma]
    rfl
  | matched hends hfield => exact hfield.readFields_succ hread hl hends
  | fragment hends hfield => exact hfield.readFields_succ hread hl hends

theorem StopsFields.readFields_eq {cs : List Char} (h : StopsFields (Text.trimStart cs))
    {rounds : Nat} (hl : cs.length ≤ rounds) :
    readFields parentName rounds cs = ([], Text.trimStart cs) := by
  cases rounds with
  | zero =>
    obtain rfl := List.eq_nil_of_length_eq_zero (Nat.le_zero.1 hl)
    rfl
  | succ rounds =>
    rw [readFields]
    obtain hend | ⟨tail, hbrace⟩ := h
    · rw [hend]
    · rw [hbrace]
      rfl

/-- Reading with a round for each character ends as reading without bounds does. The induction is on
the rounds: the groups inside a round are read with those that are left. -/
theorem ReadsFields.readFields_eq {rounds : Nat} {cs rest : List Char} {fields : List FilterField}
    (h : ReadsFields parentName cs fields rest) (hl : cs.length ≤ rounds) :
    readFields parentName rounds cs = (fields, rest) := by
  induction rounds generalizing cs fields rest with
  | zero =>
    obtain rfl := List.eq_nil_of_length_eq_zero (Nat.le_zero.1 hl)
    cases h with
    | stop hstop => exact hstop.readFields_eq hl
    | round hround _ =>
      cases hround with
      | comma hcomma => cases hcomma
      | matched hends _ => exact absurd .done hends
      | fragment hends _ => exact absurd .done hends
  | succ rounds ih =>
    cases h with
    | stop hstop => exact hstop.readFields_eq hl
    | round hround hmore =>
      obtain ⟨hstep, -, hlt⟩ := hround.readFields_succ (fun hle h => ih h hle) hl
      rw [hstep, ih hmore (by omega)]

/-- A round leaves an end of the text that it found, and not the whole of it. -/
theorem Round.consumes {cs next : List Char} {field : Option FilterField}
    (h : Round parentName cs field next) : next <:+ cs ∧ next.length < cs.length :=
  (h.readFields_succ (fun hl h => h.readFields_eq hl) (Nat.le_succ cs.length)).2

/-! ## The loops stop -/

theorem exists_readsCalls (cs : List Char) : ∃ calls rest, ReadsCalls cs calls rest := by
  by_cases hcall : ∃ text, cs = '.' :: text
  · obtain ⟨text, hcs⟩ := hcall
    rw [hcs]
    by_cases hname : text.takeWhile isNameChar = []
    · exact ⟨none, text, .nameless hname⟩
    have hsuffix := readArgs_behind_name_suffix text
    rcases hread : readArgs (text.dropWhile isNameChar) with ⟨_ | args, next⟩
    · exact ⟨none, next, .failed hname hread⟩
    · have hlt : next.length < cs.length := by
        rw [hread] at hsuffix
        rw [hcs]
        exact Nat.lt_succ_of_le hsuffix.length_le
      obtain ⟨calls, rest, hmore⟩ := exists_readsCalls next
      exact ⟨_, rest, .call hname hread hmore⟩
  · exact ⟨some [], cs, .done (not_exists.1 hcall)⟩
termination_by cs.length

theorem exists_readsField {cs : List Char}
    (hgroup : ∀ text : List Char, text.length < cs.length →
      ∃ fields rest, ReadsFields parentName text fields rest) :
    ∃ field rest, ReadsField parentName cs field rest := by
  by_cases hname : cs.takeWhile isNameChar = []
  · exact ⟨none, cs, .nameless hname⟩
  obtain ⟨_ | calls, rest, hcalls⟩ := exists_readsCalls (cs.dropWhile isNameChar)
  · exact ⟨none, rest, .failed hname hcalls⟩
  by_cases hopen : ∃ inner, Text.trimStart rest = '{' :: inner
  · obtain ⟨inner, hopen⟩ := hopen
    obtain ⟨fields, behind, hread⟩ := hgroup inner (hcalls.inner_lt hopen)
    by_cases hclosed : ∃ tail, behind = '}' :: tail
    · obtain ⟨tail, rfl⟩ := hclosed
      exact ⟨_, tail, .group hname hcalls hopen hread⟩
    · exact ⟨none, behind, .unclosed hname hcalls hopen hread (not_exists.1 hclosed)⟩
  · exact ⟨_, _, .plain hname hcalls (not_exists.1 hopen)⟩

/-- Where the loop does not stop there is a round. -/
theorem exists_round {cs : List Char} (hstop : ¬ StopsFields (Text.trimStart cs))
    (hgroup : ∀ text : List Char, text.length < cs.length →
      ∃ fields rest, ReadsFields parentName text fields rest) :
    ∃ field next, Round parentName cs field next := by
  by_cases hcomma : ∃ next, Text.trimStart cs = ',' :: next
  · obtain ⟨next, hcomma⟩ := hcomma
    exact ⟨none, next, .comma hcomma⟩
  have hends : ¬ EndsField (Text.trimStart cs) := by
    generalize Text.trimStart cs = trimmed at hstop hcomma
    rintro (_ | tail | tail)
    · exact hstop (.inl rfl)
    · exact hcomma ⟨tail, rfl⟩
    · exact hstop (.inr ⟨tail, rfl⟩)
  have htrim : (Text.trimStart cs).length ≤ cs.length :=
    (List.dropWhile_suffix Text.isBlank).length_le
  obtain ⟨_ | field, rest, hfield⟩ :=
    exists_readsField fun text hlt => hgroup text (hlt.trans_le htrim)
  · exact ⟨none, _, .fragment hends hfield⟩
  · exact ⟨some field, _, .matched hends hfield⟩

/-- The loop stops, since what a round leaves is shorter than what it found. -/
theorem exists_readsFields (parentName : String → String) (cs : List Char) :
    ∃ fields rest, ReadsFields parentName cs fields rest := by
  by_cases hstop : StopsFields (Text.trimStart cs)
  · exact ⟨[], _, .stop hstop⟩
  · -- the groups inside the round are shorter than the text, and so is what the round leaves
    obtain ⟨field, next, hround⟩ :=
      exists_round hstop fun text _ => exists_readsFields parentName text
    have hlt := hround.consumes.2
    obtain ⟨fields, rest, hmore⟩ := exists_readsFields parentName next
    exact ⟨_, rest, .round hround hmore⟩
termination_by cs.length

theorem readsFields_iff {rounds : Nat} {cs : List Char} (hl : cs.length ≤ rounds)
    {fields : List FilterField} {rest : List Char} :
    ReadsFields parentName cs fields rest ↔ readFields parentName rounds cs = (fields, rest) := by
  refine ⟨fun h => h.readFields_eq hl, fun h => ?_⟩
  obtain ⟨fields', rest', hread⟩ := exists_readsFields parentName cs
  obtain ⟨rfl, rfl⟩ := Prod.mk.inj (h.symm.trans (hread.readFields_eq hl))
  exact hread

theorem ReadsFields.suffix {cs rest : List Char} {fields : List FilterField}
    (h : ReadsFields parentName cs fields rest) : rest <:+ cs := by
  have hsuffix := readFields_suffix parentName cs.length cs
  rwa [h.readFields_eq (Nat.le_refl _)] at hsuffix

theorem ReadsFields.stops {cs rest : List Char} {fields : List FilterField}
    (h : ReadsFields parentName cs fields rest) : StopsFields rest := by
  have hstops := readFields_stops parentName (Nat.le_refl cs.length)
  rwa [h.readFields_eq (Nat.le_refl _)] at hstops

/-- Reading goes on at `next` after a round at `cs`. -/
def Follows (parentName : String → String) (cs next : List Char) : Prop :=
  ∃ field, Round parentName cs field next

/-- Of rounds that follow each other there are no more than characters. -/
theorem length_le_of_follows {cs : List Char} {places : List (List Char)}
    (h : (cs :: places).IsChain (Follows parentName)) : places.length ≤ cs.length := by
  induction places generalizing cs with
  | nil => exact Nat.zero_le _
  | cons next places ih =>
    obtain ⟨⟨field, hround⟩, hmore⟩ := List.isChain_cons_cons.1 h
    have hlt := hround.consumes.2
    have hle := ih hmore
    rw [List.length_cons]
    omega

/-! ## Queries -/

theorem ReadsQuery.readQuery_eq {cs rest : List Char} {fields : List FilterField}
    (h : ReadsQuery parentName cs fields rest) {rounds : Nat} (hl : cs.length < rounds) :
    readQuery parentName rounds cs = fields ∧ rest = [] := by
  induction h generalizing rounds with
  | last hread hlast =>
    obtain ⟨n, rfl⟩ := Nat.exists_eq_add_one.2 (Nat.zero_lt_of_lt hl)
    obtain rfl | ⟨tail, hbrace⟩ := hread.stops
    · rw [readQuery_succ, hread.readFields_eq (Nat.le_refl _)]
      exact ⟨List.append_nil _, rfl⟩
    · exact absurd hbrace (hlast tail)
  | @brace cs next rest fields more hread _ ih =>
    obtain ⟨n, rfl⟩ := Nat.exists_eq_add_one.2 (Nat.zero_lt_of_lt hl)
    have hlt : next.length < cs.length := hread.suffix.length_le
    have hnext : next.length < n := by omega
    obtain ⟨hmore, hrest⟩ := ih hnext
    rw [readQuery_succ, hread.readFields_eq (Nat.le_refl _)]
    exact ⟨congrArg _ hmore, hrest⟩

theorem exists_readsQuery (parentName : String → String) (cs : List Char) :
    ∃ fields rest, ReadsQuery parentName cs fields rest := by
  obtain ⟨fields, rest, hread⟩ := exists_readsFields parentName cs
  by_cases hbrace : ∃ next, rest = '}' :: next
  · obtain ⟨next, rfl⟩ := hbrace
    have hlt : next.length < cs.length := hread.suffix.length_le
    obtain ⟨more, rest, hmore⟩ := exists_readsQuery parentName next
    exact ⟨_, rest, .brace hread hmore⟩
  · exact ⟨fields, rest, .last hread (not_exists.1 hbrace)⟩
termination_by cs.length

theorem readsQuery_iff {rounds : Nat} {cs : List Char} (hl : cs.length < rounds)
    {fields : List FilterField} {rest : List Char} :
    ReadsQuery parentName cs fields rest ↔
      readQuery parentName rounds cs = fields ∧ rest = [] := by
  refine ⟨fun h => h.readQuery_eq hl, ?_⟩
  rintro ⟨hfields, rfl⟩
  obtain ⟨fields', rest', hread⟩ := exists_readsQuery parentName cs
  obtain ⟨hfields', rfl⟩ := hread.readQuery_eq hl
  exact hfields ▸ hfields' ▸ hread

/-- Reading never stalls, and it reads everything. From every place the loop of fields stops, in one
way only, at the end of the text or at a closing brace, and with a round for each character left the
bounded loop stops there with the same fields. Each round reads at least one character, so that no
more rounds follow each other than characters are left. A query is read to its end. -/
theorem reading_ends (parentName : String → String) :
    (∀ cs : List Char, ∃ fields rest,
      (∀ fields' rest',
        ReadsFields parentName cs fields' rest' ↔ fields' = fields ∧ rest' = rest) ∧
      (∀ rounds, cs.length ≤ rounds → readFields parentName rounds cs = (fields, rest)) ∧
      rest <:+ cs ∧ StopsFields rest) ∧
    (∀ cs field next, Round parentName cs field next →
      next <:+ cs ∧ next.length < cs.length) ∧
    (∀ cs places, (cs :: places).IsChain (Follows parentName) → places.length ≤ cs.length) ∧
    ∀ (query : String) fields rest, ReadsQuery parentName query.toList fields rest ↔
      (parseWith parentName query).fields = fields ∧ rest = [] := by
  refine ⟨fun cs => ?_, fun _ _ _ => Round.consumes, fun _ _ => length_le_of_follows,
    fun query fields rest => ?_⟩
  · obtain ⟨fields, rest, hread⟩ := exists_readsFields parentName cs
    have hbounded : ∀ rounds, cs.length ≤ rounds →
        readFields parentName rounds cs = (fields, rest) := fun _ => hread.readFields_eq
    refine ⟨fields, rest, fun fields' rest' => ?_, hbounded, hread.suffix, hread.stops⟩
    rw [readsFields_iff (Nat.le_refl _), hbounded _ (Nat.le_refl _), Prod.mk.injEq]
    exact and_congr eq_comm eq_comm
  · refine readsQuery_iff ?_
    rw [String.length_toList]
    exact Nat.lt_succ_self _

/-- Text behind a field, a brace that closes nothing, a fragment at which no field begins, a call
whose arguments fail, and a group that is not closed. -/
theorem reading_ends_malformed :
    let query := "a b\x7d,(c\x7d,d.limit(\x7b),e\x7bf,\x7d,g\x7bh"
    let fragment := ['(', 'c', '}', ',', 'd']
    ReadsQuery Text.snakeCase query.toList (parse query).fields [] ∧
      (parse query).fields.map FilterField.name = ["a", "e"] ∧
      Round Text.snakeCase fragment none [',', 'd'] ∧
      [',', 'd'] <:+ fragment ∧ [',', 'd'].length < fragment.length ∧
      [fragment, [',', 'd'], ['d']].IsChain (Follows Text.snakeCase) ∧
      [[',', 'd'], ['d']].length ≤ fragment.length := by
  intro query fragment
  obtain ⟨-, hround, hplaces, hquery⟩ := reading_ends Text.snakeCase
  have hends : ¬ EndsField (Text.trimStart fragment) := by
    rw [Text.trimStart_cons (by decide)]
    exact nofun
  have hfragment : Round Text.snakeCase fragment none [',', 'd'] :=
    .fragment hends (.nameless rfl)
  have hcomma : Round Text.snakeCase [',', 'd'] none ['d'] := .comma rfl
  have hchain : [fragment, [',', 'd'], ['d']].IsChain (Follows Text.snakeCase) :=
    .cons_cons ⟨none, hfragment⟩ (.cons_cons ⟨none, hcomma⟩ (.singleton _))
  obtain ⟨hsuffix, hlt⟩ := hround _ _ _ hfragment
  exact ⟨(hquery query _ _).2 ⟨rfl, rfl⟩, by decide, hfragment, hsuffix, hlt, hchain,
    hplaces _ _ hchain⟩

end DocumentTemplates.Filter
