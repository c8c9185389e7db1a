import DocumentTemplates.Proofs.Cache.Keys
import DocumentTemplates.Proofs.Filter.CanonicalQuery

/-!
# What keys tell apart

Equal keys have equal content keys, roots and formats. Their digest parts join a digest and, with a
filter, a bar and its query. A query that was read has bars in the arguments of its calls only, so
behind a bar in it a parenthesis is closed that was not opened. Thus the query is found behind the
right bar, and two keys with filters are equal only if digests and queries are. But a key without
filter may equal one with a filter: its digest may end in a bar and the query.
-/

namespace DocumentTemplates

/-! ## Bars in queries -/

/-- The parentheses balance, and a bar stands only between them. -/
structure BarsEnclosed (cs : List Char) : Prop where
  balanced : cs.count '(' = cs.count ')'
  enclosed : ∀ before after, cs = before ++ '|' :: after → after.count '(' < after.count ')'

namespace BarsEnclosed

theorem of_plain {cs : List Char} (h : ∀ c ∈ cs, c ∉ ['(', ')', '|']) : BarsEnclosed cs where
  balanced := by
    rw [List.count_eq_zero_of_not_mem fun hc => h _ hc (by decide),
      List.count_eq_zero_of_not_mem fun hc => h _ hc (by decide)]
  enclosed before after hcs := by
    subst hcs
    exact absurd (by decide) (h '|' (by simp))

theorem singleton {c : Char} (h : c ∉ ['(', ')', '|']) : BarsEnclosed [c] :=
  of_plain fun _ hc => List.mem_singleton.1 hc ▸ h

theorem append {as bs : List Char} (ha : BarsEnclosed as) (hb : BarsEnclosed bs) :
    BarsEnclosed (as ++ bs) where
  balanced := by rw [List.count_append, List.count_append, ha.balanced, hb.balanced]
  enclosed before after h := by
    rcases List.append_eq_append_iff.1 h with ⟨more, rfl, hbs⟩ | ⟨more, has, hmore⟩
    · exact hb.enclosed more after hbs
    · rcases List.cons_eq_append_iff.1 hmore with ⟨rfl, hbs⟩ | ⟨inner, rfl, rfl⟩
      · exact hb.enclosed [] after hbs
      · have hinner := ha.enclosed before inner has
        rw [List.count_append, List.count_append, hb.balanced]
        omega

/-- Between parentheses bars may stand anywhere. -/
theorem parenthesised {inner : List Char} (h : ∀ c ∈ inner, Filter.isParenMark c = false) :
    BarsEnclosed ('(' :: (inner ++ [')'])) := by
  have hcount : ∀ {cs : List Char}, (∀ c ∈ cs, c ∈ inner) → cs.count '(' = 0 ∧ cs.count ')' = 0 := by
    intro cs hcs
    constructor
    · exact List.count_eq_zero_of_not_mem fun hc => absurd (h _ (hcs _ hc)) (by decide)
    · exact List.count_eq_zero_of_not_mem fun hc => absurd (h _ (hcs _ hc)) (by decide)
  constructor
  · obtain ⟨hopen, hclose⟩ := hcount fun _ hc => hc
    simp [hopen, hclose]
  · intro before after hcs
    rcases List.cons_eq_append_iff.1 hcs with ⟨-, hbar⟩ | ⟨before, -, hcs⟩
    · exact absurd (List.cons.inj hbar).1 (by decide)
    rcases List.append_eq_append_iff.1 hcs with ⟨more, -, hlast⟩ | ⟨more, hinner, hmore⟩
    · rcases List.singleton_eq_append_iff.1 hlast with ⟨-, hbar⟩ | ⟨-, hbar⟩
      · exact absurd (List.cons.inj hbar).1 (by decide)
      · cases hbar
    · rcases List.cons_eq_append_iff.1 hmore with ⟨-, hbar⟩ | ⟨rest, rfl, rfl⟩
      · exact absurd (List.cons.inj hbar).1 (by decide)
      · have hrest : ∀ c ∈ rest, c ∈ inner := fun c hc => by simp [hinner, hc]
        obtain ⟨hopen, hclose⟩ := hcount hrest
        simp [hopen, hclose]

end BarsEnclosed

namespace Filter

variable {parentName : String → String}

theorem barsEnclosed_name {name : List Char} (h : ∀ c ∈ name, isNameChar c = true) :
    BarsEnclosed name := by
  refine .of_plain fun c hc hmark => ?_
  have hname := h c hc
  simp only [List.mem_cons, List.not_mem_nil, or_false] at hmark
  rcases hmark with rfl | rfl | rfl <;> revert hname <;> decide

theorem barsEnclosed_calls {calls : List FunctionCall} (h : ∀ call ∈ calls, IsCall call) :
    BarsEnclosed (calls.flatMap renderCall) := by
  induction calls with
  | nil => exact .of_plain nofun
  | cons call rest ih =>
    have hcall := h call List.mem_cons_self
    have hdot : BarsEnclosed ['.'] := .singleton (by decide)
    have hname := barsEnclosed_name (name_function call.function).2.1
    have hargs := BarsEnclosed.parenthesised (isParenMark_of_mem_argsText hcall.args)
    have htext : renderCall call =
        ['.'] ++ call.function.name.toList ++ '(' :: (argsText call.args ++ [')']) := rfl
    rw [List.flatMap_cons, htext]
    exact ((hdot.append hname).append hargs).append
      (ih fun c hc => h c (List.mem_cons_of_mem call hc))

theorem barsEnclosed_renderFields {fields : List FilterField}
    (h : ∀ field ∈ fields, BarsEnclosed (renderField field)) :
    BarsEnclosed (renderFields fields) := by
  induction fields with
  | nil => exact .of_plain nofun
  | cons field rest ih =>
    rw [renderFields_cons]
    refine (h field List.mem_cons_self).append ?_
    split
    · exact .of_plain nofun
    · have hcomma : BarsEnclosed [','] := .singleton (by decide)
      exact hcomma.append (ih fun f hf => h f (List.mem_cons_of_mem field hf))

theorem barsEnclosed_renderField {field : FilterField} (h : IsField parentName field) :
    BarsEnclosed (renderField field) := by
  induction h with
  | plain hname hcalls =>
    rw [renderField]
    exact (barsEnclosed_name hname.chars).append (barsEnclosed_calls hcalls)
  | group hname hcalls _ ih =>
    have hopen : BarsEnclosed ['{'] := .singleton (by decide)
    have hclose : BarsEnclosed ['}'] := .singleton (by decide)
    rw [renderField, render]
    exact ((barsEnclosed_name hname.chars).append (barsEnclosed_calls hcalls)).append
      (hopen.append ((barsEnclosed_renderFields ih).append hclose))

/-- A filter that was read from a query, or one that is nested in it. -/
inductive FromQuery : Filter → Prop
  | parse (query : String) : FromQuery (Filter.parse query)
  | nested {f g : Filter} {name : String} (hf : FromQuery f) (hg : f.nestedFor? name = some g) :
      FromQuery g

theorem FromQuery.isField {f : Filter} (h : f.FromQuery) :
    ∀ field ∈ f.fields, IsField Text.snakeCase field := by
  induction h with
  | parse query => exact readQuery_isField _ _
  | @nested f g name _ hg ih =>
    rw [nestedFor?] at hg
    split at hg
    · rename_i field hfield
      have hnested := (Option.filter_eq_some_iff.1 hg).1
      cases ih field (List.mem_of_find?_eq_some hfield) with
      | plain => cases hnested
      | group _ _ hfields =>
        obtain rfl := Option.some.inj hnested
        exact hfields
    · cases hg

theorem FromQuery.barsEnclosed {f : Filter} (h : f.FromQuery) : BarsEnclosed f.query.toList := by
  obtain ⟨parent, fields⟩ := f
  rw [query, String.toList_ofList, render]
  exact barsEnclosed_renderFields fun field hfield => barsEnclosed_renderField (h.isField field hfield)

/-- No query that was read ends in a bar and such a query. -/
theorem FromQuery.not_suffix {f g : Filter} (hf : f.FromQuery) (hg : g.FromQuery)
    (before : List Char) : f.query.toList ≠ before ++ '|' :: g.query.toList := by
  intro h
  have hunbalanced := hf.barsEnclosed.enclosed before _ h
  have hbalanced := hg.barsEnclosed.balanced
  omega

end Filter

/-! ## Digest parts, keys -/

namespace CacheKey

theorem toList_digestWith (digest : String) (f : Filter) :
    (digestWith digest (some f)).toList = digest.toList ++ '|' :: f.query.toList := by
  simp [digestWith]

/-- A digest without filter that ends in a bar and the query of a filter beside another digest. -/
def ReadsAs (digest : String) (f : Option Filter) (digest' : String) (f' : Option Filter) : Prop :=
  f = none ∧ f'.isSome = true ∧ digest = digestWith digest' f'

/-- With filters that were read, the digest part says what the digest is, and the query. -/
theorem digestWith_some_inj {digest digest' : String} {f f' : Filter} (hf : f.FromQuery)
    (hf' : f'.FromQuery) (h : digestWith digest (some f) = digestWith digest' (some f')) :
    digest = digest' ∧ f.query = f'.query := by
  have hdigest : digest = digest' := by
    have hl := congrArg String.toList h
    rw [toList_digestWith, toList_digestWith] at hl
    -- were one digest longer, the query of the other filter would go on behind a bar
    rcases List.append_eq_append_iff.1 hl with ⟨more, hmore, hbar⟩ | ⟨more, hmore, hbar⟩
    · rcases List.cons_eq_append_iff.1 hbar with ⟨rfl, -⟩ | ⟨inner, -, hinner⟩
      · rw [List.append_nil] at hmore
        exact (String.toList_inj.1 hmore).symm
      · exact absurd hinner (hf.not_suffix hf' inner)
    · rcases List.cons_eq_append_iff.1 hbar with ⟨rfl, -⟩ | ⟨inner, -, hinner⟩
      · rw [List.append_nil] at hmore
        exact String.toList_inj.1 hmore
      · exact absurd hinner (hf'.not_suffix hf inner)
  subst hdigest
  exact ⟨rfl, Option.some.inj (digestWith_right_inj h)⟩

theorem digestWith_eq_iff {digest digest' : String} {f f' : Option Filter}
    (hf : ∀ g ∈ f, g.FromQuery) (hf' : ∀ g ∈ f', g.FromQuery) :
    digestWith digest f = digestWith digest' f' ↔
      (digest = digest' ∧ f.map Filter.query = f'.map Filter.query) ∨
        ReadsAs digest f digest' f' ∨ ReadsAs digest' f' digest f := by
  constructor
  · intro h
    cases f with
    | none =>
      cases f' with
      | none => exact Or.inl ⟨h, rfl⟩
      | some f' => exact Or.inr (Or.inl ⟨rfl, rfl, h⟩)
    | some f =>
      cases f' with
      | none => exact Or.inr (Or.inr ⟨rfl, rfl, h.symm⟩)
      | some f' =>
        obtain ⟨hdigest, hquery⟩ := digestWith_some_inj (hf f rfl) (hf' f' rfl) h
        exact Or.inl ⟨hdigest, congrArg some hquery⟩
  · rintro (⟨rfl, hquery⟩ | ⟨rfl, -, rfl⟩ | ⟨rfl, -, rfl⟩)
    · cases f <;> cases f' <;> simp_all [digestWith]
    · rfl
    · rfl

end CacheKey

namespace Plan

/-- Two keys of one configuration are equal exactly if content keys, roots and formats are, and
either digests and the queries of the filters too, or one has no filter and a digest that reads as
the digest and the filter of the other. -/
theorem equalKeys_iff {config : Config} {format format' : Format} {digest digest' : String}
    {plan plan' : Plan} {key key' : CacheKey} (hf : ∀ g ∈ plan.filter, g.FromQuery)
    (hf' : ∀ g ∈ plan'.filter, g.FromQuery) (hk : plan.key? config format digest = some key)
    (hk' : plan'.key? config format' digest' = some key') :
    key = key' ↔
      (plan.item.contentKey? = plan'.item.contentKey? ∧ plan.root = plan'.root ∧
        format = format') ∧
      ((digest = digest' ∧ plan.filter.map Filter.query = plan'.filter.map Filter.query) ∨
        CacheKey.ReadsAs digest plan.filter digest' plan'.filter ∨
        CacheKey.ReadsAs digest' plan'.filter digest plan.filter) := by
  obtain ⟨object, ho, rfl⟩ := Option.map_eq_some_iff.1 hk
  obtain ⟨object', ho', rfl⟩ := Option.map_eq_some_iff.1 hk'
  rw [← CacheKey.digestWith_eq_iff hf hf', ho, ho', CacheKey.mk.injEq, Option.some.injEq]
  constructor
  · rintro ⟨-, hobject, hroot, hformat, hdigest⟩
    exact ⟨⟨hobject, hroot, hformat⟩, hdigest⟩
  · rintro ⟨⟨hobject, hroot, hformat⟩, hdigest⟩
    exact ⟨rfl, hobject, hroot, hformat, hdigest⟩

/-- The digest of one ends as a call in the query of the other begins, up to a bar in its argument.
Still the keys differ. -/
theorem equalKeys_iff_barred_argument :
    let f := Filter.parse "tags.sort(a|b)"
    let f' := Filter.parse "b"
    let user := Data.record (some "user") (some "users/1") [("id", .integer 1)]
    let plan : Plan := ⟨user, none, some f⟩
    let plan' : Plan := ⟨user, none, some f'⟩
    let key : CacheKey := ⟨none, "users/1", none, .json, CacheKey.digestWith "v1" (some f)⟩
    let key' : CacheKey :=
      ⟨none, "users/1", none, .json, CacheKey.digestWith "v1|tags.sort(a" (some f')⟩
    f.query = "tags.sort(a|b)" ∧ f'.query = "b" ∧
      (∀ g ∈ plan.filter, g.FromQuery) ∧ (∀ g ∈ plan'.filter, g.FromQuery) ∧
      plan.key? {} .json "v1" = some key ∧ plan'.key? {} .json "v1|tags.sort(a" = some key' ∧
      key ≠ key' := by
  intro f f' user plan plan' key key'
  have hf : ∀ g ∈ plan.filter, g.FromQuery := by
    rintro _ ⟨⟩
    exact .parse _
  have hf' : ∀ g ∈ plan'.filter, g.FromQuery := by
    rintro _ ⟨⟩
    exact .parse _
  have hk : plan.key? {} .json "v1" = some key := rfl
  have hk' : plan'.key? {} .json "v1|tags.sort(a" = some key' := rfl
  refine ⟨by decide +kernel, by decide +kernel, hf, hf', hk, hk', fun h => ?_⟩
  obtain ⟨-, ⟨hdigest, -⟩ | ⟨hnone, -⟩ | ⟨hnone, -⟩⟩ := (equalKeys_iff hf hf' hk hk').1 h
  · exact absurd hdigest (by decide)
  · cases hnone
  · cases hnone

/-- The key under a digest with a bar is the key under another digest with a filter. -/
theorem not_equalKeys_barred :
    let S : Setting := ⟨{ caching := true }, .empty, .nowhere, Digest.ofText⟩
    let t := Template.mk none [.attribute { name := "name" }] "v1|id"
    let t' := Template.mk none [.attribute { name := "id" }] "v1"
    let user := Data.record none (some "users/1") [("id", .integer 1), ("name", .string "leo")]
    let plan : Plan := ⟨user, none, none⟩
    let plan' : Plan := ⟨user, none, some (Filter.parse "id")⟩
    let key : CacheKey := ⟨none, "users/1", none, .json, "v1|id"⟩
    (Filter.parse "id").isEmpty = false ∧
      S.key? .json t plan = some key ∧ S.key? .json t' plan' = some key ∧
      S.fullDigest t ≠ S.fullDigest t' ∧
      plan.filter.map Filter.query ≠ plan'.filter.map Filter.query := by
  intro S t t' user plan plan' key
  have hdigest : S.fullDigest t = "v1|id" := S.fullDigest_eq_digest rfl
  have hdigest' : S.fullDigest t' = "v1" := S.fullDigest_eq_digest rfl
  have hpart : CacheKey.digestWith "v1" (some (Filter.parse "id")) = "v1|id" := by decide +kernel
  refine ⟨by decide +kernel, ?_, ?_, ?_, nofun⟩
  · rw [Setting.key?, hdigest]
    rfl
  · rw [Setting.key?, hdigest', Plan.key?, hpart]
    rfl
  · rw [hdigest, hdigest']
    decide

end Plan

end DocumentTemplates
