import DocumentTemplates.Template.Reader
import Mathlib.Data.List.Forall2

/-!
# What the fields of an entry stand for

The fields of an entry stand for directives, by one rule for each way to write an entry, or they
are at fault in one way. Which of the two it is does not depend on the template nested in the entry,
so a fault of the entry comes before all faults in its nested template.
-/

namespace DocumentTemplates

/-- The attributes that an item of a list of attributes stands for. -/
inductive AttributeItem.Means : AttributeItem → List Directive → Prop
  | plain (name : String) : Means (.plain name) [.attribute { name }]
  | aliased (names : List (String × String)) :
    Means (.aliased names)
      (names.map fun (name, key) => .attribute { name, shownAs := some key })

namespace EntryFields

/-- The directives that fields stand for, one rule for each way to write an entry. Fields that a
rule does not name are absent. `body` is the template nested in the entry, which is empty if the
entry has none. -/
inductive Means (body : Template) : Bool → EntryFields → List Directive → Prop
  | attribute {name shownAs onlyIf exceptIf} :
    Means body false { attributeName := some name, shownAs, onlyIf, exceptIf }
      [.attribute { name, shownAs, guard := { onlyIf, exceptIf } }]
  | attributes {items dss} : List.Forall₂ AttributeItem.Means items dss →
    Means body false { attributeItems := some items } dss.flatten
  | helper {name helper onlyIf exceptIf} :
    Means body false { node := some name, helper := some helper, onlyIf, exceptIf }
      [.node { name := some name, guard := { onlyIf, exceptIf }, compute := .helper helper }]
  | value {name value onlyIf exceptIf} :
    Means body false { node := some name, value := some value, onlyIf, exceptIf }
      [.node { name := some name, guard := { onlyIf, exceptIf }, compute := .value value }]
  | ownHelper {name onlyIf exceptIf} :
    Means body false { node := some name, onlyIf, exceptIf }
      [.node { name := some name, guard := { onlyIf, exceptIf }, compute := .helper name }]
  | merge {helper onlyIf exceptIf} :
    Means body false { merge := some helper, onlyIf, exceptIf }
      [.node { name := none, guard := { onlyIf, exceptIf }, compute := .helper helper }]
  | child {hasBody text shownAs objectRoot onlyIf exceptIf} :
    Means body hasBody { child := some text, shownAs, objectRoot, onlyIf, exceptIf }
      [.child (selector text shownAs) objectRoot { onlyIf, exceptIf } body]
  | glue {hasBody text onlyIf exceptIf} :
    Means body hasBody { glue := some text, onlyIf, exceptIf }
      [.glue (.parse text) { onlyIf, exceptIf } body]
  | extend {hasBody base object onlyIf exceptIf} :
    Means body hasBody { extend := some base, object, onlyIf, exceptIf }
      [.extend base (object.map .parse) { onlyIf, exceptIf } body]

/-- The options of an entry all go with a directive key. -/
def OptionsFit (f : EntryFields) (hasBody : Bool) (kind : String) : Prop :=
  ∀ option ∈ f.options hasBody, option ∈ allowedOptions kind

/-- One directive key, with options that go with it, and not both of the ways in which a node can
get its value. -/
structure Valid (f : EntryFields) (hasBody : Bool) : Prop where
  oneKind : ∃ kind, f.kinds = [kind] ∧ f.OptionsFit hasBody kind
  oneSource : ¬ ("node" ∈ f.kinds ∧ f.helper.isSome ∧ f.value.isSome)

/-- What is wrong with fields. Of several misplaced options the first counts. -/
inductive Faulty (f : EntryFields) (hasBody : Bool) : EntryFault → Prop
  | noDirective : f.kinds = [] → Faulty f hasBody .noDirective
  | mixed : 2 ≤ f.kinds.length → Faulty f hasBody (.mixed f.kinds)
  | misplaced {kind option before after} :
    f.kinds = [kind] → f.options hasBody = before ++ option :: after →
    (∀ earlier ∈ before, earlier ∈ allowedOptions kind) → option ∉ allowedOptions kind →
    Faulty f hasBody (.misplaced option kind)
  | helperAndValue :
    f.kinds = ["node"] → f.OptionsFit hasBody "node" → f.helper.isSome → f.value.isSome →
    Faulty f hasBody .helperAndValue

theorem Faulty.not_valid {f : EntryFields} {hasBody : Bool} {fault : EntryFault}
    (h : f.Faulty hasBody fault) : ¬ f.Valid hasBody := by
  rintro ⟨⟨kind, hk, fit⟩, oneSource⟩
  cases h with
  | noDirective hnone => simp [hk] at hnone
  | mixed hmany => simp [hk] at hmany
  | misplaced hone hoptions _ hout =>
    obtain rfl : kind = _ := by simpa [hk] using hone
    exact hout (fit _ (by simp [hoptions]))
  | helperAndValue hnode _ hhelper hvalue => exact oneSource ⟨by simp [hnode], hhelper, hvalue⟩

/-! ## Keys and options, field by field -/

/-- Every key is set in a field of its own. -/
theorem key_present {f : EntryFields} {kind : String} (h : f.kinds = [kind]) :
    (f.attributeName.isSome ↔ kind = "attribute") ∧
    (f.attributeItems.isSome ↔ kind = "attributes") ∧
    (f.node.isSome ↔ kind = "node") ∧
    (f.merge.isSome ↔ kind = "merge") ∧
    (f.child.isSome ↔ kind = "child") ∧
    (f.glue.isSome ↔ kind = "glue") ∧
    (f.extend.isSome ↔ kind = "extends") := by
  have mem (k : String) : k ∈ f.kinds ↔ kind = k := by simp [h, eq_comm]
  simp only [kinds, List.mem_filterMap] at mem
  refine ⟨?_, ?_, ?_, ?_, ?_, ?_, ?_⟩
  · simpa using mem "attribute"
  · simpa using mem "attributes"
  · simpa using mem "node"
  · simpa using mem "merge"
  · simpa using mem "child"
  · simpa using mem "glue"
  · simpa using mem "extends"

theorem kind_mem {f : EntryFields} {kind : String} (h : kind ∈ f.kinds) :
    kind ∈ ["attribute", "attributes", "node", "merge", "child", "glue", "extends"] := by
  simp only [kinds, List.mem_filterMap] at h
  simp at h ⊢
  tauto

/-- Options fit if each option that is set is allowed. -/
theorem optionsFit_iff {f : EntryFields} {hasBody : Bool} {kind : String} :
    f.OptionsFit hasBody kind ↔
      (f.shownAs.isSome → "as" ∈ allowedOptions kind) ∧
      (f.onlyIf.isSome → "if" ∈ allowedOptions kind) ∧
      (f.exceptIf.isSome → "unless" ∈ allowedOptions kind) ∧
      (f.helper.isSome → "helper" ∈ allowedOptions kind) ∧
      (f.value.isSome → "value" ∈ allowedOptions kind) ∧
      (f.objectRoot.isSome → "object_root" ∈ allowedOptions kind) ∧
      (f.object.isSome → "object" ∈ allowedOptions kind) ∧
      (hasBody → "template" ∈ allowedOptions kind) := by
  simp only [OptionsFit, options, List.mem_filterMap]
  constructor
  · intro h
    refine ⟨?_, ?_, ?_, ?_, ?_, ?_, ?_, ?_⟩
    all_goals
      intro present
      exact h _ ⟨(_, true), by simp [present], rfl⟩
  · rintro h option ⟨⟨name, present⟩, hmem, hname⟩
    obtain ⟨rfl, rfl⟩ : present = true ∧ name = option := by simpa using hname
    simp only [List.mem_cons, Prod.mk.injEq, List.not_mem_nil, or_false] at hmem
    grind

/-! ## Faults -/

theorem kind_eq_ok_iff {f : EntryFields} {hasBody : Bool} {kind : String} :
    f.kind hasBody = .ok kind ↔ f.kinds = [kind] ∧ f.OptionsFit hasBody kind := by
  unfold EntryFields.kind
  split
  next hnone => simp [hnone]
  next only hone =>
    split
    next option hfound =>
      obtain ⟨hout, hmem⟩ : option ∉ allowedOptions only ∧ option ∈ f.options hasBody :=
        ⟨by simpa using List.find?_some hfound, List.mem_of_find?_eq_some hfound⟩
      simp only [reduceCtorEq, hone, List.cons.injEq, and_true, false_iff, not_and]
      rintro rfl fit
      exact hout (fit option hmem)
    next hfit =>
      have fit : f.OptionsFit hasBody only := by simpa [OptionsFit] using hfit
      simp only [Except.ok.injEq, hone, List.cons.injEq, and_true]
      exact ⟨fun h => ⟨h, h ▸ fit⟩, And.left⟩
  next hnone hone => simpa using fun h => absurd h (hone kind)

theorem faulty_of_kind {f : EntryFields} {hasBody : Bool} {fault : EntryFault}
    (h : f.kind hasBody = .error fault) : f.Faulty hasBody fault := by
  unfold EntryFields.kind at h
  split at h
  next hnone =>
    cases h
    exact .noDirective hnone
  next only hone =>
    split at h
    next option hfound =>
      cases h
      obtain ⟨hout, before, after, hoptions, hbefore⟩ := List.find?_eq_some_iff_append.1 hfound
      exact .misplaced hone hoptions (by simpa using hbefore) (by simpa using hout)
    next => cases h
  next hnone hone =>
    cases h
    refine .mixed ?_
    match hk : f.kinds with
    | [] => exact absurd hk hnone
    | [kind] => exact absurd hk (hone kind)
    | first :: second :: rest => simp

/-! ## What fields stand for -/

theorem attributeDirectives_eq_iff {items : List AttributeItem} {ds : List Directive} :
    attributeDirectives items = ds ↔
      ∃ dss, List.Forall₂ AttributeItem.Means items dss ∧ ds = dss.flatten := by
  constructor
  · rintro rfl
    induction items with
    | nil => exact ⟨[], .nil, rfl⟩
    | cons item rest ih =>
      obtain ⟨dss, hrest, heq⟩ := ih
      cases item with
      | plain name => exact ⟨_ :: dss, .cons (.plain name) hrest, congrArg _ heq⟩
      | aliased names => exact ⟨_ :: dss, .cons (.aliased names) hrest, congrArg _ heq⟩
  · rintro ⟨dss, hitems, rfl⟩
    induction hitems with
    | nil => rfl
    | cons hitem _ ih => cases hitem <;> exact congrArg _ ih

theorem Means.kind_ok {body : Template} {f : EntryFields} {hasBody : Bool} {ds : List Directive}
    (h : f.Means body hasBody ds) : ∃ kind, f.kind hasBody = .ok kind := by
  simp only [kind_eq_ok_iff]
  cases h with
  | «attribute» => exact ⟨"attribute", rfl, optionsFit_iff.2 (by simp [allowedOptions])⟩
  | attributes _ => exact ⟨"attributes", rfl, optionsFit_iff.2 (by simp [allowedOptions])⟩
  | helper => exact ⟨"node", rfl, optionsFit_iff.2 (by simp [allowedOptions])⟩
  | value => exact ⟨"node", rfl, optionsFit_iff.2 (by simp [allowedOptions])⟩
  | ownHelper => exact ⟨"node", rfl, optionsFit_iff.2 (by simp [allowedOptions])⟩
  | merge => exact ⟨"merge", rfl, optionsFit_iff.2 (by simp [allowedOptions])⟩
  | child => exact ⟨"child", rfl, optionsFit_iff.2 (by simp [allowedOptions])⟩
  | glue => exact ⟨"glue", rfl, optionsFit_iff.2 (by simp [allowedOptions])⟩
  | extend => exact ⟨"extends", rfl, optionsFit_iff.2 (by simp [allowedOptions])⟩

theorem Means.directives_ok {body : Template} {f : EntryFields} {hasBody : Bool}
    {ds : List Directive} (h : f.Means body hasBody ds) : f.directives body = .ok ds := by
  cases h with
  | attributes hitems => exact congrArg _ (attributeDirectives_eq_iff.2 ⟨_, hitems, rfl⟩)
  | _ => rfl

/-- Fields with one directive key and options that go with it stand for directives, unless a node
has two ways to get its value. -/
theorem means_or_faulty_of_kind {f : EntryFields} {hasBody : Bool} {kind : String}
    (h : f.kind hasBody = .ok kind) (body : Template) :
    (∃ ds, f.Means body hasBody ds) ∨
      f.directives body = .error .helperAndValue ∧ f.Faulty hasBody .helperAndValue := by
  obtain ⟨hone, fit⟩ := kind_eq_ok_iff.1 h
  have hkind := kind_mem (show kind ∈ f.kinds by simp [hone])
  have keys := key_present hone
  have options := optionsFit_iff.1 fit
  obtain ⟨a, items, n, m, c, g, e, shownAs, onlyIf, exceptIf, helper, value, root, object⟩ := f
  simp only [List.mem_cons, List.not_mem_nil, or_false] at hkind
  rcases hkind with rfl | rfl | rfl | rfl | rfl | rfl | rfl
  -- In each case the field of the key is there, and the other keys and the options that do not go
  -- with it are absent.
  all_goals
    simp [allowedOptions] at keys options
  · obtain ⟨key, rfl, rfl, rfl, rfl, rfl, rfl⟩ := keys
    obtain ⟨rfl, rfl, rfl, rfl, rfl⟩ := options
    obtain ⟨name, rfl⟩ := Option.isSome_iff_exists.1 key
    exact .inl ⟨_, .attribute⟩
  · obtain ⟨rfl, key, rfl, rfl, rfl, rfl, rfl⟩ := keys
    obtain ⟨rfl, rfl, rfl, rfl, rfl, rfl, rfl, rfl⟩ := options
    obtain ⟨items, rfl⟩ := Option.isSome_iff_exists.1 key
    obtain ⟨dss, hitems, -⟩ := attributeDirectives_eq_iff.1 (Eq.refl (attributeDirectives items))
    exact .inl ⟨_, .attributes hitems⟩
  · obtain ⟨rfl, rfl, key, rfl, rfl, rfl, rfl⟩ := keys
    obtain ⟨rfl, rfl, rfl, rfl⟩ := options
    obtain ⟨name, rfl⟩ := Option.isSome_iff_exists.1 key
    match helper, value with
    | none, none => exact .inl ⟨_, .ownHelper⟩
    | some helper, none => exact .inl ⟨_, .helper⟩
    | none, some value => exact .inl ⟨_, .value⟩
    | some helper, some value => exact .inr ⟨rfl, .helperAndValue hone fit rfl rfl⟩
  · obtain ⟨rfl, rfl, rfl, key, rfl, rfl, rfl⟩ := keys
    obtain ⟨rfl, rfl, rfl, rfl, rfl, rfl⟩ := options
    obtain ⟨helper, rfl⟩ := Option.isSome_iff_exists.1 key
    exact .inl ⟨_, .merge⟩
  · obtain ⟨rfl, rfl, rfl, rfl, key, rfl, rfl⟩ := keys
    obtain ⟨rfl, rfl, rfl⟩ := options
    obtain ⟨text, rfl⟩ := Option.isSome_iff_exists.1 key
    exact .inl ⟨_, .child⟩
  · obtain ⟨rfl, rfl, rfl, rfl, rfl, key, rfl⟩ := keys
    obtain ⟨rfl, rfl, rfl, rfl, rfl⟩ := options
    obtain ⟨text, rfl⟩ := Option.isSome_iff_exists.1 key
    exact .inl ⟨_, .glue⟩
  · obtain ⟨rfl, rfl, rfl, rfl, rfl, rfl, key⟩ := keys
    obtain ⟨rfl, rfl, rfl, rfl⟩ := options
    obtain ⟨base, rfl⟩ := Option.isSome_iff_exists.1 key
    exact .inl ⟨_, .extend⟩

theorem Means.valid {body : Template} {f : EntryFields} {hasBody : Bool} {ds : List Directive}
    (h : f.Means body hasBody ds) : f.Valid hasBody := by
  obtain ⟨kind, hkind⟩ := h.kind_ok
  refine ⟨⟨kind, kind_eq_ok_iff.1 hkind⟩, ?_⟩
  cases h <;> simp [kinds]

/-- No node nests a template, so a nested template is looked at only if nothing else is wrong. -/
theorem valid_of_kind {f : EntryFields} {kind : String} (h : f.kind true = .ok kind) :
    f.Valid true := by
  obtain ⟨hone, fit⟩ := kind_eq_ok_iff.1 h
  refine ⟨⟨kind, hone, fit⟩, ?_⟩
  rintro ⟨hnode, -⟩
  obtain rfl : "node" = kind := by simpa [hone] using hnode
  simpa [allowedOptions] using fit "template" (by simp [options])

/-- Fields at fault are refused for their fault. -/
theorem Faulty.refused {f : EntryFields} {hasBody : Bool} {fault : EntryFault}
    (h : f.Faulty hasBody fault) (body : Template) :
    (do let _ ← f.kind hasBody; f.directives body) = .error fault := by
  cases h with
  | noDirective hnone => simp [EntryFields.kind, hnone, bind, Except.bind]
  | mixed hmany =>
    match hk : f.kinds with
    | [] => simp [hk] at hmany
    | [kind] => simp [hk] at hmany
    | first :: second :: rest => simp [EntryFields.kind, hk, bind, Except.bind]
  | @misplaced kind option before after hone hoptions hbefore hout =>
    have hfound : (f.options hasBody).find? (· ∉ allowedOptions kind) = some option :=
      List.find?_eq_some_iff_append.2
        ⟨by simpa using hout, before, after, hoptions, by simpa using hbefore⟩
    simp only [EntryFields.kind, hone, hfound]
    rfl
  | helperAndValue hone fit hhelper hvalue =>
    have hkind := kind_eq_ok_iff.2 ⟨hone, fit⟩
    rcases means_or_faulty_of_kind hkind body with ⟨ds, hmeans⟩ | ⟨hds, _⟩
    · exact absurd hmeans.valid (Faulty.helperAndValue hone fit hhelper hvalue).not_valid
    · simp [hkind, hds, bind, Except.bind]

theorem Faulty.unique {f : EntryFields} {hasBody : Bool} {fault fault' : EntryFault}
    (h : f.Faulty hasBody fault) (h' : f.Faulty hasBody fault') : fault = fault' :=
  Except.error.inj ((h.refused default).symm.trans (h'.refused default))

end EntryFields

end DocumentTemplates
