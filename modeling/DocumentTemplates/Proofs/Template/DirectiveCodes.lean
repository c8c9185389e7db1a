import DocumentTemplates.Proofs.Template.LiteralCodes
import DocumentTemplates.Proofs.Template.SameText

/-!
# Reading fingerprints back

A fingerprint is read from the left. Every part ends at a mark that it does not hold, if names are
plain, or where its brackets close; the last name of a directive ends with its line. So two readable
lists of directives with the same fingerprint have the same text directive by directive.
-/

namespace DocumentTemplates.Fingerprint

open Text

/-! ## Marks -/

/-- A name that holds none of the marks ends where the first of them stands. -/
theorem marked_inj {marks : List String} {c : Char}
    (hm : ∀ mark ∈ marks, mark.toList.head? = some c ∧ c ∉ mark.toList.tail) {s t : List Char}
    (hs : ∀ mark ∈ marks, ¬ mark.toList <:+: s) (ht : ∀ mark ∈ marks, ¬ mark.toList <:+: t)
    {rest more : List Char} (hrest : ∃ mark ∈ marks, mark.toList <+: c :: rest)
    (hmore : ∃ mark ∈ marks, mark.toList <+: c :: more) (h : s ++ c :: rest = t ++ c :: more) :
    s = t ∧ rest = more := by
  -- A mark in front of a text that goes on with the first character of a mark ends before that.
  have inside : ∀ {u tail : List Char}, (∃ mark ∈ marks, mark.toList <+: c :: (u ++ c :: tail)) →
      ∃ mark ∈ marks, mark.toList <:+: c :: u := by
    rintro u tail ⟨mark, hmark, hp⟩
    obtain ⟨hhead, htail⟩ := hm mark hmark
    refine ⟨mark, hmark, List.IsPrefix.isInfix ?_⟩
    obtain ⟨m, hmt⟩ : ∃ m, mark.toList = c :: m := List.head?_eq_some_iff.1 hhead
    rw [hmt] at hp htail ⊢
    obtain ⟨-, hp⟩ := List.cons_prefix_cons.1 hp
    rw [List.cons_prefix_cons]
    refine ⟨rfl, ?_⟩
    rcases List.prefix_or_prefix_of_prefix hp (List.prefix_append u _) with h | ⟨r, rfl⟩
    · exact h
    · rcases List.prefix_cons_iff.1 ((List.prefix_append_right_inj u).1 hp) with rfl | ⟨r', rfl, -⟩
      · rw [List.append_nil]
      · exact absurd (List.mem_append_right u List.mem_cons_self) htail
  induction s generalizing t with
  | nil =>
    cases t with
    | nil => exact ⟨rfl, (List.cons.inj h).2⟩
    | cons d t =>
      obtain ⟨rfl, hr⟩ := List.cons.inj h
      obtain ⟨mark, hmark, hi⟩ := inside (hr ▸ hrest)
      exact absurd hi (ht mark hmark)
  | cons d s ih =>
    cases t with
    | nil =>
      obtain ⟨rfl, hr⟩ := List.cons.inj h
      obtain ⟨mark, hmark, hi⟩ := inside (hr.symm ▸ hmore)
      exact absurd hi (hs mark hmark)
    | cons d' t =>
      obtain ⟨rfl, htail⟩ := List.cons.inj h
      obtain ⟨rfl, hr⟩ := ih (fun mark hmark hi => hs mark hmark (List.infix_cons hi))
        (fun mark hmark hi => ht mark hmark (List.infix_cons hi)) htail
      exact ⟨rfl, hr⟩

/-! ## Ends of lines -/

/-- The text is empty or goes on with another directive in a new line. -/
def EndsLine (rest : List Char) : Prop :=
  rest = [] ∨ ∃ tail, rest = '\n' :: tail ∧ ∃ mark ∈ Directive.openings, mark.toList <+: rest

theorem line_inj {cs ds rest more : List Char}
    (hc : ∀ mark ∈ Directive.openings, ¬ mark.toList <:+: cs)
    (hd : ∀ mark ∈ Directive.openings, ¬ mark.toList <:+: ds)
    (hrest : EndsLine rest) (hmore : EndsLine more) (h : cs ++ rest = ds ++ more) :
    cs = ds ∧ rest = more := by
  rcases hrest with rfl | ⟨tail, rfl, hm⟩ <;> rcases hmore with rfl | ⟨tail', rfl, hm'⟩
  · rw [List.append_nil, List.append_nil] at h
    exact ⟨h, rfl⟩
  · obtain ⟨mark, hmark, hp⟩ := hm'
    rw [List.append_nil] at h
    exact absurd (h ▸ List.infix_append_of_infix_right hp.isInfix) (hc mark hmark)
  · obtain ⟨mark, hmark, hp⟩ := hm
    rw [List.append_nil] at h
    exact absurd (h ▸ List.infix_append_of_infix_right hp.isInfix) (hd mark hmark)
  · obtain ⟨rfl, rfl⟩ := marked_inj (by decide) hc hd hm hm' h
    exact ⟨rfl, rfl⟩

/-! ## Guards -/

theorem ofCondition_inj {c d : Option Condition} (hc : c.any Condition.isPredicate = false)
    (hd : d.any Condition.isPredicate = false) (h : ofCondition c = ofCondition d) : c = d := by
  have hname : ∀ s t : String, ':' :: s.toList = ':' :: t.toList → s = t := fun s t h =>
    String.toList_inj.1 (List.cons.inj h).2
  rcases c with _ | ⟨⟨⟩ | ⟨⟩⟩ | s | ⟨label, test⟩ <;>
  rcases d with _ | ⟨⟨⟩ | ⟨⟩⟩ | t | ⟨label', test'⟩
  all_goals first
    | rfl
    | exact Bool.noConfusion (show true = false from hc)
    | exact Bool.noConfusion (show true = false from hd)
    | exact absurd (List.cons.inj h).1 (by decide)
    | exact congrArg (fun s => some (Condition.member s)) (hname _ _ h)

/-- A mark of names is in a condition only if it is in the name there. -/
theorem not_infix_ofCondition {mark : String} {c : Option Condition}
    (hmark : ∃ m ms, mark.toList = m :: ms ∧
      m ∉ ['-', ':', 't', 'r', 'u', 'e', 'f', 'a', 'l', 's'])
    (hc : c.any Condition.isPredicate = false)
    (hname : ∀ name ∈ c.bind Condition.memberName?, ¬ mark.toList <:+: name.toList) :
    ¬ mark.toList <:+: ofCondition c := by
  obtain ⟨m, ms, hms, hm⟩ := hmark
  rw [hms] at hname ⊢
  have hfixed : ∀ cs : List Char, cs ⊆ ['-', ':', 't', 'r', 'u', 'e', 'f', 'a', 'l', 's'] →
      ¬ m :: ms <:+: cs := fun cs hcs hi => hm (hcs (hi.subset List.mem_cons_self))
  rcases c with _ | ⟨⟨⟩ | ⟨⟩⟩ | name | ⟨label, test⟩
  · exact hfixed _ (by decide)
  · exact hfixed _ (by decide)
  · exact hfixed _ (by decide)
  · intro hi
    rcases List.infix_cons_iff.1 hi with hp | hi
    · rw [(List.cons_prefix_cons.1 hp).1] at hm
      exact hm (by decide)
    · exact hname name rfl hi
  · exact Bool.noConfusion (show true = false from hc)

theorem ofGuard_append (guard : Guard) (rest : List Char) :
    ofGuard guard ++ rest = "if=".toList ++ (ofCondition guard.onlyIf ++
      ';' :: ("unless=".toList ++ (ofCondition guard.exceptIf ++ rest))) := by
  show ("if=".toList ++ ofCondition guard.onlyIf ++ ";unless=".toList
    ++ ofCondition guard.exceptIf) ++ rest = _
  rw [List.append_assoc, List.append_assoc, List.append_assoc]
  rfl

theorem guarded_inj {s t rest more : List Char} {g g' : Guard}
    (hs : ∀ mark ∈ [";if="], ¬ String.toList mark <:+: s)
    (ht : ∀ mark ∈ [";if="], ¬ String.toList mark <:+: t)
    (h : s ++ ';' :: (ofGuard g ++ rest) = t ++ ';' :: (ofGuard g' ++ more)) :
    s = t ∧ ofGuard g ++ rest = ofGuard g' ++ more := by
  have hopen : ∀ (g : Guard) (rest : List Char),
      ∃ mark ∈ [";if="], String.toList mark <+: ';' :: (ofGuard g ++ rest) := by
    intro g rest
    rw [ofGuard_append]
    exact ⟨_, List.mem_singleton_self _, List.prefix_append (";if=".toList) _⟩
  exact marked_inj (by decide) hs ht (hopen g rest) (hopen g' more) h

/-- The text closes a directive: a bracket with no line break behind it. -/
def Closes (cs : List Char) : Prop :=
  cs.head? = some ')' ∧ '\n' ∉ cs

theorem not_infix_closed {mark : String} (hm : mark ∈ Directive.openings) {cs closing : List Char}
    (hc : ¬ mark.toList <:+: cs) (hclosing : Closes closing) :
    ¬ mark.toList <:+: cs ++ closing := by
  have hmark : '\n' ∈ mark.toList ∧ ')' ∉ mark.toList := by
    have all : ∀ mark ∈ Directive.openings, '\n' ∈ mark.toList ∧ ')' ∉ mark.toList := by decide
    exact all mark hm
  rw [List.infix_append_iff]
  rintro (hi | hi | ⟨l₁, l₂, hl, hs, hp⟩)
  · exact hc hi
  · exact hclosing.2 (hi.subset hmark.1)
  · obtain ⟨tail, rfl⟩ := List.head?_eq_some_iff.1 hclosing.1
    rcases List.prefix_cons_iff.1 hp with rfl | ⟨l, rfl, -⟩
    · rw [List.append_nil] at hl
      exact hc (hl ▸ hs.isInfix)
    · exact hmark.2 (hl ▸ List.mem_append_right l₁ List.mem_cons_self)

/-- A guard at the end of a line is read with what closes the directive, when that is equally long
on both sides. -/
theorem guard_inj {g g' : Guard} (hg : g.hasPredicate = false) (hg' : g'.hasPredicate = false)
    (hp : g.HasPlainNames) (hp' : g'.HasPlainNames) {closing closing' rest more : List Char}
    (hlength : closing.length = closing'.length) (hc : Closes closing) (hc' : Closes closing')
    (hrest : EndsLine rest) (hmore : EndsLine more)
    (h : ofGuard g ++ (closing ++ rest) = ofGuard g' ++ (closing' ++ more)) :
    g = g' ∧ closing = closing' ∧ rest = more := by
  obtain ⟨hif, hunless⟩ := Bool.or_eq_false_iff.1 hg
  obtain ⟨hif', hunless'⟩ := Bool.or_eq_false_iff.1 hg'
  have hfirst : ∀ {c : Option Condition}, c.any Condition.isPredicate = false →
      (∀ name ∈ c.bind Condition.memberName?, Avoids [";unless="] name) →
      ∀ mark ∈ [";unless="], ¬ String.toList mark <:+: ofCondition c := by
    intro c hf hn mark hm
    obtain rfl := List.mem_singleton.1 hm
    exact not_infix_ofCondition ⟨';', _, rfl, by decide⟩ hf fun name hname => hn name hname _ hm
  have hlast : ∀ {c : Option Condition} {cs : List Char}, c.any Condition.isPredicate = false →
      (∀ name ∈ c.bind Condition.memberName?, Avoids Directive.openings name) → Closes cs →
      ∀ mark ∈ Directive.openings, ¬ mark.toList <:+: ofCondition c ++ cs := by
    intro c cs hf hn hcs mark hm
    have hhead : ∀ mark ∈ Directive.openings, mark.toList = '\n' :: mark.toList.tail := by decide
    refine not_infix_closed hm (not_infix_ofCondition ⟨'\n', _, hhead mark hm, by decide⟩ hf ?_) hcs
    exact fun name hname => hn name hname mark hm
  have hopen : ∀ cs : List Char,
      ∃ mark ∈ [";unless="], String.toList mark <+: ';' :: ("unless=".toList ++ cs) := fun cs =>
    ⟨_, List.mem_singleton_self _, List.prefix_append (";unless=".toList) cs⟩
  rw [ofGuard_append, ofGuard_append] at h
  obtain ⟨honly, ht⟩ := marked_inj (by decide) (hfirst hif hp.1) (hfirst hif' hp'.1) (hopen _)
    (hopen _) (List.append_cancel_left h)
  have ht := List.append_cancel_left ht
  rw [← List.append_assoc, ← List.append_assoc] at ht
  obtain ⟨hline, hr⟩ :=
    line_inj (hlast hunless hp.2 hc) (hlast hunless' hp'.2 hc') hrest hmore ht
  obtain ⟨hexcept, hclosing⟩ := List.append_inj' hline hlength
  obtain ⟨onlyIf, exceptIf⟩ := g
  obtain ⟨onlyIf', exceptIf'⟩ := g'
  obtain rfl : onlyIf = onlyIf' := ofCondition_inj hif hif' honly
  obtain rfl : exceptIf = exceptIf' := ofCondition_inj hunless hunless' hexcept
  exact ⟨rfl, hclosing, hr⟩

/-! ## Directives -/

/-- What closes a directive with a nested template. -/
def closing (body : Template) : List Char :=
  ")[".toList ++ (body.digest.toList ++ [']'])

theorem closing_inj {body body' : Template} (h : closing body = closing body') :
    body.digest = body'.digest :=
  String.toList_inj.1 (List.append_cancel_right (List.append_cancel_left h))

variable {rest more : List Char}

theorem length_closing {body : Template} {s : String} (h : body.digest = Digest.ofText s) :
    (closing body).length = 74 := by
  rw [closing, List.length_append, List.length_append, h, Digest.length_toList_ofText]
  rfl

theorem closes_closing {body : Template} {s : String} (h : body.digest = Digest.ofText s) :
    Closes (closing body) := by
  have hdigest : '\n' ∉ (Digest.ofText s).toList := Digest.not_mem_ofText (by decide) (by decide) s
  refine ⟨rfl, ?_⟩
  rw [closing, h, List.mem_append, List.mem_append]
  rintro (hm | hm | hm)
  · exact absurd hm (by decide)
  · exact hdigest hm
  · exact absurd hm (by decide)

theorem closed_inj {g g' : Guard} (hg : g.hasPredicate = false) (hg' : g'.hasPredicate = false)
    (hp : g.HasPlainNames) (hp' : g'.HasPlainNames) {body body' : Template} {s s' : String}
    (hs : body.digest = Digest.ofText s) (hs' : body'.digest = Digest.ofText s')
    (hrest : EndsLine rest) (hmore : EndsLine more)
    (h : ofGuard g ++ (closing body ++ rest) = ofGuard g' ++ (closing body' ++ more)) :
    g = g' ∧ body.digest = body'.digest ∧ rest = more := by
  have hlength : (closing body).length = (closing body').length := by
    rw [length_closing hs, length_closing hs']
  obtain ⟨hguard, hclosing, hr⟩ := guard_inj hg hg' hp hp' hlength (closes_closing hs)
    (closes_closing hs') hrest hmore h
  exact ⟨hguard, closing_inj hclosing, hr⟩

theorem open_inj {g g' : Guard} (hg : g.hasPredicate = false) (hg' : g'.hasPredicate = false)
    (hp : g.HasPlainNames) (hp' : g'.HasPlainNames) (hrest : EndsLine rest)
    (hmore : EndsLine more)
    (h : ofGuard g ++ ([')'] ++ rest) = ofGuard g' ++ ([')'] ++ more)) : g = g' ∧ rest = more := by
  have hcloses : Closes [')'] := ⟨rfl, by decide⟩
  obtain ⟨hguard, -, hr⟩ := guard_inj hg hg' hp hp' rfl hcloses hcloses hrest hmore h
  exact ⟨hguard, hr⟩

theorem attribute_append (a : Attribute) (rest : List Char) :
    ofDirective (.attribute a) ++ rest = "attribute(".toList ++ (a.name.toList ++ '=' :: '>' ::
      (a.key.toList ++ ';' :: (ofGuard a.guard ++ ([')'] ++ rest)))) := by
  show ("attribute(".toList ++ a.name.toList ++ "=>".toList ++ a.key.toList ++ ';' :: ofGuard a.guard
    ++ [')']) ++ rest = _
  simp only [List.append_assoc, List.cons_append]
  rfl

theorem node_append (n : Node) (rest : List Char) :
    ofDirective (.node n) ++ rest = "node(".toList ++ ((n.name.getD "-").toList ++ ';' ::
      (ofComputation n.compute ++ ';' :: (ofGuard n.guard ++ ([')'] ++ rest)))) := by
  show ("node(".toList ++ (n.name.getD "-").toList ++ ';' :: ofComputation n.compute
    ++ ';' :: ofGuard n.guard ++ [')']) ++ rest = _
  simp only [List.append_assoc, List.cons_append]

theorem child_append (selector : Selector) (objectRoot : Option RootSetting) (guard : Guard)
    (body : Template) (rest : List Char) :
    ofDirective (.child selector objectRoot guard body) ++ rest = "child(".toList ++
      (ofSelector selector ++ ';' :: (optional (objectRoot.map ofRoot) ++ ';' ::
        (ofGuard guard ++ (closing body ++ rest)))) := by
  show ("child(".toList ++ ofSelector selector ++ ';' :: optional (objectRoot.map ofRoot)
    ++ ';' :: ofGuard guard ++ ")[".toList ++ body.digest.toList ++ [']']) ++ rest = _
  simp only [closing, List.append_assoc, List.cons_append]

theorem glue_append (selector : Selector) (guard : Guard) (body : Template) (rest : List Char) :
    ofDirective (.glue selector guard body) ++ rest = "glue(".toList ++
      (ofSelector selector ++ ';' :: (ofGuard guard ++ (closing body ++ rest))) := by
  show ("glue(".toList ++ ofSelector selector ++ ';' :: ofGuard guard ++ ")[".toList
    ++ body.digest.toList ++ [']']) ++ rest = _
  simp only [closing, List.append_assoc, List.cons_append]

theorem extend_append (base : String) (object : Option Selector) (guard : Guard)
    (extra : Template) (rest : List Char) :
    ofDirective (.extend base object guard extra) ++ rest = "extends(".toList ++
      (base.toList ++ ';' :: (optional (object.map ofSelector) ++ ';' ::
        (ofGuard guard ++ (closing extra ++ rest)))) := by
  show ("extends(".toList ++ base.toList ++ ';' :: optional (object.map ofSelector)
    ++ ';' :: ofGuard guard ++ ")[".toList ++ extra.digest.toList ++ [']']) ++ rest = _
  simp only [closing, List.append_assoc, List.cons_append]

theorem nodeName_inj {m n : Option String} (hm : m ≠ some "-") (hn : n ≠ some "-")
    (h : m.getD "-" = n.getD "-") : m = n := by
  cases m with
  | none =>
    cases n with
    | none => rfl
    | some t => exact absurd (congrArg some h.symm) hn
  | some s =>
    cases n with
    | none => exact absurd (congrArg some h) hm
    | some t => exact congrArg some h

theorem computation_inj {c d : Computation} {g g' : Guard} (hc : c.isFunction = false)
    (hd : d.isFunction = false) (hp : c.HasPlainName) (hp' : d.HasPlainName)
    (h : ofComputation c ++ ';' :: (ofGuard g ++ rest) =
      ofComputation d ++ ';' :: (ofGuard g' ++ more)) :
    SameButNans Computation.nans c d ∧ ofGuard g ++ rest = ofGuard g' ++ more := by
  cases c with
  | function label f => exact Bool.noConfusion (show true = false from hc)
  | helper s =>
    cases d with
    | function label f => exact Bool.noConfusion (show true = false from hd)
    | helper t =>
      have h : ("helper:".toList ++ s.toList) ++ ';' :: (ofGuard g ++ rest) =
        ("helper:".toList ++ t.toList) ++ ';' :: (ofGuard g' ++ more) := h
      rw [List.append_assoc, List.append_assoc] at h
      obtain ⟨hst, hr⟩ := guarded_inj hp hp' (List.append_cancel_left h)
      obtain rfl : s = t := String.toList_inj.1 hst
      exact ⟨.refl _, hr⟩
    | value v => exact absurd (List.cons.inj h).1 (by decide)
  | value v =>
    cases d with
    | function label f => exact Bool.noConfusion (show true = false from hd)
    | helper t => exact absurd (List.cons.inj h).1 (by decide)
    | value w =>
      have h : ("value:".toList ++ ofValue v) ++ ';' :: (ofGuard g ++ rest) =
        ("value:".toList ++ ofValue w) ++ ';' :: (ofGuard g' ++ more) := h
      rw [List.append_assoc, List.append_assoc] at h
      obtain ⟨hvalue, hr⟩ := ofValue_selfDelimiting v w _ _ (List.append_cancel_left h)
      exact ⟨hvalue.map Computation.value fun _ => rfl, (List.cons.inj hr).2⟩

theorem nodeName_append_inj {m n : Option String} {c d : Computation} (hm : m ≠ some "-")
    (hn : n ≠ some "-") (hp : ∀ name ∈ m, Avoids [";helper:", ";value:"] name)
    (hp' : ∀ name ∈ n, Avoids [";helper:", ";value:"] name) (hc : c.isFunction = false)
    (hd : d.isFunction = false)
    (h : (m.getD "-").toList ++ ';' :: (ofComputation c ++ rest) =
      (n.getD "-").toList ++ ';' :: (ofComputation d ++ more)) :
    m = n ∧ ofComputation c ++ rest = ofComputation d ++ more := by
  have hname : ∀ {n : Option String}, (∀ name ∈ n, Avoids [";helper:", ";value:"] name) →
      Avoids [";helper:", ";value:"] (n.getD "-") := by
    intro n h
    cases n with
    | none => exact (by decide : Avoids [";helper:", ";value:"] "-")
    | some name => exact h name rfl
  have hopen : ∀ {c : Computation} {rest : List Char}, c.isFunction = false →
      ∃ mark ∈ [";helper:", ";value:"], String.toList mark <+: ';' :: (ofComputation c ++ rest) := by
    intro c rest hc
    cases c with
    | function label f => exact Bool.noConfusion (show true = false from hc)
    | helper s => exact ⟨";helper:", by decide, s.toList ++ rest, (List.append_assoc _ _ _).symm⟩
    | value v => exact ⟨";value:", by decide, ofValue v ++ rest, (List.append_assoc _ _ _).symm⟩
  obtain ⟨hmn, hr⟩ := marked_inj (by decide) (hname hp) (hname hp') (hopen hc) (hopen hd) h
  exact ⟨nodeName_inj hm hn (String.toList_inj.1 hmn), hr⟩

theorem base_append_inj {base base' : String} {o o' : Option Selector}
    (hp : Avoids [";None", ";Some("] base) (hp' : Avoids [";None", ";Some("] base')
    (h : base.toList ++ ';' :: (optional (o.map ofSelector) ++ rest) =
      base'.toList ++ ';' :: (optional (o'.map ofSelector) ++ more)) :
    base = base' ∧ optional (o.map ofSelector) ++ rest = optional (o'.map ofSelector) ++ more := by
  have hopen : ∀ (o : Option Selector) (rest : List Char), ∃ mark ∈ [";None", ";Some("],
      String.toList mark <+: ';' :: (optional (o.map ofSelector) ++ rest) := by
    intro o rest
    cases o with
    | none => exact ⟨";None", by decide, rest, rfl⟩
    | some s =>
      refine ⟨";Some(", by decide, ofSelector s ++ ')' :: rest, ?_⟩
      rw [Option.map_some, optional, applied_append]
      rfl
  obtain ⟨hbase, hr⟩ := marked_inj (by decide) hp hp' (hopen o rest) (hopen o' more) h
  exact ⟨String.toList_inj.1 hbase, hr⟩

/-- Two readable directives are read from their text, as far as it tells them. -/
theorem ofDirective_inj {d e : Directive} (hd : d.hasFunctions = false)
    (he : e.hasFunctions = false) (hp : d.HasPlainNames) (hp' : e.HasPlainNames)
    (hs : ∀ b ∈ d.body?, b.digest = Digest.ofText b.fingerprint)
    (hs' : ∀ b ∈ e.body?, b.digest = Digest.ofText b.fingerprint)
    (hrest : EndsLine rest) (hmore : EndsLine more)
    (h : ofDirective d ++ rest = ofDirective e ++ more) : d.SameText e ∧ rest = more := by
  have hg := Directive.hasPredicate_of_hasFunctions hd
  have hg' := Directive.hasPredicate_of_hasFunctions he
  cases d with
  | «attribute» a =>
    cases e with
    | «attribute» b =>
      rw [attribute_append, attribute_append] at h
      have hopen : ∀ cs : List Char, ∃ mark ∈ ["=>"], String.toList mark <+: '=' :: '>' :: cs :=
        fun cs => ⟨_, List.mem_singleton_self _, cs, rfl⟩
      obtain ⟨hname, ht⟩ := marked_inj (by decide) hp.1 hp'.1 (hopen _) (hopen _)
        (List.append_cancel_left h)
      obtain ⟨hkey, ht⟩ := guarded_inj hp.2.1 hp'.2.1 (List.cons.inj ht).2
      obtain ⟨hguard, hr⟩ := open_inj hg hg' hp.guard hp'.guard hrest hmore ht
      exact ⟨.attribute (String.toList_inj.1 hname) (String.toList_inj.1 hkey) hguard, hr⟩
    | _ => exact absurd (List.cons.inj h).1 (by decide)
  | node n =>
    cases e with
    | node m =>
      rw [node_append, node_append] at h
      have hf := (Bool.or_eq_false_iff.1 hd).2
      have hf' := (Bool.or_eq_false_iff.1 he).2
      obtain ⟨hname, ht⟩ := nodeName_append_inj hp.1 hp'.1 hp.2.1 hp'.2.1 hf hf'
        (List.append_cancel_left h)
      obtain ⟨hcompute, ht⟩ := computation_inj hf hf' hp.2.2.1 hp'.2.2.1 ht
      obtain ⟨hguard, hr⟩ := open_inj hg hg' hp.guard hp'.guard hrest hmore ht
      obtain ⟨name, guard, compute⟩ := n
      obtain ⟨name', guard', compute'⟩ := m
      obtain rfl : name = name' := hname
      obtain rfl : guard = guard' := hguard
      exact ⟨.node name guard hcompute, hr⟩
    | _ => exact absurd (List.cons.inj h).1 (by decide)
  | child selector objectRoot guard body =>
    cases e with
    | child selector' objectRoot' guard' body' =>
      rw [child_append, child_append] at h
      obtain ⟨hselector, ht⟩ :=
        ofSelector_selfDelimiting selector selector' _ _ (List.append_cancel_left h)
      obtain ⟨rfl, htail⟩ := optional_selfDelimiting_eq (fun r _ => ofRoot_selfDelimiting r)
        objectRoot' _ _ (List.cons.inj ht).2
      obtain ⟨hguard, hdigest, hr⟩ := closed_inj hg hg' hp.guard hp'.guard (hs body rfl)
        (hs' body' rfl) hrest hmore (List.cons.inj htail).2
      obtain rfl : guard = guard' := hguard
      exact ⟨.child hselector objectRoot guard hdigest, hr⟩
    | _ => exact absurd (List.cons.inj h).1 (by decide)
  | glue selector guard body =>
    cases e with
    | glue selector' guard' body' =>
      rw [glue_append, glue_append] at h
      obtain ⟨hselector, ht⟩ :=
        ofSelector_selfDelimiting selector selector' _ _ (List.append_cancel_left h)
      obtain ⟨hguard, hdigest, hr⟩ := closed_inj hg hg' hp.guard hp'.guard (hs body rfl)
        (hs' body' rfl) hrest hmore (List.cons.inj ht).2
      obtain rfl : guard = guard' := hguard
      exact ⟨.glue hselector guard hdigest, hr⟩
    | _ => exact absurd (List.cons.inj h).1 (by decide)
  | extend base object guard extra =>
    cases e with
    | extend base' object' guard' extra' =>
      rw [extend_append, extend_append] at h
      obtain ⟨hbase, ht⟩ := base_append_inj hp.1 hp'.1 (List.append_cancel_left h)
      obtain ⟨hobject, htail⟩ := optional_selfDelimiting (fun s _ => ofSelector_selfDelimiting s)
        object' _ _ ht
      obtain ⟨hguard, hdigest, hr⟩ := closed_inj hg hg' hp.guard hp'.guard (hs extra rfl)
        (hs' extra' rfl) hrest hmore (List.cons.inj htail).2
      obtain rfl : base = base' := hbase
      obtain rfl : guard = guard' := hguard
      exact ⟨.extend base (.optional hobject) guard hdigest, hr⟩
    | _ => exact absurd (List.cons.inj h).1 (by decide)

/-! ## Lists of directives -/

def laterLines : List Directive → List Char
  | [] => []
  | d :: rest => '\n' :: ofDirectives (d :: rest)

theorem ofDirectives_cons (d : Directive) (rest : List Directive) :
    ofDirectives (d :: rest) = ofDirective d ++ laterLines rest := by
  cases rest with
  | nil => exact (List.append_nil _).symm
  | cons e rest => rfl

theorem endsLine_laterLines (directives : List Directive) : EndsLine (laterLines directives) := by
  cases directives with
  | nil => exact .inl rfl
  | cons d rest =>
    refine .inr ⟨_, rfl, ?_⟩
    rw [laterLines, ofDirectives_cons]
    cases d with
    | «attribute» a =>
      rw [attribute_append]
      exact ⟨"\nattribute(", by decide, List.prefix_append "\nattribute(".toList _⟩
    | node n =>
      rw [node_append]
      exact ⟨"\nnode(", by decide, List.prefix_append "\nnode(".toList _⟩
    | child selector objectRoot guard body =>
      rw [child_append]
      exact ⟨"\nchild(", by decide, List.prefix_append "\nchild(".toList _⟩
    | glue selector guard body =>
      rw [glue_append]
      exact ⟨"\nglue(", by decide, List.prefix_append "\nglue(".toList _⟩
    | extend base object guard extra =>
      rw [extend_append]
      exact ⟨"\nextends(", by decide, List.prefix_append "\nextends(".toList _⟩

theorem ofDirectives_of_laterLines {ds es : List Directive} (h : laterLines ds = laterLines es) :
    ofDirectives ds = ofDirectives es := by
  cases ds with
  | nil =>
    cases es with
    | nil => rfl
    | cons e es => exact absurd h (List.cons_ne_nil _ _).symm
  | cons d ds =>
    cases es with
    | nil => exact absurd h (List.cons_ne_nil _ _)
    | cons e es => exact (List.cons.inj h).2

theorem ofDirectives_ne_nil (d : Directive) (rest : List Directive) :
    ofDirectives (d :: rest) ≠ [] := by
  rw [ofDirectives_cons]
  cases d <;> exact fun h => List.cons_ne_nil _ _ h

/-- Readable lists with the same fingerprint have the same text directive by directive. -/
theorem ofDirectives_inj {texts : List String} {ds es : List Directive}
    (hds : Template.Readable texts ds) (hes : Template.Readable texts es)
    (h : ofDirectives ds = ofDirectives es) : List.Forall₂ Directive.SameText ds es := by
  induction ds generalizing es with
  | nil =>
    cases es with
    | nil => exact .nil
    | cons e es => exact absurd h.symm (ofDirectives_ne_nil e es)
  | cons d ds ih =>
    cases es with
    | nil => exact absurd h (ofDirectives_ne_nil d ds)
    | cons e es =>
      rw [ofDirectives_cons, ofDirectives_cons] at h
      obtain ⟨hde, hlater⟩ := ofDirective_inj hds.head_functionFree hes.head_functionFree
        hds.head_plain hes.head_plain (fun b hb => hds.body_digest hb)
        (fun b hb => hes.body_digest hb) (endsLine_laterLines ds) (endsLine_laterLines es) h
      exact .cons hde (ih hds.tail hes.tail (ofDirectives_of_laterLines hlater))

end DocumentTemplates.Fingerprint
