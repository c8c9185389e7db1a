import DocumentTemplates.Proofs.Digest
import DocumentTemplates.Template.Fingerprint

/-!
# Directives at any depth

What is asked of directives for their fingerprints to be read back is asked of all directives of a
template, those of nested templates included.
-/

namespace DocumentTemplates

/-! ## Nested templates -/

def Directive.body? : Directive → Option Template
  | .attribute _ => none
  | .node _ => none
  | .child _ _ _ body => some body
  | .glue _ _ body => some body
  | .extend _ _ _ extra => some extra

mutual

/-- The directives of a template, with those nested in them. -/
def Template.everyDirective : Template → List Directive
  | .mk _ directives _ => Template.everyIn directives

/-- The directives of a list, with those nested in them. -/
def Template.everyIn : List Directive → List Directive
  | [] => []
  | d :: rest => d :: (Directive.everyNested d ++ Template.everyIn rest)

def Directive.everyNested : Directive → List Directive
  | .attribute _ => []
  | .node _ => []
  | .child _ _ _ body => Template.everyDirective body
  | .glue _ _ body => Template.everyDirective body
  | .extend _ _ _ extra => Template.everyDirective extra

end

theorem Template.everyDirective_eq (t : Template) :
    t.everyDirective = Template.everyIn t.directives := by
  cases t
  rfl

theorem Directive.everyNested_of_body {d : Directive} {body : Template} (h : d.body? = some body) :
    d.everyNested = Template.everyIn body.directives := by
  cases d with
  | «attribute» a => cases h
  | node n => cases h
  | child selector objectRoot guard b =>
    obtain rfl := Option.some.inj h
    exact b.everyDirective_eq
  | glue selector guard b =>
    obtain rfl := Option.some.inj h
    exact b.everyDirective_eq
  | extend base object guard b =>
    obtain rfl := Option.some.inj h
    exact b.everyDirective_eq

theorem Directive.hasFunctions_body {d : Directive} {body : Template}
    (h : d.hasFunctions = false) (hb : d.body? = some body) :
    Template.anyHasFunctions body.directives = false := by
  cases d with
  | «attribute» a => cases hb
  | node n => cases hb
  | child selector objectRoot guard b =>
    obtain rfl := Option.some.inj hb
    cases b
    exact (Bool.or_eq_false_iff.1 h).2
  | glue selector guard b =>
    obtain rfl := Option.some.inj hb
    cases b
    exact (Bool.or_eq_false_iff.1 h).2
  | extend base object guard b =>
    obtain rfl := Option.some.inj hb
    cases b
    exact (Bool.or_eq_false_iff.1 h).2

theorem Directive.hasPredicate_of_hasFunctions {d : Directive} (h : d.hasFunctions = false) :
    d.guard.hasPredicate = false := by
  cases d with
  | «attribute» a => exact h
  | node n => exact (Bool.or_eq_false_iff.1 h).1
  | child selector objectRoot guard body => exact (Bool.or_eq_false_iff.1 h).1
  | glue selector guard body => exact (Bool.or_eq_false_iff.1 h).1
  | extend base object guard extra => exact (Bool.or_eq_false_iff.1 h).1

/-! ## Names -/

def Condition.memberName? : Condition → Option String
  | .member name => some name
  | _ => none

/-- None of the marks stands in the name. -/
def Avoids (marks : List String) (name : String) : Prop :=
  ∀ mark ∈ marks, ¬ mark.toList <:+: name.toList

/-- What a line after the first begins with, with the line break. -/
def Directive.openings : List String :=
  ["\nattribute(", "\nnode(", "\nchild(", "\nglue(", "\nextends("]

/-- No name of a guard holds what may stand behind it: the second condition after the first, and
another directive after the second. -/
def Guard.HasPlainNames (guard : Guard) : Prop :=
  (∀ name ∈ guard.onlyIf.bind Condition.memberName?, Avoids [";unless="] name) ∧
  (∀ name ∈ guard.exceptIf.bind Condition.memberName?, Avoids Directive.openings name)

/-- The name of a helper does not hold the beginning of a guard. -/
def Computation.HasPlainName : Computation → Prop
  | .helper name => Avoids [";if="] name
  | _ => True

/-- No name of a directive holds the mark that tells where it ends in the fingerprint, and no node
has the name that stands for a missing one. -/
def Directive.HasPlainNames : Directive → Prop
  | .attribute a => Avoids ["=>"] a.name ∧ Avoids [";if="] a.key ∧ a.guard.HasPlainNames
  | .node n =>
    n.name ≠ some "-" ∧ (∀ name ∈ n.name, Avoids [";helper:", ";value:"] name) ∧
      n.compute.HasPlainName ∧ n.guard.HasPlainNames
  | .child _ _ guard _ => guard.HasPlainNames
  | .glue _ guard _ => guard.HasPlainNames
  | .extend base _ guard _ => Avoids [";None", ";Some("] base ∧ guard.HasPlainNames

instance (marks : List String) (name : String) : Decidable (Avoids marks name) :=
  inferInstanceAs (Decidable (∀ mark ∈ marks, ¬ mark.toList <:+: name.toList))

instance (guard : Guard) : Decidable guard.HasPlainNames :=
  inferInstanceAs (Decidable (_ ∧ _))

instance : DecidablePred Computation.HasPlainName
  | .function _ _ => isTrue trivial
  | .helper name => inferInstanceAs (Decidable (Avoids [";if="] name))
  | .value _ => isTrue trivial

instance : DecidablePred Directive.HasPlainNames
  | .attribute a => inferInstanceAs (Decidable (Avoids ["=>"] a.name ∧ _ ∧ _))
  | .node n => inferInstanceAs (Decidable (n.name ≠ some "-" ∧ _ ∧ _ ∧ _))
  | .child _ _ guard _ => inferInstanceAs (Decidable guard.HasPlainNames)
  | .glue _ guard _ => inferInstanceAs (Decidable guard.HasPlainNames)
  | .extend base _ guard _ =>
    inferInstanceAs (Decidable (Avoids [";None", ";Some("] base ∧ guard.HasPlainNames))

theorem Directive.HasPlainNames.guard {d : Directive} (h : d.HasPlainNames) :
    d.guard.HasPlainNames := by
  cases d with
  | «attribute» a => exact h.2.2
  | node n => exact h.2.2.2
  | child selector objectRoot guard body => exact h
  | glue selector guard body => exact h
  | extend base object guard extra => exact h.2

/-! ## Templates assembled in code -/

/-- A template nested in the directive was assembled from its directives. -/
def Directive.IsAssembled (d : Directive) : Prop :=
  ∀ body ∈ d.body?, body = Template.ofDirectives Digest.ofText body.directives

/-- The text that the digest of an assembled template is made from. -/
def Template.fingerprint (t : Template) : String :=
  String.ofList (Fingerprint.ofDirectives t.directives)

/-- The fingerprints of the templates nested in directives. -/
def Template.nestedFingerprints (directives : List Directive) : List String :=
  ((Template.everyIn directives).filterMap Directive.body?).map Template.fingerprint

/-- Directives whose fingerprints can be read back, with nested fingerprints among `texts`. -/
structure Template.Readable (texts : List String) (directives : List Directive) : Prop where
  functionFree : Template.anyHasFunctions directives = false
  plain : ∀ d ∈ Template.everyIn directives, d.HasPlainNames
  assembled : ∀ d ∈ Template.everyIn directives, d.IsAssembled
  known : ∀ s ∈ Template.nestedFingerprints directives, s ∈ texts

namespace Template.Readable

variable {texts : List String} {d : Directive} {rest : List Directive}

theorem tail (h : Readable texts (d :: rest)) : Readable texts rest := by
  have hsub : ∀ x ∈ everyIn rest, x ∈ everyIn (d :: rest) := fun x hx =>
    List.mem_cons_of_mem d (List.mem_append_right _ hx)
  refine ⟨(Bool.or_eq_false_iff.1 h.functionFree).2, fun x hx => h.plain x (hsub x hx),
    fun x hx => h.assembled x (hsub x hx), fun s hs => h.known s ?_⟩
  simp only [nestedFingerprints, List.mem_map, List.mem_filterMap] at hs ⊢
  obtain ⟨t, ⟨x, hx, hxt⟩, hts⟩ := hs
  exact ⟨t, ⟨x, hsub x hx, hxt⟩, hts⟩

theorem head_functionFree (h : Readable texts (d :: rest)) : d.hasFunctions = false :=
  (Bool.or_eq_false_iff.1 h.functionFree).1

theorem head_plain (h : Readable texts (d :: rest)) : d.HasPlainNames :=
  h.plain d List.mem_cons_self

theorem body {body : Template} (h : Readable texts (d :: rest)) (hb : d.body? = some body) :
    Readable texts body.directives := by
  have hsub : ∀ x ∈ everyIn body.directives, x ∈ everyIn (d :: rest) := by
    intro x hx
    rw [← Directive.everyNested_of_body hb] at hx
    exact List.mem_cons_of_mem d (List.mem_append_left _ hx)
  refine ⟨Directive.hasFunctions_body h.head_functionFree hb, fun x hx => h.plain x (hsub x hx),
    fun x hx => h.assembled x (hsub x hx), fun s hs => h.known s ?_⟩
  simp only [nestedFingerprints, List.mem_map, List.mem_filterMap] at hs ⊢
  obtain ⟨t, ⟨x, hx, hxt⟩, hts⟩ := hs
  exact ⟨t, ⟨x, hsub x hx, hxt⟩, hts⟩

theorem body_eq {body : Template} (h : Readable texts (d :: rest)) (hb : d.body? = some body) :
    body = ofDirectives Digest.ofText body.directives :=
  h.assembled d List.mem_cons_self body hb

theorem body_digest {body : Template} (h : Readable texts (d :: rest)) (hb : d.body? = some body) :
    body.digest = Digest.ofText body.fingerprint :=
  congrArg digest (h.body_eq hb)

theorem body_known {body : Template} (h : Readable texts (d :: rest)) (hb : d.body? = some body) :
    body.fingerprint ∈ texts :=
  h.known _ (List.mem_map_of_mem (List.mem_filterMap.2 ⟨d, List.mem_cons_self, hb⟩))

end Template.Readable

end DocumentTemplates
