import DocumentTemplates.Proofs.Build.Alike
import DocumentTemplates.Proofs.Template.NanLiterals
import DocumentTemplates.Proofs.Template.Nesting

/-!
# Directives with one text

Two directives with the same fingerprint agree in all that is written there. Of a NaN this is only
that it is one, of a key not whether it is an alias, and of a nested template the digest. If the
NaNs are the same too, at every depth, a build cannot tell the directives apart.
-/

namespace DocumentTemplates

/-! ## NaNs at any depth -/

/-- The NaNs in the literal data of directives, in order, with those of nested templates. -/
def Template.nans (directives : List Directive) : List Double :=
  (everyIn directives).flatMap Directive.nans

def Directive.nestedNans (d : Directive) : List Double :=
  d.everyNested.flatMap Directive.nans

theorem Template.nans_cons (d : Directive) (rest : List Directive) :
    nans (d :: rest) = d.nans ++ (d.nestedNans ++ nans rest) := by
  rw [nans, everyIn, List.flatMap_cons, List.flatMap_append]
  rfl

theorem Directive.nestedNans_of_body {d : Directive} {body : Template} (h : d.body? = some body) :
    d.nestedNans = Template.nans body.directives := by
  rw [nestedNans, everyNested_of_body h, Template.nans]

/-! ## What a text tells -/

/-- The directives agree but for the NaNs in their literal data, the spelling of a key, and nested
templates with the same digest. -/
inductive Directive.SameText : Directive → Directive → Prop
  | attribute {a b : Attribute} (hname : a.name = b.name) (hkey : a.key = b.key)
      (hguard : a.guard = b.guard) : SameText (.attribute a) (.attribute b)
  | node (name : Option String) (guard : Guard) {compute other : Computation}
      (hcompute : SameButNans Computation.nans compute other) :
      SameText (.node ⟨name, guard, compute⟩) (.node ⟨name, guard, other⟩)
  | child {selector selector' : Selector} (hselector : SameButNans Selector.nans selector selector')
      (objectRoot : Option RootSetting) (guard : Guard) {body other : Template}
      (hbody : body.digest = other.digest) :
      SameText (.child selector objectRoot guard body) (.child selector' objectRoot guard other)
  | glue {selector selector' : Selector} (hselector : SameButNans Selector.nans selector selector')
      (guard : Guard) {body other : Template} (hbody : body.digest = other.digest) :
      SameText (.glue selector guard body) (.glue selector' guard other)
  | extend (base : String) {object object' : Option Selector}
      (hobject : SameButNans (·.elim [] Selector.nans) object object') (guard : Guard)
      {extra other : Template} (hbody : extra.digest = other.digest) :
      SameText (.extend base object guard extra) (.extend base object' guard other)

namespace Directive.SameText

variable {d e : Directive} {R : Template → Template → Prop}

theorem length_nans (h : d.SameText e) : d.nans.length = e.nans.length := by
  cases h with
  | «attribute» _ _ _ => rfl
  | node name guard hcompute => exact hcompute.length_eq
  | child hselector objectRoot guard hbody => exact hselector.length_eq
  | glue hselector guard hbody => exact hselector.length_eq
  | extend base hobject guard hbody => exact hobject.length_eq

theorem length_nestedNans (h : d.SameText e)
    (hnested : ∀ b ∈ d.body?, ∀ b' ∈ e.body?, b.digest = b'.digest →
      (Template.nans b.directives).length = (Template.nans b'.directives).length) :
    d.nestedNans.length = e.nestedNans.length := by
  cases h with
  | «attribute» _ _ _ => rfl
  | node name guard hcompute => rfl
  | child hselector objectRoot guard hbody =>
    rw [nestedNans_of_body rfl, nestedNans_of_body rfl, hnested _ rfl _ rfl hbody]
  | glue hselector guard hbody =>
    rw [nestedNans_of_body rfl, nestedNans_of_body rfl, hnested _ rfl _ rfl hbody]
  | extend base hobject guard hbody =>
    rw [nestedNans_of_body rfl, nestedNans_of_body rfl, hnested _ rfl _ rfl hbody]

/-- With the same NaNs, and nested templates that a build cannot tell apart, neither can it tell the
directives. -/
theorem alike (h : d.SameText e) (hnans : d.nans = e.nans)
    (hnested : ∀ b ∈ d.body?, ∀ b' ∈ e.body?, b.digest = b'.digest → R b b') : d.Alike R e := by
  cases h with
  | «attribute» hname hkey hguard => exact .attribute hname hkey hguard
  | node name guard hcompute =>
    obtain rfl := hcompute.eq_of_nans_eq hnans
    exact .node _
  | child hselector objectRoot guard hbody =>
    obtain rfl := hselector.eq_of_nans_eq hnans
    exact .child _ objectRoot guard (hnested _ rfl _ rfl hbody)
  | glue hselector guard hbody =>
    obtain rfl := hselector.eq_of_nans_eq hnans
    exact .glue _ guard (hnested _ rfl _ rfl hbody)
  | extend base hobject guard hbody =>
    obtain rfl := hobject.eq_of_nans_eq hnans
    exact .extend base _ guard (hnested _ rfl _ rfl hbody)

end Directive.SameText

end DocumentTemplates
