import DocumentTemplates.Build.Plain
import Mathlib.Data.List.Forall2

/-!
# Templates that cannot be told apart by building

Two templates are alike if their directives agree pairwise in all that a build reads: digests do not
count, an attribute counts with its key only, and nested templates may be replaced by related ones.
A relation that only holds between alike templates is one that no build can see.
-/

namespace DocumentTemplates

/-- Directives that agree in what a build reads, up to related nested templates. -/
inductive Directive.Alike (R : Template → Template → Prop) : Directive → Directive → Prop
  | attribute {a b : Attribute} (hname : a.name = b.name) (hkey : a.key = b.key)
      (hguard : a.guard = b.guard) : Alike R (.attribute a) (.attribute b)
  | node (n : Node) : Alike R (.node n) (.node n)
  | child (selector : Selector) (objectRoot : Option RootSetting) (guard : Guard)
      {body other : Template} (h : R body other) :
      Alike R (.child selector objectRoot guard body) (.child selector objectRoot guard other)
  | glue (selector : Selector) (guard : Guard) {body other : Template} (h : R body other) :
      Alike R (.glue selector guard body) (.glue selector guard other)
  | extend (base : String) (object : Option Selector) (guard : Guard) {extra other : Template}
      (h : R extra other) :
      Alike R (.extend base object guard extra) (.extend base object guard other)

/-- Templates with the same name and pairwise alike directives. -/
structure Template.Alike (R : Template → Template → Prop) (t u : Template) : Prop where
  name : t.name = u.name
  directives : List.Forall₂ (Directive.Alike R) t.directives u.directives

/-- Every template is related to itself, and related templates are alike. -/
structure Template.Indistinct (R : Template → Template → Prop) : Prop where
  refl : ∀ t, R t t
  alike : ∀ t u, R t u → Alike R t u

variable {R : Template → Template → Prop} {t u extra other : Template}

theorem Directive.Alike.refl (hR : ∀ t, R t t) (d : Directive) : d.Alike R d := by
  cases d with
  | «attribute» a => exact .attribute rfl rfl rfl
  | node n => exact .node n
  | child selector objectRoot guard body => exact .child selector objectRoot guard (hR body)
  | glue selector guard body => exact .glue selector guard (hR body)
  | extend base object guard extra => exact .extend base object guard (hR extra)

theorem Directive.Alike.phase_eq {d d' : Directive} (h : d.Alike R d') : d.phase = d'.phase := by
  cases h <;> rfl

/-- Alike templates are still alike behind the directives of a base. -/
theorem Template.Alike.extendedWith (hR : ∀ t, R t t) (digestOf : String → String)
    (base : Template) (h : extra.Alike R other) :
    (base.extendedWith digestOf extra).Alike R (base.extendedWith digestOf other) := by
  have hbase : List.Forall₂ (Directive.Alike R) base.directives base.directives :=
    List.forall₂_same.2 fun d _ => Directive.Alike.refl hR d
  have hempty : extra.directives.isEmpty = other.directives.isEmpty := by
    have hlength := h.directives.length_eq
    rw [Bool.eq_iff_iff, List.isEmpty_iff_length_eq_zero, List.isEmpty_iff_length_eq_zero, hlength]
  rw [Template.extendedWith, Template.extendedWith, hempty]
  split
  · exact ⟨rfl, hbase⟩
  · exact ⟨rfl, List.rel_append hbase h.directives⟩

theorem Template.Alike.nodes_eq (h : t.Alike R u) : t.nodes = u.nodes := by
  have hd := h.directives
  rw [Template.nodes, Template.nodes]
  generalize t.directives = ds at hd ⊢
  generalize u.directives = ds' at hd ⊢
  induction hd with
  | nil => rfl
  | cons hd _ ih =>
    rw [List.filterMap_cons, List.filterMap_cons, ih]
    cases hd <;> rfl

namespace Strategy

variable {setting : Setting}
  {e : Template → Data → Option Filter → Except BuildError Document}

theorem compute_congr (h : e t = e u) : compute e t = compute e u := by
  funext plan
  rw [compute, compute, h]

theorem items_congr (h : e t = e u) (elementRoot : RootSetting) (collection : Option String)
    (f : Option Filter) (items : List Data) :
    (plain setting).items setting e t elementRoot collection f items =
      (plain setting).items setting e u elementRoot collection f items := by
  rw [Strategy.items, Strategy.items, compute_congr h]
  rfl

theorem single_congr (h : e t = e u) (plan : Plan) :
    (plain setting).single t plan (compute e t) = (plain setting).single u plan (compute e u) := by
  rw [compute_congr h]
  rfl

/-- What a directive contributes depends on its nested template only through its documents. -/
theorem contribution_congr (hR : ∀ t, R t t) (he : ∀ t u, t.Alike R u → e t = e u)
    (hsub : ∀ t u, R t u → t.Alike R u) {d d' : Directive} (h : d.Alike R d') (object : Data)
    (f : Option Filter) :
    (plain setting).contribution setting e object f d =
      (plain setting).contribution setting e object f d' := by
  cases h with
  | «attribute» hname hkey hguard =>
    simp only [contribution, Attribute.contribution, hname, hkey, hguard]
  | node n => rfl
  | child selector objectRoot guard hb =>
    have hbody := he _ _ (hsub _ _ hb)
    simp only [contribution, child, items_congr hbody, single_congr hbody]
  | glue selector guard hb =>
    simp only [contribution, glue, he _ _ (hsub _ _ hb)]
  | extend base target guard hb =>
    have hext : ∀ t : Template, e (t.extendedWith setting.digestOf _) =
        e (t.extendedWith setting.digestOf _) := fun t =>
      he _ _ ((hsub _ _ hb).extendedWith hR setting.digestOf t)
    simp only [contribution, extension, hext]

theorem gather_congr (hR : ∀ t, R t t) (he : ∀ t u, t.Alike R u → e t = e u)
    (hsub : ∀ t u, R t u → t.Alike R u) {ds ds' : List Directive}
    (h : List.Forall₂ (Directive.Alike R) ds ds') (object : Data) (f : Option Filter) :
    (plain setting).gather setting e object f ds = (plain setting).gather setting e object f ds' := by
  induction h with
  | nil => rfl
  | cons hd _ ih =>
    rw [gather, gather, contribution_congr hR he hsub hd, ih, hd.phase_eq]

/-- Alike templates give the same documents, however deep builds may nest. -/
theorem evaluate_congr (hR : Template.Indistinct R) (setting : Setting) (levels : Nat)
    (h : t.Alike R u) :
    (plain setting).evaluate setting levels t = (plain setting).evaluate setting levels u := by
  induction levels generalizing t u with
  | zero =>
    funext object f
    rw [evaluate, evaluate, h.name]
  | succ levels ih =>
    funext object f
    rw [evaluate, evaluate, gather_congr hR.refl (fun _ _ => ih) hR.alike h.directives, h.nodes_eq]

theorem document_congr (hR : Template.Indistinct R) (setting : Setting) (h : t.Alike R u) :
    (plain setting).document setting t = (plain setting).document setting u :=
  evaluate_congr hR setting _ h

end Strategy

namespace Template

/-- Related templates have the same results and the same errors. -/
theorem Indistinct.build_eq (hR : Indistinct R) (h : R t u) (setting : Setting)
    (options : BuildOptions) (data : Data) :
    t.build setting options data = u.build setting options data := by
  have hdoc := Strategy.document_congr hR setting (hR.alike t u h)
  simp only [build, Strategy.build, Strategy.items_congr hdoc, Strategy.single_congr hdoc]

theorem Indistinct.buildAll_eq (hR : Indistinct R) (h : R t u) (setting : Setting)
    (options : BuildOptions) (objects : List Data) :
    t.buildAll setting options objects = u.buildAll setting options objects :=
  Strategy.items_congr (Strategy.document_congr hR setting (hR.alike t u h)) _ _ _ _

end Template

end DocumentTemplates
