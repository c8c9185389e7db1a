import DocumentTemplates.Template
import Mathlib.Data.List.Forall2

/-!
# NaNs in literal data

All NaNs are written alike, so a text tells where literal data holds NaNs and not which. Literals
that agree in everything else are the same as soon as they hold the same NaNs in the same order.
-/

namespace DocumentTemplates

/-! ## Values that agree but for NaNs -/

/-- Both hold equally many NaNs, and they are the same if those are. -/
structure SameButNans {α : Type} (nans : α → List Double) (a b : α) : Prop where
  length_eq : (nans a).length = (nans b).length
  eq_of_nans_eq : nans a = nans b → a = b

namespace SameButNans

variable {α β : Type} {nans : α → List Double} {nans' : β → List Double}

theorem refl (a : α) : SameButNans nans a a :=
  ⟨rfl, fun _ => rfl⟩

/-- A constructor with one argument, and with the NaNs of the argument. -/
theorem map {a b : α} (h : SameButNans nans a b) (f : α → β) (hf : ∀ a, nans' (f a) = nans a) :
    SameButNans nans' (f a) (f b) := by
  refine ⟨?_, fun hn => congrArg f (h.eq_of_nans_eq ?_)⟩
  · rw [hf, hf, h.length_eq]
  · rwa [hf, hf] at hn

theorem keyed {p q : String × α} (hkey : p.1 = q.1) (h : SameButNans nans p.2 q.2) :
    SameButNans (fun p : String × α => nans p.2) p q :=
  ⟨h.length_eq, fun hn => Prod.ext hkey (h.eq_of_nans_eq hn)⟩

theorem list {as bs : List α} (h : List.Forall₂ (SameButNans nans) as bs) :
    SameButNans (fun as => as.flatMap nans) as bs := by
  induction h with
  | nil => exact refl []
  | @cons a b as bs hab _ ih =>
    refine ⟨?_, fun hn => ?_⟩
    · simp only [List.flatMap_cons, List.length_append, hab.length_eq, ih.length_eq]
    · obtain ⟨hhead, htail⟩ := List.append_inj hn hab.length_eq
      rw [hab.eq_of_nans_eq hhead, ih.eq_of_nans_eq htail]

theorem optional {o p : Option α} (h : Option.Rel (SameButNans nans) o p) :
    SameButNans (fun o => o.elim [] nans) o p := by
  cases h with
  | none => exact refl none
  | some hab => exact hab.map some fun _ => rfl

end SameButNans

/-! ## The NaNs of literal data, in order -/

/-- A double itself if it is a NaN. -/
def Double.nans (x : Double) : List Double :=
  if x.isNaN then [x] else []

theorem Double.sameButNans {x y : Double} (h : x = y ∨ x.isNaN ∧ y.isNaN) :
    SameButNans nans x y := by
  rcases h with rfl | ⟨hx, hy⟩
  · exact .refl x
  · have hnans : x.nans = [x] ∧ y.nans = [y] := ⟨if_pos hx, if_pos hy⟩
    refine ⟨by rw [hnans.1, hnans.2]; rfl, fun hn => ?_⟩
    rw [hnans.1, hnans.2] at hn
    exact (List.cons.inj hn).1

mutual

/-- The NaNs of a value, in order and from any depth. -/
def Value.nans : Value → List Double
  | .null => []
  | .bool _ => []
  | .integer _ => []
  | .float x => x.nans
  | .string _ => []
  | .array items => Value.nansOfItems items
  | .document entries => Value.nansOfEntries entries

def Value.nansOfItems : List Value → List Double
  | [] => []
  | v :: rest => Value.nans v ++ Value.nansOfItems rest

def Value.nansOfEntries : List (String × Value) → List Double
  | [] => []
  | (_, v) :: rest => Value.nans v ++ Value.nansOfEntries rest

end

mutual

/-- The NaNs of data, in order and from any depth. -/
def Data.nans : Data → List Double
  | .null => []
  | .bool _ => []
  | .integer _ => []
  | .float x => x.nans
  | .string _ => []
  | .list _ items => Data.nansOfItems items
  | .record _ _ members => Data.nansOfMembers members

def Data.nansOfItems : List Data → List Double
  | [] => []
  | d :: rest => Data.nans d ++ Data.nansOfItems rest

def Data.nansOfMembers : List (String × Data) → List Double
  | [] => []
  | (_, d) :: rest => Data.nans d ++ Data.nansOfMembers rest

end

theorem Value.nansOfItems_eq_flatMap (items : List Value) :
    nansOfItems items = items.flatMap nans := by
  induction items with
  | nil => rfl
  | cons v rest ih => rw [nansOfItems, ih, List.flatMap_cons]

theorem Value.nansOfEntries_eq_flatMap (entries : List (String × Value)) :
    nansOfEntries entries = entries.flatMap fun e => e.2.nans := by
  induction entries with
  | nil => rfl
  | cons e rest ih => rw [nansOfEntries, ih, List.flatMap_cons]

theorem Data.nansOfItems_eq_flatMap (items : List Data) :
    nansOfItems items = items.flatMap nans := by
  induction items with
  | nil => rfl
  | cons d rest ih => rw [nansOfItems, ih, List.flatMap_cons]

theorem Data.nansOfMembers_eq_flatMap (members : List (String × Data)) :
    nansOfMembers members = members.flatMap fun m => m.2.nans := by
  induction members with
  | nil => rfl
  | cons m rest ih => rw [nansOfMembers, ih, List.flatMap_cons]

def Selector.nans : Selector → List Double
  | .value data => data.nans
  | .named inner _ => inner.nans
  | _ => []

def Computation.nans : Computation → List Double
  | .value v => v.nans
  | _ => []

/-- The NaNs in the literal data of a directive. Those of its nested template are not among
them. -/
def Directive.nans : Directive → List Double
  | .attribute _ => []
  | .node n => n.compute.nans
  | .child selector _ _ _ => selector.nans
  | .glue selector _ _ => selector.nans
  | .extend _ object _ _ => object.elim [] Selector.nans

end DocumentTemplates
