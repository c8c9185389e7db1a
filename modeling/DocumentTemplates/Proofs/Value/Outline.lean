import DocumentTemplates.Value

/-!
# Outlines of values

The outline of a value lists what stands in it, from the front to the back: every leaf, array and
document, each with the path that leads to it. Nothing else is in a value, so two values with the
same outline are the same. What a transformation changes and what it leaves can be said place by
place.
-/

namespace DocumentTemplates.Value

/-- A step from an array or a document to a value in it. -/
inductive Step where
  | item (index : Nat)
  | entry (key : String)
  deriving DecidableEq

/-- What stands at the end of a path: a leaf, or an array or a document without what is in it. -/
structure Place where
  path : List Step
  head : Value

/-- The place as seen from one step further out. -/
def Place.below (step : Step) (place : Place) : Place :=
  ⟨step :: place.path, place.head⟩

/-- A value without the values in it. -/
def head : Value → Value
  | .array _ => .array []
  | .document _ => .document []
  | v => v

/-- The values in an array or a document, each with the step that leads to it. -/
def children : Value → List (Step × Value)
  | .array items => items.zipIdx.map fun item => (.item item.2, item.1)
  | .document entries => entries.map fun entry => (.entry entry.1, entry.2)
  | _ => []

mutual

/-- The places of a value, from the front to the back. -/
def outline : Value → List Place
  | .array items => ⟨[], .array []⟩ :: outlineOfItems 0 items
  | .document entries => ⟨[], .document []⟩ :: outlineOfEntries entries
  | v => [⟨[], v⟩]

def outlineOfItems : Nat → List Value → List Place
  | _, [] => []
  | index, v :: rest => (outline v).map (.below (.item index)) ++ outlineOfItems (index + 1) rest

def outlineOfEntries : List (String × Value) → List Place
  | [] => []
  | (key, v) :: rest => (outline v).map (.below (.entry key)) ++ outlineOfEntries rest

end

/-- The places inside the given children. -/
def outlineBelow (children : List (Step × Value)) : List Place :=
  children.flatMap fun child => child.2.outline.map (.below child.1)

theorem outlineOfItems_eq (index : Nat) (items : List Value) :
    outlineOfItems index items =
      outlineBelow ((items.zipIdx index).map fun item => (.item item.2, item.1)) := by
  induction items generalizing index with
  | nil => rfl
  | cons v rest ih => rw [outlineOfItems, ih]; rfl

theorem outlineOfEntries_eq (entries : List (String × Value)) :
    outlineOfEntries entries =
      outlineBelow (entries.map fun entry => (.entry entry.1, entry.2)) := by
  induction entries with
  | nil => rfl
  | cons entry rest ih => rw [outlineOfEntries, ih]; rfl

theorem outline_eq (v : Value) : v.outline = ⟨[], v.head⟩ :: outlineBelow v.children := by
  cases v with
  | array items => exact congrArg (_ :: ·) (outlineOfItems_eq 0 items)
  | document entries => exact congrArg (_ :: ·) (outlineOfEntries_eq entries)
  | _ => rfl

/-! ## Induction along children -/

mutual

/-- What holds of a value if it holds of its children holds of every value. -/
theorem induction_on_children {P : Value → Prop}
    (step : ∀ v, (∀ child ∈ v.children, P child.2) → P v) : ∀ v, P v
  | .array items => step _ <| by
      intro child hchild
      obtain ⟨item, hitem, rfl⟩ := List.mem_map.1 hchild
      exact induction_on_items step items _ (List.fst_mem_of_mem_zipIdx hitem)
  | .document entries => step _ <| by
      intro child hchild
      obtain ⟨entry, hentry, rfl⟩ := List.mem_map.1 hchild
      exact induction_on_entries step entries entry hentry
  | .null | .bool _ | .integer _ | .float _ | .string _ => step _ fun _ h => nomatch h

theorem induction_on_items {P : Value → Prop}
    (step : ∀ v, (∀ child ∈ v.children, P child.2) → P v) : ∀ items : List Value, ∀ v ∈ items, P v
  | [] => fun _ h => nomatch h
  | v :: rest =>
    List.forall_mem_cons.2 ⟨induction_on_children step v, induction_on_items step rest⟩

theorem induction_on_entries {P : Value → Prop}
    (step : ∀ v, (∀ child ∈ v.children, P child.2) → P v) :
    ∀ entries : List (String × Value), ∀ entry ∈ entries, P entry.2
  | [] => fun _ h => nomatch h
  | (_, v) :: rest =>
    List.forall_mem_cons.2 ⟨induction_on_children step v, induction_on_entries step rest⟩

end

/-! ## The outline says everything -/

/-- A value is given by its head and its children. -/
theorem ext_children {v w : Value} (hhead : v.head = w.head) (hchildren : v.children = w.children) :
    v = w := by
  have hitems : ∀ items : List Value,
      (children (.array items)).map Prod.snd = items := by
    intro items
    rw [children, List.map_map]
    exact List.zipIdx_map_fst 0 items
  have hentries : ∀ entries : List (String × Value), (children (.document entries)).map
      (fun child => match child.1 with
        | .entry key => (key, child.2)
        | .item _ => ("", child.2)) = entries := by
    intro entries
    rw [children, List.map_map]
    exact List.map_id entries
  cases v with
  | array items =>
    cases w with
    | array others => rw [← hitems items, hchildren, hitems]
    | _ => cases hhead
  | document entries =>
    cases w with
    | document others => rw [← hentries entries, hchildren, hentries]
    | _ => cases hhead
  | _ =>
    cases w with
    | array others => cases hhead
    | document others => cases hhead
    | _ => exact hhead

/-- Below a child, the paths go on; only the child itself is one step away. -/
theorem outlineBelow_cons (step : Step) (v : Value) (rest : List (Step × Value)) :
    outlineBelow ((step, v) :: rest) =
      ⟨[step], v.head⟩ ::
        ((outlineBelow v.children).map (Place.below step) ++ outlineBelow rest) := by
  rw [outlineBelow, List.flatMap_cons, outline_eq]
  rfl

theorem path_ne_nil_of_mem_outlineBelow {children : List (Step × Value)} {place : Place}
    (h : place ∈ outlineBelow children) : place.path ≠ [] := by
  obtain ⟨child, -, h⟩ := List.mem_flatMap.1 h
  obtain ⟨inner, -, rfl⟩ := List.mem_map.1 h
  exact List.cons_ne_nil _ _

/-- The places further than one step away, up to the first that is not. -/
theorem takeWhile_below (step : Step) (v : Value) (rest : List (Step × Value)) :
    ((outlineBelow v.children).map (Place.below step) ++ outlineBelow rest).takeWhile
        (fun place => place.path.length != 1) =
      (outlineBelow v.children).map (Place.below step) := by
  rw [List.takeWhile_append_of_pos]
  · cases rest with
    | nil => exact List.append_nil _
    | cons child rest =>
      rw [outlineBelow_cons]
      exact List.append_nil _
  · intro place hplace
    obtain ⟨inner, hinner, rfl⟩ := List.mem_map.1 hplace
    simpa [Place.below] using path_ne_nil_of_mem_outlineBelow hinner

theorem below_inj (step : Step) (place other : Place) (h : place.below step = other.below step) :
    place = other := by
  cases place
  cases other
  cases h
  rfl

/-- Children with the same places are the same, if their outlines say everything about them. -/
theorem outlineBelow_inj {cs ds : List (Step × Value)}
    (hcs : ∀ child ∈ cs, ∀ w : Value, child.2.outline = w.outline → child.2 = w)
    (h : outlineBelow cs = outlineBelow ds) : cs = ds := by
  induction cs generalizing ds with
  | nil =>
    cases ds with
    | nil => rfl
    | cons d ds => rw [outlineBelow_cons] at h; cases h
  | cons c cs ih =>
    cases ds with
    | nil => rw [outlineBelow_cons] at h; cases h
    | cons d ds =>
      obtain ⟨step, v⟩ := c
      obtain ⟨step', w⟩ := d
      rw [outlineBelow_cons, outlineBelow_cons] at h
      obtain ⟨hplace, hmore⟩ := List.cons.inj h
      obtain ⟨rfl, hhead⟩ : step = step' ∧ v.head = w.head := by simpa using hplace
      have hinside : (outlineBelow v.children).map (Place.below step) =
          (outlineBelow w.children).map (Place.below step) := by
        rw [← takeWhile_below step v cs, hmore, takeWhile_below]
      have hrest : outlineBelow cs = outlineBelow ds := by
        rw [hinside] at hmore
        exact List.append_cancel_left hmore
      have hv : v = w := by
        refine hcs _ List.mem_cons_self w ?_
        rw [outline_eq, outline_eq, hhead, (List.map_inj_right (below_inj step)).1 hinside]
      rw [hv, ih (fun child hchild => hcs child (List.mem_cons_of_mem _ hchild)) hrest]

/-- Two values with the same outline are the same. -/
theorem outline_inj {v w : Value} (h : v.outline = w.outline) : v = w := by
  induction v using induction_on_children generalizing w with
  | step v ih =>
    rw [outline_eq, outline_eq] at h
    obtain ⟨hplace, hbelow⟩ := List.cons.inj h
    exact ext_children (congrArg Place.head hplace)
      (outlineBelow_inj (fun child hchild u hu => ih child hchild hu) hbelow)

end DocumentTemplates.Value
