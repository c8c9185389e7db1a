import DocumentTemplates.Proofs.Template.EntryFields
import Mathlib.Data.List.Lex

/-!
# Which entries are accepted

A list of entries is accepted if no entry is at fault, at whatever depth, and is otherwise refused
for the fault that comes first in the text, with the positions on the way to it.
-/

namespace DocumentTemplates

theorem PlacedFault.message_within (f : PlacedFault) (position : Nat) :
    (f.within position).message = "directive " ++ toString position ++ ": " ++ f.message := by
  simp [within, message, String.append_assoc]

/-- Each position is named before what is wrong at it. -/
theorem PlacedFault.message_eq (f : PlacedFault) :
    f.message =
      f.path.foldr (fun i rest => "directive " ++ toString i ++ ": " ++ rest) f.fault.message := by
  obtain ⟨path, fault⟩ := f
  induction path with
  | nil => simp [message]
  | cons i rest ih => rw [List.foldr_cons, ← ih, ← message_within, within]

/-! ## Entries at any depth -/

namespace Entry

/-- The entries of the template nested in an entry. -/
def nested : Entry → List Entry
  | .mk _ body => body.getD []

def Valid : Entry → Prop
  | .mk fields body => fields.Valid body.isSome

/-- What is wrong with an entry itself, whatever is nested in it. -/
def Faulty : Entry → EntryFault → Prop
  | .mk fields body, fault => fields.Faulty body.isSome fault

/-- The directives that an entry stands for, with its nested template made of what the nested
entries stand for, one after the other. -/
inductive Stands (digestOf : String → String) : Entry → List Directive → Prop
  | mk {fields body dss ds} :
    List.Forall₂ (Stands digestOf) (body.getD []) dss →
    fields.Means (.ofDirectives digestOf dss.flatten) body.isSome ds →
    Stands digestOf (.mk fields body) ds

/-- An entry at a path in a list of entries: the positions of the entries that it lies in, and
its own. Positions are counted from one. -/
inductive At : List Entry → List Nat → Entry → Prop
  | here {entries i e} : entries[i]? = some e → At entries [i + 1] e
  | inside {entries i outer path e} : entries[i]? = some outer → At outer.nested path e →
    At entries ((i + 1) :: path) e

/-- The fault of an entry before which no entry is at fault. An entry comes before the entries
nested in it, and these before the entries behind it. -/
def FirstFault (entries : List Entry) (f : PlacedFault) : Prop :=
  (∃ e, At entries f.path e ∧ e.Faulty f.fault) ∧
    ∀ path e, At entries path e → List.Lex (· < ·) path f.path → e.Valid

/-- What an entry is refused for: its own fault, or else the first fault in its nested template. -/
def RefusedFor (e : Entry) (f : PlacedFault) : Prop :=
  f.path = [] ∧ e.Faulty f.fault ∨ e.Valid ∧ FirstFault e.nested f

theorem Faulty.not_valid {e : Entry} {fault : EntryFault} (h : e.Faulty fault) : ¬ e.Valid := by
  cases e
  exact EntryFields.Faulty.not_valid h

mutual

/-- What holds of an entry if it holds of the entries nested in it holds of all entries. -/
theorem nested_induction {P : Entry → Prop} (step : ∀ e, (∀ inner ∈ e.nested, P inner) → P e) :
    ∀ e, P e
  | .mk fields none => step _ (by simp [nested])
  | .mk fields (some entries) => step _ (nested_induction_list step entries)

theorem nested_induction_list {P : Entry → Prop}
    (step : ∀ e, (∀ inner ∈ e.nested, P inner) → P e) :
    ∀ entries : List Entry, ∀ e ∈ entries, P e
  | [] => by simp
  | first :: rest =>
    List.forall_mem_cons.2 ⟨nested_induction step first, nested_induction_list step rest⟩

end

/-! ## Reading a list -/

variable {digestOf : String → String}

theorem directives_eq (fields : EntryFields) (body : Option (List Entry)) :
    directives digestOf (.mk fields body) = (do
      let _ ← here (fields.kind body.isSome)
      let inner ← allDirectives digestOf 1 (body.getD [])
      here (fields.directives (.ofDirectives digestOf inner))) := by
  cases body <;> rfl

theorem allDirectives_cons_ok {position : Nat} {e : Entry} {rest : List Entry}
    {ds : List Directive} :
    allDirectives digestOf position (e :: rest) = .ok ds ↔
      ∃ first more, directives digestOf e = .ok first ∧
        allDirectives digestOf (position + 1) rest = .ok more ∧ ds = first ++ more := by
  simp only [allDirectives]
  cases directives digestOf e with
  | error f => simp [Except.mapError, bind, Except.bind]
  | ok first =>
    cases allDirectives digestOf (position + 1) rest with
    | error f => simp [Except.mapError, bind, Except.bind]
    | ok more => simp [Except.mapError, bind, Except.bind, pure, Except.pure, eq_comm]

theorem allDirectives_eq_ok_iff {position : Nat} {entries : List Entry} {ds : List Directive} :
    allDirectives digestOf position entries = .ok ds ↔
      ∃ dss, List.Forall₂ (fun e ds => directives digestOf e = .ok ds) entries dss ∧
        ds = dss.flatten := by
  induction entries generalizing position ds with
  | nil => simp [allDirectives, eq_comm]
  | cons e rest ih =>
    simp only [allDirectives_cons_ok, ih, List.forall₂_cons_left_iff]
    constructor
    · rintro ⟨first, _, he, ⟨dss, hrest, rfl⟩, rfl⟩
      exact ⟨_, ⟨first, dss, he, hrest, rfl⟩, rfl⟩
    · rintro ⟨_, ⟨first, dss, he, hrest, rfl⟩, rfl⟩
      exact ⟨first, _, he, ⟨dss, hrest, rfl⟩, rfl⟩

/-- A list is refused for the first of its entries that is refused. -/
theorem allDirectives_error {position : Nat} {entries : List Entry} {f : PlacedFault}
    (h : allDirectives digestOf position entries = .error f) :
    ∃ i e inner, entries[i]? = some e ∧ directives digestOf e = .error inner ∧
      f = inner.within (i + position) ∧
      ∀ j < i, ∀ earlier, entries[j]? = some earlier →
        ∃ ds, directives digestOf earlier = .ok ds := by
  induction entries generalizing position f with
  | nil => cases h
  | cons first rest ih =>
    simp only [allDirectives] at h
    cases hfirst : directives digestOf first with
    | error inner =>
      simp only [hfirst, Except.mapError, bind, Except.bind] at h
      cases h
      exact ⟨0, first, inner, rfl, hfirst, by simp, by simp⟩
    | ok ds =>
      simp only [hfirst, Except.mapError, bind, Except.bind] at h
      cases hrest : allDirectives digestOf (position + 1) rest with
      | ok more => simp [hrest, pure, Except.pure] at h
      | error g =>
        simp only [hrest] at h
        cases h
        obtain ⟨i, e, inner, hi, he, hf, hearlier⟩ := ih hrest
        refine ⟨i + 1, e, inner, hi, he, by rw [hf]; congr 1; omega, ?_⟩
        rintro (_ | j) hj earlier hget
        · exact ⟨ds, by simpa [← Option.some.inj hget] using hfirst⟩
        · exact hearlier j (by omega) earlier hget

/-- An entry that is refused has fields at fault or a refused entry nested in it. -/
theorem directives_error {e : Entry} {f : PlacedFault} (h : directives digestOf e = .error f) :
    f.path = [] ∧ e.Faulty f.fault ∨
      e.Valid ∧ allDirectives digestOf 1 e.nested = .error f := by
  obtain ⟨fields, body⟩ := e
  rw [directives_eq] at h
  cases hkind : fields.kind body.isSome with
  | error fault =>
    simp only [hkind, here, Except.mapError, bind, Except.bind] at h
    cases h
    exact .inl ⟨rfl, EntryFields.faulty_of_kind hkind⟩
  | ok kind =>
    simp only [hkind, here, Except.mapError, bind, Except.bind] at h
    cases hinner : allDirectives digestOf 1 (body.getD []) with
    | error g =>
      simp only [hinner] at h
      cases h
      match body with
      | none => cases hinner
      | some entries => exact .inr ⟨EntryFields.valid_of_kind hkind, hinner⟩
    | ok inner =>
      simp only [hinner] at h
      rcases EntryFields.means_or_faulty_of_kind hkind (.ofDirectives digestOf inner) with
        ⟨ds, hmeans⟩ | ⟨hds, hfaulty⟩
      · simp [hmeans.directives_ok] at h
      · simp only [hds] at h
        cases h
        exact .inl ⟨rfl, hfaulty⟩

theorem directives_mk_ok {fields : EntryFields} {body : Option (List Entry)}
    {ds : List Directive} :
    directives digestOf (.mk fields body) = .ok ds ↔
      ∃ kind inner, fields.kind body.isSome = .ok kind ∧
        allDirectives digestOf 1 (body.getD []) = .ok inner ∧
        fields.directives (.ofDirectives digestOf inner) = .ok ds := by
  rw [directives_eq]
  cases fields.kind body.isSome with
  | error fault => simp [here, Except.mapError, bind, Except.bind]
  | ok kind =>
    cases allDirectives digestOf 1 (body.getD []) with
    | error f => simp [here, Except.mapError, bind, Except.bind]
    | ok inner =>
      cases hds : fields.directives (.ofDirectives digestOf inner) with
      | error fault => simp [here, Except.mapError, bind, Except.bind, hds]
      | ok ds => simp [here, Except.mapError, bind, Except.bind, hds]

/-- An entry is accepted for what it stands for. -/
theorem directives_eq_ok_iff {e : Entry} {ds : List Directive} :
    directives digestOf e = .ok ds ↔ Stands digestOf e ds := by
  induction e using nested_induction generalizing ds with
  | step e ih =>
    obtain ⟨fields, body⟩ := e
    rw [directives_mk_ok]
    constructor
    · rintro ⟨kind, inner, hkind, hinner, hds⟩
      obtain ⟨dss, hdss, rfl⟩ := allDirectives_eq_ok_iff.1 hinner
      have hstand : List.Forall₂ (Stands digestOf) (body.getD []) dss :=
        ((List.forall₂_and_left _ _).2 ⟨ih, hdss⟩).imp fun e ds ⟨hiff, h⟩ => hiff.1 h
      rcases EntryFields.means_or_faulty_of_kind hkind (.ofDirectives digestOf dss.flatten) with
        ⟨ds', hmeans⟩ | ⟨hrefused, -⟩
      · obtain rfl : ds' = ds := Except.ok.inj (hmeans.directives_ok.symm.trans hds)
        exact .mk hstand hmeans
      · rw [hrefused] at hds
        cases hds
    · rintro ⟨hstand, hmeans⟩
      obtain ⟨kind, hkind⟩ := hmeans.kind_ok
      have hdss := ((List.forall₂_and_left _ _).2 ⟨ih, hstand⟩).imp
        fun e ds ⟨hiff, h⟩ => hiff.2 h
      exact ⟨kind, _, hkind, allDirectives_eq_ok_iff.2 ⟨_, hdss, rfl⟩, hmeans.directives_ok⟩

theorem allDirectives_eq_ok_iff_stand {entries : List Entry} {ds : List Directive} :
    allDirectives digestOf 1 entries = .ok ds ↔
      ∃ dss, List.Forall₂ (Stands digestOf) entries dss ∧ ds = dss.flatten := by
  simp only [allDirectives_eq_ok_iff, directives_eq_ok_iff]

/-! ## Faults at any depth -/

theorem exists_of_forall₂ {α β : Type} {R : α → β → Prop} {as : List α} {bs : List β}
    (h : List.Forall₂ R as bs) : ∀ a ∈ as, ∃ b, R a b := by
  induction h with
  | nil => simp
  | cons hab _ ih => exact List.forall_mem_cons.2 ⟨⟨_, hab⟩, ih⟩

theorem Stands.valid {e : Entry} {ds : List Directive} (h : Stands digestOf e ds) : e.Valid := by
  obtain ⟨_, hmeans⟩ := h
  exact hmeans.valid

theorem Stands.nested {e : Entry} {ds : List Directive} (h : Stands digestOf e ds) :
    ∀ inner ∈ e.nested, ∃ ds, Stands digestOf inner ds := by
  obtain ⟨hdss, _⟩ := h
  exact exists_of_forall₂ hdss

/-- Entries that stand for directives are valid at any depth. -/
theorem At.valid_of_stand {entries : List Entry} {path : List Nat} {e : Entry}
    (h : At entries path e) (hs : ∀ outer ∈ entries, ∃ ds, Stands digestOf outer ds) :
    e.Valid := by
  induction h with
  | here hget =>
    obtain ⟨ds, hds⟩ := hs _ (List.mem_of_getElem? hget)
    exact hds.valid
  | inside hget _ ih =>
    obtain ⟨ds, hds⟩ := hs _ (List.mem_of_getElem? hget)
    exact ih hds.nested

/-- A path leads to one entry. -/
theorem At.unique {entries : List Entry} {path : List Nat} {e e' : Entry}
    (h : At entries path e) (h' : At entries path e') : e = e' := by
  induction h with
  | here hget =>
    cases h' with
    | here hget' => exact Option.some.inj (hget.symm.trans hget')
    | inside _ hnone => cases hnone
  | inside hget hin ih =>
    cases h' with
    | here => cases hin
    | inside hget' hin' =>
      obtain rfl := Option.some.inj (hget.symm.trans hget')
      exact ih hin'

theorem Faulty.unique {e : Entry} {fault fault' : EntryFault} (h : e.Faulty fault)
    (h' : e.Faulty fault') : fault = fault' := by
  cases e
  exact EntryFields.Faulty.unique h h'

/-- One fault comes first. -/
theorem FirstFault.unique {entries : List Entry} {f g : PlacedFault} (hf : FirstFault entries f)
    (hg : FirstFault entries g) : f = g := by
  obtain ⟨⟨e, hat, hfaulty⟩, hfirst⟩ := hf
  obtain ⟨⟨e', hat', hfaulty'⟩, hfirst'⟩ := hg
  rcases trichotomous_of (List.Lex (· < ·)) f.path g.path with hlt | heq | hlt
  · exact absurd (hfirst' _ _ hat hlt) hfaulty.not_valid
  · obtain rfl := hat.unique (heq ▸ hat')
    have hfault := hfaulty.unique hfaulty'
    cases f
    cases g
    simp_all
  · exact absurd (hfirst _ _ hat' hlt) hfaulty'.not_valid

/-- The first fault of a list lies in the first entry that is not accepted. It is the fault of the
entry itself or the first fault of the entries nested in it. -/
theorem FirstFault.within {entries : List Entry} {i : Nat} {e : Entry} {f : PlacedFault}
    (hget : entries[i]? = some e)
    (hf : e.RefusedFor f)
    (hearlier : ∀ j < i, ∀ earlier, entries[j]? = some earlier → ∃ ds, Stands digestOf earlier ds) :
    FirstFault entries (f.within (i + 1)) := by
  constructor
  · rcases hf with ⟨hpath, hfaulty⟩ | ⟨_, ⟨inner, hat, hfaulty⟩, _⟩
    · exact ⟨e, by simpa [PlacedFault.within, hpath] using At.here hget, hfaulty⟩
    · exact ⟨inner, .inside hget hat, hfaulty⟩
  · intro path e' hat hlt
    cases hat with
    | here hget' =>
      cases hlt with
      | rel hj =>
        obtain ⟨ds, hds⟩ := hearlier _ (by omega) _ hget'
        exact hds.valid
      | cons hlt =>
        obtain rfl := Option.some.inj (hget.symm.trans hget')
        rcases hf with ⟨hpath, _⟩ | ⟨hvalid, _⟩
        · rw [hpath] at hlt
          cases hlt
        · exact hvalid
    | inside hget' hat' =>
      cases hlt with
      | rel hj =>
        obtain ⟨ds, hds⟩ := hearlier _ (by omega) _ hget'
        exact hat'.valid_of_stand hds.nested
      | cons hlt =>
        obtain rfl := Option.some.inj (hget.symm.trans hget')
        rcases hf with ⟨hpath, _⟩ | ⟨_, _, hfirst⟩
        · rw [hpath] at hlt
          cases hlt
        · exact hfirst _ _ hat' hlt

theorem firstFault_of_error {entries : List Entry} {f : PlacedFault}
    (h : allDirectives digestOf 1 entries = .error f)
    (hentries : ∀ e ∈ entries, ∀ f, directives digestOf e = .error f → e.RefusedFor f) :
    FirstFault entries f := by
  obtain ⟨i, e, inner, hget, he, rfl, hearlier⟩ := allDirectives_error h
  simp only [directives_eq_ok_iff] at hearlier
  exact .within hget (hentries e (List.mem_of_getElem? hget) inner he) hearlier

theorem refusedFor_of_error {e : Entry} {f : PlacedFault}
    (h : directives digestOf e = .error f) : e.RefusedFor f := by
  induction e using nested_induction generalizing f with
  | step e ih =>
    rcases directives_error h with hown | ⟨hvalid, hnested⟩
    · exact .inl hown
    · exact .inr ⟨hvalid, firstFault_of_error hnested fun inner hmem _ => ih inner hmem⟩

theorem allDirectives_eq_error_iff {entries : List Entry} {f : PlacedFault} :
    allDirectives digestOf 1 entries = .error f ↔ FirstFault entries f := by
  have hfirst {g} (h : allDirectives digestOf 1 entries = .error g) : FirstFault entries g :=
    firstFault_of_error h fun _ _ _ => refusedFor_of_error
  refine ⟨hfirst, fun h => ?_⟩
  cases hds : allDirectives digestOf 1 entries with
  | error g => rw [(hfirst hds).unique h]
  | ok ds =>
    obtain ⟨dss, hstand, -⟩ := allDirectives_eq_ok_iff_stand.1 hds
    obtain ⟨⟨e, hat, hfaulty⟩, -⟩ := h
    exact absurd (hat.valid_of_stand (exists_of_forall₂ hstand)) hfaulty.not_valid

/-- A list is accepted exactly if every entry at every depth is valid, and then stands for the
directives of its entries in order. Otherwise it is refused for its first fault, with the positions
on the way to it. -/
theorem accepts_valid_or_refuses_first_fault (digestOf : String → String) (entries : List Entry) :
    ((∃ ds, allDirectives digestOf 1 entries = .ok ds) ↔
      ∀ path e, At entries path e → e.Valid) ∧
    (∀ ds, allDirectives digestOf 1 entries = .ok ds ↔
      ∃ dss, List.Forall₂ (Stands digestOf) entries dss ∧ ds = dss.flatten) ∧
    (∀ f, allDirectives digestOf 1 entries = .error f ↔ FirstFault entries f) ∧
    ∀ f : PlacedFault, f.message =
      f.path.foldr (fun i rest => "directive " ++ toString i ++ ": " ++ rest) f.fault.message := by
  refine ⟨⟨?_, fun h => ?_⟩, fun _ => allDirectives_eq_ok_iff_stand,
    fun _ => allDirectives_eq_error_iff, PlacedFault.message_eq⟩
  · rintro ⟨ds, hds⟩ path e hat
    obtain ⟨dss, hstand, -⟩ := allDirectives_eq_ok_iff_stand.1 hds
    exact hat.valid_of_stand (exists_of_forall₂ hstand)
  · cases hds : allDirectives digestOf 1 entries with
    | ok ds => exact ⟨ds, rfl⟩
    | error f =>
      obtain ⟨⟨e, hat, hfaulty⟩, -⟩ := allDirectives_eq_error_iff.1 hds
      exact absurd (h _ _ hat) hfaulty.not_valid

example :
    (allDirectives id 1
      [.mk { attributeName := some "id" } none,
        .mk { child := some "posts" } (some [.mk {} none])]).mapError PlacedFault.message =
      .error "directive 2: directive 1: entry has no directive key" := by
  rfl

end Entry

end DocumentTemplates
