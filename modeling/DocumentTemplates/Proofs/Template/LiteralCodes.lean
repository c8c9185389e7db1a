import DocumentTemplates.Proofs.Decimal.Floats
import DocumentTemplates.Proofs.Template.NanLiterals
import DocumentTemplates.Proofs.Text.SelfDelimiting

/-!
# Literal data in fingerprints

Values, data, selectors and root settings are written out in full. Each of these texts ends where
its brackets close, and stands for one literal only but for the NaNs in it.
-/

namespace DocumentTemplates.Fingerprint

open Text

variable {α : Type} {R : α → α → Prop} {code : α → List Char}

theorem separated_cons (part : List Char) (rest : List (List Char)) :
    separated (part :: rest) = part ++ rest.flatMap fun p => ',' :: ' ' :: p := by
  induction rest generalizing part with
  | nil => rw [separated, List.flatMap_nil, List.append_nil]
  | cons next rest ih =>
    rw [separated, ih, List.flatMap_cons]
    · rfl
    · exact List.cons_ne_nil next rest

theorem separated_append (part : List Char) (parts : List α) (rest : List Char) :
    separated (part :: parts.map code) ++ rest =
      part ++ (parts.flatMap (fun a => ',' :: ' ' :: code a) ++ rest) := by
  rw [separated_cons, List.flatMap_map, List.append_assoc]

theorem separated_inj {c : Char} (hcomma : c ≠ ',')
    (hc : ∀ a rest more, code a ++ rest ≠ c :: more) {as bs : List α}
    (ha : ∀ a ∈ as, SelfDelimiting R code a) {rest more : List Char}
    (h : separated (as.map code) ++ c :: rest = separated (bs.map code) ++ c :: more) :
    List.Forall₂ R as bs ∧ rest = more := by
  cases as with
  | nil =>
    cases bs with
    | nil => exact ⟨.nil, (List.cons.inj h).2⟩
    | cons b bs =>
      rw [List.map_cons, separated_append] at h
      exact absurd h.symm (hc b _ _)
  | cons a as =>
    cases bs with
    | nil =>
      rw [List.map_cons, separated_append] at h
      exact absurd h (hc a _ _)
    | cons b bs =>
      rw [List.map_cons, List.map_cons, separated_append, separated_append] at h
      obtain ⟨hab, ht⟩ := ha a List.mem_cons_self b _ _ h
      have hitem : ∀ x ∈ as, SelfDelimiting R (fun a => ',' :: ' ' :: code a) x := by
        intro x hx y rest more hxy
        exact ha x (List.mem_cons_of_mem a hx) y rest more
          (List.cons.inj (List.cons.inj hxy).2).2
      obtain ⟨has, hr⟩ := flatMap_inj hitem
        (fun x rest more hx => hcomma (List.cons.inj hx).1.symm) ht
      exact ⟨.cons hab has, hr⟩

theorem bracketed_selfDelimiting (hc : ∀ a rest more, code a ++ rest ≠ ']' :: more)
    {as : List α} (ha : ∀ a ∈ as, SelfDelimiting R code a) :
    SelfDelimiting (List.Forall₂ R) (fun as => bracketed (as.map code)) as := by
  intro bs rest more h
  simp only [bracketed, List.cons_append, List.append_assoc, List.nil_append, List.cons.injEq,
    true_and] at h
  exact separated_inj (by decide) hc ha h

theorem braced_selfDelimiting (hc : ∀ a rest more, code a ++ rest ≠ '}' :: more)
    {as : List α} (ha : ∀ a ∈ as, SelfDelimiting R code a) :
    SelfDelimiting (List.Forall₂ R) (fun as => braced (as.map code)) as := by
  intro bs rest more h
  simp only [braced, List.cons_append, List.append_assoc, List.nil_append, List.cons.injEq,
    true_and] at h
  exact separated_inj (by decide) hc ha h

theorem applied_append (name : String) (part rest : List Char) :
    applied name [part] ++ rest = name.toList ++ '(' :: (part ++ ')' :: rest) := by
  rw [applied, separated, List.append_assoc, List.cons_append, List.append_assoc,
    List.singleton_append]

/-- The argument of a constructor can be read if its own code is self-delimiting. -/
theorem applied_selfDelimiting (name : String) {a : α} (ha : SelfDelimiting R code a) :
    SelfDelimiting R (fun a => applied name [code a]) a := by
  intro b rest more h
  simp only [applied_append] at h
  obtain ⟨hab, hr⟩ := ha b _ _ (List.cons.inj (List.append_cancel_left h)).2
  exact ⟨hab, (List.cons.inj hr).2⟩

/-- The argument of a constructor can be read if it does not hold the closing bracket. -/
theorem applied_selfDelimiting_of_not_mem (name : String) (inj : ∀ a b, code a = code b → R a b)
    (hc : ∀ a, ')' ∉ code a) (a : α) : SelfDelimiting R (fun a => applied name [code a]) a := by
  intro b rest more h
  simp only [applied_append] at h
  obtain ⟨hab, hr⟩ := ended_inj (hc a) (hc b) (List.cons.inj (List.append_cancel_left h)).2
  exact ⟨inj a b hab, hr⟩

theorem optional_selfDelimiting {o : Option α} (ho : ∀ a ∈ o, SelfDelimiting R code a) :
    SelfDelimiting (Option.Rel R) (fun o => optional (o.map code)) o := by
  intro p rest more h
  cases o with
  | none =>
    cases p with
    | none => exact ⟨.none, List.append_cancel_left h⟩
    | some b => exact absurd (List.cons.inj h).1 (by decide)
  | some a =>
    cases p with
    | none => exact absurd (List.cons.inj h).1 (by decide)
    | some b =>
      obtain ⟨hab, hr⟩ := applied_selfDelimiting "Some" (ho a rfl) b rest more h
      exact ⟨.some hab, hr⟩

theorem optional_selfDelimiting_eq {o : Option α} (ho : ∀ a ∈ o, SelfDelimiting (· = ·) code a) :
    SelfDelimiting (· = ·) (fun o => optional (o.map code)) o := by
  intro p rest more h
  obtain ⟨hop, hr⟩ := optional_selfDelimiting ho p rest more h
  cases hop with
  | none => exact ⟨rfl, hr⟩
  | some hab => exact ⟨congrArg some hab, hr⟩

theorem optionalText_selfDelimiting (s : Option String) : SelfDelimiting (· = ·) optionalText s :=
  optional_selfDelimiting_eq fun a _ => quoted_selfDelimiting a

theorem boolean_selfDelimiting (b : Bool) : SelfDelimiting (· = ·) boolean b := by
  intro c rest more h
  cases b <;> cases c
  · exact ⟨rfl, List.append_cancel_left h⟩
  · exact absurd (List.cons.inj h).1 (by decide)
  · exact absurd (List.cons.inj h).1 (by decide)
  · exact ⟨rfl, List.append_cancel_left h⟩

theorem integer_selfDelimiting (i : Int64) :
    SelfDelimiting (· = ·) (fun i : Int64 => applied "Integer" [Decimal.intDigits i.toInt]) i := by
  refine applied_selfDelimiting_of_not_mem _ (fun i j h => ?_) (fun i => ?_) i
  · exact Int64.toInt_inj.1 (Decimal.intDigits_inj h)
  · exact Decimal.not_mem_intDigits (by decide) (by decide) i.toInt

theorem float_selfDelimiting (x : Double) :
    SelfDelimiting (SameButNans Double.nans)
      (fun x : Double => applied "Float" [(floatLayout.text x).toList]) x := by
  refine applied_selfDelimiting_of_not_mem _ (fun x y h => ?_) Decimal.not_mem_text x
  exact Double.sameButNans (Decimal.floatLayout_text_inj (String.toList_inj.1 h))

theorem keyed_selfDelimiting {nans : α → List Double} {e : String × α}
    (he : SelfDelimiting (SameButNans nans) code e.2) :
    SelfDelimiting (SameButNans fun e : String × α => nans e.2)
      (fun e => quoted e.1 ++ ':' :: ' ' :: code e.2) e := by
  intro f rest more h
  simp only [List.append_assoc, List.cons_append] at h
  obtain ⟨hk, ht⟩ := quoted_selfDelimiting e.1 f.1 _ _ h
  obtain ⟨hv, hr⟩ := he f.2 rest more (List.cons.inj (List.cons.inj ht).2).2
  exact ⟨.keyed hk hv, hr⟩

theorem keyed_ne_brace (e : String × α) (rest more : List Char) :
    (quoted e.1 ++ ':' :: ' ' :: code e.2) ++ rest ≠ '}' :: more :=
  fun h => absurd (List.cons.inj h).1 (by decide)

theorem fields_cancel {name : String} {cs ds : List Char}
    (h : name.toList ++ ' ' :: '{' :: ' ' :: cs = name.toList ++ ' ' :: '{' :: ' ' :: ds) :
    cs = ds :=
  (List.cons.inj (List.cons.inj (List.cons.inj (List.append_cancel_left h)).2).2).2

theorem field_cancel {key : String} {cs ds : List Char}
    (h : key.toList ++ ':' :: ' ' :: cs = key.toList ++ ':' :: ' ' :: ds) : cs = ds :=
  (List.cons.inj (List.cons.inj (List.append_cancel_left h)).2).2

theorem two_cancel {x y : Char} {cs ds : List Char} (h : x :: y :: cs = x :: y :: ds) : cs = ds :=
  (List.cons.inj (List.cons.inj h).2).2

/-! ## Values -/

theorem ofValues_eq_map (items : List Value) : ofValues items = items.map ofValue := by
  induction items with
  | nil => rfl
  | cons v rest ih => rw [ofValues, ih, List.map_cons]

theorem ofEntries_eq_map (entries : List (String × Value)) :
    ofEntries entries = entries.map fun e => quoted e.1 ++ ':' :: ' ' :: ofValue e.2 := by
  induction entries with
  | nil => rfl
  | cons e rest ih => rw [ofEntries, ih, List.map_cons]

theorem ofValue_ne_bracket (v : Value) (rest more : List Char) :
    ofValue v ++ rest ≠ ']' :: more := by
  cases v <;> exact fun h => absurd (List.cons.inj h).1 (by decide)

theorem array_selfDelimiting {items : List Value}
    (h : ∀ v ∈ items, SelfDelimiting (SameButNans Value.nans) ofValue v) :
    SelfDelimiting (SameButNans Value.nansOfItems)
      (fun items => applied "Array" [bracketed (ofValues items)]) items := by
  simp only [ofValues_eq_map, funext Value.nansOfItems_eq_flatMap]
  apply applied_selfDelimiting
  intro others rest more ho
  obtain ⟨hitems, hr⟩ := bracketed_selfDelimiting ofValue_ne_bracket h others rest more ho
  exact ⟨.list hitems, hr⟩

theorem document_selfDelimiting {entries : List (String × Value)}
    (h : ∀ e ∈ entries, SelfDelimiting (SameButNans Value.nans) ofValue e.2) :
    SelfDelimiting (SameButNans Value.nansOfEntries) (fun entries =>
      applied "Document" [fields "Document" [("entries", braced (ofEntries entries))]])
      entries := by
  rw [funext Value.nansOfEntries_eq_flatMap]
  apply applied_selfDelimiting
  intro others rest more ho
  simp only [fields, List.map_cons, List.map_nil, separated, ofEntries_eq_map, List.cons_append,
    List.append_assoc] at ho
  obtain ⟨hentries, hr⟩ := braced_selfDelimiting keyed_ne_brace
    (fun e he => keyed_selfDelimiting (h e he)) others _ _ (field_cancel (fields_cancel ho))
  exact ⟨.list hentries, two_cancel hr⟩

mutual

/-- The text of a value stands for that value only, but for its NaNs. -/
theorem ofValue_selfDelimiting : ∀ v, SelfDelimiting (SameButNans Value.nans) ofValue v
  | .null => by
    intro w rest more h
    cases w with
    | null => exact ⟨.refl _, List.append_cancel_left h⟩
    | _ => exact absurd (List.cons.inj h).1 (by decide)
  | .bool b => by
    intro w rest more h
    cases w with
    | bool c =>
      obtain ⟨rfl, hr⟩ := applied_selfDelimiting "Bool" (boolean_selfDelimiting b) c rest more h
      exact ⟨.refl _, hr⟩
    | _ => exact absurd (List.cons.inj h).1 (by decide)
  | .integer i => by
    intro w rest more h
    cases w with
    | integer j =>
      obtain ⟨rfl, hr⟩ := integer_selfDelimiting i j rest more h
      exact ⟨.refl _, hr⟩
    | _ => exact absurd (List.cons.inj h).1 (by decide)
  | .float x => by
    intro w rest more h
    cases w with
    | float y =>
      obtain ⟨hx, hr⟩ := float_selfDelimiting x y rest more h
      exact ⟨hx.map Value.float fun _ => rfl, hr⟩
    | _ => exact absurd (List.cons.inj h).1 (by decide)
  | .string s => by
    intro w rest more h
    cases w with
    | string t =>
      obtain ⟨rfl, hr⟩ := applied_selfDelimiting "String" (quoted_selfDelimiting s) t rest more h
      exact ⟨.refl _, hr⟩
    | _ => exact absurd (List.cons.inj h).1 (by decide)
  | .array items => by
    intro w rest more h
    cases w with
    | array others =>
      obtain ⟨hitems, hr⟩ :=
        array_selfDelimiting (ofValues_selfDelimiting items) others rest more h
      exact ⟨hitems.map Value.array fun _ => rfl, hr⟩
    | _ => exact absurd (List.cons.inj h).1 (by decide)
  | .document entries => by
    intro w rest more h
    cases w with
    | document others =>
      obtain ⟨hentries, hr⟩ :=
        document_selfDelimiting (ofEntries_selfDelimiting entries) others rest more h
      exact ⟨hentries.map Value.document fun _ => rfl, hr⟩
    | _ => exact absurd (List.cons.inj h).1 (by decide)

theorem ofValues_selfDelimiting : ∀ items : List Value,
    ∀ v ∈ items, SelfDelimiting (SameButNans Value.nans) ofValue v
  | [] => fun _ h => absurd h List.not_mem_nil
  | v :: rest =>
    List.forall_mem_cons.2 ⟨ofValue_selfDelimiting v, ofValues_selfDelimiting rest⟩

theorem ofEntries_selfDelimiting : ∀ entries : List (String × Value),
    ∀ e ∈ entries, SelfDelimiting (SameButNans Value.nans) ofValue e.2
  | [] => fun _ h => absurd h List.not_mem_nil
  | (_, v) :: rest =>
    List.forall_mem_cons.2 ⟨ofValue_selfDelimiting v, ofEntries_selfDelimiting rest⟩

end

/-! ## Data -/

theorem ofItems_eq_map (items : List Data) : ofItems items = items.map ofData := by
  induction items with
  | nil => rfl
  | cons d rest ih => rw [ofItems, ih, List.map_cons]

theorem ofMembers_eq_map (members : List (String × Data)) :
    ofMembers members = members.map fun m => quoted m.1 ++ ':' :: ' ' :: ofData m.2 := by
  induction members with
  | nil => rfl
  | cons m rest ih => rw [ofMembers, ih, List.map_cons]

theorem ofData_ne_bracket (d : Data) (rest more : List Char) :
    ofData d ++ rest ≠ ']' :: more := by
  cases d <;> exact fun h => absurd (List.cons.inj h).1 (by decide)

theorem list_selfDelimiting (name : Option String) {items : List Data}
    (h : ∀ d ∈ items, SelfDelimiting (SameButNans Data.nans) ofData d) :
    SelfDelimiting (fun l m => l.1 = m.1 ∧ SameButNans Data.nansOfItems l.2 m.2)
      (fun l : Option String × List Data => applied "List" [fields "DataList"
        [("name", optionalText l.1), ("items", bracketed (ofItems l.2))]]) (name, items) := by
  rw [funext Data.nansOfItems_eq_flatMap]
  apply applied_selfDelimiting
  intro l rest more hl
  simp only [fields, List.map_cons, List.map_nil, separated, ofItems_eq_map, List.cons_append,
    List.append_assoc] at hl
  obtain ⟨hname, ht⟩ :=
    optionalText_selfDelimiting name l.1 _ _ (field_cancel (fields_cancel hl))
  obtain ⟨hitems, hr⟩ :=
    bracketed_selfDelimiting ofData_ne_bracket h l.2 _ _ (field_cancel (two_cancel ht))
  exact ⟨⟨hname, .list hitems⟩, two_cancel hr⟩

theorem record_selfDelimiting (kind key : Option String) {members : List (String × Data)}
    (h : ∀ m ∈ members, SelfDelimiting (SameButNans Data.nans) ofData m.2) :
    SelfDelimiting
      (fun r q => r.1 = q.1 ∧ r.2.1 = q.2.1 ∧ SameButNans Data.nansOfMembers r.2.2 q.2.2)
      (fun r : Option String × Option String × List (String × Data) =>
        applied "Record" [fields "Record"
          [("kind", optionalText r.1), ("cache_key", optionalText r.2.1),
            ("fields", braced (ofMembers r.2.2))]]) (kind, key, members) := by
  rw [funext Data.nansOfMembers_eq_flatMap]
  apply applied_selfDelimiting
  intro r rest more hr
  simp only [fields, List.map_cons, List.map_nil, separated, ofMembers_eq_map, List.cons_append,
    List.append_assoc] at hr
  obtain ⟨hkind, ht⟩ :=
    optionalText_selfDelimiting kind r.1 _ _ (field_cancel (fields_cancel hr))
  obtain ⟨hkey, ht⟩ :=
    optionalText_selfDelimiting key r.2.1 _ _ (field_cancel (two_cancel ht))
  obtain ⟨hmembers, ht⟩ := braced_selfDelimiting keyed_ne_brace
    (fun m hm => keyed_selfDelimiting (h m hm)) r.2.2 _ _ (field_cancel (two_cancel ht))
  exact ⟨⟨hkind, hkey, .list hmembers⟩, two_cancel ht⟩

mutual

/-- The text of data stands for that data only, but for its NaNs. -/
theorem ofData_selfDelimiting : ∀ d, SelfDelimiting (SameButNans Data.nans) ofData d
  | .null => by
    intro w rest more h
    cases w with
    | null => exact ⟨.refl _, List.append_cancel_left h⟩
    | _ => exact absurd (List.cons.inj h).1 (by decide)
  | .bool b => by
    intro w rest more h
    cases w with
    | bool c =>
      obtain ⟨rfl, hr⟩ := applied_selfDelimiting "Bool" (boolean_selfDelimiting b) c rest more h
      exact ⟨.refl _, hr⟩
    | _ => exact absurd (List.cons.inj h).1 (by decide)
  | .integer i => by
    intro w rest more h
    cases w with
    | integer j =>
      obtain ⟨rfl, hr⟩ := integer_selfDelimiting i j rest more h
      exact ⟨.refl _, hr⟩
    | _ => exact absurd (List.cons.inj h).1 (by decide)
  | .float x => by
    intro w rest more h
    cases w with
    | float y =>
      obtain ⟨hx, hr⟩ := float_selfDelimiting x y rest more h
      exact ⟨hx.map Data.float fun _ => rfl, hr⟩
    | _ => exact absurd (List.cons.inj h).1 (by decide)
  | .string s => by
    intro w rest more h
    cases w with
    | string t =>
      obtain ⟨rfl, hr⟩ := applied_selfDelimiting "String" (quoted_selfDelimiting s) t rest more h
      exact ⟨.refl _, hr⟩
    | _ => exact absurd (List.cons.inj h).1 (by decide)
  | .list name items => by
    intro w rest more h
    cases w with
    | list name' others =>
      obtain ⟨⟨hname, hitems⟩, hr⟩ :=
        list_selfDelimiting name (ofItems_selfDelimiting items) (name', others) rest more h
      obtain rfl : name = name' := hname
      exact ⟨hitems.map (Data.list name) fun _ => rfl, hr⟩
    | _ => exact absurd (List.cons.inj h).1 (by decide)
  | .record kind key members => by
    intro w rest more h
    cases w with
    | record kind' key' others =>
      obtain ⟨⟨hkind, hkey, hmembers⟩, hr⟩ := record_selfDelimiting kind key
        (ofMembers_selfDelimiting members) (kind', key', others) rest more h
      obtain rfl : kind = kind' := hkind
      obtain rfl : key = key' := hkey
      exact ⟨hmembers.map (Data.record kind key) fun _ => rfl, hr⟩
    | _ => exact absurd (List.cons.inj h).1 (by decide)

theorem ofItems_selfDelimiting : ∀ items : List Data,
    ∀ d ∈ items, SelfDelimiting (SameButNans Data.nans) ofData d
  | [] => fun _ h => absurd h List.not_mem_nil
  | d :: rest => List.forall_mem_cons.2 ⟨ofData_selfDelimiting d, ofItems_selfDelimiting rest⟩

theorem ofMembers_selfDelimiting : ∀ members : List (String × Data),
    ∀ m ∈ members, SelfDelimiting (SameButNans Data.nans) ofData m.2
  | [] => fun _ h => absurd h List.not_mem_nil
  | (_, d) :: rest =>
    List.forall_mem_cons.2 ⟨ofData_selfDelimiting d, ofMembers_selfDelimiting rest⟩

end

/-! ## Selectors and root settings -/

theorem named_append (inner : Selector) (name : String) (rest : List Char) :
    ofSelector (.named inner name) ++ rest =
      "Named(".toList ++ (ofSelector inner ++ ',' :: ' ' :: (quoted name ++ ')' :: rest)) := by
  simp only [ofSelector, applied, separated, List.append_assoc, List.cons_append, List.nil_append]
  rfl

/-- The text of a selector stands for that selector only, but for its NaNs. -/
theorem ofSelector_selfDelimiting (s : Selector) :
    SelfDelimiting (SameButNans Selector.nans) ofSelector s := by
  induction s with
  | current =>
    intro t rest more h
    cases t with
    | current => exact ⟨.refl _, List.append_cancel_left h⟩
    | _ => exact absurd (List.cons.inj h).1 (by decide)
  | member name =>
    intro t rest more h
    cases t with
    | member name' =>
      obtain ⟨rfl, hr⟩ :=
        applied_selfDelimiting "Member" (quoted_selfDelimiting name) name' rest more h
      exact ⟨.refl _, hr⟩
    | _ => exact absurd (List.cons.inj h).1 (by decide)
  | «variable» name =>
    intro t rest more h
    cases t with
    | «variable» name' =>
      obtain ⟨rfl, hr⟩ :=
        applied_selfDelimiting "Variable" (quoted_selfDelimiting name) name' rest more h
      exact ⟨.refl _, hr⟩
    | value data => exact absurd (List.cons.inj (List.cons.inj (List.cons.inj h).2).2).1 (by decide)
    | _ => exact absurd (List.cons.inj h).1 (by decide)
  | value data =>
    intro t rest more h
    cases t with
    | value data' =>
      obtain ⟨hdata, hr⟩ :=
        applied_selfDelimiting "Value" (ofData_selfDelimiting data) data' rest more h
      exact ⟨hdata.map Selector.value fun _ => rfl, hr⟩
    | «variable» name =>
      exact absurd (List.cons.inj (List.cons.inj (List.cons.inj h).2).2).1 (by decide)
    | _ => exact absurd (List.cons.inj h).1 (by decide)
  | named inner name ih =>
    intro t rest more h
    cases t with
    | named inner' name' =>
      rw [named_append, named_append] at h
      obtain ⟨hinner, ht⟩ := ih inner' _ _ (List.append_cancel_left h)
      obtain ⟨rfl, hr⟩ := quoted_selfDelimiting name name' _ _ (two_cancel ht)
      exact ⟨hinner.map (Selector.named · name) fun _ => rfl, (List.cons.inj hr).2⟩
    | _ => exact absurd (List.cons.inj h).1 (by decide)

theorem ofRoot_selfDelimiting (r : RootSetting) : SelfDelimiting (· = ·) ofRoot r := by
  intro q rest more h
  cases r with
  | enabled on =>
    cases q with
    | enabled on' =>
      obtain ⟨rfl, hr⟩ :=
        applied_selfDelimiting "Enabled" (boolean_selfDelimiting on) on' rest more h
      exact ⟨rfl, hr⟩
    | named name => exact absurd (List.cons.inj h).1 (by decide)
  | named name =>
    cases q with
    | enabled on => exact absurd (List.cons.inj h).1 (by decide)
    | named name' =>
      obtain ⟨rfl, hr⟩ :=
        applied_selfDelimiting "Named" (quoted_selfDelimiting name) name' rest more h
      exact ⟨rfl, hr⟩

end DocumentTemplates.Fingerprint
