import DocumentTemplates.Proofs.Build.Store
import DocumentTemplates.Proofs.Template.Loading
import DocumentTemplates.Proofs.Digest
import Mathlib.Data.Finset.Card
import Mathlib.Data.Finset.Dedup

/-!
# The walk through the bases of a template

`BaseWalk` is the visit of bases without a bound on chains: a derivation is a finite walk. Every
template has one, whatever its bases extend, since each step down meets a name of the source that
was not met before. What the walk meets is closed: each base that can be loaded is met with
everything it extends. And the text that names the bases with their digests can be read back along
the walk, which knows every name before it knows its digest.
-/

namespace DocumentTemplates

def BaseDigests.names (met : BaseDigests) : List String :=
  met.map Prod.fst

/-- The visit of the bases with the given names, from the bases met before to the bases met
after. -/
inductive BaseWalk (load? : String → Option Template) :
    List String → BaseDigests → BaseDigests → Prop
  | done {met : BaseDigests} : BaseWalk load? [] met met
  | seen {name : String} {rest : List String} {met out : BaseDigests} :
    name ∈ met.names → BaseWalk load? rest met out → BaseWalk load? (name :: rest) met out
  | missing {name : String} {rest : List String} {met out : BaseDigests} :
    name ∉ met.names → load? name = none → BaseWalk load? rest (met ++ [(name, none)]) out →
    BaseWalk load? (name :: rest) met out
  | base {name : String} {rest : List String} {met mid out : BaseDigests} {t : Template} :
    name ∉ met.names → load? name = some t →
    BaseWalk load? t.baseNames (met ++ [(name, some t.digest)]) mid →
    BaseWalk load? rest mid out → BaseWalk load? (name :: rest) met out

theorem BaseDigests.names_append (met more : BaseDigests) :
    BaseDigests.names (met ++ more) = met.names ++ more.names := by
  simp [BaseDigests.names]

theorem BaseDigests.names_singleton (name : String) (digest : Option String) :
    BaseDigests.names [(name, digest)] = [name] := rfl

theorem BaseDigests.any_eq_true {met : BaseDigests} {name : String} :
    met.any (·.1 = name) = true ↔ name ∈ met.names := by
  rw [List.any_eq_true, BaseDigests.names, List.mem_map]
  simp only [decide_eq_true_eq]

namespace BaseWalk

variable {load? : String → Option Template} {names : List String} {met out : BaseDigests}

theorem extends_met (h : BaseWalk load? names met out) : ∃ new, out = met ++ new := by
  induction h with
  | done => exact ⟨[], (List.append_nil _).symm⟩
  | seen _ _ ih => exact ih
  | missing _ _ _ ih =>
    obtain ⟨new, rfl⟩ := ih
    exact ⟨_, List.append_assoc _ _ _⟩
  | @base name _ _ _ _ t _ _ _ _ ih₁ ih₂ =>
    obtain ⟨new₁, rfl⟩ := ih₁
    obtain ⟨new₂, rfl⟩ := ih₂
    exact ⟨[(name, some t.digest)] ++ (new₁ ++ new₂), by simp only [List.append_assoc]⟩

theorem names_of_names_met (h : BaseWalk load? names met out) {name : String}
    (hn : name ∈ met.names) : name ∈ out.names := by
  obtain ⟨new, rfl⟩ := h.extends_met
  rw [BaseDigests.names_append]
  exact List.mem_append_left _ hn

theorem mem_names (h : BaseWalk load? names met out) {name : String} (hn : name ∈ names) :
    name ∈ out.names := by
  induction h with
  | done => cases hn
  | seen hm hw ih =>
    rcases List.mem_cons.1 hn with rfl | hn
    · exact hw.names_of_names_met hm
    · exact ih hn
  | missing _ _ hw ih =>
    rcases List.mem_cons.1 hn with rfl | hn
    · exact hw.names_of_names_met (by simp [BaseDigests.names])
    · exact ih hn
  | base _ _ hw₁ hw₂ _ ih₂ =>
    rcases List.mem_cons.1 hn with rfl | hn
    · exact hw₂.names_of_names_met (hw₁.names_of_names_met (by simp [BaseDigests.names]))
    · exact ih₂ hn

/-- What is right about an entry: it has the digest of the template of its name, everything that
template extends is met, and it has no digest only if there is no such template. -/
def Covers (load? : String → Option Template) (out : BaseDigests)
    (entry : String × Option String) : Prop :=
  match entry.2 with
  | some digest => ∃ t, load? entry.1 = some t ∧ t.digest = digest ∧
      ∀ name ∈ t.baseNames, name ∈ out.names
  | none => load? entry.1 = none

theorem Covers.mono {mid : BaseDigests} {entry : String × Option String}
    (h : Covers load? mid entry) (hm : ∀ name ∈ mid.names, name ∈ out.names) :
    Covers load? out entry := by
  obtain ⟨name, digest⟩ := entry
  cases digest with
  | none => exact h
  | some digest =>
    obtain ⟨t, ht, hd, hn⟩ := h
    exact ⟨t, ht, hd, fun name hname => hm name (hn name hname)⟩

/-- Every new entry is covered. -/
theorem covers (h : BaseWalk load? names met out) {entry : String × Option String}
    (he : entry ∈ out) : entry ∈ met ∨ Covers load? out entry := by
  induction h with
  | done => exact Or.inl he
  | seen _ _ ih => exact ih he
  | missing _ hl hw ih =>
    rcases ih he with hm | hc
    · rcases List.mem_append.1 hm with hm | hm
      · exact Or.inl hm
      · obtain rfl := List.mem_singleton.1 hm
        exact Or.inr hl
    · exact Or.inr hc
  | base _ hl hw₁ hw₂ ih₁ ih₂ =>
    rcases ih₂ he with hm | hc
    · have hmid := fun (n : String) (hn : n ∈ BaseDigests.names _) => hw₂.names_of_names_met hn
      rcases ih₁ hm with hm | hc
      · rcases List.mem_append.1 hm with hm | hm
        · exact Or.inl hm
        · obtain rfl := List.mem_singleton.1 hm
          exact Or.inr ⟨_, hl, rfl, fun name hn => hmid name (hw₁.mem_names hn)⟩
      · exact Or.inr (hc.mono hmid)
    · exact Or.inr hc

/-- There is one walk. -/
theorem unique {out' : BaseDigests} (h : BaseWalk load? names met out)
    (h' : BaseWalk load? names met out') : out = out' := by
  induction h generalizing out' with
  | done =>
    cases h'
    rfl
  | seen hm _ ih =>
    cases h' with
    | seen _ hw' => exact ih hw'
    | missing hm' _ _ => exact absurd hm hm'
    | base hm' _ _ _ => exact absurd hm hm'
  | missing hm hl _ ih =>
    cases h' with
    | seen hm' _ => exact absurd hm' hm
    | missing _ _ hw' => exact ih hw'
    | base _ hl' _ _ => rw [hl] at hl'; cases hl'
  | base hm hl _ _ ih₁ ih₂ =>
    cases h' with
    | seen hm' _ => exact absurd hm' hm
    | missing _ hl' _ => rw [hl] at hl'; cases hl'
    | base _ hl' hw₁' hw₂' =>
      rw [hl] at hl'
      obtain rfl := Option.some.inj hl'
      obtain rfl := ih₁ hw₁'
      exact ih₂ hw₂'

end BaseWalk

/-! ## Reading the text of a walk back -/

def BaseDigests.chars (bases : BaseDigests) : List Char :=
  bases.flatMap fun entry => '<' :: (entry.1.toList ++ '=' :: (entry.2.getD "?").toList)

theorem BaseDigests.chars_append (met more : BaseDigests) :
    BaseDigests.chars (met ++ more) = met.chars ++ more.chars := by
  simp only [BaseDigests.chars, List.flatMap_append]

theorem BaseDigests.toList_joined (own : String) (bases : BaseDigests) :
    (joined own bases).toList = own.toList ++ bases.chars := by
  induction bases generalizing own with
  | nil =>
    simp only [joined, List.map_nil, String.intercalate_singleton]
    exact (List.append_nil _).symm
  | cons entry rest ih =>
    have h : joined own (entry :: rest) =
        own ++ "<" ++ joined (entry.1 ++ "=" ++ entry.2.getD "?") rest := by
      simp only [joined, List.map_cons, String.intercalate_cons_cons]
    rw [h, String.toList_append, ih]
    simp [chars]

/-- What stands for a base in the text: its digest, or a mark if it cannot be loaded. -/
theorem BaseDigests.mark_append_inj {d₁ d₂ : Option String} {rest₁ rest₂ : List Char}
    (h₁ : ∀ d ∈ d₁, ∃ s, d = Digest.ofText s) (h₂ : ∀ d ∈ d₂, ∃ s, d = Digest.ofText s)
    (h : (d₁.getD "?").toList ++ rest₁ = (d₂.getD "?").toList ++ rest₂) : d₁ = d₂ := by
  cases d₁ with
  | none =>
    cases d₂ with
    | none => rfl
    | some d =>
      obtain ⟨s, rfl⟩ := h₂ d rfl
      simp [Digest.toList_ofText] at h
  | some d =>
    obtain ⟨s, rfl⟩ := h₁ d rfl
    cases d₂ with
    | none => simp [Digest.toList_ofText] at h
    | some d' =>
      obtain ⟨s', rfl⟩ := h₂ d' rfl
      rw [(Digest.ofText_append_inj h).1]

/-- A function that loads only templates with digests of texts. -/
def Digested (load? : String → Option Template) : Prop :=
  ∀ name t, load? name = some t → ∃ s, t.digest = Digest.ofText s

/-- Where the same name is met next, the text behind it tells what was met. -/
theorem BaseDigests.entry_eq {met new₁ new₂ : BaseDigests} {name : String} {d₁ d₂ : Option String}
    {rest₁ rest₂ : List Char} (h₁ : ∀ d ∈ d₁, ∃ s, d = Digest.ofText s)
    (h₂ : ∀ d ∈ d₂, ∃ s, d = Digest.ofText s)
    (h : BaseDigests.chars (met ++ [(name, d₁)] ++ new₁) ++ rest₁ =
      BaseDigests.chars (met ++ [(name, d₂)] ++ new₂) ++ rest₂) : d₁ = d₂ := by
  simp only [chars_append, List.append_assoc, List.append_cancel_left_eq] at h
  simp only [chars, List.flatMap_cons, List.flatMap_nil, List.append_nil, List.cons_append,
    List.append_assoc, List.cons.injEq, true_and, List.append_cancel_left_eq] at h
  exact mark_append_inj h₁ h₂ h

/-- Walks from the same bases meet the same if their texts are the same, also with more text
behind them: a name is known before the digest behind it is read, and the digest tells which names
are visited next. -/
theorem BaseWalk.agree {load₁ load₂ : String → Option Template} (hd₁ : Digested load₁)
    (hd₂ : Digested load₂)
    (hb : ∀ name t₁ t₂, load₁ name = some t₁ → load₂ name = some t₂ → t₁.digest = t₂.digest →
      t₁.baseNames = t₂.baseNames)
    {names : List String} {met out₁ out₂ : BaseDigests} {rest₁ rest₂ : List Char}
    (h₁ : BaseWalk load₁ names met out₁) (h₂ : BaseWalk load₂ names met out₂)
    (h : out₁.chars ++ rest₁ = out₂.chars ++ rest₂) : out₁ = out₂ ∧ rest₁ = rest₂ := by
  have hnone : ∀ d ∈ (none : Option String), ∃ s, d = Digest.ofText s := by
    rintro d ⟨⟩
  have hsome : ∀ {load? : String → Option Template} {name t}, Digested load? →
      load? name = some t → ∀ d ∈ some t.digest, ∃ s, d = Digest.ofText s := by
    intro load? name t hd hl d hm
    obtain rfl := Option.some.inj hm
    exact hd name t hl
  induction h₁ generalizing out₂ rest₁ rest₂ with
  | done =>
    cases h₂
    exact ⟨rfl, List.append_cancel_left h⟩
  | seen hm _ ih =>
    cases h₂ with
    | seen _ hw₂ => exact ih hw₂ h
    | missing hm₂ _ _ => exact absurd hm hm₂
    | base hm₂ _ _ _ => exact absurd hm hm₂
  | missing hm _ hw ih =>
    obtain ⟨new₁, rfl⟩ := hw.extends_met
    cases h₂ with
    | seen hm₂ _ => exact absurd hm₂ hm
    | missing _ _ hw₂ => exact ih hw₂ h
    | base _ hl₂ hw₂ hw₂' =>
      obtain ⟨mid, rfl⟩ := hw₂.extends_met
      obtain ⟨new₂, rfl⟩ := hw₂'.extends_met
      rw [List.append_assoc (_ ++ [_]) mid] at h
      have := BaseDigests.entry_eq hnone (hsome hd₂ hl₂) h
      cases this
  | @base name _ met _ _ t hm hl hw hw' ih ih' =>
    cases h₂ with
    | seen hm₂ _ => exact absurd hm₂ hm
    | missing _ _ hw₂ =>
      obtain ⟨mid, rfl⟩ := hw.extends_met
      obtain ⟨new₁, rfl⟩ := hw'.extends_met
      obtain ⟨new₂, rfl⟩ := hw₂.extends_met
      rw [List.append_assoc (_ ++ [_]) mid] at h
      have := BaseDigests.entry_eq (hsome hd₁ hl) hnone h
      cases this
    | @base _ _ _ _ _ t₂ _ hl₂ hw₂ hw₂' =>
      obtain ⟨mid₁, hmid₁⟩ := hw.extends_met
      obtain ⟨new₁, hnew₁⟩ := hw'.extends_met
      obtain ⟨mid₂, hmid₂⟩ := hw₂.extends_met
      obtain ⟨new₂, hnew₂⟩ := hw₂'.extends_met
      have he : some t.digest = some t₂.digest := by
        rw [hnew₁, hnew₂, hmid₁, hmid₂, List.append_assoc (_ ++ [_]) mid₁,
          List.append_assoc (_ ++ [_]) mid₂] at h
        exact BaseDigests.entry_eq (hsome hd₁ hl) (hsome hd₂ hl₂) h
      have hdigest := Option.some.inj he
      rw [← hb name _ _ hl hl₂ hdigest, ← hdigest] at hw₂
      have hmid := h
      rw [hnew₁, hnew₂, BaseDigests.chars_append, BaseDigests.chars_append, List.append_assoc,
        List.append_assoc] at hmid
      obtain ⟨rfl, _⟩ := ih hw₂ hmid
      exact ih' hw₂' h

/-! ## Every walk ends -/

def BaseDigests.unmet (known : List String) (met : BaseDigests) : Nat :=
  (known.toFinset.filter (· ∉ met.names)).card

theorem BaseDigests.unmet_le_length (known : List String) (met : BaseDigests) :
    met.unmet known ≤ known.length :=
  (Finset.card_filter_le _ _).trans (List.toFinset_card_le known)

theorem BaseDigests.unmet_append_le (known : List String) (met new : BaseDigests) :
    (met ++ new).unmet known ≤ met.unmet known := by
  refine Finset.card_le_card fun name hn => ?_
  rw [Finset.mem_filter, names_append, List.mem_append, not_or] at hn
  exact Finset.mem_filter.2 ⟨hn.1, hn.2.1⟩

theorem BaseDigests.unmet_append_lt {known : List String} {met : BaseDigests} {name : String}
    (hu : name ∈ known) (hm : name ∉ met.names) (digest : Option String) :
    (met ++ [(name, digest)]).unmet known < met.unmet known := by
  refine Finset.card_lt_card ⟨fun other ho => ?_, fun hs => ?_⟩
  · rw [Finset.mem_filter, names_append, List.mem_append, not_or] at ho
    exact Finset.mem_filter.2 ⟨ho.1, ho.2.1⟩
  · have hn := hs (Finset.mem_filter.2 ⟨List.mem_toFinset.2 hu, hm⟩)
    rw [Finset.mem_filter, names_append, names_singleton] at hn
    exact hn.2 (by simp)

theorem BaseDigests.mem_names_of_unmet_eq_zero {known : List String} {met : BaseDigests}
    (h : met.unmet known = 0) {name : String} (hu : name ∈ known) : name ∈ met.names := by
  by_contra hm
  have hn : name ∈ known.toFinset.filter (· ∉ met.names) :=
    Finset.mem_filter.2 ⟨List.mem_toFinset.2 hu, hm⟩
  rw [Finset.card_eq_zero.1 h] at hn
  simp at hn

theorem BaseWalk.of_all_met {load? : String → Option Template} {names : List String}
    {met : BaseDigests} (h : ∀ name ∈ names, name ∈ met.names) : BaseWalk load? names met met := by
  induction names with
  | nil => exact .done
  | cons name rest ih => exact .seen (h name (by simp)) (ih fun n hn => h n (by simp [hn]))

namespace StoreBuild

variable {σ : Type} {S : Setting} {known : List String} {load : String → Except BuildError Template}

/-- A visit whose bound on chains is the number of names not met yet is a walk. -/
theorem runOn_visit (closed : ∀ name t, load name = .ok t → ∀ n ∈ t.baseNames, n ∈ known)
    {length : Nat} {names : List String} {met : BaseDigests} {store : Store σ}
    (hs : store.load S = load) (hn : ∀ name ∈ names, name ∈ known)
    (hl : met.unmet known ≤ length) :
    ∃ out rest, runOn (BaseDigests.visit (load? S) length names met) store = (.ok out, rest) ∧
      rest.load S = load ∧ rest.cache = store.cache ∧
      BaseWalk (fun name => (load name).toOption) names met out := by
  induction length generalizing names met store with
  | zero =>
    have hz : met.unmet known = 0 := Nat.le_zero.1 hl
    refine ⟨met, store, by rw [BaseDigests.visit, runOn_pure], hs, rfl, .of_all_met fun n h => ?_⟩
    exact BaseDigests.mem_names_of_unmet_eq_zero hz (hn n h)
  | succ length ih =>
    rw [BaseDigests.visit]
    induction names generalizing met store with
    | nil => exact ⟨met, store, runOn_pure _ _, hs, rfl, .done⟩
    | cons name names ihn =>
      rw [List.foldlM_cons]
      have hrest : ∀ n ∈ names, n ∈ known := fun n h => hn n (by simp [h])
      have hname : name ∈ known := hn name (by simp)
      by_cases hm : name ∈ met.names
      · obtain ⟨out, rest, hr, hf, hc, hw⟩ := ihn hs hrest hl
        refine ⟨out, rest, ?_, hf, hc, .seen hm hw⟩
        rw [if_pos (BaseDigests.any_eq_true.2 hm), pure_bind, hr]
      · rw [if_neg fun ha => hm (BaseDigests.any_eq_true.1 ha)]
        obtain ⟨store₁, hload, hf₁, hc₁⟩ := store.runOn_load? S name
        rw [hs] at hload hf₁
        rw [bind_assoc, runOn_bind_ok hload]
        cases hb : load name with
        | error e =>
          have hlt := BaseDigests.unmet_append_lt hname hm none
          obtain ⟨out, rest, hr, hf, hc, hw⟩ := ihn hf₁ hrest (Nat.le_trans (Nat.le_of_lt hlt) hl)
          refine ⟨out, rest, ?_, hf, hc.trans hc₁, .missing hm (by rw [hb]; rfl) hw⟩
          simpa only [Except.toOption, pure_bind] using hr
        | ok t =>
          have hlt := BaseDigests.unmet_append_lt hname hm (some t.digest)
          obtain ⟨mid, store₂, hr₂, hf₂, hc₂, hw₂⟩ :=
            ih hf₁ (closed name t hb) (Nat.le_of_lt_succ (Nat.lt_of_lt_of_le hlt hl))
          have hle : mid.unmet known ≤ length + 1 := by
            obtain ⟨new, rfl⟩ := hw₂.extends_met
            have := BaseDigests.unmet_append_le known (met ++ [(name, some t.digest)]) new
            omega
          obtain ⟨out, rest, hr, hf, hc, hw⟩ := ihn hf₂ hrest hle
          refine ⟨out, rest, ?_, hf, hc.trans (hc₂.trans hc₁), .base hm (by rw [hb]; rfl) hw₂ hw⟩
          rw [← hr]
          exact runOn_bind_ok hr₂ _

end StoreBuild

end DocumentTemplates
