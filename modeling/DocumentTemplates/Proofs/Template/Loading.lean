import DocumentTemplates.Build.Cached
import DocumentTemplates.Proofs.Build.Refinement
import DocumentTemplates.Proofs.Digest

/-!
# What a loaded template comes from

A template read from a text depends on nothing but the text, its name apart. A template loaded
from a source is read from one of the source's texts, so templates with the same digest have the
same directives as long as those texts have no digest in common.
-/

namespace DocumentTemplates

/-- Reading the same text under another name gives the same directives. -/
theorem Template.read_ok {digestOf : String → String} {name text : String} {t : Template}
    (h : Template.read digestOf name text = .ok t) :
    t.digest = digestOf text ∧
      ∀ other, Template.read digestOf other text = .ok (t.withName other) := by
  obtain ⟨entries, he, h⟩ := bind_eq_ok.1 h
  obtain ⟨directives, hd, h⟩ := bind_eq_ok.1 h
  cases h
  refine ⟨rfl, fun other => ?_⟩
  exact bind_eq_ok.2 ⟨entries, he, bind_eq_ok.2 ⟨directives, hd, rfl⟩⟩

theorem OrderedMap.mem_values_of_get? {β : Type} {m : OrderedMap β} {key : String} {value : β}
    (h : m.get? key = some value) : value ∈ m.values := by
  induction m with
  | nil => cases h
  | cons entry rest ih =>
    simp only [OrderedMap.get?] at h
    split at h
    · obtain rfl := Option.some.inj h
      exact List.mem_cons_self
    · exact List.mem_cons_of_mem _ (ih h)

theorem Source.text_mem_of_resolve {source : Source} {name : String} {searchPaths : List String}
    {found : LocatedText} (h : source.resolve name searchPaths = .ok found) :
    found.text ∈ source.texts := by
  cases source with
  | nowhere => cases h
  | memory texts =>
    simp only [Source.resolve] at h
    split at h
    · rename_i ht
      cases h
      exact OrderedMap.mem_values_of_get? ht
    · rename_i ht
      cases h
      exact OrderedMap.mem_values_of_get? ht
    · cases h
  | files store extension =>
    simp only [Source.resolve] at h
    split at h
    · rename_i place text hs
      cases h
      obtain ⟨p, _, hp⟩ := List.exists_of_findSome?_eq_some hs
      obtain ⟨found, hf, heq⟩ := Option.map_eq_some_iff.1 hp
      obtain ⟨rfl, rfl⟩ := Prod.mk.inj heq
      unfold Files.find? at hf
      split at hf
      · cases hf
      · split at hf
        · obtain ⟨entry, he, hte⟩ := Option.map_eq_some_iff.1 hf
          exact List.mem_filterMap.2 ⟨entry, List.mem_of_find?_eq_some he, hte⟩
        · cases hf
    · cases h
    · cases h

theorem Setting.load_ok {S : Setting} {name : String} {t : Template} (h : S.load name = .ok t) :
    ∃ text ∈ S.source.texts, Template.read S.digestOf name text = .ok t := by
  obtain ⟨found, hr, h⟩ := bind_eq_ok.1 h
  cases ht : Template.read S.digestOf name found.text with
  | error e => rw [ht] at h; cases h
  | ok t' =>
    rw [ht] at h
    cases h
    exact ⟨found.text, Source.text_mem_of_resolve hr, ht⟩

def Setting.load? (S : Setting) (name : String) : Option Template :=
  (S.load name).toOption

theorem Setting.load?_eq_some {S : Setting} {name : String} {t : Template} :
    S.load? name = some t ↔ S.load name = .ok t := by
  unfold Setting.load?
  cases S.load name with
  | ok u => simp [Except.toOption]
  | error e => simp [Except.toOption]

theorem Setting.digest_of_load {S : Setting} {name : String} {t : Template}
    (h : S.load name = .ok t) : ∃ text ∈ S.source.texts, t.digest = S.digestOf text := by
  obtain ⟨text, hm, ht⟩ := Setting.load_ok h
  exact ⟨text, hm, (Template.read_ok ht).1⟩

/-- What a loaded template extends is among what the texts of the source extend. -/
theorem Setting.baseNames_of_load {S : Setting} {name : String} {t : Template}
    (h : S.load name = .ok t) {base : String} (hb : base ∈ t.baseNames) :
    base ∈ S.source.baseNames S.digestOf := by
  obtain ⟨text, hm, ht⟩ := Setting.load_ok h
  refine List.mem_flatMap.2 ⟨text, hm, ?_⟩
  rw [(Template.read_ok ht).2 ""]
  change base ∈ (t.withName "").baseNames
  rw [Template.baseNames_eq] at hb ⊢
  exact hb

/-- Loaded templates with the same digest have the same directives, where the texts at hand have
digests of their own. -/
theorem Setting.directives_eq_of_load {S₁ S₂ : Setting} (hd₁ : S₁.digestOf = Digest.ofText)
    (hd₂ : S₂.digestOf = Digest.ofText) {texts : List String} (hc : Digest.CollisionFree texts)
    (h₁ : ∀ text ∈ S₁.source.texts, text ∈ texts) (h₂ : ∀ text ∈ S₂.source.texts, text ∈ texts)
    {name₁ name₂ : String} {t₁ t₂ : Template} (hl₁ : S₁.load name₁ = .ok t₁)
    (hl₂ : S₂.load name₂ = .ok t₂) (ht : t₁.digest = t₂.digest) :
    t₁.directives = t₂.directives := by
  obtain ⟨text₁, hm₁, hr₁⟩ := Setting.load_ok hl₁
  obtain ⟨text₂, hm₂, hr₂⟩ := Setting.load_ok hl₂
  rw [hd₁] at hr₁
  rw [hd₂] at hr₂
  have he : text₁ = text₂ := by
    apply hc _ (h₁ _ hm₁) _ (h₂ _ hm₂)
    rw [← (Template.read_ok hr₁).1, ← (Template.read_ok hr₂).1, ht]
  have ho := (Template.read_ok hr₁).2 name₂
  rw [he, hr₂] at ho
  cases ho
  rfl

end DocumentTemplates
