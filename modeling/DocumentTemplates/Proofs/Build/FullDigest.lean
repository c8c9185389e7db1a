import DocumentTemplates.Proofs.Build.Uncached
import DocumentTemplates.Proofs.Template.BaseWalk
import DocumentTemplates.Proofs.Template.Loading

/-!
# What the full digest of a template covers

The full digest is found on every store, whatever the bases extend, and depends only on what is
loaded through the registry. With the digests of the texts at hand all different, it tells every
template that a build can load: under two settings with the same full digest, whatever can be
loaded by a name that the walk through the bases meets has the same directives.
-/

namespace DocumentTemplates

/-- The bases of a template with their digests, as found through the registry of a store. -/
def Store.bases {σ : Type} (S : Setting) (store : Store σ) (t : Template) : BaseDigests :=
  ((StoreBuild.baseDigests S t).runOn store).1.toOption.getD []

/-- The digest of a template with its bases, as found through the registry of a store. -/
def Store.fullDigest {σ : Type} (S : Setting) (store : Store σ) (t : Template) : String :=
  (store.bases S t).combine S.digestOf t.digest

/-- The bases of a template with their digests, as found without registry and cache. -/
def Setting.bases (S : Setting) (t : Template) : BaseDigests :=
  ((StoreBuild.baseDigests S t).runOn ({} : Store Unit)).1.toOption.getD []

/-- The digest of a template with its bases. -/
def Setting.fullDigest (S : Setting) (t : Template) : String :=
  (S.bases t).combine S.digestOf t.digest

/-- The texts on whose digests the full digest of a template rests: those of the source, and the
one that joins the digests of the template and its bases. -/
def Setting.digestedTexts (S : Setting) (t : Template) : List String :=
  BaseDigests.joined t.digest (S.bases t) :: S.source.texts

namespace Store

variable {σ τ : Type} (S : Setting) (store : Store σ) (t : Template)

/-- What a loaded template extends is among the names that occur at hand. -/
theorem baseNames_of_load {name : String} {u : Template} (h : store.load S name = .ok u)
    {base : String} (hb : base ∈ u.baseNames) :
    base ∈ S.source.baseNames S.digestOf ++ (store.registry.getD []).baseNames := by
  rcases store.load_eq_ok S h with ⟨registry, hr, hg⟩ | hl
  · obtain ⟨entry, he, rfl⟩ := List.mem_map.1 (OrderedMap.mem_values_of_get? hg)
    rw [hr]
    exact List.mem_append_right _ (List.mem_flatMap.2 ⟨entry, he, hb⟩)
  · exact List.mem_append_left _ (Setting.baseNames_of_load hl hb)

/-- The visit of the bases is a walk, whatever is registered. -/
theorem runOn_baseDigests :
    ∃ rest : Store σ, (StoreBuild.baseDigests S t).runOn store = (.ok (store.bases S t), rest) ∧
      rest.load S = store.load S ∧ rest.cache = store.cache ∧
      BaseWalk (fun name => (store.load S name).toOption) t.baseNames [] (store.bases S t) := by
  let atHand := S.source.baseNames S.digestOf ++ (store.registry.getD []).baseNames
  have closed : ∀ name u, store.load S name = .ok u →
      ∀ n ∈ u.baseNames, n ∈ t.baseNames ++ atHand :=
    fun name u hu n hn => List.mem_append_right _ (store.baseNames_of_load S hu hn)
  have hl := BaseDigests.unmet_le_length (t.baseNames ++ atHand) []
  simp only [atHand, List.length_append, ← Nat.add_assoc] at hl
  obtain ⟨out, rest, hr, hf, hc, hw⟩ :=
    StoreBuild.runOn_visit closed rfl (fun n hn => List.mem_append_left _ hn) hl
  have hrun : (StoreBuild.baseDigests S t).runOn store = (.ok out, rest) := hr
  have hbases : store.bases S t = out := by
    rw [bases, hrun]
    rfl
  rw [hbases]
  exact ⟨rest, hrun, hf, hc, hw⟩

theorem bases_walk :
    BaseWalk (fun name => (store.load S name).toOption) t.baseNames [] (store.bases S t) := by
  obtain ⟨_, _, _, _, hw⟩ := store.runOn_baseDigests S t
  exact hw

/-- Stores through which the same is loaded have the same bases. -/
theorem bases_congr {S₁ S₂ : Setting} {store : Store σ} {other : Store τ}
    (h : store.load S₁ = other.load S₂) (t : Template) : store.bases S₁ t = other.bases S₂ t := by
  refine (store.bases_walk S₁ t).unique ?_
  rw [h]
  exact other.bases_walk S₂ t

theorem fullDigest_congr {S : Setting} {store : Store σ} {other : Store τ}
    (h : store.load S = other.load S) (t : Template) :
    store.fullDigest S t = other.fullDigest S t := by
  rw [fullDigest, bases_congr h, fullDigest]

theorem runOn_fullDigest :
    ∃ rest : Store σ, (StoreBuild.fullDigest S t).runOn store = (.ok (store.fullDigest S t), rest) ∧
      rest.load S = store.load S ∧ rest.cache = store.cache := by
  obtain ⟨rest, hr, hf, hc, _⟩ := store.runOn_baseDigests S t
  refine ⟨rest, ?_, hf, hc⟩
  rw [StoreBuild.fullDigest, StoreBuild.runOn_bind_ok hr]
  rfl

variable {S t} in
theorem fullDigest_eq_digest (h : t.baseNames = []) : store.fullDigest S t = t.digest := by
  have hw := store.bases_walk S t
  rw [h] at hw
  rw [fullDigest, hw.unique .done]
  rfl

end Store

namespace Setting

theorem bases_walk (S : Setting) (t : Template) :
    BaseWalk S.load? t.baseNames [] (S.bases t) :=
  ({} : Store Unit).bases_walk S t

theorem bases_congr {S₁ S₂ : Setting} (h : S₁.load = S₂.load) (t : Template) :
    S₁.bases t = S₂.bases t :=
  Store.bases_congr (show ({} : Store Unit).load S₁ = ({} : Store Unit).load S₂ from h) t

theorem bases_eq_nil (S : Setting) {t : Template} (h : t.baseNames = []) : S.bases t = [] := by
  have hw := S.bases_walk t
  rw [h] at hw
  exact hw.unique .done

theorem fullDigest_eq_digest (S : Setting) {t : Template} (h : t.baseNames = []) :
    S.fullDigest t = t.digest :=
  Store.fullDigest_eq_digest ({} : Store Unit) h

theorem isEmpty_bases (S : Setting) (t : Template) :
    (S.bases t).isEmpty = t.baseNames.isEmpty := by
  cases hn : t.baseNames with
  | nil =>
    rw [S.bases_eq_nil hn]
    rfl
  | cons name rest =>
    have hm : name ∈ (S.bases t).names := (S.bases_walk t).mem_names (by simp [hn])
    cases hb : S.bases t with
    | nil =>
      rw [hb] at hm
      cases hm
    | cons entry more => rfl

end Setting

namespace StoreBuild

variable {σ : Type} {S : Setting} {store : Store σ}

/-- The full digest is the same on all faithful stores. -/
theorem runOn_fullDigest (hs : store.Faithful S) (t : Template) :
    ∃ rest, runOn (fullDigest S t) store = (.ok (S.fullDigest t), rest) ∧ rest.Faithful S ∧
      rest.cache = store.cache := by
  obtain ⟨rest, hr, hf, hc⟩ := store.runOn_fullDigest S t
  have hload := Store.faithful_iff_load_eq.1 hs
  have hd : store.fullDigest S t = S.fullDigest t :=
    Store.fullDigest_congr (show store.load S = ({} : Store Unit).load S from hload) t
  rw [hd] at hr
  exact ⟨rest, hr, Store.faithful_iff_load_eq.2 (hf.trans hload), hc⟩

end StoreBuild

/-- A template has the same full digest under two settings, and the texts at hand have digests of
their own. -/
structure Setting.SameDigest (S₁ S₂ : Setting) (t : Template) : Prop where
  digestOf₁ : S₁.digestOf = Digest.ofText
  digestOf₂ : S₂.digestOf = Digest.ofText
  collisionFree : Digest.CollisionFree (S₁.digestedTexts t ++ S₂.digestedTexts t)
  fullDigest : S₁.fullDigest t = S₂.fullDigest t

namespace Setting

variable {S₁ S₂ : Setting} {t : Template}

theorem digested (h : S₁.digestOf = Digest.ofText) : Digested S₁.load? := by
  intro name u hu
  obtain ⟨text, _, hd⟩ := digest_of_load (load?_eq_some.1 hu)
  exact ⟨text, by rw [hd, h]⟩

namespace SameDigest

theorem symm (h : SameDigest S₁ S₂ t) : SameDigest S₂ S₁ t where
  digestOf₁ := h.digestOf₂
  digestOf₂ := h.digestOf₁
  collisionFree := h.collisionFree.mono fun _ hm =>
    List.mem_append.2 (List.mem_append.1 hm).symm
  fullDigest := h.fullDigest.symm

/-- Templates that the two settings load have the same directives if they have the same digest. -/
theorem directives_eq (h : SameDigest S₁ S₂ t) {name : String} {u₁ u₂ : Template}
    (hl₁ : S₁.load name = .ok u₁) (hl₂ : S₂.load name = .ok u₂) (hd : u₁.digest = u₂.digest) :
    u₁.directives = u₂.directives :=
  directives_eq_of_load h.digestOf₁ h.digestOf₂ h.collisionFree
    (fun _ hm => List.mem_append_left _ (List.mem_cons_of_mem _ hm))
    (fun _ hm => List.mem_append_right _ (List.mem_cons_of_mem _ hm)) hl₁ hl₂ hd

/-- The bases are the same, with the same digests. -/
theorem bases_eq (h : SameDigest S₁ S₂ t) : S₁.bases t = S₂.bases t := by
  by_cases he : t.baseNames.isEmpty
  · have he₁ : S₁.bases t = [] := List.isEmpty_iff.1 ((S₁.isEmpty_bases t).trans he)
    have he₂ : S₂.bases t = [] := List.isEmpty_iff.1 ((S₂.isEmpty_bases t).trans he)
    rw [he₁, he₂]
  · have hf := h.fullDigest
    unfold Setting.fullDigest BaseDigests.combine at hf
    rw [isEmpty_bases, isEmpty_bases, if_neg he, if_neg he, h.digestOf₁, h.digestOf₂] at hf
    have hj := h.collisionFree _ (List.mem_append_left _ List.mem_cons_self) _
      (List.mem_append_right _ List.mem_cons_self) hf
    have hchars : (S₁.bases t).chars ++ [] = (S₂.bases t).chars ++ [] := by
      have hlist := congrArg String.toList hj
      rw [BaseDigests.toList_joined, BaseDigests.toList_joined, List.append_cancel_left_eq]
        at hlist
      rw [hlist]
    refine ((S₁.bases_walk t).agree (digested h.digestOf₁) (digested h.digestOf₂) ?_
      (S₂.bases_walk t) hchars).1
    intro name u₁ u₂ hl₁ hl₂ hdigest
    rw [Template.baseNames_eq, Template.baseNames_eq,
      h.directives_eq (load?_eq_some.1 hl₁) (load?_eq_some.1 hl₂) hdigest]

/-- Whatever loads under one setting by a name that the walk meets loads under the other, with the
same directives and no name outside the walk. -/
theorem load (h : SameDigest S₁ S₂ t) {name : String} {base : Template}
    (hn : name ∈ (S₁.bases t).names) (hl : S₁.load name = .ok base) :
    ∃ base', S₂.load name = .ok base' ∧ base.directives = base'.directives ∧
      ∀ n ∈ base.baseNames, n ∈ (S₁.bases t).names := by
  obtain ⟨⟨_, digest⟩, he, rfl⟩ := List.mem_map.1 hn
  have hcov₁ := ((S₁.bases_walk t).covers he).resolve_left List.not_mem_nil
  have hcov₂ := ((S₂.bases_walk t).covers (h.bases_eq ▸ he)).resolve_left List.not_mem_nil
  have hl? := load?_eq_some.2 hl
  cases digest with
  | none =>
    change S₁.load? _ = none at hcov₁
    rw [hl?] at hcov₁
    cases hcov₁
  | some digest =>
    obtain ⟨b₁, hb₁, hdigest₁, hnames⟩ := hcov₁
    obtain ⟨b₂, hb₂, hdigest₂, _⟩ := hcov₂
    rw [hl?] at hb₁
    obtain rfl := Option.some.inj hb₁
    have hb₂ := load?_eq_some.1 hb₂
    exact ⟨b₂, hb₂, h.directives_eq hl hb₂ (hdigest₁.trans hdigest₂.symm), hnames⟩

/-- The second setting is above the first, if it is no stricter and makes the same documents. -/
theorem below (h : SameDigest S₁ S₂ t) (ha : S₁.Alike S₂)
    (hs : S₂.config.strictAttributes = true → S₁.config.strictAttributes = true) :
    Below (· ∈ (S₁.bases t).names) S₁ S₂ :=
  ⟨ha, hs, h.load⟩

end SameDigest

theorem mem_names_bases (S : Setting) (t : Template) :
    ∀ n ∈ t.baseNames, n ∈ (S.bases t).names :=
  fun _ hn => (S.bases_walk t).mem_names hn

end Setting

end DocumentTemplates
