import DocumentTemplates.OrderedMap
import Mathlib.Data.List.Perm.Basic
import Mathlib.Data.List.Nodup

/-!
# Maps up to the order of their keys

Maps that have the same keys, and the same value under each of them, are the same entries in some
order, and in the same order if the keys are; and entries with distinct keys may be put in any
order.
-/

namespace DocumentTemplates.OrderedMap

variable {β : Type}

theorem mem_iff_get? {m : OrderedMap β} (h : m.DistinctKeys) {key : String} {value : β} :
    (key, value) ∈ m ↔ m.get? key = some value := by
  induction m with
  | nil => exact ⟨fun hm => (nomatch hm), fun hm => (nomatch hm)⟩
  | cons entry rest ih =>
    obtain ⟨habsent, hrest⟩ := List.nodup_cons.1 h
    obtain ⟨k, v⟩ := entry
    rw [List.mem_cons, ih hrest, get?, Prod.mk.injEq]
    split
    · rename_i hkey
      subst hkey
      have hnone : get? rest k ≠ some value := by
        intro hv
        exact habsent ((isSome_get? rest k).1 (Option.isSome_iff_exists.2 ⟨value, hv⟩))
      rw [Option.some.injEq]
      constructor
      · rintro (⟨-, rfl⟩ | hv)
        · rfl
        · exact absurd hv hnone
      · rintro rfl
        exact Or.inl ⟨rfl, rfl⟩
    · rename_i hkey
      constructor
      · rintro (⟨rfl, -⟩ | hv)
        · exact absurd rfl hkey
        · exact hv
      · exact Or.inr

/-- Maps with the same keys in the same order, and the same value under each, are the same. -/
theorem eq_of_keys_eq {m other : OrderedMap β} (hm : m.DistinctKeys) (hkeys : m.keys = other.keys)
    (hget : ∀ key ∈ m.keys, m.get? key = other.get? key) : m = other := by
  induction m generalizing other with
  | nil => exact (List.map_eq_nil_iff.1 hkeys.symm).symm
  | cons entry rest ih =>
    obtain ⟨k, v⟩ := entry
    obtain ⟨habsent, hrest⟩ := List.nodup_cons.1 hm
    cases other with
    | nil => cases hkeys
    | cons entry' rest' =>
      obtain ⟨k', v'⟩ := entry'
      obtain ⟨rfl, htail⟩ : k = k' ∧ keys rest = keys rest' := List.cons.inj hkeys
      have hv : v = v' := by simpa [get?] using hget k List.mem_cons_self
      have hsame : rest = rest' := ih hrest htail fun key hmem => by
        have hne : k ≠ key := fun h => habsent (h ▸ hmem)
        simpa [get?, hne] using hget key (List.mem_cons_of_mem _ hmem)
      rw [hv, hsame]

theorem keys_retain (m : OrderedMap β) (keep : String → Bool) :
    (m.retain fun key _ => keep key).keys = m.keys.filter keep :=
  List.filter_map.symm

theorem get?_retain (m : OrderedMap β) (keep : String → Bool) (key : String) :
    (m.retain fun key _ => keep key).get? key = if keep key then m.get? key else none := by
  unfold retain
  induction m with
  | nil => simp [get?]
  | cons entry rest ih => grind [get?]

/-- What is retained by key depends only on the entries under the keys that are kept. -/
theorem retain_eq_retain {m other : OrderedMap β} {keep : String → Bool} (hm : m.DistinctKeys)
    (hkeys : m.keys.filter keep = other.keys.filter keep)
    (hget : ∀ key, keep key = true → m.get? key = other.get? key) :
    (m.retain fun key _ => keep key) = other.retain fun key _ => keep key := by
  refine eq_of_keys_eq ?_ ?_ fun key hmem => ?_
  · rw [DistinctKeys, keys_retain]
    exact hm.filter keep
  · rw [keys_retain, keys_retain, hkeys]
  · rw [keys_retain, List.mem_filter] at hmem
    rw [get?_retain, get?_retain, if_pos hmem.2, if_pos hmem.2, hget key hmem.2]

/-- The same keys, none of them twice, and the same value under each. -/
structure Reordered (m other : OrderedMap β) : Prop where
  distinct : m.DistinctKeys
  keys : m.keys.Perm other.keys
  get? : ∀ key, m.get? key = other.get? key

namespace Reordered

variable {m other last : OrderedMap β}

theorem refl (h : m.DistinctKeys) : m.Reordered m :=
  ⟨h, .refl _, fun _ => rfl⟩

theorem trans (h : m.Reordered other) (h' : other.Reordered last) : m.Reordered last :=
  ⟨h.distinct, h.keys.trans h'.keys, fun key => (h.get? key).trans (h'.get? key)⟩

theorem distinct_other (h : m.Reordered other) : other.DistinctKeys :=
  h.keys.nodup_iff.1 h.distinct

theorem of_get? (hm : m.DistinctKeys) (ho : other.DistinctKeys)
    (h : ∀ key, m.get? key = other.get? key) : m.Reordered other := by
  refine ⟨hm, (List.perm_ext_iff_of_nodup hm ho).2 fun key => ?_, h⟩
  rw [← isSome_get?, ← isSome_get?, h key]

theorem of_perm (hm : m.DistinctKeys) (h : List.Perm m other) : m.Reordered other := by
  have hkeys : m.keys.Perm other.keys := h.map Prod.fst
  refine ⟨hm, hkeys, fun key => Option.ext fun value => ?_⟩
  rw [← mem_iff_get? hm, ← mem_iff_get? (hkeys.nodup_iff.1 hm)]
  exact h.mem_iff

theorem perm (h : m.Reordered other) : List.Perm m other := by
  have hm : List.Nodup m := List.Nodup.of_map Prod.fst h.distinct
  have ho : List.Nodup other := List.Nodup.of_map Prod.fst h.distinct_other
  refine (List.perm_ext_iff_of_nodup hm ho).2 fun entry => ?_
  rw [mem_iff_get? h.distinct, mem_iff_get? h.distinct_other, h.get? entry.1]

end Reordered

end DocumentTemplates.OrderedMap
