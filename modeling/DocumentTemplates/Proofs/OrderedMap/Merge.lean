import DocumentTemplates.OrderedMap
import Mathlib.Logic.Basic

/-!
# Merged maps

What is in a map after others were merged into it: the keys of both, the later values, and no key
twice. Merging distinct keys into a map that has none of them appends them.
-/

namespace DocumentTemplates.OrderedMap

variable {β : Type}

theorem distinctKeys_nil : DistinctKeys ([] : OrderedMap β) :=
  List.nodup_nil

theorem insert_of_not_mem {m : OrderedMap β} {key : String} (h : key ∉ m.keys) (value : β) :
    m.insert key value = m ++ [(key, value)] := by
  induction m with
  | nil => rfl
  | cons entry rest ih =>
    obtain ⟨hne, hrest⟩ := not_or.1 (List.mem_cons.not.1 h)
    rw [insert, if_neg (Ne.symm hne), ih hrest]
    rfl

theorem mem_keys_insert {m : OrderedMap β} {key k : String} {v : β} :
    k ∈ (m.insert key v).keys ↔ k = key ∨ k ∈ m.keys := by
  rw [keys_insert]
  split
  · constructor
    · exact Or.inr
    · rintro (rfl | hk)
      · assumption
      · exact hk
  · rw [List.mem_append, List.mem_singleton, or_comm]

theorem mem_keys_merge {m other : OrderedMap β} {k : String} :
    k ∈ (m.merge other).keys ↔ k ∈ m.keys ∨ k ∈ other.keys := by
  induction other generalizing m with
  | nil => simp [merge, keys]
  | cons entry rest ih =>
    have hm : m.merge (entry :: rest) = (m.insert entry.1 entry.2).merge rest := rfl
    have hk : keys (entry :: rest) = entry.1 :: keys rest := rfl
    rw [hm, ih, mem_keys_insert, hk, List.mem_cons, or_comm (a := k = entry.1), or_assoc]

theorem get?_merge_insert (m : OrderedMap β) (other : OrderedMap β) (key : String) :
    (m.merge other).get? key = ((ofEntries other).get? key).or (m.get? key) := by
  induction other generalizing m with
  | nil => rfl
  | cons entry rest ih =>
    have hm : (m.merge (entry :: rest)).get? key =
        ((m.insert entry.1 entry.2).merge rest).get? key := rfl
    have he : (ofEntries (entry :: rest)).get? key =
        (merge (insert [] entry.1 entry.2) rest).get? key := rfl
    rw [hm, he, ih, ih, get?_insert, get?_insert]
    cases (ofEntries rest).get? key with
    | some v => rfl
    | none =>
      simp only [Option.none_or]
      split
      · rfl
      · rfl

theorem distinctKeys_merge {m : OrderedMap β} (h : m.DistinctKeys) (other : OrderedMap β) :
    (m.merge other).DistinctKeys := by
  induction other generalizing m with
  | nil => exact h
  | cons entry rest ih => exact ih (distinctKeys_insert h entry.1 entry.2)

theorem merge_of_distinctKeys {m other : OrderedMap β} (h : DistinctKeys (m ++ other)) :
    m.merge other = m ++ other := by
  induction other generalizing m with
  | nil => exact (List.append_nil m).symm
  | cons entry rest ih =>
    have hkey : entry.1 ∉ m.keys := by
      intro hm
      rw [DistinctKeys, keys, List.map_append, List.nodup_append] at h
      exact h.2.2 _ hm _ List.mem_cons_self rfl
    have hnext : m ++ entry :: rest = (m ++ [entry]) ++ rest := by
      rw [List.append_assoc, List.singleton_append]
    rw [hnext] at h ⊢
    rw [← ih h, merge, List.foldl_cons, insert_of_not_mem hkey]
    rfl

theorem ofEntries_of_distinctKeys {entries : List (String × β)} (h : DistinctKeys entries) :
    ofEntries entries = entries :=
  merge_of_distinctKeys (m := []) h

end DocumentTemplates.OrderedMap
