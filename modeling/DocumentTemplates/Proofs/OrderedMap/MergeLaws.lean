import DocumentTemplates.Proofs.OrderedMap.Merge
import DocumentTemplates.Proofs.OrderedMap.Reordering
import DocumentTemplates.Value

/-!
# Merging as a monoid

A map with distinct keys is determined by its keys in order and by the value under each. Of a merged
map both are known: the keys of the first map come first, then the new ones of the second, and the
values of the second count before those of the first. So it does not matter in which groups maps are
merged one after the other, and a map that adds nothing changes nothing.
-/

namespace DocumentTemplates.OrderedMap

variable {β : Type} {a b c m other : OrderedMap β}

/-! ## What is in a merged map -/

theorem get?_merge (hother : other.DistinctKeys) (key : String) :
    (m.merge other).get? key = (other.get? key).or (m.get? key) := by
  rw [get?_merge_insert, ofEntries_of_distinctKeys hother]

theorem keys_merge (hother : other.DistinctKeys) :
    (m.merge other).keys = m.keys ++ other.keys.filter (· ∉ m.keys) := by
  induction other generalizing m with
  | nil => exact (List.append_nil m.keys).symm
  | cons entry rest ih =>
    obtain ⟨k, v⟩ := entry
    obtain ⟨habsent, hrest⟩ := List.nodup_cons.1 hother
    have hstep : (m.merge ((k, v) :: rest)).keys = ((m.insert k v).merge rest).keys := rfl
    have hkeys : keys ((k, v) :: rest) = k :: keys rest := rfl
    rw [hstep, ih hrest, keys_insert, hkeys]
    by_cases hk : k ∈ m.keys
    · rw [if_pos hk, List.filter_cons_of_neg (by simpa using hk)]
    · -- the key is new to both sides, and none of the keys behind it
      have hfilter : (keys rest).filter (· ∉ m.keys ++ [k]) = (keys rest).filter (· ∉ m.keys) := by
        refine List.filter_congr fun key hmem => ?_
        have hne : key ≠ k := fun h => habsent (h ▸ hmem)
        simp [hne]
      rw [if_neg hk, List.filter_cons_of_pos (by simpa using hk), hfilter, List.append_assoc,
        List.singleton_append]

/-! ## The laws -/

theorem merge_assoc (ha : a.DistinctKeys) (hb : b.DistinctKeys) (hc : c.DistinctKeys) :
    (a.merge b).merge c = a.merge (b.merge c) := by
  have hab : (a.merge b).DistinctKeys := distinctKeys_merge ha b
  have hbc : (b.merge c).DistinctKeys := distinctKeys_merge hb c
  have hnew : c.keys.filter (· ∉ a.keys ++ b.keys.filter (· ∉ a.keys)) =
      (c.keys.filter (· ∉ b.keys)).filter (· ∉ a.keys) := by
    rw [List.filter_filter]
    refine List.filter_congr fun key _ => ?_
    by_cases hka : key ∈ a.keys <;> simp [hka]
  refine eq_of_keys_eq (distinctKeys_merge hab c) ?_ fun key _ => ?_
  · rw [keys_merge hc, keys_merge hb, keys_merge hbc, keys_merge hc, List.filter_append, hnew,
      List.append_assoc]
  · rw [get?_merge hc, get?_merge hb, get?_merge hbc, get?_merge hc, Option.or_assoc]

theorem merge_self (ha : a.DistinctKeys) : a.merge a = a := by
  refine eq_of_keys_eq (distinctKeys_merge ha a) ?_ fun key _ => ?_
  · have hnone : a.keys.filter (· ∉ a.keys) = [] := by
      rw [List.filter_eq_nil_iff]
      intro key hmem
      simpa using hmem
    rw [keys_merge ha, hnone, List.append_nil]
  · rw [get?_merge ha, Option.or_self]

/-- Merging keeps documents, and gives the keys of the first in their places, then the new ones of
the second in their order, each with its last value. It is associative, the empty document changes
nothing on either side, and a document changes nothing when merged into itself. -/
theorem merge_ordered_monoid {a b c : Document} (ha : a.DistinctKeys) (hb : b.DistinctKeys)
    (hc : c.DistinctKeys) :
    (a.merge b).DistinctKeys ∧
      (a.merge b).keys = a.keys ++ b.keys.filter (· ∉ a.keys) ∧
      (∀ key, (a.merge b).get? key = (b.get? key).or (a.get? key)) ∧
      (a.merge b).merge c = a.merge (b.merge c) ∧
      a.merge [] = a ∧ merge [] a = a ∧ a.merge a = a :=
  ⟨distinctKeys_merge ha b, keys_merge hb, get?_merge hb, merge_assoc ha hb hc, rfl,
    ofEntries_of_distinctKeys ha, merge_self ha⟩

/-- An extension, a child and glue that write into each other's keys. The title stays first and the
author second, whoever writes them last. -/
theorem merge_ordered_monoid_shared :
    let a : Document := [("title", .string "on"), ("author", .null)]
    let b : Document := [("author", .string "ida"), ("stars", .integer 3)]
    let c : Document := [("stars", .integer 4), ("title", .string "off"), ("size", .integer 1)]
    let all : Document := [("title", .string "off"), ("author", .string "ida"),
      ("stars", .integer 4), ("size", .integer 1)]
    (a.DistinctKeys ∧ b.DistinctKeys ∧ c.DistinctKeys) ∧
      (a.merge b).merge c = a.merge (b.merge c) ∧ a.merge (b.merge c) = all ∧
      b.merge a ≠ a.merge b := by
  intro a b c all
  have ha : a.DistinctKeys := (by decide : ["title", "author"].Nodup)
  have hb : b.DistinctKeys := (by decide : ["author", "stars"].Nodup)
  have hc : c.DistinctKeys := (by decide : ["stars", "title", "size"].Nodup)
  have horder : (b.merge a).keys ≠ (a.merge b).keys :=
    (by decide : ["author", "stars", "title"] ≠ ["title", "author", "stars"])
  exact ⟨⟨ha, hb, hc⟩, (merge_ordered_monoid ha hb hc).2.2.2.1, rfl,
    fun h => horder (congrArg keys h)⟩

end DocumentTemplates.OrderedMap
