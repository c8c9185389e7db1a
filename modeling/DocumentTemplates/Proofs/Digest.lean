import DocumentTemplates.Digest
import DocumentTemplates.Proofs.Text.SelfDelimiting
import Mathlib.Data.List.Dedup
import Mathlib.Data.List.Nodup

/-!
# The form of digests

Every digest is a mark of seven characters with 64 hexadecimal digits behind it, whatever the text.
So a digest that stands somewhere in a text can be told from what follows it.
-/

namespace DocumentTemplates.Digest

theorem length_hexWord (x : UInt32) : (hexWord x).length = 8 := by
  have hx : x.toNat < 16 ^ 8 := x.toNat_lt
  have hd : (Nat.toDigits 16 x.toNat).length ≤ 8 :=
    (Nat.length_toDigits_le_iff (by omega) (by omega)).2 hx
  rw [hexWord, List.length_append, List.length_replicate]
  omega

theorem length_sha256 (bytes : List UInt8) : (sha256 bytes).length = 64 := by
  simp only [sha256, List.flatMap_cons, List.flatMap_nil, List.length_append, length_hexWord,
    List.length_nil]

theorem toList_ofText (s : String) :
    (ofText s).toList = "sha256:".toList ++ sha256 s.toUTF8.toList := by
  rw [ofText, String.toList_append]
  exact congrArg ("sha256:".toList ++ ·) String.toList_ofList

theorem length_toList_ofText (s : String) : (ofText s).toList.length = 71 := by
  rw [toList_ofText, List.length_append, length_sha256]
  rfl

/-- A character that is no hexadecimal digit is in no digest, unless it is in the mark. -/
theorem not_mem_ofText {c : Char} (hc : Text.hexValue? c = none) (hm : c ∉ "sha256:".toList)
    (s : String) : c ∉ (ofText s).toList := by
  have hzero : c ≠ '0' := by
    rintro rfl
    exact absurd hc (by decide)
  have hword : ∀ x, c ∉ hexWord x := by
    intro x h
    rcases List.mem_append.1 h with h | h
    · exact hzero (List.mem_replicate.1 h).2
    · exact Text.not_mem_toDigits_sixteen hc _ h
  rw [toList_ofText, List.mem_append]
  rintro (h | h)
  · exact hm h
  · obtain ⟨x, -, hx⟩ := List.mem_flatMap.1 h
    exact hword x hx

/-- Digests in front of other text can be told apart. -/
theorem ofText_append_inj {s t : String} {rest more : List Char}
    (h : (ofText s).toList ++ rest = (ofText t).toList ++ more) :
    ofText s = ofText t ∧ rest = more := by
  have hl : (ofText s).toList.length = (ofText t).toList.length := by
    rw [length_toList_ofText, length_toList_ofText]
  obtain ⟨hd, hr⟩ := List.append_inj h hl
  exact ⟨String.toList_inj.1 hd, hr⟩

/-- The given texts have digests of their own: no two of them are a collision. -/
def CollisionFree (texts : List String) : Prop :=
  ∀ s ∈ texts, ∀ t ∈ texts, ofText s = ofText t → s = t

theorem collisionFree_iff (texts : List String) :
    (texts.dedup.map ofText).Nodup ↔ CollisionFree texts := by
  rw [List.nodup_map_iff_inj_on texts.nodup_dedup]
  simp only [CollisionFree, List.mem_dedup]

instance (texts : List String) : Decidable (CollisionFree texts) :=
  decidable_of_iff _ (collisionFree_iff texts)

theorem CollisionFree.mono {texts others : List String} (h : CollisionFree texts)
    (hs : ∀ s ∈ others, s ∈ texts) : CollisionFree others :=
  fun s hm t hm' => h s (hs s hm) t (hs t hm')

end DocumentTemplates.Digest
