/-!
# Stable sorting

Insertion sort by a test "comes before". Each element is placed behind the last element that it
does not come before, so elements of which neither comes before the other keep their order.
-/

namespace DocumentTemplates.Sorting

variable {α : Type}

/-- Inserts an element into a sequence given last element first. -/
def insertFromEnd (before : α → α → Bool) (x : α) : List α → List α
  | [] => [x]
  | y :: rest => if before x y then y :: insertFromEnd before x rest else x :: y :: rest

/-- Sorts a sequence stably. -/
def stableSort (before : α → α → Bool) (xs : List α) : List α :=
  (xs.foldl (fun sorted x => insertFromEnd before x sorted) []).reverse

theorem insertFromEnd_perm (before : α → α → Bool) (x : α) (xs : List α) :
    (insertFromEnd before x xs).Perm (x :: xs) := by
  induction xs with
  | nil => exact List.Perm.refl _
  | cons y rest ih =>
    unfold insertFromEnd
    split
    · exact (ih.cons y).trans (List.Perm.swap x y rest)
    · exact List.Perm.refl _

end DocumentTemplates.Sorting
