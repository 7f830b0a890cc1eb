import Mathlib.Data.List.Sort

set_option autoImplicit false

namespace KeySort

variable {α κ : Type*} [LE κ]

theorem strictly_ascending_iff [LT κ] [Std.IsLinearOrder κ] [Std.LawfulOrderLT κ] {l : List κ}
    (ascending : l.Pairwise (· ≤ ·)) : l.Pairwise (· < ·) ↔ l.Nodup := by
  constructor
  · exact fun strict => strict.imp Std.ne_of_lt
  · intro distinct
    exact ascending.imp₂ (fun _ _ => Std.lt_of_le_of_ne) distinct

variable [DecidableLE κ] (key : α → κ) (l : List α)

def sortBy : List α := l.insertionSort (fun a b => key a ≤ key b)

theorem sortBy_perm : (sortBy key l).Perm l := List.perm_insertionSort _ l

variable [Std.IsLinearOrder κ]

theorem ascending_sortBy : ((sortBy key l).map key).Pairwise (· ≤ ·) := by
  have total : Std.Total (fun a b : α => key a ≤ key b) := ⟨fun _ _ => Std.le_total⟩
  have trans : IsTrans α (fun a b => key a ≤ key b) := ⟨fun _ _ _ => Std.le_trans⟩
  exact List.pairwise_map.mpr (List.pairwise_insertionSort _ l)

theorem strictly_ascending_sortBy_iff [LT κ] [Std.LawfulOrderLT κ] :
    ((sortBy key l).map key).Pairwise (· < ·) ↔ (l.map key).Nodup := by
  rw [strictly_ascending_iff (ascending_sortBy key l)]
  exact ((sortBy_perm key l).map key).nodup_iff

end KeySort
