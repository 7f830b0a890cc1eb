import Mathlib.Data.List.Basic

set_option autoImplicit false

namespace InPlaceFilter

variable {α : Type*}

/-- The loop with the number of elements left to read, the positions of the next read and of the
    next write, and the array. -/
def loop (keep : α → Bool) : ℕ → ℕ → ℕ → List α → List α × ℕ
  | 0, _, w, array => (array, w)
  | n + 1, i, w, array =>
    match array[i]? with
    | none => (array, w)
    | some x =>
      if keep x then loop keep n (i + 1) (w + 1) (array.set w x)
      else loop keep n (i + 1) w array

def filter (keep : α → Bool) (array : List α) : List α :=
  let r := loop keep array.length 0 0 array
  r.1.take r.2

/-- What has been written is the filtered part that has been read, and the rest is as it was. -/
structure Invariant (keep : α → Bool) (original : List α) (i w : ℕ) (array : List α) : Prop where
  behind : w ≤ i
  bound : i ≤ original.length
  length : array.length = original.length
  written : array.take w = (original.take i).filter keep
  unread : array.drop i = original.drop i

variable {keep : α → Bool} {original array : List α} {i w : ℕ} {x : α}

theorem Invariant.read (h : Invariant keep original i w array) : array[i]? = original[i]? := by
  have heads := congrArg (fun l => l[0]?) h.unread
  simpa only [List.getElem?_drop, Nat.add_zero] using heads

theorem Invariant.skip (h : Invariant keep original i w array) (read : original[i]? = some x)
    (dropped : keep x = false) : Invariant keep original (i + 1) w array where
  behind := Nat.le_succ_of_le h.behind
  bound := (List.getElem?_eq_some_iff.mp read).1
  length := h.length
  written := by
    rw [h.written, List.take_add_one, read, Option.toList_some, List.filter_append,
      List.filter_cons_of_neg (by simp [dropped]), List.filter_nil, List.append_nil]
  unread := by rw [← List.drop_drop, h.unread, List.drop_drop]

theorem Invariant.store (h : Invariant keep original i w array) (read : original[i]? = some x)
    (kept : keep x = true) : Invariant keep original (i + 1) (w + 1) (array.set w x) where
  behind := Nat.succ_le_succ h.behind
  bound := (List.getElem?_eq_some_iff.mp read).1
  length := by rw [List.length_set, h.length]
  written := by
    have inside : w < array.length := by
      have bound := (List.getElem?_eq_some_iff.mp read).1
      have behind := h.behind
      rw [h.length]
      omega
    have value : (array.set w x)[w]? = some x := List.getElem?_set_self inside
    rw [List.take_add_one, value, List.take_set,
      List.set_eq_of_length_le (by rw [List.length_take]; omega), h.written,
      List.take_add_one, read, List.filter_append]
    simp only [Option.toList_some, List.filter_cons_of_pos kept, List.filter_nil]
  unread := by
    have behind := h.behind
    rw [List.drop_set_of_lt (by omega), ← List.drop_drop, h.unread, List.drop_drop]

theorem loop_invariant {n : ℕ} (h : Invariant keep original i w array)
    (left : i + n = original.length) :
    Invariant keep original original.length (loop keep n i w array).2
      (loop keep n i w array).1 := by
  induction n generalizing i w array with
  | zero =>
    rw [Nat.add_zero] at left
    rw [loop, ← left]
    exact h
  | succ n ih =>
    have inside : i < original.length := by omega
    have read : original[i]? = some original[i] := List.getElem?_eq_getElem inside
    rw [loop, h.read, read]
    simp only
    split
    · rename_i kept
      exact ih (h.store read kept) (by omega)
    · rename_i dropped
      exact ih (h.skip read (by simpa using dropped)) (by omega)

theorem filter_eq (keep : α → Bool) (array : List α) : filter keep array = array.filter keep := by
  have start : Invariant keep array 0 0 array :=
    ⟨Nat.le_refl 0, Nat.zero_le _, rfl, rfl, rfl⟩
  have done := loop_invariant start (Nat.zero_add _)
  have written := done.written
  rw [List.take_length] at written
  exact written

end InPlaceFilter
