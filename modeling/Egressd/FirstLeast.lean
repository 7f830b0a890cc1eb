import Mathlib.Data.List.Induction

set_option autoImplicit false

namespace FirstLeast

variable {α κ : Type*} [LE κ] [LT κ]

/-- No element has a smaller key, and no earlier one has the same. -/
def IsFirstLeast (key : α → κ) (l : List α) (a : α) : Prop :=
  ∃ earlier later, l = earlier ++ a :: later ∧
    (∀ b ∈ earlier, key a < key b) ∧ ∀ b ∈ later, key a ≤ key b

def improve [DecidableLT κ] (key : α → κ) (best : κ × α) (a : α) : κ × α :=
  if key a < best.1 then (key a, a) else best

/-- What the loop knows about the elements that it has visited. -/
inductive Scanned (key : α → κ) (start : κ × α) (l : List α) : κ × α → Prop where
  | nothing (above : ∀ a ∈ l, start.1 ≤ key a) : Scanned key start l start
  | found {a : α} (first : IsFirstLeast key l a) (below : key a < start.1) :
      Scanned key start l (key a, a)

section Order

variable {key : α → κ} {l : List α} {a : α}

theorem IsFirstLeast.mem (h : IsFirstLeast key l a) : a ∈ l := by
  obtain ⟨earlier, later, rfl, _⟩ := h
  exact List.mem_append_right earlier List.mem_cons_self

theorem IsFirstLeast.concat (h : IsFirstLeast key l a) {b : α} (le : key a ≤ key b) :
    IsFirstLeast key (l ++ [b]) a := by
  obtain ⟨earlier, later, rfl, before, after⟩ := h
  refine ⟨earlier, later ++ [b], by rw [List.append_assoc, List.cons_append], before, ?_⟩
  intro c mem
  rw [List.mem_append, List.mem_singleton] at mem
  rcases mem with mem | rfl
  · exact after c mem
  · exact le

theorem isFirstLeast_last (below : ∀ b ∈ l, key a < key b) : IsFirstLeast key (l ++ [a]) a :=
  ⟨l, [], rfl, below, fun _ mem => absurd mem List.not_mem_nil⟩

variable [Std.IsLinearOrder κ] [Std.LawfulOrderLT κ]

theorem IsFirstLeast.le (h : IsFirstLeast key l a) {b : α} (mem : b ∈ l) : key a ≤ key b := by
  obtain ⟨earlier, later, rfl, before, after⟩ := h
  rw [List.mem_append, List.mem_cons] at mem
  rcases mem with mem | rfl | mem
  · exact Std.le_of_lt (before b mem)
  · exact Std.le_refl _
  · exact after b mem

theorem IsFirstLeast.eq_head {b : α} (h : IsFirstLeast key (b :: l) a)
    (least : ∀ c ∈ l, key b ≤ key c) : a = b := by
  obtain ⟨earlier, later, split, before, _⟩ := h
  cases earlier with
  | nil => exact (List.cons.inj split).1.symm
  | cons c earlier =>
    obtain ⟨rfl, rfl⟩ := List.cons.inj split
    have smaller := before b List.mem_cons_self
    have notSmaller := least a (List.mem_append_right _ List.mem_cons_self)
    exact absurd smaller (Std.not_lt.mpr notSmaller)

variable [DecidableLT κ] {start best : κ × α}

theorem Scanned.step (h : Scanned key start l best) (a : α) :
    Scanned key start (l ++ [a]) (improve key best a) := by
  unfold improve
  cases h with
  | nothing above =>
    split
    · rename_i below
      exact .found (isFirstLeast_last fun b mem => Std.lt_of_lt_of_le below (above b mem)) below
    · rename_i notBelow
      refine .nothing fun b mem => ?_
      rw [List.mem_append, List.mem_singleton] at mem
      rcases mem with mem | rfl
      · exact above b mem
      · exact Std.not_lt.mp notBelow
  | found first below =>
    split
    · rename_i smaller
      refine .found (isFirstLeast_last fun b mem => ?_) (Std.lt_trans smaller below)
      exact Std.lt_of_lt_of_le smaller (first.le mem)
    · rename_i notSmaller
      exact .found (first.concat (Std.not_lt.mp notSmaller)) below

theorem scanned_foldl (key : α → κ) (start : κ × α) (l : List α) :
    Scanned key start l (l.foldl (improve key) start) := by
  induction l using List.reverseRecOn with
  | nil => exact .nothing fun _ mem => absurd mem List.not_mem_nil
  | append_singleton l a ih =>
    rw [List.foldl_append]
    exact ih.step a

theorem isFirstLeast_foldl (key : α → κ) (a : α) (l : List α) :
    IsFirstLeast key (a :: l) (l.foldl (improve key) (key a, a)).2 := by
  have scanned := scanned_foldl key (key a, a) l
  generalize l.foldl (improve key) (key a, a) = best at scanned
  cases scanned with
  | nothing above => exact ⟨[], l, rfl, fun _ mem => absurd mem List.not_mem_nil, above⟩
  | found first below =>
    obtain ⟨earlier, later, rfl, before, after⟩ := first
    exact ⟨a :: earlier, later, rfl, List.forall_mem_cons.mpr ⟨below, before⟩, after⟩

end Order

end FirstLeast
