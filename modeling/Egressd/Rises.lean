import Mathlib.Data.List.Chain

set_option autoImplicit false

namespace Rises

def risesFrom : ℕ → List ℕ → ℕ
  | _, [] => 0
  | p, x :: xs => (x - p) + risesFrom x xs

def dipsFrom : ℕ → List ℕ → ℕ
  | _, [] => 0
  | p, x :: xs => (p - x) + dipsFrom x xs

/-- The largest reading, and `0` if there is none. -/
def peak (xs : List ℕ) : ℕ := xs.foldr max 0

theorem getLastD_append_eq (p : ℕ) (xs ys : List ℕ) :
    (xs ++ ys).getLastD p = ys.getLastD (xs.getLastD p) := by
  induction xs generalizing p with
  | nil => rfl
  | cons x xs ih => rw [List.cons_append, List.getLastD_cons, List.getLastD_cons, ih]

theorem risesFrom_append (p : ℕ) (xs ys : List ℕ) :
    risesFrom p (xs ++ ys) = risesFrom p xs + risesFrom (xs.getLastD p) ys := by
  induction xs generalizing p with
  | nil =>
    change risesFrom p ys = 0 + risesFrom p ys
    omega
  | cons x xs ih =>
    change (x - p) + risesFrom x (xs ++ ys) = (x - p) + risesFrom x xs + _
    rw [ih x, List.getLastD_cons]
    omega

theorem risesFrom_getLastD (p q : ℕ) (xs : List ℕ) :
    risesFrom (xs.getLastD p) xs = risesFrom (xs.getLastD q) xs := by
  cases xs with
  | nil => rfl
  | cons x xs => rw [List.getLastD_cons, List.getLastD_cons]

theorem risesFrom_balance (p : ℕ) (xs : List ℕ) :
    p + risesFrom p xs = xs.getLastD p + dipsFrom p xs := by
  induction xs generalizing p with
  | nil => rfl
  | cons x xs ih =>
    have h := ih x
    rw [List.getLastD_cons]
    change p + ((x - p) + risesFrom x xs) = xs.getLastD x + ((p - x) + dipsFrom x xs)
    omega

theorem getLastD_le_peak (p : ℕ) (xs : List ℕ) : xs.getLastD p ≤ max p (peak xs) := by
  induction xs generalizing p with
  | nil => exact Nat.le_max_left p _
  | cons x xs ih =>
    have h := ih x
    rw [List.getLastD_cons]
    change _ ≤ max p (max x (peak xs))
    omega

theorem risesFrom_eq_zero_iff (p : ℕ) (xs : List ℕ) :
    risesFrom p xs = 0 ↔ (p :: xs).IsChain (· ≥ ·) := by
  induction xs generalizing p with
  | nil => exact ⟨fun _ => .singleton p, fun _ => rfl⟩
  | cons x xs ih =>
    rw [List.isChain_cons_cons, ← ih x]
    change (x - p) + risesFrom x xs = 0 ↔ _
    omega

theorem risesFrom_getLastD_eq_zero (p : ℕ) {xs : List ℕ} (equal : ∀ x ∈ xs, ∀ y ∈ xs, x = y) :
    risesFrom (xs.getLastD p) xs = 0 := by
  cases xs with
  | nil => rfl
  | cons x xs =>
    rw [risesFrom_eq_zero_iff, List.getLastD_cons]
    have known : ∀ y ∈ xs.getLastD x :: x :: xs, y = x := by
      intro y mem
      rcases List.mem_cons.mp mem with rfl | mem
      · exact equal _ List.getLastD_mem_cons x List.mem_cons_self
      · exact equal y mem x List.mem_cons_self
    refine List.Pairwise.isChain (List.pairwise_of_forall_mem_list ?_)
    intro y hy z hz
    rw [known y hy, known z hz]

/-- No reading is higher than its predecessor once a reading was lower than its own. -/
def NoRiseAfterDip (xs : List ℕ) : Prop :=
  ∀ as x y bs, xs = as ++ x :: y :: bs → y < x → (y :: bs).IsChain (· ≥ ·)

theorem NoRiseAfterDip.tail {x : ℕ} {xs : List ℕ} (h : NoRiseAfterDip (x :: xs)) :
    NoRiseAfterDip xs := by
  intro as y z bs eq
  exact h (x :: as) y z bs (by rw [eq, List.cons_append])

theorem risesFrom_le_peak (p : ℕ) (xs : List ℕ) (h : NoRiseAfterDip (p :: xs)) :
    p + risesFrom p xs ≤ max p (peak xs) := by
  induction xs generalizing p with
  | nil => exact Nat.le_max_left p _
  | cons x xs ih =>
    change p + ((x - p) + risesFrom x xs) ≤ max p (max x (peak xs))
    by_cases dip : x < p
    · have flat := (risesFrom_eq_zero_iff x xs).mpr (h [] p x xs rfl dip)
      omega
    · have rest := ih x h.tail
      omega

theorem getLastD_le_of_isChain {xs : List ℕ} {x : ℕ} (h : (xs ++ [x]).IsChain (· ≤ ·)) :
    xs.getLastD 0 ≤ x := by
  rw [List.isChain_append] at h
  cases last : xs.getLast? with
  | none => simp [List.getLastD_eq_getLast?, last]
  | some y =>
    rw [List.getLastD_eq_getLast?, last]
    exact h.2.2 y last x rfl

theorem NoRiseAfterDip.cons {x : ℕ} {xs : List ℕ} (first : ∀ y ∈ xs.head?, x ≤ y)
    (h : NoRiseAfterDip xs) : NoRiseAfterDip (x :: xs) := by
  intro as y z bs eq dip
  cases as with
  | nil =>
    simp only [List.nil_append, List.cons.injEq] at eq
    obtain ⟨rfl, rfl⟩ := eq
    have le := first z rfl
    omega
  | cons a as =>
    simp only [List.cons_append, List.cons.injEq] at eq
    exact h as y z bs eq.2 dip

theorem noRiseAfterDip_of_falling {xs : List ℕ} (h : xs.IsChain (· ≥ ·)) : NoRiseAfterDip xs := by
  rintro as x y bs rfl _
  exact h.right_of_append.tail

end Rises
