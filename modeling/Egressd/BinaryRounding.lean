import Mathlib.Data.Int.Log
import Mathlib.Data.Nat.Size
import Mathlib.Data.Rat.Floor
import Mathlib.Tactic.Linarith
import Mathlib.Tactic.Ring

set_option autoImplicit false

namespace BinaryRounding

/-- The nearest multiple of `u`, between two of them the one with an even factor. -/
def roundTo (u n : ℕ) : ℕ :=
  if 2 * (n % u) < u ∨ 2 * (n % u) = u ∧ n / u % 2 = 0 then n / u * u else (n / u + 1) * u

theorem roundTo_bounds (u n : ℕ) : n / u * u ≤ roundTo u n ∧ roundTo u n ≤ (n / u + 1) * u := by
  unfold roundTo
  have next : n / u * u ≤ (n / u + 1) * u := Nat.mul_le_mul_right u (Nat.le_succ _)
  split
  · exact ⟨le_rfl, next⟩
  · exact ⟨next, le_rfl⟩

theorem roundTo_mul (u q : ℕ) : roundTo u (q * u) = q * u := by
  unfold roundTo
  rcases Nat.eq_zero_or_pos u with rfl | pos
  · simp
  · rw [Nat.mul_mod_left, Nat.mul_div_cancel q pos, if_pos (.inl (by omega))]

theorem roundTo_error {u : ℕ} (pos : 0 < u) (n : ℕ) :
    2 * roundTo u n ≤ 2 * n + u ∧ 2 * n ≤ 2 * roundTo u n + u := by
  have whole := Nat.div_add_mod n u
  rw [Nat.mul_comm] at whole
  unfold roundTo
  split
  · rename_i down
    rcases down with near | ⟨tie, _⟩ <;> constructor <;> omega
  · rename_i up
    have below := Nat.mod_lt n pos
    have half : u ≤ 2 * (n % u) := by
      by_contra less
      exact up (.inl (by omega))
    rw [Nat.add_mul, Nat.one_mul]
    constructor <;> omega

theorem roundTo_mono (u : ℕ) {m n : ℕ} (le : m ≤ n) : roundTo u m ≤ roundTo u n := by
  rcases Nat.lt_or_ge (m / u) (n / u) with lt | ge
  · calc roundTo u m ≤ (m / u + 1) * u := (roundTo_bounds u m).2
      _ ≤ n / u * u := Nat.mul_le_mul_right u lt
      _ ≤ roundTo u n := (roundTo_bounds u n).1
  · -- Within one spacing, a number that is rounded up has none above it that is rounded down.
    have same : m / u = n / u := Nat.le_antisymm (Nat.div_le_div_right le) ge
    have rest : m % u ≤ n % u := by
      have hm := Nat.div_add_mod m u
      have hn := Nat.div_add_mod n u
      rw [same] at hm
      omega
    unfold roundTo
    rw [same]
    split
    · split
      · exact le_rfl
      · exact Nat.mul_le_mul_right u (Nat.le_succ _)
    · rename_i up
      rw [if_neg]
      rintro (near | ⟨tie, even⟩)
      · exact up (.inl (by omega))
      · rcases Nat.lt_or_ge (2 * (m % u)) u with near | far
        · exact up (.inl near)
        · exact up (.inr ⟨by omega, even⟩)

def spacing (p n : ℕ) : ℕ := 2 ^ (n.size - p)

theorem spacing_pos (p n : ℕ) : 0 < spacing p n := Nat.two_pow_pos _

def roundEven (p n : ℕ) : ℕ := roundTo (spacing p n) n

variable {p m n : ℕ}

theorem roundEven_eq (h : n < 2 ^ p) : roundEven p n = n := by
  have one : spacing p n = 1 := by
    rw [spacing, Nat.sub_eq_zero_of_le (Nat.size_le.mpr h), pow_zero]
  have exact := roundTo_mul 1 n
  rw [Nat.mul_one] at exact
  rw [roundEven, one, exact]

theorem le_size (pos : 0 < p) (large : 2 ^ p ≤ n) : 2 ^ (p - 1) * spacing p n = 2 ^ (n.size - 1) := by
  have size := Nat.lt_size.mpr large
  rw [spacing, ← pow_add]
  congr 1
  omega

theorem spacing_le (pos : 0 < p) (large : 2 ^ p ≤ n) : 2 ^ (p - 1) * spacing p n ≤ n := by
  rw [le_size pos large]
  have size := Nat.lt_size.mpr large
  exact Nat.lt_size.mp (by omega)

theorem roundEven_le (p n : ℕ) : roundEven p n ≤ 2 ^ n.size := by
  rcases Nat.lt_or_ge n (2 ^ p) with small | large
  · rw [roundEven_eq small]
    exact (Nat.lt_size_self n).le
  · have size := Nat.lt_size.mpr large
    have top : 2 ^ n.size = 2 ^ p * spacing p n := by
      rw [spacing, ← pow_add]
      congr 1
      omega
    have quotient : n / spacing p n < 2 ^ p := by
      rw [Nat.div_lt_iff_lt_mul (spacing_pos p n), ← top]
      exact Nat.lt_size_self n
    calc roundEven p n ≤ (n / spacing p n + 1) * spacing p n := (roundTo_bounds _ n).2
      _ ≤ 2 ^ p * spacing p n := Nat.mul_le_mul_right _ quotient
      _ = 2 ^ n.size := top.symm

theorem le_roundEven (pos : 0 < p) (large : 2 ^ p ≤ n) : 2 ^ (n.size - 1) ≤ roundEven p n := by
  rw [← le_size pos large]
  have quotient : 2 ^ (p - 1) ≤ n / spacing p n := by
    rw [Nat.le_div_iff_mul_le (spacing_pos p n)]
    exact spacing_le pos large
  exact (Nat.mul_le_mul_right _ quotient).trans (roundTo_bounds _ n).1

theorem roundEven_mono (pos : 0 < p) (le : m ≤ n) : roundEven p m ≤ roundEven p n := by
  rcases Nat.lt_or_ge n (2 ^ p) with small | large
  · rw [roundEven_eq small, roundEven_eq (Nat.lt_of_le_of_lt le small)]
    exact le
  · rcases Nat.lt_or_ge m.size n.size with lt | ge
    · calc roundEven p m ≤ 2 ^ m.size := roundEven_le p m
        _ ≤ 2 ^ (n.size - 1) := Nat.pow_le_pow_right (by omega) (by omega)
        _ ≤ roundEven p n := le_roundEven pos large
    · have same : m.size = n.size := Nat.le_antisymm (Nat.size_le_size le) ge
      rw [roundEven, roundEven, spacing, spacing, same]
      exact roundTo_mono _ le

theorem roundEven_error (pos : 0 < p) (n : ℕ) :
    2 ^ p * roundEven p n ≤ 2 ^ p * n + n ∧ 2 ^ p * n ≤ 2 ^ p * roundEven p n + n := by
  rcases Nat.lt_or_ge n (2 ^ p) with small | large
  · rw [roundEven_eq small]
    omega
  · obtain ⟨up, down⟩ := roundTo_error (spacing_pos p n) n
    have bound := spacing_le pos large
    have double : 2 ^ p = 2 ^ (p - 1) * 2 := by
      rw [← pow_succ]
      congr 1
      omega
    unfold roundEven
    rw [double]
    constructor
    · nlinarith [Nat.mul_le_mul_left (2 ^ (p - 1)) up]
    · nlinarith [Nat.mul_le_mul_left (2 ^ (p - 1)) down]

/-- The conversion of an integer to a floating point number with `p` significant bits, as the
    integer that it denotes. -/
def roundInt (p : ℕ) : ℤ → ℤ
  | .ofNat n => roundEven p n
  | .negSucc n => -roundEven p (n + 1)

section Rationals

def nearestEven (q : ℚ) : ℤ :=
  if q - ⌊q⌋ < 1 / 2 ∨ q - ⌊q⌋ = 1 / 2 ∧ ⌊q⌋ % 2 = 0 then ⌊q⌋ else ⌊q⌋ + 1

theorem nearestEven_error (q : ℚ) : |nearestEven q - q| ≤ 1 / 2 := by
  have below := Int.floor_le q
  have above := Int.lt_floor_add_one q
  unfold nearestEven
  rw [abs_le]
  split
  · rename_i down
    have half : q - ⌊q⌋ ≤ 1 / 2 := by
      rcases down with near | ⟨tie, _⟩
      · exact near.le
      · exact tie.le
    constructor <;> linarith
  · rename_i up
    have half : 1 / 2 ≤ q - ⌊q⌋ := by
      by_contra less
      exact up (.inl (not_le.mp less))
    push_cast
    constructor <;> linarith

def lastBit (p : ℕ) (q : ℚ) : ℚ := 2 ^ (Int.log 2 q + 1 - p)

theorem lastBit_pos (p : ℕ) (q : ℚ) : 0 < lastBit p q := zpow_pos (by norm_num) _

theorem lastBit_le (p : ℕ) {q : ℚ} (pos : 0 < q) : 2 ^ p * lastBit p q ≤ 2 * q := by
  have first : (2 : ℚ) ^ Int.log 2 q ≤ q := Int.zpow_log_le_self (by norm_num) pos
  have scaled : 2 ^ p * lastBit p q = 2 * 2 ^ Int.log 2 q := by
    rw [lastBit, ← zpow_natCast, ← zpow_add₀ (by norm_num), mul_comm 2, ← zpow_add_one₀ (by norm_num)]
    congr 1
    ring
  rw [scaled]
  linarith

/-- A positive number as a floating point number with `p` significant bits. -/
def roundRat (p : ℕ) (q : ℚ) : ℚ := nearestEven (q / lastBit p q) * lastBit p q

theorem roundRat_error (p : ℕ) {q : ℚ} (pos : 0 < q) : |roundRat p q - q| ≤ q / 2 ^ p := by
  have bit := lastBit_pos p q
  have whole : roundRat p q - q = (nearestEven (q / lastBit p q) - q / lastBit p q) * lastBit p q := by
    rw [roundRat, sub_mul, div_mul_cancel₀ _ bit.ne']
  have half := nearestEven_error (q / lastBit p q)
  have small := lastBit_le p pos
  rw [whole, abs_mul, abs_of_pos bit, le_div_iff₀ (by positivity)]
  calc |nearestEven (q / lastBit p q) - q / lastBit p q| * lastBit p q * 2 ^ p
      ≤ 1 / 2 * lastBit p q * 2 ^ p := by gcongr
    _ ≤ q := by linarith

theorem roundRat_zero (p : ℕ) : roundRat p 0 = 0 := by simp [roundRat, nearestEven]

/-- What one rounding changes at most, relative to the exact result. -/
def roundoff (p : ℕ) : ℚ := 1 / 2 ^ p

theorem roundoff_pos (p : ℕ) : 0 < roundoff p := by
  unfold roundoff
  positivity

theorem roundoff_le (p : ℕ) : roundoff p ≤ 1 := by
  unfold roundoff
  rw [div_le_one (by positivity)]
  exact one_le_pow₀ (by norm_num)

/-- `x` is the number `y` after `n` roundings. -/
structure Rounded (p n : ℕ) (x y : ℚ) : Prop where
  nonneg : 0 ≤ y
  below : y * (1 - roundoff p) ^ n ≤ x
  above : x ≤ y * (1 + roundoff p) ^ n

variable {k : ℕ} {x y z w : ℚ}

theorem Rounded.nonneg_left (h : Rounded p k x y) : 0 ≤ x :=
  (mul_nonneg h.nonneg (pow_nonneg (sub_nonneg.mpr (roundoff_le p)) k)).trans h.below

theorem Rounded.refl (p : ℕ) (nonneg : 0 ≤ y) : Rounded p 0 y y :=
  ⟨nonneg, by rw [pow_zero, mul_one], by rw [pow_zero, mul_one]⟩

theorem Rounded.round (h : Rounded p k x y) : Rounded p (k + 1) (roundRat p x) y := by
  have factors : x * (1 - roundoff p) ≤ roundRat p x ∧ roundRat p x ≤ x * (1 + roundoff p) := by
    rcases h.nonneg_left.eq_or_lt with zero | pos
    · rw [← zero, roundRat_zero, zero_mul, zero_mul]
      exact ⟨le_rfl, le_rfl⟩
    · have error := abs_le.mp (roundRat_error p pos)
      rw [mul_sub, mul_add, mul_one, roundoff, mul_one_div]
      constructor <;> linarith
  refine ⟨h.nonneg, ?_, ?_⟩
  · calc y * (1 - roundoff p) ^ (k + 1) = y * (1 - roundoff p) ^ k * (1 - roundoff p) := by ring
      _ ≤ x * (1 - roundoff p) :=
        mul_le_mul_of_nonneg_right h.below (sub_nonneg.mpr (roundoff_le p))
      _ ≤ roundRat p x := factors.1
  · calc roundRat p x ≤ x * (1 + roundoff p) := factors.2
      _ ≤ y * (1 + roundoff p) ^ k * (1 + roundoff p) :=
        mul_le_mul_of_nonneg_right h.above (by linarith [roundoff_pos p])
      _ = y * (1 + roundoff p) ^ (k + 1) := by ring

theorem Rounded.succ (h : Rounded p k x y) : Rounded p (k + 1) x y := by
  have pos := roundoff_pos p
  have le := roundoff_le p
  have low := mul_nonneg h.nonneg (pow_nonneg (sub_nonneg.mpr le) k)
  have high := mul_nonneg h.nonneg (pow_nonneg (by linarith : (0 : ℚ) ≤ 1 + roundoff p) k)
  refine ⟨h.nonneg, ?_, ?_⟩
  · calc y * (1 - roundoff p) ^ (k + 1) = y * (1 - roundoff p) ^ k * (1 - roundoff p) := by ring
      _ ≤ y * (1 - roundoff p) ^ k := mul_le_of_le_one_right low (by linarith)
      _ ≤ x := h.below
  · calc x ≤ y * (1 + roundoff p) ^ k := h.above
      _ ≤ y * (1 + roundoff p) ^ k * (1 + roundoff p) := le_mul_of_one_le_right high (by linarith)
      _ = y * (1 + roundoff p) ^ (k + 1) := by ring

theorem Rounded.add (h : Rounded p k x y) (h' : Rounded p k z w) :
    Rounded p k (x + z) (y + w) where
  nonneg := add_nonneg h.nonneg h'.nonneg
  below := by
    rw [add_mul]
    exact add_le_add h.below h'.below
  above := by
    rw [add_mul]
    exact add_le_add h.above h'.above

end Rationals

end BinaryRounding
