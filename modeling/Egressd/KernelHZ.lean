import Egressd.CiliumConntrack
import Egressd.FirstLeast

set_option autoImplicit false

namespace Egressd.Conntrack
open FirstLeast

def hzValues : List UInt16 := [1000, 300, 250, 100]

def wrappedDistance (input v : UInt16) : UInt16 :=
  let d := input - v
  if input < v then v - input else d

/-- The body of the loop in `nearest`, for its variables `min` and `out`. -/
def nearestStep (input : UInt16) (s : UInt16 × UInt16) (v : UInt16) : UInt16 × UInt16 :=
  let d := wrappedDistance input v
  if d < s.1 then (d, v) else s

def nearest (input : UInt16) (values : List UInt16) : Except Error UInt16 :=
  if values.length = 0 then .error "values cannot be empty"
  else .ok (values.foldl (nearestStep input) (~~~0, 0)).2

def getKernelHZ (measured : Except Error UInt16) : Except Error UInt16 := do
  let hz ← measured
  nearest hz hzValues

/-- The variable `hertz` after `init`. -/
def hertz (measured : Except Error UInt16) : UInt16 :=
  match getKernelHZ measured with
  | .error _ => 1
  | .ok hz => hz

def distance (input v : UInt16) : ℕ := ((input.toNat : ℤ) - v.toNat).natAbs

section Nearest

variable {input v : UInt16} {values : List UInt16}

theorem toNat_wrappedDistance (input v : UInt16) :
    (wrappedDistance input v).toNat = distance input v := by
  unfold wrappedDistance distance
  dsimp only
  split
  · rename_i below
    rw [UInt16.lt_iff_toNat_lt] at below
    rw [UInt16.toNat_sub_of_le _ _ (UInt16.le_iff_toNat_le.mpr below.le)]
    omega
  · rename_i above
    have le : v ≤ input := UInt16.not_lt.mp above
    rw [UInt16.toNat_sub_of_le _ _ le]
    rw [UInt16.le_iff_toNat_le] at le
    omega

theorem distance_le (input v : UInt16) : distance input v ≤ 65535 := by
  have bound := input.toNat_lt
  have bound' := v.toNat_lt
  unfold distance
  omega

theorem distance_eq_iff : distance input v = 65535 ↔
    (input = 0 ∧ v = 65535) ∨ (input = 65535 ∧ v = 0) := by
  have bound := input.toNat_lt
  have bound' := v.toNat_lt
  simp only [← UInt16.toNat_inj, UInt16.reduceToNat]
  unfold distance
  omega

theorem isFirstLeast_wrappedDistance :
    IsFirstLeast (wrappedDistance input) values v ↔ IsFirstLeast (distance input) values v := by
  unfold IsFirstLeast
  simp only [UInt16.lt_iff_toNat_lt, UInt16.le_iff_toNat_le, toNat_wrappedDistance]

theorem nearest_nil : nearest input [] = .error "values cannot be empty" := rfl

theorem nearest_cases (input : UInt16) (nonempty : values ≠ []) :
    ((∀ v ∈ values, distance input v = 65535) ∧ nearest input values = .ok 0) ∨
    ∃ v, nearest input values = .ok v ∧ IsFirstLeast (distance input) values v ∧
      distance input v < 65535 := by
  have length : values.length ≠ 0 := by rwa [Ne, List.length_eq_zero_iff]
  have scanned := scanned_foldl (wrappedDistance input) (~~~0, 0) values
  unfold nearest
  rw [if_neg length]
  change Scanned _ _ _ (values.foldl (nearestStep input) (~~~0, 0)) at scanned
  generalize values.foldl (nearestStep input) (~~~0, 0) = best at scanned
  cases scanned with
  | nothing above =>
    refine .inl ⟨fun v mem => ?_, rfl⟩
    have far := UInt16.le_iff_toNat_le.mp (above v mem)
    rw [toNat_wrappedDistance] at far
    exact le_antisymm (distance_le input v) far
  | found first below =>
    rw [UInt16.lt_iff_toNat_lt, toNat_wrappedDistance] at below
    exact .inr ⟨_, rfl, isFirstLeast_wrappedDistance.mp first, below⟩

/-- What the documentation of `nearest` says. -/
structure NearestDocumented (input : UInt16) (values : List UInt16) : Prop where
  error : (∃ err, nearest input values = .error err) ↔ values = []
  value : values ≠ [] →
    ∃ v, nearest input values = .ok v ∧ IsFirstLeast (distance input) values v

theorem nearest_error_iff :
    (∃ err, nearest input values = .error err) ↔ values = [] := by
  constructor
  · rintro ⟨err, failed⟩
    by_contra nonempty
    rcases nearest_cases input nonempty with ⟨_, ok⟩ | ⟨v, ok, _⟩ <;>
      · rw [ok] at failed
        cases failed
  · rintro rfl
    exact ⟨_, nearest_nil⟩

/-- The documentation is right, except for the number 0 if all values are 65535: then 0 is
    returned, which is none of them. -/
theorem nearest_documented_iff (input : UInt16) (values : List UInt16) :
    NearestDocumented input values ↔
      ¬ (input = 0 ∧ values ≠ [] ∧ ∀ v ∈ values, v = 65535) := by
  constructor
  · rintro documented ⟨rfl, nonempty, only⟩
    obtain ⟨v, ok, first⟩ := documented.value nonempty
    have far : v = 65535 := only v first.mem
    rcases nearest_cases 0 nonempty with ⟨_, zero⟩ | ⟨w, ok', _, near⟩
    · rw [zero, Except.ok.injEq] at ok
      rw [← ok] at far
      exact absurd far (by decide)
    · rw [ok', Except.ok.injEq] at ok
      rw [ok, far] at near
      exact absurd near (by decide)
  · intro other
    refine ⟨nearest_error_iff, fun nonempty => ?_⟩
    rcases nearest_cases input nonempty with ⟨far, zero⟩ | ⟨v, ok, first, _⟩
    · -- All values are at the other end of the range, which is 0.
      have ends : ∀ v ∈ values, v = 0 := by
        intro v mem
        rcases distance_eq_iff.mp (far v mem) with ⟨low, _⟩ | ⟨_, high⟩
        · refine absurd ⟨low, nonempty, fun w memw => ?_⟩ other
          rcases distance_eq_iff.mp (far w memw) with ⟨_, high⟩ | ⟨high, _⟩
          · exact high
          · rw [low] at high
            exact absurd high (by decide)
        · exact high
      refine ⟨0, zero, ?_⟩
      cases values with
      | nil => exact absurd rfl nonempty
      | cons v rest =>
        rw [List.forall_mem_cons] at ends
        rw [ends.1]
        refine ⟨[], rest, rfl, fun _ mem => absurd mem List.not_mem_nil, fun w mem => ?_⟩
        rw [ends.2 w mem]
    · exact ⟨v, ok, first⟩

theorem nearest_returns_no_value :
    nearest 0 [65535] = .ok 0 ∧ (0 : UInt16) ∉ [(65535 : UInt16)] := by
  decide

end Nearest

end Egressd.Conntrack
