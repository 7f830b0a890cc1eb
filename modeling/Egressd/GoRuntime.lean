import Mathlib.Data.Int.Notation
import Mathlib.Data.UInt

set_option autoImplicit false

/-!
# Values of the Go runtime and standard library

Strings that only travel through the program are byte strings. A panic ends
the process, so a function that can panic returns in `Except Panic`.
-/
namespace Egressd

abbrev Bytes := List UInt8

abbrev Error := String

/-- The bytes of a Go string. -/
def utf8 (s : String) : Bytes := s.toUTF8.data.toList

/-- A `time.Time` in nanoseconds since the zero time, January 1, year 1 UTC. -/
abbrev Time := ℤ

abbrev Duration := ℤ

def second : Duration := 1000000000

def minute : Duration := 60 * second

/-- `t.Sub(u)`, which saturates at the largest and the smallest duration. -/
def timeSub (t u : Time) : Duration := max (-2 ^ 63) (min (2 ^ 63 - 1) (t - u))

inductive Panic where
  | nilDereference
  | as4ZeroValue
  | as4IPv6
  deriving DecidableEq, Repr

def deref {α : Type} : Option α → Except Panic α
  | some x => .ok x
  | none => .error .nilDereference

def littleEndianPutUint16 (v : UInt16) : Bytes := [v.toUInt8, (v >>> 8).toUInt8]

def bigEndianUint32 (a b c d : UInt8) : UInt32 :=
  UInt32.ofNat (a.toNat * 2 ^ 24 + b.toNat * 2 ^ 16 + c.toNat * 2 ^ 8 + d.toNat)

theorem utf8_injective : Function.Injective utf8 := by
  intro s t h
  exact String.toByteArray_inj.mp (ByteArray.ext (Array.toList_inj.mp h))

theorem timeSub_le_of_le {t u : Time} {d : Duration} (small : -2 ^ 63 ≤ d) (h : t - u ≤ d) :
    timeSub t u ≤ d :=
  max_le small ((min_le_right _ _).trans h)

theorem littleEndianPutUint16_injective : Function.Injective littleEndianPutUint16 := by
  intro v w h
  simp only [littleEndianPutUint16, List.cons.injEq, and_true] at h
  obtain ⟨low, high⟩ := h
  have hl := congrArg UInt8.toNat low
  have hh := congrArg UInt8.toNat high
  simp only [UInt16.toNat_toUInt8, UInt16.toNat_shiftRight] at hl hh
  have hv := v.toNat_lt
  have hw := w.toNat_lt
  apply UInt16.toNat.inj
  simp [Nat.shiftRight_eq_div_pow] at hl hh
  omega

theorem bigEndianUint32_toNat (a b c d : UInt8) : (bigEndianUint32 a b c d).toNat =
    a.toNat * 2 ^ 24 + b.toNat * 2 ^ 16 + c.toNat * 2 ^ 8 + d.toNat := by
  have ha := a.toNat_lt
  have hb := b.toNat_lt
  have hc := c.toNat_lt
  have hd := d.toNat_lt
  rw [bigEndianUint32, UInt32.toNat_ofNat']
  exact Nat.mod_eq_of_lt (by omega)

end Egressd
