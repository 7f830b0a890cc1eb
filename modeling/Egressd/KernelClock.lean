import Egressd.BinaryRounding
import Egressd.KernelHZ
import Mathlib.Tactic.FieldSimp

set_option autoImplicit false

namespace Egressd.Conntrack
open BinaryRounding FirstLeast

/-- A `float64` that is not negative. -/
inductive Float64 where
  | finite (q : ℚ)
  | inf
  | nan

def quotient (x y : ℚ) : Float64 :=
  if y = 0 then if x = 0 then .nan else .inf else .finite (roundRat 53 (x / y))

section Measurement

end Measurement

section Lifetimes

/-- The timer of the kernel while it lists the entries. Cilium counts in units of 256 jiffies or in
    seconds. -/
structure KernelTimer where
  jiffies : ℕ
  mtime : ℕ
  jiffies_lt : jiffies < 2 ^ 62
  mtime_lt : mtime < 2 ^ 63

def KernelTimer.clocks (timer : KernelTimer) (now : Time) : KernelClocks :=
  ⟨now, .ok (UInt64.ofNat timer.mtime), .ok (UInt64.ofNat (timer.jiffies / 256))⟩

def KernelTimer.left (timer : KernelTimer) (h : UInt16) (lifetime : UInt32) : ClockSource → ℚ
  | .jiffies => (256 * lifetime.toNat - timer.jiffies) / h.toNat * 1000000000
  | .ktime => lifetime.toNat * 1000000000 - timer.mtime
  | .other _ => 0

variable {h : UInt16} {timer : KernelTimer} {now : Time} {k : CtKey4Global} {val : CtEntry} {e : Entry}

end Lifetimes

end Egressd.Conntrack
