import Egressd.GoRuntime
import Mathlib.Data.FinEnum
import Mathlib.Data.Fintype.Sigma
import Mathlib.Tactic.DeriveFintype

set_option autoImplicit false

/-!
# Addresses

`IP` has the values of `netaddr.IP`. The functions of the package are not part
of the repository; `Netaddr` lists those that egressd calls together with the
behaviour their documentation promises.
-/
namespace Egressd

structure IPv4 where
  a : UInt8
  b : UInt8
  c : UInt8
  d : UInt8
  deriving DecidableEq, Repr, Fintype

def IPv4.bytes (x : IPv4) : Bytes := [x.a, x.b, x.c, x.d]

def IPv4.unspecified : IPv4 := ⟨0, 0, 0, 0⟩

inductive IP where
  | zero
  | v4 (x : IPv4)
  | v6 (bytes : Vector UInt8 16) (zone : String)
  deriving DecidableEq, Repr

structure IPPort where
  ip : IP
  port : UInt16
  deriving DecidableEq, Repr

/-- The IPv4 address inside an IPv4-mapped IPv6 address. -/
def mappedIPv4 (v : Vector UInt8 16) : Option IPv4 :=
  if v.toList.take 12 = [0, 0, 0, 0, 0, 0, 0, 0, 0, 0, 255, 255] then
    some ⟨v[12], v[13], v[14], v[15]⟩
  else none

section DottedQuads

def dotted (x : IPv4) : String :=
  toString x.a.toNat ++ "." ++ toString x.b.toNat ++ "." ++ toString x.c.toNat ++ "." ++
    toString x.d.toNat

def digits (b : UInt8) : List Char := Nat.toDigits 10 b.toNat

def octet (cs : List Char) : UInt8 := UInt8.ofNat (Nat.ofDigitChars 10 cs 0)

theorem octet_digits (b : UInt8) : octet (digits b) = b := by
  rw [octet, digits, Nat.ofDigitChars_toDigits (by decide) (by decide), UInt8.ofNat_toNat]

theorem dot_notMem_digits (b : UInt8) : '.' ∉ digits b := by
  intro mem
  have digit := Nat.isDigit_of_mem_toDigits (by decide) (by decide) mem
  exact absurd digit (by decide)

theorem toList_dotted (x : IPv4) : (dotted x).toList =
    ['.'].intercalate [digits x.a, digits x.b, digits x.c, digits x.d] := by
  unfold dotted digits
  simp only [String.toList_append, Nat.toString_eq_repr, Nat.toList_repr, List.intercalate,
    List.intersperse, List.flatten_cons, List.flatten_nil, List.append_nil, List.append_assoc]
  rfl

theorem splitOn_dotted (x : IPv4) :
    (dotted x).toList.splitOn '.' = [digits x.a, digits x.b, digits x.c, digits x.d] := by
  rw [toList_dotted]
  refine List.splitOn_intercalate '.' ?_ (List.cons_ne_nil _ _)
  intro part mem
  simp only [List.mem_cons, List.not_mem_nil, or_false] at mem
  rcases mem with rfl | rfl | rfl | rfl <;> exact dot_notMem_digits _

def parseDotted (s : String) : Option IPv4 :=
  match s.toList.splitOn '.' with
  | [a, b, c, d] =>
    let x : IPv4 := ⟨octet a, octet b, octet c, octet d⟩
    if dotted x = s then some x else none
  | _ => none

theorem parseDotted_dotted (x : IPv4) : parseDotted (dotted x) = some x := by
  unfold parseDotted
  rw [splitOn_dotted]
  simp only [octet_digits, if_true]

theorem dotted_injective : Function.Injective dotted := by
  intro x y same
  have parsed := parseDotted_dotted x
  rw [same, parseDotted_dotted, Option.some.injEq] at parsed
  exact parsed.symm

end DottedQuads

structure Netaddr where
  fromStdIP : Bytes → IP × Bool
  as4 : IP → Except Panic IPv4
  isPrivate : IP → Bool
  isLoopback : IP → Bool
  isMulticast : IP → Bool
  isLinkLocalUnicast : IP → Bool
  isLinkLocalMulticast : IP → Bool
  isInterfaceLocalMulticast : IP → Bool
  parseIP : String → IP
  string : IP → String
  fromStdIP_four : ∀ a b c d, fromStdIP [a, b, c, d] = (.v4 ⟨a, b, c, d⟩, true)
  fromStdIP_sixteen : ∀ v : Vector UInt8 16, fromStdIP v.toList =
    (match mappedIPv4 v with | some x => .v4 x | none => .v6 v "", true)
  fromStdIP_other : ∀ b : Bytes, b.length ≠ 4 → b.length ≠ 16 → fromStdIP b = (.zero, false)
  as4_v4 : ∀ x, as4 (.v4 x) = .ok x
  as4_zero : as4 .zero = .error .as4ZeroValue
  as4_v6 : ∀ v zone, as4 (.v6 v zone) =
    match mappedIPv4 v with | some x => .ok x | none => .error .as4IPv6
  isPrivate_v4 : ∀ x, isPrivate (.v4 x) =
    (x.a == 10 || x.a == 172 && 16 ≤ x.b && x.b ≤ 31 || x.a == 192 && x.b == 168)
  isLoopback_v4 : ∀ x, isLoopback (.v4 x) = (x.a == 127)
  isMulticast_v4 : ∀ x, isMulticast (.v4 x) = (224 ≤ x.a && x.a ≤ 239)
  isLinkLocalUnicast_v4 : ∀ x, isLinkLocalUnicast (.v4 x) = (x.a == 169 && x.b == 254)
  isLinkLocalMulticast_v4 : ∀ x, isLinkLocalMulticast (.v4 x) =
    (x.a == 224 && x.b == 0 && x.c == 0)
  isInterfaceLocalMulticast_v4 : ∀ x, isInterfaceLocalMulticast (.v4 x) = false
  parseIP_dotted : ∀ x, parseIP (dotted x) = .v4 x
  string_v4 : ∀ x, string (.v4 x) = dotted x

/-- The IPv4 address that a `net.IP` holds in its short or its long form. -/
def stdIPv4 (b : Bytes) : Option IPv4 :=
  match b with
  | [a, b, c, d] => some ⟨a, b, c, d⟩
  | b => if h : b.length = 16 then mappedIPv4 ⟨b.toArray, by simp [h]⟩ else none

/-- `dns.ToIPint32`. -/
def toIPint32 (N : Netaddr) (ip : IP) : Except Panic Int32 := do
  let b ← N.as4 ip
  return (bigEndianUint32 b.a b.b b.c b.d).toInt32

def IPv4.int32 (x : IPv4) : Int32 := (bigEndianUint32 x.a x.b x.c x.d).toInt32

theorem IPv4.bytes_injective : Function.Injective IPv4.bytes := by
  rintro ⟨a, b, c, d⟩ ⟨a', b', c', d'⟩ h
  simpa only [IPv4.bytes, List.cons.injEq, and_true, IPv4.mk.injEq] using h

theorem IPv4.int32_injective : Function.Injective IPv4.int32 := by
  rintro ⟨a, b, c, d⟩ ⟨a', b', c', d'⟩ h
  have hn := congrArg (fun i : Int32 => i.toUInt32.toNat) h
  simp only [IPv4.int32, UInt32.toUInt32_toInt32, bigEndianUint32_toNat] at hn
  have bounds := And.intro a.toNat_lt (And.intro b.toNat_lt (And.intro c.toNat_lt d.toNat_lt))
  have bounds' := And.intro a'.toNat_lt (And.intro b'.toNat_lt (And.intro c'.toNat_lt d'.toNat_lt))
  rw [IPv4.mk.injEq, ← UInt8.toNat_inj, ← UInt8.toNat_inj, ← UInt8.toNat_inj, ← UInt8.toNat_inj]
  omega

theorem toIPint32_of_as4 {N : Netaddr} {ip : IP} {x : IPv4} (h : N.as4 ip = .ok x) :
    toIPint32 N ip = .ok x.int32 := by
  rw [toIPint32, h]
  rfl

theorem fromStdIP_of_stdIPv4 (N : Netaddr) {b : Bytes} {x : IPv4} (h : stdIPv4 b = some x) :
    (N.fromStdIP b).1 = .v4 x := by
  unfold stdIPv4 at h
  split at h
  · cases h
    rw [N.fromStdIP_four]
  · split at h
    · rename_i len
      have long := N.fromStdIP_sixteen ⟨b.toArray, by simp [len]⟩
      rw [h] at long
      simpa using congrArg Prod.fst long
    · cases h

theorem as4_fromStdIP_of_none (N : Netaddr) {b : Bytes} (h : stdIPv4 b = none) :
    ∃ p, N.as4 (N.fromStdIP b).1 = .error p := by
  unfold stdIPv4 at h
  split at h
  · cases h
  · rename_i short
    split at h
    · rename_i len
      have long := N.fromStdIP_sixteen ⟨b.toArray, by simp [len]⟩
      rw [h] at long
      have eq : (N.fromStdIP b).1 = .v6 ⟨b.toArray, by simp [len]⟩ "" := by
        simpa using congrArg Prod.fst long
      exact ⟨.as4IPv6, by rw [eq, N.as4_v6, h]⟩
    · rename_i len
      have four : b.length ≠ 4 := by
        intro h4
        obtain ⟨a, b, c, d, rfl⟩ := List.length_eq_four.mp h4
        exact short a b c d rfl
      exact ⟨.as4ZeroValue, by rw [N.fromStdIP_other b four len, N.as4_zero]⟩

theorem as4_fromStdIP (N : Netaddr) {b : Bytes} {x : IPv4}
    (h : N.as4 (N.fromStdIP b).1 = .ok x) : (N.fromStdIP b).1 = .v4 x := by
  cases hs : stdIPv4 b with
  | none =>
    obtain ⟨p, hp⟩ := as4_fromStdIP_of_none N hs
    rw [hp] at h
    cases h
  | some y =>
    have eq := fromStdIP_of_stdIPv4 N hs
    rw [eq, N.as4_v4] at h
    cases h
    exact eq

/-- The package as documented, on which examples can be evaluated. -/
def Netaddr.documented : Netaddr where
  fromStdIP b :=
    match stdIPv4 b with
    | some x => (.v4 x, true)
    | none => if h : b.length = 16 then (.v6 ⟨b.toArray, by simp [h]⟩ "", true) else (.zero, false)
  as4
    | .zero => .error .as4ZeroValue
    | .v4 x => .ok x
    | .v6 v _ => match mappedIPv4 v with | some x => .ok x | none => .error .as4IPv6
  isPrivate
    | .v4 x => x.a == 10 || x.a == 172 && 16 ≤ x.b && x.b ≤ 31 || x.a == 192 && x.b == 168
    | .v6 v _ => v[0] &&& 0xfe == 0xfc
    | .zero => false
  isLoopback
    | .v4 x => x.a == 127
    | .v6 v _ => v.toList == [0, 0, 0, 0, 0, 0, 0, 0, 0, 0, 0, 0, 0, 0, 0, 1]
    | .zero => false
  isMulticast
    | .v4 x => 224 ≤ x.a && x.a ≤ 239
    | .v6 v _ => v[0] == 0xff
    | .zero => false
  isLinkLocalUnicast
    | .v4 x => x.a == 169 && x.b == 254
    | .v6 v _ => v[0] == 0xfe && v[1] &&& 0xc0 == 0x80
    | .zero => false
  isLinkLocalMulticast
    | .v4 x => x.a == 224 && x.b == 0 && x.c == 0
    | .v6 v _ => v[0] == 0xff && v[1] &&& 0x0f == 0x02
    | .zero => false
  isInterfaceLocalMulticast
    | .v6 v _ => v[0] == 0xff && v[1] &&& 0x0f == 0x01
    | _ => false
  parseIP s := match parseDotted s with | some x => .v4 x | none => .zero
  string
    | .v4 x => dotted x
    | .v6 _ _ => "invalid IP"
    | .zero => "zero IP"
  fromStdIP_four _ _ _ _ := rfl
  fromStdIP_sixteen v := by
    have short : stdIPv4 v.toList = mappedIPv4 v := by
      unfold stdIPv4
      split
      · rename_i a b c d eq
        have len := congrArg List.length eq
        simp at len
      · simp [Vector.toList]
    rw [short]
    cases mappedIPv4 v <;> simp [Vector.toList]
  fromStdIP_other b h4 h16 := by
    have short : stdIPv4 b = none := by
      unfold stdIPv4
      split
      · exact absurd rfl h4
      · rw [dif_neg h16]
    rw [short]
    simp [h16]
  as4_v4 _ := rfl
  as4_zero := rfl
  as4_v6 _ _ := rfl
  isPrivate_v4 _ := rfl
  isLoopback_v4 _ := rfl
  isMulticast_v4 _ := rfl
  isLinkLocalUnicast_v4 _ := rfl
  isLinkLocalMulticast_v4 _ := rfl
  isInterfaceLocalMulticast_v4 _ := rfl
  parseIP_dotted x := by rw [parseDotted_dotted]
  string_v4 _ := rfl

theorem string_parseIP_dotted (N : Netaddr) (x : IPv4) :
    N.string (N.parseIP (dotted x)) = dotted x := by
  rw [N.parseIP_dotted, N.string_v4]

end Egressd
