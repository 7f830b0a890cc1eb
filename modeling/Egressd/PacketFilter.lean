import Egressd.GoRuntime

set_option autoImplicit false

/-!
# The packet filter

`cgroup_skb_generic` copies the headers of a packet into the struct `nethdrs`
and emits an event for a DNS packet. The struct is a function of the byte's
offset: the IP headers start at 0, the protocol headers at 40.
-/
namespace Egressd.PacketFilter

abbrev Nethdrs := ℕ → UInt8

def iphdrSize : ℕ := 20

def udphdrSize : ℕ := 8

/-- The offset of `protohdrs`, after the larger one of the two IP headers. -/
def protohdrs : ℕ := 40

/-- The helper `bpf_skb_load_bytes_relative` from the start of the network header. What a failed
    load leaves in the struct is not specified. -/
structure LoadBytes where
  load : (packet : Bytes) → (offset : ℕ) → Nethdrs → (dest size : ℕ) → Bool × Nethdrs
  fails_iff : ∀ packet offset hdrs dest size,
    (load packet offset hdrs dest size).1 = true ↔ packet.length < offset + size
  copies : ∀ packet offset hdrs dest size, offset + size ≤ packet.length →
    (load packet offset hdrs dest size).2 =
      fun i => if dest ≤ i ∧ i < dest + size then packet.getD (offset + (i - dest)) 0 else hdrs i

def LoadBytes.kernel : LoadBytes where
  load packet offset hdrs dest size :=
    if packet.length < offset + size then
      (true, fun i => if dest ≤ i ∧ i < dest + size then 0 else hdrs i)
    else (false, fun i =>
      if dest ≤ i ∧ i < dest + size then packet.getD (offset + (i - dest)) 0 else hdrs i)
  fails_iff packet offset hdrs dest size := by
    split
    · exact iff_of_true rfl ‹_›
    · exact iff_of_false Bool.false_ne_true ‹_›
  copies packet offset hdrs dest size inside := by rw [if_neg (not_lt.mpr inside)]

structure SkBuff where
  family : UInt32
  sk : Bool
  fullsock : Bool
  len : UInt32
  packet : Bytes

structure NetEvent where
  flags : UInt64
  bytes : UInt32
  deriving DecidableEq, Repr

def pfInet : UInt32 := 2

def ipprotoUDP : UInt8 := 17

def udpPortDNS : UInt16 := 53

def version (hdrs : Nethdrs) : UInt8 := hdrs 0 >>> 4

def ihl (hdrs : Nethdrs) : ℕ := (hdrs 0 &&& 0xf).toNat

def protocol (hdrs : Nethdrs) : UInt8 := hdrs 9

def ntohs (high low : UInt8) : UInt16 := UInt16.ofNat (high.toNat * 256 + low.toNat)

def netEvent (ctx : SkBuff) : NetEvent where
  flags := (0xffffffff : UInt64) ||| (ctx.len.toUInt64 <<< 32)
  bytes := ctx.len

variable (L : LoadBytes)

/-- The IP header and its size, read again if it has options. The result of the second load is
    not looked at. -/
def reread (packet : Bytes) (hdrs : Nethdrs) : Nethdrs × ℕ :=
  if ihl hdrs > 5 then
    let size := iphdrSize - iphdrSize + ihl hdrs * 4
    ((L.load packet 0 hdrs 0 size).2, size)
  else (hdrs, iphdrSize)

/-- The rest of `cgroup_skb_generic` once the IP header and its size are known. -/
def filterUDP (ctx : SkBuff) (ip : Nethdrs × ℕ) : UInt32 × Option NetEvent :=
  if protocol ip.1 ≠ ipprotoUDP then (1, none)
  else
    let prevHdrSize := ip.2
    -- Load L4 headers.
    let l4 := L.load ctx.packet prevHdrSize ip.1 protohdrs udphdrSize
    if l4.1 then (1, none)
    else
      let srcPort := ntohs (l4.2 protohdrs) (l4.2 (protohdrs + 1))
      let dstPort := ntohs (l4.2 (protohdrs + 2)) (l4.2 (protohdrs + 3))
      if (if srcPort < dstPort then srcPort else dstPort) = udpPortDNS then
        (1, some (netEvent ctx))
      else (1, none)

def cgroupSkbGeneric (ctx : SkBuff) : UInt32 × Option NetEvent :=
  if ctx.family ≠ pfInet then (1, none)
  else if !ctx.sk then (1, none)
  else if !ctx.fullsock then (1, none)
  else
    -- Load L3 protocol headers.
    let l3 := L.load ctx.packet 0 (fun _ => 0) 0 iphdrSize
    if l3.1 then (1, none)
    else if version l3.2 ≠ 4 then (1, none)
    else filterUDP L ctx (reread L ctx.packet l3.2)

def header (packet : Bytes) : Nethdrs := fun i => packet.getD i 0

def headerSize (packet : Bytes) : ℕ := 4 * ihl (header packet)

def srcPort (packet : Bytes) : UInt16 :=
  ntohs (header packet (headerSize packet)) (header packet (headerSize packet + 1))

def dstPort (packet : Bytes) : UInt16 :=
  ntohs (header packet (headerSize packet + 2)) (header packet (headerSize packet + 3))

structure HasUDPHeader (packet : Bytes) : Prop where
  protocol : protocol (header packet) = ipprotoUDP
  inside : headerSize packet + udphdrSize ≤ packet.length

structure Delivered (ctx : SkBuff) : Prop where
  family : ctx.family = pfInet
  sk : ctx.sk = true
  fullsock : ctx.fullsock = true
  version : version (header ctx.packet) = 4
  ihl : 5 ≤ ihl (header ctx.packet)

section Loads

variable {L : LoadBytes} {packet : Bytes} {offset dest size : ℕ} {hdrs : Nethdrs}

theorem load_fails (short : packet.length < offset + size) :
    (L.load packet offset hdrs dest size).1 = true :=
  (L.fails_iff ..).mpr short

theorem LoadBytes.load_inside (L : LoadBytes) (hdrs : Nethdrs) (dest : ℕ)
    (inside : offset + size ≤ packet.length) :
    ∃ hdrs', L.load packet offset hdrs dest size = (false, hdrs') ∧
      ∀ i < size, hdrs' (dest + i) = header packet (offset + i) := by
  have done : (L.load packet offset hdrs dest size).1 = false := by
    rw [← Bool.not_eq_true, L.fails_iff]
    exact not_lt.mpr inside
  refine ⟨(L.load packet offset hdrs dest size).2, Prod.ext done rfl, fun i lt => ?_⟩
  rw [L.copies packet offset hdrs dest size inside]
  simp only [Nat.le_add_right, Nat.add_lt_add_iff_left, lt, and_self, if_true,
    Nat.add_sub_cancel_left, header]

theorem reread_spec (L : LoadBytes) (read : ∀ i < iphdrSize, hdrs i = header packet i)
    (five : 5 ≤ ihl (header packet)) :
    (reread L packet hdrs).2 = headerSize packet ∧
      (headerSize packet ≤ packet.length → (reread L packet hdrs).1 9 = header packet 9) := by
  have same : ihl hdrs = ihl (header packet) := by
    unfold ihl
    rw [read 0 (by decide)]
  unfold reread headerSize
  rw [same]
  split
  · constructor
    · simp only
      omega
    · intro inside
      have range : 0 + (iphdrSize - iphdrSize + ihl (header packet) * 4) ≤ packet.length := by omega
      obtain ⟨hdrs', load, again⟩ := L.load_inside hdrs 0 range
      simp only [load]
      have byte := again 9 (by omega)
      simpa only [Nat.zero_add] using byte
  · constructor
    · simp only [iphdrSize]
      omega
    · exact fun _ => read 9 (by decide)

end Loads

section Filter

variable {L : LoadBytes} {ctx : SkBuff}

theorem fst_filterUDP (ip : Nethdrs × ℕ) : (filterUDP L ctx ip).1 = 1 := by
  unfold filterUDP
  dsimp only
  split_ifs <;> rfl

theorem fst_cgroupSkbGeneric (L : LoadBytes) (ctx : SkBuff) : (cgroupSkbGeneric L ctx).1 = 1 := by
  unfold cgroupSkbGeneric
  dsimp only
  split_ifs
  all_goals first | rfl | exact fst_filterUDP _

def lowerPort (packet : Bytes) : UInt16 :=
  if srcPort packet < dstPort packet then srcPort packet else dstPort packet

theorem filterUDP_iff {ip : Nethdrs × ℕ} (size : ip.2 = headerSize ctx.packet)
    (proto : headerSize ctx.packet ≤ ctx.packet.length → ip.1 9 = header ctx.packet 9) :
    (filterUDP L ctx ip).2.isSome = true ↔
      HasUDPHeader ctx.packet ∧ lowerPort ctx.packet = udpPortDNS := by
  unfold filterUDP
  dsimp only
  rw [size]
  by_cases inside : headerSize ctx.packet + udphdrSize ≤ ctx.packet.length
  · have same : protocol ip.1 = protocol (header ctx.packet) := proto (by omega)
    obtain ⟨hdrs, load, read⟩ := L.load_inside ip.1 protohdrs inside
    rw [same, load]
    by_cases udp : protocol (header ctx.packet) = ipprotoUDP
    · have source : ntohs (hdrs protohdrs) (hdrs (protohdrs + 1)) = srcPort ctx.packet := by
        rw [srcPort, ← read 1 (by decide)]
        exact congrArg (ntohs · _) (read 0 (by decide))
      have dest : ntohs (hdrs (protohdrs + 2)) (hdrs (protohdrs + 3)) = dstPort ctx.packet := by
        rw [dstPort, ← read 2 (by decide), ← read 3 (by decide)]
      have lower : (if srcPort ctx.packet < dstPort ctx.packet then srcPort ctx.packet
        else dstPort ctx.packet) = lowerPort ctx.packet := rfl
      rw [if_neg (not_not.mpr udp), if_neg Bool.false_ne_true, source, dest, lower,
        and_iff_right ⟨udp, inside⟩]
      by_cases dns : lowerPort ctx.packet = udpPortDNS
      · rw [if_pos dns]
        exact iff_of_true rfl dns
      · rw [if_neg dns]
        exact iff_of_false Bool.false_ne_true dns
    · rw [if_pos udp]
      exact iff_of_false Bool.false_ne_true (fun both => udp both.1.protocol)
  · rw [load_fails (not_le.mp inside), if_pos rfl, ite_self]
    exact iff_of_false Bool.false_ne_true (fun both => inside both.1.inside)

theorem snd_cgroupSkbGeneric (delivered : Delivered ctx) :
    (cgroupSkbGeneric L ctx).2.isSome = true ↔
      HasUDPHeader ctx.packet ∧ lowerPort ctx.packet = udpPortDNS := by
  unfold cgroupSkbGeneric
  dsimp only
  rw [if_neg (not_not.mpr delivered.family), delivered.sk, delivered.fullsock,
    if_neg (by decide), if_neg (by decide)]
  by_cases inside : 0 + iphdrSize ≤ ctx.packet.length
  · obtain ⟨hdrs, load, read⟩ := L.load_inside (fun _ => 0) 0 inside
    simp only [Nat.zero_add] at read
    have first : version hdrs = version (header ctx.packet) := by
      unfold version
      rw [read 0 (by decide)]
    rw [load, if_neg Bool.false_ne_true, first, if_neg (not_not.mpr delivered.version)]
    obtain ⟨size, proto⟩ := reread_spec L read delivered.ihl
    exact filterUDP_iff size proto
  · rw [load_fails (not_le.mp inside), if_pos rfl]
    refine iff_of_false Bool.false_ne_true (fun both => inside ?_)
    have five := delivered.ihl
    have whole := both.1.inside
    unfold headerSize at whole
    unfold iphdrSize
    omega

theorem lowerPort_eq_iff (packet : Bytes) : lowerPort packet = udpPortDNS ↔
    (srcPort packet = udpPortDNS ∨ dstPort packet = udpPortDNS) ∧
      ¬ (srcPort packet = udpPortDNS ∧ dstPort packet < udpPortDNS) ∧
      ¬ (dstPort packet = udpPortDNS ∧ srcPort packet < udpPortDNS) := by
  unfold lowerPort
  simp only [UInt16.lt_iff_toNat_lt, ← UInt16.toNat_inj]
  split <;> omega

/-- Every packet is let through, and of the IPv4 packets on full sockets exactly those cause an
    event that have a UDP header with the port of DNS. -/
structure SeesDNS (L : LoadBytes) (ctx : SkBuff) : Prop where
  letThrough : (cgroupSkbGeneric L ctx).1 = 1
  event : Delivered ctx → ((cgroupSkbGeneric L ctx).2.isSome = true ↔ HasUDPHeader ctx.packet ∧
    (srcPort ctx.packet = udpPortDNS ∨ dstPort ctx.packet = udpPortDNS))

/-- The filter misses exactly the packets with a port below that of DNS at the other end. -/
theorem sees_dns_iff (L : LoadBytes) (ctx : SkBuff) : SeesDNS L ctx ↔
    (Delivered ctx → HasUDPHeader ctx.packet →
      ¬ (srcPort ctx.packet = udpPortDNS ∧ dstPort ctx.packet < udpPortDNS) ∧
      ¬ (dstPort ctx.packet = udpPortDNS ∧ srcPort ctx.packet < udpPortDNS)) := by
  constructor
  · intro sees delivered udp
    have event := sees.event delivered
    rw [snd_cgroupSkbGeneric delivered, and_iff_right udp, and_iff_right udp,
      lowerPort_eq_iff] at event
    exact ⟨fun low => (event.mpr (.inl low.1)).2.1 low, fun low => (event.mpr (.inr low.1)).2.2 low⟩
  · intro ports
    refine ⟨fst_cgroupSkbGeneric L ctx, fun delivered => ?_⟩
    rw [snd_cgroupSkbGeneric delivered, lowerPort_eq_iff]
    exact and_congr_right fun udp => and_iff_left (ports delivered udp)

end Filter

def udpPacket (src dst : UInt8) : Bytes :=
  [0x45, 0, 0, 28, 0, 0, 0, 0, 64, 17, 0, 0, 10, 0, 0, 1, 10, 0, 0, 2, 0, src, 0, dst, 0, 8, 0, 0]

def udpBuff (src dst : UInt8) : SkBuff := ⟨pfInet, true, true, 28, udpPacket src dst⟩

example : cgroupSkbGeneric .kernel (udpBuff 53 200) = (1, some (netEvent (udpBuff 53 200))) := by
  decide +kernel

theorem dns_packet_to_low_port_missed :
    Delivered (udpBuff 53 20) ∧ HasUDPHeader (udpPacket 53 20) ∧
    srcPort (udpPacket 53 20) = udpPortDNS ∧
    cgroupSkbGeneric .kernel (udpBuff 53 20) = (1, none) :=
  ⟨⟨rfl, rfl, rfl, by decide +kernel, by decide +kernel⟩, ⟨by decide +kernel, by decide +kernel⟩,
    by decide +kernel, by decide +kernel⟩

end Egressd.PacketFilter
