import Egressd.Netaddr
import Egressd.PartialRuns
import Mathlib.Data.Finset.Basic
import Mathlib.Tactic.Choose
import Mathlib.Tactic.Tauto

set_option autoImplicit false

/-!
# Conntrack entries and the netfilter client

`Con` is the part of a `go-conntrack` session that `ListEntries` reads. Every
field behind a pointer is an `Option`, and following an absent one panics.
-/
namespace Egressd.Conntrack
open PartialRuns

structure Entry where
  src : IPPort
  dst : IPPort
  txBytes : UInt64
  txPackets : UInt64
  rxBytes : UInt64
  rxPackets : UInt64
  lifetime : Time
  proto : UInt8
  deriving DecidableEq, Repr

inductive CounterField where
  | txBytes
  | txPackets
  | rxBytes
  | rxPackets
  deriving DecidableEq, Repr

def Entry.counter (e : Entry) : CounterField → UInt64
  | .txBytes => e.txBytes
  | .txPackets => e.txPackets
  | .rxBytes => e.rxBytes
  | .rxPackets => e.rxPackets

abbrev EntriesFilter := Entry → Bool

def filterBySrcIP (ips : Finset IP) : EntriesFilter := fun e => e.src.ip ∈ ips

structure ProtoTuple where
  number : Option UInt8
  srcPort : Option UInt16
  dstPort : Option UInt16

structure IPTuple where
  src : Option Bytes
  dst : Option Bytes
  proto : Option ProtoTuple

structure Counter where
  bytes : Option UInt64
  packets : Option UInt64

structure Con where
  origin : Option IPTuple
  reply : Option IPTuple
  counterOrigin : Option Counter
  counterReply : Option Counter
  timeout : Option UInt32

def ipFromStdIP (N : Netaddr) (ip : Bytes) : IP := (N.fromStdIP ip).1

def Con.skipped (sess : Con) : Bool :=
  sess.origin.all (fun t => t.src.isNone ||
    t.proto.all (fun p => p.srcPort.isNone || p.dstPort.isNone)) ||
  sess.reply.all (fun t => t.dst.isNone ||
    t.proto.all (fun p => p.srcPort.isNone || p.dstPort.isNone)) ||
  sess.counterOrigin.isNone || sess.counterReply.isNone

/-- The first entry of a session, its destination remapped to the reply's source. -/
def Con.entry (N : Netaddr) (now : Time) (sess : Con) : Except Panic Entry := do
  let origin ← deref sess.origin
  let originProto ← deref origin.proto
  let originCounter ← deref sess.counterOrigin
  let reply ← deref sess.reply
  let replyProto ← deref reply.proto
  let replyCounter ← deref sess.counterReply
  let entry : Entry :=
    { src := ⟨ipFromStdIP N (← deref origin.src), ← deref originProto.srcPort⟩
      dst := ⟨ipFromStdIP N (← deref origin.dst), ← deref originProto.dstPort⟩
      txBytes := ← deref originCounter.bytes
      txPackets := ← deref originCounter.packets
      rxBytes := ← deref replyCounter.bytes
      rxPackets := ← deref replyCounter.packets
      lifetime := 0
      proto := ← deref originProto.number }
  let entry := match sess.timeout with
    | some timeout => { entry with lifetime := now + second * timeout.toNat }
    | none => entry
  let replySrc : IPPort := ⟨ipFromStdIP N (← deref reply.src), ← deref replyProto.srcPort⟩
  -- Probably ClusterIP service, remap destination to actual pod IP.
  return if entry.dst ≠ replySrc then { entry with dst := replySrc } else entry

/-- The second record of a flow, seen from its other end. -/
def Entry.mirror (entry : Entry) : Entry :=
  { src := entry.dst
    dst := entry.src
    txBytes := entry.rxBytes
    txPackets := entry.rxPackets
    rxBytes := entry.txBytes
    rxPackets := entry.txPackets
    proto := entry.proto
    lifetime := entry.lifetime }

structure Listing where
  res : List Entry
  skippedEntriesCount : ℕ

def listSession (N : Netaddr) (now : Time) (filter : EntriesFilter) (acc : Listing) (sess : Con) :
    Except Panic Listing :=
  if sess.skipped then
    return { acc with skippedEntriesCount := acc.skippedEntriesCount + 1 }
  else do
    let entry ← sess.entry N now
    let res := if filter entry then acc.res ++ [entry] else acc.res
    let entry2 := entry.mirror
    let res := if filter entry2 then res ++ [entry2] else res
    return { acc with res := res }

def netfilterListEntries (N : Netaddr) (dump : Except Error (List Con)) (now : Time)
    (filter : EntriesFilter) : Except Panic (Except Error (List Entry)) :=
  match dump with
  | .error err => return .error ("dumping nfct sessions: " ++ err)
  | .ok sessions => do
    let listing ← sessions.foldlM (listSession N now filter) ⟨[], 0⟩
    return .ok listing.res

structure Tuple where
  src : Bytes
  dst : Bytes
  number : UInt8
  srcPort : UInt16
  dstPort : UInt16
  deriving DecidableEq, Repr

def Tuple.ipTuple (t : Tuple) : IPTuple :=
  ⟨some t.src, some t.dst, some ⟨some t.number, some t.srcPort, some t.dstPort⟩⟩

structure Session where
  origin : Tuple
  reply : Tuple
  originBytes : UInt64
  originPackets : UInt64
  replyBytes : UInt64
  replyPackets : UInt64
  timeout : UInt32
  deriving DecidableEq, Repr

def Session.con (s : Session) : Con :=
  ⟨some s.origin.ipTuple, some s.reply.ipTuple, some ⟨some s.originBytes, some s.originPackets⟩,
    some ⟨some s.replyBytes, some s.replyPackets⟩, some s.timeout⟩

def Session.entry (N : Netaddr) (now : Time) (s : Session) : Entry :=
  { src := ⟨ipFromStdIP N s.origin.src, s.origin.srcPort⟩
    dst := ⟨ipFromStdIP N s.reply.src, s.reply.srcPort⟩
    txBytes := s.originBytes
    txPackets := s.originPackets
    rxBytes := s.replyBytes
    rxPackets := s.replyPackets
    lifetime := now + second * s.timeout.toNat
    proto := s.origin.number }

def Session.entries (N : Netaddr) (now : Time) (filter : EntriesFilter) (s : Session) :
    List Entry :=
  [s.entry N now, (s.entry N now).mirror].filter filter

/-- A client's connection to a service, on which examples are evaluated. If two services are
    served by the same pod, the kernel keeps the replies apart by the client's port. -/
def sampleSession (txBytes : UInt64) (service : UInt8) (replyPort : UInt16) : Session where
  origin := ⟨[10, 0, 0, 1], [10, 96, 0, service], 6, 40000, 80⟩
  reply := ⟨[10, 0, 0, 2], [10, 0, 0, 1], 6, 80, replyPort⟩
  originBytes := txBytes
  originPackets := 0
  replyBytes := 0
  replyPackets := 0
  timeout := 0

def portSession (txBytes : UInt64) (port : UInt16) (timeout : UInt32) : Session :=
  { sampleSession txBytes 1 port with
    origin := ⟨[10, 0, 0, 1], [10, 96, 0, 1], 6, port, 80⟩
    timeout := timeout }

theorem Session.con_skipped (s : Session) : s.con.skipped = false := rfl

theorem Session.con_entry (N : Netaddr) (now : Time) (s : Session) :
    s.con.entry N now = .ok (s.entry N now) := by
  by_cases same : (⟨ipFromStdIP N s.origin.dst, s.origin.dstPort⟩ : IPPort) =
      ⟨ipFromStdIP N s.reply.src, s.reply.srcPort⟩
  · simp [Con.entry, Session.con, Tuple.ipTuple, deref, Session.entry, bind, Except.bind,
      pure, Except.pure, same]
  · simp [Con.entry, Session.con, Tuple.ipTuple, deref, Session.entry, bind, Except.bind,
      pure, Except.pure, same]

theorem listSession_skipped {N : Netaddr} {now : Time} {filter : EntriesFilter} {sess : Con}
    (skip : sess.skipped = true) (acc : Listing) : listSession N now filter acc sess =
      .ok { acc with skippedEntriesCount := acc.skippedEntriesCount + 1 } := by
  rw [listSession, if_pos skip]
  rfl

theorem listSession_entry {N : Netaddr} {now : Time} {filter : EntriesFilter} {sess : Con}
    {entry : Entry} (guard : sess.skipped = false) (built : sess.entry N now = .ok entry)
    (acc : Listing) : listSession N now filter acc sess =
      .ok { acc with res := acc.res ++ [entry, entry.mirror].filter filter } := by
  rw [listSession, guard, built]
  simp only [List.filter_cons, List.filter_nil]
  by_cases first : filter entry <;> by_cases second : filter entry.mirror <;>
    simp [first, second, bind, Except.bind, pure, Except.pure]

theorem foldlM_listSession {α : Type} {N : Netaddr} {now : Time} {con : α → Con}
    {entryOf : α → Entry} {sessions : List α} (filter : EntriesFilter)
    (built : ∀ a ∈ sessions, (con a).skipped = false → (con a).entry N now = .ok (entryOf a))
    (acc : Listing) : (sessions.map con).foldlM (listSession N now filter) acc =
      .ok ⟨acc.res ++ (sessions.filter (fun a => !(con a).skipped)).flatMap
          (fun a => [entryOf a, (entryOf a).mirror].filter filter),
        acc.skippedEntriesCount + sessions.countP (fun a => (con a).skipped)⟩ := by
  induction sessions generalizing acc with
  | nil => simp [pure, Except.pure]
  | cons a sessions ih =>
    rw [List.forall_mem_cons] at built
    rw [List.map_cons, List.foldlM_cons, List.filter_cons, List.countP_cons]
    cases guard : (con a).skipped with
    | true =>
      rw [listSession_skipped guard]
      change (sessions.map con).foldlM (listSession N now filter) _ = _
      rw [ih built.2, if_neg (by simp), if_pos rfl, Nat.add_assoc, Nat.add_comm 1]
    | false =>
      rw [listSession_entry guard (built.1 guard)]
      change (sessions.map con).foldlM (listSession N now filter) _ = _
      rw [ih built.2, if_pos (by simp), if_neg (by simp), Nat.add_zero, List.flatMap_cons,
        List.append_assoc]

theorem netfilterListEntries_ok {N : Netaddr} {now : Time} {filter : EntriesFilter}
    {sessions : List Con} {listing : Listing}
    (loop : sessions.foldlM (listSession N now filter) ⟨[], 0⟩ = .ok listing) :
    netfilterListEntries N (.ok sessions) now filter = .ok (.ok listing.res) := by
  rw [netfilterListEntries]
  simp only [loop, bind, Except.bind, pure, Except.pure]

theorem netfilterListEntries_complete (N : Netaddr) (sessions : List Session) (now : Time)
    (filter : EntriesFilter) :
    netfilterListEntries N (.ok (sessions.map Session.con)) now filter =
      .ok (.ok (sessions.flatMap (Session.entries N now filter))) := by
  have built : ∀ s ∈ sessions, s.con.skipped = false → s.con.entry N now = .ok (s.entry N now) :=
    fun s _ _ => s.con_entry N now
  have loop := foldlM_listSession filter built ⟨[], 0⟩
  have all : sessions.filter (fun s => !s.con.skipped) = sessions := by
    rw [List.filter_eq_self]
    intro s _
    rw [s.con_skipped]
    rfl
  rw [netfilterListEntries_ok loop, all, List.nil_append]
  rfl

theorem exists_deref_bind {α β : Type} {x : Option α} {f : α → Except Panic β} :
    (∃ b, (deref x >>= f) = .ok b) ↔ ∃ a, x = some a ∧ ∃ b, f a = .ok b := by
  cases x with
  | none => simp [deref, bind, Except.bind]
  | some a => simp [deref, bind, Except.bind]

/-- The fields that `ListEntries` follows although its guard does not look at them: the
    origin's destination and protocol number, the reply's source and the four counters. -/
def Con.uncheckedPresent (sess : Con) : Bool :=
  sess.origin.any (fun t => t.dst.isSome && t.proto.any (fun p => p.number.isSome)) &&
  sess.reply.any (fun t => t.src.isSome) &&
  sess.counterOrigin.any (fun k => k.bytes.isSome && k.packets.isSome) &&
  sess.counterReply.any (fun k => k.bytes.isSome && k.packets.isSome)

theorem Con.exists_entry_iff (N : Netaddr) (now : Time) {sess : Con}
    (guard : sess.skipped = false) :
    (∃ entry, sess.entry N now = .ok entry) ↔ sess.uncheckedPresent = true := by
  simp only [Con.skipped, Bool.or_eq_false_iff, Option.all_eq_false, Option.isNone_eq_false_iff,
    Option.isSome_iff_exists] at guard
  obtain ⟨⟨⟨⟨origin, ho, ⟨src, hs⟩, op, hop, ⟨osp, hosp⟩, odp, hodp⟩,
    reply, hr, -, rp, hrp, ⟨rsp, hrsp⟩, -⟩, co, hco⟩, cr, hcr⟩ := guard
  -- Every dereference of a checked field succeeds; those that are left are the unchecked ones.
  simp only [Con.entry, exists_deref_bind, ho, hs, hop, hosp, hodp, hr, hrp, hrsp, hco, hcr,
    Option.some.injEq, exists_eq_left', pure, Except.pure, Except.ok.injEq, exists_eq',
    and_true, exists_and_right]
  simp only [Con.uncheckedPresent, ho, hr, hop, hco, hcr, Option.any_some, Bool.and_eq_true,
    Option.isSome_iff_exists]
  tauto

/-- Listing a dump follows no absent field, so that each session is counted as skipped or turned
    into its two entries, exactly if every session that the guard lets through has the fields
    that the guard does not look at. -/
theorem netfilterListEntries_total_iff (N : Netaddr) (sessions : List Con) (now : Time)
    (filter : EntriesFilter) :
    (∃ (entryOf : Con → Entry) (listing : Listing),
      (∀ sess ∈ sessions, sess.skipped = false → sess.entry N now = .ok (entryOf sess)) ∧
      sessions.foldlM (listSession N now filter) ⟨[], 0⟩ = .ok listing ∧
      listing.skippedEntriesCount = sessions.countP Con.skipped ∧
      listing.res = (sessions.filter (fun sess => !sess.skipped)).flatMap
        (fun sess => [entryOf sess, (entryOf sess).mirror].filter filter) ∧
      netfilterListEntries N (.ok sessions) now filter = .ok (.ok listing.res)) ↔
    ∀ sess ∈ sessions, sess.skipped = true ∨ sess.uncheckedPresent = true := by
  constructor
  · rintro ⟨entryOf, listing, built, -⟩ sess mem
    cases guard : sess.skipped with
    | true => exact .inl rfl
    | false => exact .inr ((sess.exists_entry_iff N now guard).mp ⟨_, built sess mem guard⟩)
  · intro present
    have exists_entry : ∀ sess ∈ sessions, sess.skipped = false →
        ∃ entry, sess.entry N now = .ok entry := by
      intro sess mem guard
      have unchecked := (present sess mem).resolve_left (by rw [guard]; exact Bool.false_ne_true)
      exact (sess.exists_entry_iff N now guard).mpr unchecked
    have : Nonempty Entry := ⟨(sampleSession 0 0 0).entry N now⟩
    choose! entryOf built using exists_entry
    have loop := foldlM_listSession filter built ⟨[], 0⟩
    rw [List.map_id'] at loop
    exact ⟨entryOf, _, built, loop, Nat.zero_add _, rfl, netfilterListEntries_ok loop⟩

def missingDst : Con :=
  { (sampleSession 0 1 40000).con with origin := some ⟨some [10, 0, 0, 1], none,
      some ⟨some 6, some 40000, some 80⟩⟩ }

theorem netfilterListEntries_panics_on_missing_dst :
    missingDst.skipped = false ∧ missingDst.uncheckedPresent = false ∧
    netfilterListEntries Netaddr.documented (.ok [missingDst]) 0 (fun _ => true) =
      .error .nilDereference :=
  ⟨rfl, rfl, rfl⟩

end Egressd.Conntrack
