import Egressd.FiniteMap
import Egressd.CiliumConntrack

set_option autoImplicit false

/-!
# The collector

`Collector` is the mutable part of the Go struct. The configuration does not
change after `New` and is passed beside it. Both maps are keyed by 64-bit hash
values; `MapHash` is a hash that is collision-free on its input bytes, with `κ`
in the place of `uint64`, into which no function on 9 or 13 bytes is injective.
-/
namespace Egressd.CollectorModel
open Conntrack

structure Config where
  groupPublicIPs : Bool
  sendTrafficDelta : Bool
  deriving DecidableEq, Repr

structure PbRawNetworkMetric where
  srcIp : Int32
  dstIp : Int32
  txBytes : Int64
  txPackets : Int64
  rxBytes : Int64
  rxPackets : Int64
  proto : Int32
  deriving DecidableEq, Repr

structure RawNetworkMetric extends PbRawNetworkMetric where
  lifetime : Time
  deriving DecidableEq, Repr

def PbRawNetworkMetric.counter (m : PbRawNetworkMetric) : CounterField → Int64
  | .txBytes => m.txBytes
  | .txPackets => m.txPackets
  | .rxBytes => m.rxBytes
  | .rxPackets => m.rxPackets

/-- A `maphash.Hash` with its seed: the sum of the bytes written since the last reset. -/
structure MapHash (κ : Type) where
  sum64 : Bytes → κ
  collisionFree : Function.Injective sum64

structure Packages (κ : Type) where
  netaddr : Netaddr
  entryGroupHash : MapHash κ
  conntrackEntryHash : MapHash κ

def Packages.documented : Packages Bytes where
  netaddr := .documented
  entryGroupHash := ⟨id, Function.injective_id⟩
  conntrackEntryHash := ⟨id, Function.injective_id⟩

structure Collector (κ : Type) where
  entriesCache : Finmap (fun _ : κ => Entry)
  podMetrics : Finmap (fun _ : κ => RawNetworkMetric)
  firstCollectDone : Bool

def Collector.empty (κ : Type) : Collector κ := ⟨∅, ∅, false⟩

def isPrivateNetwork (N : Netaddr) (ip : IP) : Bool :=
  N.isPrivate ip ||
    N.isLoopback ip ||
    N.isMulticast ip ||
    N.isLinkLocalUnicast ip ||
    N.isLinkLocalMulticast ip ||
    N.isInterfaceLocalMulticast ip

variable {κ : Type}

def entryGroupKey (P : Packages κ) (conn : Entry) : Except Panic κ := do
  let srcIP ← P.netaddr.as4 conn.src.ip
  let dstIP ← P.netaddr.as4 conn.dst.ip
  return P.entryGroupHash.sum64 (srcIP.bytes ++ dstIP.bytes ++ [conn.proto])

def conntrackEntryKey (P : Packages κ) (conn : Entry) : Except Panic κ := do
  let srcIP ← P.netaddr.as4 conn.src.ip
  let srcPort := littleEndianPutUint16 conn.src.port
  let dstIP ← P.netaddr.as4 conn.dst.ip
  let dstPort := littleEndianPutUint16 conn.dst.port
  return P.conntrackEntryHash.sum64 (srcIP.bytes ++ srcPort ++ dstIP.bytes ++ dstPort ++ [conn.proto])

structure Traffic where
  txBytes : UInt64
  txPackets : UInt64
  rxBytes : UInt64
  rxPackets : UInt64

def Traffic.counter (t : Traffic) : CounterField → UInt64
  | .txBytes => t.txBytes
  | .txPackets => t.txPackets
  | .rxBytes => t.rxBytes
  | .rxPackets => t.rxPackets

def clampedDelta (current cached : UInt64) : UInt64 :=
  if current < cached then 0 else current - cached

def trafficSince (conn : Entry) : Option Entry → Traffic
  | none => ⟨conn.txBytes, conn.txPackets, conn.rxBytes, conn.rxPackets⟩
  | some cachedConn =>
    ⟨clampedDelta conn.txBytes cachedConn.txBytes, clampedDelta conn.txPackets cachedConn.txPackets,
      clampedDelta conn.rxBytes cachedConn.rxBytes, clampedDelta conn.rxPackets cachedConn.rxPackets⟩

def groupPublicDst (N : Netaddr) (cfg : Config) (conn : Entry) : Entry :=
  if cfg.groupPublicIPs && !isPrivateNetwork N conn.dst.ip then
    { conn with dst := ⟨.v4 .unspecified, 0⟩ }
  else conn

def RawNetworkMetric.add (pm : RawNetworkMetric) (t : Traffic) (lifetime : Time) :
    RawNetworkMetric :=
  { pm with
    txBytes := pm.txBytes + t.txBytes.toInt64
    txPackets := pm.txPackets + t.txPackets.toInt64
    rxBytes := pm.rxBytes + t.rxBytes.toInt64
    rxPackets := pm.rxPackets + t.rxPackets.toInt64
    lifetime := if pm.lifetime < lifetime then lifetime else pm.lifetime }

def newMetric (N : Netaddr) (conn : Entry) (t : Traffic) : Except Panic RawNetworkMetric := do
  return {
    srcIp := ← toIPint32 N conn.src.ip
    dstIp := ← toIPint32 N conn.dst.ip
    txBytes := t.txBytes.toInt64
    txPackets := t.txPackets.toInt64
    rxBytes := t.rxBytes.toInt64
    rxPackets := t.rxPackets.toInt64
    proto := Int32.ofNat conn.proto.toNat
    lifetime := conn.lifetime }

variable [DecidableEq κ]

/-- The body of the loop in `collect`. -/
def Collector.record (P : Packages κ) (cfg : Config) (c : Collector κ) (conn : Entry) :
    Except Panic (Collector κ) := do
  let connKey ← conntrackEntryKey P conn
  let t := trafficSince conn (c.entriesCache.lookup connKey)
  let c := { c with entriesCache := c.entriesCache.insert connKey conn }
  -- In delta mode we need to have initial conntrack connections so next collect can
  -- calculate only new deltas.
  if cfg.sendTrafficDelta && !c.firstCollectDone then
    return c
  let conn := groupPublicDst P.netaddr cfg conn
  -- The cache holds a pointer to the entry, so it sees the rewritten destination too.
  let c := { c with entriesCache := c.entriesCache.insert connKey conn }
  let groupKey ← entryGroupKey P conn
  match c.podMetrics.lookup groupKey with
  | some pm =>
    return { c with podMetrics := c.podMetrics.insert groupKey (pm.add t conn.lifetime) }
  | none =>
    let pm ← newMetric P.netaddr conn t
    return { c with podMetrics := c.podMetrics.insert groupKey pm }

def Collector.collectConns (P : Packages κ) (cfg : Config) (c : Collector κ)
    (conns : List Entry) : Except Panic (Collector κ) := do
  let c ← conns.foldlM (Collector.record P cfg) c
  return { c with firstCollectDone := true }

/-- `collect` once the pods and the entries were asked for; a failure leaves the state alone. -/
def Collector.collectListed (P : Packages κ) (cfg : Config) (c : Collector κ)
    (conns : Except Error (List Entry)) : Except Panic (Collector κ × Option Error) :=
  match conns with
  | .error err => return (c, some err)
  | .ok conns => return (← c.collectConns P cfg conns, none)

/-- The fallible calls at the head of `collect`, for the addresses of the node's pods. -/
def listConns (podIPs : Except Error (Finset IP))
    (listEntries : EntriesFilter → Except Panic (Except Error (List Entry))) :
    Except Panic (Except Error (List Entry)) :=
  match podIPs with
  | .error err => return .error ("getting node pods: " ++ err)
  | .ok ips => do
    match ← listEntries (filterBySrcIP ips) with
    | .error err => return .error ("listing conntrack entries: " ++ err)
    | .ok conns => return .ok conns

def Collector.collect (P : Packages κ) (cfg : Config) (c : Collector κ)
    (podIPs : Except Error (Finset IP))
    (listEntries : EntriesFilter → Except Panic (Except Error (List Entry))) :
    Except Panic (Collector κ × Option Error) := do
  c.collectListed P cfg (← listConns podIPs listEntries)

def Collector.cleanup (c : Collector κ) (now : Time) : Collector κ :=
  { c with
    entriesCache := c.entriesCache.filter (fun _ e => !decide (e.lifetime < now))
    podMetrics := c.podMetrics.filter (fun _ m => !decide (m.lifetime < now)) }

end Egressd.CollectorModel
