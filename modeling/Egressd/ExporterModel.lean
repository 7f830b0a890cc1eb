import Egressd.CollectorHandler
import Egressd.GenericsCache
import Egressd.Histories
import Egressd.KubeObjects

set_option autoImplicit false

namespace Egressd.Exporter
open Kube GenericsCache CollectorModel CollectorHandler

structure PodNetworkMetric where
  srcIp : String
  srcPod : String
  srcNamespace : String
  srcNode : String
  srcZone : String
  dstIp : String
  dstDnsName : Bytes
  dstPod : String
  dstNamespace : String
  dstNode : String
  dstZone : String
  txBytes : Int64
  txPackets : Int64
  rxBytes : Int64
  rxPackets : Int64
  proto : Int32
  deriving DecidableEq, Repr

def ipFromInt32 (v : Int32) : IPv4 :=
  let u := v.toUInt32
  ⟨(u >>> 24).toUInt8, (u >>> 16).toUInt8, (u >>> 8).toUInt8, u.toUInt8⟩

/-- The interface `kubeWatcher`. A lookup of a pod may change the state behind it. -/
structure KubeWatcher (σ : Type) where
  getPodByIP : σ → String → Except KubeError Pod × σ
  getNodeByName : String → Except KubeError Node
  getNodeByIP : String → Except KubeError Node

structure BuildError where
  text : String
  cause : KubeError
  deriving DecidableEq, Repr

def getNodeZone (node : Node) : String :=
  ((node.labels.find? (fun label => label.1 = "topology.kubernetes.io/zone")).map Prod.snd).getD ""

def nodeInfo : Except KubeError Node → Except BuildError (String × String)
  | .ok node => .ok (node.name, getNodeZone node)
  | .error .notFound => .ok ("", "")
  | .error err => .error ⟨err.text, err⟩

structure Destination where
  pod : String
  ns : String
  node : String
  zone : String
  deriving DecidableEq, Repr

variable {σ : Type}

def KubeWatcher.destination (W : KubeWatcher σ) (s : σ) (dstIP : String) :
    Except BuildError Destination × σ :=
  match W.getPodByIP s dstIP with
  | (.ok dstPod, s') =>
    ((nodeInfo (W.getNodeByName dstPod.nodeName)).map
      (fun (node, zone) => ⟨dstPod.name, dstPod.ns, node, zone⟩), s')
  | (.error err, s') =>
    if err = .notFound || err = .tooManyObjects then
      ((nodeInfo (W.getNodeByIP dstIP)).map (fun (node, zone) => ⟨"", "", node, zone⟩), s')
    else (.error ⟨err.text, err⟩, s')

def podMetric (N : Netaddr) (conn : PbRawNetworkMetric) (pod : Pod) (srcZone : String)
    (dst : Destination) (dstDnsName : Bytes) : PodNetworkMetric where
  srcIp := N.string (.v4 (ipFromInt32 conn.srcIp))
  srcPod := pod.name
  srcNamespace := pod.ns
  srcNode := pod.nodeName
  srcZone := srcZone
  dstIp := N.string (.v4 (ipFromInt32 conn.dstIp))
  dstDnsName := dstDnsName
  dstPod := dst.pod
  dstNamespace := dst.ns
  dstNode := dst.node
  dstZone := dst.zone
  txBytes := conn.txBytes
  txPackets := conn.txPackets
  rxBytes := conn.rxBytes
  rxPackets := conn.rxPackets
  proto := conn.proto

/-- `buildPodNetworkMetric`, with the lookup in the storage of domain names. The destination is
    an IPv4 address, of which `ToIPint32` is `int32`. -/
def buildPodNetworkMetric (N : Netaddr) (W : KubeWatcher σ) (lookup : Int32 → Bytes) (s : σ)
    (conn : PbRawNetworkMetric) : Except BuildError PodNetworkMetric × σ :=
  let srcIP := ipFromInt32 conn.srcIp
  let dstIP := ipFromInt32 conn.dstIp
  match W.getPodByIP s (N.string (.v4 srcIP)) with
  | (.error err, s') =>
    (.error ⟨"getting src pod by ip \"" ++ N.string (.v4 srcIP) ++ "\": " ++ err.text, err⟩, s')
  | (.ok pod, s') =>
    match nodeInfo (W.getNodeByName pod.nodeName) with
    | .error err => (.error err, s')
    | .ok (_, srcZone) =>
      if N.isPrivate (.v4 dstIP) then
        let found := W.destination s' (N.string (.v4 dstIP))
        (found.1.map (fun dst => podMetric N conn pod srcZone dst []), found.2)
      else (.ok (podMetric N conn pod srcZone ⟨"", "", "", ""⟩ (lookup dstIP.int32)), s')

def defaultDNSTTL : Duration := 60 * minute

structure DnsStorage (G : GenericsCache) where
  ipToName : G.Cache Int32 Bytes

variable {G : GenericsCache}

def DnsStorage.new (G : GenericsCache) : DnsStorage G := ⟨G.new _ _⟩

def DnsStorage.fill (d : DnsStorage G) (items : List (IP2Domain × Time)) : DnsStorage G :=
  items.foldl (fun d item => ⟨G.set d.ipToName item.2 item.1.ip item.1.domain defaultDNSTTL⟩) d

def DnsStorage.lookup (d : DnsStorage G) (now : Time) (ip : Int32) : Bytes :=
  if ip = 0 then [] else (G.get d.ipToName now ip).getD []

/-- A batch from `pulledBatch`, with the time at which each of its items is stored or looked
    up. -/
structure Pulled where
  items : List (PbRawNetworkMetric × Time)
  ip2Domain : List (IP2Domain × Time)

inductive LogLine where
  | warn (text : String)
  | error (text : String)
  deriving DecidableEq, Repr

def emptyMetrics (m : PbRawNetworkMetric) : Bool :=
  m.txBytes = 0 && m.rxBytes = 0 && m.txPackets = 0 && m.rxPackets = 0

def skipped (raw : PbRawNetworkMetric) (err : BuildError) : List LogLine :=
  if err.cause = .notFound then
    if emptyMetrics raw then [] else [.warn ("skipping pod metrics: " ++ err.text)]
  else [.error ("init pod network metrics: " ++ err.text)]

structure Aggregation (G : GenericsCache) (σ : Type) where
  watcher : σ
  dnsStorage : DnsStorage G
  podsMetrics : List PodNetworkMetric
  log : List LogLine

section Loop

variable (N : Netaddr) (W : KubeWatcher σ)

def aggregateItem (a : Aggregation G σ) (item : PbRawNetworkMetric × Time) : Aggregation G σ :=
  match buildPodNetworkMetric N W (a.dnsStorage.lookup item.2) a.watcher item.1 with
  | (.ok m, s) => { a with watcher := s, podsMetrics := a.podsMetrics ++ [m] }
  | (.error err, s) => { a with watcher := s, log := a.log ++ skipped item.1 err }

def aggregateBatch (a : Aggregation G σ) (p : Pulled) : Aggregation G σ :=
  p.items.foldl (aggregateItem N W) { a with dnsStorage := a.dnsStorage.fill p.ip2Domain }

def aggregate (a : Aggregation G σ) (pulled : List Pulled) : Aggregation G σ :=
  pulled.foldl (aggregateBatch N W) a

def itemResults (d : DnsStorage G) (s : σ) (items : List (PbRawNetworkMetric × Time)) :
    List (Except BuildError PodNetworkMetric) :=
  Histories.outputs
    (fun s item => buildPodNetworkMetric N W (d.lookup item.2) s item.1) s items

def results (a : Aggregation G σ) (pulled : List Pulled) :
    List (List (Except BuildError PodNetworkMetric)) :=
  Histories.outputs (fun a p => (itemResults N W (a.dnsStorage.fill p.ip2Domain) a.watcher p.items,
    aggregateBatch N W a p)) a pulled

end Loop

end Egressd.Exporter
