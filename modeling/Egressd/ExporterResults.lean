import Egressd.ExporterModel
import Egressd.FiniteMap

set_option autoImplicit false

namespace Egressd.Exporter
open Kube GenericsCache CollectorModel CollectorHandler Histories

theorem int32_ipFromInt32 (v : Int32) : (ipFromInt32 v).int32 = v := by
  have word : ∀ u : UInt32, bigEndianUint32 (u >>> 24).toUInt8 (u >>> 16).toUInt8
      (u >>> 8).toUInt8 u.toUInt8 = u := by
    intro u
    have bound := u.toNat_lt
    rw [← UInt32.toNat_inj, bigEndianUint32_toNat]
    simp only [UInt32.toNat_toUInt8, UInt32.toNat_shiftRight, Nat.shiftRight_eq_div_pow]
    simp only [UInt32.reduceToNat, Nat.reduceMod, Nat.reducePow]
    omega
  unfold ipFromInt32 IPv4.int32
  rw [word, Int32.toInt32_toUInt32]

theorem ipFromInt32_int32 (x : IPv4) : ipFromInt32 x.int32 = x :=
  IPv4.int32_injective (int32_ipFromInt32 x.int32)

theorem int32_eq_zero_iff {x : IPv4} : x.int32 = 0 ↔ x = .unspecified := by
  have zero : IPv4.unspecified.int32 = 0 := by decide
  rw [← zero]
  exact IPv4.int32_injective.eq_iff

section Addresses

variable (N : Netaddr) (conn : PbRawNetworkMetric) (pod : Pod) (srcZone : String)
  (dst : Destination) (dstDnsName : Bytes)

theorem srcIp_podMetric : (podMetric N conn pod srcZone dst dstDnsName).srcIp =
    dotted (ipFromInt32 conn.srcIp) := N.string_v4 _

theorem dstIp_podMetric : (podMetric N conn pod srcZone dst dstDnsName).dstIp =
    dotted (ipFromInt32 conn.dstIp) := N.string_v4 _

end Addresses

variable {G : GenericsCache} {σ : Type}

section Loop

variable (N : Netaddr) (W : KubeWatcher σ)

theorem itemResults_cons (d : DnsStorage G) (s : σ) (item : PbRawNetworkMetric × Time)
    (items : List (PbRawNetworkMetric × Time)) :
    itemResults N W d s (item :: items) =
      (buildPodNetworkMetric N W (d.lookup item.2) s item.1).1 ::
        itemResults N W d (buildPodNetworkMetric N W (d.lookup item.2) s item.1).2 items := rfl

theorem results_cons (a : Aggregation G σ) (p : Pulled) (pulled : List Pulled) :
    results N W a (p :: pulled) =
      itemResults N W (a.dnsStorage.fill p.ip2Domain) a.watcher p.items ::
        results N W (aggregateBatch N W a p) pulled := rfl

theorem watcher_aggregateItem (a : Aggregation G σ) (item : PbRawNetworkMetric × Time) :
    (aggregateItem N W a item).watcher =
      (buildPodNetworkMetric N W (a.dnsStorage.lookup item.2) a.watcher item.1).2 := by
  unfold aggregateItem
  rcases buildPodNetworkMetric N W (a.dnsStorage.lookup item.2) a.watcher item.1 with ⟨r, s⟩
  cases r <;> rfl

theorem podsMetrics_foldl (a : Aggregation G σ) (items : List (PbRawNetworkMetric × Time)) :
    (items.foldl (aggregateItem N W) a).podsMetrics =
      a.podsMetrics ++ (itemResults N W a.dnsStorage a.watcher items).filterMap Except.toOption := by
  induction items generalizing a with
  | nil => exact (List.append_nil _).symm
  | cons item items ih =>
    rw [List.foldl_cons, ih, itemResults_cons]
    unfold aggregateItem
    rcases buildPodNetworkMetric N W (a.dnsStorage.lookup item.2) a.watcher item.1 with ⟨r, s⟩
    cases r with
    | ok m => exact List.append_assoc _ _ _
    | error err => rfl

theorem podsMetrics_aggregate (a : Aggregation G σ) (pulled : List Pulled) :
    (aggregate N W a pulled).podsMetrics =
      a.podsMetrics ++ (results N W a pulled).flatten.filterMap Except.toOption := by
  induction pulled generalizing a with
  | nil => exact (List.append_nil _).symm
  | cons p pulled ih =>
    change (aggregate N W (aggregateBatch N W a p) pulled).podsMetrics = _
    rw [ih, results_cons, List.flatten_cons, List.filterMap_append, ← List.append_assoc]
    congr 1
    exact podsMetrics_foldl N W _ p.items

end Loop

/-- A raw metric is skipped because of its source, or built from the pod of its source and the
    zone of the pod's node. -/
theorem build_cases (N : Netaddr) (W : KubeWatcher σ) (s : σ) (conn : PbRawNetworkMetric) :
    (∃ err, (∀ pod, (W.getPodByIP s (dotted (ipFromInt32 conn.srcIp))).1 = .ok pod →
        (nodeInfo (W.getNodeByName pod.nodeName)).isOk = false) ∧
      ∀ lookup, buildPodNetworkMetric N W lookup s conn =
        (.error err, (W.getPodByIP s (dotted (ipFromInt32 conn.srcIp))).2)) ∨
    ∃ pod info, (W.getPodByIP s (dotted (ipFromInt32 conn.srcIp))).1 = .ok pod ∧
      nodeInfo (W.getNodeByName pod.nodeName) = .ok info ∧
      ∀ lookup, buildPodNetworkMetric N W lookup s conn =
        if N.isPrivate (.v4 (ipFromInt32 conn.dstIp)) then
          ((W.destination (W.getPodByIP s (dotted (ipFromInt32 conn.srcIp))).2
              (dotted (ipFromInt32 conn.dstIp))).1.map (fun dst => podMetric N conn pod info.2 dst []),
            (W.destination (W.getPodByIP s (dotted (ipFromInt32 conn.srcIp))).2
              (dotted (ipFromInt32 conn.dstIp))).2)
        else (.ok (podMetric N conn pod info.2 ⟨"", "", "", ""⟩ (lookup conn.dstIp)),
          (W.getPodByIP s (dotted (ipFromInt32 conn.srcIp))).2) := by
  simp only [buildPodNetworkMetric, int32_ipFromInt32, N.string_v4]
  rcases W.getPodByIP s (dotted (ipFromInt32 conn.srcIp)) with ⟨found, s'⟩
  cases found with
  | error err =>
    refine .inl ⟨_, ?_, fun _ => rfl⟩
    intro pod h
    cases h
  | ok pod =>
    cases node : nodeInfo (W.getNodeByName pod.nodeName) with
    | error err =>
      refine .inl ⟨err, ?_, fun _ => by simp only [node]⟩
      intro q h
      cases h
      rw [node]
      rfl
    | ok info => exact .inr ⟨pod, info, rfl, node, fun _ => by simp only [node]⟩

theorem podMetric_of_build {N : Netaddr} {W : KubeWatcher σ} {lookup : Int32 → Bytes} {s : σ}
    {conn : PbRawNetworkMetric} {m : PodNetworkMetric}
    (built : (buildPodNetworkMetric N W lookup s conn).1 = .ok m) :
    ∃ pod srcZone dst dstDnsName, (W.getPodByIP s (dotted (ipFromInt32 conn.srcIp))).1 = .ok pod ∧
      m = podMetric N conn pod srcZone dst dstDnsName := by
  rcases build_cases N W s conn with ⟨err, _, build⟩ | ⟨pod, info, src, _, build⟩
  · rw [build lookup] at built
    cases built
  · rw [build lookup] at built
    split at built
    · cases found : (W.destination (W.getPodByIP s (dotted (ipFromInt32 conn.srcIp))).2
          (dotted (ipFromInt32 conn.dstIp))).1 with
      | error err =>
        rw [found] at built
        cases built
      | ok dst =>
        rw [found] at built
        cases built
        exact ⟨pod, info.2, dst, [], src, rfl⟩
    · cases built
      exact ⟨pod, info.2, _, _, src, rfl⟩

/-- Whatever addresses are looked up before it, a lookup of an address has the same result. -/
def KubeWatcher.Steady (W : KubeWatcher σ) (s : σ) (pods : String → Except KubeError Pod) : Prop :=
  ∀ (before : List IPv4) (x : IPv4),
    (W.getPodByIP (before.foldl (fun s x => (W.getPodByIP s (dotted x)).2) s) (dotted x)).1 =
      pods (dotted x)

def KubeWatcher.frozen (W : KubeWatcher σ) (pods : String → Except KubeError Pod) :
    KubeWatcher Unit where
  getPodByIP _ ip := (pods ip, ())
  getNodeByName := W.getNodeByName
  getNodeByIP := W.getNodeByIP

section Steady

variable {N : Netaddr} {W : KubeWatcher σ} {s : σ} {pods : String → Except KubeError Pod}

@[simp]
theorem frozen_getPodByIP (ip : String) : (W.frozen pods).getPodByIP () ip = (pods ip, ()) := rfl

@[simp]
theorem frozen_getNodeByName (name : String) :
    (W.frozen pods).getNodeByName name = W.getNodeByName name := rfl

@[simp]
theorem frozen_getNodeByIP (ip : String) : (W.frozen pods).getNodeByIP ip = W.getNodeByIP ip := rfl

theorem KubeWatcher.Steady.answer (h : W.Steady s pods) (x : IPv4) :
    W.getPodByIP s (dotted x) = (pods (dotted x), (W.getPodByIP s (dotted x)).2) :=
  Prod.ext (h [] x) rfl

theorem KubeWatcher.Steady.next (h : W.Steady s pods) (x : IPv4) :
    W.Steady (W.getPodByIP s (dotted x)).2 pods :=
  fun before => h (x :: before)

theorem destination_of_steady (h : W.Steady s pods) (x : IPv4) :
    (W.destination s (dotted x)).1 = ((W.frozen pods).destination () (dotted x)).1 ∧
      W.Steady (W.destination s (dotted x)).2 pods := by
  have after := h.next x
  unfold KubeWatcher.destination
  rw [h.answer x, frozen_getPodByIP]
  cases pods (dotted x) with
  | ok pod => exact ⟨rfl, after⟩
  | error err =>
    simp only [frozen_getNodeByIP]
    split
    · exact ⟨rfl, after⟩
    · exact ⟨rfl, after⟩

theorem build_of_steady (lookup : Int32 → Bytes) (conn : PbRawNetworkMetric)
    (h : W.Steady s pods) :
    (buildPodNetworkMetric N W lookup s conn).1 =
        (buildPodNetworkMetric N (W.frozen pods) lookup () conn).1 ∧
      W.Steady (buildPodNetworkMetric N W lookup s conn).2 pods := by
  have after := h.next (ipFromInt32 conn.srcIp)
  have dst := destination_of_steady after (ipFromInt32 conn.dstIp)
  unfold buildPodNetworkMetric
  simp only [N.string_v4, frozen_getPodByIP, frozen_getNodeByName]
  rw [h.answer (ipFromInt32 conn.srcIp)]
  cases pods (dotted (ipFromInt32 conn.srcIp)) with
  | error err => exact ⟨rfl, after⟩
  | ok pod =>
    simp only
    cases nodeInfo (W.getNodeByName pod.nodeName) with
    | error err => exact ⟨rfl, after⟩
    | ok info =>
      simp only
      split
      · rw [dst.1]
        exact ⟨rfl, dst.2⟩
      · exact ⟨rfl, after⟩

theorem itemResults_of_steady (d : DnsStorage G) (h : W.Steady s pods)
    (items : List (PbRawNetworkMetric × Time)) :
    itemResults N W d s items = items.map (fun item =>
      (buildPodNetworkMetric N (W.frozen pods) (d.lookup item.2) () item.1).1) :=
  outputs_eq_map (fun s => W.Steady s pods)
    (fun _ item steady => build_of_steady (d.lookup item.2) item.1 steady) h items

end Steady

theorem lookup_fill (d : DnsStorage G) (items : List (IP2Domain × Time)) (ip : Int32) :
    (G.items (d.fill items).ipToName).lookup ip =
      ((latest (fun item => item.1.ip) items ip).map
        (fun item => ⟨item.1.domain, item.2 + defaultDNSTTL⟩)).or ((G.items d.ipToName).lookup ip) := by
  induction items using List.reverseRecOn with
  | nil => rfl
  | append_singleton items stored ih =>
    rw [DnsStorage.fill, List.foldl_append]
    change (G.items (G.set (d.fill items).ipToName _ stored.1.ip _ _)).lookup ip = _
    rw [lookup_set, latest_concat]
    by_cases same : stored.1.ip = ip
    · rw [if_pos same, if_pos same.symm]
      rfl
    · rw [if_neg same, if_neg (Ne.symm same)]
      exact ih

theorem build_public {N : Netaddr} {W : KubeWatcher σ} {lookup : Int32 → Bytes} {s : σ}
    {conn : PbRawNetworkMetric} {m : PodNetworkMetric}
    (built : (buildPodNetworkMetric N W lookup s conn).1 = .ok m)
    (notPrivate : N.isPrivate (.v4 (ipFromInt32 conn.dstIp)) = false) :
    ∃ pod srcZone, m = podMetric N conn pod srcZone ⟨"", "", "", ""⟩ (lookup conn.dstIp) := by
  rcases build_cases N W s conn with ⟨err, _, build⟩ | ⟨pod, info, _, _, build⟩
  · rw [build lookup] at built
    cases built
  · rw [build lookup, notPrivate] at built
    cases built
    exact ⟨pod, info.2, rfl⟩

theorem dstDnsName_of_build {N : Netaddr} {W : KubeWatcher σ} {lookup : Int32 → Bytes} {s : σ}
    {conn : PbRawNetworkMetric} {m : PodNetworkMetric}
    (built : (buildPodNetworkMetric N W lookup s conn).1 = .ok m)
    (notPrivate : N.isPrivate (.v4 (ipFromInt32 conn.dstIp)) = false) :
    m.dstDnsName = lookup conn.dstIp := by
  obtain ⟨pod, srcZone, rfl⟩ := build_public built notPrivate
  rfl

/-- The domain name of a destination that the batch of a raw metric lists is the one that this
    batch lists last, whatever was stored before and whatever else is pulled. -/
theorem own_domain_wins {N : Netaddr} {W : KubeWatcher σ} {a : Aggregation G σ}
    {pulled : List Pulled} {p : Pulled} {rs : List (Except BuildError PodNetworkMetric)}
    {raw : PbRawNetworkMetric} {now : Time} {m : PodNetworkMetric} {x : IPv4}
    {domain : IP2Domain} {stored : Time}
    (batch : (p, rs) ∈ pulled.zip (results N W a pulled))
    (emitted : ((raw, now), .ok m) ∈ p.items.zip rs) (dst : raw.dstIp = x.int32)
    (specified : x ≠ .unspecified) (notPrivate : N.isPrivate (.v4 x) = false)
    (last : latest (fun item => item.1.ip) p.ip2Domain x.int32 = some (domain, stored))
    (unexpired : now ≤ stored + defaultDNSTTL) : m.dstDnsName = domain.domain := by
  obtain ⟨before, rfl⟩ := exists_of_mem_zip_outputs batch
  obtain ⟨s, built⟩ := exists_of_mem_zip_outputs emitted
  have private' : N.isPrivate (.v4 (ipFromInt32 raw.dstIp)) = false := by
    rw [dst, ipFromInt32_int32]
    exact notPrivate
  rw [dstDnsName_of_build built private', dst, DnsStorage.lookup,
    if_neg (fun zero => specified (int32_eq_zero_iff.mp zero))]
  have found := lookup_fill before.dnsStorage p.ip2Domain x.int32
  rw [last] at found
  have kept : Item.expired ⟨domain.domain, stored + defaultDNSTTL⟩ now = false :=
    expired_eq_false_iff.mpr unexpired
  rw [get_of_lookup found, kept]
  rfl

def onePodWatcher : KubeWatcher Unit where
  getPodByIP _ _ := (.ok (samplePod "p1" "a" .running none), ())
  getNodeByName _ := .error .notFound
  getNodeByIP _ := .error .notFound

def outgoing : PbRawNetworkMetric :=
  ⟨IPv4.int32 ⟨10, 14, 7, 12⟩, IPv4.int32 ⟨8, 8, 8, 8⟩, 1, 1, 1, 1, 6⟩

def resolvedBatch (domain : Bytes) : Pulled where
  items := [(outgoing, 0)]
  ip2Domain := [(⟨IPv4.int32 ⟨8, 8, 8, 8⟩, domain⟩, 0)]

def outgoingMetric (domain : Bytes) : PodNetworkMetric :=
  podMetric .documented outgoing (samplePod "p1" "a" .running none) "" ⟨"", "", "", ""⟩ domain

def earlierStorage : DnsStorage .documented :=
  (DnsStorage.new .documented).fill [(⟨IPv4.int32 ⟨8, 8, 8, 8⟩, [99]⟩, 0)]

theorem own_domain_wins_conflict :
    earlierStorage.lookup 0 (IPv4.int32 ⟨8, 8, 8, 8⟩) = [99] ∧
    results .documented onePodWatcher ⟨(), earlierStorage, [], []⟩
        [resolvedBatch [98], resolvedBatch [97]] =
      [[.ok (outgoingMetric [98])], [.ok (outgoingMetric [97])]] ∧
    (outgoingMetric [98]).dstDnsName = [98] ∧ (outgoingMetric [97]).dstDnsName = [97] := by
  have built : results .documented onePodWatcher ⟨(), earlierStorage, [], []⟩
      [resolvedBatch [98], resolvedBatch [97]] =
      [[.ok (outgoingMetric [98])], [.ok (outgoingMetric [97])]] := by decide +kernel
  have each : ∀ domain ∈ [[98], [97]], (resolvedBatch domain, [Except.ok (outgoingMetric domain)]) ∈
      [resolvedBatch [98], resolvedBatch [97]].zip (results .documented onePodWatcher
        ⟨(), earlierStorage, [], []⟩ [resolvedBatch [98], resolvedBatch [97]]) := by
    rw [built]
    simp
  refine ⟨by decide +kernel, built, ?_, ?_⟩
  · exact own_domain_wins (x := ⟨8, 8, 8, 8⟩) (each [98] (by decide)) List.mem_cons_self rfl
      (by decide) (by decide) rfl (by decide)
  · -- The first batch has stored its own name for the destination by now.
    exact own_domain_wins (x := ⟨8, 8, 8, 8⟩) (each [97] (by decide)) List.mem_cons_self rfl
      (by decide) (by decide) rfl (by decide)

end Egressd.Exporter
