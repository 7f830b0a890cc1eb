import Egressd.CollectorRuns
import Egressd.ExporterDestination

set_option autoImplicit false

namespace Egressd.Pipeline
open Conntrack CollectorModel CollectorHandler CollectorSteps CollectorRuns Exporter Kube Finmap

structure Tells (g : Group) (conn : PbRawNetworkMetric) (m : PodNetworkMetric) : Prop where
  srcIp : m.srcIp = dotted g.src
  dstIp : m.dstIp = dotted g.dst
  proto : m.proto.toInt = g.proto.toNat
  txBytes : m.txBytes = conn.txBytes
  txPackets : m.txPackets = conn.txPackets
  rxBytes : m.rxBytes = conn.rxBytes
  rxPackets : m.rxPackets = conn.rxPackets

theorem tells_of_build {σ : Type} {N : Netaddr} {W : KubeWatcher σ} {lookup : Int32 → Bytes} {s : σ}
    {g : Group} {conn : PbRawNetworkMetric} {m : PodNetworkMetric}
    (carries : CollectorSteps.Carries conn g)
    (built : (buildPodNetworkMetric N W lookup s conn).1 = .ok m) : Tells g conn m := by
  obtain ⟨src, dst, proto⟩ := carries
  obtain ⟨pod, srcZone, dest, dstDnsName, _, rfl⟩ := podMetric_of_build built
  have bound := g.proto.toNat_lt
  constructor
  · rw [srcIp_podMetric, src, ipFromInt32_int32]
  · rw [dstIp_podMetric, dst, ipFromInt32_int32]
  · change conn.proto.toInt = _
    rw [proto, Int32.toInt_ofNat_of_lt (by omega)]
  all_goals rfl

theorem Tells.unique {g g' : Group} {conn conn' : PbRawNetworkMetric} {m m' : PodNetworkMetric}
    (h : Tells g conn m) (h' : Tells g' conn' m')
    (same : (m.srcIp, m.dstIp, m.proto) = (m'.srcIp, m'.dstIp, m'.proto)) : g = g' := by
  rw [Prod.mk.injEq, Prod.mk.injEq] at same
  obtain ⟨src, dst, proto⟩ := same
  rw [h.srcIp, h'.srcIp] at src
  rw [h.dstIp, h'.dstIp] at dst
  have number : (g.proto.toNat : ℤ) = g'.proto.toNat := by rw [← h.proto, ← h'.proto, proto]
  apply CollectorSteps.Group.ext
  · exact dotted_injective src
  · exact dotted_injective dst
  · apply UInt8.toNat_inj.mp
    omega

variable {κ : Type} [DecidableEq κ]

theorem mem_items_batchOf {c : Collector κ} {key : κ} {m : RawNetworkMetric}
    (held : c.podMetrics.lookup key = some m) (call : HandlerCall κ) :
    m.toPbRawNetworkMetric ∈ (batchOf c call).items := by
  have visited : key ∈ call.order c.podMetrics.keys := by
    rw [← Multiset.mem_coe, call.visitsEachOnce, Finset.mem_val, Finmap.mem_keys,
      ← Finmap.lookup_isSome, held]
    rfl
  exact List.mem_filterMap.mpr ⟨key, visited, by rw [held]; rfl⟩

/-- The exporter makes the pod metric out of the group's raw metric, from some collector and with
    some answers of the `kubeWatcher`. -/
def Yields (P : Packages κ) (E : Encoders) (cfg : Config) (g : Group) (pm : PodNetworkMetric) :
    Prop :=
  ∃ (c : Collector κ) (m : RawNetworkMetric) (σ : Type) (W : KubeWatcher σ)
    (lookup : Int32 → Bytes) (s : σ), Reachable P E cfg c ∧ metricOf P c g = some m ∧
      (buildPodNetworkMetric P.netaddr W lookup s m.toPbRawNetworkMetric).1 = .ok pm

/-- A group's raw metric is sent by the handler and turned into a pod metric that tells the group,
    the numbers that stand for addresses are read back to them, and no two groups yield the same
    addresses and protocol. -/
structure SurvivesPipeline (P : Packages κ) (E : Encoders) (cfg : Config) (c : Collector κ)
    (call : HandlerCall κ) (g : Group) (m : RawNetworkMetric)
    (result : Except BuildError PodNetworkMetric) : Prop where
  sent : m.toPbRawNetworkMetric ∈ (batchOf c call).items
  built : ∃ pm, result = .ok pm ∧ Tells g m.toPbRawNetworkMetric pm
  decoded : ∀ x, (toIPint32 P.netaddr (.v4 x)).map ipFromInt32 = .ok x
  encoded : ∀ v, toIPint32 P.netaddr (.v4 (ipFromInt32 v)) = .ok v
  distinct : ∀ g g' pm pm', Yields P E cfg g pm → Yields P E cfg g' pm' → g ≠ g' →
    (pm.srcIp, pm.dstIp, pm.proto) ≠ (pm'.srcIp, pm'.dstIp, pm'.proto)

section Survival

variable {P : Packages κ} {E : Encoders} {cfg : Config} {c : Collector κ} {g : Group}

theorem toIPint32_v4 (N : Netaddr) (x : IPv4) : toIPint32 N (.v4 x) = .ok x.int32 :=
  toIPint32_of_as4 (N.as4_v4 x)

theorem tells_of_yields {pm : PodNetworkMetric} (yields : Yields P E cfg g pm) :
    ∃ conn, Tells g conn pm := by
  obtain ⟨c, m, σ, W, lookup, s, reachable, held, built⟩ := yields
  exact ⟨_, tells_of_build ((wellKeyed_of_reachable reachable).carries held) built⟩

/-- Once the source pod is found, a group survives exactly if its destination is not a private
    address that no pod of the index and several nodes have. -/
theorem survives_pipeline_iff {m : RawNetworkMetric} {nodes : NodeStore}
    {X : PodIndexer} {orders : ℕ → VisitOrder PodKey} {pods : PodByIPCache X} {k : ℕ} {pod : Pod}
    (reachable : Reachable P E cfg c) (held : metricOf P c g = some m) (call : HandlerCall κ)
    (lookup : Int32 → Bytes) (src : (pods.get (orders k) (dotted g.src)).1 = .ok pod) :
    SurvivesPipeline P E cfg c call g m (buildPodNetworkMetric P.netaddr (podWatcher nodes orders)
      lookup (pods, k) m.toPbRawNetworkMetric).1 ↔
    ¬ (P.netaddr.isPrivate (.v4 g.dst) = true ∧
      (∀ q, pods.indexer.Holds q → (q = pod → pod.active = true) → q.podIP ≠ dotted g.dst) ∧
      1 < (nodes.byIndex nodeIPIdx (dotted g.dst)).length) := by
  have carries := (wellKeyed_of_reachable reachable).carries held
  have srcIP : ipFromInt32 m.srcIp = g.src := by rw [carries.1, ipFromInt32_int32]
  have dstIP : ipFromInt32 m.dstIp = g.dst := by rw [carries.2.1, ipFromInt32_int32]
  rw [← srcIP] at src
  rw [← dstIP, ← isOk_build_iff lookup src, isOk_iff]
  constructor
  · intro survives
    obtain ⟨pm, built, _⟩ := survives.built
    exact ⟨pm, built⟩
  · rintro ⟨pm, built⟩
    constructor
    · exact mem_items_batchOf held call
    · exact ⟨pm, built, tells_of_build carries built⟩
    · intro x
      rw [toIPint32_v4]
      exact congrArg Except.ok (ipFromInt32_int32 x)
    · intro v
      rw [toIPint32_v4, int32_ipFromInt32]
    · intro g g' pm pm' yields yields' different same
      obtain ⟨conn, tells⟩ := tells_of_yields yields
      obtain ⟨conn', tells'⟩ := tells_of_yields yields'
      exact different (tells.unique tells' same)

end Survival

def entryBetween (x y : IPv4) : Entry where
  src := ⟨.v4 x, 40000⟩
  dst := ⟨.v4 y, 443⟩
  txBytes := 1500
  txPackets := 10
  rxBytes := 3000
  rxPackets := 20
  lifetime := 0
  proto := 6

def sentOnce (x y : IPv4) : Collector Bytes :=
  { recorded .documented ⟨false, false⟩ (.empty Bytes) (entryBetween x y) ⟨x, 40000, y, 443, 6⟩
      ⟨x, y, 6⟩ with firstCollectDone := true }

def sentMetric (x y : IPv4) : RawNetworkMetric :=
  freshMetric ⟨x, y, 6⟩ ⟨1500, 10, 3000, 20⟩ 0

theorem reachable_sentOnce (E : Encoders) (x y : IPv4) :
    Reachable .documented E ⟨false, false⟩ (sentOnce x y) := by
  have record : (Collector.empty Bytes).record .documented ⟨false, false⟩ (entryBetween x y) =
      .ok (recorded .documented ⟨false, false⟩ (.empty Bytes) (entryBetween x y)
        ⟨x, 40000, y, 443, 6⟩ ⟨x, y, 6⟩) :=
    record_iff.mpr ⟨_, _, flowOf_iff.mpr ⟨rfl, rfl, rfl, rfl, rfl⟩,
      groupOf_iff.mpr ⟨rfl, rfl, rfl⟩, rfl⟩
  refine ⟨[.collect (.ok [entryBetween x y])], .next ?_ (.refl _)⟩
  rw [step_collect_ok, collectConns_iff]
  exact ⟨_, .next record (.refl _), rfl⟩

theorem metricOf_sentOnce (x y : IPv4) :
    metricOf .documented (sentOnce x y) ⟨x, y, 6⟩ = some (sentMetric x y) := by
  change metricOf .documented (recorded ..) _ = _
  rw [metricOf_recorded, if_pos ⟨rfl, rfl⟩]
  rfl

theorem survives_pipeline_high_address :
    (IPv4.int32 ⟨200, 1, 2, 3⟩ < 0) ∧
    SurvivesPipeline .documented .buffering ⟨false, false⟩
      (sentOnce ⟨10, 14, 7, 12⟩ ⟨200, 1, 2, 3⟩) (sampleCall ⟨[]⟩ ⟨fun _ _ => none⟩)
      ⟨⟨10, 14, 7, 12⟩, ⟨200, 1, 2, 3⟩, 6⟩ (sentMetric ⟨10, 14, 7, 12⟩ ⟨200, 1, 2, 3⟩)
      (buildPodNetworkMetric .documented (podWatcher twoNodes (fun _ => .first ("team1", "p1")))
        (fun _ => []) (onePod, 0)
        (sentMetric ⟨10, 14, 7, 12⟩ ⟨200, 1, 2, 3⟩).toPbRawNetworkMetric).1 := by
  refine ⟨by decide, (survives_pipeline_iff (reachable_sentOnce _ _ _) (metricOf_sentOnce _ _) _ _
    (by rw [get_onePod])).mpr ?_⟩
  rintro ⟨isPrivate, _⟩
  exact absurd isPrivate (by decide)

theorem group_lost_at_ambiguous_node :
    Reachable .documented .buffering ⟨false, false⟩
      (sentOnce ⟨10, 14, 7, 12⟩ ⟨10, 0, 0, 9⟩) ∧
    metricOf .documented (sentOnce ⟨10, 14, 7, 12⟩ ⟨10, 0, 0, 9⟩)
      ⟨⟨10, 14, 7, 12⟩, ⟨10, 0, 0, 9⟩, 6⟩ = some (sentMetric ⟨10, 14, 7, 12⟩ ⟨10, 0, 0, 9⟩) ∧
    (onePod.get (.first ("team1", "p1")) (dotted ⟨10, 14, 7, 12⟩)).1 =
      .ok (samplePod "p1" "a" .running none) ∧
    (buildPodNetworkMetric .documented (podWatcher twoNodes (fun _ => .first ("team1", "p1")))
      (fun _ => []) (onePod, 0)
      (sentMetric ⟨10, 14, 7, 12⟩ ⟨10, 0, 0, 9⟩).toPbRawNetworkMetric).1.isOk = false := by
  refine ⟨reachable_sentOnce _ _ _, metricOf_sentOnce _ _, by rw [get_onePod], ?_⟩
  have src : (onePod.get (.first ("team1", "p1"))
      (dotted (ipFromInt32 (sentMetric ⟨10, 14, 7, 12⟩ ⟨10, 0, 0, 9⟩).srcIp))).1 =
      .ok (samplePod "p1" "a" .running none) := source_onePod _ ⟨10, 0, 0, 9⟩
  rw [← Bool.not_eq_true, isOk_build_iff _ src, not_not]
  refine ⟨by decide, fun q held _ => ?_, by decide⟩
  rw [holds_onePod.mp held]
  decide

end Egressd.Pipeline
