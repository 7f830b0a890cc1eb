import Egressd.ExporterAttribution
import Mathlib.Tactic.Tauto

set_option autoImplicit false

namespace Egressd.Exporter
open Kube CollectorModel Finmap

variable {X : PodIndexer}

def withoutFinished (i : Indexer X) (pod : Pod) : Indexer X :=
  if pod.active then i else i.delete pod

theorem indexer_of_get {c : PodByIPCache X} {o : VisitOrder PodKey} {ip : String} {pod : Pod}
    (found : (c.get o ip).1 = .ok pod) : (c.get o ip).2.indexer = withoutFinished c.indexer pod := by
  unfold withoutFinished
  rcases get_cases c o ip with ⟨_, get⟩ | ⟨q, _, ⟨active, get⟩ | ⟨finished, get⟩⟩
  · rw [get] at found
    cases found
  · rw [get] at found ⊢
    cases found
    rw [if_pos active]
  · rw [get] at found ⊢
    cases found
    rw [if_neg (by rw [finished]; exact Bool.false_ne_true)]

theorem holds_withoutFinished {i : Indexer X} {pod q : Pod} (held : i.Holds pod) :
    (withoutFinished i pod).Holds q ↔ i.Holds q ∧ (q = pod → pod.active = true) := by
  unfold withoutFinished
  cases pod.active with
  | true => simp
  | false =>
    rw [if_neg Bool.false_ne_true, Indexer.holds_delete, and_comm]
    refine and_congr_right fun heldq => ?_
    constructor
    · rintro other rfl
      exact absurd rfl other
    · intro other same
      exact Bool.false_ne_true (other (Indexer.eq_of_holds heldq held same))

structure Carries (conn : PbRawNetworkMetric) (pod : Pod) (m : PodNetworkMetric) : Prop where
  txBytes : m.txBytes = conn.txBytes
  txPackets : m.txPackets = conn.txPackets
  rxBytes : m.rxBytes = conn.rxBytes
  rxPackets : m.rxPackets = conn.rxPackets
  proto : m.proto = conn.proto
  srcIp : m.srcIp = dotted (ipFromInt32 conn.srcIp)
  dstIp : m.dstIp = dotted (ipFromInt32 conn.dstIp)
  srcPod : m.srcPod = pod.name
  srcNamespace : m.srcNamespace = pod.ns
  srcNode : m.srcNode = pod.nodeName

theorem carries_podMetric (N : Netaddr) (conn : PbRawNetworkMetric) (pod : Pod) (srcZone : String)
    (dst : Destination) (dstDnsName : Bytes) :
    Carries conn pod (podMetric N conn pod srcZone dst dstDnsName) := by
  constructor
  case srcIp => exact srcIp_podMetric ..
  case dstIp => exact dstIp_podMetric ..
  all_goals rfl

section Watcher

variable {N : Netaddr} {nodes : NodeStore} {orders : ℕ → VisitOrder PodKey} {c : PodByIPCache X}
  {k : ℕ} {pod : Pod} {conn : PbRawNetworkMetric}

theorem build_podWatcher (N : Netaddr) (nodes : NodeStore) (orders : ℕ → VisitOrder PodKey)
    (k : ℕ) (lookup : Int32 → Bytes)
    (src : (c.get (orders k) (dotted (ipFromInt32 conn.srcIp))).1 = .ok pod) :
    ∃ srcZone, (buildPodNetworkMetric N (podWatcher nodes orders) lookup (c, k) conn).1 =
      if N.isPrivate (.v4 (ipFromInt32 conn.dstIp)) then
        ((podWatcher nodes orders).destination
          ((c.get (orders k) (dotted (ipFromInt32 conn.srcIp))).2, k + 1)
          (dotted (ipFromInt32 conn.dstIp))).1.map (fun dst => podMetric N conn pod srcZone dst [])
      else .ok (podMetric N conn pod srcZone ⟨"", "", "", ""⟩ (lookup conn.dstIp)) := by
  obtain ⟨info, node⟩ := exists_nodeInfo (settled_getNodeByName nodes pod.nodeName)
  have answer : (podWatcher nodes orders).getPodByIP (c, k) (dotted (ipFromInt32 conn.srcIp)) =
      (.ok pod, (c.get (orders k) (dotted (ipFromInt32 conn.srcIp))).2, k + 1) :=
    Prod.ext src rfl
  exact ⟨info.2, build_of_source lookup answer node⟩

theorem carries_of_build (lookup : Int32 → Bytes)
    (src : (c.get (orders k) (dotted (ipFromInt32 conn.srcIp))).1 = .ok pod) {m : PodNetworkMetric}
    (built : (buildPodNetworkMetric N (podWatcher nodes orders) lookup (c, k) conn).1 = .ok m) :
    Carries conn pod m := by
  obtain ⟨q, srcZone, dst, dstDnsName, found, rfl⟩ := podMetric_of_build built
  change (c.get (orders k) (dotted (ipFromInt32 conn.srcIp))).1 = .ok q at found
  rw [src, Except.ok.injEq] at found
  rw [found]
  exact carries_podMetric ..

theorem isOk_build_iff (lookup : Int32 → Bytes)
    (src : (c.get (orders k) (dotted (ipFromInt32 conn.srcIp))).1 = .ok pod) :
    (buildPodNetworkMetric N (podWatcher nodes orders) lookup (c, k) conn).1.isOk = true ↔
    ¬ (N.isPrivate (.v4 (ipFromInt32 conn.dstIp)) = true ∧
      (∀ q, c.indexer.Holds q → (q = pod → pod.active = true) →
        q.podIP ≠ dotted (ipFromInt32 conn.dstIp)) ∧
      1 < (nodes.byIndex nodeIPIdx (dotted (ipFromInt32 conn.dstIp))).length) := by
  obtain ⟨srcZone, built⟩ := build_podWatcher N nodes orders k lookup src
  have rest : (∀ q, (c.get (orders k) (dotted (ipFromInt32 conn.srcIp))).2.indexer.Holds q →
        q.podIP ≠ dotted (ipFromInt32 conn.dstIp)) ↔
      ∀ q, c.indexer.Holds q → (q = pod → pod.active = true) →
        q.podIP ≠ dotted (ipFromInt32 conn.dstIp) := by
    rw [indexer_of_get src]
    simp only [holds_withoutFinished (earliest_of_get src).held, and_imp]
  have fails : ((podWatcher nodes orders).destination
      ((c.get (orders k) (dotted (ipFromInt32 conn.srcIp))).2, k + 1)
      (dotted (ipFromInt32 conn.dstIp))).1.isOk = false ↔ _ :=
    isOk_destination (dotted (ipFromInt32 conn.dstIp))
  rw [built, ← rest, ← fails]
  cases N.isPrivate (.v4 (ipFromInt32 conn.dstIp)) with
  | false => exact iff_of_true rfl (fun both => by cases both.1)
  | true =>
    rw [if_pos rfl, isOk_map, and_iff_right rfl, Bool.not_eq_false]

/-- Once its source is found, a raw metric yields a metric exactly if its destination is not a
    private address that no pod of the index and several nodes have. -/
theorem destination_best_effort_iff (lookup : Int32 → Bytes)
    (src : (c.get (orders k) (dotted (ipFromInt32 conn.srcIp))).1 = .ok pod) :
    (∃ m, (buildPodNetworkMetric N (podWatcher nodes orders) lookup (c, k) conn).1 = .ok m ∧
      Carries conn pod m) ↔
    ¬ (N.isPrivate (.v4 (ipFromInt32 conn.dstIp)) = true ∧
      (∀ q, c.indexer.Holds q → (q = pod → pod.active = true) →
        q.podIP ≠ dotted (ipFromInt32 conn.dstIp)) ∧
      1 < (nodes.byIndex nodeIPIdx (dotted (ipFromInt32 conn.dstIp))).length) := by
  rw [← isOk_build_iff lookup src, isOk_iff]
  constructor
  · rintro ⟨m, built, _⟩
    exact ⟨m, built⟩
  · rintro ⟨m, built⟩
    exact ⟨m, built, carries_of_build lookup src built⟩

end Watcher

def onePod : PodByIPCache .documented :=
  PodByIPCache.new.onAddOrUpdate (samplePod "p1" "a" .running none)

theorem holds_onePod {q : Pod} :
    onePod.indexer.Holds q ↔ q = samplePod "p1" "a" .running none := by
  unfold onePod PodByIPCache.onAddOrUpdate PodByIPCache.new
  simp only [Indexer.holds_add, Indexer.not_holds_empty, and_false, or_false]

theorem get_onePod (o : VisitOrder PodKey) :
    onePod.get o (dotted ⟨10, 14, 7, 12⟩) = (.ok (samplePod "p1" "a" .running none), onePod) :=
  get_only (holds_onePod.mpr rfl) (by decide) rfl (fun _ held _ => holds_onePod.mp held) o

theorem source_onePod (o : VisitOrder PodKey) (d : IPv4) :
    (onePod.get o (dotted (ipFromInt32 (rawMetric ⟨10, 14, 7, 12⟩ d).srcIp))).1 =
      .ok (samplePod "p1" "a" .running none) := by
  rw [srcIp_rawMetric, get_onePod]

def sampleNode (name : String) : Node :=
  ⟨name, [("topology.kubernetes.io/zone", "z1")], [⟨.internalIP, "10.0.0.9"⟩]⟩

def oneNode : NodeStore :=
  .listed [sampleNode "n1"] (by decide)

def twoNodes : NodeStore :=
  .listed [sampleNode "n1", sampleNode "n2"] (by decide)

theorem metric_to_single_node :
    (onePod.get (.first ("team1", "p1")) (dotted ⟨10, 14, 7, 12⟩)).1 =
      .ok (samplePod "p1" "a" .running none) ∧
    ∃ m, (buildPodNetworkMetric .documented (podWatcher oneNode (fun _ => .first ("team1", "p1")))
        (fun _ => []) (onePod, 0) (rawMetric ⟨10, 14, 7, 12⟩ ⟨10, 0, 0, 9⟩)).1 = .ok m ∧
      Carries (rawMetric ⟨10, 14, 7, 12⟩ ⟨10, 0, 0, 9⟩) (samplePod "p1" "a" .running none) m := by
  refine ⟨by rw [get_onePod], (destination_best_effort_iff _ (source_onePod _ _)).mpr ?_⟩
  rw [dstIp_rawMetric]
  rintro ⟨_, _, several⟩
  exact absurd several (by decide)

theorem metric_to_ambiguous_node_dropped :
    (onePod.get (.first ("team1", "p1")) (dotted ⟨10, 14, 7, 12⟩)).1 =
      .ok (samplePod "p1" "a" .running none) ∧
    (buildPodNetworkMetric .documented (podWatcher twoNodes (fun _ => .first ("team1", "p1")))
      (fun _ => []) (onePod, 0) (rawMetric ⟨10, 14, 7, 12⟩ ⟨10, 0, 0, 9⟩)).1 =
      .error ⟨"expected single node for ip 10.0.0.9, got 2",
        .other "expected single node for ip 10.0.0.9, got 2"⟩ := by
  obtain ⟨srcZone, built⟩ := build_podWatcher .documented twoNodes
    (fun _ => .first ("team1", "p1")) 0 (fun _ => []) (source_onePod _ ⟨10, 0, 0, 9⟩)
  refine ⟨by rw [get_onePod], ?_⟩
  rw [built, srcIp_rawMetric, dstIp_rawMetric, get_onePod, destination_of_no_pod]
  · rfl
  · intro q held
    rw [holds_onePod.mp held]
    decide

/-- A destination that is the internal address of one node and the address of two pods, which run
    on the network of their host. -/
structure HostNetwork (nodes : NodeStore) (c : PodByIPCache X) (ip : String) (node : Node) : Prop where
  oneNode : nodes.byIndex nodeIPIdx ip = [node]
  twoPods : ∃ p q, p ≠ q ∧ ∀ r ∈ [p, q], c.indexer.Holds r ∧ r.podIP = ip ∧ r.phase = .running ∧
    r.hostNetwork = true

structure NamesNode (node : Node) (m : PodNetworkMetric) : Prop where
  dstPod : m.dstPod = ""
  dstNamespace : m.dstNamespace = ""
  dstNode : m.dstNode = node.name
  dstZone : m.dstZone = getNodeZone node

theorem HostNetwork.exists_held {nodes : NodeStore} {c : PodByIPCache X} {ip : String} {node : Node}
    (h : HostNetwork nodes c ip node) {pod : Pod} (held : c.indexer.Holds pod) :
    ∃ r, (withoutFinished c.indexer pod).Holds r ∧ r.podIP = ip := by
  obtain ⟨p, q, _, pods⟩ := h.twoPods
  obtain ⟨heldp, address, running, _⟩ := pods p List.mem_cons_self
  refine ⟨p, (holds_withoutFinished held).mpr ⟨heldp, ?_⟩, address⟩
  rintro rfl
  simp [Pod.active, running]

theorem namesNode_podMetric_iff (N : Netaddr) (nodes : NodeStore) (conn : PbRawNetworkMetric)
    (pod : Pod) (srcZone : String) (q : Pod) (node : Node) :
    (∃ m, ((nodeInfo (nodes.getNodeByName q.nodeName)).map
        (fun info => (⟨q.name, q.ns, info.1, info.2⟩ : Destination))).map
        (fun dst => podMetric N conn pod srcZone dst []) = .ok m ∧ NamesNode node m) ↔
      q.name = "" ∧ q.ns = "" ∧
        nodeInfo (nodes.getNodeByName q.nodeName) = .ok (node.name, getNodeZone node) := by
  obtain ⟨info, found⟩ := exists_nodeInfo (settled_getNodeByName nodes q.nodeName)
  rw [found]
  constructor
  · rintro ⟨m, built, names⟩
    cases built
    obtain ⟨name, ns, node, zone⟩ := names
    exact ⟨name, ns, congrArg Except.ok (Prod.ext node zone)⟩
  · rintro ⟨name, ns, same⟩
    rw [Except.ok.injEq] at same
    cases same
    exact ⟨_, rfl, name, ns, rfl, rfl⟩

/-- Traffic to a node on which two pods use the host's network names the node and no pod, in
    every order of the index, exactly if each pod that can be found first has an empty name and
    namespace and runs on a node of the same name and zone. -/
theorem host_network_destination_iff {N : Netaddr} {nodes : NodeStore} {c : PodByIPCache X}
    {pod : Pod} {conn : PbRawNetworkMetric} {node : Node} (lookup : Int32 → Bytes)
    (o : VisitOrder PodKey) (src : (c.get o (dotted (ipFromInt32 conn.srcIp))).1 = .ok pod)
    (isPrivate : N.isPrivate (.v4 (ipFromInt32 conn.dstIp)) = true)
    (host : HostNetwork nodes c (dotted (ipFromInt32 conn.dstIp)) node) :
    (∀ o', ∃ m, (buildPodNetworkMetric N (podWatcher nodes (fun k => if k = 0 then o else o'))
      lookup (c, 0) conn).1 = .ok m ∧ NamesNode node m) ↔
    ∀ q, (withoutFinished c.indexer pod).IsEarliest (dotted (ipFromInt32 conn.dstIp)) q →
      q.name = "" ∧ q.ns = "" ∧
        nodeInfo (nodes.getNodeByName q.nodeName) = .ok (node.name, getNodeZone node) := by
  have after := indexer_of_get src
  -- What the metric says of the destination, if the second lookup finds `q`.
  have names : ∀ o' q, ((c.get o (dotted (ipFromInt32 conn.srcIp))).2.get o'
        (dotted (ipFromInt32 conn.dstIp))).1 = .ok q →
      ((∃ m, (buildPodNetworkMetric N (podWatcher nodes (fun k => if k = 0 then o else o'))
        lookup (c, 0) conn).1 = .ok m ∧ NamesNode node m) ↔ q.name = "" ∧ q.ns = "" ∧
          nodeInfo (nodes.getNodeByName q.nodeName) = .ok (node.name, getNodeZone node)) := by
    intro o' q found
    obtain ⟨srcZone, built⟩ := build_podWatcher N nodes (fun k => if k = 0 then o else o') 0
      lookup src
    rw [built, if_pos isPrivate, destination_of_get found]
    exact namesNode_podMetric_iff N nodes conn pod srcZone q node
  rw [← after]
  constructor
  · intro all q earliest
    exact (names (.first q.key) q (get_first earliest)).mp (all (.first q.key))
  · intro unnamed o'
    obtain ⟨r, held, address⟩ := host.exists_held (earliest_of_get src).held
    rw [← after] at held
    obtain ⟨q, found⟩ := exists_get held address o'
    exact (names o' q found).mpr (unnamed q (earliest_of_get found))

def hostPod (name : String) (created : Time) : Pod :=
  ⟨"kube-system", name, name, created, none, "n1", true, "10.0.0.9", .running⟩

def hostPods : PodByIPCache .documented :=
  (onePod.onAddOrUpdate (hostPod "h1" 0)).onAddOrUpdate (hostPod "h2" minute)

theorem holds_hostPods {q : Pod} : hostPods.indexer.Holds q ↔
    q = hostPod "h2" minute ∨ q = hostPod "h1" 0 ∨ q = samplePod "p1" "a" .running none := by
  unfold hostPods PodByIPCache.onAddOrUpdate
  rw [Indexer.holds_add, Indexer.holds_add, holds_onePod]
  constructor
  · tauto
  · rintro (rfl | rfl | rfl)
    · exact .inl rfl
    · exact .inr ⟨by decide, .inl rfl⟩
    · exact .inr ⟨by decide, .inr ⟨by decide, rfl⟩⟩

theorem get_hostPods (o : VisitOrder PodKey) :
    hostPods.get o (dotted ⟨10, 14, 7, 12⟩) = (.ok (samplePod "p1" "a" .running none), hostPods) := by
  refine get_only (holds_hostPods.mpr (.inr (.inr rfl))) (by decide) rfl ?_ o
  intro q held address
  rcases holds_hostPods.mp held with rfl | rfl | rfl
  · exact absurd address (by decide)
  · exact absurd address (by decide)
  · rfl

theorem source_hostPods (o : VisitOrder PodKey) (d : IPv4) :
    (hostPods.get o (dotted (ipFromInt32 (rawMetric ⟨10, 14, 7, 12⟩ d).srcIp))).1 =
      .ok (samplePod "p1" "a" .running none) := by
  rw [srcIp_rawMetric, get_hostPods]

theorem earliest_hostPods :
    hostPods.indexer.IsEarliest (dotted ⟨10, 0, 0, 9⟩) (hostPod "h1" 0) where
  held := holds_hostPods.mpr (.inr (.inl rfl))
  address := by decide
  first q held address := by
    rcases holds_hostPods.mp held with rfl | rfl | rfl <;> decide

theorem hostNetwork_hostPods :
    HostNetwork oneNode hostPods (dotted ⟨10, 0, 0, 9⟩) (sampleNode "n1") where
  oneNode := by decide
  twoPods := by
    refine ⟨hostPod "h1" 0, hostPod "h2" minute, by decide, ?_⟩
    intro r mem
    rcases List.mem_pair.mp mem with rfl | rfl
    · exact ⟨holds_hostPods.mpr (.inr (.inl rfl)), by decide, rfl, rfl⟩
    · exact ⟨holds_hostPods.mpr (.inl rfl), by decide, rfl, rfl⟩

theorem host_network_pod_blamed_for_some_order :
    HostNetwork oneNode hostPods (dotted ⟨10, 0, 0, 9⟩) (sampleNode "n1") ∧
    ¬ ∀ o', ∃ m, (buildPodNetworkMetric .documented
      (podWatcher oneNode (fun k => if k = 0 then .first ("team1", "p1") else o')) (fun _ => [])
      (hostPods, 0) (rawMetric ⟨10, 14, 7, 12⟩ ⟨10, 0, 0, 9⟩)).1 = .ok m ∧
        NamesNode (sampleNode "n1") m := by
  refine ⟨hostNetwork_hostPods, fun all => ?_⟩
  have unnamed := (host_network_destination_iff _ _ (source_hostPods _ ⟨10, 0, 0, 9⟩)
    (by rw [dstIp_rawMetric]; decide) (by rw [dstIp_rawMetric]; exact hostNetwork_hostPods)).mp all
    (hostPod "h1" 0) (by rw [dstIp_rawMetric]; exact earliest_hostPods)
  exact absurd unnamed.1 (by decide)

theorem host_network_pod_blamed :
    (hostPods.get (.first ("team1", "p1")) (dotted ⟨10, 14, 7, 12⟩)).1 =
      .ok (samplePod "p1" "a" .running none) ∧
    Netaddr.documented.isPrivate (.v4 ⟨10, 0, 0, 9⟩) = true ∧
    HostNetwork oneNode hostPods (dotted ⟨10, 0, 0, 9⟩) (sampleNode "n1") ∧
    ∃ m, (buildPodNetworkMetric .documented
        (podWatcher oneNode (fun _ => .first ("kube-system", "h1"))) (fun _ => []) (hostPods, 0)
        (rawMetric ⟨10, 14, 7, 12⟩ ⟨10, 0, 0, 9⟩)).1 = .ok m ∧
      m.dstPod = "h1" ∧ m.dstNamespace = "kube-system" := by
  obtain ⟨srcZone, built⟩ := build_podWatcher .documented oneNode
    (fun _ => .first ("kube-system", "h1")) 0 (fun _ => []) (source_hostPods _ ⟨10, 0, 0, 9⟩)
  refine ⟨by rw [get_hostPods], by decide, hostNetwork_hostPods, ?_⟩
  rw [built, srcIp_rawMetric, dstIp_rawMetric, get_hostPods,
    destination_of_get (get_first earliest_hostPods)]
  exact ⟨_, rfl, rfl, rfl⟩

end Egressd.Exporter
