import Egressd.CollectorTable
import Egressd.ExporterRounds
import Egressd.Fetches
import Egressd.PromSink
import Egressd.TrackedPods

set_option autoImplicit false

namespace Egressd.UniqueSeries
open PartialRuns Conntrack CollectorModel CollectorHandler CollectorSteps CollectorRuns
open CollectorTable TrackedPods Histories Kube Exporter Fetches MetricsPb Finmap

def rawIdentity (conn : PbRawNetworkMetric) : Int32 × Int32 × Int32 :=
  (conn.srcIp, conn.dstIp, conn.proto)

def identityText (id : Int32 × Int32 × Int32) : String × String × Int32 :=
  (dotted (ipFromInt32 id.1), dotted (ipFromInt32 id.2.1), id.2.2)

def podIdentity (m : PodNetworkMetric) : String × String × Int32 := (m.srcIp, m.dstIp, m.proto)

theorem identityText_injective : Function.Injective identityText := by
  have address : ∀ v w : Int32, dotted (ipFromInt32 v) = dotted (ipFromInt32 w) → v = w := by
    intro v w same
    rw [← int32_ipFromInt32 v, dotted_injective same, int32_ipFromInt32]
  rintro ⟨src, dst, proto⟩ ⟨src', dst', proto'⟩ same
  simp only [identityText, Prod.mk.injEq] at same ⊢
  exact ⟨address _ _ same.1, address _ _ same.2.1, same.2.2⟩

section Exports

variable {G : GenericsCache} {σ : Type} {N : Netaddr} {W : KubeWatcher σ}

theorem podIdentity_of_build {lookup : Int32 → Bytes} {s : σ} {conn : PbRawNetworkMetric}
    {m : PodNetworkMetric} (built : (buildPodNetworkMetric N W lookup s conn).1 = .ok m) :
    podIdentity m = identityText (rawIdentity conn) := by
  obtain ⟨pod, srcZone, dst, dstDnsName, _, rfl⟩ := podMetric_of_build built
  rw [podIdentity, srcIp_podMetric, dstIp_podMetric]
  rfl

theorem identities_itemResults (d : DnsStorage G) (s : σ) (items : List (PbRawNetworkMetric × Time)) :
    (((itemResults N W d s items).filterMap Except.toOption).map podIdentity).Sublist
      (items.map (fun item => identityText (rawIdentity item.1))) := by
  induction items generalizing s with
  | nil => exact .refl _
  | cons item items ih =>
    rw [itemResults_cons, List.map_cons]
    have rest := ih (buildPodNetworkMetric N W (d.lookup item.2) s item.1).2
    cases built : (buildPodNetworkMetric N W (d.lookup item.2) s item.1).1 with
    | error err => exact rest.cons _
    | ok m =>
      rw [← podIdentity_of_build built]
      exact rest.cons_cons (podIdentity m)

theorem identities_aggregate (a : Aggregation G σ) (pulled : List Pulled) :
    ((aggregate N W a pulled).podsMetrics.map podIdentity).Sublist (a.podsMetrics.map podIdentity ++
      (pulled.flatMap (·.items)).map (fun item => identityText (rawIdentity item.1))) := by
  induction pulled generalizing a with
  | nil =>
    rw [List.flatMap_nil, List.map_nil, List.append_nil]
    exact .refl _
  | cons p pulled ih =>
    refine (ih (aggregateBatch N W a p)).trans ?_
    rw [List.flatMap_cons, List.map_append, ← List.append_assoc]
    refine List.Sublist.append ?_ (.refl _)
    rw [aggregateBatch, podsMetrics_foldl, List.map_append]
    exact (List.Sublist.refl _).append (identities_itemResults _ _ _)

end Exports

section Nodes

variable {κ : Type} [DecidableEq κ] {P : Packages κ} {c : Collector κ}

theorem nodup_identities (keyed : WellKeyed P c) (call : HandlerCall κ) :
    ((batchOf c call).items.map rawIdentity).Nodup := by
  have items := WellKeyed.nodup_batchOf keyed call
  refine items.map_on ?_
  intro item mem item' mem' same
  obtain ⟨key, m, held, rfl⟩ := mem_batchOf.mp mem
  obtain ⟨key', m', held', rfl⟩ := mem_batchOf.mp mem'
  obtain ⟨g, rfl, carries⟩ := keyed key m held
  obtain ⟨g', rfl, carries'⟩ := keyed key' m' held'
  have group : g = g' := by
    refine carries.unique ?_
    simp only [rawIdentity, Prod.mk.injEq] at same
    exact ⟨same.1.trans carries'.1, same.2.1.trans carries'.2.1, same.2.2.trans carries'.2.2⟩
  rw [group, held'] at held
  cases held
  rfl

/-- A node has answered the exporter with the batch at the end of a run. -/
def Answered (P : Packages κ) (Z : Codecs) (cfg : Config) (excluded : List String)
    (ops : List (NodeOp κ)) (p : Pulled) : Prop :=
  ∃ s call answer url, Runs (Node.step P Z.encoders cfg excluded) (Node.new κ) ops s ∧
    Arrives Z (getRawNetworkMetricsHandler Z.encoders cfg s.collector call).response answer ∧
    fetchRawNetworkMetricsBatch Z.proto url (.ok ()) answer =
      .ok ⟨p.items.map Prod.fst, p.ip2Domain.map Prod.fst⟩

variable {Z : Codecs} {cfg : Config} {excluded : List String} {ops : List (NodeOp κ)}
  {p : Pulled}

theorem Answered.batch (h : Answered P Z cfg excluded ops p) : ∃ c call,
    p.items.map Prod.fst = (batchOf c call).items ∧ WellKeyed P c ∧
      SourcesIn P (Tracked P.netaddr excluded ops) c := by
  obtain ⟨s, call, answer, url, run, arrives, fetched⟩ := h
  obtain ⟨_, _, _, _, batch⟩ := (fetched_iff url (.ok ()) _ arrives).mp fetched
  exact ⟨s.collector, call, congrArg RawNetworkMetricBatch.items batch, wellKeyed_of_run run,
    (sourced_of_run run).sources⟩

theorem Answered.nodup (h : Answered P Z cfg excluded ops p) :
    (p.items.map (fun item => rawIdentity item.1)).Nodup := by
  obtain ⟨c, call, items, keyed, _⟩ := h.batch
  have nodup := nodup_identities keyed call
  rw [← items, List.map_map] at nodup
  exact nodup

theorem Answered.carries (h : Answered P Z cfg excluded ops p) {item : PbRawNetworkMetric × Time}
    (mem : item ∈ p.items) : ∃ g, CollectorSteps.Carries item.1 g ∧
      Tracked P.netaddr excluded ops g.src := by
  obtain ⟨c, call, items, keyed, sources⟩ := h.batch
  have inside : item.1 ∈ (batchOf c call).items := by
    rw [← items]
    exact List.mem_map_of_mem mem
  obtain ⟨key, m, held, eq⟩ := mem_batchOf.mp inside
  obtain ⟨g, rfl, carries⟩ := keyed key m held
  rw [eq]
  refine ⟨g, carries, sources.groups g ?_⟩
  rw [metricOf, held]
  rfl

end Nodes

section Rounds

variable {ι κ : Type} [DecidableEq κ] {P : ι → Packages κ} {Z : Codecs} {cfg : Config}
  {excluded : List String} {log : ι → List (NodeOp κ)} {pulled : List (ι × Pulled)}

theorem nodup_pulled (nodes : (pulled.map Prod.fst).Nodup)
    (answered : ∀ e ∈ pulled, Answered (P e.1) Z cfg excluded (log e.1) e.2)
    (apart : ∀ e ∈ pulled, ∀ e' ∈ pulled, ∀ x, Tracked (P e.1).netaddr excluded (log e.1) x →
      Tracked (P e'.1).netaddr excluded (log e'.1) x → e.1 = e'.1) :
    (((pulled.map Prod.snd).flatMap (·.items)).map (fun item => rawIdentity item.1)).Nodup := by
  rw [List.map_flatMap, List.flatMap_map, List.nodup_flatMap]
  refine ⟨fun e mem => (answered e mem).nodup, ?_⟩
  rw [List.Nodup, List.pairwise_map] at nodes
  refine nodes.imp_of_mem ?_
  intro e e' mem mem' differ id inside inside'
  obtain ⟨item, here, rfl⟩ := List.mem_map.mp inside
  obtain ⟨item', here', same⟩ := List.mem_map.mp inside'
  obtain ⟨g, carries, tracked⟩ := (answered e mem).carries here
  obtain ⟨g', carries', tracked'⟩ := (answered e' mem').carries here'
  have source : g'.src = g.src := by
    have src := congrArg Prod.fst same
    exact IPv4.int32_injective (carries'.1.symm.trans (src.trans carries.1))
  rw [source] at tracked'
  exact differ (apart e mem e' mem' g.src tracked tracked')

theorem canonical_of_carries {σ : Type} {N : Netaddr} {W : KubeWatcher σ} {lookup : Int32 → Bytes}
    {s : σ} {conn : PbRawNetworkMetric} {m : PodNetworkMetric} {g : Group}
    (carries : CollectorSteps.Carries conn g)
    (built : (buildPodNetworkMetric N W lookup s conn).1 = .ok m) : Canonical m := by
  obtain ⟨pod, srcZone, dst, dstDnsName, _, rfl⟩ := podMetric_of_build built
  refine ⟨⟨_, srcIp_podMetric ..⟩, ⟨_, dstIp_podMetric ..⟩, ?_⟩
  change 0 ≤ conn.proto ∧ conn.proto ≤ 255
  have small := g.proto.toNat_lt
  rw [carries.2.2, Int32.le_iff_toInt_le, Int32.le_iff_toInt_le,
    Int32.toInt_ofNat_of_lt (by omega)]
  change (0 : ℤ) ≤ _ ∧ _ ≤ (255 : ℤ)
  omega

end Rounds

/-- In a round that pulls at most one batch from each collector, and whose collectors never tracked
    the same address, no two series of a write request have the same labels, whatever the cluster
    API and the stored domain names make of the raw metrics. -/
theorem round_series_distinct {G : GenericsCache} {ι κ σ ν : Type} [DecidableEq κ]
    (P : ι → Packages κ) (Z : Codecs) (cfg : Config) (excluded : List String)
    (log : ι → List (NodeOp κ))
    {pulled : List (ι × Pulled)} (nodes : (pulled.map Prod.fst).Nodup)
    (answered : ∀ e ∈ pulled, Answered (P e.1) Z cfg excluded (log e.1) e.2)
    (apart : ∀ e ∈ pulled, ∀ e' ∈ pulled, ∀ x, Tracked (P e.1).netaddr excluded (log e.1) x →
      Tracked (P e'.1).netaddr excluded (log e'.1) x → e.1 = e'.1)
    (N : Netaddr) (W : KubeWatcher σ) (s : σ) (d : DnsStorage G) (sink : SinkPromRemoteWriteConfig)
    (orders : ℕ → VisitOrder Bytes) (now : Time) (name : String)
    (valueFunc : PodNetworkMetric → ν) :
    (timeSeries N sink orders now name valueFunc
      (aggregate N W ⟨s, d, [], []⟩ (pulled.map Prod.snd)).podsMetrics).Pairwise
        (fun series series' => ¬ series.labels.Perm series'.labels) := by
  have canonical : ∀ m ∈ (aggregate N W ⟨s, d, [], []⟩ (pulled.map Prod.snd)).podsMetrics,
      Canonical m := by
    intro m mem
    rcases exists_item_of_mem mem with none | ⟨ps, p, qs, split, is, item, js, items, built⟩
    · exact absurd none List.not_mem_nil
    · have inside : p ∈ pulled.map Prod.snd := by
        rw [split]
        exact List.mem_append_right _ List.mem_cons_self
      have here : item ∈ p.items := by
        rw [items]
        exact List.mem_append_right _ List.mem_cons_self
      obtain ⟨e, mem, rfl⟩ := List.mem_map.mp inside
      obtain ⟨g, carries, _⟩ := (answered e mem).carries here
      exact canonical_of_carries carries built
  have different := (nodup_pulled nodes answered apart).map identityText_injective
  rw [List.map_map] at different
  have metrics := different.sublist
    (identities_aggregate (N := N) (W := W) ⟨s, d, [], []⟩ (pulled.map Prod.snd))
  rw [List.Nodup, List.pairwise_map] at metrics
  refine pairwise_timeSeries metrics ?_
  intro o o' m m' differ mem mem' perm
  obtain ⟨src, dst, proto⟩ :=
    identity_of_labels (canonical m mem) (canonical m' mem') (initialLabels_perm perm)
  refine differ ?_
  rw [podIdentity, podIdentity, src, dst, proto]

def entryFrom (x : IPv4) : Entry := { sampleEntry 10 0 with src := ⟨.v4 x, 40000⟩ }

def listing (entries : List Entry) : Client where
  listEntries filter := .ok (.ok (entries.filter filter))
  filtered filter _ listed := by
    cases listed
    exact fun e mem => (List.mem_filter.mp mem).2

def oneConnection (o : VisitOrder UID) (x : IPv4) : List (NodeOp Bytes) :=
  [.notify (.add (podAt x)), .collect o (listing [entryFrom x])]

def groupFrom (x : IPv4) : Group := ⟨x, sampleFlow.dst, 6⟩

def metricFrom (x : IPv4) : RawNetworkMetric :=
  freshMetric (groupFrom x) (trafficSince (entryFrom x) none) 0

theorem collectConns_entryFrom (x : IPv4) : ∃ c, Collector.collectConns .documented ⟨false, false⟩
    (.empty Bytes) [entryFrom x] = .ok c ∧
      c.podMetrics = Finmap.singleton (groupKey .documented (groupFrom x)) (metricFrom x) := by
  refine ⟨_, collectConns_iff.mpr ⟨_, .next (record_iff.mpr
    ⟨⟨x, 40000, sampleFlow.dst, 80, 6⟩, groupFrom x, ?_, ?_, rfl⟩) (.refl _), rfl⟩, rfl⟩
  · exact flowOf_iff.mpr ⟨Netaddr.as4_v4 _ _, Netaddr.as4_v4 _ _, rfl, rfl, rfl⟩
  · exact groupOf_iff.mpr ⟨Netaddr.as4_v4 _ _, Netaddr.as4_v4 _ _, rfl⟩

theorem run_oneConnection (o : VisitOrder UID) {x : IPv4} (text : dotted x ≠ "") :
    ∃ s, Runs (Node.step .documented Codecs.stored.encoders ⟨false, false⟩ []) (Node.new Bytes)
        (oneConnection o x) s ∧
      s.collector.podMetrics = Finmap.singleton (groupKey .documented (groupFrom x)) (metricFrom x) := by
  obtain ⟨c, collected, metrics⟩ := collectConns_entryFrom x
  have listed : (listing [entryFrom x]).listEntries (filterBySrcIP {.v4 x}) =
      .ok (.ok [entryFrom x]) := by
    have passes : filterBySrcIP {.v4 x} (entryFrom x) = true :=
      decide_eq_true (Finset.mem_singleton_self _)
    change Except.ok (Except.ok ([entryFrom x].filter _)) = _
    rw [List.filter_cons_of_pos passes, List.filter_nil]
  have ips : getPodIPs Packages.documented.netaddr (getNodePods [] [podAt x]) = .ok {.v4 x} :=
    getPodIPs_podAt List.not_mem_nil text
  rw [← get_podAt o text] at ips
  exact ⟨_, .next rfl (.next (step_collect_of_listed ips listed collected) (.refl _)), metrics⟩

def oneMetric (x : IPv4) : Pulled := ⟨[((metricFrom x).toPbRawNetworkMetric, 0)], []⟩

theorem answered_oneConnection (o : VisitOrder UID) {x : IPv4} (text : dotted x ≠ "")
    (small : ∀ body, Protobuf.wire.raw.marshal ⟨[(metricFrom x).toPbRawNetworkMetric], []⟩ =
      .ok body → body.length < 2 ^ 63) :
    Answered .documented .stored ⟨false, false⟩ [] (oneConnection o x) (oneMetric x) := by
  obtain ⟨s, run, metrics⟩ := run_oneConnection o text
  have batch := batchOf_singleton plainCall metrics
  have sendable : Sendable plainCall := fun r mem => absurd mem List.not_mem_nil
  obtain ⟨answer, arrives, fetched⟩ := fetched_plain (Z := .stored) (c := s.collector) rfl rfl
    sendable (by rwa [batch]) "10.0.0.7:6060"
  exact ⟨s, plainCall, answer, "10.0.0.7:6060", run, arrives, by rw [fetched, batch]; rfl⟩

theorem tracked_oneConnection {o : VisitOrder UID} {x y : IPv4}
    (h : Tracked .documented [] (oneConnection o x) y) : y = x := by
  obtain ⟨before, o', client, after, split, m, pod, last, current, _, _, _, as4⟩ := h
  have reported : m ∈ notifications (oneConnection o x) := by
    rw [split, notifications, List.filterMap_append]
    exact List.mem_append_left _ (List.mem_filter.mp (mem_of_latest last)).1
  rw [List.mem_singleton.mp reported] at current
  cases current
  rw [podIP_podAt, Netaddr.documented.parseIP_dotted, Netaddr.as4_v4] at as4
  cases as4
  rfl

def nodeAddress (i : Bool) : IPv4 := if i then ⟨10, 0, 0, 1⟩ else ⟨10, 0, 0, 3⟩

theorem round_series_distinct_two_nodes :
    let pulled := [true, false].map (fun i => (i, oneMetric (nodeAddress i)))
    let metrics := (aggregate .documented onePodWatcher ⟨(), .new .documented, [], []⟩
      (pulled.map Prod.snd)).podsMetrics
    metrics.length = 2 ∧
    (timeSeries .documented srcIpLabel (fun _ => .first (utf8 "src_ip")) 0
      "egressd_transmit_bytes_total" (fun m => m.txBytes) metrics).Pairwise
        (fun series series' => ¬ series.labels.Perm series'.labels) := by
  intro pulled metrics
  refine ⟨by decide +kernel, round_series_distinct (fun _ => .documented) .stored ⟨false, false⟩
    [] (fun i => oneConnection (.first "u1") (nodeAddress i)) (by decide) ?_ ?_ _ _ _ _ _ _ _ _ _⟩
  · intro e mem
    obtain ⟨i, _, rfl⟩ := List.mem_map.mp mem
    refine answered_oneConnection _ ?_ ?_
    · cases i <;> decide +kernel
    · intro body marshalled
      cases i <;> cases marshalled <;> decide +kernel
  · intro e mem e' mem' x tracked tracked'
    have same := (tracked_oneConnection tracked).symm.trans (tracked_oneConnection tracked')
    revert same
    cases e.1 <;> cases e'.1 <;> decide

end Egressd.UniqueSeries
