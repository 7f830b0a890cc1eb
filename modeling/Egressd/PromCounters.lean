import Egressd.BinaryRounding
import Egressd.CollectorCleanup
import Egressd.CollectorTable
import Egressd.ExportAccounting
import Egressd.Pipeline
import Egressd.PromSink

set_option autoImplicit false

namespace Egressd.PromCounters
open PartialRuns Finmap Conntrack BinaryRounding CollectorModel CollectorHandler CollectorSteps
open CollectorRuns CollectorTable Exporter ExportAccounting Pipeline

/-- The conversion `float64(v)`, as the integer that the result denotes. -/
def float64 (v : Int64) : ℤ := roundInt 53 v.toInt

inductive Metric where
  | transmit
  | received
  deriving DecidableEq, Repr

def Metric.name : Metric → String
  | .transmit => "egressd_transmit_bytes_total"
  | .received => "egressd_received_bytes_total"

def Metric.field : Metric → CounterField
  | .transmit => .txBytes
  | .received => .rxBytes

def Metric.valueFunc (metric : Metric) (m : PodNetworkMetric) : ℤ :=
  float64 (podCounter m metric.field)

structure PromSinkConfig extends SinkPromRemoteWriteConfig where
  sendReceivedBytesMetric : Bool

def PromSinkConfig.metrics (cfg : PromSinkConfig) : List Metric :=
  if cfg.sendReceivedBytesMetric then [.transmit, .received] else [.transmit]

/-- The requests of `PromRemoteWriteSink.Push`, each written by a goroutine of its own. -/
def push (N : Netaddr) (cfg : PromSinkConfig) (orders : Metric → ℕ → VisitOrder Bytes) (now : Time)
    (items : List PodNetworkMetric) : List (Metric × WriteRequest ℤ) :=
  cfg.metrics.map (fun metric => (metric, pushMetric N cfg.toSinkPromRemoteWriteConfig
    (orders metric) now metric.name metric.valueFunc items))

variable {κ : Type} [DecidableEq κ]

section Counting

def creditsOf (P : Packages κ) (cfg : Config) (g : Group) (k : CounterField) : Observer κ ℕ where
  record c e :=
    match flowOf P.netaddr e with
    | .ok t => if groupOf P.netaddr cfg e = .ok g then [credit P cfg c e t k] else []
    | .error _ => []
  handle _ _ := []

def counted (P : Packages κ) (E : Encoders) (cfg : Config) (ops : List (Op κ)) (g : Group)
    (k : CounterField) : ℕ :=
  ((creditsOf P cfg g k).run P E cfg (.empty κ) ops).sum

def KeepsMetric (P : Packages κ) (g : Group) (c : Collector κ) : Op κ → Prop
  | .cleanup now => ∀ m, metricOf P c g = some m → now ≤ m.lifetime
  | _ => True

variable {P : Packages κ} {E : Encoders} {cfg : Config} {g : Group} {k : CounterField}

theorem value_cleanup_of_kept {c : Collector κ} {now : Time} (h : KeepsMetric P g c (.cleanup now)) :
    value P (c.cleanup now) g k = value P c g k := by
  unfold value
  cases metric : metricOf P c g with
  | none =>
    have none : metricOf P (c.cleanup now) g = none := by
      rw [metricOf, lookup_cleanup, ← metricOf, metric]
      rfl
    rw [none]
  | some m => rw [CollectorCleanup.metricOf_cleanup_of_le metric (h m metric)]

theorem value_eq_counted (counterMode : cfg.sendTrafficDelta = false) {ops : List (Op κ)}
    {c : Collector κ} (run : Runs (step P E cfg) (.empty κ) ops c)
    (kept : Admitted (step P E cfg) (KeepsMetric P g) (.empty κ) ops) :
    value P c g k = Int64.ofNat (counted P E cfg ops g k) := by
  refine (creditsOf P cfg g k).induction (fun ws c => value P c g k = Int64.ofNat ws.sum)
    (KeepsMetric P g) ?_ (fun _ _ h => h) ?_ (fun _ _ now keeps h => ?_) run kept rfl
  · intro ws c e t g' flow group h
    rw [value_recorded, h, List.sum_append, Int64.ofNat_add]
    congr 1
    simp only [creditsOf, flow, group, Except.ok.injEq]
    by_cases same : g = g'
    · rw [if_pos same, if_pos same.symm, List.sum_singleton]
    · rw [if_neg same, if_neg (Ne.symm same)]
      rfl
  · intro ws c call h
    have idle : (getRawNetworkMetricsHandler E cfg c call).collector = c := by
      rcases handler_cases E cfg c call with ⟨same, _⟩ | ⟨same, _⟩
      · exact same
      · rw [same, resetDeltas, counterMode]
        rfl
    rw [idle, show (creditsOf P cfg g k).handle c call = [] from rfl, List.append_nil]
    exact h
  · rw [value_cleanup_of_kept keeps]
    exact h

theorem counted_append {early later : List (Op κ)} {c : Collector κ}
    (run : Runs (step P E cfg) (.empty κ) early c) :
    counted P E cfg early g k ≤ counted P E cfg (early ++ later) g k := by
  unfold counted Observer.run
  rw [observe_append run, List.sum_append]
  exact Nat.le_add_right _ _

theorem counter_of_sent {c : Collector κ} (reachable : Reachable P E cfg c) {call : HandlerCall κ}
    {batch : RawNetworkMetricBatch}
    (sent : (getRawNetworkMetricsHandler E cfg c call).outcome = .sent batch)
    {item : PbRawNetworkMetric} (mem : item ∈ batch.items) (carries : CollectorSteps.Carries item g) :
    item.counter k = value P c g k := by
  obtain ⟨g', m, metric, rfl⟩ := ((lists_sent reachable sent).mem item).mp mem
  have own := (wellKeyed_of_reachable reachable).carries metric
  rw [own.unique carries] at metric
  change metricOf P c g = some m at metric
  rw [value, metric]
  rfl

end Counting

/-- After a run, the collector has sent a batch with a metric of the group, and the sink writes
    the sample for what the exporter has built from it. -/
def Shows (P : Packages κ) (E : Encoders) (cfg : Config) (ops : List (Op κ)) (g : Group)
    (metric : Metric) (v : ℤ) : Prop :=
  ∃ c call batch, Runs (step P E cfg) (.empty κ) ops c ∧
    (getRawNetworkMetricsHandler E cfg c call).outcome = .sent batch ∧
    ∃ item ∈ batch.items, CollectorSteps.Carries item g ∧
    ∃ (σ : Type) (W : KubeWatcher σ) (lookup : Int32 → Bytes) (s : σ) (m : PodNetworkMetric),
      (buildPodNetworkMetric P.netaddr W lookup s item).1 = .ok m ∧
    ∃ (sink : PromSinkConfig) (orders : Metric → ℕ → VisitOrder Bytes) (now : Time)
      (items : List PodNetworkMetric) (request : WriteRequest ℤ) (i : ℕ) (series : TimeSeries ℤ),
      (metric, request) ∈ push P.netaddr sink orders now items ∧ items[i]? = some m ∧
      request.timeSeries[i]? = some series ∧ series.sample.value = v

theorem sample_of_shows {P : Packages κ} {E : Encoders} {cfg : Config}
    (counterMode : cfg.sendTrafficDelta = false) {ops : List (Op κ)} {g : Group} {metric : Metric}
    {v : ℤ} (h : Shows P E cfg ops g metric v)
    (kept : Admitted (step P E cfg) (KeepsMetric P g) (.empty κ) ops)
    (small : counted P E cfg ops g metric.field < 2 ^ 63) :
    v = roundEven 53 (counted P E cfg ops g metric.field) := by
  obtain ⟨c, call, batch, run, sent, item, mem, carries, σ, W, lookup, s, m, built, sink, orders,
    now, items, request, i, series, pushed, here, written, rfl⟩ := h
  obtain ⟨_, _, eq⟩ := List.mem_map.mp pushed
  cases eq
  have tells := tells_of_build carries built
  have counter : podCounter m metric.field = item.counter metric.field := by
    cases metric with
    | transmit => exact tells.txBytes
    | received => exact tells.rxBytes
  rw [counter_of_sent ⟨ops, run⟩ sent mem carries, value_eq_counted counterMode run kept] at counter
  rw [pushMetric, timeSeries, List.getElem?_mapIdx, here] at written
  cases written
  change float64 (podCounter m metric.field) = _
  rw [counter, float64, Int64.toInt_ofNat_of_lt small]
  rfl

/-- In counter mode, along every run that keeps the metric of a group and has not counted
    `2 ^ 63` bytes for it: the samples of its series never fall, a sample is the number of bytes
    up to `2 ^ 53`, and beyond that it is off by one in `2 ^ 53` at most. -/
theorem counter_samples_never_fall (P : Packages κ) (E : Encoders) (cfg : Config)
    (counterMode : cfg.sendTrafficDelta = false) {early later : List (Op κ)} {g : Group}
    (kept : Admitted (step P E cfg) (KeepsMetric P g) (.empty κ) (early ++ later)) (metric : Metric)
    (small : counted P E cfg (early ++ later) g metric.field < 2 ^ 63) {v w : ℤ}
    (before : Shows P E cfg early g metric v) (after : Shows P E cfg (early ++ later) g metric w) :
    v ≤ w ∧
    (counted P E cfg (early ++ later) g metric.field < 2 ^ 53 →
      w = counted P E cfg (early ++ later) g metric.field) ∧
    2 ^ 53 * |w - counted P E cfg (early ++ later) g metric.field| ≤
      counted P E cfg (early ++ later) g metric.field := by
  have rises : counted P E cfg early g metric.field ≤
      counted P E cfg (early ++ later) g metric.field := by
    obtain ⟨c, _, _, run, _⟩ := before
    exact counted_append run
  have first := sample_of_shows counterMode before kept.left (rises.trans_lt small)
  have last := sample_of_shows counterMode after kept small
  generalize counted P E cfg (early ++ later) g metric.field = n at *
  rw [first, last]
  refine ⟨Int.ofNat_le.mpr (roundEven_mono (by decide) rises), fun exact => ?_, ?_⟩
  · rw [roundEven_eq exact]
  · obtain ⟨up, down⟩ := roundEven_error (p := 53) (by decide) n
    rcases abs_cases ((roundEven 53 n : ℤ) - n) with ⟨eq, _⟩ | ⟨eq, _⟩ <;> rw [eq] <;> omega

theorem shows_of_metric {P : Packages κ} {E : Encoders} {cfg : Config} {ops : List (Op κ)}
    {c : Collector κ} (run : Runs (step P E cfg) (.empty κ) ops c) {g : Group}
    {m : RawNetworkMetric} (metric : metricOf P c g = some m) (call : HandlerCall κ)
    (sent : (getRawNetworkMetricsHandler E cfg c call).outcome = .sent (batchOf c call))
    (sink : PromSinkConfig) (o : VisitOrder Bytes) :
    Shows P E cfg ops g .transmit (float64 m.txBytes) := by
  have built : ∃ pm, (buildPodNetworkMetric P.netaddr onePodWatcher (fun _ => []) ()
      m.toPbRawNetworkMetric).1 = .ok pm := by
    unfold buildPodNetworkMetric
    simp only [onePodWatcher, nodeInfo]
    split <;> exact ⟨_, rfl⟩
  obtain ⟨pm, built⟩ := built
  have carries := (wellKeyed_of_reachable ⟨ops, run⟩).carries metric
  have tells := tells_of_build carries built
  refine ⟨c, call, _, run, sent, m.toPbRawNetworkMetric, mem_batchOf.mpr ⟨_, m, metric, rfl⟩,
    carries, Unit, onePodWatcher, _, (), pm, built, sink, fun _ _ => o, 0, [pm], _, 0, _,
    List.mem_map.mpr ⟨.transmit, ?_, rfl⟩, rfl, rfl, ?_⟩
  · unfold PromSinkConfig.metrics
    split <;> exact List.mem_cons_self
  · exact congrArg float64 tells.txBytes

def scraped (txBytes : UInt64) : List (Op Bytes) := [.collect (.ok [sampleEntry txBytes 0])]

def afterScrape (c : Collector Bytes) (txBytes : UInt64) : Collector Bytes :=
  { recorded .documented ⟨false, false⟩ c (sampleEntry txBytes 0) sampleFlow sampleGroup with
    firstCollectDone := true }

theorem runs_scraped (c : Collector Bytes) (txBytes : UInt64) :
    Runs (step .documented .buffering ⟨false, false⟩) c (scraped txBytes) (afterScrape c txBytes) :=
  .next (step_collect_sample _ _ _ _ _ _) (.refl _)

theorem shows_scraped {ops : List (Op Bytes)} {c : Collector Bytes}
    (run : Runs (step .documented .buffering ⟨false, false⟩) (.empty Bytes) ops c)
    (txBytes : UInt64) : ∃ v, Shows .documented .buffering ⟨false, false⟩ (ops ++ scraped txBytes)
      sampleGroup .transmit v := by
  have metric := metricOf_recorded .documented ⟨false, false⟩ c (sampleEntry txBytes 0) sampleFlow
    sampleGroup sampleGroup
  rw [if_pos ⟨rfl, rfl⟩] at metric
  exact ⟨_, shows_of_metric (c := afterScrape c txBytes) (run.append (runs_scraped c txBytes)) metric
    (sampleCall ⟨[]⟩ ⟨fun _ _ => none⟩) rfl ⟨⟨∅, ∅⟩, false⟩ (.first [])⟩

theorem counted_scraped (txBytes : UInt64) (c : Collector Bytes) :
    observe (step .documented .buffering ⟨false, false⟩)
        ((creditsOf .documented ⟨false, false⟩ sampleGroup .txBytes).op .documented ⟨false, false⟩) c
        (scraped txBytes) =
      [txBytes.toNat - reading .documented c sampleFlow .txBytes] := by
  have credits : (creditsOf .documented ⟨false, false⟩ sampleGroup .txBytes).record c
      (sampleEntry txBytes 0) = [txBytes.toNat - reading .documented c sampleFlow .txBytes] := by
    simp only [creditsOf, flowOf_sampleEntry, groupOf_sampleEntry, if_true, credit_eq]
    rfl
  rw [scraped, observe_next (step_collect_sample _ _ _ _ _ _)]
  change observe _ _ c [sampleEntry txBytes 0] ++ [] = _
  rw [observe_next (record_iff.mpr ⟨_, _, flowOf_sampleEntry _ _ _, groupOf_sampleEntry _ _ _ _, rfl⟩),
    credits]
  rfl

theorem counter_samples_never_fall_two_scrapes : ∃ v w,
    Shows .documented .buffering ⟨false, false⟩ (scraped 10) sampleGroup .transmit v ∧
    Shows .documented .buffering ⟨false, false⟩ (scraped 10 ++ scraped 25) sampleGroup .transmit w ∧
    v ≤ w ∧ w = 25 := by
  have early := runs_scraped (.empty Bytes) 10
  have total : counted .documented .buffering ⟨false, false⟩ (scraped 10 ++ scraped 25) sampleGroup
      .txBytes = 25 := by
    unfold counted Observer.run
    rw [observe_append early, counted_scraped, counted_scraped, afterScrape]
    change ([10 - 0] ++ [25 - reading .documented (recorded _ _ _ _ _ _) _ _]).sum = 25
    rw [reading_recorded, if_pos rfl]
    rfl
  obtain ⟨v, before⟩ := shows_scraped (.refl (Collector.empty Bytes)) 10
  obtain ⟨w, after⟩ := shows_scraped early 25
  have kept : Admitted (step .documented .buffering ⟨false, false⟩)
      (KeepsMetric .documented sampleGroup) (.empty Bytes) (scraped 10 ++ scraped 25) := by
    refine .of_forall (fun op mem c => ?_) _
    rcases List.mem_append.mp mem with mem | mem <;> rw [List.mem_singleton.mp mem] <;> trivial
  obtain ⟨le, exact, _⟩ := counter_samples_never_fall .documented .buffering ⟨false, false⟩ rfl kept
    .transmit (total ▸ by decide) before after
  refine ⟨v, w, before, after, le, ?_⟩
  have exact := exact (total ▸ by decide)
  rw [show Metric.transmit.field = .txBytes from rfl, total] at exact
  exact exact

end Egressd.PromCounters
