import Egressd.CollectorDelta
import Egressd.Fetches

set_option autoImplicit false

namespace Egressd.Deliveries
open Conntrack CollectorModel CollectorHandler CollectorSteps CollectorRuns CollectorDelta
open PartialRuns Fetches

inductive Act (ι κ : Type) where
  | collect (i : ι) (conns : Except Error (List Entry))
  | cleanup (i : ι) (now : Time)
  | fetch (i : ι) (call : HandlerCall κ) (url : String) (answer : Except Error HTTPResponse)

structure System (ι κ : Type) where
  collectors : ι → Collector κ
  pulled : List (ι × RawNetworkMetricBatch)

def System.start (ι κ : Type) : System ι κ := ⟨fun _ => Collector.empty κ, []⟩

variable {ι κ : Type} [DecidableEq ι] [DecidableEq κ]

def System.set (s : System ι κ) (i : ι) (c : Collector κ) : System ι κ :=
  { s with collectors := Function.update s.collectors i c }

def System.step (P : Packages κ) (Z : Codecs) (cfg : Config) (s : System ι κ) :
    Act ι κ → Except Panic (System ι κ)
  | .collect i conns => do
    return s.set i (← CollectorRuns.step P Z.encoders cfg (s.collectors i) (.collect conns))
  | .cleanup i now => return s.set i ((s.collectors i).cleanup now)
  | .fetch i call url answer =>
    let s' := s.set i (getRawNetworkMetricsHandler Z.encoders cfg (s.collectors i) call).collector
    match fetchRawNetworkMetricsBatch Z.proto url (.ok ()) answer with
    | .ok batch => return { s' with pulled := s.pulled ++ [(i, batch)] }
    | .error _ => return s'

/-- The exporter gets nothing that was not sent to it. -/
def Genuine (Z : Codecs) (cfg : Config) (s : System ι κ) : Act ι κ → Prop
  | .fetch i call _ answer =>
    Arrives Z (getRawNetworkMetricsHandler Z.encoders cfg (s.collectors i) call).response answer
  | _ => True

inductive Kind where
  | credited
  | missed
  | discarded
  deriving DecidableEq

structure Posting (ι : Type) where
  kind : Kind
  node : ι
  amount : Group → CounterField → Int64

def credits (P : Packages κ) (cfg : Config) (i : ι) (c : Collector κ) (e : Entry) :
    List (Posting ι) :=
  match flowOf P.netaddr e, groupOf P.netaddr cfg e with
  | .ok t, .ok g =>
    [⟨.credited, i, fun h k => if h = g then Int64.ofNat (credit P cfg c e t k) else 0⟩]
  | _, _ => []

/-- A handler call that finished, although the exporter did not get the batch. -/
def missed (i : ι) : Outcome → Except FetchError RawNetworkMetricBatch → List (Posting ι)
  | .sent batch, .error _ => [⟨.missed, i, batchValue batch⟩]
  | _, _ => []

def posted (P : Packages κ) (Z : Codecs) (cfg : Config) (s : System ι κ) :
    Act ι κ → List (Posting ι)
  | .collect i (.ok conns) =>
    observe (Collector.record P cfg) (credits P cfg i) (s.collectors i) conns
  | .collect _ (.error _) => []
  | .cleanup i now =>
    [⟨.discarded, i, fun g k =>
      if (metricOf P ((s.collectors i).cleanup now) g).isSome then 0
      else value P (s.collectors i) g k⟩]
  | .fetch i call url answer =>
    missed i (getRawNetworkMetricsHandler Z.encoders cfg (s.collectors i) call).outcome
      (fetchRawNetworkMetricsBatch Z.proto url (.ok ()) answer)

def total (ps : List (Posting ι)) (kind : Kind) (i : ι) (g : Group) (k : CounterField) : Int64 :=
  ((ps.filter (fun p => p.kind = kind ∧ p.node = i)).map (fun p => p.amount g k)).sum

def ledger (P : Packages κ) (Z : Codecs) (cfg : Config) (acts : List (Act ι κ)) : List (Posting ι) :=
  observe (System.step P Z cfg) (posted P Z cfg) (System.start ι κ) acts

def System.pulledFrom (s : System ι κ) (i : ι) : List RawNetworkMetricBatch :=
  (s.pulled.filter (fun e => e.1 = i)).map Prod.snd

section Totals

variable (kind : Kind) (i j : ι) (g : Group) (k : CounterField)

theorem total_append (ps qs : List (Posting ι)) :
    total (ps ++ qs) kind i g k = total ps kind i g k + total qs kind i g k := by
  rw [total, List.filter_append, List.map_append, List.sum_append]
  rfl

theorem total_single (kind' : Kind) (amount : Group → CounterField → Int64) :
    total [⟨kind', i, amount⟩] kind i g k = if kind' = kind then amount g k else 0 := by
  by_cases h : kind' = kind
  · simp [total, h]
  · simp [total, h]

theorem total_other {ps : List (Posting ι)} (nodes : ∀ p ∈ ps, p.node = j) (h : j ≠ i) :
    total ps kind i g k = 0 := by
  have none : ps.filter (fun p => p.kind = kind ∧ p.node = i) = [] := by
    refine List.filter_eq_nil_iff.mpr (fun p mem => ?_)
    simp [nodes p mem, h]
  rw [total, none]
  rfl

end Totals

/-- What was pulled, missed or discarded and what is pending is what was credited. -/
structure Balanced (P : Packages κ) (ps : List (Posting ι)) (s : System ι κ) : Prop where
  keyed : ∀ i, WellKeyed P (s.collectors i)
  balance : ∀ i g k, batchesValue (s.pulledFrom i) g k + total ps .missed i g k +
    total ps .discarded i g k + value P (s.collectors i) g k = total ps .credited i g k

structure NodeStep (P : Packages κ) (i : ι) (c c' : Collector κ) (qs : List (Posting ι))
    (got : List RawNetworkMetricBatch) : Prop where
  keyed : WellKeyed P c'
  nodes : ∀ q ∈ qs, q.node = i
  moved : ∀ g k, batchesValue got g k + total qs .missed i g k + total qs .discarded i g k +
    value P c' g k = value P c g k + total qs .credited i g k

omit [DecidableEq κ] in
theorem pulledFrom_append (s : System ι κ) (i j : ι) (c : Collector κ)
    (got : List RawNetworkMetricBatch) :
    System.pulledFrom { s.set i c with pulled := s.pulled ++ got.map (fun b => (i, b)) } j =
      s.pulledFrom j ++ if i = j then got else [] := by
  unfold System.pulledFrom
  rw [List.filter_append, List.map_append]
  by_cases h : i = j
  · have all : (got.map (fun b => (i, b))).filter (fun e => e.1 = j) =
        got.map (fun b => (i, b)) := by
      refine List.filter_eq_self.mpr (fun e mem => ?_)
      obtain ⟨b, _, rfl⟩ := List.mem_map.mp mem
      exact decide_eq_true h
    rw [if_pos h, all, List.map_map]
    exact congrArg _ (List.map_id _)
  · have none : (got.map (fun b => (i, b))).filter (fun e => e.1 = j) = [] := by
      refine List.filter_eq_nil_iff.mpr (fun e mem => ?_)
      obtain ⟨b, _, rfl⟩ := List.mem_map.mp mem
      simpa using h
    rw [if_neg h, none]
    rfl

theorem Balanced.node {P : Packages κ} {ps qs : List (Posting ι)} {s : System ι κ} {i : ι}
    {c' : Collector κ} {got : List RawNetworkMetricBatch} (h : Balanced P ps s)
    (node : NodeStep P i (s.collectors i) c' qs got) :
    Balanced P (ps ++ qs)
      { s.set i c' with pulled := s.pulled ++ got.map (fun b => (i, b)) } := by
  constructor
  · intro j
    change WellKeyed P (Function.update s.collectors i c' j)
    by_cases same : j = i
    · subst same
      rw [Function.update_self]
      exact node.keyed
    · rw [Function.update_of_ne same]
      exact h.keyed j
  · intro j g k
    have before := h.balance j g k
    change batchesValue _ g k + _ + _ + value P (Function.update s.collectors i c' j) g k = _
    rw [pulledFrom_append, batchesValue_append, total_append, total_append, total_append]
    by_cases same : i = j
    · subst same
      have moved := node.moved g k
      rw [if_pos rfl, Function.update_self]
      grind
    · rw [if_neg same, Function.update_of_ne (Ne.symm same),
        total_other _ _ _ _ _ node.nodes same, total_other _ _ _ _ _ node.nodes same,
        total_other _ _ _ _ _ node.nodes same]
      change _ + 0 + _ + _ + _ = _
      simp only [Int64.add_zero]
      exact before

section NodeSteps

variable {P : Packages κ} {Z : Codecs} {cfg : Config} {c d : Collector κ}

theorem NodeStep.refl (keyed : WellKeyed P c) (i : ι) : NodeStep P i c c [] [] where
  keyed := keyed
  nodes _ mem := by cases mem
  moved g k := by
    change 0 + 0 + 0 + value P c g k = value P c g k + 0
    simp only [Int64.add_zero, Int64.zero_add]

theorem NodeStep.record {i : ι} {qs : List (Posting ι)} {d' : Collector κ} {e : Entry}
    (h : NodeStep P i c d qs []) (recorded : d.record P cfg e = .ok d') :
    NodeStep P i c d' (qs ++ credits P cfg i d e) [] := by
  obtain ⟨t, g, ht, hg, rfl⟩ := record_iff.mp recorded
  have posting : credits P cfg i d e = [⟨.credited, i, fun h k =>
      if h = g then Int64.ofNat (credit P cfg d e t k) else 0⟩] := by
    simp only [credits, ht, hg]
  refine ⟨h.keyed.recorded cfg e t g, ?_, fun g' k => ?_⟩
  · intro q mem
    rw [posting] at mem
    rcases List.mem_append.mp mem with mem | mem
    · exact h.nodes q mem
    · rw [List.mem_singleton.mp mem]
  · have moved := h.moved g' k
    rw [posting, value_recorded]
    simp only [total_append, total_single, reduceCtorEq, if_true, if_false]
    grind

theorem nodeStep_collect {conns : List Entry} (keyed : WellKeyed P c)
    (collected : c.collectConns P cfg conns = .ok d) (i : ι) :
    NodeStep P i c d (observe (Collector.record P cfg) (credits P cfg i) c conns) [] := by
  obtain ⟨u, records, rfl⟩ := collectConns_iff.mp collected
  have step := records.observed (credits P cfg i) (fun qs d => NodeStep P i c d qs [])
    (fun _ _ => True) (fun _ _ _ _ h _ recorded => h.record recorded)
    (.of_forall (fun _ _ _ => trivial) c) [] (.refl keyed i)
  exact ⟨step.keyed, step.nodes, step.moved⟩

theorem nodeStep_cleanup (keyed : WellKeyed P c) (now : Time) (i : ι) :
    NodeStep P i c (c.cleanup now) [⟨.discarded, i, fun g k =>
      if (metricOf P (c.cleanup now) g).isSome then 0 else value P c g k⟩] [] where
  keyed := keyed.cleanup now
  nodes q mem := by rw [List.mem_singleton.mp mem]
  moved g k := by
    simp only [total_single, reduceCtorEq, if_true, if_false]
    have kept := lookup_cleanup c now (groupKey P g)
    have values : (if (metricOf P (c.cleanup now) g).isSome then 0 else value P c g k) +
        value P (c.cleanup now) g k = value P c g k := by
      unfold value metricOf at *
      rw [kept]
      cases hm : c.podMetrics.lookup (groupKey P g) with
      | none => rfl
      | some m =>
        by_cases alive : (!decide (m.lifetime < now)) = true
        · simp [Option.filter, alive]
        · simp [Option.filter, alive]
    change 0 + 0 + _ + value P (c.cleanup now) g k = value P c g k + 0
    simp only [Int64.add_zero, Int64.zero_add]
    exact values

theorem nodeStep_fetch (deltaMode : cfg.sendTrafficDelta = true) (keyed : WellKeyed P c)
    {call : HandlerCall κ} (url : String) {answer : Except Error HTTPResponse}
    (arrives : Arrives Z (getRawNetworkMetricsHandler Z.encoders cfg c call).response answer)
    (i : ι) : NodeStep P i c (getRawNetworkMetricsHandler Z.encoders cfg c call).collector
      (missed i (getRawNetworkMetricsHandler Z.encoders cfg c call).outcome
        (fetchRawNetworkMetricsBatch Z.proto url (.ok ()) answer))
      (fetchRawNetworkMetricsBatch Z.proto url (.ok ()) answer).toOption.toList := by
  have fetched := fun batch => fetched_iff url (.ok ()) batch arrives
  rcases handler_cases Z.encoders cfg c call with ⟨same, unsent⟩ | ⟨reset, sent⟩
  · -- The exporter got nothing, for the handler would have finished.
    have nothing : ∃ err, fetchRawNetworkMetricsBatch Z.proto url (.ok ()) answer = .error err := by
      cases h : fetchRawNetworkMetricsBatch Z.proto url (.ok ()) answer with
      | error err => exact ⟨err, rfl⟩
      | ok batch =>
        obtain ⟨_, complete, _, sendable, _⟩ := (fetched batch).mp h
        rcases handler_received Z cfg c call with ⟨_, _, _, finished⟩ | ⟨not, _⟩
        · exact absurd (finished complete).1 (unsent _)
        · exact absurd sendable not
    obtain ⟨err, failed⟩ := nothing
    rw [same, failed]
    cases outcome : (getRawNetworkMetricsHandler Z.encoders cfg c call).outcome with
    | sent batch => exact absurd outcome (unsent batch)
    | marshalFailed err' => exact .refl keyed i
    | writeFailed err' => exact .refl keyed i
  · rw [reset, sent]
    have zero := value_resetDeltas (P := P) deltaMode c call.clock
    have pending := batchValue_batchOf keyed call
    cases h : fetchRawNetworkMetricsBatch Z.proto url (.ok ()) answer with
    | error err =>
      refine ⟨keyed.resetDeltas cfg call.clock, fun q mem => by rw [List.mem_singleton.mp mem],
        fun g k => ?_⟩
      simp only [missed, total_single, reduceCtorEq, if_true, if_false, zero, pending]
      change 0 + _ + 0 + 0 = _ + 0
      simp only [Int64.add_zero, Int64.zero_add]
    | ok batch =>
      obtain ⟨_, _, _, _, rfl⟩ := (fetched batch).mp h
      refine ⟨keyed.resetDeltas cfg call.clock, fun q mem => absurd mem List.not_mem_nil,
        fun g k => ?_⟩
      change batchesValue [batchOf c call] g k + 0 + 0 + _ = _ + 0
      rw [zero]
      simp only [Int64.add_zero]
      rw [← pending g k]
      exact Int64.add_zero _

end NodeSteps

theorem Balanced.quiet {P : Packages κ} {ps qs : List (Posting ι)} {s : System ι κ} {i : ι}
    {c' : Collector κ} (h : Balanced P ps s) (node : NodeStep P i (s.collectors i) c' qs []) :
    Balanced P (ps ++ qs) (s.set i c') := by
  have after := h.node node
  rw [List.map_nil, List.append_nil] at after
  exact after

theorem Balanced.step {P : Packages κ} {Z : Codecs} {cfg : Config} {ps : List (Posting ι)}
    {s s' : System ι κ} {act : Act ι κ} (deltaMode : cfg.sendTrafficDelta = true)
    (h : Balanced P ps s) (genuine : Genuine Z cfg s act) (step : s.step P Z cfg act = .ok s') :
    Balanced P (ps ++ posted P Z cfg s act) s' := by
  match act with
  | .collect i (.ok conns) =>
    obtain ⟨c, collected, eq⟩ := bind_ok.mp step
    rw [step_collect_ok] at collected
    cases eq
    exact h.quiet (nodeStep_collect (h.keyed i) collected i)
  | .collect i (.error err) =>
    obtain ⟨c, collected, eq⟩ := bind_ok.mp step
    cases collected
    cases eq
    exact h.quiet (.refl (h.keyed i) i)
  | .cleanup i now =>
    cases step
    exact h.quiet (nodeStep_cleanup (h.keyed i) now i)
  | .fetch i call url answer =>
    have node := nodeStep_fetch deltaMode (h.keyed i) url genuine i
    simp only [System.step] at step
    simp only [posted]
    cases fetched : fetchRawNetworkMetricsBatch Z.proto url (.ok ()) answer with
    | ok batch =>
      rw [fetched] at step node
      cases step
      exact h.node node
    | error err =>
      rw [fetched] at step node
      cases step
      exact h.quiet node

theorem balanced_of_run {P : Packages κ} {Z : Codecs} {cfg : Config}
    (deltaMode : cfg.sendTrafficDelta = true) {acts : List (Act ι κ)} {s : System ι κ}
    (run : Runs (System.step P Z cfg) (System.start ι κ) acts s)
    (genuine : Admitted (System.step P Z cfg) (Genuine Z cfg) (System.start ι κ) acts) :
    Balanced P (ledger P Z cfg acts) s := by
  have start : Balanced P [] (System.start ι κ) :=
    ⟨fun _ => wellKeyed_empty P, fun _ _ _ => rfl⟩
  exact run.observed (posted P Z cfg) (Balanced P) (Genuine Z cfg)
    (fun _ _ _ _ h ok step => h.step deltaMode ok step) genuine [] start

/-- Whatever the collectors and the exporter do in whatever order, what the exporter has pulled
    from a collector for a group, what was given away but did not reach the exporter, what a
    cleanup discarded and what is pending add up to what the collects credited. -/
theorem deltas_accounted_for (P : Packages κ) (Z : Codecs) (cfg : Config)
    (deltaMode : cfg.sendTrafficDelta = true) {acts : List (Act ι κ)} {s : System ι κ}
    (run : Runs (System.step P Z cfg) (System.start ι κ) acts s)
    (genuine : Admitted (System.step P Z cfg) (Genuine Z cfg) (System.start ι κ) acts)
    (i : ι) (g : Group) (k : CounterField) :
    batchesValue (s.pulledFrom i) g k + total (ledger P Z cfg acts) .missed i g k +
      total (ledger P Z cfg acts) .discarded i g k + value P (s.collectors i) g k =
        total (ledger P Z cfg acts) .credited i g k :=
  (balanced_of_run deltaMode run genuine).balance i g k

def readTwice : Collector Bytes :=
  let cfg : Config := ⟨false, true⟩
  let first := recorded .documented cfg (.empty Bytes) (sampleEntry 10 0) sampleFlow sampleGroup
  { recorded .documented cfg { first with firstCollectDone := true } (sampleEntry 25 0) sampleFlow
      sampleGroup with firstCollectDone := true }

def creditedBatch : RawNetworkMetricBatch :=
  ⟨[⟨sampleGroup.src.int32, sampleGroup.dst.int32, 15, 0, 0, 0, 6⟩], []⟩

theorem batchOf_readTwice : batchOf readTwice plainCall = creditedBatch := by
  have metrics : readTwice.podMetrics = Finmap.singleton (groupKey .documented sampleGroup)
      (freshMetric sampleGroup (trafficSince (sampleEntry 25 0) (some (sampleEntry 10 0))) 0) := rfl
  rw [batchOf_singleton plainCall metrics]
  decide +kernel

def arrivesAndLost (answer : Except Error HTTPResponse) : List (Act Bool Bytes) :=
  [.collect true (.ok [sampleEntry 10 0]), .collect true (.ok [sampleEntry 25 0]),
    .fetch true plainCall "10.0.0.7:6060" answer,
    .collect true (.ok [sampleEntry 45 0]),
    .fetch true (sampleCall ⟨["gzip"]⟩ ⟨fun _ _ => none⟩) "10.0.0.7:6060" (.error "timeout")]

theorem answer_readTwice : ∃ answer,
    Arrives .stored (getRawNetworkMetricsHandler Codecs.stored.encoders ⟨false, true⟩ readTwice
      plainCall).response answer ∧
    fetchRawNetworkMetricsBatch .wire "10.0.0.7:6060" (.ok ()) answer = .ok creditedBatch := by
  have sendable : Sendable plainCall := fun r mem => absurd mem List.not_mem_nil
  rw [← batchOf_readTwice]
  refine fetched_plain rfl rfl sendable ?_ "10.0.0.7:6060"
  rw [batchOf_readTwice]
  intro body marshalled
  cases marshalled
  decide +kernel

theorem run_arrivesAndLost : ∃ answer, ∃ s : System Bool Bytes,
    Runs (System.step .documented .stored ⟨false, true⟩) (.start Bool Bytes)
      (arrivesAndLost answer) s ∧
    Admitted (System.step .documented .stored ⟨false, true⟩) (Genuine .stored ⟨false, true⟩)
      (.start Bool Bytes) (arrivesAndLost answer) ∧
    s.pulled = [(true, creditedBatch)] := by
  obtain ⟨answer, arrives, fetched⟩ := answer_readTwice
  have collects : ∀ (s : System Bool Bytes) (txBytes : UInt64),
      s.step .documented .stored ⟨false, true⟩ (.collect true (.ok [sampleEntry txBytes 0])) =
        .ok (s.set true { recorded .documented ⟨false, true⟩ (s.collectors true)
          (sampleEntry txBytes 0) sampleFlow sampleGroup with firstCollectDone := true }) :=
    fun s txBytes => bind_ok.mpr ⟨_, step_collect_sample _ _ _ _ _ _, rfl⟩
  have gets : ∀ s : System Bool Bytes,
      s.step .documented .stored ⟨false, true⟩ (.fetch true plainCall "10.0.0.7:6060" answer) =
        .ok { s.set true (getRawNetworkMetricsHandler Codecs.stored.encoders ⟨false, true⟩
            (s.collectors true) plainCall).collector with
          pulled := s.pulled ++ [(true, creditedBatch)] } := by
    intro s
    have fetched : fetchRawNetworkMetricsBatch Codecs.stored.proto "10.0.0.7:6060" (.ok ()) answer =
      .ok creditedBatch := fetched
    simp only [System.step, fetched]
    rfl
  refine ⟨answer, _, .next (collects _ 10) (.next (collects _ 25) (.next (gets _)
    (.next (collects _ 45) (.next rfl (.refl _))))), ?_, rfl⟩
  refine .cons trivial (collects _ 10) (.cons trivial (collects _ 25) (.cons ?_ (gets _)
    (.cons trivial (collects _ 45) (.cons (.lost "timeout") rfl (.nil _)))))
  exact arrives

theorem deltas_accounted_for_lost_response : ∃ answer, ∃ s : System Bool Bytes,
    Runs (System.step .documented .stored ⟨false, true⟩) (.start Bool Bytes)
      (arrivesAndLost answer) s ∧
    batchesValue (s.pulledFrom true) sampleGroup .txBytes = 15 ∧
    batchesValue (s.pulledFrom true) sampleGroup .txBytes +
      total (ledger .documented .stored ⟨false, true⟩ (arrivesAndLost answer)) .missed true
        sampleGroup .txBytes +
      total (ledger .documented .stored ⟨false, true⟩ (arrivesAndLost answer)) .discarded true
        sampleGroup .txBytes + value .documented (s.collectors true) sampleGroup .txBytes =
      total (ledger .documented .stored ⟨false, true⟩ (arrivesAndLost answer)) .credited true
        sampleGroup .txBytes := by
  obtain ⟨answer, s, run, genuine, pulled⟩ := run_arrivesAndLost
  refine ⟨answer, s, run, ?_, deltas_accounted_for .documented .stored ⟨false, true⟩ rfl run genuine
    _ _ _⟩
  rw [System.pulledFrom, pulled]
  decide +kernel

end Egressd.Deliveries
