import Egressd.ExporterResults
import Egressd.FanIn
import Mathlib.Order.OrderIsoNat

set_option autoImplicit false

namespace Egressd.Exporter
open Kube CollectorModel Histories Relation

structure ContainerPort where
  name : String
  containerPort : Int32
  deriving DecidableEq, Repr

structure CollectorPod where
  name : String
  podIP : String
  containers : List (List ContainerPort)
  deriving DecidableEq, Repr

def getCollectorPodMetricsServerURL (pod : CollectorPod) : String :=
  match pod.containers.flatten.find? (fun port => port.name = "http-server") with
  | some port => "http://" ++ pod.podIP ++ ":" ++ toString port.containerPort.toInt
  | none => ""

/-- A collector pod with what `fetchRawNetworkMetricsBatch` returns for it. -/
structure Collector where
  pod : CollectorPod
  fetched : Except Error Pulled

def pulledBatch (c : Collector) : Option Pulled :=
  match c.fetched with
  | .ok batch => if batch.items.isEmpty then none else some batch
  | .error _ => none

/-- The workers and the channel, with `CollectorsConcurrentFetchCount`. -/
def fetchGroup (errgroup : FanIn.ErrGroup) (limit : ℕ) (pos : 0 < limit) :
    FanIn.Config Collector Pulled where
  errgroup := errgroup
  limit := limit
  capacity := limit
  usable c := getCollectorPodMetricsServerURL c.pod ≠ ""
  result := pulledBatch
  limit_pos := pos
  capacity_pos := pos

def sinkConcurrentPush : ℕ := 5

/-- Where an export is. `handed` lists the sinks whose `Push` was called and with which batch. -/
inductive Stage (κ : Type) where
  | collecting (s : FanIn.State Collector Pulled)
  | sinking (batch : List PodNetworkMetric) (sinks pushing : List κ)
      (handed : List (κ × List PodNetworkMetric))
  | returned (handed : List (κ × List PodNetworkMetric))

def exportStart {κ : Type} (collectors : List Collector) : Stage κ :=
  if collectors.isEmpty then .returned [] else .collecting (FanIn.start collectors)

variable {G : GenericsCache} {σ κ : Type}

section Export

variable (N : Netaddr) (W : KubeWatcher σ) (C : FanIn.Config Collector Pulled) (sinks : List κ)
  (a : Aggregation G σ)

inductive ExportStep : Stage κ → Stage κ → Prop where
  | collect {s t : FanIn.State Collector Pulled} (h : FanIn.Step C s t) :
      ExportStep (.collecting s) (.collecting t)
  | aggregated {s : FanIn.State Collector Pulled} (done : s.consuming = false) :
      ExportStep (.collecting s) (.sinking (aggregate N W a s.received).podsMetrics sinks [] [])
  | start {batch : List PodNetworkMetric} {k : κ} {ks pushing : List κ}
      {handed : List (κ × List PodNetworkMetric)}
      (free : C.errgroup.go sinkConcurrentPush pushing.length = true) :
      ExportStep (.sinking batch (k :: ks) pushing handed) (.sinking batch ks (k :: pushing) handed)
  | push {batch : List PodNetworkMetric} {k : κ} {ks before after : List κ}
      {handed : List (κ × List PodNetworkMetric)} :
      ExportStep (.sinking batch ks (before ++ k :: after) handed)
        (.sinking batch ks (before ++ after) (handed ++ [(k, batch)]))
  | wait {batch : List PodNetworkMetric} {pushing : List κ}
      {handed : List (κ × List PodNetworkMetric)} (idle : C.errgroup.wait pushing.length = true) :
      ExportStep (.sinking batch [] pushing handed) (.returned handed)

end Export

section Aggregated

variable {N : Netaddr} {W : KubeWatcher σ} {s : σ} {pods : String → Except KubeError Pod}

def leavingDnsAside (m : PodNetworkMetric) : PodNetworkMetric := { m with dstDnsName := [] }

def built (N : Netaddr) (W : KubeWatcher σ) (pods : String → Except KubeError Pod)
    (raw : PbRawNetworkMetric) : Option PodNetworkMetric :=
  (buildPodNetworkMetric N (W.frozen pods) (fun _ => []) () raw).1.toOption

theorem leavingDnsAside_build (lookup : Int32 → Bytes) (conn : PbRawNetworkMetric) :
    (buildPodNetworkMetric N W lookup s conn).1.toOption.map leavingDnsAside =
      (buildPodNetworkMetric N W (fun _ => []) s conn).1.toOption := by
  rcases build_cases N W s conn with ⟨_, _, build⟩ | ⟨_, _, _, _, build⟩
  · rw [build lookup, build]
    rfl
  · rw [build lookup, build]
    split
    · cases (W.destination (W.getPodByIP s (dotted (ipFromInt32 conn.srcIp))).2
          (dotted (ipFromInt32 conn.dstIp))).1 with
      | error err => rfl
      | ok dst => rfl
    · rfl

theorem steady_foldl (items : List (PbRawNetworkMetric × Time)) (a : Aggregation G σ)
    (h : W.Steady a.watcher pods) :
    W.Steady (items.foldl (aggregateItem N W) a).watcher pods := by
  induction items generalizing a with
  | nil => exact h
  | cons item items ih =>
    refine ih _ ?_
    rw [watcher_aggregateItem]
    exact (build_of_steady (a.dnsStorage.lookup item.2) item.1 h).2

theorem podsMetrics_of_steady (pulled : List Pulled) (a : Aggregation G σ)
    (h : W.Steady a.watcher pods) :
    ((results N W a pulled).flatten.filterMap Except.toOption).map leavingDnsAside =
      (pulled.flatMap (·.items)).filterMap (fun item => built N W pods item.1) := by
  induction pulled generalizing a with
  | nil => rfl
  | cons p pulled ih =>
    have batch : ((itemResults N W (a.dnsStorage.fill p.ip2Domain) a.watcher p.items).filterMap
        Except.toOption).map leavingDnsAside =
        p.items.filterMap (fun item => built N W pods item.1) := by
      rw [itemResults_of_steady _ h, List.filterMap_map, List.map_filterMap]
      exact List.filterMap_congr (fun item _ => leavingDnsAside_build _ _)
    rw [results_cons, List.flatten_cons, List.filterMap_append, List.map_append, batch,
      List.flatMap_cons, List.filterMap_append]
    exact congrArg _ (ih _ (steady_foldl p.items _ h))

end Aggregated

def Collector.rawMetrics (c : Collector) : List PbRawNetworkMetric :=
  if getCollectorPodMetricsServerURL c.pod = "" then []
  else match c.fetched with
    | .ok batch => batch.items.map Prod.fst
    | .error _ => []

def expectedMetrics (N : Netaddr) (W : KubeWatcher σ) (pods : String → Except KubeError Pod)
    (collectors : List Collector) : List PodNetworkMetric :=
  (collectors.flatMap Collector.rawMetrics).filterMap (built N W pods)

theorem yield_items (g : FanIn.ErrGroup) (limit : ℕ) (pos : 0 < limit) (c : Collector) :
    ((fetchGroup g limit pos).yield c).flatMap (fun p => p.items.map Prod.fst) = c.rawMetrics := by
  unfold FanIn.Config.yield Collector.rawMetrics
  simp only [fetchGroup, pulledBatch, ne_eq, decide_not, Bool.not_eq_true', decide_eq_false_iff_not]
  by_cases url : getCollectorPodMetricsServerURL c.pod = ""
  · rw [if_neg (not_not.mpr url), if_pos url]
    rfl
  · rw [if_pos url, if_neg url]
    cases c.fetched with
    | error err => rfl
    | ok batch =>
      cases items : batch.items with
      | nil => simp [items]
      | cons item rest => simp [items]

section Exact

variable {N : Netaddr} {W : KubeWatcher σ} {s₀ : σ} {d : DnsStorage G}
  {pods : String → Except KubeError Pod} {g : FanIn.ErrGroup} {limit : ℕ} {pos : 0 < limit}
  {collectors : List Collector} {sinks : List κ}

theorem aggregated_of_done (steady : W.Steady s₀ pods) {s : FanIn.State Collector Pulled}
    (h : FanIn.Collecting (fetchGroup g limit pos) collectors s) (done : s.consuming = false) :
    ((aggregate N W ⟨s₀, d, [], []⟩ s.received).podsMetrics.map leavingDnsAside).Perm
      (expectedMetrics N W pods collectors) := by
  have received := Multiset.coe_eq_coe.mp (h.received done)
  have raws : (s.received.flatMap (fun p => p.items.map Prod.fst)).Perm
      (collectors.flatMap Collector.rawMetrics) := by
    refine (received.flatMap_right _).trans ?_
    rw [List.flatMap_assoc]
    simp only [yield_items]
    exact .refl _
  rw [podsMetrics_aggregate, List.nil_append,
    podsMetrics_of_steady s.received ⟨s₀, d, [], []⟩ steady]
  have items : (s.received.flatMap (·.items)).filterMap (fun item => built N W pods item.1) =
      (s.received.flatMap (fun p => p.items.map Prod.fst)).filterMap (built N W pods) := by
    rw [← List.map_flatMap, List.filterMap_map]
    rfl
  rw [items]
  exact raws.filterMap _

def Stage.Exact (N : Netaddr) (W : KubeWatcher σ) (pods : String → Except KubeError Pod)
    (C : FanIn.Config Collector Pulled) (collectors : List Collector) (sinks : List κ) :
    Stage κ → Prop
  | .collecting s => FanIn.Collecting C collectors s
  | .sinking batch ks pushing handed =>
    (batch.map leavingDnsAside).Perm (expectedMetrics N W pods collectors) ∧
      (ks ++ pushing ++ handed.map Prod.fst).Perm sinks ∧ ∀ e ∈ handed, e.2 = batch
  | .returned handed =>
    (handed.map Prod.fst).Perm sinks ∧ ∀ e ∈ handed,
      (e.2.map leavingDnsAside).Perm (expectedMetrics N W pods collectors)

theorem exact_step (steady : W.Steady s₀ pods) {u v : Stage κ}
    (h : ExportStep N W (fetchGroup g limit pos) sinks ⟨s₀, d, [], []⟩ u v)
    (exact' : u.Exact N W pods (fetchGroup g limit pos) collectors sinks) :
    v.Exact N W pods (fetchGroup g limit pos) collectors sinks := by
  cases h with
  | collect h => exact FanIn.collecting_step h exact'
  | aggregated done =>
    refine ⟨aggregated_of_done steady exact' done, ?_, fun _ mem => by cases mem⟩
    simp
  | start _ =>
    obtain ⟨metrics, all, same⟩ := exact'
    refine ⟨metrics, List.Perm.trans ?_ all, same⟩
    exact List.perm_middle.append_right _
  | @push batch k ks before after handed =>
    obtain ⟨metrics, all, same⟩ := exact'
    refine ⟨metrics, List.Perm.trans ?_ all, ?_⟩
    · rw [← Multiset.coe_eq_coe, List.map_append, List.map_singleton]
      simp only [← Multiset.coe_add, ← Multiset.cons_coe k after, ← Multiset.singleton_add,
        Multiset.coe_singleton]
      abel
    · intro e mem
      rcases List.mem_append.mp mem with mem | mem
      · exact same e mem
      · rw [List.mem_singleton.mp mem]
  | wait idle =>
    obtain ⟨metrics, all, same⟩ := exact'
    have none := List.length_eq_zero_iff.mp ((g.wait_iff _).mp idle)
    rw [none] at all
    refine ⟨all, fun e mem => ?_⟩
    rw [same e mem]
    exact metrics

theorem exact_of_run (steady : W.Steady s₀ pods) {u v : Stage κ}
    (run : ReflTransGen (ExportStep N W (fetchGroup g limit pos) sinks ⟨s₀, d, [], []⟩) u v)
    (exact' : u.Exact N W pods (fetchGroup g limit pos) collectors sinks) :
    v.Exact N W pods (fetchGroup g limit pos) collectors sinks := by
  induction run with
  | refl => exact exact'
  | tail _ h ih => exact exact_step steady h ih

theorem exists_exportStep {a : Aggregation G σ} {u : Stage κ}
    (exact' : u.Exact N W pods (fetchGroup g limit pos) collectors sinks) :
    (∃ handed, u = .returned handed) ∨
      ∃ v, ExportStep N W (fetchGroup g limit pos) sinks a u v := by
  match u with
  | .collecting s =>
    cases consuming : s.consuming with
    | false => exact .inr ⟨_, .aggregated consuming⟩
    | true =>
      obtain ⟨t, h⟩ := FanIn.exists_step (C := fetchGroup g limit pos) consuming exact'.ne_returned
      exact .inr ⟨_, .collect h⟩
  | .sinking batch ks (k :: pushing) handed =>
    have first : ExportStep N W (fetchGroup g limit pos) sinks a
      (.sinking batch ks ([] ++ k :: pushing) handed) _ := .push
    exact .inr ⟨_, first⟩
  | .sinking batch (k :: ks) [] handed =>
    have free : g.go sinkConcurrentPush ([] : List κ).length = true :=
      (g.go_iff _ _).mpr (Nat.zero_lt_succ 4)
    exact .inr ⟨_, .start free⟩
  | .sinking batch [] [] handed => exact .inr ⟨_, .wait ((g.wait_iff 0).mpr rfl)⟩
  | .returned handed => exact .inl ⟨handed, rfl⟩

end Exact

def Stage.work (sinks : List κ) : Stage κ → ℕ
  | .collecting s => FanIn.work s + 2 * sinks.length + 2
  | .sinking _ ks pushing _ => 2 * ks.length + pushing.length + 1
  | .returned _ => 0

theorem work_exportStep {N : Netaddr} {W : KubeWatcher σ} {C : FanIn.Config Collector Pulled}
    {sinks : List κ} {a : Aggregation G σ} {u v : Stage κ} (h : ExportStep N W C sinks a u v) :
    v.work sinks < u.work sinks := by
  cases h with
  | collect h =>
    have less := FanIn.work_step h
    simp only [Stage.work]
    omega
  | aggregated | start | push | wait =>
    simp only [Stage.work, List.length_append, List.length_cons, List.length_nil]
    omega

/-- Every export ends, and whatever the order of the fetches was, each sink was handed exactly
    one metric for each raw metric of each fetched batch from which one can be built. -/
theorem export_exact (N : Netaddr) (W : KubeWatcher σ) (s₀ : σ) (d : DnsStorage G)
    (pods : String → Except KubeError Pod) (steady : W.Steady s₀ pods)
    (g : FanIn.ErrGroup) (limit : ℕ) (pos : 0 < limit) (collectors : List Collector)
    (sinks : List κ) :
    (∀ u, ReflTransGen (ExportStep N W (fetchGroup g limit pos) sinks ⟨s₀, d, [], []⟩)
        (exportStart collectors) u → (∃ handed, u = .returned handed) ∨
          ∃ v, ExportStep N W (fetchGroup g limit pos) sinks ⟨s₀, d, [], []⟩ u v) ∧
    (¬ ∃ run : ℕ → Stage κ, run 0 = exportStart collectors ∧ ∀ n,
        ExportStep N W (fetchGroup g limit pos) sinks ⟨s₀, d, [], []⟩ (run n) (run (n + 1))) ∧
    ∀ handed, ReflTransGen (ExportStep N W (fetchGroup g limit pos) sinks ⟨s₀, d, [], []⟩)
        (exportStart collectors) (.returned handed) →
      (handed.map Prod.fst).Perm (if collectors.isEmpty then [] else sinks) ∧
      ∀ e ∈ handed, (e.2.map leavingDnsAside).Perm (expectedMetrics N W pods collectors) := by
  have ends : ¬ ∃ run : ℕ → Stage κ, run 0 = exportStart collectors ∧ ∀ n,
      ExportStep N W (fetchGroup g limit pos) sinks ⟨s₀, d, [], []⟩ (run n) (run (n + 1)) := by
    rintro ⟨run, -, steps⟩
    exact not_strictAnti_of_wellFoundedLT (fun n => (run n).work sinks)
      (strictAnti_nat_of_succ_lt (fun n => work_exportStep (steps n)))
  cases empty : collectors.isEmpty with
  | true =>
    have only : ∀ u, ReflTransGen (ExportStep N W (fetchGroup g limit pos) sinks ⟨s₀, d, [], []⟩)
        (exportStart collectors) u → u = .returned [] := by
      intro u run
      rw [exportStart, empty, if_pos rfl] at run
      rcases run.cases_head with eq | ⟨v, h, _⟩
      · exact eq.symm
      · cases h
    refine ⟨fun u run => .inl ⟨[], only u run⟩, ends, fun handed run => ?_⟩
    cases only _ run
    exact ⟨.refl _, fun e mem => by cases mem⟩
  | false =>
    have start : (exportStart collectors : Stage κ).Exact N W pods (fetchGroup g limit pos)
        collectors sinks := by
      rw [exportStart, empty, if_neg Bool.false_ne_true]
      exact FanIn.collecting_start _ _
    refine ⟨fun u run => exists_exportStep (exact_of_run steady run start), ends, ?_⟩
    intro handed run
    rw [if_neg Bool.false_ne_true]
    exact exact_of_run steady run start

def sampleCollector (fetched : Except Error Pulled) : Collector where
  pod := ⟨"c1", "10.0.0.7", [[⟨"http-server", 6060⟩]]⟩
  fetched := fetched

theorem export_exact_one_fails :
    onePodWatcher.Steady () (fun _ => .ok (samplePod "p1" "a" .running none)) ∧
    ∀ handed, ReflTransGen (ExportStep .documented onePodWatcher
        (fetchGroup .documented 1 Nat.one_pos) ["s1"] ⟨(), .new .documented, [], []⟩)
        (exportStart [sampleCollector (.error "timeout"), sampleCollector (.ok (resolvedBatch [98]))])
        (.returned handed) →
      (handed.map Prod.fst).Perm ["s1"] ∧
        ∀ e ∈ handed, (e.2.map leavingDnsAside).Perm [outgoingMetric []] := by
  have steady : onePodWatcher.Steady () (fun _ => .ok (samplePod "p1" "a" .running none)) :=
    fun _ _ => rfl
  have expected : expectedMetrics .documented onePodWatcher
      (fun _ => .ok (samplePod "p1" "a" .running none))
      [sampleCollector (.error "timeout"), sampleCollector (.ok (resolvedBatch [98]))] =
      [outgoingMetric []] := by decide +kernel
  refine ⟨steady, ?_⟩
  have all := (export_exact .documented onePodWatcher () (.new .documented)
    (fun _ => .ok (samplePod "p1" "a" .running none)) steady .documented 1 Nat.one_pos
    [sampleCollector (.error "timeout"), sampleCollector (.ok (resolvedBatch [98]))] ["s1"]).2.2
  rw [expected] at all
  exact all

def Blocked (s : FanIn.State Collector Pulled) : Prop :=
  s.consuming = true ∧ s.buffer = [] ∧ s.spawner ≠ .closed

def Terminated (s : FanIn.State Collector Pulled) : Prop :=
  s.spawner = .returned ∨ s.spawner = .closed

section Cancellation

variable {g : FanIn.ErrGroup} {limit : ℕ} {pos : 0 < limit} {collectors : List Collector}
  {s t : FanIn.State Collector Pulled}

/-- As long as the goroutine that starts the fetches does not poll the cancelled context with
    another pod left, it has not ended when the consumer is blocked. -/
theorem blocked_not_terminated (run : ReflTransGen
      (fun s t => FanIn.Move (fetchGroup g limit pos) s t ∧ ¬ FanIn.PollsCancelled s t)
      (FanIn.start collectors) s) (blocked : Blocked s) : ¬ Terminated s := by
  rintro (returned | closed)
  · exact FanIn.ne_returned_of_run run returned
  · exact blocked.2.2 closed

theorem blocked_not_terminated_last_fetch :
    let s : FanIn.State Collector Pulled :=
      ⟨.starting (sampleCollector (.error "timeout")) [], [], [], [], true, true⟩
    Blocked s ∧ ¬ Terminated s := by
  intro s
  have blocked : Blocked s := ⟨rfl, rfl, nofun⟩
  have run : ReflTransGen (fun s t => FanIn.Move (fetchGroup .documented 1 Nat.one_pos) s t ∧
      ¬ FanIn.PollsCancelled s t) (FanIn.start [sampleCollector (.error "timeout")]) s :=
    .head ⟨.step (.take rfl rfl (by decide)), fun polls => Bool.false_ne_true polls.1⟩
      (.single ⟨.cancel, fun polls => Bool.false_ne_true polls.1⟩)
  exact ⟨blocked, blocked_not_terminated run blocked⟩

/-- Once the goroutine that starts the fetches has polled the cancelled context with another
    pod left, the export can come to a state in which nobody wakes the consumer. -/
theorem polls_cancelled_blocks
    (run : ReflTransGen (FanIn.Move (fetchGroup g limit pos)) (FanIn.start collectors) s)
    (h : FanIn.Move (fetchGroup g limit pos) s t) (polls : FanIn.PollsCancelled s t) :
    ∃ u, ReflTransGen (FanIn.Step (fetchGroup g limit pos)) t u ∧ Blocked u ∧ Terminated u ∧
      ∀ v, ¬ FanIn.Step (fetchGroup g limit pos) u v := by
  have returned := FanIn.returned_of_polls h polls
  have sound := FanIn.sound_of_moves (run.tail h)
  have waiting := sound.consuming (by rw [returned]; exact nofun)
  obtain ⟨u, more, returned', waiting', empty, stuck⟩ := FanIn.exists_stuck returned waiting
  exact ⟨u, more, ⟨waiting', empty, by rw [returned']; exact nofun⟩, .inl returned', stuck⟩

end Cancellation

theorem cancelled_export_blocks :
    let s : FanIn.State Collector Pulled := ⟨.returned, [], [], [], true, true⟩
    ReflTransGen (FanIn.Move (fetchGroup .documented 1 Nat.one_pos))
      (FanIn.start [sampleCollector (.error "timeout")]) s ∧ Blocked s ∧ Terminated s := by
  intro s
  refine ⟨?_, ⟨rfl, rfl, nofun⟩, .inl rfl⟩
  -- The context is cancelled before the loop over the pods begins.
  exact .head .cancel (.single (.step (.quit rfl rfl)))

end Egressd.Exporter
