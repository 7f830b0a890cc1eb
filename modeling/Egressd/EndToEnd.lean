import Egressd.Deliveries
import Egressd.ExportAccounting

set_option autoImplicit false

namespace Egressd.EndToEnd
open PartialRuns Finmap Conntrack CollectorModel CollectorHandler CollectorSteps CollectorRuns
open CollectorDelta Exporter Fetches MetricsPb Deliveries SinkPayloads ExportAccounting

/-- All collectors, what the exporter has fetched since its last round, and its books. -/
structure Cluster (G : GenericsCache) (ι κ : Type) where
  system : System ι κ
  waiting : List RawNetworkMetricBatch
  books : Books G

def Cluster.start (G : GenericsCache) (ι κ : Type) : Cluster G ι κ := ⟨.start ι κ, [], .empty⟩

inductive ClusterAct (ι κ σ : Type) where
  | node (act : Act ι κ)
  | exporter (event : ExportEvent σ)

inductive Stop where
  | panic (p : Panic)
  | otherBatches

variable {G : GenericsCache} {ι κ σ : Type}

def untimed (p : Pulled) : RawNetworkMetricBatch :=
  ⟨p.items.map Prod.fst, p.ip2Domain.map Prod.fst⟩

def processed : ExportEvent σ → Option (List RawNetworkMetricBatch)
  | .round r _ _ => some (r.pulled.map untimed)
  | .deleteExpired _ => none

variable [DecidableEq ι] [DecidableEq κ]

section Steps

variable {Z : Codecs} (P : Packages κ) (gateway : Gateway Z) (cfg : Config) (env : Environment)
  (sink : SinkHTTPConfig) (binVersion : String)

def Cluster.step (s : Cluster G ι κ) : ClusterAct ι κ σ → Except Stop (Cluster G ι κ)
  | .node act => do
    let system ← (s.system.step P Z cfg act).mapError .panic
    -- A batch without metrics goes no further.
    let fetched := (system.pulled.drop s.system.pulled.length).map Prod.snd
    return { s with
      system := system
      waiting := s.waiting ++ fetched.filter (fun batch => !batch.items.isEmpty) }
  | .exporter event =>
    let books := s.books.step gateway env sink binVersion P.netaddr event
    match processed event with
    | none => return { s with books := books }
    | some batches =>
      if batches.Perm s.waiting then return { s with books := books, waiting := [] }
      else .error .otherBatches

end Steps

def nodeActs (acts : List (ClusterAct ι κ σ)) : List (Act ι κ) :=
  acts.filterMap (fun | .node act => some act | .exporter _ => none)

def exporterEvents (acts : List (ClusterAct ι κ σ)) : List (ExportEvent σ) :=
  acts.filterMap (fun | .node _ => none | .exporter event => some event)

def batchItems (batches : List RawNetworkMetricBatch) : List PbRawNetworkMetric :=
  batches.flatMap (·.items)

section Sums

variable {g : Group} {k : CounterField}

omit [DecidableEq ι] in
theorem sum_map_add (f h : ι → Int64) (nodes : List ι) :
    (nodes.map (fun i => f i + h i)).sum = (nodes.map f).sum + (nodes.map h).sum := by
  induction nodes with
  | nil => rfl
  | cons i nodes ih =>
    rw [List.map_cons, List.map_cons, List.map_cons, List.sum_cons, List.sum_cons, List.sum_cons, ih]
    exact add_add_swap _ _ _ _

theorem rawValue_perm {ms ms' : List PbRawNetworkMetric} (perm : ms.Perm ms') :
    rawValue ms g k = rawValue ms' g k := by
  induction perm with
  | nil => rfl
  | cons m _ ih => rw [rawValue_cons, rawValue_cons, ih]
  | swap m m' ms =>
    rw [rawValue_cons, rawValue_cons, rawValue_cons, rawValue_cons]
    exact add_left_swap _ _ _
  | trans _ _ ih ih' => rw [ih, ih']

theorem rawValue_nodes {nodes : List ι} (nodup : nodes.Nodup)
    (pulled : List (ι × RawNetworkMetricBatch)) (all : ∀ e ∈ pulled, e.1 ∈ nodes) :
    rawValue (batchItems (pulled.map Prod.snd)) g k =
      (nodes.map (fun i =>
        batchesValue ((pulled.filter (fun e => e.1 = i)).map Prod.snd) g k)).sum := by
  induction pulled with
  | nil =>
    clear nodup all
    induction nodes with
    | nil => rfl
    | cons i nodes ih =>
      rw [List.map_cons, List.sum_cons, ← ih]
      rfl
  | cons e pulled ih =>
    have rest := ih (fun e' mem => all e' (List.mem_cons_of_mem _ mem))
    have first : ∀ i, batchesValue (((e :: pulled).filter (fun e => e.1 = i)).map Prod.snd) g k =
        (if i = e.1 then rawValue e.2.items g k else 0) +
          batchesValue ((pulled.filter (fun e => e.1 = i)).map Prod.snd) g k := by
      intro i
      rw [List.filter_cons]
      by_cases same : i = e.1
      · simp [same]
        rfl
      · simp [same, Ne.symm same]
    simp only [first]
    rw [sum_map_add, sum_single _ _ nodup, if_pos (all e List.mem_cons_self), ← rest]
    exact rawValue_append _ _

end Sums

section Runs

variable {P : Packages κ} {Z : Codecs} {gateway : Gateway Z} {cfg : Config} {env : Environment}
  {sink : SinkHTTPConfig} {binVersion : String}

theorem pulled_step {s s' : System ι κ} {act : Act ι κ}
    (h : s.step P Z cfg act = .ok s') : s.pulled <+: s'.pulled := by
  cases act with
  | collect i conns =>
    obtain ⟨c, _, eq⟩ := bind_ok.mp h
    cases eq
    exact List.prefix_rfl
  | cleanup i now =>
    cases h
    exact List.prefix_rfl
  | fetch i call url answer =>
    simp only [System.step] at h
    split at h
    · cases h
      exact List.prefix_append _ _
    · cases h
      exact List.prefix_rfl

theorem pulled_run {s u : System ι κ} {acts : List (Act ι κ)}
    (run : PartialRuns.Runs (System.step P Z cfg) s acts u) : s.pulled <+: u.pulled := by
  induction run with
  | refl _ => exact List.prefix_rfl
  | next step _ ih => exact (pulled_step step).trans ih

def added (s u : System ι κ) : List RawNetworkMetricBatch :=
  ((u.pulled.drop s.pulled.length).map Prod.snd).filter (fun batch => !batch.items.isEmpty)

theorem run_nodes {s : Cluster G ι κ} {acts : List (Act ι κ)} {system : System ι κ}
    (run : PartialRuns.Runs (System.step P Z cfg) s.system acts system) :
    PartialRuns.Runs (Cluster.step (σ := σ) P gateway cfg env sink binVersion) s (acts.map .node)
      { s with system := system, waiting := s.waiting ++ added s.system system } := by
  generalize start : s.system = first at run
  induction run generalizing s with
  | refl _ =>
    subst start
    simp only [added, List.drop_length, List.map_nil, List.filter_nil, List.append_nil]
    exact .refl _
  | @next _ u v act acts step run ih =>
    subst start
    have one : s.step (σ := σ) P gateway cfg env sink binVersion (.node act) =
        .ok { s with system := u, waiting := s.waiting ++ added s.system u } :=
      bind_ok.mpr ⟨u, mapError_ok.mpr step, rfl⟩
    have rest := ih (s := { s with system := u, waiting := s.waiting ++ added s.system u }) rfl
    obtain ⟨new, eq⟩ := pulled_step step
    obtain ⟨new', eq'⟩ := pulled_run run
    have parts : added s.system v = added s.system u ++ added u v := by
      unfold added
      rw [← eq', List.drop_left, ← eq, List.append_assoc, List.drop_left, List.drop_left,
        List.map_append, List.filter_append]
    rw [parts, ← List.append_assoc]
    exact .next one rest

theorem exporter_step {s : Cluster G ι κ} {event : ExportEvent σ}
    {batches : List RawNetworkMetricBatch} (all : processed event = some batches)
    (perm : batches.Perm s.waiting) :
    s.step P gateway cfg env sink binVersion (.exporter event) =
      .ok { s with
        books := s.books.step gateway env sink binVersion P.netaddr event
        waiting := [] } := by
  simp only [Cluster.step, all, perm, if_true]
  rfl

theorem rawValue_filter (batches : List RawNetworkMetricBatch) (g : Group) (k : CounterField) :
    rawValue (batchItems (batches.filter (fun batch => !batch.items.isEmpty))) g k =
      rawValue (batchItems batches) g k := by
  congr 1
  induction batches with
  | nil => rfl
  | cons batch batches ih =>
    rw [List.filter_cons]
    cases items : batch.items with
    | nil => simp [batchItems, items] at ih ⊢; exact ih
    | cons m ms => simp [batchItems, items] at ih ⊢; exact ih

omit [DecidableEq ι] [DecidableEq κ] in
theorem nodeActs_exporter (acts : List (ClusterAct ι κ σ)) (event : ExportEvent σ) :
    nodeActs (acts ++ [.exporter event]) = nodeActs acts := by
  rw [nodeActs, List.filterMap_append]
  exact List.append_nil _

omit [DecidableEq ι] [DecidableEq κ] in
theorem booksAfter_exporter (N : Netaddr) (acts : List (ClusterAct ι κ σ)) (event : ExportEvent σ) :
    booksAfter gateway env sink binVersion G N (exporterEvents (acts ++ [.exporter event])) =
      (booksAfter gateway env sink binVersion G N (exporterEvents acts)).step gateway env sink
        binVersion N event := by
  rw [exporterEvents, List.filterMap_append, booksAfter, List.foldl_append]
  rfl

/-- What a run of the cluster is for its parts. -/
structure Composed (P : Packages κ) (gateway : Gateway Z) (cfg : Config) (env : Environment)
    (sink : SinkHTTPConfig) (binVersion : String) (acts : List (ClusterAct ι κ σ))
    (s : Cluster G ι κ) : Prop where
  system : PartialRuns.Runs (System.step P Z cfg) (.start ι κ) (nodeActs acts) s.system
  books : s.books = booksAfter gateway env sink binVersion G P.netaddr (exporterEvents acts)
  fetched : ∀ g k, rawValue (batchItems (s.system.pulled.map Prod.snd)) g k =
    rawValue s.books.pulled g k + rawValue (batchItems s.waiting) g k

theorem Composed.node {acts : List (ClusterAct ι κ σ)} {s : Cluster G ι κ} {act : Act ι κ}
    {system : System ι κ} (h : Composed P gateway cfg env sink binVersion acts s)
    (stepped : s.system.step P Z cfg act = .ok system) :
    Composed P gateway cfg env sink binVersion (acts ++ [.node act])
      { s with
        system := system
        waiting := s.waiting ++ ((system.pulled.drop s.system.pulled.length).map Prod.snd).filter
          (fun batch => !batch.items.isEmpty) } where
  system := by
    rw [nodeActs, List.filterMap_append]
    exact h.system.append (.next stepped (.refl _))
  books := by
    rw [exporterEvents, List.filterMap_append]
    exact h.books.trans (congrArg _ (List.append_nil _).symm)
  fetched g k := by
    obtain ⟨new, eq⟩ := pulled_step stepped
    change rawValue (batchItems (system.pulled.map Prod.snd)) g k = rawValue s.books.pulled g k +
      rawValue (batchItems (s.waiting ++ _)) g k
    rw [← eq, List.drop_left, batchItems, batchItems, List.map_append, List.flatMap_append,
      List.flatMap_append, rawValue_append, rawValue_append]
    have before := h.fetched g k
    have kept := rawValue_filter (new.map Prod.snd) g k
    unfold batchItems at before kept
    rw [before, kept, Int64.add_assoc]

theorem Composed.round {acts : List (ClusterAct ι κ σ)} {s : Cluster G ι κ} {event : ExportEvent σ}
    {batches : List RawNetworkMetricBatch} (h : Composed P gateway cfg env sink binVersion acts s)
    (all : processed event = some batches) (perm : batches.Perm s.waiting) :
    Composed P gateway cfg env sink binVersion (acts ++ [.exporter event])
      { s with
        books := s.books.step gateway env sink binVersion P.netaddr event
        waiting := [] } where
  system := by
    rw [nodeActs_exporter]
    exact h.system
  books := by rw [booksAfter_exporter, ← h.books]
  fetched g k := by
    cases event with
    | deleteExpired now => cases all
    | round r o outcomes =>
      cases all
      have metrics : roundMetrics r = batchItems (r.pulled.map untimed) := by
        rw [roundMetrics, batchItems, List.flatMap_map]
        rfl
      have taken := rawValue_perm (g := g) (k := k) (perm.flatMap_right (·.items))
      change rawValue (batchItems (s.system.pulled.map Prod.snd)) g k =
        rawValue (s.books.pulled ++ roundMetrics r) g k + 0
      rw [rawValue_append, metrics, Int64.add_zero, h.fetched g k]
      exact congrArg _ taken.symm

theorem Composed.step {acts : List (ClusterAct ι κ σ)} {s s' : Cluster G ι κ}
    {act : ClusterAct ι κ σ} (h : Composed P gateway cfg env sink binVersion acts s)
    (step : s.step P gateway cfg env sink binVersion act = .ok s') :
    Composed P gateway cfg env sink binVersion (acts ++ [act]) s' := by
  cases act with
  | node act =>
    obtain ⟨system, stepped, eq⟩ := bind_ok.mp step
    cases eq
    exact h.node (mapError_ok.mp stepped)
  | exporter event =>
    cases event with
    | round r o outcomes =>
      simp only [Cluster.step, processed] at step
      split at step
      · rename_i perm
        cases step
        exact h.round rfl perm
      · cases step
    | deleteExpired now =>
      cases step
      refine ⟨?_, ?_, h.fetched⟩
      · rw [nodeActs_exporter]
        exact h.system
      · rw [booksAfter_exporter, ← h.books]

end Runs

/-- In delta mode, whatever the nodes, the exporter, the network and the gateway do in whatever
    order: the traffic of a group that the collects of all nodes have credited is what the gateway
    has read, what was in batches that it has read nothing of, what the exporter skipped or has not
    processed yet and, node by node, what a response did not carry to the exporter, what a cleanup
    discarded and what is pending. No batch of an export is read twice. -/
theorem traffic_end_to_end (P : Packages κ) {Z : Codecs} (gateway : Gateway Z) (cfg : Config)
    (env : Environment) (sink : SinkHTTPConfig) (binVersion : String)
    (deltaMode : cfg.sendTrafficDelta = true) {acts : List (ClusterAct ι κ σ)} {s : Cluster G ι κ}
    (run : Runs (Cluster.step P gateway cfg env sink binVersion) (.start G ι κ) acts s)
    (genuine : Admitted (System.step P Z cfg) (Genuine Z cfg) (.start ι κ) (nodeActs acts))
    (fits : ∀ batch ∈ s.books.exported, Fits Z batch)
    {nodes : List ι} (nodup : nodes.Nodup) (all : ∀ e ∈ s.system.pulled, e.1 ∈ nodes) :
    (∀ g k, podValue s.books.arrived.flatten g k + podValue s.books.unread.flatten g k +
        rawValue s.books.skipped g k + rawValue (batchItems s.waiting) g k +
        (nodes.map (fun i => total (ledger P Z cfg (nodeActs acts)) .missed i g k +
          total (ledger P Z cfg (nodeActs acts)) .discarded i g k +
          value P (s.system.collectors i) g k)).sum =
      (nodes.map (fun i => total (ledger P Z cfg (nodeActs acts)) .credited i g k)).sum) ∧
    s.books.arrived.Sublist s.books.exported := by
  have start : Composed P gateway cfg env sink binVersion ([] : List (ClusterAct ι κ σ))
      (.start G ι κ) := ⟨.refl _, rfl, fun _ _ => rfl⟩
  have composed := run.history (Composed P gateway cfg env sink binVersion) (fun _ => True)
    (fun _ _ _ _ h _ step => h.step step) start (fun _ _ => trivial)
  have node := balanced_of_run deltaMode composed.system genuine
  have exported := balanced_after (N := P.netaddr) (exporterEvents acts) (composed.books ▸ fits)
  rw [← composed.books] at exported
  refine ⟨fun g k => ?_, exported.once⟩
  have each : ∀ i, total (ledger P Z cfg (nodeActs acts)) .credited i g k =
      batchesValue (s.system.pulledFrom i) g k +
        (total (ledger P Z cfg (nodeActs acts)) .missed i g k +
          total (ledger P Z cfg (nodeActs acts)) .discarded i g k +
          value P (s.system.collectors i) g k) := by
    intro i
    rw [← node.balance i g k, Int64.add_assoc, Int64.add_assoc, Int64.add_assoc]
  have fetched : podValue s.books.arrived.flatten g k + podValue s.books.unread.flatten g k +
      rawValue s.books.skipped g k + rawValue (batchItems s.waiting) g k =
        (nodes.map (fun i => batchesValue (s.system.pulledFrom i) g k)).sum := by
    rw [← exported.value g k, ← composed.fetched g k]
    exact rawValue_nodes nodup s.system.pulled all
  simp only [each]
  rw [fetched, ← sum_map_add]

def creditedRound : Round Unit := ⟨onePodWatcher, (), [⟨creditedBatch.items.map (·, 0), []⟩]⟩

def answerLost : Network := ⟨fun _ => .error "timeout", fun _ => true⟩

def pushedOnce (answer : Except Error HTTPResponse) (o : VisitOrder String) :
    List (ClusterAct Bool Bytes Unit) :=
  (arrivesAndLost answer).map .node ++ [.exporter (.round creditedRound o answerLost)]

def creditedMetrics : List PodNetworkMetric :=
  let pod := Kube.samplePod "p1" "a" .running none
  creditedBatch.items.map (fun item => podMetric .documented item pod "" ⟨pod.name, pod.ns, "", ""⟩ [])

theorem readable_credited : ReadableNames creditedMetrics := by decide +kernel

theorem fits_credited : Fits .stored creditedMetrics := by
  intro body marshalled
  cases marshalled
  decide +kernel

theorem traffic_end_to_end_response_lost : ∃ answer o, ∃ s : Cluster .documented Bool Bytes,
    Runs (Cluster.step .documented (.strict .stored) ⟨false, true⟩ .plain sampleSink "local")
      (.start .documented Bool Bytes) (pushedOnce answer o) s ∧
    podValue s.books.arrived.flatten sampleGroup .txBytes = 15 ∧
    podValue s.books.arrived.flatten sampleGroup .txBytes +
        podValue s.books.unread.flatten sampleGroup .txBytes +
        rawValue s.books.skipped sampleGroup .txBytes +
        rawValue (batchItems s.waiting) sampleGroup .txBytes +
        ([true].map (fun i =>
          total (ledger .documented .stored ⟨false, true⟩ (arrivesAndLost answer))
            .missed i sampleGroup .txBytes +
          total (ledger .documented .stored ⟨false, true⟩ (arrivesAndLost answer))
            .discarded i sampleGroup .txBytes +
          value .documented (s.system.collectors i) sampleGroup .txBytes)).sum =
      ([true].map (fun i =>
        total (ledger .documented .stored ⟨false, true⟩ (arrivesAndLost answer))
          .credited i sampleGroup .txBytes)).sum := by
  obtain ⟨answer, system, run, genuine, pulled⟩ := run_arrivesAndLost
  let o : VisitOrder String := .first ""
  let books := (Books.empty (G := .documented)).step (.strict .stored) .plain sampleSink "local"
    .documented (.round creditedRound o answerLost)
  have waiting : [creditedBatch].Perm (added (.start Bool Bytes) system) := by
    unfold added
    rw [pulled]
    exact .refl _
  have all : Runs (Cluster.step .documented (.strict .stored) ⟨false, true⟩ .plain sampleSink "local")
      (.start .documented Bool Bytes) (pushedOnce answer o) ⟨system, [], books⟩ :=
    (run_nodes (s := .start .documented Bool Bytes) run).append
      (.next (exporter_step rfl waiting) (.refl _))
  have metrics : ((RoundEvent.round creditedRound).run .documented (.new .documented)).1 =
      creditedMetrics := by decide +kernel
  obtain ⟨req, ready, _⟩ := prepared_plain .stored sampleSink rfl o "local"
    readable_credited
  have reads := gatewayReads_of_prepare (.strict .stored) answerLost fits_credited ready
  rw [if_pos ⟨rfl, .inl rfl⟩, ← metrics] at reads
  have arrived : books.arrived = [creditedMetrics] := reads.trans (by rw [metrics])
  have exported : books.exported = [creditedMetrics] := congrArg (fun batch => [batch]) metrics
  refine ⟨answer, o, _, all, ?_, (traffic_end_to_end .documented (.strict .stored) ⟨false, true⟩ .plain
    sampleSink "local" rfl all genuine ?_ (List.nodup_singleton true) ?_).1 sampleGroup .txBytes⟩
  · rw [arrived]
    decide +kernel
  · change ∀ batch ∈ books.exported, _
    rw [exported]
    intro batch mem
    rw [List.mem_singleton.mp mem]
    exact fits_credited
  · change ∀ e ∈ system.pulled, _
    rw [pulled]
    decide

end Egressd.EndToEnd
