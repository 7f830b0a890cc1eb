import Egressd.CollectorRuns

set_option autoImplicit false

/-!
# The collector as a table

What a collector is for, without hashes, maps and the order of their keys: the
last reading of every flow and one metric for each group. The collector with
its hashed keys refines this table, whatever the seeds of its hashes are.
-/
namespace Egressd.CollectorTable
open Conntrack CollectorModel CollectorHandler CollectorSteps CollectorRuns PartialRuns

@[ext]
structure Table where
  readings : Flow → Option Entry
  metrics : Group → Option RawNetworkMetric
  started : Bool

def Table.empty : Table := ⟨fun _ => none, fun _ => none, false⟩

/-- An entry is seen. In delta mode nothing is counted before the first collect is done. -/
def Table.record (N : Netaddr) (cfg : Config) (T : Table) (e : Entry) : Except Panic Table := do
  let t ← flowOf N e
  let g ← groupOf N cfg e
  if cfg.sendTrafficDelta && !T.started then
    return { T with readings := Function.update T.readings t (some e) }
  else
    return { T with
      readings := Function.update T.readings t (some (groupPublicDst N cfg e))
      metrics := Function.update T.metrics g
        (some (credited g (trafficSince e (T.readings t)) e.lifetime (T.metrics g))) }

inductive TableOp where
  | collect (conns : List Entry)
  | deliver (clock : Group → Time)
  | cleanup (now : Time)

def Table.step (N : Netaddr) (cfg : Config) (T : Table) : TableOp → Except Panic Table
  | .collect conns => do
    let T ← conns.foldlM (Table.record N cfg) T
    return { T with started := true }
  | .deliver clock =>
    if cfg.sendTrafficDelta then
      return { T with metrics := fun g => (T.metrics g).map (resetMetric (clock g)) }
    else return T
  | .cleanup now => return { T with
      readings := fun t => (T.readings t).filter (fun e => !decide (e.lifetime < now))
      metrics := fun g => (T.metrics g).filter (fun m => !decide (m.lifetime < now)) }

structure Table.Lists (T : Table) (items : List PbRawNetworkMetric) : Prop where
  nodup : items.Nodup
  mem : ∀ item, item ∈ items ↔ ∃ g m, T.metrics g = some m ∧ item = m.toPbRawNetworkMetric

variable {κ : Type} [DecidableEq κ]

def tableOf (P : Packages κ) (c : Collector κ) : Table :=
  ⟨cached P c, metricOf P c, c.firstCollectDone⟩

/-- The operation on the table that a step of the collector is; a failed collect and a batch
    that is not sent are none. -/
def tableOps (P : Packages κ) (E : Encoders) (cfg : Config) (c : Collector κ) :
    Op κ → List TableOp
  | .collect (.ok conns) => [.collect conns]
  | .collect (.error _) => []
  | .handle call =>
    match (getRawNetworkMetricsHandler E cfg c call).outcome with
    | .sent _ => [.deliver (fun g => call.clock (groupKey P g))]
    | _ => []
  | .cleanup now => [.cleanup now]

section Steps

variable {P : Packages κ} {E : Encoders} {cfg : Config}

theorem tableOf_recorded (P : Packages κ) (cfg : Config) (c : Collector κ) {e : Entry} {t : Flow}
    {g : Group} (flow : flowOf P.netaddr e = .ok t) (group : groupOf P.netaddr cfg e = .ok g) :
    (tableOf P c).record P.netaddr cfg e = .ok (tableOf P (recorded P cfg c e t g)) := by
  have readings : cached P (recorded P cfg c e t g) =
      Function.update (cached P c) t (some (stored P.netaddr cfg c e)) := by
    funext u
    rw [cached_recorded, Function.update_apply]
  have metrics : metricOf P (recorded P cfg c e t g) = if baselineOnly cfg c then metricOf P c
      else Function.update (metricOf P c) g
        (some (credited g (trafficSince e (cached P c t)) e.lifetime (metricOf P c g))) := by
    funext h
    rw [metricOf_recorded]
    cases baselineOnly cfg c with
    | true => rw [if_neg (by simp), if_pos rfl]
    | false => simp only [true_and, Bool.false_eq_true, if_false, Function.update_apply]
  rw [Table.record, flow, group]
  unfold tableOf
  rw [readings, metrics, firstCollectDone_recorded]
  unfold stored
  change (if baselineOnly cfg c then _ else _) = _
  split <;> rfl

theorem record_table_iff {P : Packages κ} {cfg : Config} {c : Collector κ} {e : Entry} {T : Table} :
    (tableOf P c).record P.netaddr cfg e = .ok T ↔
      ∃ d, c.record P cfg e = .ok d ∧ tableOf P d = T := by
  constructor
  · intro h
    obtain ⟨t, flow, rest⟩ := bind_ok.mp h
    obtain ⟨g, group, _⟩ := bind_ok.mp rest
    rw [tableOf_recorded P cfg c flow group] at h
    exact ⟨_, record_iff.mpr ⟨t, g, flow, group, rfl⟩, Except.ok.inj h⟩
  · rintro ⟨d, recorded, rfl⟩
    obtain ⟨t, g, flow, group, rfl⟩ := record_iff.mp recorded
    exact tableOf_recorded P cfg c flow group

theorem collect_table_iff {P : Packages κ} {cfg : Config} {c : Collector κ} {conns : List Entry}
    {T : Table} : (tableOf P c).step P.netaddr cfg (.collect conns) = .ok T ↔
      ∃ d, c.collectConns P cfg conns = .ok d ∧ tableOf P d = T := by
  rw [Table.step, bind_ok]
  simp only [← runs_iff_foldlM, collectConns_iff,
    runs_map_iff (tableOf P) (fun c e T => record_table_iff (c := c) (e := e) (T := T))]
  constructor
  · rintro ⟨_, ⟨d, run, rfl⟩, eq⟩
    cases eq
    exact ⟨_, ⟨d, run, rfl⟩, rfl⟩
  · rintro ⟨_, ⟨d, run, rfl⟩, rfl⟩
    exact ⟨_, ⟨d, run, rfl⟩, rfl⟩

theorem deliver_table (P : Packages κ) (cfg : Config) (c : Collector κ) (clock : κ → Time) :
    (tableOf P c).step P.netaddr cfg (.deliver (fun g => clock (groupKey P g))) =
      .ok (tableOf P (resetDeltas cfg c clock)) := by
  have readings : cached P (resetDeltas cfg c clock) = cached P c :=
    funext (cached_resetDeltas P cfg c clock)
  have metrics : metricOf P (resetDeltas cfg c clock) = fun g =>
      if cfg.sendTrafficDelta then (metricOf P c g).map (resetMetric (clock (groupKey P g)))
      else metricOf P c g := funext (fun g => lookup_resetDeltas cfg c clock (groupKey P g))
  unfold tableOf
  rw [readings, metrics, firstCollectDone_resetDeltas, Table.step]
  split <;> rfl

theorem cleanup_table (P : Packages κ) (cfg : Config) (c : Collector κ) (now : Time) :
    (tableOf P c).step P.netaddr cfg (.cleanup now) = .ok (tableOf P (c.cleanup now)) := by
  have readings : cached P (c.cleanup now) = fun t =>
      (cached P c t).filter (fun e => !decide (e.lifetime < now)) :=
    funext (cached_cleanup P c now)
  have metrics : metricOf P (c.cleanup now) = fun g =>
      (metricOf P c g).filter (fun m => !decide (m.lifetime < now)) :=
    funext (fun g => lookup_cleanup c now (groupKey P g))
  unfold tableOf
  rw [readings, metrics]
  rfl

theorem step_table_iff {c : Collector κ} {op : Op κ} {T : Table} :
    PartialRuns.Runs (Table.step P.netaddr cfg) (tableOf P c) (tableOps P E cfg c op) T ↔
      ∃ d, CollectorRuns.step P E cfg c op = .ok d ∧ tableOf P d = T := by
  have single : ∀ op T, PartialRuns.Runs (Table.step P.netaddr cfg) (tableOf P c) [op] T ↔
      (tableOf P c).step P.netaddr cfg op = .ok T := by
    intro op T
    rw [runs_iff_foldlM, List.foldlM_cons, bind_ok]
    constructor
    · rintro ⟨U, step, eq⟩
      cases eq
      exact step
    · exact fun step => ⟨T, step, rfl⟩
  have none : ∀ T, PartialRuns.Runs (Table.step P.netaddr cfg) (tableOf P c) [] T ↔
      tableOf P c = T := by
    intro T
    rw [runs_iff_foldlM]
    exact ⟨Except.ok.inj, congrArg Except.ok⟩
  cases op with
  | collect conns =>
    cases conns with
    | error err =>
      rw [tableOps, none]
      exact ⟨fun eq => ⟨c, rfl, eq⟩, fun ⟨d, step, eq⟩ => by cases step; exact eq⟩
    | ok conns => rw [tableOps, single, collect_table_iff, step_collect_ok]
  | handle call =>
    change _ ↔ ∃ d, Except.ok _ = Except.ok d ∧ _
    rw [tableOps]
    rcases handler_cases E cfg c call with ⟨same, unsent⟩ | ⟨reset, sent⟩
    · rw [same]
      split
      · exact absurd ‹_› (unsent _)
      · rw [none]
        simp only [Except.ok.injEq, exists_eq_left']
    · rw [reset, sent, single, deliver_table]
      simp only [Except.ok.injEq, exists_eq_left']
  | cleanup now =>
    rw [tableOps, single, cleanup_table]
    change _ ↔ ∃ d, Except.ok _ = Except.ok d ∧ _
    simp only [Except.ok.injEq, exists_eq_left']

end Steps

section Batches

variable {P : Packages κ} {c : Collector κ}

theorem mem_batchOf {call : HandlerCall κ} {item : PbRawNetworkMetric} :
    item ∈ (batchOf c call).items ↔
      ∃ key m, c.podMetrics.lookup key = some m ∧ item = m.toPbRawNetworkMetric := by
  have visited : ∀ key, key ∈ call.order c.podMetrics.keys ↔ key ∈ c.podMetrics.keys := by
    intro key
    rw [← Multiset.mem_coe, call.visitsEachOnce, Finset.mem_val]
  rw [batchOf, List.mem_filterMap]
  constructor
  · rintro ⟨key, _, found⟩
    obtain ⟨m, lookup, rfl⟩ := Option.map_eq_some_iff.mp found
    exact ⟨key, m, lookup, rfl⟩
  · rintro ⟨key, m, lookup, rfl⟩
    refine ⟨key, (visited key).mpr ?_, by rw [lookup]; rfl⟩
    rw [Finmap.mem_keys, ← Finmap.lookup_isSome, lookup]
    rfl

theorem WellKeyed.nodup_batchOf (h : WellKeyed P c) (call : HandlerCall κ) :
    (batchOf c call).items.Nodup := by
  have visits : (call.order c.podMetrics.keys).Nodup := by
    rw [← Multiset.coe_nodup, call.visitsEachOnce]
    exact c.podMetrics.keys.nodup
  refine visits.filterMap ?_
  intro key key' item found found'
  obtain ⟨m, lookup, same⟩ := Option.map_eq_some_iff.mp (Option.mem_def.mp found)
  obtain ⟨m', lookup', same'⟩ := Option.map_eq_some_iff.mp (Option.mem_def.mp found')
  obtain ⟨g, rfl, carries⟩ := h key m lookup
  refine (h.key lookup' ?_).symm
  rw [same', ← same]
  exact carries

theorem lists_batchOf (h : WellKeyed P c) (call : HandlerCall κ) :
    (tableOf P c).Lists (batchOf c call).items where
  nodup := WellKeyed.nodup_batchOf h call
  mem item := by
    rw [mem_batchOf]
    constructor
    · rintro ⟨key, m, lookup, rfl⟩
      obtain ⟨g, rfl, _⟩ := h key m lookup
      exact ⟨g, m, lookup, rfl⟩
    · rintro ⟨g, m, metric, rfl⟩
      exact ⟨groupKey P g, m, metric, rfl⟩

theorem lists_sent {E : Encoders} {cfg : Config} (h : Reachable P E cfg c) {call : HandlerCall κ}
    {batch : RawNetworkMetricBatch}
    (sent : (getRawNetworkMetricsHandler E cfg c call).outcome = .sent batch) :
    (tableOf P c).Lists batch.items := by
  rcases handler_cases E cfg c call with ⟨_, unsent⟩ | ⟨_, whole⟩
  · exact absurd sent (unsent batch)
  · rw [whole] at sent
    cases sent
    exact lists_batchOf (wellKeyed_of_reachable h) call

end Batches

def tableHistory (P : Packages κ) (E : Encoders) (cfg : Config) (ops : List (Op κ)) :
    List TableOp :=
  observe (step P E cfg) (tableOps P E cfg) (Collector.empty κ) ops

theorem runs_table {P : Packages κ} {E : Encoders} {cfg : Config} {ops : List (Op κ)}
    {c : Collector κ} (run : Runs (step P E cfg) (.empty κ) ops c) :
    Runs (Table.step P.netaddr cfg) .empty (tableHistory P E cfg ops) (tableOf P c) := by
  refine run.observed (tableOps P E cfg)
    (fun ws c => Runs (Table.step P.netaddr cfg) .empty ws (tableOf P c)) (fun _ _ => True)
    (fun ws c op d h _ step => h.append (step_table_iff.mpr ⟨d, step, rfl⟩))
    (.of_forall (fun _ _ _ => trivial) _) [] (.refl _)

/-- The collector refines the table. After every run its maps show what the operations that the
    run stands for make of the empty table, a batch that it sends lists the table, and its next
    step panics exactly if that of the table does. -/
theorem collector_refines_table (P : Packages κ) (E : Encoders) (cfg : Config)
    {ops : List (Op κ)} {c : Collector κ} (run : Runs (step P E cfg) (.empty κ) ops c) :
    Runs (Table.step P.netaddr cfg) .empty (tableHistory P E cfg ops) (tableOf P c) ∧
    (∀ call batch, (getRawNetworkMetricsHandler E cfg c call).outcome = .sent batch →
      (tableOf P c).Lists batch.items) ∧
    ∀ op, (∃ d, step P E cfg c op = .ok d) ↔
      ∃ T, Runs (Table.step P.netaddr cfg) (tableOf P c) (tableOps P E cfg c op) T := by
  refine ⟨runs_table run, fun call batch sent => lists_sent ⟨ops, run⟩ sent, fun op => ?_⟩
  constructor
  · rintro ⟨d, ok⟩
    exact ⟨tableOf P d, step_table_iff.mpr ⟨d, ok, rfl⟩⟩
  · rintro ⟨T, ok⟩
    obtain ⟨d, stepped, _⟩ := step_table_iff.mp ok
    exact ⟨d, stepped⟩

def sampleHistory : List TableOp :=
  [.collect [sampleEntry 10 (30 * second), secondEntry 20 0],
    .collect [sampleEntry 25 (60 * second), secondEntry 22 (5 * second)],
    .deliver (fun _ => 0), .cleanup (30 * second), .collect [sampleEntry 40 (60 * second)]]

theorem collector_refines_table_sampleRun : ∃ c : Collector Bytes,
    Runs (step .documented .buffering ⟨false, true⟩) (.empty Bytes) sampleRun c ∧
    (cached .documented c secondFlow = none ∧
      (metricOf .documented c sampleGroup).map (·.txBytes) = some 15) ∧
    Runs (Table.step .documented ⟨false, true⟩) .empty sampleHistory (tableOf .documented c) ∧
    (tableOf .documented c).Lists (batchOf c plainCall).items := by
  obtain ⟨c, run, shown⟩ : ∃ c, Runs (step .documented .buffering ⟨false, true⟩) (.empty Bytes)
      sampleRun c ∧ cached .documented c secondFlow = none ∧
        (metricOf .documented c sampleGroup).map (·.txBytes) = some 15 :=
    exists_runs (by decide +kernel)
  obtain ⟨refined, lists, _⟩ := collector_refines_table .documented .buffering ⟨false, true⟩ run
  have history : tableHistory .documented .buffering ⟨false, true⟩ sampleRun = sampleHistory := rfl
  rw [history] at refined
  exact ⟨c, run, shown, refined, lists plainCall _ rfl⟩

/-- Two collectors with different hashes, with which the same happens, know the same and send
    the same metrics, in whatever order. -/
theorem batches_independent_of_seeds {κ' : Type} [DecidableEq κ'] (P : Packages κ)
    (P' : Packages κ') (addresses : P'.netaddr = P.netaddr) (E E' : Encoders) (cfg : Config)
    {ops : List (Op κ)} {ops' : List (Op κ')} {c : Collector κ} {c' : Collector κ'}
    (run : Runs (step P E cfg) (.empty κ) ops c) (run' : Runs (step P' E' cfg) (.empty κ') ops' c')
    (happens : tableHistory P E cfg ops = tableHistory P' E' cfg ops') :
    cached P c = cached P' c' ∧ metricOf P c = metricOf P' c' ∧
    ∀ call call' batch batch', (getRawNetworkMetricsHandler E cfg c call).outcome = .sent batch →
      (getRawNetworkMetricsHandler E' cfg c' call').outcome = .sent batch' →
      batch.items.Perm batch'.items := by
  have table := runs_iff_foldlM.mp (runs_table run)
  have table' := runs_iff_foldlM.mp (runs_table run')
  rw [addresses, ← happens, table] at table'
  have same : tableOf P c = tableOf P' c' := Except.ok.inj table'
  refine ⟨congrArg Table.readings same, congrArg Table.metrics same, ?_⟩
  intro call call' batch batch' sent sent'
  have lists := lists_sent ⟨ops, run⟩ sent
  have lists' := lists_sent ⟨ops', run'⟩ sent'
  rw [← same] at lists'
  rw [List.perm_ext_iff_of_nodup lists.nodup lists'.nodup]
  intro item
  rw [lists.mem, lists'.mem]

def backwards : Packages Bytes where
  netaddr := .documented
  entryGroupHash := ⟨List.reverse, List.reverse_injective⟩
  conntrackEntryHash := ⟨List.reverse, List.reverse_injective⟩

theorem batches_independent_of_seeds_backwards : ∃ c c' : Collector Bytes,
    Runs (step .documented .buffering ⟨false, true⟩) (.empty Bytes) sampleRun c ∧
    Runs (step backwards .buffering ⟨false, true⟩) (.empty Bytes) sampleRun c' ∧
    (metricOf .documented c sampleGroup).map (·.txBytes) = some 15 ∧
    metricOf .documented c = metricOf backwards c' ∧
    (batchOf c plainCall).items.Perm (batchOf c' plainCall).items := by
  obtain ⟨c, run, shown⟩ : ∃ c, Runs (step .documented .buffering ⟨false, true⟩) (.empty Bytes)
      sampleRun c ∧ (metricOf .documented c sampleGroup).map (·.txBytes) = some 15 :=
    exists_runs (by decide +kernel)
  obtain ⟨c', run', _⟩ : ∃ c', Runs (step backwards .buffering ⟨false, true⟩) (.empty Bytes)
      sampleRun c' ∧ (metricOf backwards c' sampleGroup).isSome :=
    exists_runs (by decide +kernel)
  obtain ⟨_, metrics, batches⟩ := batches_independent_of_seeds .documented backwards rfl .buffering
    .buffering ⟨false, true⟩ run run' rfl
  exact ⟨c, c', run, run', shown, metrics, batches plainCall plainCall _ _ rfl rfl⟩

end Egressd.CollectorTable
