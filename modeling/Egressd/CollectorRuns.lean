import Egressd.CollectorHandler
import Egressd.CollectorSteps

set_option autoImplicit false

namespace Egressd.CollectorRuns
open Conntrack CollectorModel CollectorHandler CollectorSteps PartialRuns

/-- The ticks of `Start` and the requests of the HTTP server, each of them one step because of the
    mutex. The result of the listing is part of a collect. -/
inductive Op (κ : Type) where
  | collect (conns : Except Error (List Entry))
  | handle (call : HandlerCall κ)
  | cleanup (now : Time)

variable {κ : Type}

theorem firstCollectDone_resetDeltas (cfg : Config) (c : Collector κ) (clock : κ → Time) :
    (resetDeltas cfg c clock).firstCollectDone = c.firstCollectDone := by
  unfold resetDeltas
  split <;> rfl

variable [DecidableEq κ]

def step (P : Packages κ) (E : Encoders) (cfg : Config) (c : Collector κ) :
    Op κ → Except Panic (Collector κ)
  | .collect conns => do
    -- Start logs the error of a failed collect and goes on.
    let (c, _) ← c.collectListed P cfg conns
    return c
  | .handle call => return (getRawNetworkMetricsHandler E cfg c call).collector
  | .cleanup now => return c.cleanup now

def listedBy : Op κ → List Entry
  | .collect (.ok conns) => conns
  | _ => []

def listed (ops : List (Op κ)) : List Entry := ops.flatMap listedBy

/-- The states that `New` and any sequence of steps without a panic lead to. -/
def Reachable (P : Packages κ) (E : Encoders) (cfg : Config) (c : Collector κ) : Prop :=
  ∃ ops, Runs (step P E cfg) (Collector.empty κ) ops c

theorem collectConns_iff {P : Packages κ} {cfg : Config} {c c' : Collector κ}
    {conns : List Entry} : c.collectConns P cfg conns = .ok c' ↔
      ∃ d, Runs (Collector.record P cfg) c conns d ∧ c' = { d with firstCollectDone := true } := by
  simp only [Collector.collectConns, bind_ok, runs_iff_foldlM, pure, Except.pure, Except.ok.injEq]
  constructor
  · rintro ⟨d, hd, rfl⟩
    exact ⟨d, hd, rfl⟩
  · rintro ⟨d, hd, rfl⟩
    exact ⟨d, hd, rfl⟩

theorem step_collect_ok {P : Packages κ} {E : Encoders} {cfg : Config} {c : Collector κ}
    {conns : List Entry} :
    step P E cfg c (.collect (.ok conns)) = c.collectConns P cfg conns := by
  simp only [step, Collector.collectListed]
  cases c.collectConns P cfg conns with
  | error p => rfl
  | ok d => rfl

theorem step_collect_sample (P : Packages κ) (E : Encoders) (delta : Bool) (c : Collector κ)
    (txBytes : UInt64) (lifetime : Time) :
    step P E ⟨false, delta⟩ c (.collect (.ok [sampleEntry txBytes lifetime])) =
      .ok { recorded P ⟨false, delta⟩ c (sampleEntry txBytes lifetime) sampleFlow sampleGroup with
        firstCollectDone := true } := by
  rw [step_collect_ok, collectConns_iff]
  refine ⟨_, .next (record_iff.mpr ⟨sampleFlow, sampleGroup, ?_, ?_, rfl⟩) (.refl _), rfl⟩
  · exact flowOf_sampleEntry _ _ _
  · exact groupOf_sampleEntry _ _ _ _

/-- Two flows, of which the second has expired at the cleanup. -/
def sampleRun : List (Op Bytes) :=
  [.collect (.ok [sampleEntry 10 (30 * second), secondEntry 20 0]),
    .collect (.ok [sampleEntry 25 (60 * second), secondEntry 22 (5 * second)]),
    .handle plainCall, .cleanup (30 * second), .collect (.ok [sampleEntry 40 (60 * second)])]

theorem handler_cases (E : Encoders) (cfg : Config) (c : Collector κ) (call : HandlerCall κ) :
    ((getRawNetworkMetricsHandler E cfg c call).collector = c ∧
      ∀ b, (getRawNetworkMetricsHandler E cfg c call).outcome ≠ .sent b) ∨
    ((getRawNetworkMetricsHandler E cfg c call).collector = resetDeltas cfg c call.clock ∧
      (getRawNetworkMetricsHandler E cfg c call).outcome = .sent (batchOf c call)) := by
  cases hm : E.marshal (batchOf c call) with
  | error err => simp [getRawNetworkMetricsHandler, hm]
  | ok batchBytes =>
    cases hw : writeBody E call batchBytes with
    | mk err resp =>
      cases err with
      | some err => simp [getRawNetworkMetricsHandler, hm, hw]
      | none => simp [getRawNetworkMetricsHandler, hm, hw]

theorem cached_resetDeltas (P : Packages κ) (cfg : Config) (c : Collector κ) (clock : κ → Time)
    (t : Flow) : cached P (resetDeltas cfg c clock) t = cached P c t := by
  unfold resetDeltas
  split <;> rfl

theorem lookup_resetDeltas (cfg : Config) (c : Collector κ) (clock : κ → Time) (key : κ) :
    (resetDeltas cfg c clock).podMetrics.lookup key =
      if cfg.sendTrafficDelta then (c.podMetrics.lookup key).map (resetMetric (clock key))
      else c.podMetrics.lookup key := by
  unfold resetDeltas
  split
  · exact Finmap.lookup_mapValues _ _ _
  · rfl

theorem resetMetric_counter (now : Time) (m : RawNetworkMetric) (k : CounterField) :
    (resetMetric now m).counter k = 0 := by
  cases k <;> rfl

theorem value_resetDeltas {P : Packages κ} {cfg : Config} (deltaMode : cfg.sendTrafficDelta = true)
    (c : Collector κ) (clock : κ → Time) (g : Group) (k : CounterField) :
    value P (resetDeltas cfg c clock) g k = 0 := by
  unfold value
  rw [metricOf, lookup_resetDeltas, if_pos deltaMode]
  cases c.podMetrics.lookup (groupKey P g) with
  | none => rfl
  | some m => exact resetMetric_counter _ m k

theorem lookup_cleanup (c : Collector κ) (now : Time) (key : κ) :
    (c.cleanup now).podMetrics.lookup key =
      (c.podMetrics.lookup key).filter (fun m => !decide (m.lifetime < now)) :=
  Finmap.lookup_filter _ _ _

theorem cached_cleanup (P : Packages κ) (c : Collector κ) (now : Time) (t : Flow) :
    cached P (c.cleanup now) t = (cached P c t).filter (fun e => !decide (e.lifetime < now)) :=
  Finmap.lookup_filter _ _ _

/-- What is noted at the loop iterations of collects and at handler calls of a run. -/
structure Observer (κ ω : Type) where
  record : Collector κ → Entry → List ω
  handle : Collector κ → HandlerCall κ → List ω

def Observer.op {ω : Type} (O : Observer κ ω) (P : Packages κ) (cfg : Config)
    (c : Collector κ) : Op κ → List ω
  | .collect (.ok conns) => observe (Collector.record P cfg) O.record c conns
  | .collect (.error _) => []
  | .handle call => O.handle c call
  | .cleanup _ => []

def Observer.run {ω : Type} (O : Observer κ ω) (P : Packages κ) (E : Encoders) (cfg : Config) :
    Collector κ → List (Op κ) → List ω :=
  observe (step P E cfg) (O.op P cfg)

/-- The induction over the steps of a run and the iterations within them, for a relation
    between the state and what was observed on the way to it. -/
theorem Observer.induction {ω : Type} (O : Observer κ ω) {P : Packages κ} {E : Encoders}
    {cfg : Config} (I : List ω → Collector κ → Prop) (Q : Collector κ → Op κ → Prop)
    (record : ∀ ws c e t g, flowOf P.netaddr e = .ok t → groupOf P.netaddr cfg e = .ok g →
      I ws c → I (ws ++ O.record c e) (recorded P cfg c e t g))
    (done : ∀ ws c, I ws c → I ws { c with firstCollectDone := true })
    (handle : ∀ ws c call, I ws c →
      I (ws ++ O.handle c call) (getRawNetworkMetricsHandler E cfg c call).collector)
    (cleanup : ∀ ws c now, Q c (.cleanup now) → I ws c → I ws (c.cleanup now))
    {c d : Collector κ} {ops : List (Op κ)} (run : Runs (step P E cfg) c ops d)
    (admitted : Admitted (step P E cfg) Q c ops) (start : I [] c) :
    I (O.run P E cfg c ops) d := by
  refine run.observed (O.op P cfg) I Q ?_ admitted [] start
  intro ws c op c' hc hq hstep
  cases op with
  | collect conns =>
    cases conns with
    | error err =>
      cases hstep
      simpa only [Observer.op, List.append_nil] using hc
    | ok conns =>
      rw [step_collect_ok, collectConns_iff] at hstep
      obtain ⟨d, records, rfl⟩ := hstep
      refine done _ d (records.observed O.record I (fun _ _ => True) ?_
        (.of_forall (fun _ _ _ => trivial) c) ws hc)
      intro ws c e c' hc _ hrec
      obtain ⟨t, g, ht, hg, rfl⟩ := record_iff.mp hrec
      exact record ws c e t g ht hg hc
  | handle call =>
    cases hstep
    exact handle ws c call hc
  | cleanup now =>
    cases hstep
    simpa only [Observer.op, List.append_nil] using cleanup ws c now hq hc

theorem reachable_induction {P : Packages κ} {E : Encoders} {cfg : Config}
    (I : Collector κ → Prop) (empty : I (Collector.empty κ))
    (record : ∀ c e t g, flowOf P.netaddr e = .ok t → groupOf P.netaddr cfg e = .ok g →
      I c → I (recorded P cfg c e t g))
    (done : ∀ c, I c → I { c with firstCollectDone := true })
    (reset : ∀ c clock, I c → I (resetDeltas cfg c clock))
    (cleanup : ∀ c now, I c → I (c.cleanup now)) {c : Collector κ}
    (h : Reachable P E cfg c) : I c := by
  obtain ⟨ops, run⟩ := h
  let silent : Observer κ Unit := ⟨fun _ _ => [], fun _ _ => []⟩
  refine silent.induction (fun _ c => I c) (fun _ _ => True) (fun _ => record) (fun _ => done) ?_
    (fun _ c now _ => cleanup c now) run (.of_forall (fun _ _ _ => trivial) _) empty
  intro _ c call hc
  rcases handler_cases E cfg c call with ⟨same, _⟩ | ⟨zeroed, _⟩
  · rw [same]
    exact hc
  · rw [zeroed]
    exact reset c call.clock hc

/-- Every key of `podMetrics` is the hash of the group that its metric carries. -/
def WellKeyed (P : Packages κ) (c : Collector κ) : Prop :=
  ∀ key m, c.podMetrics.lookup key = some m →
    ∃ g, key = groupKey P g ∧ Carries m.toPbRawNetworkMetric g

theorem WellKeyed.carries {P : Packages κ} {c : Collector κ} (h : WellKeyed P c) {g : Group}
    {m : RawNetworkMetric} (hm : metricOf P c g = some m) :
    Carries m.toPbRawNetworkMetric g := by
  obtain ⟨g', key, carries⟩ := h _ m hm
  rw [(groupKey_inj P).mp key]
  exact carries

theorem WellKeyed.key {P : Packages κ} {c : Collector κ} (h : WellKeyed P c) {g : Group}
    {key : κ} {m : RawNetworkMetric} (hm : c.podMetrics.lookup key = some m)
    (carries : Carries m.toPbRawNetworkMetric g) : key = groupKey P g := by
  obtain ⟨g', hkey, carries'⟩ := h key m hm
  rw [hkey, carries'.unique carries]

theorem wellKeyed_empty (P : Packages κ) : WellKeyed P (Collector.empty κ) := by
  intro key m h
  change (∅ : Finmap (fun _ : κ => RawNetworkMetric)).lookup key = some m at h
  rw [Finmap.lookup_empty] at h
  cases h

theorem WellKeyed.recorded {P : Packages κ} {c : Collector κ} (h : WellKeyed P c)
    (cfg : Config) (e : Entry) (t : Flow) (g : Group) : WellKeyed P (recorded P cfg c e t g) := by
  intro key m hm
  rw [podMetrics_recorded] at hm
  split at hm
  · exact h key m hm
  · rw [Finmap.lookup_insert_ite] at hm
    split at hm
    · rename_i same
      cases hm
      exact ⟨g, same, credited_carries _ _ (fun m hm => h.carries hm)⟩
    · exact h key m hm

theorem WellKeyed.collectConns {P : Packages κ} {cfg : Config} {c d : Collector κ}
    {conns : List Entry} (h : WellKeyed P c) (collected : c.collectConns P cfg conns = .ok d) :
    WellKeyed P d := by
  obtain ⟨u, run, rfl⟩ := collectConns_iff.mp collected
  change WellKeyed P u
  refine run.invariant (WellKeyed P) (fun _ => True) ?_ h (fun _ _ => trivial)
  intro c e c' hc _ hrec
  obtain ⟨t, g, _, _, rfl⟩ := record_iff.mp hrec
  exact hc.recorded cfg e t g

theorem WellKeyed.resetDeltas {P : Packages κ} {c : Collector κ} (h : WellKeyed P c)
    (cfg : Config) (clock : κ → Time) : WellKeyed P (resetDeltas cfg c clock) := by
  intro key m hm
  rw [lookup_resetDeltas] at hm
  split at hm
  · obtain ⟨m', hm', rfl⟩ := Option.map_eq_some_iff.mp hm
    exact h key m' hm'
  · exact h key m hm

theorem WellKeyed.cleanup {P : Packages κ} {c : Collector κ} (h : WellKeyed P c) (now : Time) :
    WellKeyed P (c.cleanup now) := by
  intro key m hm
  rw [lookup_cleanup] at hm
  exact h key m (Option.filter_eq_some_iff.mp hm).1

theorem wellKeyed_of_reachable {P : Packages κ} {E : Encoders} {cfg : Config} {c : Collector κ}
    (h : Reachable P E cfg c) : WellKeyed P c :=
  reachable_induction (WellKeyed P) (wellKeyed_empty P)
    (fun _ e t g _ _ hc => hc.recorded cfg e t g) (fun _ hc => hc)
    (fun _ clock hc => hc.resetDeltas cfg clock) (fun _ now hc => hc.cleanup now) h

end Egressd.CollectorRuns
