import Egressd.CollectorRuns
import Egressd.CriticalSections
import Egressd.FiniteMap

set_option autoImplicit false

/-!
# The goroutines of a collector and its mutex

The goroutine of `Start` and those of the HTTP server use one collector. Here
they run step by step, each loop one iteration at a time and in the order in
which the map happens to be visited, and any of them may be stopped anywhere.
The entries are listed before the mutex is asked for.
-/
namespace Egressd.CollectorMutex
open PartialRuns CriticalSections Finmap Conntrack CollectorModel CollectorHandler CollectorSteps
open CollectorRuns

/-- What is locked, with the orders in which the maps will be visited. -/
inductive LockedCall (κ : Type) where
  | collect (conns : List Entry)
  | handle (call : HandlerCall κ) (reset : VisitOrder κ)
  | cleanup (now : Time) (entries metrics : VisitOrder κ)

inductive Position (κ : Type) where
  | entered (b : LockedCall κ)
  | collecting (conns : List Entry)
  | gathering (call : HandlerCall κ) (reset : VisitOrder κ) (items keys : List κ)
  | writing (call : HandlerCall κ) (reset : VisitOrder κ) (batch : RawNetworkMetricBatch)
      (batchBytes : Bytes)
  | resetting (call : HandlerCall κ) (batch : RawNetworkMetricBatch) (resp : Response) (keys : List κ)
  | cleaningEntries (now : Time) (metrics : VisitOrder κ) (keys : List κ)
  | cleaningMetrics (now : Time) (keys : List κ)

variable {ι κ : Type} [DecidableEq κ]

abbrev Answer := Option (Response × Outcome)

def Position.step (P : Packages κ) (E : Encoders) (cfg : Config) (c : Collector κ) :
    Position κ → Except Panic (Collector κ × (Position κ ⊕ Answer))
  | .entered (.collect conns) => .ok (c, .inl (.collecting conns))
  | .entered (.handle call reset) =>
    .ok (c, .inl (.gathering call reset [] (call.order c.podMetrics.keys)))
  | .entered (.cleanup now entries metrics) =>
    .ok (c, .inl (.cleaningEntries now metrics (entries.keys c.entriesCache.keys)))
  | .collecting (conn :: conns) =>
    (c.record P cfg conn).map (fun c => (c, .inl (.collecting conns)))
  | .collecting [] => .ok ({ c with firstCollectDone := true }, .inr none)
  | .gathering call reset items (key :: keys) =>
    .ok (c, .inl (.gathering call reset (items ++ [key]) keys))
  | .gathering call reset items [] =>
    -- The items are pointers to the metrics, which are read when they are marshalled.
    let batch : RawNetworkMetricBatch :=
      ⟨items.filterMap (fun key => (c.podMetrics.lookup key).map (·.toPbRawNetworkMetric)),
        call.records⟩
    match E.marshal batch with
    | .error err => .ok (c, .inr (some (Response.empty.writeHeader 500, .marshalFailed err)))
    | .ok batchBytes => .ok (c, .inl (.writing call reset batch batchBytes))
  | .writing call reset batch batchBytes =>
    match writeBody E call batchBytes with
    | (some err, resp) => .ok (c, .inr (some (resp, .writeFailed err)))
    | (none, resp) =>
      if cfg.sendTrafficDelta then
        .ok (c, .inl (.resetting call batch resp (reset.keys c.podMetrics.keys)))
      else .ok (c, .inr (some (resp, .sent batch)))
  | .resetting call batch resp (key :: keys) =>
    .ok ({ c with podMetrics := c.podMetrics.rewrite (fun key => resetMetric (call.clock key)) key },
      .inl (.resetting call batch resp keys))
  | .resetting _ batch resp [] => .ok (c, .inr (some (resp, .sent batch)))
  | .cleaningEntries now metrics (key :: keys) =>
    .ok ({ c with
        entriesCache := c.entriesCache.retain (fun _ e => !decide (e.lifetime < now)) key },
      .inl (.cleaningEntries now metrics keys))
  | .cleaningEntries now metrics [] =>
    .ok (c, .inl (.cleaningMetrics now (metrics.keys c.podMetrics.keys)))
  | .cleaningMetrics now (key :: keys) =>
    .ok ({ c with podMetrics := c.podMetrics.retain (fun _ m => !decide (m.lifetime < now)) key },
      .inl (.cleaningMetrics now keys))
  | .cleaningMetrics _ [] => .ok (c, .inr none)

def code (P : Packages κ) (E : Encoders) (cfg : Config) :
    Code (Collector κ) (LockedCall κ) (Position κ) Answer Panic :=
  ⟨.entered, Position.step P E cfg⟩

def LockedCall.op : LockedCall κ → Op κ
  | .collect conns => .collect (.ok conns)
  | .handle call _ => .handle call
  | .cleanup now _ _ => .cleanup now

def LockedCall.answer (E : Encoders) (cfg : Config) (c : Collector κ) : LockedCall κ → Answer
  | .handle call _ =>
    some ((getRawNetworkMetricsHandler E cfg c call).response,
      (getRawNetworkMetricsHandler E cfg c call).outcome)
  | _ => none

section Calls

variable {P : Packages κ} {E : Encoders} {cfg : Config} {c c' : Collector κ} {r : Answer}

theorem completes_collecting {conns : List Entry} :
    Completes (code P E cfg) c (.collecting conns) c' r ↔
      c.collectConns P cfg conns = .ok c' ∧ r = none := by
  rw [completes_loop Position.collecting (Collector.record P cfg) (fun _ _ _ => rfl),
    collectConns_iff]
  have last : ∀ u : Collector κ, Completes (code P E cfg) u (.collecting []) c' r ↔
      c' = { u with firstCollectDone := true } ∧ r = none := fun u => completes_of_returns rfl
  simp only [last]
  constructor
  · rintro ⟨u, run, same, none⟩
    exact ⟨⟨u, run, same⟩, none⟩
  · rintro ⟨⟨u, run, same⟩, none⟩
    exact ⟨u, run, same, none⟩

omit [DecidableEq κ] in
theorem foldl_podMetrics (body : Finmap (fun _ : κ => RawNetworkMetric) → κ →
      Finmap (fun _ : κ => RawNetworkMetric)) (keys : List κ) (c : Collector κ) :
    keys.foldl (fun c key => { c with podMetrics := body c.podMetrics key }) c =
      { c with podMetrics := keys.foldl body c.podMetrics } := by
  induction keys generalizing c with
  | nil => rfl
  | cons key keys ih =>
    rw [List.foldl_cons, ih]
    rfl

omit [DecidableEq κ] in
theorem foldl_entriesCache (body : Finmap (fun _ : κ => Entry) → κ → Finmap (fun _ : κ => Entry))
    (keys : List κ) (c : Collector κ) :
    keys.foldl (fun c key => { c with entriesCache := body c.entriesCache key }) c =
      { c with entriesCache := keys.foldl body c.entriesCache } := by
  induction keys generalizing c with
  | nil => rfl
  | cons key keys ih =>
    rw [List.foldl_cons, ih]
    rfl

theorem completes_cleaningMetrics {now : Time} {metrics : VisitOrder κ} :
    Completes (code P E cfg) c (.cleaningMetrics now (metrics.keys c.podMetrics.keys)) c' r ↔
      c' = { c with podMetrics := c.podMetrics.filter (fun _ m => !decide (m.lifetime < now)) } ∧
        r = none := by
  rw [completes_foldl (Position.cleaningMetrics now) _ (fun _ _ _ => rfl), foldl_podMetrics,
    foldl_retain, completes_of_returns rfl]

theorem completes_cleaningEntries {now : Time} {entries metrics : VisitOrder κ} :
    Completes (code P E cfg) c (.cleaningEntries now metrics (entries.keys c.entriesCache.keys)) c'
      r ↔ c' = c.cleanup now ∧ r = none := by
  rw [completes_foldl (Position.cleaningEntries now metrics) _ (fun _ _ _ => rfl),
    foldl_entriesCache, foldl_retain, completes_of_goes rfl, completes_cleaningMetrics]
  rfl

theorem completes_resetting {call : HandlerCall κ} {batch : RawNetworkMetricBatch} {resp : Response}
    {reset : VisitOrder κ} (delta : cfg.sendTrafficDelta = true) :
    Completes (code P E cfg) c (.resetting call batch resp (reset.keys c.podMetrics.keys)) c' r ↔
      c' = resetDeltas cfg c call.clock ∧ r = some (resp, .sent batch) := by
  rw [completes_foldl (Position.resetting call batch resp) _ (fun _ _ _ => rfl), foldl_podMetrics,
    foldl_rewrite, completes_of_returns rfl, resetDeltas, if_pos delta]

theorem completes_gathering {call : HandlerCall κ} {reset : VisitOrder κ} {items keys : List κ} :
    Completes (code P E cfg) c (.gathering call reset items keys) c' r ↔
      Completes (code P E cfg) c (.gathering call reset (items ++ keys) []) c' r := by
  induction keys generalizing items with
  | nil => rw [List.append_nil]
  | cons key keys ih =>
    rw [completes_of_goes rfl, ih, List.append_assoc, List.singleton_append]

theorem completes_writing {call : HandlerCall κ} {reset : VisitOrder κ} {batchBytes : Bytes}
    (marshalled : E.marshal (batchOf c call) = .ok batchBytes) :
    Completes (code P E cfg) c (.writing call reset (batchOf c call) batchBytes) c' r ↔
      c' = (getRawNetworkMetricsHandler E cfg c call).collector ∧
        r = LockedCall.answer E cfg c (.handle call reset) := by
  cases wrote : writeBody E call batchBytes with
  | mk err resp =>
    cases err with
    | some err =>
      have handled : getRawNetworkMetricsHandler E cfg c call = ⟨c, resp, .writeFailed err⟩ := by
        simp only [getRawNetworkMetricsHandler, marshalled, wrote]
      rw [LockedCall.answer, handled]
      exact completes_of_returns (by simp only [code, Position.step, wrote])
    | none =>
      have handled : getRawNetworkMetricsHandler E cfg c call =
          ⟨resetDeltas cfg c call.clock, resp, .sent (batchOf c call)⟩ := by
        simp only [getRawNetworkMetricsHandler, marshalled, wrote]
      rw [LockedCall.answer, handled]
      cases delta : cfg.sendTrafficDelta with
      | true =>
        rw [completes_of_goes (by simp only [code, Position.step, wrote, delta, if_true]; rfl),
          completes_resetting delta]
      | false =>
        have unchanged : resetDeltas cfg c call.clock = c := by
          rw [resetDeltas, delta, if_neg Bool.false_ne_true]
        rw [unchanged]
        exact completes_of_returns
          (by simp only [code, Position.step, wrote, delta, Bool.false_eq_true, if_false])

theorem completes_handle {call : HandlerCall κ} {reset : VisitOrder κ} :
    Completes (code P E cfg) c (.entered (.handle call reset)) c' r ↔
      c' = (getRawNetworkMetricsHandler E cfg c call).collector ∧
        r = LockedCall.answer E cfg c (.handle call reset) := by
  rw [completes_of_goes rfl, completes_gathering, List.nil_append]
  have batch : (⟨(call.order c.podMetrics.keys).filterMap
      (fun key => (c.podMetrics.lookup key).map (·.toPbRawNetworkMetric)), call.records⟩ :
        RawNetworkMetricBatch) = batchOf c call := rfl
  cases marshalled : E.marshal (batchOf c call) with
  | ok batchBytes =>
    rw [completes_of_goes (by simp only [code, Position.step, batch, marshalled]; rfl),
      completes_writing marshalled]
  | error err =>
    have handled : getRawNetworkMetricsHandler E cfg c call =
        ⟨c, Response.empty.writeHeader 500, .marshalFailed err⟩ := by
      simp only [getRawNetworkMetricsHandler, marshalled]
    rw [LockedCall.answer, handled]
    exact completes_of_returns (by simp only [code, Position.step, batch, marshalled])

theorem completes_iff {b : LockedCall κ} : Completes (code P E cfg) c (.entered b) c' r ↔
    CollectorRuns.step P E cfg c b.op = .ok c' ∧ r = b.answer E cfg c := by
  cases b with
  | collect conns =>
    rw [completes_of_goes rfl, completes_collecting, LockedCall.op, step_collect_ok]
    rfl
  | handle call reset =>
    rw [completes_handle]
    change _ ↔ Except.ok _ = Except.ok _ ∧ _
    rw [Except.ok.injEq, eq_comm]
  | cleanup now entries metrics =>
    rw [completes_of_goes rfl, completes_cleaningEntries]
    change _ ↔ Except.ok _ = Except.ok _ ∧ _
    rw [Except.ok.injEq, eq_comm]
    rfl

end Calls

section Interleavings

variable [DecidableEq ι]

/-- A state of the goroutines and the collector after the calls that have returned, one after the
    other. -/
structure Serialized (P : Packages κ) (E : Encoders) (cfg : Config)
    (acts : List (Act ι (LockedCall κ)))
    (t : State ι (Collector κ) (LockedCall κ) (Position κ) Answer) (c : Collector κ) : Prop where
  runs : Runs (CollectorRuns.step P E cfg) (.empty κ) (t.returned.map (fun x => x.call.op)) c
  idle : t.holder = none → t.shared = c
  answers : ∀ before x after, t.returned = before ++ x :: after → ∃ d,
    Runs (CollectorRuns.step P E cfg) (.empty κ) (before.map (fun x => x.call.op)) d ∧
      x.result = x.call.answer E cfg d
  calls : ∀ i, callsOf i acts = t.returnedTo i ++ t.pending i
  releases : ∀ h d, t.holder = some h → CollectorRuns.step P E cfg c h.call.op = .ok d → ∃ n t',
    Runs (CriticalSections.step (code P E cfg)) t (List.replicate n .advance) t' ∧
      t'.holder = none ∧ t'.shared = d
  panics : ∀ h p, t.holder = some h → (code P E cfg).step t.shared h.position = .error p →
    ∃ p', CollectorRuns.step P E cfg c h.call.op = .error p'

end Interleavings

/-- However the goroutines of `Start` and of the HTTP server take turns, the collector is as if
    each `collect`, `cleanup` and handler had run at once when it got the mutex, every response is
    the one of that moment, no call is lost or made twice, and the mutex is given back unless the
    process panics, as it would then as well. -/
theorem interleavings_serialized [DecidableEq ι] (P : Packages κ) (E : Encoders) (cfg : Config)
    {acts : List (Act ι (LockedCall κ))}
    {t : State ι (Collector κ) (LockedCall κ) (Position κ) Answer}
    (run : Runs (CriticalSections.step (code P E cfg)) (start (.empty κ)) acts t) :
    ∃ c, Serialized P E cfg acts t c := by
  obtain ⟨c, serial⟩ := serial_of_run run
  have atomic : ∀ u b v r, Completes (code P E cfg) u ((code P E cfg).enter b) v r →
      CollectorRuns.step P E cfg u b.op = .ok v := fun u b v r h => (completes_iff.mp h).1
  -- What a call that is under way still does, if it would have succeeded at once.
  have completes : ∀ h d, t.holder = some h → CollectorRuns.step P E cfg c h.call.op = .ok d →
      Completes (code P E cfg) t.shared h.position d (h.call.answer E cfg c) :=
    fun h d holds ok => completes_of_path (serial.underWay h holds) (completes_iff.mpr ⟨ok, rfl⟩)
  refine ⟨c, serial.before.runs atomic, serial.idle, ?_, callsOf_of_run run, ?_, ?_⟩
  · intro before x after split
    have log := serial.before
    rw [split] at log
    obtain ⟨d, _, earlier, last⟩ := log.result
    exact ⟨d, earlier.runs atomic, (completes_iff.mp last).2⟩
  · intro h d holds ok
    exact exists_release holds (completes h d holds ok)
  · intro h p holds failed
    cases atOnce : CollectorRuns.step P E cfg c h.call.op with
    | error p' => exact ⟨p', rfl⟩
    | ok d => exact absurd (completes h d holds atOnce) (not_completes failed)

def waitingHandler (call : HandlerCall Bytes) (o : VisitOrder Bytes) :
    List (Act Bool (LockedCall Bytes)) :=
  [.lock true (.collect [sampleEntry 10 0]), .acquire true, .advance, .lock false (.handle call o),
    .advance, .advance, .acquire false]

theorem interleavings_serialized_waiting :
    ∃ t c, Runs (CriticalSections.step (code .documented .buffering ⟨false, true⟩))
        (start (.empty Bytes)) (waitingHandler (sampleCall ⟨[]⟩ ⟨fun _ _ => none⟩) (.first [])) t ∧
      t.holder.isSome ∧
      Serialized .documented .buffering ⟨false, true⟩
        (waitingHandler (sampleCall ⟨[]⟩ ⟨fun _ _ => none⟩) (.first [])) t c := by
  have run : ∃ t, Runs (CriticalSections.step (code .documented .buffering ⟨false, true⟩))
      (start (.empty Bytes)) (waitingHandler (sampleCall ⟨[]⟩ ⟨fun _ _ => none⟩) (.first [])) t ∧
      t.holder.isSome :=
    ⟨_, .next rfl (.next rfl (.next rfl (.next rfl (.next rfl (.next rfl (.next rfl (.refl _))))))),
      rfl⟩
  obtain ⟨t, run, held⟩ := run
  obtain ⟨c, serialized⟩ := interleavings_serialized .documented .buffering ⟨false, true⟩ run
  exact ⟨t, c, run, held, serialized⟩

end Egressd.CollectorMutex
