import Egressd.CollectorRuns

set_option autoImplicit false

namespace Egressd.HandlerWrites
open Conntrack CollectorModel CollectorHandler CollectorSteps CollectorRuns

def Failed (r : Response) : Prop := ∃ p ∈ r.writes, p.2 ≠ none

theorem write_failed_iff (w : ResponseWriter) (r : Response) (p : Bytes) :
    Failed (r.write w p).2 ↔ Failed r ∨ (r.write w p).1 ≠ none := by
  simp only [Failed, Response.write, Response.writeHeader, List.mem_append, List.mem_singleton,
    or_and_right, exists_or, exists_eq_left]

theorem writeAll_failed_iff (w : ResponseWriter) (r : Response) (ps : List Bytes) :
    Failed (r.writeAll w ps).2 ↔ Failed r ∨ (r.writeAll w ps).1 ≠ none := by
  induction ps generalizing r with
  | nil => simp [Response.writeAll]
  | cons p ps ih =>
    have first := write_failed_iff w r p
    rw [Response.writeAll]
    cases hw : r.write w p with
    | mk err r' =>
      rw [hw] at first
      cases err with
      | some err => exact first
      | none =>
        simp only [ne_eq, not_true_eq_false, or_false] at first
        rw [← first]
        exact ih r'

def gzipWritten (E : Encoders) (w : ResponseWriter) (body : Bytes) : Option Error × Response :=
  (Response.empty.addHeader "Content-Encoding" "gzip").writeAll w (E.gzipWrite body)

def gzipClosed (E : Encoders) (w : ResponseWriter) (body : Bytes) : Option Error × Response :=
  (gzipWritten E w body).2.writeAll w (E.gzipClose body)

/-- The deferred `Close` fails to write what `Write` had kept back. -/
def CloseFails (E : Encoders) (w : ResponseWriter) (body : Bytes) : Prop :=
  (gzipWritten E w body).1 = none ∧ (gzipClosed E w body).1 ≠ none

theorem gzipBody_failed_iff (E : Encoders) (w : ResponseWriter) (body : Bytes) :
    (writeGzipBody E w .empty body).1 = none ∧ Failed (writeGzipBody E w .empty body).2 ↔
      CloseFails E w body := by
  have written := writeAll_failed_iff w (Response.empty.addHeader "Content-Encoding" "gzip")
    (E.gzipWrite body)
  have untouched : ¬ Failed (Response.empty.addHeader "Content-Encoding" "gzip") := by
    rintro ⟨p, mem, _⟩
    cases mem
  unfold CloseFails gzipClosed gzipWritten writeGzipBody
  cases hw : (Response.empty.addHeader "Content-Encoding" "gzip").writeAll w (E.gzipWrite body) with
  | mk err r =>
    rw [hw] at written
    cases err with
    | some err => simp [hw]
    | none =>
      have closed := writeAll_failed_iff w r (E.gzipClose body)
      simp only [hw, true_and]
      rw [closed, written]
      simp [untouched]

theorem plainBody_not_failed (w : ResponseWriter) (body : Bytes) :
    ¬ ((writePlainBody w .empty body).1 = none ∧ Failed (writePlainBody w .empty body).2) := by
  have written := write_failed_iff w .empty body
  have untouched : ¬ Failed Response.empty := by
    rintro ⟨p, mem, _⟩
    cases mem
  unfold writePlainBody
  cases hw : Response.empty.write w body with
  | mk err r =>
    rw [hw] at written
    cases err with
    | some err => simp
    | none => simp [written, untouched]

theorem resetMetric_eq_iff (now : Time) (m : RawNetworkMetric) :
    resetMetric now m = m ↔ (∀ k, m.counter k = 0) ∧ m.lifetime ≤ now + 2 * minute := by
  constructor
  · intro h
    refine ⟨fun k => by rw [← h, resetMetric_counter], ?_⟩
    have lifetime := congrArg RawNetworkMetric.lifetime h
    simp only [resetMetric] at lifetime
    split at lifetime
    · exact le_of_eq lifetime.symm
    · rename_i within
      exact not_lt.mp within
  · rintro ⟨zero, within⟩
    have tb : m.txBytes = 0 := zero .txBytes
    have tp : m.txPackets = 0 := zero .txPackets
    have rb : m.rxBytes = 0 := zero .rxBytes
    have rp : m.rxPackets = 0 := zero .rxPackets
    rw [resetMetric, if_neg (not_lt.mpr within)]
    obtain ⟨⟨_, _, _, _, _, _, _⟩, _⟩ := m
    simp only at tb tp rb rp
    rw [tb, tp, rb, rp]

variable {κ : Type} [DecidableEq κ]

theorem resetDeltas_eq_iff {cfg : Config} (deltaMode : cfg.sendTrafficDelta = true)
    (c : Collector κ) (clock : κ → Time) :
    (resetDeltas cfg c clock).podMetrics = c.podMetrics ↔
      ∀ key m, c.podMetrics.lookup key = some m →
        (∀ k, m.counter k = 0) ∧ m.lifetime ≤ clock key + 2 * minute := by
  constructor
  · intro same key m hm
    have after := lookup_resetDeltas cfg c clock key
    rw [same, if_pos deltaMode, hm, Option.map_some, Option.some.injEq] at after
    exact (resetMetric_eq_iff _ m).mp after.symm
  · intro quiet
    refine Finmap.ext_lookup (fun key => ?_)
    rw [lookup_resetDeltas, if_pos deltaMode]
    cases hm : c.podMetrics.lookup key with
    | none => rfl
    | some m => rw [Option.map_some, (resetMetric_eq_iff _ m).mpr (quiet key m hm)]

/-- A failed write leaves the metrics untouched exactly unless the response is compressed, the
    only failure is in the deferred `Close`, and some metric has something to reset. -/
theorem failed_write_keeps_metrics_iff (E : Encoders) (cfg : Config)
    (deltaMode : cfg.sendTrafficDelta = true) (c : Collector κ) (call : HandlerCall κ) :
    (Failed (getRawNetworkMetricsHandler E cfg c call).response →
      (getRawNetworkMetricsHandler E cfg c call).collector.podMetrics = c.podMetrics) ↔
    ¬ ((∃ body, E.marshal (batchOf c call) = .ok body ∧ acceptsGzip call.request ∧
        CloseFails E call.writer body) ∧
      ∃ key m, c.podMetrics.lookup key = some m ∧
        ((∃ k, m.counter k ≠ 0) ∨ call.clock key + 2 * minute < m.lifetime)) := by
  have quiet_iff := resetDeltas_eq_iff deltaMode c call.clock
  cases hm : E.marshal (batchOf c call) with
  | error err => simp [getRawNetworkMetricsHandler, hm]
  | ok body =>
    have reset_iff : (writeBody E call body).1 = none ∧ Failed (writeBody E call body).2 ↔
        acceptsGzip call.request ∧ CloseFails E call.writer body := by
      unfold writeBody
      cases acceptsGzip call.request with
      | true => simpa using gzipBody_failed_iff E call.writer body
      | false => simpa using plainBody_not_failed call.writer body
    cases hw : writeBody E call body with
    | mk err resp =>
      rw [hw] at reset_iff
      cases err with
      | some err =>
        have closes : ¬ (acceptsGzip call.request ∧ CloseFails E call.writer body) := by
          rw [← reset_iff]
          simp
        simp [getRawNetworkMetricsHandler, hm, hw, closes]
      | none =>
        have failed : Failed resp ↔ acceptsGzip call.request ∧ CloseFails E call.writer body := by
          simpa using reset_iff
        simp only [getRawNetworkMetricsHandler, hm, hw, Except.ok.injEq, exists_eq_left',
          quiet_iff, failed]
        push Not
        rfl

def pendingCollector : Collector Bytes :=
  recorded .documented ⟨false, true⟩ { Collector.empty Bytes with firstCollectDone := true }
    (sampleEntry 10 (30 * second)) sampleFlow sampleGroup

def brokenPipe : ResponseWriter := ⟨fun n _ => if n = 0 then none else some "broken pipe"⟩

def closedPipe : ResponseWriter := ⟨fun _ _ => some "closed pipe"⟩

theorem failed_write_keeps_metrics_iff_plain :
    Failed (getRawNetworkMetricsHandler .buffering ⟨false, true⟩ pendingCollector
      (sampleCall ⟨[]⟩ closedPipe)).response ∧
    (getRawNetworkMetricsHandler .buffering ⟨false, true⟩ pendingCollector
      (sampleCall ⟨[]⟩ closedPipe)).collector.podMetrics = pendingCollector.podMetrics := by
  have failed : Failed (getRawNetworkMetricsHandler .buffering ⟨false, true⟩ pendingCollector
      (sampleCall ⟨[]⟩ closedPipe)).response :=
    ⟨([0], some "closed pipe"), List.mem_cons_self, by simp⟩
  refine ⟨failed, (failed_write_keeps_metrics_iff .buffering ⟨false, true⟩ rfl pendingCollector
    (sampleCall ⟨[]⟩ closedPipe)).mpr ?_ failed⟩
  rintro ⟨⟨body, _, gzip, _⟩, _⟩
  exact absurd gzip (by decide)

theorem failed_close_resets_metrics :
    Failed (getRawNetworkMetricsHandler .buffering ⟨false, true⟩ pendingCollector
      (sampleCall ⟨["gzip"]⟩ brokenPipe)).response ∧
    (getRawNetworkMetricsHandler .buffering ⟨false, true⟩ pendingCollector
      (sampleCall ⟨["gzip"]⟩ brokenPipe)).collector.podMetrics ≠ pendingCollector.podMetrics := by
  constructor
  · exact ⟨([0], some "broken pipe"), List.mem_cons_of_mem _ List.mem_cons_self, by simp⟩
  · change (resetDeltas ⟨false, true⟩ pendingCollector (fun _ => 0)).podMetrics ≠ _
    rw [ne_eq, resetDeltas_eq_iff rfl]
    intro quiet
    have metric := metricOf_recorded .documented ⟨false, true⟩
      { Collector.empty Bytes with firstCollectDone := true } (sampleEntry 10 (30 * second))
      sampleFlow sampleGroup sampleGroup
    rw [if_pos ⟨rfl, rfl⟩] at metric
    have zero := (quiet _ _ metric).1 .txBytes
    revert zero
    decide +kernel

end Egressd.HandlerWrites
