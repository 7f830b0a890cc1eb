import Egressd.CollectorAccounting

set_option autoImplicit false

namespace Egressd.CollectorCleanup
open Conntrack CollectorModel CollectorHandler CollectorSteps CollectorRuns CollectorAccounting
open PartialRuns

variable {κ : Type} [DecidableEq κ]

def Covered (P : Packages κ) (c : Collector κ) : Prop :=
  ∀ key e, c.entriesCache.lookup key = some e → ∃ g m, entryGroupKey P e = .ok (groupKey P g) ∧
    metricOf P c g = some m ∧ e.lifetime ≤ m.lifetime

theorem covered_empty (P : Packages κ) : Covered P (Collector.empty κ) := by
  intro key e h
  change (∅ : Finmap (fun _ : κ => Entry)).lookup key = some e at h
  rw [Finmap.lookup_empty] at h
  cases h

theorem metricOf_recorded_lifetime {P : Packages κ} {c : Collector κ} {h : Group}
    {m : RawNetworkMetric} (hm : metricOf P c h = some m) (cfg : Config) (e : Entry) (t : Flow)
    (g : Group) :
    ∃ m', metricOf P (recorded P cfg c e t g) h = some m' ∧ m.lifetime ≤ m'.lifetime := by
  rw [metricOf_recorded]
  split
  · rename_i new
    refine ⟨_, rfl, ?_⟩
    rw [credited_lifetime, ← new.2, hm]
    exact le_max_left _ _
  · exact ⟨m, hm, le_refl _⟩

theorem Covered.recorded {P : Packages κ} {cfg : Config} {c : Collector κ}
    (counterMode : cfg.sendTrafficDelta = false) {e : Entry} {g : Group}
    (hg : groupOf P.netaddr cfg e = .ok g) (t : Flow) (h : Covered P c) :
    Covered P (recorded P cfg c e t g) := by
  have counted : baselineOnly cfg c = false := by simp [baselineOnly, counterMode]
  intro key e' he'
  rw [entriesCache_recorded, Finmap.lookup_insert_ite] at he'
  split at he'
  · cases he'
    have new := metricOf_recorded P cfg c e t g g
    rw [if_pos ⟨counted, rfl⟩] at new
    refine ⟨g, _, ?_, new, ?_⟩
    · rw [stored, counted]
      exact entryGroupKey_iff.mpr ⟨g, hg, rfl⟩
    · rw [stored_lifetime, credited_lifetime]
      cases metricOf P c g with
      | none => exact le_refl _
      | some m => exact le_max_right _ _
  · obtain ⟨g', m, hkey, hm, le⟩ := h key e' he'
    obtain ⟨m', hm', le'⟩ := metricOf_recorded_lifetime hm cfg e t g
    exact ⟨g', m', hkey, hm', le.trans le'⟩

theorem lookup_entriesCache_cleanup (c : Collector κ) (now : Time) (key : κ) :
    (c.cleanup now).entriesCache.lookup key =
      (c.entriesCache.lookup key).filter (fun e => !decide (e.lifetime < now)) :=
  Finmap.lookup_filter _ _ _

theorem entry_cleanup_iff {c : Collector κ} {now : Time} {key : κ} {e : Entry} :
    (c.cleanup now).entriesCache.lookup key = some e ↔
      c.entriesCache.lookup key = some e ∧ now ≤ e.lifetime := by
  rw [lookup_entriesCache_cleanup, Option.filter_eq_some_iff, Bool.not_eq_true',
    decide_eq_false_iff_not, not_lt]

theorem metricOf_cleanup_of_le {P : Packages κ} {c : Collector κ} {now : Time} {g : Group}
    {m : RawNetworkMetric} (hm : metricOf P c g = some m) (alive : now ≤ m.lifetime) :
    metricOf P (c.cleanup now) g = some m := by
  rw [metricOf, lookup_cleanup]
  exact Option.filter_eq_some_iff.mpr ⟨hm, by simpa using alive⟩

theorem Covered.cleanup {P : Packages κ} {c : Collector κ} (h : Covered P c) (now : Time) :
    Covered P (c.cleanup now) := by
  intro key e he
  obtain ⟨cached, alive⟩ := entry_cleanup_iff.mp he
  obtain ⟨g, m, hkey, hm, le⟩ := h key e cached
  exact ⟨g, m, hkey, metricOf_cleanup_of_le hm (alive.trans le), le⟩

theorem covered_of_reachable {P : Packages κ} {E : Encoders} {cfg : Config} {c : Collector κ}
    (counterMode : cfg.sendTrafficDelta = false) (h : Reachable P E cfg c) : Covered P c := by
  refine reachable_induction (Covered P) (covered_empty P)
    (fun _ e t g _ hg hc => hc.recorded counterMode hg t) (fun _ hc => hc) ?_
    (fun _ now hc => hc.cleanup now) h
  intro c clock hc
  rw [resetDeltas, counterMode]
  exact hc

/-- In counter mode the metric of a tracked flow's group is there and lives at least as long as
    the flow's entry, so no cleanup deletes it while the entry survives. -/
theorem counter_mode_keeps_metrics (P : Packages κ) (E : Encoders) (cfg : Config)
    (counterMode : cfg.sendTrafficDelta = false) (c : Collector κ) (h : Reachable P E cfg c) :
    (∀ key e, c.entriesCache.lookup key = some e → ∃ g m, entryGroupKey P e = .ok (groupKey P g) ∧
      Holds c g (groupKey P g) m ∧ e.lifetime ≤ m.lifetime) ∧
    ∀ now key e, (c.cleanup now).entriesCache.lookup key = some e →
      ∀ groupKey, entryGroupKey P e = .ok groupKey →
        ∃ m, c.podMetrics.lookup groupKey = some m ∧
          (c.cleanup now).podMetrics.lookup groupKey = some m := by
  have covered := covered_of_reachable counterMode h
  have keyed := wellKeyed_of_reachable h
  constructor
  · intro key e he
    obtain ⟨g, m, hkey, hm, le⟩ := covered key e he
    exact ⟨g, m, hkey, ⟨hm, keyed.carries hm⟩, le⟩
  · intro now key e he groupKey hgroup
    obtain ⟨cached, alive⟩ := entry_cleanup_iff.mp he
    obtain ⟨g, m, hkey, hm, le⟩ := covered key e cached
    rw [hkey, Except.ok.injEq] at hgroup
    rw [← hgroup]
    exact ⟨m, hm, metricOf_cleanup_of_le hm (alive.trans le)⟩

theorem counter_mode_keeps_metrics_sample :
    ∃ c, Runs (step .documented .buffering ⟨false, false⟩) (.empty Bytes) sampleRun c ∧
      cached .documented c secondFlow = none ∧
      cached .documented (c.cleanup (60 * second)) sampleFlow =
        some (sampleEntry 40 (60 * second)) ∧
      ∃ m, metricOf .documented c sampleGroup = some m ∧ m.txBytes = 40 ∧
        metricOf .documented (c.cleanup (60 * second)) sampleGroup = some m := by
  obtain ⟨c, run, expired, survives, traffic⟩ : ∃ c,
      Runs (step .documented .buffering ⟨false, false⟩) (.empty Bytes) sampleRun c ∧
      cached .documented c secondFlow = none ∧
      cached .documented (c.cleanup (60 * second)) sampleFlow =
        some (sampleEntry 40 (60 * second)) ∧
      (metricOf .documented c sampleGroup).map (·.txBytes) = some 40 :=
    exists_runs (by decide +kernel)
  obtain ⟨m, metric, kept⟩ :=
    (counter_mode_keeps_metrics .documented .buffering ⟨false, false⟩ rfl c ⟨_, run⟩).2 _ _ _ survives
      (groupKey .documented sampleGroup) rfl
  refine ⟨c, run, expired, survives, m, metric, ?_, kept⟩
  change metricOf .documented c sampleGroup = some m at metric
  rw [metric] at traffic
  exact Option.some.inj traffic

inductive Delivery where
  | credited (amount : ℕ)
  | sent

def Delivery.apply (unsent : ℕ) : Delivery → ℕ
  | .credited amount => unsent + amount
  | .sent => 0

def deliveriesOf (P : Packages κ) (E : Encoders) (cfg : Config) (g : Group) (k : CounterField) :
    Observer κ Delivery where
  record c e :=
    match flowOf P.netaddr e, groupOf P.netaddr cfg e with
    | .ok t, .ok h => if h = g then [.credited (credit P cfg c e t k)] else []
    | _, _ => []
  handle c call :=
    match (getRawNetworkMetricsHandler E cfg c call).outcome with
    | .sent _ => [.sent]
    | _ => []

/-- The traffic that a run added to a group since its last handler call that finished. -/
def unsent (P : Packages κ) (E : Encoders) (cfg : Config) (ops : List (Op κ)) (g : Group)
    (k : CounterField) : ℕ :=
  ((deliveriesOf P E cfg g k).run P E cfg (Collector.empty κ) ops).foldl Delivery.apply 0

/-- Every metric that a cleanup at the time `now` deletes has nothing left to send. -/
def DeletesOnlySent (c : Collector κ) (now : Time) : Prop :=
  ∀ key m, c.podMetrics.lookup key = some m → (c.cleanup now).podMetrics.lookup key = none →
    ∀ k, m.counter k = 0

theorem deleted_iff {c : Collector κ} {now : Time} {key : κ} {m : RawNetworkMetric}
    (hm : c.podMetrics.lookup key = some m) :
    (c.cleanup now).podMetrics.lookup key = none ↔ m.lifetime < now := by
  rw [lookup_cleanup, hm]
  simp [Option.filter]

theorem value_cleanup {P : Packages κ} {c : Collector κ} {now : Time} (h : DeletesOnlySent c now)
    (g : Group) (k : CounterField) : value P (c.cleanup now) g k = value P c g k := by
  unfold value
  cases hm : metricOf P c g with
  | none =>
    rw [metricOf, lookup_cleanup]
    change ((metricOf P c g).filter _).elim _ _ = _
    rw [hm]
    rfl
  | some m =>
    by_cases expired : m.lifetime < now
    · have gone := (deleted_iff hm).mpr expired
      rw [metricOf, gone]
      exact (h _ m hm gone k).symm
    · rw [metricOf_cleanup_of_le hm (not_lt.mp expired)]

theorem unsent_handled {P : Packages κ} {E : Encoders} {cfg : Config} {ops : List (Op κ)}
    {c : Collector κ} (run : Runs (step P E cfg) (Collector.empty κ) ops c) {call : HandlerCall κ}
    {b : RawNetworkMetricBatch}
    (finished : (getRawNetworkMetricsHandler E cfg c call).outcome = .sent b) (g : Group)
    (k : CounterField) : unsent P E cfg (ops ++ [.handle call]) g k = 0 := by
  rw [unsent, Observer.run, observe_append run, observe_next rfl, List.foldl_append]
  simp only [Observer.op, deliveriesOf, finished]
  rfl

theorem value_eq_unsent {P : Packages κ} {E : Encoders} {cfg : Config}
    (deltaMode : cfg.sendTrafficDelta = true) {ops : List (Op κ)} {c : Collector κ}
    (run : Runs (step P E cfg) (Collector.empty κ) ops c)
    (harmless : Admitted (step P E cfg) (fun c op => ∀ now, op = .cleanup now → DeletesOnlySent c now)
      (Collector.empty κ) ops) (g : Group) (k : CounterField) :
    value P c g k = Int64.ofNat (unsent P E cfg ops g k) := by
  refine (deliveriesOf P E cfg g k).induction
    (fun ds c => value P c g k = Int64.ofNat (ds.foldl Delivery.apply 0)) _ ?_ (fun _ _ h => h) ?_ ?_
    run harmless rfl
  · intro ds c e t h ht hh hc
    rw [value_recorded, hc]
    simp only [deliveriesOf, ht, hh]
    by_cases same : h = g
    · rw [if_pos same.symm, if_pos same, List.foldl_append, ← Int64.ofNat_add]
      rfl
    · rw [if_neg (Ne.symm same), if_neg same, List.append_nil, Int64.add_zero]
  · intro ds c call hc
    simp only [deliveriesOf]
    rcases handler_cases E cfg c call with ⟨same, unfinished⟩ | ⟨zeroed, finished⟩
    · rw [same]
      split
      · rename_i b eq
        exact absurd eq (unfinished b)
      · rw [List.append_nil, hc]
    · rw [zeroed, finished, value_resetDeltas deltaMode, List.foldl_append]
      rfl
  · intro ds c now ok hc
    rw [value_cleanup (ok now rfl), hc]

/-- The cleanups of a delta mode run delete only metrics with nothing left to send exactly if,
    whenever one of them runs, the groups whose metrics have expired were given no traffic,
    modulo `2 ^ 64`, since the last handler call that finished. -/
theorem cleanups_delete_only_sent_iff (P : Packages κ) (E : Encoders) (cfg : Config)
    (deltaMode : cfg.sendTrafficDelta = true) (ops : List (Op κ)) :
    (∀ before now after d, ops = before ++ .cleanup now :: after →
      Runs (step P E cfg) (Collector.empty κ) before d → DeletesOnlySent d now) ↔
    ∀ before now after d, ops = before ++ .cleanup now :: after →
      Runs (step P E cfg) (Collector.empty κ) before d →
      ∀ g m, metricOf P d g = some m → m.lifetime < now →
        ∀ k, 2 ^ 64 ∣ unsent P E cfg before g k := by
  constructor
  · intro harmless before now after d eq run g m hm expired k
    have shown := value_eq_unsent deltaMode run (g := g) (k := k) ?_
    · have zero := harmless before now after d eq run _ m hm ((deleted_iff hm).mpr expired) k
      rw [value, hm, Option.elim_some, zero] at shown
      exact (ofNat_eq_zero_iff _).mp shown.symm
    · rintro bs _ cs u rfl runs now' rfl
      exact harmless bs now' _ u (by rw [eq, List.append_assoc, List.cons_append]) runs
  · intro sent
    have harmless : Admitted (step P E cfg)
        (fun c op => ∀ now, op = .cleanup now → DeletesOnlySent c now) (Collector.empty κ) ops := by
      refine admitted_of_earlier ?_
      rintro before _ after d eq run earlier now rfl key m hm deleted k
      obtain ⟨g, rfl, _⟩ := wellKeyed_of_reachable ⟨before, run⟩ key m hm
      -- The cleanups before this one were harmless, so the counter shows what is unsent.
      have shown := value_eq_unsent deltaMode run earlier g k
      have none := sent before now after d eq run g m hm ((deleted_iff hm).mp deleted) k
      rw [(ofNat_eq_zero_iff _).mpr none, value, metricOf, hm] at shown
      exact shown
    exact fun before now after d eq run => harmless before _ after d eq run now rfl

def lateFlowOps : List (Op Bytes) :=
  [.collect (.ok []), .collect (.ok [sampleEntry 10 (30 * second)])]

theorem cleanups_delete_only_sent_iff_scraped :
    ∃ d, Runs (step .documented .buffering ⟨false, true⟩) (Collector.empty Bytes)
      (lateFlowOps ++ [.handle (sampleCall ⟨[]⟩ ⟨fun _ _ => none⟩)]) d ∧
      DeletesOnlySent d (31 * second) := by
  obtain ⟨d, run⟩ := runs_total .documented .buffering ⟨false, true⟩ (Collector.empty Bytes)
    (lateFlowOps ++ [.handle (sampleCall ⟨[]⟩ ⟨fun _ _ => none⟩)]) (by decide)
  refine ⟨d, run, (cleanups_delete_only_sent_iff .documented .buffering ⟨false, true⟩ rfl
    (lateFlowOps ++ [.handle (sampleCall ⟨[]⟩ ⟨fun _ _ => none⟩), .cleanup (31 * second)])).mpr ?_
    (lateFlowOps ++ [.handle (sampleCall ⟨[]⟩ ⟨fun _ _ => none⟩)]) (31 * second) [] d rfl run⟩
  intro before now after d eq run g m hm expired k
  have scraped : before = lateFlowOps ++ [.handle (sampleCall ⟨[]⟩ ⟨fun _ _ => none⟩)] := by
    simp only [lateFlowOps, List.cons_append, List.nil_append] at eq ⊢
    match before, eq with
    | [_, _, _], eq =>
      simp only [List.cons_append, List.nil_append, List.cons.injEq] at eq
      rw [← eq.1, ← eq.2.1, ← eq.2.2.1]
    | [], eq => simp at eq
    | [_], eq => simp at eq
    | [_, _], eq => simp at eq
    | _ :: _ :: _ :: _ :: before, eq => simp at eq
  rw [scraped] at run ⊢
  obtain ⟨u, first, _⟩ := run.split
  rw [unsent_handled first (b := batchOf u (sampleCall ⟨[]⟩ ⟨fun _ _ => none⟩)) rfl]
  exact Nat.dvd_zero _

theorem cleanup_discards_unsent :
    ∃ d, Runs (step .documented .buffering ⟨false, true⟩) (.empty Bytes) lateFlowOps d ∧
      ∃ key m, d.podMetrics.lookup key = some m ∧
        (d.cleanup (31 * second)).podMetrics.lookup key = none ∧ m.counter .txBytes = 10 := by
  let d₁ : Collector Bytes := { Collector.empty Bytes with firstCollectDone := true }
  let e := sampleEntry 10 (30 * second)
  have second_ok := step_collect_sample .documented .buffering true d₁ 10 (30 * second)
  have metric := metricOf_recorded .documented ⟨false, true⟩ d₁ e sampleFlow sampleGroup sampleGroup
  rw [if_pos ⟨rfl, rfl⟩] at metric
  exact ⟨_, .next (u := d₁) rfl (.next second_ok (.refl _)), _, _, metric,
    (deleted_iff metric).mpr (by decide +kernel), rfl⟩

end Egressd.CollectorCleanup
