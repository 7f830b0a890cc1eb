import Egressd.CollectorCleanup

set_option autoImplicit false

namespace Egressd.CollectorMemory
open PartialRuns Conntrack CollectorModel CollectorHandler CollectorSteps CollectorRuns
open CollectorCleanup

variable {κ : Type} [DecidableEq κ]

/-- Everything in the maps stems from these listed entries and lives no longer than them. -/
structure Stems (P : Packages κ) (cfg : Config) (xs : List Entry) (c : Collector κ) : Prop where
  entries : ∀ key e, c.entriesCache.lookup key = some e → ∃ x ∈ xs, ∃ t,
    flowOf P.netaddr x = .ok t ∧ key = flowKey P t ∧ e.lifetime = x.lifetime
  metrics : ∀ key m, c.podMetrics.lookup key = some m → ∃ x ∈ xs, ∃ g,
    groupOf P.netaddr cfg x = .ok g ∧ key = groupKey P g ∧ m.lifetime ≤ x.lifetime

section Steps

variable {P : Packages κ} {E : Encoders} {cfg : Config} {xs : List Entry} {c : Collector κ}

theorem stems_empty (P : Packages κ) (cfg : Config) : Stems P cfg [] (.empty κ) where
  entries key e h := by
    change (∅ : Finmap (fun _ : κ => Entry)).lookup key = some e at h
    rw [Finmap.lookup_empty] at h
    cases h
  metrics key m h := by
    change (∅ : Finmap (fun _ : κ => RawNetworkMetric)).lookup key = some m at h
    rw [Finmap.lookup_empty] at h
    cases h

theorem Stems.mono {ys : List Entry} (h : Stems P cfg xs c) (sub : ∀ x ∈ xs, x ∈ ys) :
    Stems P cfg ys c where
  entries key e found := by
    obtain ⟨x, mem, rest⟩ := h.entries key e found
    exact ⟨x, sub x mem, rest⟩
  metrics key m found := by
    obtain ⟨x, mem, rest⟩ := h.metrics key m found
    exact ⟨x, sub x mem, rest⟩

theorem Stems.append (h : Stems P cfg xs c) (ys : List Entry) : Stems P cfg (xs ++ ys) c :=
  h.mono (fun _ mem => List.mem_append_left _ mem)

theorem Stems.credited (h : Stems P cfg xs c) {e : Entry} {g : Group}
    (group : groupOf P.netaddr cfg e = .ok g) (traffic : Traffic) : ∃ x ∈ xs ++ [e], ∃ g',
      groupOf P.netaddr cfg x = .ok g' ∧ groupKey P g = groupKey P g' ∧
        (credited g traffic e.lifetime (metricOf P c g)).lifetime ≤ x.lifetime := by
  have own : e ∈ xs ++ [e] := List.mem_append_right _ List.mem_cons_self
  rw [credited_lifetime]
  cases metric : metricOf P c g with
  | none => exact ⟨e, own, g, group, rfl, le_rfl⟩
  | some m =>
    rcases le_total m.lifetime e.lifetime with le | le
    · refine ⟨e, own, g, group, rfl, ?_⟩
      rw [Option.elim_some, max_eq_right le]
    · obtain ⟨x, mem, g', group', key, lives⟩ := h.metrics _ m metric
      refine ⟨x, List.mem_append_left _ mem, g', group', key, ?_⟩
      rw [Option.elim_some, max_eq_left le]
      exact lives

theorem Stems.recorded (h : Stems P cfg xs c) {e : Entry} {t : Flow} {g : Group}
    (flow : flowOf P.netaddr e = .ok t) (group : groupOf P.netaddr cfg e = .ok g) :
    Stems P cfg (xs ++ [e]) (recorded P cfg c e t g) where
  entries key e' found := by
    rw [entriesCache_recorded, Finmap.lookup_insert_ite] at found
    split at found
    · rename_i here
      cases found
      exact ⟨e, List.mem_append_right _ List.mem_cons_self, t, flow, here, stored_lifetime _ _ _ _⟩
    · exact (h.append [e]).entries key e' found
  metrics key m found := by
    rw [podMetrics_recorded] at found
    split at found
    · exact (h.append [e]).metrics key m found
    · rw [Finmap.lookup_insert_ite] at found
      split at found
      · rename_i here
        cases found
        obtain ⟨x, mem, g', group', key', lives⟩ := h.credited group (trafficSince e (cached P c t))
        exact ⟨x, mem, g', group', here.trans key', lives⟩
      · exact (h.append [e]).metrics key m found

theorem Stems.collected (h : Stems P cfg xs c) {conns : List Entry} {d : Collector κ}
    (records : Runs (Collector.record P cfg) c conns d) : Stems P cfg (xs ++ conns) d := by
  refine records.history (fun ys d => Stems P cfg (xs ++ ys) d) (fun _ => True) ?_ ?_
    (fun _ _ => trivial)
  · intro ys d e d' stems _ ok
    obtain ⟨t, g, flow, group, rfl⟩ := record_iff.mp ok
    rw [← List.append_assoc]
    exact stems.recorded flow group
  · rw [List.append_nil]
    exact h

theorem lifetime_resetMetric_le (now : Time) (m : RawNetworkMetric) :
    (resetMetric now m).lifetime ≤ m.lifetime := by
  change (if now + 2 * minute < m.lifetime then now + 2 * minute else m.lifetime) ≤ m.lifetime
  split
  · rename_i sooner
    exact sooner.le
  · exact le_rfl

theorem Stems.resetDeltas (h : Stems P cfg xs c) (clock : κ → Time) :
    Stems P cfg xs (resetDeltas cfg c clock) where
  entries key e found := by
    refine h.entries key e ?_
    unfold CollectorHandler.resetDeltas at found
    split at found <;> exact found
  metrics key m found := by
    rw [lookup_resetDeltas] at found
    split at found
    · obtain ⟨old, lookup, rfl⟩ := Option.map_eq_some_iff.mp found
      obtain ⟨x, mem, g, group, same, lives⟩ := h.metrics key old lookup
      exact ⟨x, mem, g, group, same, (lifetime_resetMetric_le _ _).trans lives⟩
    · exact h.metrics key m found

theorem Stems.cleanup (h : Stems P cfg xs c) (now : Time) :
    Stems P cfg (xs.filter (fun x => now ≤ x.lifetime)) (c.cleanup now) where
  entries key e found := by
    obtain ⟨lookup, alive⟩ := entry_cleanup_iff.mp found
    obtain ⟨x, mem, t, flow, same, lives⟩ := h.entries key e lookup
    refine ⟨x, List.mem_filter.mpr ⟨mem, decide_eq_true ?_⟩, t, flow, same, lives⟩
    rw [← lives]
    exact alive
  metrics key m found := by
    rw [lookup_cleanup, Option.filter_eq_some_iff, Bool.not_eq_true', decide_eq_false_iff_not,
      not_lt] at found
    obtain ⟨x, mem, g, group, same, lives⟩ := h.metrics key m found.1
    exact ⟨x, List.mem_filter.mpr ⟨mem, decide_eq_true (found.2.trans lives)⟩, g, group, same, lives⟩

theorem Stems.step {op : Op κ} {d : Collector κ} (h : Stems P cfg xs c)
    (ok : step P E cfg c op = .ok d) : Stems P cfg (xs ++ listedBy op) d := by
  cases op with
  | collect conns =>
    cases conns with
    | error err =>
      cases ok
      exact h.append _
    | ok conns =>
      rw [step_collect_ok, collectConns_iff] at ok
      obtain ⟨u, records, rfl⟩ := ok
      exact ⟨(h.collected records).entries, (h.collected records).metrics⟩
  | handle call =>
    cases ok
    refine Stems.append ?_ _
    rcases handler_cases E cfg c call with ⟨same, _⟩ | ⟨same, _⟩
    · rw [same]
      exact h
    · rw [same]
      exact h.resetDeltas call.clock
  | cleanup now =>
    cases ok
    exact ((h.cleanup now).mono (fun x mem => List.mem_of_mem_filter mem)).append _

theorem Stems.run {ops : List (Op κ)} {d : Collector κ} (h : Stems P cfg xs c)
    (run : Runs (CollectorRuns.step P E cfg) c ops d) : Stems P cfg (xs ++ listed ops) d := by
  induction run generalizing xs with
  | refl _ =>
    rw [show listed ([] : List (Op κ)) = [] from rfl, List.append_nil]
    exact h
  | next ok _ ih =>
    rw [listed, List.flatMap_cons, ← List.append_assoc]
    exact ih (h.step ok)

end Steps

def flowsOf (N : Netaddr) (xs : List Entry) : Finset Flow :=
  (xs.filterMap (fun x => (flowOf N x).toOption)).toFinset

def groupsOf (N : Netaddr) (cfg : Config) (xs : List Entry) : Finset Group :=
  (xs.filterMap (fun x => (groupOf N cfg x).toOption)).toFinset

/-- What may still be in memory after a cleanup and some steps: entries that had not expired then,
    and those that were listed since. -/
def retained (early : List (Op κ)) (now : Time) (later : List (Op κ)) : List Entry :=
  (listed early).filter (fun x => now ≤ x.lifetime) ++ listed later

/-- Along every run, whatever happened before and after a cleanup: each map has at most one element
    for each flow, or each group, of an entry that had not expired at the cleanup or was listed
    since. -/
theorem memory_bounded_by_listings (P : Packages κ) (E : Encoders) (cfg : Config)
    {early later : List (Op κ)} {now : Time} {c : Collector κ}
    (run : Runs (step P E cfg) (.empty κ) (early ++ .cleanup now :: later) c) :
    c.entriesCache.keys ⊆ (flowsOf P.netaddr (retained early now later)).image (flowKey P) ∧
    c.podMetrics.keys ⊆ (groupsOf P.netaddr cfg (retained early now later)).image (groupKey P) ∧
    c.entriesCache.keys.card ≤ (flowsOf P.netaddr (retained early now later)).card ∧
    c.podMetrics.keys.card ≤ (groupsOf P.netaddr cfg (retained early now later)).card := by
  obtain ⟨u, before, rest⟩ := run.split
  cases rest with
  | next ok after =>
    cases ok
    have stems : Stems P cfg (retained early now later) c :=
      (((stems_empty P cfg).run before).cleanup now).run after
    have flows : c.entriesCache.keys ⊆
        (flowsOf P.netaddr (retained early now later)).image (flowKey P) := by
      intro key mem
      obtain ⟨e, found⟩ := Option.isSome_iff_exists.mp
        (Finmap.lookup_isSome.mpr (Finmap.mem_keys.mp mem))
      obtain ⟨x, listed, t, flow, same, _⟩ := stems.entries key e found
      refine Finset.mem_image.mpr ⟨t, List.mem_toFinset.mpr (List.mem_filterMap.mpr ⟨x, listed, ?_⟩),
        same.symm⟩
      rw [flow]
      rfl
    have groups : c.podMetrics.keys ⊆
        (groupsOf P.netaddr cfg (retained early now later)).image (groupKey P) := by
      intro key mem
      obtain ⟨m, found⟩ := Option.isSome_iff_exists.mp
        (Finmap.lookup_isSome.mpr (Finmap.mem_keys.mp mem))
      obtain ⟨x, listed, g, group, same, _⟩ := stems.metrics key m found
      refine Finset.mem_image.mpr ⟨g, List.mem_toFinset.mpr (List.mem_filterMap.mpr ⟨x, listed, ?_⟩),
        same.symm⟩
      rw [group]
      rfl
    exact ⟨flows, groups, (Finset.card_le_card flows).trans Finset.card_image_le,
      (Finset.card_le_card groups).trans Finset.card_image_le⟩

theorem memory_bounded_by_listings_expired : ∃ c : Collector Bytes,
    Runs (step .documented .buffering ⟨false, false⟩) (.empty Bytes)
      (sampleRun.take 3 ++ .cleanup (30 * second) :: sampleRun.drop 4) c ∧
    (0 < c.entriesCache.keys.card ∧ 0 < c.podMetrics.keys.card) ∧
    c.entriesCache.keys.card ≤ 1 ∧ c.podMetrics.keys.card ≤ 1 := by
  obtain ⟨c, run, kept⟩ : ∃ c, Runs (step .documented .buffering ⟨false, false⟩) (.empty Bytes)
      (sampleRun.take 3 ++ .cleanup (30 * second) :: sampleRun.drop 4) c ∧
      0 < c.entriesCache.keys.card ∧ 0 < c.podMetrics.keys.card :=
    exists_runs (by decide +kernel)
  obtain ⟨_, _, entries, metrics⟩ :=
    memory_bounded_by_listings .documented .buffering ⟨false, false⟩ run
  refine ⟨c, run, kept, entries.trans ?_, metrics.trans ?_⟩ <;> decide +kernel

end Egressd.CollectorMemory
