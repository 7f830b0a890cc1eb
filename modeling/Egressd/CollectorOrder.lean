import Egressd.CollectorRuns

set_option autoImplicit false

namespace Egressd.CollectorOrder
open Conntrack CollectorModel CollectorSteps CollectorRuns PartialRuns

attribute [ext] Collector

variable {κ : Type}

theorem add_add_comm (pm : RawNetworkMetric) (t t' : Traffic) (l l' : Time) :
    (pm.add t l).add t' l' = (pm.add t' l').add t l := by
  unfold RawNetworkMetric.add
  simp only [← max_def_lt, Int64.add_assoc, max_assoc, max_comm l, Int64.add_comm t'.txBytes.toInt64,
    Int64.add_comm t'.txPackets.toInt64, Int64.add_comm t'.rxBytes.toInt64,
    Int64.add_comm t'.rxPackets.toInt64]

theorem freshMetric_add_comm (g : Group) (t t' : Traffic) (l l' : Time) :
    (freshMetric g t l).add t' l' = (freshMetric g t' l').add t l := by
  unfold RawNetworkMetric.add freshMetric
  simp only [← max_def_lt, max_comm l, Int64.add_comm t.txBytes.toInt64,
    Int64.add_comm t.txPackets.toInt64, Int64.add_comm t.rxBytes.toInt64,
    Int64.add_comm t.rxPackets.toInt64]

theorem credited_comm (g : Group) (t t' : Traffic) (l l' : Time) (pm : Option RawNetworkMetric) :
    credited g t' l' (some (credited g t l pm)) = credited g t l (some (credited g t' l' pm)) := by
  cases pm with
  | some pm => exact add_add_comm pm t t' l l'
  | none => exact freshMetric_add_comm g t t' l l'

variable [DecidableEq κ]

theorem podMetrics_recorded_comm (P : Packages κ) (cfg : Config) (c : Collector κ) (e e' : Entry)
    {t t' : Flow} (g g' : Group) (different : t ≠ t') :
    (recorded P cfg (recorded P cfg c e t g) e' t' g').podMetrics =
      (recorded P cfg (recorded P cfg c e' t' g') e t g).podMetrics := by
  simp only [podMetrics_recorded, baselineOnly_recorded]
  cases baseline : baselineOnly cfg c with
  | true => rw [if_pos rfl, if_pos rfl, if_pos rfl, if_pos rfl]
  | false =>
    -- Neither entry changes what the other one adds, as their cached readings differ.
    simp only [Bool.false_eq_true, if_false, cached_recorded, if_neg different,
      if_neg different.symm, metricOf_recorded, baseline, true_and]
    by_cases same : g = g'
    · subst same
      rw [if_pos rfl, if_pos rfl, Finmap.insert_insert, Finmap.insert_insert, credited_comm]
    · have keys : groupKey P g ≠ groupKey P g' := fun h => same ((groupKey_inj P).mp h)
      rw [if_neg same, if_neg (Ne.symm same), Finmap.insert_insert_of_ne _ keys]

theorem recorded_comm (P : Packages κ) (cfg : Config) (c : Collector κ) (e e' : Entry)
    {t t' : Flow} (g g' : Group) (different : t ≠ t') :
    recorded P cfg (recorded P cfg c e t g) e' t' g' =
      recorded P cfg (recorded P cfg c e' t' g') e t g := by
  have keys : flowKey P t ≠ flowKey P t' := fun h => different ((flowKey_inj P).mp h)
  apply Collector.ext
  · simp only [entriesCache_recorded, stored, baselineOnly_recorded]
    exact Finmap.insert_insert_of_ne _ keys
  · exact podMetrics_recorded_comm P cfg c e e' g g' different
  · simp only [firstCollectDone_recorded]

/-- The entries belong to different flows, as far as they have one. -/
def DifferentFlows (N : Netaddr) (e e' : Entry) : Prop :=
  ∀ t, flowOf N e = .ok t → flowOf N e' ≠ .ok t

theorem DifferentFlows.symm {N : Netaddr} (e e' : Entry) (different : DifferentFlows N e e') :
    DifferentFlows N e' e :=
  fun t h h' => different t h' h

theorem record_swap {P : Packages κ} {cfg : Config} {c d : Collector κ} {e e' : Entry}
    (different : DifferentFlows P.netaddr e e') (run : Runs (Collector.record P cfg) c [e, e'] d) :
    Runs (Collector.record P cfg) c [e', e] d := by
  cases run with
  | next first rest =>
    cases rest with
    | next second rest =>
      cases rest
      obtain ⟨t, g, ht, hg, rfl⟩ := record_iff.mp first
      obtain ⟨t', g', ht', hg', rfl⟩ := record_iff.mp second
      have flows : t ≠ t' := by
        rintro rfl
        exact different t ht ht'
      rw [recorded_comm P cfg c e e' g g' flows]
      exact .next (record_iff.mpr ⟨t', g', ht', hg', rfl⟩)
        (.next (record_iff.mpr ⟨t, g, ht, hg, rfl⟩) (.refl _))

theorem collectConns_perm {P : Packages κ} {cfg : Config} {c c' : Collector κ}
    {conns conns' : List Entry} (perm : conns.Perm conns')
    (once : conns.Pairwise (DifferentFlows P.netaddr))
    (collected : c.collectConns P cfg conns = .ok c') : c.collectConns P cfg conns' = .ok c' := by
  obtain ⟨d, run, rfl⟩ := collectConns_iff.mp collected
  refine collectConns_iff.mpr ⟨d, run.perm DifferentFlows.symm ?_ perm once, rfl⟩
  exact fun c e e' d different run => record_swap different run

theorem collect_ok_iff {P : Packages κ} {cfg : Config} {c : Collector κ} {ips : Finset IP}
    {conns : List Entry} {r : Collector κ × Option Error} :
    c.collect P cfg (.ok ips) (fun _ => .ok (.ok conns)) = .ok r ↔
      c.collectConns P cfg conns = .ok r.1 ∧ r.2 = none := by
  change (c.collectConns P cfg conns >>= fun d => .ok (d, none)) = .ok r ↔ _
  rw [bind_ok]
  constructor
  · rintro ⟨d, collected, eq⟩
    cases eq
    exact ⟨collected, rfl⟩
  · rintro ⟨collected, noError⟩
    exact ⟨r.1, collected, congrArg Except.ok (Prod.ext rfl noError.symm)⟩

/-- A collect has the same result for two dumps that are permutations of each other and contain
    no flow twice; it panics on both or on neither. -/
theorem collect_perm (P : Packages κ) (cfg : Config) (c : Collector κ) (ips : Finset IP)
    {conns conns' : List Entry} (perm : conns.Perm conns')
    (once : conns.Pairwise (DifferentFlows P.netaddr)) :
    (c.collect P cfg (.ok ips) (fun _ => .ok (.ok conns))).toOption =
      (c.collect P cfg (.ok ips) (fun _ => .ok (.ok conns'))).toOption := by
  have once' : conns'.Pairwise (DifferentFlows P.netaddr) :=
    (perm.pairwise_iff (DifferentFlows.symm _ _)).mp once
  have agree : ∀ r, c.collect P cfg (.ok ips) (fun _ => .ok (.ok conns)) = .ok r ↔
      c.collect P cfg (.ok ips) (fun _ => .ok (.ok conns')) = .ok r := by
    intro r
    rw [collect_ok_iff, collect_ok_iff]
    exact and_congr_left' ⟨collectConns_perm perm once, collectConns_perm perm.symm once'⟩
  cases result : c.collect P cfg (.ok ips) (fun _ => .ok (.ok conns)) with
  | ok r => rw [(agree r).mp result]
  | error panic =>
    cases result' : c.collect P cfg (.ok ips) (fun _ => .ok (.ok conns')) with
    | ok r =>
      rw [(agree r).mpr result'] at result
      cases result
    | error panic' => rfl

def otherEntry (txBytes : UInt64) : Entry :=
  { sampleEntry txBytes 5 with src := ⟨.v4 sampleFlow.src, 40001⟩ }

theorem collect_perm_two_flows :
    [sampleEntry 10 0, otherEntry 20].Perm [otherEntry 20, sampleEntry 10 0] ∧
    ((Collector.empty Bytes).collect .documented ⟨true, false⟩ (.ok ∅)
      (fun _ => .ok (.ok [sampleEntry 10 0, otherEntry 20]))).toOption =
    ((Collector.empty Bytes).collect .documented ⟨true, false⟩ (.ok ∅)
      (fun _ => .ok (.ok [otherEntry 20, sampleEntry 10 0]))).toOption := by
  refine ⟨.swap .., collect_perm _ _ _ _ (.swap ..) (List.pairwise_pair.mpr ?_)⟩
  intro t ht ht'
  rw [flowOf_sampleEntry] at ht
  cases ht
  exact absurd ht' (by decide)

end Egressd.CollectorOrder
