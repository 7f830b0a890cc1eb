import Egressd.CollectorRuns
import Egressd.Rises
import Mathlib.Algebra.BigOperators.Group.Finset.Piecewise

set_option autoImplicit false

namespace Egressd.CollectorAccounting
open Conntrack CollectorModel CollectorHandler CollectorSteps CollectorRuns PartialRuns Rises

def isIPv4 : IP → Bool
  | .v4 _ => true
  | _ => false

def IsIPv4 (e : Entry) : Prop := isIPv4 e.src.ip ∧ isIPv4 e.dst.ip

instance (e : Entry) : Decidable (IsIPv4 e) := inferInstanceAs (Decidable (_ ∧ _))

def flowGroup (N : Netaddr) (cfg : Config) (t : Flow) : Group :=
  { src := t.src
    dst := if cfg.groupPublicIPs && !isPrivateNetwork N (.v4 t.dst) then .unspecified else t.dst
    proto := t.proto }

/-- The readings of a flow's counter in a listing, in processing order. -/
def readings (N : Netaddr) (conns : List Entry) (t : Flow) (k : CounterField) : List ℕ :=
  conns.filterMap (fun e => if flowOf N e = .ok t then some (e.counter k).toNat else none)

def groupRises (N : Netaddr) (cfg : Config) (base : Flow → ℕ) (conns : List Entry) (g : Group)
    (k : CounterField) : ℕ :=
  ∑ t : Flow with flowGroup N cfg t = g, risesFrom (base t) (readings N conns t k)

theorem IsIPv4.ips {e : Entry} (h : IsIPv4 e) :
    ∃ s d, e.src.ip = .v4 s ∧ e.dst.ip = .v4 d := by
  obtain ⟨hs, hd⟩ := h
  cases src : e.src.ip with
  | v4 s =>
    cases dst : e.dst.ip with
    | v4 d => exact ⟨s, d, rfl, rfl⟩
    | zero => simp [dst, isIPv4] at hd
    | v6 v zone => simp [dst, isIPv4] at hd
  | zero => simp [src, isIPv4] at hs
  | v6 v zone => simp [src, isIPv4] at hs

theorem isIPv4_of_ips {e : Entry} {s d : IPv4} (src : e.src.ip = .v4 s) (dst : e.dst.ip = .v4 d) :
    IsIPv4 e := by
  rw [IsIPv4, src, dst]
  exact ⟨rfl, rfl⟩

theorem session_ips {N : Netaddr} {now : Time} {s : Session} {e : Entry}
    (either : e = s.entry N now ∨ e = (s.entry N now).mirror) {t : Flow}
    (ht : flowOf N e = .ok t) : e.src.ip = .v4 t.src ∧ e.dst.ip = .v4 t.dst := by
  obtain ⟨src, dst, _⟩ := flowOf_iff.mp ht
  rcases either with rfl | rfl
  · exact ⟨as4_fromStdIP N src, as4_fromStdIP N dst⟩
  · exact ⟨as4_fromStdIP N src, as4_fromStdIP N dst⟩

theorem IsIPv4.flowOf_ok {e : Entry} (h : IsIPv4 e) (N : Netaddr) : ∃ t, flowOf N e = .ok t := by
  obtain ⟨s, d, hs, hd⟩ := h.ips
  refine ⟨⟨s, e.src.port, d, e.dst.port, e.proto⟩, flowOf_iff.mpr ⟨?_, ?_, rfl, rfl, rfl⟩⟩
  · rw [hs, N.as4_v4]
  · rw [hd, N.as4_v4]

theorem IsIPv4.groupOf_eq {e : Entry} (h : IsIPv4 e) {N : Netaddr} (cfg : Config) {t : Flow}
    (ht : flowOf N e = .ok t) : groupOf N cfg e = .ok (flowGroup N cfg t) := by
  obtain ⟨s, d, hs, hd⟩ := h.ips
  obtain ⟨as, ad, _, _, proto⟩ := flowOf_iff.mp ht
  rw [hd, N.as4_v4, Except.ok.injEq] at ad
  subst ad
  refine groupOf_iff.mpr ⟨?_, ?_, ?_⟩
  · rw [groupPublicDst_src, as]
    rfl
  · unfold groupPublicDst flowGroup
    rw [hd]
    split
    · exact N.as4_v4 _
    · rw [hd, N.as4_v4]
  · rw [groupPublicDst_proto, proto]
    rfl

theorem readings_append (N : Netaddr) (xs ys : List Entry) (t : Flow) (k : CounterField) :
    readings N (xs ++ ys) t k = readings N xs t k ++ readings N ys t k :=
  List.filterMap_append

theorem readings_singleton {N : Netaddr} {e : Entry} {u : Flow} (h : flowOf N e = .ok u)
    (t : Flow) (k : CounterField) :
    readings N [e] t k = if t = u then [(e.counter k).toNat] else [] := by
  by_cases same : t = u
  · subst same
    simp [readings, h]
  · simp [readings, h, same, Ne.symm same]

theorem groupRises_append (N : Netaddr) (cfg : Config) (base : Flow → ℕ) (xs ys : List Entry)
    (g : Group) (k : CounterField) : groupRises N cfg base (xs ++ ys) g k =
      groupRises N cfg base xs g k +
        groupRises N cfg (fun t => (readings N xs t k).getLastD (base t)) ys g k := by
  simp only [groupRises, readings_append, risesFrom_append, Finset.sum_add_distrib]

theorem groupRises_singleton {N : Netaddr} {e : Entry} {u : Flow} (h : flowOf N e = .ok u)
    (cfg : Config) (base : Flow → ℕ) (g : Group) (k : CounterField) :
    groupRises N cfg base [e] g k =
      if g = flowGroup N cfg u then (e.counter k).toNat - base u else 0 := by
  have single : ∀ t, risesFrom (base t) (readings N [e] t k) =
      if t = u then (e.counter k).toNat - base u else 0 := by
    intro t
    rw [readings_singleton h]
    split
    · rename_i same
      rw [same]
      rfl
    · rfl
  simp only [groupRises, single]
  rw [Finset.sum_ite_eq']
  simp only [Finset.mem_filter, Finset.mem_univ, true_and]
  exact if_congr eq_comm rfl rfl

variable {κ : Type} [DecidableEq κ]

/-- The state after a listing was recorded, in terms of the state before. -/
structure Accounts (P : Packages κ) (cfg : Config) (c : Collector κ) (conns : List Entry)
    (d : Collector κ) : Prop where
  baseline : baselineOnly cfg d = baselineOnly cfg c
  reading : ∀ t k, reading P d t k = (readings P.netaddr conns t k).getLastD (reading P c t k)
  value : ∀ g k, value P d g k = value P c g k + if baselineOnly cfg c then 0 else
    Int64.ofNat (groupRises P.netaddr cfg (fun t => CollectorSteps.reading P c t k) conns g k)
  metric : ∀ g, (metricOf P d g).isSome ↔ (metricOf P c g).isSome ∨
    baselineOnly cfg c = false ∧ ∃ e ∈ conns, groupOf P.netaddr cfg e = .ok g

theorem Accounts.refl (P : Packages κ) (cfg : Config) (c : Collector κ) :
    Accounts P cfg c [] c where
  baseline := rfl
  reading _ _ := rfl
  value g k := by
    have none : groupRises P.netaddr cfg (fun t => CollectorSteps.reading P c t k) [] g k = 0 :=
      Finset.sum_eq_zero (fun _ _ => rfl)
    rw [none]
    split <;> exact (Int64.add_zero _).symm
  metric g := by simp

theorem Accounts.trans {P : Packages κ} {cfg : Config} {c d e : Collector κ}
    {xs ys : List Entry} (first : Accounts P cfg c xs d) (second : Accounts P cfg d ys e) :
    Accounts P cfg c (xs ++ ys) e where
  baseline := second.baseline.trans first.baseline
  reading t k := by
    rw [second.reading, first.reading, readings_append, getLastD_append_eq]
  value g k := by
    rw [second.value, first.value, first.baseline, groupRises_append]
    simp only [first.reading]
    split
    · simp only [Int64.add_zero]
    · rw [Int64.ofNat_add, Int64.add_assoc]
  metric g := by
    rw [second.metric, first.metric, first.baseline]
    simp only [List.mem_append, or_and_right, exists_or, and_or_left, or_assoc]

theorem Accounts.single {P : Packages κ} {cfg : Config} {c d : Collector κ} {e : Entry}
    (ipv4 : IsIPv4 e) (h : c.record P cfg e = .ok d) : Accounts P cfg c [e] d := by
  obtain ⟨t, g, ht, hg, rfl⟩ := record_iff.mp h
  have group : g = flowGroup P.netaddr cfg t := by
    rw [ipv4.groupOf_eq cfg ht, Except.ok.injEq] at hg
    exact hg.symm
  refine ⟨baselineOnly_recorded P cfg c e t g, ?_, ?_, ?_⟩
  · intro u k
    rw [reading_recorded, readings_singleton ht]
    split <;> rfl
  · intro h k
    rw [value_recorded, credit_eq, groupRises_singleton ht, group]
    by_cases same : h = flowGroup P.netaddr cfg t
    · rw [if_pos same, if_pos same]
      split <;> rfl
    · rw [if_neg same, if_neg same]
      split <;> rfl
  · intro h
    rw [metricOf_recorded]
    simp only [List.mem_singleton, exists_eq_left, hg, Except.ok.injEq]
    by_cases new : baselineOnly cfg c = false ∧ h = g
    · simp [new]
    · rw [if_neg new]
      constructor
      · exact Or.inl
      · rintro (old | ⟨counted, same⟩)
        · exact old
        · exact absurd ⟨counted, same.symm⟩ new

theorem records_accounting {P : Packages κ} {cfg : Config} {c d : Collector κ}
    {conns : List Entry} (run : Runs (Collector.record P cfg) c conns d)
    (ipv4 : ∀ e ∈ conns, IsIPv4 e) : Accounts P cfg c conns d :=
  run.history (Accounts P cfg c) IsIPv4
    (fun _ _ _ _ acc he hrec => acc.trans (.single he hrec)) (.refl P cfg c) ipv4

theorem records_total (P : Packages κ) (cfg : Config) (c : Collector κ) {conns : List Entry}
    (ipv4 : ∀ e ∈ conns, IsIPv4 e) : ∃ d, Runs (Collector.record P cfg) c conns d := by
  have each : ∀ (c : Collector κ) e, True → IsIPv4 e →
      ∃ d, c.record P cfg e = .ok d ∧ True := by
    intro c e _ he
    obtain ⟨t, ht⟩ := he.flowOf_ok P.netaddr
    exact ⟨_, record_iff.mpr ⟨t, _, ht, he.groupOf_eq cfg ht, rfl⟩, trivial⟩
  obtain ⟨d, run, _⟩ := exists_run (fun _ => True) IsIPv4 each conns c trivial ipv4
  exact ⟨d, run⟩

theorem runs_total (P : Packages κ) (E : Encoders) (cfg : Config) (c : Collector κ)
    (ops : List (Op κ)) (ipv4 : ∀ e ∈ listed ops, IsIPv4 e) :
    ∃ d, Runs (step P E cfg) c ops d := by
  have each : ∀ (c : Collector κ) op, True → (∀ e ∈ listedBy op, IsIPv4 e) →
      ∃ d, step P E cfg c op = .ok d ∧ True := by
    intro c op _ ipv4
    match op with
    | .collect (.ok conns) =>
      obtain ⟨d, run⟩ := records_total P cfg c ipv4
      exact ⟨_, step_collect_ok.trans (collectConns_iff.mpr ⟨d, run, rfl⟩), trivial⟩
    | .collect (.error err) => exact ⟨c, rfl, trivial⟩
    | .handle call => exact ⟨_, rfl, trivial⟩
    | .cleanup now => exact ⟨_, rfl, trivial⟩
  obtain ⟨d, run, _⟩ := exists_run (fun _ => True) _ each ops c trivial
    (fun op mem e he => ipv4 e (List.mem_flatMap.mpr ⟨op, mem, he⟩))
  exact ⟨d, run⟩

theorem Accounts.collected {P : Packages κ} {cfg : Config} {c d : Collector κ}
    {conns : List Entry} (counterMode : cfg.sendTrafficDelta = false)
    (acc : Accounts P cfg c conns d) :
    Accounts P cfg c conns { d with firstCollectDone := true } where
  baseline := by simp [baselineOnly, counterMode]
  reading := acc.reading
  value := acc.value
  metric := acc.metric

def collects (listings : List (List Entry)) : List (Op κ) :=
  listings.map (fun conns => .collect (.ok conns))

theorem collects_accounting (P : Packages κ) (E : Encoders) (cfg : Config)
    (counterMode : cfg.sendTrafficDelta = false) (c : Collector κ) (listings : List (List Entry))
    (ipv4 : ∀ conns ∈ listings, ∀ e ∈ conns, IsIPv4 e) :
    ∃ d, Runs (step P E cfg) c (collects listings) d ∧ Accounts P cfg c listings.flatten d := by
  induction listings generalizing c with
  | nil => exact ⟨c, .refl c, .refl P cfg c⟩
  | cons conns listings ih =>
    have here := ipv4 conns List.mem_cons_self
    obtain ⟨d, run⟩ := records_total P cfg c here
    obtain ⟨u, rest, acc⟩ := ih { d with firstCollectDone := true }
      (fun conns mem => ipv4 conns (List.mem_cons_of_mem _ mem))
    have first : step P E cfg c (.collect (.ok conns)) = .ok { d with firstCollectDone := true } := by
      rw [step_collect_ok, collectConns_iff]
      exact ⟨d, run, rfl⟩
    exact ⟨u, .next first rest, ((records_accounting run here).collected counterMode).trans acc⟩

/-- A metric of `podMetrics` that carries the source, destination and protocol of the group. -/
def Holds (c : Collector κ) (g : Group) (key : κ) (m : RawNetworkMetric) : Prop :=
  c.podMetrics.lookup key = some m ∧ Carries m.toPbRawNetworkMetric g

theorem holds_iff {P : Packages κ} {c : Collector κ} (keyed : WellKeyed P c) {g : Group} {key : κ}
    {m : RawNetworkMetric} : Holds c g key m ↔ key = groupKey P g ∧ metricOf P c g = some m := by
  constructor
  · rintro ⟨hm, carries⟩
    have hkey := keyed.key hm carries
    exact ⟨hkey, by rw [metricOf, ← hkey, hm]⟩
  · rintro ⟨rfl, hm⟩
    exact ⟨hm, keyed.carries hm⟩

/-- Counter mode accounts exactly: collects of IPv4 listings succeed, a group has one metric
    once an entry of it was listed and none before, and each counter is the sum of the rises
    of the group's flows, modulo `2 ^ 64` and read as an `int64`. -/
theorem counter_mode_accounts_exactly (P : Packages κ) (E : Encoders) (cfg : Config)
    (counterMode : cfg.sendTrafficDelta = false) (listings : List (List Entry))
    (ipv4 : ∀ conns ∈ listings, ∀ e ∈ conns, IsIPv4 e) :
    ∃ c, Runs (step P E cfg) (Collector.empty κ) (collects listings) c ∧ ∀ g : Group,
      ((∃! key, ∃ m, Holds c g key m) ↔
        ∃ e ∈ listings.flatten, groupOf P.netaddr cfg e = .ok g) ∧
      ∀ key m, Holds c g key m →
        (∃ e ∈ listings.flatten, groupOf P.netaddr cfg e = .ok g) ∧
        ∀ k, m.counter k = Int64.ofNat (∑ t : Flow with flowGroup P.netaddr cfg t = g,
          risesFrom 0 (readings P.netaddr listings.flatten t k)) := by
  obtain ⟨c, run, acc⟩ := collects_accounting P E cfg counterMode (Collector.empty κ) listings ipv4
  have keyed : WellKeyed P c := wellKeyed_of_reachable ⟨_, run⟩
  have counted : baselineOnly cfg (Collector.empty κ) = false := by
    simp [baselineOnly, counterMode]
  have listed : ∀ g, (metricOf P c g).isSome ↔
      ∃ e ∈ listings.flatten, groupOf P.netaddr cfg e = .ok g := by
    intro g
    have none : metricOf P (Collector.empty κ) g = none := Finmap.lookup_empty _
    rw [acc.metric, none]
    simp [counted]
  refine ⟨c, run, fun g => ⟨?_, ?_⟩⟩
  · rw [← listed, Option.isSome_iff_exists]
    constructor
    · rintro ⟨key, ⟨m, hm⟩, _⟩
      exact ⟨m, ((holds_iff keyed).mp hm).2⟩
    · rintro ⟨m, hm⟩
      refine ⟨groupKey P g, ⟨m, (holds_iff keyed).mpr ⟨rfl, hm⟩⟩, ?_⟩
      rintro key ⟨m', hm'⟩
      exact ((holds_iff keyed).mp hm').1
  · intro key m hm
    have here := ((holds_iff keyed).mp hm).2
    refine ⟨(listed g).mp (by rw [here]; rfl), fun k => ?_⟩
    have total := acc.value g k
    rw [counted] at total
    have after : value P c g k = m.counter k := by rw [value, here]; rfl
    have before : value P (Collector.empty κ) g k = 0 := rfl
    rw [after, before, Int64.zero_add] at total
    exact total

theorem sample_groupRises (N : Netaddr) : groupRises N ⟨false, false⟩ (fun _ => 0)
    ([sampleEntry 10 0] ++ [sampleEntry 4 0] ++ [sampleEntry 9 0]) sampleGroup .txBytes = 15 := by
  have flow := flowOf_sampleEntry N
  have same : sampleGroup = flowGroup N ⟨false, false⟩ sampleFlow := rfl
  rw [groupRises_append, groupRises_append, groupRises_singleton (flow 10 0),
    groupRises_singleton (flow 4 0), groupRises_singleton (flow 9 0), readings_append,
    readings_singleton (flow 10 0), readings_singleton (flow 4 0), if_pos same, if_pos same,
    if_pos same, if_pos rfl, if_pos rfl]
  decide

theorem counter_mode_accounts_exactly_sample :
    ∃ c, Runs (step .documented .buffering ⟨false, false⟩) (Collector.empty Bytes)
      (collects [[sampleEntry 10 0, sampleEntry 4 0], [sampleEntry 9 0]]) c ∧
    ∃ key m, Holds c sampleGroup key m ∧ m.counter .txBytes = 15 := by
  obtain ⟨c, run, accounts⟩ := counter_mode_accounts_exactly .documented .buffering ⟨false, false⟩ rfl
    [[sampleEntry 10 0, sampleEntry 4 0], [sampleEntry 9 0]] (by decide)
  obtain ⟨held, counted⟩ := accounts sampleGroup
  obtain ⟨key, ⟨m, hm⟩, _⟩ := held.mpr ⟨sampleEntry 10 0, by simp, groupOf_sampleEntry _ _ _ _⟩
  refine ⟨c, run, key, m, hm, ?_⟩
  have rises := sample_groupRises Packages.documented.netaddr
  unfold groupRises at rises
  rw [(counted key m hm).2]
  exact congrArg Int64.ofNat rises

end Egressd.CollectorAccounting
