import Egressd.CollectorAccounting

set_option autoImplicit false

namespace Egressd.CollectorReread
open Conntrack CollectorModel CollectorHandler CollectorSteps CollectorRuns CollectorAccounting
open PartialRuns Rises

def untimed (e : Entry) : Entry := { e with lifetime := 0 }

/-- The rises of a group when a listing is read again. -/
def rereadRises (N : Netaddr) (cfg : Config) (conns : List Entry) (g : Group) (k : CounterField) :
    ℕ :=
  groupRises N cfg (fun t => (readings N conns t k).getLastD 0) conns g k

theorem readings_untimed (N : Netaddr) (conns : List Entry) (t : Flow) (k : CounterField) :
    readings N (conns.map untimed) t k = readings N conns t k := by
  rw [readings, List.filterMap_map]
  refine List.filterMap_congr (fun e _ => ?_)
  cases k <;> rfl

theorem readings_congr (N : Netaddr) {conns conns' : List Entry}
    (h : conns.map untimed = conns'.map untimed) (t : Flow) (k : CounterField) :
    readings N conns t k = readings N conns' t k := by
  rw [← readings_untimed, h, readings_untimed]

theorem groupRises_congr (N : Netaddr) (cfg : Config) (base : Flow → ℕ) {conns conns' : List Entry}
    (h : conns.map untimed = conns'.map untimed) (g : Group) (k : CounterField) :
    groupRises N cfg base conns g k = groupRises N cfg base conns' g k := by
  simp only [groupRises, readings_congr N h]

theorem groupRises_last (N : Netaddr) (cfg : Config) (base : Flow → ℕ) (conns : List Entry)
    (g : Group) (k : CounterField) :
    groupRises N cfg (fun t => (readings N conns t k).getLastD (base t)) conns g k =
      rereadRises N cfg conns g k := by
  unfold rereadRises groupRises
  exact Finset.sum_congr rfl (fun t _ => risesFrom_getLastD _ _ _)

theorem forall_congr_untimed {conns conns' : List Entry}
    (h : conns.map untimed = conns'.map untimed) (Q : Entry → Prop)
    (time : ∀ e, Q (untimed e) ↔ Q e) : (∀ e ∈ conns, Q e) ↔ ∀ e ∈ conns', Q e := by
  have untimed_iff : ∀ es : List Entry, (∀ e ∈ es.map untimed, Q e) ↔ ∀ e ∈ es, Q e := by
    intro es
    simp only [List.forall_mem_map, time]
  rw [← untimed_iff, h, untimed_iff]

variable {κ : Type} [DecidableEq κ]

theorem collectConns_ok_iff (P : Packages κ) (cfg : Config) (c : Collector κ)
    (conns : List Entry) : (∃ d, c.collectConns P cfg conns = .ok d) ↔
      ∀ e ∈ conns, ∃ t, flowOf P.netaddr e = .ok t := by
  have each : ∀ (c : Collector κ) e,
      (∃ d, c.record P cfg e = .ok d) ↔ ∃ t, flowOf P.netaddr e = .ok t := by
    intro c e
    constructor
    · rintro ⟨d, h⟩
      obtain ⟨t, _, ht, _⟩ := record_iff.mp h
      exact ⟨t, ht⟩
    · rintro ⟨t, ht⟩
      obtain ⟨g, hg⟩ := groupOf_of_flowOf cfg ht
      exact ⟨_, record_iff.mpr ⟨t, g, ht, hg, rfl⟩⟩
  rw [← exists_run_iff _ each c conns]
  constructor
  · rintro ⟨d, h⟩
    obtain ⟨u, run, _⟩ := collectConns_iff.mp h
    exact ⟨u, run⟩
  · rintro ⟨u, run⟩
    exact ⟨_, collectConns_iff.mpr ⟨u, run, rfl⟩⟩

theorem collect_of_listed {P : Packages κ} {cfg : Config} {c c' : Collector κ} {ips : Finset IP}
    {list : EntriesFilter → Except Panic (Except Error (List Entry))} {conns : List Entry}
    (listed : list (filterBySrcIP ips) = .ok (.ok conns)) :
    c.collect P cfg (.ok ips) list = .ok (c', none) ↔ c.collectConns P cfg conns = .ok c' := by
  simp only [Collector.collect, listConns, listed, bind, Except.bind, pure, Except.pure,
    Collector.collectListed]
  cases c.collectConns P cfg conns with
  | error p => simp
  | ok d => simp

theorem reread_value {P : Packages κ} {cfg : Config} {c c₁ c₂ : Collector κ}
    {conns conns' : List Entry} (first : c.collectConns P cfg conns = .ok c₁)
    (second : c₁.collectConns P cfg conns' = .ok c₂) (ipv4 : ∀ e ∈ conns, IsIPv4 e)
    (same : conns.map untimed = conns'.map untimed) (g : Group) (k : CounterField) :
    value P c₂ g k = value P c₁ g k + Int64.ofNat (rereadRises P.netaddr cfg conns g k) := by
  obtain ⟨d₁, run₁, rfl⟩ := collectConns_iff.mp first
  obtain ⟨d₂, run₂, rfl⟩ := collectConns_iff.mp second
  have ipv4' := (forall_congr_untimed same IsIPv4 (fun _ => Iff.rfl)).mp ipv4
  have acc₁ := records_accounting run₁ ipv4
  have acc₂ := records_accounting run₂ ipv4'
  have counted : baselineOnly cfg { d₁ with firstCollectDone := true } = false := by
    simp [baselineOnly]
  have known : ∀ t, reading P { d₁ with firstCollectDone := true } t k =
      (readings P.netaddr conns t k).getLastD (reading P c t k) := fun t => acc₁.reading t k
  change value P d₂ g k = _
  rw [acc₂.value, counted, if_neg (by simp)]
  simp only [known]
  rw [← groupRises_congr _ _ _ same, groupRises_last]

theorem metricOf_collected {P : Packages κ} {cfg : Config} {c d : Collector κ}
    {conns : List Entry} (h : c.collectConns P cfg conns = .ok d) {g : Group}
    (here : (metricOf P c g).isSome) : (metricOf P d g).isSome := by
  obtain ⟨u, run, rfl⟩ := collectConns_iff.mp h
  change (metricOf P u g).isSome
  refine run.invariant (fun c => (metricOf P c g).isSome) (fun _ => True) ?_ here
    (fun _ _ => trivial)
  intro c e c' here _ hrec
  obtain ⟨t, g', _, _, rfl⟩ := record_iff.mp hrec
  rw [metricOf_recorded]
  split
  · rfl
  · exact here

theorem counters_eq_iff {P : Packages κ} {c₁ c₂ : Collector κ} (keyed : WellKeyed P c₂)
    (kept : ∀ g, (metricOf P c₁ g).isSome → (metricOf P c₂ g).isSome) :
    (∀ key m, c₂.podMetrics.lookup key = some m →
      ∀ k, m.counter k = (c₁.podMetrics.lookup key).elim 0 (fun m => m.counter k)) ↔
    ∀ g k, value P c₂ g k = value P c₁ g k := by
  constructor
  · intro equal g k
    cases hm : metricOf P c₂ g with
    | some m =>
      rw [value, hm]
      exact equal _ m hm k
    | none =>
      cases hm₁ : metricOf P c₁ g with
      | none => rw [value, value, hm, hm₁]
      | some m =>
        have still := kept g (by rw [hm₁]; rfl)
        rw [hm] at still
        cases still
  · intro equal key m hm k
    obtain ⟨g, rfl, _⟩ := keyed key m hm
    have same := equal g k
    rw [value, metricOf, hm] at same
    exact same

/-- Both collects succeed and the second adds nothing to any metric. -/
def RereadAddsNothing (P : Packages κ) (cfg : Config) (c : Collector κ) (ips : Finset IP)
    (list list' : EntriesFilter → Except Panic (Except Error (List Entry))) : Prop :=
  ∃ c₁ c₂, c.collect P cfg (.ok ips) list = .ok (c₁, none) ∧
    c₁.collect P cfg (.ok ips) list' = .ok (c₂, none) ∧
    ∀ key m, c₂.podMetrics.lookup key = some m →
      ∀ k, m.counter k = (c₁.podMetrics.lookup key).elim 0 (fun m => m.counter k)

/-- All addresses of the listing have four bytes, and no group rises when it is read again. -/
def Stable (N : Netaddr) (cfg : Config) (conns : List Entry) : Prop :=
  (∀ e ∈ conns, ∃ t, flowOf N e = .ok t) ∧ ∀ g k, 2 ^ 64 ∣ rereadRises N cfg conns g k

theorem rereadAddsNothing_iff {P : Packages κ} {cfg : Config} {c : Collector κ}
    (keyed : WellKeyed P c) {ips : Finset IP}
    {list list' : EntriesFilter → Except Panic (Except Error (List Entry))}
    {conns conns' : List Entry} (listed : list (filterBySrcIP ips) = .ok (.ok conns))
    (listed' : list' (filterBySrcIP ips) = .ok (.ok conns'))
    (same : conns.map untimed = conns'.map untimed)
    (ipv4 : ∀ e ∈ conns, ∀ t, flowOf P.netaddr e = .ok t → IsIPv4 e) :
    RereadAddsNothing P cfg c ips list list' ↔ Stable P.netaddr cfg conns := by
  have all : (∀ e ∈ conns, ∃ t, flowOf P.netaddr e = .ok t) → ∀ e ∈ conns, IsIPv4 e := by
    intro flows e mem
    obtain ⟨t, ht⟩ := flows e mem
    exact ipv4 e mem t ht
  unfold RereadAddsNothing Stable
  simp only [collect_of_listed listed, collect_of_listed listed']
  constructor
  · rintro ⟨c₁, c₂, first, second, equal⟩
    have flows := (collectConns_ok_iff P cfg c conns).mp ⟨c₁, first⟩
    have unchanged := (counters_eq_iff ((keyed.collectConns first).collectConns second)
      (fun _ => metricOf_collected second)).mp equal
    refine ⟨flows, fun g k => ?_⟩
    have rises := reread_value first second (all flows) same g k
    rw [unchanged] at rises
    exact (ofNat_eq_zero_iff _).mp (by grind)
  · rintro ⟨flows, stable⟩
    obtain ⟨c₁, first⟩ := (collectConns_ok_iff P cfg c conns).mpr flows
    have flows' := (forall_congr_untimed same (fun e => ∃ t, flowOf P.netaddr e = .ok t)
      (fun _ => Iff.rfl)).mp flows
    obtain ⟨c₂, second⟩ := (collectConns_ok_iff P cfg c₁ conns').mpr flows'
    refine ⟨c₁, c₂, first, second, (counters_eq_iff
      ((keyed.collectConns first).collectConns second) (fun _ => metricOf_collected second)).mpr ?_⟩
    intro g k
    rw [reread_value first second (all flows) same, (ofNat_eq_zero_iff _).mpr (stable g k),
      Int64.add_zero]

theorem filterBySrcIP_untimed (ips : Finset IP) (es : List Entry) :
    (es.filter (filterBySrcIP ips)).map untimed =
      (es.map untimed).filter (filterBySrcIP ips) := by
  rw [List.filter_map]
  rfl

theorem netfilter_untimed (N : Netaddr) (sessions : List Session) (ips : Finset IP)
    (now now' : Time) :
    (sessions.flatMap (Session.entries N now (filterBySrcIP ips))).map untimed =
      (sessions.flatMap (Session.entries N now' (filterBySrcIP ips))).map untimed := by
  simp only [List.map_flatMap, Session.entries, filterBySrcIP_untimed, List.map_cons, List.map_nil,
    untimed, Session.entry, Entry.mirror]

theorem cilium_untimed (toHost : CtKey4Global → CtKey4Global)
    (maps : List (String × List (CtKey4Global × CtEntry))) (ips : Finset IP) (now now' : Time)
    (timeDiff timeDiff' : Int64 → Int64) :
    (maps.flatMap (fun m => ctRecords toHost now timeDiff (filterBySrcIP ips) m.2)).map untimed =
      (maps.flatMap (fun m => ctRecords toHost now' timeDiff' (filterBySrcIP ips) m.2)).map untimed := by
  have record : ∀ k val, (ctRecord now timeDiff k val).map untimed =
      (ctRecord now' timeDiff' k val).map untimed := by
    intro k val
    unfold ctRecord
    split
    · rfl
    · simp only [Option.map_some, untimed]
  simp only [List.map_flatMap, ctRecords, filterBySrcIP_untimed, List.map_filterMap, record]

theorem netfilter_ipv4 {N : Netaddr} {sessions : List Session} {now : Time}
    {filter : EntriesFilter} {e : Entry}
    (mem : e ∈ sessions.flatMap (Session.entries N now filter)) {t : Flow}
    (ht : flowOf N e = .ok t) : IsIPv4 e := by
  obtain ⟨s, _, listed⟩ := List.mem_flatMap.mp mem
  have either := (List.mem_filter.mp listed).1
  simp only [List.mem_cons, List.not_mem_nil, or_false] at either
  obtain ⟨src, dst⟩ := session_ips either ht
  exact isIPv4_of_ips src dst

theorem cilium_ipv4 {toHost : CtKey4Global → CtKey4Global}
    {maps : List (String × List (CtKey4Global × CtEntry))} {now : Time}
    {timeDiff : Int64 → Int64} {filter : EntriesFilter} {e : Entry}
    (mem : e ∈ maps.flatMap (fun m => ctRecords toHost now timeDiff filter m.2)) : IsIPv4 e := by
  obtain ⟨m, _, listed⟩ := List.mem_flatMap.mp mem
  obtain ⟨kv, _, record⟩ := List.mem_filterMap.mp (List.mem_filter.mp listed).1
  unfold ctRecord at record
  split at record
  · cases record
  · cases record
    exact ⟨rfl, rfl⟩

/-- Reading an unchanged table again adds nothing exactly if, for every group and counter, the
    rises of its flows over one listing, each from its own last reading there, are a multiple
    of `2 ^ 64`. It does not matter what the collector had seen before. -/
theorem reread_adds_nothing_iff (P : Packages κ) (E : Encoders) (cfg : Config) (c : Collector κ)
    (reachable : Reachable P E cfg c) (ips : Finset IP) :
    (∀ (sessions : List Session) (now now' : Time),
      RereadAddsNothing P cfg c ips
        (netfilterListEntries P.netaddr (.ok (sessions.map Session.con)) now)
        (netfilterListEntries P.netaddr (.ok (sessions.map Session.con)) now') ↔
      Stable P.netaddr cfg
        (sessions.flatMap (Session.entries P.netaddr now (filterBySrcIP ips)))) ∧
    (∀ toHost maps clockSource hertz clocks clocks' timeDiff timeDiff',
      kernelTimeDiffSecondsFunc clockSource hertz clocks = .ok timeDiff →
      kernelTimeDiffSecondsFunc clockSource hertz clocks' = .ok timeDiff' →
      (RereadAddsNothing P cfg c ips
        (fun filter => .ok (listRecords toHost (openedMaps maps) clockSource hertz clocks filter))
        (fun filter => .ok (listRecords toHost (openedMaps maps) clockSource hertz clocks' filter)) ↔
      Stable P.netaddr cfg
        (maps.flatMap (fun m => ctRecords toHost clocks.now timeDiff (filterBySrcIP ips) m.2)))) := by
  have keyed := wellKeyed_of_reachable reachable
  constructor
  · intro sessions now now'
    exact rereadAddsNothing_iff keyed (netfilterListEntries_complete _ sessions now _)
      (netfilterListEntries_complete _ sessions now' _) (netfilter_untimed _ sessions ips now now')
      (fun e mem t ht => netfilter_ipv4 mem ht)
  · intro toHost maps clockSource hertz clocks clocks' timeDiff timeDiff' clock clock'
    exact rereadAddsNothing_iff keyed
      (congrArg Except.ok (listRecords_opened toHost maps clock _))
      (congrArg Except.ok (listRecords_opened toHost maps clock' _))
      (cilium_untimed toHost maps ips _ _ _ _) (fun e mem t ht => cilium_ipv4 mem)

theorem sample_rereadRises (N : Netaddr) :
    rereadRises N ⟨false, false⟩ ([sampleEntry 10 0] ++ [sampleEntry 5 0]) sampleGroup .txBytes =
      5 := by
  have flow := flowOf_sampleEntry N
  have same : sampleGroup = flowGroup N ⟨false, false⟩ sampleFlow := rfl
  rw [rereadRises, groupRises_append, groupRises_singleton (flow 10 0),
    groupRises_singleton (flow 5 0), readings_append, readings_singleton (flow 10 0),
    readings_singleton (flow 5 0), if_pos same, if_pos same, if_pos rfl, if_pos rfl]
  decide

theorem stable_of_equal_readings {N : Netaddr} (cfg : Config) {conns : List Entry}
    (flows : ∀ e ∈ conns, ∃ t, flowOf N e = .ok t)
    (equal : ∀ t k, ∀ x ∈ readings N conns t k, ∀ y ∈ readings N conns t k, x = y) :
    Stable N cfg conns := by
  refine ⟨flows, fun g k => ?_⟩
  have flat : rereadRises N cfg conns g k = 0 := by
    unfold rereadRises groupRises
    exact Finset.sum_eq_zero (fun t _ => risesFrom_getLastD_eq_zero 0 (equal t k))
  rw [flat]
  exact Nat.dvd_zero _

theorem mem_readings {N : Netaddr} {conns : List Entry} {t : Flow} {k : CounterField} {x : ℕ} :
    x ∈ readings N conns t k ↔ ∃ e ∈ conns, flowOf N e = .ok t ∧ (e.counter k).toNat = x := by
  unfold readings
  rw [List.mem_filterMap]
  refine exists_congr (fun e => and_congr_right (fun _ => ?_))
  split <;> simp_all

theorem stable_of_distinct_flows {N : Netaddr} (cfg : Config) {conns : List Entry}
    (ipv4 : ∀ e ∈ conns, IsIPv4 e)
    (once : ∀ e ∈ conns, ∀ e' ∈ conns, flowOf N e = flowOf N e' → e = e') : Stable N cfg conns := by
  refine stable_of_equal_readings cfg ?_ ?_
  · intro e mem
    exact (ipv4 e mem).flowOf_ok N
  · intro t k x hx y hy
    obtain ⟨e, mem, flow, rfl⟩ := mem_readings.mp hx
    obtain ⟨e', mem', flow', rfl⟩ := mem_readings.mp hy
    rw [once e mem e' mem' (flow.trans flow'.symm)]

def twoSessions : List Session := [portSession 10 40000 60, portSession 25 40001 30]

def twoMaps : List (String × List (CtKey4Global × CtEntry)) :=
  [("cilium_ct4_global", [(⟨⟨10, 0, 0, 1⟩, ⟨8, 8, 8, 8⟩, 443, 40000, 6, 0⟩, ⟨1, 60, 2, 120, 90⟩)]),
    ("cilium_ct_any4_global",
      [(⟨⟨10, 0, 0, 1⟩, ⟨10, 0, 0, 2⟩, 53, 40001, 17, 0⟩, ⟨1, 80, 1, 40, 30⟩)])]

def clocksAt (n : ℕ) : KernelClocks := ⟨n * second, .ok (UInt64.ofNat n * 1000000000), .ok 0⟩

theorem reread_adds_nothing_iff_two_flows : ∃ c : Collector Bytes,
    Runs (step .documented .buffering ⟨false, false⟩) (.empty Bytes) sampleRun c ∧
    (metricOf .documented c sampleGroup).map (·.txBytes) = some 40 ∧
    RereadAddsNothing .documented ⟨false, false⟩ c {.v4 ⟨10, 0, 0, 1⟩}
      (netfilterListEntries .documented (.ok (twoSessions.map Session.con)) 0)
      (netfilterListEntries .documented (.ok (twoSessions.map Session.con)) (5 * second)) ∧
    RereadAddsNothing .documented ⟨false, false⟩ c {.v4 ⟨10, 0, 0, 1⟩}
      (fun filter => .ok (listRecords id (openedMaps twoMaps) .ktime 250 (clocksAt 10) filter))
      (fun filter => .ok (listRecords id (openedMaps twoMaps) .ktime 250 (clocksAt 15) filter)) := by
  obtain ⟨c, run, shown⟩ : ∃ c, Runs (step .documented .buffering ⟨false, false⟩) (.empty Bytes)
      sampleRun c ∧ (metricOf .documented c sampleGroup).map (·.txBytes) = some 40 :=
    exists_runs (by decide +kernel)
  obtain ⟨netfilter, cilium⟩ := reread_adds_nothing_iff .documented .buffering ⟨false, false⟩ c
    ⟨_, run⟩ {.v4 ⟨10, 0, 0, 1⟩}
  refine ⟨c, run, shown, (netfilter twoSessions 0 (5 * second)).mpr ?_,
    (cilium id twoMaps .ktime 250 (clocksAt 10) (clocksAt 15) _ _ rfl rfl).mpr ?_⟩
  · exact stable_of_distinct_flows _ (by decide +kernel) (by decide +kernel)
  · exact stable_of_distinct_flows _ (by decide +kernel) (by decide +kernel)

theorem shared_flow_is_counted_again :
    ([sampleSession 10 1 40000, sampleSession 5 2 40001].flatMap
      (fun s => [s.origin, s.reply])).Nodup ∧
    ¬ RereadAddsNothing .documented ⟨false, false⟩ (Collector.empty Bytes) {.v4 ⟨10, 0, 0, 1⟩}
      (netfilterListEntries .documented
        (.ok ([sampleSession 10 1 40000, sampleSession 5 2 40001].map Session.con)) 0)
      (netfilterListEntries .documented
        (.ok ([sampleSession 10 1 40000, sampleSession 5 2 40001].map Session.con)) 0) := by
  refine ⟨by decide, ?_⟩
  have listing : [sampleSession 10 1 40000, sampleSession 5 2 40001].flatMap
      (Session.entries .documented 0 (filterBySrcIP {.v4 ⟨10, 0, 0, 1⟩})) =
        [sampleEntry 10 0, sampleEntry 5 0] := by decide +kernel
  have complete := netfilterListEntries_complete .documented
    [sampleSession 10 1 40000, sampleSession 5 2 40001] 0 (filterBySrcIP {.v4 ⟨10, 0, 0, 1⟩})
  rw [listing] at complete
  rw [rereadAddsNothing_iff (wellKeyed_empty _) complete complete rfl]
  · rintro ⟨_, stable⟩
    have rises := stable sampleGroup .txBytes
    have five := sample_rereadRises Packages.documented.netaddr
    rw [List.singleton_append] at five
    rw [five] at rises
    exact absurd rises (by decide)
  · intro e mem t ht
    exact netfilter_ipv4 (listing ▸ mem) ht

end Egressd.CollectorReread
