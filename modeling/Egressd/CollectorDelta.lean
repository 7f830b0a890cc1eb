import Egressd.CollectorAccounting

set_option autoImplicit false

namespace Egressd.CollectorDelta
open Conntrack CollectorModel CollectorHandler CollectorSteps CollectorRuns CollectorAccounting
open PartialRuns

def batchValue (b : RawNetworkMetricBatch) (g : Group) (k : CounterField) : Int64 :=
  ((b.items.filter (fun m => Carries m g)).map (·.counter k)).sum

def batchesValue (bs : List RawNetworkMetricBatch) (g : Group) (k : CounterField) : Int64 :=
  (bs.map (fun b => batchValue b g k)).sum

theorem batchesValue_append (bs bs' : List RawNetworkMetricBatch) (g : Group) (k : CounterField) :
    batchesValue (bs ++ bs') g k = batchesValue bs g k + batchesValue bs' g k := by
  rw [batchesValue, List.map_append, List.sum_append]
  rfl

theorem sum_single {α : Type} [DecidableEq α] (a : α) (v : Int64) {l : List α} (h : l.Nodup) :
    (l.map (fun x => if x = a then v else 0)).sum = if a ∈ l then v else 0 := by
  induction l with
  | nil => rfl
  | cons x l ih =>
    rw [List.nodup_cons] at h
    rw [List.map_cons, List.sum_cons, ih h.2]
    by_cases here : x = a
    · subst here
      simp [h.1]
    · simp [here, Ne.symm here]

variable {κ : Type} [DecidableEq κ]

def sentAt (E : Encoders) (cfg : Config) (c : Collector κ) : Op κ → List RawNetworkMetricBatch
  | .handle call =>
    match (getRawNetworkMetricsHandler E cfg c call).outcome with
    | .sent b => [b]
    | _ => []
  | _ => []

/-- The sum of a group's values in the batches of all handler calls that finished. -/
def delivered (P : Packages κ) (E : Encoders) (cfg : Config) (ops : List (Op κ)) (g : Group)
    (k : CounterField) : Int64 :=
  batchesValue (observe (step P E cfg) (sentAt E cfg) (Collector.empty κ) ops) g k

theorem batchValue_keys {P : Packages κ} {c : Collector κ} (keyed : WellKeyed P c) (l : List κ)
    (records : List IP2Domain) (g : Group) (k : CounterField) :
    batchValue ⟨l.filterMap (fun key => (c.podMetrics.lookup key).map (·.toPbRawNetworkMetric)),
      records⟩ g k = (l.map (fun key => if key = groupKey P g then value P c g k else 0)).sum := by
  unfold batchValue
  induction l with
  | nil => rfl
  | cons key l ih =>
    rw [List.map_cons, List.sum_cons, ← ih]
    cases hm : c.podMetrics.lookup key with
    | none =>
      have zero : (if key = groupKey P g then value P c g k else 0) = 0 := by
        split
        · rename_i same
          rw [value, metricOf, ← same, hm]
          rfl
        · rfl
      rw [List.filterMap_cons_none (by rw [hm]; rfl), zero, Int64.zero_add]
    | some m =>
      rw [List.filterMap_cons_some (by rw [hm]; rfl)]
      by_cases carries : Carries m.toPbRawNetworkMetric g
      · have same := keyed.key hm carries
        rw [if_pos same, value, metricOf, ← same, hm]
        simp only [List.filter_cons, carries, decide_true, if_true, List.map_cons, List.sum_cons]
        rfl
      · have other : key ≠ groupKey P g := by
          rintro rfl
          exact carries (keyed.carries hm)
        rw [if_neg other, Int64.zero_add]
        simp only [List.filter_cons, carries, decide_false, Bool.false_eq_true, if_false]

theorem batchValue_batchOf {P : Packages κ} {c : Collector κ} (keyed : WellKeyed P c)
    (call : HandlerCall κ) (g : Group) (k : CounterField) :
    batchValue (batchOf c call) g k = value P c g k := by
  have nodup : (call.order c.podMetrics.keys).Nodup := by
    rw [← Multiset.coe_nodup, call.visitsEachOnce]
    exact c.podMetrics.keys.nodup
  have visited : groupKey P g ∈ call.order c.podMetrics.keys ↔ (metricOf P c g).isSome := by
    rw [← Multiset.mem_coe, call.visitsEachOnce, metricOf, Finmap.lookup_isSome]
    exact Finmap.mem_keys
  rw [batchOf, batchValue_keys keyed, sum_single _ _ nodup]
  split
  · rfl
  · rename_i absent
    rw [visited, Option.not_isSome_iff_eq_none] at absent
    rw [value, absent]
    rfl

def SameReadings (P : Packages κ) (d c : Collector κ) : Prop :=
  ∀ t k, reading P d t k = reading P c t k

theorem SameReadings.recorded {P : Packages κ} {d c : Collector κ} (h : SameReadings P d c)
    (cfg cfg' : Config) (e : Entry) (t : Flow) (g g' : Group) :
    SameReadings P (recorded P cfg d e t g) (recorded P cfg' c e t g') := by
  intro u k
  rw [reading_recorded, reading_recorded, h]

def deltaMode (cfg : Config) : Config := { cfg with sendTrafficDelta := true }

def counterMode (cfg : Config) : Config := { cfg with sendTrafficDelta := false }

theorem record_both {P : Packages κ} {cfg : Config} {d d' c c' : Collector κ} {e : Entry}
    (hd : d.record P (deltaMode cfg) e = .ok d') (hc : c.record P (counterMode cfg) e = .ok c') :
    ∃ t g, d' = recorded P (deltaMode cfg) d e t g ∧ c' = recorded P (counterMode cfg) c e t g := by
  obtain ⟨t, g, ht, hg, rfl⟩ := record_iff.mp hd
  obtain ⟨t', g', ht', hg', rfl⟩ := record_iff.mp hc
  -- The flow and the group of an entry do not depend on the mode.
  have flow : t = t' := Except.ok.inj (ht.symm.trans ht')
  have group : g = g' := Except.ok.inj (hg.symm.trans hg')
  subst flow group
  exact ⟨t, g, rfl, rfl⟩

theorem handler_counterMode (E : Encoders) (cfg : Config) (c : Collector κ) (call : HandlerCall κ) :
    (getRawNetworkMetricsHandler E (counterMode cfg) c call).collector = c := by
  rcases handler_cases E (counterMode cfg) c call with ⟨same, _⟩ | ⟨same, _⟩
  · exact same
  · rw [same]
    rfl

theorem handler_deltaMode {P : Packages κ} (E : Encoders) (cfg : Config) {d : Collector κ}
    (keyed : WellKeyed P d) (call : HandlerCall κ) :
    let d' := (getRawNetworkMetricsHandler E (deltaMode cfg) d call).collector
    WellKeyed P d' ∧ d'.firstCollectDone = d.firstCollectDone ∧ SameReadings P d' d ∧
      ∀ g k, batchesValue (sentAt E (deltaMode cfg) d (.handle call)) g k + value P d' g k =
        value P d g k := by
  intro d'
  simp only [sentAt]
  rcases handler_cases E (deltaMode cfg) d call with ⟨same, unfinished⟩ | ⟨zeroed, finished⟩
  · have kept : d' = d := same
    rw [kept]
    refine ⟨keyed, rfl, fun _ _ => rfl, fun g k => ?_⟩
    split
    · rename_i b eq
      exact absurd eq (unfinished b)
    · exact Int64.zero_add _
  · have reset : d' = resetDeltas (deltaMode cfg) d call.clock := zeroed
    rw [reset, finished]
    refine ⟨keyed.resetDeltas _ _, firstCollectDone_resetDeltas _ _ _, fun t k => ?_, fun g k => ?_⟩
    · rw [reading, cached_resetDeltas]
      rfl
    · rw [value_resetDeltas rfl, Int64.add_zero, ← batchValue_batchOf keyed call]
      exact Int64.add_zero _

/-- Before and during the first collect the delta mode collector has nothing to send. -/
structure Waiting (P : Packages κ) (sent : Group → CounterField → Int64) (d c : Collector κ) :
    Prop where
  waiting : d.firstCollectDone = false
  keyed : WellKeyed P d
  same : SameReadings P d c
  nothing : ∀ g k, sent g k + value P d g k = 0

/-- After it, what was sent and what is pending add up to what counter mode has counted since. -/
structure Balanced (P : Packages κ) (base sent : Group → CounterField → Int64)
    (d c : Collector κ) : Prop where
  started : d.firstCollectDone = true
  keyed : WellKeyed P d
  same : SameReadings P d c
  balance : ∀ g k, sent g k + value P d g k + base g k = value P c g k

theorem Waiting.recorded {P : Packages κ} {sent : Group → CounterField → Int64}
    {d c : Collector κ} (h : Waiting P sent d c) (cfg : Config) (e : Entry) (t : Flow)
    (g : Group) : Waiting P sent (recorded P (deltaMode cfg) d e t g)
      (recorded P (counterMode cfg) c e t g) where
  waiting := (firstCollectDone_recorded _ _ _ _ _ _).trans h.waiting
  keyed := h.keyed.recorded _ e t g
  same := h.same.recorded _ _ e t g g
  nothing g' k := by
    have baseline : baselineOnly (deltaMode cfg) d = true := by
      simp [baselineOnly, deltaMode, h.waiting]
    rw [value_recorded, credit, if_pos baseline]
    have none : (if g' = g then Int64.ofNat 0 else 0) = 0 := by split <;> rfl
    rw [none, Int64.add_zero, h.nothing]

theorem Balanced.recorded {P : Packages κ} {base sent : Group → CounterField → Int64}
    {d c : Collector κ} (h : Balanced P base sent d c) (cfg : Config) (e : Entry) (t : Flow)
    (g : Group) : Balanced P base sent (recorded P (deltaMode cfg) d e t g)
      (recorded P (counterMode cfg) c e t g) where
  started := (firstCollectDone_recorded _ _ _ _ _ _).trans h.started
  keyed := h.keyed.recorded _ e t g
  same := h.same.recorded _ _ e t g g
  balance g' k := by
    have counted : baselineOnly (deltaMode cfg) d = false := by
      simp [baselineOnly, h.started]
    have credits : credit P (deltaMode cfg) d e t k = credit P (counterMode cfg) c e t k := by
      rw [credit_eq, credit_eq, counted, h.same t k]
      rfl
    rw [value_recorded, value_recorded, credits, ← h.balance]
    grind

theorem Waiting.collected {P : Packages κ} {sent : Group → CounterField → Int64}
    {d c : Collector κ} (h : Waiting P sent d c) :
    Balanced P (value P c) sent { d with firstCollectDone := true }
      { c with firstCollectDone := true } where
  started := rfl
  keyed := h.keyed
  same := h.same
  balance g k := by
    have nothing := h.nothing g k
    change sent g k + value P d g k + value P c g k = value P c g k
    rw [nothing, Int64.zero_add]

theorem records_both {P : Packages κ} {cfg : Config} {d d' c c' : Collector κ}
    {conns : List Entry} (R : Collector κ → Collector κ → Prop)
    (keep : ∀ d c e t g, R d c →
      R (recorded P (deltaMode cfg) d e t g) (recorded P (counterMode cfg) c e t g))
    (hd : Runs (Collector.record P (deltaMode cfg)) d conns d')
    (hc : Runs (Collector.record P (counterMode cfg)) c conns c') (h : R d c) : R d' c' := by
  refine hd.simulated (fun _ _ => ([] : List Unit)) (fun _ => R) (fun _ => True) ?_ hc
    (fun _ _ => trivial) [] h
  intro _ d c e d' c' h _ hd hc
  obtain ⟨t, g, rfl, rfl⟩ := record_both hd hc
  exact keep d c e t g h

theorem Waiting.step {P : Packages κ} {E : Encoders} {cfg : Config}
    {bs : List RawNetworkMetricBatch} {d d' c c' : Collector κ} {op : Op κ}
    (h : Waiting P (batchesValue bs) d c) (noCleanup : ∀ now, op ≠ .cleanup now)
    (noCollect : ∀ conns, op ≠ .collect (.ok conns))
    (hd : step P E (deltaMode cfg) d op = .ok d') (hc : step P E (counterMode cfg) c op = .ok c') :
    Waiting P (batchesValue (bs ++ sentAt E (deltaMode cfg) d op)) d' c' := by
  match op with
  | .collect (.ok conns) => exact absurd rfl (noCollect conns)
  | .collect (.error err) =>
    cases hd
    cases hc
    simpa only [sentAt, List.append_nil] using h
  | .handle call =>
    cases hd
    cases hc
    obtain ⟨keyed, flag, same, moved⟩ := handler_deltaMode E cfg h.keyed call
    rw [handler_counterMode]
    refine ⟨flag.trans h.waiting, keyed, fun t k => (same t k).trans (h.same t k), fun g k => ?_⟩
    rw [batchesValue_append, Int64.add_assoc, moved, h.nothing]
  | .cleanup now => exact absurd rfl (noCleanup now)

theorem Balanced.step {P : Packages κ} {E : Encoders} {cfg : Config}
    {base : Group → CounterField → Int64} {bs : List RawNetworkMetricBatch}
    {d d' c c' : Collector κ} {op : Op κ} (h : Balanced P base (batchesValue bs) d c)
    (noCleanup : ∀ now, op ≠ .cleanup now) (hd : step P E (deltaMode cfg) d op = .ok d')
    (hc : step P E (counterMode cfg) c op = .ok c') :
    Balanced P base (batchesValue (bs ++ sentAt E (deltaMode cfg) d op)) d' c' := by
  match op with
  | .collect (.ok conns) =>
    rw [step_collect_ok, collectConns_iff] at hd hc
    obtain ⟨d, records, rfl⟩ := hd
    obtain ⟨c, records', rfl⟩ := hc
    have after := records_both (Balanced P base (batchesValue bs))
      (fun _ _ e t g h => h.recorded cfg e t g) records records' h
    simp only [sentAt, List.append_nil]
    exact ⟨rfl, after.keyed, after.same, after.balance⟩
  | .collect (.error err) =>
    cases hd
    cases hc
    simpa only [sentAt, List.append_nil] using h
  | .handle call =>
    cases hd
    cases hc
    obtain ⟨keyed, flag, same, moved⟩ := handler_deltaMode E cfg h.keyed call
    rw [handler_counterMode]
    refine ⟨flag.trans h.started, keyed, fun t k => (same t k).trans (h.same t k), fun g k => ?_⟩
    rw [batchesValue_append, Int64.add_assoc (batchesValue bs g k), moved, h.balance]
  | .cleanup now => exact absurd rfl (noCleanup now)

/-- Delta mode delivers every byte exactly once. At any point after the first successful
    collect, what its finished handler calls sent for a group, what it still holds, and what
    counter mode held after the first collect add up to what counter mode holds. -/
theorem delta_mode_delivers_once (P : Packages κ) (E : Encoders) (cfg : Config)
    {before after : List (Op κ)} {first : List Entry} {d c₁ c : Collector κ}
    (noCleanup : ∀ op ∈ before ++ after, ∀ now, op ≠ .cleanup now)
    (noCollect : ∀ op ∈ before, ∀ conns, op ≠ .collect (.ok conns))
    (delta : Runs (step P E (deltaMode cfg)) (Collector.empty κ)
      (before ++ .collect (.ok first) :: after) d)
    (counter₁ : Runs (step P E (counterMode cfg)) (Collector.empty κ)
      (before ++ [.collect (.ok first)]) c₁)
    (counter : Runs (step P E (counterMode cfg)) c₁ after c) (g : Group) (k : CounterField) :
    delivered P E (deltaMode cfg) (before ++ .collect (.ok first) :: after) g k +
      value P d g k + value P c₁ g k = value P c g k := by
  obtain ⟨d₀, delta₀, delta⟩ := delta.split
  obtain ⟨c₀, counter₀, counter₁⟩ := counter₁.split
  have start : Waiting P (batchesValue []) (Collector.empty κ) (Collector.empty κ) :=
    ⟨rfl, wellKeyed_empty P, fun _ _ => rfl, fun _ _ => rfl⟩
  have waiting := delta₀.simulated (sentAt E (deltaMode cfg))
    (fun bs d c => Waiting P (batchesValue bs) d c)
    (fun op => (∀ now, op ≠ .cleanup now) ∧ ∀ conns, op ≠ .collect (.ok conns))
    (fun _ _ _ _ _ _ h ok hd hc => h.step ok.1 ok.2 hd hc) counter₀
    (fun op mem => ⟨noCleanup op (List.mem_append_left _ mem), noCollect op mem⟩) [] start
  cases delta with
  | next firstDelta delta =>
    cases counter₁ with
    | next firstCounter none =>
      cases none
      have d₁_eq := firstDelta
      rw [step_collect_ok, collectConns_iff] at firstDelta firstCounter
      obtain ⟨d₁, records, rfl⟩ := firstDelta
      obtain ⟨c₁, records', rfl⟩ := firstCounter
      have counted := (records_both (Waiting P _)
        (fun _ _ e t g h => h.recorded cfg e t g) records records' waiting).collected
      have balanced := delta.simulated (sentAt E (deltaMode cfg))
        (fun bs d c => Balanced P (value P c₁) (batchesValue bs) d c)
        (fun op => ∀ now, op ≠ .cleanup now) (fun _ _ _ _ _ _ h ok hd hc => h.step ok hd hc) counter
        (fun op mem => noCleanup op (List.mem_append_right _ mem)) _ counted
      rw [delivered, observe_append delta₀, observe_next d₁_eq]
      exact balanced.balance g k

def scrapedOps : List (Op Bytes) :=
  [.collect (.ok [sampleEntry 25 0]), .handle (sampleCall ⟨["gzip"]⟩ ⟨fun _ _ => none⟩),
    .collect (.ok [sampleEntry 40 0])]

theorem delta_mode_delivers_once_scraped : ∃ d c₁ c : Collector Bytes,
    Runs (step .documented .buffering (deltaMode ⟨false, false⟩)) (.empty Bytes)
      (.collect (.ok [sampleEntry 10 0]) :: scrapedOps) d ∧
    Runs (step .documented .buffering (counterMode ⟨false, false⟩)) c₁ scrapedOps c ∧
    delivered .documented .buffering (deltaMode ⟨false, false⟩)
      (.collect (.ok [sampleEntry 10 0]) :: scrapedOps) sampleGroup .txBytes +
      value .documented d sampleGroup .txBytes + value .documented c₁ sampleGroup .txBytes =
        value .documented c sampleGroup .txBytes := by
  obtain ⟨d, delta⟩ := runs_total .documented .buffering (deltaMode ⟨false, false⟩) (.empty Bytes)
    ([] ++ .collect (.ok [sampleEntry 10 0]) :: scrapedOps) (by decide)
  obtain ⟨c₁, counter₁⟩ := runs_total .documented .buffering (counterMode ⟨false, false⟩)
    (.empty Bytes) ([] ++ [.collect (.ok [sampleEntry 10 0])]) (by decide)
  obtain ⟨c, counter⟩ := runs_total .documented .buffering (counterMode ⟨false, false⟩) c₁
    scrapedOps (by decide)
  exact ⟨d, c₁, c, delta, counter, delta_mode_delivers_once .documented .buffering
    ⟨false, false⟩ (by simp [scrapedOps]) (by simp) delta counter₁ counter sampleGroup .txBytes⟩

end Egressd.CollectorDelta
