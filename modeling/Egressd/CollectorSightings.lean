import Egressd.CollectorAccounting

set_option autoImplicit false

namespace Egressd.CollectorSightings
open Conntrack CollectorModel CollectorHandler CollectorSteps CollectorRuns CollectorAccounting
open PartialRuns Rises

structure Sighting where
  entry : Entry
  cached : Option Entry
  baseline : Bool

def Sighting.reading (s : Sighting) (k : CounterField) : ℕ := (s.entry.counter k).toNat

def Sighting.rise (s : Sighting) (k : CounterField) : ℕ :=
  ((trafficSince s.entry s.cached).counter k).toNat

/-- The part of the rise that is added to the metric of the flow's group. -/
def Sighting.credit (s : Sighting) (k : CounterField) : ℕ := if s.baseline then 0 else s.rise k

/-- The part that delta mode leaves out as its baseline. -/
def Sighting.leftOut (s : Sighting) (k : CounterField) : ℕ := if s.baseline then s.rise k else 0

theorem Sighting.credit_add_leftOut (s : Sighting) (k : CounterField) :
    s.credit k + s.leftOut k = s.rise k := by
  unfold credit leftOut
  split <;> omega

variable {κ : Type} [DecidableEq κ]

def sightingsOf (P : Packages κ) (cfg : Config) (t : Flow) : Observer κ Sighting where
  record c e :=
    if flowOf P.netaddr e = .ok t then [⟨e, cached P c t, baselineOnly cfg c⟩] else []
  handle _ _ := []

def sightings (P : Packages κ) (E : Encoders) (cfg : Config) (ops : List (Op κ)) (t : Flow) :
    List Sighting :=
  (sightingsOf P cfg t).run P E cfg (Collector.empty κ) ops

def attributed (P : Packages κ) (E : Encoders) (cfg : Config) (ops : List (Op κ)) (t : Flow)
    (k : CounterField) : ℕ :=
  ((sightings P E cfg ops t).map (·.credit k)).sum

def leftOut (P : Packages κ) (E : Encoders) (cfg : Config) (ops : List (Op κ)) (t : Flow)
    (k : CounterField) : ℕ :=
  ((sightings P E cfg ops t).map (·.leftOut k)).sum

theorem sightings_readings {P : Packages κ} {E : Encoders} {cfg : Config} {ops : List (Op κ)}
    {c : Collector κ} (run : Runs (step P E cfg) (Collector.empty κ) ops c) (t : Flow)
    (k : CounterField) : (sightings P E cfg ops t).map (·.reading k) =
      readings P.netaddr (listed ops) t k := by
  have each : ∀ (c : Collector κ) op d, step P E cfg c op = .ok d →
      ((sightingsOf P cfg t).op P cfg c op).map (·.reading k) =
        readings P.netaddr (listedBy op) t k := by
    intro c op d hstep
    match op with
    | .collect (.ok conns) =>
      rw [step_collect_ok, collectConns_iff] at hstep
      obtain ⟨u, records, _⟩ := hstep
      rw [readings, List.filterMap_eq_flatMap_toList]
      refine records.observe_map ?_
      intro c e _ _
      simp only [sightingsOf]
      split <;> rfl
    | .collect (.error err) => rfl
    | .handle call => rfl
    | .cleanup now => rfl
  rw [listed, readings, List.filterMap_flatMap]
  exact run.observe_map each

theorem sightings_induction {P : Packages κ} {E : Encoders} {cfg : Config} {t : Flow}
    (I : List Sighting → Collector κ → Prop) (Q : Op κ → Prop) (start : I [] (Collector.empty κ))
    (sight : ∀ xs c e g, I xs c →
      I (xs ++ [⟨e, cached P c t, baselineOnly cfg c⟩]) (recorded P cfg c e t g))
    (frame : ∀ xs c d, cached P d t = cached P c t → I xs c → I xs d)
    (cleanup : ∀ xs c now, Q (.cleanup now) → I xs c → I xs (c.cleanup now))
    {ops : List (Op κ)} {c : Collector κ}
    (run : Runs (step P E cfg) (Collector.empty κ) ops c) (allowed : ∀ op ∈ ops, Q op) :
    I (sightings P E cfg ops t) c := by
  refine (sightingsOf P cfg t).induction I (fun _ => Q) ?_ ?_ ?_ cleanup run
    (.of_forall (fun op mem _ => allowed op mem) _) start
  · intro xs c e u g hu hg hc
    simp only [sightingsOf, hu, Except.ok.injEq]
    by_cases same : u = t
    · subst same
      rw [if_pos rfl]
      exact sight xs c e g hc
    · rw [if_neg same, List.append_nil]
      refine frame xs c _ ?_ hc
      rw [cached_recorded, if_neg (Ne.symm same)]
  · exact fun xs c hc => frame xs c _ rfl hc
  · intro xs c call hc
    refine frame _ c _ ?_ (by simpa only [sightingsOf, List.append_nil] using hc)
    rcases handler_cases E cfg c call with ⟨same, _⟩ | ⟨zeroed, _⟩
    · rw [same]
    · rw [zeroed, cached_resetDeltas]

theorem rise_eq (P : Packages κ) (c : Collector κ) (e : Entry) (t : Flow) (b : Bool)
    (k : CounterField) : (Sighting.mk e (cached P c t) b).rise k =
      (e.counter k).toNat - reading P c t k :=
  trafficSince_counter_toNat P c e t k

theorem attributed_add_leftOut (P : Packages κ) (E : Encoders) (cfg : Config)
    (ops : List (Op κ)) (t : Flow) (k : CounterField) :
    attributed P E cfg ops t k + leftOut P E cfg ops t k =
      ((sightings P E cfg ops t).map (·.rise k)).sum := by
  unfold attributed leftOut
  induction sightings P E cfg ops t with
  | nil => rfl
  | cons s xs ih =>
    have h := s.credit_add_leftOut k
    simp only [List.map_cons, List.sum_cons]
    omega

theorem rises_without_cleanup {P : Packages κ} {E : Encoders} {cfg : Config} {ops : List (Op κ)}
    {c : Collector κ} (run : Runs (step P E cfg) (Collector.empty κ) ops c)
    (noCleanup : ∀ op ∈ ops, ∀ now, op ≠ .cleanup now) (t : Flow) (k : CounterField) :
    ((sightings P E cfg ops t).map (·.rise k)).sum =
      risesFrom 0 (readings P.netaddr (listed ops) t k) := by
  rw [← sightings_readings run]
  have invariant := sightings_induction (t := t)
    (fun xs c => (xs.map (·.rise k)).sum = risesFrom 0 (xs.map (·.reading k)) ∧
      reading P c t k = (xs.map (·.reading k)).getLastD 0)
    (fun op => ∀ now, op ≠ .cleanup now) ⟨rfl, rfl⟩ ?_ ?_ ?_ run noCleanup
  · exact invariant.1
  · rintro xs c e g ⟨total, last⟩
    rw [List.map_append, List.map_append, List.sum_append, risesFrom_append, getLastD_append_eq,
      reading_recorded, if_pos rfl, ← last, total]
    simp only [List.map_singleton, List.sum_singleton, rise_eq]
    exact ⟨rfl, rfl⟩
  · rintro xs c d same ⟨total, last⟩
    rw [reading, same]
    exact ⟨total, last⟩
  · intro xs c now none
    exact absurd rfl (none now)

/-- What a run without cleanups attributes to a flow: the last reading and all dips before
    it, less the baseline. It exceeds the largest reading by at most the dips, and not at all
    as long as no reading rises again after a dip. -/
theorem attributed_without_cleanup (P : Packages κ) (E : Encoders) (cfg : Config)
    {ops : List (Op κ)} {c : Collector κ} (run : Runs (step P E cfg) (Collector.empty κ) ops c)
    (noCleanup : ∀ op ∈ ops, ∀ now, op ≠ .cleanup now) (t : Flow) (k : CounterField) :
    let xs := readings P.netaddr (listed ops) t k
    attributed P E cfg ops t k + leftOut P E cfg ops t k = xs.getLastD 0 + dipsFrom 0 xs ∧
      attributed P E cfg ops t k ≤ peak xs + dipsFrom 0 xs ∧
      (NoRiseAfterDip xs → attributed P E cfg ops t k ≤ peak xs) := by
  intro xs
  have total : attributed P E cfg ops t k + leftOut P E cfg ops t k = risesFrom 0 xs := by
    rw [attributed_add_leftOut, rises_without_cleanup run noCleanup]
  have balance := risesFrom_balance 0 xs
  have last := getLastD_le_peak 0 xs
  refine ⟨by omega, by omega, fun flat => ?_⟩
  -- The baseline 0 adds no dip in front of the readings.
  have bound := risesFrom_le_peak 0 xs (flat.cons (fun y _ => Nat.zero_le y))
  omega

def threeReadings (x y z : UInt64) : List (Op Bytes) :=
  collects [[sampleEntry x 0], [sampleEntry y 0], [sampleEntry z 0]]

theorem threeReadings_run (x y z : UInt64) : ∃ c, Runs (step .documented .buffering ⟨false, false⟩)
    (Collector.empty Bytes) (threeReadings x y z) c :=
  runs_total .documented .buffering ⟨false, false⟩ _ _
    (by simp [threeReadings, collects, listed, listedBy, IsIPv4, isIPv4, sampleEntry])

theorem threeReadings_noCleanup (x y z : UInt64) :
    ∀ op ∈ threeReadings x y z, ∀ now, op ≠ .cleanup now := by
  simp [threeReadings, collects]

theorem attributed_without_cleanup_fall :
    NoRiseAfterDip (readings .documented (listed (threeReadings 4 10 7)) sampleFlow .txBytes) ∧
      attributed .documented .buffering ⟨false, false⟩ (threeReadings 4 10 7) sampleFlow .txBytes ≤
        peak (readings .documented (listed (threeReadings 4 10 7)) sampleFlow .txBytes) := by
  obtain ⟨c, run⟩ := threeReadings_run 4 10 7
  have bounds := attributed_without_cleanup .documented .buffering ⟨false, false⟩ run
    (threeReadings_noCleanup 4 10 7) sampleFlow .txBytes
  have flat : NoRiseAfterDip
      (readings .documented (listed (threeReadings 4 10 7)) sampleFlow .txBytes) := by
    have values : readings .documented (listed (threeReadings 4 10 7)) sampleFlow .txBytes =
        [4, 10, 7] := by decide +kernel
    rw [values]
    exact (noRiseAfterDip_of_falling (by decide)).cons (by decide)
  exact ⟨flat, bounds.2.2 flat⟩

theorem dip_inflates_total :
    (∃ c, Runs (step .documented .buffering ⟨false, false⟩) (Collector.empty Bytes)
      (threeReadings 10 5 10) c) ∧
    (∀ op ∈ threeReadings 10 5 10, ∀ now, op ≠ .cleanup now) ∧
    readings .documented (listed (threeReadings 10 5 10)) sampleFlow .txBytes = [10, 5, 10] ∧
    attributed .documented .buffering ⟨false, false⟩ (threeReadings 10 5 10) sampleFlow .txBytes = 15 :=
  ⟨threeReadings_run 10 5 10, threeReadings_noCleanup 10 5 10, by decide +kernel, by decide +kernel⟩

/-- The readings that are counted once more because the cache had dropped them: at each
    sighting without a cached entry, the reading of the sighting before. -/
def recountedFrom (k : CounterField) : ℕ → List Sighting → ℕ
  | _, [] => 0
  | p, s :: xs => (if s.cached.isNone then p else 0) + recountedFrom k (s.reading k) xs

def recounted (P : Packages κ) (E : Encoders) (cfg : Config) (ops : List (Op κ)) (t : Flow)
    (k : CounterField) : ℕ :=
  recountedFrom k 0 (sightings P E cfg ops t)

theorem recountedFrom_append (k : CounterField) (p : ℕ) (xs : List Sighting) (s : Sighting) :
    recountedFrom k p (xs ++ [s]) = recountedFrom k p xs +
      if s.cached.isNone then (xs.map (·.reading k)).getLastD p else 0 := by
  induction xs generalizing p with
  | nil =>
    change (if s.cached.isNone then p else 0) + 0 = 0 + _
    rw [Nat.add_comm]
    rfl
  | cons x xs ih =>
    change _ + recountedFrom k (x.reading k) (xs ++ [s]) = _ + recountedFrom k (x.reading k) xs + _
    rw [ih, List.map_cons, List.getLastD_cons]
    omega

/-- The rises over the sightings so far, and what the cache can hold of the flow then. -/
structure Recounts (P : Packages κ) (t : Flow) (k : CounterField) (xs : List Sighting)
    (c : Collector κ) : Prop where
  total : (xs.map (·.reading k)).IsChain (· ≤ ·) → (xs.map (·.rise k)).sum =
    (xs.map (·.reading k)).getLastD 0 + recountedFrom k 0 xs
  last : ∀ old, cached P c t = some old →
    (old.counter k).toNat = (xs.map (·.reading k)).getLastD 0

theorem recounts_empty (P : Packages κ) (t : Flow) (k : CounterField) :
    Recounts P t k [] (Collector.empty κ) where
  total _ := rfl
  last _ none := by cases none

theorem Recounts.sighted {P : Packages κ} {t : Flow} {k : CounterField} {xs : List Sighting}
    {c : Collector κ} (h : Recounts P t k xs c) (cfg : Config) (e : Entry) (g : Group) :
    Recounts P t k (xs ++ [⟨e, cached P c t, baselineOnly cfg c⟩]) (recorded P cfg c e t g) := by
  constructor
  · intro chain
    simp only [List.map_append, List.map_singleton] at chain
    have before := h.total chain.left_of_append
    have le : (xs.map (·.reading k)).getLastD 0 ≤ (e.counter k).toNat :=
      getLastD_le_of_isChain chain
    simp only [List.map_append, List.map_singleton, List.sum_append, List.sum_singleton, rise_eq,
      getLastD_append_eq, recountedFrom_append]
    change _ = (e.counter k).toNat + _
    cases hc : cached P c t with
    | none =>
      have zero : reading P c t k = 0 := by rw [reading, hc]; rfl
      rw [before, zero, Option.isNone_none, if_pos rfl]
      omega
    | some old =>
      have same : reading P c t k = (xs.map (·.reading k)).getLastD 0 := by
        rw [reading, hc]
        exact h.last old hc
      rw [before, same, Option.isNone_some, if_neg (by simp)]
      omega
  · intro old hold
    rw [cached_recorded, if_pos rfl, Option.some.injEq] at hold
    rw [← hold, stored_counter, List.map_append, getLastD_append_eq]
    rfl

theorem Recounts.cleanup {P : Packages κ} {t : Flow} {k : CounterField} {xs : List Sighting}
    {c : Collector κ} (h : Recounts P t k xs c) (now : Time) :
    Recounts P t k xs (c.cleanup now) where
  total := h.total
  last old hold := by
    rw [cached_cleanup] at hold
    exact h.last old (Option.filter_eq_some_iff.mp hold).1

theorem rises_with_cleanup {P : Packages κ} {E : Encoders} {cfg : Config} {ops : List (Op κ)}
    {c : Collector κ} (run : Runs (step P E cfg) (Collector.empty κ) ops c) (t : Flow)
    (k : CounterField) (rising : (readings P.netaddr (listed ops) t k).IsChain (· ≤ ·)) :
    ((sightings P E cfg ops t).map (·.rise k)).sum =
      (readings P.netaddr (listed ops) t k).getLastD 0 + recounted P E cfg ops t k := by
  rw [← sightings_readings run] at rising ⊢
  have recounts := sightings_induction (Recounts P t k) (fun _ => True) (recounts_empty P t k)
    (fun _ _ e g h => h.sighted cfg e g) (fun _ _ _ same h => ⟨h.total, same ▸ h.last⟩)
    (fun _ _ now _ h => h.cleanup now) run (fun _ _ => trivial)
  exact recounts.total rising

/-- For a flow whose readings never decrease, a run attributes at most the last reading
    exactly if the readings that were counted again after a cleanup had dropped them are
    covered by what delta mode left out as its baseline. -/
theorem attributed_le_last_iff (P : Packages κ) (E : Encoders) (cfg : Config)
    {ops : List (Op κ)} {c : Collector κ} (run : Runs (step P E cfg) (Collector.empty κ) ops c)
    (t : Flow) (k : CounterField)
    (rising : (readings P.netaddr (listed ops) t k).IsChain (· ≤ ·)) :
    attributed P E cfg ops t k ≤ (readings P.netaddr (listed ops) t k).getLastD 0 ↔
      recounted P E cfg ops t k ≤ leftOut P E cfg ops t k := by
  have total := rises_with_cleanup run t k rising
  have parts := attributed_add_leftOut P E cfg ops t k
  omega

def recountOps : List (Op Bytes) :=
  [.collect (.ok [sampleEntry 10 (30 * second)]), .cleanup (31 * second),
    .collect (.ok [sampleEntry 10 (62 * second)])]

theorem attributed_le_last_iff_growing :
    attributed .documented .buffering ⟨false, false⟩ (threeReadings 4 7 10) sampleFlow .txBytes ≤
      (readings .documented (listed (threeReadings 4 7 10)) sampleFlow .txBytes).getLastD 0 := by
  obtain ⟨c, run⟩ := threeReadings_run 4 7 10
  exact (attributed_le_last_iff .documented .buffering ⟨false, false⟩ run sampleFlow .txBytes
    (by decide +kernel)).mpr (by decide +kernel)

theorem cleanup_counts_twice :
    (∃ c, Runs (step .documented .buffering ⟨false, false⟩) (Collector.empty Bytes) recountOps c) ∧
    readings .documented (listed recountOps) sampleFlow .txBytes = [10, 10] ∧
    attributed .documented .buffering ⟨false, false⟩ recountOps sampleFlow .txBytes = 20 := by
  refine ⟨runs_total .documented .buffering ⟨false, false⟩ _ _ (by decide), ?_, ?_⟩
  · decide +kernel
  · decide +kernel

end Egressd.CollectorSightings
