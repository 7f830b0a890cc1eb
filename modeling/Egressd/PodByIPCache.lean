import Egressd.FirstLeast
import Egressd.KubeObjects
import Mathlib.Data.List.TakeWhile

set_option autoImplicit false

namespace Egressd.Kube
open Finmap FirstLeast

structure PodByIPCache (X : PodIndexer) where
  indexer : Indexer X
  podTimeout : Int64
  deletedPods : Finmap (fun _ : UID => Pod)

variable {X : PodIndexer}

def PodByIPCache.new : PodByIPCache X := ⟨.empty, Int64.ofInt (2 * minute), ∅⟩

/-- The body of the loop over the items in `Get`. -/
def earlier : Option Pod → Pod → Option Pod
  | none, pod => some pod
  | some earliestPod, pod =>
    if pod.creationTimestamp < earliestPod.creationTimestamp then some pod else some earliestPod

def earliestPod (items : List Pod) : Option Pod := items.foldl earlier none

def PodByIPCache.get (c : PodByIPCache X) (o : VisitOrder PodKey) (key : String) :
    Except KubeError Pod × PodByIPCache X :=
  match earliestPod (c.indexer.byIndex o key) with
  | none => (.error .notFound, c)
  | some pod =>
    if pod.active then (.ok pod, c)
    else (.ok pod, { c with
      indexer := c.indexer.delete pod
      deletedPods := c.deletedPods.insert pod.uid pod })

def PodByIPCache.onDelete (c : PodByIPCache X) : DeletedObject → PodByIPCache X
  | .pod obj => { c with deletedPods := c.deletedPods.insert obj.uid obj }
  | .deletedFinalStateUnknown _ _ => c

def PodByIPCache.onAddOrUpdate (c : PodByIPCache X) (pod : Pod) : PodByIPCache X :=
  { c with indexer := c.indexer.add pod }

def PodByIPCache.notify (c : PodByIPCache X) : Notification → PodByIPCache X
  | .add obj => c.onAddOrUpdate obj
  | .update _ newObj => c.onAddOrUpdate newObj
  | .delete obj => c.onDelete obj

def PodByIPCache.timedOut (c : PodByIPCache X) (now : Time) (pod : Pod) : Bool :=
  match pod.deletionTimestamp with
  | some deleted => !decide (timeSub now deleted ≤ c.podTimeout.toInt)
  | none => true

def PodByIPCache.remove (c : PodByIPCache X) (entry : UID × Pod) : PodByIPCache X :=
  { c with
    indexer := c.indexer.delete entry.2
    deletedPods := c.deletedPods.erase entry.1 }

/-- The loop of a cleanup pass over the entries of `deletedPods`. -/
def PodByIPCache.cleanupLoop (now : Time) : PodByIPCache X → List (UID × Pod) → PodByIPCache X
  | c, [] => c
  | c, entry :: entries =>
    -- The break at the first pod that has not timed out.
    if c.timedOut now entry.2 then cleanupLoop now (c.remove entry) entries else c

/-- One pass of `runCleanupExpiredLoop`. -/
def PodByIPCache.cleanup (c : PodByIPCache X) (now : Time) (o : VisitOrder UID) : PodByIPCache X :=
  c.cleanupLoop now (c.deletedPods.visited o)

structure Indexer.IsEarliest (i : Indexer X) (ip : String) (pod : Pod) : Prop where
  held : i.Holds pod
  address : pod.podIP = ip
  first : ∀ q, i.Holds q → q.podIP = ip → pod.creationTimestamp ≤ q.creationTimestamp

theorem foldl_earlier (items : List Pod) (pod : Pod) : items.foldl earlier (some pod) =
    some (items.foldl (improve Pod.creationTimestamp) (pod.creationTimestamp, pod)).2 := by
  induction items generalizing pod with
  | nil => rfl
  | cons q items ih =>
    rw [List.foldl_cons, List.foldl_cons, earlier, improve]
    split
    · exact ih q
    · exact ih pod

theorem earliestPod_cons (pod : Pod) (rest : List Pod) : ∃ e,
    earliestPod (pod :: rest) = some e ∧ IsFirstLeast Pod.creationTimestamp (pod :: rest) e :=
  ⟨_, foldl_earlier rest pod, isFirstLeast_foldl Pod.creationTimestamp pod rest⟩

theorem earliestPod_byIndex (i : Indexer X) (o : VisitOrder PodKey) (ip : String) :
    (earliestPod (i.byIndex o ip) = none ∧ ∀ q, i.Holds q → q.podIP ≠ ip) ∨
      ∃ pod, earliestPod (i.byIndex o ip) = some pod ∧ i.IsEarliest ip pod := by
  have items : ∀ q, i.Holds q → q.podIP = ip → q ∈ i.byIndex o ip :=
    fun q held address => Indexer.mem_byIndex.mpr ⟨held, address⟩
  cases list : i.byIndex o ip with
  | nil =>
    refine .inl ⟨rfl, fun q held address => ?_⟩
    have mem := items q held address
    rw [list] at mem
    cases mem
  | cons pod rest =>
    obtain ⟨e, found, first⟩ := earliestPod_cons pod rest
    rw [← list] at first
    obtain ⟨held, address⟩ := Indexer.mem_byIndex.mp first.mem
    exact .inr ⟨e, found, held, address, fun q heldq addressq => first.le (items q heldq addressq)⟩

theorem get_cases (c : PodByIPCache X) (o : VisitOrder PodKey) (ip : String) :
    ((∀ q, c.indexer.Holds q → q.podIP ≠ ip) ∧ c.get o ip = (.error .notFound, c)) ∨
    ∃ pod, c.indexer.IsEarliest ip pod ∧
      ((pod.active = true ∧ c.get o ip = (.ok pod, c)) ∨
        (pod.active = false ∧ c.get o ip = (.ok pod, { c with
          indexer := c.indexer.delete pod
          deletedPods := c.deletedPods.insert pod.uid pod }))) := by
  unfold PodByIPCache.get
  rcases earliestPod_byIndex c.indexer o ip with ⟨none, empty⟩ | ⟨pod, found, earliest⟩
  · rw [none]
    exact .inl ⟨empty, rfl⟩
  · rw [found]
    refine .inr ⟨pod, earliest, ?_⟩
    cases active : pod.active with
    | true => exact .inl ⟨rfl, by simp [active]⟩
    | false => exact .inr ⟨rfl, by simp [active]⟩

theorem byIndex_first {i : Indexer X} {ip : String} {pod : Pod} (held : i.Holds pod)
    (address : pod.podIP = ip) : ∃ rest, i.byIndex (.first pod.key) ip = pod :: rest := by
  have found : ((X.pods i.store).filter (fun _ pod => pod.podIP = ip)).lookup pod.key =
      some pod := by
    rw [lookup_filter, Option.filter_eq_some_iff]
    exact ⟨held, by simpa using address⟩
  obtain ⟨rest, visits⟩ := visited_first found
  exact ⟨rest.map Prod.snd, by rw [Indexer.byIndex, X.byIndex_eq, visits, List.map_cons]⟩

theorem get_first {c : PodByIPCache X} {ip : String} {pod : Pod} (h : c.indexer.IsEarliest ip pod) :
    (c.get (.first pod.key) ip).1 = .ok pod := by
  obtain ⟨rest, items⟩ := byIndex_first h.held h.address
  have least : ∀ q ∈ rest, pod.creationTimestamp ≤ q.creationTimestamp := by
    intro q mem
    have listed : q ∈ c.indexer.byIndex (.first pod.key) ip := by
      rw [items]
      exact List.mem_cons_of_mem pod mem
    obtain ⟨held, address⟩ := Indexer.mem_byIndex.mp listed
    exact h.first q held address
  obtain ⟨e, earliest, first⟩ := earliestPod_cons pod rest
  rw [first.eq_head least] at earliest
  unfold PodByIPCache.get
  rw [items, earliest]
  simp only
  split <;> rfl

theorem earliest_of_get {c : PodByIPCache X} {o : VisitOrder PodKey} {ip : String} {pod : Pod}
    (found : (c.get o ip).1 = .ok pod) : c.indexer.IsEarliest ip pod := by
  rcases get_cases c o ip with ⟨_, get⟩ | ⟨q, earliest, ⟨_, get⟩ | ⟨_, get⟩⟩
  · rw [get] at found
    cases found
  all_goals
    rw [get] at found
    cases found
    exact earliest

theorem exists_get {c : PodByIPCache X} {ip : String} {pod : Pod} (held : c.indexer.Holds pod)
    (address : pod.podIP = ip) (o : VisitOrder PodKey) : ∃ q, (c.get o ip).1 = .ok q := by
  rcases get_cases c o ip with ⟨empty, _⟩ | ⟨q, _, ⟨_, get⟩ | ⟨_, get⟩⟩
  · exact absurd address (empty pod held)
  all_goals exact ⟨q, by rw [get]⟩

theorem get_only {c : PodByIPCache X} {ip : String} {pod : Pod} (held : c.indexer.Holds pod)
    (address : pod.podIP = ip) (active : pod.active = true)
    (only : ∀ q, c.indexer.Holds q → q.podIP = ip → q = pod) (o : VisitOrder PodKey) :
    c.get o ip = (.ok pod, c) := by
  rcases get_cases c o ip with ⟨empty, _⟩ | ⟨q, earliest, ⟨_, get⟩ | ⟨finished, _⟩⟩
  · exact absurd address (empty pod held)
  · rw [get, only q earliest.held earliest.address]
  · rw [only q earliest.held earliest.address, active] at finished
    cases finished

/-- The only running pod with an address that finished pods had before. -/
structure Indexer.Reused (i : Indexer X) (ip : String) (pod : Pod) : Prop where
  held : i.Holds pod
  address : pod.podIP = ip
  running : pod.phase = .running
  finished : ∀ q, i.Holds q → q.podIP = ip → q ≠ pod → q.phase = .succeeded ∨ q.phase = .failed

/-- A lookup of a reused address finds the running pod in every order of the index exactly if
    the pod was created before all finished ones. -/
theorem get_running_iff {c : PodByIPCache X} {ip : String} {pod : Pod}
    (reused : c.indexer.Reused ip pod) :
    (∀ o, (c.get o ip).1 = .ok pod) ↔
      ∀ q, c.indexer.Holds q → q.podIP = ip → q ≠ pod →
        pod.creationTimestamp < q.creationTimestamp := by
  constructor
  · intro finds q held address other
    have earliest := earliest_of_get (finds (.first pod.key))
    refine lt_of_le_of_ne (earliest.first q held address) ?_
    -- A finished pod that was created at the same time is found if the index visits it first.
    intro same
    have tied : c.indexer.IsEarliest ip q :=
      ⟨held, address, fun r heldr addressr => same ▸ earliest.first r heldr addressr⟩
    have found := get_first tied
    rw [finds, Except.ok.injEq] at found
    exact other found.symm
  · intro before o
    obtain ⟨q, found⟩ := exists_get reused.held reused.address o
    have earliest := earliest_of_get found
    rw [found, Except.ok.injEq]
    by_contra other
    have later := before q earliest.held earliest.address other
    exact absurd (earliest.first pod reused.held reused.address) (not_le.mpr later)

def laterPod (phase : PodPhase) : Pod :=
  { samplePod "p2" "b" phase none with creationTimestamp := minute }

def twoPods (phase phase' : PodPhase) : PodByIPCache .documented :=
  (PodByIPCache.new.onAddOrUpdate (samplePod "p1" "a" phase none)).onAddOrUpdate (laterPod phase')

theorem holds_twoPods {phase phase' : PodPhase} {q : Pod} :
    (twoPods phase phase').indexer.Holds q ↔
      q = laterPod phase' ∨ q = samplePod "p1" "a" phase none := by
  unfold twoPods PodByIPCache.onAddOrUpdate PodByIPCache.new
  simp only [Indexer.holds_add, Indexer.not_holds_empty, and_false, or_false]
  refine or_congr_right (and_iff_right_of_imp ?_)
  rintro rfl same
  have names : "p1" = "p2" := congrArg Prod.snd same
  revert names
  decide

theorem reused_later : (twoPods .succeeded .running).indexer.Reused "10.14.7.12"
    (laterPod .running) where
  held := holds_twoPods.mpr (.inl rfl)
  address := rfl
  running := rfl
  finished q held _ other := by
    rw [(holds_twoPods.mp held).resolve_left other]
    exact .inl rfl

theorem reused_before : (twoPods .running .failed).indexer.Reused "10.14.7.12"
    (samplePod "p1" "a" .running none) where
  held := holds_twoPods.mpr (.inr rfl)
  address := rfl
  running := rfl
  finished q held _ other := by
    rw [(holds_twoPods.mp held).resolve_right other]
    exact .inr rfl

theorem get_running_before_finished :
    (twoPods .running .failed).indexer.Reused "10.14.7.12" (samplePod "p1" "a" .running none) ∧
    ∀ o, ((twoPods .running .failed).get o "10.14.7.12").1 =
      .ok (samplePod "p1" "a" .running none) := by
  refine ⟨reused_before, (get_running_iff reused_before).mpr ?_⟩
  intro q held _ other
  rw [(holds_twoPods.mp held).resolve_right other]
  decide

theorem get_finds_finished_pod :
    (twoPods .succeeded .running).indexer.Reused "10.14.7.12" (laterPod .running) ∧
    ∀ o, ((twoPods .succeeded .running).get o "10.14.7.12").1 =
      .ok (samplePod "p1" "a" .succeeded none) := by
  refine ⟨reused_later, fun o => ?_⟩
  obtain ⟨q, found⟩ := exists_get reused_later.held reused_later.address o
  have earliest := earliest_of_get found
  rcases holds_twoPods.mp earliest.held with rfl | rfl
  · have before := earliest.first _ (holds_twoPods.mpr (.inr rfl)) rfl
    exact absurd before (by decide)
  · exact found

def PodByIPCache.swept (c : PodByIPCache X) (now : Time) (o : VisitOrder UID) : List (UID × Pod) :=
  (c.deletedPods.visited o).takeWhile (fun entry => c.timedOut now entry.2)

theorem cleanup_eq (c : PodByIPCache X) (now : Time) (o : VisitOrder UID) :
    c.cleanup now o = (c.swept now o).foldl PodByIPCache.remove c := by
  -- Removing an entry does not change the timeout.
  have loop : ∀ (entries : List (UID × Pod)) (d : PodByIPCache X), d.podTimeout = c.podTimeout →
      d.cleanupLoop now entries =
        (entries.takeWhile (fun entry => c.timedOut now entry.2)).foldl PodByIPCache.remove d := by
    intro entries
    induction entries with
    | nil => exact fun _ _ => rfl
    | cons entry entries ih =>
      intro d same
      have timeout : d.timedOut now entry.2 = c.timedOut now entry.2 := by
        unfold PodByIPCache.timedOut
        rw [same]
      rw [PodByIPCache.cleanupLoop, timeout, List.takeWhile_cons]
      split
      · exact ih (d.remove entry) same
      · rfl
  exact loop _ c rfl

theorem deletedPods_removed (entries : List (UID × Pod)) (c : PodByIPCache X) (uid : UID) :
    (entries.foldl PodByIPCache.remove c).deletedPods.lookup uid =
      if uid ∈ entries.map Prod.fst then none else c.deletedPods.lookup uid := by
  induction entries generalizing c with
  | nil => rfl
  | cons entry entries ih =>
    rw [List.foldl_cons, ih]
    change (if _ then none else (c.deletedPods.erase entry.1).lookup uid) = _
    rw [lookup_erase_ite, List.map_cons]
    by_cases here : uid = entry.1
    · rw [if_pos here, ite_self, here, if_pos List.mem_cons_self]
    · have rest : uid ∈ entry.1 :: entries.map Prod.fst ↔ uid ∈ entries.map Prod.fst := by
        rw [List.mem_cons, or_iff_right here]
      rw [if_neg here]
      simp only [rest]

theorem holds_removed (entries : List (UID × Pod)) (c : PodByIPCache X) (pod : Pod) :
    (entries.foldl PodByIPCache.remove c).indexer.Holds pod ↔
      c.indexer.Holds pod ∧ ∀ entry ∈ entries, pod.key ≠ entry.2.key := by
  induction entries generalizing c with
  | nil => simp
  | cons entry entries ih =>
    rw [List.foldl_cons, ih, List.forall_mem_cons]
    change (c.indexer.delete entry.2).Holds pod ∧ _ ↔ _
    rw [Indexer.holds_delete]
    tauto

theorem mem_swept_keys {c : PodByIPCache X} {now : Time} {o : VisitOrder UID} {uid : UID} {pod : Pod}
    (deleted : c.deletedPods.lookup uid = some pod) :
    uid ∈ (c.swept now o).map Prod.fst ↔ (uid, pod) ∈ c.swept now o := by
  rw [List.mem_map]
  constructor
  · rintro ⟨⟨_, q⟩, mem, rfl⟩
    have found := mem_visited.mp (List.takeWhile_subset _ mem)
    rw [deleted, Option.some.injEq] at found
    rw [found]
    exact mem
  · exact fun mem => ⟨_, mem, rfl⟩

def PodByIPCache.Expired (c : PodByIPCache X) (now : Time) (pod : Pod) : Prop :=
  ∀ deleted, pod.deletionTimestamp = some deleted → deleted < now - c.podTimeout.toInt

theorem not_timedOut_of_not_expired {c : PodByIPCache X} {now : Time} {pod : Pod}
    (recent : ¬ c.Expired now pod) : c.timedOut now pod = false := by
  unfold PodByIPCache.Expired at recent
  push Not at recent
  obtain ⟨deleted, timestamp, le⟩ := recent
  have within : timeSub now deleted ≤ c.podTimeout.toInt :=
    timeSub_le_of_le c.podTimeout.le_toInt (Int.sub_le_of_sub_le le)
  unfold PodByIPCache.timedOut
  rw [timestamp]
  simp only [within, decide_true, Bool.not_true]

theorem mem_takeWhile_iff {α : Type} (p : α → Bool) (l : List α) (a : α) :
    a ∈ l.takeWhile p ↔
      ∃ before after, l = before ++ a :: after ∧ p a = true ∧ ∀ b ∈ before, p b = true := by
  constructor
  · intro mem
    obtain ⟨before, after, split⟩ := List.append_of_mem mem
    refine ⟨before, after ++ l.dropWhile p, ?_, List.mem_takeWhile_imp mem, fun b hb => ?_⟩
    · rw [← List.cons_append, ← List.append_assoc, ← split, List.takeWhile_append_dropWhile]
    · refine List.mem_takeWhile_imp (p := p) (l := l) ?_
      rw [split]
      exact List.mem_append_left _ hb
  · rintro ⟨before, after, rfl, ha, hb⟩
    rw [List.takeWhile_append_of_pos hb, List.takeWhile_cons, if_pos ha]
    exact List.mem_append_right before List.mem_cons_self

theorem deletedPods_cleanup {c : PodByIPCache X} (now : Time) (o : VisitOrder UID) {uid : UID}
    {pod : Pod} (deleted : c.deletedPods.lookup uid = some pod) :
    ((uid, pod) ∈ c.swept now o ∧ (c.cleanup now o).deletedPods.lookup uid = none) ∨
      ((uid, pod) ∉ c.swept now o ∧ (c.cleanup now o).deletedPods.lookup uid = some pod) := by
  rw [cleanup_eq, deletedPods_removed, deleted]
  by_cases mem : (uid, pod) ∈ c.swept now o
  · rw [if_pos ((mem_swept_keys deleted).mpr mem)]
    exact .inl ⟨mem, rfl⟩
  · rw [if_neg (fun key => mem ((mem_swept_keys deleted).mp key))]
    exact .inr ⟨mem, rfl⟩

theorem lookup_cleanup_of_swept {c : PodByIPCache X} {now : Time} {o : VisitOrder UID} {uid : UID}
    {pod : Pod} (mem : (uid, pod) ∈ c.swept now o) :
    (c.cleanup now o).indexer.pods.lookup pod.key = none := by
  rw [Option.eq_none_iff_forall_ne_some]
  intro q found
  have key := X.keyed _ _ q found
  have held := Indexer.holds_of_lookup found
  rw [cleanup_eq, holds_removed] at held
  exact held.2 _ mem key

/-- A cleanup pass removes every expired pod and keeps all others exactly if each expired pod
    has timed out and the loop meets no pod that has not before it. -/
theorem cleanup_removes_expired_iff (c : PodByIPCache X) (now : Time) (o : VisitOrder UID) :
    ((∀ uid pod, c.deletedPods.lookup uid = some pod → c.Expired now pod →
        (c.cleanup now o).deletedPods.lookup uid = none ∧
          (c.cleanup now o).indexer.pods.lookup pod.key = none) ∧
      ∀ uid pod, c.deletedPods.lookup uid = some pod → ¬ c.Expired now pod →
        (c.cleanup now o).deletedPods.lookup uid = some pod) ↔
    ∀ uid pod, c.deletedPods.lookup uid = some pod → c.Expired now pod →
      ∃ before after, c.deletedPods.visited o = before ++ (uid, pod) :: after ∧
        c.timedOut now pod = true ∧ ∀ entry ∈ before, c.timedOut now entry.2 = true := by
  constructor
  · rintro ⟨removes, _⟩ uid pod deleted expired
    rcases deletedPods_cleanup now o deleted with ⟨mem, _⟩ | ⟨_, left⟩
    · exact (mem_takeWhile_iff _ _ _).mp mem
    · rw [(removes uid pod deleted expired).1] at left
      cases left
  · intro order
    constructor
    · intro uid pod deleted expired
      have mem : (uid, pod) ∈ c.swept now o :=
        (mem_takeWhile_iff _ _ _).mpr (order uid pod deleted expired)
      rcases deletedPods_cleanup now o deleted with ⟨_, gone⟩ | ⟨kept, _⟩
      · exact ⟨gone, lookup_cleanup_of_swept mem⟩
      · exact absurd mem kept
    · intro uid pod deleted recent
      rcases deletedPods_cleanup now o deleted with ⟨mem, _⟩ | ⟨_, left⟩
      · have timedOut := List.mem_takeWhile_imp mem
        rw [not_timedOut_of_not_expired recent] at timedOut
        cases timedOut
      · exact left

def recentPod : Pod := samplePod "p1" "a" .running (some (10 * minute))

def expiredPod : Pod := samplePod "p2" "b" .running (some 0)

def twoDeleted : PodByIPCache .documented :=
  { PodByIPCache.new (X := .documented) with
    indexer := (Indexer.empty.add recentPod).add expiredPod
    deletedPods := ((∅ : Finmap (fun _ : UID => Pod)).insert "a" recentPod).insert "b" expiredPod }

theorem cleanup_stops_at_recent_pod :
    twoDeleted.deletedPods.lookup "b" = some expiredPod ∧
    twoDeleted.Expired (11 * minute) expiredPod ∧
    (twoDeleted.cleanup (11 * minute) (.first "a")).deletedPods.lookup "b" = some expiredPod ∧
    (twoDeleted.cleanup (11 * minute) (.first "a")).indexer.pods.lookup expiredPod.key =
      some expiredPod := by
  have recent : twoDeleted.deletedPods.lookup "a" = some recentPod := by decide +kernel
  have expired : twoDeleted.deletedPods.lookup "b" = some expiredPod := by decide +kernel
  have keeps : twoDeleted.timedOut (11 * minute) recentPod = false := by decide +kernel
  obtain ⟨rest, visits⟩ := visited_first recent
  have nothing : twoDeleted.swept (11 * minute) (.first "a") = [] := by
    rw [PodByIPCache.swept, visits, List.takeWhile_cons, keeps]
    rfl
  rw [cleanup_eq, nothing]
  refine ⟨expired, ?_, expired, ?_⟩
  · intro deleted timestamp
    cases timestamp
    decide +kernel
  · exact Indexer.holds_add.mpr (.inl rfl)

end Egressd.Kube
