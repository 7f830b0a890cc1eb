import Egressd.Histories
import Egressd.KubeObjects

set_option autoImplicit false

namespace Egressd.Kube
open Finmap Histories

structure RunningPodsCache where
  pods : Finmap (fun _ : UID => Pod)

def RunningPodsCache.new : RunningPodsCache := ⟨∅⟩

/-- `Get`, with the order in which `lo.Values` visits the map. -/
def RunningPodsCache.get (p : RunningPodsCache) (o : VisitOrder UID) : List Pod :=
  (p.pods.visited o).map Prod.snd

def RunningPodsCache.onDelete (p : RunningPodsCache) : DeletedObject → RunningPodsCache
  | .pod obj => ⟨p.pods.erase obj.uid⟩
  | .deletedFinalStateUnknown _ _ => p

def RunningPodsCache.onAddOrUpdate (p : RunningPodsCache) (pod : Pod) : RunningPodsCache :=
  if pod.podIP = "" || pod.phase ≠ .running then p else ⟨p.pods.insert pod.uid pod⟩

def RunningPodsCache.notify (p : RunningPodsCache) : Notification → RunningPodsCache
  | .add obj => p.onAddOrUpdate obj
  | .update _ newObj => p.onAddOrUpdate newObj
  | .delete obj => p.onDelete obj

def RunningPodsCache.after (ns : List Notification) : RunningPodsCache :=
  ns.foldl RunningPodsCache.notify .new

def Notification.actedOn : Notification → Bool
  | .add obj => !(obj.podIP = "" || obj.phase ≠ .running)
  | .update _ newObj => !(newObj.podIP = "" || newObj.phase ≠ .running)
  | .delete (.pod _) => true
  | .delete (.deletedFinalStateUnknown _ _) => false

def RunningNow (ns : List Notification) (pod : Pod) : Prop :=
  (∃ n, latest (·.subject.uid) ns pod.uid = some n ∧ n.current = some pod) ∧
    pod.phase = .running ∧ pod.podIP ≠ ""

theorem actedOn_iff {n : Notification} {pod : Pod} (h : n.current = some pod) :
    n.actedOn = true ↔ pod.phase = .running ∧ pod.podIP ≠ "" := by
  cases n with
  | add obj =>
    cases h
    simp [Notification.actedOn, and_comm]
  | update oldObj newObj =>
    cases h
    simp [Notification.actedOn, and_comm]
  | delete obj => cases h

theorem lookup_onAddOrUpdate (p : RunningPodsCache) (pod : Pod) (uid : UID) :
    (p.onAddOrUpdate pod).pods.lookup uid =
      if (pod.podIP = "" || pod.phase ≠ .running) = false ∧ pod.uid = uid then some pod
      else p.pods.lookup uid := by
  unfold RunningPodsCache.onAddOrUpdate
  by_cases ignored : (pod.podIP = "" || pod.phase ≠ .running) = true
  · rw [if_pos ignored, ignored, if_neg (fun both => Bool.false_ne_true both.1.symm)]
  · rw [if_neg ignored]
    rw [Bool.not_eq_true] at ignored
    change (p.pods.insert pod.uid pod).lookup uid = _
    rw [lookup_insert_ite, ignored]
    simp only [true_and, eq_comm]

theorem lookup_notify (p : RunningPodsCache) (n : Notification) (uid : UID) :
    (p.notify n).pods.lookup uid =
      if n.actedOn = true ∧ n.subject.uid = uid then n.current else p.pods.lookup uid := by
  match n with
  | .add obj =>
    refine (lookup_onAddOrUpdate p obj uid).trans ?_
    simp only [Notification.actedOn, Bool.not_eq_true']
    rfl
  | .update oldObj newObj =>
    refine (lookup_onAddOrUpdate p newObj uid).trans ?_
    simp only [Notification.actedOn, Bool.not_eq_true']
    rfl
  | .delete (.pod obj) =>
    change (p.pods.erase obj.uid).lookup uid = if true = true ∧ obj.uid = uid then none else _
    rw [lookup_erase_ite]
    simp only [true_and, eq_comm]
  | .delete (.deletedFinalStateUnknown key obj) =>
    rw [if_neg (by simp [Notification.actedOn])]
    rfl

theorem lookup_after (ns : List Notification) (uid : UID) :
    (RunningPodsCache.after ns).pods.lookup uid =
      (latest (·.subject.uid) (ns.filter Notification.actedOn) uid).bind Notification.current := by
  refine foldl_history (fun ns (p : RunningPodsCache) => p.pods.lookup uid =
    (latest (·.subject.uid) (ns.filter Notification.actedOn) uid).bind Notification.current)
    (lookup_empty uid) ?_ ns
  intro ns p n ih
  rw [lookup_notify, latest_filter_concat, ih]
  by_cases both : n.actedOn = true ∧ n.subject.uid = uid
  · rw [if_pos both, if_pos both]
    rfl
  · rw [if_neg both, if_neg both]

theorem lookup_after_iff {ns : List Notification} {uid : UID} {pod : Pod} :
    (RunningPodsCache.after ns).pods.lookup uid = some pod ↔
      ∃ m, latest (·.subject.uid) (ns.filter Notification.actedOn) uid = some m ∧
        m.current = some pod := by
  rw [lookup_after, Option.bind_eq_some_iff]

theorem uid_of_lookup_after {ns : List Notification} {uid : UID} {pod : Pod}
    (h : (RunningPodsCache.after ns).pods.lookup uid = some pod) : pod.uid = uid := by
  obtain ⟨m, last, current⟩ := lookup_after_iff.mp h
  have named : m.subject.uid = uid := key_of_latest (fun n : Notification => n.subject.uid) last
  rw [← named, Notification.subject_of_current current]

theorem mem_get_after {ns : List Notification} {o : VisitOrder UID} {pod : Pod} :
    pod ∈ (RunningPodsCache.after ns).get o ↔
      ∃ m, latest (·.subject.uid) (ns.filter Notification.actedOn) pod.uid = some m ∧
        m.current = some pod := by
  rw [← lookup_after_iff, RunningPodsCache.get, List.mem_map]
  constructor
  · rintro ⟨⟨uid, q⟩, mem, rfl⟩
    have found := mem_visited.mp mem
    rw [uid_of_lookup_after found]
    exact found
  · exact fun found => ⟨(pod.uid, pod), mem_visited.mpr found, rfl⟩

theorem nodup_get_after (ns : List Notification) (o : VisitOrder UID) :
    ((RunningPodsCache.after ns).get o).Nodup := by
  refine List.Nodup.map_on ?_ (nodup_visited o _)
  rintro ⟨uid, pod⟩ mem ⟨uid', pod'⟩ mem' same
  have found := uid_of_lookup_after (mem_visited.mp mem)
  have found' := uid_of_lookup_after (mem_visited.mp mem')
  simp only at same
  rw [← found, ← found', same]

/-- `Get` returns exactly the running pods, each once and in its latest version, exactly if for
    no pod the latest notification is one that the cache ignores and the last one that it did
    not ignore reported the pod as running. -/
theorem running_pods_exact_iff (ns : List Notification) (o : VisitOrder UID) :
    (((RunningPodsCache.after ns).get o).Nodup ∧
      ∀ pod, pod ∈ (RunningPodsCache.after ns).get o ↔ RunningNow ns pod) ↔
    ∀ uid n m, latest (·.subject.uid) ns uid = some n → n.actedOn = false →
      latest (·.subject.uid) (ns.filter Notification.actedOn) uid = some m → m.current = none := by
  simp only [nodup_get_after, true_and, mem_get_after]
  constructor
  · intro exact uid n m last ignored recorded
    rw [Option.eq_none_iff_forall_ne_some]
    intro pod current
    have same : pod.uid = uid := uid_of_lookup_after (lookup_after_iff.mpr ⟨m, recorded, current⟩)
    subst same
    obtain ⟨⟨n', last', current'⟩, running, address⟩ := (exact pod).mp ⟨m, recorded, current⟩
    rw [last, Option.some.injEq] at last'
    rw [last', (actedOn_iff current').mpr ⟨running, address⟩] at ignored
    cases ignored
  · intro settled pod
    constructor
    · rintro ⟨m, recorded, current⟩
      obtain ⟨memm, acted⟩ := List.mem_filter.mp (mem_of_latest recorded)
      obtain ⟨n, last⟩ := exists_latest (fun n : Notification => n.subject.uid) memm
      rw [key_of_latest (fun n : Notification => n.subject.uid) recorded] at last
      refine ⟨⟨n, last, ?_⟩, (actedOn_iff current).mp acted⟩
      cases ignored : n.actedOn with
      | true =>
        rw [latest_filter last ignored, Option.some.injEq] at recorded
        rw [recorded]
        exact current
      | false =>
        rw [settled pod.uid n m last ignored recorded] at current
        cases current
    · rintro ⟨⟨n, last, current⟩, running⟩
      exact ⟨n, latest_filter last ((actedOn_iff current).mpr running), current⟩

theorem finished_pod_stays :
    let ns : List Notification := [.add (samplePod "p1" "a" .running none),
      .update (samplePod "p1" "a" .running none) (samplePod "p1" "a" .succeeded none)]
    (∀ o, samplePod "p1" "a" .running none ∈ (RunningPodsCache.after ns).get o) ∧
      ¬ RunningNow ns (samplePod "p1" "a" .running none) := by
  refine ⟨fun o => mem_get_after.mpr ⟨_, rfl, rfl⟩, ?_⟩
  rintro ⟨⟨n, last, current⟩, -⟩
  cases last
  exact absurd current (by decide)

end Egressd.Kube
