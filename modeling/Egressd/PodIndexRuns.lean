import Egressd.Histories
import Egressd.PodByIPCache

set_option autoImplicit false

namespace Egressd.PodIndexRuns
open Kube Finmap Histories

inductive Op where
  | notify (n : Notification)
  | get (key : String) (o : VisitOrder PodKey)
  | cleanup (now : Time) (o : VisitOrder UID)

variable {X : PodIndexer}

def step (c : PodByIPCache X) : Op → PodByIPCache X
  | .notify n => c.notify n
  | .get key o => (c.get o key).2
  | .cleanup now o => c.cleanup now o

def after (X : PodIndexer) (ops : List Op) : PodByIPCache X := ops.foldl step .new

def Op.notification : Op → Option Notification
  | .notify n => some n
  | _ => none

def latestOf (ops : List Op) (uid : UID) : Option Notification :=
  latest (·.subject.uid) (ops.filterMap Op.notification) uid

/-- The latest notification about the pod is an add or update with this state of it. -/
def Reported (ops : List Op) (pod : Pod) : Prop :=
  ∃ n, latestOf ops pod.uid = some n ∧ n.current = some pod

def Existing (ops : List Op) (pod : Pod) : Prop :=
  ∃ n, latestOf ops pod.uid = some n ∧ n.current ≠ none

theorem after_concat (ops : List Op) (op : Op) : after X (ops ++ [op]) = step (after X ops) op := by
  rw [after, List.foldl_append]
  rfl

theorem after_notify (ops : List Op) (n : Notification) :
    after X (ops ++ [.notify n]) = (after X ops).notify n := after_concat ops _

theorem after_get (ops : List Op) (key : String) (o : VisitOrder PodKey) :
    after X (ops ++ [.get key o]) = ((after X ops).get o key).2 := after_concat ops _

theorem after_cleanup (ops : List Op) (now : Time) (o : VisitOrder UID) :
    after X (ops ++ [.cleanup now o]) = (after X ops).cleanup now o := after_concat ops _

theorem latestOf_notify (ops : List Op) (n : Notification) (uid : UID) :
    latestOf (ops ++ [.notify n]) uid =
      if n.subject.uid = uid then some n else latestOf ops uid := by
  rw [latestOf, List.filterMap_append]
  exact latest_concat _ _ n uid

theorem latestOf_silent (ops : List Op) {op : Op} (silent : op.notification = none) (uid : UID) :
    latestOf (ops ++ [op]) uid = latestOf ops uid := by
  rw [latestOf, List.filterMap_append, List.filterMap_cons_none silent, List.filterMap_nil,
    List.append_nil]
  rfl

theorem latestOf_get (ops : List Op) (key : String) (o : VisitOrder PodKey) (uid : UID) :
    latestOf (ops ++ [.get key o]) uid = latestOf ops uid :=
  latestOf_silent ops rfl uid

theorem latestOf_cleanup (ops : List Op) (now : Time) (o : VisitOrder UID) (uid : UID) :
    latestOf (ops ++ [.cleanup now o]) uid = latestOf ops uid :=
  latestOf_silent ops rfl uid

theorem reported_notify {ops : List Op} {n : Notification} {pod : Pod} :
    Reported (ops ++ [.notify n]) pod ↔
      n.current = some pod ∨ n.subject.uid ≠ pod.uid ∧ Reported ops pod := by
  unfold Reported
  rw [latestOf_notify]
  by_cases same : n.subject.uid = pod.uid
  · simp [same]
  · have other : n.current ≠ some pod := by
      intro eq
      exact same (by rw [Notification.subject_of_current eq])
    simp [same, other]

theorem existing_notify {ops : List Op} {n : Notification} {pod : Pod} :
    Existing (ops ++ [.notify n]) pod ↔
      if n.subject.uid = pod.uid then n.current ≠ none else Existing ops pod := by
  unfold Existing
  rw [latestOf_notify]
  by_cases same : n.subject.uid = pod.uid
  · simp [same]
  · simp [same]

theorem existing_delete {ops : List Op} {obj : DeletedObject} {pod : Pod} :
    Existing (ops ++ [.notify (.delete obj)]) pod ↔
      obj.lastState.uid ≠ pod.uid ∧ Existing ops pod := by
  unfold Existing
  rw [latestOf_notify, Notification.subject]
  by_cases same : obj.lastState.uid = pod.uid
  · simp [same, Notification.current]
  · simp [same]

theorem notify_of_current {c : PodByIPCache X} {n : Notification} {pod : Pod}
    (h : n.current = some pod) : c.notify n = c.onAddOrUpdate pod := by
  cases n with
  | add obj => rw [← Option.some.inj h]; rfl
  | update oldObj newObj => rw [← Option.some.inj h]; rfl
  | delete obj => cases h

theorem indexer_notify_delete (c : PodByIPCache X) (obj : DeletedObject) :
    (c.notify (.delete obj)).indexer = c.indexer := by
  cases obj with
  | pod obj => rfl
  | deletedFinalStateUnknown key obj => rfl

theorem indexer_onAddOrUpdate (c : PodByIPCache X) (pod : Pod) :
    (c.onAddOrUpdate pod).indexer = c.indexer.add pod := rfl

theorem notify_tombstone (c : PodByIPCache X) (key : PodKey) (obj : Pod) :
    c.notify (.delete (.deletedFinalStateUnknown key obj)) = c := rfl

def ActivePodsHeld (X : PodIndexer) (ops : List Op) : Prop :=
  ∀ pod, Reported ops pod → pod.active = true → (after X ops).indexer.Holds pod

/-- The step takes no active pod's namespace and name: a notification not for another pod, a
    cleanup pass not for one that it removes. -/
def Harmless (X : PodIndexer) (ops : List Op) : Op → Prop
  | .notify n => ∀ new, n.current = some new → ∀ pod, Reported ops pod → pod.active = true →
      pod.uid ≠ new.uid → pod.key ≠ new.key
  | .get _ _ => True
  | .cleanup now o => ∀ entry ∈ (after X ops).swept now o, ∀ pod, Reported ops pod →
      pod.active = true → pod.key ≠ entry.2.key

theorem activePodsHeld_notify {ops : List Op} (h : ActivePodsHeld X ops) (n : Notification) :
    ActivePodsHeld X (ops ++ [.notify n]) ↔ Harmless X ops (.notify n) := by
  unfold ActivePodsHeld Harmless
  simp only [reported_notify, after_notify]
  cases current : n.current with
  | none =>
    -- A delete leaves the index alone and requires less of it.
    have same : ((after X ops).notify n).indexer = (after X ops).indexer := by
      cases n with
      | add obj => cases current
      | update oldObj newObj => cases current
      | delete obj => exact indexer_notify_delete _ obj
    rw [same]
    constructor
    · intro _ new eq
      cases eq
    · rintro _ pod (eq | ⟨_, reported⟩) active
      · cases eq
      · exact h pod reported active
  | some new =>
    rw [notify_of_current current, Notification.subject_of_current current, indexer_onAddOrUpdate]
    simp only [Indexer.holds_add, Option.some.injEq]
    constructor
    · rintro held _ rfl pod reported active other
      rcases held pod (.inr ⟨other.symm, reported⟩) active with rfl | ⟨key, _⟩
      · exact absurd rfl other
      · exact key
    · rintro harmless pod (rfl | ⟨other, reported⟩) active
      · exact .inl rfl
      · exact .inr ⟨harmless new rfl pod reported active other.symm, h pod reported active⟩

theorem activePodsHeld_get {ops : List Op} (h : ActivePodsHeld X ops) (key : String)
    (o : VisitOrder PodKey) : ActivePodsHeld X (ops ++ [.get key o]) := by
  intro pod reported active
  unfold Reported at reported
  rw [latestOf_get] at reported
  have held := h pod reported active
  rw [after_get]
  rcases get_cases (after X ops) o key with ⟨_, eq⟩ | ⟨q, earliest, ⟨_, eq⟩ | ⟨inactive, eq⟩⟩
  · rw [eq]
    exact held
  · rw [eq]
    exact held
  · rw [eq]
    refine Indexer.holds_delete.mpr ⟨fun same => ?_, held⟩
    -- The index has one pod per namespace and name, and the dropped one is not active.
    rw [Indexer.eq_of_holds held earliest.held same, inactive] at active
    cases active

theorem activePodsHeld_cleanup {ops : List Op} (h : ActivePodsHeld X ops) (now : Time)
    (o : VisitOrder UID) :
    ActivePodsHeld X (ops ++ [.cleanup now o]) ↔ Harmless X ops (.cleanup now o) := by
  unfold ActivePodsHeld Harmless Reported
  simp only [latestOf_cleanup, after_cleanup, cleanup_eq, holds_removed]
  constructor
  · intro held entry mem pod reported active
    exact (held pod reported active).2 entry mem
  · intro harmless pod reported active
    exact ⟨h pod reported active, fun entry mem => harmless entry mem pod reported active⟩

/-- In all states of a run the index holds every active pod exactly if no notification gives
    an active pod's namespace and name to another pod and no cleanup pass removes a deleted pod
    that had them. -/
theorem active_pods_held_iff (ops : List Op) :
    (∀ before rest, ops = before ++ rest → ActivePodsHeld X before) ↔
      ∀ before op rest, ops = before ++ op :: rest → Harmless X before op := by
  refine always_iff ?_ ?_ ops
  · rintro pod ⟨n, eq, _⟩
    cases eq
  · intro before op held
    cases op with
    | notify n => exact activePodsHeld_notify held n
    | get key o => exact ⟨fun _ => trivial, fun _ => activePodsHeld_get held key o⟩
    | cleanup now o => exact activePodsHeld_cleanup held now o

def deletedPod : Pod := samplePod "p1" "a" .running (some 0)

def recreatedPod : Pod := samplePod "p1" "b" .running none

def recreation : List Op :=
  [.notify (.add (samplePod "p1" "a" .running none)), .notify (.delete (.pod deletedPod)),
    .notify (.add recreatedPod)]

theorem cleanup_evicts_recreated_pod :
    Reported (recreation ++ [.cleanup (3 * minute) (.first "a")]) recreatedPod ∧
    recreatedPod.active = true ∧
    (after .documented (recreation ++ [.cleanup (3 * minute) (.first "a")])).indexer.pods.lookup
      recreatedPod.key = none := by
  have registered : (after .documented recreation).deletedPods.lookup "a" = some deletedPod := by
    decide +kernel
  have expired : (after .documented recreation).timedOut (3 * minute) deletedPod = true := by
    decide +kernel
  refine ⟨⟨.add recreatedPod, ?_, rfl⟩, rfl, ?_⟩
  · rw [latestOf_cleanup]
    rfl
  · rw [after_cleanup]
    obtain ⟨rest, visits⟩ := visited_first registered
    have mem : ("a", deletedPod) ∈
        (after .documented recreation).swept (3 * minute) (.first "a") := by
      rw [PodByIPCache.swept, visits, List.takeWhile_cons, if_pos expired]
      exact List.mem_cons_self
    have gone := lookup_cleanup_of_swept mem
    exact gone

/-- Every pod in the index exists or is registered for removal. -/
def NoLeak (X : PodIndexer) (ops : List Op) : Prop :=
  ∀ pod, (after X ops).indexer.Holds pod →
    Existing ops pod ∨ ((after X ops).deletedPods.lookup pod.uid).isSome

/-- A pod whose deletion comes as its last known state is not in the index or is registered
    already, and a cleanup pass removes a deleted pod from the index along with its
    registration. -/
def KeepsTrack (X : PodIndexer) (ops : List Op) : Op → Prop
  | .notify (.delete (.deletedFinalStateUnknown _ obj)) => ∀ pod, (after X ops).indexer.Holds pod →
      pod.uid = obj.uid → ((after X ops).deletedPods.lookup pod.uid).isSome
  | .cleanup now o => ∀ entry ∈ (after X ops).swept now o, ∀ pod, (after X ops).indexer.Holds pod →
      pod.uid = entry.1 → ¬ Existing ops pod →
        ∃ removed ∈ (after X ops).swept now o, pod.key = removed.2.key
  | _ => True

theorem noLeak_addOrUpdate {ops : List Op} (h : NoLeak X ops) {n : Notification} {new : Pod}
    (current : n.current = some new) : NoLeak X (ops ++ [.notify n]) := by
  intro pod held
  rw [after_notify, notify_of_current current] at held ⊢
  rw [existing_notify, Notification.subject_of_current current, current]
  by_cases same : new.uid = pod.uid
  · rw [if_pos same]
    exact .inl (by simp)
  · rw [if_neg same]
    rcases Indexer.holds_add.mp held with rfl | ⟨_, held⟩
    · exact absurd rfl same
    · exact h pod held

theorem noLeak_delete {ops : List Op} (h : NoLeak X ops) (obj : Pod) :
    NoLeak X (ops ++ [.notify (.delete (.pod obj))]) := by
  intro pod held
  rw [after_notify] at held ⊢
  simp only [existing_delete, PodByIPCache.notify, PodByIPCache.onDelete, lookup_insert_ite]
  by_cases same : obj.uid = pod.uid
  · rw [if_pos same.symm]
    exact .inr rfl
  · rw [if_neg (Ne.symm same)]
    exact (h pod held).imp_left (fun existing => ⟨same, existing⟩)

theorem noLeak_tombstone {ops : List Op} (h : NoLeak X ops) (key : PodKey) (obj : Pod) :
    NoLeak X (ops ++ [.notify (.delete (.deletedFinalStateUnknown key obj))]) ↔
      KeepsTrack X ops (.notify (.delete (.deletedFinalStateUnknown key obj))) := by
  unfold NoLeak KeepsTrack
  rw [after_notify, notify_tombstone]
  simp only [existing_delete]
  constructor
  · intro kept pod held same
    rcases kept pod held with ⟨other, _⟩ | registered
    · exact absurd same.symm other
    · exact registered
  · intro tracked pod held
    by_cases same : obj.uid = pod.uid
    · exact .inr (tracked pod held same.symm)
    · exact (h pod held).imp_left (fun existing => ⟨same, existing⟩)

theorem noLeak_get {ops : List Op} (h : NoLeak X ops) (key : String) (o : VisitOrder PodKey) :
    NoLeak X (ops ++ [.get key o]) := by
  intro pod held
  rw [after_get] at held ⊢
  unfold Existing
  rw [latestOf_get]
  rcases get_cases (after X ops) o key with ⟨_, eq⟩ | ⟨q, _, ⟨_, eq⟩ | ⟨_, eq⟩⟩
  · rw [eq] at held ⊢
    exact h pod held
  · rw [eq] at held ⊢
    exact h pod held
  · rw [eq] at held ⊢
    refine (h pod (Indexer.holds_delete.mp held).2).imp id (fun registered => ?_)
    simp only [lookup_insert_ite]
    split
    · rfl
    · exact registered

theorem noLeak_cleanup {ops : List Op} (h : NoLeak X ops) (now : Time) (o : VisitOrder UID) :
    NoLeak X (ops ++ [.cleanup now o]) ↔ KeepsTrack X ops (.cleanup now o) := by
  unfold NoLeak KeepsTrack Existing
  simp only [after_cleanup, latestOf_cleanup, cleanup_eq, holds_removed, deletedPods_removed]
  constructor
  · rintro kept entry mem pod held same gone
    by_contra survives
    push Not at survives
    rcases kept pod ⟨held, survives⟩ with existing | registered
    · exact gone existing
    · have swept : pod.uid ∈ ((after X ops).swept now o).map Prod.fst := by
        rw [same]
        exact List.mem_map_of_mem mem
      rw [if_pos swept] at registered
      cases registered
  · rintro tracked pod ⟨held, survives⟩
    rcases h pod held with existing | registered
    · exact .inl existing
    · by_cases swept : pod.uid ∈ ((after X ops).swept now o).map Prod.fst
      · obtain ⟨entry, mem, same⟩ := List.mem_map.mp swept
        by_contra gone
        rw [not_or] at gone
        obtain ⟨removed, memr, key⟩ := tracked entry mem pod held same.symm gone.1
        exact survives removed memr key
      · rw [if_neg swept]
        exact .inr registered

/-- In all states of a run every pod in the index exists or is registered for removal exactly
    if no deletion comes as a last known state for a pod that is in the index unregistered, and
    no cleanup pass drops the registration of a deleted pod that it leaves in the index. -/
theorem no_leak_iff (ops : List Op) :
    (∀ before rest, ops = before ++ rest → NoLeak X before) ↔
      ∀ before op rest, ops = before ++ op :: rest → KeepsTrack X before op := by
  refine always_iff ?_ ?_ ops
  · intro pod held
    exact absurd held (Indexer.not_holds_empty pod)
  · intro before op kept
    cases op with
    | notify n =>
      match n with
      | .add obj => exact ⟨fun _ => trivial, fun _ => noLeak_addOrUpdate kept rfl⟩
      | .update oldObj newObj => exact ⟨fun _ => trivial, fun _ => noLeak_addOrUpdate kept rfl⟩
      | .delete (.pod obj) => exact ⟨fun _ => trivial, fun _ => noLeak_delete kept obj⟩
      | .delete (.deletedFinalStateUnknown key obj) => exact noLeak_tombstone kept key obj
    | get key o => exact ⟨fun _ => trivial, fun _ => noLeak_get kept key o⟩
    | cleanup now o => exact noLeak_cleanup kept now o

theorem tombstone_leaks_pod :
    (after .documented [.notify (.add recreatedPod),
      .notify (.delete (.deletedFinalStateUnknown recreatedPod.key recreatedPod))]).indexer.Holds
        recreatedPod ∧
    ¬ Existing [.notify (.add recreatedPod),
      .notify (.delete (.deletedFinalStateUnknown recreatedPod.key recreatedPod))] recreatedPod ∧
    (after .documented [.notify (.add recreatedPod),
      .notify (.delete (.deletedFinalStateUnknown recreatedPod.key recreatedPod))]).deletedPods.lookup
        recreatedPod.uid = none := by
  refine ⟨Indexer.holds_add.mpr (.inl rfl), ?_, rfl⟩
  rintro ⟨n, latest, current⟩
  cases latest
  exact current rfl

end Egressd.PodIndexRuns
