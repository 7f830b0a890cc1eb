import Egressd.FiniteMap
import Egressd.GoRuntime

set_option autoImplicit false

namespace Egressd.Kube

inductive PodPhase where
  | pending
  | running
  | succeeded
  | failed
  | unknown
  deriving DecidableEq, Repr

abbrev UID := String

/-- The namespace and the name of a pod, the key of `MetaNamespaceKeyFunc`. -/
abbrev PodKey := String × String

structure Pod where
  ns : String
  name : String
  uid : UID
  creationTimestamp : Time
  deletionTimestamp : Option Time
  nodeName : String
  hostNetwork : Bool
  podIP : String
  phase : PodPhase
  deriving DecidableEq, Repr

def Pod.key (pod : Pod) : PodKey := (pod.ns, pod.name)

def samplePod (name : String) (uid : UID) (phase : PodPhase) (deleted : Option Time) : Pod :=
  ⟨"team1", name, uid, 0, deleted, "n1", false, "10.14.7.12", phase⟩

def Pod.active (pod : Pod) : Bool := pod.phase = .pending || pod.phase = .running

inductive NodeAddressType where
  | hostName
  | internalIP
  | externalIP
  | internalDNS
  | externalDNS
  deriving DecidableEq, Repr

structure NodeAddress where
  type : NodeAddressType
  address : String
  deriving DecidableEq, Repr

structure Node where
  name : String
  labels : List (String × String)
  addresses : List NodeAddress
  deriving DecidableEq, Repr

/-- The errors of the caches, as `errors.Is` tells them apart. -/
inductive KubeError where
  | notFound
  | tooManyObjects
  | other (text : String)
  deriving DecidableEq, Repr

def KubeError.text : KubeError → String
  | .notFound => "object not found"
  | .tooManyObjects => "too many objects"
  | .other text => text

/-- The indexers of `client-go` for pods with an index of their addresses. One pod is stored for
    each namespace and name, and an index set is listed in some order. -/
structure PodIndexer where
  Store : Type
  pods : Store → Finmap (fun _ : PodKey => Pod)
  new : Store
  add : Store → Pod → Store
  delete : Store → Pod → Store
  byIndex : Store → Finmap.VisitOrder PodKey → String → List Pod
  keyed : ∀ s key pod, (pods s).lookup key = some pod → pod.key = key
  pods_new : pods new = ∅
  pods_add : ∀ s pod, pods (add s pod) = (pods s).insert pod.key pod
  pods_delete : ∀ s pod, pods (delete s pod) = (pods s).erase pod.key
  byIndex_eq : ∀ s o ip, byIndex s o ip =
    (((pods s).filter (fun _ pod => pod.podIP = ip)).visited o).map Prod.snd

structure Indexer (X : PodIndexer) where
  store : X.Store

variable {X : PodIndexer}

def Indexer.pods (i : Indexer X) : Finmap (fun _ : PodKey => Pod) := X.pods i.store

def Indexer.empty : Indexer X := ⟨X.new⟩

def Indexer.add (i : Indexer X) (pod : Pod) : Indexer X := ⟨X.add i.store pod⟩

def Indexer.delete (i : Indexer X) (pod : Pod) : Indexer X := ⟨X.delete i.store pod⟩

def Indexer.byIndex (i : Indexer X) (o : Finmap.VisitOrder PodKey) (ip : String) : List Pod :=
  X.byIndex i.store o ip

structure KeyedPods where
  pods : Finmap (fun _ : PodKey => Pod)
  keyed : ∀ key pod, pods.lookup key = some pod → pod.key = key

def PodIndexer.documented : PodIndexer where
  Store := KeyedPods
  pods := KeyedPods.pods
  new := ⟨∅, fun key pod h => by
    rw [Finmap.lookup_empty] at h
    cases h⟩
  add s pod := ⟨s.pods.insert pod.key pod, by
    intro key q h
    rw [Finmap.lookup_insert_ite] at h
    split at h
    · rename_i same
      cases h
      exact same.symm
    · exact s.keyed key q h⟩
  delete s pod := ⟨s.pods.erase pod.key, by
    intro key q h
    rw [Finmap.lookup_erase_ite] at h
    split at h
    · cases h
    · exact s.keyed key q h⟩
  byIndex s o ip := ((s.pods.filter (fun _ pod => pod.podIP = ip)).visited o).map Prod.snd
  keyed s := s.keyed
  pods_new := rfl
  pods_add _ _ := rfl
  pods_delete _ _ := rfl
  byIndex_eq s o ip := by with_reducible rfl

def Indexer.Holds (i : Indexer X) (pod : Pod) : Prop := i.pods.lookup pod.key = some pod

theorem Indexer.holds_of_lookup {i : Indexer X} {key : PodKey} {pod : Pod}
    (h : i.pods.lookup key = some pod) : i.Holds pod := by
  rw [Holds, X.keyed i.store key pod h]
  exact h

theorem Indexer.eq_of_holds {i : Indexer X} {p q : Pod} (hp : i.Holds p) (hq : i.Holds q)
    (same : p.key = q.key) : p = q := by
  unfold Holds at hp hq
  rw [same, hq, Option.some.injEq] at hp
  exact hp.symm

theorem Indexer.not_holds_empty (pod : Pod) : ¬ (Indexer.empty (X := X)).Holds pod := by
  intro h
  change (X.pods X.new).lookup pod.key = some pod at h
  rw [X.pods_new, Finmap.lookup_empty] at h
  cases h

theorem Indexer.holds_add {i : Indexer X} {pod q : Pod} :
    (i.add pod).Holds q ↔ q = pod ∨ q.key ≠ pod.key ∧ i.Holds q := by
  change (X.pods (X.add i.store pod)).lookup q.key = some q ↔ _
  rw [X.pods_add, Finmap.lookup_insert_ite]
  by_cases same : q.key = pod.key
  · rw [if_pos same, Option.some.injEq]
    simp only [same, ne_eq, not_true_eq_false, false_and, or_false, eq_comm]
  · rw [if_neg same]
    constructor
    · exact fun h => .inr ⟨same, h⟩
    · rintro (rfl | ⟨_, h⟩)
      · exact absurd rfl same
      · exact h

theorem Indexer.holds_delete {i : Indexer X} {pod q : Pod} :
    (i.delete pod).Holds q ↔ q.key ≠ pod.key ∧ i.Holds q := by
  change (X.pods (X.delete i.store pod)).lookup q.key = some q ↔ _
  rw [X.pods_delete, Finmap.lookup_erase_ite]
  by_cases same : q.key = pod.key
  · simp [same]
  · simp [same, Holds, pods]

theorem Indexer.mem_byIndex {i : Indexer X} {o : Finmap.VisitOrder PodKey} {ip : String} {pod : Pod} :
    pod ∈ i.byIndex o ip ↔ i.Holds pod ∧ pod.podIP = ip := by
  simp only [byIndex, X.byIndex_eq, List.mem_map]
  constructor
  · rintro ⟨⟨key, q⟩, mem, rfl⟩
    rw [Finmap.mem_visited, Finmap.lookup_filter, Option.filter_eq_some_iff] at mem
    exact ⟨holds_of_lookup mem.1, by simpa using mem.2⟩
  · rintro ⟨held, ip⟩
    refine ⟨(pod.key, pod), ?_, rfl⟩
    rw [Finmap.mem_visited, Finmap.lookup_filter, Option.filter_eq_some_iff]
    exact ⟨held, by simpa using ip⟩

/-- An informer delivers the last known state of a pod instead of the pod if it missed the
    event of its deletion. -/
inductive DeletedObject where
  | pod (obj : Pod)
  | deletedFinalStateUnknown (key : PodKey) (obj : Pod)

def DeletedObject.lastState : DeletedObject → Pod
  | .pod obj => obj
  | .deletedFinalStateUnknown _ obj => obj

inductive Notification where
  | add (obj : Pod)
  | update (oldObj newObj : Pod)
  | delete (obj : DeletedObject)

def Notification.subject : Notification → Pod
  | .add obj => obj
  | .update _ newObj => newObj
  | .delete obj => obj.lastState

def Notification.current : Notification → Option Pod
  | .add obj => some obj
  | .update _ newObj => some newObj
  | .delete _ => none

theorem Notification.subject_of_current {n : Notification} {pod : Pod} (h : n.current = some pod) :
    n.subject = pod := by
  cases n with
  | add obj => exact Option.some.inj h
  | update oldObj newObj => exact Option.some.inj h
  | delete obj => cases h

end Egressd.Kube
