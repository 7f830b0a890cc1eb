import Egressd.ExporterDestination
import Egressd.ExporterRounds
import Egressd.PodIndexRuns

set_option autoImplicit false

namespace Egressd.PodProvenance
open Kube Finmap Histories PodIndexRuns PartialRuns Exporter CollectorModel

def versions (ops : List Op) : List Pod :=
  ops.filterMap (fun op => op.notification.bind (·.current))

def latestNamed (ops : List Op) (key : PodKey) : Option Pod := latest Pod.key (versions ops) key

theorem versions_append (ops ops' : List Op) :
    versions (ops ++ ops') = versions ops ++ versions ops' :=
  List.filterMap_append

theorem latestNamed_notify (ops : List Op) {n : Notification} {pod : Pod}
    (h : n.current = some pod) (key : PodKey) : latestNamed (ops ++ [.notify n]) key =
      if pod.key = key then some pod else latestNamed ops key := by
  have version : versions [.notify n] = [pod] := by
    simp [versions, Op.notification, h]
  rw [latestNamed, versions_append, version]
  exact latest_concat _ _ pod key

theorem latestNamed_silent (ops : List Op) {op : Op} (silent : op.notification.bind (·.current) = none)
    (key : PodKey) : latestNamed (ops ++ [op]) key = latestNamed ops key := by
  have none : versions [op] = [] := by
    simp [versions, silent]
  rw [latestNamed, versions_append, none, List.append_nil, latestNamed]

def Fresh (X : PodIndexer) (ops : List Op) : Prop :=
  ∀ pod, (after X ops).indexer.Holds pod → latestNamed ops pod.key = some pod

variable {X : PodIndexer}

theorem Fresh.silent {ops : List Op} {op : Op} (h : Fresh X ops)
    (silent : op.notification.bind (·.current) = none)
    (fewer : ∀ pod, (after X (ops ++ [op])).indexer.Holds pod → (after X ops).indexer.Holds pod) :
    Fresh X (ops ++ [op]) := by
  intro pod held
  rw [latestNamed_silent ops silent]
  exact h pod (fewer pod held)

theorem fresh_notify {ops : List Op} (h : Fresh X ops) (n : Notification) :
    Fresh X (ops ++ [.notify n]) := by
  cases current : n.current with
  | none =>
    refine h.silent current (fun pod held => ?_)
    cases n with
    | add obj => cases current
    | update oldObj newObj => cases current
    | delete obj =>
      rw [after_notify, indexer_notify_delete] at held
      exact held
  | some new =>
    intro pod held
    rw [after_notify, notify_of_current current, indexer_onAddOrUpdate, Indexer.holds_add] at held
    rw [latestNamed_notify ops current]
    rcases held with rfl | ⟨other, held⟩
    · rw [if_pos rfl]
    · rw [if_neg (Ne.symm other)]
      exact h pod held

theorem fresh_get {ops : List Op} (h : Fresh X ops) (key : String) (o : VisitOrder PodKey) :
    Fresh X (ops ++ [.get key o]) := by
  refine h.silent rfl (fun pod held => ?_)
  rw [after_get] at held
  rcases get_cases (after X ops) o key with ⟨_, get⟩ | ⟨q, _, ⟨_, get⟩ | ⟨_, get⟩⟩
  · rw [get] at held
    exact held
  · rw [get] at held
    exact held
  · rw [get] at held
    exact (Indexer.holds_delete.mp held).2

theorem fresh_cleanup {ops : List Op} (h : Fresh X ops) (now : Time) (o : VisitOrder UID) :
    Fresh X (ops ++ [.cleanup now o]) := by
  refine h.silent rfl (fun pod held => ?_)
  rw [after_cleanup, cleanup_eq, holds_removed] at held
  exact held.1

theorem fresh_after (X : PodIndexer) (ops : List Op) : Fresh X ops := by
  induction ops using List.reverseRecOn with
  | nil => exact fun pod held => absurd held (Indexer.not_holds_empty pod)
  | append_singleton ops op ih =>
    cases op with
    | notify n => exact fresh_notify ih n
    | get key o => exact fresh_get ih key o
    | cleanup now o => exact fresh_cleanup ih now o

section Exports

/-- The `kubeWatcher` of the exporter with what happens to the index before each lookup. The state
    is the history of the index and the number of lookups. -/
def notifiedWatcher (X : PodIndexer) (nodes : NodeStore) (between : ℕ → List Op)
    (orders : ℕ → VisitOrder PodKey) : KubeWatcher (List Op × ℕ) where
  getPodByIP s ip :=
    let ops := s.1 ++ between s.2
    (((after X ops).get (orders s.2) ip).1, ops ++ [.get ip (orders s.2)], s.2 + 1)
  getNodeByName := nodes.getNodeByName
  getNodeByIP := nodes.getNodeByIP

/-- What has happened to the index until the given lookup of an export, its own lookups apart. -/
def happened (ops : List Op) (between : ℕ → List Op) (k : ℕ) : List Op :=
  ops ++ (List.range k).flatMap between

variable {G : GenericsCache} {N : Netaddr} {nodes : NodeStore} {between : ℕ → List Op}
  {orders : ℕ → VisitOrder PodKey} {ops : List Op} {s : List Op × ℕ}

def Watched (ops : List Op) (between : ℕ → List Op) (s : List Op × ℕ) : Prop :=
  versions s.1 = versions (happened ops between s.2)

theorem versions_lookup (h : Watched ops between s) :
    versions (s.1 ++ between s.2) = versions (happened ops between (s.2 + 1)) := by
  rw [Watched, happened] at h
  rw [happened, List.range_succ, List.flatMap_append, List.flatMap_singleton, ← List.append_assoc,
    versions_append, versions_append, h]

theorem watched_lookup (X : PodIndexer) (nodes : NodeStore) (orders : ℕ → VisitOrder PodKey)
    (h : Watched ops between s) (ip : String) :
    Watched ops between ((notifiedWatcher X nodes between orders).getPodByIP s ip).2 := by
  change versions (s.1 ++ between s.2 ++ [.get ip (orders s.2)]) = _
  rw [versions_append, versions_lookup h]
  exact List.append_nil _

/-- The pod is the latest version that was reported under its name, and has the address. -/
def LatestVersion (ops : List Op) (pod : Pod) (ip : String) : Prop :=
  latestNamed ops pod.key = some pod ∧ pod.podIP = ip

theorem latestVersion_of_lookup (h : Watched ops between s) {ip : String} {pod : Pod}
    (found : ((notifiedWatcher X nodes between orders).getPodByIP s ip).1 = .ok pod) :
    LatestVersion (happened ops between (s.2 + 1)) pod ip := by
  have earliest := earliest_of_get found
  have latest := fresh_after X _ pod earliest.held
  rw [latestNamed, versions_lookup h] at latest
  exact ⟨latest, earliest.address⟩

theorem destination_state {σ : Type} (W : KubeWatcher σ) (s : σ) (ip : String) :
    (W.destination s ip).2 = (W.getPodByIP s ip).2 := by
  unfold KubeWatcher.destination
  rcases W.getPodByIP s ip with ⟨found, s'⟩
  cases found with
  | ok pod => rfl
  | error err => exact apply_ite Prod.snd _ _ _ |>.trans (ite_self _)

theorem watched_build (lookup : Int32 → Bytes) (conn : PbRawNetworkMetric)
    (h : Watched ops between s) :
    Watched ops between (buildPodNetworkMetric N (notifiedWatcher X nodes between orders) lookup s
      conn).2 := by
  have source := watched_lookup X nodes orders h (dotted (ipFromInt32 conn.srcIp))
  rcases build_cases N (notifiedWatcher X nodes between orders) s conn with
    ⟨err, _, build⟩ | ⟨pod, info, _, _, build⟩
  · rw [build lookup]
    exact source
  · rw [build lookup]
    split
    · rw [destination_state]
      exact watched_lookup X nodes orders source _
    · exact source

theorem destination_ok {σ : Type} {W : KubeWatcher σ} {s : σ} {ip : String} {dst : Destination}
    (h : (W.destination s ip).1 = .ok dst) : (dst.pod = "" ∧ dst.ns = "") ∨
      ∃ pod, (W.getPodByIP s ip).1 = .ok pod ∧ dst.pod = pod.name ∧ dst.ns = pod.ns := by
  unfold KubeWatcher.destination at h
  rcases lookup : W.getPodByIP s ip with ⟨found, s'⟩
  rw [lookup] at h
  cases found with
  | ok pod =>
    obtain ⟨info, _, eq⟩ := map_ok.mp h
    cases eq
    exact .inr ⟨pod, rfl, rfl, rfl⟩
  | error err =>
    simp only at h
    split at h
    · obtain ⟨info, _, eq⟩ := map_ok.mp h
      cases eq
      exact .inl ⟨rfl, rfl⟩
    · cases h

/-- Whatever the informer reports before and between the lookups of an export: the pod that a
    metric names as its source is the one that its own lookup has found, which was then the latest
    version under its name and had the source address; and a pod that it names as its destination
    likewise by its second lookup. -/
theorem exported_pods_were_current (N : Netaddr) (nodes : NodeStore) (between : ℕ → List Op)
    (orders : ℕ → VisitOrder PodKey) (ops : List Op) (pulled : List Pulled) (d : DnsStorage G)
    {m : PodNetworkMetric}
    (mem : m ∈ ((RoundEvent.round ⟨notifiedWatcher X nodes between orders, (ops, 0), pulled⟩).run
      N d).1) :
    ∃ ps p qs, pulled = ps ++ p :: qs ∧ ∃ is item js, p.items = is ++ item :: js ∧
      ∃ s, s = (reached N (notifiedWatcher X nodes between orders) ⟨(ops, 0), d, [], []⟩ ps p is).watcher ∧
      ∃ pod srcZone dst name, m = podMetric N item.1 pod srcZone dst name ∧
      ((notifiedWatcher X nodes between orders).getPodByIP s m.srcIp).1 = .ok pod ∧
      LatestVersion (happened ops between (s.2 + 1)) pod m.srcIp ∧
      (dst.pod = "" ∧ dst.ns = "" ∨ ∃ pod',
        ((notifiedWatcher X nodes between orders).getPodByIP
          ((notifiedWatcher X nodes between orders).getPodByIP s m.srcIp).2 m.dstIp).1 = .ok pod' ∧
        LatestVersion (happened ops between (s.2 + 2)) pod' m.dstIp ∧
          dst.pod = pod'.name ∧ dst.ns = pod'.ns) := by
  have start : Watched ops between (ops, 0) := by
    rw [Watched, happened, List.range_zero, List.flatMap_nil, List.append_nil]
  rcases exists_item_of_mem (a := ⟨(ops, 0), d, [], []⟩) mem with
    none | ⟨ps, p, qs, split, is, item, js, items, built⟩
  · cases none
  · refine ⟨ps, p, qs, split, is, item, js, items, _, rfl, ?_⟩
    have watched := kept_reached (N := N) (W := notifiedWatcher X nodes between orders)
      (fun _ lookup conn h => watched_build lookup conn h) (a := ⟨(ops, 0), d, [], []⟩) start ps p is
    generalize (reached N (notifiedWatcher X nodes between orders) ⟨(ops, 0), d, [], []⟩ ps p
      is).watcher = s at built watched
    rcases build_cases N (notifiedWatcher X nodes between orders) s item.1 with
      ⟨err, _, build⟩ | ⟨pod, info, source, _, build⟩
    · rw [build] at built
      cases built
    · have src := latestVersion_of_lookup watched source
      rw [build] at built
      split at built
      · obtain ⟨dst, found, eq⟩ := map_ok.mp built
        cases eq
        refine ⟨pod, info.2, dst, [], rfl, ?_⟩
        rw [srcIp_podMetric, dstIp_podMetric]
        refine ⟨source, src, (destination_ok found).imp id ?_⟩
        rintro ⟨pod', lookup, named⟩
        exact ⟨pod', lookup,
          latestVersion_of_lookup (watched_lookup X nodes orders watched _) lookup, named⟩
      · cases built
        refine ⟨pod, info.2, _, _, rfl, ?_⟩
        rw [srcIp_podMetric]
        exact ⟨source, src, .inl ⟨rfl, rfl⟩⟩

theorem exported_pods_were_current_late_add :
    let between : ℕ → List Op := fun _ => [.notify (.add (samplePod "p1" "a" .running none))]
    outgoingMetric [] ∈ ((RoundEvent.round
        ⟨notifiedWatcher .documented (.listed [] List.nodup_nil) between
          (fun _ => .first ("", "")), ([], 0), [⟨[(outgoing, 0)], []⟩]⟩).run
        .documented (.new .documented)).1 ∧
    LatestVersion (happened [] between 1) (samplePod "p1" "a" .running none)
      (outgoingMetric []).srcIp := by
  intro between
  let W := notifiedWatcher .documented (.listed [] List.nodup_nil) between (fun _ => .first ("", ""))
  have found : (W.getPodByIP ([], 0) (dotted (ipFromInt32 outgoing.srcIp))).1 =
      .ok (samplePod "p1" "a" .running none) := source_onePod _ ⟨8, 8, 8, 8⟩
  have built : ∃ s, buildPodNetworkMetric .documented W (DnsStorage.lookup (.new .documented) 0)
      ([], 0) outgoing = (.ok (outgoingMetric []), s) := by
    rcases build_cases .documented W ([], 0) outgoing with
      ⟨_, failed, _⟩ | ⟨pod, info, source, node, build⟩
    · exact absurd (failed _ found) (by decide)
    · rw [found] at source
      cases source
      cases node
      exact ⟨_, build _⟩
  have mem : outgoingMetric [] ∈ ((RoundEvent.round ⟨W, ([], 0), [⟨[(outgoing, 0)], []⟩]⟩).run
      .documented (.new .documented)).1 := by
    obtain ⟨s, built⟩ := built
    change _ ∈ (aggregateItem .documented W ⟨([], 0), .new .documented, [], []⟩ (outgoing, 0)).podsMetrics
    rw [aggregateItem, built]
    exact List.mem_cons_self
  obtain ⟨ps, p, qs, split, is, item, js, items, s, reached, pod, _, _, _, _, source, latest, _⟩ :=
    exported_pods_were_current .documented _ between _ [] [⟨[(outgoing, 0)], []⟩] (.new .documented) mem
  rcases List.singleton_eq_append_iff.mp split with ⟨rfl, only⟩ | ⟨_, none⟩
  · cases only
    rcases List.singleton_eq_append_iff.mp items with ⟨rfl, _⟩ | ⟨_, none⟩
    · have start : s = ([], 0) := reached
      have address : (outgoingMetric []).srcIp = dotted (ipFromInt32 outgoing.srcIp) :=
        srcIp_podMetric ..
      rw [start, address, found] at source
      cases source
      rw [start] at latest
      exact ⟨mem, latest⟩
    · cases none
  · cases none

end Exports

end Egressd.PodProvenance
