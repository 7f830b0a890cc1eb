import Egressd.ExporterResults
import Egressd.NodeCaches
import Egressd.PodByIPCache

set_option autoImplicit false

namespace Egressd.Exporter
open Kube CollectorModel Histories Finmap

/-- The `kubeWatcher` of the exporter. The index visits its pods anew for each lookup; the
    number of lookups is part of the state. -/
def podWatcher {X : PodIndexer} (nodes : NodeStore) (orders : ℕ → VisitOrder PodKey) :
    KubeWatcher (PodByIPCache X × ℕ) where
  getPodByIP s ip :=
    let found := s.1.get (orders s.2) ip
    (found.1, found.2, s.2 + 1)
  getNodeByName := nodes.getNodeByName
  getNodeByIP := nodes.getNodeByIP

/-- The pod that a raw metric is attributed to, none if the metric is skipped. -/
def attribution (r : Except BuildError PodNetworkMetric) : Option (String × String) :=
  r.toOption.map (fun m => (m.srcPod, m.srcNamespace))

theorem isOk_nodeInfo {found : Except KubeError Node} :
    (nodeInfo found).isOk = true ↔ Settled found := by
  match found with
  | .ok node => exact iff_of_true rfl (.inr ⟨node, rfl⟩)
  | .error .notFound => exact iff_of_true rfl (.inl rfl)
  | .error .tooManyObjects =>
    refine iff_of_false Bool.false_ne_true ?_
    rintro (h | ⟨_, h⟩) <;> cases h
  | .error (.other text) =>
    refine iff_of_false Bool.false_ne_true ?_
    rintro (h | ⟨_, h⟩) <;> cases h

theorem isOk_iff {ε α : Type} {r : Except ε α} : r.isOk = true ↔ ∃ a, r = .ok a := by
  cases r with
  | ok a => exact iff_of_true rfl ⟨a, rfl⟩
  | error err =>
    refine iff_of_false Bool.false_ne_true ?_
    rintro ⟨a, h⟩
    cases h

theorem exists_nodeInfo {found : Except KubeError Node} (settled : Settled found) :
    ∃ info, nodeInfo found = .ok info :=
  isOk_iff.mp (isOk_nodeInfo.mpr settled)

theorem isOk_map {ε α β : Type} (f : α → β) (r : Except ε α) : (r.map f).isOk = r.isOk := by
  cases r <;> rfl

section Build

variable {σ : Type} {N : Netaddr} {W : KubeWatcher σ} {s s' : σ} {conn : PbRawNetworkMetric}

theorem attribution_of_error (lookup : Int32 → Bytes) {err : KubeError}
    (src : W.getPodByIP s (dotted (ipFromInt32 conn.srcIp)) = (.error err, s')) :
    attribution (buildPodNetworkMetric N W lookup s conn).1 = none := by
  rcases build_cases N W s conn with ⟨_, _, build⟩ | ⟨pod, _, found, _⟩
  · rw [build lookup]
    rfl
  · rw [src] at found
    cases found

theorem build_of_source (lookup : Int32 → Bytes) {pod : Pod} {info : String × String}
    (src : W.getPodByIP s (dotted (ipFromInt32 conn.srcIp)) = (.ok pod, s'))
    (node : nodeInfo (W.getNodeByName pod.nodeName) = .ok info) :
    (buildPodNetworkMetric N W lookup s conn).1 =
      if N.isPrivate (.v4 (ipFromInt32 conn.dstIp)) then
        (W.destination s' (dotted (ipFromInt32 conn.dstIp))).1.map
          (fun dst => podMetric N conn pod info.2 dst [])
      else .ok (podMetric N conn pod info.2 ⟨"", "", "", ""⟩ (lookup conn.dstIp)) := by
  rcases build_cases N W s conn with ⟨_, fails, _⟩ | ⟨q, info', found, node', build⟩
  · have ok := fails pod (by rw [src])
    rw [node] at ok
    cases ok
  · rw [build lookup, src]
    rw [src] at found
    cases found
    rw [node] at node'
    cases node'
    split <;> rfl

theorem attribution_of_ok (lookup : Int32 → Bytes) {pod : Pod}
    (src : W.getPodByIP s (dotted (ipFromInt32 conn.srcIp)) = (.ok pod, s'))
    (node : Settled (W.getNodeByName pod.nodeName)) :
    attribution (buildPodNetworkMetric N W lookup s conn).1 =
      if N.isPrivate (.v4 (ipFromInt32 conn.dstIp)) = true ∧
          (W.destination s' (dotted (ipFromInt32 conn.dstIp))).1.isOk = false then none
      else some (pod.name, pod.ns) := by
  obtain ⟨info, node⟩ := exists_nodeInfo node
  rw [build_of_source lookup src node]
  cases N.isPrivate (.v4 (ipFromInt32 conn.dstIp)) with
  | false => rfl
  | true =>
    cases (W.destination s' (dotted (ipFromInt32 conn.dstIp))).1 with
    | ok dst => rfl
    | error err => rfl

theorem watcher_of_not_private (lookup : Int32 → Bytes)
    (notPrivate : N.isPrivate (.v4 (ipFromInt32 conn.dstIp)) = false) :
    (buildPodNetworkMetric N W lookup s conn).2 =
      (W.getPodByIP s (dotted (ipFromInt32 conn.srcIp))).2 := by
  rcases build_cases N W s conn with ⟨_, _, build⟩ | ⟨_, _, _, _, build⟩
  · rw [build lookup]
  · rw [build lookup, notPrivate]
    rfl

end Build

section Watcher

variable {N : Netaddr} {nodes : NodeStore} {orders : ℕ → VisitOrder PodKey} {X : PodIndexer}
  {c : PodByIPCache X} {k : ℕ}

theorem destination_of_get {ip : String} {q : Pod} (found : (c.get (orders k) ip).1 = .ok q) :
    ((podWatcher nodes orders).destination (c, k) ip).1 =
      (nodeInfo (nodes.getNodeByName q.nodeName)).map
        (fun info => ⟨q.name, q.ns, info.1, info.2⟩) := by
  have answer : (podWatcher nodes orders).getPodByIP (c, k) ip =
      (.ok q, (c.get (orders k) ip).2, k + 1) := Prod.ext found rfl
  unfold KubeWatcher.destination
  rw [answer]
  rfl

theorem destination_of_no_pod {ip : String} (empty : ∀ q, c.indexer.Holds q → q.podIP ≠ ip) :
    ((podWatcher nodes orders).destination (c, k) ip).1 =
      (nodeInfo (nodes.getNodeByIP ip)).map (fun info => ⟨"", "", info.1, info.2⟩) := by
  have answer : (podWatcher nodes orders).getPodByIP (c, k) ip =
      ((c.get (orders k) ip).1, (c.get (orders k) ip).2, k + 1) := rfl
  rcases get_cases c (orders k) ip with ⟨_, get⟩ | ⟨q, earliest, _⟩
  · unfold KubeWatcher.destination
    rw [answer, get]
    rfl
  · exact absurd earliest.address (empty q earliest.held)

theorem isOk_destination (ip : String) :
    ((podWatcher nodes orders).destination (c, k) ip).1.isOk = false ↔
      (∀ q, c.indexer.Holds q → q.podIP ≠ ip) ∧ 1 < (nodes.byIndex nodeIPIdx ip).length := by
  by_cases empty : ∀ q, c.indexer.Holds q → q.podIP ≠ ip
  · rw [destination_of_no_pod empty, isOk_map, ← Bool.not_eq_true, isOk_nodeInfo,
      NodeStore.getNodeByIP, settled_singleNode_iff, not_le]
    exact (and_iff_right empty).symm
  · refine iff_of_false ?_ (fun both => empty both.1)
    push Not at empty
    obtain ⟨pod, held, address⟩ := empty
    obtain ⟨q, found⟩ := exists_get held address (orders k)
    rw [destination_of_get found, isOk_map, Bool.not_eq_false, isOk_nodeInfo]
    exact settled_getNodeByName nodes q.nodeName

def source {X : PodIndexer} (c : PodByIPCache X) (o : VisitOrder PodKey) (x : IPv4) :
    Option (String × String) :=
  (c.get o (dotted x)).1.toOption.map (fun pod => (pod.name, pod.ns))

def rawMetric (x y : IPv4) : PbRawNetworkMetric := ⟨x.int32, y.int32, 0, 0, 0, 0, 6⟩

@[simp]
theorem srcIp_rawMetric (x y : IPv4) : ipFromInt32 (rawMetric x y).srcIp = x := ipFromInt32_int32 x

@[simp]
theorem dstIp_rawMetric (x y : IPv4) : ipFromInt32 (rawMetric x y).dstIp = y := ipFromInt32_int32 y

theorem attribution_podWatcher (lookup : Int32 → Bytes) (conn : PbRawNetworkMetric) :
    attribution (buildPodNetworkMetric N (podWatcher nodes orders) lookup (c, k) conn).1 =
      if N.isPrivate (.v4 (ipFromInt32 conn.dstIp)) = true ∧
          (((podWatcher nodes orders).destination
            ((c.get (orders k) (dotted (ipFromInt32 conn.srcIp))).2, k + 1)
            (dotted (ipFromInt32 conn.dstIp))).1).isOk = false then none
      else source c (orders k) (ipFromInt32 conn.srcIp) := by
  have lookup' : (podWatcher nodes orders).getPodByIP (c, k) (dotted (ipFromInt32 conn.srcIp)) =
      ((c.get (orders k) (dotted (ipFromInt32 conn.srcIp))).1,
        (c.get (orders k) (dotted (ipFromInt32 conn.srcIp))).2, k + 1) := rfl
  unfold source
  cases found : (c.get (orders k) (dotted (ipFromInt32 conn.srcIp))).1 with
  | error err =>
    rw [found] at lookup'
    rw [attribution_of_error lookup lookup']
    exact (ite_self _).symm
  | ok pod =>
    rw [found] at lookup'
    exact attribution_of_ok lookup lookup' (settled_getNodeByName nodes _)

theorem attribution_public (lookup : Int32 → Bytes) {x y : IPv4}
    (notPrivate : N.isPrivate (.v4 y) = false) :
    attribution (buildPodNetworkMetric N (podWatcher nodes orders) lookup (c, k) (rawMetric x y)).1 =
      source c (orders k) x := by
  rw [attribution_podWatcher, srcIp_rawMetric, dstIp_rawMetric, notPrivate]
  exact if_neg (fun both => Bool.false_ne_true both.1)

theorem watcher_public (lookup : Int32 → Bytes) {x y : IPv4}
    (notPrivate : N.isPrivate (.v4 y) = false) :
    (buildPodNetworkMetric N (podWatcher nodes orders) lookup (c, k) (rawMetric x y)).2 =
      ((c.get (orders k) (dotted x)).2, k + 1) := by
  rw [watcher_of_not_private lookup (by rw [dstIp_rawMetric, notPrivate]), srcIp_rawMetric]
  rfl

end Watcher

/-- All raw metrics with one source are attributed alike, whatever else is processed before
    them, and the order of the raw metrics does not matter. -/
structure AttributedAlike (G : GenericsCache) {X : PodIndexer} (N : Netaddr) (nodes : NodeStore)
    (c : PodByIPCache X) : Prop where
  alike : ∀ orders (d : DnsStorage G) now (raws : List PbRawNetworkMetric) raw r raw' r',
    (raw, r) ∈ raws.zip (itemResults N (podWatcher nodes orders) d (c, 0) (raws.map (·, now))) →
    (raw', r') ∈ raws.zip (itemResults N (podWatcher nodes orders) d (c, 0) (raws.map (·, now))) →
    raw.srcIp = raw'.srcIp → attribution r = attribution r'
  anyOrder : ∀ orders orders' (d : DnsStorage G) now (raws raws' : List PbRawNetworkMetric),
    raws.Perm raws' →
    (aggregateBatch N (podWatcher nodes orders) ⟨(c, 0), d, [], []⟩
      ⟨raws.map (·, now), []⟩).podsMetrics.Perm
    (aggregateBatch N (podWatcher nodes orders') ⟨(c, 0), d, [], []⟩
      ⟨raws'.map (·, now), []⟩).podsMetrics

/-- Each address has at most one earliest pod, which has not finished, and a private address
    without a pod that some pod may send to has at most one node. -/
structure Unambiguous {X : PodIndexer} (N : Netaddr) (nodes : NodeStore) (c : PodByIPCache X) :
    Prop where
  onePod : ∀ x p q, c.indexer.IsEarliest (dotted x) p → c.indexer.IsEarliest (dotted x) q → p = q
  active : ∀ x p, c.indexer.IsEarliest (dotted x) p → p.active = true
  oneNode : ∀ x p y, c.indexer.IsEarliest (dotted x) p → N.isPrivate (.v4 y) = true →
    (∀ q, c.indexer.Holds q → q.podIP ≠ dotted y) →
      (nodes.byIndex nodeIPIdx (dotted y)).length ≤ 1

section Sufficient

variable {G : GenericsCache} {N : Netaddr} {nodes : NodeStore} {X : PodIndexer}
  {c : PodByIPCache X}

theorem Unambiguous.get_eq (h : Unambiguous N nodes c) (o o' : VisitOrder PodKey) (x : IPv4) :
    c.get o (dotted x) = ((c.get o' (dotted x)).1, c) := by
  rcases get_cases c o (dotted x) with ⟨empty, get⟩ | ⟨p, earliest, ⟨_, get⟩ | ⟨finished, _⟩⟩
  · rcases get_cases c o' (dotted x) with ⟨_, get'⟩ | ⟨q, earliest', _⟩
    · rw [get, get']
    · exact absurd earliest'.address (empty q earliest'.held)
  · rcases get_cases c o' (dotted x) with ⟨empty, _⟩ | ⟨q, earliest', ⟨_, get'⟩ | ⟨finished, _⟩⟩
    · exact absurd earliest.address (empty p earliest.held)
    · rw [get, get', h.onePod x p q earliest earliest']
    · rw [h.active x q earliest'] at finished
      cases finished
  · rw [h.active x p earliest] at finished
    cases finished

theorem Unambiguous.steady (h : Unambiguous N nodes c) (orders : ℕ → VisitOrder PodKey)
    (o : VisitOrder PodKey) (k : ℕ) :
    (podWatcher nodes orders).Steady (c, k) (fun ip => (c.get o ip).1) := by
  intro before
  induction before generalizing k with
  | nil => exact fun x => congrArg Prod.fst (h.get_eq (orders k) o x)
  | cons y before ih =>
    rw [List.foldl_cons]
    have same : ((podWatcher nodes orders).getPodByIP (c, k) (dotted y)).2 = (c, k + 1) :=
      congrArg (·, k + 1) (congrArg Prod.snd (h.get_eq (orders k) o y))
    rw [same]
    exact ih (k + 1)

theorem Unambiguous.attribution_eq (h : Unambiguous N nodes c) (orders : ℕ → VisitOrder PodKey)
    (lookup : Int32 → Bytes) (conn : PbRawNetworkMetric) :
    attribution (buildPodNetworkMetric N (podWatcher nodes orders) lookup (c, 0) conn).1 =
      source c (orders 0) (ipFromInt32 conn.srcIp) := by
  rw [attribution_podWatcher, h.get_eq (orders 0) (orders 0)]
  split
  · rename_i fails
    obtain ⟨noPod, ambiguous⟩ := (isOk_destination _).mp fails.2
    rcases get_cases c (orders 0) (dotted (ipFromInt32 conn.srcIp)) with
      ⟨_, get⟩ | ⟨p, earliest, _⟩
    · rw [source, get]
      rfl
    · have single := h.oneNode _ p _ earliest fails.1 noPod
      exact absurd ambiguous (not_lt.mpr single)
  · rfl

theorem Unambiguous.itemResults_eq (h : Unambiguous N nodes c) (orders : ℕ → VisitOrder PodKey)
    (o : VisitOrder PodKey) (d : DnsStorage G) (now : Time) (raws : List PbRawNetworkMetric) :
    itemResults N (podWatcher nodes orders) d (c, 0) (raws.map (·, now)) =
      raws.map (fun raw => (buildPodNetworkMetric N
        ((podWatcher (X := X) nodes orders).frozen (fun ip => (c.get o ip).1)) (d.lookup now) ()
        raw).1) := by
  rw [itemResults_of_steady d (h.steady orders o 0), List.map_map]
  rfl

theorem attributedAlike_of_unambiguous (h : Unambiguous N nodes c) :
    AttributedAlike G N nodes c where
  alike orders d now raws raw r raw' r' mem mem' same := by
    have each : ∀ raw r, (raw, r) ∈ raws.zip
        (itemResults N (podWatcher nodes orders) d (c, 0) (raws.map (·, now))) →
        attribution r = source c (orders 0) (ipFromInt32 raw.srcIp) := by
      intro raw r mem
      rw [h.itemResults_eq orders (orders 0), ← List.map_prod_left_eq_zip] at mem
      obtain ⟨_, _, eq⟩ := List.mem_map.mp mem
      cases eq
      rw [← (build_of_steady (d.lookup now) raw (h.steady orders (orders 0) 0)).1]
      exact h.attribution_eq orders (d.lookup now) raw
    rw [each raw r mem, each raw' r' mem', same]
  anyOrder orders orders' d now raws raws' perm := by
    unfold aggregateBatch
    rw [podsMetrics_foldl, podsMetrics_foldl]
    change ((itemResults N (podWatcher nodes orders) d (c, 0) (raws.map (·, now))).filterMap
      Except.toOption).Perm ((itemResults N (podWatcher nodes orders') d (c, 0)
        (raws'.map (·, now))).filterMap Except.toOption)
    rw [h.itemResults_eq orders (orders 0), h.itemResults_eq orders' (orders 0)]
    exact (perm.map _).filterMap _

end Sufficient

section Necessary

variable {G : GenericsCache} {N : Netaddr} {nodes : NodeStore} {X : PodIndexer}
  {c : PodByIPCache X}

theorem not_private_unspecified (N : Netaddr) : N.isPrivate (.v4 .unspecified) = false := by
  rw [N.isPrivate_v4]
  decide

theorem source_eq_of_alike (h : AttributedAlike G N nodes c) (orders : ℕ → VisitOrder PodKey)
    (x y : IPv4) : source c (orders 0) x = attribution (buildPodNetworkMetric N
      (podWatcher nodes orders) ((DnsStorage.new G).lookup 0)
      ((c.get (orders 0) (dotted x)).2, 1) (rawMetric x y)).1 := by
  have outside := not_private_unspecified N
  rw [← attribution_public ((DnsStorage.new G).lookup 0) outside,
    ← watcher_public ((DnsStorage.new G).lookup 0) outside]
  exact h.alike orders (.new G) 0 [rawMetric x .unspecified, rawMetric x y] _ _ _ _
    List.mem_cons_self (List.mem_cons_of_mem _ List.mem_cons_self) rfl

theorem source_again_of_alike (h : AttributedAlike G N nodes c) (orders : ℕ → VisitOrder PodKey)
    (x : IPv4) :
    source c (orders 0) x = source (c.get (orders 0) (dotted x)).2 (orders 1) x := by
  rw [source_eq_of_alike h orders x .unspecified, attribution_public _ (not_private_unspecified N)]

theorem active_of_alike (h : AttributedAlike G N nodes c) (x : IPv4) (p : Pod)
    (earliest : c.indexer.IsEarliest (dotted x) p) : p.active = true := by
  rw [← Bool.not_eq_false]
  intro finished
  have again := source_again_of_alike h (fun _ => .first p.key) x
  have found := get_first earliest
  rcases get_cases c (.first p.key) (dotted x) with ⟨_, get⟩ | ⟨q, _, ⟨active, get⟩ | ⟨_, get⟩⟩
  · rw [get] at found
    cases found
  · rw [get] at found
    cases found
    rw [active] at finished
    cases finished
  · rw [get] at found
    cases found
    rw [source, get] at again
    -- The second lookup finds nothing or a pod with another namespace or name.
    rcases get_cases { c with
        indexer := c.indexer.delete p
        deletedPods := c.deletedPods.insert p.uid p } (.first p.key) (dotted x) with
      ⟨_, get'⟩ | ⟨q, earliest', ⟨_, get'⟩ | ⟨_, get'⟩⟩
    · rw [source, get'] at again
      cases again
    all_goals
      rw [source, get'] at again
      have other := (Indexer.holds_delete.mp earliest'.held).1
      simp only [Except.toOption, Option.map_some, Option.some.injEq, Prod.mk.injEq] at again
      exact other (Prod.ext again.2.symm again.1.symm)

theorem get_keeps_of_alike (h : AttributedAlike G N nodes c) (o : VisitOrder PodKey) (x : IPv4) :
    (c.get o (dotted x)).2 = c := by
  rcases get_cases c o (dotted x) with ⟨_, get⟩ | ⟨p, earliest, ⟨_, get⟩ | ⟨finished, _⟩⟩
  · rw [get]
  · rw [get]
  · rw [active_of_alike h x p earliest] at finished
    cases finished

theorem source_first {x : IPv4} {p : Pod} (earliest : c.indexer.IsEarliest (dotted x) p) :
    source c (.first p.key) x = some (p.name, p.ns) := by
  rw [source, get_first earliest]
  rfl

theorem onePod_of_alike (h : AttributedAlike G N nodes c) (x : IPv4) (p q : Pod)
    (earliest : c.indexer.IsEarliest (dotted x) p) (earliest' : c.indexer.IsEarliest (dotted x) q) :
    p = q := by
  have again := source_again_of_alike h
    (fun k => if k = 0 then .first p.key else .first q.key) x
  simp only [if_pos, one_ne_zero, if_false] at again
  rw [get_keeps_of_alike h, source_first earliest, source_first earliest', Option.some.injEq,
    Prod.mk.injEq] at again
  exact Indexer.eq_of_holds earliest.held earliest'.held (Prod.ext again.2 again.1)

theorem oneNode_of_alike (h : AttributedAlike G N nodes c) (x : IPv4) (p : Pod) (y : IPv4)
    (earliest : c.indexer.IsEarliest (dotted x) p) (hy : N.isPrivate (.v4 y) = true)
    (noPod : ∀ q, c.indexer.Holds q → q.podIP ≠ dotted y) :
    (nodes.byIndex nodeIPIdx (dotted y)).length ≤ 1 := by
  rw [← not_lt]
  intro ambiguous
  have skipped := source_eq_of_alike h (fun _ => .first p.key) x y
  rw [get_keeps_of_alike h, attribution_podWatcher, srcIp_rawMetric, dstIp_rawMetric,
    get_keeps_of_alike h, source_first earliest,
    if_pos ⟨hy, (isOk_destination _).mpr ⟨noPod, ambiguous⟩⟩] at skipped
  cases skipped

end Necessary

/-- The traffic of each source is attributed alike in every export exactly if no address that is
    looked up is ambiguous and no pod that is found has finished. -/
theorem attributed_alike_iff (G : GenericsCache) {X : PodIndexer} (N : Netaddr)
    (nodes : NodeStore) (c : PodByIPCache X) :
    AttributedAlike G N nodes c ↔ Unambiguous N nodes c := by
  constructor
  · exact fun h => ⟨onePod_of_alike h, active_of_alike h, oneNode_of_alike h⟩
  · exact attributedAlike_of_unambiguous

def finishedOnly : PodByIPCache .documented :=
  PodByIPCache.new.onAddOrUpdate (samplePod "p1" "a" .succeeded none)

theorem earliest_finishedOnly :
    finishedOnly.indexer.IsEarliest "10.14.7.12" (samplePod "p1" "a" .succeeded none) where
  held := Indexer.holds_add.mpr (.inl rfl)
  address := rfl
  first q held _ := by
    rcases Indexer.holds_add.mp held with rfl | ⟨_, held⟩
    · exact le_refl _
    · exact absurd held (Indexer.not_holds_empty q)

theorem get_finishedOnly (o : VisitOrder PodKey) :
    finishedOnly.get o "10.14.7.12" = (.ok (samplePod "p1" "a" .succeeded none),
      { finishedOnly with
        indexer := finishedOnly.indexer.delete (samplePod "p1" "a" .succeeded none)
        deletedPods := finishedOnly.deletedPods.insert "a" (samplePod "p1" "a" .succeeded none) }) := by
  rcases get_cases finishedOnly o "10.14.7.12" with ⟨empty, _⟩ | ⟨q, earliest, found⟩
  · exact absurd rfl (empty _ earliest_finishedOnly.held)
  · rcases Indexer.holds_add.mp earliest.held with rfl | ⟨_, held⟩
    · rcases found with ⟨active, _⟩ | ⟨_, get⟩
      · cases active
      · exact get
    · exact absurd held (Indexer.not_holds_empty q)

theorem finished_pod_attributed_once :
    let raw := rawMetric ⟨10, 14, 7, 12⟩ ⟨8, 8, 8, 8⟩
    (itemResults .documented (podWatcher (.listed [] List.nodup_nil) (fun _ => .first ("team1", "p1")))
      (.new .documented) (finishedOnly, 0) [(raw, 0), (raw, 0)]).map attribution =
    [some ("p1", "team1"), none] := by
  intro raw
  have outside : Netaddr.documented.isPrivate (.v4 ⟨8, 8, 8, 8⟩) = false := by decide
  have address : dotted ⟨10, 14, 7, 12⟩ = "10.14.7.12" := by decide
  rw [itemResults_cons, itemResults_cons, watcher_public _ outside, List.map_cons, List.map_cons,
    attribution_public _ outside, attribution_public _ outside, source, source, address,
    get_finishedOnly]
  rcases get_cases (finishedOnly.get (.first ("team1", "p1")) "10.14.7.12").2
      (.first ("team1", "p1")) "10.14.7.12" with ⟨_, get⟩ | ⟨q, earliest, _⟩
  · rw [get_finishedOnly] at get
    rw [get]
    rfl
  · have held := earliest.held
    rw [get_finishedOnly] at held
    obtain ⟨other, held⟩ := Indexer.holds_delete.mp held
    rcases Indexer.holds_add.mp held with rfl | ⟨_, held⟩
    · exact absurd rfl other
    · exact absurd held (Indexer.not_holds_empty q)

end Egressd.Exporter
