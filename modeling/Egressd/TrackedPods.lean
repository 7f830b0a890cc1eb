import Egressd.CollectorRuns
import Egressd.InPlaceFilter
import Egressd.RunningPodsCache

set_option autoImplicit false

namespace Egressd.TrackedPods
open Conntrack Kube CollectorModel CollectorHandler CollectorSteps CollectorRuns
open PartialRuns Histories

/-- The `excludeNsMap` that `New` makes of a comma separated text. -/
def excludeNsMap (excludeNamespaces : String) : List String :=
  if excludeNamespaces = "" then []
  else (excludeNamespaces.toList.splitOn ',').map String.ofList

def kept (excluded : List String) (pod : Pod) : Bool :=
  if pod.podIP = "" then false
  else if pod.hostNetwork then false
  else if pod.ns ∈ excluded then false
  else true

/-- The pods are filtered in the slice that the watcher has returned. -/
def getNodePods (excluded : List String) (pods : List Pod) : List Pod :=
  InPlaceFilter.filter (kept excluded) pods

inductive Crash where
  | mustParseIP (text : String)
  | panic (p : Panic)
  deriving DecidableEq, Repr

def mustParseIP (N : Netaddr) (text : String) : Except Crash IP :=
  match N.parseIP text with
  | .zero => .error (.mustParseIP text)
  | ip => .ok ip

def getPodIPs (N : Netaddr) (pods : List Pod) : Except Crash (Finset IP) :=
  pods.foldlM (fun ips pod => do return insert (← mustParseIP N pod.podIP) ips) ∅

/-- A `conntrack.Client` with the state of its tables during one listing. -/
structure Client where
  listEntries : EntriesFilter → Except Panic (Except Error (List Entry))
  filtered : ∀ filter entries, listEntries filter = .ok (.ok entries) →
    ∀ e ∈ entries, filter e = true

structure Node (κ : Type) where
  pods : RunningPodsCache
  collector : Collector κ

def Node.new (κ : Type) : Node κ := ⟨.new, .empty κ⟩

inductive NodeOp (κ : Type) where
  | notify (n : Notification)
  | collect (o : Finmap.VisitOrder UID) (client : Client)
  | handle (call : HandlerCall κ)
  | cleanup (now : Time)

variable {κ : Type} [DecidableEq κ]

/-- `collect` from the pods on. -/
def collectNode (P : Packages κ) (cfg : Config) (excluded : List String)
    (s : Node κ) (o : Finmap.VisitOrder UID) (client : Client) :
    Except Crash (Collector κ × Option Error) := do
  let ips ← getPodIPs P.netaddr (getNodePods excluded (s.pods.get o))
  (s.collector.collect P cfg (.ok ips) client.listEntries).mapError .panic

def Node.step (P : Packages κ) (E : Encoders) (cfg : Config)
    (excluded : List String) (s : Node κ) : NodeOp κ → Except Crash (Node κ)
  | .notify n => return { s with pods := s.pods.notify n }
  | .collect o client => do
    let (c, _) ← collectNode P cfg excluded s o client
    return { s with collector := c }
  | .handle call =>
    return { s with collector := (getRawNetworkMetricsHandler E cfg s.collector call).collector }
  | .cleanup now => return { s with collector := s.collector.cleanup now }

def NodeOp.notification : NodeOp κ → Option Notification
  | .notify n => some n
  | _ => none

def notifications (ops : List (NodeOp κ)) : List Notification :=
  ops.filterMap NodeOp.notification

section Pods

theorem kept_iff {excluded : List String} {pod : Pod} : kept excluded pod = true ↔
    pod.podIP ≠ "" ∧ pod.hostNetwork = false ∧ pod.ns ∉ excluded := by
  unfold kept
  split
  · simp_all
  · split
    · simp_all
    · split <;> simp_all

theorem mem_getNodePods {excluded : List String} {pods : List Pod} {pod : Pod} :
    pod ∈ getNodePods excluded pods ↔
      pod ∈ pods ∧ pod.podIP ≠ "" ∧ pod.hostNetwork = false ∧ pod.ns ∉ excluded := by
  rw [getNodePods, InPlaceFilter.filter_eq, List.mem_filter, kept_iff]

theorem mustParseIP_iff {N : Netaddr} {text : String} {ip : IP} :
    mustParseIP N text = .ok ip ↔ N.parseIP text = ip ∧ ip ≠ .zero := by
  unfold mustParseIP
  split
  · rename_i zero
    constructor
    · intro h
      cases h
    · rintro ⟨rfl, nonzero⟩
      exact absurd zero nonzero
  · rename_i nonzero
    constructor
    · intro h
      cases h
      exact ⟨rfl, nonzero⟩
    · rintro ⟨rfl, _⟩
      rfl

theorem getPodIPs_iff {N : Netaddr} {pods : List Pod} {ips : Finset IP} :
    getPodIPs N pods = .ok ips ↔ (∀ pod ∈ pods, N.parseIP pod.podIP ≠ .zero) ∧
      ips = (pods.map (fun pod => N.parseIP pod.podIP)).toFinset := by
  have general : ∀ (pods : List Pod) (acc : Finset IP), pods.foldlM
      (fun ips pod => do return insert (← mustParseIP N pod.podIP) ips) acc = .ok ips ↔
      (∀ pod ∈ pods, N.parseIP pod.podIP ≠ .zero) ∧
        ips = acc ∪ (pods.map (fun pod => N.parseIP pod.podIP)).toFinset := by
    intro pods
    induction pods with
    | nil =>
      intro acc
      simp [pure, Except.pure, eq_comm]
    | cons pod pods ih =>
      intro acc
      rw [List.foldlM_cons, bind_ok]
      simp only [bind_ok, mustParseIP_iff, ih, List.forall_mem_cons]
      rw [List.map_cons, List.toFinset_cons, Finset.union_insert, ← Finset.insert_union]
      constructor
      · rintro ⟨_, ⟨ip, ⟨rfl, nonzero⟩, eq⟩, rest, union⟩
        cases eq
        exact ⟨⟨nonzero, rest⟩, union⟩
      · rintro ⟨⟨nonzero, rest⟩, union⟩
        exact ⟨_, ⟨_, ⟨rfl, nonzero⟩, rfl⟩, rest, union⟩
  rw [getPodIPs, general]
  simp

end Pods

section Clients

theorem filtered_listSession {N : Netaddr} {now : Time} {filter : EntriesFilter}
    {sessions : List Con} {acc listing : Listing}
    (loop : sessions.foldlM (listSession N now filter) acc = .ok listing)
    (before : ∀ e ∈ acc.res, filter e = true) : ∀ e ∈ listing.res, filter e = true := by
  have run : Runs (listSession N now filter) acc sessions listing := runs_iff_foldlM.mpr loop
  refine run.invariant (fun acc => ∀ e ∈ acc.res, filter e = true) (fun _ => True) ?_ before
    (fun _ _ => trivial)
  intro acc sess acc' before _ step
  cases guard : sess.skipped with
  | true =>
    rw [listSession_skipped guard] at step
    cases step
    exact before
  | false =>
    cases built : sess.entry N now with
    | error p =>
      rw [listSession, guard, built] at step
      cases step
    | ok entry =>
      rw [listSession_entry guard built] at step
      cases step
      intro e mem
      rcases List.mem_append.mp mem with old | new
      · exact before e old
      · exact (List.mem_filter.mp new).2

def netfilterClient (N : Netaddr) (dump : Except Error (List Con)) (now : Time) : Client where
  listEntries := netfilterListEntries N dump now
  filtered filter entries listed := by
    cases dump with
    | error err => cases listed
    | ok sessions =>
      obtain ⟨listing, loop, eq⟩ := bind_ok.mp listed
      cases eq
      exact filtered_listSession loop (fun e mem => by cases mem)

def ciliumClient (toHost : CtKey4Global → CtKey4Global) (maps : List CtMap)
    (clockSource : ClockSource) (hertz : UInt16) (clocks : KernelClocks) : Client where
  listEntries filter := .ok (listRecords toHost maps clockSource hertz clocks filter)
  filtered filter entries listed := by
    obtain ⟨_, _, records⟩ := listed_of_listRecords (Except.ok.inj listed)
    exact fun e mem => (records e mem).1

end Clients

section Runs

variable {P : Packages κ} {E : Encoders} {cfg : Config} {excluded : List String}

/-- The address was that of a running pod outside the host network and the excluded namespaces
    when a collect asked for the pods. -/
def Tracked (N : Netaddr) (excluded : List String) (ops : List (NodeOp κ))
    (src : IPv4) : Prop :=
  ∃ before o client after, ops = before ++ .collect o client :: after ∧
    ∃ m pod, latest (·.subject.uid) ((notifications before).filter Notification.actedOn) pod.uid =
        some m ∧ m.current = some pod ∧ pod.phase = .running ∧ pod.hostNetwork = false ∧
      pod.ns ∉ excluded ∧ N.as4 (N.parseIP pod.podIP) = .ok src

omit [DecidableEq κ] in
theorem Tracked.concat {N : Netaddr} {ops : List (NodeOp κ)} {src : IPv4}
    (h : Tracked N excluded ops src) (op : NodeOp κ) : Tracked N excluded (ops ++ [op]) src := by
  obtain ⟨before, o, client, after, eq, pod⟩ := h
  exact ⟨before, o, client, after ++ [op], by rw [eq, List.append_assoc, List.cons_append], pod⟩

theorem collectNode_cases {s : Node κ} {o : Finmap.VisitOrder UID} {client : Client}
    {c : Collector κ} {err : Option Error}
    (h : collectNode P cfg excluded s o client = .ok (c, err)) :
    ∃ ips, getPodIPs P.netaddr (getNodePods excluded (s.pods.get o)) = .ok ips ∧
      (c = s.collector ∨ ∃ conns, client.listEntries (filterBySrcIP ips) = .ok (.ok conns) ∧
        s.collector.collectConns P cfg conns = .ok c) := by
  obtain ⟨ips, got, collected⟩ := bind_ok.mp h
  refine ⟨ips, got, ?_⟩
  obtain ⟨conns, listed, recorded⟩ := bind_ok.mp (mapError_ok.mp collected)
  obtain ⟨answer, entries, eq⟩ := bind_ok.mp listed
  cases answer with
  | error e =>
    cases eq
    cases recorded
    exact .inl rfl
  | ok conns =>
    cases eq
    obtain ⟨d, collects, eq⟩ := bind_ok.mp recorded
    cases eq
    exact .inr ⟨conns, entries, collects⟩

structure SourcesIn (P : Packages κ) (Q : IPv4 → Prop) (c : Collector κ) : Prop where
  flows : ∀ t, (cached P c t).isSome → Q t.src
  groups : ∀ g, (metricOf P c g).isSome → Q g.src

theorem SourcesIn.mono {Q R : IPv4 → Prop} {c : Collector κ} (h : SourcesIn P Q c)
    (imp : ∀ x, Q x → R x) : SourcesIn P R c :=
  ⟨fun t ht => imp _ (h.flows t ht), fun g hg => imp _ (h.groups g hg)⟩

theorem SourcesIn.record {Q : IPv4 → Prop} {c c' : Collector κ} {e : Entry} (h : SourcesIn P Q c)
    (source : ∀ x, P.netaddr.as4 e.src.ip = .ok x → Q x) (recorded : c.record P cfg e = .ok c') :
    SourcesIn P Q c' := by
  obtain ⟨t, g, ht, hg, rfl⟩ := record_iff.mp recorded
  have flow := source _ (flowOf_iff.mp ht).1
  have group : Q g.src := by
    have as4 := (groupOf_iff.mp hg).1
    rw [groupPublicDst_src] at as4
    exact source _ as4
  constructor
  · intro u known
    rw [cached_recorded] at known
    split at known
    · rename_i same
      rw [same]
      exact flow
    · exact h.flows u known
  · intro k known
    rw [metricOf_recorded] at known
    split at known
    · rename_i new
      rw [new.2]
      exact group
    · exact h.groups k known

theorem SourcesIn.collectConns {Q : IPv4 → Prop} {c c' : Collector κ} {conns : List Entry}
    (h : SourcesIn P Q c) (sources : ∀ e ∈ conns, ∀ x, P.netaddr.as4 e.src.ip = .ok x → Q x)
    (collected : c.collectConns P cfg conns = .ok c') : SourcesIn P Q c' := by
  obtain ⟨d, run, rfl⟩ := collectConns_iff.mp collected
  have after := run.invariant (SourcesIn P Q)
    (fun e => ∀ x, P.netaddr.as4 e.src.ip = .ok x → Q x)
    (fun _ _ _ h source recorded => h.record source recorded) h sources
  exact ⟨after.flows, after.groups⟩

theorem SourcesIn.handle {Q : IPv4 → Prop} {c : Collector κ} (h : SourcesIn P Q c)
    (call : HandlerCall κ) :
    SourcesIn P Q (getRawNetworkMetricsHandler E cfg c call).collector := by
  rcases handler_cases E cfg c call with ⟨same, _⟩ | ⟨reset, _⟩
  · rw [same]
    exact h
  · rw [reset]
    refine ⟨fun t known => h.flows t ?_, fun g known => h.groups g ?_⟩
    · rwa [cached_resetDeltas] at known
    · rw [metricOf, lookup_resetDeltas] at known
      rw [metricOf]
      split at known
      · rwa [Option.isSome_map] at known
      · exact known

theorem SourcesIn.cleanup {Q : IPv4 → Prop} {c : Collector κ} (h : SourcesIn P Q c) (now : Time) :
    SourcesIn P Q (c.cleanup now) := by
  refine ⟨fun t known => h.flows t ?_, fun g known => h.groups g ?_⟩
  · rw [cached_cleanup] at known
    exact Option.isSome_of_isSome_filter _ _ known
  · rw [metricOf, lookup_cleanup] at known
    exact Option.isSome_of_isSome_filter _ _ known

omit [DecidableEq κ] in
theorem notifications_concat (ops : List (NodeOp κ)) (op : NodeOp κ) :
    notifications (ops ++ [op]) = notifications ops ++ op.notification.toList := by
  rw [notifications, List.filterMap_append]
  cases op <;> rfl

structure Sourced (P : Packages κ) (excluded : List String) (ops : List (NodeOp κ))
    (s : Node κ) : Prop where
  pods : s.pods = RunningPodsCache.after (notifications ops)
  sources : SourcesIn P (Tracked P.netaddr excluded ops) s.collector

omit [DecidableEq κ] in
theorem tracked_of_listed {ops : List (NodeOp κ)} {o : Finmap.VisitOrder UID} {client : Client}
    {ips : Finset IP} {conns : List Entry}
    (got : getPodIPs P.netaddr (getNodePods excluded
      ((RunningPodsCache.after (notifications ops)).get o)) = .ok ips)
    (listed : client.listEntries (filterBySrcIP ips) = .ok (.ok conns)) {e : Entry}
    (mem : e ∈ conns) {x : IPv4} (source : P.netaddr.as4 e.src.ip = .ok x) :
    Tracked P.netaddr excluded (ops ++ [.collect o client]) x := by
  have inside : e.src.ip ∈ ips := by
    have passes := client.filtered _ conns listed e mem
    simpa [filterBySrcIP] using passes
  obtain ⟨_, rfl⟩ := getPodIPs_iff.mp got
  rw [List.mem_toFinset, List.mem_map] at inside
  obtain ⟨pod, here, address⟩ := inside
  obtain ⟨running, _, host, ns⟩ := mem_getNodePods.mp here
  obtain ⟨m, last, current⟩ := mem_get_after.mp running
  have acted := (List.mem_filter.mp (mem_of_latest last)).2
  refine ⟨ops, o, client, [], rfl, m, pod, last, current, ((actedOn_iff current).mp acted).1, host,
    ns, ?_⟩
  rw [address]
  exact source

theorem Sourced.step {ops : List (NodeOp κ)} {s s' : Node κ} {op : NodeOp κ}
    (h : Sourced P excluded ops s) (step : s.step P E cfg excluded op = .ok s') :
    Sourced P excluded (ops ++ [op]) s' := by
  have earlier := h.sources.mono (fun _ tracked => Tracked.concat tracked op)
  have same : ∀ op' : NodeOp κ, op'.notification = none →
      s.pods = RunningPodsCache.after (notifications (ops ++ [op'])) := by
    intro op' none
    rw [notifications_concat, none, Option.toList_none, List.append_nil]
    exact h.pods
  cases op with
  | notify n =>
    cases step
    refine ⟨?_, earlier⟩
    change s.pods.notify n = _
    rw [notifications_concat, h.pods, RunningPodsCache.after, RunningPodsCache.after,
      List.foldl_append]
    rfl
  | collect o client =>
    obtain ⟨⟨c, err⟩, collected, eq⟩ := bind_ok.mp step
    cases eq
    refine ⟨same _ rfl, ?_⟩
    obtain ⟨ips, got, unchanged | ⟨conns, listed, collects⟩⟩ := collectNode_cases collected
    · change SourcesIn P _ c
      rw [unchanged]
      exact earlier
    · rw [h.pods] at got
      exact earlier.collectConns (fun e mem x source => tracked_of_listed got listed mem source)
        collects
  | handle call =>
    cases step
    exact ⟨same _ rfl, earlier.handle call⟩
  | cleanup now =>
    cases step
    exact ⟨same _ rfl, earlier.cleanup now⟩

theorem sourced_of_run {ops : List (NodeOp κ)} {s : Node κ}
    (run : Runs (Node.step P E cfg excluded) (Node.new κ) ops s) : Sourced P excluded ops s := by
  have start : Sourced P excluded [] (Node.new κ) := by
    refine ⟨rfl, fun t known => ?_, fun g known => ?_⟩
    · cases known
    · cases known
  exact run.history (Sourced P excluded) (fun _ => True) (fun _ _ _ _ h _ step => h.step step)
    start (fun _ _ => trivial)

theorem wellKeyed_of_run {ops : List (NodeOp κ)} {s : Node κ}
    (run : Runs (Node.step P E cfg excluded) (Node.new κ) ops s) : WellKeyed P s.collector := by
  refine run.invariant (fun s => WellKeyed P s.collector) (fun _ => True) ?_ (wellKeyed_empty P)
    (fun _ _ => trivial)
  intro s op s' keyed _ step
  cases op with
  | notify n =>
    cases step
    exact keyed
  | collect o client =>
    obtain ⟨⟨c, err⟩, collected, eq⟩ := bind_ok.mp step
    cases eq
    obtain ⟨_, _, rfl | ⟨conns, _, collects⟩⟩ := collectNode_cases collected
    · exact keyed
    · exact keyed.collectConns collects
  | handle call =>
    cases step
    change WellKeyed P (getRawNetworkMetricsHandler E cfg s.collector call).collector
    rcases handler_cases E cfg s.collector call with ⟨same, _⟩ | ⟨same, _⟩
    · rw [same]
      exact keyed
    · rw [same]
      exact keyed.resetDeltas _ _
  | cleanup now =>
    cases step
    exact keyed.cleanup now

end Runs

/-- In every run of a node, whatever the informer reports and whatever the connection tracking
    lists, every flow and every metric that the collector knows has as its source the address of
    a pod that the cache had last seen running at one of the collects, that is not on the host
    network and whose namespace is not excluded. -/
theorem sources_are_tracked_pods (P : Packages κ) (E : Encoders) (cfg : Config)
    (excludeNamespaces : String) {ops : List (NodeOp κ)} {s : Node κ}
    (run : Runs (Node.step P E cfg (excludeNsMap excludeNamespaces)) (Node.new κ) ops s) :
    (∀ t, (cached P s.collector t).isSome →
      Tracked P.netaddr (excludeNsMap excludeNamespaces) ops t.src) ∧
    ∀ g, (metricOf P s.collector g).isSome →
      Tracked P.netaddr (excludeNsMap excludeNamespaces) ops g.src := by
  have after := sourced_of_run run
  exact ⟨after.sources.flows, after.sources.groups⟩

def podAt (x : IPv4) : Pod := { samplePod "web" "u1" .running none with podIP := dotted x }

theorem podIP_podAt (x : IPv4) : (podAt x).podIP = dotted x := rfl

theorem get_podAt (o : Finmap.VisitOrder UID) {x : IPv4} (text : dotted x ≠ "") :
    (RunningPodsCache.new.notify (.add (podAt x))).get o = [podAt x] := by
  have acts : ((podAt x).podIP = "" || (podAt x).phase ≠ .running) = false := by
    rw [podIP_podAt, decide_eq_false text]
    rfl
  have one : (RunningPodsCache.new.notify (.add (podAt x))).pods =
      Finmap.singleton "u1" (podAt x) := by
    rw [RunningPodsCache.notify, RunningPodsCache.onAddOrUpdate, acts]
    rfl
  rw [RunningPodsCache.get, one, Finmap.visited, Finmap.keys_singleton, o.keys_singleton]
  rfl

theorem step_collect_of_listed {P : Packages κ} {E : Encoders} {cfg : Config}
    {excluded : List String} {s : Node κ} {o : Finmap.VisitOrder UID} {client : Client}
    {ips : Finset IP} {conns : List Entry} {c : Collector κ}
    (pods : getPodIPs P.netaddr (getNodePods excluded (s.pods.get o)) = .ok ips)
    (listed : client.listEntries (filterBySrcIP ips) = .ok (.ok conns))
    (collected : s.collector.collectConns P cfg conns = .ok c) :
    Node.step P E cfg excluded s (.collect o client) = .ok { s with collector := c } := by
  have collect : s.collector.collect P cfg (.ok ips) client.listEntries = .ok (c, none) := by
    rw [Collector.collect, listConns, listed]
    change s.collector.collectListed P cfg (.ok conns) = _
    rw [Collector.collectListed, collected]
    rfl
  refine bind_ok.mpr ⟨(c, none), ?_, rfl⟩
  rw [collectNode, pods]
  change (s.collector.collect P cfg (.ok ips) client.listEntries).mapError _ = _
  rw [collect]
  rfl

theorem getPodIPs_podAt {excluded : List String} (outside : "team1" ∉ excluded) {x : IPv4}
    (text : dotted x ≠ "") : getPodIPs .documented (getNodePods excluded [podAt x]) = .ok {.v4 x} := by
  have passes : kept excluded (podAt x) = true := kept_iff.mpr ⟨text, rfl, outside⟩
  rw [getNodePods, InPlaceFilter.filter_eq, List.filter_cons_of_pos passes, List.filter_nil,
    getPodIPs_iff, List.forall_mem_singleton, List.map_singleton, podIP_podAt,
    Netaddr.documented.parseIP_dotted]
  exact ⟨nofun, rfl⟩

def connectingPod : Pod := { samplePod "web" "u1" .running none with podIP := dotted sampleFlow.src }

def connection (o : Finmap.VisitOrder UID) (client : Client) : List (NodeOp Bytes) :=
  [.notify (.add connectingPod), .collect o client]

theorem run_connection {client : Client}
    (listed : client.listEntries (filterBySrcIP {.v4 sampleFlow.src}) = .ok (.ok [sampleEntry 10 0])) :
    ∃ s : Node Bytes, Runs (Node.step .documented .buffering ⟨false, false⟩
      (excludeNsMap "kube-system,default")) (Node.new Bytes) (connection (.first "u1") client) s ∧
    (cached .documented s.collector sampleFlow).isSome := by
  have pods : (RunningPodsCache.new.notify (.add connectingPod)).get (.first "u1") = [connectingPod] :=
    get_podAt _ (by decide +kernel)
  have ips : getPodIPs .documented (getNodePods (excludeNsMap "kube-system,default") [connectingPod]) =
      .ok {.v4 sampleFlow.src} := getPodIPs_podAt (by decide) (by decide +kernel)
  rw [← pods] at ips
  have recorded := step_collect_sample .documented .buffering false (.empty Bytes) 10 0
  rw [step_collect_ok] at recorded
  refine ⟨_, .next rfl (.next (step_collect_of_listed ips listed recorded) (.refl _)), ?_⟩
  rw [cached, entriesCache_recorded, Finmap.lookup_insert]
  rfl

def connectionMap : CtMap where
  path := "cilium_ct4_global"
  openErr := none
  dump := .ok [(⟨sampleFlow.src, sampleFlow.dst, sampleFlow.dstPort, sampleFlow.srcPort, 6, 0⟩,
    ⟨0, 0, 0, 10, 0⟩)]

def viaNetfilter : Client := netfilterClient .documented (.ok [(sampleSession 10 1 40000).con]) 0

def viaCilium : Client := ciliumClient id [connectionMap] .ktime 250 ⟨0, .ok 0, .ok 0⟩

theorem sources_are_tracked_pods_connection :
    (∃ s : Node Bytes, Runs (Node.step .documented .buffering ⟨false, false⟩
        (excludeNsMap "kube-system,default")) (Node.new Bytes)
        (connection (.first "u1") viaNetfilter) s ∧
      (cached .documented s.collector sampleFlow).isSome ∧
      Tracked Netaddr.documented (excludeNsMap "kube-system,default")
        (connection (.first "u1") viaNetfilter) sampleFlow.src) ∧
    ∃ s : Node Bytes, Runs (Node.step .documented .buffering ⟨false, false⟩
        (excludeNsMap "kube-system,default")) (Node.new Bytes)
        (connection (.first "u1") viaCilium) s ∧
      (cached .documented s.collector sampleFlow).isSome ∧
      Tracked Netaddr.documented (excludeNsMap "kube-system,default")
        (connection (.first "u1") viaCilium) sampleFlow.src := by
  have netfilter : viaNetfilter.listEntries (filterBySrcIP {.v4 sampleFlow.src}) =
      .ok (.ok [sampleEntry 10 0]) :=
    (netfilterListEntries_complete .documented [sampleSession 10 1 40000] 0 _).trans rfl
  have cilium : viaCilium.listEntries (filterBySrcIP {.v4 sampleFlow.src}) =
      .ok (.ok [sampleEntry 10 0]) := by decide +kernel
  obtain ⟨s, run, known⟩ := run_connection netfilter
  obtain ⟨s', run', known'⟩ := run_connection cilium
  exact ⟨⟨s, run, known, (sources_are_tracked_pods _ _ _ _ run).1 sampleFlow known⟩,
    ⟨s', run', known', (sources_are_tracked_pods _ _ _ _ run').1 sampleFlow known'⟩⟩

end Egressd.TrackedPods
