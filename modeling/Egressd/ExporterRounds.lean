import Egressd.CacheHistory
import Egressd.ExporterResults
import Egressd.Fetches

set_option autoImplicit false

namespace Egressd.Exporter
open ProtoWire Kube GenericsCache CollectorModel CollectorHandler Histories MetricsPb Fetches

variable {G : GenericsCache} {σ : Type}

/-- What an export meets: the watcher and the batches in the order in which they arrive. -/
structure Round (σ : Type) where
  watcher : KubeWatcher σ
  state : σ
  pulled : List Pulled

inductive RoundEvent (σ : Type) where
  | round (r : Round σ)
  | deleteExpired (now : Time)

def RoundEvent.run (N : Netaddr) (d : DnsStorage G) :
    RoundEvent σ → List PodNetworkMetric × DnsStorage G
  | .round r =>
    let a := aggregate N r.watcher ⟨r.state, d, [], []⟩ r.pulled
    (a.podsMetrics, a.dnsStorage)
  | .deleteExpired now => ([], ⟨G.deleteExpired d.ipToName now⟩)

def storageAfter (G : GenericsCache) (N : Netaddr) (events : List (RoundEvent σ)) :
    DnsStorage G := events.foldl (fun d event => (event.run N d).2) (.new G)

def Pulled.changes (p : Pulled) : List (Change Int32 Bytes) :=
  p.ip2Domain.map (fun e => .set e.2 e.1.ip e.1.domain defaultDNSTTL)

def RoundEvent.changes : RoundEvent σ → List (Change Int32 Bytes)
  | .round r => r.pulled.flatMap Pulled.changes
  | .deleteExpired now => [.deleteExpired now]

/-- The domain of an address after some changes: the one that was stored last, for an hour. -/
def domainAt (changes : List (Change Int32 Bytes)) (now : Time) (ip : Int32) : Bytes :=
  if ip = 0 then []
  else match lastSet changes ip with
    | some item => if item.expired now then [] else item.value
    | none => []

section Storage

variable {N : Netaddr} {W : KubeWatcher σ}

theorem dnsStorage_foldl (a : Aggregation G σ) (items : List (PbRawNetworkMetric × Time)) :
    (items.foldl (aggregateItem N W) a).dnsStorage = a.dnsStorage := by
  induction items generalizing a with
  | nil => rfl
  | cons item items ih =>
    rw [List.foldl_cons, ih]
    unfold aggregateItem
    rcases buildPodNetworkMetric N W (a.dnsStorage.lookup item.2) a.watcher item.1 with ⟨r, s⟩
    cases r <;> rfl

theorem fill_changes (d : DnsStorage G) (p : Pulled) :
    (d.fill p.ip2Domain).ipToName = p.changes.foldl Change.apply d.ipToName := by
  unfold DnsStorage.fill Pulled.changes
  generalize p.ip2Domain = items
  induction items generalizing d with
  | nil => rfl
  | cons e items ih =>
    rw [List.foldl_cons, List.map_cons, List.foldl_cons]
    exact ih _

theorem dnsStorage_aggregate (a : Aggregation G σ) (pulled : List Pulled) :
    (aggregate N W a pulled).dnsStorage.ipToName =
      (pulled.flatMap Pulled.changes).foldl Change.apply a.dnsStorage.ipToName := by
  induction pulled generalizing a with
  | nil => rfl
  | cons p pulled ih =>
    change (aggregate N W (aggregateBatch N W a p) pulled).dnsStorage.ipToName = _
    rw [ih, List.flatMap_cons, List.foldl_append, ← fill_changes]
    congr 2
    exact dnsStorage_foldl _ p.items

theorem storageAfter_eq (events : List (RoundEvent σ)) :
    (storageAfter G N events).ipToName = after G (events.flatMap RoundEvent.changes) := by
  refine foldl_history (fun events (d : DnsStorage G) =>
    d.ipToName = after G (events.flatMap RoundEvent.changes)) rfl ?_ events
  intro events d event ih
  rw [List.flatMap_append, List.flatMap_singleton, after, List.foldl_append]
  cases event with
  | round r =>
    change (aggregate N r.watcher ⟨r.state, d, [], []⟩ r.pulled).dnsStorage.ipToName = _
    rw [dnsStorage_aggregate]
    exact congrArg (fun c => (r.pulled.flatMap Pulled.changes).foldl Change.apply c) ih
  | deleteExpired now => exact congrArg (G.deleteExpired · now) ih

theorem storage_of_batch (before : List (RoundEvent σ)) (s : σ) (ps : List Pulled) (p : Pulled) :
    ((aggregate N W ⟨s, storageAfter G N before, [], []⟩ ps).dnsStorage.fill p.ip2Domain).ipToName =
      after G (before.flatMap RoundEvent.changes ++ (ps ++ [p]).flatMap Pulled.changes) := by
  rw [fill_changes, dnsStorage_aggregate, storageAfter_eq, after, after, List.foldl_append,
    List.flatMap_append, List.flatMap_singleton, List.foldl_append]

/-- The loop when it comes to another item: the batches `ps` are done, and of the batch `p` the
    items `is`. -/
def reached (N : Netaddr) (W : KubeWatcher σ) (a : Aggregation G σ) (ps : List Pulled) (p : Pulled)
    (is : List (PbRawNetworkMetric × Time)) : Aggregation G σ :=
  is.foldl (aggregateItem N W)
    { aggregate N W a ps with dnsStorage := (aggregate N W a ps).dnsStorage.fill p.ip2Domain }

theorem mem_foldl {a : Aggregation G σ} {items : List (PbRawNetworkMetric × Time)}
    {m : PodNetworkMetric} (mem : m ∈ (items.foldl (aggregateItem N W) a).podsMetrics) :
    m ∈ a.podsMetrics ∨ ∃ is item js, items = is ++ item :: js ∧
      (buildPodNetworkMetric N W (a.dnsStorage.lookup item.2)
        (is.foldl (aggregateItem N W) a).watcher item.1).1 = .ok m := by
  induction items generalizing a with
  | nil => exact .inl mem
  | cons item items ih =>
    rcases ih mem with here | ⟨is, item', js, rfl, built⟩
    · rcases build : buildPodNetworkMetric N W (a.dnsStorage.lookup item.2) a.watcher item.1 with ⟨r, s⟩
      rw [aggregateItem, build] at here
      cases r with
      | error err => exact .inl here
      | ok new =>
        refine (List.mem_append.mp here).imp id (fun last => ?_)
        rw [List.mem_singleton.mp last]
        exact ⟨[], item, items, rfl, congrArg Prod.fst build⟩
    · have same : (aggregateItem N W a item).dnsStorage = a.dnsStorage := dnsStorage_foldl a [item]
      rw [same] at built
      exact .inr ⟨item :: is, item', js, rfl, built⟩

theorem exists_item_of_mem {a : Aggregation G σ} {pulled : List Pulled} {m : PodNetworkMetric}
    (mem : m ∈ (aggregate N W a pulled).podsMetrics) : m ∈ a.podsMetrics ∨
      ∃ ps p qs, pulled = ps ++ p :: qs ∧ ∃ is item js, p.items = is ++ item :: js ∧
        (buildPodNetworkMetric N W
          (((aggregate N W a ps).dnsStorage.fill p.ip2Domain).lookup item.2)
          (reached N W a ps p is).watcher item.1).1 = .ok m := by
  induction pulled generalizing a with
  | nil => exact .inl mem
  | cons p pulled ih =>
    rcases ih mem with here | ⟨ps, q, qs, rfl, built⟩
    · exact (mem_foldl here).imp id (fun built => ⟨[], p, pulled, rfl, built⟩)
    · exact .inr ⟨p :: ps, q, qs, rfl, built⟩

section Kept

variable {I : σ → Prop}
  (keep : ∀ s lookup conn, I s → I (buildPodNetworkMetric N W lookup s conn).2)

include keep

theorem kept_foldl {a : Aggregation G σ} (start : I a.watcher)
    (items : List (PbRawNetworkMetric × Time)) :
    I (items.foldl (aggregateItem N W) a).watcher := by
  induction items generalizing a with
  | nil => exact start
  | cons item items ih =>
    apply ih
    rw [watcher_aggregateItem]
    exact keep _ _ _ start

theorem kept_aggregate {a : Aggregation G σ} (start : I a.watcher) (pulled : List Pulled) :
    I (aggregate N W a pulled).watcher := by
  induction pulled generalizing a with
  | nil => exact start
  | cons p pulled ih =>
    apply ih
    exact kept_foldl keep (a := { a with dnsStorage := a.dnsStorage.fill p.ip2Domain }) start p.items

theorem kept_reached {a : Aggregation G σ} (start : I a.watcher) (ps : List Pulled) (p : Pulled)
    (is : List (PbRawNetworkMetric × Time)) : I (reached N W a ps p is).watcher := by
  apply kept_foldl keep
  exact kept_aggregate keep start ps

end Kept

theorem lookup_eq_domainAt {d : DnsStorage G} {changes : List (Change Int32 Bytes)}
    (h : d.ipToName = after G changes) {now : Time}
    (past : ∀ t, .deleteExpired t ∈ changes → t ≤ now) (ip : Int32) :
    d.lookup now ip = domainAt changes now ip := by
  unfold DnsStorage.lookup domainAt
  rw [h, get_after past]
  cases lastSet changes ip with
  | none => rfl
  | some item =>
    cases expired : item.expired now <;> simp [expired]

theorem mem_changes {events : List (RoundEvent σ)} {t : Time}
    (mem : .deleteExpired t ∈ events.flatMap RoundEvent.changes) : .deleteExpired t ∈ events := by
  obtain ⟨event, here, change⟩ := List.mem_flatMap.mp mem
  cases event with
  | round r =>
    obtain ⟨p, _, set⟩ := List.mem_flatMap.mp change
    obtain ⟨e, _, eq⟩ := List.mem_map.mp set
    cases eq
  | deleteExpired now =>
    cases List.mem_singleton.mp change
    exact here

theorem domain_of_build {lookup : Int32 → Bytes} {s : σ} {conn : PbRawNetworkMetric}
    {m : PodNetworkMetric} (built : (buildPodNetworkMetric N W lookup s conn).1 = .ok m) :
    ∃ pod srcZone dst, m = podMetric N conn pod srcZone dst
      (if N.isPrivate (.v4 (ipFromInt32 conn.dstIp)) then [] else lookup conn.dstIp) := by
  cases isPrivate : N.isPrivate (.v4 (ipFromInt32 conn.dstIp)) with
  | false =>
    obtain ⟨pod, srcZone, eq⟩ := build_public built isPrivate
    exact ⟨pod, srcZone, _, eq⟩
  | true =>
    rcases build_cases N W s conn with ⟨err, _, build⟩ | ⟨pod, info, _, _, build⟩
    · rw [build lookup] at built
      cases built
    · rw [build lookup, isPrivate, if_pos rfl] at built
      cases found : (W.destination (W.getPodByIP s (dotted (ipFromInt32 conn.srcIp))).2
          (dotted (ipFromInt32 conn.dstIp))).1 with
      | error err =>
        rw [found] at built
        cases built
      | ok dst =>
        rw [found] at built
        cases built
        exact ⟨pod, info.2, dst, rfl⟩

end Storage

/-- After any exports and passes of the janitor, every metric of the next export comes from an
    item of one of its batches, and its domain name is the one that was listed last for the
    destination, in any batch of any export up to the item's own batch, if that is no more than
    an hour ago. It is empty otherwise, and if the destination is private. -/
theorem exported_domain {N : Netaddr} {before : List (RoundEvent σ)} {r : Round σ}
    {m : PodNetworkMetric} (mem : m ∈ ((RoundEvent.round r).run N (storageAfter G N before)).1)
    (past : ∀ t, .deleteExpired t ∈ before → ∀ p ∈ r.pulled, ∀ item ∈ p.items, t ≤ item.2) :
    ∃ ps p qs, r.pulled = ps ++ p :: qs ∧ ∃ item ∈ p.items, ∃ pod srcZone dst,
      m = podMetric N item.1 pod srcZone dst
        (if N.isPrivate (.v4 (ipFromInt32 item.1.dstIp)) then []
        else domainAt (before.flatMap RoundEvent.changes ++ (ps ++ [p]).flatMap Pulled.changes)
          item.2 item.1.dstIp) := by
  rcases exists_item_of_mem (a := ⟨r.state, storageAfter G N before, [], []⟩) mem with
    none | ⟨ps, p, qs, split, is, item, js, items, built⟩
  · cases none
  · have here : item ∈ p.items := by
      rw [items]
      exact List.mem_append_right _ List.mem_cons_self
    refine ⟨ps, p, qs, split, item, here, ?_⟩
    obtain ⟨pod, srcZone, dst, eq⟩ := domain_of_build built
    refine ⟨pod, srcZone, dst, ?_⟩
    have times : ∀ t, .deleteExpired t ∈ before.flatMap RoundEvent.changes ++
        (ps ++ [p]).flatMap Pulled.changes → t ≤ item.2 := by
      intro t mem
      rcases List.mem_append.mp mem with earlier | own
      · exact past t (mem_changes earlier) p (by rw [split]; simp) item here
      · obtain ⟨q, _, set⟩ := List.mem_flatMap.mp own
        obtain ⟨e, _, eq⟩ := List.mem_map.mp set
        cases eq
    rw [eq, lookup_eq_domainAt (storage_of_batch before r.state ps p) times]

def unresolvedBatch : Pulled := ⟨[(outgoing, 30 * minute)], []⟩

theorem exported_domain_of_last_export :
    let before : List (RoundEvent Unit) :=
      [.round ⟨onePodWatcher, (), [resolvedBatch [97]]⟩, .deleteExpired minute]
    outgoingMetric [97] ∈ ((RoundEvent.round ⟨onePodWatcher, (), [unresolvedBatch]⟩).run .documented
      (storageAfter .documented .documented before)).1 ∧
    ∃ ps p qs, [unresolvedBatch] = ps ++ p :: qs ∧ ∃ item ∈ p.items, ∃ pod srcZone dst,
      outgoingMetric [97] = podMetric .documented item.1 pod srcZone dst
        (if Netaddr.documented.isPrivate (.v4 (ipFromInt32 item.1.dstIp)) then []
        else domainAt (before.flatMap RoundEvent.changes ++ (ps ++ [p]).flatMap Pulled.changes)
          item.2 item.1.dstIp) := by
  intro before
  have mem : outgoingMetric [97] ∈ ((RoundEvent.round ⟨onePodWatcher, (), [unresolvedBatch]⟩).run
      .documented (storageAfter .documented .documented before)).1 := by decide +kernel
  refine ⟨mem, exported_domain mem ?_⟩
  intro t ran p pulled item here
  simp only [before, List.mem_cons, List.not_mem_nil, or_false, reduceCtorEq, false_or,
    RoundEvent.deleteExpired.injEq] at ran
  rw [List.mem_singleton.mp pulled] at here
  rw [List.mem_singleton.mp here, ran]
  decide

section Pushed

/-- The batch was returned by a fetch, whatever the collector has answered. -/
def Pulled.Fetched (proto : Protobuf) (p : Pulled) : Prop :=
  ∃ url answer batch, fetchRawNetworkMetricsBatch proto url (.ok ()) answer = .ok batch ∧
    p.items.map Prod.fst = batch.items ∧ p.ip2Domain.map Prod.fst = batch.ip2Domain

def RoundEvent.Fetched (proto : Protobuf) : RoundEvent σ → Prop
  | .round r => ∀ p ∈ r.pulled, p.Fetched proto
  | .deleteExpired _ => True

def Readable (changes : List (Change Int32 Bytes)) : Prop :=
  ∀ now key value expiration, .set now key value expiration ∈ changes → validString value = true

variable {proto : Protobuf}

theorem Pulled.Fetched.readable {p : Pulled} (h : p.Fetched proto) : Readable p.changes := by
  obtain ⟨url, answer, batch, fetched, _, domains⟩ := h
  obtain ⟨_, _, body, _, _, _, parsed⟩ := fetch_ok_iff.mp fetched
  have valid := proto.readable_of_unmarshal body batch parsed
  intro now key value expiration mem
  obtain ⟨e, here, eq⟩ := List.mem_map.mp mem
  cases eq
  refine valid e.1 ?_
  rw [← domains]
  exact List.mem_map_of_mem here

theorem Readable.append {xs ys : List (Change Int32 Bytes)} (hx : Readable xs) (hy : Readable ys) :
    Readable (xs ++ ys) := by
  intro now key value expiration mem
  rcases List.mem_append.mp mem with mem | mem
  · exact hx now key value expiration mem
  · exact hy now key value expiration mem

theorem readable_flatMap {α : Type} {f : α → List (Change Int32 Bytes)} {xs : List α}
    (h : ∀ x ∈ xs, Readable (f x)) : Readable (xs.flatMap f) := by
  intro now key value expiration mem
  obtain ⟨x, here, inside⟩ := List.mem_flatMap.mp mem
  exact h x here now key value expiration inside

theorem readable_events {events : List (RoundEvent σ)} (h : ∀ event ∈ events, event.Fetched proto) :
    Readable (events.flatMap RoundEvent.changes) := by
  refine readable_flatMap (fun event mem => ?_)
  cases event with
  | round r => exact readable_flatMap (fun p here => (h _ mem p here).readable)
  | deleteExpired now =>
    intro t key value expiration set
    cases List.mem_singleton.mp set

theorem validString_nil : validString [] = true := by decide +kernel

theorem readable_lookup {d : DnsStorage G} {changes : List (Change Int32 Bytes)}
    (h : d.ipToName = after G changes) (readable : Readable changes) (now : Time) (ip : Int32) :
    validString (d.lookup now ip) = true := by
  unfold DnsStorage.lookup
  split
  · exact validString_nil
  · rw [h]
    cases found : G.get (after G changes) now ip with
    | none => exact validString_nil
    | some value =>
      obtain ⟨t, expiration, set, _⟩ := set_of_get found
      exact readable t ip value expiration set

/-- Whatever the collectors answer, in however many exports: the metrics that an export hands to
    its sinks can be marshalled, and who reads the payload gets exactly these metrics. -/
theorem exported_batch_marshals (G : GenericsCache) (proto : Protobuf) (N : Netaddr)
    (before : List (RoundEvent σ)) (r : Round σ) (fetched : ∀ event ∈ before, event.Fetched proto)
    (own : ∀ p ∈ r.pulled, p.Fetched proto) :
    ∃ payload, proto.pod.marshal
        ((RoundEvent.round r).run N (storageAfter G N before)).1 = .ok payload ∧
      (payload.length < 2 ^ 63 → proto.pod.unmarshal payload =
        .ok ((RoundEvent.round r).run N (storageAfter G N before)).1) := by
  have valid : ReadableNames ((RoundEvent.round r).run N (storageAfter G N before)).1 := by
    intro m mem
    rcases exists_item_of_mem (a := ⟨r.state, storageAfter G N before, [], []⟩) mem with
      none | ⟨ps, p, qs, split, is, item, js, _, built⟩
    · cases none
    · obtain ⟨pod, srcZone, dst, rfl⟩ := domain_of_build built
      change validString (if _ then _ else _) = true
      split
      · exact validString_nil
      · refine readable_lookup (storage_of_batch before r.state ps p) ?_ _ _
        refine (readable_events fetched).append (readable_flatMap (fun q mem => ?_))
        have listed : q ∈ r.pulled := by
          rw [split, ← List.singleton_append, ← List.append_assoc]
          exact List.mem_append_left _ mem
        exact (own q listed).readable
  obtain ⟨payload, marshalled⟩ := proto.pod.marshal_readable _ valid
  exact ⟨payload, marshalled,
    fun small => proto.pod.unmarshal_marshal _ _ marshalled (by omega)⟩

def resolvedMessage : RawNetworkMetricBatch :=
  ⟨[outgoing], [⟨IPv4.int32 ⟨8, 8, 8, 8⟩, utf8 "example.com"⟩]⟩

theorem fetched_resolvedBatch : (resolvedBatch (utf8 "example.com")).Fetched .wire := by
  refine ⟨"10.0.0.7:6060",
    .ok ⟨200, .ok (appendFields (rawNetworkMetricBatch.written resolvedMessage))⟩, resolvedMessage,
    ?_, rfl, rfl⟩
  refine fetch_ok_iff.mpr ⟨rfl, _, _, rfl, rfl, rfl, ?_⟩
  exact Protobuf.wire.raw.unmarshal_marshal resolvedMessage _
    (marshal_wire_raw (by decide +kernel)) (by decide +kernel)

theorem exported_batch_marshals_one_batch :
    (resolvedBatch (utf8 "example.com")).Fetched .wire ∧
    ∃ payload, Protobuf.wire.pod.marshal
        ((RoundEvent.round ⟨onePodWatcher, (), [resolvedBatch (utf8 "example.com")]⟩).run .documented
          (storageAfter (σ := Unit) .documented .documented [])).1 = .ok payload := by
  have own : ∀ p ∈ [resolvedBatch (utf8 "example.com")], p.Fetched .wire := by
    intro p mem
    rw [List.mem_singleton.mp mem]
    exact fetched_resolvedBatch
  obtain ⟨payload, ok, _⟩ := exported_batch_marshals .documented .wire .documented []
    ⟨onePodWatcher, (), [resolvedBatch (utf8 "example.com")]⟩ nofun own
  exact ⟨fetched_resolvedBatch, payload, ok⟩

end Pushed

end Egressd.Exporter
