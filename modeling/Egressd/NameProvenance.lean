import Egressd.ExporterRounds
import Egressd.UnreadableNames

set_option autoImplicit false

namespace Egressd.NameProvenance
open GenericsCache PartialRuns DNSResolutions CollectorModel CollectorHandler Exporter Fetches
open UnreadableNames MetricsPb Finmap

variable {G : GenericsCache}

def answers (acts : List Act) : List (Time × DNSResourceRecord) :=
  acts.flatMap (fun
    | .event now ev => ev.answers.map (now, ·)
    | .deleteExpired _ _ => [])

/-- An answer at the given time was about the address. The name is its own, or the one that an
    alias to it, which had not expired then, was asked for. -/
def Resolved (as : List (Time × DNSResourceRecord)) (ip : Int32) (name : Bytes) (t : Time) : Prop :=
  ∃ bs a cs, as = bs ++ (t, a) :: cs ∧ Answers ip a ∧
    (a.name = name ∨ ∃ b ∈ bs, Aliases a.name b.2 ∧ b.2.name = name ∧
      t ≤ b.1 + DNSResolutions.defaultDNSTTL)

theorem Resolved.append {as : List (Time × DNSResourceRecord)} {ip : Int32} {name : Bytes}
    {t : Time} (h : Resolved as ip name t) (bs : List (Time × DNSResourceRecord)) :
    Resolved (as ++ bs) ip name t := by
  obtain ⟨before, a, after, rfl, about, named⟩ := h
  exact ⟨before, a, after ++ bs, List.append_assoc .., about, named⟩

structure Learned (as : List (Time × DNSResourceRecord)) (d : IP2DNS G) : Prop where
  domains : ∀ ip item, (G.items d.ipToName).lookup ip = some item → ∃ t, Resolved as ip item.value t ∧
    item.expiration = t + DNSResolutions.defaultDNSTTL
  aliased : ∀ cname item, (G.items d.cnameToName).lookup cname = some item → ∃ b ∈ as,
    Aliases cname b.2 ∧ b.2.name = item.value ∧
      item.expiration = b.1 + DNSResolutions.defaultDNSTTL

theorem learned_empty : Learned [] (IP2DNS.empty (G := G)) where
  domains ip item h := by
    rw [IP2DNS.empty, lookup_new] at h
    cases h
  aliased cname item h := by
    rw [IP2DNS.empty, lookup_new] at h
    cases h

section Collectors

variable {N : Netaddr} {now : Time} {d d' : IP2DNS G} {as : List (Time × DNSResourceRecord)}

theorem Learned.append (h : Learned as d) (bs : List (Time × DNSResourceRecord)) :
    Learned (as ++ bs) d where
  domains ip item found := by
    obtain ⟨t, resolved, expiration⟩ := h.domains ip item found
    exact ⟨t, resolved.append bs, expiration⟩
  aliased cname item found := by
    obtain ⟨b, mem, rest⟩ := h.aliased cname item found
    exact ⟨b, List.mem_append_left _ mem, rest⟩

theorem Learned.resolved (h : Learned as d) {a : DNSResourceRecord} {ip : Int32}
    (about : Answers ip a) :
    Resolved (as ++ [(now, a)]) ip ((G.get d.cnameToName now a.name).getD a.name) now := by
  refine ⟨as, a, [], rfl, about, ?_⟩
  cases found : (G.items d.cnameToName).lookup a.name with
  | none =>
    rw [get_of_absent found]
    exact .inl rfl
  | some item =>
    rw [get_of_lookup found]
    split
    · exact .inl rfl
    · rename_i unexpired
      obtain ⟨b, mem, aliases, name, expiration⟩ := h.aliased a.name item found
      have fresh := expired_eq_false_iff.mp (Bool.eq_false_of_not_eq_true unexpired)
      exact .inr ⟨b, mem, aliases, name, expiration ▸ fresh⟩

theorem learned_answer {a : DNSResourceRecord} (h : Learned as d)
    (ok : d.answer N now a = .ok d') : Learned (as ++ [(now, a)]) d' := by
  have kept := h.append [(now, a)]
  rcases answer_iff.mp ok with ⟨type, x, address, rfl⟩ | ⟨type, rfl⟩ | ⟨_, _, rfl⟩
  · refine ⟨fun ip item found => ?_, kept.aliased⟩
    rw [lookup_set] at found
    split at found
    · rename_i same
      cases found
      exact ⟨now, h.resolved ⟨type, x, address, same.symm⟩, rfl⟩
    · exact kept.domains ip item found
  · refine ⟨kept.domains, fun cname item found => ?_⟩
    rw [lookup_set] at found
    split at found
    · rename_i same
      cases found
      exact ⟨(now, a), List.mem_append_right _ List.mem_cons_self, ⟨type, same.symm⟩, rfl, rfl⟩
    · exact kept.aliased cname item found
  · exact kept

theorem learned_act {acts : List Act} {act : Act} (h : Learned (answers acts) d)
    (ok : d.act N act = .ok d') : Learned (answers (acts ++ [act])) d' := by
  rw [answers, List.flatMap_append, List.flatMap_singleton]
  cases act with
  | event now ev =>
    have run : Runs (IP2DNS.answer N now) d ev.answers d' := runs_iff_foldlM.mpr ok
    refine run.history (fun bs d => Learned (answers acts ++ bs.map (now, ·)) d) (fun _ => True)
      (fun bs s a u h _ ok => ?_) ?_ (fun _ _ => trivial)
    · rw [List.map_append, ← List.append_assoc]
      exact learned_answer h ok
    · rw [List.map_nil, List.append_nil]
      exact h
  | deleteExpired janitor now =>
    cases ok
    have kept := h.append []
    exact ⟨fun ip item found => kept.domains ip item (lookup_of_swept found),
      fun cname item found => kept.aliased cname item (alias_of_swept found)⟩

theorem learned_of_run {acts : List Act} (run : Runs (IP2DNS.act N) .empty acts d) :
    Learned (answers acts) d :=
  run.history (fun acts d => Learned (answers acts) d) (fun _ => True)
    (fun _ _ _ _ h _ ok => learned_act h ok) learned_empty (fun _ _ => trivial)

theorem resolved_of_records {acts : List Act} (run : Runs (IP2DNS.act N) .empty acts d)
    {o : VisitOrder Int32} {clock : Int32 → Time} {e : IP2Domain} (mem : e ∈ d.records o clock)
    (named : e.domain ≠ []) : ∃ t, Resolved (answers acts) e.ip e.domain t ∧
      clock e.ip ≤ t + DNSResolutions.defaultDNSTTL := by
  obtain ⟨item, found, domain⟩ := mem_records.mp mem
  obtain ⟨t, resolved, expiration⟩ := (learned_of_run run).domains e.ip item found
  split at domain
  · exact absurd domain named
  · rename_i unexpired
    rw [← domain] at resolved
    exact ⟨t, resolved,
      expiration ▸ expired_eq_false_iff.mp (Bool.eq_false_of_not_eq_true unexpired)⟩

end Collectors

variable {ι κ σ : Type} [DecidableEq κ]

/-- A collector has answered the exporter with the batch, after a part of what happened to its
    caches. Its names are stored within a time after they were read. -/
def Served (G : GenericsCache) (κ : Type) [DecidableEq κ] (N : Netaddr) (Z : Codecs) (log : List Act)
    (delay : Duration) (p : Pulled) : Prop :=
  ∃ acts, ∃ d : IP2DNS G, ∃ o clock, acts <+: log ∧ Runs (IP2DNS.act N) .empty acts d ∧
    (∀ e ∈ p.ip2Domain, e.2 ≤ clock e.1.ip + delay) ∧
    ∃ cfg, ∃ (c : Collector κ) (call : HandlerCall κ), call.records = d.records o clock ∧
    ∃ answer, Arrives Z (getRawNetworkMetricsHandler Z.encoders cfg c call).response answer ∧
    ∃ url, fetchRawNetworkMetricsBatch Z.proto url (.ok ()) answer =
      .ok ⟨p.items.map Prod.fst, p.ip2Domain.map Prod.fst⟩

theorem Served.resolved {N : Netaddr} {Z : Codecs} {log : List Act} {delay : Duration} {p : Pulled}
    (h : Served G κ N Z log delay p) {e : IP2Domain × Time} (mem : e ∈ p.ip2Domain)
    (named : e.1.domain ≠ []) : ∃ t, Resolved (answers log) e.1.ip e.1.domain t ∧
      e.2 ≤ t + DNSResolutions.defaultDNSTTL + delay := by
  obtain ⟨acts, d, o, clock, ⟨later, rfl⟩, run, stored, cfg, c, call, records, answer, arrives, url,
    fetched⟩ := h
  obtain ⟨_, _, _, _, batch⟩ := (fetched_iff url (.ok ()) _ arrives).mp fetched
  have listed : e.1 ∈ d.records o clock := by
    rw [← records]
    change e.1 ∈ (batchOf c call).ip2Domain
    rw [← batch]
    exact List.mem_map_of_mem mem
  obtain ⟨t, resolved, read⟩ := resolved_of_records run listed named
  refine ⟨t, ?_, ?_⟩
  · rw [answers, List.flatMap_append]
    exact resolved.append _
  · exact (stored e mem).trans (Int.add_le_add_right read delay)

def allPulled (events : List (RoundEvent σ)) : List Pulled :=
  events.flatMap (fun
    | .round r => r.pulled
    | .deleteExpired _ => [])

theorem mem_changes_set {events : List (RoundEvent σ)} {ps : List Pulled} {t : Time} {ip : Int32}
    {value : Bytes} {expiration : Duration}
    (mem : .set t ip value expiration ∈
      events.flatMap RoundEvent.changes ++ ps.flatMap Pulled.changes) :
    ∃ p ∈ allPulled events ++ ps, (⟨ip, value⟩, t) ∈ p.ip2Domain ∧
      expiration = Exporter.defaultDNSTTL := by
  have own : ∀ ps : List Pulled, .set t ip value expiration ∈ ps.flatMap Pulled.changes →
      ∃ p ∈ ps, (⟨ip, value⟩, t) ∈ p.ip2Domain ∧ expiration = Exporter.defaultDNSTTL := by
    intro ps mem
    obtain ⟨p, here, set⟩ := List.mem_flatMap.mp mem
    obtain ⟨e, listed, eq⟩ := List.mem_map.mp set
    cases eq
    exact ⟨p, here, listed, rfl⟩
  rcases List.mem_append.mp mem with earlier | now
  · obtain ⟨event, here, set⟩ := List.mem_flatMap.mp earlier
    cases event with
    | round r =>
      obtain ⟨p, pulled, rest⟩ := own r.pulled set
      exact ⟨p, List.mem_append_left _ (List.mem_flatMap.mpr ⟨_, here, pulled⟩), rest⟩
    | deleteExpired now => cases List.mem_singleton.mp set
  · obtain ⟨p, pulled, rest⟩ := own ps now
    exact ⟨p, List.mem_append_right _ pulled, rest⟩

/-- Whatever the collectors have captured, whenever they were asked and whatever the janitors did:
    if a metric is exported with a domain name, then a collector has handled an answer about the
    destination that gives this name, at most the time to live of the collector, the delay of the
    batch and the time to live of the exporter before the name is looked up. -/
theorem exported_name_was_answered {N : Netaddr} {Z : Codecs} (log : ι → List Act) {delay : Duration}
    {before : List (RoundEvent σ)} {r : Round σ}
    (served : ∀ p ∈ allPulled before ++ r.pulled, ∃ i, Served G κ N Z (log i) delay p)
    {m : PodNetworkMetric} (mem : m ∈ ((RoundEvent.round r).run N (storageAfter G N before)).1)
    (named : m.dstDnsName ≠ []) :
    ∃ p ∈ r.pulled, ∃ item ∈ p.items,
      (∃ pod srcZone dst, m = podMetric N item.1 pod srcZone dst m.dstDnsName) ∧
      ∃ i t, Resolved (answers (log i)) item.1.dstIp m.dstDnsName t ∧
        item.2 ≤ t + DNSResolutions.defaultDNSTTL + delay + Exporter.defaultDNSTTL := by
  rcases exists_item_of_mem (a := ⟨r.state, storageAfter G N before, [], []⟩) mem with
    none | ⟨ps, p, qs, split, is, item, js, items, built⟩
  · cases none
  · refine ⟨p, by rw [split]; simp, item, by rw [items]; simp, ?_⟩
    obtain ⟨pod, srcZone, dst, rfl⟩ := domain_of_build built
    refine ⟨⟨pod, srcZone, dst, rfl⟩, ?_⟩
    simp only [podMetric] at named ⊢
    split at named
    · exact absurd rfl named
    · rename_i isPublic
      rw [if_neg isPublic]
      unfold DnsStorage.lookup at named ⊢
      rw [storage_of_batch] at named ⊢
      split at named
      · exact absurd rfl named
      · rename_i nonzero
        rw [if_neg nonzero]
        cases found : G.get (after G (before.flatMap RoundEvent.changes ++
            (ps ++ [p]).flatMap Pulled.changes)) item.2 item.1.dstIp with
        | none =>
          rw [found] at named
          exact absurd rfl named
        | some name =>
          rw [found] at named
          obtain ⟨t, expiration, set, fresh⟩ := set_of_get found
          obtain ⟨q, pulled, listed, rfl⟩ := mem_changes_set set
          obtain ⟨i, from_i⟩ := served q (by
            rw [split]
            simp only [List.mem_append, List.mem_cons, List.not_mem_nil, or_false] at pulled ⊢
            tauto)
          obtain ⟨t', resolved, stored⟩ := from_i.resolved listed named
          exact ⟨i, t', resolved, fresh.trans (Int.add_le_add_right stored _)⟩

def aliasedEvent : DNSEvent :=
  ⟨[⟨[97], dnsTypeCNAME, [], [98]⟩, addressAnswer [98]]⟩

def outgoingCollector : Collector Unit :=
  { Collector.empty Unit with podMetrics := Finmap.singleton () ⟨outgoing, 0⟩ }

theorem served_resolvedBatch (o : VisitOrder Int32) (visit : VisitOrder Unit) :
    Served .documented Unit .documented .stored [.event 0 aliasedEvent] 0 (resolvedBatch [97]) := by
  let caches := GenericsCache.documented
  let d : IP2DNS .documented :=
    ⟨caches.set (caches.new _ _) 0 (IPv4.int32 ⟨8, 8, 8, 8⟩) [97] DNSResolutions.defaultDNSTTL,
      caches.set (caches.new _ _) 0 [98] [97] DNSResolutions.defaultDNSTTL⟩
  let call : HandlerCall Unit := ⟨⟨[]⟩, ⟨fun _ _ => none⟩, d.records o (fun _ => 0), visit.keys,
    fun _ => 0, visit.visitsEachOnce⟩
  have records : call.records = [⟨IPv4.int32 ⟨8, 8, 8, 8⟩, [97]⟩] := by
    change (o.keys {IPv4.int32 ⟨8, 8, 8, 8⟩}).map _ = _
    rw [o.keys_singleton]
    rfl
  have batch : batchOf outgoingCollector call = ⟨[outgoing], [⟨IPv4.int32 ⟨8, 8, 8, 8⟩, [97]⟩]⟩ := by
    have metric : outgoingCollector.podMetrics = Finmap.singleton () ⟨outgoing, 0⟩ := rfl
    rw [batchOf_singleton call metric, records]
  have sendable : Sendable call := by
    intro r mem
    rw [records] at mem
    rw [List.mem_singleton.mp mem]
    decide +kernel
  have run : Runs (IP2DNS.act .documented) .empty [.event 0 aliasedEvent] d := .next rfl (.refl _)
  have small : ∀ body, Protobuf.wire.raw.marshal (batchOf outgoingCollector call) = .ok body →
      body.length < 2 ^ 63 := by
    intro body marshalled
    rw [batch] at marshalled
    cases marshalled
    decide +kernel
  obtain ⟨answer, arrives, fetched⟩ := fetched_plain (Z := .stored) rfl rfl sendable small
    "10.0.0.7:6060"
  refine ⟨_, d, o, fun _ => 0, List.prefix_rfl, run, ?_, ⟨false, true⟩, outgoingCollector, call, rfl,
    answer, arrives, "10.0.0.7:6060", ?_⟩
  · intro e mem
    rw [List.mem_singleton.mp mem]
    decide
  · rw [fetched, batch]
    rfl

theorem exported_name_was_answered_alias :
    let r : Round Unit := ⟨onePodWatcher, (), [resolvedBatch [97]]⟩
    outgoingMetric [97] ∈ ((RoundEvent.round r).run .documented (storageAfter (σ := Unit)
      .documented .documented [])).1 ∧
    ∃ p ∈ r.pulled, ∃ item ∈ p.items,
      (∃ pod srcZone dst, outgoingMetric [97] = podMetric .documented item.1 pod srcZone dst [97]) ∧
      ∃ t, Resolved (answers [.event 0 aliasedEvent]) item.1.dstIp [97] t ∧
        item.2 ≤ t + DNSResolutions.defaultDNSTTL + 0 + Exporter.defaultDNSTTL := by
  intro r
  have mem : outgoingMetric [97] ∈ ((RoundEvent.round r).run .documented (storageAfter (σ := Unit)
      .documented .documented [])).1 := by decide +kernel
  refine ⟨mem, ?_⟩
  have served : ∀ p ∈ allPulled (σ := Unit) [] ++ r.pulled, ∃ _ : Unit,
      Served .documented Unit .documented .stored [.event 0 aliasedEvent] 0 p := by
    intro p listed
    rw [List.mem_singleton.mp listed]
    exact ⟨(), served_resolvedBatch (.first 0) (.first ())⟩
  obtain ⟨p, pulled, item, here, own, _, t, resolved, fresh⟩ :=
    exported_name_was_answered (fun _ : Unit => [.event 0 aliasedEvent]) served mem
      (by decide)
  exact ⟨p, pulled, item, here, own, t, resolved, fresh⟩

end Egressd.NameProvenance
