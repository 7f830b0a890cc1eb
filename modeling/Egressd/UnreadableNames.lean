import Egressd.DNSRecords
import Egressd.Fetches

set_option autoImplicit false

namespace Egressd.UnreadableNames
open ProtoWire GenericsCache DNSResolutions PartialRuns CollectorModel CollectorHandler
open CollectorRuns MetricsPb Fetches

def Answers (ip : Int32) (a : DNSResourceRecord) : Prop :=
  a.type = dnsTypeA ∧ ∃ x, stdIPv4 a.ip = some x ∧ x.int32 = ip

def Aliases (name : Bytes) (a : DNSResourceRecord) : Prop :=
  a.type = dnsTypeCNAME ∧ a.cname = name

def LeavesAlone (name : Bytes) : Act → Prop
  | .event _ ev => ∀ a ∈ ev.answers, ¬ Aliases name a
  | .deleteExpired _ _ => True

/-- Neither an answer for the address nor a pass of the names' janitor after the given time. -/
def Spares (ip : Int32) (expiration : Time) : Act → Prop
  | .event _ ev => ∀ a ∈ ev.answers, ¬ Answers ip a
  | .deleteExpired .ipToName now => now ≤ expiration
  | .deleteExpired .cnameToName _ => True

section Caches

variable {G : GenericsCache} {N : Netaddr} {now : Time} {d d' : IP2DNS G} {a : DNSResourceRecord}

theorem lookup_answer (ok : d.answer N now a = .ok d') {ip : Int32} (h : ¬ Answers ip a) :
    (G.items d'.ipToName).lookup ip = (G.items d.ipToName).lookup ip := by
  rcases answer_iff.mp ok with ⟨type, x, address, rfl⟩ | ⟨_, rfl⟩ | ⟨_, _, rfl⟩
  · have other : ip ≠ x.int32 := fun same => h ⟨type, x, address, same.symm⟩
    exact (lookup_set ..).trans (if_neg other)
  · rfl
  · rfl

theorem alias_answer (ok : d.answer N now a = .ok d') {name : Bytes} (h : ¬ Aliases name a) :
    (G.items d'.cnameToName).lookup name = (G.items d.cnameToName).lookup name := by
  rcases answer_iff.mp ok with ⟨_, _, _, rfl⟩ | ⟨type, rfl⟩ | ⟨_, _, rfl⟩
  · rfl
  · have other : name ≠ a.cname := fun same => h ⟨type, same.symm⟩
    exact (lookup_set ..).trans (if_neg other)
  · rfl

theorem alias_answers {as : List DNSResourceRecord} (run : Runs (IP2DNS.answer N now) d as d')
    {name : Bytes} (h : ∀ a ∈ as, ¬ Aliases name a)
    (unknown : (G.items d.cnameToName).lookup name = none) :
    (G.items d'.cnameToName).lookup name = none := by
  refine run.invariant (fun d => (G.items d.cnameToName).lookup name = none)
    (fun a => ¬ Aliases name a) ?_ unknown h
  intro d a d' unknown h ok
  rw [alias_answer ok h, unknown]

theorem alias_act {act : Act} {name : Bytes} (h : LeavesAlone name act)
    (ok : d.act N act = .ok d') (unknown : (G.items d.cnameToName).lookup name = none) :
    (G.items d'.cnameToName).lookup name = none := by
  cases act with
  | event now ev => exact alias_answers (runs_iff_foldlM.mpr ok) h unknown
  | deleteExpired janitor now =>
    cases ok
    by_contra known
    obtain ⟨item, found⟩ := Option.ne_none_iff_exists'.mp known
    rw [alias_of_swept found] at unknown
    cases unknown

theorem spared_answers {as : List DNSResourceRecord} (run : Runs (IP2DNS.answer N now) d as d')
    {ip : Int32} {item : Item Bytes} (h : ∀ a ∈ as, ¬ Answers ip a)
    (found : (G.items d.ipToName).lookup ip = some item) :
    (G.items d'.ipToName).lookup ip = some item := by
  refine run.invariant (fun d => (G.items d.ipToName).lookup ip = some item)
    (fun a => ¬ Answers ip a) ?_ found h
  intro d a d' found h ok
  rw [lookup_answer ok h, found]

theorem spared_act {act : Act} {ip : Int32} {item : Item Bytes} (h : Spares ip item.expiration act)
    (ok : d.act N act = .ok d') (found : (G.items d.ipToName).lookup ip = some item) :
    (G.items d'.ipToName).lookup ip = some item := by
  cases act with
  | event now ev => exact spared_answers (runs_iff_foldlM.mpr ok) h found
  | deleteExpired janitor now =>
    cases ok
    cases janitor with
    | ipToName =>
      have kept : item.expired now = false := expired_eq_false_iff.mpr h
      change (G.items (G.deleteExpired d.ipToName now)).lookup ip = some item
      rw [lookup_deleteExpired, found, Option.filter_eq_some_iff]
      exact ⟨rfl, by rw [kept]; rfl⟩
    | cnameToName => exact found

theorem lookup_after_answer {early later : List Act} {as bs : List DNSResourceRecord} {x : IPv4}
    (run : Runs (IP2DNS.act N) .empty (early ++ .event now ⟨as ++ a :: bs⟩ :: later) d)
    (type : a.type = dnsTypeA) (address : stdIPv4 a.ip = some x)
    (unaliased : ∀ act ∈ early, LeavesAlone a.name act) (unaliased' : ∀ b ∈ as, ¬ Aliases a.name b)
    (last : ∀ b ∈ bs, ¬ Answers x.int32 b)
    (spared : ∀ act ∈ later, Spares x.int32 (now + defaultDNSTTL) act) :
    (G.items d.ipToName).lookup x.int32 = some ⟨a.name, now + defaultDNSTTL⟩ := by
  obtain ⟨d₁, before, rest⟩ := run.split
  have unknown : (G.items d₁.cnameToName).lookup a.name = none :=
    before.invariant (fun d => (G.items d.cnameToName).lookup a.name = none) (LeavesAlone a.name)
      (fun _ _ _ unknown h ok => alias_act h ok unknown) (lookup_new _) unaliased
  cases rest with
  | next event after =>
    obtain ⟨d₂, answers, remaining⟩ := (runs_iff_foldlM.mpr event).split
    cases remaining with
    | next answered others =>
      have alone := alias_answers answers unaliased' unknown
      rw [answer_address N now d₂ type address, get_of_absent alone] at answered
      cases answered
      have stored := spared_answers others last (lookup_set_self ..)
      refine after.invariant
        (fun d => (G.items d.ipToName).lookup x.int32 = some ⟨a.name, now + defaultDNSTTL⟩)
        (Spares x.int32 (now + defaultDNSTTL)) ?_ stored spared
      exact fun _ _ _ found h ok => spared_act h ok found

end Caches

section Endpoint

variable {κ : Type} [DecidableEq κ]

theorem handler_of_not_sendable (Z : Codecs) (cfg : Config) (c : Collector κ)
    {call : HandlerCall κ} (h : ¬ Sendable call) :
    getRawNetworkMetricsHandler Z.encoders cfg c call =
      ⟨c, Response.empty.writeHeader 500, .marshalFailed invalidUTF8⟩ := by
  have failed : Z.encoders.marshal (batchOf c call) = .error invalidUTF8 :=
    Z.proto.raw.marshal_unreadable (batchOf c call) h
  simp only [getRawNetworkMetricsHandler, failed]

/-- An address was answered under a name that is not UTF-8 and that no answer before it has made an
    alias. As long as the address is not answered again and the janitor of the names has not run
    after the two minutes of the entry, a handler call that reads the entry in time fails, sends no
    batch and changes nothing. -/
theorem unreadable_name_blocks_endpoint {G : GenericsCache} {N : Netaddr} {early later : List Act}
    {as bs : List DNSResourceRecord} {a : DNSResourceRecord} {now : Time} {x : IPv4} {d : IP2DNS G}
    (run : Runs (IP2DNS.act N) .empty (early ++ .event now ⟨as ++ a :: bs⟩ :: later) d)
    (type : a.type = dnsTypeA) (address : stdIPv4 a.ip = some x)
    (unreadable : validString a.name = false)
    (unaliased : ∀ act ∈ early, LeavesAlone a.name act) (unaliased' : ∀ b ∈ as, ¬ Aliases a.name b)
    (last : ∀ b ∈ bs, ¬ Answers x.int32 b)
    (spared : ∀ act ∈ later, Spares x.int32 (now + DNSResolutions.defaultDNSTTL) act)
    (o : Finmap.VisitOrder Int32) (clock : Int32 → Time)
    (unexpired : clock x.int32 ≤ now + DNSResolutions.defaultDNSTTL) (Z : Codecs) (cfg : Config)
    (c : Collector κ) (call : HandlerCall κ) (records : call.records = d.records o clock) :
    (getRawNetworkMetricsHandler Z.encoders cfg c call).outcome = .marshalFailed invalidUTF8 ∧
    (getRawNetworkMetricsHandler Z.encoders cfg c call).collector = c ∧
    ∀ url answer,
      Arrives Z (getRawNetworkMetricsHandler Z.encoders cfg c call).response answer →
        ∃ err, fetchRawNetworkMetricsBatch Z.proto url (.ok ()) answer = .error err := by
  have found := lookup_after_answer run type address unaliased unaliased' last spared
  have fresh : Item.expired ⟨a.name, now + DNSResolutions.defaultDNSTTL⟩ (clock x.int32) = false :=
    expired_eq_false_iff.mpr unexpired
  have blocked : ¬ Sendable call := by
    intro sendable
    have listed : (⟨x.int32, a.name⟩ : IP2Domain) ∈ call.records := by
      rw [records]
      refine mem_records.mpr ⟨_, found, ?_⟩
      rw [fresh]
      rfl
    have valid := sendable _ listed
    rw [unreadable] at valid
    cases valid
  have handled := handler_of_not_sendable Z cfg c blocked
  refine ⟨by rw [handled], by rw [handled], fun url answer arrives => ?_⟩
  cases fetched : fetchRawNetworkMetricsBatch Z.proto url (.ok ()) answer with
  | error err => exact ⟨err, rfl⟩
  | ok batch => exact absurd ((fetched_iff url (.ok ()) batch arrives).mp fetched).2.2.2.1 blocked

def unreadableEvent : DNSEvent :=
  ⟨[addressAnswer [255], ⟨[97], dnsTypeA, [8, 8, 4, 4], []⟩]⟩

theorem unreadable_name_blocks_endpoint_one_minute : ∃ d : IP2DNS .documented,
    Runs (IP2DNS.act .documented) .empty [.event 0 unreadableEvent,
      .deleteExpired .ipToName (30 * second), .deleteExpired .cnameToName (5 * minute)] d ∧
    (getRawNetworkMetricsHandler Codecs.stored.encoders ⟨false, true⟩ HandlerWrites.pendingCollector
      { sampleCall ⟨["gzip"]⟩ ⟨fun _ _ => none⟩ with
        records := d.records (.first (IPv4.int32 ⟨8, 8, 8, 8⟩)) (fun _ => minute) }).outcome =
      .marshalFailed invalidUTF8 := by
  have run : Runs (IP2DNS.act (G := .documented) .documented) .empty
      ([] ++ .event 0 ⟨[] ++ addressAnswer [255] :: [⟨[97], dnsTypeA, [8, 8, 4, 4], []⟩]⟩ ::
        [.deleteExpired .ipToName (30 * second), .deleteExpired .cnameToName (5 * minute)]) _ :=
    .next rfl (.next rfl (.next rfl (.refl _)))
  refine ⟨_, run, (unreadable_name_blocks_endpoint run rfl (x := ⟨8, 8, 8, 8⟩) rfl ?_ nofun nofun ?_ ?_
    (.first _) (fun _ => minute) ?_ .stored ⟨false, true⟩ HandlerWrites.pendingCollector _ rfl).1⟩
  · decide +kernel
  · intro b mem
    rw [List.mem_singleton.mp mem]
    rintro ⟨_, x, address, same⟩
    cases address
    exact absurd same (by decide)
  · intro act mem
    rcases List.mem_cons.mp mem with rfl | mem
    · change (30 * second : ℤ) ≤ 0 + 2 * minute
      decide
    · rw [List.mem_singleton.mp mem]
      trivial
  · decide

end Endpoint

end Egressd.UnreadableNames
