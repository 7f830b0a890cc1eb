import Egressd.CollectorDelta
import Egressd.ExporterRounds
import Egressd.Pipeline
import Egressd.SinkPayloads

set_option autoImplicit false

namespace Egressd.ExportAccounting
open Finmap Conntrack CollectorModel CollectorSteps Kube Exporter Fetches
open Histories MetricsPb SinkPayloads Pipeline

def podCounter (m : PodNetworkMetric) : CounterField → Int64
  | .txBytes => m.txBytes
  | .txPackets => m.txPackets
  | .rxBytes => m.rxBytes
  | .rxPackets => m.rxPackets

def Names (m : PodNetworkMetric) (g : Group) : Prop :=
  m.srcIp = dotted g.src ∧ m.dstIp = dotted g.dst ∧ m.proto = Int32.ofNat g.proto.toNat

instance (m : PodNetworkMetric) (g : Group) : Decidable (Names m g) :=
  inferInstanceAs (Decidable (_ ∧ _ ∧ _))

def rawValue (items : List PbRawNetworkMetric) (g : Group) (k : CounterField) : Int64 :=
  ((items.filter (fun m => CollectorSteps.Carries m g)).map (·.counter k)).sum

def podValue (ms : List PodNetworkMetric) (g : Group) (k : CounterField) : Int64 :=
  ((ms.filter (fun m => Names m g)).map (fun m => podCounter m k)).sum

def skippedItems (items : List (PbRawNetworkMetric × Time))
    (results : List (Except BuildError PodNetworkMetric)) : List PbRawNetworkMetric :=
  ((items.zip results).filter (fun p => !p.2.isOk)).map (fun p => p.1.1)

variable {G : GenericsCache} {σ : Type}

def roundMetrics (r : Round σ) : List PbRawNetworkMetric :=
  r.pulled.flatMap (fun p => p.items.map Prod.fst)

def roundSkipped (N : Netaddr) (d : DnsStorage G) (r : Round σ) : List PbRawNetworkMetric :=
  (r.pulled.zip (results N r.watcher ⟨r.state, d, [], []⟩ r.pulled)).flatMap
    (fun p => skippedItems p.1.items p.2)

section Values

variable {N : Netaddr} {W : KubeWatcher σ} {g : Group} {k : CounterField}

theorem rawValue_cons (m : PbRawNetworkMetric) (ms : List PbRawNetworkMetric) :
    rawValue (m :: ms) g k =
      (if CollectorSteps.Carries m g then m.counter k else 0) + rawValue ms g k := by
  unfold rawValue
  rw [List.filter_cons]
  by_cases carries : CollectorSteps.Carries m g
  · simp [carries]
  · simp [carries]

theorem rawValue_append (ms ms' : List PbRawNetworkMetric) :
    rawValue (ms ++ ms') g k = rawValue ms g k + rawValue ms' g k := by
  induction ms with
  | nil => exact (Int64.zero_add _).symm
  | cons m ms ih => rw [List.cons_append, rawValue_cons, rawValue_cons, ih, Int64.add_assoc]

theorem podValue_cons (m : PodNetworkMetric) (ms : List PodNetworkMetric) :
    podValue (m :: ms) g k = (if Names m g then podCounter m k else 0) + podValue ms g k := by
  unfold podValue
  rw [List.filter_cons]
  by_cases names : Names m g
  · simp [names]
  · simp [names]

theorem podValue_append (ms ms' : List PodNetworkMetric) :
    podValue (ms ++ ms') g k = podValue ms g k + podValue ms' g k := by
  induction ms with
  | nil => exact (Int64.zero_add _).symm
  | cons m ms ih => rw [List.cons_append, podValue_cons, podValue_cons, ih, Int64.add_assoc]

theorem add_left_swap (a b c : Int64) : a + (b + c) = b + (a + c) := by grind

theorem add_add_swap (a b c d : Int64) : a + b + (c + d) = a + c + (b + d) := by grind

theorem built_value {lookup : Int32 → Bytes} {s : σ} {conn : PbRawNetworkMetric}
    {m : PodNetworkMetric} (built : (buildPodNetworkMetric N W lookup s conn).1 = .ok m) :
    (Names m g ↔ CollectorSteps.Carries conn g) ∧ podCounter m k = conn.counter k := by
  obtain ⟨pod, srcZone, dest, dstDnsName, _, rfl⟩ := podMetric_of_build built
  have address : ∀ (v : Int32) (x : IPv4), dotted (ipFromInt32 v) = dotted x ↔ v = x.int32 := by
    intro v x
    rw [dotted_injective.eq_iff]
    constructor
    · intro same
      rw [← same, int32_ipFromInt32]
    · intro same
      rw [same, ipFromInt32_int32]
  constructor
  · rw [Names, srcIp_podMetric, dstIp_podMetric]
    exact and_congr (address _ _) (and_congr (address _ _) Iff.rfl)
  · cases k <;> rfl

theorem itemResults_value (d : DnsStorage G) (s : σ) (items : List (PbRawNetworkMetric × Time)) :
    rawValue (items.map Prod.fst) g k =
      podValue ((itemResults N W d s items).filterMap Except.toOption) g k +
        rawValue (skippedItems items (itemResults N W d s items)) g k := by
  induction items generalizing s with
  | nil => rfl
  | cons item items ih =>
    have rest := ih (buildPodNetworkMetric N W (d.lookup item.2) s item.1).2
    rw [List.map_cons, rawValue_cons, itemResults_cons, skippedItems, List.zip_cons_cons, rest]
    cases built : (buildPodNetworkMetric N W (d.lookup item.2) s item.1).1 with
    | ok m =>
      have same := built_value (g := g) (k := k) built
      have kept : (Except.ok m : Except BuildError PodNetworkMetric).toOption = some m := rfl
      rw [List.filterMap_cons_some kept, podValue_cons, List.filter_cons_of_neg (by rintro ⟨⟩)]
      simp only [same.1, same.2]
      exact (Int64.add_assoc ..).symm
    | error err =>
      have left : (Except.error err : Except BuildError PodNetworkMetric).toOption = none := rfl
      rw [List.filterMap_cons_none left, List.filter_cons_of_pos rfl, List.map_cons, rawValue_cons]
      exact add_left_swap _ _ _

theorem results_value (a : Aggregation G σ) (pulled : List Pulled) :
    rawValue (pulled.flatMap (fun p => p.items.map Prod.fst)) g k =
      podValue ((results N W a pulled).flatten.filterMap Except.toOption) g k +
        rawValue ((pulled.zip (results N W a pulled)).flatMap
          (fun p => skippedItems p.1.items p.2)) g k := by
  induction pulled generalizing a with
  | nil => rfl
  | cons p pulled ih =>
    have first := itemResults_value (N := N) (W := W) (g := g) (k := k)
      (a.dnsStorage.fill p.ip2Domain) a.watcher p.items
    rw [results_cons, List.flatMap_cons, rawValue_append, first, ih (aggregateBatch N W a p),
      List.flatten_cons, List.filterMap_append, podValue_append, List.zip_cons_cons,
      List.flatMap_cons, rawValue_append]
    exact add_add_swap _ _ _ _

theorem round_value (d : DnsStorage G) (r : Round σ) :
    rawValue (roundMetrics r) g k =
      podValue ((RoundEvent.round r).run N d).1 g k + rawValue (roundSkipped N d r) g k := by
  change _ = podValue (aggregate N r.watcher ⟨r.state, d, [], []⟩ r.pulled).podsMetrics g k + _
  rw [podsMetrics_aggregate, List.nil_append]
  exact results_value _ _

end Values

/-- What becomes of the attempts of a push: what `Do` returns, and whether the request gets to the
    gateway. It may get there although no response comes back. -/
structure Network where
  outcomes : ℕ → Except Error Response
  reaches : ℕ → Bool

inductive ExportEvent (σ : Type) where
  | round (r : Round σ) (o : VisitOrder String) (net : Network)
  | deleteExpired (now : Time)

/-- The storage of the exporter, and what has become of the metrics that it pulled. -/
structure Books (G : GenericsCache) where
  dnsStorage : DnsStorage G
  pulled : List PbRawNetworkMetric
  skipped : List PbRawNetworkMetric
  exported : List (List PodNetworkMetric)
  arrived : List (List PodNetworkMetric)
  unread : List (List PodNetworkMetric)

def Books.empty : Books G := ⟨.new G, [], [], [], [], []⟩

section Sink

variable {Z : Codecs} (gateway : Gateway Z) (env : Environment) (cfg : SinkHTTPConfig)
  (binVersion : String)

/-- What the gateway reads out of the attempts of a push. -/
def gatewayReads (o : VisitOrder String) (net : Network) (batch : List PodNetworkMetric) :
    List (List PodNetworkMetric) :=
  match prepare (env.packages Z) cfg o binVersion batch,
      push (env.packages Z) cfg o binVersion net.outcomes batch with
  | .ok req, .ok result =>
    result.attempts.zipIdx.filterMap (fun a =>
      if net.reaches a.2 then gateway.decode { req with body := a.1.sent } else none)
  | _, _ => []

def Books.step (N : Netaddr) (s : Books G) : ExportEvent σ → Books G
  | .round r o net =>
    let (batch, dnsStorage) := (RoundEvent.round r).run N s.dnsStorage
    let reads := gatewayReads gateway env cfg binVersion o net batch
    { dnsStorage := dnsStorage
      pulled := s.pulled ++ roundMetrics r
      skipped := s.skipped ++ roundSkipped N s.dnsStorage r
      exported := s.exported ++ [batch]
      arrived := s.arrived ++ reads
      unread := if reads.isEmpty then s.unread ++ [batch] else s.unread }
  | .deleteExpired now => { s with dnsStorage := ⟨G.deleteExpired s.dnsStorage.ipToName now⟩ }

def booksAfter (G : GenericsCache) (N : Netaddr) (events : List (ExportEvent σ)) : Books G :=
  events.foldl (Books.step gateway env cfg binVersion N) .empty

end Sink

section Runs

variable {Z : Codecs} {gateway : Gateway Z} {env : Environment} {cfg : SinkHTTPConfig}
  {binVersion : String} {N : Netaddr}

theorem gatewayReads_of_prepare (gateway : Gateway Z) {o : VisitOrder String} (net : Network)
    {batch : List PodNetworkMetric} (fits : Fits Z batch) {req : Request}
    (ready : prepare (env.packages Z) cfg o binVersion batch = .ok req) :
    gatewayReads gateway env cfg binVersion o net batch =
      if net.reaches 0 = true ∧ (cfg.compression = .gzip ∨
        configured env cfg o "Content-Encoding" = none ∨
        configured env cfg o "Content-Encoding" = some "identity") then [batch] else [] := by
  have decoded := decode_eq gateway ready fits
  unfold gatewayReads
  rw [push_of_prepare ready, ready]
  simp only [List.zipIdx_cons, List.zipIdx_nil, List.filterMap_cons, List.filterMap_nil]
  cases net.reaches 0 with
  | false => simp
  | true =>
    split at decoded
    · rename_i announced
      simp only [decoded, announced, if_true, and_self]
    · rename_i unannounced
      simp only [decoded, unannounced, if_true, and_false, if_false]

theorem gatewayReads_cases (gateway : Gateway Z) (env : Environment) (cfg : SinkHTTPConfig)
    (binVersion : String) (o : VisitOrder String) (net : Network) {batch : List PodNetworkMetric}
    (fits : Fits Z batch) : gatewayReads gateway env cfg binVersion o net batch = [] ∨
      gatewayReads gateway env cfg binVersion o net batch = [batch] := by
  cases ready : prepare (env.packages Z) cfg o binVersion batch with
  | error err =>
    refine .inl ?_
    unfold gatewayReads
    rw [ready]
  | ok req =>
    rw [gatewayReads_of_prepare gateway net fits ready]
    split
    · exact .inr rfl
    · exact .inl rfl

/-- Everything pulled has gone one of three ways, and no batch has arrived twice. -/
structure Balanced (s : Books G) : Prop where
  value : ∀ g k, rawValue s.pulled g k =
    podValue s.arrived.flatten g k + podValue s.unread.flatten g k + rawValue s.skipped g k
  once : s.arrived.Sublist s.exported

theorem Balanced.round {s : Books G} (h : Balanced s) (r : Round σ) (o : VisitOrder String)
    (net : Network) (fits : Fits Z ((RoundEvent.round r).run N s.dnsStorage).1) :
    Balanced (s.step gateway env cfg binVersion N (.round r o net)) := by
  have pulled := fun g k => round_value (N := N) (g := g) (k := k) s.dnsStorage r
  rcases gatewayReads_cases gateway env cfg binVersion o net fits with reads | reads
  · refine ⟨fun g k => ?_, ?_⟩
    · simp only [Books.step, reads, List.append_nil, List.isEmpty_nil, if_true, rawValue_append,
        pulled, h.value, List.flatten_append, List.flatten_singleton, podValue_append]
      grind
    · simp only [Books.step, reads, List.append_nil]
      exact h.once.trans (List.sublist_append_left _ _)
  · refine ⟨fun g k => ?_, ?_⟩
    · simp only [Books.step, reads, List.isEmpty_cons, Bool.false_eq_true, if_false, rawValue_append,
        pulled, h.value, List.flatten_append, List.flatten_singleton, podValue_append]
      grind
    · simp only [Books.step, reads]
      exact h.once.append (List.Sublist.refl _)

theorem balanced_after (events : List (ExportEvent σ))
    (fits : ∀ batch ∈ (booksAfter gateway env cfg binVersion G N events).exported, Fits Z batch) :
    Balanced (booksAfter gateway env cfg binVersion G N events) := by
  unfold booksAfter at fits ⊢
  revert fits
  refine foldl_history (fun _ (s : Books G) => (∀ batch ∈ s.exported, Fits Z batch) → Balanced s)
    ?_ ?_ events
  · intro _
    exact ⟨fun _ _ => rfl, List.Sublist.refl _⟩
  · intro _ s event ih fits
    cases event with
    | round r o net =>
      have before : ∀ batch ∈ s.exported, Fits Z batch :=
        fun batch mem => fits batch (List.mem_append_left _ mem)
      exact (ih before).round r o net (fits _ (List.mem_append_right _ List.mem_cons_self))
    | deleteExpired now =>
      have same := ih fits
      exact ⟨same.value, same.once⟩

end Runs

end Egressd.ExportAccounting
