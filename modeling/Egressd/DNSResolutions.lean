import Egressd.GenericsCache
import Egressd.Netaddr
import Egressd.PartialRuns

set_option autoImplicit false

namespace Egressd.DNSResolutions
open GenericsCache PartialRuns

abbrev DNSType := UInt16

def dnsTypeA : DNSType := 1

def dnsTypeCNAME : DNSType := 5

structure DNSResourceRecord where
  name : Bytes
  type : DNSType
  ip : Bytes
  cname : Bytes
  deriving DecidableEq, Repr

structure DNSEvent where
  answers : List DNSResourceRecord
  deriving DecidableEq, Repr

def defaultDNSTTL : Duration := 2 * minute

structure IP2DNS (G : GenericsCache) where
  ipToName : G.Cache Int32 Bytes
  cnameToName : G.Cache Bytes Bytes

variable {G : GenericsCache}

def IP2DNS.empty : IP2DNS G := ⟨G.new _ _, G.new _ _⟩

/-- The body of the loop over the answers of an event. -/
def IP2DNS.answer (N : Netaddr) (now : Time) (d : IP2DNS G) (answer : DNSResourceRecord) :
    Except Panic (IP2DNS G) :=
  let name := answer.name
  if answer.type = dnsTypeA then do
    let name := (G.get d.cnameToName now name).getD name
    let (ip, _) := N.fromStdIP answer.ip
    return { d with ipToName := G.set d.ipToName now (← toIPint32 N ip) name defaultDNSTTL }
  else if answer.type = dnsTypeCNAME then
    let cname := answer.cname
    return { d with cnameToName := G.set d.cnameToName now cname name defaultDNSTTL }
  else
    return d

/-- What the `select` of the loop can receive; an event is handled at one time. -/
inductive Signal where
  | ctxDone (err : Error)
  | tracerDone (err : Option Error)
  | event (now : Time) (ev : DNSEvent)
  | closed

inductive Status where
  | waiting
  | returned (err : Option Error)
  deriving DecidableEq, Repr

def IP2DNS.loop (N : Netaddr) (d : IP2DNS G) : List Signal → Except Panic (IP2DNS G × Status)
  | [] => return (d, .waiting)
  | .ctxDone err :: _ => return (d, .returned (some err))
  | .tracerDone (some err) :: _ => return (d, .returned (some ("running tracer: " ++ err)))
  | .tracerDone none :: _ => return (d, .returned none)
  | .closed :: _ => return (d, .returned none)
  | .event now ev :: signals => do
    let d ← ev.answers.foldlM (IP2DNS.answer N now) d
    d.loop N signals

def IP2DNS.start (G : GenericsCache) (N : Netaddr) (signals : List Signal) :
    Except Panic (IP2DNS G × Status) := IP2DNS.empty.loop N signals

theorem answer_iff {N : Netaddr} {now : Time} {d d' : IP2DNS G} {a : DNSResourceRecord} :
    d.answer N now a = .ok d' ↔
      (a.type = dnsTypeA ∧ ∃ x, stdIPv4 a.ip = some x ∧ d' = { d with
        ipToName := G.set d.ipToName now x.int32 ((G.get d.cnameToName now a.name).getD a.name)
          defaultDNSTTL }) ∨
      (a.type = dnsTypeCNAME ∧ d' = { d with
        cnameToName := G.set d.cnameToName now a.cname a.name defaultDNSTTL }) ∨
      (a.type ≠ dnsTypeA ∧ a.type ≠ dnsTypeCNAME ∧ d' = d) := by
  have differ : dnsTypeA ≠ dnsTypeCNAME := by decide
  unfold IP2DNS.answer
  by_cases isA : a.type = dnsTypeA
  · rw [if_pos isA, isA]
    cases ip : stdIPv4 a.ip with
    | none =>
      obtain ⟨p, hp⟩ := as4_fromStdIP_of_none N ip
      simp [toIPint32, hp, differ, bind, Except.bind]
    | some x =>
      have int32 := toIPint32_of_as4 (N.as4_v4 x)
      rw [← fromStdIP_of_stdIPv4 N ip] at int32
      simp [int32, differ, bind, Except.bind, pure, Except.pure, eq_comm]
  · rw [if_neg isA]
    by_cases isCNAME : a.type = dnsTypeCNAME
    · rw [if_pos isCNAME]
      simp [isCNAME, differ.symm, pure, Except.pure, eq_comm]
    · rw [if_neg isCNAME]
      simp [isA, isCNAME, pure, Except.pure, eq_comm]

theorem answer_ok_iff (N : Netaddr) (now : Time) (d : IP2DNS G) (a : DNSResourceRecord) :
    (∃ d', d.answer N now a = .ok d') ↔ (a.type = dnsTypeA → stdIPv4 a.ip ≠ none) := by
  simp only [answer_iff]
  constructor
  · rintro ⟨d', ⟨_, x, ip, _⟩ | ⟨isCNAME, _⟩ | ⟨notA, _⟩⟩ isA
    · simp [ip]
    · rw [isA] at isCNAME
      exact absurd isCNAME (by decide)
    · exact absurd isA notA
  · intro ok
    by_cases isA : a.type = dnsTypeA
    · obtain ⟨x, ip⟩ := Option.ne_none_iff_exists'.mp (ok isA)
      exact ⟨_, .inl ⟨isA, x, ip, rfl⟩⟩
    · by_cases isCNAME : a.type = dnsTypeCNAME
      · exact ⟨_, .inr (.inl ⟨isCNAME, rfl⟩)⟩
      · exact ⟨_, .inr (.inr ⟨isA, isCNAME, rfl⟩)⟩

def IP2DNS.event (N : Netaddr) (d : IP2DNS G) (e : Time × DNSEvent) : Except Panic (IP2DNS G) :=
  e.2.answers.foldlM (IP2DNS.answer N e.1) d

def events (es : List (Time × DNSEvent)) : List Signal := es.map (fun e => .event e.1 e.2)

theorem loop_events {N : Netaddr} {d d' : IP2DNS G} {es : List (Time × DNSEvent)} :
    d.loop N (events es) = .ok (d', .waiting) ↔ Runs (IP2DNS.event N) d es d' := by
  rw [runs_iff_foldlM]
  induction es generalizing d with
  | nil => simp [events, IP2DNS.loop, pure, Except.pure]
  | cons e es ih =>
    rw [List.foldlM_cons, bind_ok]
    change (do let d ← d.event N e; d.loop N (events es)) = _ ↔ _
    rw [bind_ok]
    simp only [ih]

/-- The loop processes a sequence of events without a panic, and no answer with other data
    changes an address, exactly if the data of every A answer is an IPv4 address. -/
theorem events_processed_iff (N : Netaddr) (d : IP2DNS G) (es : List (Time × DNSEvent)) :
    ((∃ d', d.loop N (events es) = .ok (d', .waiting)) ∧
      ∀ now (c c' : IP2DNS G) a, c.answer N now a = .ok c' → stdIPv4 a.ip = none →
        c'.ipToName = c.ipToName) ↔
    ∀ e ∈ es, ∀ a ∈ e.2.answers, a.type = dnsTypeA → stdIPv4 a.ip ≠ none := by
  have each : ∀ (d : IP2DNS G) e, (∃ d', d.event N e = .ok d') ↔
      ∀ a ∈ e.2.answers, a.type = dnsTypeA → stdIPv4 a.ip ≠ none := by
    intro d e
    simp only [IP2DNS.event, ← runs_iff_foldlM]
    exact exists_run_iff _ (answer_ok_iff N e.1) d e.2.answers
  have untouched : ∀ now (c c' : IP2DNS G) a, c.answer N now a = .ok c' → stdIPv4 a.ip = none →
      c'.ipToName = c.ipToName := by
    intro now c c' a h ip
    rcases answer_iff.mp h with ⟨_, x, some, _⟩ | ⟨_, rfl⟩ | ⟨_, _, rfl⟩
    · rw [ip] at some
      cases some
    · rfl
    · rfl
  simp only [loop_events, exists_run_iff _ each]
  exact ⟨fun h => h.1, fun h => ⟨h, untouched⟩⟩

theorem empty_answer_panics :
    IP2DNS.start .documented .documented [.event 0 ⟨[⟨[], dnsTypeA, [], []⟩]⟩] =
      .error .as4ZeroValue := rfl

end Egressd.DNSResolutions
