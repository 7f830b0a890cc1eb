import Egressd.BoundedChannel
import Egressd.DNSRecords

set_option autoImplicit false

/-!
# From captured packets to resolutions

The tracer reads samples of the kernel's ring and sends the events in them to a
channel without waiting for room. The loop of `IP2DNS.Start` receives from that
channel, from the channel with the tracer's result and from the context, in
whatever order its `select` finds them ready.
-/
namespace Egressd.DNSTracer
open BoundedChannel PartialRuns DNSResolutions

inductive ApplicationLayer where
  | dns (ev : DNSEvent)
  | other (type : String)

/-- `gopacket.NewPacket` from the IPv4 layer on, up to the application layer. -/
abbrev NewPacket := Bytes → Option (Option ApplicationLayer)

def parseEvent (newPacket : NewPacket) (data : Bytes) : Except Error DNSEvent :=
  match newPacket data with
  | none => .error "parsing packet"
  | some none => .error "layer L7 is missing"
  | some (some (.dns ev)) => .ok ev
  | some (some (.other type)) => .error ("expected dns layer, actual type " ++ type)

/-- The event that a sample carries. The first 4 bytes are the payload's size. -/
def sampled (newPacket : NewPacket) (rawSample : Bytes) : Option DNSEvent :=
  if rawSample.length < 4 then none else (parseEvent newPacket (rawSample.drop 4)).toOption

inductive Tracer where
  | preparing
  | checking
  | reading
  | returned (err : Error)
  deriving DecidableEq, Repr

/-- The two goroutines, and the context that they share. -/
structure Tracing (G : GenericsCache) (capacity : ℕ) where
  tracer : Tracer
  events : Chan DNSEvent capacity
  ctx : Option Error
  ip2dns : IP2DNS G
  start : Status

def Tracing.new (G : GenericsCache) (capacity : ℕ) : Tracing G capacity :=
  ⟨.preparing, .make DNSEvent capacity, none, .empty, .waiting⟩

inductive Step where
  | cancelled (err : Error)
  | prepared (err : Option Error)
  | check
  | read (record : Except Error Bytes)
  | receiveDone
  | receiveResult
  | receiveEvent (now : Time)
  | deleteExpired (janitor : Janitor) (now : Time)

inductive Stop where
  | notReady
  | panic (p : Panic)
  deriving DecidableEq, Repr

variable {G : GenericsCache} {n : ℕ}

/-- `Start` returns, which cancels the context of the tracer. -/
def Tracing.finish (s : Tracing G n) (err : Option Error) : Tracing G n :=
  { s with start := .returned err, ctx := s.ctx.orElse (fun _ => some "context canceled") }

def Tracing.receiveEvent (N : Netaddr) (s : Tracing G n) (now : Time) :
    Except Stop (Tracing G n) :=
  match s.events.tryReceive with
  | none => .error .notReady
  | some (ev, events) => do
    let ip2dns ← (s.ip2dns.event N (now, ev)).mapError .panic
    return { s with events := events, ip2dns := ip2dns }

def Tracing.sample (newPacket : NewPacket) (s : Tracing G n) (rawSample : Bytes) : Tracing G n :=
  match sampled newPacket rawSample with
  | none => { s with tracer := .checking }
  | some ev => { s with tracer := .checking, events := (s.events.trySend ev).getD s.events }

def Tracing.step (N : Netaddr) (newPacket : NewPacket) (s : Tracing G n) :
    Step → Except Stop (Tracing G n)
  | .cancelled err => return { s with ctx := s.ctx.orElse (fun _ => some err) }
  | .prepared err =>
    if s.tracer = .preparing then
      return { s with tracer := match err with | some err => .returned err | none => .checking }
    else .error .notReady
  | .check =>
    if s.tracer = .checking then
      return { s with tracer := match s.ctx with | some err => .returned err | none => .reading }
    else .error .notReady
  | .read record =>
    if s.tracer = .reading then
      match record with
      | .error err => return { s with tracer := .returned err }
      | .ok rawSample => return s.sample newPacket rawSample
    else .error .notReady
  | .receiveDone =>
    match s.start, s.ctx with
    | .waiting, some err => return s.finish (some err)
    | _, _ => .error .notReady
  | .receiveResult =>
    match s.start, s.tracer with
    | .waiting, .returned err => return s.finish (some ("running tracer: " ++ err))
    | _, _ => .error .notReady
  | .receiveEvent now =>
    match s.start with
    | .waiting => s.receiveEvent N now
    | .returned _ => .error .notReady
  | .deleteExpired janitor now => return { s with ip2dns := s.ip2dns.deleteExpired now janitor }

/-- What is seen of a run: events that are sent, with the number of those that wait, and what
    happens to the caches. -/
inductive Seen where
  | sent (ev : DNSEvent) (waiting : ℕ)
  | acted (act : Act)

def seen (newPacket : NewPacket) (s : Tracing G n) : Step → List Seen
  | .read (.ok rawSample) =>
    (sampled newPacket rawSample).toList.map (fun ev => .sent ev s.events.queue.length)
  | .receiveEvent now => s.events.queue.head?.toList.map (fun ev => .acted (.event now ev))
  | .deleteExpired janitor now => [.acted (.deleteExpired janitor now)]
  | _ => []

def sent (ws : List Seen) : List (DNSEvent × ℕ) :=
  ws.filterMap (fun | .sent ev waiting => some (ev, waiting) | .acted _ => none)

def acts (ws : List Seen) : List Act :=
  ws.filterMap (fun | .sent _ _ => none | .acted act => some act)

def received (ws : List Seen) : List DNSEvent :=
  (acts ws).filterMap (fun | .event _ ev => some ev | .deleteExpired _ _ => none)

def packetEvent (newPacket : NewPacket) : Step → Option DNSEvent
  | .read (.ok rawSample) => sampled newPacket rawSample
  | _ => none

section Steps

variable {N : Netaddr} {newPacket : NewPacket} {s s' : Tracing G n}

inductive Effect (N : Netaddr) (newPacket : NewPacket) (s s' : Tracing G n) : Step → Prop where
  | quiet {step : Step} (events : s'.events = s.events) (ip2dns : s'.ip2dns = s.ip2dns)
      (nothing : seen newPacket s step = []) (packet : packetEvent newPacket step = none) :
      Effect N newPacket s s' step
  | send {rawSample : Bytes} {ev : DNSEvent} (parsed : sampled newPacket rawSample = some ev)
      (events : s'.events = (s.events.trySend ev).getD s.events) (ip2dns : s'.ip2dns = s.ip2dns) :
      Effect N newPacket s s' (.read (.ok rawSample))
  | receive {now : Time} {ev : DNSEvent} (events : s.events.tryReceive = some (ev, s'.events))
      (ip2dns : s.ip2dns.act N (.event now ev) = .ok s'.ip2dns) :
      Effect N newPacket s s' (.receiveEvent now)
  | expire {janitor : Janitor} {now : Time} (events : s'.events = s.events)
      (ip2dns : s.ip2dns.act N (.deleteExpired janitor now) = .ok s'.ip2dns) :
      Effect N newPacket s s' (.deleteExpired janitor now)

theorem effect_read {record : Except Error Bytes}
    (h : s.step N newPacket (.read record) = .ok s') : Effect N newPacket s s' (.read record) := by
  cases record with
  | error err =>
    rw [Tracing.step] at h
    split at h
    · cases h
      exact .quiet rfl rfl rfl rfl
    · cases h
  | ok rawSample =>
    rw [Tracing.step] at h
    split at h
    · cases h
      cases parsed : sampled newPacket rawSample with
      | none =>
        refine .quiet ?_ ?_ (by rw [seen, parsed]; rfl) parsed
        · rw [Tracing.sample, parsed]
        · rw [Tracing.sample, parsed]
      | some ev =>
        refine .send parsed ?_ ?_
        · rw [Tracing.sample, parsed]
        · rw [Tracing.sample, parsed]
    · cases h

theorem effect_receiveEvent {now : Time}
    (h : s.step N newPacket (.receiveEvent now) = .ok s') :
    Effect N newPacket s s' (.receiveEvent now) := by
  rw [Tracing.step] at h
  split at h
  · unfold Tracing.receiveEvent at h
    split at h
    · cases h
    · rename_i ev events got
      obtain ⟨ip2dns, handled, eq⟩ := bind_ok.mp h
      cases eq
      exact .receive got (mapError_ok.mp handled)
  · cases h

theorem effect_of_step {step : Step} (h : s.step N newPacket step = .ok s') :
    Effect N newPacket s s' step := by
  cases step with
  | cancelled err =>
    cases h
    exact .quiet rfl rfl rfl rfl
  | prepared err =>
    simp only [Tracing.step] at h
    split at h
    · cases h
      exact .quiet rfl rfl rfl rfl
    · cases h
  | check =>
    rw [Tracing.step] at h
    split at h
    · cases h
      exact .quiet rfl rfl rfl rfl
    · cases h
  | read record => exact effect_read h
  | receiveDone =>
    simp only [Tracing.step] at h
    split at h
    · cases h
      exact .quiet rfl rfl rfl rfl
    · cases h
  | receiveResult =>
    simp only [Tracing.step] at h
    split at h
    · cases h
      exact .quiet rfl rfl rfl rfl
    · cases h
  | receiveEvent now => exact effect_receiveEvent h
  | deleteExpired janitor now =>
    cases h
    exact .expire rfl rfl

end Steps

section Runs

variable {N : Netaddr} {newPacket : NewPacket}

theorem sent_append (ws ws' : List Seen) : sent (ws ++ ws') = sent ws ++ sent ws' :=
  List.filterMap_append

theorem acts_append (ws ws' : List Seen) : acts (ws ++ ws') = acts ws ++ acts ws' :=
  List.filterMap_append

theorem received_append (ws ws' : List Seen) :
    received (ws ++ ws') = received ws ++ received ws' := by
  rw [received, acts_append, List.filterMap_append]
  rfl

structure Follows (N : Netaddr) (ws : List Seen) (s : Tracing G n) : Prop where
  conserves : Conserves (received ws) (sent ws) s.events
  replay : PartialRuns.Runs (IP2DNS.act N) .empty (acts ws) s.ip2dns

theorem Follows.step {ws : List Seen} {s s' : Tracing G n} {step : Step} (h : Follows N ws s)
    (effect : Effect N newPacket s s' step) : Follows N (ws ++ seen newPacket s step) s' := by
  cases effect with
  | quiet events ip2dns nothing _ =>
    rw [nothing, List.append_nil]
    refine ⟨?_, ?_⟩
    · rw [events]
      exact h.conserves
    · rw [ip2dns]
      exact h.replay
  | @send rawSample ev parsed events ip2dns =>
    have one : seen newPacket s (.read (.ok rawSample)) = [.sent ev s.events.queue.length] := by
      rw [seen, parsed]
      rfl
    rw [one]
    refine ⟨?_, ?_⟩
    · rw [received_append, sent_append, events]
      simpa [received, acts, sent] using h.conserves.send ev
    · rw [acts_append, ip2dns]
      simpa [acts] using h.replay
  | @receive now ev events ip2dns =>
    have one : seen newPacket s (.receiveEvent now) = [.acted (.event now ev)] := by
      rw [seen, queue_of_tryReceive events]
      rfl
    rw [one]
    refine ⟨?_, ?_⟩
    · rw [received_append, sent_append]
      simpa [received, acts, sent] using h.conserves.receive events
    · rw [acts_append]
      exact h.replay.append (.next ip2dns (.refl _))
  | expire events ip2dns =>
    refine ⟨?_, ?_⟩
    · rw [received_append, sent_append, events]
      simpa [received, acts, sent, seen] using h.conserves
    · rw [acts_append]
      exact h.replay.append (.next ip2dns (.refl _))

theorem sent_seen {s s' : Tracing G n} {step : Step} (effect : Effect N newPacket s s' step) :
    (sent (seen newPacket s step)).map Prod.fst = (packetEvent newPacket step).toList := by
  cases effect with
  | quiet _ _ nothing packet =>
    rw [nothing, packet]
    rfl
  | send parsed _ _ =>
    rw [seen, packetEvent, parsed]
    rfl
  | receive events _ =>
    rw [seen, queue_of_tryReceive events]
    rfl
  | expire _ _ => rfl

theorem sent_packets {steps : List Step} {s u : Tracing G n}
    (run : PartialRuns.Runs (Tracing.step N newPacket) s steps u) :
    (sent (observe (Tracing.step N newPacket) (seen newPacket) s steps)).map Prod.fst =
      steps.filterMap (packetEvent newPacket) := by
  induction run with
  | refl _ => rfl
  | next step _ ih =>
    rw [observe_next step, sent_append, List.map_append, sent_seen (effect_of_step step), ih]
    rw [List.filterMap_cons]
    cases packetEvent newPacket _ <;> rfl

end Runs

/-- Whatever the order in which the tracer and the loop take their steps, the caches are what
    the received events make of empty ones in the order of the packets. An event is received
    or waits exactly if the channel had room when its packet was read, so without a full
    channel every event is. -/
theorem resolutions_follow_packets (N : Netaddr) (newPacket : NewPacket) {steps : List Step}
    {s : Tracing G n} (run : Runs (Tracing.step N newPacket) (.new G n) steps s) :
    let ws := observe (Tracing.step N newPacket) (seen newPacket) (.new G n) steps
    Runs (IP2DNS.act N) .empty (acts ws) s.ip2dns ∧
    (sent ws).map Prod.fst = steps.filterMap (packetEvent newPacket) ∧
    received ws ++ s.events.queue = accepted n (sent ws) ∧
    ((∀ e ∈ sent ws, e.2 < n) →
      received ws ++ s.events.queue = steps.filterMap (packetEvent newPacket)) := by
  intro ws
  have follows : Follows N ws s := by
    have start : Follows N [] (Tracing.new G n) := ⟨conserves_make, .refl _⟩
    exact run.observed (seen newPacket) (Follows N) (fun _ _ => True)
      (fun _ _ _ _ h _ step => h.step (effect_of_step step)) (.of_forall (fun _ _ _ => trivial) _)
      [] start
  have packets := sent_packets run
  refine ⟨follows.replay, packets, follows.conserves, fun room => ?_⟩
  rw [← packets, ← accepted_eq_of_room room]
  exact follows.conserves

def answerPacket : NewPacket := fun _ => some (some (.dns ⟨[⟨[97], dnsTypeA, [10, 0, 0, 1], []⟩]⟩))

def twoPackets : List Step :=
  [.prepared none, .check, .read (.ok [0, 0, 0, 0]), .check, .read (.ok [0, 0, 0, 0]),
    .receiveEvent 0]

theorem resolutions_follow_packets_second_dropped : ∃ s : Tracing .documented 1,
    Runs (Tracing.step .documented answerPacket) (.new .documented 1) twoPackets s ∧
    (twoPackets.filterMap (packetEvent answerPacket)).length = 2 ∧
    received (observe (Tracing.step .documented answerPacket) (seen answerPacket) (.new .documented 1)
      twoPackets) ++ s.events.queue =
      accepted 1 (sent (observe (Tracing.step .documented answerPacket) (seen answerPacket)
        (.new .documented 1) twoPackets)) := by
  have run : Runs (Tracing.step .documented answerPacket) (.new .documented 1) twoPackets _ :=
    .next rfl (.next rfl (.next rfl (.next rfl (.next rfl (.next rfl (.refl _))))))
  exact ⟨_, run, rfl, (resolutions_follow_packets .documented answerPacket run).2.2.1⟩

end Egressd.DNSTracer
