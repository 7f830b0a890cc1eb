import Egressd.ExporterResults
import Egressd.Fetches

set_option autoImplicit false

namespace Egressd.Exporter
open Finmap Fetches MetricsPb

inductive PushError where
  | invalidURL (err : Error)
  | encode (err : Error)
  | unsupported (encoding : String)
  | creatingRequest (err : Error)
  | sendingRequest (err : Error)
  | waitTimeout
  | requestError (statusCode : ℤ) (body : Bytes) (url : String)
  deriving DecidableEq, Repr

inductive Encoding where
  | protobuf
  | other (name : String)
  deriving DecidableEq, Repr

inductive Compression where
  | gzip
  | other (name : String)
  deriving DecidableEq, Repr

structure SinkHTTPConfig where
  url : String
  method : String
  compression : Compression
  encoding : Encoding
  headers : Finmap (fun _ : String => String)

/-- `wait.ExponentialBackoffWithContext` while the context is alive, on a state that the condition
    changes. An error of the condition ends it at once, as does its success. -/
structure Backoff where
  run {σ : Type} : (σ → (Bool × Option PushError) × σ) → ℕ → σ → Option PushError × σ
  run_decided {σ : Type} {condition : σ → (Bool × Option PushError) × σ} {s s' : σ} {done : Bool}
    {err : Option PushError} (h : condition s = ((done, err), s'))
    (decided : (err.isSome || done) = true) (steps : ℕ) : run condition (steps + 1) s = (err, s')

structure HTTPPackages where
  expandEnv : String → String
  parseURL : String → Except Error String
  canonicalHeaderKey : String → String
  marshal : List PodNetworkMetric → Except Error Bytes
  gzip : Bytes → Except Error Bytes
  newRequest : (method url : String) → Except Error Unit
  backoff : Backoff

structure Request where
  method : String
  url : String
  header : Finmap (fun _ : String => String)
  body : Bytes

structure Response where
  statusCode : ℤ
  body : Bytes

section Prepare

variable (E : HTTPPackages)

def headerSet (header : Finmap (fun _ : String => String)) (key value : String) :
    Finmap (fun _ : String => String) :=
  header.insert (E.canonicalHeaderKey key) value

def configuredHeader (cfg : SinkHTTPConfig) (o : VisitOrder String) (binVersion : String) :
    Finmap (fun _ : String => String) :=
  let header := (cfg.headers.visited o).foldl
    (fun header entry => headerSet E header entry.1 (E.expandEnv entry.2)) ∅
  if "User-Agent" ∈ cfg.headers then header
  else headerSet E header "User-Agent" ("castai-egressd/" ++ binVersion)

def encodePayload (compression : Compression) (batch : List PodNetworkMetric) :
    Except Error Bytes := do
  let protoBytes ← E.marshal batch
  match compression with
  | .gzip => E.gzip protoBytes
  | .other _ => return protoBytes

/-- `Push` up to the request. -/
def prepare (cfg : SinkHTTPConfig) (o : VisitOrder String) (binVersion : String)
    (batch : List PodNetworkMetric) : Except PushError Request :=
  match E.parseURL (E.expandEnv cfg.url) with
  | .error err => .error (.invalidURL err)
  | .ok uri =>
    let header := configuredHeader E cfg o binVersion
    match cfg.encoding with
    | .other name => .error (.unsupported name)
    | .protobuf =>
      let header := headerSet E header "Content-Type" "application/protobuf"
      match encodePayload E cfg.compression batch with
      | .error err => .error (.encode err)
      | .ok payloadBuf =>
        let header := match cfg.compression with
          | .gzip => headerSet E header "Content-Encoding" "gzip"
          | .other _ => header
        match E.newRequest cfg.method uri with
        | .error err => .error (.creatingRequest err)
        | .ok _ => .ok ⟨cfg.method, uri, header, payloadBuf⟩

end Prepare

structure Attempt where
  sent : Bytes
  outcome : Except Error Response

/-- What the attempts share: the reader of the request's body and the variable `resp`. -/
structure Sending where
  body : Bytes
  resp : Option Response
  attempts : List Attempt

/-- The function that `Push` hands to the backoff. `Do` reads the body of the request to its
    end. -/
def sendRequest (outcomes : ℕ → Except Error Response) (s : Sending) :
    (Bool × Option PushError) × Sending :=
  let outcome := outcomes s.attempts.length
  let attempts := s.attempts ++ [⟨s.body, outcome⟩]
  match outcome with
  | .error err => ((false, some (.sendingRequest err)), ⟨[], none, attempts⟩)
  | .ok resp => ((true, none), ⟨[], some resp, attempts⟩)

structure PushResult where
  err : Option PushError
  attempts : List Attempt

def checkStatus (url : String) (resp : Response) : Option PushError :=
  if resp.statusCode > 399 then some (.requestError resp.statusCode resp.body url) else none

def push (E : HTTPPackages) (cfg : SinkHTTPConfig) (o : VisitOrder String) (binVersion : String)
    (outcomes : ℕ → Except Error Response) (batch : List PodNetworkMetric) :
    Except Panic PushResult :=
  match prepare E cfg o binVersion batch with
  | .error err => return ⟨some err, []⟩
  | .ok req =>
    match E.backoff.run (sendRequest outcomes) 3 ⟨req.body, none, []⟩ with
    | (some err, s) => return ⟨some err, s.attempts⟩
    | (none, s) => do
      let resp ← deref s.resp
      return ⟨checkStatus req.url resp, s.attempts⟩

def PushError.transport : PushError → Bool
  | .sendingRequest _ => true
  | .waitTimeout => true
  | _ => false

def firstResponse (attempts : List Attempt) : Option Response :=
  attempts.findSome? (fun a => a.outcome.toOption)

/-- A transport error is reported only after three failed attempts, the first response decides
    in all other cases, and every attempt sends the whole payload. -/
structure ReallyRetries (payload : Except Error Bytes) (r : PushResult) : Prop where
  transport : ∀ err, r.err = some err → err.transport = true →
    r.attempts.length = 3 ∧ ∀ a ∈ r.attempts, a.outcome.isOk = false
  response : r.err = none ↔
    ∃ resp, firstResponse r.attempts = some resp ∧ resp.statusCode ≤ 399
  payload : ∀ a ∈ r.attempts, payload = .ok a.sent

section Prepared

variable {E : HTTPPackages} {cfg : SinkHTTPConfig} {o : VisitOrder String} {binVersion : String}
  {batch : List PodNetworkMetric}

theorem prepare_cases (encoding : cfg.encoding = .protobuf) :
    (∃ uri payload, E.parseURL (E.expandEnv cfg.url) = .ok uri ∧
      encodePayload E cfg.compression batch = .ok payload ∧ E.newRequest cfg.method uri = .ok () ∧
      ∃ req, prepare E cfg o binVersion batch = .ok req ∧ req.body = payload) ∨
    ((¬ ∃ uri payload, E.parseURL (E.expandEnv cfg.url) = .ok uri ∧
      encodePayload E cfg.compression batch = .ok payload ∧ E.newRequest cfg.method uri = .ok ()) ∧
      ∃ err, prepare E cfg o binVersion batch = .error err ∧ err.transport = false) := by
  unfold prepare
  rw [encoding]
  cases parsed : E.parseURL (E.expandEnv cfg.url) with
  | error err =>
    refine .inr ⟨?_, _, rfl, rfl⟩
    rintro ⟨uri, payload, h, _⟩
    cases h
  | ok uri =>
    cases encoded : encodePayload E cfg.compression batch with
    | error err =>
      refine .inr ⟨?_, _, rfl, rfl⟩
      rintro ⟨uri, payload, _, h, _⟩
      cases h
    | ok payload =>
      cases created : E.newRequest cfg.method uri with
      | error err =>
        refine .inr ⟨?_, _, by simp only [created]; rfl, rfl⟩
        rintro ⟨uri', payload', h, _, h'⟩
        cases h
        rw [created] at h'
        cases h'
      | ok _ => exact .inl ⟨uri, payload, rfl, rfl, created, _, by simp only [created]; rfl, rfl⟩

theorem sendRequest_first (outcomes : ℕ → Except Error Response) (body : Bytes) :
    sendRequest outcomes ⟨body, none, []⟩ =
      (match outcomes 0 with
        | .error err => (false, some (.sendingRequest err))
        | .ok _ => (true, none),
      ⟨[], (outcomes 0).toOption, [⟨body, outcomes 0⟩]⟩) := by
  unfold sendRequest
  simp only [List.length_nil, List.nil_append]
  cases outcomes 0 <;> rfl

theorem push_of_prepare {req : Request} (prepared : prepare E cfg o binVersion batch = .ok req)
    (outcomes : ℕ → Except Error Response) :
    push E cfg o binVersion outcomes batch = .ok
      ⟨match outcomes 0 with
        | .error err => some (.sendingRequest err)
        | .ok resp => checkStatus req.url resp,
      [⟨req.body, outcomes 0⟩]⟩ := by
  have run := sendRequest_first outcomes req.body
  unfold push
  rw [prepared]
  cases first : outcomes 0 with
  | error err =>
    rw [first] at run
    simp only [E.backoff.run_decided run rfl]
    rfl
  | ok resp =>
    rw [first] at run
    simp only [E.backoff.run_decided run rfl]
    rfl

theorem checkStatus_eq_none_iff {url : String} {resp : Response} :
    checkStatus url resp = none ↔ resp.statusCode ≤ 399 := by
  unfold checkStatus
  split
  · rename_i above
    exact iff_of_false (by simp) (not_le.mpr above)
  · rename_i below
    exact iff_of_true rfl (not_lt.mp below)

theorem reallyRetries_of_response {req : Request} {resp : Response} {payload : Except Error Bytes}
    (encoded : payload = .ok req.body) :
    ReallyRetries payload ⟨checkStatus req.url resp, [⟨req.body, .ok resp⟩]⟩ where
  transport err reported isTransport := by
    change checkStatus req.url resp = some err at reported
    unfold checkStatus at reported
    split at reported
    · cases reported
      cases isTransport
    · cases reported
  response := by
    rw [checkStatus_eq_none_iff]
    constructor
    · exact fun le => ⟨resp, rfl, le⟩
    · rintro ⟨_, first, le⟩
      cases first
      exact le
  payload a mem := by
    rw [List.mem_singleton.mp mem]
    exact encoded

/-- A push retries as it should exactly if its request cannot be made or the first attempt gets
    a response. -/
theorem push_retries_iff (o : VisitOrder String) (binVersion : String)
    (outcomes : ℕ → Except Error Response) (encoding : cfg.encoding = .protobuf) :
    (∃ r, push E cfg o binVersion outcomes batch = .ok r ∧
      ReallyRetries (encodePayload E cfg.compression batch) r) ↔
    ((∃ uri payload, E.parseURL (E.expandEnv cfg.url) = .ok uri ∧
      encodePayload E cfg.compression batch = .ok payload ∧ E.newRequest cfg.method uri = .ok ()) →
      ∃ resp, outcomes 0 = .ok resp) := by
  rcases prepare_cases (o := o) encoding with
    ⟨uri, payload, parsed, encoded, created, req, prepared, rfl⟩ | ⟨impossible, err, failed, other⟩
  · rw [push_of_prepare prepared, imp_iff_right ⟨uri, req.body, parsed, encoded, created⟩]
    cases first : outcomes 0 with
    | error err =>
      refine iff_of_false ?_ (by rintro ⟨_, h⟩; cases h)
      rintro ⟨r, result, retries⟩
      cases result
      -- The error of the first attempt is reported, and there was no other attempt.
      exact absurd (retries.transport _ rfl rfl).1 (by simp)
    | ok resp =>
      exact iff_of_true ⟨_, rfl, reallyRetries_of_response encoded⟩ ⟨resp, rfl⟩
  · refine iff_of_true ⟨⟨some err, []⟩, ?_, ?_⟩ (fun possible => absurd possible impossible)
    · unfold push
      rw [failed]
      rfl
    · constructor
      · intro err' reported isTransport
        cases reported
        rw [other] at isTransport
        cases isTransport
      · refine iff_of_false (by simp) ?_
        rintro ⟨resp, first, _⟩
        cases first
      · exact fun a mem => by cases mem

end Prepared

/-- The packages below `Push` other than the encoders. The names of headers that the sink sets
    are canonical. -/
structure Environment where
  expandEnv : String → String
  parseURL : String → Except Error String
  canonicalHeaderKey : String → String
  newRequest : (method url : String) → Except Error Unit
  backoff : Backoff
  canonical : ∀ key ∈ ["User-Agent", "Content-Type", "Content-Encoding"],
    canonicalHeaderKey key = key

def Environment.packages (env : Environment) (Z : Codecs) : HTTPPackages where
  expandEnv := env.expandEnv
  parseURL := env.parseURL
  canonicalHeaderKey := env.canonicalHeaderKey
  marshal := Z.proto.pod.marshal
  gzip body := .ok (Z.write body ++ Z.close body).flatten
  newRequest := env.newRequest
  backoff := env.backoff

def Backoff.retry {σ : Type} (condition : σ → (Bool × Option PushError) × σ) :
    ℕ → σ → Option PushError × σ
  | 0, s => (some .waitTimeout, s)
  | steps + 1, s =>
    let ((done, err), s) := condition s
    if err.isSome || done then (err, s) else retry condition steps s

def Environment.plain : Environment where
  expandEnv := id
  parseURL := .ok
  canonicalHeaderKey key := if key = "content-encoding" then "Content-Encoding" else key
  newRequest _ _ := .ok ()
  backoff.run := Backoff.retry
  backoff.run_decided h decided steps := by
    rw [Backoff.retry, h]
    simp only [decided, if_true]
  canonical key mem := if_neg (by
    simp only [List.mem_cons, List.not_mem_nil, or_false] at mem
    rcases mem with rfl | rfl | rfl <;> decide)

theorem prepared_plain (Z : Codecs) (cfg : SinkHTTPConfig) (encoding : cfg.encoding = .protobuf)
    (o : VisitOrder String) (binVersion : String) {batch : List PodNetworkMetric}
    (readable : ReadableNames batch) : ∃ req,
      prepare (Environment.plain.packages Z) cfg o binVersion batch = .ok req ∧
      encodePayload (Environment.plain.packages Z) cfg.compression batch = .ok req.body := by
  obtain ⟨body, marshalled⟩ := Z.proto.pod.marshal_readable batch readable
  have encoded : ∃ payload,
      encodePayload (Environment.plain.packages Z) cfg.compression batch = .ok payload := by
    have marshalled : (Environment.plain.packages Z).marshal batch = .ok body := marshalled
    rw [encodePayload, marshalled]
    cases cfg.compression with
    | gzip => exact ⟨_, rfl⟩
    | other name => exact ⟨_, rfl⟩
  have cases : (∃ req, prepare (Environment.plain.packages Z) cfg o binVersion batch = .ok req ∧
      encodePayload (Environment.plain.packages Z) cfg.compression batch = .ok req.body) ∨ _ :=
    (prepare_cases encoding).imp_left
      (fun ⟨_, _, _, encoded, _, req, ready, body⟩ => ⟨req, ready, body ▸ encoded⟩)
  rcases cases with ready | ⟨impossible, _⟩
  · exact ready
  · obtain ⟨payload, encoded⟩ := encoded
    exact absurd ⟨_, payload, rfl, encoded, rfl⟩ impossible

def sampleSink : SinkHTTPConfig := ⟨"gateway", "POST", .gzip, .protobuf, ∅⟩

theorem readable_outgoing : ReadableNames [outgoingMetric [97]] := by decide +kernel

theorem push_answered_at_once :
    let E := Environment.plain.packages .stored
    sampleSink.encoding = .protobuf ∧
    ∃ r, push E sampleSink (.first "") "v1" (fun _ => .ok ⟨200, []⟩) [outgoingMetric [97]] = .ok r ∧
      r.attempts.length = 1 ∧
      ReallyRetries (encodePayload E .gzip [outgoingMetric [97]]) r := by
  intro E
  obtain ⟨req, ready, _⟩ := prepared_plain .stored sampleSink rfl (.first "") "v1"
    readable_outgoing
  have pushed : ∃ r, push E sampleSink (.first "") "v1" (fun _ => .ok ⟨200, []⟩)
      [outgoingMetric [97]] = .ok r ∧ ReallyRetries (encodePayload E .gzip [outgoingMetric [97]]) r :=
    (push_retries_iff (.first "") "v1" (fun _ => .ok ⟨200, []⟩) rfl).mpr (fun _ => ⟨_, rfl⟩)
  obtain ⟨r, pushed, retries⟩ := pushed
  refine ⟨rfl, r, pushed, ?_, retries⟩
  rw [push_of_prepare ready, Except.ok.injEq] at pushed
  rw [← pushed]
  rfl

theorem push_gives_up_after_one_attempt :
    let E := Environment.plain.packages .stored
    ∃ payload, encodePayload E .gzip [outgoingMetric [97]] = .ok payload ∧
      push E sampleSink (.first "") "v1"
        (fun n => if n = 0 then .error "connection refused" else .ok ⟨200, []⟩)
        [outgoingMetric [97]] =
      .ok ⟨some (.sendingRequest "connection refused"),
        [⟨payload, .error "connection refused"⟩]⟩ := by
  intro E
  obtain ⟨req, ready, encoded⟩ := prepared_plain .stored sampleSink rfl (.first "") "v1"
    readable_outgoing
  exact ⟨req.body, encoded, push_of_prepare ready _⟩

end Egressd.Exporter
