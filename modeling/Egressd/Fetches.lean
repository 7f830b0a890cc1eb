import Egressd.HandlerWrites
import Egressd.MetricsPb

set_option autoImplicit false

namespace Egressd.Fetches
open ProtoWire CollectorModel CollectorHandler CollectorRuns HandlerWrites MetricsPb

/-- The packages that turn a message into bytes and back: `proto`, and `compress/gzip` with the
    writes below `Write` and `Close`. A stream begins with two fixed bytes. -/
structure Codecs where
  proto : Protobuf
  write : Bytes → List Bytes
  close : Bytes → List Bytes
  reader : Bytes → Except Error Bytes
  reader_written : ∀ body, reader (write body ++ close body).flatten = .ok body
  magic : ∀ stream body, reader stream = .ok body → [0x1f, 0x8b] <+: stream

def Codecs.stored : Codecs where
  proto := .wire
  write _ := []
  close body := [0x1f :: 0x8b :: body]
  reader
    | 0x1f :: 0x8b :: body => .ok body
    | _ => .error "gzip: invalid header"
  reader_written body := by
    rw [List.nil_append, List.flatten_singleton]
    rfl
  magic stream body read := by
    split at read
    · exact ⟨_, rfl⟩
    · cases read

def Codecs.encoders (Z : Codecs) : Encoders := ⟨Z.proto.raw.marshal, Z.write, Z.close⟩

structure HTTPResponse where
  statusCode : ℕ
  body : Except Error Bytes

def bodyOf (r : Response) : Bytes := (r.writes.map Prod.fst).flatten

def received (Z : Codecs) (r : Response) : HTTPResponse where
  statusCode := r.status.getD 200
  body := if ("Content-Encoding", "gzip") ∈ r.header then Z.reader (bodyOf r) else .ok (bodyOf r)

/-- What the client can get for a response. Lengths of slices are below `2 ^ 63`. -/
inductive Arrives (Z : Codecs) (r : Response) : Except Error HTTPResponse → Prop where
  | lost (err : Error) : Arrives Z r (.error err)
  | cut (err : Error) : Arrives Z r (.ok ⟨r.status.getD 200, .error err⟩)
  | whole (complete : ¬ Failed r)
      (small : ∀ body, (received Z r).body = .ok body → body.length < 2 ^ 63) :
      Arrives Z r (.ok (received Z r))

inductive FetchError where
  | newRequest (err : Error)
  | sending (err : Error)
  | status (url : String) (statusCode : ℕ) (body : Bytes)
  | reading (err : Error)
  | unmarshal (err : Error)
  deriving DecidableEq, Repr

/-- `Exporter.fetchRawNetworkMetricsBatch`, with what creating the request and `Do` return. -/
def fetchRawNetworkMetricsBatch (proto : Protobuf) (url : String) (newRequest : Except Error Unit)
    (answer : Except Error HTTPResponse) : Except FetchError RawNetworkMetricBatch :=
  match newRequest with
  | .error err => .error (.newRequest err)
  | .ok _ =>
    match answer with
    | .error err => .error (.sending err)
    | .ok resp =>
      if resp.statusCode ≠ 200 then
        -- The error of reading the body of an error response is dropped.
        .error (.status url resp.statusCode (resp.body.toOption.getD []))
      else
        match resp.body with
        | .error err => .error (.reading err)
        | .ok pbBytes =>
          match proto.raw.unmarshal pbBytes with
          | .error err => .error (.unmarshal err)
          | .ok batch => .ok batch

theorem fetch_ok_iff {proto : Protobuf} {url : String} {newRequest : Except Error Unit}
    {answer : Except Error HTTPResponse} {batch : RawNetworkMetricBatch} :
    fetchRawNetworkMetricsBatch proto url newRequest answer = .ok batch ↔
      newRequest = .ok () ∧ ∃ resp body, answer = .ok resp ∧ resp.statusCode = 200 ∧
        resp.body = .ok body ∧ proto.raw.unmarshal body = .ok batch := by
  unfold fetchRawNetworkMetricsBatch
  cases newRequest with
  | error err => simp
  | ok _ =>
    cases answer with
    | error err => simp
    | ok resp =>
      obtain ⟨statusCode, body⟩ := resp
      by_cases status : statusCode = 200
      · cases body with
        | error err => simp [status]
        | ok pbBytes => cases h : proto.raw.unmarshal pbBytes <;> simp [status, h]
      · simp [status]

section Responses

def extended (r : Response) (status : Option ℕ) (ps : List Bytes) : Response :=
  ⟨r.header, status, r.writes ++ ps.map (fun p => (p, none))⟩

theorem write_complete {w : ResponseWriter} {r : Response} {p : Bytes}
    (h : (r.write w p).1 = none) :
    (r.write w p).2 = extended r (r.status.or (some 200)) [p] := by
  have none : w.write r.writes.length p = none := h
  simp only [Response.write, extended, none]
  rfl

theorem writeAll_complete (w : ResponseWriter) (r : Response) (ps : List Bytes)
    (h : (r.writeAll w ps).1 = none) : ∃ status, (r.writeAll w ps).2 = extended r status ps ∧
      status.getD 200 = r.status.getD 200 := by
  induction ps generalizing r with
  | nil => exact ⟨r.status, by simp [Response.writeAll, extended], rfl⟩
  | cons p ps ih =>
    have first := write_complete (w := w) (r := r) (p := p)
    rw [Response.writeAll] at h ⊢
    cases hw : r.write w p with
    | mk err r' =>
      rw [hw] at h first
      cases err with
      | some err => cases h
      | none =>
        obtain ⟨status, eq, same⟩ := ih r' h
        have written : r' = extended r (r.status.or (some 200)) [p] := first rfl
        refine ⟨status, eq.trans ?_, same.trans ?_⟩
        · simp [written, extended]
        · cases hs : r.status <;> simp [written, extended, hs]

variable (Z : Codecs)

theorem bodyOf_extended (r : Response) (status : Option ℕ) (ps : List Bytes) :
    bodyOf (extended r status ps) = bodyOf r ++ ps.flatten := by
  have data : (ps.map (fun p => (p, (none : Option Error)))).map Prod.fst = ps := by
    rw [List.map_map]
    exact List.map_id _
  rw [bodyOf, extended, List.map_append, List.flatten_append, data]
  rfl

theorem failed_httpError {w : ResponseWriter} {r : Response} (h : Failed r) (error : String)
    (code : ℕ) : Failed (r.httpError w error code) :=
  (write_failed_iff w _ _).mpr (.inl h)

theorem received_plainBody {w : ResponseWriter} {body : Bytes}
    (h : ¬ Failed (writePlainBody w .empty body).2) : (writePlainBody w .empty body).1 = none ∧
      received Z (writePlainBody w .empty body).2 = ⟨200, .ok body⟩ := by
  have failed := write_failed_iff w .empty body
  have complete := write_complete (w := w) (r := .empty) (p := body)
  unfold writePlainBody at h ⊢
  cases hw : Response.empty.write w body with
  | mk err r =>
    rw [hw] at h failed complete
    cases err with
    | some err => exact absurd (failed_httpError (failed.mpr (.inr (by simp))) _ _) h
    | none =>
      refine ⟨rfl, ?_⟩
      have written : r = extended .empty (some 200) [body] := complete rfl
      have data := bodyOf_extended .empty (some 200) [body]
      rw [List.flatten_singleton] at data
      rw [written, received, data]
      rfl

theorem received_gzipBody {w : ResponseWriter} {body : Bytes}
    (h : ¬ Failed (writeGzipBody Z.encoders w .empty body).2) :
    (writeGzipBody Z.encoders w .empty body).1 = none ∧
      received Z (writeGzipBody Z.encoders w .empty body).2 = ⟨200, .ok body⟩ := by
  have failed := writeAll_failed_iff w (Response.empty.addHeader "Content-Encoding" "gzip")
    (Z.encoders.gzipWrite body)
  have complete := writeAll_complete w (Response.empty.addHeader "Content-Encoding" "gzip")
    (Z.encoders.gzipWrite body)
  unfold writeGzipBody at h ⊢
  cases hw : (Response.empty.addHeader "Content-Encoding" "gzip").writeAll w
      (Z.encoders.gzipWrite body) with
  | mk err r =>
    rw [hw] at failed complete
    simp only [hw] at h ⊢
    cases err with
    | some err => exact absurd (failed_httpError (failed.mpr (.inr (by simp))) _ _) h
    | none =>
      refine ⟨rfl, ?_⟩
      obtain ⟨status, written, ok⟩ := complete rfl
      have closed : (r.writeAll w (Z.encoders.gzipClose body)).1 = none := by
        by_contra err
        exact h ((writeAll_failed_iff w r _).mpr (.inr err))
      obtain ⟨status', written', ok'⟩ := writeAll_complete w r _ closed
      have data := bodyOf_extended r status' (Z.encoders.gzipClose body)
      have data' := bodyOf_extended (Response.empty.addHeader "Content-Encoding" "gzip") status
        (Z.encoders.gzipWrite body)
      change r = _ at written
      have gzipped : ("Content-Encoding", "gzip") ∈
          (extended r status' (Z.encoders.gzipClose body)).header := by
        rw [extended, written]
        exact List.mem_singleton_self _
      have whole : bodyOf r ++ (Z.encoders.gzipClose body).flatten =
          (Z.write body ++ Z.close body).flatten := by
        rw [written, data', List.flatten_append]
        rfl
      have code : status'.getD 200 = 200 := by
        rw [ok', written]
        exact ok
      rw [written', received, if_pos gzipped, data, whole, Z.reader_written]
      exact congrArg (HTTPResponse.mk · _) code

theorem received_writeBody {κ : Type} (call : HandlerCall κ) (body : Bytes)
    (h : ¬ Failed (writeBody Z.encoders call body).2) :
    (writeBody Z.encoders call body).1 = none ∧
      received Z (writeBody Z.encoders call body).2 = ⟨200, .ok body⟩ := by
  unfold writeBody at h ⊢
  cases gzip : acceptsGzip call.request with
  | true =>
    rw [gzip, if_pos rfl] at h
    rw [if_pos rfl]
    exact received_gzipBody Z h
  | false =>
    rw [gzip, if_neg Bool.false_ne_true] at h
    rw [if_neg Bool.false_ne_true]
    exact received_plainBody Z h

end Responses

section Exchanges

variable {κ : Type} [DecidableEq κ] (Z : Codecs) (cfg : Config) (c : Collector κ)
  (call : HandlerCall κ)

def Sendable (call : HandlerCall κ) : Prop := ∀ r ∈ call.records, validString r.domain = true

theorem marshal_batchOf_iff : (∃ body, Z.encoders.marshal (batchOf c call) = .ok body) ↔
    Sendable call := Z.proto.raw.marshal_ok_iff

theorem handler_received : (Sendable call ∧
      ∃ body, Z.proto.raw.marshal (batchOf c call) = .ok body ∧
        (¬ Failed (getRawNetworkMetricsHandler Z.encoders cfg c call).response →
          (getRawNetworkMetricsHandler Z.encoders cfg c call).outcome = .sent (batchOf c call) ∧
          received Z (getRawNetworkMetricsHandler Z.encoders cfg c call).response =
            ⟨200, .ok body⟩)) ∨
    (¬ Sendable call ∧
      received Z (getRawNetworkMetricsHandler Z.encoders cfg c call).response =
        ⟨500, .ok []⟩) := by
  have sendable := marshal_batchOf_iff Z c call
  cases hm : Z.encoders.marshal (batchOf c call) with
  | error err =>
    refine .inr ⟨fun ok => ?_, ?_⟩
    · obtain ⟨body, ok⟩ := sendable.mpr ok
      rw [hm] at ok
      cases ok
    · simp only [getRawNetworkMetricsHandler, hm]
      rfl
  | ok body =>
    refine .inl ⟨sendable.mp ⟨body, hm⟩, body, hm, ?_⟩
    have written := received_writeBody Z call body
    simp only [getRawNetworkMetricsHandler, hm]
    cases hw : writeBody Z.encoders call body with
    | mk err resp =>
      rw [hw] at written
      intro complete
      cases err with
      | some err =>
        have none := (written complete).1
        cases none
      | none => exact ⟨rfl, (written complete).2⟩

variable {Z} {cfg} {c} {call}

/-- The exporter obtains a batch exactly if the response arrives whole, no `Write` of the handler
    failed and all domain names are UTF-8; and then it is the batch of the collector. -/
theorem fetched_iff (url : String) (newRequest : Except Error Unit)
    {answer : Except Error HTTPResponse} (batch : RawNetworkMetricBatch)
    (arrives : Arrives Z (getRawNetworkMetricsHandler Z.encoders cfg c call).response answer) :
    fetchRawNetworkMetricsBatch Z.proto url newRequest answer = .ok batch ↔
      newRequest = .ok () ∧
      ¬ Failed (getRawNetworkMetricsHandler Z.encoders cfg c call).response ∧
      answer = .ok (received Z (getRawNetworkMetricsHandler Z.encoders cfg c call).response) ∧
      Sendable call ∧ batch = batchOf c call := by
  rw [fetch_ok_iff]
  constructor
  · rintro ⟨created, resp, body, rfl, status, read, parsed⟩
    cases arrives with
    | cut err => cases read
    | whole complete small =>
      refine ⟨created, complete, rfl, ?_⟩
      rcases handler_received Z cfg c call with ⟨sendable, bytes, marshalled, sent⟩ | ⟨_, failed⟩
      · have whole := (sent complete).2
        have same : body = bytes := by
          rw [whole] at read
          exact (Except.ok.inj read).symm
        have short := small body read
        rw [same] at short parsed
        rw [Z.proto.raw.unmarshal_marshal _ _ marshalled (by omega)] at parsed
        exact ⟨sendable, (Except.ok.inj parsed).symm⟩
      · rw [failed] at status
        exact absurd status (by decide)
  · rintro ⟨created, complete, rfl, sendable, rfl⟩
    rcases handler_received Z cfg c call with ⟨_, bytes, marshalled, sent⟩ | ⟨not, _⟩
    · have whole := (sent complete).2
      have short : bytes.length < 2 ^ 63 := by
        generalize answer_eq : Except.ok (received Z
          (getRawNetworkMetricsHandler Z.encoders cfg c call).response) = answer at arrives
        cases arrives with
        | lost err => cases answer_eq
        | cut err =>
          rw [whole] at answer_eq
          have unread := congrArg HTTPResponse.body (Except.ok.inj answer_eq)
          cases unread
        | whole _ small =>
          rw [whole] at small
          exact small bytes rfl
      refine ⟨created, _, bytes, rfl, ?_, ?_, ?_⟩
      · rw [whole]
      · rw [whole]
      · exact Z.proto.raw.unmarshal_marshal _ _ marshalled (by omega)
    · exact absurd sendable not

theorem fetched_plain (request : call.request = ⟨[]⟩) (writer : call.writer = ⟨fun _ _ => none⟩)
    (sendable : Sendable call) (small : ∀ body,
      Z.proto.raw.marshal (batchOf c call) = .ok body → body.length < 2 ^ 63)
    (url : String) : ∃ answer,
      Arrives Z (getRawNetworkMetricsHandler Z.encoders cfg c call).response answer ∧
      fetchRawNetworkMetricsBatch Z.proto url (.ok ()) answer = .ok (batchOf c call) := by
  obtain ⟨body, ok⟩ := (marshal_batchOf_iff Z c call).mpr sendable
  have complete : ¬ Failed (getRawNetworkMetricsHandler Z.encoders cfg c call).response := by
    simp only [getRawNetworkMetricsHandler, ok, writeBody, request, writer]
    rintro ⟨p, mem, failed⟩
    rw [List.mem_singleton.mp mem] at failed
    exact failed rfl
  have short : ∀ body, (received Z (getRawNetworkMetricsHandler Z.encoders cfg c call).response).body =
      .ok body → body.length < 2 ^ 63 := by
    intro body same
    rcases handler_received Z cfg c call with ⟨_, bytes, marshalled, sent⟩ | ⟨not, _⟩
    · rw [(sent complete).2] at same
      cases same
      exact small _ marshalled
    · exact absurd sendable not
  have arrives := Arrives.whole complete short
  exact ⟨_, arrives, (fetched_iff url _ _ arrives).mpr ⟨rfl, complete, rfl, sendable, rfl⟩⟩

omit [DecidableEq κ] in
theorem writeBody_failed_iff (Z : Codecs) (call : HandlerCall κ) (body : Bytes) :
    (writeBody Z.encoders call body).1 = none ∧ Failed (writeBody Z.encoders call body).2 ↔
      acceptsGzip call.request ∧ CloseFails Z.encoders call.writer body := by
  unfold writeBody
  cases acceptsGzip call.request with
  | true => simpa using gzipBody_failed_iff Z.encoders call.writer body
  | false => simpa using plainBody_not_failed call.writer body

/-- A batch that the exporter gets is the one that the collector takes for delivered. The collector
    takes a batch for delivered that the exporter did not get exactly if the deferred `Close` of
    the compression failed or a complete response did not arrive whole. -/
theorem batch_lost_iff (Z : Codecs) (cfg : Config) (c : Collector κ) (call : HandlerCall κ)
    (url : String) (answer : Except Error HTTPResponse)
    (arrives : Arrives Z (getRawNetworkMetricsHandler Z.encoders cfg c call).response answer) :
    (∀ batch, fetchRawNetworkMetricsBatch Z.proto url (.ok ()) answer = .ok batch →
      batch = batchOf c call ∧
        (getRawNetworkMetricsHandler Z.encoders cfg c call).outcome = .sent batch) ∧
    ((getRawNetworkMetricsHandler Z.encoders cfg c call).outcome = .sent (batchOf c call) ∧
      (∃ err, fetchRawNetworkMetricsBatch Z.proto url (.ok ()) answer = .error err) ↔
    ∃ body, Z.proto.raw.marshal (batchOf c call) = .ok body ∧
      (acceptsGzip call.request ∧ CloseFails Z.encoders call.writer body ∨
        ¬ Failed (getRawNetworkMetricsHandler Z.encoders cfg c call).response ∧
          answer ≠ .ok (received Z
            (getRawNetworkMetricsHandler Z.encoders cfg c call).response))) := by
  have fetched := fun batch => fetched_iff url (.ok ()) batch arrives
  have failed_iff : (∃ err, fetchRawNetworkMetricsBatch Z.proto url (.ok ()) answer = .error err) ↔
      ∀ batch, fetchRawNetworkMetricsBatch Z.proto url (.ok ()) answer ≠ .ok batch := by
    cases fetchRawNetworkMetricsBatch Z.proto url (.ok ()) answer with
    | error err => simp
    | ok batch => simp
  refine ⟨fun batch got => ?_, ?_⟩
  · obtain ⟨_, complete, _, sendable, rfl⟩ := (fetched batch).mp got
    rcases handler_received Z cfg c call with ⟨_, _, _, sent⟩ | ⟨not, _⟩
    · exact ⟨rfl, (sent complete).1⟩
    · exact absurd sendable not
  rw [failed_iff]
  cases ok : Z.proto.raw.marshal (batchOf c call) with
  | error err =>
    have error : Z.encoders.marshal (batchOf c call) = .error err := ok
    simp [getRawNetworkMetricsHandler, error]
  | ok body =>
    have ok : Z.encoders.marshal (batchOf c call) = .ok body := ok
    have sendable := (marshal_batchOf_iff Z c call).mp ⟨body, ok⟩
    have closes := writeBody_failed_iff Z call body
    have handled : ((getRawNetworkMetricsHandler Z.encoders cfg c call).outcome =
          .sent (batchOf c call) ↔ (writeBody Z.encoders call body).1 = none) ∧
        (getRawNetworkMetricsHandler Z.encoders cfg c call).response =
          (writeBody Z.encoders call body).2 := by
      simp only [getRawNetworkMetricsHandler, ok]
      cases writeBody Z.encoders call body with
      | mk err resp => cases err <;> simp
    have complete := received_writeBody Z call body
    simp only [Except.ok.injEq, exists_eq_left']
    rw [handled.1, ← closes]
    rw [handled.2] at fetched ⊢
    constructor
    · rintro ⟨sent, missing⟩
      by_cases failed : Failed (writeBody Z.encoders call body).2
      · exact .inl ⟨sent, failed⟩
      · refine .inr ⟨failed, fun whole => missing (batchOf c call) ((fetched _).mpr ?_)⟩
        exact ⟨rfl, failed, whole, sendable, rfl⟩
    · rintro (⟨sent, failed⟩ | ⟨written, lost⟩)
      · exact ⟨sent, fun batch got => ((fetched batch).mp got).2.1 failed⟩
      · exact ⟨(complete written).1, fun batch got => lost ((fetched batch).mp got).2.2.1⟩

theorem batch_lost_timeout :
    let handled := getRawNetworkMetricsHandler Codecs.stored.encoders ⟨false, true⟩ pendingCollector
      (sampleCall ⟨[]⟩ ⟨fun _ _ => none⟩)
    handled.outcome = .sent (batchOf pendingCollector (sampleCall ⟨[]⟩ ⟨fun _ _ => none⟩)) ∧
      ∃ err, fetchRawNetworkMetricsBatch .wire "10.0.0.7:6060" (.ok ()) (.error "timeout") =
        .error err := by
  have sendable : Sendable (sampleCall ⟨[]⟩ ⟨fun _ _ => none⟩) := fun r mem => by cases mem
  obtain ⟨body, ok⟩ := (marshal_batchOf_iff .stored pendingCollector _).mpr sendable
  refine (batch_lost_iff .stored ⟨false, true⟩ pendingCollector (sampleCall ⟨[]⟩ ⟨fun _ _ => none⟩)
    "10.0.0.7:6060" (.error "timeout") (.lost "timeout")).2.mpr
    ⟨body, ok, .inr ⟨?_, nofun⟩⟩
  simp only [getRawNetworkMetricsHandler, ok]
  rintro ⟨p, mem, failed⟩
  rw [List.mem_singleton.mp mem] at failed
  exact failed rfl

end Exchanges

end Egressd.Fetches
