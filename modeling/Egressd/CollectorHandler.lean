import Egressd.CollectorModel
import Mathlib.Data.Finset.Sort
import Mathlib.Data.List.Infix
import Mathlib.Data.List.Lex

set_option autoImplicit false

/-!
# The HTTP handler of the collector

The response writer decides for each of its `Write` calls whether it fails.
`compress/gzip` hands some writes to it while the body is being written and the
rest when it is closed; which of them, is left open.
-/
namespace Egressd.CollectorHandler
open CollectorModel

structure IP2Domain where
  ip : Int32
  domain : Bytes
  deriving DecidableEq, Repr

structure RawNetworkMetricBatch where
  items : List PbRawNetworkMetric
  ip2Domain : List IP2Domain
  deriving DecidableEq, Repr

/-- `proto.Marshal`, and the writes that `gzip.Writer` makes below its `Write` and `Close`. -/
structure Encoders where
  marshal : RawNetworkMetricBatch → Except Error Bytes
  gzipWrite : Bytes → List Bytes
  gzipClose : Bytes → List Bytes

def Encoders.buffering : Encoders where
  marshal _ := .ok [0]
  gzipWrite _ := [[0x1f, 0x8b]]
  gzipClose body := [body]

/-- The error, if any, of the `Write` call with the given number and data. -/
structure ResponseWriter where
  write : ℕ → Bytes → Option Error

structure Response where
  header : List (String × String)
  status : Option ℕ
  writes : List (Bytes × Option Error)
  deriving DecidableEq, Repr

def Response.empty : Response := ⟨[], none, []⟩

def Response.addHeader (r : Response) (name value : String) : Response :=
  { r with header := r.header ++ [(name, value)] }

def Response.delHeader (r : Response) (name : String) : Response :=
  { r with header := r.header.filter (fun h => h.1 ≠ name) }

def Response.setHeader (r : Response) (name value : String) : Response :=
  (r.delHeader name).addHeader name value

/-- Only the first status is sent. -/
def Response.writeHeader (r : Response) (code : ℕ) : Response :=
  { r with status := r.status.or (some code) }

def Response.write (w : ResponseWriter) (r : Response) (p : Bytes) : Option Error × Response :=
  let err := w.write r.writes.length p
  (err, { r.writeHeader 200 with writes := r.writes ++ [(p, err)] })

def Response.writeAll (w : ResponseWriter) : Response → List Bytes → Option Error × Response
  | r, [] => (none, r)
  | r, p :: ps =>
    match r.write w p with
    | (some err, r) => (some err, r)
    | (none, r) => r.writeAll w ps

def Response.httpError (w : ResponseWriter) (r : Response) (error : String) (code : ℕ) : Response :=
  let r := r.delHeader "Content-Length"
  let r := r.setHeader "Content-Type" "text/plain; charset=utf-8"
  let r := r.setHeader "X-Content-Type-Options" "nosniff"
  let r := r.writeHeader code
  (r.write w (error ++ "\n").toUTF8.toList).2

def writeGzipBody (E : Encoders) (w : ResponseWriter) (r : Response) (body : Bytes) :
    Option Error × Response :=
  let r := r.addHeader "Content-Encoding" "gzip"
  match r.writeAll w (E.gzipWrite body) with
  | (some err, r) =>
    -- The deferred Close returns the error of the failed Write and writes no more.
    (some err, r.httpError w "Internal Server Error" 500)
  | (none, r) =>
    -- The result of the deferred Close is dropped.
    (none, (r.writeAll w (E.gzipClose body)).2)

def writePlainBody (w : ResponseWriter) (r : Response) (body : Bytes) : Option Error × Response :=
  match r.write w body with
  | (some err, r) => (some err, r.httpError w "Internal Server Error" 500)
  | (none, r) => (none, r)

structure Request where
  acceptEncoding : List String
  deriving DecidableEq, Repr

/-- `unicode.ToLower` where it yields an ASCII letter; `İ` and the Kelvin sign do as well. -/
def toLower (c : Char) : Char :=
  if c = 'İ' then 'i' else if c = 'K' then 'k' else c.toLower

def acceptsGzip (req : Request) : Bool :=
  let enc := req.acceptEncoding.headD ""
  "gzip".toList <:+: enc.toList.map toLower

/-- A request and what the handler meets while it serves it: the records of the resolver,
    the order in which a map with given keys is visited and the clock at each visit. -/
structure HandlerCall (κ : Type) where
  request : Request
  writer : ResponseWriter
  records : List IP2Domain
  order : Finset κ → List κ
  clock : κ → Time
  visitsEachOnce : ∀ keys, (order keys : Multiset κ) = keys.val

def sampleCall (request : Request) (writer : ResponseWriter) : HandlerCall Bytes where
  request := request
  writer := writer
  records := []
  order keys :=
    letI : LinearOrder Bytes := LinearOrder.lift' (List.map UInt8.toNat)
      (List.map_injective_iff.mpr (fun _ _ => UInt8.toNat_inj.mp))
    keys.sort (· ≤ ·)
  clock _ := 0
  visitsEachOnce _ := Finset.sort_eq _ _

def plainCall : HandlerCall Bytes := sampleCall ⟨[]⟩ ⟨fun _ _ => none⟩

inductive Outcome where
  | marshalFailed (err : Error)
  | writeFailed (err : Error)
  | sent (batch : RawNetworkMetricBatch)

structure Handled (κ : Type) where
  collector : Collector κ
  response : Response
  outcome : Outcome

def resetMetric (now : Time) (m : RawNetworkMetric) : RawNetworkMetric :=
  let newLifetime := now + 2 * minute
  { m with
    txBytes := 0
    rxBytes := 0
    txPackets := 0
    rxPackets := 0
    lifetime := if newLifetime < m.lifetime then newLifetime else m.lifetime }

variable {κ : Type} [DecidableEq κ]

def batchOf (c : Collector κ) (call : HandlerCall κ) : RawNetworkMetricBatch :=
  { items := (call.order c.podMetrics.keys).filterMap
      (fun key => (c.podMetrics.lookup key).map (·.toPbRawNetworkMetric))
    ip2Domain := call.records }

theorem batchOf_singleton (call : HandlerCall κ) {c : Collector κ} {key : κ} {m : RawNetworkMetric}
    (h : c.podMetrics = Finmap.singleton key m) :
    batchOf c call = ⟨[m.toPbRawNetworkMetric], call.records⟩ := by
  have order := Multiset.coe_eq_singleton.mp (call.visitsEachOnce {key})
  rw [batchOf, h, Finmap.keys_singleton, order,
    List.filterMap_cons_some (by rw [Finmap.lookup_singleton_eq]; rfl)]
  rfl

def writeBody (E : Encoders) (call : HandlerCall κ) (body : Bytes) : Option Error × Response :=
  if acceptsGzip call.request then writeGzipBody E call.writer .empty body
  else writePlainBody call.writer .empty body

def resetDeltas (cfg : Config) (c : Collector κ) (clock : κ → Time) : Collector κ :=
  if cfg.sendTrafficDelta then
    { c with podMetrics := c.podMetrics.mapValues (fun key m => resetMetric (clock key) m) }
  else c

def getRawNetworkMetricsHandler (E : Encoders) (cfg : Config) (c : Collector κ)
    (call : HandlerCall κ) : Handled κ :=
  let batch := batchOf c call
  match E.marshal batch with
  | .error err => ⟨c, Response.empty.writeHeader 500, .marshalFailed err⟩
  | .ok batchBytes =>
    match writeBody E call batchBytes with
    | (some err, resp) => ⟨c, resp, .writeFailed err⟩
    | (none, resp) => ⟨resetDeltas cfg c call.clock, resp, .sent batch⟩

end Egressd.CollectorHandler
