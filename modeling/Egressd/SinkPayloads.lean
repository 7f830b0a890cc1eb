import Egressd.HTTPSink
import Egressd.Histories

set_option autoImplicit false

namespace Egressd.SinkPayloads
open Finmap Exporter Histories Fetches MetricsPb

/-- The value that the configuration gives to a header. Of several names with one canonical
    form the one that is visited last counts. -/
def configured (env : Environment) (cfg : SinkHTTPConfig) (o : VisitOrder String) (key : String) :
    Option String :=
  (latest (fun entry : String × String => env.canonicalHeaderKey entry.1)
    (cfg.headers.visited o) key).map (fun entry => env.expandEnv entry.2)

def headerValue (env : Environment) (cfg : SinkHTTPConfig) (o : VisitOrder String)
    (binVersion key : String) : Option String :=
  if key = "Content-Encoding" ∧ cfg.compression = .gzip then some "gzip"
  else if key = "Content-Type" then some "application/protobuf"
  else if key = "User-Agent" ∧ "User-Agent" ∉ cfg.headers then
    some ("castai-egressd/" ++ binVersion)
  else configured env cfg o key

/-- The endpoint behind the URL of a sink, which is not part of the repository, and what it reads
    out of a request. It goes by the headers, and it reads nothing out of a request with an
    encoding that it does not know. -/
structure Gateway (Z : Codecs) where
  decode : Request → Option (List PodNetworkMetric)
  decode_plain : ∀ req, req.header.lookup "Content-Type" = some "application/protobuf" →
    req.header.lookup "Content-Encoding" = none ∨
      req.header.lookup "Content-Encoding" = some "identity" →
    decode req = (Z.proto.pod.unmarshal req.body).toOption
  decode_gzip : ∀ req, req.header.lookup "Content-Type" = some "application/protobuf" →
    req.header.lookup "Content-Encoding" = some "gzip" →
    decode req = (Z.reader req.body).toOption.bind (fun body =>
      (Z.proto.pod.unmarshal body).toOption)
  decode_unknown : ∀ req encoding, req.header.lookup "Content-Encoding" = some encoding →
    encoding ≠ "identity" → encoding ≠ "gzip" → decode req = none

section Headers

variable {env : Environment} {Z : Codecs} {cfg : SinkHTTPConfig} {o : VisitOrder String}
  {binVersion : String} {batch : List PodNetworkMetric} {req : Request}

theorem lookup_headerSet {key value : String} (known : env.canonicalHeaderKey key = key)
    (header : Finmap (fun _ : String => String)) (k : String) :
    (headerSet (env.packages Z) header key value).lookup k =
      if k = key then some value else header.lookup k := by
  rw [headerSet, lookup_insert_ite]
  change (if k = env.canonicalHeaderKey key then _ else _) = _
  rw [known]

theorem lookup_configured (entries : List (String × String)) (k : String) :
    (entries.foldl (fun header entry =>
      headerSet (env.packages Z) header entry.1 (env.expandEnv entry.2)) ∅).lookup k =
      (latest (fun entry : String × String => env.canonicalHeaderKey entry.1) entries k).map
        (fun entry => env.expandEnv entry.2) := by
  refine foldl_history (fun entries (header : Finmap (fun _ : String => String)) =>
    header.lookup k = (latest (fun entry : String × String => env.canonicalHeaderKey entry.1)
      entries k).map (fun entry => env.expandEnv entry.2)) (lookup_empty k) ?_ entries
  intro entries header entry ih
  rw [latest_concat, headerSet, lookup_insert_ite]
  change (if k = env.canonicalHeaderKey entry.1 then _ else _) = _
  by_cases same : env.canonicalHeaderKey entry.1 = k
  · rw [if_pos same, if_pos same.symm]
    rfl
  · rw [if_neg same, if_neg (fun h => same h.symm), ih]

theorem lookup_configuredHeader (k : String) :
    (configuredHeader (env.packages Z) cfg o binVersion).lookup k =
      if k = "User-Agent" ∧ "User-Agent" ∉ cfg.headers then
        some ("castai-egressd/" ++ binVersion)
      else configured env cfg o k := by
  have agent := env.canonical "User-Agent" (by simp)
  unfold configuredHeader
  by_cases given : "User-Agent" ∈ cfg.headers
  · rw [if_pos given, if_neg (fun both => both.2 given)]
    exact lookup_configured _ k
  · rw [if_neg given, lookup_headerSet agent]
    by_cases same : k = "User-Agent"
    · rw [if_pos same, if_pos ⟨same, given⟩]
    · rw [if_neg same, if_neg (fun both => same both.1)]
      exact lookup_configured _ k

theorem prepared (h : prepare (env.packages Z) cfg o binVersion batch = .ok req) :
    (∃ body, Z.proto.pod.marshal batch = .ok body ∧ req.body =
      if cfg.compression = .gzip then (Z.write body ++ Z.close body).flatten else body) ∧
    ∀ key, req.header.lookup key = headerValue env cfg o binVersion key := by
  have type := env.canonical "Content-Type" (by simp)
  have encoding := env.canonical "Content-Encoding" (by simp)
  unfold prepare at h
  split at h
  · cases h
  · split at h
    · cases h
    · dsimp only at h
      split at h
      · cases h
      · rename_i payload encoded
        split at h
        · cases h
        · cases h
          obtain ⟨body, marshalled, written⟩ := PartialRuns.bind_ok.mp encoded
          refine ⟨⟨body, marshalled, ?_⟩, fun key => ?_⟩
          · cases compression : cfg.compression with
            | gzip =>
              rw [compression] at written
              cases written
              rw [if_pos rfl]
            | other name =>
              rw [compression] at written
              cases written
              rw [if_neg nofun]
          · unfold headerValue
            cases compression : cfg.compression with
            | gzip =>
              simp only
              rw [lookup_headerSet encoding, lookup_headerSet type, lookup_configuredHeader]
              simp only [and_true]
            | other name =>
              simp only
              rw [lookup_headerSet type, lookup_configuredHeader]
              simp only [reduceCtorEq, and_false, if_false]

end Headers

section Decoding

variable {env : Environment} {Z : Codecs} {cfg : SinkHTTPConfig} {o : VisitOrder String}
  {binVersion : String} {batch : List PodNetworkMetric} {req : Request}

def Fits (Z : Codecs) (batch : List PodNetworkMetric) : Prop :=
  ∀ body, Z.proto.pod.marshal batch = .ok body → body.length < 2 ^ 64

theorem not_magic {body : Bytes} (h : Z.proto.pod.marshal batch = .ok body) :
    ¬ [0x1f, 0x8b] <+: body := by
  rintro ⟨rest, rfl⟩
  rcases Z.proto.firstTag batch _ h with empty | ⟨rest', tag⟩
  · cases empty
  · cases tag

theorem contentType (h : prepare (env.packages Z) cfg o binVersion batch = .ok req) :
    req.header.lookup "Content-Type" = some "application/protobuf" := by
  rw [(prepared h).2, headerValue]
  simp

theorem decode_of_gzip (gateway : Gateway Z)
    (h : prepare (env.packages Z) cfg o binVersion batch = .ok req)
    (compression : cfg.compression = .gzip) (fits : Fits Z batch) :
    gateway.decode req = some batch := by
  obtain ⟨⟨body, marshalled, written⟩, header⟩ := prepared h
  have encoding : req.header.lookup "Content-Encoding" = some "gzip" := by
    rw [header, headerValue]
    simp [compression]
  rw [if_pos compression] at written
  rw [gateway.decode_gzip req (contentType h) encoding, written, Z.reader_written]
  change (Z.proto.pod.unmarshal body).toOption = some batch
  rw [Z.proto.pod.unmarshal_marshal batch body marshalled (fits body marshalled)]
  rfl

theorem decode_of_plain (gateway : Gateway Z)
    (h : prepare (env.packages Z) cfg o binVersion batch = .ok req)
    (compression : cfg.compression ≠ .gzip) (fits : Fits Z batch) :
    gateway.decode req = if configured env cfg o "Content-Encoding" = none ∨
      configured env cfg o "Content-Encoding" = some "identity" then some batch else none := by
  obtain ⟨⟨body, marshalled, written⟩, header⟩ := prepared h
  have encoding : req.header.lookup "Content-Encoding" =
      configured env cfg o "Content-Encoding" := by
    rw [header, headerValue]
    simp [compression]
  rw [if_neg compression] at written
  rw [← encoding]
  split
  · rename_i plain
    rw [gateway.decode_plain req (contentType h) plain, written,
      Z.proto.pod.unmarshal_marshal batch body marshalled (fits body marshalled)]
    rfl
  · rename_i claimed
    rw [not_or] at claimed
    obtain ⟨value, given⟩ := Option.ne_none_iff_exists'.mp claimed.1
    by_cases gzip : value = "gzip"
    · rw [gzip] at given
      rw [gateway.decode_gzip req (contentType h) given, written]
      cases read : Z.reader body with
      | error err => rfl
      | ok content => exact absurd (Z.magic body content read) (not_magic marshalled)
    · refine gateway.decode_unknown req value given (fun identity => ?_) gzip
      rw [identity] at given
      exact claimed.2 given

theorem decode_eq (gateway : Gateway Z)
    (h : prepare (env.packages Z) cfg o binVersion batch = .ok req) (fits : Fits Z batch) :
    gateway.decode req = if cfg.compression = .gzip ∨
      configured env cfg o "Content-Encoding" = none ∨
      configured env cfg o "Content-Encoding" = some "identity" then some batch else none := by
  by_cases compression : cfg.compression = .gzip
  · rw [decode_of_gzip gateway h compression fits, if_pos (.inl compression)]
  · rw [decode_of_plain gateway h compression fits]
    simp only [compression, false_or]

end Decoding

def Gateway.strict (Z : Codecs) : Gateway Z where
  decode req :=
    if req.header.lookup "Content-Type" = some "application/protobuf" then
      match req.header.lookup "Content-Encoding" with
      | none => (Z.proto.pod.unmarshal req.body).toOption
      | some encoding =>
        if encoding = "identity" then (Z.proto.pod.unmarshal req.body).toOption
        else if encoding = "gzip" then
          (Z.reader req.body).toOption.bind (fun body => (Z.proto.pod.unmarshal body).toOption)
        else none
    else none
  decode_plain req type encoding := by
    rw [if_pos type]
    rcases encoding with absent | identity
    · rw [absent]
    · rw [identity]
      rfl
  decode_gzip req type encoding := by
    rw [if_pos type, encoding]
    rfl
  decode_unknown req value encoding notIdentity notGzip := by
    rw [encoding]
    simp only [notIdentity, notGzip, if_false, ite_self]

end Egressd.SinkPayloads
