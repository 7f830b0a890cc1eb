import Egressd.ExporterModel
import Egressd.ProtoWire

set_option autoImplicit false

namespace Egressd.MetricsPb
open ProtoWire CollectorModel CollectorHandler Exporter

def rawNetworkMetric : Schema PbRawNetworkMetric where
  zero := ⟨0, 0, 0, 0, 0, 0, 0⟩
  fields := [
    .int32 1 (·.srcIp) (fun m v => { m with srcIp := v }),
    .int32 2 (·.dstIp) (fun m v => { m with dstIp := v }),
    .int64 3 (·.txBytes) (fun m v => { m with txBytes := v }),
    .int64 4 (·.txPackets) (fun m v => { m with txPackets := v }),
    .int64 5 (·.rxBytes) (fun m v => { m with rxBytes := v }),
    .int64 6 (·.rxPackets) (fun m v => { m with rxPackets := v }),
    .int32 7 (·.proto) (fun m v => { m with proto := v })]

def ip2Domain : Schema IP2Domain where
  zero := ⟨0, []⟩
  fields := [
    .int32 1 (·.ip) (fun m v => { m with ip := v }),
    .string 2 (·.domain) (fun m v => { m with domain := v })]

def rawNetworkMetricBatch : Schema RawNetworkMetricBatch where
  zero := ⟨[], []⟩
  fields := [
    .messages 1 rawNetworkMetric (·.items) (fun m v => { m with items := v }),
    .messages 2 ip2Domain (·.ip2Domain) (fun m v => { m with ip2Domain := v })]

def podNetworkMetric : Schema PodNetworkMetric where
  zero := ⟨"", "", "", "", "", "", [], "", "", "", "", 0, 0, 0, 0, 0⟩
  fields := [
    .text 1 (·.srcIp) (fun m v => { m with srcIp := v }),
    .text 2 (·.srcPod) (fun m v => { m with srcPod := v }),
    .text 3 (·.srcNamespace) (fun m v => { m with srcNamespace := v }),
    .text 4 (·.srcNode) (fun m v => { m with srcNode := v }),
    .text 5 (·.srcZone) (fun m v => { m with srcZone := v }),
    .text 6 (·.dstIp) (fun m v => { m with dstIp := v }),
    .text 7 (·.dstPod) (fun m v => { m with dstPod := v }),
    .text 8 (·.dstNamespace) (fun m v => { m with dstNamespace := v }),
    .text 9 (·.dstNode) (fun m v => { m with dstNode := v }),
    .text 10 (·.dstZone) (fun m v => { m with dstZone := v }),
    .int64 11 (·.txBytes) (fun m v => { m with txBytes := v }),
    .int64 12 (·.txPackets) (fun m v => { m with txPackets := v }),
    .int64 13 (·.rxBytes) (fun m v => { m with rxBytes := v }),
    .int64 14 (·.rxPackets) (fun m v => { m with rxPackets := v }),
    .int32 15 (·.proto) (fun m v => { m with proto := v }),
    .string 17 (·.dstDnsName) (fun m v => { m with dstDnsName := v })]

/-- A `PodNetworkMetricBatch` has no other field than its items. -/
def podNetworkMetricBatch : Schema (List PodNetworkMetric) where
  zero := []
  fields := [.messages 1 podNetworkMetric id (fun _ v => v)]

theorem lawful_rawNetworkMetric : rawNetworkMetric.Lawful where
  valid := by decide
  distinct := by decide
  restored m :=
    .cons (restores_int32 rfl) <| .cons (restores_int32 rfl) <| .cons (restores_int64 rfl) <|
    .cons (restores_int64 rfl) <| .cons (restores_int64 rfl) <| .cons (restores_int64 rfl) <|
    .cons (restores_int32 rfl) <| .nil m

theorem lawful_ip2Domain : ip2Domain.Lawful where
  valid := by decide
  distinct := by decide
  restored m := .cons (restores_int32 rfl) <| .cons (restores_string rfl) <| .nil m

theorem lawful_rawNetworkMetricBatch : rawNetworkMetricBatch.Lawful where
  valid := by decide
  distinct := by decide
  restored m := by
    refine .cons (restores_messages lawful_rawNetworkMetric ?_ ?_ rfl) ?_
    · exact fun _ _ => rfl
    · exact fun _ _ _ => rfl
    refine .cons (restores_messages lawful_ip2Domain ?_ ?_ rfl) (.nil m)
    · exact fun _ _ => rfl
    · exact fun _ _ _ => rfl

theorem lawful_podNetworkMetric : podNetworkMetric.Lawful where
  valid := by decide
  distinct := by decide
  restored m :=
    .cons (restores_text rfl) <| .cons (restores_text rfl) <| .cons (restores_text rfl) <|
    .cons (restores_text rfl) <| .cons (restores_text rfl) <| .cons (restores_text rfl) <|
    .cons (restores_text rfl) <| .cons (restores_text rfl) <| .cons (restores_text rfl) <|
    .cons (restores_text rfl) <| .cons (restores_int64 rfl) <| .cons (restores_int64 rfl) <|
    .cons (restores_int64 rfl) <| .cons (restores_int64 rfl) <| .cons (restores_int32 rfl) <|
    .cons (restores_string rfl) <| .nil m

theorem lawful_podNetworkMetricBatch : podNetworkMetricBatch.Lawful where
  valid := by decide
  distinct := by decide
  restored m := by
    refine .cons (restores_messages lawful_podNetworkMetric ?_ ?_ rfl) (.nil m)
    · exact fun _ _ => rfl
    · exact fun _ _ _ => rfl

theorem valid_rawNetworkMetricBatch (batch : RawNetworkMetricBatch) :
    rawNetworkMetricBatch.valid batch = batch.ip2Domain.all (fun r => validString r.domain) := by
  have items : batch.items.all rawNetworkMetric.valid = true :=
    List.all_eq_true.mpr (fun _ _ => rfl)
  change (batch.items.all rawNetworkMetric.valid &&
    (batch.ip2Domain.all ip2Domain.valid && true)) = _
  rw [items, Bool.true_and, Bool.and_true]
  congr 1
  funext r
  exact Bool.and_true _

theorem valid_podNetworkMetricBatch (batch : List PodNetworkMetric) :
    podNetworkMetricBatch.valid batch = batch.all (fun m => validString m.dstDnsName) := by
  change (batch.all podNetworkMetric.valid && true) = _
  rw [Bool.and_true]
  congr 1
  funext m
  exact Bool.and_true _

theorem sound_ip2Domain : ip2Domain.Sound where
  zero := by decide +kernel
  read f mem m p m' valid read := by
    have valid_iff : ∀ m, ip2Domain.valid m = validString m.domain := fun m => Bool.and_true _
    rw [valid_iff] at valid ⊢
    simp only [ip2Domain, List.mem_cons, List.not_mem_nil, or_false] at mem
    rcases mem with rfl | rfl
    · cases p <;> cases read <;> exact valid
    · cases p with
      | varint v =>
        cases read
        exact valid
      | bytes b =>
        simp only [Field.string] at read
        split at read
        · rename_i ok
          cases read
          exact ok
        · cases read

theorem sound_rawNetworkMetricBatch : rawNetworkMetricBatch.Sound where
  zero := rfl
  read f mem m p m' valid read := by
    rw [valid_rawNetworkMetricBatch] at valid ⊢
    simp only [rawNetworkMetricBatch, List.mem_cons, List.not_mem_nil, or_false] at mem
    rcases mem with rfl | rfl
    · cases p with
      | varint v =>
        cases read
        exact valid
      | bytes b =>
        obtain ⟨item, _, rfl⟩ := Option.map_eq_some_iff.mp read
        exact valid
    · cases p with
      | varint v =>
        cases read
        exact valid
      | bytes b =>
        obtain ⟨item, parsed, rfl⟩ := Option.map_eq_some_iff.mp read
        have ok := sound_ip2Domain.valid_of_unmarshal parsed
        rw [List.all_append, valid, Bool.true_and, List.all_cons, List.all_nil, Bool.and_true]
        exact (Bool.and_true _).symm.trans ok

/-- The text that `proto.Marshal` returns for a string that is not UTF-8. -/
def invalidUTF8 : Error := "string field contains invalid UTF-8"

/-- `proto.Marshal` and `proto.Unmarshal` of one type of messages. Only a string that is not UTF-8
    keeps a message from being marshalled, and what is marshalled is read back. -/
structure Codec (M : Type) (readable : M → Prop) where
  marshal : M → Except Error Bytes
  unmarshal : Bytes → Except Error M
  marshal_readable : ∀ m, readable m → ∃ body, marshal m = .ok body
  marshal_unreadable : ∀ m, ¬ readable m → marshal m = .error invalidUTF8
  unmarshal_marshal : ∀ m body, marshal m = .ok body → body.length < 2 ^ 64 →
    unmarshal body = .ok m

def ReadableDomains (batch : RawNetworkMetricBatch) : Prop :=
  ∀ r ∈ batch.ip2Domain, validString r.domain = true

def ReadableNames (batch : List PodNetworkMetric) : Prop :=
  ∀ m ∈ batch, validString m.dstDnsName = true

instance (batch : List PodNetworkMetric) : Decidable (ReadableNames batch) :=
  inferInstanceAs (Decidable (∀ m ∈ batch, validString m.dstDnsName = true))

/-- The package `proto` with the two messages that are sent. A batch of pod metrics begins with
    the tag of its first item. -/
structure Protobuf where
  raw : Codec RawNetworkMetricBatch ReadableDomains
  pod : Codec (List PodNetworkMetric) ReadableNames
  readable_of_unmarshal : ∀ body batch, raw.unmarshal body = .ok batch → ReadableDomains batch
  firstTag : ∀ batch body, pod.marshal batch = .ok body → body = [] ∨ ∃ rest, body = 10 :: rest

theorem Codec.marshal_ok_iff {M : Type} {readable : M → Prop} (C : Codec M readable) {m : M} :
    (∃ body, C.marshal m = .ok body) ↔ readable m := by
  constructor
  · rintro ⟨body, ok⟩
    by_contra unreadable
    rw [C.marshal_unreadable m unreadable] at ok
    cases ok
  · exact C.marshal_readable m

section Wire

variable {M : Type} {readable : M → Prop}

theorem elim_ok_iff {α : Type} {x : Option α} {err : Error} {a : α} :
    x.elim (.error err) Except.ok = .ok a ↔ x = some a := by
  cases x with
  | none => simp
  | some a' => simp

def Codec.wire (S : Schema M) (lawful : S.Lawful) (valid : ∀ m, S.valid m = true ↔ readable m) :
    Codec M readable where
  marshal m := (S.marshal m).elim (.error invalidUTF8) .ok
  unmarshal body := (S.unmarshal body).elim (.error "cannot parse invalid wire-format data") .ok
  marshal_readable m h := ⟨_, elim_ok_iff.mpr (if_pos ((valid m).mpr h))⟩
  marshal_unreadable m h := by
    have none : S.marshal m = none := if_neg (mt (valid m).mp h)
    rw [none]
    rfl
  unmarshal_marshal m body marshalled small :=
    elim_ok_iff.mpr (lawful.unmarshal_marshal (elim_ok_iff.mp marshalled) small)

end Wire

def Protobuf.wire : Protobuf where
  raw := .wire rawNetworkMetricBatch lawful_rawNetworkMetricBatch (fun batch => by
    rw [valid_rawNetworkMetricBatch, List.all_eq_true]
    rfl)
  pod := .wire podNetworkMetricBatch lawful_podNetworkMetricBatch (fun batch => by
    rw [valid_podNetworkMetricBatch, List.all_eq_true]
    rfl)
  readable_of_unmarshal body batch parsed := by
    have valid := sound_rawNetworkMetricBatch.valid_of_unmarshal (elim_ok_iff.mp parsed)
    rw [valid_rawNetworkMetricBatch, List.all_eq_true] at valid
    exact valid
  firstTag batch body marshalled := by
    have written := elim_ok_iff.mp marshalled
    unfold Schema.marshal at written
    split at written
    · cases written
      cases batch with
      | nil => exact .inl rfl
      | cons m ms => exact .inr ⟨_, rfl⟩
    · cases written

theorem marshal_wire_raw {batch : RawNetworkMetricBatch}
    (valid : rawNetworkMetricBatch.valid batch = true) : Protobuf.wire.raw.marshal batch =
      .ok (appendFields (rawNetworkMetricBatch.written batch)) :=
  elim_ok_iff.mpr (if_pos valid)

end Egressd.MetricsPb
