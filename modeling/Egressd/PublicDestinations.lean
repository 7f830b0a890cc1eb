import Egressd.ExporterAttribution
import Egressd.PromSink

set_option autoImplicit false

namespace Egressd.Exporter
open Conntrack CollectorModel CollectorHandler Kube

/-- What the exporter and the sink do with traffic to a public address. -/
structure TreatedAsPublic (N : Netaddr) (d : IPv4) : Prop where
  dnsBranch : ∀ (σ : Type) (W : KubeWatcher σ) (lookup : Int32 → Bytes) (s : σ)
    (conn : PbRawNetworkMetric) (m : PodNetworkMetric), conn.dstIp = d.int32 →
    (buildPodNetworkMetric N W lookup s conn).1 = .ok m →
      (m.dstDnsName = lookup d.int32 ∧ m.dstPod = "" ∧ m.dstNamespace = "" ∧ m.dstNode = "" ∧
        m.dstZone = "") ∧
        (buildPodNetworkMetric N W lookup s conn).2 =
          (W.getPodByIP s (dotted (ipFromInt32 conn.srcIp))).2
  labelled : ∀ (name : String) (m : PodNetworkMetric), m.dstIp = dotted d →
    label "dst_ip_type" "public" ∈ initialLabels N name m

def IsLocal (d : IPv4) : Prop :=
  d.a = 127 ∨ (224 ≤ d.a ∧ d.a ≤ 239) ∨ (d.a = 169 ∧ d.b = 254)

instance (d : IPv4) : Decidable (IsLocal d) := inferInstanceAs (Decidable (_ ∨ _ ∨ _))

section Classification

variable {N : Netaddr} {d : IPv4}

theorem isPrivateNetwork_iff :
    isPrivateNetwork N (.v4 d) = true ↔ N.isPrivate (.v4 d) = true ∨ IsLocal d := by
  unfold isPrivateNetwork IsLocal
  rw [N.isLoopback_v4, N.isMulticast_v4, N.isLinkLocalUnicast_v4, N.isLinkLocalMulticast_v4,
    N.isInterfaceLocalMulticast_v4]
  simp only [Bool.or_eq_true, beq_iff_eq, Bool.and_eq_true, decide_eq_true_eq, Bool.or_false]
  -- The link-local multicast addresses are multicast addresses.
  have linkLocal : (d.a = 224 ∧ d.b = 0) ∧ d.c = 0 → 224 ≤ d.a ∧ d.a ≤ 239 := by
    rintro ⟨⟨first, _⟩, _⟩
    rw [first]
    decide
  constructor
  · rintro ((((h | h) | h) | h) | h)
    · exact .inl h
    · exact .inr (.inl h)
    · exact .inr (.inr (.inl h))
    · exact .inr (.inr (.inr h))
    · exact .inr (.inr (.inl (linkLocal h)))
  · rintro (h | h | h | h)
    · exact .inl (.inl (.inl (.inl h)))
    · exact .inl (.inl (.inl (.inr h)))
    · exact .inl (.inl (.inr h))
    · exact .inl (.inr h)

theorem not_local_of_private (isPrivate : N.isPrivate (.v4 d) = true) : ¬ IsLocal d := by
  have first : d.a = 10 ∨ d.a = 172 ∨ d.a = 192 := by
    rw [N.isPrivate_v4] at isPrivate
    simp only [Bool.or_eq_true, beq_iff_eq, Bool.and_eq_true] at isPrivate
    tauto
  rintro (loopback | multicast | linkLocal)
  · rw [loopback] at first
    exact absurd first (by decide)
  · rcases first with first | first | first <;>
      · rw [first] at multicast
        exact absurd multicast (by decide)
  · rw [linkLocal.1] at first
    exact absurd first (by decide)

theorem treatedAsPublic_iff : TreatedAsPublic N d ↔ N.isPrivate (.v4 d) = false := by
  constructor
  · intro treated
    rw [← Bool.not_eq_true]
    intro isPrivate
    -- A private destination of the only pod does not get the name that is stored for it.
    have built : (buildPodNetworkMetric N onePodWatcher (fun _ => [0]) ()
        (rawMetric .unspecified d)).1 = _ := build_of_source (fun _ => [0]) rfl rfl
    rw [dstIp_rawMetric, if_pos isPrivate] at built
    have named := (treated.dnsBranch Unit onePodWatcher (fun _ => [0]) () _ _ rfl built).1.1
    cases named
  · intro notPrivate
    constructor
    · intro σ W lookup s conn m dst built
      have address : ipFromInt32 conn.dstIp = d := by rw [dst, ipFromInt32_int32]
      rw [← address] at notPrivate
      refine ⟨?_, watcher_of_not_private lookup notPrivate⟩
      obtain ⟨pod, srcZone, rfl⟩ := build_public built notPrivate
      exact ⟨congrArg lookup dst, rfl, rfl, rfl, rfl⟩
    · intro name m dst
      simp [initialLabels, dst, N.parseIP_dotted, notPrivate]

theorem rewrites_iff {cfg : Config} (grouping : cfg.groupPublicIPs = true)
    (specified : d ≠ .unspecified) {conn : Entry} (dst : conn.dst.ip = .v4 d) :
    (groupPublicDst N cfg conn).dst.ip = .v4 .unspecified ↔ isPrivateNetwork N (.v4 d) = false := by
  unfold groupPublicDst
  rw [grouping, dst, Bool.true_and]
  cases isPrivateNetwork N (.v4 d) with
  | false => exact iff_of_true rfl rfl
  | true =>
    refine iff_of_false ?_ (by decide)
    intro same
    change conn.dst.ip = _ at same
    rw [dst] at same
    exact specified (IP.v4.inj same)

end Classification

/-- A collector that groups public destinations rewrites an address exactly if the exporter and
    the sink treat it as public, unless it is a loopback, multicast or link-local address. -/
theorem public_agreement_iff (N : Netaddr) {cfg : Config}
    (grouping : cfg.groupPublicIPs = true) {d : IPv4} (specified : d ≠ .unspecified) {conn : Entry}
    (dst : conn.dst.ip = .v4 d) :
    ((groupPublicDst N cfg conn).dst.ip = .v4 .unspecified ↔ TreatedAsPublic N d) ↔
      ¬ IsLocal d := by
  rw [rewrites_iff grouping specified dst, treatedAsPublic_iff, ← Bool.not_eq_true,
    ← Bool.not_eq_true, isPrivateNetwork_iff]
  have apart : N.isPrivate (.v4 d) = true → ¬ IsLocal d := not_local_of_private
  tauto

def entryTo (d : IPv4) : Entry :=
  ⟨⟨.v4 ⟨10, 0, 0, 1⟩, 40000⟩, ⟨.v4 d, 80⟩, 0, 0, 0, 0, 0, 6⟩

theorem public_agreement_at_resolver :
    (groupPublicDst .documented ⟨true, false⟩ (entryTo ⟨8, 8, 8, 8⟩)).dst.ip =
      .v4 .unspecified ↔ TreatedAsPublic .documented ⟨8, 8, 8, 8⟩ :=
  (public_agreement_iff _ rfl (by decide) rfl).mpr (by decide)

theorem link_local_treated_as_public :
    (groupPublicDst .documented ⟨true, false⟩ (entryTo ⟨169, 254, 169, 254⟩)).dst.ip =
      .v4 ⟨169, 254, 169, 254⟩ ∧
    TreatedAsPublic .documented ⟨169, 254, 169, 254⟩ :=
  ⟨by decide, treatedAsPublic_iff.mpr (by decide)⟩

end Egressd.Exporter
