import Egressd.CollectorModel
import Mathlib.Data.Fintype.Sigma

set_option autoImplicit false

/-!
# What one recorded entry does

A `Flow` is the 5-tuple under which the cache keeps a reading and a `Group` the
triple under which traffic is added up. `record_iff` says everything a loop
iteration of `collect` can do, in these terms; later modules do not unfold
`Collector.record` again.
-/
namespace Egressd.CollectorSteps
open Conntrack CollectorModel PartialRuns

structure Flow where
  src : IPv4
  srcPort : UInt16
  dst : IPv4
  dstPort : UInt16
  proto : UInt8
  deriving DecidableEq, Repr, Fintype

@[ext]
structure Group where
  src : IPv4
  dst : IPv4
  proto : UInt8
  deriving DecidableEq, Repr, Fintype

def Flow.bytes (t : Flow) : Bytes :=
  t.src.bytes ++ littleEndianPutUint16 t.srcPort ++ t.dst.bytes ++
    littleEndianPutUint16 t.dstPort ++ [t.proto]

def Group.bytes (g : Group) : Bytes := g.src.bytes ++ g.dst.bytes ++ [g.proto]

theorem Flow.bytes_injective : Function.Injective Flow.bytes := by
  rintro ⟨s, p, d, q, r⟩ ⟨s', p', d', q', r'⟩ h
  simp only [Flow.bytes, IPv4.bytes, littleEndianPutUint16, List.cons_append, List.nil_append,
    List.cons.injEq, and_true] at h
  obtain ⟨sa, sb, sc, sd, pl, ph, da, db, dc, dd, ql, qh, hr⟩ := h
  have hs : s = s' := IPv4.bytes_injective (by simp only [IPv4.bytes, sa, sb, sc, sd])
  have hd : d = d' := IPv4.bytes_injective (by simp only [IPv4.bytes, da, db, dc, dd])
  have hp : p = p' := littleEndianPutUint16_injective (by simp only [littleEndianPutUint16, pl, ph])
  have hq : q = q' := littleEndianPutUint16_injective (by simp only [littleEndianPutUint16, ql, qh])
  rw [hs, hp, hd, hq, hr]

theorem Group.bytes_injective : Function.Injective Group.bytes := by
  rintro ⟨s, d, r⟩ ⟨s', d', r'⟩ h
  simp only [Group.bytes, IPv4.bytes, List.cons_append, List.nil_append, List.cons.injEq,
    and_true] at h
  obtain ⟨sa, sb, sc, sd, da, db, dc, dd, hr⟩ := h
  have hs : s = s' := IPv4.bytes_injective (by simp only [IPv4.bytes, sa, sb, sc, sd])
  have hd : d = d' := IPv4.bytes_injective (by simp only [IPv4.bytes, da, db, dc, dd])
  rw [hs, hd, hr]

/-- The 5-tuple of an entry, if both of its addresses have four bytes. -/
def flowOf (N : Netaddr) (e : Entry) : Except Panic Flow := do
  let src ← N.as4 e.src.ip
  let dst ← N.as4 e.dst.ip
  return ⟨src, e.src.port, dst, e.dst.port, e.proto⟩

/-- The triple to which an entry adds its traffic. -/
def groupOf (N : Netaddr) (cfg : Config) (e : Entry) : Except Panic Group := do
  let src ← N.as4 (groupPublicDst N cfg e).src.ip
  let dst ← N.as4 (groupPublicDst N cfg e).dst.ip
  return ⟨src, dst, (groupPublicDst N cfg e).proto⟩

theorem flowOf_iff {N : Netaddr} {e : Entry} {t : Flow} : flowOf N e = .ok t ↔
    N.as4 e.src.ip = .ok t.src ∧ N.as4 e.dst.ip = .ok t.dst ∧ e.src.port = t.srcPort ∧
      e.dst.port = t.dstPort ∧ e.proto = t.proto := by
  simp only [flowOf, bind_ok, pure, Except.pure]
  constructor
  · rintro ⟨s, hs, d, hd, h⟩
    cases h
    exact ⟨hs, hd, rfl, rfl, rfl⟩
  · rintro ⟨hs, hd, hp, hq, hr⟩
    exact ⟨t.src, hs, t.dst, hd, by rw [hp, hq, hr]⟩

theorem groupOf_iff {N : Netaddr} {cfg : Config} {e : Entry} {g : Group} :
    groupOf N cfg e = .ok g ↔ N.as4 (groupPublicDst N cfg e).src.ip = .ok g.src ∧
      N.as4 (groupPublicDst N cfg e).dst.ip = .ok g.dst ∧
      (groupPublicDst N cfg e).proto = g.proto := by
  simp only [groupOf, bind_ok, pure, Except.pure]
  constructor
  · rintro ⟨s, hs, d, hd, h⟩
    cases h
    exact ⟨hs, hd, rfl⟩
  · rintro ⟨hs, hd, hr⟩
    exact ⟨g.src, hs, g.dst, hd, by rw [hr]⟩

theorem groupPublicDst_src (N : Netaddr) (cfg : Config) (e : Entry) :
    (groupPublicDst N cfg e).src = e.src := by
  unfold groupPublicDst
  split <;> rfl

theorem groupPublicDst_proto (N : Netaddr) (cfg : Config) (e : Entry) :
    (groupPublicDst N cfg e).proto = e.proto := by
  unfold groupPublicDst
  split <;> rfl

theorem groupPublicDst_lifetime (N : Netaddr) (cfg : Config) (e : Entry) :
    (groupPublicDst N cfg e).lifetime = e.lifetime := by
  unfold groupPublicDst
  split <;> rfl

theorem groupPublicDst_counter (N : Netaddr) (cfg : Config) (e : Entry) (k : CounterField) :
    (groupPublicDst N cfg e).counter k = e.counter k := by
  unfold groupPublicDst
  split <;> cases k <;> rfl

theorem groupOf_of_flowOf {N : Netaddr} (cfg : Config) {e : Entry} {t : Flow}
    (h : flowOf N e = .ok t) : ∃ g, groupOf N cfg e = .ok g := by
  obtain ⟨hs, hd, _, _, _⟩ := flowOf_iff.mp h
  by_cases grouped : (cfg.groupPublicIPs && !isPrivateNetwork N e.dst.ip) = true
  · refine ⟨⟨t.src, .unspecified, e.proto⟩, groupOf_iff.mpr ⟨?_, ?_, groupPublicDst_proto N cfg e⟩⟩
    · rw [groupPublicDst_src, hs]
    · rw [groupPublicDst, if_pos grouped, N.as4_v4]
  · refine ⟨⟨t.src, t.dst, e.proto⟩, groupOf_iff.mpr ⟨?_, ?_, groupPublicDst_proto N cfg e⟩⟩
    · rw [groupPublicDst_src, hs]
    · rw [groupPublicDst, if_neg grouped, hd]

def sampleFlow : Flow := ⟨⟨10, 0, 0, 1⟩, 40000, ⟨10, 0, 0, 2⟩, 80, 6⟩

def sampleGroup : Group := ⟨⟨10, 0, 0, 1⟩, ⟨10, 0, 0, 2⟩, 6⟩

def sampleEntry (txBytes : UInt64) (lifetime : Time) : Entry :=
  { src := ⟨.v4 sampleFlow.src, sampleFlow.srcPort⟩
    dst := ⟨.v4 sampleFlow.dst, sampleFlow.dstPort⟩
    txBytes := txBytes
    txPackets := 0
    rxBytes := 0
    rxPackets := 0
    lifetime := lifetime
    proto := sampleFlow.proto }

def secondFlow : Flow := ⟨⟨10, 0, 0, 1⟩, 40000, ⟨10, 0, 0, 3⟩, 443, 6⟩

def secondEntry (txBytes : UInt64) (lifetime : Time) : Entry :=
  { sampleEntry txBytes lifetime with dst := ⟨.v4 secondFlow.dst, secondFlow.dstPort⟩ }

theorem flowOf_sampleEntry (N : Netaddr) (txBytes : UInt64) (lifetime : Time) :
    flowOf N (sampleEntry txBytes lifetime) = .ok sampleFlow :=
  flowOf_iff.mpr ⟨N.as4_v4 _, N.as4_v4 _, rfl, rfl, rfl⟩

theorem groupOf_sampleEntry (N : Netaddr) (delta : Bool) (txBytes : UInt64) (lifetime : Time) :
    groupOf N ⟨false, delta⟩ (sampleEntry txBytes lifetime) = .ok sampleGroup :=
  groupOf_iff.mpr ⟨N.as4_v4 _, N.as4_v4 _, rfl⟩

variable {κ : Type}

def flowKey (P : Packages κ) (t : Flow) : κ := P.conntrackEntryHash.sum64 t.bytes

def groupKey (P : Packages κ) (g : Group) : κ := P.entryGroupHash.sum64 g.bytes

theorem flowKey_inj (P : Packages κ) {t u : Flow} : flowKey P t = flowKey P u ↔ t = u :=
  ⟨fun h => Flow.bytes_injective (P.conntrackEntryHash.collisionFree h), fun h => by rw [h]⟩

theorem groupKey_inj (P : Packages κ) {g h : Group} : groupKey P g = groupKey P h ↔ g = h :=
  ⟨fun e => Group.bytes_injective (P.entryGroupHash.collisionFree e), fun e => by rw [e]⟩

theorem conntrackEntryKey_iff {P : Packages κ} {e : Entry} {key : κ} :
    conntrackEntryKey P e = .ok key ↔ ∃ t, flowOf P.netaddr e = .ok t ∧ key = flowKey P t := by
  simp only [conntrackEntryKey, bind_ok, pure, Except.pure]
  constructor
  · rintro ⟨s, hs, d, hd, h⟩
    cases h
    exact ⟨⟨s, e.src.port, d, e.dst.port, e.proto⟩, flowOf_iff.mpr ⟨hs, hd, rfl, rfl, rfl⟩, rfl⟩
  · rintro ⟨t, h, rfl⟩
    obtain ⟨hs, hd, hp, hq, hr⟩ := flowOf_iff.mp h
    exact ⟨t.src, hs, t.dst, hd, by rw [hp, hq, hr]; rfl⟩

theorem entryGroupKey_iff {P : Packages κ} {cfg : Config} {e : Entry} {key : κ} :
    entryGroupKey P (groupPublicDst P.netaddr cfg e) = .ok key ↔
      ∃ g, groupOf P.netaddr cfg e = .ok g ∧ key = groupKey P g := by
  simp only [entryGroupKey, bind_ok, pure, Except.pure]
  constructor
  · rintro ⟨s, hs, d, hd, h⟩
    cases h
    exact ⟨⟨s, d, _⟩, groupOf_iff.mpr ⟨hs, hd, rfl⟩, rfl⟩
  · rintro ⟨g, h, rfl⟩
    obtain ⟨hs, hd, hr⟩ := groupOf_iff.mp h
    exact ⟨g.src, hs, g.dst, hd, by rw [hr]; rfl⟩

def freshMetric (g : Group) (t : Traffic) (lifetime : Time) : RawNetworkMetric :=
  { srcIp := g.src.int32
    dstIp := g.dst.int32
    txBytes := t.txBytes.toInt64
    txPackets := t.txPackets.toInt64
    rxBytes := t.rxBytes.toInt64
    rxPackets := t.rxPackets.toInt64
    proto := Int32.ofNat g.proto.toNat
    lifetime := lifetime }

theorem newMetric_of_group {N : Netaddr} {cfg : Config} {e : Entry} {g : Group} (t : Traffic)
    (h : groupOf N cfg e = .ok g) :
    newMetric N (groupPublicDst N cfg e) t = .ok (freshMetric g t e.lifetime) := by
  obtain ⟨hs, hd, hr⟩ := groupOf_iff.mp h
  rw [newMetric, toIPint32_of_as4 hs, toIPint32_of_as4 hd, hr, groupPublicDst_lifetime]
  rfl

def credited (g : Group) (t : Traffic) (lifetime : Time) : Option RawNetworkMetric → RawNetworkMetric
  | some pm => pm.add t lifetime
  | none => freshMetric g t lifetime

/-- In delta mode the first collect only fills the cache. -/
def baselineOnly (cfg : Config) (c : Collector κ) : Bool :=
  cfg.sendTrafficDelta && !c.firstCollectDone

def stored (N : Netaddr) (cfg : Config) (c : Collector κ) (e : Entry) : Entry :=
  if baselineOnly cfg c then e else groupPublicDst N cfg e

theorem stored_counter (N : Netaddr) (cfg : Config) (c : Collector κ) (e : Entry)
    (k : CounterField) : (stored N cfg c e).counter k = e.counter k := by
  unfold stored
  split
  · rfl
  · exact groupPublicDst_counter N cfg e k

theorem stored_lifetime (N : Netaddr) (cfg : Config) (c : Collector κ) (e : Entry) :
    (stored N cfg c e).lifetime = e.lifetime := by
  unfold stored
  split
  · rfl
  · exact groupPublicDst_lifetime N cfg e

variable [DecidableEq κ]

def cached (P : Packages κ) (c : Collector κ) (t : Flow) : Option Entry :=
  c.entriesCache.lookup (flowKey P t)

def metricOf (P : Packages κ) (c : Collector κ) (g : Group) : Option RawNetworkMetric :=
  c.podMetrics.lookup (groupKey P g)

def recorded (P : Packages κ) (cfg : Config) (c : Collector κ) (e : Entry) (t : Flow) (g : Group) :
    Collector κ :=
  if baselineOnly cfg c then
    { c with entriesCache := c.entriesCache.insert (flowKey P t) e }
  else
    { c with
      entriesCache := c.entriesCache.insert (flowKey P t) (groupPublicDst P.netaddr cfg e)
      podMetrics := c.podMetrics.insert (groupKey P g)
        (credited g (trafficSince e (cached P c t)) e.lifetime (metricOf P c g)) }

/-- A loop iteration either panics on an address without four bytes or does this. -/
theorem record_iff {P : Packages κ} {cfg : Config} {c c' : Collector κ} {e : Entry} :
    c.record P cfg e = .ok c' ↔ ∃ t g, flowOf P.netaddr e = .ok t ∧
      groupOf P.netaddr cfg e = .ok g ∧ c' = recorded P cfg c e t g := by
  have value : ∀ t g, flowOf P.netaddr e = .ok t → groupOf P.netaddr cfg e = .ok g →
      c.record P cfg e = .ok (recorded P cfg c e t g) := by
    intro t g ht hg
    have hkey := conntrackEntryKey_iff.mpr ⟨t, ht, rfl⟩
    have hgroup := entryGroupKey_iff.mpr ⟨g, hg, rfl⟩
    have hnew := newMetric_of_group (trafficSince e (cached P c t)) hg
    unfold Collector.record recorded baselineOnly credited
    rw [hkey]
    cases hb : (cfg.sendTrafficDelta && !c.firstCollectDone) with
    | true => simp [bind, Except.bind, pure, Except.pure, hb]
    | false =>
      unfold metricOf
      unfold cached at hnew ⊢
      cases hm : c.podMetrics.lookup (groupKey P g) with
      | none => simp [bind, Except.bind, pure, Except.pure, hb, hgroup, hm, hnew]
      | some pm =>
        simp [bind, Except.bind, pure, Except.pure, hb, hgroup, hm, groupPublicDst_lifetime]
  constructor
  · intro h
    have hkey : ∃ key, conntrackEntryKey P e = .ok key := by
      rw [Collector.record, bind_ok] at h
      obtain ⟨key, hkey, _⟩ := h
      exact ⟨key, hkey⟩
    obtain ⟨key, hkey⟩ := hkey
    obtain ⟨t, ht, _⟩ := conntrackEntryKey_iff.mp hkey
    obtain ⟨g, hg⟩ := groupOf_of_flowOf cfg ht
    rw [value t g ht hg] at h
    cases h
    exact ⟨t, g, ht, hg, rfl⟩
  · rintro ⟨t, g, ht, hg, rfl⟩
    exact value t g ht hg

theorem entriesCache_recorded (P : Packages κ) (cfg : Config) (c : Collector κ) (e : Entry)
    (t : Flow) (g : Group) : (recorded P cfg c e t g).entriesCache =
      c.entriesCache.insert (flowKey P t) (stored P.netaddr cfg c e) := by
  unfold recorded stored
  split <;> rfl

theorem podMetrics_recorded (P : Packages κ) (cfg : Config) (c : Collector κ) (e : Entry)
    (t : Flow) (g : Group) : (recorded P cfg c e t g).podMetrics =
      if baselineOnly cfg c then c.podMetrics else c.podMetrics.insert (groupKey P g)
        (credited g (trafficSince e (cached P c t)) e.lifetime (metricOf P c g)) := by
  unfold recorded
  split <;> rfl

theorem firstCollectDone_recorded (P : Packages κ) (cfg : Config) (c : Collector κ) (e : Entry)
    (t : Flow) (g : Group) :
    (recorded P cfg c e t g).firstCollectDone = c.firstCollectDone := by
  unfold recorded
  split <;> rfl

theorem baselineOnly_recorded (P : Packages κ) (cfg : Config) (c : Collector κ) (e : Entry)
    (t : Flow) (g : Group) : baselineOnly cfg (recorded P cfg c e t g) = baselineOnly cfg c := by
  unfold baselineOnly
  rw [firstCollectDone_recorded]

theorem cached_recorded (P : Packages κ) (cfg : Config) (c : Collector κ) (e : Entry)
    (t : Flow) (g : Group) (u : Flow) : cached P (recorded P cfg c e t g) u =
      if u = t then some (stored P.netaddr cfg c e) else cached P c u := by
  unfold cached
  rw [entriesCache_recorded, Finmap.lookup_insert_ite]
  simp only [flowKey_inj]

theorem metricOf_recorded (P : Packages κ) (cfg : Config) (c : Collector κ) (e : Entry)
    (t : Flow) (g h : Group) : metricOf P (recorded P cfg c e t g) h =
      if baselineOnly cfg c = false ∧ h = g then
        some (credited g (trafficSince e (cached P c t)) e.lifetime (metricOf P c g))
      else metricOf P c h := by
  rw [metricOf, podMetrics_recorded]
  cases hb : baselineOnly cfg c with
  | true => simp [metricOf]
  | false =>
    rw [if_neg (by simp), Finmap.lookup_insert_ite]
    simp only [groupKey_inj, true_and]
    rfl

/-- The cached reading of a counter; a flow that is not cached counts from zero. -/
def reading (P : Packages κ) (c : Collector κ) (t : Flow) (k : CounterField) : ℕ :=
  (cached P c t).elim 0 (fun e => (e.counter k).toNat)

/-- The value of a group's counter; a group without a metric has none to show. -/
def value (P : Packages κ) (c : Collector κ) (g : Group) (k : CounterField) : Int64 :=
  (metricOf P c g).elim 0 (fun m => m.counter k)

/-- The amount that recording `e` attributes to its flow. -/
def credit (P : Packages κ) (cfg : Config) (c : Collector κ) (e : Entry) (t : Flow)
    (k : CounterField) : ℕ :=
  if baselineOnly cfg c then 0 else ((trafficSince e (cached P c t)).counter k).toNat

theorem clampedDelta_toNat (x y : UInt64) : (clampedDelta x y).toNat = x.toNat - y.toNat := by
  unfold clampedDelta
  by_cases h : x < y
  · have lt := UInt64.lt_iff_toNat_lt.mp h
    rw [if_pos h, UInt64.toNat_zero]
    omega
  · rw [if_neg h, UInt64.toNat_sub_of_le _ _ (UInt64.not_lt.mp h)]

theorem trafficSince_counter_toNat (P : Packages κ) (c : Collector κ) (e : Entry) (t : Flow)
    (k : CounterField) : ((trafficSince e (cached P c t)).counter k).toNat =
      (e.counter k).toNat - reading P c t k := by
  unfold reading
  cases cached P c t with
  | none => cases k <;> rfl
  | some old => cases k <;> exact clampedDelta_toNat _ _

theorem credit_eq (P : Packages κ) (cfg : Config) (c : Collector κ) (e : Entry) (t : Flow)
    (k : CounterField) : credit P cfg c e t k =
      if baselineOnly cfg c then 0 else (e.counter k).toNat - reading P c t k := by
  rw [credit, trafficSince_counter_toNat]

theorem reading_recorded (P : Packages κ) (cfg : Config) (c : Collector κ) (e : Entry)
    (t : Flow) (g : Group) (u : Flow) (k : CounterField) :
    reading P (recorded P cfg c e t g) u k =
      if u = t then (e.counter k).toNat else reading P c u k := by
  unfold reading
  rw [cached_recorded]
  split
  · change ((stored P.netaddr cfg c e).counter k).toNat = _
    rw [stored_counter]
  · rfl

theorem credited_counter (g : Group) (t : Traffic) (lifetime : Time)
    (pm : Option RawNetworkMetric) (k : CounterField) :
    (credited g t lifetime pm).counter k =
      pm.elim 0 (fun m => m.counter k) + (t.counter k).toInt64 := by
  cases pm with
  | none =>
    rw [Option.elim_none, Int64.zero_add]
    cases k <;> rfl
  | some pm => cases k <;> rfl

theorem toInt64_eq_ofNat (x : UInt64) : x.toInt64 = Int64.ofNat x.toNat := by
  rw [← UInt64.toInt64_ofNat', UInt64.ofNat_toNat]

theorem ofNat_eq_zero_iff (n : ℕ) : Int64.ofNat n = 0 ↔ 2 ^ 64 ∣ n := by
  rw [← Int64.toBitVec_inj, ← BitVec.toNat_inj]
  change n % 2 ^ 64 = 0 ↔ _
  omega

theorem value_recorded (P : Packages κ) (cfg : Config) (c : Collector κ) (e : Entry)
    (t : Flow) (g h : Group) (k : CounterField) : value P (recorded P cfg c e t g) h k =
      value P c h k + if h = g then Int64.ofNat (credit P cfg c e t k) else 0 := by
  unfold value credit
  rw [metricOf_recorded]
  cases hb : baselineOnly cfg c with
  | true => simp
  | false =>
    by_cases same : h = g
    · subst same
      rw [if_pos ⟨rfl, rfl⟩, if_pos rfl, if_neg (by simp), Option.elim_some, credited_counter,
        toInt64_eq_ofNat]
    · rw [if_neg (by simp [same]), if_neg same, Int64.add_zero]

def Carries (m : PbRawNetworkMetric) (g : Group) : Prop :=
  m.srcIp = g.src.int32 ∧ m.dstIp = g.dst.int32 ∧ m.proto = Int32.ofNat g.proto.toNat

instance (m : PbRawNetworkMetric) (g : Group) : Decidable (Carries m g) :=
  inferInstanceAs (Decidable (_ ∧ _ ∧ _))

theorem protoInt32_injective : Function.Injective (fun p : UInt8 => Int32.ofNat p.toNat) := by
  intro p q h
  have hp := p.toNat_lt
  have hq := q.toNat_lt
  have e := congrArg Int32.toInt h
  rw [Int32.toInt_ofNat_of_lt (by omega), Int32.toInt_ofNat_of_lt (by omega)] at e
  exact UInt8.toNat_inj.mp (by omega)

theorem Carries.unique {m : PbRawNetworkMetric} {g h : Group} (hg : Carries m g)
    (hh : Carries m h) : g = h := by
  obtain ⟨gs, gd, gp⟩ := hg
  obtain ⟨hs, hd, hp⟩ := hh
  apply Group.ext
  · exact IPv4.int32_injective (gs.symm.trans hs)
  · exact IPv4.int32_injective (gd.symm.trans hd)
  · exact protoInt32_injective (gp.symm.trans hp)

theorem credited_carries {g : Group} (t : Traffic) (lifetime : Time)
    {pm : Option RawNetworkMetric} (h : ∀ m ∈ pm, Carries m.toPbRawNetworkMetric g) :
    Carries (credited g t lifetime pm).toPbRawNetworkMetric g := by
  cases pm with
  | none => exact ⟨rfl, rfl, rfl⟩
  | some m => exact h m rfl

theorem credited_lifetime (g : Group) (t : Traffic) (lifetime : Time)
    (pm : Option RawNetworkMetric) : (credited g t lifetime pm).lifetime =
      pm.elim lifetime (fun m => max m.lifetime lifetime) := by
  cases pm with
  | none => rfl
  | some m =>
    change (if m.lifetime < lifetime then lifetime else m.lifetime) = max m.lifetime lifetime
    split_ifs with later
    · exact (max_eq_right (le_of_lt later)).symm
    · exact (max_eq_left (not_lt.mp later)).symm

end Egressd.CollectorSteps
