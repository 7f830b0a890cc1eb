import Egressd.ExporterModel
import Egressd.FiniteMap
import Egressd.KeySort

set_option autoImplicit false

namespace Egressd.Exporter
open Finmap KeySort

/-- Names and values may be any bytes. `strings.Compare` orders them by their bytes. -/
structure Label where
  name : Bytes
  value : Bytes
  deriving DecidableEq, Repr

def label (name value : String) : Label := ⟨utf8 name, utf8 value⟩

structure Sample (ν : Type) where
  time : Time
  value : ν

structure TimeSeries (ν : Type) where
  labels : List Label
  sample : Sample ν

structure SinkPromRemoteWriteConfig where
  headers : Finmap (fun _ : Bytes => Bytes)
  labels : Finmap (fun _ : Bytes => Bytes)

def isCrossZoneValue (m : PodNetworkMetric) : String :=
  if m.srcZone ≠ "" ∧ m.dstZone ≠ "" ∧ m.srcZone ≠ m.dstZone then "true" else "false"

def protoNames : List (UInt8 × String) :=
  [(0, "ANY"), (1, "ICMP"), (6, "TCP"), (17, "UDP"), (58, "ICMPv6")]

def protoString (p : UInt8) : String :=
  match protoNames.lookup p with
  | some name => name
  | none => toString p.toNat

def truncate (v : Int32) : UInt8 := v.toUInt32.toUInt8

section Push

variable (N : Netaddr)

def initialLabels (name : String) (m : PodNetworkMetric) : List Label :=
  let dstIP := N.parseIP m.dstIp
  let dstIPType := if N.isPrivate dstIP then "private" else "public"
  [label "__name__" name,
    label "cross_zone" (isCrossZoneValue m),
    label "dst_ip" (N.string dstIP),
    label "dst_ip_type" dstIPType,
    label "dst_namespace" m.dstNamespace,
    label "dst_node" m.dstNode,
    label "dst_pod" m.dstPod,
    label "dst_zone" m.dstZone,
    label "proto" (protoString (truncate m.proto)),
    label "src_ip" m.srcIp,
    label "src_namespace" m.srcNamespace,
    label "src_node" m.srcNode,
    label "src_pod" m.srcPod,
    label "src_zone" m.srcZone]

def customLabels (cfg : SinkPromRemoteWriteConfig) (o : VisitOrder Bytes) : List Label :=
  (cfg.labels.visited o).map (fun entry => ⟨entry.1, entry.2⟩)

def seriesLabels (cfg : SinkPromRemoteWriteConfig) (o : VisitOrder Bytes) (name : String)
    (m : PodNetworkMetric) : List Label :=
  let labels := initialLabels N name m
  if cfg.labels.keys.card > 0 then
    -- Some prometheus like databases requires sorted labels.
    sortBy Label.name (labels ++ customLabels cfg o)
  else labels

variable {ν : Type}

/-- The time series of a batch. The loop over the configured labels runs anew for each item. -/
def timeSeries (cfg : SinkPromRemoteWriteConfig) (orders : ℕ → VisitOrder Bytes) (now : Time)
    (name : String) (valueFunc : PodNetworkMetric → ν) (items : List PodNetworkMetric) :
    List (TimeSeries ν) :=
  items.mapIdx (fun i m => ⟨seriesLabels N cfg (orders i) name m, ⟨now, valueFunc m⟩⟩)

structure WriteRequest (ν : Type) where
  timeSeries : List (TimeSeries ν)
  headers : Finmap (fun _ : Bytes => Bytes)

def pushMetric (cfg : SinkPromRemoteWriteConfig) (orders : ℕ → VisitOrder Bytes) (now : Time)
    (name : String) (valueFunc : PodNetworkMetric → ν) (items : List PodNetworkMetric) :
    WriteRequest ν :=
  ⟨timeSeries N cfg orders now name valueFunc items, cfg.headers⟩

end Push

def initialNames : List Bytes :=
  ["__name__", "cross_zone", "dst_ip", "dst_ip_type", "dst_namespace", "dst_node", "dst_pod",
    "dst_zone", "proto", "src_ip", "src_namespace", "src_node", "src_pod", "src_zone"].map utf8

theorem initialNames_ascending : initialNames.Pairwise (· < ·) := by decide +kernel

section Labels

variable {N : Netaddr} {cfg : SinkPromRemoteWriteConfig} {o : VisitOrder Bytes}
  {name : String} {m : PodNetworkMetric}

theorem names_initialLabels : (initialLabels N name m).map Label.name = initialNames := rfl

theorem names_customLabels : (customLabels cfg o).map Label.name = o.keys cfg.labels.keys := by
  rw [customLabels, List.map_map]
  exact visited_keys o cfg.labels

theorem mem_customLabels {l : Label} :
    l ∈ customLabels cfg o ↔ cfg.labels.lookup l.name = some l.value := by
  rw [customLabels, List.mem_map, ← mem_visited (o := o)]
  constructor
  · rintro ⟨entry, mem, rfl⟩
    exact mem
  · exact fun mem => ⟨_, mem, rfl⟩

theorem seriesLabels_perm :
    (seriesLabels N cfg o name m).Perm (initialLabels N name m ++ customLabels cfg o) := by
  unfold seriesLabels
  simp only
  split
  · exact sortBy_perm _ _
  · rename_i none
    have empty : customLabels cfg o = [] := by
      rw [← List.map_eq_nil_iff, names_customLabels, List.eq_nil_iff_forall_not_mem]
      intro k mem
      rw [o.mem_keys] at mem
      exact none (Finset.card_pos.mpr ⟨k, mem⟩)
    rw [empty, List.append_nil]

theorem mem_seriesLabels {l : Label} : l ∈ seriesLabels N cfg o name m ↔
    l ∈ initialLabels N name m ∨ cfg.labels.lookup l.name = some l.value := by
  rw [seriesLabels_perm.mem_iff, List.mem_append, mem_customLabels]

theorem nodup_names_iff :
    ((initialLabels N name m ++ customLabels cfg o).map Label.name).Nodup ↔
      ∀ k ∈ cfg.labels, k ∉ initialNames := by
  rw [List.map_append, names_initialLabels, names_customLabels, List.nodup_append']
  have initial : initialNames.Nodup := initialNames_ascending.imp Std.ne_of_lt
  rw [and_iff_right initial, and_iff_right (o.nodup_keys _), List.disjoint_comm]
  refine forall_congr' fun k => ?_
  rw [o.mem_keys, Finmap.mem_keys]

theorem ascending_seriesLabels_iff :
    ((seriesLabels N cfg o name m).map Label.name).Pairwise (· < ·) ↔
      ∀ k ∈ cfg.labels, k ∉ initialNames := by
  unfold seriesLabels
  simp only
  split
  · rw [strictly_ascending_sortBy_iff, nodup_names_iff]
  · rename_i none
    refine iff_of_true initialNames_ascending fun k mem => ?_
    exact absurd (Finset.card_pos.mpr ⟨k, Finmap.mem_keys.mpr mem⟩) none

end Labels

section Series

variable (N : Netaddr) (cfg : SinkPromRemoteWriteConfig)
  (orders : ℕ → VisitOrder Bytes) (now : Time) (name : String) {ν : Type}
  (valueFunc : PodNetworkMetric → ν)

theorem timeSeries_cons (m : PodNetworkMetric) (items : List PodNetworkMetric) :
    timeSeries N cfg orders now name valueFunc (m :: items) =
      ⟨seriesLabels N cfg (orders 0) name m, ⟨now, valueFunc m⟩⟩ ::
        timeSeries N cfg (fun i => orders (i + 1)) now name valueFunc items :=
  List.mapIdx_cons

theorem forall₂_timeSeries_iff {R : PodNetworkMetric → TimeSeries ν → Prop}
    (items : List PodNetworkMetric) :
    List.Forall₂ R items (timeSeries N cfg orders now name valueFunc items) ↔
      ∀ i m, items[i]? = some m → R m ⟨seriesLabels N cfg (orders i) name m, ⟨now, valueFunc m⟩⟩ := by
  induction items generalizing orders with
  | nil => simp [timeSeries]
  | cons m items ih =>
    rw [timeSeries_cons, List.forall₂_cons, ih]
    constructor
    · rintro ⟨first, rest⟩ (_ | i) m' get
      · cases get
        exact first
      · exact rest i m' get
    · exact fun all => ⟨all 0 m rfl, fun i m' get => all (i + 1) m' get⟩

/-- The labels of a series are sorted, no name occurs twice, and the configured labels are
    there beside those of the metric. -/
structure WellLabelled (cfg : SinkPromRemoteWriteConfig) (m : PodNetworkMetric)
    (s : TimeSeries ν) : Prop where
  ascending : (s.labels.map Label.name).Pairwise (· < ·)
  custom : ∀ k v, cfg.labels.lookup k = some v → ⟨k, v⟩ ∈ s.labels
  initial : ∀ l ∈ initialLabels N name m, l ∈ s.labels

/-- All series of a batch have sorted labels without a repeated name exactly if no configured
    label is named like an initial one. -/
theorem well_labelled_iff (items : List PodNetworkMetric) :
    List.Forall₂ (WellLabelled N name cfg) items
      (timeSeries N cfg orders now name valueFunc items) ↔
    (items = [] ∨ ∀ k ∈ cfg.labels, k ∉ initialNames) := by
  rw [forall₂_timeSeries_iff]
  constructor
  · intro all
    cases items with
    | nil => exact .inl rfl
    | cons m items => exact .inr (ascending_seriesLabels_iff.mp (all 0 m rfl).ascending)
  · rintro (rfl | apart) i m get
    · cases get
    · exact ⟨ascending_seriesLabels_iff.mpr apart, fun k v found => mem_seriesLabels.mpr (.inr found),
        fun l mem => mem_seriesLabels.mpr (.inl mem)⟩

end Series

def sampleMetric (x y : IPv4) : PodNetworkMetric :=
  ⟨dotted x, "p1", "team1", "n1", "z1", dotted y, [], "", "", "", "", 1, 1, 1, 1, 6⟩

def srcIpLabel : SinkPromRemoteWriteConfig := ⟨∅, (∅ : Finmap _).insert (utf8 "src_ip") (utf8 "x")⟩

theorem label_name_sent_twice :
    ∃ s, timeSeries .documented srcIpLabel (fun _ => .first (utf8 "src_ip")) 0
        "egressd_transmit_bytes_total" (fun m => m.txBytes)
        [sampleMetric ⟨10, 14, 7, 12⟩ ⟨8, 8, 8, 8⟩] = [s] ∧
      (s.labels.map Label.name).count (utf8 "src_ip") = 2 ∧
      ¬ (s.labels.map Label.name).Pairwise (· < ·) := by
  have keys : srcIpLabel.labels.keys = {utf8 "src_ip"} := by decide +kernel
  refine ⟨_, rfl, ?_, ?_⟩
  · rw [(seriesLabels_perm.map Label.name).count_eq, List.map_append, names_initialLabels,
      names_customLabels, keys, VisitOrder.keys_singleton]
    decide +kernel
  · rw [ascending_seriesLabels_iff]
    intro apart
    refine apart (utf8 "src_ip") ?_ (by decide +kernel)
    rw [← Finmap.mem_keys, keys]
    exact Finset.mem_singleton_self _

/-- The addresses are dotted quads and the protocol fits into a byte. -/
structure Canonical (m : PodNetworkMetric) : Prop where
  src : ∃ x, m.srcIp = dotted x
  dst : ∃ x, m.dstIp = dotted x
  proto : 0 ≤ m.proto ∧ m.proto ≤ 255

def protoNumber (s : String) : UInt8 :=
  match protoNames.find? (fun entry => entry.2 = s) with
  | some entry => entry.1
  | none => octet s.toList

theorem find?_number (p : UInt8) :
    protoNames.find? (fun entry => entry.2 = toString p.toNat) = none := by
  rw [List.find?_eq_none]
  intro entry mem same
  have digits : entry.2.toList.all Char.isDigit = true := by
    rw [of_decide_eq_true same, Nat.toString_eq_repr, Nat.toList_repr, List.all_eq_true]
    exact fun c mem => Nat.isDigit_of_mem_toDigits (by decide) (by decide) mem
  have letter : ∀ entry ∈ protoNames, entry.2.toList.all Char.isDigit = false := by
    decide +kernel
  rw [letter entry mem] at digits
  contradiction

theorem protoNumber_protoString (p : UInt8) : protoNumber (protoString p) = p := by
  unfold protoString
  cases named : protoNames.lookup p with
  | none =>
    simp only
    rw [protoNumber, find?_number, Nat.toString_eq_repr, Nat.toList_repr]
    exact octet_digits p
  | some name =>
    have each : ∀ entry ∈ protoNames, protoNumber entry.2 = entry.1 := by decide +kernel
    obtain ⟨before, after, split, _⟩ := List.lookup_eq_some_iff.mp named
    exact each (p, name) (by rw [split]; simp)

theorem truncate_ofNat (p : UInt8) : truncate (Int32.ofNat p.toNat) = p := by
  have each : ∀ n : Fin 256, truncate (Int32.ofNat n) = UInt8.ofNat n := by decide +kernel
  have this := each ⟨p.toNat, p.toNat_lt⟩
  rwa [UInt8.ofNat_toNat] at this

theorem ofNat_truncate {v : Int32} (small : 0 ≤ v ∧ v ≤ 255) :
    Int32.ofNat (truncate v).toNat = v := by
  obtain ⟨nonneg, le⟩ := small
  have lower : 0 ≤ v.toInt := Int32.le_iff_toInt_le.mp nonneg
  have upper : v.toInt ≤ 255 := Int32.le_iff_toInt_le.mp le
  have bound : v.toInt.toNat < UInt8.size := by
    change v.toInt.toNat < 256
    omega
  have number : v = Int32.ofNat v.toInt.toNat := by
    rw [← Int32.toInt_inj, Int32.toInt_ofNat_of_lt (by omega), Int.toNat_of_nonneg lower]
  have byte := truncate_ofNat (UInt8.ofNat v.toInt.toNat)
  rw [UInt8.toNat_ofNat_of_lt' bound, ← number] at byte
  rw [byte, UInt8.toNat_ofNat_of_lt' bound, ← number]

section Distinct

variable {N : Netaddr} {cfg : SinkPromRemoteWriteConfig} {name : String}
  {m m' : PodNetworkMetric}

theorem eq_of_initialLabels {l l' : Label} (mem : l ∈ initialLabels N name m)
    (mem' : l' ∈ initialLabels N name m) (same : l.name = l'.name) : l = l' := by
  have distinct : ((initialLabels N name m).map Label.name).Nodup :=
    initialNames_ascending.imp Std.ne_of_lt
  exact List.inj_on_of_nodup_map distinct mem mem' same

theorem initialLabels_perm {o o' : VisitOrder Bytes}
    (perm : (seriesLabels N cfg o name m).Perm (seriesLabels N cfg o' name m')) :
    (initialLabels N name m).Perm (initialLabels N name m') := by
  have custom : (customLabels cfg o).Perm (customLabels cfg o') := (visited_perm o o' _).map _
  have whole : (initialLabels N name m ++ customLabels cfg o).Perm
      (initialLabels N name m' ++ customLabels cfg o) :=
    seriesLabels_perm.symm.trans
      (perm.trans (seriesLabels_perm.trans (custom.symm.append_left _)))
  exact (List.perm_append_right_iff _).mp whole

theorem identity_of_labels (canonical : Canonical m) (canonical' : Canonical m')
    (perm : (initialLabels N name m).Perm (initialLabels N name m')) :
    m.srcIp = m'.srcIp ∧ m.dstIp = m'.dstIp ∧ m.proto = m'.proto := by
  have value : ∀ n v v', label n v ∈ initialLabels N name m →
      label n v' ∈ initialLabels N name m' → v = v' := by
    intro n v v' mem mem'
    have same := eq_of_initialLabels (perm.subset mem) mem' rfl
    exact utf8_injective (congrArg Label.value same)
  have src := value "src_ip" m.srcIp m'.srcIp (by simp [initialLabels]) (by simp [initialLabels])
  have dst := value "dst_ip" (N.string (N.parseIP m.dstIp)) (N.string (N.parseIP m'.dstIp))
    (by simp [initialLabels]) (by simp [initialLabels])
  have proto := value "proto" (protoString (truncate m.proto)) (protoString (truncate m'.proto))
    (by simp [initialLabels]) (by simp [initialLabels])
  obtain ⟨x, hx⟩ := canonical.dst
  obtain ⟨x', hx'⟩ := canonical'.dst
  refine ⟨src, ?_, ?_⟩
  · rwa [hx, hx', string_parseIP_dotted, string_parseIP_dotted, ← hx, ← hx'] at dst
  · have number := congrArg protoNumber proto
    rw [protoNumber_protoString, protoNumber_protoString] at number
    rw [← ofNat_truncate canonical.proto, ← ofNat_truncate canonical'.proto, number]

end Distinct

theorem pairwise_timeSeries {ν : Type} {N : Netaddr} {cfg : SinkPromRemoteWriteConfig}
    {orders : ℕ → VisitOrder Bytes} {now : Time} {name : String} {valueFunc : PodNetworkMetric → ν}
    {R : PodNetworkMetric → PodNetworkMetric → Prop} {S : TimeSeries ν → TimeSeries ν → Prop}
    {items : List PodNetworkMetric} (related : items.Pairwise R)
    (series : ∀ o o' m m', R m m' → m ∈ items → m' ∈ items →
      S ⟨seriesLabels N cfg o name m, ⟨now, valueFunc m⟩⟩
        ⟨seriesLabels N cfg o' name m', ⟨now, valueFunc m'⟩⟩) :
    (timeSeries N cfg orders now name valueFunc items).Pairwise S := by
  induction items generalizing orders with
  | nil => exact .nil
  | cons m items ih =>
    rw [List.pairwise_cons] at related
    rw [timeSeries_cons, List.pairwise_cons]
    constructor
    · intro s mem
      obtain ⟨i, lt, rfl⟩ := List.mem_mapIdx.mp mem
      have later := List.getElem_mem lt
      exact series _ _ _ _ (related.1 _ later) List.mem_cons_self (List.mem_cons_of_mem _ later)
    · exact ih related.2 fun o o' m m' r hm hm' =>
        series o o' m m' r (List.mem_cons_of_mem _ hm) (List.mem_cons_of_mem _ hm')

/-- A write request has one series per item, in the order of the items and with their values, and
    no two series have the same labels, if the items differ in their addresses or protocols. -/
theorem one_series_per_item (N : Netaddr) (cfg : SinkPromRemoteWriteConfig)
    (orders : ℕ → VisitOrder Bytes) (now : Time) (name : String) {ν : Type}
    (valueFunc : PodNetworkMetric → ν) {items : List PodNetworkMetric}
    (canonical : ∀ m ∈ items, Canonical m)
    (different : items.Pairwise (fun m m' =>
      (m.srcIp, m.dstIp, m.proto) ≠ (m'.srcIp, m'.dstIp, m'.proto))) :
    List.Forall₂ (fun m s => s.sample = ⟨now, valueFunc m⟩ ∧
        ∀ l ∈ initialLabels N name m, l ∈ s.labels)
      items (timeSeries N cfg orders now name valueFunc items) ∧
    (timeSeries N cfg orders now name valueFunc items).Pairwise
      (fun s s' => ¬ s.labels.Perm s'.labels) := by
  constructor
  · rw [forall₂_timeSeries_iff]
    exact fun i m get => ⟨rfl, fun l mem => mem_seriesLabels.mpr (.inl mem)⟩
  · refine pairwise_timeSeries different ?_
    intro o o' m m' differ mem mem' perm
    obtain ⟨src, dst, proto⟩ :=
      identity_of_labels (canonical m mem) (canonical m' mem') (initialLabels_perm perm)
    exact differ (by rw [src, dst, proto])

theorem canonical_sampleMetric (x y : IPv4) : Canonical (sampleMetric x y) where
  src := ⟨x, rfl⟩
  dst := ⟨y, rfl⟩
  proto := by
    change (0 : Int32) ≤ 6 ∧ (6 : Int32) ≤ 255
    decide

theorem one_series_per_item_colliding :
    let items := [sampleMetric ⟨10, 14, 7, 12⟩ ⟨8, 8, 8, 8⟩, sampleMetric ⟨10, 14, 7, 13⟩ ⟨8, 8, 8, 8⟩]
    let series := timeSeries .documented srcIpLabel (fun _ => .first (utf8 "src_ip")) 0
      "egressd_transmit_bytes_total" (fun m => m.txBytes) items
    List.Forall₂ (fun m s => s.sample = ⟨0, m.txBytes⟩ ∧
      ∀ l ∈ initialLabels .documented "egressd_transmit_bytes_total" m, l ∈ s.labels)
      items series ∧
    series.Pairwise (fun s s' => ¬ s.labels.Perm s'.labels) := by
  intro items series
  refine one_series_per_item _ _ _ _ _ _ ?_ (List.pairwise_pair.mpr ?_)
  · intro m mem
    rcases List.mem_pair.mp mem with rfl | rfl <;> exact canonical_sampleMetric _ _
  · intro same
    have src := dotted_injective (congrArg Prod.fst same)
    exact absurd src (by decide)

end Egressd.Exporter
