import Egressd.NetfilterConntrack

set_option autoImplicit false

namespace Egressd.Conntrack
open PartialRuns

inductive ClockSource where
  | ktime
  | jiffies
  | other (name : String)
  deriving DecidableEq, Repr

/-- What the kernel clocks answer during one listing. -/
structure KernelClocks where
  now : Time
  mtime : Except Error UInt64
  jiffies : Except Error UInt64

def kernelTimeDiffSecondsFunc (clockSource : ClockSource) (hertz : UInt16)
    (clocks : KernelClocks) : Except Error (Int64 → Int64) :=
  match clockSource with
  | .ktime => do
    let now ← clocks.mtime
    let now := now / 1000000000
    return fun t => t - now.toInt64
  | .jiffies => do
    let now ← clocks.jiffies
    return fun t =>
      let diff := t - now.toInt64
      let diff := diff <<< 8
      diff / Int64.ofNat hertz.toNat
  | .other name => .error ("unknown clock source " ++ name.quote)

structure CtKey4Global where
  destAddr : IPv4
  sourceAddr : IPv4
  destPort : UInt16
  sourcePort : UInt16
  nextHeader : UInt8
  flags : UInt8
  deriving DecidableEq, Repr

structure CtEntry where
  rxPackets : UInt64
  rxBytes : UInt64
  txPackets : UInt64
  txBytes : UInt64
  lifetime : UInt32
  deriving DecidableEq, Repr

structure OpenError where
  notExist : Bool
  text : Error

structure CtMap where
  path : String
  openErr : Option OpenError
  dump : Except Error (List (CtKey4Global × CtEntry))

/-- The callback of the dump: the record of one key, if it has a protocol. -/
def ctRecord (now : Time) (timeDiff : Int64 → Int64) (k : CtKey4Global) (val : CtEntry) :
    Option Entry :=
  if k.nextHeader = 0 then none
  else
    -- Addresses are swapped due to cilium issue #21346.
    let srcIP := k.destAddr
    let dstIP := k.sourceAddr
    let expireSeconds := timeDiff (Int64.ofNat val.lifetime.toNat)
    some
      { src := ⟨.v4 srcIP, k.sourcePort⟩
        dst := ⟨.v4 dstIP, k.destPort⟩
        txBytes := val.txBytes
        txPackets := val.txPackets
        rxBytes := val.rxBytes
        rxPackets := val.rxPackets
        lifetime := now + (expireSeconds * 1000000000).toInt
        proto := k.nextHeader }

def ctRecords (toHost : CtKey4Global → CtKey4Global) (now : Time) (timeDiff : Int64 → Int64)
    (filter : EntriesFilter) (dump : List (CtKey4Global × CtEntry)) : List Entry :=
  (dump.filterMap (fun kv => ctRecord now timeDiff (toHost kv.1) kv.2)).filter filter

def listMap (toHost : CtKey4Global → CtKey4Global) (now : Time) (timeDiff : Int64 → Int64)
    (filter : EntriesFilter) (entries : List Entry) (m : CtMap) : Except Error (List Entry) := do
  -- Only a missing map stops the listing; other errors of Open are passed over.
  if let some err := m.openErr then
    if err.notExist then
      throw ("unable to open map " ++ m.path ++ ": " ++ err.text)
  match m.dump with
  | .error err => throw ("error while collecting BPF map entries: " ++ err)
  | .ok dump => return entries ++ ctRecords toHost now timeDiff filter dump

/-- The maps, the clocks of the kernel and the byte order conversion of a key are inputs. -/
def listRecords (toHost : CtKey4Global → CtKey4Global) (maps : List CtMap)
    (clockSource : ClockSource) (hertz : UInt16) (clocks : KernelClocks) (filter : EntriesFilter) :
    Except Error (List Entry) :=
  match kernelTimeDiffSecondsFunc clockSource hertz clocks with
  | .error err => .error ("getting kernel time diff func: " ++ err)
  | .ok timeDiff => maps.foldlM (listMap toHost clocks.now timeDiff filter) []

def openedMaps (maps : List (String × List (CtKey4Global × CtEntry))) : List CtMap :=
  maps.map (fun m => ⟨m.1, none, .ok m.2⟩)

theorem listRecords_opened (toHost : CtKey4Global → CtKey4Global)
    (maps : List (String × List (CtKey4Global × CtEntry))) {clockSource : ClockSource}
    {hertz : UInt16} {clocks : KernelClocks} {timeDiff : Int64 → Int64}
    (clock : kernelTimeDiffSecondsFunc clockSource hertz clocks = .ok timeDiff)
    (filter : EntriesFilter) :
    listRecords toHost (openedMaps maps) clockSource hertz clocks filter =
      .ok (maps.flatMap (fun m => ctRecords toHost clocks.now timeDiff filter m.2)) := by
  have loop : ∀ entries : List Entry,
      (openedMaps maps).foldlM (listMap toHost clocks.now timeDiff filter) entries =
        .ok (entries ++ maps.flatMap (fun m => ctRecords toHost clocks.now timeDiff filter m.2)) := by
    induction maps with
    | nil =>
      intro entries
      simp [openedMaps, pure, Except.pure]
    | cons m maps ih =>
      intro entries
      rw [openedMaps, List.map_cons, List.foldlM_cons, List.flatMap_cons, ← List.append_assoc]
      exact ih _
  rw [listRecords, clock]
  exact loop []

theorem listMap_ok {toHost : CtKey4Global → CtKey4Global} {now : Time} {timeDiff : Int64 → Int64}
    {filter : EntriesFilter} {entries entries' : List Entry} {m : CtMap}
    (h : listMap toHost now timeDiff filter entries m = .ok entries') :
    ∃ dump, m.dump = .ok dump ∧ entries' = entries ++ ctRecords toHost now timeDiff filter dump := by
  obtain ⟨path, openErr, dump⟩ := m
  rcases openErr with _ | ⟨notExist, text⟩
  · cases dump with
    | error err => cases h
    | ok dump =>
      cases h
      exact ⟨dump, rfl, rfl⟩
  · cases notExist with
    | true => cases h
    | false =>
      cases dump with
      | error err => cases h
      | ok dump =>
        cases h
        exact ⟨dump, rfl, rfl⟩

def Dumped (maps : List CtMap) (k : CtKey4Global) (val : CtEntry) : Prop :=
  ∃ m ∈ maps, ∃ dump, m.dump = .ok dump ∧ (k, val) ∈ dump

theorem listed_of_listRecords {toHost : CtKey4Global → CtKey4Global} {maps : List CtMap}
    {clockSource : ClockSource} {hertz : UInt16} {clocks : KernelClocks} {filter : EntriesFilter}
    {entries : List Entry}
    (listed : listRecords toHost maps clockSource hertz clocks filter = .ok entries) :
    ∃ timeDiff, kernelTimeDiffSecondsFunc clockSource hertz clocks = .ok timeDiff ∧
      ∀ e ∈ entries, filter e = true ∧
        ∃ k val, Dumped maps k val ∧ ctRecord clocks.now timeDiff (toHost k) val = some e := by
  unfold listRecords at listed
  split at listed
  · cases listed
  · rename_i timeDiff clock
    have run : Runs (listMap toHost clocks.now timeDiff filter) [] maps entries :=
      runs_iff_foldlM.mpr listed
    let Recorded e := filter e = true ∧
      ∃ k val, Dumped maps k val ∧ ctRecord clocks.now timeDiff (toHost k) val = some e
    refine ⟨timeDiff, clock, run.invariant (fun entries => ∀ e ∈ entries, Recorded e)
      (· ∈ maps) ?_ (fun e mem => by cases mem) (fun _ mem => mem)⟩
    intro entries m entries' before here step e mem
    obtain ⟨dump, dumped, rfl⟩ := listMap_ok step
    rcases List.mem_append.mp mem with old | new
    · exact before e old
    · obtain ⟨record, kept⟩ := List.mem_filter.mp new
      obtain ⟨⟨k, val⟩, mem, record⟩ := List.mem_filterMap.mp record
      exact ⟨kept, k, val, ⟨m, here, dump, dumped, mem⟩, record⟩

end Egressd.Conntrack
