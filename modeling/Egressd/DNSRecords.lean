import Egressd.DNSResolutions
import Egressd.ExporterResults

set_option autoImplicit false

namespace Egressd.DNSResolutions
open GenericsCache PartialRuns CollectorHandler Exporter Histories Finmap

variable {G : GenericsCache}

/-- `Records`, with the order of the keys and the time at which each of them is read. -/
def IP2DNS.records (d : IP2DNS G) (o : VisitOrder Int32) (clock : Int32 → Time) : List IP2Domain :=
  (G.keys o d.ipToName).map (fun ip => ⟨ip, (G.get d.ipToName (clock ip) ip).getD []⟩)

inductive Janitor where
  | ipToName
  | cnameToName
  deriving DecidableEq, Repr

def IP2DNS.deleteExpired (d : IP2DNS G) (now : Time) : Janitor → IP2DNS G
  | .ipToName => { d with ipToName := G.deleteExpired d.ipToName now }
  | .cnameToName => { d with cnameToName := G.deleteExpired d.cnameToName now }

/-- What can happen to the caches: an event, or a pass of the janitor of one of them. -/
inductive Act where
  | event (now : Time) (ev : DNSEvent)
  | deleteExpired (janitor : Janitor) (now : Time)

def IP2DNS.act (N : Netaddr) (d : IP2DNS G) : Act → Except Panic (IP2DNS G)
  | .event now ev => d.event N (now, ev)
  | .deleteExpired janitor now => .ok (d.deleteExpired now janitor)

def Act.Named : Act → Prop
  | .event _ ev => ∀ a ∈ ev.answers, a.name ≠ []
  | .deleteExpired _ _ => True

structure IP2DNS.Named (d : IP2DNS G) : Prop where
  domains : ∀ ip item, (G.items d.ipToName).lookup ip = some item → item.value ≠ []
  aliased : ∀ cname item, (G.items d.cnameToName).lookup cname = some item → item.value ≠ []

theorem named_empty : (IP2DNS.empty (G := G)).Named where
  domains ip item h := by
    rw [IP2DNS.empty, lookup_new] at h
    cases h
  aliased cname item h := by
    rw [IP2DNS.empty, lookup_new] at h
    cases h

theorem values_set {K : Type} [DecidableEq K] {c : G.Cache K Bytes} {now : Time} {key : K}
    {value : Bytes} {expiration : Duration} (hv : value ≠ [])
    (h : ∀ k item, (G.items c).lookup k = some item → item.value ≠ []) :
    ∀ k item, (G.items (G.set c now key value expiration)).lookup k = some item →
      item.value ≠ [] := by
  intro k item found
  rw [lookup_set] at found
  split at found
  · cases found
    exact hv
  · exact h k item found

theorem resolved_ne_nil {d : IP2DNS G} (named : d.Named) (now : Time) {name : Bytes}
    (h : name ≠ []) : (G.get d.cnameToName now name).getD name ≠ [] := by
  cases found : (G.items d.cnameToName).lookup name with
  | none =>
    rw [get_of_absent found]
    exact h
  | some item =>
    rw [get_of_lookup found]
    split
    · exact h
    · exact named.aliased name item found

theorem named_answer {N : Netaddr} {now : Time} {d d' : IP2DNS G} {a : DNSResourceRecord}
    (named : d.Named) (h : a.name ≠ []) (ok : d.answer N now a = .ok d') : d'.Named := by
  rcases answer_iff.mp ok with ⟨_, x, _, rfl⟩ | ⟨_, rfl⟩ | ⟨_, _, rfl⟩
  · exact ⟨values_set (resolved_ne_nil named now h) named.domains, named.aliased⟩
  · exact ⟨named.domains, values_set h named.aliased⟩
  · exact named

theorem lookup_of_swept {d : IP2DNS G} {now : Time} {janitor : Janitor} {ip : Int32}
    {item : Item Bytes}
    (h : (G.items (d.deleteExpired now janitor).ipToName).lookup ip = some item) :
    (G.items d.ipToName).lookup ip = some item := by
  cases janitor with
  | ipToName => exact lookup_of_deleteExpired h
  | cnameToName => exact h

theorem alias_of_swept {d : IP2DNS G} {now : Time} {janitor : Janitor} {cname : Bytes}
    {item : Item Bytes}
    (h : (G.items (d.deleteExpired now janitor).cnameToName).lookup cname = some item) :
    (G.items d.cnameToName).lookup cname = some item := by
  cases janitor with
  | ipToName => exact h
  | cnameToName => exact lookup_of_deleteExpired h

theorem named_act {N : Netaddr} {d d' : IP2DNS G} {act : Act} (named : d.Named) (h : act.Named)
    (ok : d.act N act = .ok d') : d'.Named := by
  cases act with
  | event now ev =>
    have run : Runs (IP2DNS.answer N now) d ev.answers d' := runs_iff_foldlM.mpr ok
    exact run.invariant IP2DNS.Named (fun a : DNSResourceRecord => a.name ≠ [])
      (fun _ _ _ named h ok => named_answer named h ok) named h
  | deleteExpired janitor now =>
    cases ok
    exact ⟨fun ip item found => named.domains ip item (lookup_of_swept found),
      fun cname item found => named.aliased cname item (alias_of_swept found)⟩

theorem mem_records {d : IP2DNS G} {o : VisitOrder Int32} {clock : Int32 → Time} {e : IP2Domain} :
    e ∈ d.records o clock ↔ ∃ item, (G.items d.ipToName).lookup e.ip = some item ∧
      e.domain = if item.expired (clock e.ip) then [] else item.value := by
  rw [IP2DNS.records, G.keys_eq, List.mem_map]
  constructor
  · rintro ⟨ip, mem, rfl⟩
    rw [o.mem_keys, mem_keys, ← lookup_isSome] at mem
    obtain ⟨item, found⟩ := Option.isSome_iff_exists.mp mem
    refine ⟨item, found, ?_⟩
    rw [get_of_lookup found]
    split <;> rfl
  · rintro ⟨item, found, domain⟩
    refine ⟨e.ip, ?_, ?_⟩
    · rw [o.mem_keys, mem_keys, ← lookup_isSome, found]
      rfl
    · obtain ⟨ip, name⟩ := e
      rw [get_of_lookup found, IP2Domain.mk.injEq]
      refine ⟨rfl, ?_⟩
      simp only at domain
      rw [domain]
      split <;> rfl

/-- After every history of events with non-empty names, `Records` lists only unexpired domains,
    none of them empty, and filling a storage with them never empties a domain, exactly if no
    entry of the cache has expired when it is read. -/
theorem records_known_iff {N : Netaddr} {acts : List Act} {d : IP2DNS G}
    (run : Runs (IP2DNS.act N) .empty acts d) (named : ∀ act ∈ acts, act.Named)
    (o : VisitOrder Int32) (clock : Int32 → Time) :
    ((∀ e ∈ d.records o clock, ∃ item, (G.items d.ipToName).lookup e.ip = some item ∧
        item.expired (clock e.ip) = false ∧ e.domain = item.value ∧ e.domain ≠ []) ∧
      ∀ (s : DnsStorage G) (stored : List (IP2Domain × Time)),
        stored.map Prod.fst = d.records o clock → ∀ ip item item',
          (G.items s.ipToName).lookup ip = some item → item.value ≠ [] →
          (G.items (s.fill stored).ipToName).lookup ip = some item' → item'.value ≠ []) ↔
    ∀ ip item, (G.items d.ipToName).lookup ip = some item → item.expired (clock ip) = false := by
  have values := run.invariant IP2DNS.Named Act.Named
    (fun _ _ _ named h ok => named_act named h ok) named_empty named
  constructor
  · rintro ⟨listed, _⟩ ip item found
    obtain ⟨item', found', unexpired, _⟩ :=
      listed ⟨ip, if item.expired (clock ip) then [] else item.value⟩
        (mem_records.mpr ⟨item, found, rfl⟩)
    rw [found, Option.some.injEq] at found'
    rw [found']
    exact unexpired
  · intro unexpired
    have listed : ∀ e ∈ d.records o clock, ∃ item, (G.items d.ipToName).lookup e.ip = some item ∧
        item.expired (clock e.ip) = false ∧ e.domain = item.value ∧ e.domain ≠ [] := by
      intro e mem
      obtain ⟨item, found, domain⟩ := mem_records.mp mem
      rw [unexpired e.ip item found, if_neg Bool.false_ne_true] at domain
      refine ⟨item, found, unexpired e.ip item found, domain, ?_⟩
      rw [domain]
      exact values.domains e.ip item found
    refine ⟨listed, fun s stored batch ip item item' before nonempty after => ?_⟩
    rw [lookup_fill] at after
    cases last : latest (fun item => item.1.ip) stored ip with
    | none =>
      rw [last, before] at after
      cases after
      exact nonempty
    | some entry =>
      rw [last] at after
      cases after
      have mem : entry.1 ∈ d.records o clock := by
        rw [← batch]
        exact List.mem_map_of_mem (mem_of_latest last)
      obtain ⟨_, _, _, _, domain⟩ := listed entry.1 mem
      exact domain

def addressAnswer (name : Bytes) : DNSResourceRecord := ⟨name, dnsTypeA, [8, 8, 8, 8], []⟩

def oneResolved : IP2DNS .documented :=
  { IP2DNS.empty with
    ipToName := GenericsCache.documented.set (GenericsCache.new _ _ _) 0
      (IPv4.int32 ⟨8, 8, 8, 8⟩) [97] defaultDNSTTL }

theorem run_oneResolved :
    Runs (IP2DNS.act .documented) .empty [.event 0 ⟨[addressAnswer [97]]⟩] oneResolved :=
  .next rfl (.refl _)

theorem named_oneResolved : ∀ act ∈ [Act.event 0 ⟨[addressAnswer [97]]⟩], act.Named := by
  simp [Act.Named, addressAnswer]

theorem records_known_one_minute :
    Runs (IP2DNS.act .documented) .empty [.event 0 ⟨[addressAnswer [97]]⟩] oneResolved ∧
    ∀ e ∈ oneResolved.records (.first (IPv4.int32 ⟨8, 8, 8, 8⟩)) (fun _ => minute),
      ∃ item, (GenericsCache.documented.items oneResolved.ipToName).lookup e.ip = some item ∧
        item.expired minute = false ∧ e.domain = item.value ∧ e.domain ≠ [] := by
  refine ⟨run_oneResolved,
    ((records_known_iff run_oneResolved named_oneResolved _ _).mpr ?_).1⟩
  intro ip item found
  rw [oneResolved, lookup_set, lookup_new] at found
  split at found
  · cases found
    decide
  · cases found

theorem expired_record_empties_domain :
    let ip := IPv4.int32 ⟨8, 8, 8, 8⟩
    let s : DnsStorage .documented :=
      ⟨GenericsCache.documented.set (GenericsCache.new _ _ _) 0 ip [97] Exporter.defaultDNSTTL⟩
    Runs (IP2DNS.act .documented) .empty [.event 0 ⟨[addressAnswer [97]]⟩] oneResolved ∧
    ⟨ip, []⟩ ∈ oneResolved.records (.first ip) (fun _ => 3 * minute) ∧
    s.lookup (3 * minute) ip = [97] ∧
    (s.fill [(⟨ip, []⟩, 3 * minute)]).lookup (3 * minute) ip = [] := by
  refine ⟨run_oneResolved, mem_records.mpr ⟨_, rfl, ?_⟩, ?_, ?_⟩
  · decide
  · decide +kernel
  · decide +kernel

/-- The answers lead from a name through its aliases to another name. -/
inductive Leads : Bytes → List DNSResourceRecord → Bytes → Prop where
  | nil (n : Bytes) : Leads n [] n
  | cons {a : DNSResourceRecord} {as : List DNSResourceRecord} {n m : Bytes}
      (type : a.type = dnsTypeCNAME) (name : a.name = n) (tail : Leads a.cname as m) :
      Leads n (a :: as) m

/-- The name under which an address is reported: the one that the last alias stands for. -/
def reported (n : Bytes) (as : List DNSResourceRecord) : Bytes :=
  (as.getLast?.map (·.name)).getD n

theorem reported_cons {a : DNSResourceRecord} {as : List DNSResourceRecord} (n n' : Bytes)
    (h : as ≠ []) : reported n (a :: as) = reported n' as := by
  obtain ⟨b, bs, rfl⟩ := List.exists_cons_of_ne_nil h
  rw [reported, reported, List.getLast?_cons_cons, List.getLast?_eq_some_getLast h]
  rfl

theorem ttl_nonneg : 0 ≤ defaultDNSTTL := by decide

theorem answer_alias (N : Netaddr) (now : Time) (d : IP2DNS G) {a : DNSResourceRecord}
    (type : a.type = dnsTypeCNAME) : d.answer N now a =
      .ok { d with cnameToName := G.set d.cnameToName now a.cname a.name defaultDNSTTL } :=
  answer_iff.mpr (.inr (.inl ⟨type, rfl⟩))

theorem answer_address (N : Netaddr) (now : Time) (d : IP2DNS G) {a : DNSResourceRecord} {x : IPv4}
    (type : a.type = dnsTypeA) (address : stdIPv4 a.ip = some x) : d.answer N now a =
      .ok { d with
        ipToName := G.set d.ipToName now x.int32 ((G.get d.cnameToName now a.name).getD a.name)
          defaultDNSTTL } :=
  answer_iff.mpr (.inl ⟨type, x, address, rfl⟩)

theorem chain_run (N : Netaddr) {n m : Bytes} {as : List DNSResourceRecord} (chain : Leads n as m)
    (now : Time) (d : IP2DNS G) (unknown : as = [] → G.get d.cnameToName now n = none) :
    ∃ d', Runs (IP2DNS.answer N now) d as d' ∧
      (G.get d'.cnameToName now m).getD m = reported n as := by
  induction chain generalizing d with
  | nil n =>
    refine ⟨d, .refl d, ?_⟩
    rw [unknown rfl]
    rfl
  | @cons a as n m type name tail ih =>
    by_cases last : as = []
    · subst last
      cases tail
      refine ⟨_, .next (answer_alias N now d type) (.refl _), ?_⟩
      rw [get_set_self _ _ _ _ ttl_nonneg]
      rfl
    · obtain ⟨d', run, same⟩ := ih _ (fun empty => absurd empty last)
      refine ⟨d', .next (answer_alias N now d type) run, ?_⟩
      rw [same, reported_cons n a.cname last]

theorem addresses_run (N : Netaddr) {m : Bytes} {bs : List DNSResourceRecord}
    (h : ∀ b ∈ bs, b.type = dnsTypeA ∧ b.name = m ∧ ∃ x, stdIPv4 b.ip = some x) (now : Time)
    (d : IP2DNS G) : ∃ d', Runs (IP2DNS.answer N now) d bs d' ∧ ∀ ip,
      (∃ b ∈ bs, ∃ x, stdIPv4 b.ip = some x ∧ x.int32 = ip) ∨
        (G.items d.ipToName).lookup ip =
          some ⟨(G.get d.cnameToName now m).getD m, now + defaultDNSTTL⟩ →
      (G.items d'.ipToName).lookup ip =
        some ⟨(G.get d.cnameToName now m).getD m, now + defaultDNSTTL⟩ := by
  induction bs generalizing d with
  | nil =>
    refine ⟨d, .refl d, ?_⟩
    rintro ip (⟨b, mem, _⟩ | found)
    · cases mem
    · exact found
  | cons b bs ih =>
    obtain ⟨⟨type, name, x, address⟩, rest⟩ := List.forall_mem_cons.mp h
    have ok := answer_address N now d type address
    rw [name] at ok
    obtain ⟨d', run, stored⟩ := ih rest { d with
      ipToName := G.set d.ipToName now x.int32 ((G.get d.cnameToName now m).getD m) defaultDNSTTL }
    refine ⟨d', .next ok run, fun ip listed => stored ip ?_⟩
    rw [lookup_set]
    by_cases here : ip = x.int32
    · exact .inr (if_pos here)
    · rw [if_neg here]
      refine listed.imp_left ?_
      rintro ⟨c, mem, y, address', same⟩
      rcases List.mem_cons.mp mem with rfl | mem
      · rw [address, Option.some.injEq] at address'
        exact absurd (same.symm.trans (congrArg _ address'.symm)) here
      · exact ⟨c, mem, y, address', same⟩

theorem reported_mem {n m : Bytes} {as : List DNSResourceRecord} (chain : Leads n as m)
    (long : 2 ≤ as.length) : reported n as ∈ as.map (·.cname) := by
  induction chain with
  | nil => cases long
  | @cons a as n m type name tail ih =>
    have more : as ≠ [] := by
      rintro rfl
      exact absurd long (Nat.not_succ_le_self 1)
    rw [reported_cons n a.cname more, List.map_cons, List.mem_cons]
    by_cases longer : 2 ≤ as.length
    · exact .inr (ih longer)
    · cases tail with
      | nil => exact absurd rfl more
      | @cons b bs _ _ _ name tail =>
        rw [List.length_cons] at longer
        have last : bs = [] := List.eq_nil_of_length_eq_zero (by omega)
        subst last
        exact .inl name

theorem reported_eq_iff {n m : Bytes} {as : List DNSResourceRecord} (chain : Leads n as m)
    (distinct : (n :: as.map (·.cname)).Nodup) : reported n as = n ↔ as.length ≤ 1 := by
  constructor
  · intro same
    by_contra long
    have mem := reported_mem chain (by omega)
    rw [same] at mem
    exact (List.nodup_cons.mp distinct).1 mem
  · intro short
    cases chain with
    | nil => rfl
    | @cons a as _ m type name tail =>
      rw [List.length_cons] at short
      have last : as = [] := List.eq_nil_of_length_eq_zero (by omega)
      subst last
      exact name

/-- The addresses at the end of a chain of aliases are reported under the name at its beginning
    exactly if there is at most one alias. -/
theorem chain_reported_iff {N : Netaddr} {now : Time} {d : IP2DNS G} {n m : Bytes}
    {as bs : List DNSResourceRecord} (chain : Leads n as m)
    (distinct : (n :: as.map (·.cname)).Nodup)
    (unknown : ∀ name ∈ n :: as.map (·.cname), G.get d.cnameToName now name = none) (some' : bs ≠ [])
    (addresses : ∀ b ∈ bs, b.type = dnsTypeA ∧ b.name = m ∧ ∃ x, stdIPv4 b.ip = some x) :
    (∃ d', d.event N (now, ⟨as ++ bs⟩) = .ok d' ∧ ∀ b ∈ bs, ∀ x, stdIPv4 b.ip = some x →
      ∀ o clock, clock x.int32 ≤ now + defaultDNSTTL →
        ∀ domain, ⟨x.int32, domain⟩ ∈ d'.records o clock ↔ domain = n) ↔
    as.length ≤ 1 := by
  obtain ⟨u, aliases, same⟩ := chain_run N chain now d (fun _ => unknown n List.mem_cons_self)
  obtain ⟨v, run, stored⟩ := addresses_run N addresses now u
  rw [same] at stored
  have processed : d.event N (now, ⟨as ++ bs⟩) = .ok v := by
    rw [IP2DNS.event, List.foldlM_append, bind_ok]
    exact ⟨u, runs_iff_foldlM.mp aliases, runs_iff_foldlM.mp run⟩
  have listed : ∀ b ∈ bs, ∀ x, stdIPv4 b.ip = some x → ∀ o clock,
      clock x.int32 ≤ now + defaultDNSTTL →
      ∀ domain, ⟨x.int32, domain⟩ ∈ v.records o clock ↔ domain = reported n as := by
    intro b mem x address o clock unexpired domain
    have found := stored x.int32 (.inl ⟨b, mem, x, address, rfl⟩)
    have kept : Item.expired ⟨reported n as, now + defaultDNSTTL⟩ (clock x.int32) = false :=
      expired_eq_false_iff.mpr unexpired
    rw [mem_records]
    simp only [found, Option.some.injEq, exists_eq_left', kept, Bool.false_eq_true, if_false]
  rw [← reported_eq_iff chain distinct]
  constructor
  · rintro ⟨d', ok, names⟩
    rw [processed, Except.ok.injEq] at ok
    subst ok
    obtain ⟨b, rest, rfl⟩ := List.exists_cons_of_ne_nil some'
    obtain ⟨_, _, x, address⟩ := addresses b List.mem_cons_self
    have inTime : now ≤ now + defaultDNSTTL := le_add_of_nonneg_right ttl_nonneg
    have here := listed b List.mem_cons_self x address (.first x.int32) (fun _ => now) inTime
    exact (names b List.mem_cons_self x address (.first x.int32) (fun _ => now) inTime _).mp
      ((here _).mpr rfl)
  · intro eq
    rw [eq] at listed
    exact ⟨v, processed, listed⟩

def aliasAnswer (name cname : Bytes) : DNSResourceRecord := ⟨name, dnsTypeCNAME, [], cname⟩

theorem chain_reported_one_alias :
    ∃ d', (IP2DNS.empty (G := .documented)).event .documented
        (0, ⟨[aliasAnswer [97] [98]] ++ [addressAnswer [98]]⟩) = .ok d' ∧
      ∀ b ∈ [addressAnswer [98]], ∀ x, stdIPv4 b.ip = some x → ∀ o clock,
        clock x.int32 ≤ 0 + defaultDNSTTL →
          ∀ domain, ⟨x.int32, domain⟩ ∈ d'.records o clock ↔ domain = [97] := by
  have address : ∀ b ∈ [addressAnswer [98]],
      b.type = dnsTypeA ∧ b.name = [98] ∧ ∃ x, stdIPv4 b.ip = some x := by
    intro b mem
    rw [List.mem_singleton.mp mem]
    exact ⟨rfl, rfl, _, rfl⟩
  exact (chain_reported_iff (.cons rfl rfl (.nil [98])) (by decide) (fun _ _ => rfl)
    (List.cons_ne_nil _ _) address).mpr (le_refl 1)

theorem two_aliases_report_alias :
    let ip := IPv4.int32 ⟨8, 8, 8, 8⟩
    ∃ d', (IP2DNS.empty (G := .documented)).event .documented
        (0, ⟨[aliasAnswer [97] [98], aliasAnswer [98] [99], addressAnswer [99]]⟩) = .ok d' ∧
      ⟨ip, [98]⟩ ∈ d'.records (.first ip) (fun _ => 0) ∧
      ⟨ip, [97]⟩ ∉ d'.records (.first ip) (fun _ => 0) := by
  refine ⟨_, rfl, mem_records.mpr ⟨_, rfl, by decide⟩, ?_⟩
  intro mem
  obtain ⟨item, found, domain⟩ := mem_records.mp mem
  have stored := Option.some.inj found.symm
  subst stored
  exact absurd domain (by decide)

end Egressd.DNSResolutions
