import Egressd.CollectorAccounting

set_option autoImplicit false

namespace Egressd.CollectorMirror
open Conntrack CollectorModel CollectorHandler CollectorSteps CollectorRuns CollectorAccounting
open PartialRuns

def mirrorFlow (t : Flow) : Flow := ⟨t.dst, t.dstPort, t.src, t.srcPort, t.proto⟩

def mirrorGroup (g : Group) : Group := ⟨g.dst, g.src, g.proto⟩

def mirrorTraffic (t : Traffic) : Traffic := ⟨t.rxBytes, t.rxPackets, t.txBytes, t.txPackets⟩

def mirrorMetric (m : RawNetworkMetric) : RawNetworkMetric :=
  { srcIp := m.dstIp
    dstIp := m.srcIp
    txBytes := m.rxBytes
    txPackets := m.rxPackets
    rxBytes := m.txBytes
    rxPackets := m.txPackets
    proto := m.proto
    lifetime := m.lifetime }

theorem mirrored_pair {K V : Type} [DecidableEq K] {flip : K → K} {image : V → V}
    (flip_flip : ∀ k, flip (flip k) = k) (image_image : ∀ v, image (image v) = v)
    (f : K → Option V) {k u : K} (v : V) (ne : flip k ≠ k) (here : f (flip u) = (f u).map image) :
    (if flip u = flip k then some (image v) else if flip u = k then some v else f (flip u)) =
      (if u = flip k then some (image v) else if u = k then some v else f u).map image := by
  by_cases first : u = k
  · subst first
    rw [if_pos rfl, if_neg ne.symm, if_pos rfl]
    rfl
  · have first' : flip u ≠ flip k := by
      intro eq
      exact first (by rw [← flip_flip u, eq, flip_flip])
    rw [if_neg first', if_neg first]
    by_cases second : u = flip k
    · subst second
      rw [flip_flip, if_pos rfl, if_pos rfl, Option.map_some, image_image]
    · have second' : flip u ≠ k := by
        intro eq
        exact second (by rw [← eq, flip_flip])
      rw [if_neg second', if_neg second, here]

theorem trafficSince_mirror (e : Entry) (old : Option Entry) :
    trafficSince e.mirror (old.map Entry.mirror) = mirrorTraffic (trafficSince e old) := by
  cases old with
  | none => rfl
  | some old => rfl

theorem credited_mirror (g : Group) (t : Traffic) (lifetime : Time)
    (pm : Option RawNetworkMetric) :
    credited (mirrorGroup g) (mirrorTraffic t) lifetime (pm.map mirrorMetric) =
      mirrorMetric (credited g t lifetime pm) := by
  cases pm with
  | none => rfl
  | some m => rfl

def Between (A B x y : IPv4) : Prop := x = A ∧ y = B ∨ x = B ∧ y = A

theorem Between.swap {A B x y : IPv4} (h : Between A B x y) : Between A B y x := by
  rcases h with ⟨hx, hy⟩ | ⟨hx, hy⟩
  · exact .inr ⟨hy, hx⟩
  · exact .inl ⟨hy, hx⟩

theorem Between.ne {A B x y : IPv4} (different : A ≠ B) (h : Between A B x y) : x ≠ y := by
  rcases h with ⟨rfl, rfl⟩ | ⟨rfl, rfl⟩
  · exact different
  · exact different.symm

theorem mirrorFlow_ne {A B : IPv4} (different : A ≠ B) {t : Flow} (h : Between A B t.src t.dst) :
    mirrorFlow t ≠ t := by
  intro eq
  exact h.ne different (congrArg Flow.dst eq)

theorem mirrorGroup_ne {A B : IPv4} (different : A ≠ B) {g : Group}
    (h : Between A B g.src g.dst) : mirrorGroup g ≠ g := by
  intro eq
  exact h.ne different (congrArg Group.dst eq)

variable {κ : Type}

/-- The steps of a collector that watches both pods through the netfilter client. The sessions
    have all their fields; pods and dump may fail. One handler call takes no time. -/
def Watches (N : Netaddr) (A B : IPv4) : Op κ → Prop
  | .collect conns => ∃ (podIPs : Except Error (Finset IP)) (dump : Except Error (List Session))
      (now : Time), (∀ ips, podIPs = .ok ips → .v4 A ∈ ips ∧ .v4 B ∈ ips) ∧
      listConns podIPs (netfilterListEntries N (dump.map (List.map Session.con)) now) = .ok conns
  | .handle call => ∀ key key', call.clock key = call.clock key'
  | .cleanup _ => True

theorem Watches.listing {N : Netaddr} {A B : IPv4} {conns : List Entry}
    (h : Watches N A B (.collect (.ok conns) : Op κ)) :
    ∃ (ips : Finset IP) (sessions : List Session) (now : Time), .v4 A ∈ ips ∧ .v4 B ∈ ips ∧
      conns = sessions.flatMap (Session.entries N now (filterBySrcIP ips)) := by
  obtain ⟨podIPs, dump, now, watched, listed⟩ := h
  cases podIPs with
  | error err => cases listed
  | ok ips =>
    cases dump with
    | error err => cases listed
    | ok sessions =>
      have complete := netfilterListEntries_complete N sessions now (filterBySrcIP ips)
      simp only [listConns, Except.map, complete, bind, Except.bind, pure, Except.pure,
        Except.ok.injEq] at listed
      exact ⟨ips, sessions, now, (watched ips rfl).1, (watched ips rfl).2, listed.symm⟩

variable [DecidableEq κ]

/-- What is known of one direction mirrors what is known of the other. -/
structure Mirrored (P : Packages κ) (A B : IPv4) (c : Collector κ) : Prop where
  cached : ∀ t : Flow, Between A B t.src t.dst →
    cached P c (mirrorFlow t) = (cached P c t).map Entry.mirror
  metric : ∀ g : Group, Between A B g.src g.dst →
    metricOf P c (mirrorGroup g) = (metricOf P c g).map mirrorMetric

theorem mirrored_empty (P : Packages κ) (A B : IPv4) : Mirrored P A B (Collector.empty κ) where
  cached _ _ := rfl
  metric _ _ := rfl

theorem Mirrored.cleanup {P : Packages κ} {A B : IPv4} {c : Collector κ} (h : Mirrored P A B c)
    (now : Time) : Mirrored P A B (c.cleanup now) where
  cached t ht := by
    rw [cached_cleanup, cached_cleanup, h.cached t ht, Option.filter_map]
    rfl
  metric g hg := by
    have here := h.metric g hg
    unfold metricOf at here ⊢
    rw [lookup_cleanup, lookup_cleanup, here, Option.filter_map]
    rfl

theorem Mirrored.resetDeltas {P : Packages κ} {A B : IPv4} {c : Collector κ}
    (h : Mirrored P A B c) (cfg : Config) {clock : κ → Time}
    (constant : ∀ key key', clock key = clock key') :
    Mirrored P A B (resetDeltas cfg c clock) where
  cached t ht := by
    rw [cached_resetDeltas, cached_resetDeltas, h.cached t ht]
  metric g hg := by
    have here := h.metric g hg
    unfold metricOf at here ⊢
    rw [lookup_resetDeltas, lookup_resetDeltas, here, constant (groupKey P (mirrorGroup g))]
    split
    · rw [Option.map_map, Option.map_map]
      rfl
    · rfl

theorem Mirrored.recorded_other {P : Packages κ} {A B : IPv4} {c : Collector κ}
    (h : Mirrored P A B c) (cfg : Config) (e : Entry) {t : Flow} {g : Group}
    (flow : ¬ Between A B t.src t.dst) (group : ¬ Between A B g.src g.dst) :
    Mirrored P A B (recorded P cfg c e t g) where
  cached u hu := by
    have other : u ≠ t := by
      rintro rfl
      exact flow hu
    have other' : mirrorFlow u ≠ t := by
      rintro rfl
      exact flow hu.swap
    rw [cached_recorded, cached_recorded, if_neg other, if_neg other', h.cached u hu]
  metric u hu := by
    have other : ¬ (baselineOnly cfg c = false ∧ u = g) := by
      rintro ⟨_, rfl⟩
      exact group hu
    have other' : ¬ (baselineOnly cfg c = false ∧ mirrorGroup u = g) := by
      rintro ⟨_, rfl⟩
      exact group hu.swap
    rw [metricOf_recorded, metricOf_recorded, if_neg other, if_neg other', h.metric u hu]

theorem Mirrored.recorded_both {P : Packages κ} {A B : IPv4} {c : Collector κ}
    (h : Mirrored P A B c) (different : A ≠ B) {cfg : Config} {e : Entry} {t : Flow} {g : Group}
    (flow : Between A B t.src t.dst) (group : Between A B g.src g.dst)
    (kept : groupPublicDst P.netaddr cfg e = e)
    (kept' : groupPublicDst P.netaddr cfg e.mirror = e.mirror) :
    Mirrored P A B (recorded P cfg (recorded P cfg c e t g) e.mirror (mirrorFlow t)
      (mirrorGroup g)) := by
  have flow_ne := mirrorFlow_ne different flow
  have group_ne := mirrorGroup_ne different group
  have stored_eq : ∀ c : Collector κ, stored P.netaddr cfg c e = e := by
    intro c
    rw [stored, kept, ite_self]
  have stored_eq' : ∀ c : Collector κ, stored P.netaddr cfg c e.mirror = e.mirror := by
    intro c
    rw [stored, kept', ite_self]
  constructor
  · intro u hu
    simp only [cached_recorded, stored_eq, stored_eq']
    exact mirrored_pair (fun _ => rfl) (fun _ => rfl) _ e flow_ne (h.cached u hu)
  · intro u hu
    have cached₁ : CollectorSteps.cached P (recorded P cfg c e t g) (mirrorFlow t) =
        (CollectorSteps.cached P c t).map Entry.mirror := by
      rw [cached_recorded, if_neg flow_ne, h.cached t flow]
    have metric₁ : metricOf P (recorded P cfg c e t g) (mirrorGroup g) =
        (metricOf P c g).map mirrorMetric := by
      rw [metricOf_recorded, if_neg (fun both => group_ne both.2), h.metric g group]
    have lifetime : e.mirror.lifetime = e.lifetime := rfl
    rw [metricOf_recorded, metricOf_recorded P cfg (recorded P cfg c e t g), cached₁, metric₁,
      trafficSince_mirror, lifetime, credited_mirror, metricOf_recorded, metricOf_recorded]
    simp only [baselineOnly_recorded]
    cases baselineOnly cfg c with
    | true => simpa using h.metric u hu
    | false =>
      simp only [true_and]
      exact mirrored_pair (fun _ => rfl) (fun _ => rfl) _ _ group_ne (h.metric u hu)

theorem isPrivateNetwork_unspecified (N : Netaddr) :
    isPrivateNetwork N (.v4 .unspecified) = false := by
  simp [isPrivateNetwork, IPv4.unspecified, N.isPrivate_v4, N.isLoopback_v4, N.isMulticast_v4,
    N.isLinkLocalUnicast_v4, N.isLinkLocalMulticast_v4, N.isInterfaceLocalMulticast_v4]

/-- Both pods have private addresses if public ones are grouped. -/
def Ungrouped (N : Netaddr) (cfg : Config) (A B : IPv4) : Prop :=
  cfg.groupPublicIPs = true → isPrivateNetwork N (.v4 A) ∧ isPrivateNetwork N (.v4 B)

theorem Ungrouped.groupPublicDst_eq {N : Netaddr} {cfg : Config} {A B x y : IPv4}
    (h : Ungrouped N cfg A B) (between : Between A B x y) {e : Entry} (dst : e.dst.ip = .v4 y) :
    groupPublicDst N cfg e = e := by
  unfold groupPublicDst
  rw [dst]
  cases grouped : cfg.groupPublicIPs with
  | false => rfl
  | true =>
    have both := h grouped
    have isPrivate : isPrivateNetwork N (.v4 y) = true := by
      rcases between with ⟨_, rfl⟩ | ⟨_, rfl⟩
      · exact both.2
      · exact both.1
    rw [isPrivate]
    rfl

theorem Ungrouped.flow_between {N : Netaddr} {cfg : Config} {A B : IPv4}
    (h : Ungrouped N cfg A B) {t : Flow}
    (group : Between A B (flowGroup N cfg t).src (flowGroup N cfg t).dst) :
    Between A B t.src t.dst := by
  unfold flowGroup at group
  simp only at group
  split at group
  · rename_i rewritten
    simp only [Bool.and_eq_true, Bool.not_eq_true'] at rewritten
    have both := h rewritten.1
    have unspecified := isPrivateNetwork_unspecified N
    rcases group with ⟨_, eq⟩ | ⟨_, eq⟩
    · rw [← eq, unspecified] at both
      exact absurd both.2 (by simp)
    · rw [← eq, unspecified] at both
      exact absurd both.1 (by simp)
  · exact group

theorem flowOf_mirror {N : Netaddr} {e : Entry} {t : Flow} (h : flowOf N e = .ok t) :
    flowOf N e.mirror = .ok (mirrorFlow t) := by
  obtain ⟨src, dst, srcPort, dstPort, proto⟩ := flowOf_iff.mp h
  exact flowOf_iff.mpr ⟨dst, src, dstPort, srcPort, proto⟩

theorem groupOf_of_kept {N : Netaddr} {cfg : Config} {e : Entry}
    (kept : groupPublicDst N cfg e = e) {t : Flow} (h : flowOf N e = .ok t) :
    groupOf N cfg e = .ok ⟨t.src, t.dst, t.proto⟩ := by
  obtain ⟨src, dst, _, _, proto⟩ := flowOf_iff.mp h
  rw [groupOf_iff, kept]
  exact ⟨src, dst, proto⟩

theorem Mirrored.session_between {P : Packages κ} {cfg : Config} {A B : IPv4} {c d : Collector κ}
    (h : Mirrored P A B c) (different : A ≠ B) (ungrouped : Ungrouped P.netaddr cfg A B)
    {e : Entry} {x y : IPv4} (between : Between A B x y) (src : e.src.ip = .v4 x)
    (dst : e.dst.ip = .v4 y) (run : Runs (Collector.record P cfg) c [e, e.mirror] d) :
    Mirrored P A B d := by
  have kept := ungrouped.groupPublicDst_eq between dst
  have kept' := ungrouped.groupPublicDst_eq between.swap (e := e.mirror) src
  cases run with
  | next first run =>
    cases run with
    | next second run =>
      cases run
      obtain ⟨t, g, ht, hg, rfl⟩ := record_iff.mp first
      obtain ⟨t', g', ht', hg', rfl⟩ := record_iff.mp second
      rw [flowOf_mirror ht, Except.ok.injEq] at ht'
      rw [groupOf_of_kept kept ht, Except.ok.injEq] at hg
      rw [groupOf_of_kept kept' (flowOf_mirror ht), Except.ok.injEq] at hg'
      have flow : Between A B t.src t.dst := by
        obtain ⟨src', dst', _⟩ := flowOf_iff.mp ht
        rw [src, P.netaddr.as4_v4, Except.ok.injEq] at src'
        rw [dst, P.netaddr.as4_v4, Except.ok.injEq] at dst'
        rw [← src', ← dst']
        exact between
      rw [← ht', ← hg', ← hg]
      exact h.recorded_both different (g := ⟨t.src, t.dst, t.proto⟩) flow flow kept kept'

theorem Mirrored.session_other {P : Packages κ} {cfg : Config} {A B : IPv4} {c d : Collector κ}
    (h : Mirrored P A B c) (ungrouped : Ungrouped P.netaddr cfg A B) {now : Time} {s : Session}
    (other : ¬ ∃ x y, Between A B x y ∧ (s.entry P.netaddr now).src.ip = .v4 x ∧
      (s.entry P.netaddr now).dst.ip = .v4 y)
    {filter : EntriesFilter}
    (run : Runs (Collector.record P cfg) c (s.entries P.netaddr now filter) d) :
    Mirrored P A B d := by
  refine run.invariant (Mirrored P A B)
    (fun e => e = s.entry P.netaddr now ∨ e = (s.entry P.netaddr now).mirror) ?_ h ?_
  · intro c e c' hc either hrec
    obtain ⟨t, g, ht, hg, rfl⟩ := record_iff.mp hrec
    obtain ⟨src, dst⟩ := session_ips either ht
    have flow : ¬ Between A B t.src t.dst := by
      intro between
      rcases either with rfl | rfl
      · exact other ⟨_, _, between, src, dst⟩
      · exact other ⟨_, _, between.swap, dst, src⟩
    rw [(isIPv4_of_ips src dst).groupOf_eq cfg ht, Except.ok.injEq] at hg
    rw [← hg]
    exact hc.recorded_other cfg e flow (fun group => flow (ungrouped.flow_between group))
  · intro e mem
    have either := (List.mem_filter.mp mem).1
    simpa only [List.mem_cons, List.not_mem_nil, or_false] using either

theorem Mirrored.session {P : Packages κ} {cfg : Config} {A B : IPv4} {c d : Collector κ}
    (h : Mirrored P A B c) (different : A ≠ B) (ungrouped : Ungrouped P.netaddr cfg A B)
    {ips : Finset IP} (hA : .v4 A ∈ ips) (hB : .v4 B ∈ ips) {now : Time} {s : Session}
    (run : Runs (Collector.record P cfg) c (s.entries P.netaddr now (filterBySrcIP ips)) d) :
    Mirrored P A B d := by
  by_cases pods : ∃ x y, Between A B x y ∧ (s.entry P.netaddr now).src.ip = .v4 x ∧
      (s.entry P.netaddr now).dst.ip = .v4 y
  · obtain ⟨x, y, between, src, dst⟩ := pods
    have watched : ∀ {x y : IPv4}, Between A B x y → .v4 x ∈ ips := by
      rintro x y (⟨rfl, _⟩ | ⟨rfl, _⟩)
      · exact hA
      · exact hB
    have first : filterBySrcIP ips (s.entry P.netaddr now) = true := by
      simpa [filterBySrcIP, src] using watched between
    have second : filterBySrcIP ips (s.entry P.netaddr now).mirror = true := by
      simpa [filterBySrcIP, Entry.mirror, dst] using watched between.swap
    have listed : s.entries P.netaddr now (filterBySrcIP ips) =
        [s.entry P.netaddr now, (s.entry P.netaddr now).mirror] := by
      simp [Session.entries, first, second]
    rw [listed] at run
    exact h.session_between different ungrouped between src dst run
  · exact h.session_other ungrouped pods run

theorem Mirrored.sessions {P : Packages κ} {cfg : Config} {A B : IPv4} {c d : Collector κ}
    (h : Mirrored P A B c) (different : A ≠ B) (ungrouped : Ungrouped P.netaddr cfg A B)
    {ips : Finset IP} (hA : .v4 A ∈ ips) (hB : .v4 B ∈ ips) {now : Time} {sessions : List Session}
    (run : Runs (Collector.record P cfg) c
      (sessions.flatMap (Session.entries P.netaddr now (filterBySrcIP ips))) d) :
    Mirrored P A B d := by
  induction sessions generalizing c with
  | nil =>
    cases run
    exact h
  | cons s sessions ih =>
    rw [List.flatMap_cons] at run
    obtain ⟨u, first, rest⟩ := run.split
    exact ih (h.session different ungrouped hA hB first) rest

theorem Mirrored.step {P : Packages κ} {E : Encoders} {cfg : Config} {A B : IPv4}
    {c d : Collector κ} {op : Op κ} (h : Mirrored P A B c) (different : A ≠ B)
    (ungrouped : Ungrouped P.netaddr cfg A B) (watches : Watches P.netaddr A B op)
    (hstep : step P E cfg c op = .ok d) : Mirrored P A B d := by
  match op with
  | .collect (.ok conns) =>
    obtain ⟨ips, sessions, now, hA, hB, rfl⟩ := watches.listing
    rw [step_collect_ok, collectConns_iff] at hstep
    obtain ⟨u, run, rfl⟩ := hstep
    have after := h.sessions different ungrouped hA hB run
    exact ⟨after.cached, after.metric⟩
  | .collect (.error err) =>
    cases hstep
    exact h
  | .handle call =>
    cases hstep
    rcases handler_cases E cfg c call with ⟨same, _⟩ | ⟨zeroed, _⟩
    · rw [same]
      exact h
    · rw [zeroed]
      exact h.resetDeltas cfg watches
  | .cleanup now =>
    cases hstep
    exact h.cleanup now

/-- The two ends of pod-to-pod traffic agree in every state of a run: there is a metric for one
    direction iff there is one for the other, and the two show the same traffic. -/
theorem pod_to_pod_ends_agree (P : Packages κ) (E : Encoders) (cfg : Config) {A B : IPv4}
    (different : A ≠ B) (ungrouped : Ungrouped P.netaddr cfg A B) {ops : List (Op κ)}
    {c : Collector κ} (run : Runs (step P E cfg) (Collector.empty κ) ops c)
    (watches : ∀ op ∈ ops, Watches P.netaddr A B op) (proto : UInt8) :
    ((∃ key m, Holds c ⟨A, B, proto⟩ key m) ↔ ∃ key m, Holds c ⟨B, A, proto⟩ key m) ∧
    ∀ key m key' m', Holds c ⟨A, B, proto⟩ key m → Holds c ⟨B, A, proto⟩ key' m' →
      m.lifetime = m'.lifetime ∧ m.txBytes = m'.rxBytes ∧ m.txPackets = m'.rxPackets ∧
        m.rxBytes = m'.txBytes ∧ m.rxPackets = m'.txPackets := by
  have keyed := wellKeyed_of_reachable ⟨ops, run⟩
  have mirrored := run.invariant (Mirrored P A B) (Watches P.netaddr A B)
    (fun _ _ _ h ok hstep => h.step different ungrouped ok hstep) (mirrored_empty P A B) watches
  have metric : metricOf P c ⟨B, A, proto⟩ = (metricOf P c ⟨A, B, proto⟩).map mirrorMetric :=
    mirrored.metric ⟨A, B, proto⟩ (.inl ⟨rfl, rfl⟩)
  simp only [holds_iff keyed, metric, Option.map_eq_some_iff]
  constructor
  · constructor
    · rintro ⟨_, m, rfl, hm⟩
      exact ⟨_, _, rfl, m, hm, rfl⟩
    · rintro ⟨_, _, rfl, m, hm, _⟩
      exact ⟨_, m, rfl, hm⟩
  · rintro _ m _ _ ⟨_, hm⟩ ⟨_, m₁, hm₁, rfl⟩
    rw [hm, Option.some.injEq] at hm₁
    subst hm₁
    exact ⟨rfl, rfl, rfl, rfl, rfl⟩

def podsListing (sessions : List Session) (now : Time) : List Entry :=
  sessions.flatMap (Session.entries .documented now
    (filterBySrcIP {.v4 ⟨10, 0, 0, 1⟩, .v4 ⟨10, 0, 0, 2⟩}))

theorem watches_podsListing (sessions : List Session) (now : Time) :
    Watches .documented ⟨10, 0, 0, 1⟩ ⟨10, 0, 0, 2⟩
      (.collect (.ok (podsListing sessions now)) : Op Bytes) := by
  refine ⟨.ok {.v4 ⟨10, 0, 0, 1⟩, .v4 ⟨10, 0, 0, 2⟩}, .ok sessions, now, ?_, ?_⟩
  · rintro ips ⟨⟩
    decide
  · have complete := netfilterListEntries_complete .documented sessions now
      (filterBySrcIP {.v4 ⟨10, 0, 0, 1⟩, .v4 ⟨10, 0, 0, 2⟩})
    simp only [listConns, Except.map, complete, bind, Except.bind, pure, Except.pure]
    rfl

/-- Two connections between the pods, one of which has expired at the cleanup. -/
def podsRun : List (Op Bytes) :=
  [.collect (.ok (podsListing [portSession 10 40000 60, portSession 7 40001 0] 0)),
    .collect (.ok (podsListing [portSession 25 40000 60, portSession 9 40001 0] (5 * second))),
    .handle plainCall,
    .collect (.ok (podsListing [portSession 40 40000 60] (10 * second))),
    .cleanup (7 * second)]

theorem watches_podsRun : ∀ op ∈ podsRun, Watches .documented ⟨10, 0, 0, 1⟩ ⟨10, 0, 0, 2⟩ op := by
  simp only [podsRun, List.forall_mem_cons, watches_podsListing, true_and]
  exact ⟨fun _ _ => rfl, trivial, fun _ mem => by cases mem⟩

theorem pod_to_pod_ends_agree_sample : ∃ c, Runs (step .documented .buffering ⟨true, true⟩)
    (.empty Bytes) podsRun c ∧
    ∃ key m key' m', Holds c ⟨⟨10, 0, 0, 1⟩, ⟨10, 0, 0, 2⟩, 6⟩ key m ∧
      Holds c ⟨⟨10, 0, 0, 2⟩, ⟨10, 0, 0, 1⟩, 6⟩ key' m' ∧ m.txBytes = 15 ∧ m'.rxBytes = 15 := by
  obtain ⟨c, run, shown⟩ : ∃ c, Runs (step .documented .buffering ⟨true, true⟩) (.empty Bytes)
      podsRun c ∧ (metricOf .documented c ⟨⟨10, 0, 0, 1⟩, ⟨10, 0, 0, 2⟩, 6⟩).map (·.txBytes) =
        some 15 :=
    exists_runs (by decide +kernel)
  have agree := pod_to_pod_ends_agree .documented .buffering ⟨true, true⟩ (by decide)
    (fun _ => by decide) run watches_podsRun 6
  obtain ⟨m, hm, sent⟩ := Option.map_eq_some_iff.mp shown
  have held := (holds_iff (wellKeyed_of_reachable ⟨_, run⟩)).mpr ⟨rfl, hm⟩
  obtain ⟨key', m', held'⟩ := agree.1.mp ⟨_, m, held⟩
  have same := (agree.2 _ _ _ _ held held').2.1
  exact ⟨c, run, _, m, key', m', held, held', sent, same ▸ sent⟩

end Egressd.CollectorMirror
