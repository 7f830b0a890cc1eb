import Mathlib.Data.Finmap

set_option autoImplicit false

namespace Finmap

variable {α β : Type*}

/-- An order in which a loop visits the keys of a table, each of them once. -/
structure VisitOrder (α : Type*) where
  keys : Finset α → List α
  visitsEachOnce : ∀ s, (keys s : Multiset α) = s.val

theorem VisitOrder.mem_keys (o : VisitOrder α) {s : Finset α} {a : α} : a ∈ o.keys s ↔ a ∈ s := by
  rw [← Multiset.mem_coe, o.visitsEachOnce]
  rfl

theorem VisitOrder.nodup_keys (o : VisitOrder α) (s : Finset α) : (o.keys s).Nodup := by
  rw [← Multiset.coe_nodup, o.visitsEachOnce]
  exact s.nodup

theorem VisitOrder.keys_singleton (o : VisitOrder α) (a : α) : o.keys {a} = [a] :=
  Multiset.coe_eq_singleton.mp (o.visitsEachOnce {a})

variable [DecidableEq α]

theorem lookup_insert_ite (a a' : α) (b : β) (m : Finmap (fun _ : α => β)) :
    (m.insert a b).lookup a' = if a' = a then some b else m.lookup a' := by
  by_cases h : a' = a
  · subst h
    rw [if_pos rfl, lookup_insert]
  · rw [if_neg h, lookup_insert_of_ne m h]

def filter (p : α → β → Bool) (m : Finmap (fun _ : α => β)) : Finmap (fun _ : α => β) :=
  ⟨m.entries.filter (fun e => p e.1 e.2), by
    obtain ⟨⟨l⟩, hl⟩ := m
    exact List.NodupKeys.sublist List.filter_sublist hl⟩

theorem lookup_filter (p : α → β → Bool) (m : Finmap (fun _ : α => β)) (a : α) :
    (m.filter p).lookup a = (m.lookup a).filter (p a) := by
  ext b
  rw [← Option.mem_def, mem_lookup_iff]
  change Sigma.mk a b ∈ m.entries.filter (fun e => p e.1 e.2) ↔ _
  rw [Multiset.mem_filter, ← lookup_eq_some_iff, Option.filter_eq_some_iff]

def mapValues (f : α → β → β) (m : Finmap (fun _ : α => β)) : Finmap (fun _ : α => β) :=
  ⟨m.entries.map (fun e => ⟨e.1, f e.1 e.2⟩), by
    obtain ⟨⟨l⟩, hl⟩ := m
    exact List.NodupKeys.map₂ f l hl⟩

theorem lookup_mapValues (f : α → β → β) (m : Finmap (fun _ : α => β)) (a : α) :
    (m.mapValues f).lookup a = (m.lookup a).map (f a) := by
  obtain ⟨⟨l⟩, hl⟩ := m
  exact List.dlookup_map₂ a

theorem lookup_erase_ite (a a' : α) (m : Finmap (fun _ : α => β)) :
    (m.erase a).lookup a' = if a' = a then none else m.lookup a' := by
  by_cases h : a' = a
  · subst h
    rw [if_pos rfl, lookup_erase]
  · rw [if_neg h, lookup_erase_ne h]

/-- A loop over the entries of a table whose body changes the visited entry only changes each of
    them once, whatever the order. -/
theorem lookup_loop {body : Finmap (fun _ : α => β) → α → Finmap (fun _ : α => β)}
    (change : α → Option β → Option β)
    (one : ∀ m a a', (body m a).lookup a' = if a' = a then change a' (m.lookup a') else m.lookup a')
    (absent : ∀ a, change a none = none) (o : VisitOrder α) (m : Finmap (fun _ : α => β)) (a : α) :
    ((o.keys m.keys).foldl body m).lookup a = change a (m.lookup a) := by
  have general : ∀ (keys : List α) (m : Finmap (fun _ : α => β)), keys.Nodup →
      (keys.foldl body m).lookup a = if a ∈ keys then change a (m.lookup a) else m.lookup a := by
    intro keys
    induction keys with
    | nil => simp
    | cons key keys ih =>
      intro m nodup
      rw [List.nodup_cons] at nodup
      rw [List.foldl_cons, ih _ nodup.2, one]
      by_cases here : a = key
      · rw [here, if_neg nodup.1, if_pos rfl, if_pos List.mem_cons_self]
      · simp [here]
  rw [general _ _ (o.nodup_keys _)]
  split
  · rfl
  · rename_i outside
    rw [o.mem_keys, mem_keys] at outside
    rw [lookup_eq_none.mpr outside, absent]

def retain (p : α → β → Bool) (m : Finmap (fun _ : α => β)) (a : α) : Finmap (fun _ : α => β) :=
  match m.lookup a with
  | some b => if p a b then m else m.erase a
  | none => m

theorem foldl_retain (p : α → β → Bool) (o : VisitOrder α) (m : Finmap (fun _ : α => β)) :
    (o.keys m.keys).foldl (retain p) m = m.filter p := by
  have one : ∀ (m : Finmap (fun _ : α => β)) (a a' : α), (m.retain p a).lookup a' =
      if a' = a then (m.lookup a').filter (p a') else m.lookup a' := by
    intro m a a'
    unfold retain
    cases found : m.lookup a with
    | none =>
      by_cases same : a' = a
      · rw [same, found, if_pos rfl, Option.filter_none]
      · rw [if_neg same]
    | some b =>
      cases keeps : p a b with
      | true =>
        simp only [keeps, if_true]
        split
        · rename_i same
          rw [same, found, Option.filter_some, keeps]
          rfl
        · rfl
      | false =>
        simp only [keeps, Bool.false_eq_true, if_false]
        rw [lookup_erase_ite]
        split
        · rename_i same
          rw [same, found, Option.filter_some, keeps]
          rfl
        · rfl
  apply ext_lookup
  intro a
  rw [lookup_loop (fun a b => b.filter (p a)) one (fun _ => rfl), lookup_filter]

def rewrite (f : α → β → β) (m : Finmap (fun _ : α => β)) (a : α) : Finmap (fun _ : α => β) :=
  match m.lookup a with
  | some b => m.insert a (f a b)
  | none => m

theorem foldl_rewrite (f : α → β → β) (o : VisitOrder α) (m : Finmap (fun _ : α => β)) :
    (o.keys m.keys).foldl (rewrite f) m = m.mapValues f := by
  have one : ∀ (m : Finmap (fun _ : α => β)) (a a' : α), (m.rewrite f a).lookup a' =
      if a' = a then (m.lookup a').map (f a') else m.lookup a' := by
    intro m a a'
    unfold rewrite
    cases found : m.lookup a with
    | none =>
      by_cases same : a' = a
      · rw [same, found, if_pos rfl, Option.map_none]
      · rw [if_neg same]
    | some b =>
      by_cases same : a' = a
      · rw [same, found, if_pos rfl, Option.map_some]
        exact lookup_insert m
      · rw [if_neg same]
        exact lookup_insert_of_ne m same
  apply ext_lookup
  intro a
  rw [lookup_loop (fun a b => b.map (f a)) one (fun _ => rfl), lookup_mapValues]

noncomputable def VisitOrder.first (a : α) : VisitOrder α where
  keys s := if a ∈ s then a :: (s.erase a).toList else s.toList
  visitsEachOnce s := by
    split
    · rename_i mem
      rw [← Multiset.cons_coe, Finset.coe_toList, Finset.erase_val, Multiset.cons_erase mem]
    · exact Finset.coe_toList s

def visited (o : VisitOrder α) (m : Finmap (fun _ : α => β)) : List (α × β) :=
  (o.keys m.keys).filterMap (fun a => (m.lookup a).map (fun b => (a, b)))

theorem mem_visited {o : VisitOrder α} {m : Finmap (fun _ : α => β)} {a : α} {b : β} :
    (a, b) ∈ m.visited o ↔ m.lookup a = some b := by
  simp only [visited, List.mem_filterMap, Option.map_eq_some_iff, Prod.mk.injEq]
  constructor
  · rintro ⟨a', _, b', found, rfl, rfl⟩
    exact found
  · intro found
    refine ⟨a, ?_, b, found, rfl, rfl⟩
    rw [o.mem_keys, mem_keys, ← lookup_isSome, found]
    rfl

theorem visited_keys (o : VisitOrder α) (m : Finmap (fun _ : α => β)) :
    (m.visited o).map Prod.fst = o.keys m.keys := by
  rw [visited, List.map_filterMap]
  have each : ∀ a ∈ o.keys m.keys,
      (Option.map Prod.fst ((m.lookup a).map (fun b => (a, b)))) = some a := by
    intro a mem
    rw [o.mem_keys, mem_keys, ← lookup_isSome] at mem
    obtain ⟨b, found⟩ := Option.isSome_iff_exists.mp mem
    rw [found]
    rfl
  rw [List.filterMap_congr each, List.filterMap_some]

theorem visited_first {m : Finmap (fun _ : α => β)} {a : α} {b : β} (h : m.lookup a = some b) :
    ∃ rest, m.visited (.first a) = (a, b) :: rest := by
  have mem : a ∈ m.keys := by
    rw [mem_keys, ← lookup_isSome, h]
    rfl
  have keys : (VisitOrder.first a).keys m.keys = a :: (m.keys.erase a).toList := if_pos mem
  rw [visited, keys, List.filterMap_cons_some (by rw [h]; rfl)]
  exact ⟨_, rfl⟩

theorem visited_perm (o o' : VisitOrder α) (m : Finmap (fun _ : α => β)) :
    (m.visited o).Perm (m.visited o') := by
  have keys : (o.keys m.keys).Perm (o'.keys m.keys) :=
    Multiset.coe_eq_coe.mp ((o.visitsEachOnce _).trans (o'.visitsEachOnce _).symm)
  exact keys.filterMap _

theorem nodup_visited (o : VisitOrder α) (m : Finmap (fun _ : α => β)) : (m.visited o).Nodup := by
  refine List.Nodup.of_map Prod.fst ?_
  rw [visited_keys]
  exact o.nodup_keys _

end Finmap
