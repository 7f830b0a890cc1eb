import Egressd.GenericsCache
import Egressd.Histories

set_option autoImplicit false

namespace Egressd.GenericsCache
open Histories

variable {G : GenericsCache} {K V : Type} [DecidableEq K]

inductive Change (K V : Type) where
  | set (now : Time) (key : K) (value : V) (expiration : Duration)
  | deleteExpired (now : Time)

def Change.apply (c : G.Cache K V) : Change K V → G.Cache K V
  | .set now key value expiration => G.set c now key value expiration
  | .deleteExpired now => G.deleteExpired c now

variable (G) in
def after (changes : List (Change K V)) : G.Cache K V := changes.foldl Change.apply (G.new K V)

def Change.setting : Change K V → Option (K × Item V)
  | .set now key value expiration => some (key, ⟨value, now + expiration⟩)
  | .deleteExpired _ => none

def lastSet (changes : List (Change K V)) (key : K) : Option (Item V) :=
  (latest Prod.fst (changes.filterMap Change.setting) key).map Prod.snd

theorem lastSet_concat (changes : List (Change K V)) (change : Change K V) (key : K) :
    lastSet (changes ++ [change]) key =
      match change with
      | .set now key' value expiration =>
        if key' = key then some ⟨value, now + expiration⟩ else lastSet changes key
      | .deleteExpired _ => lastSet changes key := by
  unfold lastSet
  rw [List.filterMap_append]
  cases change with
  | set now key' value expiration =>
    simp only [List.filterMap_cons, List.filterMap_nil, Change.setting]
    rw [latest_concat]
    by_cases same : key' = key
    · rw [if_pos same, if_pos same]
      rfl
    · rw [if_neg same, if_neg same]
  | deleteExpired now => simp only [List.filterMap_cons, List.filterMap_nil, Change.setting,
      List.append_nil]

/-- The cache holds what was set last, or the janitor found it expired. -/
def Holds (changes : List (Change K V)) (c : G.Cache K V) : Prop :=
  ∀ key, (G.items c).lookup key = lastSet changes key ∨ (G.items c).lookup key = none ∧
    ∃ item now, lastSet changes key = some item ∧ .deleteExpired now ∈ changes ∧
      item.expired now = true

theorem holds_set {changes : List (Change K V)} {c : G.Cache K V} (h : Holds changes c) (now : Time)
    (key : K) (value : V) (expiration : Duration) :
    Holds (changes ++ [.set now key value expiration]) (G.set c now key value expiration) := by
  intro key'
  rw [lastSet_concat, lookup_set]
  simp only
  by_cases same : key' = key
  · rw [if_pos same, if_pos same.symm]
    exact .inl rfl
  · rw [if_neg same, if_neg (Ne.symm same)]
    refine (h key').imp_right ?_
    rintro ⟨none, item, now', last, ran, expired⟩
    exact ⟨none, item, now', last, List.mem_append_left _ ran, expired⟩

theorem holds_deleteExpired {changes : List (Change K V)} {c : G.Cache K V} (h : Holds changes c)
    (now : Time) : Holds (changes ++ [.deleteExpired now]) (G.deleteExpired c now) := by
  intro key
  rw [lastSet_concat, lookup_deleteExpired]
  simp only
  have ran : Change.deleteExpired now ∈ changes ++ [Change.deleteExpired (K := K) (V := V) now] :=
    List.mem_append_right _ (List.mem_singleton_self _)
  rcases h key with same | ⟨none, item, now', last, ran', expired⟩
  · rw [same]
    cases last : lastSet changes key with
    | none => exact .inl rfl
    | some item =>
      cases expired : item.expired now with
      | true =>
        refine .inr ⟨?_, item, now, rfl, ran, expired⟩
        simp [Option.filter, expired]
      | false =>
        refine .inl ?_
        simp [Option.filter, expired]
  · rw [none]
    exact .inr ⟨rfl, item, now', last, List.mem_append_left _ ran', expired⟩

theorem holds_after (changes : List (Change K V)) : Holds changes (after G changes) := by
  refine foldl_history Holds (fun key => .inl (lookup_new key)) ?_ changes
  intro changes c change h
  cases change with
  | set now key value expiration => exact holds_set h now key value expiration
  | deleteExpired now => exact holds_deleteExpired h now

theorem expired_mono {item : Item V} {t now : Time} (h : item.expired t = true) (le : t ≤ now) :
    item.expired now = true := by
  unfold Item.expired at h ⊢
  rw [decide_eq_true_iff] at h ⊢
  exact lt_of_lt_of_le h le

theorem get_after {changes : List (Change K V)} {now : Time}
    (past : ∀ t, .deleteExpired t ∈ changes → t ≤ now) (key : K) :
    G.get (after G changes) now key =
      (lastSet changes key).bind (fun item => if item.expired now then none else some item.value) := by
  rcases holds_after changes key with same | ⟨none, item, t, last, ran, expired⟩
  · cases last : lastSet changes key with
    | none =>
      rw [last] at same
      rw [get_of_absent same]
      rfl
    | some item =>
      rw [last] at same
      rw [get_of_lookup same]
      rfl
  · rw [get_of_absent none, last, Option.bind_some, expired_mono expired (past t ran)]
    rfl

theorem set_of_get {changes : List (Change K V)} {now : Time} {key : K} {value : V}
    (found : G.get (after G changes) now key = some value) :
    ∃ t expiration, .set t key value expiration ∈ changes ∧ now ≤ t + expiration := by
  rcases holds_after changes key with same | ⟨none, _⟩
  · cases last : lastSet changes key with
    | none =>
      rw [get_of_absent (same.trans last)] at found
      cases found
    | some item =>
      rw [get_of_lookup (same.trans last)] at found
      split at found
      · cases found
      · rename_i unexpired
        cases found
        obtain ⟨⟨key', item'⟩, latest, rfl⟩ := Option.map_eq_some_iff.mp last
        obtain ⟨change, mem, setting⟩ := List.mem_filterMap.mp (mem_of_latest latest)
        have own := key_of_latest Prod.fst latest
        cases change with
        | set t key'' value expiration =>
          cases setting
          cases own
          exact ⟨t, expiration, mem, expired_eq_false_iff.mp (Bool.eq_false_of_not_eq_true unexpired)⟩
        | deleteExpired t => cases setting
  · rw [get_of_absent none] at found
    cases found

end Egressd.GenericsCache
