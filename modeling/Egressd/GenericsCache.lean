import Egressd.FiniteMap
import Egressd.GoRuntime

set_option autoImplicit false

namespace Egressd

namespace GenericsCache

structure Item (V : Type) where
  value : V
  expiration : Time
  deriving DecidableEq, Repr

def Item.expired {V : Type} (item : Item V) (now : Time) : Bool := item.expiration < now

theorem expired_eq_false_iff {V : Type} {item : Item V} {now : Time} :
    item.expired now = false ↔ now ≤ item.expiration := by
  rw [Item.expired, decide_eq_false_iff_not, not_lt]

/-- What a lookup answers for the item of a key. -/
def Item.read {V : Type} (now : Time) (item : Item V) : Option V :=
  if item.expired now then none else some item.value

end GenericsCache

open GenericsCache

/-- The part of `go-generics-cache` that is used. An item that was set with an expiration is
    answered until its time is over. It may stay in the map after that, until a janitor finds it,
    and `Keys` lists it as long as it is there. -/
structure GenericsCache where
  Cache : Type → Type → Type
  items {K V : Type} : Cache K V → Finmap (fun _ : K => Item V)
  new (K V : Type) : Cache K V
  get {K V : Type} [DecidableEq K] : Cache K V → Time → K → Option V
  /-- `Set` with the option `WithExpiration`. -/
  set {K V : Type} [DecidableEq K] : Cache K V → Time → K → V → Duration → Cache K V
  keys {K V : Type} : Finmap.VisitOrder K → Cache K V → List K
  /-- A pass of the janitor. -/
  deleteExpired {K V : Type} : Cache K V → Time → Cache K V
  items_new (K V : Type) : items (new K V) = ∅
  get_eq {K V : Type} [DecidableEq K] (c : Cache K V) (now : Time) (key : K) :
    get c now key = ((items c).lookup key).bind (Item.read now)
  items_set {K V : Type} [DecidableEq K] (c : Cache K V) (now : Time) (key : K) (value : V)
    (expiration : Duration) :
    items (set c now key value expiration) = (items c).insert key ⟨value, now + expiration⟩
  keys_eq {K V : Type} (o : Finmap.VisitOrder K) (c : Cache K V) :
    keys o c = o.keys (items c).keys
  items_deleteExpired {K V : Type} (c : Cache K V) (now : Time) :
    items (deleteExpired c now) = (items c).filter (fun _ item => !item.expired now)

namespace GenericsCache

def documented : GenericsCache where
  Cache K V := Finmap (fun _ : K => Item V)
  items := id
  new _ _ := ∅
  get c now key := (c.lookup key).bind (Item.read now)
  set c now key value expiration := c.insert key ⟨value, now + expiration⟩
  keys o c := o.keys c.keys
  deleteExpired c now := c.filter (fun _ item => !item.expired now)
  items_new _ _ := rfl
  get_eq _ _ _ := rfl
  items_set _ _ _ _ _ := rfl
  keys_eq _ _ := rfl
  items_deleteExpired _ _ := rfl

variable {G : GenericsCache} {K V : Type} [DecidableEq K]

theorem lookup_new (key : K) : (G.items (G.new K V)).lookup key = none := by
  rw [G.items_new, Finmap.lookup_empty]

theorem lookup_set (c : G.Cache K V) (now : Time) (key key' : K) (value : V)
    (expiration : Duration) : (G.items (G.set c now key value expiration)).lookup key' =
      if key' = key then some ⟨value, now + expiration⟩ else (G.items c).lookup key' := by
  rw [G.items_set, Finmap.lookup_insert_ite]

theorem lookup_set_self (c : G.Cache K V) (now : Time) (key : K) (value : V)
    (expiration : Duration) : (G.items (G.set c now key value expiration)).lookup key =
      some ⟨value, now + expiration⟩ := by
  rw [lookup_set, if_pos rfl]

theorem lookup_deleteExpired (c : G.Cache K V) (now : Time) (key : K) :
    (G.items (G.deleteExpired c now)).lookup key =
      ((G.items c).lookup key).filter (fun item => !item.expired now) := by
  rw [G.items_deleteExpired, Finmap.lookup_filter]

theorem lookup_of_deleteExpired {c : G.Cache K V} {now : Time} {key : K} {item : Item V}
    (h : (G.items (G.deleteExpired c now)).lookup key = some item) :
    (G.items c).lookup key = some item := by
  rw [lookup_deleteExpired, Option.filter_eq_some_iff] at h
  exact h.1

theorem get_of_lookup {c : G.Cache K V} {key : K} {item : Item V}
    (h : (G.items c).lookup key = some item) (now : Time) :
    G.get c now key = if item.expired now then none else some item.value := by
  rw [G.get_eq, h]
  rfl

theorem get_of_absent {c : G.Cache K V} {key : K} (h : (G.items c).lookup key = none)
    (now : Time) : G.get c now key = none := by
  rw [G.get_eq, h]
  rfl

theorem get_set_self (c : G.Cache K V) (now : Time) (key : K) (value : V) {expiration : Duration}
    (h : 0 ≤ expiration) : G.get (G.set c now key value expiration) now key = some value := by
  have kept : Item.expired ⟨value, now + expiration⟩ now = false :=
    expired_eq_false_iff.mpr (le_add_of_nonneg_right h)
  rw [get_of_lookup (lookup_set_self c now key value expiration), kept]
  rfl

end GenericsCache

end Egressd
