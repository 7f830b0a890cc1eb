import Mathlib.Data.List.Basic

set_option autoImplicit false

namespace BoundedChannel

variable {α : Type*} {n : ℕ}

structure Chan (α : Type*) (capacity : ℕ) where
  queue : List α
  bounded : queue.length ≤ capacity

def Chan.make (α : Type*) (capacity : ℕ) : Chan α capacity := ⟨[], Nat.zero_le _⟩

def Chan.trySend (c : Chan α n) (x : α) : Option (Chan α n) :=
  if room : c.queue.length < n then
    some ⟨c.queue ++ [x], by rw [List.length_append]; exact room⟩
  else none

def Chan.tryReceive (c : Chan α n) : Option (α × Chan α n) :=
  match c with
  | ⟨[], _⟩ => none
  | ⟨x :: xs, bounded⟩ => some (x, ⟨xs, Nat.le_of_succ_le bounded⟩)

theorem trySend_room {c : Chan α n} (room : c.queue.length < n) (x : α) :
    ∃ d, c.trySend x = some d ∧ d.queue = c.queue ++ [x] :=
  ⟨_, dif_pos room, rfl⟩

theorem trySend_full {c : Chan α n} (full : ¬ c.queue.length < n) (x : α) : c.trySend x = none :=
  dif_neg full

theorem queue_of_tryReceive {c d : Chan α n} {x : α} (h : c.tryReceive = some (x, d)) :
    c.queue = x :: d.queue := by
  obtain ⟨queue, bounded⟩ := c
  cases queue with
  | nil => cases h
  | cons y ys =>
    cases h
    rfl

/-- The values that were sent to the channel while it had room, given how many were waiting. -/
def accepted (n : ℕ) (sent : List (α × ℕ)) : List α :=
  (sent.filter (fun s => s.2 < n)).map Prod.fst

/-- What was received and what waits is what was accepted, in this order. -/
def Conserves (received : List α) (sent : List (α × ℕ)) (c : Chan α n) : Prop :=
  received ++ c.queue = accepted n sent

theorem conserves_make : Conserves [] [] (Chan.make α n) := rfl

theorem Conserves.send {received : List α} {sent : List (α × ℕ)} {c : Chan α n}
    (h : Conserves received sent c) (x : α) :
    Conserves received (sent ++ [(x, c.queue.length)]) ((c.trySend x).getD c) := by
  unfold Conserves accepted at h ⊢
  rw [List.filter_append, List.map_append, ← h]
  by_cases room : c.queue.length < n
  · obtain ⟨d, sent, queue⟩ := trySend_room room x
    rw [sent, Option.getD_some, queue, List.filter_cons_of_pos (by simpa using room),
      ← List.append_assoc]
    rfl
  · rw [trySend_full room, Option.getD_none, List.filter_cons_of_neg (by simpa using room)]
    simp

theorem Conserves.receive {received : List α} {sent : List (α × ℕ)} {c d : Chan α n} {x : α}
    (h : Conserves received sent c) (got : c.tryReceive = some (x, d)) :
    Conserves (received ++ [x]) sent d := by
  unfold Conserves at h ⊢
  rw [← h, queue_of_tryReceive got, List.append_assoc, List.singleton_append]

theorem accepted_eq_of_room {sent : List (α × ℕ)} (room : ∀ s ∈ sent, s.2 < n) :
    accepted n sent = sent.map Prod.fst := by
  unfold accepted
  rw [List.filter_eq_self.mpr (fun s mem => by simpa using room s mem)]

end BoundedChannel
