import Mathlib.Algebra.Order.Group.Multiset
import Mathlib.Logic.Relation
import Mathlib.Tactic.Abel

set_option autoImplicit false

/-!
# Collecting the results of limited workers over a bounded channel

One goroutine starts a worker for each job, never more than a limit at a time,
waits for all of them and closes the channel. Each worker sends at most one
result. The consumer receives until the channel is closed and empty. If the
context is cancelled, the starting goroutine returns at its next poll and
leaves the channel open.
-/
namespace FanIn

variable {α β : Type*}

/-- The package `errgroup`, by what it documents: for a limit and the number of functions that have
    not returned, whether `Go` starts another one, and whether `Wait` returns. -/
structure ErrGroup where
  go : ℕ → ℕ → Bool
  wait : ℕ → Bool
  go_iff (limit active : ℕ) : go limit active = true ↔ active < limit
  wait_iff (active : ℕ) : wait active = true ↔ active = 0

def ErrGroup.documented : ErrGroup where
  go limit active := active < limit
  wait active := active = 0
  go_iff _ _ := decide_eq_true_iff
  wait_iff _ := decide_eq_true_iff

/-- The goroutine that starts the workers. After its last job it waits for the workers. -/
inductive Spawner (α : Type*) where
  | polling (jobs : List α)
  | starting (a : α) (jobs : List α)
  | returned
  | closed
  deriving DecidableEq

inductive Worker (α β : Type*) where
  | fetching (a : α)
  | sending (b : β)
  | finished
  deriving DecidableEq

structure State (α β : Type*) where
  spawner : Spawner α
  workers : List (Worker α β)
  buffer : List β
  received : List β
  consuming : Bool
  cancelled : Bool

/-- The limit of the workers and the channel, which jobs are usable, and the result of each,
    none if the worker has nothing to send. -/
structure Config (α β : Type*) where
  errgroup : ErrGroup
  limit : ℕ
  capacity : ℕ
  usable : α → Bool
  result : α → Option β
  limit_pos : 0 < limit
  capacity_pos : 0 < capacity

def start (jobs : List α) : State α β := ⟨.polling jobs, [], [], [], true, false⟩

def fetched : Option β → Worker α β
  | some b => .sending b
  | none => .finished

inductive Step (C : Config α β) (s : State α β) : State α β → Prop where
  | quit {a : α} {jobs : List α} (poll : s.spawner = .polling (a :: jobs))
      (done : s.cancelled = true) : Step C s { s with spawner := .returned }
  | take {a : α} {jobs : List α} (poll : s.spawner = .polling (a :: jobs))
      (live : s.cancelled = false) (usable : C.usable a = true) :
      Step C s { s with spawner := .starting a jobs }
  | skip {a : α} {jobs : List α} (poll : s.spawner = .polling (a :: jobs))
      (live : s.cancelled = false) (unusable : C.usable a = false) :
      Step C s { s with spawner := .polling jobs }
  | start {a : α} {jobs : List α} (job : s.spawner = .starting a jobs)
      (free : C.errgroup.go C.limit s.workers.length = true) :
      Step C s { s with spawner := .polling jobs, workers := .fetching a :: s.workers }
  | close (waiting : s.spawner = .polling []) (idle : C.errgroup.wait s.workers.length = true) :
      Step C s { s with spawner := .closed }
  | fetch {ws ws' : List (Worker α β)} {a : α} (at' : s.workers = ws ++ .fetching a :: ws') :
      Step C s { s with workers := ws ++ fetched (C.result a) :: ws' }
  | abort {ws ws' : List (Worker α β)} {a : α} (at' : s.workers = ws ++ .fetching a :: ws')
      (done : s.cancelled = true) : Step C s { s with workers := ws ++ .finished :: ws' }
  | send {ws ws' : List (Worker α β)} {b : β} (at' : s.workers = ws ++ .sending b :: ws')
      (room : s.buffer.length < C.capacity) :
      Step C s { s with workers := ws ++ .finished :: ws', buffer := s.buffer ++ [b] }
  | exit {ws ws' : List (Worker α β)} (at' : s.workers = ws ++ .finished :: ws') :
      Step C s { s with workers := ws ++ ws' }
  | receive {b : β} {bs : List β} (running : s.consuming = true) (head : s.buffer = b :: bs) :
      Step C s { s with buffer := bs, received := s.received ++ [b] }
  | finish (running : s.consuming = true) (empty : s.buffer = []) (closed : s.spawner = .closed) :
      Step C s { s with consuming := false }

def Worker.held (C : Config α β) : Worker α β → List β
  | .fetching a => (C.result a).toList
  | .sending b => [b]
  | .finished => []

def Config.yield (C : Config α β) (a : α) : List β :=
  if C.usable a then (C.result a).toList else []

def Spawner.held (C : Config α β) : Spawner α → List β
  | .polling jobs => jobs.flatMap C.yield
  | .starting a jobs => (C.result a).toList ++ jobs.flatMap C.yield
  | .returned => []
  | .closed => []

def ledger (C : Config α β) (s : State α β) : Multiset β :=
  s.received + s.buffer + s.workers.flatMap (Worker.held C) + s.spawner.held C

section Ledger

variable {C : Config α β} {s t : State α β}

@[simp]
theorem held_fetching (C : Config α β) (a : α) :
    (Worker.fetching a : Worker α β).held C = (C.result a).toList := rfl

@[simp]
theorem held_sending (C : Config α β) (b : β) : (Worker.sending b : Worker α β).held C = [b] := rfl

@[simp]
theorem held_finished (C : Config α β) : (Worker.finished : Worker α β).held C = [] := rfl

@[simp]
theorem held_fetched (C : Config α β) (r : Option β) :
    (fetched r : Worker α β).held C = r.toList := by
  cases r <;> rfl

/-- As long as the context is not cancelled, no step loses or duplicates a result. -/
theorem ledger_step (h : Step C s t) (live : s.cancelled = false) : ledger C t = ledger C s := by
  unfold ledger
  cases h with
  | quit _ done | abort _ done =>
    rw [live] at done
    cases done
  | take poll _ usable =>
    rw [poll]
    simp only [Spawner.held, List.flatMap_cons, Config.yield, usable, if_true]
  | skip poll _ unusable =>
    rw [poll]
    simp only [Spawner.held, List.flatMap_cons, Config.yield, unusable, Bool.false_eq_true,
      if_false, List.nil_append]
  | start job _ =>
    rw [job]
    simp only [Spawner.held, List.flatMap_cons, held_fetching, ← Multiset.coe_add]
    abel
  | close waiting _ =>
    rw [waiting]
    rfl
  | fetch at' =>
    rw [at']
    simp only [List.flatMap_append, List.flatMap_cons, held_fetched, held_fetching]
  | send at' _ =>
    rw [at']
    simp only [List.flatMap_append, List.flatMap_cons, held_sending, held_finished,
      List.nil_append, ← Multiset.coe_add]
    abel
  | exit at' =>
    rw [at']
    simp only [List.flatMap_append, List.flatMap_cons, held_finished, List.nil_append]
  | @receive b bs _ head =>
    rw [head, ← Multiset.coe_add, ← Multiset.cons_coe b bs, ← Multiset.singleton_add,
      Multiset.coe_singleton]
    abel
  | finish => rfl

theorem cancelled_step (h : Step C s t) : t.cancelled = s.cancelled := by
  cases h <;> rfl

end Ledger

/-- The limits are kept, and the consumer finishes only after the channel is closed and empty,
    which is closed only after all workers have finished. -/
structure Sound (C : Config α β) (s : State α β) : Prop where
  limited : s.workers.length ≤ C.limit
  bounded : s.buffer.length ≤ C.capacity
  idle : s.spawner = .closed → s.workers = []
  drained : s.consuming = true ∨ s.spawner = .closed ∧ s.buffer = []

theorem sound_start (C : Config α β) (jobs : List α) : Sound C (start jobs) where
  limited := Nat.zero_le _
  bounded := Nat.zero_le _
  idle _ := rfl
  drained := .inl rfl

section Sound

variable {C : Config α β} {s t : State α β}

theorem Sound.consuming (sound : Sound C s) (h : s.spawner ≠ .closed) : s.consuming = true :=
  sound.drained.resolve_right (fun drained => h drained.1)

theorem Sound.ne_closed (sound : Sound C s) {w : Worker α β} {ws ws' : List (Worker α β)}
    (at' : s.workers = ws ++ w :: ws') : s.spawner ≠ .closed := by
  intro closed
  rw [sound.idle closed] at at'
  exact List.append_ne_nil_of_right_ne_nil ws (List.cons_ne_nil w ws') at'.symm

theorem Sound.replaced (sound : Sound C s) {w w' : Worker α β} {ws ws' : List (Worker α β)}
    (at' : s.workers = ws ++ w :: ws') : (ws ++ w' :: ws').length ≤ C.limit := by
  have limited := sound.limited
  rw [at', List.length_append, List.length_cons] at limited
  rw [List.length_append, List.length_cons]
  exact limited

theorem sound_step (h : Step C s t) (sound : Sound C s) : Sound C t := by
  cases h with
  | quit poll _ | take poll _ _ | skip poll _ _ =>
    have running := sound.consuming (by simp [poll])
    exact ⟨sound.limited, sound.bounded, nofun, .inl running⟩
  | start job free =>
    have running := sound.consuming (by simp [job])
    have room := (C.errgroup.go_iff C.limit _).mp free
    exact ⟨room, sound.bounded, nofun, .inl running⟩
  | close waiting idle =>
    have running := sound.consuming (by simp [waiting])
    have none := List.length_eq_zero_iff.mp ((C.errgroup.wait_iff _).mp idle)
    exact ⟨sound.limited, sound.bounded, fun _ => none, .inl running⟩
  | fetch at' | abort at' _ =>
    have open' := sound.ne_closed at'
    exact ⟨sound.replaced at', sound.bounded, fun closed => absurd closed open',
      .inl (sound.consuming open')⟩
  | send at' room =>
    have open' := sound.ne_closed at'
    refine ⟨sound.replaced at', ?_, fun closed => absurd closed open',
      .inl (sound.consuming open')⟩
    rw [List.length_append]
    exact room
  | exit at' =>
    have open' := sound.ne_closed at'
    have limited := sound.limited
    refine ⟨?_, sound.bounded, fun closed => absurd closed open', .inl (sound.consuming open')⟩
    rw [at', List.length_append, List.length_cons] at limited
    rw [List.length_append]
    omega
  | receive running head =>
    have bounded := sound.bounded
    rw [head, List.length_cons] at bounded
    exact ⟨sound.limited, Nat.le_of_succ_le bounded, sound.idle, .inl running⟩
  | finish _ empty closed =>
    exact ⟨sound.limited, sound.bounded, sound.idle, .inr ⟨closed, empty⟩⟩

end Sound

section Progress

variable {C : Config α β} {s t : State α β}

def Worker.work : Worker α β → ℕ
  | .fetching _ => 4
  | .sending _ => 3
  | .finished => 1

def Spawner.work : Spawner α → ℕ
  | .polling jobs => 6 * jobs.length + 1
  | .starting _ jobs => 6 * jobs.length + 6
  | .returned => 0
  | .closed => 0

def work (s : State α β) : ℕ :=
  s.spawner.work + (s.workers.map Worker.work).sum + s.buffer.length + s.consuming.toNat

@[simp]
theorem work_fetching (a : α) : (Worker.fetching a : Worker α β).work = 4 := rfl

@[simp]
theorem work_sending (b : β) : (Worker.sending b : Worker α β).work = 3 := rfl

@[simp]
theorem work_finished : (Worker.finished : Worker α β).work = 1 := rfl

theorem work_fetched (r : Option β) : (fetched r : Worker α β).work < 4 := by
  cases r
  · exact (by decide : 1 < 4)
  · exact (by decide : 3 < 4)

theorem work_step (h : Step C s t) : work t < work s := by
  unfold work
  cases h with
  | quit poll _ | take poll _ _ | skip poll _ _ =>
    rw [poll]
    simp only [Spawner.work, List.length_cons]
    omega
  | start job _ =>
    rw [job]
    simp only [Spawner.work, List.map_cons, List.sum_cons, work_fetching]
    omega
  | close waiting _ =>
    rw [waiting]
    simp only [Spawner.work, List.length_nil]
    omega
  | @fetch _ _ a at' =>
    have less := work_fetched (α := α) (C.result a)
    rw [at']
    simp only [List.map_append, List.map_cons, List.sum_append, List.sum_cons, work_fetching]
    omega
  | abort at' _ | exit at' =>
    rw [at']
    simp only [List.map_append, List.map_cons, List.sum_append, List.sum_cons, work_fetching,
      work_finished]
    omega
  | send at' _ =>
    rw [at']
    simp only [List.map_append, List.map_cons, List.sum_append, List.sum_cons, work_sending,
      work_finished, List.length_append, List.length_singleton]
    omega
  | receive _ head =>
    simp only [head, List.length_cons]
    omega
  | finish running _ _ =>
    rw [running]
    simp only [Bool.toNat_true, Bool.toNat_false]
    omega

theorem exists_step (waiting : s.consuming = true) (h : s.spawner ≠ .returned) :
    ∃ t, Step C s t := by
  cases buffer : s.buffer with
  | cons b bs => exact ⟨_, .receive waiting buffer⟩
  | nil =>
    cases workers : s.workers with
    | cons w ws =>
      have first : s.workers = [] ++ w :: ws := workers
      cases w with
      | fetching a => exact ⟨_, .fetch first⟩
      | sending b =>
        refine ⟨_, .send first ?_⟩
        rw [buffer]
        exact C.capacity_pos
      | finished => exact ⟨_, .exit first⟩
    | nil =>
      match spawner : s.spawner with
      | .polling [] =>
        refine ⟨_, .close spawner ((C.errgroup.wait_iff _).mpr ?_)⟩
        rw [workers]
        rfl
      | .polling (a :: jobs) =>
        cases cancelled : s.cancelled with
        | true => exact ⟨_, .quit spawner cancelled⟩
        | false =>
          cases usable : C.usable a with
          | true => exact ⟨_, .take spawner cancelled usable⟩
          | false => exact ⟨_, .skip spawner cancelled usable⟩
      | .starting a jobs =>
        refine ⟨_, .start spawner ((C.errgroup.go_iff C.limit _).mpr ?_)⟩
        rw [workers]
        exact C.limit_pos
      | .returned => exact absurd spawner h
      | .closed => exact ⟨_, .finish waiting buffer spawner⟩

end Progress

section Runs

open Relation

variable {C : Config α β} {jobs : List α} {s t : State α β}

structure Collecting (C : Config α β) (jobs : List α) (s : State α β) : Prop where
  sound : Sound C s
  live : s.cancelled = false
  ne_returned : s.spawner ≠ .returned
  ledger : ledger C s = (jobs.flatMap C.yield : Multiset β)

theorem collecting_start (C : Config α β) (jobs : List α) : Collecting C jobs (start jobs) where
  sound := sound_start C jobs
  live := rfl
  ne_returned := nofun
  ledger := by simp [FanIn.ledger, start, Spawner.held]

theorem ne_returned_step (h : Step C s t) (ne : s.spawner ≠ .returned)
    (live : s.cancelled = true → ∀ a jobs, s.spawner = .polling (a :: jobs) →
      t.spawner = s.spawner) : t.spawner ≠ .returned := by
  cases h with
  | quit poll done =>
    rw [live done _ _ poll]
    exact ne
  | take | skip | start | close => exact nofun
  | fetch | abort | send | exit | receive | finish => exact ne

theorem collecting_step (h : Step C s t) (hs : Collecting C jobs s) : Collecting C jobs t where
  sound := sound_step h hs.sound
  live := (cancelled_step h).trans hs.live
  ne_returned := ne_returned_step h hs.ne_returned (fun done => by
    rw [hs.live] at done
    cases done)
  ledger := (ledger_step h hs.live).trans hs.ledger

theorem Collecting.received (h : Collecting C jobs s) (done : s.consuming = false) :
    (s.received : Multiset β) = (jobs.flatMap C.yield : Multiset β) := by
  rcases h.sound.drained with running | ⟨closed, empty⟩
  · rw [done] at running
    cases running
  · rw [← h.ledger, FanIn.ledger, closed, empty, h.sound.idle closed]
    simp [Spawner.held]

inductive Move (C : Config α β) (s : State α β) : State α β → Prop where
  | step {t : State α β} (h : Step C s t) : Move C s t
  | cancel : Move C s { s with cancelled := true }

/-- The starting goroutine asks the cancelled context whether to go on with the next job. -/
def PollsCancelled (s t : State α β) : Prop :=
  s.cancelled = true ∧ (∃ a jobs, s.spawner = .polling (a :: jobs)) ∧ t.spawner ≠ s.spawner

theorem ne_returned_move (h : Move C s t) (goesOn : ¬ PollsCancelled s t)
    (ne : s.spawner ≠ .returned) : t.spawner ≠ .returned := by
  cases h with
  | step h =>
    refine ne_returned_step h ne (fun done a jobs poll => ?_)
    by_contra moved
    exact goesOn ⟨done, ⟨a, jobs, poll⟩, moved⟩
  | cancel => exact ne

theorem ne_returned_of_run
    (run : ReflTransGen (fun s t => Move C s t ∧ ¬ PollsCancelled s t) (start jobs) s) :
    s.spawner ≠ .returned := by
  induction run with
  | refl => exact nofun
  | tail _ h ih => exact ne_returned_move h.1 h.2 ih

theorem sound_of_moves (run : ReflTransGen (Move C) (start jobs) s) : Sound C s := by
  induction run with
  | refl => exact sound_start C jobs
  | tail _ h ih =>
    cases h with
    | step h => exact sound_step h ih
    | cancel => exact ⟨ih.limited, ih.bounded, ih.idle, ih.drained⟩

theorem returned_of_polls (h : Move C s t) (polls : PollsCancelled s t) :
    t.spawner = .returned := by
  obtain ⟨done, ⟨a, jobs, poll⟩, moved⟩ := polls
  cases h with
  | cancel => exact absurd rfl moved
  | step h =>
    cases h with
    | quit => rfl
    | take _ live | skip _ live =>
      rw [done] at live
      cases live
    | start job =>
      rw [poll] at job
      cases job
    | close waiting =>
      rw [poll] at waiting
      cases waiting
    | fetch | abort | send | exit | receive | finish => exact absurd rfl moved

theorem returned_step (h : Step C s t) (returned : s.spawner = .returned) :
    t.spawner = .returned ∧ t.consuming = s.consuming := by
  cases h with
  | quit poll | take poll | skip poll =>
    rw [returned] at poll
    cases poll
  | start job =>
    rw [returned] at job
    cases job
  | close waiting =>
    rw [returned] at waiting
    cases waiting
  | finish _ _ closed =>
    rw [returned] at closed
    cases closed
  | fetch | abort | send | exit | receive => exact ⟨returned, rfl⟩

theorem exists_stuck {s : State α β} (returned : s.spawner = .returned)
    (waiting : s.consuming = true) : ∃ t, ReflTransGen (Step C) s t ∧ t.spawner = .returned ∧
      t.consuming = true ∧ t.buffer = [] ∧ ∀ u, ¬ Step C t u := by
  by_cases more : ∃ t, Step C s t
  · obtain ⟨t, h⟩ := more
    obtain ⟨returned', same⟩ := returned_step h returned
    have less := work_step h
    obtain ⟨u, run, stuck⟩ := exists_stuck returned' (same.trans waiting)
    exact ⟨u, .head h run, stuck⟩
  · refine ⟨s, .refl, returned, waiting, ?_, not_exists.mp more⟩
    cases buffer : s.buffer with
    | nil => rfl
    | cons b bs => exact absurd ⟨_, .receive waiting buffer⟩ more
termination_by work s

end Runs

end FanIn
