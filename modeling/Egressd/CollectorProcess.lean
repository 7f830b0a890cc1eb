import Egressd.GoRuntime
import Egressd.PartialRuns

set_option autoImplicit false

/-!
# The process of a collector

`run` starts three components, each in a goroutine that sends its error to the
unbuffered channel `errc` and then closes `errc`. `run` itself receives once and
returns. A further goroutine waits for a signal, shuts the server down and then
cancels the context.
-/
namespace Egressd.CollectorProcess
open PartialRuns

inductive Component where
  | ip2dns
  | collector
  | server
  deriving DecidableEq, Repr

def Component.starting : Component → Error
  | .ip2dns => "starting ip2dns: "
  | .collector => "starting collector: "
  | .server => "starting http server: "

inductive Worker where
  | running
  | sending (err : Error)
  | closing
  | done
  deriving DecidableEq, Repr

inductive Main where
  | waiting
  | returned (err : Option Error)
  deriving DecidableEq, Repr

structure Process where
  shutdown : Bool
  cancelled : Bool
  workers : Component → Worker
  closed : Bool
  main : Main

def Process.start : Process := ⟨false, false, fun _ => .running, false, .waiting⟩

/-- The error of a component is a failure unless it says that the context was cancelled or the
    server closed. -/
inductive Step where
  | signal
  | cancel
  | ends (c : Component) (failure : Option Error)
  | send (c : Component)
  | close (c : Component)
  | receiveClosed

inductive Stop where
  | notReady
  | sendOnClosedChannel
  | closeOfClosedChannel
  deriving DecidableEq, Repr

/-- Whether a component can end without a failure. -/
def Process.mayEnd (s : Process) : Component → Bool
  | .server => s.shutdown
  | _ => s.cancelled

def Process.set (s : Process) (c : Component) (w : Worker) : Process :=
  { s with workers := Function.update s.workers c w }

def Process.step (s : Process) : Step → Except Stop Process
  | .signal => if s.shutdown then .error .notReady else return { s with shutdown := true }
  | .cancel =>
    -- after `Shutdown`, or deferred by `run`
    if s.shutdown || s.main ≠ .waiting then return { s with cancelled := true }
    else .error .notReady
  | .ends c failure =>
    if s.workers c = .running then
      match failure with
      | some err => return s.set c (.sending (c.starting ++ err))
      | none => if s.mayEnd c then return s.set c .closing else .error .notReady
    else .error .notReady
  | .send c =>
    match s.workers c with
    | .sending err =>
      if s.closed then .error .sendOnClosedChannel
      else if s.main = .waiting then return { s.set c .closing with main := .returned (some err) }
      else .error .notReady
    | _ => .error .notReady
  | .close c =>
    if s.workers c = .closing then
      if s.closed then .error .closeOfClosedChannel
      else return { s.set c .done with closed := true }
    else .error .notReady
  | .receiveClosed =>
    if s.main = .waiting && s.closed then return { s with main := .returned none }
    else .error .notReady

def HasEnded (steps : List Step) (c : Component) : Prop := ∃ failure, .ends c failure ∈ steps

section Steps

variable {s s' : Process}

inductive Effect (s : Process) : Step → Process → Prop where
  | signal : Effect s .signal { s with shutdown := true }
  | cancel (why : s.shutdown = true ∨ s.main ≠ .waiting) :
      Effect s .cancel { s with cancelled := true }
  | fails {c : Component} {err : Error} (running : s.workers c = .running) :
      Effect s (.ends c (some err)) (s.set c (.sending (c.starting ++ err)))
  | stops {c : Component} (running : s.workers c = .running) (may : s.mayEnd c = true) :
      Effect s (.ends c none) (s.set c .closing)
  | send {c : Component} {err : Error} (sending : s.workers c = .sending err)
      (waiting : s.main = .waiting) :
      Effect s (.send c) { s.set c .closing with main := .returned (some err) }
  | close {c : Component} (closing : s.workers c = .closing) (first : s.closed = false) :
      Effect s (.close c) { s.set c .done with closed := true }
  | receiveClosed (waiting : s.main = .waiting) (closed : s.closed = true) :
      Effect s .receiveClosed { s with main := .returned none }

theorem effect_of_step {step : Step} (h : s.step step = .ok s') : Effect s step s' := by
  cases step with
  | signal =>
    simp only [Process.step] at h
    split at h
    · cases h
    · cases h
      exact .signal
  | cancel =>
    simp only [Process.step] at h
    split at h
    · cases h
      rename_i why
      exact .cancel (by simpa using why)
    · cases h
  | ends c failure =>
    simp only [Process.step] at h
    split at h
    · rename_i running
      cases failure with
      | some err =>
        cases h
        exact .fails running
      | none =>
        simp only at h
        split at h
        · cases h
          exact .stops running ‹_›
        · cases h
    · cases h
  | send c =>
    simp only [Process.step] at h
    split at h
    · split at h
      · cases h
      · split at h
        · cases h
          exact .send ‹_› ‹_›
        · cases h
    · cases h
  | close c =>
    simp only [Process.step] at h
    split at h
    · split at h
      · cases h
      · cases h
        exact .close ‹_› (Bool.eq_false_iff.mpr ‹_›)
    · cases h
  | receiveClosed =>
    simp only [Process.step] at h
    split at h
    · rename_i both
      cases h
      simp only [Bool.and_eq_true, decide_eq_true_eq] at both
      exact .receiveClosed both.1 both.2
    · cases h

end Steps

/-- What a state says about the steps before it. -/
structure Accounted (steps : List Step) (s : Process) : Prop where
  shutdown : s.shutdown = true → .signal ∈ steps
  cancelled : s.main = .waiting → s.cancelled = true → s.shutdown = true
  ended : ∀ c, s.workers c ≠ .running → HasEnded steps c
  sending : ∀ c err, s.workers c = .sending err →
    ∃ failure, .ends c (some failure) ∈ steps ∧ err = c.starting ++ failure
  closing : s.main = .waiting → ∀ c, s.workers c = .closing → s.shutdown = true
  closed : s.main = .waiting → s.closed = true → s.shutdown = true
  closer : s.closed = true ↔ ∃ c, s.workers c = .done
  failed : ∀ err, s.main = .returned (some err) →
    ∃ c failure, .ends c (some failure) ∈ steps ∧ err = c.starting ++ failure
  stopped : s.main = .returned none → .signal ∈ steps

theorem accounted_start : Accounted [] .start where
  shutdown := nofun
  cancelled _ := nofun
  ended c h := absurd rfl h
  sending c err := nofun
  closing _ c := nofun
  closed _ := nofun
  closer := ⟨nofun, fun ⟨c, done⟩ => by cases done⟩
  failed err := nofun
  stopped := nofun

section Runs

variable {steps : List Step} {s s' : Process}

theorem HasEnded.concat {c : Component} (h : HasEnded steps c) (step : Step) :
    HasEnded (steps ++ [step]) c := by
  obtain ⟨failure, mem⟩ := h
  exact ⟨failure, List.mem_append_left _ mem⟩

theorem hasEnded_last (c : Component) (failure : Option Error) :
    HasEnded (steps ++ [.ends c failure]) c :=
  ⟨failure, List.mem_append_right _ List.mem_cons_self⟩

theorem Accounted.concat (h : Accounted steps s) (step : Step) : Accounted (steps ++ [step]) s where
  shutdown on := List.mem_append_left _ (h.shutdown on)
  cancelled := h.cancelled
  ended c gone := (h.ended c gone).concat step
  sending c err at' := by
    obtain ⟨failure, mem, eq⟩ := h.sending c err at'
    exact ⟨failure, List.mem_append_left _ mem, eq⟩
  closing := h.closing
  closed := h.closed
  closer := h.closer
  failed err at' := by
    obtain ⟨c, failure, mem, eq⟩ := h.failed err at'
    exact ⟨c, failure, List.mem_append_left _ mem, eq⟩
  stopped at' := List.mem_append_left _ (h.stopped at')

theorem Accounted.mayEnd (h : Accounted steps s) (waiting : s.main = .waiting) {c : Component}
    (may : s.mayEnd c = true) : s.shutdown = true := by
  cases c with
  | server => exact may
  | ip2dns => exact h.cancelled waiting may
  | collector => exact h.cancelled waiting may

theorem workers_set (s : Process) (c : Component) (w : Worker) (d : Component) :
    (s.set c w).workers d = if d = c then w else s.workers d :=
  Function.update_apply s.workers c w d

theorem exists_done_set {c : Component} {w : Worker} (before : s.workers c ≠ .done)
    (after : w ≠ .done) :
    (∃ d, (s.set c w).workers d = .done) ↔ ∃ d, s.workers d = .done := by
  simp only [workers_set]
  constructor
  · rintro ⟨d, done⟩
    split at done
    · exact absurd done after
    · exact ⟨d, done⟩
  · rintro ⟨d, done⟩
    have other : d ≠ c := by
      intro same
      rw [same] at done
      exact before done
    exact ⟨d, by rw [if_neg other, done]⟩

theorem Accounted.set (h : Accounted steps s) {c : Component} {w : Worker}
    (ended : HasEnded steps c)
    (sending : ∀ err, w = .sending err →
      ∃ failure, .ends c (some failure) ∈ steps ∧ err = c.starting ++ failure)
    (closing : s.main = .waiting → w = .closing → s.shutdown = true)
    (before : s.workers c ≠ .done) (after : w ≠ .done) : Accounted steps (s.set c w) where
  shutdown := h.shutdown
  cancelled := h.cancelled
  ended d gone := by
    rw [workers_set] at gone
    split at gone
    · rename_i same
      rw [same]
      exact ended
    · exact h.ended d gone
  sending d err at' := by
    rw [workers_set] at at'
    split at at'
    · rename_i same
      rw [same]
      exact sending err at'
    · exact h.sending d err at'
  closing waiting d at' := by
    rw [workers_set] at at'
    split at at'
    · exact closing waiting at'
    · exact h.closing waiting d at'
  closed := h.closed
  closer := h.closer.trans (exists_done_set before after).symm
  failed := h.failed
  stopped := h.stopped

theorem Accounted.returned (h : Accounted steps s) {err : Option Error}
    (failed : ∀ e, err = some e →
      ∃ c failure, .ends c (some failure) ∈ steps ∧ e = c.starting ++ failure)
    (stopped : err = none → .signal ∈ steps) :
    Accounted steps { s with main := .returned err } where
  shutdown := h.shutdown
  cancelled := nofun
  ended := h.ended
  sending := h.sending
  closing := nofun
  closed := nofun
  closer := h.closer
  failed e at' := failed e (Main.returned.inj at')
  stopped at' := stopped (Main.returned.inj at')

theorem Accounted.close (h : Accounted steps s) {c : Component} (closing : s.workers c = .closing) :
    Accounted steps { s.set c .done with closed := true } where
  shutdown := h.shutdown
  cancelled := h.cancelled
  ended d gone := by
    by_cases same : d = c
    · rw [same]
      exact h.ended c (by rw [closing]; nofun)
    · exact h.ended d (by rwa [workers_set, if_neg same] at gone)
  sending d err at' := by
    change (s.set c .done).workers d = _ at at'
    rw [workers_set] at at'
    split at at'
    · cases at'
    · exact h.sending d err at'
  closing waiting d at' := by
    change (s.set c .done).workers d = _ at at'
    rw [workers_set] at at'
    split at at'
    · cases at'
    · exact h.closing waiting d at'
  closed waiting _ := h.closing waiting c closing
  closer := iff_of_true rfl ⟨c, (workers_set s c .done c).trans (if_pos rfl)⟩
  failed := h.failed
  stopped := h.stopped

theorem Accounted.step {step : Step} (h : Accounted steps s) (effect : Effect s step s') :
    Accounted (steps ++ [step]) s' := by
  have later := h.concat step
  cases effect with
  | signal =>
    exact { later with
      shutdown := fun _ => List.mem_append_right _ List.mem_cons_self
      cancelled := fun _ _ => rfl
      closing := fun _ _ _ => rfl
      closed := fun _ _ => rfl }
  | cancel why =>
    exact { later with
      cancelled := fun waiting _ => why.resolve_right (not_not.mpr waiting) }
  | @fails c err running =>
    refine later.set (hasEnded_last c _) ?_ nofun (by rw [running]; nofun) nofun
    intro e eq
    cases eq
    exact ⟨err, List.mem_append_right _ List.mem_cons_self, rfl⟩
  | @stops c running may =>
    refine later.set (hasEnded_last c _) nofun ?_ (by rw [running]; nofun) nofun
    exact fun waiting _ => h.mayEnd waiting may
  | @send c err sending waiting =>
    have result := later.sending c err sending
    have main : Accounted (steps ++ [.send c]) { s with main := .returned (some err) } := by
      refine later.returned ?_ nofun
      intro e eq
      cases eq
      obtain ⟨failure, mem, text⟩ := result
      exact ⟨c, failure, mem, text⟩
    exact main.set (later.ended c (by rw [sending]; nofun)) nofun nofun
      (by rw [show ({ s with main := .returned (some err) } : Process).workers c = _ from sending]
          nofun) nofun
  | close closing _ => exact later.close closing
  | receiveClosed waiting closed =>
    exact later.returned nofun (fun _ => later.shutdown (h.closed waiting closed))

end Runs

section Outcome

variable {steps : List Step} {s : Process}

theorem crash_cases {step : Step} {stop : Stop} (crash : s.step step = .error stop)
    (panics : stop ≠ .notReady) : s.closed = true ∧
      ∃ c, s.workers c ≠ .running ∧ s.workers c ≠ .done := by
  cases step with
  | signal =>
    simp only [Process.step] at crash
    split at crash
    · cases crash
      exact absurd rfl panics
    · cases crash
  | cancel =>
    simp only [Process.step] at crash
    split at crash
    · cases crash
    · cases crash
      exact absurd rfl panics
  | ends c failure =>
    simp only [Process.step] at crash
    split at crash
    · cases failure with
      | some err => cases crash
      | none =>
        simp only at crash
        split at crash
        · cases crash
        · cases crash
          exact absurd rfl panics
    · cases crash
      exact absurd rfl panics
  | send c =>
    simp only [Process.step] at crash
    split at crash
    · rename_i sending
      split at crash
      · exact ⟨‹_›, c, by rw [sending]; nofun, by rw [sending]; nofun⟩
      · split at crash
        · cases crash
        · cases crash
          exact absurd rfl panics
    · cases crash
      exact absurd rfl panics
  | close c =>
    simp only [Process.step] at crash
    split at crash
    · rename_i closing
      split at crash
      · exact ⟨‹_›, c, by rw [closing]; nofun, by rw [closing]; nofun⟩
      · cases crash
    · cases crash
      exact absurd rfl panics
  | receiveClosed =>
    simp only [Process.step] at crash
    split at crash
    · cases crash
    · cases crash
      exact absurd rfl panics

theorem receives_closed (waiting : s.main = .waiting) (closed : s.closed = true) :
    ∃ s', s.step .receiveClosed = .ok s' ∧ s'.main ≠ .waiting := by
  refine ⟨{ s with main := .returned none }, ?_, nofun⟩
  simp only [Process.step]
  rw [waiting, closed]
  rfl

theorem Accounted.returns (h : Accounted steps s) (waiting : s.main = .waiting) {c : Component}
    (gone : s.workers c ≠ .running) :
    ∃ more s', PartialRuns.Runs Process.step s more s' ∧ s'.main ≠ .waiting := by
  cases closed : s.closed with
  | true =>
    obtain ⟨s', step, returned⟩ := receives_closed waiting closed
    exact ⟨[.receiveClosed], s', .next step (.refl _), returned⟩
  | false =>
    cases at' : s.workers c with
    | running => exact absurd at' gone
    | sending err =>
      refine ⟨[.send c], { s.set c .closing with main := .returned (some err) }, .next ?_ (.refl _),
        nofun⟩
      simp only [Process.step, at', closed, waiting, if_true]
      rfl
    | closing =>
      have closes : s.step (.close c) = .ok { s.set c .done with closed := true } := by
        simp only [Process.step, at', closed, if_true]
        rfl
      obtain ⟨s', step, returned⟩ :=
        receives_closed (s := { s.set c .done with closed := true }) waiting rfl
      exact ⟨[.close c, .receiveClosed], s', .next closes (.next step (.refl _)), returned⟩
    | done =>
      have isClosed := h.closer.mpr ⟨c, at'⟩
      rw [closed] at isClosed
      cases isClosed

end Outcome

/-- In every order of the steps of the goroutines, an error that `run` returns is that of a
    component that failed, and it returns none only after a signal. A panic needs two
    components that have ended, and once one has ended `run` is never left waiting. -/
theorem collector_process_outcome {steps : List Step} {s : Process}
    (run : Runs Process.step .start steps s) :
    (∀ err, s.main = .returned (some err) →
      ∃ c failure, .ends c (some failure) ∈ steps ∧ err = c.starting ++ failure) ∧
    (s.main = .returned none → .signal ∈ steps) ∧
    (∀ step stop, s.step step = .error stop → stop ≠ .notReady →
      ∃ c d, c ≠ d ∧ HasEnded steps c ∧ HasEnded steps d) ∧
    (s.main = .waiting → (∃ c, s.workers c ≠ .running) →
      ∃ more s', Runs Process.step s more s' ∧ s'.main ≠ .waiting) := by
  have accounted := run.history Accounted (fun _ => True)
    (fun _ _ _ _ h _ step => h.step (effect_of_step step)) accounted_start (fun _ _ => trivial)
  refine ⟨accounted.failed, accounted.stopped, ?_, ?_⟩
  · intro step stop crash panics
    obtain ⟨closed, c, gone, notDone⟩ := crash_cases crash panics
    obtain ⟨d, done⟩ := accounted.closer.mp closed
    refine ⟨c, d, ?_, accounted.ended c gone, accounted.ended d (by rw [done]; nofun)⟩
    intro same
    rw [same] at notDone
    exact notDone done
  · rintro waiting ⟨c, gone⟩
    exact accounted.returns waiting gone

def stopped : List Step := [.signal, .ends .server none, .close .server, .cancel]

theorem collector_process_outcome_stopped : ∃ s, Runs Process.step .start stopped s ∧
    s.main = .waiting ∧ ∃ more s', Runs Process.step s more s' ∧ s'.main ≠ .waiting := by
  have run : Runs Process.step .start stopped _ :=
    .next rfl (.next rfl (.next rfl (.next rfl (.refl _))))
  exact ⟨_, run, rfl, (collector_process_outcome run).2.2.2 rfl ⟨.server, nofun⟩⟩

-- the other components then find the channel closed, unless `run` has returned and the process
-- has ended before they get there
example : (stopped ++ [Step.ends .collector none, Step.close .collector]).foldlM Process.step .start =
    .error .closeOfClosedChannel := rfl

end Egressd.CollectorProcess
