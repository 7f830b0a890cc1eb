import Egressd.PartialRuns
import Mathlib.Data.List.Infix
import Mathlib.Logic.Relation

set_option autoImplicit false

namespace CriticalSections
open PartialRuns Relation
universe u

variable {ι β α ρ ε : Type*} {σ : Type u}

/-- Where the code of a call starts, and a step of it, which goes on or returns. -/
structure Code (σ : Type u) (β α ρ ε : Type*) where
  enter : β → α
  step : σ → α → Except ε (σ × (α ⊕ ρ))

structure Holder (ι β α : Type*) where
  thread : ι
  call : β
  position : α

structure Returned (ι β ρ : Type*) where
  thread : ι
  call : β
  result : ρ

structure State (ι : Type*) (σ : Type u) (β α ρ : Type*) where
  shared : σ
  waiting : ι → Option β
  holder : Option (Holder ι β α)
  returned : List (Returned ι β ρ)

def start (s : σ) : State ι σ β α ρ := ⟨s, fun _ => none, none, []⟩

inductive Act (ι β : Type*) where
  | lock (i : ι) (b : β)
  | acquire (i : ι)
  | advance

inductive Stop (ε : Type*) where
  | busy
  | crash (e : ε)

variable [DecidableEq ι]

def State.held (t : State ι σ β α ρ) (i : ι) : Option β :=
  t.holder.bind (fun h => if h.thread = i then some h.call else none)

def State.pending (t : State ι σ β α ρ) (i : ι) : List β := (t.held i).toList ++ (t.waiting i).toList

def step (C : Code σ β α ρ ε) (t : State ι σ β α ρ) : Act ι β → Except (Stop ε) (State ι σ β α ρ)
  | .lock i b =>
    match t.pending i with
    | [] => .ok { t with waiting := Function.update t.waiting i (some b) }
    | _ :: _ => .error .busy
  | .acquire i =>
    match t.holder, t.waiting i with
    | none, some b => .ok { t with
        waiting := Function.update t.waiting i none
        holder := some ⟨i, b, C.enter b⟩ }
    | _, _ => .error .busy
  | .advance =>
    match t.holder with
    | none => .error .busy
    | some h =>
      match C.step t.shared h.position with
      | .error e => .error (.crash e)
      | .ok (s, .inl a) => .ok { t with shared := s, holder := some { h with position := a } }
      | .ok (s, .inr r) => .ok { t with
          shared := s
          holder := none
          returned := t.returned ++ [⟨h.thread, h.call, r⟩] }

inductive Effect (C : Code σ β α ρ ε) (t : State ι σ β α ρ) : Act ι β → State ι σ β α ρ → Prop where
  | lock {i : ι} {b : β} (idle : t.pending i = []) :
      Effect C t (.lock i b) { t with waiting := Function.update t.waiting i (some b) }
  | acquire {i : ι} {b : β} (free : t.holder = none) (waits : t.waiting i = some b) :
      Effect C t (.acquire i) { t with
        waiting := Function.update t.waiting i none
        holder := some ⟨i, b, C.enter b⟩ }
  | goesOn {h : Holder ι β α} {s : σ} {a : α} (holds : t.holder = some h)
      (next : C.step t.shared h.position = .ok (s, .inl a)) :
      Effect C t .advance { t with shared := s, holder := some { h with position := a } }
  | returns {h : Holder ι β α} {s : σ} {r : ρ} (holds : t.holder = some h)
      (next : C.step t.shared h.position = .ok (s, .inr r)) :
      Effect C t .advance { t with
        shared := s
        holder := none
        returned := t.returned ++ [⟨h.thread, h.call, r⟩] }

theorem effect_iff {C : Code σ β α ρ ε} {t u : State ι σ β α ρ} {act : Act ι β} :
    step C t act = .ok u ↔ Effect C t act u := by
  constructor
  · intro h
    unfold step at h
    split at h
    · split at h
      · cases h
        exact .lock ‹_›
      · cases h
    · split at h
      · cases h
        exact .acquire ‹_› ‹_›
      · cases h
    · split at h
      · cases h
      · split at h
        · cases h
        · cases h
          exact .goesOn ‹_› ‹_›
        · cases h
          exact .returns ‹_› ‹_›
  · intro h
    cases h with
    | lock idle => simp only [step, idle]
    | acquire free waits => simp only [step, free, waits]
    | goesOn holds next => simp only [step, holds, next]
    | returns holds next => simp only [step, holds, next]

section Programs

variable {C : Code σ β α ρ ε}

def Goes (C : Code σ β α ρ ε) (x y : σ × α) : Prop := C.step x.1 x.2 = .ok (y.1, .inl y.2)

/-- The code runs from a position to its end, without other threads. -/
def Completes (C : Code σ β α ρ ε) (s : σ) (a : α) (v : σ) (r : ρ) : Prop :=
  ∃ u b, ReflTransGen (Goes C) (s, a) (u, b) ∧ C.step u b = .ok (v, .inr r)

theorem goes_rightUnique : Relator.RightUnique (Goes C) := by
  rintro x ⟨s, a⟩ ⟨u, b⟩ h h'
  have same := h.symm.trans h'
  cases same
  rfl

theorem completes_of_goes {s u v : σ} {a b : α} {r : ρ} (h : C.step s a = .ok (u, .inl b)) :
    Completes C s a v r ↔ Completes C u b v r := by
  constructor
  · rintro ⟨w, c, path, last⟩
    rcases path.cases_head with here | ⟨x, first, rest⟩
    · cases here
      rw [h] at last
      cases last
    · have same : x = (u, b) := goes_rightUnique first h
      rw [same] at rest
      exact ⟨w, c, rest, last⟩
  · rintro ⟨w, c, path, last⟩
    have first : Goes C (s, a) (u, b) := h
    exact ⟨w, c, .head first path, last⟩

theorem completes_of_returns {s u v : σ} {a : α} {r r' : ρ} (h : C.step s a = .ok (u, .inr r')) :
    Completes C s a v r ↔ v = u ∧ r = r' := by
  constructor
  · rintro ⟨w, c, path, last⟩
    rcases path.cases_head with here | ⟨x, first, _⟩
    · cases here
      rw [h] at last
      cases last
      exact ⟨rfl, rfl⟩
    · have same := h.symm.trans first
      cases same
  · rintro ⟨rfl, rfl⟩
    exact ⟨s, a, .refl, h⟩

theorem not_completes {s v : σ} {a : α} {r : ρ} {e : ε} (h : C.step s a = .error e) :
    ¬ Completes C s a v r := by
  rintro ⟨w, c, path, last⟩
  rcases path.cases_head with here | ⟨x, first, _⟩
  · cases here
    rw [h] at last
    cases last
  · have same := h.symm.trans first
    cases same

theorem completes_loop {γ : Type*} (loop : List γ → α) (body : σ → γ → Except ε σ)
    (h : ∀ s x xs, C.step s (loop (x :: xs)) = (body s x).map (fun u => (u, .inl (loop xs))))
    {s v : σ} {xs : List γ} {r : ρ} :
    Completes C s (loop xs) v r ↔ ∃ u, Runs body s xs u ∧ Completes C u (loop []) v r := by
  induction xs generalizing s with
  | nil =>
    constructor
    · exact fun completes => ⟨s, .refl s, completes⟩
    · rintro ⟨u, run, completes⟩
      cases run
      exact completes
  | cons x xs ih =>
    have first := h s x xs
    cases ran : body s x with
    | error e =>
      rw [ran] at first
      constructor
      · exact fun completes => absurd completes (not_completes first)
      · rintro ⟨u, run, _⟩
        cases run with
        | next ok _ =>
          rw [ran] at ok
          cases ok
    | ok w =>
      rw [ran] at first
      rw [completes_of_goes first, ih]
      constructor
      · rintro ⟨u, run, completes⟩
        exact ⟨u, .next ran run, completes⟩
      · rintro ⟨u, run, completes⟩
        cases run with
        | next ok tail =>
          rw [ran] at ok
          cases ok
          exact ⟨u, tail, completes⟩

theorem completes_foldl {γ : Type*} (loop : List γ → α) (body : σ → γ → σ)
    (h : ∀ s x xs, C.step s (loop (x :: xs)) = .ok (body s x, .inl (loop xs))) {s v : σ}
    {xs : List γ} {r : ρ} :
    Completes C s (loop xs) v r ↔ Completes C (xs.foldl body s) (loop []) v r := by
  induction xs generalizing s with
  | nil => rfl
  | cons x xs ih => rw [completes_of_goes (h s x xs), ih, List.foldl_cons]

theorem completes_of_path {s u v : σ} {a b : α} {r : ρ} (path : ReflTransGen (Goes C) (s, a) (u, b))
    (completes : Completes C s a v r) : Completes C u b v r := by
  obtain ⟨w, c, whole, last⟩ := completes
  rcases ReflTransGen.total_of_right_unique goes_rightUnique path whole with rest | back
  · exact ⟨w, c, rest, last⟩
  · rcases back.cases_head with here | ⟨x, first, _⟩
    · cases here
      exact ⟨_, _, .refl, last⟩
    · have same := last.symm.trans first
      cases same

end Programs

section Order

variable {C : Code σ β α ρ ε} {s : σ}

inductive Sequential (C : Code σ β α ρ ε) (s : σ) : List (Returned ι β ρ) → σ → Prop where
  | nil : Sequential C s [] s
  | concat {log : List (Returned ι β ρ)} {u v : σ} {x : Returned ι β ρ} (before : Sequential C s log u)
      (last : Completes C u (C.enter x.call) v x.result) : Sequential C s (log ++ [x]) v

/-- The state in which the last call got the mutex, after all calls that have returned. -/
structure Serial (C : Code σ β α ρ ε) (s : σ) (t : State ι σ β α ρ) (u : σ) : Prop where
  before : Sequential C s t.returned u
  idle : t.holder = none → t.shared = u
  underWay : ∀ h, t.holder = some h → ReflTransGen (Goes C) (u, C.enter h.call) (t.shared, h.position)

theorem Serial.effect {t t' : State ι σ β α ρ} {u : σ} {act : Act ι β} (h : Serial C s t u)
    (effect : Effect C t act t') : ∃ u', Serial C s t' u' := by
  cases effect with
  | lock idle => exact ⟨u, h.before, h.idle, h.underWay⟩
  | acquire free waits =>
    refine ⟨u, h.before, nofun, ?_⟩
    intro h' holds
    cases holds
    rw [← h.idle free]
  | goesOn holds next =>
    refine ⟨u, h.before, nofun, ?_⟩
    intro h' same
    cases same
    have path := h.underWay _ holds
    exact path.tail next
  | returns holds next =>
    exact ⟨_, .concat h.before ⟨_, _, h.underWay _ holds, next⟩, fun _ => rfl, nofun⟩

/-- Every interleaving has the effect of the calls in the order in which they got the mutex. -/
theorem serial_of_run {acts : List (Act ι β)} {t : State ι σ β α ρ}
    (run : Runs (step C) (start s) acts t) : ∃ u, Serial C s t u := by
  refine run.invariant (fun t => ∃ u, Serial C s t u) (fun _ => True) ?_ ?_ (fun _ _ => trivial)
  · rintro t act t' ⟨u, serial⟩ _ ok
    exact serial.effect (effect_iff.mp ok)
  · exact ⟨s, .nil, fun _ => rfl, nofun⟩

def callsOf (i : ι) (acts : List (Act ι β)) : List β :=
  acts.filterMap (fun | .lock j b => if j = i then some b else none | _ => none)

def State.returnedTo (t : State ι σ β α ρ) (i : ι) : List β :=
  t.returned.filterMap (fun x => if x.thread = i then some x.call else none)

theorem callsOf_concat (i : ι) (acts : List (Act ι β)) (act : Act ι β) :
    callsOf i (acts ++ [act]) = callsOf i acts ++ callsOf i [act] :=
  List.filterMap_append

theorem callsOf_of_run {acts : List (Act ι β)} {t : State ι σ β α ρ}
    (run : Runs (step C) (start s) acts t) (i : ι) :
    callsOf i acts = t.returnedTo i ++ t.pending i := by
  refine run.history (fun acts t => callsOf i acts = t.returnedTo i ++ t.pending i) (fun _ => True)
    ?_ rfl (fun _ _ => trivial)
  intro acts t act t' before _ ok
  rw [callsOf_concat, before]
  unfold callsOf State.returnedTo State.pending State.held
  cases effect_iff.mp ok with
  | @lock j b idle =>
    by_cases same : j = i
    · cases same
      rw [State.pending, State.held] at idle
      simp [List.append_eq_nil_iff.mp idle]
    · simp [same, Ne.symm same]
  | @acquire j b free waits =>
    by_cases same : j = i
    · cases same
      simp [free, waits]
    · simp [free, same, Ne.symm same]
  | goesOn holds next => simp [holds]
  | @returns h _ _ holds next =>
    by_cases same : h.thread = i
    · simp [holds, same]
    · simp [holds, same]

omit [DecidableEq ι] in
theorem Sequential.runs {γ ε' : Type*} {step' : σ → γ → Except ε' σ} {f : β → γ}
    (atomic : ∀ u b v r, Completes C u (C.enter b) v r → step' u (f b) = .ok v)
    {log : List (Returned ι β ρ)} {u : σ} (h : Sequential C s log u) :
    Runs step' s (log.map (fun x => f x.call)) u := by
  induction h with
  | nil => exact .refl s
  | concat _ last ih =>
    rw [List.map_append]
    exact ih.append (.next (atomic _ _ _ _ last) (.refl _))

omit [DecidableEq ι] in
theorem Sequential.result {before after : List (Returned ι β ρ)} {x : Returned ι β ρ} {u : σ}
    (h : Sequential C s (before ++ x :: after) u) :
    ∃ v w, Sequential C s before v ∧ Completes C v (C.enter x.call) w x.result := by
  induction after using List.reverseRecOn generalizing u with
  | nil =>
    generalize eq : before ++ [x] = log at h
    cases h with
    | nil => simp at eq
    | concat first last =>
      obtain ⟨rfl, same⟩ := List.append_inj' eq rfl
      cases same
      exact ⟨_, _, first, last⟩
  | append_singleton after y ih =>
    generalize eq : before ++ x :: (after ++ [y]) = log at h
    cases h with
    | nil => simp at eq
    | concat first last =>
      rw [← List.cons_append, ← List.append_assoc] at eq
      obtain ⟨rfl, _⟩ := List.append_inj' eq rfl
      exact ih first

theorem exists_release {t : State ι σ β α ρ} {h : Holder ι β α} (holds : t.holder = some h) {v : σ}
    {r : ρ} (completes : Completes C t.shared h.position v r) :
    ∃ n t', Runs (step C) t (List.replicate n .advance) t' ∧ t'.holder = none ∧ t'.shared = v := by
  obtain ⟨u, b, path, last⟩ := completes
  generalize eq : (t.shared, h.position) = x at path
  induction path using ReflTransGen.head_induction_on generalizing t h with
  | refl =>
    cases eq
    exact ⟨1, _, .next (effect_iff.mpr (.returns holds last)) (.refl _), rfl, rfl⟩
  | head first _ ih =>
    cases eq
    obtain ⟨n, t', rest, free, shared⟩ :=
      ih (t := { t with shared := _, holder := some { h with position := _ } }) rfl rfl
    exact ⟨n + 1, t', .next (effect_iff.mpr (.goesOn holds first)) rest, free, shared⟩

end Order

end CriticalSections
