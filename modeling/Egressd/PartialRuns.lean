import Mathlib.Data.List.Basic

set_option autoImplicit false

/-!
# Runs of a machine whose steps may abort

A step takes a state and an action and either aborts or yields the next state.
`Runs` is the relation of finite runs that no step aborts; it agrees with the
monadic fold of the step over the actions.
-/
namespace PartialRuns
universe u

variable {σ τ : Type u} {α ε ω : Type*}

theorem bind_ok {x : Except ε σ} {f : σ → Except ε τ} {r : τ} :
    (x >>= f) = .ok r ↔ ∃ s, x = .ok s ∧ f s = .ok r := by
  cases x with
  | error e =>
    constructor
    · intro h
      cases h
    · rintro ⟨s, h, _⟩
      cases h
  | ok s =>
    constructor
    · exact fun h => ⟨s, rfl, h⟩
    · rintro ⟨s', h, hf⟩
      cases h
      exact hf

theorem map_ok {α : Type*} {x : Except ε α} {f : α → σ} {s : σ} :
    x.map f = .ok s ↔ ∃ a, x = .ok a ∧ f a = s := by
  cases x with
  | error e =>
    constructor
    · intro h
      cases h
    · rintro ⟨a, h, _⟩
      cases h
  | ok a => simp [Except.map]

theorem mapError_ok {ε' : Type*} {x : Except ε σ} {f : ε → ε'} {s : σ} :
    x.mapError f = .ok s ↔ x = .ok s := by
  cases x with
  | error e =>
    constructor
    · intro h
      cases h
    · intro h
      cases h
  | ok u =>
    constructor
    · intro h
      cases h
      rfl
    · intro h
      cases h
      rfl

/-- Finite runs in which no step aborts. -/
inductive Runs (step : σ → α → Except ε σ) : σ → List α → σ → Prop where
  | refl (s : σ) : Runs step s [] s
  | next {s u v : σ} {a : α} {as : List α} (h : step s a = .ok u)
      (tail : Runs step u as v) : Runs step s (a :: as) v

variable {step : σ → α → Except ε σ}

theorem runs_iff_foldlM {s u : σ} {as : List α} :
    Runs step s as u ↔ as.foldlM step s = .ok u := by
  induction as generalizing s with
  | nil =>
    constructor
    · intro h
      cases h
      rfl
    · intro h
      cases h
      exact .refl _
  | cons a as ih =>
    rw [List.foldlM_cons, bind_ok]
    constructor
    · intro h
      cases h with
      | next hs tail => exact ⟨_, hs, ih.mp tail⟩
    · rintro ⟨v, hs, tail⟩
      exact .next hs (ih.mpr tail)

/-- Whether a run ends in a state with a property is found out by evaluating it. -/
theorem exists_runs {s : σ} {as : List α} {Q : σ → Prop}
    (h : ∃ u ∈ (as.foldlM step s).toOption, Q u) : ∃ u, Runs step s as u ∧ Q u := by
  obtain ⟨u, result, holds⟩ := h
  refine ⟨u, runs_iff_foldlM.mpr ?_, holds⟩
  cases run : as.foldlM step s with
  | error err =>
    rw [run] at result
    cases result
  | ok v =>
    rw [run] at result
    cases result
    rfl

theorem Runs.split {s v : σ} {as bs : List α} (h : Runs step s (as ++ bs) v) :
    ∃ u, Runs step s as u ∧ Runs step u bs v := by
  induction as generalizing s with
  | nil => exact ⟨s, .refl s, h⟩
  | cons a as ih =>
    cases h with
    | next hs tail =>
      obtain ⟨u, hu, hv⟩ := ih tail
      exact ⟨u, .next hs hu, hv⟩

theorem Runs.append {s u v : σ} {as bs : List α} (h : Runs step s as u) (h' : Runs step u bs v) :
    Runs step s (as ++ bs) v := by
  induction h with
  | refl _ => exact h'
  | next hs _ ih => exact .next hs (ih h')

theorem Runs.perm {R : α → α → Prop} (symmetric : ∀ a b, R a b → R b a)
    (swap : ∀ s a b u, R a b → Runs step s [a, b] u → Runs step s [b, a] u) {as bs : List α}
    (perm : as.Perm bs) (related : as.Pairwise R) {s u : σ} (run : Runs step s as u) :
    Runs step s bs u := by
  induction perm generalizing s with
  | nil => exact run
  | cons a _ ih =>
    cases run with
    | next hs tail => exact .next hs (ih related.of_cons tail)
  | swap a b as =>
    change Runs step s ([b, a] ++ as) u at run
    obtain ⟨v, first, rest⟩ := run.split
    have pair : R b a := (List.pairwise_cons.mp related).1 a List.mem_cons_self
    exact (swap s b a v pair first).append rest
  | trans perm _ ih ih' =>
    exact ih' ((perm.pairwise_iff (symmetric _ _)).mp related) (ih related run)

theorem Runs.invariant {s u : σ} {as : List α} (I : σ → Prop) (P : α → Prop)
    (keep : ∀ s a u, I s → P a → step s a = .ok u → I u)
    (h : Runs step s as u) (hs : I s) (ha : ∀ a ∈ as, P a) : I u := by
  induction h with
  | refl _ => exact hs
  | next step_ok _ ih =>
    have first := keep _ _ _ hs (ha _ List.mem_cons_self) step_ok
    exact ih first (fun a mem => ha a (List.mem_cons_of_mem _ mem))

theorem Runs.history {s u : σ} {as : List α} (I : List α → σ → Prop) (P : α → Prop)
    (keep : ∀ bs s a u, I bs s → P a → step s a = .ok u → I (bs ++ [a]) u)
    (h : Runs step s as u) (hs : I [] s) (ha : ∀ a ∈ as, P a) : I as u := by
  have general : ∀ bs, I bs s → I (bs ++ as) u := by
    clear hs
    induction h with
    | refl _ =>
      intro bs hb
      simpa only [List.append_nil] using hb
    | next step_ok _ ih =>
      intro bs hb
      have first := keep bs _ _ _ hb (ha _ List.mem_cons_self) step_ok
      have rest := ih (fun a mem => ha a (List.mem_cons_of_mem _ mem)) _ first
      simpa only [List.append_assoc, List.singleton_append] using rest
  exact general [] hs

theorem exists_run (I : σ → Prop) (P : α → Prop)
    (total : ∀ s a, I s → P a → ∃ u, step s a = .ok u ∧ I u)
    (as : List α) (s : σ) (hs : I s) (ha : ∀ a ∈ as, P a) : ∃ u, Runs step s as u ∧ I u := by
  induction as generalizing s with
  | nil => exact ⟨s, .refl s, hs⟩
  | cons a as ih =>
    obtain ⟨u, hu, iu⟩ := total s a hs (ha a List.mem_cons_self)
    obtain ⟨v, hv, iv⟩ := ih u iu (fun a mem => ha a (List.mem_cons_of_mem _ mem))
    exact ⟨v, .next hu hv, iv⟩

theorem exists_run_iff (Q : α → Prop) (total : ∀ s a, (∃ u, step s a = .ok u) ↔ Q a)
    (s : σ) (as : List α) : (∃ u, Runs step s as u) ↔ ∀ a ∈ as, Q a := by
  induction as generalizing s with
  | nil => simpa using ⟨s, Runs.refl s⟩
  | cons a as ih =>
    rw [List.forall_mem_cons]
    constructor
    · rintro ⟨u, run⟩
      cases run with
      | next hs tail => exact ⟨(total s a).mp ⟨_, hs⟩, (ih _).mp ⟨u, tail⟩⟩
    · rintro ⟨ha, has⟩
      obtain ⟨v, hv⟩ := (total s a).mpr ha
      obtain ⟨u, tail⟩ := (ih v).mpr has
      exact ⟨u, .next hv tail⟩

/-- What is observed along the actions, up to the first step that aborts. -/
def observe (step : σ → α → Except ε σ) (obs : σ → α → List ω) : σ → List α → List ω
  | _, [] => []
  | s, a :: as => obs s a ++
    match step s a with
    | .ok u => observe step obs u as
    | .error _ => []

theorem observe_next {obs : σ → α → List ω} {s u : σ} {a : α} (h : step s a = .ok u)
    (as : List α) : observe step obs s (a :: as) = obs s a ++ observe step obs u as := by
  rw [observe, h]

theorem observe_append {obs : σ → α → List ω} {s u : σ} {as : List α} (h : Runs step s as u)
    (bs : List α) :
    observe step obs s (as ++ bs) = observe step obs s as ++ observe step obs u bs := by
  induction h with
  | refl _ => rfl
  | next hs _ ih => rw [List.cons_append, observe_next hs, observe_next hs, ih, List.append_assoc]

/-- Every action of the sequence is admitted in the state in which it is performed. -/
def Admitted (step : σ → α → Except ε σ) (P : σ → α → Prop) (s : σ) (as : List α) : Prop :=
  ∀ bs a cs u, as = bs ++ a :: cs → Runs step s bs u → P u a

theorem Admitted.of_forall {P : σ → α → Prop} {as : List α} (h : ∀ a ∈ as, ∀ s, P s a) (s : σ) :
    Admitted step P s as := by
  rintro bs a cs u rfl _
  exact h a (List.mem_append_right bs List.mem_cons_self) u

theorem Admitted.head {P : σ → α → Prop} {s : σ} {a : α} {as : List α}
    (h : Admitted step P s (a :: as)) : P s a :=
  h [] a as s rfl (.refl s)

theorem Admitted.left {P : σ → α → Prop} {s : σ} {as bs : List α}
    (h : Admitted step P s (as ++ bs)) : Admitted step P s as := by
  intro xs a ys u eq run
  refine h xs a (ys ++ bs) u ?_ run
  rw [eq, List.append_assoc, List.cons_append]

theorem Admitted.tail {P : σ → α → Prop} {s u : σ} {a : α} {as : List α}
    (h : Admitted step P s (a :: as)) (ha : step s a = .ok u) : Admitted step P u as := by
  intro bs b cs v eq run
  exact h (a :: bs) b cs v (by rw [eq, List.cons_append]) (.next ha run)

theorem Admitted.nil {P : σ → α → Prop} (s : σ) : Admitted step P s [] :=
  fun _ _ _ _ eq _ => absurd eq.symm (List.append_ne_nil_of_right_ne_nil _ (List.cons_ne_nil _ _))

theorem Admitted.cons {P : σ → α → Prop} {s u : σ} {a : α} {as : List α} (ha : P s a)
    (step_ok : step s a = .ok u) (rest : Admitted step P u as) : Admitted step P s (a :: as) := by
  intro bs b cs v eq run
  cases run with
  | refl _ =>
    cases eq
    exact ha
  | next step_ok' run =>
    cases eq
    rw [step_ok, Except.ok.injEq] at step_ok'
    subst step_ok'
    exact rest _ b cs v rfl run

theorem admitted_of_earlier {P : σ → α → Prop} {s : σ} {as : List α}
    (h : ∀ bs a cs u, as = bs ++ a :: cs → Runs step s bs u → Admitted step P s bs → P u a) :
    Admitted step P s as := by
  have main : ∀ n bs a cs u, bs.length = n → as = bs ++ a :: cs → Runs step s bs u → P u a := by
    intro n
    induction n using Nat.strongRecOn with
    | ind n ih =>
      intro bs a cs u len eq run
      refine h bs a cs u eq run ?_
      rintro ds b es v rfl before
      simp only [List.length_append, List.length_cons] at len
      exact ih ds.length (by omega) ds b _ v rfl
        (by rw [eq, List.append_assoc, List.cons_append]) before
  exact fun bs a cs u eq run => main _ bs a cs u rfl eq run

theorem Runs.observed {s u : σ} {as : List α} (obs : σ → α → List ω) (I : List ω → σ → Prop)
    (P : σ → α → Prop) (keep : ∀ ws s a u, I ws s → P s a → step s a = .ok u → I (ws ++ obs s a) u)
    (h : Runs step s as u) (ha : Admitted step P s as) (ws : List ω) (hs : I ws s) :
    I (ws ++ observe step obs s as) u := by
  induction h generalizing ws with
  | refl _ => simpa only [observe, List.append_nil] using hs
  | next step_ok _ ih =>
    have first := keep ws _ _ _ hs ha.head step_ok
    have rest := ih (ha.tail step_ok) _ first
    simpa only [observe_next step_ok, List.append_assoc] using rest

theorem Runs.simulated {σ' : Type u} {step' : σ' → α → Except ε σ'} {s u : σ} {s' u' : σ'}
    {as : List α} (obs : σ → α → List ω) (R : List ω → σ → σ' → Prop) (P : α → Prop)
    (keep : ∀ ws s s' a u u', R ws s s' → P a → step s a = .ok u → step' s' a = .ok u' →
      R (ws ++ obs s a) u u')
    (h : Runs step s as u) (h' : Runs step' s' as u') (ha : ∀ a ∈ as, P a) (ws : List ω)
    (hs : R ws s s') : R (ws ++ observe step obs s as) u u' := by
  induction h generalizing ws s' with
  | refl _ =>
    cases h'
    simpa only [observe, List.append_nil] using hs
  | next step_ok _ ih =>
    cases h' with
    | next step_ok' tail' =>
      have first := keep ws _ _ _ _ _ hs (ha _ List.mem_cons_self) step_ok step_ok'
      have rest := ih tail' (fun a mem => ha a (List.mem_cons_of_mem _ mem)) _ first
      simpa only [observe_next step_ok, List.append_assoc] using rest

theorem runs_map_iff {σ' : Type u} {step' : σ' → α → Except ε σ'} (f : σ → σ')
    (same : ∀ s a u', step' (f s) a = .ok u' ↔ ∃ u, step s a = .ok u ∧ f u = u') {s : σ}
    {as : List α} {u' : σ'} : Runs step' (f s) as u' ↔ ∃ u, Runs step s as u ∧ f u = u' := by
  induction as generalizing s with
  | nil =>
    constructor
    · intro h
      cases h
      exact ⟨s, .refl s, rfl⟩
    · rintro ⟨u, h, rfl⟩
      cases h
      exact .refl _
  | cons a as ih =>
    constructor
    · intro h
      cases h with
      | next hs tail =>
        obtain ⟨v, hv, rfl⟩ := (same s a _).mp hs
        obtain ⟨u, run, eq⟩ := ih.mp tail
        exact ⟨u, .next hv run, eq⟩
    · rintro ⟨u, h, rfl⟩
      cases h with
      | next hs tail => exact .next ((same s a _).mpr ⟨_, hs, rfl⟩) (ih.mpr ⟨u, tail, rfl⟩)

theorem Runs.observe_map {β : Type*} {obs : σ → α → List ω} {f : ω → β} {h : α → List β}
    {s u : σ} {as : List α}
    (image : ∀ s a u, step s a = .ok u → (obs s a).map f = h a) (run : Runs step s as u) :
    (observe step obs s as).map f = as.flatMap h := by
  induction run with
  | refl _ => rfl
  | next hs _ ih => rw [observe_next hs, List.map_append, List.flatMap_cons, image _ _ _ hs, ih]

end PartialRuns
