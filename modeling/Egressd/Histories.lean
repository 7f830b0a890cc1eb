import Mathlib.Data.List.Induction

set_option autoImplicit false

namespace Histories

variable {α β σ : Type*}

theorem foldl_history {step : σ → α → σ} {s : σ} (I : List α → σ → Prop) (start : I [] s)
    (keep : ∀ as u a, I as u → I (as ++ [a]) (step u a)) (as : List α) :
    I as (as.foldl step s) := by
  induction as using List.reverseRecOn with
  | nil => exact start
  | append_singleton as a ih =>
    rw [List.foldl_append]
    exact keep as _ a ih

/-- A property that each action keeps exactly if it meets a condition holds of all initial
    parts of a history exactly if all its actions meet the condition. -/
theorem always_iff {I : List α → Prop} {G : List α → α → Prop} (start : I [])
    (step : ∀ as a, I as → (I (as ++ [a]) ↔ G as a)) (as : List α) :
    (∀ bs cs, as = bs ++ cs → I bs) ↔ ∀ bs a cs, as = bs ++ a :: cs → G bs a := by
  constructor
  · intro always bs a cs eq
    have before := always bs (a :: cs) eq
    refine (step bs a before).mp (always (bs ++ [a]) cs ?_)
    rw [eq, List.append_assoc, List.singleton_append]
  · intro each bs
    induction bs using List.reverseRecOn with
    | nil => exact fun _ _ => start
    | append_singleton bs a ih =>
      intro cs eq
      rw [List.append_assoc, List.singleton_append] at eq
      exact (step bs a (ih (a :: cs) eq)).mpr (each bs a cs eq)

/-- The last element of a list with a given key. -/
def latest [DecidableEq β] (key : α → β) (as : List α) (k : β) : Option α :=
  (as.filter (fun a => key a = k)).getLast?

theorem latest_concat [DecidableEq β] (key : α → β) (as : List α) (a : α) (k : β) :
    latest key (as ++ [a]) k = if key a = k then some a else latest key as k := by
  unfold latest
  rw [List.filter_append]
  by_cases h : key a = k
  · simp [h]
  · simp [h]

theorem key_of_latest [DecidableEq β] (key : α → β) {as : List α} {k : β} {a : α}
    (h : latest key as k = some a) : key a = k := by
  have mem := List.mem_of_getLast? h
  simpa using (List.mem_filter.mp mem).2

theorem latest_filter_concat [DecidableEq β] (key : α → β) (p : α → Bool) (as : List α) (a : α)
    (k : β) : latest key ((as ++ [a]).filter p) k =
      if p a = true ∧ key a = k then some a else latest key (as.filter p) k := by
  rw [List.filter_append]
  cases ha : p a with
  | true =>
    rw [List.filter_cons_of_pos ha, List.filter_nil, latest_concat]
    simp only [true_and]
  | false =>
    rw [List.filter_cons_of_neg (by simp [ha]), List.filter_nil, List.append_nil,
      if_neg (fun both => Bool.false_ne_true both.1)]

theorem latest_filter [DecidableEq β] {key : α → β} {p : α → Bool} {as : List α} {k : β} {a : α}
    (h : latest key as k = some a) (ha : p a = true) : latest key (as.filter p) k = some a := by
  induction as using List.reverseRecOn with
  | nil => cases h
  | append_singleton as b ih =>
    rw [latest_concat] at h
    by_cases same : key b = k
    · rw [if_pos same, Option.some.injEq] at h
      subst h
      rw [latest_filter_concat, if_pos ⟨ha, same⟩]
    · rw [if_neg same] at h
      rw [latest_filter_concat, if_neg (fun both => same both.2)]
      exact ih h

theorem mem_of_latest [DecidableEq β] {key : α → β} {as : List α} {k : β} {a : α}
    (h : latest key as k = some a) : a ∈ as :=
  (List.mem_filter.mp (List.mem_of_getLast? h)).1

theorem exists_latest [DecidableEq β] (key : α → β) {as : List α} {a : α} (mem : a ∈ as) :
    ∃ b, latest key as (key a) = some b := by
  have here : a ∈ as.filter (fun b => key b = key a) := List.mem_filter.mpr ⟨mem, by simp⟩
  exact ⟨_, List.getLast?_eq_some_getLast (List.ne_nil_of_mem here)⟩

def outputs (step : σ → α → β × σ) : σ → List α → List β
  | _, [] => []
  | s, a :: as => (step s a).1 :: outputs step (step s a).2 as

theorem outputs_cons (step : σ → α → β × σ) (s : σ) (a : α) (as : List α) :
    outputs step s (a :: as) = (step s a).1 :: outputs step (step s a).2 as := rfl

theorem exists_of_mem_zip_outputs {step : σ → α → β × σ} {s : σ} {as : List α} {a : α} {b : β}
    (mem : (a, b) ∈ as.zip (outputs step s as)) : ∃ u, (step u a).1 = b := by
  induction as generalizing s with
  | nil => cases mem
  | cons a' as ih =>
    rw [outputs_cons, List.zip_cons_cons, List.mem_cons] at mem
    rcases mem with here | rest
    · cases here
      exact ⟨s, rfl⟩
    · exact ih rest

theorem outputs_eq_map {step : σ → α → β × σ} {f : α → β} (I : σ → Prop)
    (answer : ∀ s a, I s → (step s a).1 = f a ∧ I (step s a).2) {s : σ} (start : I s)
    (as : List α) : outputs step s as = as.map f := by
  induction as generalizing s with
  | nil => rfl
  | cons a as ih =>
    obtain ⟨same, keep⟩ := answer s a start
    rw [outputs_cons, List.map_cons, same, ih keep]

end Histories
