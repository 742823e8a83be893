import Mathlib.Data.List.Basic

/-!
# MoqQuic.Lib.Machine

Runs of state machines, over arbitrary states and inputs.

A *machine* is a step function `σ → α → σ`; a run feeds it a list of inputs.
`states` lists every state the run goes through and `EachStep` says that a
condition on the state before a step and on its input holds at every step.
The rules below reduce a statement about whole runs to one about one step:

* `states_invariant` — an invariant of the step holds in every state;
* `states_of_eachStep` — the same for a property that only the steps under a
  condition keep, along the runs that meet it;
* `forall_states_iff_run` — a property that is never regained holds all along
  exactly when it holds at the end;
* `forall_states_iff` — when one step keeps a property exactly under a
  condition, a run keeps it exactly when each of its steps meets the condition.

`Reaches` is the same for a step that may fail: the states that are reached by steps that meet a
condition and do not fail. `foldlM_filter` compares a run with the run without some of its steps.
-/

namespace Machine

variable {σ : Type*} {α : Type*}

/-! ## runs of a total machine -/

/-- The state a run ends in. -/
def run (step : σ → α → σ) (s : σ) (as : List α) : σ := as.foldl step s

/-- Every state a run goes through, the first and the last included. -/
def states (step : σ → α → σ) : σ → List α → List σ
  | s, [] => [s]
  | s, a :: as => s :: states step (step s a) as

/-- Each step of a run meets `G` in the state it is taken from. -/
def EachStep (step : σ → α → σ) (G : σ → α → Prop) : σ → List α → Prop
  | _, [] => True
  | s, a :: as => G s a ∧ EachStep step G (step s a) as

instance decidableEachStep (step : σ → α → σ) (G : σ → α → Prop) [∀ s a, Decidable (G s a)] :
    ∀ (s : σ) (as : List α), Decidable (EachStep step G s as)
  | _, [] => isTrue trivial
  | s, a :: as =>
    have := decidableEachStep step G (step s a) as
    inferInstanceAs (Decidable (G s a ∧ EachStep step G (step s a) as))

variable {step : σ → α → σ}

@[simp] theorem run_nil (s : σ) : run step s [] = s := rfl

@[simp] theorem run_cons (s : σ) (a : α) (as : List α) :
    run step s (a :: as) = run step (step s a) as := rfl

@[simp] theorem states_nil (s : σ) : states step s [] = [s] := rfl

@[simp] theorem states_cons (s : σ) (a : α) (as : List α) :
    states step s (a :: as) = s :: states step (step s a) as := rfl

theorem mem_states_self (s : σ) (as : List α) : s ∈ states step s as := by
  cases as <;> simp

theorem run_mem_states (s : σ) (as : List α) : run step s as ∈ states step s as := by
  induction as generalizing s with
  | nil => simp
  | cons a as ih =>
    rw [run_cons, states_cons]
    exact List.mem_cons_of_mem _ (ih _)

theorem EachStep.and {G G' : σ → α → Prop} :
    ∀ {s : σ} {as : List α}, EachStep step G s as → EachStep step G' s as →
      EachStep step (fun s a => G s a ∧ G' s a) s as
  | _, [], _, _ => trivial
  | _, _ :: _, hG, hG' => ⟨⟨hG.1, hG'.1⟩, hG.2.and hG'.2⟩

variable {I : σ → Prop}

/-- Conditions that agree along an invariant are met by the same runs. -/
theorem eachStep_congr {G G' : σ → α → Prop} (hstep : ∀ s a, I s → I (step s a))
    (h : ∀ s a, I s → (G s a ↔ G' s a)) :
    ∀ (as : List α) (s : σ), I s → (EachStep step G s as ↔ EachStep step G' s as)
  | [], _, _ => Iff.rfl
  | a :: as, s, hs => and_congr (h s a hs) (eachStep_congr hstep h as _ (hstep s a hs))

/-- **Invariant rule**: what holds at the start and is kept by every step
holds in every state of every run. -/
theorem states_invariant (hstep : ∀ s a, I s → I (step s a)) :
    ∀ (as : List α) (s : σ), I s → ∀ t ∈ states step s as, I t
  | [], s, hs, t, ht => by
    rw [states_nil, List.mem_singleton] at ht
    exact ht ▸ hs
  | a :: as, s, hs, t, ht => by
    rw [states_cons, List.mem_cons] at ht
    cases ht with
    | inl he => exact he ▸ hs
    | inr hr => exact states_invariant hstep as _ (hstep s a hs) t hr

/-- **Conditional invariant rule**: what holds at the start and is kept by every
step that meets `G` holds in every state of a run whose steps meet `G`. -/
theorem states_of_eachStep {G : σ → α → Prop} :
    ∀ (as : List α) (s : σ), (∀ s, ∀ a ∈ as, I s → G s a → I (step s a)) → EachStep step G s as →
      I s → ∀ t ∈ states step s as, I t
  | [], s, _, _, hs, t, ht => by
    rw [states_nil, List.mem_singleton] at ht
    exact ht ▸ hs
  | a :: as, s, hstep, hG, hs, t, ht => by
    obtain ⟨hGa, hGas⟩ := hG
    have hnext : I (step s a) := hstep s a List.mem_cons_self hs hGa
    rw [states_cons, List.mem_cons] at ht
    cases ht with
    | inl he => exact he ▸ hs
    | inr hr =>
      exact states_of_eachStep as _ (fun s a ha => hstep s a (List.mem_cons_of_mem _ ha)) hGas
        hnext t hr

/-- **Exactness rule**: let `I` be kept by the steps from states with `P`, and
let such a step keep `P` exactly under the condition `G`.  Then every state of a run
has `P` exactly when each step of the run meets `G`. -/
theorem forall_states_iff {I P : σ → Prop} {G : σ → α → Prop} (hI : ∀ s a, I s → P s → I (step s a))
    (hP : ∀ s a, I s → P s → (P (step s a) ↔ G s a)) :
    ∀ (as : List α) (s : σ), I s → P s → ((∀ t ∈ states step s as, P t) ↔ EachStep step G s as)
  | [], s, _, hs => by simp [EachStep, hs]
  | a :: as, s, hi, hs => by
    simp only [states_cons, List.forall_mem_cons, EachStep]
    constructor
    · intro h
      have hnext : P (step s a) := h.2 _ (mem_states_self _ _)
      have hrest := forall_states_iff hI hP as _ (hI s a hi hs) hnext
      exact ⟨(hP s a hi hs).mp hnext, hrest.mp h.2⟩
    · intro h
      have hnext : P (step s a) := (hP s a hi hs).mpr h.1
      have hrest := forall_states_iff hI hP as _ (hI s a hi hs) hnext
      exact ⟨hs, hrest.mpr h.2⟩

/-- **Last-state rule**: when no step from a state without `P` regains it, a run
has `P` in every state exactly when it has it in the last one. -/
theorem forall_states_iff_run {I P : σ → Prop} (hI : ∀ s a, I s → I (step s a))
    (hlost : ∀ s a, I s → ¬ P s → ¬ P (step s a)) :
    ∀ (as : List α) (s : σ), I s → ((∀ t ∈ states step s as, P t) ↔ P (run step s as))
  | [], s, _ => by simp
  | a :: as, s, hi => by
    have hrest := forall_states_iff_run hI hlost as _ (hI s a hi)
    rw [states_cons, List.forall_mem_cons, run_cons, hrest]
    refine ⟨And.right, fun h => ⟨?_, h⟩⟩
    by_contra hs
    exact hlost s a hi hs (hrest.mpr h _ (mem_states_self _ _))

/-! ## runs of a machine that may fail -/

/-- The states that are reached from `s₀` by steps that meet `G`. A step that fails leads to none. -/
inductive Reaches {ε : Type*} (step : σ → α → Except ε σ) (G : σ → α → Prop) (s₀ : σ) : σ → Prop
  | refl : Reaches step G s₀ s₀
  | step {s s' : σ} (a : α) : Reaches step G s₀ s → G s a → step s a = .ok s' →
      Reaches step G s₀ s'

section

variable {ε : Type*} {step : σ → α → Except ε σ} {G G' : σ → α → Prop} {s₀ s : σ}

/-- **Invariant rule** for a step that may fail. -/
theorem Reaches.invariant {I : σ → Prop} (hr : Reaches step G s₀ s) (hstart : I s₀)
    (hstep : ∀ s a s', I s → G s a → step s a = .ok s' → I s') : I s := by
  induction hr with
  | refl => exact hstart
  | step a _ hG hs ih => exact hstep _ a _ ih hG hs

/-- Each step of a run meets `G`, up to the first that fails. -/
def EachOk (step : σ → α → Except ε σ) (G : σ → α → Prop) : σ → List α → Prop
  | _, [] => True
  | s, a :: as => G s a ∧ ∀ s', step s a = .ok s' → EachOk step G s' as

instance decidableEachOk [∀ s a, Decidable (G s a)] :
    ∀ (s : σ) (as : List α), Decidable (EachOk step G s as)
  | _, [] => isTrue trivial
  | s, a :: as =>
    match h : step s a with
    | .error e => decidable_of_iff (G s a) ⟨fun hG => ⟨hG, fun s' hs => by
      rw [h] at hs
      cases hs⟩, And.left⟩
    | .ok s' =>
      have := decidableEachOk s' as
      decidable_of_iff (G s a ∧ EachOk step G s' as) ⟨fun ⟨hG, hrest⟩ => ⟨hG, fun t ht => by
        rw [h] at ht
        cases ht
        exact hrest⟩, fun ⟨hG, hrest⟩ => ⟨hG, hrest s' h⟩⟩

/-- The state that a list of inputs leads to is reached. -/
theorem reaches_foldlM :
    ∀ (as : List α) {s t : σ}, EachOk step G s as → as.foldlM step s = .ok t → Reaches step G s₀ s →
      Reaches step G s₀ t
  | [], _, _, _, h, hs => by
    cases h
    exact hs
  | a :: as, s, t, hG, h, hs => by
    rw [List.foldlM_cons] at h
    cases hstep : step s a with
    | error e =>
      rw [hstep] at h
      cases h
    | ok s' =>
      rw [hstep] at h
      exact reaches_foldlM as (hG.2 s' hstep) h (.step a hs hG.1 hstep)

/-- **Erasure rule**: if the inputs that are not kept change only what `forget` forgets, and the
others do the same whether it is forgotten or not, a run without the former ends in the same state, up
to what is forgotten. -/
theorem foldlM_filter {I : σ → Prop} {f : σ → σ} {keep : α → Bool}
    (hstep : ∀ s a s', I s → G s a → step s a = .ok s' → I s')
    (hkeep : ∀ s a, I s → keep a = true → step (f s) a = (step s a).map f)
    (hskip : ∀ s a s', keep a = false → step s a = .ok s' → f s' = f s) :
    ∀ (as : List α) {s t : σ}, I s → EachOk step G s as → as.foldlM step s = .ok t →
      (as.filter keep).foldlM step (f s) = .ok (f t)
  | [], _, _, _, _, h => by
    cases h
    rfl
  | a :: as, s, t, hs, hG, h => by
    rw [List.foldlM_cons] at h
    cases ha : step s a with
    | error e =>
      rw [ha] at h
      cases h
    | ok s' =>
      rw [ha] at h
      have hrest := foldlM_filter hstep hkeep hskip as (hstep s a s' hs hG.1 ha) (hG.2 s' ha) h
      cases hk : keep a with
      | true =>
        rw [List.filter_cons_of_pos hk, List.foldlM_cons, hkeep s a hs hk, ha]
        exact hrest
      | false =>
        rw [List.filter_cons_of_neg (by simp [hk]), ← hskip s a s' hk ha]
        exact hrest

end

/-! ## machines that return something -/

section

variable {τ ρ : Type*}

/-- What the steps of a run return. -/
def outputs (step : σ → α → ρ × σ) : σ → List α → List ρ
  | _, [] => []
  | s, a :: as => (step s a).1 :: outputs step (step s a).2 as

/-- **Simulation rule**: if the steps from related states return the same and lead to related states,
so do the runs. -/
theorem outputs_eq {step : σ → α → ρ × σ} {step' : τ → α → ρ × τ} {R : σ → τ → Prop}
    (h : ∀ s t a, R s t → (step s a).1 = (step' t a).1 ∧ R (step s a).2 (step' t a).2) :
    ∀ (as : List α) {s : σ} {t : τ}, R s t → outputs step s as = outputs step' t as
  | [], _, _, _ => rfl
  | a :: as, s, t, hR => by
    obtain ⟨hout, hnext⟩ := h s t a hR
    rw [outputs, outputs, hout, outputs_eq h as hnext]

end

end Machine
