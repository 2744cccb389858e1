import Mathlib.Data.List.Induction

/-!
# Runs and their history

A machine takes steps that may not be possible in every state. `run` is the state after a
list of steps, each of which could be taken, and `Happened` says that among them was one
with a property that may look at the state in which it was taken. An invariant may speak
about the steps so far (`invariant`).
-/

set_option autoImplicit false

namespace Histories

universe u v

variable {σ : Type u} {α : Type v} (step : σ → α → Option σ)

/-- The state after the steps. -/
def run (s : σ) (steps : List α) : Option σ := steps.foldlM step s

@[simp] theorem run_nil (s : σ) : run step s [] = some s := rfl

theorem run_concat (s : σ) (steps : List α) (a : α) :
    run step s (steps ++ [a]) = (run step s steps).bind fun s' => step s' a := by
  simp [run, List.foldlM_append]

/-- One of the steps was taken where it has the property. -/
def Happened (s : σ) (P : σ → α → Prop) (steps : List α) : Prop :=
  ∃ before a after s', steps = before ++ a :: after ∧ run step s before = some s' ∧ P s' a

variable {step} {s : σ} {P : σ → α → Prop} {steps : List α}

/-- What happened stays so. -/
theorem Happened.concat (happened : Happened step s P steps) (a : α) :
    Happened step s P (steps ++ [a]) := by
  obtain ⟨before, b, after, s', rfl, ran, holds⟩ := happened
  exact ⟨before, b, after ++ [a], s', by simp, ran, holds⟩

theorem Happened.append (happened : Happened step s P steps) (later : List α) :
    Happened step s P (steps ++ later) := by
  obtain ⟨before, b, after, s', rfl, ran, holds⟩ := happened
  exact ⟨before, b, after ++ later, s', by simp, ran, holds⟩

/-- The last step happened. -/
theorem happened_last {s' : σ} {a : α} (ran : run step s steps = some s') (holds : P s' a) :
    Happened step s P (steps ++ [a]) :=
  ⟨steps, a, [], s', rfl, ran, holds⟩

/-- A step with the property was taken, whatever the state was. -/
theorem Happened.mem {Q : α → Prop} (happened : Happened step s P steps)
    (implies : ∀ s' a, P s' a → Q a) : ∃ a ∈ steps, Q a := by
  obtain ⟨before, a, after, s', rfl, -, holds⟩ := happened
  exact ⟨a, by simp, implies s' a holds⟩

/-- What holds at the start and is kept by every step holds after every run. -/
theorem invariant {I : List α → σ → Prop} (start : I [] s)
    (next : ∀ steps s₁ a s₂, run step s steps = some s₁ → I steps s₁ → step s₁ a = some s₂ →
      I (steps ++ [a]) s₂)
    {s' : σ} (ran : run step s steps = some s') : I steps s' := by
  induction steps using List.reverseRecOn generalizing s' with
  | nil =>
      obtain rfl := Option.some.inj ran
      exact start
  | append_singleton steps a ih =>
      rw [run_concat] at ran
      obtain ⟨s₁, ran₁, taken⟩ := Option.bind_eq_some_iff.mp ran
      exact next steps s₁ a s' ran₁ (ih ran₁) taken

end Histories
