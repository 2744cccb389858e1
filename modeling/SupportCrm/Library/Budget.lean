import Mathlib.Algebra.BigOperators.Group.Finset.Piecewise
import Mathlib.Algebra.Order.BigOperators.Group.Finset
import SupportCrm.Library.RelyGuarantee

/-!
# Budgets

Commands have a cost, and a program keeps within a budget if what it performs costs no more,
as long as every command finds a state that meets an invariant. The rules follow the program,
as those of rely and guarantee do.

In a pool the budgets add up: if no command makes a size grow by more than its cost, then
along every schedule the size grows by no more than the budgets of all programs together
(`Pool.size_exec_le`).
-/

set_option autoImplicit false

namespace AtomicProgram

universe u v w

variable {C : Type u} {Resp : C → Type u} {ε α β : Type u} {σ : Type v} {τ : Type w}

namespace Program

/-- The commands that the program performs, each in a state that meets `I`, cost no more
than the budget. -/
def Spends (H : Handler C Resp ε σ) (I : σ → Prop) (cost : C → ℕ) :
    Program C Resp ε α → ℕ → Prop
  | .ret _, _ => True
  | .call c next, budget =>
      cost c ≤ budget ∧ ∀ s, I s → (next (H c s).1).Spends H I cost (budget - cost c)

variable {H : Handler C Resp ε σ} {I : σ → Prop} {cost : C → ℕ}

theorem Spends.mono {p : Program C Resp ε α} {n m : ℕ} (spends : p.Spends H I cost n)
    (le : n ≤ m) : p.Spends H I cost m := by
  induction p generalizing n m with
  | ret r => trivial
  | call c next ih =>
      exact ⟨spends.1.trans le, fun s holds => ih _ (spends.2 s holds) (Nat.sub_le_sub_right le _)⟩

theorem spends_pure {a : α} {budget : ℕ} :
    (pure a : Program C Resp ε α).Spends H I cost budget := trivial

/-- One command within the budget, and what follows each of its answers within the rest. -/
theorem spends_perform_bind {c : C} {k : Resp c → Program C Resp ε α} {budget : ℕ} (rest : ℕ)
    (enough : cost c + rest ≤ budget)
    (follows : ∀ s answer, I s → (H c s).1 = .ok answer → (k answer).Spends H I cost rest) :
    (perform c >>= k).Spends H I cost budget := by
  refine ⟨le_of_add_le_left enough, fun s holds => ?_⟩
  cases answered : (H c s).1 with
  | ok answer => exact (follows s answer holds answered).mono (by omega)
  | error e => trivial

theorem spends_perform {c : C} {budget : ℕ} (enough : cost c ≤ budget) :
    (perform c : Program C Resp ε (Resp c)).Spends H I cost budget :=
  ⟨enough, fun _ _ => trivial⟩

theorem spends_attempt {p : Program C Resp ε α} {budget : ℕ} (spends : p.Spends H I cost budget) :
    p.attempt.Spends H I cost budget := by
  induction p generalizing budget with
  | ret r => trivial
  | call c next ih => exact ⟨spends.1, fun s holds => ih _ (spends.2 s holds)⟩

/-- A program that performs only commands without cost needs no budget. -/
theorem spends_of_always {p : Program C Resp ε α} (free : p.Always fun c => cost c = 0)
    (budget : ℕ) : p.Spends H I cost budget := by
  induction p generalizing budget with
  | ret r => trivial
  | call c next ih =>
      refine ⟨?_, fun s _ => ih _ (free.2 _) _⟩
      rw [free.1]
      exact Nat.zero_le budget

/-- The budget of a first part is enough if what follows performs no command. -/
theorem spends_bind_pure {p : Program C Resp ε β} {f : β → α} {budget : ℕ}
    (first : p.Spends H I cost budget) : (p >>= fun b => pure (f b)).Spends H I cost budget := by
  induction p generalizing budget with
  | ret r => cases r <;> trivial
  | call c next ih => exact ⟨first.1, fun s holds => ih _ (first.2 s holds)⟩

end Program

namespace Pool

variable {H : ℕ → Handler C Resp ε σ} {E : τ → σ → σ} {I : σ → Prop}

/-- **Budgets add up.** Along every schedule a size grows by no more than all budgets
together, if no command makes it grow by more than its cost, and no act does. -/
theorem size_exec_le (size : σ → ℕ) (cost : ℕ → C → ℕ) (budget : ℕ → ℕ)
    (commands : ∀ i c s, I s → I (H i c s).2 ∧ size (H i c s).2 ≤ size s + cost i c)
    (acts : ∀ e s, I s → I (E e s) ∧ size (E e s) ≤ size s) (pool : Pool C Resp ε α σ)
    (spends : ∀ i (p : Program C Resp ε α), pool.programs[i]? = some p →
      p.Spends (H i) I (cost i) (budget i))
    (holds : I pool.state) (schedule : List (Act τ)) :
    size (pool.exec H E schedule).state ≤
      size pool.state + ∑ i ∈ Finset.range pool.programs.length, budget i := by
  induction schedule generalizing pool budget with
  | nil => exact Nat.le_add_right _ _
  | cons act rest ih =>
      cases act with
      | env e =>
          obtain ⟨kept, le⟩ := acts e pool.state holds
          exact (ih budget (pool.step H E (.env e)) spends kept).trans
            (Nat.add_le_add_right le _)
      | turn j =>
          rcases pool.step_turn H E j with ⟨c, next, current, after, programs⟩ | still
          · obtain ⟨kept, le⟩ := commands j c pool.state holds
            obtain ⟨afford, left⟩ := spends j _ current
            -- the budget of the program whose turn it is pays for the command
            have same : (pool.step H E (.turn j)).programs.length = pool.programs.length :=
              length_exec (H := H) (E := E) pool [.turn j]
            have inside : j ∈ Finset.range pool.programs.length :=
              Finset.mem_range.mpr (List.getElem?_eq_some_iff.mp current).1
            have rest := ih (Function.update budget j (budget j - cost j c))
              (pool.step H E (.turn j))
              (fun i p present => by
                rw [programs] at present
                split at present
                · next own =>
                  subst own
                  cases present
                  rw [Function.update_self]
                  exact left _ holds
                · next other =>
                  rw [Function.update_of_ne other]
                  exact spends i p present)
              (by rw [after]; exact kept)
            rw [same, after, Finset.sum_update_of_mem inside] at rest
            have total := Finset.sum_eq_add_sum_sdiff_singleton_of_mem inside budget
            rw [exec_cons]
            omega
          · rw [exec_cons, still]
            exact ih budget pool spends holds

/-- A budget of one for each program that stands for a value: as many as there are of it. -/
theorem sum_budget_eq_count {κ : Type w} [DecidableEq κ] (values : List κ) (a : κ) :
    (∑ i ∈ Finset.range values.length, if values[i]? = some a then 1 else 0) = values.count a := by
  induction values with
  | nil => rfl
  | cons value rest ih =>
      rw [List.length_cons, Finset.sum_range_succ', List.count_cons]
      simp only [List.getElem?_cons_succ, List.getElem?_cons_zero, Option.some.injEq, beq_iff_eq]
      rw [ih]

end Pool
end AtomicProgram
