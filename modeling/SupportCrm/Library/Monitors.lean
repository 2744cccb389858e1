import Mathlib.Logic.Function.Basic
import SupportCrm.Library.RelyGuarantee

/-!
# Monitors

A monitor follows one program: in each of its states it allows some commands, and it goes on with
what the command answers. `Obeys H M p Q m` says that the program `p`, followed from the state `m`,
performs only commands that are allowed, as long as the commands answer as they can under `H`, and
ends with a result and a state in `Q`.

The rules follow the program. In a `Pool` every program has a monitor of its own. What the monitors
say of the state together, and every step keeps, holds along every schedule (`Pool.watched_exec`):
so a property of what the programs do together is settled by a look at each program alone and at
each command alone.
-/

set_option autoImplicit false

namespace AtomicProgram

universe u v w x

variable {C : Type u} {Resp : C → Type u} {ε α β : Type u} {σ : Type v} {μ : Type w}

/-- What is allowed, and where an answer leads. -/
structure Monitor (C : Type u) (Resp : C → Type u) (ε : Type u) (μ : Type w) where
  allows : μ → C → Prop
  next : μ → (c : C) → Except ε (Resp c) → μ

/-- The program performs only what is allowed and ends in `Q`. -/
def Obeys (H : Handler C Resp ε σ) (M : Monitor C Resp ε μ) :
    Program C Resp ε α → (Except ε α → μ → Prop) → μ → Prop
  | .ret r, Q, m => Q r m
  | .call c next, Q, m =>
      M.allows m c ∧ ∀ s, Obeys H M (next (H c s).1) Q (M.next m c (H c s).1)

section Rules

variable {H : Handler C Resp ε σ} {M : Monitor C Resp ε μ}
variable {Q : Except ε α → μ → Prop} {m : μ}

theorem Obeys.mono {Q' : Except ε α → μ → Prop} {p : Program C Resp ε α} (obeys : Obeys H M p Q m)
    (weaker : ∀ r m, Q r m → Q' r m) : Obeys H M p Q' m := by
  induction p generalizing m with
  | ret r => exact weaker r m obeys
  | call c next ih => exact ⟨obeys.1, fun s => ih _ (obeys.2 s)⟩

theorem obeys_bind {p : Program C Resp ε β} {k : β → Program C Resp ε α}
    (first : Obeys H M p (Passes (fun b => Obeys H M (k b) Q) Q) m) : Obeys H M (p >>= k) Q m := by
  induction p generalizing m with
  | ret r => cases r <;> exact first
  | call c next ih => exact ⟨first.1, fun s => ih _ (first.2 s)⟩

theorem obeys_attempt {p : Program C Resp ε α} {Q : Except ε (Except ε α) → μ → Prop}
    (inner : Obeys H M p (fun r => Q (.ok r)) m) : Obeys H M p.attempt Q m := by
  induction p generalizing m with
  | ret r => exact inner
  | call c next ih => exact ⟨inner.1, fun s => ih _ (inner.2 s)⟩

/-- A program of commands to which the monitor does not react. -/
theorem obeys_of_always {P : C → Prop} {p : Program C Resp ε α} (always : p.Always P)
    (ignored : ∀ c, P c → M.allows m c ∧ ∀ answer, M.next m c answer = m) (holds : ∀ r, Q r m) :
    Obeys H M p Q m := by
  induction p with
  | ret r => exact holds r
  | call c next ih =>
      refine ⟨(ignored c always.1).1, fun s => ?_⟩
      rw [(ignored c always.1).2]
      exact ih _ (always.2 _)

end Rules

namespace Pool

variable {τ : Type x} {H : ℕ → Handler C Resp ε σ} {E : τ → σ → σ} {M : Monitor C Resp ε μ}
variable {Q : Except ε α → μ → Prop}

/-- Every program obeys its monitor, whose state is given. -/
def Watched (H : ℕ → Handler C Resp ε σ) (M : Monitor C Resp ε μ) (Q : Except ε α → μ → Prop)
    (pool : Pool C Resp ε α σ) (ms : ℕ → μ) : Prop :=
  ∀ i p, pool.programs[i]? = some p → Obeys (H i) M p Q (ms i)

/-- Where there is no program now, there is none after a step. -/
theorem step_getElem?_none {pool : Pool C Resp ε α σ} {i : ℕ} (absent : pool.programs[i]? = none)
    (act : Act τ) : (pool.step H E act).programs[i]? = none := by
  cases act with
  | env e => exact absent
  | turn j =>
      rcases pool.step_turn H E j with ⟨c, next, current, -, programs⟩ | still
      · rw [programs, if_neg (by rintro rfl; cases absent.symm.trans current)]
        exact absent
      · rw [still]
        exact absent

/-- What the monitors say together is kept by a step, if it is kept by every command that the
monitor of its program allows. -/
theorem watched_step {J : (ℕ → μ) → σ → Prop}
    (commands : ∀ i c s ms, J ms s → M.allows (ms i) c →
      J (Function.update ms i (M.next (ms i) c (H i c s).1)) (H i c s).2)
    (acts : ∀ e s ms, J ms s → J ms (E e s)) {pool : Pool C Resp ε α σ} {ms : ℕ → μ}
    (watched : pool.Watched H M Q ms) (holds : J ms pool.state) (act : Act τ) :
    ∃ ms', (pool.step H E act).Watched H M Q ms' ∧ J ms' (pool.step H E act).state ∧
      ∀ i, pool.programs[i]? = none → ms' i = ms i := by
  cases act with
  | env e => exact ⟨ms, watched, acts e _ _ holds, fun _ _ => rfl⟩
  | turn j =>
      rcases pool.step_turn H E j with ⟨c, next, current, after, programs⟩ | still
      · obtain ⟨allowed, rest⟩ := watched j _ current
        refine ⟨_, fun i p present => ?_, after ▸ commands j c _ ms holds allowed, ?_⟩
        · rw [programs] at present
          split at present
          · next own =>
            subst own
            cases present
            rw [Function.update_self]
            exact rest _
          · next other =>
            rw [Function.update_of_ne other]
            exact watched i p present
        · rintro i absent
          exact Function.update_of_ne (by rintro rfl; cases absent.symm.trans current) _ _
      · rw [still]
        exact ⟨ms, watched, holds, fun _ _ => rfl⟩

/-- **What the monitors say together holds along every schedule**, and where there is no program
the monitor stays where it was. -/
theorem watched_exec {J : (ℕ → μ) → σ → Prop}
    (commands : ∀ i c s ms, J ms s → M.allows (ms i) c →
      J (Function.update ms i (M.next (ms i) c (H i c s).1)) (H i c s).2)
    (acts : ∀ e s ms, J ms s → J ms (E e s)) {pool : Pool C Resp ε α σ} {ms : ℕ → μ}
    (watched : pool.Watched H M Q ms) (holds : J ms pool.state) (schedule : List (Act τ)) :
    ∃ ms', (pool.exec H E schedule).Watched H M Q ms' ∧ J ms' (pool.exec H E schedule).state ∧
      ∀ i, pool.programs[i]? = none → ms' i = ms i := by
  induction schedule generalizing pool ms with
  | nil => exact ⟨ms, watched, holds, fun _ _ => rfl⟩
  | cons act rest ih =>
      obtain ⟨ms₁, watched₁, holds₁, still₁⟩ := watched_step commands acts watched holds act
      obtain ⟨ms₂, watched₂, holds₂, still₂⟩ := ih watched₁ holds₁
      refine ⟨ms₂, watched₂, holds₂, fun i absent => ?_⟩
      exact (still₂ i (step_getElem?_none absent act)).trans (still₁ i absent)

/-- The monitor of a program that has ended is where `Q` says. -/
theorem Watched.result {pool : Pool C Resp ε α σ} {ms : ℕ → μ} (watched : pool.Watched H M Q ms)
    {i : ℕ} {r : Except ε α} (ended : pool.programs[i]? = some (.ret r)) : Q r (ms i) :=
  watched i _ ended

end Pool

end AtomicProgram
