import SupportCrm.Library.RelyGuarantee

/-!
# Noninterference

An observer sees of a state only a part: `R s s'` says that two states look alike to it. Two
programs are `Twins` if the observer cannot tell them apart: they perform the same commands,
which keep states alike and after whose answers they are twins again, or all that they still
perform goes unnoticed.

`Pool.unwinding` is the theorem that local conditions give for whole runs: if the programs of
two pools are twins, some acts of the environment keep states alike, and all others go
unnoticed, then the one pool along a schedule and the other along the schedule without the
unnoticed acts end in states that look alike.
-/

set_option autoImplicit false

namespace AtomicProgram

universe u v w

variable {C : Type u} {Resp : C → Type u} {ε α β : Type u} {σ : Type v}

/-! ## Commands -/

/-- Two answers that a program takes in the same way. -/
inductive SameAnswers (S : β → β → Prop) : Except ε β → Except ε β → Prop where
  | ok {b b' : β} (same : S b b') : SameAnswers S (.ok b) (.ok b')
  | error (e e' : ε) : SameAnswers S (.error e) (.error e')

theorem SameAnswers.of_eq {answer answer' : Except ε β} (same : answer = answer') :
    SameAnswers (· = ·) answer answer' := by
  subst same
  cases answer with
  | ok b => exact .ok rfl
  | error e => exact .error e e

section

variable (H : Handler C Resp ε σ) (R : σ → σ → Prop)

/-- The command is answered the same in states that look alike, and leaves them alike. -/
def Lockstep (c : C) : Prop := ∀ s s', R s s' → (H c s).1 = (H c s').1 ∧ R (H c s).2 (H c s').2

/-- The command may be performed in either of two states that look alike. -/
def Unnoticed (c : C) : Prop := ∀ s s', R s s' → R (H c s).2 s' ∧ R s (H c s').2

/-! ## Two programs -/

/-- Programs that an observer cannot tell apart. -/
inductive Twins : Program C Resp ε α → Program C Resp ε α → Prop where
  | call {c : C} {next next' : Except ε (Resp c) → Program C Resp ε α}
      (alike : ∀ s s', R s s' → R (H c s).2 (H c s').2)
      (rest : ∀ s s', R s s' → Twins (next (H c s).1) (next' (H c s').1)) :
      Twins (.call c next) (.call c next')
  | silent {p p' : Program C Resp ε α} (first : p.Always (Unnoticed H R))
      (second : p'.Always (Unnoticed H R)) : Twins p p'

end

/-- The next command of a program: what is left to perform, and the state after it. -/
def Program.turn (H : Handler C Resp ε σ) : Program C Resp ε α → σ → Program C Resp ε α × σ
  | .ret r, s => (.ret r, s)
  | .call c next, s => (next (H c s).1, (H c s).2)

section Rules

variable {H : Handler C Resp ε σ} {R : σ → σ → Prop}

theorem Program.Always.turn {P : C → Prop} {p : Program C Resp ε α} (always : p.Always P) (s : σ) :
    (p.turn H s).1.Always P := by
  cases p with
  | ret r => exact always
  | call c next => exact always.2 _

theorem twins_ret (r r' : Except ε α) : Twins H R (.ret r) (.ret r') := .silent trivial trivial

/-- A program whose commands are all performed in lockstep is its own twin. -/
theorem twins_of_lockstep {p : Program C Resp ε α} (always : p.Always (Lockstep H R)) :
    Twins H R p p := by
  induction p with
  | ret r => exact twins_ret r r
  | call c next ih =>
      refine .call (fun s s' alike => (always.1 s s' alike).2) fun s s' alike => ?_
      rw [(always.1 s s' alike).1]
      exact ih _ (always.2 _)

/-- One command, with twins after all answers that are taken in the same way. -/
theorem twins_perform_bind {c : C} {S : Resp c → Resp c → Prop}
    {k k' : Resp c → Program C Resp ε α}
    (alike : ∀ s s', R s s' → SameAnswers S (H c s).1 (H c s').1 ∧ R (H c s).2 (H c s').2)
    (rest : ∀ answer answer', S answer answer' → Twins H R (k answer) (k' answer')) :
    Twins H R (Program.perform c >>= k) (Program.perform c >>= k') := by
  refine .call (fun s s' before => (alike s s' before).2) fun s s' before => ?_
  generalize (H c s).1 = answer, (H c s').1 = answer', (alike s s' before).1 = same
  cases same with
  | ok same => exact rest _ _ same
  | error e e' => exact twins_ret _ _

/-- One command in lockstep. -/
theorem twins_lockstep_bind {c : C} {k : Resp c → Program C Resp ε α} (lockstep : Lockstep H R c)
    (rest : ∀ answer, Twins H R (k answer) (k answer)) :
    Twins H R (Program.perform c >>= k) (Program.perform c >>= k) := by
  refine twins_perform_bind (S := (· = ·)) (fun s s' alike => ?_) fun answer answer' same => ?_
  · exact ⟨.of_eq (lockstep s s' alike).1, (lockstep s s' alike).2⟩
  · subst same
    exact rest answer

/-- Twins, followed by what goes unnoticed. -/
theorem Twins.bind {p p' : Program C Resp ε β} {k k' : β → Program C Resp ε α}
    (twins : Twins H R p p') (rest : ∀ b, (k b).Always (Unnoticed H R))
    (rest' : ∀ b, (k' b).Always (Unnoticed H R)) : Twins H R (p >>= k) (p' >>= k') := by
  induction twins with
  | call alike _ ih => exact .call alike fun s s' before => ih s s' before
  | silent first second =>
      exact .silent (Program.always_bind first rest) (Program.always_bind second rest')

/-- A turn of a program that goes unnoticed. -/
theorem unnoticed_turn {p : Program C Resp ε α} {s s' : σ} (silent : p.Always (Unnoticed H R))
    (alike : R s s') : R (p.turn H s).2 s' := by
  cases p with
  | ret r => exact alike
  | call c next => exact (silent.1 s s' alike).1

theorem unnoticed_turn_right {p : Program C Resp ε α} {s s' : σ}
    (silent : p.Always (Unnoticed H R)) (alike : R s s') : R s (p.turn H s').2 := by
  cases p with
  | ret r => exact alike
  | call c next => exact (silent.1 s s' alike).2

/-- The turns of two twins. -/
theorem Twins.turn {p p' : Program C Resp ε α} {s s' : σ} (twins : Twins H R p p')
    (alike : R s s') :
    R (p.turn H s).2 (p'.turn H s').2 ∧ Twins H R (p.turn H s).1 (p'.turn H s').1 := by
  cases twins with
  | call same rest => exact ⟨same s s' alike, rest s s' alike⟩
  | silent first second =>
      have between : R (p.turn H s).2 s' := unnoticed_turn first alike
      exact ⟨unnoticed_turn_right second between, .silent (first.turn s) (second.turn s')⟩

end Rules

/-! ## Two pools -/

/-- The schedule keeps all turns, and of the acts of the environment those that are to be
kept. -/
def Act.kept {τ : Type w} (keep : τ → Bool) : Act τ → Bool
  | .turn _ => true
  | .env e => keep e

namespace Pool

variable {τ : Type w} {H : ℕ → Handler C Resp ε σ} {E : τ → σ → σ} {R : σ → σ → Prop}

theorem step_turn_of_lt {pool : Pool C Resp ε α σ} {i : ℕ} (inside : i < pool.programs.length) :
    pool.step H E (.turn i) =
      ⟨pool.programs.set i ((pool.programs.get ⟨i, inside⟩).turn (H i) pool.state).1,
        ((pool.programs.get ⟨i, inside⟩).turn (H i) pool.state).2⟩ := by
  have present : pool.programs[i]? = some (pool.programs.get ⟨i, inside⟩) :=
    List.getElem?_eq_getElem inside
  simp only [step]
  split
  · next c next current =>
    rw [Option.some.inj (present.symm.trans current)]
    rfl
  · next ended =>
    generalize own : pool.programs.get ⟨i, inside⟩ = p at present
    cases p with
    | ret r =>
        have same : pool.programs.set i (.ret r) = pool.programs := by
          rw [← own]
          exact List.set_getElem_self inside
        exact congrArg (Pool.mk · pool.state) same.symm
    | call c next => exact absurd present (ended c next)

theorem step_turn_of_le {pool : Pool C Resp ε α σ} {i : ℕ} (outside : pool.programs.length ≤ i) :
    pool.step H E (.turn i) = pool := by
  simp only [step, List.getElem?_eq_none outside]

/-- Two pools that an observer cannot tell apart. -/
structure Indistinct (H : ℕ → Handler C Resp ε σ) (R : σ → σ → Prop)
    (pool pool' : Pool C Resp ε α σ) : Prop where
  state : R pool.state pool'.state
  length : pool.programs.length = pool'.programs.length
  twins : ∀ i (inside : i < pool.programs.length) (inside' : i < pool'.programs.length),
    Twins (H i) R (pool.programs.get ⟨i, inside⟩) (pool'.programs.get ⟨i, inside'⟩)

theorem Indistinct.turn {pool pool' : Pool C Resp ε α σ} (same : Indistinct H R pool pool')
    (j : ℕ) : Indistinct H R (pool.step H E (.turn j)) (pool'.step H E (.turn j)) := by
  by_cases inside : j < pool.programs.length
  · have inside' : j < pool'.programs.length := same.length ▸ inside
    obtain ⟨alike, left⟩ := (same.twins j inside inside').turn same.state
    rw [step_turn_of_lt inside, step_turn_of_lt inside']
    refine ⟨alike, by simpa using same.length, fun i bound bound' => ?_⟩
    simp only [List.get_eq_getElem, List.getElem_set]
    split
    · next own =>
      subst own
      exact left
    · exact same.twins i (by simpa using bound) (by simpa using bound')
  · have outside : pool.programs.length ≤ j := Nat.not_lt.mp inside
    rw [step_turn_of_le outside, step_turn_of_le (same.length ▸ outside)]
    exact same

/-- **Unwinding.** Pools of twins end in states that look alike, whether the acts of the
environment that go unnoticed happen or not. -/
theorem unwinding {keep : τ → Bool}
    (kept : ∀ e s s', keep e = true → R s s' → R (E e s) (E e s'))
    (dropped : ∀ e s s', keep e = false → R s s' → R (E e s) s')
    {pool pool' : Pool C Resp ε α σ} (same : Indistinct H R pool pool')
    (schedule : List (Act τ)) :
    Indistinct H R (pool.exec H E schedule)
      (pool'.exec H E (schedule.filter (Act.kept keep))) := by
  induction schedule generalizing pool pool' with
  | nil => exact same
  | cons act rest ih =>
      cases act with
      | turn j =>
          rw [List.filter_cons_of_pos (by rfl)]
          exact ih (same.turn j)
      | env e =>
          cases keeps : keep e with
          | true =>
              rw [List.filter_cons_of_pos (by exact keeps)]
              exact ih ⟨kept e _ _ keeps same.state, same.length, same.twins⟩
          | false =>
              rw [List.filter_cons_of_neg (by simpa [Act.kept] using keeps)]
              exact ih ⟨dropped e _ _ keeps same.state, same.length, same.twins⟩

end Pool

end AtomicProgram
