import Mathlib.Data.Nat.Notation
import Mathlib.Logic.Basic

/-!
# Programs of atomic commands

A program performs commands one after another. A command is atomic: it reads and writes
the state in one step and answers with a value or an error, and the program goes on from
that answer. What a command does is not part of the program but of a handler, so one
program can be run over a plain state, over a state with a record of what was done
(`Handler.observed`), alone, among others, or with failing commands.

* `run` performs a program alone, with nothing in between.
* `Runs R` performs it while the environment may move the state along `R` before each
  command.
* `Stops` gives the commands before which a program can stop, and the state it leaves.
* `exec` performs it under a plan: a command may be performed, may lose its answer, may be
  refused without effect, or the process may die before it, and others may move the state.

An error ends the program unless it is caught (`attempt`).
-/

set_option autoImplicit false

namespace AtomicProgram

universe u v w

/-- A program: a result, or a command with the rest of the program for each answer. -/
inductive Program (C : Type u) (Resp : C → Type u) (ε : Type u) (α : Type u) where
  | ret (result : Except ε α)
  | call (command : C) (next : Except ε (Resp command) → Program C Resp ε α)

/-- The meaning of the commands: the answer and the state after. -/
abbrev Handler (C : Type u) (Resp : C → Type u) (ε : Type u) (σ : Type v) :=
  (command : C) → σ → Except ε (Resp command) × σ

namespace Program

variable {C : Type u} {Resp : C → Type u} {ε α β γ : Type u} {σ : Type v}

/-- Sequential composition; an error skips the rest. -/
protected def bind : Program C Resp ε α → (α → Program C Resp ε β) → Program C Resp ε β
  | .ret (.ok a), k => k a
  | .ret (.error e), _ => .ret (.error e)
  | .call c next, k => .call c fun answer => (next answer).bind k

instance : Monad (Program C Resp ε) where
  pure a := .ret (.ok a)
  bind := Program.bind

/-- End with an error. -/
def throw (e : ε) : Program C Resp ε α := .ret (.error e)

/-- Perform one command. -/
def perform (c : C) : Program C Resp ε (Resp c) := .call c .ret

/-- Run a program and hand its error, if any, to what follows. -/
def attempt : Program C Resp ε α → Program C Resp ε (Except ε α)
  | .ret r => .ret (.ok r)
  | .call c next => .call c fun answer => (next answer).attempt

/-- Try a program again when it fails, at most `n` times in all. -/
def attempts (p : Program C Resp ε α) : ℕ → Program C Resp ε α
  | 0 => p
  | n + 1 => do
      match ← p.attempt with
      | .ok a => pure a
      | .error _ => p.attempts n

/-- The command a program performs next, unless it has ended. -/
def command? : Program C Resp ε α → Option C
  | .ret _ => none
  | .call c _ => some c

theorem command?_eq_some_iff {p : Program C Resp ε α} {c : C} :
    p.command? = some c ↔ ∃ next, p = .call c next := by
  constructor
  · intro called
    cases p with
    | ret r => cases called
    | call d next =>
        cases called
        exact ⟨next, rfl⟩
  · rintro ⟨next, rfl⟩
    rfl

theorem command?_eq_none_iff {p : Program C Resp ε α} : p.command? = none ↔ ∃ r, p = .ret r := by
  cases p with
  | ret r => exact iff_of_true rfl ⟨r, rfl⟩
  | call c next => exact iff_of_false nofun nofun

/-- Every command that the program can come to perform, whatever is answered, meets `P`. -/
def Always (P : C → Prop) : Program C Resp ε α → Prop
  | .ret _ => True
  | .call c next => P c ∧ ∀ answer, (next answer).Always P

section Always

variable {P : C → Prop}

theorem always_pure {a : α} : (pure a : Program C Resp ε α).Always P := trivial

theorem always_throw {e : ε} : (throw e : Program C Resp ε α).Always P := trivial

theorem always_perform {c : C} (holds : P c) : (perform c : Program C Resp ε (Resp c)).Always P :=
  ⟨holds, fun _ => trivial⟩

theorem always_bind {p : Program C Resp ε α} {k : α → Program C Resp ε β} (first : p.Always P)
    (rest : ∀ a, (k a).Always P) : (p >>= k).Always P := by
  induction p with
  | ret r =>
      cases r with
      | ok a => exact rest a
      | error e => trivial
  | call c next ih => exact ⟨first.1, fun answer => ih answer (first.2 answer)⟩

theorem always_attempt {p : Program C Resp ε α} (holds : p.Always P) : p.attempt.Always P := by
  induction p with
  | ret r => trivial
  | call c next ih => exact ⟨holds.1, fun answer => ih answer (holds.2 answer)⟩

theorem Always.imp {P' : C → Prop} {p : Program C Resp ε α} (always : p.Always P)
    (weaker : ∀ c, P c → P' c) : p.Always P' := by
  induction p with
  | ret r => trivial
  | call c next ih => exact ⟨weaker c always.1, fun answer => ih answer (always.2 answer)⟩

/-- Every result that the program can return meets `Q`. -/
def Gives (Q : α → Prop) : Program C Resp ε α → Prop
  | .ret (.ok a) => Q a
  | .ret (.error _) => True
  | .call _ next => ∀ answer, (next answer).Gives Q

theorem gives_pure {Q : α → Prop} {a : α} (holds : Q a) :
    (pure a : Program C Resp ε α).Gives Q := holds

theorem gives_bind {Q : α → Prop} {Q' : β → Prop} {p : Program C Resp ε α}
    {k : α → Program C Resp ε β} (first : p.Gives Q) (rest : ∀ a, Q a → (k a).Gives Q') :
    (p >>= k).Gives Q' := by
  induction p with
  | ret r =>
      cases r with
      | ok a => exact rest a first
      | error e => trivial
  | call c next ih => exact fun answer => ih answer (first answer)

theorem gives_true (p : Program C Resp ε α) : p.Gives fun _ => True := by
  induction p with
  | ret r => cases r <;> trivial
  | call c next ih => exact ih

/-- The rest need only be looked at after the results that the first part can return. -/
theorem always_bind_gives {Q : α → Prop} {p : Program C Resp ε α} {k : α → Program C Resp ε β}
    (first : p.Always P) (gives : p.Gives Q) (rest : ∀ a, Q a → (k a).Always P) :
    (p >>= k).Always P := by
  induction p with
  | ret r =>
      cases r with
      | ok a => exact rest a gives
      | error e => trivial
  | call c next ih => exact ⟨first.1, fun answer => ih answer (first.2 answer) (gives answer)⟩

theorem always_true (p : Program C Resp ε α) : p.Always fun _ => True := by
  induction p with
  | ret r => trivial
  | call c next ih => exact ⟨trivial, ih⟩

end Always

protected theorem bind_pure (p : Program C Resp ε α) : p.bind (.ret ∘ .ok) = p := by
  induction p with
  | ret r => cases r <;> rfl
  | call c next ih => exact congrArg (call c) (funext ih)

protected theorem bind_assoc (p : Program C Resp ε α) (f : α → Program C Resp ε β)
    (g : β → Program C Resp ε γ) : (p.bind f).bind g = p.bind fun a => (f a).bind g := by
  induction p with
  | ret r => cases r <;> rfl
  | call c next ih => exact congrArg (call c) (funext ih)

instance : LawfulMonad (Program C Resp ε) :=
  LawfulMonad.mk' (Program C Resp ε)
    (fun p => Program.bind_pure p)
    (fun _ _ => rfl)
    (fun p f g => Program.bind_assoc p f g)

@[simp] theorem throw_bind (e : ε) (k : α → Program C Resp ε β) :
    (throw e : Program C Resp ε α) >>= k = throw e := rfl

/-! ## Running alone -/

variable (H : Handler C Resp ε σ)

/-- Perform a program with nothing in between. -/
def run : Program C Resp ε α → σ → Except ε α × σ
  | .ret r, s => (r, s)
  | .call c next, s => (next (H c s).1).run (H c s).2

@[simp] theorem run_ret (r : Except ε α) (s : σ) :
    (Program.ret r : Program C Resp ε α).run H s = (r, s) := rfl

@[simp] theorem run_pure (a : α) (s : σ) :
    (pure a : Program C Resp ε α).run H s = (.ok a, s) := rfl

@[simp] theorem run_throw (e : ε) (s : σ) :
    (throw e : Program C Resp ε α).run H s = (.error e, s) := rfl

@[simp] theorem run_perform (c : C) (s : σ) :
    (perform c : Program C Resp ε (Resp c)).run H s = H c s := rfl

theorem run_bind (p : Program C Resp ε α) (k : α → Program C Resp ε β) (s : σ) :
    (p >>= k).run H s =
      match p.run H s with
      | (.ok a, s') => (k a).run H s'
      | (.error e, s') => (.error e, s') := by
  induction p generalizing s with
  | ret r => cases r <;> rfl
  | call c next ih => exact ih _ _

theorem run_perform_bind {c : C} {k : Resp c → Program C Resp ε β} {s s' : σ} {a : Resp c}
    (ok : H c s = (.ok a, s')) : (perform c >>= k).run H s = (k a).run H s' := by
  rw [run_bind, run_perform, ok]

theorem run_perform_bind_error {c : C} {k : Resp c → Program C Resp ε β} {s s' : σ} {e : ε}
    (error : H c s = (.error e, s')) : (perform c >>= k).run H s = (.error e, s') := by
  rw [run_bind, run_perform, error]

/-- A result that is dropped leaves the state. -/
theorem run_discard (p : Program C Resp ε α) (s : σ) :
    ((Functor.discard p).run H s).2 = (p.run H s).2 := by
  change ((p >>= fun _ => pure PUnit.unit).run H s).2 = _
  rw [run_bind]
  rcases p.run H s with ⟨_ | _, s'⟩ <;> rfl

theorem run_attempt (p : Program C Resp ε α) (s : σ) :
    p.attempt.run H s = (.ok (p.run H s).1, (p.run H s).2) := by
  induction p generalizing s with
  | ret r => rfl
  | call c next ih => exact ih _ _

/-- Two meanings of the commands that agree in a state, which no command of a program leaves,
give the program the same run. -/
theorem Always.run_congr {H' : Handler C Resp ε σ} {p : Program C Resp ε α} {s : σ}
    (always : p.Always fun c => H c s = H' c s ∧ (H c s).2 = s) : p.run H s = p.run H' s := by
  induction p with
  | ret r => rfl
  | call c next ih =>
      obtain ⟨same, still⟩ := always.1
      rw [run, run, ← same, still]
      exact ih _ (always.2 _)

/-- What each of its commands keeps holds after a run of a program. -/
theorem Always.run_invariant {P : C → Prop} {I : σ → Prop} {p : Program C Resp ε α}
    (always : p.Always P) (commands : ∀ c s, P c → I s → I (H c s).2) {s : σ} (holds : I s) :
    I (p.run H s).2 := by
  induction p generalizing s with
  | ret r => exact holds
  | call c next ih => exact ih _ (always.2 _) (commands c s always.1 holds)

/-- What every command keeps holds after a run. -/
theorem run_invariant {I : σ → Prop} (commands : ∀ c s, I s → I (H c s).2)
    (p : Program C Resp ε α) {s : σ} (holds : I s) : I (p.run H s).2 :=
  (always_true p).run_invariant H (fun c s _ => commands c s) holds

/-! ## Running in an environment -/

variable (R : σ → σ → Prop)

/-- `Runs H R p s r s'`: the program can run from `s` to the result `r` in `s'` while the
environment moves the state along `R` before each command. -/
inductive Runs : Program C Resp ε α → σ → Except ε α → σ → Prop where
  | ret (r : Except ε α) (s : σ) : Runs (.ret r) s r s
  | call {c : C} {next : Except ε (Resp c) → Program C Resp ε α} {s s' s'' : σ}
      {r : Except ε α} (moved : R s s') (rest : Runs (next (H c s').1) (H c s').2 r s'') :
      Runs (.call c next) s r s''

variable {H R}

/-- A program alone is a program in an environment that can stay still. -/
theorem runs_run (still : ∀ s, R s s) (p : Program C Resp ε α) (s : σ) :
    p.Runs H R s (p.run H s).1 (p.run H s).2 := by
  induction p generalizing s with
  | ret r => exact .ret r s
  | call c next ih => exact .call (still s) (ih _ _)

/-! ## Stopping -/

variable (H)

/-- `Stops H p s c s'`: performed alone from `s`, the program can stop just before the
command `c`, in the state `s'`. -/
inductive Stops : Program C Resp ε α → σ → C → σ → Prop where
  | here (c : C) (next : Except ε (Resp c) → Program C Resp ε α) (s : σ) :
      Stops (.call c next) s c s
  | later {c c' : C} {next : Except ε (Resp c) → Program C Resp ε α} {s s' : σ}
      (rest : Stops (next (H c s).1) (H c s).2 c' s') : Stops (.call c next) s c' s'

/-- The command after the first `n`, and the state before it. -/
def stopAfter : ℕ → Program C Resp ε α → σ → Option (C × σ)
  | _, .ret _, _ => none
  | 0, .call c _, s => some (c, s)
  | n + 1, .call c next, s => stopAfter n (next (H c s).1) (H c s).2

theorem stops_of_stopAfter {n : ℕ} {p : Program C Resp ε α} {s s' : σ} {c : C}
    (stop : p.stopAfter H n s = some (c, s')) : p.Stops H s c s' := by
  induction n generalizing p s with
  | zero =>
      cases p with
      | ret r => cases stop
      | call d next =>
          cases stop
          exact .here c next s'
  | succ n ih =>
      cases p with
      | ret r => cases stop
      | call d next => exact .later (ih stop)

variable {H}

/-- What every command keeps holds where a program stops. -/
theorem Stops.invariant {I : σ → Prop} (commands : ∀ c s, I s → I (H c s).2)
    {p : Program C Resp ε α} {s s' : σ} {c : C} (stops : p.Stops H s c s') (holds : I s) :
    I s' := by
  induction stops with
  | here => exact holds
  | later _ ih => exact ih (commands _ _ holds)

/-! ## Failing commands -/

/-- What becomes of a command: it is performed, it is performed but its answer is lost, it is
refused without effect, or the process dies before it. -/
inductive Fate where
  | done
  | lost
  | fails
  | dies
  deriving DecidableEq, Repr

/-- The command takes effect. -/
def Fate.takesEffect : Fate → Bool
  | .done | .lost => true
  | .fails | .dies => false

/-- A plan for one execution: the fate of the `n`-th command, and what others have done to
the state before it. -/
structure Plan (σ : Type v) where
  fate : ℕ → Fate
  move : ℕ → σ → σ

/-- Perform a program from its `n`-th command on under a plan. A process that dies has no
result. -/
def exec (H : Handler C Resp ε σ) (fault : ε) (plan : Plan σ) :
    Program C Resp ε α → ℕ → σ → Option (Except ε α) × σ
  | .ret r, _, s => (some r, s)
  | .call c next, n, s =>
      match plan.fate n with
      | .done => (next (H c (plan.move n s)).1).exec H fault plan (n + 1) (H c (plan.move n s)).2
      | .lost => (next (.error fault)).exec H fault plan (n + 1) (H c (plan.move n s)).2
      | .fails => (next (.error fault)).exec H fault plan (n + 1) (plan.move n s)
      | .dies => (none, plan.move n s)

section Exec

variable {H : Handler C Resp ε σ} {fault : ε} {plan : Plan σ}

@[simp] theorem exec_pure (a : α) (n : ℕ) (s : σ) :
    (pure a : Program C Resp ε α).exec H fault plan n s = (some (.ok a), s) := rfl

@[simp] theorem exec_throw (e : ε) (n : ℕ) (s : σ) :
    (throw e : Program C Resp ε α).exec H fault plan n s = (some (.error e), s) := rfl

/-- A program under a plan from its first command: only one that is done with an answer leads
on. -/
theorem exec_perform_bind {c : C} {k : Resp c → Program C Resp ε α} {n : ℕ} {s : σ} :
    (perform c >>= k).exec H fault plan n s =
      match plan.fate n with
      | .done =>
          match H c (plan.move n s) with
          | (.ok a, s') => (k a).exec H fault plan (n + 1) s'
          | (.error e, s') => (some (.error e), s')
      | .lost => (some (.error fault), (H c (plan.move n s)).2)
      | .fails => (some (.error fault), plan.move n s)
      | .dies => (none, plan.move n s) := by
  change exec H fault plan (.call c fun answer => (Program.ret answer).bind k) n s = _
  rw [exec]
  cases plan.fate n with
  | done =>
      rcases answer : H c (plan.move n s) with ⟨_ | _, s'⟩
      · rfl
      · rfl
  | lost => rfl
  | fails => rfl
  | dies => rfl

/-- A command that only reads leads on when it is done, and otherwise ends the program where
it was. -/
theorem exec_query_bind (fault : ε) {c : C} {k : Resp c → Program C Resp ε α} {n : ℕ} {s : σ}
    {a : Resp c} (reads : H c s = (.ok a, s)) (still : plan.move n s = s) :
    plan.fate n = .done ∧
        (perform c >>= k).exec H fault plan n s = (k a).exec H fault plan (n + 1) s ∨
      plan.fate n ≠ .done ∧ ((perform c >>= k).exec H fault plan n s).2 = s := by
  rw [exec_perform_bind, still, reads]
  cases plan.fate n with
  | done => exact .inl ⟨rfl, rfl⟩
  | lost => exact .inr ⟨nofun, rfl⟩
  | fails => exact .inr ⟨nofun, rfl⟩
  | dies => exact .inr ⟨nofun, rfl⟩

end Exec

end Program

/-! ## Observed handlers -/

/-- The handler that also keeps a record of the commands. The record does not change what
the commands do. -/
def Handler.observed {C : Type u} {Resp : C → Type u} {ε : Type u} {σ : Type v} {μ : Type w}
    (H : Handler C Resp ε σ) (note : C → σ → μ → μ) : Handler C Resp ε (σ × μ) :=
  fun c s => ((H c s.1).1, (H c s.1).2, note c s.1 s.2)

end AtomicProgram
