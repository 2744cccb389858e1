import SupportCrm.Library.Program

/-!
# Rely and guarantee

`Sat H R A G p Q s` says of a program `p` about to run from `s`: as long as the environment
moves the state only along the rely `R`, and every command the program performs meets the
assumption `A` in the state where it is performed, each of these commands meets the
guarantee `G` there, and a result, if one is reached, meets `Q`, whatever the environment
does afterwards.

The rules follow the program: `sat_pure`, `sat_perform`, `sat_bind`, `sat_attempt`. They
settle a program alone (`Sat.of_runs`), and programs among each other: in a `Pool` any
program may take the next turn, and in between the environment may act. If every step of
one program, and every act of the environment, is a move the others rely on, then each
program keeps its guarantee along every schedule (`Pool.sat_exec`).
-/

set_option autoImplicit false

namespace AtomicProgram

universe u v w x

variable {C : Type u} {Resp : C → Type u} {ε α β : Type u} {σ : Type v}

/-! ## One program -/

/-- The program keeps the guarantee `G` and ends in `Q`, given the rely `R` and the
assumption `A`. -/
def Sat (H : Handler C Resp ε σ) (R : σ → σ → Prop) (A G : C → σ → Prop) :
    Program C Resp ε α → (Except ε α → σ → Prop) → σ → Prop
  | .ret r, Q, s => ∀ s', R s s' → Q r s'
  | .call c next, Q, s => ∀ s', R s s' → A c s' →
      G c s' ∧ Sat H R A G (next (H c s').1) Q (H c s').2

/-- The postcondition of a first part: what the second part needs of a value, and what is
asked of an error in the end. -/
def Passes (next : β → σ → Prop) (Q : Except ε α → σ → Prop) : Except ε β → σ → Prop
  | .ok b, s => next b s
  | .error e, s => Q (.error e) s

section Rules

variable {H : Handler C Resp ε σ} {R : σ → σ → Prop} {A G : C → σ → Prop}
variable {Q Q' : Except ε α → σ → Prop} {s s' : σ}

theorem sat_pure {a : α} (holds : ∀ s', R s s' → Q (.ok a) s') :
    Sat H R A G (pure a) Q s := holds

theorem sat_call {c : C} {next : Except ε (Resp c) → Program C Resp ε α}
    (holds : ∀ s', R s s' → A c s' → G c s' ∧ Sat H R A G (next (H c s').1) Q (H c s').2) :
    Sat H R A G (.call c next) Q s := holds

theorem sat_perform {c : C} {Q : Except ε (Resp c) → σ → Prop}
    (holds : ∀ s', R s s' → A c s' → G c s' ∧ ∀ s'', R (H c s').2 s'' → Q (H c s').1 s'') :
    Sat H R A G (Program.perform c) Q s := holds

/-- What a program satisfies does not depend on when the environment moves. -/
theorem Sat.move (trans : ∀ a b c, R a b → R b c → R a c) {p : Program C Resp ε α}
    (sat : Sat H R A G p Q s) (moved : R s s') : Sat H R A G p Q s' := by
  cases p with
  | ret r => exact fun s'' moved' => sat s'' (trans _ _ _ moved moved')
  | call c next => exact fun s'' moved' => sat s'' (trans _ _ _ moved moved')

theorem Sat.imp {A' G' : C → σ → Prop} {p : Program C Resp ε α} (sat : Sat H R A G p Q s)
    (stronger : ∀ c s, A' c s → A c s) (kept : ∀ c s, G c s → G' c s)
    (weaker : ∀ r s, Q r s → Q' r s) : Sat H R A' G' p Q' s := by
  induction p generalizing s with
  | ret r => exact fun s' moved => weaker r s' (sat s' moved)
  | call c next ih =>
      intro s' moved assumed
      obtain ⟨here, rest⟩ := sat s' moved (stronger c s' assumed)
      exact ⟨kept c s' here, ih _ rest⟩

theorem Sat.mono {p : Program C Resp ε α} (sat : Sat H R A G p Q s)
    (weaker : ∀ r s, Q r s → Q' r s) : Sat H R A G p Q' s :=
  sat.imp (fun _ _ => id) (fun _ _ => id) weaker

/-- The frame rule: what the environment and every command keep holds in the end. -/
theorem Sat.keeping {F : σ → Prop} (moves : ∀ s s', R s s' → F s → F s')
    (commands : ∀ c s, A c s → F s → F (H c s).2) {p : Program C Resp ε α} (sat : Sat H R A G p Q s)
    (holds : F s) : Sat H R A G p (fun r s => Q r s ∧ F s) s := by
  induction p generalizing s with
  | ret r => exact fun s' moved => ⟨sat s' moved, moves s s' moved holds⟩
  | call c next ih =>
      intro s' moved assumed
      obtain ⟨kept, rest⟩ := sat s' moved assumed
      exact ⟨kept, ih _ rest (commands c s' assumed (moves s s' moved holds))⟩

/-- The rule of composition: what follows is satisfied from wherever the first program
ends well, and an error of the first program is the end. -/
theorem sat_bind (refl : ∀ s, R s s) {p : Program C Resp ε β} {k : β → Program C Resp ε α}
    (first : Sat H R A G p (Passes (fun b => Sat H R A G (k b) Q) Q) s) :
    Sat H R A G (p >>= k) Q s := by
  induction p generalizing s with
  | ret r =>
      cases r with
      | ok b => exact first s (refl s)
      | error e => exact first
  | call c next ih =>
      intro s' moved assumed
      obtain ⟨kept, rest⟩ := first s' moved assumed
      exact ⟨kept, ih _ rest⟩

/-- One command, with what follows for each answer. -/
theorem sat_perform_bind {c : C} {k : Resp c → Program C Resp ε α}
    (kept : ∀ s', R s s' → A c s' → G c s')
    (ok : ∀ s' answer, R s s' → A c s' → (H c s').1 = .ok answer →
      Sat H R A G (k answer) Q (H c s').2)
    (error : ∀ s' e, R s s' → A c s' → (H c s').1 = .error e →
      ∀ s'', R (H c s').2 s'' → Q (.error e) s'') :
    Sat H R A G (Program.perform c >>= k) Q s := by
  refine sat_call fun s' moved assumed => ⟨kept s' moved assumed, ?_⟩
  cases answered : (H c s').1 with
  | ok answer => exact ok s' answer moved assumed answered
  | error e => exact error s' e moved assumed answered

/-- A program of commands that need no assumption about the state. -/
theorem sat_of_always {P : C → Prop} {p : Program C Resp ε α} (always : p.Always P)
    (commands : ∀ c s, P c → G c s) (holds : ∀ r s, Q r s) : Sat H R A G p Q s := by
  induction p generalizing s with
  | ret r => exact fun s' _ => holds r s'
  | call c next ih => exact fun s' _ _ => ⟨commands c s' always.1, ih _ (always.2 _)⟩

theorem sat_attempt {p : Program C Resp ε α} {Q : Except ε (Except ε α) → σ → Prop}
    (inner : Sat H R A G p (fun r => Q (.ok r)) s) : Sat H R A G p.attempt Q s := by
  induction p generalizing s with
  | ret r => exact inner
  | call c next ih =>
      intro s' moved assumed
      obtain ⟨kept, rest⟩ := inner s' moved assumed
      exact ⟨kept, ih _ rest⟩

/-- **Tries that come to an end.** If a try from `I m` either ends well, in `Q`, or fails
in `I m'` for a smaller `m'`, then `m` more tries are enough to end well. -/
theorem sat_attempts (refl : ∀ s, R s s) {p : Program C Resp ε α} {I : ℕ → σ → Prop}
    {Q : α → σ → Prop}
    (each : ∀ m s, I m s → Sat H R A G p
      (fun r s => (∃ a, r = .ok a ∧ ∀ s', R s s' → Q a s') ∨
        ∃ e, r = .error e ∧ ∃ m' < m, I m' s) s) :
    ∀ n m s, m ≤ n → I m s →
      Sat H R A G (p.attempts n) (fun r s => ∃ a, r = .ok a ∧ Q a s) s
  | 0, m, s, enough, holds => (each m s holds).mono fun r s post => by
      rcases post with ⟨a, rfl, post⟩ | ⟨e, -, m', lower, -⟩
      · exact ⟨a, rfl, post s (refl s)⟩
      · omega
  | n + 1, m, s, enough, holds => by
      refine sat_bind refl (sat_attempt ((each m s holds).mono fun r s post => ?_))
      rcases post with ⟨a, rfl, post⟩ | ⟨e, rfl, m', lower, holds'⟩
      · exact fun s' moved => ⟨a, rfl, post s' moved⟩
      · exact sat_attempts refl each n m' s (by omega) holds'

/-- A run in an environment that keeps the rely ends in `Q`. -/
theorem Sat.of_runs (refl : ∀ s, R s s) {p : Program C Resp ε α} {r : Except ε α}
    (runs : p.Runs H R s r s') (sat : Sat H R (fun _ _ => True) G p Q s) : Q r s' := by
  induction runs with
  | ret r s => exact sat s (refl s)
  | call moved rest ih => exact ih (sat _ moved trivial).2

/-- Where a program can stop, its guarantee holds. -/
theorem Sat.stops (refl : ∀ s, R s s) {p : Program C Resp ε α} {c : C}
    (stops : p.Stops H s c s') (sat : Sat H R (fun _ _ => True) G p Q s) : G c s' := by
  induction stops with
  | here c next s => exact (sat s (refl s) trivial).1
  | later rest ih => exact ih (sat _ (refl _) trivial).2

end Rules

/-! ## Programs among each other -/

/-- What happens next: a program takes its turn, or the environment acts. -/
inductive Act (τ : Type w) where
  | turn (i : ℕ)
  | env (e : τ)

/-- Programs over one state. -/
structure Pool (C : Type u) (Resp : C → Type u) (ε α : Type u) (σ : Type v) where
  programs : List (Program C Resp ε α)
  state : σ

namespace Pool

variable {τ : Type w} (H : ℕ → Handler C Resp ε σ) (E : τ → σ → σ)

/-- One step of the pool. The turn of a program that has ended, or of none, changes
nothing. -/
def step (pool : Pool C Resp ε α σ) : Act τ → Pool C Resp ε α σ
  | .turn i =>
      match pool.programs[i]? with
      | some (.call c next) =>
          ⟨pool.programs.set i (next (H i c pool.state).1), (H i c pool.state).2⟩
      | _ => pool
  | .env e => ⟨pool.programs, E e pool.state⟩

/-- A schedule of steps. -/
def exec (pool : Pool C Resp ε α σ) (schedule : List (Act τ)) : Pool C Resp ε α σ :=
  schedule.foldl (step H E) pool

/-- What happens meets `P`, if it is a command, and `N`, if it is an act of the
environment. -/
def Allows (P : ℕ → C → σ → Prop) (N : τ → σ → Prop) (pool : Pool C Resp ε α σ) : Act τ → Prop
  | .turn i => ∀ p ∈ pool.programs[i]?, ∀ c ∈ p.command?, P i c pool.state
  | .env e => N e pool.state

/-- Every command performed along the schedule meets `P`, and every act of the environment
meets `N`, in the state where it happens. -/
def Meets (P : ℕ → C → σ → Prop) (N : τ → σ → Prop) :
    Pool C Resp ε α σ → List (Act τ) → Prop
  | _, [] => True
  | pool, act :: rest => pool.Allows P N act ∧ Meets P N (pool.step H E act) rest

instance {P : ℕ → C → σ → Prop} {N : τ → σ → Prop} [∀ i c s, Decidable (P i c s)]
    [∀ e s, Decidable (N e s)] (pool : Pool C Resp ε α σ) :
    (act : Act τ) → Decidable (pool.Allows P N act)
  | .turn i => inferInstanceAs (Decidable (∀ p ∈ pool.programs[i]?, ∀ c ∈ p.command?, _))
  | .env e => inferInstanceAs (Decidable (N e pool.state))

instance decidableMeets {P : ℕ → C → σ → Prop} {N : τ → σ → Prop}
    [∀ i c s, Decidable (P i c s)] [∀ e s, Decidable (N e s)] :
    (pool : Pool C Resp ε α σ) → (schedule : List (Act τ)) →
      Decidable (pool.Meets H E P N schedule)
  | _, [] => instDecidableTrue
  | pool, act :: rest =>
      letI : Decidable (Meets H E P N (pool.step H E act) rest) := decidableMeets _ rest
      inferInstanceAs (Decidable (_ ∧ _))

/-- Every program has ended. -/
def Done (pool : Pool C Resp ε α σ) : Prop := ∀ p ∈ pool.programs, ∃ r, p = .ret r

instance (pool : Pool C Resp ε α σ) : Decidable pool.Done :=
  decidable_of_iff (∀ p ∈ pool.programs, p.command?.isNone)
    (forall₂_congr fun _ _ => Option.isNone_iff_eq_none.trans Program.command?_eq_none_iff)

@[simp] theorem exec_nil (pool : Pool C Resp ε α σ) : pool.exec H E [] = pool := rfl

@[simp] theorem exec_cons (pool : Pool C Resp ε α σ) (act : Act τ) (rest : List (Act τ)) :
    pool.exec H E (act :: rest) = (pool.step H E act).exec H E rest := rfl

variable {H E}

theorem length_exec (pool : Pool C Resp ε α σ) (schedule : List (Act τ)) :
    (pool.exec H E schedule).programs.length = pool.programs.length := by
  induction schedule generalizing pool with
  | nil => rfl
  | cons act rest ih =>
      rw [exec_cons, ih]
      cases act with
      | env e => rfl
      | turn i =>
          simp only [step]
          split
          · exact List.length_set
          · rfl

theorem Meets.mono {P P' : ℕ → C → σ → Prop} {N N' : τ → σ → Prop}
    (commands : ∀ i c s, P i c s → P' i c s) (acts : ∀ e s, N e s → N' e s)
    {pool : Pool C Resp ε α σ} {schedule : List (Act τ)} (meets : pool.Meets H E P N schedule) :
    pool.Meets H E P' N' schedule := by
  induction schedule generalizing pool with
  | nil => trivial
  | cons act rest ih =>
      refine ⟨?_, ih meets.2⟩
      cases act with
      | turn i => exact fun p current c called => commands i c _ (meets.1 p current c called)
      | env e => exact acts e _ meets.1

theorem meets_and {P P' : ℕ → C → σ → Prop} {N N' : τ → σ → Prop} {pool : Pool C Resp ε α σ}
    {schedule : List (Act τ)} (meets : pool.Meets H E P N schedule)
    (meets' : pool.Meets H E P' N' schedule) :
    pool.Meets H E (fun i c s => P i c s ∧ P' i c s) (fun e s => N e s ∧ N' e s) schedule := by
  induction schedule generalizing pool with
  | nil => trivial
  | cons act rest ih =>
      refine ⟨?_, ih meets.2 meets'.2⟩
      cases act with
      | turn i =>
          exact fun p current c called =>
            ⟨meets.1 p current c called, meets'.1 p current c called⟩
      | env e => exact ⟨meets.1, meets'.1⟩

/-- Conditions that agree where a third one holds are met by the same schedules. -/
theorem meets_congr {P P₁ P₂ : ℕ → C → σ → Prop} {N N₁ N₂ : τ → σ → Prop}
    {pool : Pool C Resp ε α σ} {schedule : List (Act τ)} (meets : pool.Meets H E P N schedule)
    (commands : ∀ i c s, P i c s → (P₁ i c s ↔ P₂ i c s))
    (acts : ∀ e s, N e s → (N₁ e s ↔ N₂ e s)) :
    pool.Meets H E P₁ N₁ schedule ↔ pool.Meets H E P₂ N₂ schedule := by
  constructor
  · intro first
    exact (meets_and meets first).mono (fun i c s both => (commands i c s both.1).mp both.2)
      fun e s both => (acts e s both.1).mp both.2
  · intro second
    exact (meets_and meets second).mono (fun i c s both => (commands i c s both.1).mpr both.2)
      fun e s both => (acts e s both.1).mpr both.2

/-- A condition that holds everywhere is met by every schedule. -/
theorem meets_of_forall {P : ℕ → C → σ → Prop} {N : τ → σ → Prop} (commands : ∀ i c s, P i c s)
    (acts : ∀ e s, N e s) (pool : Pool C Resp ε α σ) (schedule : List (Act τ)) :
    pool.Meets H E P N schedule := by
  induction schedule generalizing pool with
  | nil => trivial
  | cons act rest ih =>
      refine ⟨?_, ih _⟩
      cases act with
      | turn i => exact fun _ _ c _ => commands i c _
      | env e => exact acts e _

theorem exec_append (pool : Pool C Resp ε α σ) (first second : List (Act τ)) :
    pool.exec H E (first ++ second) = (pool.exec H E first).exec H E second :=
  List.foldl_append

/-- **Invariants of a pool.** What every command and every act keeps holds along every
schedule. -/
theorem invariant_exec {P : ℕ → C → σ → Prop} {N : τ → σ → Prop} {I : σ → Prop}
    (commands : ∀ i c s, P i c s → I s → I (H i c s).2) (acts : ∀ e s, N e s → I s → I (E e s))
    {pool : Pool C Resp ε α σ} {schedule : List (Act τ)} (meets : pool.Meets H E P N schedule)
    (holds : I pool.state) : I (pool.exec H E schedule).state := by
  induction schedule generalizing pool with
  | nil => exact holds
  | cons act rest ih =>
      refine ih meets.2 ?_
      cases act with
      | env e => exact acts e _ meets.1 holds
      | turn i =>
          simp only [step]
          split
          · next c next current => exact commands i c _ (meets.1 _ current c rfl) holds
          · exact holds

/-- The turn of a program that has a command to perform. -/
theorem turn_of_call (H : ℕ → Handler C Resp ε σ) (E : τ → σ → σ) {pool : Pool C Resp ε α σ} {i : ℕ}
    {c : C} {next : Except ε (Resp c) → Program C Resp ε α}
    (current : pool.programs[i]? = some (.call c next)) :
    (pool.step H E (.turn i)).state = (H i c pool.state).2 ∧
      (pool.step H E (.turn i)).programs[i]? = some (next (H i c pool.state).1) ∧
      ∀ j ≠ i, (pool.step H E (.turn i)).programs[j]? = pool.programs[j]? := by
  have inside : i < pool.programs.length := (List.getElem?_eq_some_iff.mp current).1
  have moved : pool.step H E (.turn i) =
      ⟨pool.programs.set i (next (H i c pool.state).1), (H i c pool.state).2⟩ := by
    simp [step, current]
  rw [moved]
  exact ⟨rfl, List.getElem?_set_self inside, fun j other => List.getElem?_set_ne other.symm⟩

/-- What a turn does: the next command of its program, or nothing when there is none. -/
theorem step_turn (H : ℕ → Handler C Resp ε σ) (E : τ → σ → σ) (pool : Pool C Resp ε α σ) (j : ℕ) :
    (∃ c next, pool.programs[j]? = some (.call c next) ∧
      (pool.step H E (.turn j)).state = (H j c pool.state).2 ∧
      ∀ i, (pool.step H E (.turn j)).programs[i]? =
        if i = j then some (next (H j c pool.state).1) else pool.programs[i]?) ∨
    pool.step H E (.turn j) = pool := by
  simp only [step]
  split
  · next c next current =>
    have inside : j < pool.programs.length := (List.getElem?_eq_some_iff.mp current).1
    refine .inl ⟨c, next, current, rfl, fun i => ?_⟩
    split
    · next own =>
      subst own
      exact List.getElem?_set_self inside
    · next other => exact List.getElem?_set_ne (Ne.symm other)
  · exact .inr rfl

/-- The commands of programs that perform only commands of a kind. -/
theorem meets_of_always {P : ℕ → C → Prop} {pool : Pool C Resp ε α σ}
    (always : ∀ i (p : Program C Resp ε α), pool.programs[i]? = some p → p.Always (P i))
    (schedule : List (Act τ)) :
    pool.Meets H E (fun i c _ => P i c) (fun _ _ => True) schedule := by
  induction schedule generalizing pool with
  | nil => trivial
  | cons act rest ih =>
      cases act with
      | env e => exact ⟨trivial, ih always⟩
      | turn j =>
          refine ⟨?_, ih fun i p present => ?_⟩
          · intro p current c called
            obtain ⟨next, rfl⟩ := Program.command?_eq_some_iff.mp called
            exact (always j _ current).1
          · rcases pool.step_turn H E j with ⟨c, next, current, -, programs⟩ | still
            · rw [programs] at present
              split at present
              · next own =>
                subst own
                cases present
                exact (always _ _ current).2 _
              · exact always i p present
            · rw [still] at present
              exact always i p present

/-- What holds in every state along a schedule holds wherever something happens. -/
theorem meets_of_states {S : σ → Prop} {pool : Pool C Resp ε α σ} {schedule : List (Act τ)}
    (holds : ∀ n, S (pool.exec H E (schedule.take n)).state) :
    pool.Meets H E (fun _ _ s => S s) (fun _ s => S s) schedule := by
  induction schedule generalizing pool with
  | nil => trivial
  | cons act rest ih =>
      refine ⟨?_, ih fun n => by simpa using holds (n + 1)⟩
      cases act with
      | turn i => exact fun _ _ _ _ => holds 0
      | env e => exact holds 0

/-- What every command and act is a move of, the schedule is from each of its states. -/
theorem meets_of_moves {R : σ → σ → Prop} (refl : ∀ s, R s s)
    (trans : ∀ s s' s'', R s s' → R s' s'' → R s s'') (commands : ∀ i c s, R s (H i c s).2)
    (acts : ∀ e s, R s (E e s)) (pool : Pool C Resp ε α σ) (schedule : List (Act τ)) :
    pool.Meets H E (fun _ _ s => R s (pool.exec H E schedule).state) (fun _ _ => True)
      schedule := by
  have moves : ∀ (pool : Pool C Resp ε α σ) (schedule : List (Act τ)),
      R pool.state (pool.exec H E schedule).state := by
    intro pool schedule
    refine invariant_exec (I := R pool.state) (fun i c s _ moved => trans _ _ _ moved (commands i c s))
      (fun e s _ moved => trans _ _ _ moved (acts e s))
      (meets_of_forall (fun _ _ _ => trivial) (fun _ _ => trivial) pool schedule) (refl pool.state)
  induction schedule generalizing pool with
  | nil => trivial
  | cons act rest ih =>
      refine ⟨?_, ih (pool.step H E act)⟩
      cases act with
      | turn i => exact fun _ _ _ _ => moves pool _
      | env e => trivial

/-- A property that every act keeps, and a command exactly when it meets `P'`, holds all along
a schedule exactly when all its commands meet `P'`. -/
theorem invariant_iff_meets {P P' : ℕ → C → σ → Prop} {N : τ → σ → Prop} {I : σ → Prop}
    (commands : ∀ i c s, P i c s → I s → (I (H i c s).2 ↔ P' i c s))
    (acts : ∀ e s, N e s → I s → I (E e s)) {pool : Pool C Resp ε α σ} {schedule : List (Act τ)}
    (meets : pool.Meets H E P N schedule) (holds : I pool.state) :
    (∀ n, I (pool.exec H E (schedule.take n)).state) ↔
      pool.Meets H E P' (fun _ _ => True) schedule := by
  induction schedule generalizing pool with
  | nil => exact iff_of_true (fun n => by simpa using holds) trivial
  | cons act rest ih =>
      have here : I (pool.step H E act).state ↔ pool.Allows P' (fun _ _ => True) act := by
        cases act with
        | env e => exact iff_of_true (acts e _ meets.1 holds) trivial
        | turn j =>
            simp only [step]
            split
            · next c next current =>
              refine (commands j c _ (meets.1 _ current c rfl) holds).trans ?_
              simp [Allows, current, Program.command?]
            · next ended =>
              refine iff_of_true holds fun p current c called => ?_
              obtain ⟨next, rfl⟩ := Program.command?_eq_some_iff.mp called
              exact absurd current (ended c next)
      constructor
      · intro always
        have next : I (pool.step H E act).state := by simpa using always 1
        exact ⟨here.mp next, (ih meets.2 next).mp fun n => by simpa using always (n + 1)⟩
      · rintro ⟨allowed, rest⟩ n
        cases n with
        | zero => exact holds
        | succ n => exact (ih meets.2 (here.mpr allowed)).mpr rest n

/-- What a schedule meets, its first part meets, and its second part from where the first
one ends. -/
theorem meets_append_iff {P : ℕ → C → σ → Prop} {N : τ → σ → Prop} {pool : Pool C Resp ε α σ}
    {first second : List (Act τ)} :
    pool.Meets H E P N (first ++ second) ↔
      pool.Meets H E P N first ∧ (pool.exec H E first).Meets H E P N second := by
  induction first generalizing pool with
  | nil => exact (iff_of_eq (true_and _)).symm
  | cons act rest ih => exact (and_congr_right fun _ => ih).trans and_assoc.symm

section Observed

variable {μ : Type x}

/-- The pool with a record beside its state. -/
def withRecord (pool : Pool C Resp ε α σ) (m : μ) : Pool C Resp ε α (σ × μ) :=
  ⟨pool.programs, (pool.state, m)⟩

/-- The handlers with a record, and the environment that leaves it alone. -/
abbrev observed (H : ℕ → Handler C Resp ε σ) (note : ℕ → C → σ → μ → μ) :
    ℕ → Handler C Resp ε (σ × μ) :=
  fun i => (H i).observed (note i)

abbrev unrecorded (E : τ → σ → σ) : τ → σ × μ → σ × μ := fun e s => (E e s.1, s.2)

/-- A record does not change the steps. -/
theorem step_withRecord (note : ℕ → C → σ → μ → μ) (pool : Pool C Resp ε α σ) (m : μ) (act : Act τ) :
    ∃ m', (pool.withRecord m).step (observed H note) (unrecorded E) act =
      (pool.step H E act).withRecord m' := by
  cases act with
  | env e => exact ⟨m, rfl⟩
  | turn i =>
      simp only [step, withRecord]
      split
      · exact ⟨_, rfl⟩
      · exact ⟨m, rfl⟩

theorem exec_withRecord (note : ℕ → C → σ → μ → μ) (pool : Pool C Resp ε α σ) (m : μ)
    (schedule : List (Act τ)) :
    ∃ m', (pool.withRecord m).exec (observed H note) (unrecorded E) schedule =
      (pool.exec H E schedule).withRecord m' := by
  induction schedule generalizing pool m with
  | nil => exact ⟨m, rfl⟩
  | cons act rest ih =>
      obtain ⟨m', same⟩ := step_withRecord (H := H) (E := E) note pool m act
      rw [exec_cons, exec_cons, same]
      exact ih _ m'

/-- What is said of the state alone is met with and without the record. -/
theorem meets_withRecord_iff (note : ℕ → C → σ → μ → μ) {P : ℕ → C → σ → Prop} {N : τ → σ → Prop}
    {pool : Pool C Resp ε α σ} {m : μ} {schedule : List (Act τ)} :
    (pool.withRecord m).Meets (observed H note) (unrecorded E) (fun i c s => P i c s.1)
        (fun e s => N e s.1) schedule ↔ pool.Meets H E P N schedule := by
  induction schedule generalizing pool m with
  | nil => exact Iff.rfl
  | cons act rest ih =>
      obtain ⟨m', same⟩ := step_withRecord (H := H) (E := E) note pool m act
      refine and_congr ?_ (by rw [same]; exact ih)
      cases act <;> exact Iff.rfl

end Observed

section Sat

variable {R : ℕ → σ → σ → Prop} {A G : ℕ → C → σ → Prop} {N : τ → σ → Prop}
variable {Q : ℕ → Except ε α → σ → Prop}

/-- Whatever is left of each program satisfies its own guarantee. -/
def Sats (H : ℕ → Handler C Resp ε σ) (R : ℕ → σ → σ → Prop) (A G : ℕ → C → σ → Prop)
    (Q : ℕ → Except ε α → σ → Prop) (pool : Pool C Resp ε α σ) : Prop :=
  ∀ i p, pool.programs[i]? = some p → Sat (H i) (R i) (A i) (G i) p (Q i) pool.state

theorem sats_turn (refl : ∀ i s, R i s s) (trans : ∀ i a b c, R i a b → R i b c → R i a c)
    (others : ∀ i j, i ≠ j → ∀ c s, A j c s → G j c s → R i s (H j c s).2)
    {pool : Pool C Resp ε α σ} {j : ℕ}
    (assumed : pool.Allows A N (.turn j)) (sats : pool.Sats H R A G Q) :
    pool.Allows G N (.turn j) ∧ (pool.step H E (.turn j)).Sats H R A G Q := by
  have kept : pool.Allows G N (.turn j) := by
    rintro p current c called
    obtain ⟨next, rfl⟩ := Program.command?_eq_some_iff.mp called
    exact (sats j _ current _ (refl j _) (assumed _ current c rfl)).1
  refine ⟨kept, fun i p present => ?_⟩
  rcases pool.step_turn H E j with ⟨c, next, current, after, programs⟩ | still
  · rw [programs] at present
    rw [after]
    split at present
    · next own =>
      subst own
      cases present
      exact (sats _ _ current _ (refl _ _) (assumed _ current c rfl)).2
    · next other =>
      exact (sats i p present).move (trans i)
        (others i j other c _ (assumed _ current c rfl) (kept _ current c rfl))
  · rw [still] at present ⊢
    exact sats i p present

/-- **Rely and guarantee of a pool.** If every program satisfies its guarantee under its
rely, and the commands of each program and the acts of the environment are moves on which
the others rely, then along every schedule every command meets the guarantee of its
program, and whatever is left of each program still satisfies its own. -/
theorem sats_exec (refl : ∀ i s, R i s s) (trans : ∀ i a b c, R i a b → R i b c → R i a c)
    (others : ∀ i j, i ≠ j → ∀ c s, A j c s → G j c s → R i s (H j c s).2)
    (acts : ∀ i e s, N e s → R i s (E e s))
    {pool : Pool C Resp ε α σ} {schedule : List (Act τ)} (meets : pool.Meets H E A N schedule)
    (sats : pool.Sats H R A G Q) :
    pool.Meets H E G N schedule ∧ (pool.exec H E schedule).Sats H R A G Q := by
  induction schedule generalizing pool with
  | nil => exact ⟨trivial, sats⟩
  | cons act rest ih =>
      obtain ⟨now, later⟩ := meets
      cases act with
      | turn j =>
          obtain ⟨kept, left⟩ := sats_turn refl trans others now sats
          exact ⟨⟨kept, (ih later left).1⟩, (ih later left).2⟩
      | env e =>
          have left : (pool.step H E (.env e)).Sats H R A G Q := fun i p present =>
            Sat.move (s := pool.state) (trans i) (sats i p present) (acts i e _ now)
          exact ⟨⟨now, (ih later left).1⟩, (ih later left).2⟩

/-- The result of a program that has ended meets its postcondition. -/
theorem Sats.result (refl : ∀ i s, R i s s) {pool : Pool C Resp ε α σ}
    (sats : pool.Sats H R A G Q) {i : ℕ} {r : Except ε α}
    (ended : pool.programs[i]? = some (.ret r)) : Q i r pool.state :=
  sats i _ ended _ (refl i _)

end Sat

end Pool
end AtomicProgram
