import Mathlib.Data.List.Basic
import SupportCrm.Library.RelyGuarantee

/-!
# Logs of a program among others

`Logs H p log r` says that `p` can come to the result `r` by the commands of the log, each
performed in the state that stands beside it. Nothing is said of how the state came about:
what is proved of every log of a program holds of it in any company.

In a pool the commands of one program are `Pool.logOf`, and a program that has ended has
this log (`Pool.logs_of_ended`). What a whole schedule does to the state step by step is
`Pool.moves_iff_meets`.
-/

set_option autoImplicit false

namespace AtomicProgram

universe u v w

variable {C : Type u} {Resp : C → Type u} {ε α β : Type u} {σ : Type v} {τ : Type w}

namespace Program

/-- The program can perform the commands of the log, each in the state beside it, and end
with `r`. -/
inductive Logs (H : Handler C Resp ε σ) :
    Program C Resp ε α → List (C × σ) → Except ε α → Prop where
  | ret (r : Except ε α) : Logs H (.ret r) [] r
  | call {c : C} {next : Except ε (Resp c) → Program C Resp ε α} {log : List (C × σ)}
      {r : Except ε α} (s : σ) (rest : Logs H (next (H c s).1) log r) :
      Logs H (.call c next) ((c, s) :: log) r

variable {H : Handler C Resp ε σ} {log : List (C × σ)}

theorem logs_ret_iff {r r' : Except ε α} :
    (Program.ret r : Program C Resp ε α).Logs H log r' ↔ log = [] ∧ r' = r := by
  constructor
  · rintro ⟨⟩
    exact ⟨rfl, rfl⟩
  · rintro ⟨rfl, rfl⟩
    exact .ret r'

theorem logs_pure_iff {a : α} {r : Except ε α} :
    (pure a : Program C Resp ε α).Logs H log r ↔ log = [] ∧ r = .ok a :=
  logs_ret_iff

theorem logs_throw_iff {e : ε} {r : Except ε α} :
    (throw e : Program C Resp ε α).Logs H log r ↔ log = [] ∧ r = .error e :=
  logs_ret_iff

theorem logs_perform_iff {c : C} {r : Except ε (Resp c)} :
    (perform c : Program C Resp ε (Resp c)).Logs H log r ↔ ∃ s, log = [(c, s)] ∧ r = (H c s).1 := by
  constructor
  · intro logs
    cases logs with
    | call s rest =>
        obtain ⟨rfl, rfl⟩ := logs_ret_iff.mp rest
        exact ⟨s, rfl, rfl⟩
  · rintro ⟨s, rfl, rfl⟩
    exact .call s (.ret _)

/-- The log of a sequence is the log of its first part, followed, if that part ends well, by
the log of the second. -/
theorem logs_bind_iff {p : Program C Resp ε β} {k : β → Program C Resp ε α} {r : Except ε α} :
    (p >>= k).Logs H log r ↔
      (∃ first b second, log = first ++ second ∧ p.Logs H first (.ok b) ∧ (k b).Logs H second r) ∨
        ∃ e, r = .error e ∧ p.Logs H log (.error e) := by
  induction p generalizing log with
  | ret r₀ =>
      cases r₀ with
      | ok b =>
          constructor
          · intro rest
            exact .inl ⟨[], b, log, rfl, .ret _, rest⟩
          · rintro (⟨first, b', second, rfl, own, rest⟩ | ⟨e, -, failed⟩)
            · obtain ⟨rfl, same⟩ := logs_ret_iff.mp own
              cases same
              exact rest
            · cases (logs_ret_iff.mp failed).2
      | error e =>
          constructor
          · intro rest
            obtain ⟨rfl, rfl⟩ := logs_ret_iff.mp rest
            exact .inr ⟨e, rfl, .ret _⟩
          · rintro (⟨first, b, second, -, own, -⟩ | ⟨e', rfl, failed⟩)
            · cases (logs_ret_iff.mp own).2
            · obtain ⟨rfl, same⟩ := logs_ret_iff.mp failed
              cases same
              exact .ret _
  | call c next ih =>
      constructor
      · intro logs
        cases logs with
        | call s rest =>
            rcases (ih _).mp rest with ⟨first, b, second, rfl, own, rest⟩ | ⟨e, rfl, failed⟩
            · exact .inl ⟨(c, s) :: first, b, second, rfl, .call s own, rest⟩
            · exact .inr ⟨e, rfl, .call s failed⟩
      · rintro (⟨first, b, second, rfl, own, rest⟩ | ⟨e, rfl, failed⟩)
        · cases own with
          | call s own => exact .call s ((ih _).mpr (.inl ⟨_, b, second, rfl, own, rest⟩))
        · cases failed with
          | call s failed => exact .call s ((ih _).mpr (.inr ⟨e, rfl, failed⟩))

/-- One command, and what follows its answer. -/
theorem logs_perform_bind_iff {c : C} {k : Resp c → Program C Resp ε α} {r : Except ε α} :
    (perform c >>= k).Logs H log r ↔
      ∃ s, (∃ answer rest, (H c s).1 = .ok answer ∧ log = (c, s) :: rest ∧
          (k answer).Logs H rest r) ∨
        ∃ e, (H c s).1 = .error e ∧ log = [(c, s)] ∧ r = .error e := by
  rw [logs_bind_iff]
  constructor
  · rintro (⟨first, answer, second, rfl, own, rest⟩ | ⟨e, rfl, failed⟩)
    · obtain ⟨s, rfl, answered⟩ := logs_perform_iff.mp own
      exact ⟨s, .inl ⟨answer, second, answered.symm, rfl, rest⟩⟩
    · obtain ⟨s, rfl, answered⟩ := logs_perform_iff.mp failed
      exact ⟨s, .inr ⟨e, answered.symm, rfl, rfl⟩⟩
  · rintro ⟨s, ⟨answer, rest, answered, rfl, follows⟩ | ⟨e, answered, rfl, rfl⟩⟩
    · exact .inl ⟨[(c, s)], answer, rest, rfl, logs_perform_iff.mpr ⟨s, rfl, answered.symm⟩, follows⟩
    · exact .inr ⟨e, rfl, logs_perform_iff.mpr ⟨s, rfl, answered.symm⟩⟩

/-- A result that is dropped does not show in the log. -/
theorem logs_discard {p : Program C Resp ε α} {r : Except ε PUnit}
    (logs : (Functor.discard p).Logs H log r) :
    ∃ r', p.Logs H log r' ∧ ((∃ a, r' = .ok a) ↔ r = .ok ⟨⟩) := by
  change (p >>= fun _ => pure PUnit.unit).Logs H log r at logs
  rcases logs_bind_iff.mp logs with ⟨first, a, second, rfl, own, rest⟩ | ⟨e, rfl, failed⟩
  · obtain ⟨rfl, rfl⟩ := logs_pure_iff.mp rest
    exact ⟨.ok a, by rwa [List.append_nil], by simp⟩
  · exact ⟨.error e, failed, by simp⟩

/-- What every command of a program meets, the commands of its logs meet. -/
theorem Logs.forall_of_always {P : C → Prop} {p : Program C Resp ε α} {r : Except ε α}
    (logs : p.Logs H log r) (always : p.Always P) : ∀ entry ∈ log, P entry.1 := by
  induction logs with
  | ret r => simp
  | call s rest ih =>
      intro entry member
      rcases List.mem_cons.mp member with rfl | later
      · exact always.1
      · exact ih (always.2 _) entry later

end Program

namespace Pool

variable (H : ℕ → Handler C Resp ε σ) (E : τ → σ → σ)

/-- The command that an act makes the program perform, and the state before it. -/
def entryOf (i : ℕ) (pool : Pool C Resp ε α σ) : Act τ → List (C × σ)
  | .turn j =>
      if i = j then ((pool.programs[i]?.bind Program.command?).map (·, pool.state)).toList else []
  | .env _ => []

/-- The commands that one program performs along a schedule. -/
def logOf (i : ℕ) : Pool C Resp ε α σ → List (Act τ) → List (C × σ)
  | _, [] => []
  | pool, act :: rest => pool.entryOf i act ++ logOf i (pool.step H E act) rest

variable {H E}

/-- A program that has ended did so by its log. -/
theorem logs_of_ended {i : ℕ} {pool : Pool C Resp ε α σ} {schedule : List (Act τ)}
    {p : Program C Resp ε α} {r : Except ε α} (started : pool.programs[i]? = some p)
    (ended : (pool.exec H E schedule).programs[i]? = some (.ret r)) :
    p.Logs (H i) (pool.logOf H E i schedule) r := by
  induction schedule generalizing pool p with
  | nil =>
      obtain rfl := Option.some.inj (started.symm.trans ended)
      exact .ret r
  | cons act rest ih =>
      have inside : i < pool.programs.length := (List.getElem?_eq_some_iff.mp started).1
      cases act with
      | env e => exact @ih (pool.step H E (.env e)) _ started ended
      | turn j =>
          by_cases own : i = j
          · subst own
            cases p with
            | ret r' =>
                have still : pool.step H E (.turn i) = pool := by simp [step, started]
                rw [exec_cons, still] at ended
                simpa [logOf, entryOf, started, Program.command?, still] using ih started ended
            | call c next =>
                have moved : pool.step H E (.turn i) =
                    ⟨pool.programs.set i (next (H i c pool.state).1), (H i c pool.state).2⟩ := by
                  simp [step, started]
                have current : (pool.step H E (.turn i)).programs[i]? =
                    some (next (H i c pool.state).1) := by
                  rw [moved]
                  exact List.getElem?_set_self inside
                simpa [logOf, entryOf, started, Program.command?] using
                  Program.Logs.call pool.state (ih current ended)
          · have current : (pool.step H E (.turn j)).programs[i]? = some p := by
              rcases pool.step_turn H E j with ⟨c, next, -, -, programs⟩ | still
              · rw [programs, if_neg own, started]
              · rw [still, started]
            simpa [logOf, entryOf, own] using ih current ended

/-- Every step of a schedule is a move along a reflexive and transitive relation if and only
if the schedule leads along it from every earlier state to every later one. -/
theorem moves_iff_meets {R : σ → σ → Prop} (refl : ∀ s, R s s)
    (trans : ∀ s s' s'', R s s' → R s' s'' → R s s'') {pool : Pool C Resp ε α σ}
    {schedule : List (Act τ)} :
    (∀ n m, n ≤ m → R (pool.exec H E (schedule.take n)).state
        (pool.exec H E (schedule.take m)).state) ↔
      pool.Meets H E (fun i c s => R s (H i c s).2) (fun e s => R s (E e s)) schedule := by
  induction schedule generalizing pool with
  | nil => exact iff_of_true (fun n m _ => by simpa using refl pool.state) trivial
  | cons act rest ih =>
      have here : R pool.state (pool.step H E act).state ↔
          pool.Allows (fun i c s => R s (H i c s).2) (fun e s => R s (E e s)) act := by
        cases act with
        | env e => exact Iff.rfl
        | turn j =>
            simp only [step]
            split
            · next c next current => simp [Allows, current, Program.command?]
            · next ended =>
              refine iff_of_true (refl _) fun p current c called => ?_
              obtain ⟨next, rfl⟩ := Program.command?_eq_some_iff.mp called
              exact absurd current (ended c next)
      constructor
      · intro moves
        refine ⟨here.mp (by simpa using moves 0 1 (Nat.zero_le 1)), ih.mp fun n m le => ?_⟩
        simpa using moves (n + 1) (m + 1) (Nat.succ_le_succ le)
      · rintro ⟨allowed, later⟩ n m le
        have moves := ih.mpr later
        cases m with
        | zero =>
            obtain rfl := Nat.le_zero.mp le
            exact refl _
        | succ m =>
            cases n with
            | zero =>
                refine trans _ _ _ (here.mpr allowed) ?_
                simpa using moves 0 m (Nat.zero_le m)
            | succ n => exact moves n m (Nat.le_of_succ_le_succ le)

/-- **A latch.** If every step sets `S` exactly when `T` holds after it, and never takes it
back, then `S` holds at a moment exactly when it held at the start or `T` has held since. -/
theorem latch_iff {P : ℕ → C → σ → Prop} {N : τ → σ → Prop} {S T : σ → Prop}
    (commands : ∀ i c s, P i c s → (T s → S s) → (S (H i c s).2 ↔ S s ∨ T (H i c s).2))
    (acts : ∀ e s, N e s → (T s → S s) → (S (E e s) ↔ S s ∨ T (E e s)))
    {pool : Pool C Resp ε α σ} {schedule : List (Act τ)} (meets : pool.Meets H E P N schedule)
    (start : T pool.state → S pool.state) (n : ℕ) :
    S (pool.exec H E (schedule.take n)).state ↔
      S pool.state ∨ ∃ k ≤ n, T (pool.exec H E (schedule.take k)).state := by
  induction schedule generalizing pool n with
  | nil =>
      simp only [List.take_nil, exec_nil]
      exact ⟨.inl, fun held => held.elim id fun ⟨_, _, trigger⟩ => start trigger⟩
  | cons act rest ih =>
      have here : S (pool.step H E act).state ↔ S pool.state ∨ T (pool.step H E act).state := by
        cases act with
        | env e => exact acts e _ meets.1 start
        | turn j =>
            simp only [step]
            split
            · next c next current => exact commands j c _ (meets.1 _ current c rfl) start
            · exact ⟨.inl, fun held => held.elim id start⟩
      cases n with
      | zero =>
          refine ⟨.inl, fun held => held.elim id ?_⟩
          rintro ⟨k, le, trigger⟩
          obtain rfl := Nat.le_zero.mp le
          exact start trigger
      | succ n =>
          have later := ih meets.2 (fun trigger => here.mpr (.inr trigger)) n
          simp only [List.take_succ_cons, exec_cons]
          rw [later, here]
          constructor
          · rintro ((held | trigger) | ⟨k, le, trigger⟩)
            · exact .inl held
            · exact .inr ⟨1, Nat.succ_le_succ (Nat.zero_le n), by simpa using trigger⟩
            · exact .inr ⟨k + 1, Nat.succ_le_succ le, by simpa using trigger⟩
          · rintro (held | ⟨k, le, trigger⟩)
            · exact .inl (.inl held)
            · cases k with
              | zero => exact .inl (.inl (start trigger))
              | succ k => exact .inr ⟨k, Nat.le_of_succ_le_succ le, by simpa using trigger⟩

end Pool
end AtomicProgram
