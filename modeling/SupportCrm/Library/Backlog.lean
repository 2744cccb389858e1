import Mathlib.Algebra.BigOperators.Group.List.Basic
import Mathlib.Algebra.GroupWithZero.Nat

/-!
# Backlogs

A backlog holds tasks that are still to be done, in no order, and a ledger of what has been
done. A task is done by taking it out and adding what comes of it: further tasks and
entries of the ledger. Messages on their way, handlers that have been called and calls that
have not returned are all tasks of this kind.

What a run will have done in the end does not depend on the order. `worth` adds what the
ledger counts to what the tasks still owe. Doing a task keeps the worth, when what comes of
the task is worth what was due for it, so once nothing is left the ledger counts what was
due for everything that was ever added.
-/

set_option autoImplicit false

namespace Backlogs

universe u v

/-- What comes of a task. -/
structure Yield (τ : Type u) (ρ : Type v) where
  tasks : List τ
  entries : List ρ

/-- Tasks still to be done, and the ledger. -/
structure Backlog (τ : Type u) (ρ : Type v) where
  pending : List τ
  ledger : List ρ

variable {τ : Type u} {ρ : Type v}

/-- Nothing comes of it. -/
def Yield.nothing : Yield τ ρ := ⟨[], []⟩

/-- What comes of several at once. -/
def Yield.join (yields : List (Yield τ ρ)) : Yield τ ρ :=
  ⟨yields.flatMap Yield.tasks, yields.flatMap Yield.entries⟩

namespace Backlog

def empty : Backlog τ ρ := ⟨[], []⟩

def add (b : Backlog τ ρ) (yield : Yield τ ρ) : Backlog τ ρ :=
  ⟨b.pending ++ yield.tasks, b.ledger ++ yield.entries⟩

/-- Do the pending task at a position, if there is one. -/
def work (b : Backlog τ ρ) (i : ℕ) (yield : τ → Yield τ ρ) : Backlog τ ρ :=
  match b.pending[i]? with
  | none => b
  | some task => add ⟨b.pending.eraseIdx i, b.ledger⟩ (yield task)

theorem ledger_work (b : Backlog τ ρ) (i : ℕ) (yield : τ → Yield τ ρ) :
    (b.work i yield).ledger = b.ledger ∨
      ∃ task, (b.work i yield).ledger = b.ledger ++ (yield task).entries := by
  unfold work
  split
  · exact .inl rfl
  · next task _ => exact .inr ⟨task, rfl⟩

/-- Nothing is left to be done. -/
def Settled (b : Backlog τ ρ) : Prop := b.pending = []

instance (b : Backlog τ ρ) : Decidable b.Settled :=
  decidable_of_iff (b.pending.isEmpty = true) List.isEmpty_iff

/-- Something holds of all tasks, and something of all entries. -/
def All (P : τ → Prop) (Q : ρ → Prop) (b : Backlog τ ρ) : Prop :=
  (∀ task ∈ b.pending, P task) ∧ ∀ entry ∈ b.ledger, Q entry

section All

variable {P : τ → Prop} {Q : ρ → Prop} {b : Backlog τ ρ}

theorem all_empty : (empty : Backlog τ ρ).All P Q := by simp [All, empty]

theorem All.add (all : b.All P Q) {yield : Yield τ ρ} (tasks : ∀ task ∈ yield.tasks, P task)
    (entries : ∀ entry ∈ yield.entries, Q entry) : (b.add yield).All P Q := by
  refine ⟨fun task member => ?_, fun entry member => ?_⟩
  · exact (List.mem_append.mp member).elim (all.1 task) (tasks task)
  · exact (List.mem_append.mp member).elim (all.2 entry) (entries entry)

/-- It is enough to look at what comes of the tasks of which it holds. -/
theorem All.work (all : b.All P Q) {yield : τ → Yield τ ρ} (i : ℕ)
    (tasks : ∀ task, P task → ∀ task' ∈ (yield task).tasks, P task')
    (entries : ∀ task, P task → ∀ entry ∈ (yield task).entries, Q entry) :
    (b.work i yield).All P Q := by
  unfold Backlog.work
  split
  · exact all
  · next task listed =>
    have member := List.mem_of_getElem? listed
    refine All.add (b := ⟨b.pending.eraseIdx i, b.ledger⟩) ⟨fun task' member' => ?_, all.2⟩
      (tasks task (all.1 task member)) (entries task (all.1 task member))
    exact all.1 task' (List.mem_of_mem_eraseIdx member')

theorem All.imp {P' : τ → Prop} {Q' : ρ → Prop} (all : b.All P Q) (tasks : ∀ task, P task → P' task)
    (entries : ∀ entry, Q entry → Q' entry) : b.All P' Q' :=
  ⟨fun task member => tasks task (all.1 task member),
    fun entry member => entries entry (all.2 entry member)⟩

end All

section Worth

variable (due : τ → ℕ) (counts : ρ → ℕ)

/-- What tasks owe and entries count together. -/
def total (tasks : List τ) (entries : List ρ) : ℕ :=
  (tasks.map due).sum + (entries.map counts).sum

def worth (b : Backlog τ ρ) : ℕ := total due counts b.pending b.ledger

variable {due counts}

@[simp] theorem worth_empty : (empty : Backlog τ ρ).worth due counts = 0 := rfl

theorem worth_add (b : Backlog τ ρ) (yield : Yield τ ρ) :
    (b.add yield).worth due counts =
      b.worth due counts + total due counts yield.tasks yield.entries := by
  simp only [worth, add, total, List.map_append, List.sum_append]
  omega

/-- Doing a task keeps the worth. -/
theorem worth_work {yield : τ → Yield τ ρ}
    (fair : ∀ task, total due counts (yield task).tasks (yield task).entries = due task)
    (b : Backlog τ ρ) (i : ℕ) : (b.work i yield).worth due counts = b.worth due counts := by
  unfold work
  split
  · rfl
  · next task listed =>
    obtain ⟨inside, rfl⟩ := List.getElem?_eq_some_iff.mp listed
    have taken : (b.pending.map due).sum =
        due b.pending[i] + ((b.pending.eraseIdx i).map due).sum := by
      have same := (List.getElem_cons_eraseIdx_perm inside).map due
      rw [← same.sum_eq, List.map_cons, List.sum_cons]
    rw [worth_add, fair]
    simp only [worth, total, taken]
    omega

/-- Once nothing is left, the ledger counts all that was due. -/
theorem worth_of_settled {b : Backlog τ ρ} (settled : b.Settled) :
    b.worth due counts = (b.ledger.map counts).sum := by
  simp only [worth, total, show b.pending = [] from settled, List.map_nil, List.sum_nil, zero_add]

/-- Once nothing is left, as many entries are selected as were due. -/
theorem length_filterMap_of_settled {α : Type*} (due : τ → ℕ) {f : ρ → Option α} {b : Backlog τ ρ}
    (settled : b.Settled) :
    (b.ledger.filterMap f).length = b.worth due fun entry => (f entry).toList.length := by
  rw [worth_of_settled settled, List.filterMap_eq_flatMap_toList, List.length_flatMap]

end Worth

section Promised

variable {α : Type*} (f : ρ → Option α) (g : τ → List α)

/-- What has been selected, and what the tasks will still come to. -/
def promised (b : Backlog τ ρ) : List α := b.ledger.filterMap f ++ b.pending.flatMap g

variable {f g}

theorem promised_add (b : Backlog τ ρ) (yield : Yield τ ρ) :
    ((b.add yield).promised f g).Perm
      (b.promised f g ++ (yield.entries.filterMap f ++ yield.tasks.flatMap g)) := by
  simp only [promised, add, List.filterMap_append, List.flatMap_append, List.append_assoc]
  refine List.Perm.append_left _ ?_
  rw [← List.append_assoc, ← List.append_assoc]
  exact List.perm_append_comm.append_right _

/-- Doing a task changes nothing about what is promised, when what comes of the task is what it was
to come to. -/
theorem promised_work {yield : τ → Yield τ ρ}
    (faithful : ∀ task, ((yield task).entries.filterMap f ++ (yield task).tasks.flatMap g).Perm
      (g task)) (b : Backlog τ ρ) (i : ℕ) :
    ((b.work i yield).promised f g).Perm (b.promised f g) := by
  unfold work
  split
  · exact .refl _
  · next task listed =>
    obtain ⟨inside, rfl⟩ := List.getElem?_eq_some_iff.mp listed
    refine (promised_add _ _).trans ?_
    simp only [promised, List.append_assoc]
    refine List.Perm.append_left _ ?_
    refine (List.perm_append_comm.trans ((faithful _).append_right _)).trans ?_
    exact ((List.getElem_cons_eraseIdx_perm inside).flatMap_right g)

/-- Once nothing is left, all that was promised is done. -/
theorem promised_of_settled {b : Backlog τ ρ} (settled : b.Settled) :
    b.promised f g = b.ledger.filterMap f := by
  rw [promised, show b.pending = [] from settled, List.flatMap_nil, List.append_nil]

end Promised

end Backlog

end Backlogs
