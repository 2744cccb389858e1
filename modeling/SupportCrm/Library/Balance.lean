import Mathlib.Data.List.Basic
import Mathlib.Order.Lattice

/-!
# Allotment to the least loaded

Members have loads, and each new unit goes to a member whose load is least. `Allots` is a
sequence of such allotments. The spread is the difference between the highest load and the
lowest: an allotment raises it only where it was zero, so it never exceeds the larger of what
it was at the start and one (`Allots.spread_le`).
-/

set_option autoImplicit false

namespace Balance

universe u

/-- The difference between the highest load and the lowest. -/
def spread (loads : List ℕ) : ℕ := loads.max?.getD 0 - loads.min?.getD 0

theorem spread_le_iff {loads : List ℕ} {d : ℕ} :
    spread loads ≤ d ↔ ∀ a ∈ loads, ∀ b ∈ loads, a ≤ b + d := by
  constructor
  · intro le a ha b hb
    have above : a ≤ loads.max?.getD 0 := List.le_max?_getD_of_mem ha
    have below : loads.min?.getD 0 ≤ b := List.min?_getD_le_of_mem hb
    rw [spread] at le
    omega
  · intro within
    rw [spread]
    cases highest : loads.max? with
    | none => simp
    | some a =>
        cases lowest : loads.min? with
        | none =>
            rw [List.min?_eq_none_iff.mp lowest] at highest
            cases highest
        | some b =>
            have le := within a (List.max?_eq_some_iff.mp highest).1 b
              (List.min?_eq_some_iff.mp lowest).1
            simp only [Option.getD_some]
            omega

theorem spread_perm {loads loads' : List ℕ} (perm : loads'.Perm loads) :
    spread loads' = spread loads := by
  refine eq_of_forall_ge_iff fun d => ?_
  simp only [spread_le_iff, perm.mem_iff]

variable {α : Type u}

/-- Units that go to members, each to one whose load is least then. -/
inductive Allots (members : List α) : (α → ℕ) → List α → (α → ℕ) → Prop where
  | nil (load : α → ℕ) : Allots members load [] load
  | cons {a : α} {units : List α} {load load' load'' : α → ℕ} (member : a ∈ members)
      (least : ∀ b ∈ members, load a ≤ load b) (own : load' a = load a + 1)
      (others : ∀ b ∈ members, b ≠ a → load' b = load b)
      (rest : Allots members load' units load'') :
      Allots members load (a :: units) load''

variable {members : List α}

/-- One allotment. -/
theorem spread_le_of_least {load load' : α → ℕ} {a : α} (member : a ∈ members)
    (least : ∀ b ∈ members, load a ≤ load b) (own : load' a = load a + 1)
    (others : ∀ b ∈ members, b ≠ a → load' b = load b) :
    spread (members.map load') ≤ max (spread (members.map load)) 1 := by
  classical
  have within := spread_le_iff.mp (le_refl (spread (members.map load)))
  simp only [spread_le_iff, List.forall_mem_map] at within ⊢
  intro b hb c hc
  have before := within b hb c hc
  have lowest := least c hc
  by_cases first : b = a
  · -- the member that got the unit had the least load
    subst first
    by_cases second : c = b
    · rw [second]
      exact Nat.le_add_right _ _
    · rw [own, others c hc second]
      omega
  · rw [others b hb first]
    by_cases second : c = a
    · rw [second] at before ⊢
      rw [own]
      omega
    · rw [others c hc second]
      omega

/-- Only who the members are matters. -/
theorem Allots.of_perm {members' : List α} {load load' : α → ℕ} {units : List α}
    (allots : Allots members load units load') (perm : members.Perm members') :
    Allots members' load units load' := by
  induction allots with
  | nil load => exact .nil load
  | cons member least own others rest ih =>
      exact .cons (perm.mem_iff.mp member) (fun b listed => least b (perm.mem_iff.mpr listed)) own
        (fun b listed => others b (perm.mem_iff.mpr listed)) ih

/-- **Loads stay balanced.** -/
theorem Allots.spread_le {load load' : α → ℕ} {units : List α}
    (allots : Allots members load units load') :
    spread (members.map load') ≤ max (spread (members.map load)) 1 := by
  induction allots with
  | nil load => exact le_max_left _ _
  | cons member least own others rest ih =>
      refine ih.trans (max_le ?_ (le_max_right _ _))
      exact spread_le_of_least member least own others

end Balance
