import Mathlib.Data.List.Dedup
import Mathlib.Data.List.Nodup
import Mathlib.Algebra.BigOperators.Group.List.Basic
import Mathlib.Algebra.GroupWithZero.Nat

/-!
# Counting by buckets

A total that is kept bucket by bucket, one number for each label, agrees with a direct count
of the elements as soon as every bucket counts its own elements, no label has two buckets,
and no counted element lacks a bucket (`total_eq_countP`). A bucket that was not asked for
makes the total too large by what it counts (`countP_extra`).

A grouped query of a database answers with such buckets, those that are not empty, in any order
(`GroupBy`). The groups that satisfy a condition add up to the rows that do
(`GroupBy.sum_filter`).
-/

set_option autoImplicit false

namespace Buckets

universe u v w

variable {α : Type u} {β : Type v} {κ : Type w} [DecidableEq κ]

/-- What one element adds to the buckets: one, where its label has a bucket. -/
theorem sum_indicator {label : β → κ} {buckets : List β} (distinct : (buckets.map label).Nodup)
    (k : κ) : (buckets.map fun b => if k = label b then 1 else 0).sum =
      if k ∈ buckets.map label then 1 else 0 := by
  induction buckets with
  | nil => rfl
  | cons b rest ih =>
      obtain ⟨fresh, distinct'⟩ := List.nodup_cons.mp distinct
      rw [List.map_cons, List.sum_cons, ih distinct', List.map_cons]
      by_cases own : k = label b
      · rw [if_pos own, if_neg (own ▸ fresh), if_pos (own ▸ List.mem_cons_self)]
      · simp [own]

/-- Counting bucket by bucket is counting what has a bucket. -/
theorem sum_countP (key : α → κ) {label : β → κ} {buckets : List β}
    (distinct : (buckets.map label).Nodup) (l : List α) :
    (buckets.map fun b => l.countP fun a => key a = label b).sum =
      l.countP fun a => key a ∈ buckets.map label := by
  induction l with
  | nil => simp
  | cons a l ih =>
      simp only [List.countP_cons, List.sum_map_add, ih, decide_eq_true_eq]
      rw [sum_indicator distinct (key a)]

/-- **A total over buckets is a direct count.** -/
theorem total_eq_countP {k : α → κ} {label : β → κ} {value : β → ℕ} {buckets : List β}
    {l : List α} {p : κ → Prop} [DecidablePred p] (distinct : (buckets.map label).Nodup)
    (counts : ∀ b ∈ buckets, value b = l.countP fun a => k a = label b)
    (only : ∀ b ∈ buckets, p (label b))
    (covered : ∀ a ∈ l, p (k a) → k a ∈ buckets.map label) :
    (buckets.map value).sum = l.countP fun a => p (k a) := by
  rw [List.map_congr_left counts, sum_countP k distinct]
  refine List.countP_congr fun a listed => ?_
  rw [decide_eq_true_eq, decide_eq_true_eq]
  refine ⟨fun bucket => ?_, covered a listed⟩
  obtain ⟨b, member, same⟩ := List.mem_map.mp bucket
  exact same ▸ only b member

section Extra

variable {key : α → κ} {p : κ → Prop} [DecidablePred p] {extra : κ}

/-- A bucket too many adds what it counts. -/
theorem countP_extra (apart : ¬ p extra) (l : List α) :
    (l.countP fun a => p (key a) ∨ key a = extra) =
      (l.countP fun a => p (key a)) + l.countP fun a => key a = extra := by
  induction l with
  | nil => rfl
  | cons a l ih =>
      simp only [List.countP_cons, ih, decide_eq_true_eq]
      by_cases own : key a = extra
      · rw [if_pos (.inr own), if_neg fun asked => apart (own ▸ asked), if_pos own]
        omega
      · simp only [own, or_false, if_false]
        omega

/-- With a bucket too many the total is right exactly when that bucket counts nothing. -/
theorem countP_extra_eq_iff (apart : ¬ p extra) (l : List α) :
    (l.countP fun a => p (key a) ∨ key a = extra) = (l.countP fun a => p (key a)) ↔
      ∀ a ∈ l, key a ≠ extra := by
  rw [countP_extra apart, Nat.add_eq_left, List.countP_eq_zero]
  simp only [decide_eq_true_eq]

end Extra

/-- A narrower count is the whole count exactly when nothing is left out. -/
theorem countP_eq_iff_of_imp {p q : α → Prop} [DecidablePred p] [DecidablePred q] {l : List α}
    (imp : ∀ a ∈ l, p a → q a) :
    (l.countP fun a => q a) = (l.countP fun a => p a) ↔ ∀ a ∈ l, q a → p a := by
  induction l with
  | nil => simp
  | cons a l ih =>
      have imp' : ∀ b ∈ l, p b → q b := fun b member => imp b (List.mem_cons_of_mem a member)
      have le : (l.countP fun a => p a) ≤ l.countP fun a => q a :=
        List.countP_mono_left fun b member holds =>
          decide_eq_true (imp' b member (of_decide_eq_true holds))
      have own := imp a List.mem_cons_self
      rw [List.forall_mem_cons, ← ih imp', List.countP_cons, List.countP_cons]
      by_cases first : p a
      · simp [first, own first]
      · by_cases second : q a
        · simp only [first, second, decide_true, if_true, decide_false]
          exact ⟨fun same => absurd same (by simp; omega), fun both => (both.1 trivial).elim⟩
        · simp [first, second]

/-! ## Grouped queries -/

/-- What a database may answer when it is to count rows by groups: the groups that occur, in any
order, each with the number of its rows. -/
structure GroupBy (rows : List α) (key : α → κ) where
  stats : List (κ × ℕ)
  distinct : (stats.map Prod.fst).Nodup
  counts : ∀ stat ∈ stats, stat.2 = rows.countP fun row => key row = stat.1
  groups : ∀ group, group ∈ stats.map Prod.fst ↔ ∃ row ∈ rows, key row = group

namespace GroupBy

/-- The groups in the order of their last rows. -/
def inOrder (rows : List α) (key : α → κ) : GroupBy rows key where
  stats := (rows.map key).dedup.map fun group => (group, rows.countP fun row => key row = group)
  distinct := by
    rw [List.map_map]
    exact (List.map_id _).symm ▸ List.nodup_dedup _
  counts := by
    intro stat listed
    obtain ⟨group, -, rfl⟩ := List.mem_map.mp listed
    rfl
  groups := by
    intro group
    rw [List.map_map]
    refine (List.map_id _).symm ▸ ?_
    rw [List.mem_dedup, List.mem_map]

/-- **The groups that satisfy a condition add up to the rows that do.** -/
theorem sum_filter {rows : List α} {key : α → κ} (database : GroupBy rows key) (p : κ → Bool) :
    ((database.stats.filter fun stat => p stat.1).map Prod.snd).sum =
      rows.countP fun row => p (key row) := by
  have distinct : ((database.stats.filter fun stat => p stat.1).map Prod.fst).Nodup :=
    database.distinct.sublist (List.filter_sublist.map _)
  have total := total_eq_countP (p := fun group => p group = true) distinct
    (fun stat member => database.counts stat (List.mem_of_mem_filter member))
    (fun stat member => (List.mem_filter.mp member).2) fun row listed holds => by
      obtain ⟨stat, member, same⟩ := List.mem_map.mp
        ((database.groups (key row)).mpr ⟨row, listed, rfl⟩)
      exact List.mem_map.mpr
        ⟨stat, List.mem_filter.mpr ⟨member, (congrArg p same).trans holds⟩, same⟩
  simpa only [Bool.decide_eq_true] using total

end GroupBy

end Buckets
