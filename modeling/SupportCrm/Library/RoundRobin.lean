import Mathlib.Data.Finset.Card

/-!
# Taking turns by least recent use

A group takes turns without a cursor: each turn goes to a member whose last turn is the
least recent, and becomes the latest. `Turns` is a sequence of such turns, from the times
of the last turns before it to those after it. Members that had no turn yet, and members
with equal times, may be taken in any order.

`Turns.nodup` keeps the members that had a turn above those that did not: as long as someone
has not had one, no member gets a second. `Turns.window` reads this off at any point of a
sequence: of as many consecutive turns as there are members, each member has exactly one.
-/

set_option autoImplicit false

namespace RoundRobin

universe u v

variable {α : Type u} {τ : Type v} [LinearOrder τ]

/-- Turns of the members, with the time of everyone's last turn before and after them. -/
inductive Turns (members : Finset α) : (α → τ) → List α → (α → τ) → Prop where
  | nil (last : α → τ) : Turns members last [] last
  | cons {a : α} {turns : List α} {last last' last'' : α → τ} (member : a ∈ members)
      (least : ∀ b ∈ members, last a ≤ last b) (latest : ∀ b ∈ members, last b < last' a)
      (others : ∀ b ∈ members, b ≠ a → last' b = last b)
      (rest : Turns members last' turns last'') : Turns members last (a :: turns) last''

namespace Turns

variable {members : Finset α} {last last' : α → τ}

theorem append_left {first second : List α} (turns : Turns members last (first ++ second) last') :
    ∃ between, Turns members last first between ∧ Turns members between second last' := by
  induction first generalizing last with
  | nil => exact ⟨last, .nil last, turns⟩
  | cons a first ih =>
      cases turns with
      | cons member least latest others rest =>
          obtain ⟨between, before, after⟩ := ih rest
          exact ⟨between, .cons member least latest others before, after⟩

theorem subset {turns : List α} (taken : Turns members last turns last') :
    ∀ a ∈ turns, a ∈ members := by
  induction taken with
  | nil => exact fun _ none => nomatch none
  | cons member _ _ _ _ ih => exact List.forall_mem_cons.mpr ⟨member, ih⟩

/-- Where the members that had a turn lie above the others, and enough others are left, the
turns go to others, each to a different one. -/
theorem nodup [DecidableEq α] {turns : List α} (taken : Turns members last turns last')
    {served : Finset α} (known : served ⊆ members)
    (above : ∀ a ∈ served, ∀ b ∈ members, b ∉ served → last b < last a)
    (enough : served.card + turns.length ≤ members.card) :
    turns.Nodup ∧ ∀ a ∈ turns, a ∉ served := by
  induction taken generalizing served with
  | nil => exact ⟨List.nodup_nil, fun _ none => nomatch none⟩
  | @cons a turns last last' last'' member least latest others rest ih =>
      rw [List.length_cons] at enough
      -- someone is left, and whoever comes first is one of them
      have fresh : a ∉ served := by
        intro done
        have fewer : served.card < members.card := by omega
        obtain ⟨b, waiting, left⟩ := Finset.exists_mem_notMem_of_card_lt_card fewer
        exact absurd (least b waiting) (not_le.mpr (above a done b waiting left))
      have above' : ∀ c ∈ insert a served, ∀ b ∈ members, b ∉ insert a served →
          last' b < last' c := by
        intro c done b waiting left
        rw [Finset.mem_insert, not_or] at left
        rw [others b waiting left.1]
        by_cases now : c = a
        · rw [now]
          exact latest b waiting
        · have before := Finset.mem_of_mem_insert_of_ne done now
          rw [others c (known before) now]
          exact above c before b waiting left.2
      have enough' : (insert a served).card + turns.length ≤ members.card := by
        rw [Finset.card_insert_of_notMem fresh]
        omega
      obtain ⟨distinct, new⟩ := ih (Finset.insert_subset member known) above' enough'
      refine ⟨List.nodup_cons.mpr ⟨fun again => ?_, distinct⟩, ?_⟩
      · exact new a again (Finset.mem_insert_self a served)
      · refine List.forall_mem_cons.mpr ⟨fresh, fun b listed done => ?_⟩
        exact new b listed (Finset.mem_insert_of_mem done)

/-- **One turn each.** Of as many consecutive turns as there are members, no member has two
and every member has one. -/
theorem window [DecidableEq α] {before turns after : List α}
    (taken : Turns members last (before ++ turns ++ after) last')
    (round : turns.length = members.card) : turns.Nodup ∧ turns.toFinset = members := by
  obtain ⟨_, first, -⟩ := taken.append_left
  obtain ⟨_, -, here⟩ := first.append_left
  have distinct : turns.Nodup := by
    refine (here.nodup (Finset.empty_subset members) ?_ ?_).1
    · exact fun a none => absurd none (Finset.notMem_empty a)
    · rw [Finset.card_empty, round]
      omega
  refine ⟨distinct, Finset.eq_of_subset_of_card_le ?_ ?_⟩
  · exact fun a listed => here.subset a (List.mem_toFinset.mp listed)
  · rw [List.toFinset_card_of_nodup distinct, round]

end Turns
end RoundRobin
