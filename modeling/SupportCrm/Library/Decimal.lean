import Mathlib.Data.Int.Notation
import Mathlib.Data.List.Basic
import Mathlib.Logic.Function.Defs

/-!
# Integers as text

The decimal text of an integer determines the integer, and it consists of digits and a minus
sign. So an integer that another character ends can be read off the front of a text, and a text
that joins integers by such a character says which ones they are.
-/

set_option autoImplicit false

namespace Decimal

theorem toList_ofNat (n : ℕ) : (toString (Int.ofNat n)).toList = Nat.toDigits 10 n :=
  Nat.toList_repr

theorem toList_negSucc (n : ℕ) :
    (toString (Int.negSucc n)).toList = '-' :: Nat.toDigits 10 (n + 1) := by
  change ("-" ++ Nat.repr (n + 1)).toList = _
  rw [String.toList_append, Nat.toList_repr]
  rfl

theorem isDigit_of_mem {n : ℕ} {c : Char} (member : c ∈ Nat.toDigits 10 n) : c.isDigit = true :=
  Nat.isDigit_of_mem_toDigits (by decide) (by decide) member

theorem minus_notMem (n : ℕ) : '-' ∉ Nat.toDigits 10 n := fun member =>
  Bool.false_ne_true (isDigit_of_mem member)

theorem toDigits_injective : Function.Injective (Nat.toDigits 10) := by
  intro m n same
  have read := congrArg (Nat.ofDigitChars 10 · 0) same
  simpa only [Nat.ofDigitChars_ten_toDigits] using read

/-- Only digits and the minus sign stand in the text of an integer. -/
theorem notMem_toString {c : Char} (foreign : c.isDigit = false) (unsigned : c ≠ '-') (a : ℤ) :
    c ∉ (toString a).toList := by
  intro member
  cases a with
  | ofNat n =>
      rw [toList_ofNat] at member
      exact Bool.false_ne_true (foreign.symm.trans (isDigit_of_mem member))
  | negSucc n =>
      rw [toList_negSucc, List.mem_cons] at member
      rcases member with sign | digit
      · exact unsigned sign
      · exact Bool.false_ne_true (foreign.symm.trans (isDigit_of_mem digit))

theorem toString_injective : Function.Injective fun a : ℤ => (toString a).toList := by
  intro a b same
  cases a with
  | ofNat m =>
      cases b with
      | ofNat n =>
          simp only [toList_ofNat] at same
          rw [toDigits_injective same]
      | negSucc n =>
          simp only [toList_ofNat, toList_negSucc] at same
          exact absurd (same ▸ List.mem_cons_self) (minus_notMem m)
  | negSucc m =>
      cases b with
      | ofNat n =>
          simp only [toList_ofNat, toList_negSucc] at same
          exact absurd (same ▸ List.mem_cons_self) (minus_notMem n)
      | negSucc n =>
          simp only [toList_negSucc, List.cons.injEq, true_and] at same
          rw [Nat.succ.inj (toDigits_injective same)]

/-- Up to the character that ends it, the text is that of the integer. -/
theorem takeWhile_toString {c : Char} (foreign : c.isDigit = false) (unsigned : c ≠ '-') (a : ℤ)
    (rest : List Char) :
    ((toString a).toList ++ c :: rest).takeWhile (· ≠ c) = (toString a).toList := by
  rw [List.takeWhile_append_of_pos, List.takeWhile_cons_of_neg (by simp), List.append_nil]
  intro d member
  exact decide_eq_true fun same => notMem_toString foreign unsigned a (same ▸ member)

/-- An integer is read off the front of a text, up to the character that ends it. -/
theorem append_sep_inj {c : Char} (foreign : c.isDigit = false) (unsigned : c ≠ '-') {a b : ℤ}
    {rest rest' : List Char} :
    (toString a).toList ++ c :: rest = (toString b).toList ++ c :: rest' ↔
      a = b ∧ rest = rest' := by
  constructor
  · intro same
    have text := congrArg (List.takeWhile (· ≠ c)) same
    rw [takeWhile_toString foreign unsigned, takeWhile_toString foreign unsigned] at text
    obtain rfl := toString_injective text
    exact ⟨rfl, (List.cons.inj (List.append_cancel_left same)).2⟩
  · rintro ⟨rfl, rfl⟩
    rfl

end Decimal
