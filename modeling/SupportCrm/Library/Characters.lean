import Mathlib.Data.List.DropRight
import SupportCrm.Library.Decimal

/-!
# Characters

White space as JavaScript has it, and digits. Trimming leaves a text without white space as it is
(`trim_of_visible`), and reading digits undoes writing them (`hexDigit_digitChar`,
`readDigits_toDigits`).
-/

set_option autoImplicit false

namespace Characters

/-! ## White space -/

/-- The white space and line ends of JavaScript. -/
def isWhiteSpace (c : Char) : Bool :=
  c.toNat ∈ [0x9, 0xA, 0xB, 0xC, 0xD, 0x20, 0xA0, 0x1680, 0x2028, 0x2029, 0x202F, 0x205F, 0x3000,
    0xFEFF] || (0x2000 ≤ c.toNat && c.toNat ≤ 0x200A)

/-- `String.prototype.trim`. -/
def trim (text : List Char) : List Char := (text.dropWhile isWhiteSpace).rdropWhile isWhiteSpace

theorem isWhiteSpace_of_isDigit {c : Char} (digit : c.isDigit = true) : isWhiteSpace c = false := by
  obtain ⟨zero, nine⟩ : 48 ≤ c.toNat ∧ c.toNat ≤ 57 := Char.isDigit_iff_toNat.mp digit
  simp only [isWhiteSpace, List.mem_cons, List.not_mem_nil, Bool.or_eq_false_iff,
    decide_eq_false_iff_not, Bool.and_eq_false_imp, decide_eq_true_eq, or_false]
  omega

/-- A text without white space is not trimmed. -/
theorem trim_of_visible {text : List Char} (visible : ∀ c ∈ text, isWhiteSpace c = false) :
    trim text = text := by
  have whole {text : List Char} (visible : ∀ c ∈ text, isWhiteSpace c = false) :
      text.dropWhile isWhiteSpace = text := by
    cases text with
    | nil => rfl
    | cons c rest => rw [List.dropWhile_cons, visible c List.mem_cons_self, if_neg Bool.false_ne_true]
  rw [trim, whole visible, List.rdropWhile,
    whole fun c member => visible c (List.mem_reverse.mp member), List.reverse_reverse]

/-! ## Digits -/

/-- The value of a hexadecimal digit. -/
def hexDigit (c : Char) : Option ℕ :=
  if c.isDigit then some (c.toNat - '0'.toNat)
  else if 'a' ≤ c ∧ c ≤ 'f' then some (c.toNat - 'a'.toNat + 10)
  else if 'A' ≤ c ∧ c ≤ 'F' then some (c.toNat - 'A'.toNat + 10)
  else none

theorem hexDigit_digitChar : ∀ digit < 16, hexDigit (Nat.digitChar digit) = some digit := by
  decide

/-- The value of a digit in a base up to sixteen. -/
def digitValue (base : ℕ) (c : Char) : Option ℕ := (hexDigit c).filter (· < base)

/-- The digits of a natural number, at least one. -/
def readDigits (base : ℕ) : List Char → Option ℕ
  | [] => none
  | c :: cs => (c :: cs).foldlM (fun n c => (digitValue base c).map (base * n + ·)) 0

theorem digitValue_of_isDigit {c : Char} (digit : c.isDigit = true) :
    digitValue 10 c = some (c.toNat - '0'.toNat) := by
  have bound : c.toNat - '0'.toNat < 10 := by
    have nine : c.toNat ≤ 57 := (Char.isDigit_iff_toNat.mp digit).2
    have zero : '0'.toNat = 48 := rfl
    omega
  rw [digitValue, hexDigit, if_pos digit, Option.filter_some, if_pos (decide_eq_true bound)]

theorem foldlM_digits {cs : List Char} (digits : ∀ c ∈ cs, c.isDigit = true) (n : ℕ) :
    cs.foldlM (fun n c => (digitValue 10 c).map (10 * n + ·)) n =
      some (Nat.ofDigitChars 10 cs n) := by
  induction cs generalizing n with
  | nil => rfl
  | cons c cs ih =>
      rw [List.foldlM_cons, digitValue_of_isDigit (digits c List.mem_cons_self)]
      exact ih (fun c' member => digits c' (List.mem_cons_of_mem c member)) _

theorem readDigits_toDigits (n : ℕ) : readDigits 10 (Nat.toDigits 10 n) = some n := by
  have digits : ∀ c ∈ Nat.toDigits 10 n, c.isDigit = true := fun _ => Decimal.isDigit_of_mem
  cases text : Nat.toDigits 10 n with
  | nil => exact absurd text Nat.toDigits_ne_nil
  | cons c cs =>
      rw [readDigits, ← text, foldlM_digits digits, Nat.ofDigitChars_ten_toDigits]

end Characters
