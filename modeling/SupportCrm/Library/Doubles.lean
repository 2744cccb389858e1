import Mathlib.Algebra.Group.Int.Defs
import Mathlib.Algebra.Group.Nat.Defs
import Mathlib.Data.Rat.Init
import SupportCrm.Library.Decimal

/-!
# Double precision

A double has 53 binary digits and an exponent. Arithmetic gives the double nearest to the exact
result (`ofRat`), so a sum depends on the order in which its terms are added.

A double is an integer when its digits with zeros after them write it. JavaScript prints it
with the fewest decimal digits that round to it, as an integer below `10 ^ 21` and with an
exponent from there on. Rounding the text gives the integer back, so the text determines it.
-/

set_option autoImplicit false

namespace Doubles

/-- The quotient rounded to the nearest integer, to the even one in the middle. -/
def nearest (n unit : ℕ) : ℕ :=
  if 2 * (n % unit) < unit ∨ 2 * (n % unit) = unit ∧ n / unit % 2 = 0 then n / unit
  else n / unit + 1

/-! ## Fractions -/

/-- The exponent of the first binary digit of a positive fraction. -/
def exponent (numerator denominator : ℕ) : ℤ :=
  let e : ℤ := numerator.log2 - denominator.log2
  if denominator * 2 ^ e.toNat ≤ numerator * 2 ^ (-e).toNat then e else e - 1

/-- The double nearest to a rational number, the even one in the middle, with any exponent. -/
def ofRat (x : ℚ) : ℚ :=
  let unit := exponent x.num.natAbs x.den - 52
  let digits := nearest (x.num.natAbs * 2 ^ (-unit).toNat) (x.den * 2 ^ unit.toNat)
  mkRat (x.num.sign * digits * 2 ^ unit.toNat) (2 ^ (-unit).toNat)

/-- The terms added one after another. -/
def sum (terms : List ℚ) : ℚ := terms.foldl (fun total term => ofRat (total + term)) 0

example : ofRat (1 / 10) = 3602879701896397 / 2 ^ 55 := by decide +kernel

/-! ## Integers -/

/-- The nearest integer of 53 binary digits with zeros after them. -/
def round (n : ℕ) : ℕ :=
  let unit := 2 ^ (n.log2 - 52)
  nearest n unit * unit

/-- The integer is a finite double: nothing is rounded, and it is below `2 ^ 1024`. -/
def IsDouble (n : ℕ) : Prop := round n = n ∧ n.log2 < 1024

instance (n : ℕ) : Decidable (IsDouble n) := inferInstanceAs (Decidable (_ ∧ _))

/-- Digits that give `n` when `zeros` zeros stand after them, the nearest ones first. -/
def digits? (n zeros : ℕ) : Option ℕ :=
  let unit := 10 ^ zeros
  [nearest n unit, n / unit, n / unit + 1].find? fun digits => round (digits * unit) = n

/-- The fewest digits that give `n`, with the zeros after them. -/
def shortest? (n : ℕ) : Option (ℕ × ℕ) :=
  (List.range ((Nat.toDigits 10 n).length + 1)).reverse.findSome? fun zeros =>
    (digits? n zeros).map fun digits => (digits, zeros)

/-- For a double that is `shortest?`: its own digits give it, without more zeros. -/
def shortest (n : ℕ) : ℕ × ℕ := (shortest? n).getD (n, 0)

/-- A point after the first of several digits. -/
def mantissa : List Char → List Char
  | first :: second :: rest => first :: '.' :: second :: rest
  | digits => digits

/-- The text with an exponent. -/
def scientific (digits zeros : ℕ) : List Char :=
  let text := Nat.toDigits 10 digits
  mantissa text ++ 'e' :: '+' :: Nat.toDigits 10 (zeros + text.length - 1)

/-- The text of digits with zeros after them. -/
def decimal (digits zeros : ℕ) : List Char :=
  if digits * 10 ^ zeros < 10 ^ 21 then Nat.toDigits 10 (digits * 10 ^ zeros)
  else scientific digits zeros

def natText (n : ℕ) : List Char := decimal (shortest n).1 (shortest n).2

/-- The text of a double that is an integer. -/
def text : ℤ → List Char
  | .ofNat n => natText n
  | .negSucc n => '-' :: natText (n + 1)

/-! ## Rounding the text back -/

theorem round_digits {n zeros digits : ℕ} (found : digits? n zeros = some digits) :
    round (digits * 10 ^ zeros) = n := by
  have gives := List.find?_some found
  exact of_decide_eq_true gives

/-- The digits and zeros round to the double. -/
theorem round_shortest {n : ℕ} (fixed : round n = n) :
    round ((shortest n).1 * 10 ^ (shortest n).2) = n := by
  rw [shortest]
  cases found : shortest? n with
  | none =>
      change round (n * 10 ^ 0) = n
      rw [Nat.pow_zero, Nat.mul_one]
      exact fixed
  | some pair =>
      obtain ⟨zeros, -, here⟩ := List.exists_of_findSome?_eq_some found
      obtain ⟨digits, gives, rfl⟩ := Option.map_eq_some_iff.mp here
      exact round_digits gives

/-! ## Safe integers -/

theorem log2_lt_of_lt {n : ℕ} (safe : n < 2 ^ 53) : n.log2 < 53 := by
  by_cases zero : n = 0
  · rw [zero]
    decide
  · exact (Nat.log2_lt zero).mpr safe

/-- With 53 binary digits nothing is rounded. -/
theorem round_of_lt {n : ℕ} (safe : n < 2 ^ 53) : round n = n := by
  have short : n.log2 - 52 = 0 := by have := log2_lt_of_lt safe; omega
  rw [round, short, nearest, Nat.pow_zero, Nat.mod_one, Nat.div_one, Nat.mul_one]
  exact if_pos (.inl (by decide))

/-- The integers below `2 ^ 53` are doubles. -/
theorem isDouble_of_lt {n : ℕ} (safe : n < 2 ^ 53) : IsDouble n :=
  ⟨round_of_lt safe, Nat.lt_trans (log2_lt_of_lt safe) (by decide)⟩

theorem div_le_nearest (n unit : ℕ) : n / unit ≤ nearest n unit := by
  rw [nearest]
  split
  · exact Nat.le_refl _
  · exact Nat.le_succ _

/-- What rounds to a safe integer is that integer. -/
theorem eq_of_round_eq {m n : ℕ} (safe : n < 2 ^ 53) (rounds : round m = n) : m = n := by
  by_cases small : m < 2 ^ 53
  · rw [← rounds, round_of_lt small]
  · exfalso
    have positive : m ≠ 0 := by rintro rfl; exact small (by decide)
    have large : 53 ≤ m.log2 := (Nat.le_log2 positive).mpr (Nat.le_of_not_lt small)
    have whole : 2 ^ 52 * 2 ^ (m.log2 - 52) = 2 ^ m.log2 := by
      rw [← Nat.pow_add]
      congr 1
      omega
    have low : 2 ^ 52 ≤ m / 2 ^ (m.log2 - 52) := by
      rw [Nat.le_div_iff_mul_le (Nat.two_pow_pos _), whole]
      exact Nat.log2_self_le positive
    have bound : 2 ^ 53 ≤ round m :=
      calc 2 ^ 53 ≤ 2 ^ m.log2 := Nat.pow_le_pow_right (by decide) large
        _ = 2 ^ 52 * 2 ^ (m.log2 - 52) := whole.symm
        _ ≤ round m := Nat.mul_le_mul_right _ (Nat.le_trans low (div_le_nearest _ _))
    omega

/-- A safe integer has its decimal text. -/
theorem natText_of_lt {n : ℕ} (safe : n < 2 ^ 53) : natText n = Nat.toDigits 10 n := by
  have same := eq_of_round_eq safe (round_shortest (round_of_lt safe))
  rw [natText, decimal, same]
  exact if_pos (by omega)

theorem text_of_lt {a : ℤ} (safe : a.natAbs < 2 ^ 53) : text a = (toString a).toList := by
  cases a with
  | ofNat n =>
      rw [Decimal.toList_ofNat]
      exact natText_of_lt safe
  | negSucc n =>
      rw [Decimal.toList_negSucc]
      exact congrArg ('-' :: ·) (natText_of_lt safe)

/-! ## The text -/

theorem mem_mantissa {c : Char} :
    ∀ {digits : List Char}, c ∈ mantissa digits → c ∈ digits ∨ c = '.'
  | [], member => .inl member
  | [_], member => .inl member
  | first :: second :: rest, member => by
      rcases List.mem_cons.mp member with rfl | member
      · exact .inl List.mem_cons_self
      · rcases List.mem_cons.mp member with point | member
        · exact .inr point
        · exact .inl (List.mem_cons_of_mem _ member)

/-- The digits are read past the point. -/
theorem filter_mantissa : ∀ digits : List Char,
    (mantissa digits).filter (· ≠ '.') = digits.filter (· ≠ '.')
  | [] => rfl
  | [_] => rfl
  | first :: second :: rest => by simp [mantissa, List.filter_cons]

/-- Digits, the point and the exponent's characters stand in the text. -/
theorem mem_decimal {c : Char} {digits zeros : ℕ} (member : c ∈ decimal digits zeros) :
    c.isDigit = true ∨ c ∈ ['.', 'e', '+'] := by
  rw [decimal] at member
  split at member
  · exact .inl (Decimal.isDigit_of_mem member)
  · rcases List.mem_append.mp member with member | member
    · rcases mem_mantissa member with digit | rfl
      · exact .inl (Decimal.isDigit_of_mem digit)
      · exact .inr List.mem_cons_self
    · simp only [List.mem_cons] at member
      rcases member with rfl | rfl | digit
      · exact .inr (by decide)
      · exact .inr (by decide)
      · exact .inl (Decimal.isDigit_of_mem digit)

theorem notMem_toDigits {c : Char} (foreign : c.isDigit = false) (n : ℕ) :
    c ∉ Nat.toDigits 10 n := fun member =>
  Bool.false_ne_true (foreign.symm.trans (Decimal.isDigit_of_mem member))

theorem toDigits_eq_of_mantissa_eq {m n : ℕ}
    (same : mantissa (Nat.toDigits 10 m) = mantissa (Nat.toDigits 10 n)) : m = n := by
  have read := congrArg (List.filter (· ≠ '.')) same
  rw [filter_mantissa, filter_mantissa] at read
  have kept : ∀ k, (Nat.toDigits 10 k).filter (· ≠ '.') = Nat.toDigits 10 k := by
    intro k
    refine List.filter_eq_self.mpr fun c member => decide_eq_true ?_
    rintro rfl
    exact notMem_toDigits (by decide) k member
  rw [kept, kept] at read
  exact Decimal.toDigits_injective read

theorem scientific_inj {digits zeros digits' zeros' : ℕ}
    (same : scientific digits zeros = scientific digits' zeros') :
    digits = digits' ∧ zeros = zeros' := by
  have unmarked : ∀ k, 'e' ∉ mantissa (Nat.toDigits 10 k) := by
    intro k member
    rcases mem_mantissa member with digit | point
    · exact notMem_toDigits (by decide) k digit
    · exact absurd point (by decide)
  have exponent : ∀ k, 'e' ∉ '+' :: Nat.toDigits 10 k := fun k =>
    List.not_mem_cons_of_ne_of_not_mem (by decide) (notMem_toDigits (by decide) k)
  obtain ⟨first, -, second⟩ :=
    (List.append_cons_inj_of_notMem (unmarked _) (exponent _)).mp same
  obtain rfl := toDigits_eq_of_mantissa_eq first
  have counts := Decimal.toDigits_injective (List.cons.inj second).2
  have filled : 0 < (Nat.toDigits 10 digits).length := Nat.length_toDigits_pos
  exact ⟨rfl, by omega⟩

/-- The text says which integer is written. -/
theorem decimal_inj {digits zeros digits' zeros' : ℕ}
    (same : decimal digits zeros = decimal digits' zeros') :
    digits * 10 ^ zeros = digits' * 10 ^ zeros' := by
  have marked : ∀ k k', 'e' ∈ scientific k k' := fun k k' =>
    List.mem_append_right _ List.mem_cons_self
  rw [decimal, decimal] at same
  split at same <;> split at same
  · exact Decimal.toDigits_injective same
  · exact absurd (same ▸ marked digits' zeros') (notMem_toDigits (by decide) _)
  · exact absurd (same ▸ marked digits zeros) (notMem_toDigits (by decide) _)
  · obtain ⟨rfl, rfl⟩ := scientific_inj same
    rfl

theorem natText_inj {m n : ℕ} (fixed : round m = m) (fixed' : round n = n)
    (same : natText m = natText n) : m = n := by
  rw [← round_shortest fixed, decimal_inj same, round_shortest fixed']

theorem minus_notMem (n : ℕ) : '-' ∉ natText n := fun member =>
  (mem_decimal member).elim (absurd · (by decide)) (absurd · (by decide))

/-- The text of a double determines it. -/
theorem text_inj {a b : ℤ} (double : IsDouble a.natAbs) (double' : IsDouble b.natAbs)
    (same : text a = text b) : a = b := by
  cases a with
  | ofNat m =>
      cases b with
      | ofNat n => exact congrArg Int.ofNat (natText_inj double.1 double'.1 same)
      | negSucc n =>
          have same : natText m = '-' :: natText (n + 1) := same
          exact absurd (same ▸ List.mem_cons_self) (minus_notMem m)
  | negSucc m =>
      cases b with
      | ofNat n =>
          have same : '-' :: natText (m + 1) = natText n := same
          exact absurd (same ▸ List.mem_cons_self) (minus_notMem n)
      | negSucc n =>
          have next := natText_inj double.1 double'.1 (List.cons.inj same).2
          rw [Nat.succ.inj next]

example : text (-(2 ^ 70)) = "-1.1805916207174113e+21".toList := by decide

/-- No other characters stand in the text. -/
theorem notMem_text {c : Char} (foreign : c.isDigit = false) (unmarked : c ∉ ['-', '.', 'e', '+'])
    (a : ℤ) : c ∉ text a := by
  rw [List.mem_cons, not_or] at unmarked
  have absent : ∀ n, c ∉ natText n := fun n member =>
    (mem_decimal member).elim (fun digit => Bool.false_ne_true (foreign.symm.trans digit))
      unmarked.2
  cases a with
  | ofNat n => exact absent n
  | negSucc n => exact List.not_mem_cons_of_ne_of_not_mem unmarked.1 (absent (n + 1))

end Doubles
