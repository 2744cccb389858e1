import Mathlib.Data.List.Basic

/-!
# Texts of UTF-16 code units

A text is any sequence of code units, so a surrogate need not be half of a pair. Where a text is
read as characters, a pair is one character and a surrogate without its other half is replaced by
U+FFFD. A text without such surrogates is well formed, and only a well-formed one is told by its
characters (`encode_scalars`).
-/

set_option autoImplicit false

namespace Utf16

abbrev IsHigh (u : UInt16) : Prop := 0xD800 ≤ u.toNat ∧ u.toNat < 0xDC00

abbrev IsLow (u : UInt16) : Prop := 0xDC00 ≤ u.toNat ∧ u.toNat < 0xE000

/-- The character of a unit that is not half of a pair. -/
def single (u : UInt16) : Char :=
  if IsHigh u ∨ IsLow u then Char.ofNat 0xFFFD else Char.ofNat u.toNat

def pair (high low : UInt16) : Char :=
  Char.ofNat (0x10000 + (high.toNat - 0xD800) * 0x400 + (low.toNat - 0xDC00))

/-- The characters of a text. -/
def scalars : List UInt16 → List Char
  | [] => []
  | [u] => [single u]
  | u :: v :: rest =>
      if IsHigh u ∧ IsLow v then pair u v :: scalars rest else single u :: scalars (v :: rest)

/-- No surrogate stands alone. -/
def WellFormed : List UInt16 → Prop
  | [] => True
  | [u] => ¬ IsHigh u ∧ ¬ IsLow u
  | u :: v :: rest =>
      if IsHigh u ∧ IsLow v then WellFormed rest
      else (¬ IsHigh u ∧ ¬ IsLow u) ∧ WellFormed (v :: rest)

/-- The units of a character. -/
def units (c : Char) : List UInt16 :=
  if c.toNat < 0x10000 then [UInt16.ofNat c.toNat]
  else [UInt16.ofNat (0xD800 + (c.toNat - 0x10000) / 0x400),
    UInt16.ofNat (0xDC00 + (c.toNat - 0x10000) % 0x400)]

def encode (cs : List Char) : List UInt16 := cs.flatMap units

/-! ## One character -/

theorem toNat_valid (c : Char) :
    c.toNat < 0xD800 ∨ 0xDFFF < c.toNat ∧ c.toNat < 0x110000 := c.valid

theorem toNat_char {n : ℕ} (valid : n.isValidChar) : (Char.ofNat n).toNat = n := by
  rw [Char.ofNat, dif_pos valid]
  rfl

theorem toNat_ofNat {n : ℕ} (small : n < 0x10000) : (UInt16.ofNat n).toNat = n :=
  Nat.mod_eq_of_lt small

theorem toNat_single {u : UInt16} (scalar : ¬ IsHigh u ∧ ¬ IsLow u) :
    (single u).toNat = u.toNat := by
  have valid : u.toNat.isValidChar := by
    have := u.toNat_lt
    rw [Nat.isValidChar]
    omega
  rw [single, if_neg (not_or.mpr scalar), toNat_char valid]

theorem toNat_pair {u v : UInt16} (high : IsHigh u) (low : IsLow v) :
    (pair u v).toNat = 0x10000 + (u.toNat - 0xD800) * 0x400 + (v.toNat - 0xDC00) := by
  rw [pair, toNat_char]
  rw [Nat.isValidChar]
  omega

theorem units_single {u : UInt16} (scalar : ¬ IsHigh u ∧ ¬ IsLow u) :
    units (single u) = [u] := by
  have small : u.toNat < 0x10000 := u.toNat_lt
  rw [units, toNat_single scalar, if_pos small, UInt16.ofNat_toNat]

theorem units_pair {u v : UInt16} (high : IsHigh u) (low : IsLow v) :
    units (pair u v) = [u, v] := by
  have first : 0xD800 + ((pair u v).toNat - 0x10000) / 0x400 = u.toNat := by
    rw [toNat_pair high low]
    omega
  have second : 0xDC00 + ((pair u v).toNat - 0x10000) % 0x400 = v.toNat := by
    rw [toNat_pair high low]
    omega
  have large : ¬ (pair u v).toNat < 0x10000 := by
    rw [toNat_pair high low]
    omega
  rw [units, if_neg large, first, second, UInt16.ofNat_toNat, UInt16.ofNat_toNat]

theorem scalars_cons {u : UInt16} (scalar : ¬ IsHigh u) (rest : List UInt16) :
    scalars (u :: rest) = single u :: scalars rest := by
  cases rest with
  | nil => rfl
  | cons v rest => rw [scalars, if_neg fun both => scalar both.1]

theorem wellFormed_cons {u : UInt16} (scalar : ¬ IsHigh u ∧ ¬ IsLow u) (rest : List UInt16) :
    WellFormed (u :: rest) ↔ WellFormed rest := by
  cases rest with
  | nil => exact iff_of_true scalar trivial
  | cons v rest => rw [WellFormed, if_neg fun both => scalar.1 both.1, and_iff_right scalar]

/-- A character is one unit outside the surrogates, or a pair. -/
theorem units_cases (c : Char) :
    (∃ u, units c = [u] ∧ (¬ IsHigh u ∧ ¬ IsLow u) ∧ single u = c) ∨
      ∃ u v, units c = [u, v] ∧ IsHigh u ∧ IsLow v ∧ pair u v = c := by
  have valid := toNat_valid c
  by_cases small : c.toNat < 0x10000
  · have unit := toNat_ofNat small
    have scalar : ¬ IsHigh (UInt16.ofNat c.toNat) ∧ ¬ IsLow (UInt16.ofNat c.toNat) := by
      rw [IsHigh, IsLow, unit]
      omega
    refine .inl ⟨_, if_pos small, scalar, Char.toNat_inj.mp ?_⟩
    rw [toNat_single scalar, unit]
  · have first : (UInt16.ofNat (0xD800 + (c.toNat - 0x10000) / 0x400)).toNat =
        0xD800 + (c.toNat - 0x10000) / 0x400 := toNat_ofNat (by omega)
    have second : (UInt16.ofNat (0xDC00 + (c.toNat - 0x10000) % 0x400)).toNat =
        0xDC00 + (c.toNat - 0x10000) % 0x400 := toNat_ofNat (by omega)
    have high : IsHigh (UInt16.ofNat (0xD800 + (c.toNat - 0x10000) / 0x400)) := by
      rw [IsHigh, first]
      omega
    have low : IsLow (UInt16.ofNat (0xDC00 + (c.toNat - 0x10000) % 0x400)) := by
      rw [IsLow, second]
      omega
    refine .inr ⟨_, _, if_neg small, high, low, Char.toNat_inj.mp ?_⟩
    rw [toNat_pair high low, first, second]
    omega

theorem scalars_units_append (c : Char) (rest : List UInt16) :
    scalars (units c ++ rest) = c :: scalars rest := by
  rcases units_cases c with ⟨u, split, scalar, char⟩ | ⟨u, v, split, high, low, char⟩
  · rw [split, List.singleton_append, scalars_cons scalar.1, char]
  · rw [split, List.cons_append, List.singleton_append, scalars, if_pos ⟨high, low⟩, char]

theorem wellFormed_units_append (c : Char) (rest : List UInt16) :
    WellFormed (units c ++ rest) ↔ WellFormed rest := by
  rcases units_cases c with ⟨u, split, scalar, -⟩ | ⟨u, v, split, high, low, -⟩
  · rw [split, List.singleton_append, wellFormed_cons scalar]
  · rw [split, List.cons_append, List.singleton_append, WellFormed, if_pos ⟨high, low⟩]

/-! ## Texts -/

theorem scalars_encode_append (cs : List Char) (rest : List UInt16) :
    scalars (encode cs ++ rest) = cs ++ scalars rest := by
  induction cs with
  | nil => rfl
  | cons c cs ih =>
      rw [encode, List.flatMap_cons, List.append_assoc, scalars_units_append, ← encode, ih,
        List.cons_append]

theorem scalars_encode (cs : List Char) : scalars (encode cs) = cs := by
  simpa only [List.append_nil, scalars] using scalars_encode_append cs []

theorem wellFormed_encode (cs : List Char) : WellFormed (encode cs) := by
  induction cs with
  | nil => exact trivial
  | cons c cs ih => exact (wellFormed_units_append c _).mpr ih

/-- The characters of a well-formed text say what the text is. -/
theorem encode_scalars {text : List UInt16} (wellFormed : WellFormed text) :
    encode (scalars text) = text := by
  fun_induction scalars text with
  | case1 => rfl
  | case2 u => exact (List.append_nil _).trans (units_single wellFormed)
  | case3 u v rest both ih =>
      rw [WellFormed, if_pos both] at wellFormed
      rw [encode, List.flatMap_cons, units_pair both.1 both.2, ← encode, ih wellFormed]
      rfl
  | case4 u v rest other ih =>
      rw [WellFormed, if_neg other] at wellFormed
      rw [encode, List.flatMap_cons, units_single wellFormed.1, ← encode, ih wellFormed.2]
      rfl

theorem scalars_inj {text text' : List UInt16} (wellFormed : WellFormed text)
    (wellFormed' : WellFormed text') (same : scalars text = scalars text') : text = text' := by
  rw [← encode_scalars wellFormed, ← encode_scalars wellFormed', same]

/-- A unit that is no low surrogate does not join the text before it. -/
theorem scalars_append {u : UInt16} (apart : ¬ IsLow u) (text rest : List UInt16) :
    scalars (text ++ u :: rest) = scalars text ++ scalars (u :: rest) := by
  fun_induction scalars text with
  | case1 => rfl
  | case2 v => rw [List.singleton_append, scalars, if_neg fun both => apart both.2]; rfl
  | case3 v w text both ih => rw [List.cons_append, List.cons_append, scalars, if_pos both, ih]; rfl
  | case4 v w text other ih =>
      rw [List.cons_append, List.cons_append, scalars, if_neg other, ← List.cons_append, ih]
      rfl

/-- Texts that a character joins are read one by one. -/
theorem scalars_intercalate {u : UInt16} (scalar : ¬ IsHigh u ∧ ¬ IsLow u) :
    ∀ texts : List (List UInt16),
      scalars ([u].intercalate texts) = [single u].intercalate (texts.map scalars)
  | [] => rfl
  | [text] => by
      rw [List.map_singleton, List.intercalate_singleton, List.intercalate_singleton]
  | text :: next :: texts => by
      rw [List.map_cons, List.map_cons, List.intercalate_cons_cons, List.intercalate_cons_cons,
        List.append_assoc, List.singleton_append, scalars_append scalar.2, scalars_cons scalar.1,
        scalars_intercalate scalar (next :: texts), List.map_cons, List.append_assoc,
        List.singleton_append]

end Utf16
