import Mathlib.Data.List.Forall2
import SupportCrm.Library.Characters
import SupportCrm.Library.Utf16

/-!
# JSON

The values of JSON, the text that prints one and the values that a text is read as. Strings are
texts of code units: a pair of surrogates is printed as its character and a surrogate without its
other half as an escape, so the printed text has characters only. Numbers keep their text.

Reading gives back what was printed (`parse_print`).
-/

set_option autoImplicit false

open Characters

namespace JsonText

/-! ## Values -/

def isNumberChar (c : Char) : Bool := c.isDigit || c ∈ ['-', '+', '.', 'e', 'E']

def isDigits (text : List Char) : Bool := text ≠ [] && text.all Char.isDigit

/-- What may follow the integer and the fraction of a number. -/
def isExponent : List Char → Bool
  | [] => true
  | mark :: rest =>
      (mark = 'e' || mark = 'E') &&
        match rest with
        | '+' :: digits | '-' :: digits => isDigits digits
        | digits => isDigits digits

/-- What may follow the integer of a number. -/
def isFraction : List Char → Bool
  | '.' :: rest =>
      isDigits (rest.takeWhile Char.isDigit) && isExponent (rest.dropWhile Char.isDigit)
  | rest => isExponent rest

/-- No zero stands before other digits. -/
def isUnsigned (text : List Char) : Bool :=
  let integer := text.takeWhile Char.isDigit
  (integer = ['0'] || isDigits integer && integer.head? ≠ some '0') &&
    isFraction (text.dropWhile Char.isDigit)

/-- The grammar of numbers. -/
def isNumber : List Char → Bool
  | '-' :: rest => isUnsigned rest
  | rest => isUnsigned rest

/-- A number, by its text. -/
structure Number where
  text : List Char
  valid : text ≠ [] ∧ text.all isNumberChar = true ∧ isNumber text = true
  deriving DecidableEq

inductive Value where
  | null
  | bool (value : Bool)
  | number (value : Number)
  | string (units : List UInt16)
  | array (values : List Value)
  | object (members : List (List UInt16 × Value))

def Value.isNull : Value → Bool
  | .null => true
  | _ => false

/-- The value under a key; of several the last one counts. -/
def Value.get? (key : List UInt16) : Value → Option Value
  | .object members => (members.reverse.find? fun member => member.1 = key).map Prod.snd
  | _ => none

/-! ## Printing -/

/-- The units that have an escape of their own, with its letter. -/
def shortEscapes : List (ℕ × Char) :=
  [(8, 'b'), (9, 't'), (10, 'n'), (12, 'f'), (13, 'r'), (34, '"'), (92, '\\')]

def hexEscape (u : UInt16) : List Char :=
  let digit k := Nat.digitChar (u.toNat / k % 16)
  ['\\', 'u', digit 4096, digit 256, digit 16, digit 1]

/-- A unit that is not half of a pair. -/
def printUnit (u : UInt16) : List Char :=
  match shortEscapes.lookup u.toNat with
  | some letter => ['\\', letter]
  | none =>
      if u.toNat < 0x20 ∨ Utf16.IsHigh u ∨ Utf16.IsLow u then hexEscape u else [Utf16.single u]

def printUnits : List UInt16 → List Char
  | [] => []
  | [u] => printUnit u
  | u :: v :: rest =>
      if Utf16.IsHigh u ∧ Utf16.IsLow v then Utf16.pair u v :: printUnits rest
      else printUnit u ++ printUnits (v :: rest)

def printString (units : List UInt16) : List Char := '"' :: (printUnits units ++ ['"'])

/-- The texts of a list with commas between them, up to the closing bracket. -/
def joined (close : Char) : List (List Char) → List Char
  | [] => [close]
  | [text] => text ++ [close]
  | text :: next :: texts => text ++ ',' :: joined close (next :: texts)

mutual

def Value.print : Value → List Char
  | .null => "null".toList
  | .bool true => "true".toList
  | .bool false => "false".toList
  | .number value => value.text
  | .string units => printString units
  | .array values => '[' :: joined ']' (printValues values)
  | .object members => '{' :: joined '}' (printMembers members)

def printValues : List Value → List (List Char)
  | [] => []
  | value :: values => value.print :: printValues values

def printMembers : List (List UInt16 × Value) → List (List Char)
  | [] => []
  | (key, value) :: members => (printString key ++ ':' :: value.print) :: printMembers members

end

/-! ## Reading -/

def isSpace (c : Char) : Bool := c ∈ [' ', '\t', '\n', '\r']

def skip (text : List Char) : List Char := text.dropWhile isSpace

def shortUnit (letter : Char) : Option UInt16 :=
  if letter = '/' then some 47
  else (shortEscapes.find? fun entry => entry.2 = letter).map fun entry => UInt16.ofNat entry.1

def hexUnit (a b c d : Char) : Option UInt16 := do
  let a ← hexDigit a
  let b ← hexDigit b
  let c ← hexDigit c
  let d ← hexDigit d
  some (UInt16.ofNat (4096 * a + 256 * b + 16 * c + d))

/-- The units of a string after its opening quote, and what follows the closing one. -/
def parseUnits : List Char → Option (List UInt16 × List Char)
  | [] => none
  | c :: rest =>
      if c = '"' then some ([], rest)
      else if c = '\\' then
        match rest with
        | [] => none
        | letter :: rest =>
            if letter = 'u' then
              match rest with
              | h₁ :: h₂ :: h₃ :: h₄ :: rest =>
                  (hexUnit h₁ h₂ h₃ h₄).bind fun unit =>
                    (parseUnits rest).map fun (units, rest) => (unit :: units, rest)
              | _ => none
            else
              (shortUnit letter).bind fun unit =>
                (parseUnits rest).map fun (units, rest) => (unit :: units, rest)
      else if c.toNat < 0x20 then none
      else (parseUnits rest).map fun (units, rest) => (Utf16.units c ++ units, rest)

section

variable {α : Type*} (item : List Char → Option (α × List Char)) (close : Char)

/-- One item and those after it, each behind a comma, up to the closing bracket. -/
def parseItems : ℕ → List Char → Option (List α × List Char)
  | 0, _ => none
  | fuel + 1, text => do
      let (a, rest) ← item text
      match skip rest with
      | [] => none
      | c :: rest =>
          if c = close then some ([a], rest)
          else if c = ',' then
            (parseItems fuel rest).map fun (items, rest) => (a :: items, rest)
          else none

/-- What stands between brackets, behind the opening one. -/
def parseBracketed (fuel : ℕ) (text : List Char) : Option (List α × List Char) :=
  match skip text with
  | [] => none
  | c :: rest => if c = close then some ([], rest) else parseItems item close fuel (c :: rest)

end

/-- A key, a colon and a value. -/
def parseMember (value : List Char → Option (Value × List Char)) (text : List Char) :
    Option ((List UInt16 × Value) × List Char) :=
  match skip text with
  | '"' :: rest => do
      let (key, rest) ← parseUnits rest
      match skip rest with
      | ':' :: rest => (value rest).map fun (value, rest) => ((key, value), rest)
      | _ => none
  | _ => none

def parseNumber (text : List Char) : Option (Value × List Char) :=
  let number := text.takeWhile isNumberChar
  if valid : number ≠ [] ∧ number.all isNumberChar = true ∧ isNumber number = true then
    some (.number ⟨number, valid⟩, text.dropWhile isNumberChar)
  else none

def parseWord (word : String) (value : Value) (text : List Char) : Option (Value × List Char) :=
  (text.dropPrefix? word.toList).map fun rest => (value, rest)

/-- A value and what follows it; the fuel is the length of the text. -/
def parseValue : ℕ → List Char → Option (Value × List Char)
  | 0, _ => none
  | fuel + 1, text =>
      match skip text with
      | [] => none
      | c :: rest =>
          if c = '"' then (parseUnits rest).map fun (units, rest) => (.string units, rest)
          else if c = '[' then
            (parseBracketed (parseValue fuel) ']' fuel rest).map fun (values, rest) =>
              (.array values, rest)
          else if c = '{' then
            (parseBracketed (parseMember (parseValue fuel)) '}' fuel rest).map
              fun (members, rest) => (.object members, rest)
          else if c = 'n' then parseWord "ull" .null rest
          else if c = 't' then parseWord "rue" (.bool true) rest
          else if c = 'f' then parseWord "alse" (.bool false) rest
          else parseNumber (c :: rest)

/-- The value of a whole text. -/
def parse (text : List Char) : Option Value :=
  match parseValue (text.length + 1) text with
  | some (value, rest) => if skip rest = [] then some value else none
  | none => none

/-! ## Strings -/

theorem parseUnits_plain {c : Char} (noQuote : c ≠ '"') (noEscape : c ≠ '\\')
    (printable : 0x20 ≤ c.toNat) (rest : List Char) :
    parseUnits (c :: rest) =
      (parseUnits rest).map fun (units, rest) => (Utf16.units c ++ units, rest) := by
  rw [parseUnits.eq_def]
  simp only [if_neg noQuote, if_neg noEscape, if_neg (Nat.not_lt.mpr printable)]

theorem parseUnits_shortEscape {letter : Char} {u : UInt16} (other : letter ≠ 'u')
    (unit : shortUnit letter = some u) (rest : List Char) :
    parseUnits ('\\' :: letter :: rest) =
      (parseUnits rest).map fun (units, rest) => (u :: units, rest) := by
  rw [parseUnits.eq_def]
  simp only [Char.reduceEq, ↓reduceIte, if_neg other, unit, Option.bind_some]

theorem parseUnits_hexEscape (u : UInt16) (rest : List Char) :
    parseUnits (hexEscape u ++ rest) =
      (parseUnits rest).map fun (units, rest) => (u :: units, rest) := by
  have digit : ∀ k, hexDigit (Nat.digitChar (u.toNat / k % 16)) = some (u.toNat / k % 16) :=
    fun k => hexDigit_digitChar _ (Nat.mod_lt _ (by decide))
  have small := u.toNat_lt
  have whole : 4096 * (u.toNat / 4096 % 16) + 256 * (u.toNat / 256 % 16) +
      16 * (u.toNat / 16 % 16) + u.toNat / 1 % 16 = u.toNat := by omega
  have unit : hexUnit (Nat.digitChar (u.toNat / 4096 % 16)) (Nat.digitChar (u.toNat / 256 % 16))
      (Nat.digitChar (u.toNat / 16 % 16)) (Nat.digitChar (u.toNat / 1 % 16)) = some u := by
    rw [hexUnit, digit, digit, digit, digit]
    change some (UInt16.ofNat _) = _
    rw [whole, UInt16.ofNat_toNat]
  simp only [hexEscape, List.cons_append, List.nil_append, parseUnits, Char.reduceEq, ↓reduceIte,
    unit, Option.bind_some]

theorem shortUnit_of_mem : ∀ entry ∈ shortEscapes,
    entry.2 ≠ 'u' ∧ shortUnit entry.2 = some (UInt16.ofNat entry.1) := by
  decide

/-- A unit that is printed is read. -/
theorem parseUnits_printUnit (u : UInt16) (rest : List Char) :
    parseUnits (printUnit u ++ rest) =
      (parseUnits rest).map fun (units, rest) => (u :: units, rest) := by
  rw [printUnit]
  split
  · next letter short =>
      obtain ⟨before, after, split, -⟩ := List.lookup_eq_some_iff.mp short
      have member : (u.toNat, letter) ∈ shortEscapes := by simp [split]
      obtain ⟨other, unit⟩ := shortUnit_of_mem _ member
      rw [UInt16.ofNat_toNat] at unit
      exact parseUnits_shortEscape other unit rest
  · next long =>
      split
      · exact parseUnits_hexEscape u rest
      · next plain =>
          simp only [not_or] at plain
          have point := Utf16.toNat_single plain.2
          have noQuote : Utf16.single u ≠ '"' := fun same => by
            have quote : u.toNat = 34 := by rw [← point, same]; rfl
            rw [quote] at long
            cases long
          have noEscape : Utf16.single u ≠ '\\' := fun same => by
            have escape : u.toNat = 92 := by rw [← point, same]; rfl
            rw [escape] at long
            cases long
          rw [List.singleton_append, parseUnits_plain noQuote noEscape
            (point ▸ Nat.le_of_not_lt plain.1), Utf16.units_single plain.2]
          rfl

theorem printString_append (units : List UInt16) (rest : List Char) :
    printString units ++ rest = '"' :: (printUnits units ++ '"' :: rest) := by
  rw [printString, List.cons_append, List.append_assoc, List.singleton_append]

theorem parseUnits_printUnits (units : List UInt16) (rest : List Char) :
    parseUnits (printUnits units ++ '"' :: rest) = some (units, rest) := by
  fun_induction printUnits units with
  | case1 => rw [List.nil_append, parseUnits.eq_def]; rfl
  | case2 u =>
      rw [parseUnits_printUnit, parseUnits.eq_def]
      rfl
  | case3 u v units both ih =>
      have point := Utf16.toNat_pair both.1 both.2
      have noQuote : Utf16.pair u v ≠ '"' := fun same => by
        rw [same] at point
        change 34 = _ at point
        omega
      have noEscape : Utf16.pair u v ≠ '\\' := fun same => by
        rw [same] at point
        change 92 = _ at point
        omega
      rw [List.cons_append, parseUnits_plain noQuote noEscape (by omega), ih,
        Utf16.units_pair both.1 both.2]
      rfl
  | case4 u v units other ih =>
      rw [List.append_assoc, parseUnits_printUnit, ih]
      rfl

/-! ## Lists -/

theorem skip_cons {c : Char} (visible : isSpace c = false) (rest : List Char) :
    skip (c :: rest) = c :: rest := List.dropWhile_cons_of_neg (by simp [visible])

/-- A text that is read from its first character on. -/
def Starts (close : Char) (text : List Char) : Prop :=
  ∃ c rest, text = c :: rest ∧ isSpace c = false ∧ c ≠ close

/-- Nothing that belongs to a number comes next. -/
def Follows (text : List Char) : Prop := ∀ c ∈ text.head?, isNumberChar c = false

theorem follows_cons {c : Char} (apart : isNumberChar c = false) (rest : List Char) :
    Follows (c :: rest) := fun _ first => Option.some.inj first ▸ apart

section

variable {α : Type*} {item : List Char → Option (α × List Char)} {close : Char}

theorem parseItems_succ {text rest : List Char} {a : α} {c : Char}
    (read : item text = some (a, c :: rest)) (visible : isSpace c = false) (fuel : ℕ) :
    parseItems item close (fuel + 1) text =
      if c = close then some ([a], rest)
      else if c = ',' then (parseItems item close fuel rest).map fun (items, rest) =>
        (a :: items, rest)
      else none := by
  simp only [parseItems, read, Option.bind_eq_bind, Option.bind_some, skip_cons visible]

/-- Items that are read each by itself are read from their joined text. -/
theorem parseItems_joined (visible : isSpace close = false) (apart : isNumberChar close = false)
    (separated : ',' ≠ close) {items : List α} {texts : List (List Char)}
    (reads : List.Forall₂
      (fun a text => ∀ rest, Follows rest → item (text ++ rest) = some (a, rest)) items texts)
    (filled : texts ≠ []) (rest : List Char) {fuel : ℕ}
    (enough : (joined close texts).length ≤ fuel) :
    parseItems item close fuel (joined close texts ++ rest) = some (items, rest) := by
  fun_induction joined close texts generalizing items fuel with
  | case1 => exact absurd rfl filled
  | case2 text =>
      rcases reads with _ | ⟨read, ⟨⟩⟩
      obtain ⟨fuel, rfl⟩ : ∃ less, fuel = less + 1 :=
        Nat.exists_eq_add_one.mpr (by simp at enough; omega)
      have last := read (close :: rest) (follows_cons apart _)
      rw [List.append_assoc, List.singleton_append, parseItems_succ last visible, if_pos rfl]
  | case3 text next texts ih =>
      rcases reads with _ | ⟨read, reads⟩
      obtain ⟨fuel, rfl⟩ : ∃ less, fuel = less + 1 :=
        Nat.exists_eq_add_one.mpr (by simp at enough; omega)
      have first := read (',' :: (joined close (next :: texts) ++ rest)) (follows_cons (by decide) _)
      have shorter : (joined close (next :: texts)).length ≤ fuel := by
        simp only [List.length_append, List.length_cons] at enough
        omega
      have others := ih reads (List.cons_ne_nil _ _) shorter
      rw [List.append_assoc, List.cons_append, parseItems_succ first (by decide),
        if_neg separated, if_pos rfl, others]
      rfl

/-- What stands between brackets is read, if no item starts like the closing one. -/
theorem parseBracketed_joined (visible : isSpace close = false)
    (apart : isNumberChar close = false) (separated : ',' ≠ close) {items : List α}
    {texts : List (List Char)} (starts : ∀ text ∈ texts, Starts close text)
    (reads : List.Forall₂
      (fun a text => ∀ rest, Follows rest → item (text ++ rest) = some (a, rest)) items texts)
    (rest : List Char) {fuel : ℕ} (enough : (joined close texts).length ≤ fuel) :
    parseBracketed item close fuel (joined close texts ++ rest) = some (items, rest) := by
  cases texts with
  | nil =>
      cases reads
      rw [joined, List.singleton_append, parseBracketed, skip_cons visible]
      exact if_pos rfl
  | cons text texts =>
      have items := parseItems_joined visible apart separated reads (List.cons_ne_nil _ _) rest
        enough
      obtain ⟨c, tail, rfl, shown, other⟩ := starts text List.mem_cons_self
      obtain ⟨after, split⟩ : ∃ after, joined close ((c :: tail) :: texts) = c :: after := by
        cases texts <;> exact ⟨_, rfl⟩
      rw [split, List.cons_append] at items ⊢
      rw [parseBracketed, skip_cons shown, ← items]
      exact if_neg other

end

/-! ## Values -/

theorem follows_nil : Follows [] := fun _ none => absurd none (Option.not_mem_none _)

theorem parseWord_append (word : String) (value : Value) (rest : List Char) :
    parseWord word value (word.toList ++ rest) = some (value, rest) := by
  rw [parseWord, List.dropPrefix?_append_of_beq rest BEq.rfl]
  rfl

theorem parseNumber_append (number : Number) {rest : List Char} (follows : Follows rest) :
    parseNumber (number.text ++ rest) = some (.number number, rest) := by
  obtain ⟨text, valid⟩ := number
  have belongs : ∀ c ∈ text, isNumberChar c = true := List.all_eq_true.mp valid.2.1
  have ended : rest.takeWhile isNumberChar = [] ∧ rest.dropWhile isNumberChar = rest := by
    cases rest with
    | nil => exact ⟨rfl, rfl⟩
    | cons c rest =>
        have apart := Bool.not_eq_true _ ▸ follows c rfl
        exact ⟨List.takeWhile_cons_of_neg apart, List.dropWhile_cons_of_neg apart⟩
  have number : (text ++ rest).takeWhile isNumberChar = text := by
    rw [List.takeWhile_append_of_pos belongs, ended.1, List.append_nil]
  have after : (text ++ rest).dropWhile isNumberChar = rest := by
    rw [List.dropWhile_append_of_pos belongs, ended.2]
  simp only [parseNumber, number, after]
  exact dif_pos valid

/-- The characters that end a value or start one that is no number. -/
def marks : List Char := [' ', '\t', '\n', '\r', ']', '}', '"', '[', '{', 'n', 't', 'f']

theorem notMem_marks {c : Char} (number : isNumberChar c = true) : c ∉ marks := by
  have apart : ∀ d ∈ marks, isNumberChar d = false := by simp [marks, isNumberChar]
  exact fun member => Bool.false_ne_true ((apart c member).symm.trans number)

theorem isSpace_of_isNumberChar {c : Char} (number : isNumberChar c = true) :
    isSpace c = false := by
  have other := notMem_marks number
  rw [isSpace, decide_eq_false_iff_not]
  exact fun space => other (List.mem_append_left _ space)

theorem Number.exists_cons (number : Number) :
    ∃ c tail, number.text = c :: tail ∧ isNumberChar c = true := by
  obtain ⟨text, filled, belongs, -⟩ := number
  obtain ⟨c, tail, rfl⟩ := List.exists_cons_of_ne_nil filled
  exact ⟨c, tail, rfl, List.all_eq_true.mp belongs c List.mem_cons_self⟩

/-- A value is printed from a visible character on, which closes no bracket. -/
theorem starts_print {close : Char} (closes : close ∈ [']', '}']) (value : Value) :
    Starts close value.print := by
  have bracket : ∀ c ∈ ['n', 't', 'f', '"', '[', '{'], isSpace c = false ∧ c ∉ [']', '}'] := by
    simp [isSpace]
  have starts : ∀ c ∈ ['n', 't', 'f', '"', '[', '{'], ∀ rest, Starts close (c :: rest) :=
    fun c member rest => ⟨c, rest, rfl, (bracket c member).1,
      fun same => (bracket c member).2 (same ▸ closes)⟩
  cases value with
  | null => exact starts 'n' (by decide) _
  | bool value => cases value <;> exact starts _ (by decide) _
  | number value =>
      obtain ⟨c, tail, text, number⟩ := value.exists_cons
      refine ⟨c, tail, text, isSpace_of_isNumberChar number, ?_⟩
      have listed : ∀ d ∈ [']', '}'], d ∈ marks := by simp [marks]
      rintro rfl
      exact notMem_marks number (listed c closes)
  | string units => exact starts '"' (by decide) _
  | array values => exact starts '[' (by decide) _
  | object members => exact starts '{' (by decide) _

theorem printValues_eq (values : List Value) : printValues values = values.map Value.print := by
  induction values with
  | nil => rfl
  | cons value values ih => rw [printValues, ih, List.map_cons]

theorem printMembers_eq (members : List (List UInt16 × Value)) :
    printMembers members = members.map fun member =>
      printString member.1 ++ ':' :: member.2.print := by
  induction members with
  | nil => rfl
  | cons member members ih => rw [printMembers, ih, List.map_cons]

theorem length_le_joined {close : Char} {text : List Char} {texts : List (List Char)}
    (member : text ∈ texts) : text.length ≤ (joined close texts).length := by
  fun_induction joined close texts with
  | case1 => exact absurd member List.not_mem_nil
  | case2 only =>
      obtain rfl := List.mem_singleton.mp member
      simp
  | case3 first next texts ih =>
      rcases List.mem_cons.mp member with rfl | later
      · simp
      · have := ih later
        simp only [List.length_append, List.length_cons]
        omega

/-- A member is read when its value is. -/
theorem parseMember_append {value : List Char → Option (Value × List Char)} {key : List UInt16}
    {v : Value} {rest : List Char} (read : value (v.print ++ rest) = some (v, rest)) :
    parseMember value (printString key ++ ':' :: v.print ++ rest) = some ((key, v), rest) := by
  have colon : isSpace ':' = false := by decide
  rw [List.append_assoc, List.cons_append, printString_append, parseMember,
    skip_cons (by decide)]
  simp only [parseUnits_printUnits, Option.bind_eq_bind, Option.bind_some, skip_cons colon, read,
    Option.map_some]

/-- A value is read from its text, whatever follows it. -/
theorem parseValue_print : ∀ (value : Value) (rest : List Char), Follows rest →
    ∀ fuel, value.print.length ≤ fuel → parseValue fuel (value.print ++ rest) = some (value, rest)
  | .null, rest, _, fuel + 1, _ => parseWord_append "ull" .null rest
  | .bool true, rest, _, fuel + 1, _ => parseWord_append "rue" (.bool true) rest
  | .bool false, rest, _, fuel + 1, _ => parseWord_append "alse" (.bool false) rest
  | .number value, rest, follows, fuel + 1, _ => by
      have read := parseNumber_append value follows
      obtain ⟨c, tail, text, number⟩ := value.exists_cons
      have other := notMem_marks number
      simp only [marks, List.mem_cons, not_or] at other
      rw [text, List.cons_append] at read
      rw [Value.print, text, List.cons_append]
      simp only [parseValue, skip_cons (isSpace_of_isNumberChar number), other, ↓reduceIte, read]
  | .string units, rest, _, fuel + 1, _ => by
      have quote : isSpace '"' = false := by decide
      simp only [Value.print, printString_append, parseValue, skip_cons quote, ↓reduceIte,
        parseUnits_printUnits, Option.map_some]
  | .array values, rest, _, fuel + 1, enough => by
      have opening : isSpace '[' = false := by decide
      have shorter : (joined ']' (printValues values)).length ≤ fuel :=
        Nat.le_of_succ_le_succ enough
      rw [printValues_eq] at shorter
      have starts : ∀ text ∈ values.map Value.print, Starts ']' text :=
        List.forall_mem_map.mpr fun v _ => starts_print (by decide) v
      have reads : List.Forall₂ (fun v text => ∀ rest, Follows rest →
          parseValue fuel (text ++ rest) = some (v, rest)) values (values.map Value.print) := by
        rw [List.forall₂_map_right_iff, List.forall₂_same]
        exact fun v member rest follows => parseValue_print v rest follows fuel
          (Nat.le_trans (length_le_joined (List.mem_map_of_mem member)) shorter)
      have items := parseBracketed_joined (by decide) (by decide) (by decide) starts reads rest
        shorter
      rw [Value.print, List.cons_append, printValues_eq]
      simp only [parseValue, skip_cons opening, Char.reduceEq, ↓reduceIte, items, Option.map_some]
  | .object members, rest, _, fuel + 1, enough => by
      have opening : isSpace '{' = false := by decide
      have shorter : (joined '}' (printMembers members)).length ≤ fuel :=
        Nat.le_of_succ_le_succ enough
      rw [printMembers_eq] at shorter
      have starts : ∀ text ∈ members.map fun member => printString member.1 ++
          ':' :: member.2.print, Starts '}' text :=
        List.forall_mem_map.mpr fun member _ => ⟨'"', _, rfl, by decide, by decide⟩
      have reads : List.Forall₂ (fun member text => ∀ rest, Follows rest →
          parseMember (parseValue fuel) (text ++ rest) = some (member, rest)) members
          (members.map fun member => printString member.1 ++ ':' :: member.2.print) := by
        rw [List.forall₂_map_right_iff, List.forall₂_same]
        rintro ⟨key, v⟩ member rest follows
        have text := Nat.le_trans (length_le_joined (List.mem_map_of_mem member)) shorter
        refine parseMember_append (parseValue_print v rest follows fuel ?_)
        simp only [List.length_append, List.length_cons] at text
        omega
      have items := parseBracketed_joined (by decide) (by decide) (by decide) starts reads rest
        shorter
      rw [Value.print, List.cons_append, printMembers_eq]
      simp only [parseValue, skip_cons opening, Char.reduceEq, ↓reduceIte, items, Option.map_some]
  | value, _, _, 0, enough => by
      obtain ⟨c, tail, text, -⟩ : Starts ']' value.print := starts_print (by decide) value
      rw [text] at enough
      exact absurd enough (Nat.not_succ_le_zero _)

/-- **The round trip.** A value is read from its text. -/
theorem parse_print (value : Value) : parse value.print = some value := by
  have read := parseValue_print value [] follows_nil (value.print.length + 1) (Nat.le_succ _)
  rw [List.append_nil] at read
  rw [parse, read]
  rfl

end JsonText
