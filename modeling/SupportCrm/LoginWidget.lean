import Mathlib.Data.List.Sort
import Mathlib.Data.Set.Operations
import SupportCrm.Gateway
import SupportCrm.Library.Doubles
import SupportCrm.Library.Lines
import SupportCrm.Library.Utf16

/-!
# The login widget

`TelegramService.verifyLoginWidget` checks a payload of the Telegram login widget: the values
that are signed are joined to one text, a line for each key in the order of the keys, and the
hash must be the HMAC of that text. Values are texts of the client and may hold line breaks, so
the text does not say where a value ends. It says so for payloads that are plain, and every
payload has the text of a plain one.

SHA-256 and HMAC-SHA256 are parameters, functions of bytes.
-/

set_option autoImplicit false

namespace SupportCrm

open KeyedTable TaggedLines Characters

/-! ## The payload -/

/-- A string that JSON has given: any code units. -/
abbrev JsString := List UInt16

/-- A string that the source writes. -/
def js (text : String) : JsString := Utf16.encode text.toList

/-- A number that `@IsInt` lets through: a double that is an integer. -/
structure JsInteger where
  toInt : ℤ
  isDouble : Doubles.IsDouble toInt.natAbs
  deriving DecidableEq

def JsInteger.text (n : JsInteger) : List Char := Doubles.text n.toInt

/-- A safe integer. -/
def JsInteger.ofNat (n : ℕ) (safe : n < 2 ^ 53) : JsInteger := ⟨n, Doubles.isDouble_of_lt safe⟩

/-- An optional key is absent, or there with a string, or with `null`, which `@IsOptional` lets
through. -/
@[ext] structure TelegramLoginPayload where
  id : JsInteger
  first_name : JsString
  last_name : Option (Option JsString)
  username : Option (Option JsString)
  photo_url : Option (Option JsString)
  auth_date : JsInteger
  hash : JsString
  deriving DecidableEq

inductive PayloadValue where
  | number (n : JsInteger)
  | string (text : JsString)
  | null

/-- The value in a template string. -/
def PayloadValue.toJsString : PayloadValue → JsString
  | .number n => Utf16.encode n.text
  | .string text => text
  | .null => js "null"

/-- What a payload holds under an optional key. -/
def optionalEntry (key : String) (value : Option (Option JsString)) :
    List (String × PayloadValue) :=
  value.toList.map fun value => (key, value.elim .null .string)

namespace TelegramLoginPayload

/-- All keys but `hash`, with their values. -/
def rest (payload : TelegramLoginPayload) : List (String × PayloadValue) :=
  ("id", .number payload.id) :: ("first_name", .string payload.first_name) ::
    (optionalEntry "last_name" payload.last_name ++
      optionalEntry "username" payload.username ++
      optionalEntry "photo_url" payload.photo_url ++
      [("auth_date", .number payload.auth_date)])

/-- `dataCheckString`. -/
def dataCheckString (payload : TelegramLoginPayload) : JsString :=
  (js "\n").intercalate ((payload.rest.insertionSort (·.1 ≤ ·.1)).map fun entry =>
    js entry.1 ++ js "=" ++ entry.2.toJsString)

end TelegramLoginPayload

/-! ## Bytes -/

/-- The bytes that a string is hashed as. -/
def utf8 (text : JsString) : List UInt8 :=
  (Utf16.scalars text).flatMap String.utf8EncodeChar

/-- `digest('hex')`. -/
def toHex (bytes : List UInt8) : JsString :=
  Utf16.encode (bytes.flatMap fun byte =>
    [Nat.digitChar (byte.toNat / 16), Nat.digitChar (byte.toNat % 16)])

/-- The digit in a code unit, of which only the low byte is read. -/
def unitDigit (unit : UInt16) : Option ℕ := hexDigit (Char.ofNat (unit.toNat % 0x100))

/-- `Buffer.from(text, 'hex')` stops at the first pair that is not hexadecimal. -/
def bufferFromHex : JsString → List UInt8
  | high :: low :: rest =>
      match unitDigit high, unitDigit low with
      | some high, some low => UInt8.ofNat (16 * high + low) :: bufferFromHex rest
      | _, _ => []
  | _ => []

theorem utf8_inj {text text' : JsString} (same : utf8 text = utf8 text') :
    Utf16.scalars text = Utf16.scalars text' := by
  have bytes : (Utf16.scalars text).utf8Encode = (Utf16.scalars text').utf8Encode := by
    rw [List.utf8Encode, List.utf8Encode]
    exact congrArg _ same
  exact String.ofList_inj.mp (String.toByteArray_inj.mp bytes)

theorem unitDigit_digitChar : ∀ digit < 16,
    Utf16.units (Nat.digitChar digit) = [UInt16.ofNat (Nat.digitChar digit).toNat] ∧
      unitDigit (UInt16.ofNat (Nat.digitChar digit).toNat) = some digit := by
  decide

/-- The bytes are read back from their hexadecimal digits. -/
theorem bufferFromHex_toHex (bytes : List UInt8) : bufferFromHex (toHex bytes) = bytes := by
  induction bytes with
  | nil => rfl
  | cons byte bytes ih =>
      have small := byte.toNat_lt
      obtain ⟨highUnits, high⟩ := unitDigit_digitChar (byte.toNat / 16) (by omega)
      obtain ⟨lowUnits, low⟩ := unitDigit_digitChar (byte.toNat % 16) (by omega)
      have split : toHex (byte :: bytes) =
          UInt16.ofNat (Nat.digitChar (byte.toNat / 16)).toNat ::
            UInt16.ofNat (Nat.digitChar (byte.toNat % 16)).toNat :: toHex bytes := by
        simp only [toHex, Utf16.encode, List.flatMap_cons, List.cons_append, List.nil_append,
          highUnits, lowUnits]
      rw [split, bufferFromHex, high, low, ih]
      change UInt8.ofNat (16 * (byte.toNat / 16) + byte.toNat % 16) :: bytes = byte :: bytes
      rw [Nat.div_add_mod, UInt8.ofNat_toNat]

/-! ## The service -/

structure TelegramService where
  botToken : JsString
  sha256 : List UInt8 → List UInt8
  hmacSha256 : List UInt8 → List UInt8 → List UInt8

namespace TelegramService

def secretKey (service : TelegramService) : List UInt8 := service.sha256 (utf8 service.botToken)

def computedHash (service : TelegramService) (payload : TelegramLoginPayload) : JsString :=
  toHex (service.hmacSha256 service.secretKey (utf8 payload.dataCheckString))

/-- `timingSafeEqual` after the comparison of the lengths. -/
def isHashValid (service : TelegramService) (payload : TelegramLoginPayload) : Bool :=
  let a := bufferFromHex (service.computedHash payload)
  let b := bufferFromHex payload.hash
  a.length == b.length && a == b

/-- At most `LOGIN_WIDGET_MAX_AGE_SECONDS` have passed. -/
def isAgeValid (now : Time) (payload : TelegramLoginPayload) : Bool :=
  now / 1000 - payload.auth_date.toInt ≤ 24 * 60 * 60

def verifyLoginWidget (service : TelegramService) (now : Time) (payload : TelegramLoginPayload) :
    Bool :=
  if payload.hash = [] then false
  else service.isHashValid payload && isAgeValid now payload

/-- The hash check of `verifyLoginWidget`. -/
def PassesHashCheck (service : TelegramService) (payload : TelegramLoginPayload) : Prop :=
  payload.hash ≠ [] ∧ service.isHashValid payload = true

instance (service : TelegramService) (payload : TelegramLoginPayload) :
    Decidable (service.PassesHashCheck payload) :=
  inferInstanceAs (Decidable (_ ∧ _))

/-- `AuthController.telegramCallback`: the agent for whom a session is signed. -/
def telegramCallback (service : TelegramService) (agents : Table Agent.key) (now : Time)
    (dto : TelegramLoginPayload) : Except String (Entry Agent) :=
  if service.verifyLoginWidget now dto then
    match agents.findKey? dto.id.toInt with
    | some agent =>
        if agent.val.isActive then .ok agent else .error "Not on the agent allowlist"
    | none => .error "Not on the agent allowlist"
  else .error "Invalid Telegram Login signature"

section

variable {service : TelegramService} {payload : TelegramLoginPayload}

theorem isHashValid_iff : service.isHashValid payload = true ↔
    service.hmacSha256 service.secretKey (utf8 payload.dataCheckString) =
      bufferFromHex payload.hash := by
  rw [isHashValid, computedHash, bufferFromHex_toHex, Bool.and_eq_true, beq_iff_eq, beq_iff_eq]
  exact ⟨And.right, fun same => ⟨congrArg _ same, same⟩⟩

theorem verifyLoginWidget_iff {now : Time} : service.verifyLoginWidget now payload = true ↔
    service.PassesHashCheck payload ∧ isAgeValid now payload = true := by
  rw [verifyLoginWidget, PassesHashCheck]
  split
  · next empty => exact iff_of_false Bool.false_ne_true fun passes => passes.1.1 empty
  · next filled => rw [Bool.and_eq_true, and_iff_right filled]

/-- Whom the callback logs in. -/
theorem telegramCallback_eq_ok_iff {agents : Table Agent.key} {now : Time} {agent : Entry Agent} :
    service.telegramCallback agents now payload = .ok agent ↔
      (service.PassesHashCheck payload ∧ isAgeValid now payload = true) ∧
        agents.findKey? payload.id.toInt = some agent ∧ agent.val.isActive = true := by
  rw [telegramCallback, ← verifyLoginWidget_iff]
  by_cases verified : service.verifyLoginWidget now payload = true
  · rw [if_pos verified, and_iff_right verified]
    cases found : agents.findKey? payload.id.toInt with
    | none => exact iff_of_false nofun fun ⟨nobody, _⟩ => nomatch nobody
    | some other =>
        constructor
        · intro done
          simp only at done
          split at done
          · next active =>
              cases done
              exact ⟨rfl, active⟩
          · cases done
        · rintro ⟨same, active⟩
          cases same
          exact if_pos active
  · rw [if_neg verified]
    exact iff_of_false nofun fun passes => verified passes.1

end

end TelegramService

/-! ## The signed text -/

/-- The start of the line of a key. -/
def tag (key : String) : List Char := key.toList ++ ['=']

/-- The optional keys, in the order in which they are signed. -/
def optionalTags : List (List Char) := ["last_name", "photo_url", "username"].map tag

/-- The texts of numbers. -/
def numerals : Set (List Char) := Set.range JsInteger.text

/-- The signed text of its values, as characters. -/
def signedText (authDate : JsInteger) (firstName : List Char) (id : JsInteger)
    (values : List (Option (List Char))) : List Char :=
  tag "auth_date" ++ (authDate.text ++ '\n' :: (tag "first_name" ++
    (firstName ++ '\n' :: (tag "id" ++ id.text ++ lines '\n' optionalTags values))))

/-- An optional value in the signed text. -/
def signedValue (value : Option (Option JsString)) : Option (List Char) :=
  value.map (·.elim "null".toList Utf16.scalars)

theorem optionalTags_distinct : Distinct '\n' optionalTags where
  unbroken := by decide
  apart := by decide

theorem id_apart : ∀ tag' ∈ optionalTags, ¬ tag "id" <+: tag' ∧ ¬ tag' <+: tag "id" := by decide

theorem JsInteger.newline_notMem_text (n : JsInteger) : '\n' ∉ n.text :=
  Doubles.notMem_text (by decide) (by decide) n.toInt

theorem JsInteger.text_injective : Function.Injective JsInteger.text := by
  intro m n same
  obtain ⟨m, double⟩ := m
  obtain ⟨n, double'⟩ := n
  obtain rfl := Doubles.text_inj double double' same
  rfl

theorem JsInteger.text_mem_numerals (n : JsInteger) : n.text ∈ numerals := Set.mem_range_self n

/-- With an unmarked name and separated values, the signed text says what they are. -/
theorem signedText_inj {authDate authDate' id id' : JsInteger} {firstName firstName' : List Char}
    {values values' : List (Option (List Char))}
    (unmarked : Unmarked '\n' (tag "id") numerals optionalTags firstName)
    (unmarked' : Unmarked '\n' (tag "id") numerals optionalTags firstName')
    (separated : Separated '\n' optionalTags values)
    (separated' : Separated '\n' optionalTags values')
    (same : signedText authDate firstName id values =
      signedText authDate' firstName' id' values') :
    authDate = authDate' ∧ firstName = firstName' ∧ id = id' ∧ values = values' := by
  obtain ⟨dates, names⟩ := code_inj authDate.newline_notMem_text authDate'.newline_notMem_text
    (.inr ⟨_, rfl⟩) (.inr ⟨_, rfl⟩) (List.append_cancel_left same)
  have unbroken : ∀ code ∈ numerals, '\n' ∉ code := by
    rintro _ ⟨n, rfl⟩
    exact n.newline_notMem_text
  obtain ⟨name, ids, rest⟩ := marked_inj (by decide) unbroken optionalTags_distinct.unbroken
    id_apart id.text_mem_numerals id'.text_mem_numerals (continues_lines _ _ _)
    (continues_lines _ _ _) unmarked unmarked'
    (List.append_cancel_left (List.cons.inj names).2)
  have free : Free '\n' optionalTags [] := fun _ _ line =>
    List.cons_ne_nil _ _ (List.infix_nil.mp line)
  exact ⟨JsInteger.text_injective dates, name, JsInteger.text_injective ids,
    (append_lines_inj optionalTags_distinct separated separated' free free rest).2⟩

/-- Every signed text is that of an unmarked name and separated values. -/
theorem exists_signedText (authDate : JsInteger) (firstName : List Char) (id : JsInteger)
    (values : List (Option (List Char))) :
    ∃ firstName' id' values', Unmarked '\n' (tag "id") numerals optionalTags firstName' ∧
      Separated '\n' optionalTags values' ∧
        signedText authDate firstName' id' values' = signedText authDate firstName id values := by
  obtain ⟨firstName', _, ⟨id', rfl⟩, rest, unmarked, continues, names⟩ :=
    exists_marked (tag "id") firstName id.text (lines '\n' optionalTags values)
      id.text_mem_numerals (continues_lines _ _ _)
  obtain ⟨values', separated, rfl⟩ := continues.exists_lines optionalTags_distinct.unbroken
  exact ⟨firstName', id', values', unmarked, separated, by rw [signedText, names, signedText]⟩

theorem scalars_js (text : String) : Utf16.scalars (js text) = text.toList :=
  Utf16.scalars_encode _

/-- The line of a key. -/
theorem scalars_line (key : String) (text : JsString) :
    Utf16.scalars (js key ++ js "=" ++ text) = tag key ++ Utf16.scalars text := by
  rw [js, js, List.append_assoc, Utf16.scalars_encode_append, Utf16.scalars_encode_append, tag,
    List.append_assoc]
  rfl

theorem flatMap_optionalEntry (key : String) (value : Option (Option JsString)) :
    (optionalEntry key value).flatMap (fun entry =>
      '\n' :: (tag entry.1 ++ Utf16.scalars entry.2.toJsString)) =
      fieldLine '\n' (tag key) (signedValue value) := by
  rcases value with _ | _ | text
  · rfl
  · exact (List.append_nil _).trans
      (congrArg (fun text => '\n' :: (tag key ++ text)) (scalars_js "null"))
  · exact List.append_nil _

namespace TelegramLoginPayload

variable {payload : TelegramLoginPayload}

/-- The values of the optional keys, in the order in which they are signed. -/
def optionals (payload : TelegramLoginPayload) : List (Option (Option JsString)) :=
  [payload.last_name, payload.photo_url, payload.username]

theorem sorted_rest (payload : TelegramLoginPayload) :
    payload.rest.insertionSort (·.1 ≤ ·.1) =
      ("auth_date", .number payload.auth_date) :: ("first_name", .string payload.first_name) ::
        ("id", .number payload.id) :: (optionalEntry "last_name" payload.last_name ++
          (optionalEntry "photo_url" payload.photo_url ++
            optionalEntry "username" payload.username)) := by
  obtain ⟨id, first_name, last_name, username, photo_url, auth_date, hash⟩ := payload
  cases last_name <;> cases username <;> cases photo_url <;>
    simp [rest, optionalEntry]

/-- The data-check string is the signed text of the values. -/
theorem scalars_dataCheckString (payload : TelegramLoginPayload) :
    Utf16.scalars payload.dataCheckString =
      signedText payload.auth_date (Utf16.scalars payload.first_name) payload.id
        (payload.optionals.map signedValue) := by
  have newline : js "\n" = [10] := by decide
  have read : Utf16.single 10 = '\n' := by decide
  rw [dataCheckString, sorted_rest, newline, Utf16.scalars_intercalate (by decide), read,
    List.map_map, List.map_cons, intercalate_cons, List.flatMap_map, List.flatMap_cons,
    List.flatMap_cons, List.flatMap_append, List.flatMap_append]
  simp only [Function.comp_apply, scalars_line, flatMap_optionalEntry]
  simp only [PayloadValue.toJsString, Utf16.scalars_encode, signedText, optionals, optionalTags,
    List.map_cons, lines_cons, lines, List.map_nil, List.append_nil, List.append_assoc,
    List.cons_append]

end TelegramLoginPayload

/-! ## Plain payloads -/

/-- An optional value that the signed text shows: no `null`, and no text with half a pair. -/
def Proper : Option (Option JsString) → Prop
  | none => True
  | some none => False
  | some (some text) => Utf16.WellFormed text

/-- The value under an optional key that the signed text shows so. -/
def ofSigned (value : Option (List Char)) : Option (Option JsString) :=
  value.map fun text => some (Utf16.encode text)

theorem signedValue_ofSigned (value : Option (List Char)) :
    signedValue (ofSigned value) = value := by
  cases value with
  | none => rfl
  | some text => exact congrArg some (Utf16.scalars_encode text)

theorem proper_ofSigned (value : Option (List Char)) : Proper (ofSigned value) := by
  cases value with
  | none => trivial
  | some text => exact Utf16.wellFormed_encode text

theorem ofSigned_signedValue {value : Option (Option JsString)} (proper : Proper value) :
    ofSigned (signedValue value) = value := by
  rcases value with _ | _ | text
  · rfl
  · exact proper.elim
  · exact congrArg (fun text => some (some text)) (Utf16.encode_scalars proper)

theorem signedValue_inj {value value' : Option (Option JsString)} (proper : Proper value)
    (proper' : Proper value') (same : signedValue value = signedValue value') :
    value = value' := by
  rw [← ofSigned_signedValue proper, same, ofSigned_signedValue proper']

namespace TelegramLoginPayload

/-- The signed text of the payload says what the payload is: its texts are shown, the first name
holds no line of `id` that a line of an optional key follows, and an optional value holds no
line of a key that is signed later. -/
structure Plain (payload : TelegramLoginPayload) : Prop where
  wellFormed : Utf16.WellFormed payload.first_name
  proper : ∀ value ∈ payload.optionals, Proper value
  unmarked : Unmarked '\n' (tag "id") numerals optionalTags (Utf16.scalars payload.first_name)
  separated : Separated '\n' optionalTags (payload.optionals.map signedValue)

/-- Plain payloads are equal when their texts and their hashes are. -/
theorem Plain.eq {payload payload' : TelegramLoginPayload} (plain : payload.Plain)
    (plain' : payload'.Plain)
    (text : Utf16.scalars payload.dataCheckString = Utf16.scalars payload'.dataCheckString)
    (hash : payload.hash = payload'.hash) : payload = payload' := by
  rw [scalars_dataCheckString, scalars_dataCheckString] at text
  obtain ⟨authDate, name, id, values⟩ := signedText_inj plain.unmarked plain'.unmarked
    plain.separated plain'.separated text
  have firstName := Utf16.scalars_inj plain.wellFormed plain'.wellFormed name
  have proper := plain.proper
  have proper' := plain'.proper
  simp only [optionals, List.forall_mem_cons] at proper proper'
  simp only [optionals, List.map_cons, List.cons.injEq] at values
  have lastName := signedValue_inj proper.1 proper'.1 values.1
  have photoUrl := signedValue_inj proper.2.1 proper'.2.1 values.2.1
  have username := signedValue_inj proper.2.2.1 proper'.2.2.1 values.2.2.1
  exact TelegramLoginPayload.ext id firstName lastName username photoUrl authDate hash

/-- Every payload has the text of a plain one. -/
theorem exists_plain (payload : TelegramLoginPayload) :
    ∃ plain : TelegramLoginPayload, plain.Plain ∧ plain.hash = payload.hash ∧
      plain.auth_date = payload.auth_date ∧
        Utf16.scalars plain.dataCheckString = Utf16.scalars payload.dataCheckString := by
  obtain ⟨firstName, id, values, unmarked, separated, text⟩ := exists_signedText
    payload.auth_date (Utf16.scalars payload.first_name) payload.id
    (payload.optionals.map signedValue)
  obtain ⟨lastName, photoUrl, username, rfl⟩ := List.length_eq_three.mp separated.length_eq
  refine ⟨⟨id, Utf16.encode firstName, ofSigned lastName, ofSigned username, ofSigned photoUrl,
    payload.auth_date, payload.hash⟩, ⟨Utf16.wellFormed_encode _, ?_, ?_, ?_⟩, rfl, rfl, ?_⟩
  · simp only [optionals, List.forall_mem_cons, proper_ofSigned, true_and]
    exact fun _ member => absurd member List.not_mem_nil
  · rwa [Utf16.scalars_encode]
  · simpa only [optionals, List.map_cons, List.map_nil, signedValue_ofSigned] using separated
  · rw [scalars_dataCheckString, scalars_dataCheckString, ← text, Utf16.scalars_encode]
    simp only [optionals, List.map_cons, List.map_nil, signedValue_ofSigned]

end TelegramLoginPayload

/-! ## One signature -/

theorem TelegramService.passesHashCheck_congr {service : TelegramService}
    {payload payload' : TelegramLoginPayload} (hash : payload.hash = payload'.hash)
    (text : Utf16.scalars payload.dataCheckString = Utf16.scalars payload'.dataCheckString) :
    service.PassesHashCheck payload ↔ service.PassesHashCheck payload' := by
  rw [PassesHashCheck, PassesHashCheck, isHashValid_iff, isHashValid_iff, utf8, utf8, hash, text]

/-- **A login signature fits one plain payload only.** With HMAC-SHA256 under the key of the bot
token injective, two plain payloads that carry the same hash and pass the hash check are equal.
A payload that passes and is not plain carries the hash of another payload, a plain one, that
passes too. -/
theorem signature_fits_one_plain_payload (service : TelegramService)
    (injective : Function.Injective (service.hmacSha256 service.secretKey)) :
    (∀ p q : TelegramLoginPayload, p.Plain → q.Plain → p.hash = q.hash →
      service.PassesHashCheck p → service.PassesHashCheck q → p = q) ∧
    ∀ p : TelegramLoginPayload, service.PassesHashCheck p → ¬ p.Plain →
      ∃ q : TelegramLoginPayload, q.Plain ∧ q ≠ p ∧ q.hash = p.hash ∧
        q.auth_date = p.auth_date ∧ service.PassesHashCheck q := by
  constructor
  · intro p q plain plain' hash passes passes'
    have digest := TelegramService.isHashValid_iff.mp passes.2
    rw [hash, ← TelegramService.isHashValid_iff.mp passes'.2] at digest
    exact plain.eq plain' (utf8_inj (injective digest)) hash
  · intro p passes notPlain
    obtain ⟨q, plain, hash, authDate, text⟩ := p.exists_plain
    refine ⟨q, plain, ?_, hash, authDate,
      (TelegramService.passesHashCheck_congr hash text).mpr passes⟩
    rintro rfl
    exact notPlain plain

/-! ### Two people under one signature -/

/-- The text that Telegram has signed: a user 8 with a last name of two lines. -/
def twoLines : JsString := js "auth_date=1700000000\nfirst_name=A\nid=8\nlast_name=B\nid=7"

/-- The digests of the token and of that text are the real ones; HMAC keeps other texts apart. -/
def TelegramService.sample : TelegramService where
  botToken := js "4242:crm-bot"
  sha256 _ := [190, 118, 229, 8, 40, 243, 35, 31, 161, 92, 29, 11, 175, 164, 201, 0, 101, 180, 60,
    225, 191, 9, 232, 58, 220, 148, 230, 53, 229, 69, 212, 243]
  hmacSha256 _ message :=
    if message = utf8 twoLines then
      [29, 40, 148, 222, 43, 10, 32, 82, 174, 250, 59, 186, 94, 85, 151, 68, 197, 162, 12, 91, 198,
        32, 191, 121, 109, 3, 131, 150, 22, 195, 74, 92]
    else 0 :: message

theorem TelegramService.sample_injective :
    Function.Injective (sample.hmacSha256 sample.secretKey) := by
  intro message message' same
  simp only [sample] at same
  split at same <;> split at same
  · next first second => exact first.trans second.symm
  · cases same
  · cases same
  · exact (List.cons.inj same).2

namespace TelegramLoginPayload

def lastNameOfTwoLines : TelegramLoginPayload where
  id := .ofNat 8 (by decide)
  first_name := js "A"
  last_name := some (some (js "B\nid=7"))
  username := none
  photo_url := none
  auth_date := .ofNat 1700000000 (by decide)
  hash := js "1d2894de2b0a2052aefa3bba5e559744c5a20c5bc620bf796d03839616c34a5c"

def firstNameOfThreeLines : TelegramLoginPayload :=
  { lastNameOfTwoLines with
    id := .ofNat 7 (by decide)
    first_name := js "A\nid=8\nlast_name=B"
    last_name := none }

theorem lastNameOfTwoLines_plain : lastNameOfTwoLines.Plain where
  wellFormed := Utf16.wellFormed_encode _
  proper := by
    have wellFormed : Utf16.WellFormed (js "B\nid=7") := Utf16.wellFormed_encode _
    simpa [optionals, lastNameOfTwoLines, Proper] using wellFormed
  unmarked := fun _ _ _ _ line => absurd (line.subset List.mem_cons_self) (by decide)
  separated := .present (by decide) (.absent (.absent .nil))

theorem firstNameOfThreeLines_not_plain : ¬ firstNameOfThreeLines.Plain := fun plain =>
  plain.unmarked _ lastNameOfTwoLines.id.text_mem_numerals (tag "last_name") (by decide) (by decide)

theorem lastNameOfTwoLines_passes :
    TelegramService.sample.PassesHashCheck lastNameOfTwoLines := by
  decide

/-- Both payloads have the text that is signed. -/
theorem firstNameOfThreeLines_passes :
    TelegramService.sample.PassesHashCheck firstNameOfThreeLines := by
  have text : firstNameOfThreeLines.dataCheckString = lastNameOfTwoLines.dataCheckString := by
    decide
  have hash : firstNameOfThreeLines.hash = lastNameOfTwoLines.hash := rfl
  exact (TelegramService.passesHashCheck_congr hash (congrArg Utf16.scalars text)).mpr
    lastNameOfTwoLines_passes

end TelegramLoginPayload

/-- Two agents, the users 7 and 8 of Telegram. -/
def twoAgents : Table Agent.key :=
  ((Table.empty : Table Agent.key).put ⟨7, true⟩ rfl).put ⟨8, true⟩ rfl

/-- The signature of the two lines logs in the user 8, and with the lines in the first name the
user 7. -/
theorem one_signature_two_agents :
    ∃ service : TelegramService, Function.Injective (service.hmacSha256 service.secretKey) ∧
      ∃ p q : TelegramLoginPayload, p.hash = q.hash ∧ service.PassesHashCheck p ∧
        service.PassesHashCheck q ∧ p ≠ q ∧ p.id ≠ q.id ∧
        ∃ (agents : Table Agent.key) (now : Time),
          service.telegramCallback agents now p = .ok ⟨0, ⟨7, true⟩⟩ ∧
            service.telegramCallback agents now q = .ok ⟨1, ⟨8, true⟩⟩ := by
  have first := TelegramLoginPayload.firstNameOfThreeLines_passes
  have second := TelegramLoginPayload.lastNameOfTwoLines_passes
  refine ⟨.sample, TelegramService.sample_injective, .firstNameOfThreeLines, .lastNameOfTwoLines,
    rfl, first, second, by decide, by decide, twoAgents, 1700000000000, ?_, ?_⟩
  · exact TelegramService.telegramCallback_eq_ok_iff.mpr
      ⟨⟨first, by decide⟩, by decide, rfl⟩
  · exact TelegramService.telegramCallback_eq_ok_iff.mpr
      ⟨⟨second, by decide⟩, by decide, rfl⟩

open TelegramService TelegramLoginPayload in
theorem one_signature_one_plain_payload :
    (∀ q : TelegramLoginPayload, q.Plain → q.hash = lastNameOfTwoLines.hash →
      sample.PassesHashCheck q → q = lastNameOfTwoLines) ∧
    ∃ q : TelegramLoginPayload, q.Plain ∧ q ≠ firstNameOfThreeLines ∧
      q.hash = firstNameOfThreeLines.hash ∧ q.auth_date = firstNameOfThreeLines.auth_date ∧
      sample.PassesHashCheck q :=
  ⟨fun q plain hash passes =>
    (signature_fits_one_plain_payload sample sample_injective).1 q lastNameOfTwoLines plain
      lastNameOfTwoLines_plain hash passes lastNameOfTwoLines_passes,
    (signature_fits_one_plain_payload sample sample_injective).2 firstNameOfThreeLines
      firstNameOfThreeLines_passes firstNameOfThreeLines_not_plain⟩

end SupportCrm
