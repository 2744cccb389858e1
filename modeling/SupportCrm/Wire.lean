import SupportCrm.Bridge
import SupportCrm.Library.Doubles
import SupportCrm.Library.Json
import SupportCrm.LoginWidget
import SupportCrm.Normalizer
import SupportCrm.SavedFilters

/-!
# On the wire

Events go to the Redis channel and jobs to the queues as the text that `JSON.stringify` makes of
them, and `JSON.parse` reads that text on the other side. `bigint-json.ts` prints a BigInt as the
string of its digits, and properties that are `undefined` are left out. This module follows the
payloads through: what the API emits, and what the processors read from their jobs, is what was
sent.

Dates in the payloads are strings, printed and read by functions that are parameters.
-/

set_option autoImplicit false

namespace SupportCrm

open JsonText Characters

/-! ## Values of JavaScript -/

/-- What `JSON.stringify` is given. -/
inductive Js where
  | undefined
  | null
  | bool (value : Bool)
  | bigint (n : ℤ)
  | string (text : JsString)
  | array (elements : List Js)
  | object (properties : List (JsString × Js))

mutual

/-- The value as JSON has it; `undefined` is nothing, and a BigInt is the string that its `toJSON`
returns. -/
def Js.toJson? : Js → Option Value
  | .undefined => none
  | .null => some .null
  | .bool value => some (.bool value)
  | .bigint n => some (.string (js (toString n)))
  | .string text => some (.string text)
  | .array elements => some (.array (jsonElements elements))
  | .object properties => some (.object (jsonProperties properties))

/-- In an array `undefined` becomes `null`. -/
def jsonElements : List Js → List Value
  | [] => []
  | element :: elements => element.toJson?.getD .null :: jsonElements elements

/-- In an object a property that is `undefined` is left out. -/
def jsonProperties : List (JsString × Js) → List (JsString × Value)
  | [] => []
  | (key, property) :: properties =>
      match property.toJson? with
      | some value => (key, value) :: jsonProperties properties
      | none => jsonProperties properties

end

namespace Js

def text (value : String) : Js := .string (js value)

def id (id : ℕ) : Js := .text (idText id)

/-- `String(n)` of a number. -/
def number (n : ℤ) : Js := .string (Utf16.encode (Doubles.text n))

def nullable {α : Type} (write : α → Js) : Option α → Js
  | none => .null
  | some a => write a

def optional {α : Type} (write : α → Js) : Option α → Js
  | none => .undefined
  | some a => write a

def elements {α : Type} (write : α → Js) (as : List α) : Js := .array (as.map write)

/-- An object literal. -/
def record (fields : List (String × Js)) : Js :=
  .object (fields.map fun field => (js field.1, field.2))

end Js

/-- `JSON.stringify` of an object literal. -/
def stringify (fields : List (String × Js)) : List Char :=
  (Value.object (jsonProperties (fields.map fun field => (js field.1, field.2)))).print

/-! ## Reading -/

def readString : Value → Option JsString
  | .string units => some units
  | _ => none

def readText (value : Value) : Option String :=
  (readString value).map fun units => String.ofList (Utf16.scalars units)

def readBool : Value → Option Bool
  | .bool value => some value
  | _ => none

/-- An identifier, if the string is the text of one. -/
def readId (value : Value) : Option ℕ := do
  let text ← readText value
  let id := Nat.ofDigitChars 10 text.toList 0
  if idText id = text then some id else none

def readNullable {α : Type} (read : Value → Option α) (value : Value) : Option (Option α) :=
  if value.isNull then some none else (read value).map some

def readArray {α : Type} (read : Value → Option α) : Value → Option (List α)
  | .array values => values.mapM read
  | _ => none

def readRequired {α : Type} (read : Value → Option α) (property : Option Value) : Option α :=
  property.bind read

/-- A property that may be `undefined`. -/
def readOptional {α : Type} (read : Value → Option α) : Option Value → Option (Option α)
  | none => some none
  | some value => (read value).map some

/-- A property of an object. -/
def readField {α : Type} (read : Option Value → Option α) (key : String) (data : Value) :
    Option α :=
  read (data.get? (js key))

/-! ### What is written is read -/

/-- Written as JSON that is not `null`, and read back. -/
def Told {α : Type} (write : α → Js) (read : Value → Option α) (a : α) : Prop :=
  ∃ value, (write a).toJson? = some value ∧ value.isNull = false ∧ read value = some a

/-- Read back as a property that may be missing. -/
def Recovered {α : Type} (write : α → Js) (read : Option Value → Option α) (a : α) : Prop :=
  read (write a).toJson? = some a

section

variable {α : Type} {write : α → Js} {read : Value → Option α}

theorem Told.required {a : α} (told : Told write read a) :
    Recovered write (readRequired read) a := by
  obtain ⟨value, written, -, same⟩ := told
  rw [Recovered, written, readRequired, Option.bind_some, same]

theorem Told.nullable {a : Option α} (told : ∀ a' ∈ a, Told write read a') :
    Recovered (Js.nullable write) (readRequired (readNullable read)) a := by
  cases a with
  | none => rfl
  | some a =>
      obtain ⟨value, written, other, same⟩ := told a rfl
      rw [Recovered, Js.nullable, written, readRequired, Option.bind_some, readNullable, other, same]
      rfl

theorem Told.optional {a : Option α} (told : ∀ a' ∈ a, Told write read a') :
    Recovered (Js.optional write) (readOptional read) a := by
  cases a with
  | none => rfl
  | some a =>
      obtain ⟨value, written, -, same⟩ := told a rfl
      rw [Recovered, Js.optional, written, readOptional, same]
      rfl

theorem Told.optionalNullable {a : Option (Option α)} (told : ∀ a' ∈ a.join, Told write read a') :
    Recovered (Js.optional (Js.nullable write)) (readOptional (readNullable read)) a := by
  cases a with
  | none => rfl
  | some a =>
      cases a with
      | none => rfl
      | some a =>
          obtain ⟨value, written, other, same⟩ := told a rfl
          rw [Recovered, Js.optional, Js.nullable, written, readOptional, readNullable, other, same]
          rfl

theorem Told.elements {as : List α} (told : ∀ a ∈ as, Told write read a) :
    Told (Js.elements write) (readArray read) as := by
  refine ⟨_, rfl, rfl, ?_⟩
  rw [readArray]
  induction as with
  | nil => rfl
  | cons a as ih =>
      obtain ⟨value, written, -, same⟩ := told a List.mem_cons_self
      have rest := ih fun a' listed => told a' (List.mem_cons_of_mem a listed)
      rw [List.map_cons, jsonElements, written, List.mapM_cons, Option.getD_some, same, rest]
      rfl

end

theorem scalars_js' (text : String) : String.ofList (Utf16.scalars (js text)) = text := by
  rw [scalars_js, String.ofList_toList]

theorem js_injective : Function.Injective js := fun text text' same => by
  rw [← scalars_js' text, same, scalars_js' text']

theorem told_text (text : String) : Told Js.text readText text :=
  ⟨_, rfl, rfl, congrArg some (scalars_js' text)⟩

theorem told_id (id : ℕ) : Told Js.id readId id := by
  refine ⟨_, rfl, rfl, ?_⟩
  have digits : (idText id).toList = Nat.toDigits 10 id := Nat.toList_repr
  have text : readText (.string (js (idText id))) = some (idText id) :=
    congrArg some (scalars_js' _)
  rw [readId, text]
  simp only [Option.bind_eq_bind, Option.bind_some, digits, Nat.ofDigitChars_ten_toDigits,
    ↓reduceIte]

theorem told_bool (value : Bool) : Told Js.bool readBool value := ⟨_, rfl, rfl, rfl⟩

/-! ### Properties -/

theorem get?_cons (key key' : JsString) (value : Value) (members : List (JsString × Value)) :
    (Value.object ((key', value) :: members)).get? key =
      ((Value.object members).get? key).or (if key' = key then some value else none) := by
  simp only [Value.get?, List.reverse_cons, List.find?_append, Option.map_or]
  by_cases same : key' = key <;> simp [same]

theorem get?_jsonProperties_of_notMem {key : String} {fields : List (String × Js)}
    (absent : key ∉ fields.map Prod.fst) :
    (Value.object (jsonProperties (fields.map fun field => (js field.1, field.2)))).get? (js key) =
      none := by
  induction fields with
  | nil => rfl
  | cons field fields ih =>
      simp only [List.map_cons, List.mem_cons, not_or] at absent
      have other : js field.1 ≠ js key := fun same => absent.1 (js_injective same).symm
      rw [List.map_cons, jsonProperties]
      cases field.2.toJson? with
      | none => exact ih absent.2
      | some value => rw [get?_cons, ih absent.2, if_neg other, Option.or_none]

/-- A property of an object literal is found under its key. -/
theorem get?_jsonProperties {key : String} {fields : List (String × Js)}
    (distinct : (fields.map Prod.fst).Nodup) :
    (Value.object (jsonProperties (fields.map fun field => (js field.1, field.2)))).get? (js key) =
      (fields.lookup key).bind Js.toJson? := by
  induction fields with
  | nil => rfl
  | cons field fields ih =>
      obtain ⟨key', property⟩ := field
      obtain ⟨absent, distinct⟩ := List.nodup_cons.mp distinct
      rw [List.map_cons, jsonProperties, List.lookup_cons]
      by_cases same : key = key'
      · subst same
        have none := get?_jsonProperties_of_notMem absent
        cases written : property.toJson? with
        | none => simpa [written] using none
        | some value => simp [written, get?_cons, none]
      · have other : js key' ≠ js key := fun same' => same (js_injective same').symm
        rw [beq_false_of_ne same, ← ih distinct]
        cases property.toJson? with
        | none => rfl
        | some value => rw [get?_cons, if_neg other, Option.or_none]

/-- Reading an object that was written goes on with what the property was. -/
theorem readField_bind {α β : Type} {write : α → Js} {read : Option Value → Option α}
    {key : String} {fields : List (String × Js)} {a : α} {next : α → Option β} {b : β}
    (distinct : (fields.map Prod.fst).Nodup) (recovered : Recovered write read a)
    (found : fields.lookup key = some (write a)) (rest : next a = some b) :
    (readField read key (.object (jsonProperties
      (fields.map fun field => (js field.1, field.2)))) >>= next) = some b := by
  rw [readField, get?_jsonProperties distinct, found, Option.bind_some, recovered]
  exact rest

/-! ## Events -/

/-- Dates are texts in JSON: `text` stands for the text of a time, `read` for the time that `Date`
makes of a text. -/
structure Dates where
  text : Time → JsString
  read : JsString → Option Time

namespace Dates

/-- The text of a time is read as that time. -/
def Reads (dates : Dates) (time : Time) : Prop := dates.read (dates.text time) = some time

def write (dates : Dates) (time : Time) : Js := .string (dates.text time)

def parse (dates : Dates) (value : Value) : Option Time := (readString value).bind dates.read

theorem Reads.told {dates : Dates} {time : Time} (reads : dates.Reads time) :
    Told dates.write dates.parse time := ⟨_, rfl, rfl, reads⟩

end Dates

def TicketStatus.ofText (text : String) : Option TicketStatus :=
  [TicketStatus.open, .pending, .on_hold, .solved, .closed, .archived].find? (·.text = text)

def TicketPriority.text : TicketPriority → String
  | .urgent => "urgent"
  | .high => "high"
  | .normal => "normal"
  | .low => "low"

def TicketPriority.ofText (text : String) : Option TicketPriority :=
  [TicketPriority.urgent, .high, .normal, .low].find? (·.text = text)

theorem told_status (status : TicketStatus) :
    Told (fun status => .text (TicketStatus.text status)) (readText · >>= TicketStatus.ofText)
      status := by
  refine ⟨_, rfl, rfl, ?_⟩
  cases status <;> decide

theorem told_priority (priority : TicketPriority) :
    Told (fun priority => .text (TicketPriority.text priority))
      (readText · >>= TicketPriority.ofText) priority := by
  refine ⟨_, rfl, rfl, ?_⟩
  cases priority <;> decide

namespace PatchTicketDto

def fields (dates : Dates) (dto : PatchTicketDto) : List (String × Js) :=
  [("status", .optional (.text ·.text) dto.status),
   ("priority", .optional (.text ·.text) dto.priority),
   ("assignee_id", .optional (.nullable .id) dto.assignee_id),
   ("team_id", .optional (.nullable .id) dto.team_id),
   ("labels", .optional (.elements .id) dto.labels),
   ("snooze_until", .optional (.nullable dates.write) dto.snooze_until),
   ("jira_key", .optional (.nullable .text) dto.jira_key)]

def read (dates : Dates) (changes : Value) : Option PatchTicketDto := do
  let status ← readField (readOptional (readText · >>= TicketStatus.ofText)) "status" changes
  let priority ← readField (readOptional (readText · >>= TicketPriority.ofText)) "priority" changes
  let assignee_id ← readField (readOptional (readNullable readId)) "assignee_id" changes
  let team_id ← readField (readOptional (readNullable readId)) "team_id" changes
  let labels ← readField (readOptional (readArray readId)) "labels" changes
  let snooze_until ← readField (readOptional (readNullable dates.parse)) "snooze_until" changes
  let jira_key ← readField (readOptional (readNullable readText)) "jira_key" changes
  return { status, priority, assignee_id, team_id, labels, snooze_until, jira_key }

theorem told {dates : Dates} {dto : PatchTicketDto}
    (dated : ∀ time ∈ dto.snooze_until.join, dates.Reads time) :
    Told (fun dto => .record (fields dates dto)) (read dates) dto := by
  refine ⟨_, rfl, rfl, ?_⟩
  have distinct : ((fields dates dto).map Prod.fst).Nodup := by
    change ["status", "priority", "assignee_id", "team_id", "labels", "snooze_until",
      "jira_key"].Nodup
    decide
  refine readField_bind distinct (Told.optional fun _ _ => told_status _) rfl ?_
  refine readField_bind distinct (Told.optional fun _ _ => told_priority _) rfl ?_
  refine readField_bind distinct (Told.optionalNullable fun _ _ => told_id _) rfl ?_
  refine readField_bind distinct (Told.optionalNullable fun _ _ => told_id _) rfl ?_
  refine readField_bind distinct
    (Told.optional fun _ _ => Told.elements fun _ _ => told_id _) rfl ?_
  refine readField_bind distinct (Told.optionalNullable fun _ set => (dated _ set).told) rfl ?_
  refine readField_bind distinct (Told.optionalNullable fun _ _ => told_text _) rfl ?_
  rfl

end PatchTicketDto

namespace DomainEvent

/-- `DOMAIN_EVENTS`. -/
def name : DomainEvent → String
  | .ticketCreated _ => "ticket.created"
  | .ticketUpdated _ _ => "ticket.updated"
  | .ticketAssigned _ _ _ _ => "ticket.assigned"
  | .ticketClosed _ _ => "ticket.closed"
  | .messageReceived _ _ _ => "message.received"
  | .messageSent _ _ _ => "message.sent"
  | .commentCreated _ _ _ => "comment.created"
  | .agentTyping _ _ => "agent.typing"
  | .notificationCreated _ _ _ _ => "notification.created"

/-- The payload with which the event is emitted. -/
def payload (dates : Dates) : DomainEvent → List (String × Js)
  | .ticketCreated ticketId => [("ticketId", .id ticketId)]
  | .ticketUpdated ticketId changes =>
      [("ticketId", .id ticketId), ("changes", .record (changes.fields dates))]
  | .ticketAssigned ticketId assigneeId previousAssigneeId byAgentId =>
      [("ticketId", .id ticketId), ("assigneeId", .optional (.nullable .id) assigneeId),
       ("previousAssigneeId", .nullable .id previousAssigneeId), ("byAgentId", .id byAgentId)]
  | .ticketClosed ticketId byAgentId =>
      [("ticketId", .id ticketId), ("byAgentId", .nullable .id byAgentId)]
  | .messageReceived ticketId messageId isNewTicket =>
      [("ticketId", .id ticketId), ("messageId", .id messageId),
       ("isNewTicket", .bool isNewTicket)]
  | .messageSent ticketId messageId agentId =>
      [("ticketId", .id ticketId), ("messageId", .id messageId),
       ("agentId", .optional .id agentId)]
  | .commentCreated ticketId commentId mentions =>
      [("ticketId", .id ticketId), ("commentId", .id commentId),
       ("mentions", .elements .id mentions)]
  | .agentTyping ticketId agentId => [("ticketId", .id ticketId), ("agentId", .id agentId)]
  | .notificationCreated notificationId agentId type ticketId =>
      [("notificationId", .id notificationId), ("agentId", .id agentId), ("type", .text type),
       ("ticketId", .optional .id ticketId)]

/-- What a handler of the event finds in the payload. -/
def read (dates : Dates) (event : String) (payload : Value) : Option DomainEvent := do
  let id := readRequired readId
  match event with
  | "ticket.created" => return .ticketCreated (← readField id "ticketId" payload)
  | "ticket.updated" =>
      let ticketId ← readField id "ticketId" payload
      let changes ← readField (readRequired (PatchTicketDto.read dates)) "changes" payload
      return .ticketUpdated ticketId changes
  | "ticket.assigned" =>
      let ticketId ← readField id "ticketId" payload
      let assigneeId ← readField (readOptional (readNullable readId)) "assigneeId" payload
      let previousAssigneeId ←
        readField (readRequired (readNullable readId)) "previousAssigneeId" payload
      let byAgentId ← readField id "byAgentId" payload
      return .ticketAssigned ticketId assigneeId previousAssigneeId byAgentId
  | "ticket.closed" =>
      let ticketId ← readField id "ticketId" payload
      let byAgentId ← readField (readRequired (readNullable readId)) "byAgentId" payload
      return .ticketClosed ticketId byAgentId
  | "message.received" =>
      let ticketId ← readField id "ticketId" payload
      let messageId ← readField id "messageId" payload
      let isNewTicket ← readField (readRequired readBool) "isNewTicket" payload
      return .messageReceived ticketId messageId isNewTicket
  | "message.sent" =>
      let ticketId ← readField id "ticketId" payload
      let messageId ← readField id "messageId" payload
      let agentId ← readField (readOptional readId) "agentId" payload
      return .messageSent ticketId messageId agentId
  | "comment.created" =>
      let ticketId ← readField id "ticketId" payload
      let commentId ← readField id "commentId" payload
      let mentions ← readField (readRequired (readArray readId)) "mentions" payload
      return .commentCreated ticketId commentId mentions
  | "agent.typing" =>
      let ticketId ← readField id "ticketId" payload
      let agentId ← readField id "agentId" payload
      return .agentTyping ticketId agentId
  | "notification.created" =>
      let notificationId ← readField id "notificationId" payload
      let agentId ← readField id "agentId" payload
      let type ← readField (readRequired readText) "type" payload
      let ticketId ← readField (readOptional readId) "ticketId" payload
      return .notificationCreated notificationId agentId type ticketId
  | _ => none

/-- The dates in the payload can be written and read. -/
def Dated (dates : Dates) : DomainEvent → Prop
  | .ticketUpdated _ changes => ∀ time ∈ changes.snooze_until.join, dates.Reads time
  | _ => True

theorem nodup_payload (dates : Dates) (event : DomainEvent) :
    ((payload dates event).map Prod.fst).Nodup := by
  cases event <;> (simp only [payload, List.map_cons, List.map_nil]; decide)

theorem told {dates : Dates} {event : DomainEvent} (dated : event.Dated dates) :
    Told (fun event => .record (payload dates event)) (read dates event.name) event := by
  refine ⟨_, rfl, rfl, ?_⟩
  have distinct := nodup_payload dates event
  have id : ∀ id : ℕ, Recovered Js.id (readRequired readId) id := fun id => (told_id id).required
  have nullable : ∀ id : Option ℕ,
      Recovered (Js.nullable Js.id) (readRequired (readNullable readId)) id :=
    fun id => Told.nullable fun _ _ => told_id _
  have optional : ∀ id : Option ℕ, Recovered (Js.optional Js.id) (readOptional readId) id :=
    fun id => Told.optional fun _ _ => told_id _
  cases event with
  | ticketCreated ticketId => exact readField_bind distinct (id ticketId) rfl rfl
  | ticketUpdated ticketId changes =>
      refine readField_bind distinct (id ticketId) rfl ?_
      exact readField_bind distinct (PatchTicketDto.told dated).required rfl rfl
  | ticketAssigned ticketId assigneeId previousAssigneeId byAgentId =>
      refine readField_bind distinct (id ticketId) rfl ?_
      refine readField_bind distinct (Told.optionalNullable fun _ _ => told_id _) rfl ?_
      refine readField_bind distinct (nullable previousAssigneeId) rfl ?_
      exact readField_bind distinct (id byAgentId) rfl rfl
  | ticketClosed ticketId byAgentId =>
      refine readField_bind distinct (id ticketId) rfl ?_
      exact readField_bind distinct (nullable byAgentId) rfl rfl
  | messageReceived ticketId messageId isNewTicket =>
      refine readField_bind distinct (id ticketId) rfl ?_
      refine readField_bind distinct (id messageId) rfl ?_
      exact readField_bind distinct (told_bool isNewTicket).required rfl rfl
  | messageSent ticketId messageId agentId =>
      refine readField_bind distinct (id ticketId) rfl ?_
      refine readField_bind distinct (id messageId) rfl ?_
      exact readField_bind distinct (optional agentId) rfl rfl
  | commentCreated ticketId commentId mentions =>
      refine readField_bind distinct (id ticketId) rfl ?_
      refine readField_bind distinct (id commentId) rfl ?_
      exact readField_bind distinct (Told.elements fun _ _ => told_id _).required rfl rfl
  | agentTyping ticketId agentId =>
      refine readField_bind distinct (id ticketId) rfl ?_
      exact readField_bind distinct (id agentId) rfl rfl
  | notificationCreated notificationId agentId type ticketId =>
      refine readField_bind distinct (id notificationId) rfl ?_
      refine readField_bind distinct (id agentId) rfl ?_
      refine readField_bind distinct (told_text type).required rfl ?_
      exact readField_bind distinct (optional ticketId) rfl rfl

end DomainEvent

/-! ### The channel -/

/-- `WorkerEventPublisher.publish`: the text on the channel. -/
def WorkerEventPublisher.publish (event : String) (data : List (String × Js)) : List Char :=
  stringify [("event", .text event), ("data", .record data)]

/-- What comes of a message on the channel: it is logged as malformed, the handler throws, or
`emit` is called. -/
inductive Relayed where
  | ignored
  | thrown
  | emitted (event data : Option Value)

/-- The handler of `message` in `ApiEventSubscriber.onModuleInit`. -/
def ApiEventSubscriber.onMessage (message : List Char) : Relayed :=
  match parse message with
  | none => .ignored
  | some envelope =>
      -- there is no property of `null`
      if envelope.isNull then .thrown
      else .emitted (envelope.get? (js "event")) (envelope.get? (js "data"))

/-- **An event arrives as it was sent.** Whatever a published event carries, texts with quotes, line
breaks or emoji, what is missing and what is `null` included, the API emits it under its name with
a payload in which a handler finds the same event. -/
theorem onMessage_publish (dates : Dates) (event : DomainEvent) (dated : event.Dated dates) :
    ∃ payload, ApiEventSubscriber.onMessage
        (WorkerEventPublisher.publish event.name (event.payload dates)) =
          .emitted (some (.string (js event.name))) (some payload) ∧
      DomainEvent.read dates event.name payload = some event := by
  obtain ⟨payload, written, -, same⟩ := DomainEvent.told dated
  refine ⟨payload, ?_, same⟩
  have distinct : ["event", "data"].Nodup := by decide
  rw [ApiEventSubscriber.onMessage, WorkerEventPublisher.publish, stringify, parse_print]
  change Relayed.emitted _ _ = _
  rw [get?_jsonProperties (by exact distinct), get?_jsonProperties (by exact distinct)]
  exact congrArg (Relayed.emitted _) written

/-! A ticket is snoozed until an evening in November, and a message is edited then. -/

namespace Evening

def time : Time := 1700000000000

def dates : Dates where
  text time' := if time' = time then js "2023-11-14T22:13:20.000Z" else []
  read text := if text = js "2023-11-14T22:13:20.000Z" then some time else none

theorem reads : dates.Reads time := rfl

def event : DomainEvent :=
  .ticketUpdated 7 { snooze_until := some (some time), jira_key := some (some "\"CRM\"\n🙂") }

def update : TelegramUpdate where
  edited_message := some {
    message_id := 7
    chat := { id := -1001234567890, type := .supergroup, title := some "support" }
    «from» := some { id := 42, first_name := "Olena" }
    text := some "\"how much?\""
    reply_to_message := some 6
    edit_date := some 1700000000 }

def message : NormalizedIncomingMessage where
  telegramChatId := -1001234567890
  chatTitle := "support"
  tgMessageId := 7
  fromTelegramUserId := 42
  fromUsername := none
  fromDisplayName := "Olena"
  text := some "\"how much?\""
  replyToTgMessageId := some 6
  attachments := []
  editedAt := some time
  isEdit := true

end Evening

theorem onMessage_publish_snoozed : ∃ payload, ApiEventSubscriber.onMessage
    (WorkerEventPublisher.publish Evening.event.name (Evening.event.payload Evening.dates)) =
      .emitted (some (.string (js Evening.event.name))) (some payload) ∧
    DomainEvent.read Evening.dates Evening.event.name payload = some Evening.event := by
  refine onMessage_publish Evening.dates Evening.event fun time set => ?_
  obtain rfl : Evening.time = time := Option.some.inj set
  exact Evening.reads

/-! ## Jobs -/

/-- `BigInt(text)`; where it is `none`, that throws a SyntaxError. -/
def bigInt (text : List Char) : Option ℤ :=
  match trim text with
  | [] => some 0
  | '0' :: 'x' :: digits | '0' :: 'X' :: digits => (readDigits 16 digits).map Int.ofNat
  | '0' :: 'o' :: digits | '0' :: 'O' :: digits => (readDigits 8 digits).map Int.ofNat
  | '0' :: 'b' :: digits | '0' :: 'B' :: digits => (readDigits 2 digits).map Int.ofNat
  | '-' :: digits => (readDigits 10 digits).map fun n => -Int.ofNat n
  | '+' :: digits => (readDigits 10 digits).map Int.ofNat
  | digits => (readDigits 10 digits).map Int.ofNat

/-- `BigInt` reads what `String` writes. -/
theorem bigInt_toString (a : ℤ) : bigInt (toString a).toList = some a := by
  cases a with
  | ofNat n =>
      have digit {text : List Char} (same : Nat.toDigits 10 n = text) :
          ∀ c ∈ text, c.isDigit = true := fun c member => Decimal.isDigit_of_mem (same ▸ member)
      rw [Decimal.toList_ofNat, bigInt,
        trim_of_visible fun c member => isWhiteSpace_of_isDigit (digit rfl c member)]
      split
      · rename_i none
        exact absurd none Nat.toDigits_ne_nil
      -- the other forms do not have digits only
      iterate 8
        rename_i text
        exact absurd (digit text) (by simp [Char.isDigit])
      rw [readDigits_toDigits]
      rfl
  | negSucc n =>
      have visible : ∀ c ∈ '-' :: Nat.toDigits 10 (n + 1), isWhiteSpace c = false := by
        intro c member
        rcases List.mem_cons.mp member with rfl | member
        · decide
        · exact isWhiteSpace_of_isDigit (Decimal.isDigit_of_mem member)
      rw [Decimal.toList_negSucc, bigInt, trim_of_visible visible]
      change (readDigits 10 (Nat.toDigits 10 (n + 1))).map _ = _
      rw [readDigits_toDigits]
      rfl

/-! ### The queue of incoming messages -/

/-- A text that `BigInt` reads. -/
def readBigInt (value : Value) : Option ℤ :=
  (readString value).bind fun units => bigInt (Utf16.scalars units)

/-- `replyToTgMessageId ? BigInt(replyToTgMessageId) : undefined`; the empty text is falsy. -/
def readReply : Option Value → Option (Option ℤ)
  | none | some .null | some (.string []) => some none
  | some value => (readBigInt value).map some

theorem readBigInt_toString (n : ℤ) : readBigInt (.string (js (toString n))) = some n := by
  change bigInt (Utf16.scalars (js (toString n))) = some n
  rw [scalars_js, bigInt_toString]

theorem toJson?_number {n : ℤ} (safe : n.natAbs < 2 ^ 53) :
    (Js.number n).toJson? = some (.string (js (toString n))) := by
  change some (Value.string (Utf16.encode (Doubles.text n))) = _
  rw [Doubles.text_of_lt safe]
  rfl

theorem told_toString (n : ℤ) : Told (fun n => .text (toString n)) readBigInt n :=
  ⟨_, rfl, rfl, readBigInt_toString n⟩

/-- The text of a safe integer is read. -/
theorem told_number {n : ℤ} (safe : n.natAbs < 2 ^ 53) : Told Js.number readBigInt n :=
  ⟨_, toJson?_number safe, rfl, readBigInt_toString n⟩

theorem toString_ne_empty (n : ℤ) : toString n ≠ "" := by
  intro empty
  have none : (toString n).toList = [] := congrArg String.toList empty
  cases n with
  | ofNat n => exact Nat.toDigits_ne_nil ((Decimal.toList_ofNat n).symm.trans none)
  | negSucc n => cases (Decimal.toList_negSucc n).symm.trans none

/-- The identifier of a quoted message, written as its digits, is read. -/
theorem recovered_reply {write : ℤ → Js} {reply : Option ℤ}
    (written : ∀ n ∈ reply, (write n).toJson? = some (.string (js (toString n)))) :
    Recovered (Js.optional write) readReply reply := by
  cases reply with
  | none => rfl
  | some n =>
      have given : js (toString n) ≠ [] := fun none =>
        toString_ne_empty n (js_injective (none.trans (rfl : [] = js "")))
      rw [Recovered, Js.optional, written n rfl, readReply, readBigInt_toString]
      · rfl
      · exact nofun
      · exact fun none => given (Value.string.inj none)

namespace Attachment

def fields (attachment : Attachment) : List (String × Js) :=
  [("type", .text attachment.type), ("fileId", .text attachment.fileId)]

def read (data : Value) : Option Attachment := do
  let type ← readField (readRequired readText) "type" data
  let fileId ← readField (readRequired readText) "fileId" data
  return ⟨type, fileId⟩

theorem told (attachment : Attachment) :
    Told (fun attachment => .record (fields attachment)) read attachment := by
  refine ⟨_, rfl, rfl, ?_⟩
  have distinct : ((fields attachment).map Prod.fst).Nodup := by
    change ["type", "fileId"].Nodup
    decide
  refine readField_bind distinct (told_text attachment.type).required rfl ?_
  exact readField_bind distinct (told_text attachment.fileId).required rfl rfl

end Attachment

namespace NormalizedIncomingMessage

/-- The object that `TelegramUpdateNormalizer.normalize` returns; `String` is called with the
numbers of the update. -/
def fields (dates : Dates) (message : NormalizedIncomingMessage) : List (String × Js) :=
  [("telegramChatId", .number message.telegramChatId),
   ("chatTitle", .text message.chatTitle),
   ("tgMessageId", .number message.tgMessageId),
   ("fromTelegramUserId", .number message.fromTelegramUserId),
   ("fromUsername", .optional .text message.fromUsername),
   ("fromDisplayName", .text message.fromDisplayName),
   ("text", .optional .text message.text),
   ("replyToTgMessageId", .optional .number message.replyToTgMessageId),
   ("attachments", .elements (fun attachment => .record attachment.fields) message.attachments),
   ("isEdit", .bool message.isEdit),
   ("editedAt", .optional dates.write message.editedAt)]

/-- The message as `IngestOrchestratorService.process` reads it from the data of its job, with
`BigInt` where it has identifiers. -/
def read (dates : Dates) (data : Value) : Option NormalizedIncomingMessage := do
  let telegramChatId ← readField (readRequired readBigInt) "telegramChatId" data
  let chatTitle ← readField (readRequired readText) "chatTitle" data
  let tgMessageId ← readField (readRequired readBigInt) "tgMessageId" data
  let fromTelegramUserId ← readField (readRequired readBigInt) "fromTelegramUserId" data
  let fromUsername ← readField (readOptional readText) "fromUsername" data
  let fromDisplayName ← readField (readRequired readText) "fromDisplayName" data
  let text ← readField (readOptional readText) "text" data
  let replyToTgMessageId ← readField readReply "replyToTgMessageId" data
  let attachments ← readField (readRequired (readArray Attachment.read)) "attachments" data
  let isEdit ← readField (readRequired readBool) "isEdit" data
  let editedAt ← readField (readOptional dates.parse) "editedAt" data
  return ⟨telegramChatId, chatTitle, tgMessageId, fromTelegramUserId, fromUsername,
    fromDisplayName, text, replyToTgMessageId, attachments, editedAt, isEdit⟩

/-- The identifiers are safe integers, as those of Telegram are. -/
structure Safe (message : NormalizedIncomingMessage) : Prop where
  telegramChatId : message.telegramChatId.natAbs < 2 ^ 53
  tgMessageId : message.tgMessageId.natAbs < 2 ^ 53
  fromTelegramUserId : message.fromTelegramUserId.natAbs < 2 ^ 53
  replyToTgMessageId : ∀ id ∈ message.replyToTgMessageId, id.natAbs < 2 ^ 53

theorem told {dates : Dates} {message : NormalizedIncomingMessage} (safe : message.Safe)
    (dated : ∀ time ∈ message.editedAt, dates.Reads time) :
    Told (fun message => .record (fields dates message)) (read dates) message := by
  refine ⟨_, rfl, rfl, ?_⟩
  have distinct : ((fields dates message).map Prod.fst).Nodup := by
    change ["telegramChatId", "chatTitle", "tgMessageId", "fromTelegramUserId", "fromUsername",
      "fromDisplayName", "text", "replyToTgMessageId", "attachments", "isEdit", "editedAt"].Nodup
    decide
  refine readField_bind distinct (told_number safe.telegramChatId).required rfl ?_
  refine readField_bind distinct (told_text _).required rfl ?_
  refine readField_bind distinct (told_number safe.tgMessageId).required rfl ?_
  refine readField_bind distinct (told_number safe.fromTelegramUserId).required rfl ?_
  refine readField_bind distinct (Told.optional fun _ _ => told_text _) rfl ?_
  refine readField_bind distinct (told_text _).required rfl ?_
  refine readField_bind distinct (Told.optional fun _ _ => told_text _) rfl ?_
  refine readField_bind distinct
    (recovered_reply fun id set => toJson?_number (safe.replyToTgMessageId id set)) rfl ?_
  refine readField_bind distinct
    (Told.elements fun _ _ => Attachment.told _).required rfl ?_
  refine readField_bind distinct (told_bool _).required rfl ?_
  exact readField_bind distinct (Told.optional fun _ set => (dated _ set).told) rfl rfl

end NormalizedIncomingMessage

/-- What a processor reads from the data of a job. -/
def jobData {α : Type} (read : Value → Option α) (data : List (String × Js)) : Option α :=
  (parse (stringify data)).bind read

theorem jobData_eq {α : Type} {fields : α → List (String × Js)} {read : Value → Option α} {a : α}
    (told : Told (fun a => .record (fields a)) read a) : jobData read (fields a) = some a := by
  obtain ⟨value, written, -, same⟩ := told
  obtain rfl := Option.some.inj written
  rw [jobData, stringify, parse_print, Option.bind_some, same]

/-- **A queued message is the message that arrived.** What the webhook puts into the queue, the
ingest processor reads from the data of the job, if the identifiers are safe integers. -/
theorem jobData_ingest (dates : Dates) {webhookSecret secretHeader : Option String}
    {update : TelegramUpdate} {job : IngestJob}
    (enqueued : handleWebhook webhookSecret update secretHeader = .ok (some job))
    (safe : job.message.Safe) (dated : ∀ time ∈ job.message.editedAt, dates.Reads time) :
    normalize update = some job.message ∧
      jobData (NormalizedIncomingMessage.read dates) (job.message.fields dates) =
        some job.message := by
  obtain ⟨-, message, normalized, rfl⟩ := handleWebhook_eq_ok_iff.mp enqueued
  exact ⟨normalized, jobData_eq (NormalizedIncomingMessage.told safe dated)⟩

theorem jobData_ingest_edited : normalize Evening.update = some Evening.message ∧
    jobData (NormalizedIncomingMessage.read Evening.dates) (Evening.message.fields Evening.dates) =
      some Evening.message := by
  have enqueued : handleWebhook none Evening.update none = .ok (some (ingestJob Evening.message)) :=
    rfl
  have safe : Evening.message.Safe := by
    refine ⟨by decide, by decide, by decide, fun id quoted => ?_⟩
    obtain rfl : 6 = id := Option.some.inj quoted
    decide
  refine jobData_ingest Evening.dates enqueued safe fun time edited => ?_
  obtain rfl : Evening.time = time := Option.some.inj edited
  exact Evening.reads

/-! ### The queue of replies -/

namespace OutboundAttachment

def fields (attachment : OutboundAttachment) : List (String × Js) :=
  [("fileId", .text attachment.fileId), ("url", .text attachment.url)]

def read (data : Value) : Option OutboundAttachment := do
  let fileId ← readField (readRequired readText) "fileId" data
  let url ← readField (readRequired readText) "url" data
  return ⟨fileId, url⟩

theorem told (attachment : OutboundAttachment) :
    Told (fun attachment => .record (fields attachment)) read attachment := by
  refine ⟨_, rfl, rfl, ?_⟩
  have distinct : ((fields attachment).map Prod.fst).Nodup := by
    change ["fileId", "url"].Nodup
    decide
  refine readField_bind distinct (told_text attachment.fileId).required rfl ?_
  exact readField_bind distinct (told_text attachment.url).required rfl rfl

end OutboundAttachment

namespace OutboundReplyJob

def fields (job : OutboundReplyJob) : List (String × Js) :=
  [("ticketId", .id job.ticketId), ("messageId", .id job.messageId),
   ("telegramChatId", .text (toString job.telegramChatId)), ("text", .text job.text),
   ("replyToTgMessageId", .optional (fun n => .text (toString n)) job.replyToTgMessageId),
   ("attachments", .optional (.elements fun attachment => .record attachment.fields)
     job.attachments)]

/-- The job as `OutboundProcessor.process` reads it. -/
def read (data : Value) : Option OutboundReplyJob := do
  let ticketId ← readField (readRequired readId) "ticketId" data
  let messageId ← readField (readRequired readId) "messageId" data
  let telegramChatId ← readField (readRequired readBigInt) "telegramChatId" data
  let text ← readField (readRequired readText) "text" data
  let replyToTgMessageId ← readField readReply "replyToTgMessageId" data
  let attachments ← readField (readOptional (readArray OutboundAttachment.read)) "attachments" data
  return ⟨ticketId, messageId, telegramChatId, text, replyToTgMessageId, attachments⟩

theorem told (job : OutboundReplyJob) : Told (fun job => .record (fields job)) read job := by
  refine ⟨_, rfl, rfl, ?_⟩
  have distinct : ((fields job).map Prod.fst).Nodup := by
    change ["ticketId", "messageId", "telegramChatId", "text", "replyToTgMessageId",
      "attachments"].Nodup
    decide
  refine readField_bind distinct (told_id _).required rfl ?_
  refine readField_bind distinct (told_id _).required rfl ?_
  refine readField_bind distinct (told_toString _).required rfl ?_
  refine readField_bind distinct (told_text _).required rfl ?_
  refine readField_bind distinct (recovered_reply fun _ _ => rfl) rfl ?_
  exact readField_bind distinct
    (Told.optional fun _ _ => Told.elements fun _ _ => OutboundAttachment.told _) rfl rfl

end OutboundReplyJob

/-- **A queued reply is the reply that was written.** The outbound processor reads from the data of
every job the identifiers, the text, the quote and the files that were enqueued. -/
theorem jobData_outbound (job : OutboundReplyJob) :
    jobData OutboundReplyJob.read job.fields = some job :=
  jobData_eq job.told

end SupportCrm
