import SupportCrm.IngestEffect
import SupportCrm.System

/-!
# Redelivery

Telegram may deliver a message again, and the queue may process it again. The store is to
stay as it is then: the unique index over message identifier and ticket refuses a second
row. But the thread of a message is decided afresh on every processing, so the index
protects only if the rules lead back to the thread that has the message, and the thread is
revived before the duplicate is noticed. `redelivery_unaffected_iff` gives the exact
condition.
-/

set_option autoImplicit false

namespace SupportCrm

open KeyedTable AtomicProgram

/-- No ticket was created or changed its status, no message was added, and nothing was
queued for sending. -/
structure Unaffected (w w' : World) : Prop where
  statuses : (w'.tickets.rows.map fun ticket => (ticket.id, ticket.val.status)) =
    w.tickets.rows.map fun ticket => (ticket.id, ticket.val.status)
  messages : w'.messages.rows = w.messages.rows
  outbound : w'.outbound = w.outbound

namespace World

/-- What the grouping rules are asked about a message that arrives now: its chat and
customer, with the identifiers they have or will get. -/
def groupingInput (w : World) (config : Config) (message : NormalizedIncomingMessage)
    (now : Time) : ThreadGroupingInput where
  chatId := ((w.chats.findKey? message.telegramChatId).map Entry.id).getD w.chats.next
  customerId :=
    ((w.customers.findKey? message.fromTelegramUserId).map Entry.id).getD w.customers.next
  replyToTgMessageId := message.replyToTgMessageId
  idleWindowMinutes := config.threadIdleWindowMinutes
  now := now

/-- The rules lead the message to a thread that is open and already has it. -/
def LedBack (w : World) (config : Config) (message : NormalizedIncomingMessage) (now : Time) :
    Prop :=
  ∃ ticketId rule, w.Decides (w.groupingInput config message now) (.attach ticketId false rule) ∧
    (w.messages.findKey? (message.tgMessageId, ticketId)).isSome

variable {w w₁ : World} {config : Config} {message : NormalizedIncomingMessage}
variable {chat : Entry Chat} {customer : Entry Customer}

theorem Prepared.groupingInput (prepared : w.Prepared message chat customer w₁) (now : Time) :
    SupportCrm.groupingInput config message chat customer now =
      w.groupingInput config message now := by
  obtain ⟨chats, customers, now', chatDone, customerDone, -, -⟩ := prepared
  have chatId : ((w.chats.findKey? message.telegramChatId).map Entry.id).getD w.chats.next =
      chat.id := by
    cases chatDone with
    | found found => simp [found]
    | created absent free => simp [absent]
  have customerId : ((w.customers.findKey? message.fromTelegramUserId).map Entry.id).getD
      w.customers.next = customer.id := by
    cases customerDone with
    | found found => simp [found]
    | created absent free => simp [absent]
  simp only [SupportCrm.groupingInput, World.groupingInput, chatId, customerId]

theorem Prepared.decides (prepared : w.Prepared message chat customer w₁)
    {decision : ThreadGroupingDecision} :
    w₁.Decides (SupportCrm.groupingInput config message chat customer w₁.now) decision ↔
      w.Decides (w.groupingInput config message w₁.now) decision := by
  obtain ⟨tickets, messages, -⟩ := prepared.frame
  rw [prepared.groupingInput]
  exact ⟨fun decides => decides.congr tickets.symm messages.symm,
    fun decides => decides.congr tickets messages⟩

/-- Where a message is led depends on chats, customers, tickets and messages only. -/
theorem LedBack.congr {w' : World} (chats : w'.chats = w.chats)
    (customers : w'.customers = w.customers) (tickets : w'.tickets = w.tickets)
    (messages : w'.messages = w.messages) {now : Time} (ledBack : w.LedBack config message now) :
    w'.LedBack config message now := by
  obtain ⟨ticketId, rule, decides, has⟩ := ledBack
  have same : w'.groupingInput config message now = w.groupingInput config message now := by
    simp only [World.groupingInput, chats, customers]
  exact ⟨ticketId, rule, same ▸ decides.congr tickets messages, by rwa [messages]⟩

/-- The rules decide for the message one thing only. -/
theorem Prepared.ledBack_iff (prepared : w.Prepared message chat customer w₁)
    {decision : ThreadGroupingDecision}
    (decides : w₁.Decides (SupportCrm.groupingInput config message chat customer w₁.now) decision) :
    w.LedBack config message w₁.now ↔ ∃ ticketId rule, decision = .attach ticketId false rule ∧
      (w.messages.findKey? (message.tgMessageId, ticketId)).isSome := by
  rw [prepared.decides] at decides
  constructor
  · rintro ⟨ticketId, rule, decides', has⟩
    exact ⟨ticketId, rule, decides.unique decides', has⟩
  · rintro ⟨ticketId, rule, rfl, has⟩
    exact ⟨ticketId, rule, decides, has⟩

end World

/-- Reviving a thread shows in its status. -/
theorem not_unaffected_of_revived {w w' : World} {ticketId : TicketId} {now : Time}
    {ticket : Entry Ticket} (found : w.tickets.find? ticketId = some ticket)
    (notOpen : ticket.val.status ≠ .open) (tickets : w'.tickets = (w.revived ticketId now).tickets) :
    ¬ Unaffected w w' := by
  intro unaffected
  have reopened : w'.tickets.find? ticketId =
      some ⟨ticketId, TicketData.apply { status := some .open } now ticket.val⟩ :=
    tickets ▸ Table.find?_update_self (TicketData.apply_key _ now) found
  have listed : (ticketId, TicketStatus.open) ∈
      w'.tickets.rows.map fun ticket => (ticket.id, ticket.val.status) :=
    List.mem_map.mpr ⟨_, Table.mem_of_find? reopened, rfl⟩
  rw [unaffected.statuses] at listed
  obtain ⟨other, member, same⟩ := List.mem_map.mp listed
  obtain ⟨sameId, isOpen⟩ := Prod.ext_iff.mp same
  have : other = ticket := Table.eq_of_id_eq member (Table.mem_of_find? found)
    (sameId.trans (Table.id_of_find? found).symm)
  exact notOpen (this ▸ isOpen)

/-- An ingest leaves tickets, messages and queue alone exactly when the rules, at the moment
at which it asks them, lead the message back. -/
theorem World.Ingests.unaffected_iff {w w' : World} {config : Config}
    {message : NormalizedIncomingMessage} {result : IngestResult}
    (ingests : w.Ingests config message result w') :
    ∃ now, w.now ≤ now ∧ now ≤ w'.now ∧ (Unaffected w w' ↔ w.LedBack config message now) := by
  cases ingests with
  | @attached chat customer w₁ w₂ ticketId revive rule now prepared decides revives unrecorded up =>
      obtain ⟨tickets, messages, outbound⟩ := prepared.frame
      have kept : w₂.messages = w.messages ∧ w₁.now ≤ w₂.now := by
        rcases revives with ⟨-, rfl⟩ | ⟨-, revivedAt, later, rfl⟩
        · exact ⟨messages, le_rfl⟩
        · exact ⟨messages, later⟩
      refine ⟨w₁.now, prepared.later, kept.2.trans up, iff_of_false (fun unaffected => ?_) ?_⟩
      · have grown := congrArg List.length unaffected.messages
        simp [World.recorded, kept.1] at grown
      · rw [prepared.ledBack_iff decides]
        rintro ⟨ticketId', rule', same, has⟩
        cases same
        rw [← kept.1, unrecorded] at has
        cases has
  | @repeated chat customer w₁ w₂ ticketId revive rule existing prepared decides revives taken =>
      obtain ⟨tickets, messages, outbound⟩ := prepared.frame
      obtain ⟨ticket, found, -, -, needed⟩ := decides.attached
      rcases revives with ⟨rfl, rfl⟩ | ⟨rfl, now, up, rfl⟩
      · refine ⟨_, prepared.later, le_rfl, iff_of_true ⟨?_, ?_, outbound⟩ ?_⟩
        · rw [tickets]
        · rw [messages]
        · rw [prepared.ledBack_iff decides]
          exact ⟨ticketId, rule, rfl, by rw [← messages, taken]; rfl⟩
      · refine ⟨w₁.now, prepared.later, up, iff_of_false ?_ ?_⟩
        · have same : (w₁.revived ticketId now).tickets = (w.revived ticketId now).tickets := by
            simp only [World.revived, tickets]
          exact not_unaffected_of_revived (tickets ▸ found) (needed.mp rfl) same
        · rw [prepared.ledBack_iff decides]
          rintro ⟨ticketId', rule', same, -⟩
          cases same
  | @created chat customer w₁ now now' now'' prepared decides unrecorded up up' up'' =>
      obtain ⟨tickets, messages, outbound⟩ := prepared.frame
      refine ⟨w₁.now, prepared.later, (up.trans up').trans up'',
        iff_of_false (fun unaffected => ?_) ?_⟩
      · have grown := congrArg List.length unaffected.messages
        simp [World.acknowledged, World.recorded, World.threadCreated, messages] at grown
      · rw [prepared.ledBack_iff decides]
        rintro ⟨ticketId', rule', same, -⟩
        cases same

/-- **When a redelivery is without effect.** A message is recorded in a ticket of its chat,
any requests follow, and the message of a customer is processed once more, with no other
request running. This creates no ticket, changes no status, adds no message and queues no
acknowledgement if and only if, at the moment at which the rules are asked, they lead it
to a thread that is open and already has it. -/
theorem redelivery_unaffected_iff (config : Config) (message : NormalizedIncomingMessage)
    {w w' : World} (linked : w.Linked) {ticketId : TicketId} (_recorded : w.StoredIn message ticketId)
    (requests : List Request) (schedule : List (Act ℕ)) {r : Except Err IngestResult}
    (runs : (process config message).Runs World.perform World.Later
      (w.after config requests schedule) r w')
    (classified : ((classify message.fromTelegramUserId message.fromUsername).run World.perform
      (w.after config requests schedule)).1 = .ok .customer) :
    ∃ now, (w.after config requests schedule).now ≤ now ∧ now ≤ w'.now ∧
      (Unaffected (w.after config requests schedule) w' ↔
        (w.after config requests schedule).LedBack config message now) := by
  obtain ⟨kind, excludedSenders, w₀, classifies, later, outcome⟩ :=
    Alone.of_runs runs (process_outcome (linked.after config requests schedule))
  obtain rfl : kind = .ok .customer := by rw [← classified, classifies.run]
  obtain ⟨result, w'', -, ingests, later'⟩ := outcome
  obtain ⟨start, up, rfl⟩ := later
  obtain ⟨end_, up', rfl⟩ := later'
  obtain ⟨now, from_, to_, exactly⟩ := ingests.unaffected_iff
  exact ⟨now, up.trans from_, to_.trans up',
    ⟨fun unaffected => (exactly.mp { unaffected with }).congr (by rfl) (by rfl) (by rfl) (by rfl),
      fun ledBack => by
        have unaffected := exactly.mpr
          (ledBack.congr (by rfl) (by rfl) (by rfl) (by rfl))
        exact { unaffected with }⟩⟩

/-! ## A redelivery that opens a second thread

A customer writes, an agent closes the thread, and Telegram delivers the message again: the
rules pass over the closed thread, and the message is stored once more in a new one. -/

namespace ClosedThread

/-- The message was delivered. -/
def delivered : World := World.seeded.after .default [.ingest (greeting 7)] (alone 20)

theorem linked_delivered : delivered.Linked :=
  World.linked_seeded.after .default [.ingest (greeting 7)] (alone 20)

theorem storedIn_delivered : delivered.StoredIn (greeting 7) 0 := by
  refine ⟨⟨_, _, rfl, rfl⟩, ?_⟩
  decide

end ClosedThread

theorem redelivery_to_closed_thread :
    ClosedThread.delivered.StoredIn (greeting 7) 0 ∧
      ((classify 42 none).run World.perform
        (ClosedThread.delivered.after Config.default [.close 0 0] (alone 5))).1 =
          .ok .customer ∧
      ¬ Unaffected (ClosedThread.delivered.after Config.default [.close 0 0] (alone 5))
        ((process Config.default (greeting 7)).run World.perform
          (ClosedThread.delivered.after Config.default [.close 0 0] (alone 5))).2 := by
  refine ⟨ClosedThread.storedIn_delivered, rfl, fun unaffected => ?_⟩
  have same := congrArg List.length unaffected.messages
  revert same
  decide

/-- Redelivered at once, the message changes nothing. -/
theorem redelivery_at_once : ∃ now, 0 ≤ now ∧ now ≤ 0 ∧
    (Unaffected (ClosedThread.delivered.after Config.default [] [])
        ((process Config.default (greeting 7)).run World.perform
          (ClosedThread.delivered.after Config.default [] [])).2 ↔
      (ClosedThread.delivered.after Config.default [] []).LedBack Config.default
        (greeting 7) now) :=
  redelivery_unaffected_iff Config.default (greeting 7)
    ClosedThread.linked_delivered ClosedThread.storedIn_delivered [] []
    (Program.runs_run World.Later.refl _ _) rfl

end SupportCrm
