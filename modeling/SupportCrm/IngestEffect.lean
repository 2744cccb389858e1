import SupportCrm.Outcome

/-!
# The effect of one ingest

`ingest_effect` collects everything one uninterrupted `process` of a new message does to
the store, with the frame: which ticket the message went to, what became of it, what was
sent, and that nothing else changed.
-/

set_option autoImplicit false

namespace SupportCrm

open KeyedTable AtomicProgram

namespace World

/-- The ticket belongs to the chat with this Telegram identifier. -/
def InTelegramChat (w : World) (telegramChatId : ℤ) (ticketId : TicketId) : Prop :=
  ∃ ticket chat, w.ticketWithChat ticketId = some (ticket, chat) ∧
    chat.val.telegramChatId = telegramChatId

/-- The Telegram message is stored in a ticket of its chat. -/
def StoredIn (w : World) (message : NormalizedIncomingMessage) (ticketId : TicketId) : Prop :=
  w.InTelegramChat message.telegramChatId ticketId ∧
    ∃ row ∈ w.messages.rows,
      row.val.ticketId = ticketId ∧ row.val.tgMessageId = some message.tgMessageId

theorem ticketWithChat_eq_some_iff {w : World} {ticketId : TicketId} {ticket : Entry Ticket}
    {chat : Entry Chat} :
    w.ticketWithChat ticketId = some (ticket, chat) ↔
      w.tickets.find? ticketId = some ticket ∧ w.chats.find? ticket.val.chatId = some chat := by
  unfold ticketWithChat
  cases found : w.tickets.find? ticketId with
  | none => simp
  | some row =>
      cases chatFound : w.chats.find? row.val.chatId with
      | none =>
          simp only [Option.bind_some, chatFound, Option.map_none, reduceCtorEq, false_iff, not_and]
          rintro ⟨⟩
          simp [chatFound]
      | some rowChat =>
          simp only [Option.bind_some, chatFound, Option.map_some, Option.some.injEq, Prod.mk.injEq]
          constructor
          · rintro ⟨rfl, rfl⟩
            exact ⟨rfl, chatFound⟩
          · rintro ⟨rfl, again⟩
            exact ⟨rfl, Option.some.inj (chatFound.symm.trans again)⟩

end World

/-- What the ingest of a new customer message leaves: the message in ticket `ticketId`, an
acknowledgement if and only if the ticket is new, and everything else as it was. -/
structure IngestEffect (w w' : World) (message : NormalizedIncomingMessage)
    (ticketId : TicketId) (isNewTicket : Bool) : Prop where
  ticket : ∃ ticket, w'.tickets.find? ticketId = some ticket ∧ ticket.val.status = .open ∧
    ticket.val.lastClientMessageTgId = some message.tgMessageId
  chat : w'.InTelegramChat message.telegramChatId ticketId
  attached : isNewTicket = false → ∃ old, w.tickets.find? ticketId = some old ∧
    old.val.status.terminal = false
  created : isNewTicket = true → w.tickets.find? ticketId = none ∧
    ∃ ticket customer, w'.tickets.find? ticketId = some ticket ∧
      ticket.val.anchorMessageTgId = message.tgMessageId ∧
      w'.customers.find? ticket.val.customerId = some customer ∧
      customer.val.telegramUserId = message.fromTelegramUserId
  messages : ∃ inbound : Entry Message, ∃ acknowledgements : List (Entry Message),
    w'.messages.rows = w.messages.rows ++ inbound :: acknowledgements ∧
    inbound.val.ticketId = ticketId ∧ inbound.val.direction = .in ∧
    inbound.val.sender = .customer ∧ inbound.val.tgMessageId = some message.tgMessageId ∧
    inbound.val.text = message.text ∧ inbound.val.attachments = message.attachments ∧
    (if isNewTicket then ∃ acknowledgement, acknowledgements = [acknowledgement] ∧
        acknowledgement.val.ticketId = ticketId ∧ acknowledgement.val.direction = .out ∧
        acknowledgement.val.sender = .bot ∧ acknowledgement.val.text = some autoAckText ∧
        w'.outbound = w.outbound ++ [World.acknowledgementJob ticketId acknowledgement.id
          message.telegramChatId message.tgMessageId]
      else acknowledgements = [] ∧ w'.outbound = w.outbound)
  others : ∀ other, other ≠ ticketId → w'.tickets.find? other = w.tickets.find? other

section Effect

variable {config : Config} {message : NormalizedIncomingMessage} {w w₁ w₂ : World}
variable {chat : Entry Chat} {customer : Entry Customer} {ticketId : TicketId} {revive : Bool}

/-- The chat of a ticket that was there before the message is the chat of the message. -/
theorem World.Prepared.chat_of_ticket (prepared : w.Prepared message chat customer w₁)
    (linked : w.Linked) {ticket : Entry Ticket} (member : ticket ∈ w.tickets.rows)
    (same : ticket.val.chatId = chat.id) : w.chats.find? chat.id = some chat := by
  obtain ⟨chatRow, -⟩ := prepared.chatRow
  obtain ⟨chats, customers, now, chatDone, -, -, rfl⟩ := prepared
  obtain ⟨row, found⟩ := Option.isSome_iff_exists.mp (linked.ticketChat ticket member)
  rw [same] at found
  have kept := chatDone.find?_of_some found
  rw [Table.find?_self chatRow] at kept
  rw [found, kept]

/-- A thread is open once it is revived where needed. -/
theorem World.Revives.open (revives : w.Revives ticketId revive w₁) {ticket : Entry Ticket}
    (found : w.tickets.find? ticketId = some ticket)
    (needed : revive = true ↔ ticket.val.status ≠ .open) :
    ∃ ticket', w₁.tickets.find? ticketId = some ticket' ∧ ticket'.val.status = .open ∧
      ticket'.val.chatId = ticket.val.chatId := by
  rcases revives with ⟨kept, rfl⟩ | ⟨reopened, now, -, rfl⟩
  · refine ⟨ticket, found, ?_, rfl⟩
    rw [kept] at needed
    simpa using needed
  · exact ⟨_, Table.find?_update_self (TicketData.apply_key _ now) found, rfl, rfl⟩

/-- Attaching a message to a thread has the effect of an ingest without a new ticket. -/
theorem effect_attached {w' : World} {rule : MatchedRule} {now : Time}
    (prepared : w.Prepared message chat customer w₁)
    (decides : w₁.Decides (groupingInput config message chat customer w₁.now)
      (.attach ticketId revive rule))
    (revives : w₁.Revives ticketId revive w₂)
    (unrecorded : w₂.messages.findKey? (message.tgMessageId, ticketId) = none)
    (later : (w₂.recorded ticketId message.tgMessageId message.text message.attachments false
      unrecorded now).Later w') : IngestEffect w w' message ticketId false := by
  obtain ⟨ticket, found, inChat, live, needed⟩ := decides.attached
  obtain ⟨ticket₂, found₂, isOpen, sameChat⟩ := revives.open found needed
  obtain ⟨chatRow, isChat⟩ := prepared.chatRow
  obtain ⟨end_, -, rfl⟩ := later
  obtain ⟨tickets, messages, outbound⟩ := prepared.frame
  have others : ∀ other, other ≠ ticketId → w₂.tickets.find? other = w.tickets.find? other := by
    intro other ne
    rcases revives with ⟨-, rfl⟩ | ⟨-, now, -, rfl⟩
    · rw [tickets]
    · exact (Table.find?_update_of_ne (TicketData.apply_key _ now) ne).trans (by rw [tickets])
  have recorded := Table.find?_update_self
    (TicketData.apply_key { lastClientMessageTgId := some message.tgMessageId } now) found₂
  have rows : w₂.messages = w.messages ∧ w₂.outbound = w.outbound ∧ w₂.chats = w₁.chats := by
    rcases revives with ⟨-, rfl⟩ | ⟨-, now, -, rfl⟩ <;> exact ⟨messages, outbound, rfl⟩
  exact {
    ticket := ⟨_, recorded, isOpen, rfl⟩
    chat := by
      refine ⟨_, chat, World.ticketWithChat_eq_some_iff.mpr
        ⟨recorded, ?_⟩, isChat⟩
      change w₂.chats.find? ticket₂.val.chatId = some chat
      rw [rows.2.2, sameChat, inChat]
      exact Table.find?_self chatRow
    attached := fun _ => ⟨ticket, tickets ▸ found, live⟩
    created := nofun
    messages := ⟨_, [], congrArg (·.rows ++ _) rows.1, rfl, rfl, rfl, rfl, rfl, rfl, rfl, rows.2.1⟩
    others := fun other ne =>
      (Table.find?_update_of_ne (TicketData.apply_key _ now) ne).trans (others other ne) }

/-- Creating a thread for a message has the effect of an ingest with a new ticket. -/
theorem effect_created {w' : World} {now now' now'' : Time}
    (prepared : w.Prepared message chat customer w₁)
    (unrecorded : (w₁.threadCreated (newThread w₁ message chat customer) now).messages.findKey?
      (message.tgMessageId, w₁.tickets.next) = none)
    (later : (((w₁.threadCreated (newThread w₁ message chat customer) now).recorded
      w₁.tickets.next message.tgMessageId message.text message.attachments true unrecorded
        now').acknowledged w₁.tickets.next chat.val.telegramChatId message.tgMessageId
          now'').Later w') : IngestEffect w w' message w₁.tickets.next true := by
  obtain ⟨chatRow, isChat⟩ := prepared.chatRow
  have customerRow := prepared.customerRow
  have isCustomer : customer.val.telegramUserId = message.fromTelegramUserId := by
    obtain ⟨chats, customers, now, -, customerDone, -, -⟩ := prepared
    exact Option.some.inj (Table.findKey?_eq_some_iff.mp customerDone.findKey?).2
  have same := prepared.frame
  have found : (w₁.threadCreated (newThread w₁ message chat customer) now).tickets.find?
      w₁.tickets.next = some ⟨w₁.tickets.next, (newThread w₁ message chat customer).row now⟩ :=
    Table.find?_insert_self Ticket.free
  have recorded := Table.find?_update_self
    (TicketData.apply_key { lastClientMessageTgId := some message.tgMessageId } now') found
  obtain ⟨end_, -, rfl⟩ := later
  exact {
    ticket := ⟨_, recorded, rfl, rfl⟩
    chat := ⟨_, chat, World.ticketWithChat_eq_some_iff.mpr
      ⟨recorded, Table.find?_self chatRow⟩, isChat⟩
    attached := nofun
    created := fun _ => ⟨by rw [same.1]; exact Table.find?_next _,
      _, customer, recorded, rfl, customerRow, isCustomer⟩
    messages := by
      refine ⟨⟨w₁.messages.next, (w₁.setNow now').incoming w₁.tickets.next message.tgMessageId
          message.text message.attachments⟩,
        [⟨w₁.messages.next + 1, World.acknowledgement w₁.tickets.next now''⟩],
        ?_, rfl, rfl, rfl, rfl, rfl, rfl, ⟨_, rfl, rfl, rfl, rfl, rfl, ?_⟩⟩
      · rw [← same.2.1]
        exact List.append_assoc _ _ _
      · rw [← same.2.2, ← isChat]
        rfl
    others := fun other ne =>
      (Table.find?_update_of_ne (TicketData.apply_key _ now') ne).trans
        ((Table.find?_insert_of_ne Ticket.free ne).trans (by rw [same.1])) }

/-- A message that an attaching ingest finds in its thread was stored in the chat before. -/
theorem stored_of_repeated (linked : w.Linked) {rule : MatchedRule} {existing : Entry Message}
    (prepared : w.Prepared message chat customer w₁)
    (decides : w₁.Decides (groupingInput config message chat customer w₁.now)
      (.attach ticketId revive rule))
    (revives : w₁.Revives ticketId revive w₂)
    (taken : w₂.messages.findKey? (message.tgMessageId, ticketId) = some existing) :
    w.StoredIn message ticketId := by
  obtain ⟨ticket, found, inChat, -⟩ := decides.attached
  obtain ⟨chatRow, isChat⟩ := prepared.chatRow
  obtain ⟨tickets, messages₁, -⟩ := prepared.frame
  have messages : w₂.messages = w.messages := by
    rcases revives with ⟨-, rfl⟩ | ⟨-, now, -, rfl⟩ <;> exact messages₁
  rw [tickets] at found
  rw [messages] at taken
  obtain ⟨member, own⟩ := Table.findKey?_eq_some_iff.mp taken
  have chatFound := prepared.chat_of_ticket linked (Table.mem_of_find? found) inChat
  refine ⟨⟨ticket, chat, World.ticketWithChat_eq_some_iff.mpr ⟨found, ?_⟩, isChat⟩,
    existing, member, ?_⟩
  · rwa [inChat]
  · exact (Message.key_eq_some_iff.mp own).symm

end Effect

/-- **The complete effect of one ingest.** With no other request running, a message of a
customer that no ticket of its chat has yet is stored in exactly one ticket, which is open
afterwards, was neither closed nor archived or is new, and is acknowledged exactly when it
is new; nothing else changes. A message of an agent or of an excluded sender changes no
chat, customer, ticket or message. -/
theorem ingest_effect (config : Config) (message : NormalizedIncomingMessage) {w w' : World}
    {r : Except Err IngestResult} (linked : w.Linked)
    (runs : (process config message).Runs World.perform World.Later w r w')
    {kind : SenderClassification}
    (classified : ((classify message.fromTelegramUserId message.fromUsername).run
      World.perform w).1 = .ok kind) :
    match kind with
    | .customer => (∀ ticketId, ¬ w.StoredIn message ticketId) →
        ∃ ticketId isNewTicket, r = .ok (.ticketMessage ticketId isNewTicket) ∧
          IngestEffect w w' message ticketId isNewTicket
    | _ => w'.chats = w.chats ∧ w'.customers = w.customers ∧ w'.tickets = w.tickets ∧
        w'.messages = w.messages := by
  obtain ⟨kind', excludedSenders, w₀, classifies, later, outcome⟩ :=
    Alone.of_runs runs (process_outcome linked)
  obtain rfl : kind' = .ok kind := by rw [← classified, classifies.run]
  obtain ⟨now, -, rfl⟩ := later
  cases kind with
  | agent agent =>
      obtain ⟨-, rfl⟩ := outcome
      exact ⟨rfl, rfl, rfl, rfl⟩
  | excluded =>
      obtain ⟨-, rfl⟩ := outcome
      exact ⟨rfl, rfl, rfl, rfl⟩
  | customer =>
      intro unstored
      obtain ⟨result, w'', rfl, ingests, later⟩ := outcome
      have linked₀ : World.Linked { w with now := now, excludedSenders := excludedSenders } :=
        { linked with }
      cases ingests with
      | attached prepared decides revives unrecorded up =>
          exact ⟨_, _, rfl, { effect_attached prepared decides revives unrecorded later with }⟩
      | repeated prepared decides revives taken =>
          exact absurd (stored_of_repeated linked₀ prepared decides revives taken) (unstored _)
      | created prepared decides unrecorded up up' up'' =>
          exact ⟨_, _, rfl, { effect_created prepared unrecorded later with }⟩

namespace FirstMessage

/-- Nothing is stored yet. -/
def store : World := World.initial 0 fun n => 1000 + n

theorem unstored (ticketId : TicketId) : ¬ store.StoredIn (greeting 7) ticketId := by
  rintro ⟨-, row, member, -⟩
  simp [store, World.initial, Table.empty] at member

end FirstMessage

theorem ingest_effect_first_message : ∃ ticketId isNewTicket,
    ((process Config.default (greeting 7)).run World.perform
      FirstMessage.store).1 = .ok (.ticketMessage ticketId isNewTicket) ∧
    IngestEffect FirstMessage.store
      ((process Config.default (greeting 7)).run World.perform FirstMessage.store).2
      (greeting 7) ticketId isNewTicket :=
  ingest_effect Config.default (greeting 7) (World.linked_initial _ _)
    (Program.runs_run World.Later.refl _ _)
    (show ((classify 42 none).run World.perform FirstMessage.store).1 = .ok .customer from rfl)
    FirstMessage.unstored

end SupportCrm
