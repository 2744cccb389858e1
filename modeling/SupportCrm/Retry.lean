import SupportCrm.Redelivery
import Mathlib.Logic.Equiv.Defs

/-!
# Retries

The ingest queue runs `process` again when it failed or its process died. Every step before
is committed, so the second run finds what the first one left: the states of
`World.Stopped`. `retry_recovers_iff` says from which of them the second run ends where one
uninterrupted run would have ended.
-/

set_option autoImplicit false

namespace SupportCrm

open KeyedTable AtomicProgram

/-! ## Equal up to identifiers and timestamps -/

def Ticket.timeless (ticket : Ticket) : Ticket := { ticket with createdAt := 0, updatedAt := 0 }

def Message.timeless (message : Message) : Message := { message with createdAt := 0 }

/-- New names for the identifiers that the tables hand out. -/
structure Names where
  chat : Equiv.Perm ChatId
  customer : Equiv.Perm CustomerId
  ticket : Equiv.Perm TicketId
  message : Equiv.Perm MessageId

namespace Names

variable (names : Names)

def renameTicket (ticket : Ticket) : Ticket :=
  { ticket with
    chatId := names.chat ticket.chatId
    customerId := names.customer ticket.customerId }

def renameMessage (message : Message) : Message :=
  { message with ticketId := names.ticket message.ticketId }

def renameJob (job : OutboundReplyJob) : OutboundReplyJob :=
  { job with ticketId := names.ticket job.ticketId, messageId := names.message job.messageId }

/-- The second world has the chats, customers, tickets, messages and jobs of the first, under
their new names and at other times. -/
structure Matches (w w' : World) : Prop where
  chats : w'.chats.rows = w.chats.rows.map fun row => ⟨names.chat row.id, row.val⟩
  customers : w'.customers.rows = w.customers.rows.map fun row => ⟨names.customer row.id, row.val⟩
  tickets : w'.tickets.rows.map (Entry.map Ticket.timeless) =
    w.tickets.rows.map fun row => ⟨names.ticket row.id, (names.renameTicket row.val).timeless⟩
  messages : w'.messages.rows.map (Entry.map Message.timeless) =
    w.messages.rows.map fun row => ⟨names.message row.id, (names.renameMessage row.val).timeless⟩
  outbound : w'.outbound = w.outbound.map names.renameJob

end Names

namespace World

/-- Equal up to timestamps. -/
structure Alike (w w' : World) : Prop where
  chats : w'.chats = w.chats
  customers : w'.customers = w.customers
  tickets : w'.tickets.rows.map (Entry.map Ticket.timeless) =
    w.tickets.rows.map (Entry.map Ticket.timeless)
  nextTicket : w'.tickets.next = w.tickets.next
  messages : w'.messages.rows.map (Entry.map Message.timeless) =
    w.messages.rows.map (Entry.map Message.timeless)
  nextMessage : w'.messages.next = w.messages.next
  outbound : w'.outbound = w.outbound

namespace Alike

variable {w w' : World}

theorem refl (w : World) : w.Alike w := ⟨rfl, rfl, rfl, rfl, rfl, rfl, rfl⟩

theorem timeless_update {tickets tickets' : Table Ticket.key}
    (alike : tickets'.rows.map (Entry.map Ticket.timeless) =
      tickets.rows.map (Entry.map Ticket.timeless)) (id : TicketId) (data : TicketData)
    (now now' : Time) :
    (tickets'.update id (data.apply now') (data.apply_key now')).rows.map
        (Entry.map Ticket.timeless) =
      (tickets.update id (data.apply now) (data.apply_key now)).rows.map
        (Entry.map Ticket.timeless) := by
  have commutes : ∀ (tickets : Table Ticket.key) (now : Time),
      (tickets.update id (data.apply now) (data.apply_key now)).rows.map
        (Entry.map Ticket.timeless) =
        (tickets.rows.map (Entry.map Ticket.timeless)).map (Entry.change id (data.apply 0)) := by
    intro tickets now
    rw [Table.update_rows, List.map_map, List.map_map]
    exact List.map_congr_left fun row _ =>
      Entry.map_change id (data.apply now) row fun _ => rfl
  rw [commutes, commutes, alike]

theorem revived (alike : w.Alike w') (ticketId : TicketId) (now now' : Time) :
    (w.revived ticketId now).Alike (w'.revived ticketId now') :=
  { alike with
    tickets := timeless_update alike.tickets ticketId { status := some .open } now now' }

theorem threadCreated (alike : w.Alike w') (data : NewTicket) (now now' : Time) :
    (w.threadCreated data now).Alike (w'.threadCreated data now') :=
  { alike with
    tickets := by
      simp only [World.threadCreated, Table.insert_rows, List.map_append, alike.tickets,
        alike.nextTicket]
      rfl
    nextTicket := congrArg (· + 1) alike.nextTicket }

theorem recorded (alike : w.Alike w') {ticketId : TicketId} {tgMessageId : ℤ}
    {text : Option String} {attachments : List Attachment} {isNewTicket : Bool}
    (unrecorded : w.messages.findKey? (tgMessageId, ticketId) = none)
    (unrecorded' : w'.messages.findKey? (tgMessageId, ticketId) = none) (now now' : Time) :
    (w.recorded ticketId tgMessageId text attachments isNewTicket unrecorded now).Alike
      (w'.recorded ticketId tgMessageId text attachments isNewTicket unrecorded' now') :=
  { alike with
    tickets := timeless_update alike.tickets ticketId
      { lastClientMessageTgId := some tgMessageId } now now'
    messages := by
      simp only [World.recorded, Table.insert_rows, List.map_append, alike.messages,
        alike.nextMessage]
      rfl
    nextMessage := congrArg (· + 1) alike.nextMessage }

theorem acknowledged (alike : w.Alike w') (ticketId : TicketId) (telegramChatId tgMessageId : ℤ)
    (now now' : Time) :
    (w.acknowledged ticketId telegramChatId tgMessageId now).Alike
      (w'.acknowledged ticketId telegramChatId tgMessageId now') :=
  { alike with
    messages := by
      simp only [World.acknowledged, Table.insert_rows, List.map_append, alike.messages,
        alike.nextMessage]
      rfl
    nextMessage := congrArg (· + 1) alike.nextMessage
    outbound := by
      simp only [World.acknowledged, alike.outbound, alike.nextMessage] }

theorem statuses (alike : w.Alike w') : w'.tickets.rows.map (fun row => row.val.status) =
    w.tickets.rows.map fun row => row.val.status := by
  have statuses := congrArg (List.map fun row : Entry Ticket => row.val.status) alike.tickets
  rw [List.map_map, List.map_map] at statuses
  exact statuses

/-- A thread whose revival does not show in its status was open. -/
theorem status_eq_open_of_revived (alike : w.Alike w') {ticketId : TicketId} {now : Time}
    {ticket : Entry Ticket} (found : w'.tickets.find? ticketId = some ticket)
    (unseen : (w'.revived ticketId now).tickets.rows.map (fun row => row.val.status) =
      w.tickets.rows.map fun row => row.val.status) : ticket.val.status = .open := by
  rw [← alike.statuses, World.revived, Table.update_rows, List.map_map] at unseen
  have same := List.map_inj_left.mp unseen ticket (Table.mem_of_find? found)
  have own : ticket.id = ticketId := Table.id_of_find? found
  simpa [Entry.change, own] using same.symm

/-- Worlds that are equal up to timestamps match under the names they have. -/
theorem renamed (alike : w.Alike w') : ∃ names : Names, names.Matches w w' := by
  refine ⟨⟨.refl _, .refl _, .refl _, .refl _⟩, ?_, ?_, alike.tickets, alike.messages, ?_⟩
  · rw [alike.chats]
    exact (List.map_id _).symm
  · rw [alike.customers]
    exact (List.map_id _).symm
  · rw [alike.outbound]
    exact (List.map_id _).symm

end Alike

/-! ## What a run resolves -/

/-- The message is stored in the ticket and announced, unless the ticket already has it. -/
def Stores (w : World) (message : NormalizedIncomingMessage) (ticketId : TicketId) (w' : World) :
    Prop :=
  (∃ unrecorded now, w' = w.recorded ticketId message.tgMessageId message.text message.attachments
    false unrecorded now) ∨
  ((w.messages.findKey? (message.tgMessageId, ticketId)).isSome ∧ w' = w)

/-- What becomes of a message once its thread is decided. -/
def Resolves (w : World) (message : NormalizedIncomingMessage) (chat : Entry Chat)
    (customer : Entry Customer) : ThreadGroupingDecision → World → Prop
  | .attach ticketId revive _, w' => ∃ w₁, w.Revives ticketId revive w₁ ∧
      w₁.Stores message ticketId w'
  | .createNew, w' => ∃ now now' now'' unrecorded,
      w' = (((w.threadCreated (newThread w message chat customer) now).recorded w.tickets.next
        message.tgMessageId message.text message.attachments true unrecorded now').acknowledged
          w.tickets.next chat.val.telegramChatId message.tgMessageId now'')

variable {w w₁ w₂ w' : World} {config : Config} {message : NormalizedIncomingMessage}
variable {chat chat' : Entry Chat} {customer customer' : Entry Customer}
variable {ticketId : TicketId} {revive : Bool}

theorem Revives.frame (revives : w.Revives ticketId revive w') :
    w.now ≤ w'.now ∧ w'.messages = w.messages ∧ w'.outbound = w.outbound ∧
      w'.tickets.rows.length = w.tickets.rows.length := by
  rcases revives with ⟨-, rfl⟩ | ⟨-, now, up, rfl⟩
  · exact ⟨le_rfl, rfl, rfl, rfl⟩
  · exact ⟨up, rfl, rfl, by simp [World.revived]⟩

/-- Every ingest prepares chat and customer, asks the rules, and resolves their decision. -/
theorem Ingests.resolves {result : IngestResult} (ingests : w.Ingests config message result w') :
    ∃ chat customer w₁ decision, w.Prepared message chat customer w₁ ∧
      w₁.Decides (SupportCrm.groupingInput config message chat customer w₁.now) decision ∧
      w₁.Resolves message chat customer decision w' ∧ w₁.now ≤ w'.now := by
  cases ingests with
  | attached prepared decides revives unrecorded up =>
      exact ⟨_, _, _, _, prepared, decides, ⟨_, revives, .inl ⟨unrecorded, _, rfl⟩⟩,
        revives.frame.1.trans up⟩
  | repeated prepared decides revives taken =>
      exact ⟨_, _, _, _, prepared, decides, ⟨_, revives, .inr ⟨by rw [taken]; rfl, rfl⟩⟩,
        revives.frame.1⟩
  | created prepared decides unrecorded up up' up'' =>
      exact ⟨_, _, _, _, prepared, decides, ⟨_, _, _, unrecorded, rfl⟩, (up.trans up').trans up''⟩

/-- Chat and customer of a message are found or created in one way only. -/
theorem Prepared.unique (prepared : w.Prepared message chat customer w₁)
    (prepared' : w.Prepared message chat' customer' w₂) :
    chat' = chat ∧ customer' = customer ∧ w₂ = w₁.setNow w₂.now := by
  obtain ⟨chats, customers, now, chatDone, customerDone, -, rfl⟩ := prepared
  obtain ⟨chats', customers', now', chatDone', customerDone', -, rfl⟩ := prepared'
  obtain ⟨rfl, rfl⟩ := chatDone.unique chatDone'
  obtain ⟨rfl, rfl⟩ := customerDone.unique customerDone'
  exact ⟨rfl, rfl, rfl⟩

/-- Prepared again, chat and customer are found as they are. -/
theorem Prepared.again (prepared : w.Prepared message chat customer w₁)
    (chats : w'.chats = w₁.chats) (customers : w'.customers = w₁.customers)
    (prepared' : w'.Prepared message chat' customer' w₂) :
    chat' = chat ∧ customer' = customer ∧ w₂ = w'.setNow w₂.now := by
  obtain ⟨chats₁, customers₁, now, chatDone, customerDone, -, rfl⟩ := prepared
  obtain ⟨chats₂, customers₂, now', chatDone', customerDone', -, rfl⟩ := prepared'
  rw [chats] at chatDone'
  rw [customers] at customerDone'
  obtain ⟨rfl, rfl⟩ := chatDone.again rfl chatDone'
  obtain ⟨rfl, rfl⟩ := customerDone.again customerDone'
  obtain rfl : w'.chats = chats₂ := chats
  obtain rfl : w'.customers = customers₂ := customers
  exact ⟨rfl, rfl, rfl⟩

/-- A run that is stopped while it prepares leaves the preparation to the next. -/
theorem Prepared.of_preparing {chats : Table Chat.key} {customers : Table Customer.key}
    {now : Time} (chatDone : w.ChatsReady message chats)
    (customerDone : w.CustomersReady message customers) (up : w.now ≤ now)
    (prepared : World.Prepared { w with now := now, chats := chats, customers := customers }
      message chat customer w₂) : w.Prepared message chat customer w₂ := by
  obtain ⟨chats', customers', now', chatDone', customerDone', up', rfl⟩ := prepared
  refine ⟨chats', customers', now', ?_, ?_, up.trans up', rfl⟩
  · rcases chatDone with rfl | ⟨row, done⟩
    · exact chatDone'
    · obtain ⟨rfl, rfl⟩ := done.again rfl chatDone'
      exact done
  · rcases customerDone with rfl | ⟨row, done⟩
    · exact customerDone'
    · obtain ⟨rfl, rfl⟩ := done.again customerDone'
      exact done

/-! ## What the resolutions have in common, and what tells them apart -/

theorem Stores.frame (stores : w.Stores message ticketId w') :
    w'.tickets.rows.length = w.tickets.rows.length ∧ w'.outbound = w.outbound := by
  rcases stores with ⟨unrecorded, now, rfl⟩ | ⟨-, rfl⟩
  · exact ⟨by simp [World.recorded], rfl⟩
  · exact ⟨rfl, rfl⟩

/-- Attaching makes no ticket and no job. -/
theorem Resolves.attach {rule : MatchedRule}
    (resolves : w.Resolves message chat customer (.attach ticketId revive rule) w') :
    w'.tickets.rows.length = w.tickets.rows.length ∧ w'.outbound = w.outbound := by
  obtain ⟨w₁, revives, stores⟩ := resolves
  obtain ⟨-, -, outbound, tickets⟩ := revives.frame
  exact ⟨stores.frame.1.trans tickets, stores.frame.2.trans outbound⟩

/-- Creating makes one ticket and one job. -/
theorem Resolves.createNew (resolves : w.Resolves message chat customer .createNew w') :
    w'.tickets.rows.length = w.tickets.rows.length + 1 ∧
      w'.outbound.length = w.outbound.length + 1 := by
  obtain ⟨now, now', now'', unrecorded, rfl⟩ := resolves
  simp [World.acknowledged, World.recorded, World.threadCreated]

theorem Stores.alike {u u' : World} (stores : w.Stores message ticketId u)
    (stores' : w'.Stores message ticketId u') (alike : w.Alike w')
    (messages : w'.messages = w.messages) : u.Alike u' := by
  rcases stores with ⟨unrecorded, now, rfl⟩ | ⟨taken, rfl⟩
  · rcases stores' with ⟨unrecorded', now', rfl⟩ | ⟨taken', rfl⟩
    · exact alike.recorded unrecorded unrecorded' now now'
    · rw [messages, unrecorded] at taken'
      cases taken'
  · rcases stores' with ⟨unrecorded', now', rfl⟩ | ⟨taken', rfl⟩
    · rw [← messages, unrecorded'] at taken
      cases taken
    · exact alike

/-- Resolved at another time, a decision leaves a world that differs in times only. -/
theorem Resolves.alike {decision : ThreadGroupingDecision} {u u' : World} {now : Time}
    (resolves : w.Resolves message chat customer decision u)
    (resolves' : (w.setNow now).Resolves message chat customer decision u') : u.Alike u' := by
  have alike : w.Alike (w.setNow now) := { Alike.refl w with }
  cases decision with
  | createNew =>
      obtain ⟨_, _, _, unrecorded, rfl⟩ := resolves
      obtain ⟨_, _, _, unrecorded', rfl⟩ := resolves'
      exact ((alike.threadCreated _ _ _).recorded unrecorded unrecorded' _ _).acknowledged _ _ _ _ _
  | attach ticketId revive rule =>
      obtain ⟨w₂, revives, stores⟩ := resolves
      obtain ⟨w₂', revives', stores'⟩ := resolves'
      rcases revives with ⟨rfl, rfl⟩ | ⟨rfl, revivedAt, -, rfl⟩
      · rcases revives' with ⟨-, rfl⟩ | ⟨⟨⟩, -⟩
        exact stores.alike stores' alike rfl
      · rcases revives' with ⟨⟨⟩, -⟩ | ⟨-, revivedAt', -, rfl⟩
        exact stores.alike stores' (alike.revived ticketId revivedAt revivedAt') rfl

/-! ## Announcements -/

/-- Between the two worlds the stored message was announced. -/
def Announces (w w' : World) (message : NormalizedIncomingMessage) : Prop :=
  ∃ news, w'.emitted = w.emitted ++ news ∧ ∃ row ∈ w'.messages.rows,
    row.val.tgMessageId = some message.tgMessageId ∧
      ∃ isNewTicket, DomainEvent.messageReceived row.val.ticketId row.id isNewTicket ∈ news

/-- No message is announced by these events. -/
def Silent (news : List DomainEvent) : Prop :=
  ∀ ticketId messageId isNewTicket, DomainEvent.messageReceived ticketId messageId isNewTicket ∉ news

theorem not_announces {news : List DomainEvent} (emitted : w'.emitted = w.emitted ++ news)
    (silent : Silent news) : ¬ w.Announces w' message := by
  rintro ⟨news', emitted', row, -, -, isNewTicket, announced⟩
  obtain rfl := List.append_cancel_left (emitted.symm.trans emitted')
  exact silent _ _ _ announced

/-- Storing announces the message. -/
theorem Stores.announces {news : List DomainEvent} (stores : w₁.Stores message ticketId w')
    (unrecorded : w₁.messages.findKey? (message.tgMessageId, ticketId) = none)
    (emitted : w₁.emitted = w.emitted ++ news) : w.Announces w' message := by
  rcases stores with ⟨_, now, rfl⟩ | ⟨taken, rfl⟩
  · refine ⟨news ++ [.messageReceived ticketId w₁.messages.next false], ?_,
      ⟨w₁.messages.next, (w₁.setNow now).incoming ticketId message.tgMessageId message.text
        message.attachments⟩, by simp [World.recorded], rfl, false, by simp [incoming]⟩
    simp [World.recorded, emitted]
  · rw [unrecorded] at taken
    cases taken

/-- What storing announces was not stored before. -/
theorem Stores.unrecorded {news : List DomainEvent} (stores : w₁.Stores message ticketId w')
    (emitted : w₁.emitted = w.emitted ++ news) (silent : Silent news)
    (announced : w.Announces w' message) :
    w₁.messages.findKey? (message.tgMessageId, ticketId) = none := by
  rcases stores with ⟨unrecorded, now, rfl⟩ | ⟨-, rfl⟩
  · exact unrecorded
  · exact absurd announced (not_announces emitted silent)

/-- A new thread announces its message. -/
theorem Resolves.announces {news : List DomainEvent}
    (resolves : w₁.Resolves message chat customer .createNew w')
    (emitted : w₁.emitted = w.emitted ++ news) : w.Announces w' message := by
  obtain ⟨now, now', now'', unrecorded, rfl⟩ := resolves
  refine ⟨news ++ [.ticketCreated w₁.tickets.next,
      .messageReceived w₁.tickets.next w₁.messages.next true,
      .messageSent w₁.tickets.next (w₁.messages.next + 1) none], ?_,
    ⟨w₁.messages.next, (w₁.setNow now').incoming w₁.tickets.next message.tgMessageId message.text
      message.attachments⟩, ?_, rfl, true, by simp [incoming]⟩
  · simp [World.acknowledged, World.recorded, World.threadCreated, emitted]
  · simp [World.acknowledged, World.recorded, World.threadCreated, World.setNow, incoming]

/-- A revived thread announces no message. -/
theorem Revives.silent (revives : w.Revives ticketId revive w') :
    ∃ news, w'.emitted = w.emitted ++ news ∧ Silent news := by
  rcases revives with ⟨-, rfl⟩ | ⟨-, now, -, rfl⟩
  · exact ⟨[], by simp, by simp [Silent]⟩
  · exact ⟨_, rfl, by simp [Silent]⟩

/-- Resolved at another time, a decision announces the message if it did before. -/
theorem Resolves.announces_again {decision : ThreadGroupingDecision} {u u' : World} {now : Time}
    (resolves' : (w₁.setNow now).Resolves message chat customer decision u')
    (resolves : w₁.Resolves message chat customer decision u)
    (emitted : w₁.emitted = w.emitted ++ []) (announced : w.Announces u message) :
    w.Announces u' message := by
  cases decision with
  | createNew => exact resolves'.announces emitted
  | attach ticketId revive rule =>
      obtain ⟨w₂, revives, stores⟩ := resolves
      obtain ⟨w₂', revives', stores'⟩ := resolves'
      obtain ⟨news, before, silent⟩ := revives.silent
      obtain ⟨news', before', -⟩ := revives'.silent
      have unrecorded := stores.unrecorded (by rw [before, emitted, List.append_assoc])
        (by simpa using silent) announced
      rw [revives.frame.2.1] at unrecorded
      have emitted' : w₂'.emitted = w.emitted ++ news' := by
        rw [before']
        simpa [World.setNow] using emitted
      exact stores'.announces (by rw [revives'.frame.2.1]; exact unrecorded) emitted'

/-! ## What the rules decide for the retry -/

/-- Rule 1 or rule 2 leads the message to a thread. -/
def Attaches (w : World) (config : Config) (message : NormalizedIncomingMessage) (now : Time) :
    Prop :=
  ∃ ticketId revive rule,
    w.Decides (w.groupingInput config message now) (.attach ticketId revive rule)

theorem Prepared.attaches_iff (prepared : w.Prepared message chat customer w₁)
    {decision : ThreadGroupingDecision}
    (decides : w₁.Decides (SupportCrm.groupingInput config message chat customer w₁.now) decision) :
    w.Attaches config message w₁.now ↔ decision ≠ .createNew := by
  rw [prepared.decides] at decides
  constructor
  · rintro ⟨ticketId, revive, rule, decides'⟩ rfl
    cases decides.unique decides'
  · intro attaches
    cases decision with
    | createNew => exact absurd rfl attaches
    | attach ticketId revive rule => exact ⟨ticketId, revive, rule, decides⟩

variable {input : ThreadGroupingInput} {decision decision' : ThreadGroupingDecision} {now : Time}

/-- Asked later, the rules decide the same, or the idle window has run out. -/
theorem Decides.later (up : input.now ≤ now) (decides : w.Decides input decision)
    (decides' : w.Decides { input with now := now } decision') :
    decision' = decision ∨ decision' = .createNew := by
  have earlier : ∀ active, w.RecentlyActive { input with now := now } active →
      w.RecentlyActive input active := fun active recent =>
    ⟨recent.1, (Int.sub_le_sub_right up _).trans_lt recent.2⟩
  cases decides' with
  | rule3 unanchored idle => exact .inr rfl
  | rule1 anchored => exact .inl (decides.unique (.rule1 anchored)).symm
  | rule2 unanchored recent =>
      have unanchored' : ∀ anchor, ¬ w.AnchoredBy input anchor := unanchored
      have before : w.Decides input _ := .rule2 unanchored' (earlier _ recent)
      exact .inl (before.unique decides)

theorem findTicketByAnchorMessage_revived (chatId : ChatId) (tgMessageId : ℤ) :
    (w.revived ticketId now).findTicketByAnchorMessage chatId tgMessageId =
      (w.findTicketByAnchorMessage chatId tgMessageId).map fun anchor =>
        if anchor.ticketId = ticketId then { anchor with status := .open } else anchor := by
  have inChat : (w.revived ticketId now).inChat chatId = w.inChat chatId := by
    funext id
    simp only [World.inChat, World.revived, Table.find?_update, Option.any_map]
    congr 1
    funext row
    exact congrArg (fun chat => Decidable.decide (chat = chatId))
      (Entry.change_same ticketId (TicketData.apply { status := some .open } now) row
        Ticket.chatId fun _ => rfl)
  simp only [findTicketByAnchorMessage, inChat]
  change (w.messages.latest _ _).bind _ = _
  rw [Option.map_bind]
  congr 1
  funext message
  simp only [World.revived, Table.find?_update, Option.map_map, Function.comp_def]
  congr 1
  funext row
  simp only [Entry.change_id]
  split
  · next own => simp [Entry.change, own]
  · next other => rw [Entry.change_of_ne _ _ other]

/-- A thread that was found and revived is found again, unless the idle window has run out. -/
theorem Decides.revived {rule : MatchedRule} {revivedAt : Time} (timely : w.Timely)
    (up : w.now ≤ revivedAt) (decides : w.Decides input (.attach ticketId true rule))
    (decides' : (w.revived ticketId revivedAt).Decides { input with now := now } decision') :
    decision' = .attach ticketId false rule ∨ decision' = .createNew := by
  obtain ⟨ticket, found, -, live, -⟩ := decides.attached
  generalize attached : ThreadGroupingDecision.attach ticketId true rule = decision at decides
  cases decides with
  | rule3 => cases attached
  | @rule1 anchor anchored =>
      obtain ⟨rfl, -, rfl⟩ := ThreadGroupingDecision.attach.inj attached
      obtain ⟨reply, given, owner, -⟩ := anchored
      have again : (w.revived anchor.ticketId revivedAt).AnchoredBy { input with now := now }
          { anchor with status := .open } := by
        refine ⟨reply, given, ?_, rfl⟩
        rw [findTicketByAnchorMessage_revived, owner]
        simp
      exact .inl (decides'.unique (.rule1 again))
  | @rule2 unanchored active recent =>
      obtain ⟨rfl, -, rfl⟩ := ThreadGroupingDecision.attach.inj attached
      obtain ⟨newest, latest, rfl⟩ := Option.map_eq_some_iff.mp recent.1
      obtain ⟨member, isActive⟩ := Table.mem_of_latest latest
      have unanchored' : ∀ anchor, ¬ (w.revived newest.id revivedAt).AnchoredBy
          { input with now := now } anchor := by
        rintro anchor ⟨reply, given, owner, anchorLive⟩
        rw [findTicketByAnchorMessage_revived] at owner
        obtain ⟨before, known, rfl⟩ := Option.map_eq_some_iff.mp owner
        refine unanchored before ⟨reply, given, known, ?_⟩
        by_cases own : before.ticketId = newest.id
        · obtain ⟨message, -, ticketFound⟩ := Option.bind_eq_some_iff.mp known
          obtain ⟨row, rowFound, rfl⟩ := Option.map_eq_some_iff.mp ticketFound
          have same : row = newest := Table.eq_of_id_eq (Table.mem_of_find? rowFound) member own
          obtain rfl := Option.some.inj (found.symm.trans (Table.find?_self member))
          exact same ▸ live
        · rwa [if_neg own] at anchorLive
      have sameActive : ∀ other ∈ w.tickets.rows, activeTicket input.chatId input.customerId
          (other.change newest.id (TicketData.apply { status := some .open } revivedAt)) =
            activeTicket input.chatId input.customerId other := by
        intro other listed
        by_cases own : other.id = newest.id
        · obtain rfl := Table.eq_of_id_eq listed member own
          rw [isActive]
          simp only [activeTicket, Bool.and_eq_true, decide_eq_true_eq, Bool.not_eq_true']
            at isActive ⊢
          simp [Entry.change, isActive, TicketStatus.terminal]
        · rw [Entry.change_of_ne _ _ own]
      have raised : (w.revived newest.id revivedAt).tickets.latest
          (activeTicket input.chatId input.customerId) Ticket.updatedAt =
            some ⟨newest.id, TicketData.apply { status := some .open } revivedAt newest.val⟩ :=
        Table.latest_update (TicketData.apply_key _ revivedAt) latest rfl sameActive
          ((timely.ticket newest member).trans up)
      have again : (w.revived newest.id revivedAt).findMostRecentActiveTicket input.chatId
          input.customerId = some ⟨newest.id, .open, revivedAt⟩ :=
        congrArg (Option.map _) raised
      cases decides' with
      | rule1 anchored => exact absurd anchored (unanchored' _)
      | rule2 _ recent' =>
          obtain rfl := Option.some.inj (recent'.1.symm.trans again)
          exact .inl rfl
      | rule3 => exact .inr rfl

/-! ## Recovery -/

/-- The retry left what the uninterrupted run leaves, up to generated identifiers and
timestamps, and announced the message if that run does. -/
structure Recovers (w w' w'' : World) (message : NormalizedIncomingMessage) : Prop where
  same : ∃ names : Names, names.Matches w' w''
  announced : w.Announces w' message → w.Announces w'' message

/-- The first run, from `w`, was stopped in `s` early or late enough for a retry: either it
had made no ticket and stored no message, and the rules, asked again, still find a thread if
they found one; or the acknowledgement was in the queue, and the rules lead back to the new
thread. -/
def Recoverable (w s : World) (config : Config) (message : NormalizedIncomingMessage)
    (now : Time) : Prop :=
  (s.tickets.rows.length = w.tickets.rows.length ∧
    s.messages.rows.length = w.messages.rows.length ∧
    (w.Attaches config message w.now → s.Attaches config message now)) ∨
  (w.outbound.length < s.outbound.length ∧ s.LedBack config message now)

theorem Recovers.lengths {w'' : World} (recovers : w.Recovers w' w'' message) :
    w''.tickets.rows.length = w'.tickets.rows.length ∧
      w''.messages.rows.length = w'.messages.rows.length ∧
      w''.outbound.length = w'.outbound.length ∧
      w''.tickets.rows.map (fun row => row.val.status) =
        w'.tickets.rows.map fun row => row.val.status := by
  obtain ⟨names, same⟩ := recovers.same
  refine ⟨?_, ?_, ?_, ?_⟩
  · simpa using congrArg List.length same.tickets
  · simpa using congrArg List.length same.messages
  · simpa using congrArg List.length same.outbound
  · have statuses := congrArg (List.map fun row : Entry Ticket => row.val.status) same.tickets
    rw [List.map_map, List.map_map] at statuses
    exact statuses

theorem Alike.recovers {w'' : World} (alike : w'.Alike w'')
    (announced : w.Announces w' message → w.Announces w'' message) :
    w.Recovers w' w'' message :=
  ⟨alike.renamed, announced⟩

/-- What the first run, uninterrupted, and the retry have done. -/
structure Retried (w s w' w'' : World) (config : Config) (message : NormalizedIncomingMessage)
    (chat : Entry Chat) (customer : Entry Customer) (w₁ w₂ : World)
    (decision decision' : ThreadGroupingDecision) : Prop where
  prepared : w.Prepared message chat customer w₁
  sameTime : w₁.now = w.now
  decides : w₁.Decides (SupportCrm.groupingInput config message chat customer w₁.now) decision
  resolves : w₁.Resolves message chat customer decision w'
  again : ∃ chat' customer', s.Prepared message chat' customer' w₂ ∧
    w₂.Decides (SupportCrm.groupingInput config message chat' customer' w₂.now) decision' ∧
    w₂.Resolves message chat' customer' decision' w''

variable {s w'' : World} {decision decision' : ThreadGroupingDecision}

namespace Retried

/-- The first run prepared the same chat and customer, at the same time. -/
theorem prepared_eq (retried : Retried w s w' w'' config message chat customer w₁ w₂ decision decision')
    {w₀ : World} (prepared : w.Prepared message chat' customer' w₀) (up : w₀.now ≤ w.now) :
    chat' = chat ∧ customer' = customer ∧ w₀ = w₁ := by
  obtain ⟨rfl, rfl, same⟩ := retried.prepared.unique prepared
  refine ⟨rfl, rfl, same.trans ?_⟩
  rw [le_antisymm up prepared.later, ← retried.sameTime]
  rfl

theorem attaches_iff
    (retried : Retried w s w' w'' config message chat customer w₁ w₂ decision decision') :
    w.Attaches config message w.now ↔ decision ≠ .createNew := by
  rw [← retried.sameTime]
  exact retried.prepared.attaches_iff retried.decides

theorem attaches_again_iff
    (retried : Retried w s w' w'' config message chat customer w₁ w₂ decision decision') :
    s.Attaches config message w₂.now ↔ decision' ≠ .createNew := by
  obtain ⟨chat', customer', prepared, decides, -⟩ := retried.again
  exact prepared.attaches_iff decides

theorem lengths (retried : Retried w s w' w'' config message chat customer w₁ w₂ decision decision') :
    (decision ≠ .createNew → w'.tickets.rows.length = w.tickets.rows.length ∧
        w'.outbound.length = w.outbound.length) ∧
      (decision = .createNew → w'.tickets.rows.length = w.tickets.rows.length + 1 ∧
        w'.outbound.length = w.outbound.length + 1) ∧
      (decision' ≠ .createNew → w''.tickets.rows.length = s.tickets.rows.length ∧
        w''.outbound.length = s.outbound.length) ∧
      (decision' = .createNew → w''.tickets.rows.length = s.tickets.rows.length + 1 ∧
        w''.outbound.length = s.outbound.length + 1) := by
  have counted : ∀ {w₀ w₃ u : World} {chat₀ customer₀ decision₀},
      w₀.Prepared message chat₀ customer₀ w₃ → w₃.Resolves message chat₀ customer₀ decision₀ u →
      (decision₀ ≠ .createNew → u.tickets.rows.length = w₀.tickets.rows.length ∧
        u.outbound.length = w₀.outbound.length) ∧
      (decision₀ = .createNew → u.tickets.rows.length = w₀.tickets.rows.length + 1 ∧
        u.outbound.length = w₀.outbound.length + 1) := by
    intro w₀ w₃ u chat₀ customer₀ decision₀ prepared resolves
    obtain ⟨tickets, -, outbound⟩ := prepared.frame
    rw [← tickets, ← outbound]
    constructor
    · intro attaches
      cases decision₀ with
      | createNew => exact absurd rfl attaches
      | attach ticketId revive rule =>
          exact ⟨resolves.attach.1, congrArg List.length resolves.attach.2⟩
    · rintro rfl
      exact resolves.createNew
  obtain ⟨chat', customer', prepared, -, resolves⟩ := retried.again
  exact ⟨(counted retried.prepared retried.resolves).1,
    (counted retried.prepared retried.resolves).2, (counted prepared resolves).1,
    (counted prepared resolves).2⟩

/-- Stopped before it touched a ticket. -/
theorem preparing_iff {chats : Table Chat.key} {customers : Table Customer.key} {now : Time}
    (chatDone : w.ChatsReady message chats) (customerDone : w.CustomersReady message customers)
    (up : w.now ≤ now)
    (retried : Retried w { w with now := now, chats := chats, customers := customers } w' w''
      config message chat customer w₁ w₂ decision decision') :
    w.Recovers w' w'' message ↔
      w.Recoverable { w with now := now, chats := chats, customers := customers } config message
        w₂.now := by
  obtain ⟨chat', customer', prepared, decides, resolves⟩ := retried.again
  have prepared := prepared.of_preparing chatDone customerDone up
  obtain ⟨rfl, rfl, same⟩ := retried.prepared.unique prepared
  have later : w₁.now ≤ w₂.now := retried.sameTime ▸ prepared.later
  have asked : w₁.Decides { SupportCrm.groupingInput config message chat' customer' w₁.now with
      now := w₂.now } decision' :=
    decides.congr (by rw [same]; rfl) (by rw [same]; rfl)
  have choice := retried.decides.later later asked
  constructor
  · intro recovers
    refine .inl ⟨rfl, rfl, fun attaches => ?_⟩
    rw [retried.attaches_again_iff]
    rintro rfl
    have attached := retried.lengths.1 (retried.attaches_iff.mp attaches)
    have created := retried.lengths.2.2.2 rfl
    have := recovers.lengths.1
    simp only at created
    omega
  · rintro (⟨-, -, still⟩ | ⟨more, -⟩)
    · obtain rfl : decision' = decision := by
        rcases choice with same | idle
        · exact same
        · rw [retried.attaches_iff, retried.attaches_again_iff, idle] at still
          by_contra other
          exact still (fun new => other (idle.trans new.symm)) rfl
      rw [same] at resolves
      refine (retried.resolves.alike resolves).recovers fun announced => ?_
      exact resolves.announces_again retried.resolves (by simp [retried.prepared.emitted])
        announced
    · exact absurd more (lt_irrefl _)

/-- Stopped with the thread revived and the message not stored. -/
theorem revived_iff {rule : MatchedRule} {now : Time} {news : List DomainEvent}
    (retried : Retried w s w' w'' config message chat customer w₁ w₂
      (.attach ticketId true rule) decision')
    (timely : w.Timely) (up : w₁.now ≤ now) (chats : s.chats = w₁.chats)
    (customers : s.customers = w₁.customers)
    (tickets : s.tickets = (w₁.revived ticketId now).tickets) (messages : s.messages = w₁.messages)
    (outbound : s.outbound = w₁.outbound) (emitted : s.emitted = w₁.emitted ++ news) :
    w.Recovers w' w'' message ↔ w.Recoverable s config message w₂.now := by
  have prepared := retried.prepared
  obtain ⟨chat₂, customer₂, prepared', decides', resolves'⟩ := retried.again
  obtain ⟨rfl, rfl, same⟩ := prepared.again chats customers prepared'
  have asked : (w₁.revived ticketId now).Decides
      { SupportCrm.groupingInput config message chat₂ customer₂ w₁.now with now := w₂.now }
      decision' :=
    decides'.congr (by rw [same]; exact tickets.symm) (by rw [same]; exact messages.symm)
  have choice := retried.decides.revived (prepared.timely timely) up asked
  obtain ⟨tickets₁, messages₁, outbound₁⟩ := prepared.frame
  have ticketCount : s.tickets.rows.length = w.tickets.rows.length := by
    simp [tickets, World.revived, tickets₁]
  constructor
  · intro recovers
    refine .inl ⟨ticketCount, by rw [messages, messages₁], fun _ => ?_⟩
    rw [retried.attaches_again_iff]
    rintro rfl
    have attached := retried.lengths.1 ThreadGroupingDecision.attach_ne_createNew
    have created := retried.lengths.2.2.2 rfl
    have := recovers.lengths.1
    omega
  · rintro (⟨-, -, still⟩ | ⟨more, -⟩)
    · obtain rfl : decision' = .attach ticketId false rule := by
        rcases choice with same | idle
        · exact same
        · rw [retried.attaches_iff, retried.attaches_again_iff, idle] at still
          exact absurd rfl (still ThreadGroupingDecision.attach_ne_createNew)
      obtain ⟨w₃, revives, stores⟩ := retried.resolves
      obtain ⟨w₃', revives', stores'⟩ := resolves'
      rcases revives with ⟨⟨⟩, -⟩ | ⟨-, revivedAt, -, rfl⟩
      rcases revives' with ⟨-, rfl⟩ | ⟨⟨⟩, -⟩
      have alike : (w₁.revived ticketId revivedAt).Alike s := by
        have revived := (Alike.refl w₁).revived ticketId revivedAt now
        exact ⟨chats, customers, tickets ▸ revived.tickets, tickets ▸ revived.nextTicket,
          messages ▸ revived.messages, messages ▸ revived.nextMessage, outbound⟩
      rw [same] at stores'
      refine (stores.alike stores' { alike with } messages).recovers fun announced => ?_
      have before : (w₁.revived ticketId revivedAt).emitted =
          w.emitted ++ [.ticketUpdated ticketId { status := some .open }] := by
        simp [World.revived, prepared.emitted]
      have unrecorded := stores.unrecorded before (by simp [Silent]) announced
      have before' : (s.setNow w₃'.now).emitted = w.emitted ++ news := by
        rw [← prepared.emitted]
        exact emitted
      exact stores'.announces (messages ▸ unrecorded) before'
    · rw [outbound, outbound₁] at more
      exact absurd more (lt_irrefl _)

/-- Stopped with the message stored and not announced, the retry announces nothing, or
stores the message again. -/
theorem not_recovers_unannounced {news : List DomainEvent}
    (retried : Retried w s w' w'' config message chat customer w₁ w₂ decision decision')
    (announced : w.Announces w' message) (attached : decision ≠ .createNew)
    (messages : s.messages.rows.length = w'.messages.rows.length)
    (outbound : s.outbound = w.outbound) (emitted : s.emitted = w.emitted ++ news)
    (silent : Silent news) : ¬ w.Recovers w' w'' message := by
  intro recovers
  obtain ⟨-, messageCount, outboundCount, -⟩ := recovers.lengths
  have queued := (retried.lengths.1 attached).2
  cases decision' with
  | createNew =>
      have created := (retried.lengths.2.2.2 rfl).2
      rw [outbound] at created
      omega
  | attach ticketId revive rule =>
      obtain ⟨chat', customer', prepared, -, w₃, revives, stores⟩ := retried.again
      obtain ⟨news₃, emitted₃, silent₃⟩ := revives.silent
      have emitted₄ : w₃.emitted = w.emitted ++ (news ++ news₃) := by
        rw [emitted₃, prepared.emitted, emitted, List.append_assoc]
      have silent₄ : Silent (news ++ news₃) := fun ticketId messageId isNewTicket listed =>
        (List.mem_append.mp listed).elim (silent _ _ _) (silent₃ _ _ _)
      have again := stores.unrecorded emitted₄ silent₄ (recovers.announced announced)
      rcases stores with ⟨_, now, rfl⟩ | ⟨taken, rfl⟩
      · simp only [World.recorded, Table.insert_rows, List.length_append, List.length_singleton,
          revives.frame.2.1, prepared.frame.2.1] at messageCount
        omega
      · rw [again] at taken
        cases taken

/-- Stopped with a new thread and no job in the queue, the retry queues no job, or makes a
second thread. -/
theorem not_recovers_halfway
    (retried : Retried w s w' w'' config message chat customer w₁ w₂ .createNew decision')
    (tickets : s.tickets.rows.length = w.tickets.rows.length + 1)
    (outbound : s.outbound = w.outbound) : ¬ w.Recovers w' w'' message := by
  intro recovers
  obtain ⟨ticketCount, -, outboundCount, -⟩ := recovers.lengths
  have created := retried.lengths.2.1 rfl
  rw [ticketCount.symm, outboundCount.symm] at created
  by_cases attaches : decision' = .createNew
  · have := (retried.lengths.2.2.2 attaches).1
    omega
  · have := (retried.lengths.2.2.1 attaches).2
    rw [outbound] at this
    omega

/-- Stopped with nothing left to do but to announce the acknowledgement, the retry must be
led back to the new thread. -/
theorem queued_iff
    (retried : Retried w s w' w'' config message chat customer w₁ w₂ .createNew decision')
    (chats : s.chats = w₁.chats) (customers : s.customers = w₁.customers) (alike : w'.Alike s)
    (announced : w.Announces s message) :
    w.Recovers w' w'' message ↔ w.Recoverable s config message w₂.now := by
  have created := retried.lengths.2.1 rfl
  have sTickets : s.tickets.rows.length = w'.tickets.rows.length := by
    simpa using congrArg List.length alike.tickets
  have sMessages : s.messages.rows.length = w'.messages.rows.length := by
    simpa using congrArg List.length alike.messages
  obtain ⟨chat₂, customer₂, prepared', decides', resolves'⟩ := retried.again
  obtain ⟨rfl, rfl, same⟩ := retried.prepared.again chats customers prepared'
  have recoverable : w.Recoverable s config message w₂.now ↔
      ∃ ticketId rule, decision' = .attach ticketId false rule ∧
        (s.messages.findKey? (message.tgMessageId, ticketId)).isSome := by
    rw [← prepared'.ledBack_iff decides', World.Recoverable, sTickets, alike.outbound]
    constructor
    · rintro (⟨tickets, -⟩ | ⟨-, ledBack⟩)
      · omega
      · exact ledBack
    · exact fun ledBack => .inr ⟨by omega, ledBack⟩
  rw [recoverable]
  rw [same] at resolves'
  constructor
  · intro recovers
    obtain ⟨ticketCount, messageCount, outboundCount, statuses⟩ := recovers.lengths
    cases decision' with
    | createNew =>
        have := (retried.lengths.2.2.2 rfl).1
        omega
    | attach ticketId revive rule =>
        obtain ⟨w₃, revives, stores⟩ := resolves'
        rcases stores with ⟨_, now, rfl⟩ | ⟨taken, rfl⟩
        · simp only [World.recorded, Table.insert_rows, List.length_append,
            List.length_singleton, revives.frame.2.1] at messageCount
          simp only [World.setNow] at messageCount
          omega
        · rw [revives.frame.2.1] at taken
          cases revive with
          | false => exact ⟨ticketId, rule, rfl, taken⟩
          | true =>
              rw [same] at decides'
              obtain ⟨ticket, found, -, -, needed⟩ := decides'.attached
              rcases revives with ⟨⟨⟩, -⟩ | ⟨-, now, -, rfl⟩
              refine absurd ?_ (needed.mp rfl)
              exact alike.status_eq_open_of_revived found statuses
  · rintro ⟨ticketId, rule, rfl, taken⟩
    obtain ⟨w₃, revives, stores⟩ := resolves'
    rcases revives with ⟨-, rfl⟩ | ⟨⟨⟩, -⟩
    rcases stores with ⟨unrecorded, -⟩ | ⟨-, rfl⟩
    · rw [show s.messages.findKey? _ = none from unrecorded] at taken
      cases taken
    · refine Alike.recovers { alike with } fun _ => ?_
      obtain ⟨news, emitted, row, member, row'⟩ := announced
      exact ⟨news, emitted, row, member, row'⟩

end Retried

theorem Recovers.setNow {now : Time} :
    w.Recovers w' (w''.setNow now) message ↔ w.Recovers w' w'' message :=
  ⟨fun recovers => ⟨recovers.same.imp fun _ same => { same with }, recovers.announced⟩,
    fun recovers => ⟨recovers.same.imp fun _ same => { same with }, recovers.announced⟩⟩

theorem Stopped.senders (stopped : w.Stopped config message s) :
    s.agents = w.agents ∧ s.excludedSenders = w.excludedSenders := by
  have kept : ∀ {chat customer w₁}, w.Prepared message chat customer w₁ →
      w₁.agents = w.agents ∧ w₁.excludedSenders = w.excludedSenders := by
    rintro chat customer w₁ ⟨chats, customers, now, -, -, -, rfl⟩
    exact ⟨rfl, rfl⟩
  cases stopped with
  | preparing => exact ⟨rfl, rfl⟩
  | revived _ prepared =>
      have same := kept prepared
      exact same
  | unannounced prepared decides revives =>
      have same := kept prepared
      rcases revives with ⟨-, rfl⟩ | ⟨-, now, -, rfl⟩ <;> exact same
  | halfway prepared decides agents excludedSenders =>
      exact ⟨agents.trans (kept prepared).1, excludedSenders.trans (kept prepared).2⟩
  | queued prepared =>
      have same := kept prepared
      exact same

/-- A run for a customer, in which time may pass, prepares, decides and resolves. -/
theorem process_resolves (linked : w.Linked)
    (classifies : w.Classifies message.fromTelegramUserId message.fromUsername (.ok .customer)
      w.excludedSenders) {r : Except Err IngestResult}
    (runs : (process config message).Runs World.perform World.Later w r w') :
    ∃ chat customer w₁ decision u, w.Prepared message chat customer w₁ ∧
      w₁.Decides (SupportCrm.groupingInput config message chat customer w₁.now) decision ∧
      w₁.Resolves message chat customer decision u ∧ w₁.now ≤ u.now ∧ u.Later w' := by
  obtain ⟨kind, excludedSenders, w₀, classifies', later, outcome⟩ :=
    Alone.of_runs runs (process_outcome linked)
  obtain ⟨rfl, same⟩ := Prod.ext_iff.mp (classifies.run.symm.trans classifies'.run)
  obtain rfl : w.excludedSenders = excludedSenders := congrArg World.excludedSenders same
  obtain ⟨result, u, -, ingests, later'⟩ := outcome
  obtain ⟨chat, customer, w₁, decision, prepared, decides, resolves, up⟩ := ingests.resolves
  exact ⟨chat, customer, w₁, decision, u, prepared.of_later later, decides, resolves, up, later'⟩

/-- A stop leads to one of the five cases. -/
theorem Stopped.recovers_iff (stopped : w.Stopped config message s) (timely : w.Timely)
    (atOnce : s.now = w.now)
    (retried : Retried w s w' w'' config message chat customer w₁ w₂ decision decision') :
    w.Recovers w' w'' message ↔ w.Recoverable s config message w₂.now := by
  cases stopped with
  | preparing chatDone customerDone up => exact retried.preparing_iff chatDone customerDone up
  | revived news prepared decides up still =>
      obtain ⟨rfl, rfl, rfl⟩ := retried.prepared_eq prepared ((up.trans still).trans atOnce.le)
      obtain rfl := decides.unique retried.decides
      exact retried.revived_iff timely up rfl rfl rfl rfl rfl rfl
  | unannounced prepared decides revives unrecorded up still =>
      obtain ⟨rfl, rfl, rfl⟩ := retried.prepared_eq prepared
        (((revives.frame.1.trans up).trans still).trans atOnce.le)
      obtain rfl := decides.unique retried.decides
      obtain ⟨tickets, messages, outbound⟩ := prepared.frame
      obtain ⟨w₄, revives₄, stores⟩ := retried.resolves
      obtain ⟨news, emitted, silent⟩ := revives.silent
      obtain ⟨news₄, emitted₄, -⟩ := revives₄.silent
      have sameMessages := revives₄.frame.2.1.trans revives.frame.2.1.symm
      have announced : w.Announces w' message :=
        stores.announces (sameMessages ▸ unrecorded) (by rw [emitted₄, prepared.emitted])
      have stored : w'.messages.rows.length = w.messages.rows.length + 1 := by
        rcases stores with ⟨_, now, rfl⟩ | ⟨taken, rfl⟩
        · simp [World.recorded, revives₄.frame.2.1, messages]
        · rw [sameMessages, unrecorded] at taken
          cases taken
      refine iff_of_false (retried.not_recovers_unannounced announced
        ThreadGroupingDecision.attach_ne_createNew ?_ ?_
        (by rw [← prepared.emitted]; exact emitted) silent) ?_
      · simp [World.recorded, stored, revives.frame.2.1, messages]
      · exact revives.frame.2.2.1.trans outbound
      · rintro (⟨-, unstored, -⟩ | ⟨more, -⟩)
        · simp [World.recorded, revives.frame.2.1, messages] at unstored
        · simp [World.recorded, revives.frame.2.2.1, outbound] at more
  | halfway prepared decides agents excludedSenders tickets outbound up =>
      obtain ⟨rfl, rfl, rfl⟩ := retried.prepared_eq prepared (up.trans atOnce.le)
      obtain rfl := decides.unique retried.decides
      rw [prepared.frame.1] at tickets
      rw [prepared.frame.2.2] at outbound
      refine iff_of_false (retried.not_recovers_halfway tickets outbound) ?_
      rintro (⟨unmade, -⟩ | ⟨more, -⟩)
      · omega
      · rw [outbound] at more
        exact absurd more (lt_irrefl _)
  | @queued chat₀ customer₀ w₀ now now' now'' here prepared decides unrecorded up up' up'' still =>
      obtain ⟨rfl, rfl, rfl⟩ := retried.prepared_eq prepared
        ((((up.trans up').trans up'').trans still).trans atOnce.le)
      obtain rfl := decides.unique retried.decides
      have resolves : (w₀.setNow w₀.now).Resolves message chat₀ customer₀ .createNew _ :=
        ⟨now, now', now'', unrecorded, rfl⟩
      refine retried.queued_iff rfl rfl { retried.resolves.alike resolves with }
        ⟨[.ticketCreated w₀.tickets.next,
            .messageReceived w₀.tickets.next w₀.messages.next true], ?_,
          ⟨w₀.messages.next, (w₀.setNow now').incoming w₀.tickets.next message.tgMessageId
            message.text message.attachments⟩, ?_, rfl, true, by simp [incoming]⟩
      · simp [prepared.emitted]
      · simp [World.acknowledged, World.recorded, World.threadCreated, World.setNow, incoming]

end World

/-- **When a retry recovers.** The `process` of a customer's message, running with no other,
is stopped before some command, and later `process` runs again to its end. This leaves what
the uninterrupted run would have left, up to generated identifiers and timestamps, with one
acknowledgement for a new thread and the message announced, if and only if the run was
stopped early or late enough (`World.Recoverable`) for the moment at which the retry asks
the rules. -/
theorem retry_recovers_iff (config : Config) (message : NormalizedIncomingMessage)
    {w s w'' : World} (linked : w.Linked) (timely : w.Timely)
    (classified : ((classify message.fromTelegramUserId message.fromUsername).run World.perform
      w).1 = .ok .customer)
    {c : Call} (stops : (process config message).Stops World.perform w c s)
    {r : Except Err IngestResult}
    (retries : (process config message).Runs World.perform World.Later s r w'') :
    ∃ now, s.now ≤ now ∧ now ≤ w''.now ∧
      (w.Recovers ((process config message).run World.perform w).2 w'' message ↔
        w.Recoverable s config message now) := by
  have classifies : w.Classifies message.fromTelegramUserId message.fromUsername (.ok .customer)
      w.excludedSenders := by
    obtain ⟨kind, excludedSenders, classifies⟩ :=
      w.exists_classifies message.fromTelegramUserId message.fromUsername
    obtain rfl : kind = .ok .customer := by rw [← classified, classifies.run]
    cases classifies with
    | customer notAgent notById unmatched => exact .customer notAgent notById unmatched
  have stopped := Sat.stops World.Later.refl stops (process_outcome linked)
  have atOnce : s.now = w.now :=
    stops.invariant (I := fun w' => w'.now = w.now)
      (fun c w' same => (World.now_perform w' c).trans same) rfl
  have ended : ((process config message).run World.perform w).2.now = w.now :=
    Program.run_invariant World.perform (I := fun w' => w'.now = w.now)
      (fun c w' same => (World.now_perform w' c).trans same) (process config message) rfl
  have linked' : s.Linked := stops.invariant (fun c _ holds => holds.perform c) linked
  obtain ⟨chat, customer, w₁, decision, u, prepared, decides, resolves, up, later⟩ :=
    World.process_resolves linked classifies
      (Program.runs_run World.Later.refl (process config message) w)
  obtain ⟨chat', customer', w₂, decision', u', prepared', decides', resolves', up', later'⟩ :=
    World.process_resolves linked'
      (stopped.senders.2 ▸ classifies.congr stopped.senders.1 stopped.senders.2) retries
  obtain ⟨end_, still, same⟩ := later
  obtain ⟨end', still', rfl⟩ := later'
  rw [same] at ended ⊢
  have sameTime : w₁.now = w.now :=
    le_antisymm ((up.trans still).trans ended.le) prepared.later
  have here : u.setNow end_ = u := by
    have : u.now = end_ := le_antisymm still ((ended.trans sameTime.symm).le.trans up)
    rw [← this]
    rfl
  rw [here, World.Recovers.setNow]
  exact ⟨w₂.now, prepared'.later, up'.trans still',
    stopped.recovers_iff timely atOnce
      ⟨prepared, sameTime, decides, resolves, chat', customer', prepared', decides', resolves'⟩⟩

/-! ## A thread without an acknowledgement

The process of a first message dies when the new ticket is stored and the message is not.
The retry takes the ticket for an old one: the message is stored, and nobody acknowledges
it. -/

namespace HalfMadeThread

/-- The world after some commands of the first run. -/
def stoppedAfter (n : ℕ) : World :=
  (((process .default (greeting 7)).stopAfter World.perform n World.seeded).map Prod.snd).getD
    World.seeded

theorem timely_seeded : World.seeded.Timely := by
  constructor <;> simp [World.seeded, World.initial, Table.empty]

end HalfMadeThread

theorem retry_of_half_made_thread :
    (process .default (greeting 7)).Stops World.perform World.seeded
      (.recordTransaction 0 7 (some "hello") [⟨"photo", "file-1"⟩])
      (HalfMadeThread.stoppedAfter 10) ∧
    ¬ World.seeded.Recovers ((process .default (greeting 7)).run World.perform World.seeded).2
      ((process .default (greeting 7)).run World.perform (HalfMadeThread.stoppedAfter 10)).2
      (greeting 7) := by
  refine ⟨Program.stops_of_stopAfter World.perform (n := 10) rfl, fun recovers => ?_⟩
  have queued := recovers.lengths.2.2.1
  revert queued
  decide

/-- Stopped before the ticket is stored, the first run leaves everything to the retry. -/
theorem retry_before_ticket : ∃ now, 0 ≤ now ∧ now ≤ 0 ∧
    (World.seeded.Recovers ((process .default (greeting 7)).run World.perform World.seeded).2
        ((process .default (greeting 7)).run World.perform (HalfMadeThread.stoppedAfter 8)).2
        (greeting 7) ↔
      World.seeded.Recoverable (HalfMadeThread.stoppedAfter 8) .default (greeting 7) now) :=
  retry_recovers_iff .default (greeting 7) World.linked_seeded HalfMadeThread.timely_seeded rfl
    (Program.stops_of_stopAfter World.perform (n := 8)
      (show _ = some (Call.ticketCreate _, HalfMadeThread.stoppedAfter 8) from rfl))
    (Program.runs_run World.Later.refl _ _)

end SupportCrm
