import SupportCrm.Delivery
import SupportCrm.Footprint

/-!
# Anchors

A customer who replies to a message of the system should be heard in the thread from which
it was sent. The thread is found by the Telegram identifier in the message row, and the row
of a reply carries the identifier of its first part only. `queued_matches` says that the
queue holds jobs for messages of their tickets, `Ledger` says which identifiers the rows
carry, whatever interleaves, and `reply_to_sent_iff` concludes which of the messages that a
job has sent lead back to the thread.
-/

set_option autoImplicit false

namespace SupportCrm

open KeyedTable AtomicProgram

/-! ## What stays -/

namespace World

variable {w w' : World}

/-- Messages stay in their tickets, tickets in their chats, and chats are what they are. -/
structure Retains (w w' : World) : Prop where
  message : ∀ id row, w.messages.find? id = some row → ∃ row', w'.messages.find? id = some row' ∧
    row'.val.ticketId = row.val.ticketId ∧ row'.val.direction = row.val.direction
  ticket : ∀ id ticket, w.tickets.find? id = some ticket →
    ∃ ticket', w'.tickets.find? id = some ticket' ∧ ticket'.val.chatId = ticket.val.chatId
  chat : ∀ id chat, w.chats.find? id = some chat → w'.chats.find? id = some chat

theorem Retains.refl (w : World) : w.Retains w where
  message := fun _ row found => ⟨row, found, rfl, rfl⟩
  ticket := fun _ ticket found => ⟨ticket, found, rfl⟩
  chat := fun _ _ found => found

theorem Retains.trans (w w' w'' : World) (first : w.Retains w') (second : w'.Retains w'') :
    w.Retains w'' where
  message := by
    intro id row found
    obtain ⟨row', found', same, way⟩ := first.message id row found
    obtain ⟨row'', found'', same', way'⟩ := second.message id row' found'
    exact ⟨row'', found'', same'.trans same, way'.trans way⟩
  ticket := by
    intro id ticket found
    obtain ⟨ticket', found', same⟩ := first.ticket id ticket found
    obtain ⟨ticket'', found'', same'⟩ := second.ticket id ticket' found'
    exact ⟨ticket'', found'', same'.trans same⟩
  chat := fun id chat found => second.chat id chat (first.chat id chat found)

/-- A message row stays as it is unless it is confirmed. -/
theorem message_perform {c : Call} {id : MessageId} {row : Entry Message}
    (found : w.messages.find? id = some row) :
    (w.perform c).2.messages.find? id = some row ∨
      ∃ tgMessageId, c = .messageConfirm id tgMessageId ∧
        (w.perform c).2.messages.find? id = some ⟨id, confirmed tgMessageId row.val⟩ := by
  rcases w.messages_perform c with same | ⟨message, free, -, -, same⟩ |
    ⟨other, tgMessageId, messages, rfl, changed, same⟩
  · exact .inl (same ▸ found)
  · exact .inl (same ▸ Table.find?_insert_of_some free found)
  · rw [same, Table.find?_modify? changed, found]
    obtain rfl := Table.id_of_find? found
    by_cases own : row.id = other
    · subst own
      exact .inr ⟨tgMessageId, rfl, congrArg some (Entry.change_self (confirmed tgMessageId) row)⟩
    · exact .inl (congrArg some (Entry.change_of_ne _ _ own))

theorem chats_perform {c : Call} {id : ChatId} {chat : Entry Chat}
    (found : w.chats.find? id = some chat) : (w.perform c).2.chats.find? id = some chat := by
  have step := w.perform_step c
  generalize (w.perform c).2 = w' at step
  cases step
  case chatCreate telegramChatId title free => exact Table.find?_insert_of_some free found
  all_goals exact found

theorem retains_perform (w : World) (c : Call) : w.Retains (w.perform c).2 where
  message := by
    intro id row found
    rcases message_perform (c := c) found with same | ⟨tgMessageId, -, same⟩
    · exact ⟨row, same, rfl, rfl⟩
    · exact ⟨_, same, rfl, rfl⟩
  ticket := by
    intro id ticket found
    obtain ⟨ticket', found', rfl | ⟨data, -, rfl⟩⟩ := ticket_perform c found
    · exact ⟨ticket', found', rfl⟩
    · exact ⟨_, found', rfl⟩
  chat := fun _ _ found => chats_perform found

theorem retains_advance (milliseconds : ℕ) (w : World) : w.Retains (w.advance milliseconds) :=
  { Retains.refl w with }

/-! ## The queue -/

/-- The job is for an outgoing message of its ticket, and goes to the chat of the ticket. -/
def Matches (w : World) (job : OutboundReplyJob) : Prop :=
  ∃ row ticket chat, w.messages.find? job.messageId = some row ∧
    row.val.ticketId = job.ticketId ∧ row.val.direction = .out ∧
    w.tickets.find? job.ticketId = some ticket ∧ w.chats.find? ticket.val.chatId = some chat ∧
    chat.val.telegramChatId = job.telegramChatId

theorem Matches.retains {job : OutboundReplyJob} (holds : w.Matches job) (retains : w.Retains w') :
    w'.Matches job := by
  obtain ⟨row, ticket, chat, listed, own, out, found, ofTicket, given⟩ := holds
  obtain ⟨row', listed', same, way⟩ := retains.message _ row listed
  obtain ⟨ticket', found', sameChat⟩ := retains.ticket _ ticket found
  exact ⟨row', ticket', chat, listed', same.trans own, way.trans out, found',
    sameChat ▸ retains.chat _ chat ofTicket, given⟩

/-- The ticket is in a chat with this Telegram identifier. -/
def TicketIn (w : World) (ticketId : TicketId) (telegramChatId : ℤ) : Prop :=
  ∃ ticket chat, w.tickets.find? ticketId = some ticket ∧
    w.chats.find? ticket.val.chatId = some chat ∧ chat.val.telegramChatId = telegramChatId

theorem TicketIn.retains {ticketId : TicketId} {telegramChatId : ℤ}
    (holds : w.TicketIn ticketId telegramChatId) (retains : w.Retains w') :
    w'.TicketIn ticketId telegramChatId := by
  obtain ⟨ticket, chat, found, ofTicket, given⟩ := holds
  obtain ⟨ticket', found', sameChat⟩ := retains.ticket _ ticket found
  exact ⟨ticket', chat, found', sameChat ▸ retains.chat _ chat ofTicket, given⟩

theorem ticketIn_of_ticketWithChat {id : TicketId} {ticket : Entry Ticket} {chat : Entry Chat}
    (found : w.ticketWithChat id = some (ticket, chat)) :
    ticket.id = id ∧ w.TicketIn id chat.val.telegramChatId := by
  obtain ⟨ticket', present, withChat⟩ := Option.bind_eq_some_iff.mp found
  obtain ⟨chat', ofTicket, same⟩ := Option.map_eq_some_iff.mp withChat
  cases same
  exact ⟨Table.id_of_find? present, ticket, chat, present, ofTicket, rfl⟩

/-- A message that was created is an outgoing one of its ticket. -/
theorem matches_of_created {message : Message} {row : Entry Message} {job : OutboundReplyJob}
    (free : w.messages.Free message) (created : row.id = w.messages.next)
    (messages : w'.messages = w.messages.insert message free) (out : message.direction = .out)
    (ofMessage : job.messageId = row.id) (ofTicket : message.ticketId = job.ticketId)
    (inChat : w'.TicketIn job.ticketId job.telegramChatId) : w'.Matches job := by
  obtain ⟨ticket, chat, found, withChat, given⟩ := inChat
  have listed : w'.messages.find? job.messageId = some ⟨w.messages.next, message⟩ := by
    rw [messages, ofMessage, created, Table.find?_insert_self]
  exact ⟨_, ticket, chat, listed, ofTicket, out, found, withChat, given⟩

end World

/-- A command puts no job into the queue. -/
def Call.Unqueued (c : Call) : Prop := ∀ job, c ≠ .enqueueReply job

/-- A command puts only jobs into the queue that match their message. -/
def Call.Queues (c : Call) (w : World) : Prop := ∀ job, c = .enqueueReply job → w.Matches job

/-- The program puts only jobs into the queue that match their messages. -/
abbrev Matching {α : Type} (p : App α) (w : World) : Prop :=
  Sat World.perform World.Retains (fun _ _ => True) Call.Queues p (fun _ _ => True) w

section Matching

variable {α β : Type} {w : World}

theorem Call.Unqueued.queues {c : Call} (unqueued : c.Unqueued) (w : World) : c.Queues w :=
  fun job queued => absurd queued (unqueued job)

theorem unqueued_of_reads (c : Call) (reads : c.reads = true) : c.Unqueued := by
  rintro job rfl
  cases reads

theorem matching_of_always {p : App α} (always : p.Always Call.Unqueued) : Matching p w :=
  sat_of_always always (fun _ w unqueued => unqueued.queues w) fun _ _ => trivial

theorem matching_bind {p : App β} {k : β → App α} (first : Matching p w)
    (rest : ∀ b w, Matching (k b) w) : Matching (p >>= k) w :=
  sat_bind World.Retains.refl <| first.mono fun r w _ => match r with
    | .ok b => rest b w
    | .error _ => trivial

theorem matching_perform {c : Call} (unqueued : c.Unqueued) : Matching (SupportCrm.perform c) w :=
  matching_of_always (Program.always_perform unqueued)

/-- The message is created, and the job for it is put into the queue. -/
theorem matching_enqueue {create : Call} {ticketId : TicketId} {telegramChatId : ℤ}
    {job : create.Resp → OutboundReplyJob}
    {rest : create.Resp → App α} (silent : create.Unqueued)
    (ofTicket : ∀ row, (job row).ticketId = ticketId)
    (ofChat : ∀ row, (job row).telegramChatId = telegramChatId)
    (creates : ∀ (w : World) row, (w.perform create).1 = .ok row →
      ∃ (message : Message) (free : w.messages.Free message),
        (job row).messageId = w.messages.next ∧ message.direction = .out ∧
        message.ticketId = ticketId ∧
        (w.perform create).2.messages = w.messages.insert message free)
    (unqueued : ∀ row, (rest row).Always Call.Unqueued) (inChat : w.TicketIn ticketId telegramChatId) :
    Matching (SupportCrm.perform create >>= fun row =>
      SupportCrm.perform (.enqueueReply (job row)) >>= fun _ => rest row) w := by
  refine sat_perform_bind (fun w' _ _ => silent.queues w') (fun w' row retains _ ok => ?_)
    fun _ _ _ _ _ _ _ => trivial
  obtain ⟨message, free, ofMessage, out, own, messages⟩ := creates w' row ok
  have inChat' : (w'.perform create).2.TicketIn (job row).ticketId (job row).telegramChatId := by
    rw [ofTicket, ofChat]
    exact (inChat.retains retains).retains (w'.retains_perform create)
  have named : (job row).messageId = (⟨w'.messages.next, message⟩ : Entry Message).id := ofMessage
  have holds : (w'.perform create).2.Matches (job row) :=
    World.matches_of_created free rfl messages out named (own.trans (ofTicket row).symm) inChat'
  refine sat_perform_bind (fun w'' retains _ job' same => ?_)
    (fun w'' _ _ _ _ => matching_of_always (unqueued row)) fun _ _ _ _ _ _ _ => trivial
  cases same
  exact holds.retains retains

theorem matching_sendAutoAcknowledgement (ticketId : TicketId) (tgMessageId : ℤ) :
    Matching (sendAutoAcknowledgement ticketId tgMessageId) w := by
  refine sat_perform_bind (fun w' _ _ => (unqueued_of_reads _ rfl).queues w')
    (fun w' answer _ _ ok => ?_) fun _ _ _ _ _ _ _ => trivial
  have found : w'.ticketWithChat ticketId = answer := Except.ok.inj ok
  change Matching _ w'
  cases answer with
  | none => exact matching_of_always Program.always_pure
  | some found' =>
      obtain ⟨ticket, chat⟩ := found'
      obtain ⟨-, inChat⟩ := World.ticketIn_of_ticketWithChat found
      refine matching_enqueue (fun _ => nofun) (fun _ => rfl) (fun _ => rfl) (fun w row ok => ?_)
        (fun row => Program.always_perform fun _ => nofun) inChat
      obtain ⟨-, -, free, rfl, same⟩ :=
        World.messageCreate_eq_ok_iff.mp (World.effect_of_perform_ok ok)
      exact ⟨_, free, rfl, rfl, rfl, by rw [same]⟩

theorem matching_recordIncoming (ticketId : TicketId) (tgMessageId : ℤ) (text : Option String)
    (attachments : List Attachment) (isNewTicket : Bool) :
    Matching (recordIncoming ticketId tgMessageId text attachments isNewTicket) w := by
  refine matching_bind (sat_attempt (matching_perform fun _ => nofun)) fun stored w => ?_
  split
  · refine matching_bind (matching_perform fun _ => nofun) fun _ w => ?_
    split
    · exact matching_bind (sat_attempt (matching_sendAutoAcknowledgement _ _))
        fun _ _ => matching_of_always Program.always_pure
    · exact matching_of_always Program.always_pure
  · refine matching_bind (matching_perform fun _ => nofun) fun existing w => ?_
    split
    · exact matching_of_always Program.always_pure
    · exact matching_of_always Program.always_throw
  · exact matching_of_always Program.always_throw

theorem matching_process (config : Config) (message : NormalizedIncomingMessage) :
    Matching (process config message) w := by
  have emits : ∀ event, (Call.emit event).Unqueued := fun _ _ => nofun
  refine matching_bind (matching_of_always (classify_always unqueued_of_reads _ _
    fun _ _ => nofun)) fun kind w => ?_
  cases kind with
  | agent => exact matching_of_always Program.always_pure
  | excluded => exact matching_of_always Program.always_pure
  | customer =>
      refine matching_bind (matching_of_always (findOrCreateChat_always unqueued_of_reads _ _
        fun _ => nofun)) fun chat w => ?_
      refine matching_bind (matching_of_always (findOrCreateCustomer_always unqueued_of_reads _ _ _
        (fun _ => nofun) fun _ _ => nofun)) fun customer w => ?_
      refine matching_bind (matching_perform (unqueued_of_reads _ rfl)) fun now w => ?_
      refine matching_bind (matching_of_always (decide_always unqueued_of_reads _))
        fun decision w => ?_
      refine matching_bind (matching_of_always (resolveTicket_always unqueued_of_reads emits _ _ _ _
        (fun _ _ => nofun) fun _ _ => nofun)) fun resolved w => ?_
      exact matching_bind (matching_recordIncoming _ _ _ _ _)
        fun _ _ => matching_of_always Program.always_pure

theorem matching_recordOutgoingReply (publicUrl : String) (params : OutgoingReply) :
    Matching (recordOutgoingReply publicUrl params) w := by
  refine sat_perform_bind (fun w' _ _ => (unqueued_of_reads _ rfl).queues w')
    (fun w' answer _ _ ok => ?_) fun _ _ _ _ _ _ _ => trivial
  have found : w'.ticketWithChat params.ticketId = answer := Except.ok.inj ok
  change Matching _ w'
  cases answer with
  | none => exact matching_of_always Program.always_throw
  | some found' =>
      obtain ⟨ticket, chat⟩ := found'
      obtain ⟨own, inChat⟩ := World.ticketIn_of_ticketWithChat found
      rw [← own] at inChat
      -- the ticket stays in its chat while the last message is read
      have quoted : Matching (quotedMessage ticket params.asReply) w' :=
        matching_of_always (quotedMessage_always unqueued_of_reads _ _)
      refine sat_bind World.Retains.refl ((quoted.keeping
        (F := fun w => w.TicketIn ticket.id chat.val.telegramChatId)
        (fun _ _ retains holds => holds.retains retains)
        (fun c w _ holds => holds.retains (w.retains_perform c)) inChat).mono fun r w holds => ?_)
      cases r with
      | error e => trivial
      | ok quoted =>
          refine matching_enqueue (fun _ => nofun) (fun _ => rfl) (fun _ => rfl) (fun w row ok => ?_)
            (fun row => ?_) holds.2
          · obtain ⟨-, message, free, rfl, own, out, -, -, -, same⟩ :=
              World.replyTransaction_eq_ok (World.effect_of_perform_ok ok)
            exact ⟨message, free, rfl, out, own, by rw [same]⟩
          · exact Program.always_bind (Program.always_perform fun _ => nofun)
              fun _ => Program.always_pure

theorem matching_program (config : Config) (request : Request) :
    Matching (request.program config) w := by
  cases request with
  | ingest message =>
      exact matching_bind (matching_process config message)
        fun _ _ => matching_of_always Program.always_pure
  | reply params =>
      exact matching_bind (matching_recordOutgoingReply _ params)
        fun _ _ => matching_of_always Program.always_pure
  | _ =>
      refine matching_of_always ((Request.program_performs config _).imp fun c performs => ?_)
      rcases performs with reads | ⟨event, rfl⟩ | writes
      · exact unqueued_of_reads c reads
      · exact fun _ => nofun
      · cases writes <;> exact fun _ => nofun

end Matching

theorem World.outbound_perform {w : World} {c : Call} {job : OutboundReplyJob}
    (member : job ∈ (w.perform c).2.outbound) : job ∈ w.outbound ∨ c = .enqueueReply job := by
  have step := w.perform_step c
  generalize (w.perform c).2 = w' at step member
  cases step
  case enqueueReply job' =>
    rcases List.mem_append.mp member with old | new
    · exact .inl old
    · exact .inr (congrArg Call.enqueueReply (List.mem_singleton.mp new).symm)
  all_goals exact .inl member

/-- **The queue holds jobs for messages of their tickets**, in every state that requests
reach from an empty queue. -/
theorem queued_matches (config : Config) (requests : List Request) (schedule : List (Act ℕ))
    {w : World} (empty : w.outbound = []) {job : OutboundReplyJob}
    (queued : job ∈ (w.after config requests schedule).outbound) :
    (w.after config requests schedule).Matches job := by
  have sats : (Requests.start config requests w).Sats (fun _ => World.perform)
      (fun _ => World.Retains) (fun _ _ _ => True) (fun _ => Call.Queues) fun _ _ _ => True := by
    intro i p present
    obtain ⟨request, -, rfl⟩ := List.mem_map.mp (List.mem_of_getElem? present)
    exact matching_program config request
  have meets : (Requests.start config requests w).Meets (fun _ => World.perform) World.advance
      (fun _ => Call.Queues) (fun _ _ => True) schedule :=
    (Pool.sats_exec (fun _ => World.Retains.refl) (fun _ => World.Retains.trans)
      (fun _ _ _ c w _ _ => w.retains_perform c)
      (fun _ milliseconds w _ => w.retains_advance milliseconds)
      (Pool.meets_of_forall (fun _ _ _ => trivial) (fun _ _ => trivial) _ schedule) sats).1
  refine Pool.invariant_exec (I := fun w => ∀ job ∈ w.outbound, w.Matches job) ?_ ?_ meets ?_ job
    queued
  · intro i c w queues holds job member
    rcases World.outbound_perform member with old | rfl
    · exact (holds job old).retains (w.retains_perform c)
    · exact (queues job rfl).retains (w.retains_perform _)
  · exact fun milliseconds w _ holds job member =>
      (holds job member).retains (w.retains_advance milliseconds)
  · intro job member
    rw [Requests.start, empty] at member
    cases member

/-- A job of the queue confirms an outgoing message, whenever it is executed. -/
theorem meets_confirmsOutgoing (config : Config) (requests : List Request) (w : World)
    (noJobs : w.outbound = []) (schedule : List (Act ℕ))
    (queued : ∀ job, .outbound job ∈ requests →
      job ∈ (w.after config requests schedule).outbound) :
    (Requests.start config requests w).Meets (fun _ => World.perform) World.advance
      (fun _ c w => (∃ request ∈ requests, request.Performs c) ∧
        ∀ id tgMessageId, c = .messageConfirm id tgMessageId → ∀ row,
          w.messages.find? id = some row → row.val.direction = .out)
      (fun _ _ => True) schedule := by
  refine (Pool.meets_and (Requests.meets_performs config requests w schedule)
    (Pool.meets_of_moves World.Retains.refl World.Retains.trans (fun _ c w => w.retains_perform c)
      (fun milliseconds w => w.retains_advance milliseconds) _ schedule)).mono ?_ fun _ _ _ => trivial
  rintro i c w' ⟨⟨request, listed, performs⟩, retains⟩
  refine ⟨⟨request, listed, performs⟩, ?_⟩
  rintro id tgMessageId rfl row found
  cases performs.writes rfl (by rintro _ ⟨⟩) with
  | confirms job =>
      obtain ⟨row', -, -, listed', -, out, -⟩ :=
        queued_matches config requests schedule noJobs (queued job listed)
      obtain ⟨row'', found', -, way⟩ := retains.message _ row found
      obtain rfl := Option.some.inj (listed'.symm.trans found')
      exact way.symm.trans out

/-! ## The record of what was sent -/

/-- What each request has sent, every message with its place among all that were sent. -/
abbrev Sends := ℕ → List (ℕ × SentMessage)

/-- The record of a command of the request with this number. -/
def noteSender (i : ℕ) : Call → World → Sends → Sends
  | .telegram chatId method replyParameters part, w, sends =>
      Function.update sends i (sends i ++ [(w.sent.length,
        ⟨chatId, method, replyParameters, part, (w.send chatId method replyParameters part).1⟩)])
  | _, _, sends => sends

/-- The requests after a schedule, with the record of what each has sent. -/
def Requests.recorded (config : Config) (requests : List Request) (w : World)
    (schedule : List (Act ℕ)) : Pool Call Call.Resp Err Unit (World × Sends) :=
  Pool.exec (Pool.observed (fun _ => World.perform) noteSender) (Pool.unrecorded World.advance)
    ((Requests.start config requests w).withRecord fun _ => []) schedule

theorem Requests.recorded_state (config : Config) (requests : List Request) (w : World)
    (schedule : List (Act ℕ)) :
    (Requests.recorded config requests w schedule).state.1 = w.after config requests schedule := by
  obtain ⟨sends, same⟩ := Pool.exec_withRecord (H := fun _ => World.perform) (E := World.advance)
    noteSender (Requests.start config requests w) (fun _ => []) schedule
  rw [Requests.recorded, same]
  rfl

theorem noteSender_of_ne {i j : ℕ} (ne : i ≠ j) (c : Call) (w : World) (sends : Sends) :
    noteSender j c w sends i = sends i := by
  cases c <;> first | rfl | exact Function.update_of_ne ne _ _

/-- The identifier of the first message that was sent. -/
def firstId (sends : List (ℕ × SentMessage)) : Option ℤ :=
  sends.head?.map fun sent => sent.2.messageId

theorem firstId_concat (sends : List (ℕ × SentMessage)) (sent : ℕ × SentMessage) :
    firstId (sends ++ [sent]) = (firstId sends).or (some sent.2.messageId) := by
  cases sends <;> rfl

/-- What a request may send and confirm after what it has sent: part after part to the chat
of its job, and then the first identifier. -/
def Call.Serves (request : Request) (sends : List (ℕ × SentMessage)) : Call → Prop
  | .telegram chatId _ _ part =>
      ∃ job, request = .outbound job ∧ chatId = job.telegramChatId ∧ part = sends.length
  | .messageConfirm id tgMessageId =>
      ∃ job, request = .outbound job ∧ id = job.messageId ∧ firstId sends = some tgMessageId
  | _ => True

theorem Call.serves_of_performs {request : Request} {c : Call} (performs : request.Performs c)
    (other : ∀ job, request ≠ .outbound job) (sends : List (ℕ × SentMessage)) :
    c.Serves request sends := by
  rcases performs with reads | ⟨event, rfl⟩ | writes
  · cases c <;> trivial
  · trivial
  · cases writes with
    | sends job => exact absurd rfl (other job)
    | confirms job => exact absurd rfl (other job)
    | _ => trivial

/-- The row of the job carries the identifier of the first message that was sent for it. -/
def Carried (job : OutboundReplyJob) (w : World) (sends : List (ℕ × SentMessage)) : Prop :=
  ∃ row id, w.messages.find? job.messageId = some row ∧ row.val.tgMessageId = some id ∧
    firstId sends = some id

/-- Others leave the record of a request alone, and the row of one job its identifier. -/
structure Leaves (i : ℕ) (job : OutboundReplyJob) (j : ℕ) (s s' : World × Sends) : Prop where
  record : s'.2 j = s.2 j
  row : j = i → ∀ row, s.1.messages.find? job.messageId = some row →
    ∃ row', s'.1.messages.find? job.messageId = some row' ∧
      row'.val.tgMessageId = row.val.tgMessageId

namespace Leaves

variable {i j k : ℕ} {job : OutboundReplyJob}

theorem refl (s : World × Sends) : Leaves i job j s s :=
  ⟨rfl, fun _ row found => ⟨row, found, rfl⟩⟩

theorem trans (s s' s'' : World × Sends) (first : Leaves i job j s s')
    (second : Leaves i job j s' s'') : Leaves i job j s s'' where
  record := second.record.trans first.record
  row := by
    intro own row found
    obtain ⟨row', found', same⟩ := first.row own row found
    obtain ⟨row'', found'', same'⟩ := second.row own row' found'
    exact ⟨row'', found'', same'.trans same⟩

/-- The turn of another request, unless it confirms the row of the job. -/
theorem turn (ne : j ≠ k) (c : Call) (s : World × Sends)
    (spares : j = i → ∀ tgMessageId, c ≠ .messageConfirm job.messageId tgMessageId) :
    Leaves i job j s (Handler.observed World.perform (noteSender k) c s).2 where
  record := noteSender_of_ne ne c s.1 s.2
  row := by
    intro own row found
    rcases World.message_perform (c := c) found with same | ⟨tgMessageId, confirms, -⟩
    · exact ⟨row, same, rfl⟩
    · exact absurd confirms (spares own tgMessageId)

theorem carried {s s' : World × Sends} (leaves : Leaves i job i s s')
    (carried : Carried job s.1 (s.2 i)) : Carried job s'.1 (s'.2 i) := by
  obtain ⟨row, id, found, own, first⟩ := carried
  obtain ⟨row', found', same⟩ := leaves.row rfl row found
  exact ⟨row', id, found', same.trans own, leaves.record ▸ first⟩

end Leaves

/-- An execution of a job sends its parts in order and confirms the first of them. -/
theorem Delivers.sat {i j : ℕ} {job job' : OutboundReplyJob} (own : j = i → job' = job) {part : ℕ}
    {first : Option ℤ} {p : App Unit} (delivers : Delivers job' part first p) {s : World × Sends}
    (sent : (s.2 j).length = part) (firstSent : firstId (s.2 j) = first) :
    Sat (Handler.observed World.perform (noteSender j)) (Leaves i job j) (fun _ _ => True)
      (fun c s => c.Serves (.outbound job') (s.2 j)) p
      (fun r s => j = i → r = .ok () → Carried job s.1 (s.2 j)) s := by
  induction delivers generalizing s with
  | sends part first method replyParameters next rest ends ih =>
      refine sat_call fun s' leaves _ => ⟨⟨job', rfl, rfl, ?_⟩, ?_⟩
      · rw [leaves.record, sent]
      · refine ih _ ?_ ?_
        · simp [Handler.observed, noteSender, leaves.record, sent]
        · simp [Handler.observed, noteSender, firstId_concat, leaves.record, firstSent, World.send]
  | confirms part messageId =>
      refine sat_perform fun s' leaves _ => ⟨⟨job', rfl, rfl, ?_⟩, ?_⟩
      · rw [leaves.record, firstSent]
      · rintro s'' leaves' rfl done
        obtain rfl := own rfl
        obtain ⟨row, found, confirmed⟩ := confirm_eq_ok done
        refine leaves'.carried ⟨row, messageId, found, confirmed, ?_⟩
        exact (congrArg firstId leaves.record).trans firstSent

/-- A command of the request with this number is one that the request serves. -/
def Served (requests : List Request) (j : ℕ) (c : Call) (s : World × Sends) : Prop :=
  ∃ request, requests[j]? = some request ∧ c.Serves request (s.2 j)

/-- Along every schedule the commands are served, and a job that has ended well is carried,
if it is executed once only. -/
theorem recorded_serves (config : Config) (requests : List Request) (w : World)
    (schedule : List (Act ℕ)) {i : ℕ} {job : OutboundReplyJob}
    (given : requests[i]? = some (.outbound job))
    (once : ∀ j job', requests[j]? = some (.outbound job') → job'.messageId = job.messageId →
      j = i) :
    ((Requests.start config requests w).withRecord fun _ => []).Meets
        (Pool.observed (fun _ => World.perform) noteSender) (Pool.unrecorded World.advance)
        (Served requests) (fun _ _ => True) schedule ∧
      ((Requests.recorded config requests w schedule).programs[i]? = some (.ret (.ok ())) →
        Carried job (Requests.recorded config requests w schedule).state.1
          ((Requests.recorded config requests w schedule).state.2 i)) := by
  have sats : ((Requests.start config requests w).withRecord
      fun _ => ([] : List (ℕ × SentMessage))).Sats
      (Pool.observed (fun _ => World.perform) noteSender) (Leaves i job) (fun _ _ _ => True)
      (Served requests) fun j r s => j = i → r = .ok () → Carried job s.1 (s.2 j) := by
    intro j p present
    obtain ⟨request, listed, rfl⟩ := Option.map_eq_some_iff.mp
      (List.getElem?_map.symm.trans present)
    by_cases delivering : ∃ job', request = .outbound job'
    · obtain ⟨job', rfl⟩ := delivering
      have same : j = i → job' = job := by
        rintro rfl
        cases listed.symm.trans given
        rfl
      exact ((delivers_processOutbound job').sat same rfl rfl).imp (fun _ _ => id)
        (fun c s serves => ⟨_, listed, serves⟩) fun _ _ => id
    · have other : ∀ job', request ≠ .outbound job' := fun job' same => delivering ⟨job', same⟩
      refine sat_of_always (request.program_performs config)
        (fun c s performs => ⟨request, listed, Call.serves_of_performs performs other _⟩)
        fun r s same => ?_
      subst same
      exact absurd (Option.some.inj (listed.symm.trans given)) (other job)
  have others : ∀ j k, j ≠ k → ∀ c s, True → Served requests k c s →
      Leaves i job j s (Pool.observed (fun _ => World.perform) noteSender k c s).2 := by
    rintro j k ne c s - ⟨request, listed, serves⟩
    refine Leaves.turn ne c s ?_
    rintro rfl tgMessageId rfl
    obtain ⟨job', rfl, same, -⟩ := serves
    exact ne (once k job' listed same.symm).symm
  have clock : ∀ j milliseconds s, True →
      Leaves i job j s (Pool.unrecorded World.advance milliseconds s) :=
    fun j milliseconds s _ => ⟨rfl, fun _ row found => ⟨row, found, rfl⟩⟩
  obtain ⟨meets, left⟩ := Pool.sats_exec (fun _ => Leaves.refl) (fun _ => Leaves.trans) others clock
    (Pool.meets_of_forall (fun _ _ _ => trivial) (fun _ _ => trivial) _ schedule) sats
  exact ⟨meets, fun ended => Pool.Sats.result (fun _ => Leaves.refl) left ended rfl rfl⟩

/-! ## The identifiers in the rows -/

theorem World.sent_perform {w : World} {c : Call}
    (silent : ∀ chatId method replyParameters part,
      c ≠ .telegram chatId method replyParameters part) : (w.perform c).2.sent = w.sent := by
  have step := w.perform_step c
  generalize (w.perform c).2 = w' at step
  cases step
  case telegram chatId method replyParameters part sent => exact absurd rfl (silent _ _ _ _)
  all_goals rfl

/-- An outgoing row with an identifier was there before, or the command confirmed it. -/
theorem World.outgoing_before {w : World} {c : Call} {row : Entry Message} {id : ℤ}
    (member : row ∈ (w.perform c).2.messages.rows) (out : row.val.direction = .out)
    (has : row.val.tgMessageId = some id) :
    row ∈ w.messages.rows ∨ c = .messageConfirm row.id id := by
  have step := w.perform_step c
  generalize (w.perform c).2 = w' at step member
  cases step
  case record ticketId tgMessageId text attachments present free =>
    rcases (Table.mem_insert free).mp member with old | rfl
    · exact .inl old
    · cases out
  case acknowledge ticketId text message free present own out' pending created bot =>
    rcases (Table.mem_insert free).mp member with old | rfl
    · exact .inl old
    · cases pending.symm.trans has
  case reply ticketId agentId text attachments firstResponse message free present own out'
      pending created agent =>
    rcases (Table.mem_insert free).mp member with old | rfl
    · exact .inl old
    · cases pending.symm.trans has
  case confirm other tgMessageId messages changed =>
    obtain ⟨old, before, rfl⟩ := (Table.mem_modify? changed).mp member
    by_cases own : old.id = other
    · subst own
      rw [Entry.change_self] at has ⊢
      cases has
      exact .inr rfl
    · exact .inl (by rwa [Entry.change_of_ne _ _ own])
  all_goals exact .inl member

/-- What the record says of the messages that were sent, and of the rows that carry their
identifiers. -/
structure Ledger (requests : List Request) (s : World × Sends) : Prop where
  place : ∀ j, ∀ sent ∈ s.2 j, s.1.sent[sent.1]? = some sent.2
  chat : ∀ j, ∀ sent ∈ s.2 j, ∃ job, requests[j]? = some (.outbound job) ∧
    sent.2.chatId = job.telegramChatId
  apart : ∀ j k, ∀ sent ∈ s.2 j, ∀ sent' ∈ s.2 k, sent.1 = sent'.1 → j = k
  parts : ∀ j, (s.2 j).map (fun sent => sent.2.part) = List.range (s.2 j).length
  rows : ∀ row ∈ s.1.messages.rows, row.val.direction = .out → ∀ id,
    row.val.tgMessageId = some id → ∃ j job, requests[j]? = some (.outbound job) ∧
      row.id = job.messageId ∧ firstId (s.2 j) = some id

namespace Ledger

variable {requests : List Request} {s : World × Sends}

theorem start {w : World} (empty : w.messages.rows = []) :
    Ledger requests (w, fun _ => []) where
  place := nofun
  chat := nofun
  apart := nofun
  parts := fun _ => rfl
  rows := by
    intro row member
    rw [empty] at member
    cases member

/-- The first identifier stays the first when more is sent. -/
theorem firstId_note {j k : ℕ} {c : Call} {id : ℤ} (first : firstId (s.2 k) = some id) :
    firstId (noteSender j c s.1 s.2 k) = some id := by
  by_cases own : k = j
  · subst own
    cases c <;> first
      | exact first
      | simp [noteSender, firstId_concat, first]
  · rw [noteSender_of_ne own]
    exact first

/-- A recorded message was recorded before, or is the one that is sent now. -/
theorem mem_note {j k : ℕ} {chatId : ℤ} {method : TelegramMethod} {replyParameters : Option ℤ}
    {part : ℕ} {sent : ℕ × SentMessage}
    (member : sent ∈ noteSender j (.telegram chatId method replyParameters part) s.1 s.2 k) :
    sent ∈ s.2 k ∨ k = j ∧ sent = (s.1.sent.length,
      ⟨chatId, method, replyParameters, part,
        (s.1.send chatId method replyParameters part).1⟩) := by
  by_cases own : k = j
  · subst own
    simpa [noteSender] using member
  · rw [noteSender_of_ne own] at member
    exact .inl member

theorem place_lt (ledger : Ledger requests s) {j : ℕ} {sent : ℕ × SentMessage}
    (member : sent ∈ s.2 j) : sent.1 < s.1.sent.length :=
  (List.getElem?_eq_some_iff.mp (ledger.place j sent member)).1

/-- Every command that is served keeps the record right. -/
theorem perform (ledger : Ledger requests s) {j : ℕ} {c : Call} (served : Served requests j c s) :
    Ledger requests (Handler.observed World.perform (noteSender j) c s).2 := by
  obtain ⟨request, listed, serves⟩ := served
  have rows : ∀ row ∈ (s.1.perform c).2.messages.rows, row.val.direction = .out → ∀ id,
      row.val.tgMessageId = some id → ∃ k job, requests[k]? = some (.outbound job) ∧
        row.id = job.messageId ∧ firstId (noteSender j c s.1 s.2 k) = some id := by
    intro row member out id has
    rcases World.outgoing_before member out has with old | rfl
    · obtain ⟨k, job, given, own, first⟩ := ledger.rows row old out id has
      exact ⟨k, job, given, own, firstId_note first⟩
    · obtain ⟨job, rfl, own, first⟩ := serves
      exact ⟨j, job, listed, own, firstId_note first⟩
  by_cases sends : ∃ chatId method replyParameters part,
      c = .telegram chatId method replyParameters part
  · obtain ⟨chatId, method, replyParameters, part, rfl⟩ := sends
    obtain ⟨job, rfl, rfl, rfl⟩ := serves
    exact
      { place := by
          intro k sent member
          change (s.1.sent ++ [_])[sent.1]? = some sent.2
          rcases mem_note member with old | ⟨rfl, rfl⟩
          · rw [List.getElem?_append_left (ledger.place_lt old)]
            exact ledger.place k sent old
          · exact List.getElem?_concat_length
        chat := by
          intro k sent member
          rcases mem_note member with old | ⟨rfl, rfl⟩
          · exact ledger.chat k sent old
          · exact ⟨job, listed, rfl⟩
        apart := by
          intro k l sent member sent' member' same
          rcases mem_note member with old | ⟨rfl, rfl⟩
          · rcases mem_note member' with old' | ⟨rfl, rfl⟩
            · exact ledger.apart k l sent old sent' old' same
            · exact absurd same (ledger.place_lt old).ne
          · rcases mem_note member' with old' | ⟨rfl, rfl⟩
            · exact absurd same (ledger.place_lt old').ne'
            · rfl
        parts := by
          intro k
          by_cases own : k = j
          · subst own
            simp [Handler.observed, noteSender, ledger.parts k, List.range_succ]
          · simp only [Handler.observed, noteSender_of_ne own]
            exact ledger.parts k
        rows := rows }
  · have silent : ∀ chatId method replyParameters part,
        c ≠ .telegram chatId method replyParameters part :=
      fun chatId method replyParameters part same => sends ⟨_, _, _, _, same⟩
    have unnoted : noteSender j c s.1 s.2 = s.2 := by
      cases c <;> first | rfl | exact absurd rfl (silent _ _ _ _)
    exact
      { place := by
          intro k sent member
          rw [Handler.observed, World.sent_perform silent]
          exact ledger.place k sent (unnoted ▸ member)
        chat := fun k sent member => ledger.chat k sent (unnoted ▸ member)
        apart := fun k l sent member sent' member' =>
          ledger.apart k l sent (unnoted ▸ member) sent' (unnoted ▸ member')
        parts := fun k => by
          change (noteSender j c s.1 s.2 k).map _ = List.range (noteSender j c s.1 s.2 k).length
          rw [unnoted]
          exact ledger.parts k
        rows := rows }

/-- The message that was sent first is the one of the first part. -/
theorem head_iff (ledger : Ledger requests s) {j : ℕ} {sent : ℕ × SentMessage}
    (member : sent ∈ s.2 j) : (s.2 j).head? = some sent ↔ sent.2.part = 0 := by
  have parts := ledger.parts j
  cases sends : s.2 j with
  | nil =>
      rw [sends] at member
      cases member
  | cons first rest =>
      rw [sends] at parts member
      rw [List.map_cons, List.length_cons, List.range_succ_eq_map] at parts
      obtain ⟨zero, later⟩ := List.cons.inj parts
      rw [List.head?_cons, Option.some_inj]
      constructor
      · rintro rfl
        exact zero
      · intro own
        rcases List.mem_cons.mp member with rfl | listed
        · rfl
        · have part : sent.2.part ∈ List.map Nat.succ (List.range rest.length) :=
            later ▸ List.mem_map_of_mem listed
          obtain ⟨n, -, succ⟩ := List.mem_map.mp part
          exact absurd (succ.trans own) (Nat.succ_ne_zero n)

end Ledger

/-- Telegram gives an identifier to one message of a chat only, be it one that it accepted or
one that came in. -/
structure World.UniqueIds (w : World) : Prop where
  sent : w.sent.Pairwise fun earlier later =>
    earlier.chatId = later.chatId → earlier.messageId ≠ later.messageId
  incoming : ∀ row ∈ w.messages.rows, row.val.direction = .in → ∀ ticket chat,
    w.tickets.find? row.val.ticketId = some ticket →
      w.chats.find? ticket.val.chatId = some chat →
        ∀ sent ∈ w.sent, sent.chatId = chat.val.telegramChatId →
          row.val.tgMessageId ≠ some sent.messageId

theorem World.UniqueIds.place {w : World} (unique : w.UniqueIds) {n m : ℕ} {a b : SentMessage}
    (first : w.sent[n]? = some a) (second : w.sent[m]? = some b) (chat : a.chatId = b.chatId)
    (same : a.messageId = b.messageId) : n = m := by
  obtain ⟨inside, rfl⟩ := List.getElem?_eq_some_iff.mp first
  obtain ⟨inside', rfl⟩ := List.getElem?_eq_some_iff.mp second
  have apart := List.pairwise_iff_getElem.mp unique.sent
  rcases Nat.lt_trichotomy n m with lower | equal | higher
  · exact absurd same (apart n m inside inside' lower chat)
  · exact equal
  · exact absurd same.symm (apart m n inside' inside higher chat.symm)

/-- When rule 1 attaches a message. -/
theorem run_decide_rule1_iff {w : World} {input : ThreadGroupingInput} {replyToTgMessageId : ℤ}
    (given : input.replyToTgMessageId = some replyToTgMessageId) (ticketId : TicketId)
    (revive : Bool) :
    ((decide input).run World.perform w).1 = .ok (.attach ticketId revive .rule1) ↔
      ∃ status, w.findTicketByAnchorMessage input.chatId replyToTgMessageId =
        some ⟨ticketId, status⟩ ∧ status.terminal = false ∧
          revive = Decidable.decide (status ≠ .open) := by
  have byActivity : ((decideByActivity input).run World.perform w).1 ≠
      .ok (.attach ticketId revive .rule1) := by
    rw [decideByActivity, run_query_bind (w.findMostRecentActiveTicket input.chatId
      input.customerId) rfl]
    split
    · exact nofun
    · split
      · exact nofun
      · exact nofun
  rw [decide, given]
  simp only
  rw [run_query_bind (w.findTicketByAnchorMessage input.chatId replyToTgMessageId) rfl]
  cases found : w.findTicketByAnchorMessage input.chatId replyToTgMessageId with
  | none => simp [byActivity]
  | some anchor =>
      obtain ⟨anchored, status⟩ := anchor
      cases terminal : status.terminal with
      | true => simp [terminal, byActivity]
      | false =>
          simp only [terminal, Bool.false_eq_true, if_false, Program.run_pure]
          constructor
          · intro same
            cases same
            exact ⟨status, rfl, terminal, rfl⟩
          · rintro ⟨status', same, -, rfl⟩
            cases same
            rfl

section Replies

variable {requests : List Request} {s : World × Sends} {i : ℕ} {job : OutboundReplyJob}

/-- A row of the chat that carries the identifier of a message sent for a job is the row of
this job, and the message is the one of the first part. -/
theorem Ledger.row_of_sent (ledger : Ledger requests s)
    (given : requests[i]? = some (.outbound job)) (unique : s.1.UniqueIds)
    (queued : ∀ job, .outbound job ∈ requests → s.1.Matches job) {ticket : Entry Ticket}
    (found : s.1.tickets.find? job.ticketId = some ticket) {sent : ℕ × SentMessage}
    (member : sent ∈ s.2 i) {row : Entry Message} (listed : row ∈ s.1.messages.rows)
    (inChat : s.1.inChat ticket.val.chatId row.val.ticketId = true)
    (has : row.val.tgMessageId = some sent.2.messageId) :
    row.id = job.messageId ∧ sent.2.part = 0 := by
  have place := ledger.place i sent member
  obtain ⟨job₀, listed₀, toChat⟩ := ledger.chat i sent member
  cases listed₀.symm.trans given
  obtain ⟨-, ticket₀, chat, -, -, -, found₀, ofTicket, ofJob⟩ :=
    queued job (List.mem_of_getElem? given)
  obtain rfl := Option.some.inj (found₀.symm.trans found)
  obtain ⟨ticket', found', same⟩ := (Option.any_eq_true _ _).mp inChat
  have sameChat : ticket'.val.chatId = ticket₀.val.chatId := of_decide_eq_true same
  have ofTicket' : s.1.chats.find? ticket'.val.chatId = some chat := sameChat ▸ ofTicket
  cases direction : row.val.direction with
  | «in» =>
      exact absurd has (unique.incoming row listed direction ticket' chat found' ofTicket' sent.2
        (List.mem_of_getElem? place) (toChat.trans ofJob.symm))
  | out =>
      obtain ⟨j, job', listed', own, first⟩ := ledger.rows row listed direction _ has
      obtain ⟨other, head, sameId⟩ := Option.map_eq_some_iff.mp first
      have member' : other ∈ s.2 j := List.mem_of_mem_head? head
      have place' := ledger.place j other member'
      obtain ⟨job₁, listed₁, toChat'⟩ := ledger.chat j other member'
      cases listed₁.symm.trans listed'
      -- both messages went to the chat of the row
      obtain ⟨row₁, ticket₁, chat₁, listedRow, ofRow, -, found₁, ofTicket₁, ofJob₁⟩ :=
        queued job' (List.mem_of_getElem? listed')
      obtain rfl : row₁ = row := by
        rw [← own, Table.find?_self listed] at listedRow
        exact (Option.some.inj listedRow).symm
      obtain rfl : ticket₁ = ticket' := by
        rw [← ofRow] at found₁
        exact Option.some.inj (found₁.symm.trans found')
      obtain rfl : chat₁ = chat := Option.some.inj (ofTicket₁.symm.trans ofTicket')
      have samePlace : other.1 = sent.1 :=
        unique.place place' place (toChat'.trans (ofJob₁.symm.trans (ofJob.trans toChat.symm))) sameId
      obtain rfl : j = i := ledger.apart j i other member' sent member samePlace
      cases listed'.symm.trans given
      have sameMessage : other.2 = sent.2 :=
        Option.some.inj (place'.symm.trans (samePlace ▸ place))
      exact ⟨own, sameMessage ▸ (ledger.head_iff member').mp head⟩

/-- The row that carries the first identifier is found by it. -/
theorem Ledger.anchor_of_first (ledger : Ledger requests s)
    (given : requests[i]? = some (.outbound job)) (unique : s.1.UniqueIds)
    (queued : ∀ job, .outbound job ∈ requests → s.1.Matches job) {ticket : Entry Ticket}
    (found : s.1.tickets.find? job.ticketId = some ticket) {sent : ℕ × SentMessage}
    (member : sent ∈ s.2 i) (carried : Carried job s.1 (s.2 i)) (first : sent.2.part = 0) :
    s.1.findTicketByAnchorMessage ticket.val.chatId sent.2.messageId =
      some ⟨job.ticketId, ticket.val.status⟩ := by
  obtain ⟨row, id, listed, has, firstIs⟩ := carried
  obtain rfl : sent.2.messageId = id := by
    rw [firstId, (ledger.head_iff member).mpr first] at firstIs
    exact Option.some.inj firstIs
  obtain ⟨row', -, -, listed', ofTicket, -, -, -, -⟩ := queued job (List.mem_of_getElem? given)
  obtain rfl : row' = row := Option.some.inj (listed'.symm.trans listed)
  have inChat : s.1.inChat ticket.val.chatId row'.val.ticketId = true := by
    rw [World.inChat, ofTicket, found]
    exact decide_eq_true rfl
  rw [World.findTicketByAnchorMessage]
  cases latest : s.1.messages.latest (fun row => row.val.tgMessageId = some sent.2.messageId &&
      s.1.inChat ticket.val.chatId row.val.ticketId) Message.createdAt with
  | none =>
      have misses := Table.latest_eq_none_iff.mp latest row' (Table.mem_of_find? listed)
      simp [has, inChat] at misses
  | some row =>
      obtain ⟨listedRow, meets⟩ := Table.mem_of_latest latest
      simp only [Bool.and_eq_true, decide_eq_true_eq] at meets
      obtain ⟨own, -⟩ := ledger.row_of_sent given unique queued found member listedRow meets.2
        meets.1
      obtain rfl : row = row' := Table.eq_of_id_eq listedRow (Table.mem_of_find? listed)
        (own.trans (Table.id_of_find? listed).symm)
      rw [Option.bind_some, ofTicket, found, Option.map_some, Table.id_of_find? found]

end Replies

/-- **A reply to what was sent finds its thread exactly when it is to the first part.** A job
of the queue was executed once and without failure among whatever else was done, and its
ticket is neither closed nor archived. A customer replies to a message that Telegram accepted
for the job: rule 1 attaches the reply to the ticket if and only if that message is the first
part. -/
theorem reply_to_sent_iff (config : Config) (requests : List Request) (w : World)
    (noMessages : w.messages.rows = []) (noJobs : w.outbound = []) (schedule : List (Act ℕ))
    (i : ℕ) (job : OutboundReplyJob) (given : requests[i]? = some (.outbound job))
    (once : ∀ j job', requests[j]? = some (.outbound job') → job'.messageId = job.messageId →
      j = i)
    (queued : ∀ job, .outbound job ∈ requests →
      job ∈ (w.after config requests schedule).outbound)
    (completed : (Requests.recorded config requests w schedule).programs[i]? =
      some (.ret (.ok ())))
    (unique : (w.after config requests schedule).UniqueIds) (ticket : Entry Ticket)
    (found : (w.after config requests schedule).tickets.find? job.ticketId = some ticket)
    (live : ticket.val.status.terminal = false) (sent : ℕ × SentMessage)
    (member : sent ∈ (Requests.recorded config requests w schedule).state.2 i)
    (input : ThreadGroupingInput) (inChat : input.chatId = ticket.val.chatId)
    (replies : input.replyToTgMessageId = some sent.2.messageId) :
    ((decide input).run World.perform (w.after config requests schedule)).1 =
        .ok (.attach job.ticketId (ticket.val.status ≠ .open) .rule1) ↔
      sent.2.part = 0 := by
  have matching : ∀ job, .outbound job ∈ requests →
      (w.after config requests schedule).Matches job :=
    fun job served => queued_matches config requests schedule noJobs (queued job served)
  obtain ⟨serves, ends⟩ := recorded_serves config requests w schedule given once
  have ledger : Ledger requests (Requests.recorded config requests w schedule).state := by
    refine Pool.invariant_exec (I := Ledger requests) ?_ ?_ serves (Ledger.start noMessages)
    · exact fun j c s served ledger => ledger.perform served
    · exact fun milliseconds s _ ledger => { ledger with }
  have carried := ends completed
  rw [run_decide_rule1_iff replies, inChat]
  rw [← Requests.recorded_state] at matching unique found ⊢
  constructor
  · rintro ⟨status, anchored, -, -⟩
    obtain ⟨row, latest, -⟩ := Option.bind_eq_some_iff.mp anchored
    obtain ⟨listed, meets⟩ := Table.mem_of_latest latest
    simp only [Bool.and_eq_true, decide_eq_true_eq] at meets
    exact (ledger.row_of_sent given unique matching found member listed meets.2 meets.1).2
  · intro first
    exact ⟨ticket.val.status,
      ledger.anchor_of_first given unique matching found member carried first, live, rfl⟩

/-! The agent's answer to a first message is sent as two files. -/

namespace Answer

def requests : List Request :=
  [.ingest (greeting 7), .reply ⟨0, 0, "Готово", some ["a.png", "b.pdf"], none⟩, .outbound job]

def schedule : List (Act ℕ) :=
  alone 20 ++ List.replicate 10 (.turn 1) ++ List.replicate 5 (.turn 2)

/-- The store after the answer was sent. -/
def sent : World := World.seeded.after .default requests schedule

/-- A reply to a message, ten days later. -/
def response (replyToTgMessageId : ℤ) : ThreadGroupingInput where
  chatId := 0
  customerId := 0
  replyToTgMessageId := some replyToTgMessageId
  idleWindowMinutes := 180
  now := 864000000

theorem uniqueIds : sent.UniqueIds where
  sent := by decide
  incoming := by
    have apart : ∀ row ∈ sent.messages.rows, row.val.direction = .in → ∀ message ∈ sent.sent,
        row.val.tgMessageId ≠ some message.messageId := by decide
    exact fun row listed direction _ _ _ _ message accepted _ =>
      apart row listed direction message accepted

end Answer

/-- A reply to the second file starts a new thread, though the ticket is open. -/
theorem second_part_starts_a_thread :
    Answer.job ∈ Answer.sent.outbound ∧
      (Requests.recorded .default Answer.requests World.seeded Answer.schedule).programs[2]? =
        some (.ret (.ok ())) ∧
      ((Requests.recorded .default Answer.requests World.seeded Answer.schedule).state.2 2).map
        (fun sent => (sent.2.part, sent.2.messageId)) = [(0, 1000), (1, 1001)] ∧
      (Answer.sent.tickets.find? 0).map (fun ticket => ticket.val.status) = some .open ∧
      ((decide (Answer.response 1001)).run World.perform Answer.sent).1 = .ok .createNew := by
  refine ⟨by decide, by rfl, by decide, by decide, by decide⟩

theorem first_part_finds_the_thread :
    ((decide (Answer.response 1000)).run World.perform Answer.sent).1 =
      .ok (.attach 0 false .rule1) := by
  have once : ∀ j job', Answer.requests[j]? = some (.outbound job') →
      job'.messageId = Answer.job.messageId → j = 2 := by
    rintro (_ | _ | _ | j) job' listed - <;> cases listed
    rfl
  have queued : ∀ job, .outbound job ∈ Answer.requests → job ∈ Answer.sent.outbound := by
    rintro job listed
    obtain rfl : job = Answer.job := by simpa [Answer.requests] using listed
    decide
  exact (reply_to_sent_iff .default Answer.requests World.seeded rfl rfl Answer.schedule 2 Answer.job
    rfl once queued (by rfl) Answer.uniqueIds _ (by rfl) rfl
    (0, ⟨-5, .sendPhoto "http://localhost:3000/uploads/a.png" (some "Готово"), some 7, 0, 1000⟩)
    (by decide) (Answer.response 1000) rfl rfl).mpr rfl

end SupportCrm
