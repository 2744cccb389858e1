import SupportCrm.Anchors

/-!
# Quoting

Which message of the customer a reply of an agent quotes. An agent may ask for a quote or
for none; without a choice, only the first reply after a message of the customer is to quote
it. `recordOutgoingReply` looks at the direction of the newest message only, and the
acknowledgement of a new ticket is an outgoing message, too: `reply_quotes_iff` says when
the quote is the right one.
-/

set_option autoImplicit false

namespace SupportCrm

open KeyedTable AtomicProgram

/-! ## Conversations -/

/-- The latest message of the customer. -/
def latestInbound (conversation : List Message) : Option Message :=
  conversation.reverse.find? fun message => message.direction = .in

/-- What came after the latest message of the customer, the newest first. -/
def sinceInbound (conversation : List Message) : List Message :=
  conversation.reverse.takeWhile fun message => message.direction = .out

/-- An agent has replied to the latest message of the customer. -/
def answered (conversation : List Message) : Bool :=
  (sinceInbound conversation).any fun message => message.sender = .agent

/-- The bot has written since the latest message of the customer. -/
def acknowledged (conversation : List Message) : Bool :=
  (sinceInbound conversation).any fun message => message.sender = .bot

/-- The quote of a reply in a conversation whose latest message of the customer is given. -/
def quote (asReply : Option Bool) (conversation : List Message) (inbound : Message) : Option ℤ :=
  match asReply with
  | some false => none
  | some true => inbound.tgMessageId
  | none => if answered conversation then none else inbound.tgMessageId

theorem latestInbound_concat (conversation : List Message) (message : Message) :
    latestInbound (conversation ++ [message]) =
      if message.direction = .in then some message else latestInbound conversation := by
  by_cases inbound : message.direction = .in <;> simp [latestInbound, inbound]

/-- The latest message of the customer does not depend on the messages to the customer. -/
theorem latestInbound_congr {α : Type} {g h : α → Message} {l : List α}
    (same : ∀ a ∈ l, (g a).direction = (h a).direction ∧ ((h a).direction = .in → g a = h a)) :
    latestInbound (l.map g) = latestInbound (l.map h) := by
  induction l using List.reverseRecOn with
  | nil => rfl
  | append_singleton rest last ih =>
      have own := same last (List.mem_append_right _ (List.mem_singleton_self last))
      have others := ih fun a member => same a (List.mem_append_left _ member)
      rw [List.map_append, List.map_append, List.map_singleton, List.map_singleton,
        latestInbound_concat, latestInbound_concat, others, own.1]
      by_cases inbound : (h last).direction = .in
      · rw [if_pos inbound, if_pos inbound, own.2 inbound]
      · rw [if_neg inbound, if_neg inbound]

theorem direction_of_latestInbound {conversation : List Message} {message : Message}
    (latest : latestInbound conversation = some message) : message.direction = .in := by
  simpa using List.find?_some latest

/-- Of the newest message and the latest of the customer: either they are the same, and then
nothing came after it, or the newest one came after it. -/
theorem newest_or_since {conversation : List Message} {newest inbound : Message}
    (last : conversation.getLast? = some newest)
    (latest : latestInbound conversation = some inbound) :
    (newest.direction = .in ∧ newest = inbound ∧ sinceInbound conversation = []) ∨
      (newest.direction = .out ∧ newest ∈ sinceInbound conversation) := by
  obtain ⟨earlier, rfl⟩ := List.getLast?_eq_some_iff.mp last
  cases direction : newest.direction with
  | «in» =>
      rw [latestInbound_concat, if_pos direction] at latest
      exact .inl ⟨rfl, Option.some.inj latest, by simp [sinceInbound, direction]⟩
  | out => exact .inr ⟨rfl, by simp [sinceInbound, direction]⟩

/-- A patch does not touch the last message of the customer. -/
theorem PatchTicketDto.Builds.lastClient {dto : PatchTicketDto} {byAgentId : Option AgentId}
    {data : TicketData} (builds : dto.Builds byAgentId data) :
    data.lastClientMessageTgId = none := by
  obtain ⟨resolvedAt, closedAt, closedBy, rfl, -⟩ := builds.stamped
  rfl

namespace World

variable {w w' : World}

/-- The messages of a ticket in the order in which they were stored. -/
def conversation (w : World) (id : TicketId) : List Message :=
  (w.messages.rows.filter fun row => row.val.ticketId = id).map Entry.val

theorem conversation_insert {message : Message} (free : w.messages.Free message) (id : TicketId)
    (messages : w'.messages = w.messages.insert message free) :
    w'.conversation id =
      w.conversation id ++ if message.ticketId = id then [message] else [] := by
  by_cases own : message.ticketId = id <;> simp [conversation, messages, own]

theorem mem_of_conversation {id : TicketId} {message : Message}
    (member : message ∈ w.conversation id) :
    ∃ row ∈ w.messages.rows, row.val = message ∧ message.ticketId = id := by
  obtain ⟨row, listed, rfl⟩ := List.mem_map.mp member
  exact ⟨row, (List.mem_filter.mp listed).1, rfl, of_decide_eq_true (List.mem_filter.mp listed).2⟩

/-- What holds of the tickets and messages while customers write and agents reply. -/
structure Conversing (w : World) : Prop where
  linked : ∀ row ∈ w.messages.rows, (w.tickets.find? row.val.ticketId).isSome
  senders : ∀ row ∈ w.messages.rows, row.val.direction = .out →
    row.val.sender = .agent ∨ row.val.sender = .bot
  ids : ∀ row ∈ w.messages.rows, row.val.direction = .in →
    ∃ id, id ≠ 0 ∧ row.val.tgMessageId = some id
  last : ∀ id ticket, w.tickets.find? id = some ticket → ∀ message,
    latestInbound (w.conversation id) = some message →
      ticket.val.lastClientMessageTgId = message.tgMessageId

theorem conversing_of_empty (empty : w.messages.rows = []) : w.Conversing := by
  constructor <;> simp [empty, conversation, latestInbound]

/-- The commands that leave conversations in order: only an outgoing message is confirmed, and
an incoming one has an identifier. -/
def Converses (c : Call) (w : World) : Prop :=
  (∀ id tgMessageId, c = .messageConfirm id tgMessageId → ∀ row,
      w.messages.find? id = some row → row.val.direction = .out) ∧
    ∀ id tgMessageId text attachments,
      c = .recordTransaction id tgMessageId text attachments → tgMessageId ≠ 0

/-- An update that does not name the last message of the customer leaves it. -/
theorem lastClient_update {other id : TicketId} {data : TicketData} {ticket' : Entry Ticket}
    (plain : data.lastClientMessageTgId = none)
    (found : (w.tickets.update other (data.apply w.now) (data.apply_key w.now)).find? id =
      some ticket') :
    ∃ ticket, w.tickets.find? id = some ticket ∧
      ticket'.val.lastClientMessageTgId = ticket.val.lastClientMessageTgId := by
  rw [Table.find?_update] at found
  obtain ⟨ticket, before, rfl⟩ := Option.map_eq_some_iff.mp found
  refine ⟨ticket, before, ?_⟩
  exact Entry.change_same other (data.apply w.now) ticket Ticket.lastClientMessageTgId
    fun value => by simp [TicketData.apply, plain]

namespace Conversing

/-- A change of a ticket that leaves its last message of the customer. -/
theorem updateTicket (conversing : w.Conversing) (id : TicketId) (data : TicketData)
    (plain : data.lastClientMessageTgId = none) :
    Conversing { w with
      tickets := w.tickets.update id (data.apply w.now) (data.apply_key w.now) } :=
  { conversing with
    linked := fun row member => (Table.isSome_find?_update (data.apply_key w.now) _).trans
      (conversing.linked row member)
    last := by
      intro other ticket' found message latest
      obtain ⟨ticket, before, same⟩ := lastClient_update plain found
      exact same.trans (conversing.last other ticket before message latest) }

/-- An outgoing message leaves the last message of the customer. -/
theorem insertOutgoing (conversing : w.Conversing) {message : Message}
    (free : w.messages.Free message) (present : (w.tickets.find? message.ticketId).isSome)
    (out : message.direction = .out) (sender : message.sender = .agent ∨ message.sender = .bot) :
    Conversing { w with messages := w.messages.insert message free } where
  linked := by
    intro row member
    rcases (Table.mem_insert free).mp member with old | rfl
    · exact conversing.linked row old
    · exact present
  senders := by
    intro row member direction
    rcases (Table.mem_insert free).mp member with old | rfl
    · exact conversing.senders row old direction
    · exact sender
  ids := by
    intro row member direction
    rcases (Table.mem_insert free).mp member with old | rfl
    · exact conversing.ids row old direction
    · cases out.symm.trans direction
  last := by
    intro id ticket found inbound latest
    rw [conversation_insert free id rfl] at latest
    split at latest
    · rw [latestInbound_concat, if_neg (by simp [out])] at latest
      exact conversing.last id ticket found inbound latest
    · rw [List.append_nil] at latest
      exact conversing.last id ticket found inbound latest

/-- A confirmation of an outgoing message leaves the messages of the customer. -/
theorem confirm (conversing : w.Conversing) {id : MessageId} {tgMessageId : ℤ}
    {messages : Table Message.key}
    (changed : w.messages.modify? id (confirmed tgMessageId) = some messages)
    (outgoing : ∀ row, w.messages.find? id = some row → row.val.direction = .out) :
    Conversing { w with messages := messages } := by
  have ticketId : ∀ row : Entry Message,
      (row.change id (confirmed tgMessageId)).val.ticketId = row.val.ticketId :=
    fun row => Entry.change_same id _ row Message.ticketId fun _ => rfl
  have direction : ∀ row : Entry Message,
      (row.change id (confirmed tgMessageId)).val.direction = row.val.direction :=
    fun row => Entry.change_same id _ row Message.direction fun _ => rfl
  have inboundSame : ∀ row ∈ w.messages.rows, row.val.direction = .in →
      row.change id (confirmed tgMessageId) = row := by
    refine fun row listed inbound => Entry.change_of_ne _ _ fun own => ?_
    subst own
    cases (outgoing row (Table.find?_self listed)).symm.trans inbound
  constructor
  · intro row member
    obtain ⟨old, listed, rfl⟩ := (Table.mem_modify? changed).mp member
    rw [ticketId]
    exact conversing.linked old listed
  · intro row member out
    obtain ⟨old, listed, rfl⟩ := (Table.mem_modify? changed).mp member
    rw [direction] at out
    rw [Entry.change_same id (confirmed tgMessageId) old Message.sender fun _ => rfl]
    exact conversing.senders old listed out
  · intro row member inbound
    obtain ⟨old, listed, rfl⟩ := (Table.mem_modify? changed).mp member
    rw [direction] at inbound
    rw [inboundSame old listed inbound]
    exact conversing.ids old listed inbound
  · intro other ticket found message latest
    refine conversing.last other ticket found message ?_
    rw [conversation, Table.modify?_rows changed, List.filter_map, List.map_map] at latest
    simp only [Function.comp_def, ticketId] at latest
    refine (latestInbound_congr fun row member => ?_).symm.trans latest
    exact ⟨direction row, fun inbound =>
      congrArg Entry.val (inboundSame row (List.mem_filter.mp member).1 inbound)⟩

/-- A new ticket has no conversation yet. -/
theorem insertTicket (conversing : w.Conversing) (data : NewTicket) :
    Conversing { w with tickets := w.tickets.insert (data.row w.now) Ticket.free } :=
  { conversing with
    linked := fun row member => Table.isSome_find?_insert Ticket.free (conversing.linked row member)
    last := by
      intro id ticket found message latest
      by_cases new : id = w.tickets.next
      · subst new
        have member := List.mem_reverse.mp (List.mem_of_find?_eq_some latest)
        obtain ⟨row, listed, rfl, own⟩ := mem_of_conversation member
        have present := conversing.linked row listed
        rw [own, Table.find?_next] at present
        cases present
      · rw [Table.find?_insert_of_ne Ticket.free new] at found
        exact conversing.last id ticket found message latest }

/-- A recorded message becomes the last one of the customer. -/
theorem record (conversing : w.Conversing) {ticketId : TicketId} {tgMessageId : ℤ}
    {text : Option String} {attachments : List Attachment}
    (present : (w.tickets.find? ticketId).isSome)
    (free : w.messages.Free (w.incoming ticketId tgMessageId text attachments))
    (nonzero : tgMessageId ≠ 0) :
    Conversing { w with
      messages := w.messages.insert (w.incoming ticketId tgMessageId text attachments) free
      tickets := w.tickets.update ticketId
        (TicketData.apply { lastClientMessageTgId := some tgMessageId } w.now)
        (TicketData.apply_key _ w.now) } where
  linked := by
    intro row member
    refine (Table.isSome_find?_update (TicketData.apply_key _ w.now) _).trans ?_
    rcases (Table.mem_insert free).mp member with old | rfl
    · exact conversing.linked row old
    · exact present
  senders := by
    intro row member direction
    rcases (Table.mem_insert free).mp member with old | rfl
    · exact conversing.senders row old direction
    · cases direction
  ids := by
    intro row member direction
    rcases (Table.mem_insert free).mp member with old | rfl
    · exact conversing.ids row old direction
    · exact ⟨tgMessageId, nonzero, rfl⟩
  last := by
    intro id ticket' found message latest
    have ofTicket : (w.incoming ticketId tgMessageId text attachments).ticketId = ticketId := rfl
    rw [conversation_insert free id rfl, ofTicket] at latest
    by_cases own : ticketId = id
    · subst own
      have inbound : (w.incoming ticketId tgMessageId text attachments).direction = .in := rfl
      rw [if_pos rfl, latestInbound_concat, if_pos inbound] at latest
      obtain rfl := Option.some.inj latest
      obtain ⟨ticket, before⟩ := Option.isSome_iff_exists.mp present
      rw [Table.find?_update_self (TicketData.apply_key _ w.now) before] at found
      obtain rfl := Option.some.inj found
      rfl
    · rw [if_neg own, List.append_nil] at latest
      rw [Table.find?_update_of_ne (TicketData.apply_key _ w.now) (Ne.symm own)] at found
      exact conversing.last id ticket' found message latest

/-- Every command of a request keeps the conversations in order. -/
theorem perform {c : Call} {request : Request} (conversing : w.Conversing)
    (performs : request.Performs c) (converses : w.Converses c) :
    (w.perform c).2.Conversing := by
  have step := w.perform_step c
  generalize (w.perform c).2 = w' at step
  cases step
  case ticketCreate data chat customer =>
    exact conversing.insertTicket data
  case patch id data dto byAgentId ticketLabels present relabels =>
    exact { conversing.updateTicket id data performs.builds.lastClient with }
  case assign id agentId byAgentId previousAssigneeId reason present =>
    exact { conversing.updateTicket id _ rfl with }
  case close id closedAt closedById agent =>
    exact conversing.updateTicket id _ rfl
  case record ticketId tgMessageId text attachments present free =>
    exact conversing.record present free (converses.2 _ _ _ _ rfl)
  case acknowledge ticketId text message free present own out pending created bot =>
    exact conversing.insertOutgoing free (own ▸ present) out (.inr bot)
  case reply ticketId agentId text attachments firstResponse message free present own out
      pending created agent =>
    have stored := conversing.insertOutgoing free (own ▸ present) out (.inl agent)
    cases firstResponse with
    | false => exact stored
    | true => exact stored.updateTicket ticketId { firstResponseAt := some w.now } rfl
  case confirm id tgMessageId messages changed =>
    exact conversing.confirm changed (converses.1 id tgMessageId rfl)
  all_goals exact { conversing with }

end Conversing

/-- The newest message of a ticket, when no two of them were stored at the same time. -/
theorem lastMessage_eq {id : TicketId}
    (apart : (w.conversation id).Pairwise fun earlier later =>
      earlier.createdAt < later.createdAt) :
    (w.messages.latest (fun row => row.val.ticketId = id) Message.createdAt).map Entry.val =
      (w.conversation id).getLast? := by
  rw [conversation, List.pairwise_map] at apart
  rw [Table.latest_of_increasing apart, conversation, List.getLast?_map]

/-! ## Replies -/

/-- The reply puts this job into the queue. -/
def Enqueues (w : World) (config : Config) (params : OutgoingReply) (job : OutboundReplyJob) :
    Prop :=
  ((recordOutgoingReply config.publicUrl params).run World.perform w).2.outbound =
    w.outbound ++ [job]

/-- What a reply quotes without a choice: the newest message if it is one of the customer. -/
theorem run_quotedMessage_auto {ticket : Entry Ticket} {newest : Message}
    (last : (w.messages.latest (fun row => row.val.ticketId = ticket.id)
      Message.createdAt).map Entry.val = some newest) :
    (quotedMessage ticket none).run World.perform w =
      (.ok (if newest.direction = .in then newest.tgMessageId else none), w) := by
  obtain ⟨row, latest, rfl⟩ := Option.map_eq_some_iff.mp last
  rw [quotedMessage, run_query_bind (some row) (perform_of_ok (by rw [← latest]; rfl))]
  by_cases inbound : row.val.direction = .in <;> simp [inbound]

theorem quotedMessage_reads (ticket : Entry Ticket) (asReply : Option Bool) :
    ∃ quoted, (quotedMessage ticket asReply).run World.perform w = (.ok quoted, w) := by
  match asReply with
  | some false => exact ⟨_, rfl⟩
  | some true => exact ⟨_, rfl⟩
  | none =>
      rw [quotedMessage, run_query_bind (w.messages.latest (fun row =>
        row.val.ticketId = ticket.id) Message.createdAt) rfl]
      split
      · exact ⟨_, rfl⟩
      · split
        · exact ⟨_, rfl⟩
        · exact ⟨_, rfl⟩

/-- The quote of a job is the one that `quotedMessage` returns, unless that is zero. -/
theorem Enqueues.quoted {config : Config} {params : OutgoingReply} {job : OutboundReplyJob}
    (enqueues : w.Enqueues config params job) :
    ∃ ticket, w.tickets.find? params.ticketId = some ticket ∧ ∃ quoted,
      (quotedMessage ticket params.asReply).run World.perform w = (.ok quoted, w) ∧
        job.replyToTgMessageId = quoted.filter (· ≠ 0) := by
  rw [Enqueues, recordOutgoingReply, run_query_bind (w.ticketWithChat params.ticketId) rfl] at enqueues
  cases found : w.ticketWithChat params.ticketId with
  | none => simp [found] at enqueues
  | some found' =>
      obtain ⟨ticket, chat⟩ := found'
      obtain ⟨ticket', present, withChat⟩ := Option.bind_eq_some_iff.mp found
      obtain ⟨chat', -, same⟩ := Option.map_eq_some_iff.mp withChat
      cases same
      obtain ⟨quoted, reads⟩ := w.quotedMessage_reads ticket params.asReply
      refine ⟨ticket, present, quoted, reads, ?_⟩
      simp only [found, Program.run_bind, reads] at enqueues
      cases stored : w.effect (.replyTransaction ticket.id params.agentId params.text
          ((params.attachments.getD []).map fun fileId => ⟨"file", fileId⟩)
          ticket.val.firstResponseAt.isNone) with
      | error e =>
          simp only [Program.run_perform, perform_of_error stored] at enqueues
          simp at enqueues
      | ok outcome =>
          simp only [Program.run_perform, perform_of_ok stored] at enqueues
          obtain ⟨created, w'⟩ := outcome
          obtain ⟨-, message, free, -, -, -, -, -, -, rfl⟩ := replyTransaction_eq_ok stored
          -- the rest puts one job into the queue, and the event leaves it there
          have queued : w.outbound ++ [_] = w.outbound ++ [job] := enqueues
          cases List.append_cancel_left queued
          rfl

end World

/-- **When a reply quotes the right message.** In every state that requests reach from a store
without messages, a reply of an agent quotes what it was asked to quote: nothing, or the
latest message of the customer. Without a choice, it quotes the latest message of the
customer exactly when no agent has replied to it since, if and only if the bot has not written
since, or an agent has. -/
theorem reply_quotes_iff (config : Config) (requests : List Request)
    (numbered : ∀ message, .ingest message ∈ requests → message.tgMessageId ≠ 0) (w : World)
    (noMessages : w.messages.rows = []) (noJobs : w.outbound = []) (schedule : List (Act ℕ))
    (queued : ∀ job, .outbound job ∈ requests →
      job ∈ (w.after config requests schedule).outbound) (params : OutgoingReply)
    (job : OutboundReplyJob)
    (enqueues : (w.after config requests schedule).Enqueues config params job)
    (inbound : Message)
    (latest : latestInbound ((w.after config requests schedule).conversation params.ticketId) =
      some inbound)
    (apart : params.asReply = none →
      ((w.after config requests schedule).conversation params.ticketId).Pairwise
        fun earlier later => earlier.createdAt < later.createdAt) :
    job.replyToTgMessageId = quote params.asReply
        ((w.after config requests schedule).conversation params.ticketId) inbound ↔
      (params.asReply = none →
        acknowledged ((w.after config requests schedule).conversation params.ticketId) = true →
          answered ((w.after config requests schedule).conversation params.ticketId) = true) := by
  have conversing : (w.after config requests schedule).Conversing := by
    have empty : (Requests.start config requests w).state.Conversing :=
      World.conversing_of_empty noMessages
    refine Pool.invariant_exec (I := World.Conversing) ?_ ?_
      (meets_confirmsOutgoing config requests w noJobs schedule queued) empty
    case refine_2 => exact fun milliseconds w _ holds => { holds with }
    rintro i c w ⟨⟨request, listed, performs⟩, outgoing⟩ holds
    refine holds.perform performs ⟨outgoing, ?_⟩
    rintro id tgMessageId text attachments rfl
    cases performs.writes rfl (by rintro _ ⟨⟩)
    exact numbered _ listed
  generalize w.after config requests schedule = w' at conversing enqueues latest apart ⊢
  obtain ⟨ticket, found, quoted, reads, given⟩ := enqueues.quoted
  obtain ⟨row, listed, rfl, own⟩ :=
    World.mem_of_conversation (List.mem_reverse.mp (List.mem_of_find?_eq_some latest))
  obtain ⟨id, positive, numbered⟩ :=
    conversing.ids row listed (direction_of_latestInbound latest)
  have last := conversing.last params.ticketId ticket found row.val latest
  rw [given]
  match choice : params.asReply with
  | some false =>
      rw [choice] at reads
      cases reads
      simp [quote]
  | some true =>
      rw [choice] at reads
      cases reads
      simp [quote, last, numbered, positive]
  | none =>
      rw [choice] at reads
      have nonempty : w'.conversation params.ticketId ≠ [] := by
        intro empty
        rw [empty] at latest
        cases latest
      have newestLast := List.getLast?_eq_some_getLast nonempty
      generalize (w'.conversation params.ticketId).getLast nonempty = newest at newestLast
      have ofTicket := Table.id_of_find? found
      rw [← ofTicket] at apart newestLast latest ⊢
      rw [World.run_quotedMessage_auto ((World.lastMessage_eq (apart choice)).trans newestLast)]
        at reads
      cases reads
      rcases newest_or_since newestLast latest with ⟨direction, rfl, none⟩ | ⟨direction, since⟩
      · simp [quote, answered, acknowledged, direction, none, numbered, positive]
      · obtain ⟨row', listed', rfl, -⟩ :=
          World.mem_of_conversation (List.mem_of_getLast? newestLast)
        rcases conversing.senders row' listed' direction with agent | bot
        · have replied : answered (w'.conversation ticket.id) = true :=
            List.any_eq_true.mpr ⟨row'.val, since, decide_eq_true agent⟩
          simp [quote, replied, direction]
        · have wrote : acknowledged (w'.conversation ticket.id) = true :=
            List.any_eq_true.mpr ⟨row'.val, since, decide_eq_true bot⟩
          cases replied : answered (w'.conversation ticket.id) <;>
            simp [quote, replied, wrote, direction, numbered]

/-! A customer writes twice, and an agent replies without a choice. -/

namespace Chosen

def greetings : List Request := [.ingest (greeting 7), .ingest (greeting 8)]

/-- The first message, and the acknowledgement a little later. -/
def once : List (Act ℕ) := alone 12 ++ [.env 5] ++ alone 8

/-- The second message a second later. -/
def twice : List (Act ℕ) := once ++ [.env 1000] ++ List.replicate 12 (.turn 1)

def reply : OutgoingReply where
  ticketId := 0
  agentId := 0
  text := "Вітаю"
  attachments := none
  asReply := none

/-- The job for the reply. -/
def job (messageId : MessageId) (replyToTgMessageId : Option ℤ) : OutboundReplyJob where
  ticketId := 0
  messageId := messageId
  telegramChatId := -5
  text := "Вітаю"
  replyToTgMessageId := replyToTgMessageId
  attachments := none

/-- The latest message of the customer in the ticket. -/
def inbound (w : World) : Option ℤ := (latestInbound (w.conversation 0)).bind Message.tgMessageId

end Chosen

/-- The first reply to the first message quotes nothing. -/
theorem first_reply_quotes_nothing :
    (World.seeded.after .default Chosen.greetings Chosen.once).Enqueues .default Chosen.reply
        (Chosen.job 2 none) ∧
      Chosen.inbound (World.seeded.after .default Chosen.greetings Chosen.once) = some 7 ∧
      ((World.seeded.after .default Chosen.greetings Chosen.once).conversation 0).map
        (fun message => (message.sender, message.createdAt)) = [(.customer, 0), (.bot, 5)] ∧
      answered ((World.seeded.after .default Chosen.greetings Chosen.once).conversation 0) = false :=
  ⟨by rfl, by decide, by decide, by decide⟩

theorem second_message_is_quoted :
    (Chosen.job 3 (some 8)).replyToTgMessageId = quote none
      ((World.seeded.after .default Chosen.greetings Chosen.twice).conversation 0)
      ⟨0, .in, .customer, none, some 8, some "hello", [⟨"photo", "file-1"⟩], 1005⟩ :=
  (reply_quotes_iff .default Chosen.greetings (by simp [Chosen.greetings, greeting]) World.seeded rfl
    rfl Chosen.twice (by simp [Chosen.greetings]) Chosen.reply (Chosen.job 3 (some 8)) (by rfl) _
    (by rfl) (fun _ => by decide)).mpr fun _ => by decide

end SupportCrm
