import Mathlib.Data.List.Dedup
import SupportCrm.Library.Program
import SupportCrm.Schema

/-!
# The store and its commands

`World` is everything the services share: the clock, the tables, the outbound queue, the
events emitted so far, and what Telegram was asked to send. `Call` lists the commands with
which they touch it: every awaited Prisma call or transaction is one command, and so are
reading the clock, emitting an event, adding a job and one call of the Bot API.

A command either takes effect as a whole or returns an error and leaves the world as it
was: `World.effect` gives its result, `World.perform` rolls a failed one back. A service is
a program over these commands (`App`).
-/

set_option autoImplicit false

namespace SupportCrm

open KeyedTable AtomicProgram

/-! ## The world -/

/-- One call of `sendMessage`, `sendPhoto` or `sendDocument`. -/
inductive TelegramMethod where
  | sendMessage (text : String)
  | sendPhoto (url : String) (caption : Option String)
  | sendDocument (url : String) (caption : Option String)
  deriving DecidableEq, Repr

/-- A message that Telegram accepted: what was asked of it for which part of a reply, and
the identifier it returned. -/
structure SentMessage where
  chatId : ℤ
  method : TelegramMethod
  replyParameters : Option ℤ
  part : ℕ
  messageId : ℤ
  deriving DecidableEq, Repr

/-- The shared state. `telegramIds` are the identifiers Telegram will give to the messages
it accepts, one after another. -/
structure World where
  now : Time
  agents : Table Agent.key
  teams : Table AgentTeam.key
  teamMembers : Table TeamMember.key
  chats : Table Chat.key
  customers : Table Customer.key
  excludedSenders : Table ExcludedSender.key
  tickets : Table Ticket.key
  messages : Table Message.key
  labels : Table Label.key
  ticketLabels : Table TicketLabel.key
  ticketEvents : Table TicketEvent.key
  outbound : List OutboundReplyJob
  emitted : List DomainEvent
  sent : List SentMessage
  telegramIds : ℕ → ℤ

/-- What a command can fail with: the Prisma errors P2002, P2003 and P2025, arguments that
Prisma refuses, the exceptions of the services, and a database or network that is not
there. -/
inductive Err where
  | uniqueConstraint
  | foreignKeyConstraint
  | recordNotFound
  | validation
  | notFound (message : String)
  | badRequest (message : String)
  | unavailable
  deriving DecidableEq, Repr

/-- The tables before anything is stored, at a given time. -/
def World.initial (now : Time) (telegramIds : ℕ → ℤ) : World where
  now := now
  agents := .empty
  teams := .empty
  teamMembers := .empty
  chats := .empty
  customers := .empty
  excludedSenders := .empty
  tickets := .empty
  messages := .empty
  labels := .empty
  ticketLabels := .empty
  ticketEvents := .empty
  outbound := []
  emitted := []
  sent := []
  telegramIds := telegramIds

/-! ## Queries -/

/-- A ticket as `TICKET_INCLUDE` returns it. -/
structure TicketView where
  ticket : Entry Ticket
  chat : Option (Entry Chat)
  customer : Option (Entry Customer)
  assignee : Option (Entry Agent)
  team : Option (Entry AgentTeam)
  labels : List (Entry TicketLabel × Option (Entry Label))
  deriving DecidableEq, Repr

structure TicketAnchorLookup where
  ticketId : TicketId
  status : TicketStatus
  deriving DecidableEq, Repr

structure ActiveTicketForCustomer where
  ticketId : TicketId
  status : TicketStatus
  lastActivityAt : Time
  deriving DecidableEq, Repr

namespace World

def ticketView (w : World) (ticket : Entry Ticket) : TicketView where
  ticket := ticket
  chat := w.chats.find? ticket.val.chatId
  customer := w.customers.find? ticket.val.customerId
  assignee := ticket.val.assigneeId.bind w.agents.find?
  team := ticket.val.teamId.bind w.teams.find?
  labels := (w.ticketLabels.rows.filter fun row => row.val.ticketId = ticket.id).map
    fun row => (row, w.labels.find? row.val.labelId)

/-- `include: { chat: true }`. -/
def ticketWithChat (w : World) (id : TicketId) : Option (Entry Ticket × Entry Chat) :=
  (w.tickets.find? id).bind fun ticket =>
    (w.chats.find? ticket.val.chatId).map fun chat => (ticket, chat)

/-- `include: { customer: true }`. -/
def ticketWithCustomer (w : World) (id : TicketId) : Option (Entry Ticket × Entry Customer) :=
  (w.tickets.find? id).bind fun ticket =>
    (w.customers.find? ticket.val.customerId).map fun customer => (ticket, customer)

/-- `ticket: { chatId }` in a message query. -/
def inChat (w : World) (chatId : ChatId) (ticketId : TicketId) : Bool :=
  (w.tickets.find? ticketId).any fun ticket => ticket.val.chatId = chatId

/-- The ticket of the newest message with this Telegram id in the chat. -/
def findTicketByAnchorMessage (w : World) (chatId : ChatId) (tgMessageId : ℤ) :
    Option TicketAnchorLookup :=
  (w.messages.latest
    (fun row => row.val.tgMessageId = some tgMessageId && w.inChat chatId row.val.ticketId)
    Message.createdAt).bind fun message =>
      (w.tickets.find? message.val.ticketId).map fun ticket =>
        { ticketId := ticket.id, status := ticket.val.status }

/-- `status: { notIn: ['closed', 'archived'] }` for this customer and chat. -/
def activeTicket (chatId : ChatId) (customerId : CustomerId) (row : Entry Ticket) : Bool :=
  row.val.chatId = chatId && row.val.customerId = customerId && !row.val.status.terminal

def findMostRecentActiveTicket (w : World) (chatId : ChatId) (customerId : CustomerId) :
    Option ActiveTicketForCustomer :=
  (w.tickets.latest (activeTicket chatId customerId) Ticket.updatedAt).map fun ticket =>
    { ticketId := ticket.id, status := ticket.val.status, lastActivityAt := ticket.val.updatedAt }

/-- An active record that has the user name and no identifier yet. -/
def excludedByUsername (w : World) (username : String) : Option (Entry ExcludedSender) :=
  w.excludedSenders.rows.find? fun row => row.val.telegramUsername = some username &&
    row.val.telegramUserId.isNone && row.val.isActive

/-- The active members of a team. -/
def activeMembers (w : World) (teamId : TeamId) : List AgentId :=
  (w.teamMembers.rows.filter fun row =>
    row.val.teamId = teamId && (w.agents.find? row.val.agentId).any (·.val.isActive)).map
      fun row => row.val.agentId

/-- `ticket.groupBy({ by: ['assigneeId'] })` over the tickets of the given agents: each
agent that occurs, with its tickets. -/
def groupByAssignee (w : World) (memberIds : List AgentId) (p : Ticket → Bool) :
    List (AgentId × List Ticket) :=
  let tickets := (w.tickets.rows.map Entry.val).filter fun ticket =>
    ticket.assigneeId.any (· ∈ memberIds) && p ticket
  (tickets.filterMap Ticket.assigneeId).dedup.map fun agentId =>
    (agentId, tickets.filter fun ticket => ticket.assigneeId = some agentId)

/-- The number of tickets of each agent that are not solved, closed or archived. -/
def openCounts (w : World) (memberIds : List AgentId) : List (AgentId × ℕ) :=
  (w.groupByAssignee memberIds fun ticket =>
    ticket.status ∉ [.solved, .closed, .archived]).map fun group => (group.1, group.2.length)

/-- The creation of the latest ticket of each agent. -/
def lastAssigned (w : World) (memberIds : List AgentId) : List (AgentId × Option Time) :=
  (w.groupByAssignee memberIds fun _ => true).map fun group =>
    (group.1, (group.2.map Ticket.createdAt).max?)

end World

/-! ## Writing tickets -/

/-- The fields of a ticket update; what is absent stays as it is. -/
structure TicketData where
  status : Option TicketStatus := none
  priority : Option TicketPriority := none
  assignee : Option (Option AgentId) := none
  team : Option (Option TeamId) := none
  lastClientMessageTgId : Option ℤ := none
  jiraKey : Option (Option String) := none
  firstResponseAt : Option Time := none
  resolvedAt : Option Time := none
  snoozeUntil : Option (Option Time) := none
  closedAt : Option Time := none
  closedBy : Option AgentId := none
  deriving DecidableEq, Repr

/-- An update of a ticket row at a time; `@updatedAt` is part of every one. -/
def TicketData.apply (data : TicketData) (now : Time) (ticket : Ticket) : Ticket :=
  { ticket with
    status := data.status.getD ticket.status
    priority := data.priority.getD ticket.priority
    assigneeId := data.assignee.getD ticket.assigneeId
    teamId := data.team.getD ticket.teamId
    lastClientMessageTgId := data.lastClientMessageTgId.or ticket.lastClientMessageTgId
    jiraKey := data.jiraKey.getD ticket.jiraKey
    firstResponseAt := data.firstResponseAt.or ticket.firstResponseAt
    resolvedAt := data.resolvedAt.or ticket.resolvedAt
    snoozeUntil := data.snoozeUntil.getD ticket.snoozeUntil
    closedAt := data.closedAt.or ticket.closedAt
    closedById := data.closedBy.or ticket.closedById
    updatedAt := now }

theorem TicketData.apply_key (data : TicketData) (now : Time) (ticket : Ticket) :
    (data.apply now ticket).key = ticket.key := rfl

/-- The data of a new ticket. -/
structure NewTicket where
  chatId : ChatId
  customerId : CustomerId
  anchorMessageTgId : ℤ
  priority : Option TicketPriority
  teamId : Option TeamId
  assigneeId : Option AgentId
  deriving DecidableEq, Repr

def NewTicket.row (data : NewTicket) (now : Time) : Ticket where
  chatId := data.chatId
  customerId := data.customerId
  anchorMessageTgId := data.anchorMessageTgId
  lastClientMessageTgId := some data.anchorMessageTgId
  priority := data.priority.getD .normal
  teamId := data.teamId
  assigneeId := data.assigneeId
  createdAt := now
  updatedAt := now

namespace World

/-- The related rows of an optional reference exist. -/
def hasAgent (w : World) (agentId : Option AgentId) : Bool :=
  agentId.all fun id => (w.agents.find? id).isSome

def hasTeam (w : World) (teamId : Option TeamId) : Bool :=
  teamId.all fun id => (w.teams.find? id).isSome

def ticketCreate (w : World) (data : NewTicket) : Except Err (TicketView × World) :=
  if (w.chats.find? data.chatId).isSome && (w.customers.find? data.customerId).isSome &&
      w.hasTeam data.teamId && w.hasAgent data.assigneeId then
    let row := data.row w.now
    .ok (w.ticketView ⟨w.tickets.next, row⟩,
      { w with tickets := w.tickets.insert row Ticket.free })
  else .error .foreignKeyConstraint

/-- `ticket.update`. A missing related row is P2025 where the code connects it and P2003
where it sets the column. -/
def ticketUpdate (w : World) (missing : Err) (id : TicketId) (data : TicketData) :
    Except Err World :=
  if (w.tickets.find? id).isNone then .error .recordNotFound
  else if w.hasAgent data.assignee.join && w.hasTeam data.team.join && w.hasAgent data.closedBy then
    .ok { w with tickets := w.tickets.update id (data.apply w.now) (data.apply_key w.now) }
  else .error missing

/-- The table with the labels of a ticket added, if all of them are new. -/
def insertLabels (ticketLabels : Table TicketLabel.key) (id : TicketId) (labels : List LabelId) :
    Option (Table TicketLabel.key) :=
  labels.foldlM (fun table labelId => table.insert? ⟨id, labelId⟩) ticketLabels

/-- `ticketLabel.createMany`. The keys of all rows are checked before what the rows refer to. -/
def labelsCreate (w : World) (id : TicketId) (labels : List LabelId) : Except Err World :=
  match insertLabels w.ticketLabels id labels with
  | none => .error .uniqueConstraint
  | some ticketLabels =>
      if labels.all fun labelId =>
          (w.labels.find? labelId).isSome && (w.tickets.find? id).isSome then
        .ok { w with ticketLabels := ticketLabels }
      else .error .foreignKeyConstraint

/-- `ticketLabel.deleteMany` for one ticket. -/
def labelsDelete (w : World) (id : TicketId) : World :=
  { w with
    ticketLabels := (w.ticketLabels.rows.filter fun row => row.val.ticketId = id).foldl
      (fun table row => table.delete row.id) w.ticketLabels }

def ticketEventCreate (w : World) (id : TicketId) (agentId : Option AgentId)
    (payload : TicketEventPayload) : Except Err World :=
  if (w.tickets.find? id).isSome && w.hasAgent agentId then
    .ok { w with
      ticketEvents := w.ticketEvents.insert ⟨id, agentId, payload, w.now⟩ TicketEvent.free }
  else .error .foreignKeyConstraint

/-- What `include: TICKET_INCLUDE` returns for a ticket that was just written. -/
def viewOf (w : World) (id : TicketId) : Except Err TicketView :=
  match w.tickets.find? id with
  | none => .error .recordNotFound
  | some ticket => .ok (w.ticketView ticket)

/-- Replace the labels of a ticket, where the request names any. -/
def labelsReplace (w : World) (id : TicketId) : Option (List LabelId) → Except Err World
  | none => .ok w
  | some labels => (w.labelsDelete id).labelsCreate id labels

/-- The transaction of `patch`. -/
def patchTransaction (w : World) (id : TicketId) (data : TicketData) (dto : PatchTicketDto)
    (byAgentId : Option AgentId) : Except Err (TicketView × World) := do
  let w ← w.ticketUpdate .recordNotFound id data
  let updated ← w.viewOf id
  let w ← w.labelsReplace id dto.labels
  let w ← w.ticketEventCreate id byAgentId (.updated dto)
  return (updated, w)

/-- The transaction of `assign`; an `undefined` agent leaves the column as it is. -/
def assignTransaction (w : World) (id : TicketId) (agentId : Option (Option AgentId))
    (byAgentId : AgentId) (previousAssigneeId : Option AgentId) (reason : Option String) :
    Except Err (TicketView × World) := do
  let w ← w.ticketUpdate .foreignKeyConstraint id { assignee := agentId }
  let result ← w.viewOf id
  let w ← w.ticketEventCreate id (some byAgentId) (.assigned agentId previousAssigneeId reason)
  return (result, w)

/-! ## Writing messages -/

/-- `message.create`. -/
def messageCreate (w : World) (message : Message) : Except Err (Entry Message × World) :=
  if free : w.messages.Free message then
    if (w.tickets.find? message.ticketId).isSome && w.hasAgent message.agentId then
      .ok (⟨w.messages.next, message⟩, { w with messages := w.messages.insert message free })
    else .error .foreignKeyConstraint
  else .error .uniqueConstraint

/-- The transaction of `recordIncoming`. -/
def recordTransaction (w : World) (ticketId : TicketId) (tgMessageId : ℤ)
    (text : Option String) (attachments : List Attachment) :
    Except Err (Entry Message × World) := do
  let (created, w) ← w.messageCreate
    { ticketId := ticketId, direction := .in, sender := .customer, tgMessageId := some tgMessageId,
      text := text, attachments := attachments, createdAt := w.now }
  let w ← w.ticketUpdate .recordNotFound ticketId { lastClientMessageTgId := some tgMessageId }
  return (created, w)

/-- Note the time of the first response, where the ticket had none. -/
def firstResponse (w : World) (ticketId : TicketId) : Bool → Except Err World
  | false => .ok w
  | true => w.ticketUpdate .recordNotFound ticketId { firstResponseAt := some w.now }

/-- The transaction of `recordOutgoingReply`. -/
def replyTransaction (w : World) (ticketId : TicketId) (agentId : AgentId) (text : String)
    (attachments : List Attachment) (firstResponse : Bool) :
    Except Err (Entry Message × World) := do
  let (created, w) ← w.messageCreate
    { ticketId := ticketId, direction := .out, sender := .agent, agentId := some agentId,
      tgMessageId := none, text := some text, attachments := attachments, createdAt := w.now }
  let w ← w.firstResponse ticketId firstResponse
  return (created, w)

/-- A message with the identifier Telegram gave it. -/
def confirmed (tgMessageId : ℤ) (message : Message) : Message :=
  { message with tgMessageId := some tgMessageId }

/-- `message.update({ data: { tgMessageId } })`. -/
def messageConfirm (w : World) (id : MessageId) (tgMessageId : ℤ) : Except Err World :=
  if (w.messages.find? id).isNone then .error .recordNotFound
  else
    match w.messages.modify? id (confirmed tgMessageId) with
    | none => .error .uniqueConstraint
    | some messages => .ok { w with messages := messages }

/-! ## Writing the other tables -/

def chatCreate (w : World) (telegramChatId : ℤ) (title : String) :
    Except Err (Entry Chat × World) :=
  let chat : Chat := { telegramChatId := telegramChatId, title := title }
  if free : w.chats.Free chat then
    .ok (⟨w.chats.next, chat⟩, { w with chats := w.chats.insert chat free })
  else .error .uniqueConstraint

def customerCreate (w : World) (telegramUserId : ℤ) (username : Option String)
    (displayName : String) : Except Err (Entry Customer × World) :=
  let customer : Customer := ⟨telegramUserId, username, some displayName⟩
  if free : w.customers.Free customer then
    .ok (⟨w.customers.next, customer⟩, { w with customers := w.customers.insert customer free })
  else .error .uniqueConstraint

/-- The profile as `customer.update` leaves it: an `undefined` user name is no change. -/
def profile (username : Option String) (displayName : String) (customer : Customer) : Customer :=
  { customer with
    username := username.or customer.username
    displayName := some displayName }

theorem profile_key (username : Option String) (displayName : String) (customer : Customer) :
    (profile username displayName customer).key = customer.key := rfl

def customerUpdate (w : World) (id : CustomerId) (username : Option String)
    (displayName : String) : Except Err (Entry Customer × World) :=
  match w.customers.find? id with
  | none => .error .recordNotFound
  | some row =>
      .ok (row.change id (profile username displayName),
        { w with
          customers := w.customers.update id (profile username displayName)
            (profile_key username displayName) })

def excludedCreate (w : World) (sender : ExcludedSender) :
    Except Err (Entry ExcludedSender × World) :=
  if free : w.excludedSenders.Free sender then
    if w.hasAgent sender.addedByAgentId then
      .ok (⟨w.excludedSenders.next, sender⟩,
        { w with excludedSenders := w.excludedSenders.insert sender free })
    else .error .foreignKeyConstraint
  else .error .uniqueConstraint

/-- A record with the identifier of its sender. -/
def bound (telegramUserId : ℤ) (sender : ExcludedSender) : ExcludedSender :=
  { sender with telegramUserId := some telegramUserId }

/-- `excludedSender.update` with the identifier of the sender. -/
def excludedBind (w : World) (id : ExcludedSenderId) (telegramUserId : ℤ) : Except Err World :=
  if (w.excludedSenders.find? id).isNone then .error .recordNotFound
  else
    match w.excludedSenders.modify? id (bound telegramUserId) with
    | none => .error .uniqueConstraint
    | some excludedSenders => .ok { w with excludedSenders := excludedSenders }

/-- `excludedSender.update` with the fields of an edit. -/
def excludedEdit (name note : Option String) (isActive : Option Bool) (sender : ExcludedSender) :
    ExcludedSender :=
  { sender with
    name := name.or sender.name
    note := note.or sender.note
    isActive := isActive.getD sender.isActive }

theorem excludedEdit_key (name note : Option String) (isActive : Option Bool)
    (sender : ExcludedSender) : (excludedEdit name note isActive sender).key = sender.key := rfl

def excludedUpdate (w : World) (id : ExcludedSenderId) (name note : Option String)
    (isActive : Option Bool) : Except Err World :=
  if (w.excludedSenders.find? id).isNone then .error .recordNotFound
  else
    .ok { w with
      excludedSenders := w.excludedSenders.update id (excludedEdit name note isActive)
        (excludedEdit_key name note isActive) }

def excludedDelete (w : World) (id : ExcludedSenderId) : Except Err World :=
  if (w.excludedSenders.find? id).isNone then .error .recordNotFound
  else .ok { w with excludedSenders := w.excludedSenders.delete id }

/-- `excludedSender.upsert` by the identifier of the sender: reactivate or create. -/
def excludedUpsert (w : World) (telegramUserId : ℤ) (create : ExcludedSender) :
    Except Err (Entry ExcludedSender × World) :=
  match w.excludedSenders.findKey? telegramUserId with
  | some row =>
      .ok (row.change row.id (excludedEdit none none (some true)),
        { w with
          excludedSenders := w.excludedSenders.update row.id
            (excludedEdit none none (some true)) (excludedEdit_key none none (some true)) })
  | none => w.excludedCreate create

/-- The activity an agent update sets. -/
def activity (isActive : Option Bool) (agent : Agent) : Agent :=
  { agent with isActive := isActive.getD agent.isActive }

theorem activity_key (isActive : Option Bool) (agent : Agent) :
    (activity isActive agent).key = agent.key := rfl

def agentUpdate (w : World) (id : AgentId) (isActive : Option Bool) : Except Err World :=
  if (w.agents.find? id).isNone then .error .recordNotFound
  else
    .ok { w with agents := w.agents.update id (activity isActive) (activity_key isActive) }

/-- Telegram accepts a message and returns its identifier. -/
def send (w : World) (chatId : ℤ) (method : TelegramMethod) (replyParameters : Option ℤ)
    (part : ℕ) : ℤ × World :=
  let messageId := w.telegramIds w.sent.length
  (messageId, { w with sent := w.sent ++ [⟨chatId, method, replyParameters, part, messageId⟩] })

end World

/-! ## Commands -/

/-- The commands, one for each place where a service touches the world. -/
inductive Call where
  | newDate
  | agentByTelegramUserId (telegramUserId : ℤ)
  | agentUpdate (id : AgentId) (isActive : Option Bool)
  | excludedByTelegramUserId (telegramUserId : ℤ)
  | excludedByUsername (username : String)
  | excludedBind (id : ExcludedSenderId) (telegramUserId : ℤ)
  | excludedById (id : ExcludedSenderId)
  | excludedCreate (sender : ExcludedSender)
  | excludedUpdate (id : ExcludedSenderId) (name note : Option String) (isActive : Option Bool)
  | excludedDelete (id : ExcludedSenderId)
  | excludedUpsert (telegramUserId : ℤ) (create : ExcludedSender)
  | chatByTelegramChatId (telegramChatId : ℤ)
  | chatCreate (telegramChatId : ℤ) (title : String)
  | customerByTelegramUserId (telegramUserId : ℤ)
  | customerCreate (telegramUserId : ℤ) (username : Option String) (displayName : String)
  | customerUpdate (id : CustomerId) (username : Option String) (displayName : String)
  | activeMembers (teamId : TeamId)
  | openCounts (memberIds : List AgentId)
  | lastAssigned (memberIds : List AgentId)
  | findTicketByAnchorMessage (chatId : ChatId) (tgMessageId : ℤ)
  | findMostRecentActiveTicket (chatId : ChatId) (customerId : CustomerId)
  | ticketCreate (data : NewTicket)
  | ticketById (id : TicketId)
  | ticketWithChat (id : TicketId)
  | ticketWithCustomer (id : TicketId)
  | patchTransaction (id : TicketId) (data : TicketData) (dto : PatchTicketDto)
      (byAgentId : Option AgentId)
  | assignTransaction (id : TicketId) (agentId : Option (Option AgentId)) (byAgentId : AgentId)
      (previousAssigneeId : Option AgentId) (reason : Option String)
  | closeTicket (id : TicketId) (closedAt : Time) (closedById : AgentId)
  | recordTransaction (ticketId : TicketId) (tgMessageId : ℤ) (text : Option String)
      (attachments : List Attachment)
  | messageByTgMessageId (tgMessageId : ℤ) (ticketId : TicketId)
  | acknowledgementCreate (ticketId : TicketId) (text : String)
  | lastMessage (ticketId : TicketId)
  | replyTransaction (ticketId : TicketId) (agentId : AgentId) (text : String)
      (attachments : List Attachment) (firstResponse : Bool)
  | messageConfirm (id : MessageId) (tgMessageId : ℤ)
  | enqueueReply (job : OutboundReplyJob)
  | emit (event : DomainEvent)
  | telegram (chatId : ℤ) (method : TelegramMethod) (replyParameters : Option ℤ) (part : ℕ)
  deriving DecidableEq

/-- The answer to a command. -/
abbrev Call.Resp : Call → Type
  | .newDate => Time
  | .agentByTelegramUserId _ => Option (Entry Agent)
  | .agentUpdate _ _ => Unit
  | .excludedByTelegramUserId _ => Option (Entry ExcludedSender)
  | .excludedByUsername _ => Option (Entry ExcludedSender)
  | .excludedBind _ _ => Unit
  | .excludedById _ => Option (Entry ExcludedSender)
  | .excludedCreate _ => Entry ExcludedSender
  | .excludedUpdate _ _ _ _ => Unit
  | .excludedDelete _ => Unit
  | .excludedUpsert _ _ => Entry ExcludedSender
  | .chatByTelegramChatId _ => Option (Entry Chat)
  | .chatCreate _ _ => Entry Chat
  | .customerByTelegramUserId _ => Option (Entry Customer)
  | .customerCreate _ _ _ => Entry Customer
  | .customerUpdate _ _ _ => Entry Customer
  | .activeMembers _ => List AgentId
  | .openCounts _ => List (AgentId × ℕ)
  | .lastAssigned _ => List (AgentId × Option Time)
  | .findTicketByAnchorMessage _ _ => Option TicketAnchorLookup
  | .findMostRecentActiveTicket _ _ => Option ActiveTicketForCustomer
  | .ticketCreate _ => TicketView
  | .ticketById _ => Option TicketView
  | .ticketWithChat _ => Option (Entry Ticket × Entry Chat)
  | .ticketWithCustomer _ => Option (Entry Ticket × Entry Customer)
  | .patchTransaction _ _ _ _ => TicketView
  | .assignTransaction _ _ _ _ _ => TicketView
  | .closeTicket _ _ _ => Unit
  | .recordTransaction _ _ _ _ => Entry Message
  | .messageByTgMessageId _ _ => Option (Entry Message)
  | .acknowledgementCreate _ _ => Entry Message
  | .lastMessage _ => Option (Entry Message)
  | .replyTransaction _ _ _ _ _ => Entry Message
  | .messageConfirm _ _ => Unit
  | .enqueueReply _ => Unit
  | .emit _ => Unit
  | .telegram _ _ _ _ => ℤ

/-- What a command does: its answer and the world after, or an error. -/
def World.effect (w : World) : (c : Call) → Except Err (c.Resp × World)
  | .newDate => .ok (w.now, w)
  | .agentByTelegramUserId telegramUserId => .ok (w.agents.findKey? telegramUserId, w)
  | .agentUpdate id isActive => (w.agentUpdate id isActive).map ((), ·)
  | .excludedByTelegramUserId telegramUserId =>
      .ok (w.excludedSenders.findKey? telegramUserId, w)
  | .excludedByUsername username =>
      .ok (w.excludedByUsername username, w)
  | .excludedBind id telegramUserId => (w.excludedBind id telegramUserId).map ((), ·)
  | .excludedById id => .ok (w.excludedSenders.find? id, w)
  | .excludedCreate sender => w.excludedCreate sender
  | .excludedUpdate id name note isActive =>
      (w.excludedUpdate id name note isActive).map ((), ·)
  | .excludedDelete id => (w.excludedDelete id).map ((), ·)
  | .excludedUpsert telegramUserId create => w.excludedUpsert telegramUserId create
  | .chatByTelegramChatId telegramChatId => .ok (w.chats.findKey? telegramChatId, w)
  | .chatCreate telegramChatId title => w.chatCreate telegramChatId title
  | .customerByTelegramUserId telegramUserId => .ok (w.customers.findKey? telegramUserId, w)
  | .customerCreate telegramUserId username displayName =>
      w.customerCreate telegramUserId username displayName
  | .customerUpdate id username displayName => w.customerUpdate id username displayName
  | .activeMembers teamId => .ok (w.activeMembers teamId, w)
  | .openCounts memberIds => .ok (w.openCounts memberIds, w)
  | .lastAssigned memberIds => .ok (w.lastAssigned memberIds, w)
  | .findTicketByAnchorMessage chatId tgMessageId =>
      .ok (w.findTicketByAnchorMessage chatId tgMessageId, w)
  | .findMostRecentActiveTicket chatId customerId =>
      .ok (w.findMostRecentActiveTicket chatId customerId, w)
  | .ticketCreate data => w.ticketCreate data
  | .ticketById id => .ok ((w.tickets.find? id).map w.ticketView, w)
  | .ticketWithChat id => .ok (w.ticketWithChat id, w)
  | .ticketWithCustomer id => .ok (w.ticketWithCustomer id, w)
  | .patchTransaction id data dto byAgentId => w.patchTransaction id data dto byAgentId
  | .assignTransaction id agentId byAgentId previousAssigneeId reason =>
      w.assignTransaction id agentId byAgentId previousAssigneeId reason
  | .closeTicket id closedAt closedById =>
      (w.ticketUpdate .foreignKeyConstraint id
        { status := some .closed, closedAt := some closedAt, closedBy := some closedById }).map
          ((), ·)
  | .recordTransaction ticketId tgMessageId text attachments =>
      w.recordTransaction ticketId tgMessageId text attachments
  | .messageByTgMessageId tgMessageId ticketId =>
      .ok (w.messages.findKey? (tgMessageId, ticketId), w)
  | .acknowledgementCreate ticketId text =>
      w.messageCreate
        { ticketId := ticketId, direction := .out, sender := .bot, tgMessageId := none,
          text := some text, attachments := [], createdAt := w.now }
  | .lastMessage ticketId =>
      .ok (w.messages.latest (fun row => row.val.ticketId = ticketId) Message.createdAt, w)
  | .replyTransaction ticketId agentId text attachments firstResponse =>
      w.replyTransaction ticketId agentId text attachments firstResponse
  | .messageConfirm id tgMessageId => (w.messageConfirm id tgMessageId).map ((), ·)
  | .enqueueReply job => .ok ((), { w with outbound := w.outbound ++ [job] })
  | .emit event => .ok ((), { w with emitted := w.emitted ++ [event] })
  | .telegram chatId method replyParameters part =>
      .ok (w.send chatId method replyParameters part)

/-- Perform a command; one that fails has no effect. -/
def World.perform (c : Call) (w : World) : Except Err c.Resp × World :=
  match w.effect c with
  | .ok (answer, w') => (.ok answer, w')
  | .error e => (.error e, w)

/-- The services are programs over these commands. -/
abbrev App (α : Type) := Program Call Call.Resp Err α

/-- Perform one command. -/
abbrev perform (c : Call) : App c.Resp := Program.perform c

end SupportCrm
