import SupportCrm.Library.Table

/-!
# The data model

The tables of the Prisma schema that the ticket pipeline reads and writes, with the fields
it uses, and the values that travel beside the database: the normalized incoming message,
the request bodies, the outbound job and the domain events.

Identifiers are the numbers a table hands out instead of random UUIDs; what the code relies
on is only that a fresh one occurs nowhere. Telegram identifiers are integers, as the code
reads them with `BigInt`. Points in time are milliseconds, as in `Date.getTime`. A column
that may be `NULL` is an option, and so is a value that may be `undefined`; a request field
that may be absent, `null` or present is an option of an option.
-/

set_option autoImplicit false

namespace SupportCrm

open KeyedTable

abbrev AgentId := ℕ
abbrev TeamId := ℕ
abbrev ChatId := ℕ
abbrev CustomerId := ℕ
abbrev ExcludedSenderId := ℕ
abbrev TicketId := ℕ
abbrev MessageId := ℕ
abbrev LabelId := ℕ
abbrev CommentId := ℕ
abbrev NotificationId := ℕ
abbrev ChatGroupId := ℕ
abbrev SavedViewId := ℕ

/-- Milliseconds, as `Date.getTime` gives them. -/
abbrev Time := ℤ

/-! ## Enumerations -/

inductive RoutingStrategy where
  | manual
  | round_robin
  | least_busy
  deriving DecidableEq, Repr

inductive TicketStatus where
  | «open»
  | pending
  | on_hold
  | solved
  | closed
  | archived
  deriving DecidableEq, Repr

inductive TicketPriority where
  | urgent
  | high
  | normal
  | low
  deriving DecidableEq, Repr

inductive MessageDirection where
  | «in»
  | out
  deriving DecidableEq, Repr

inductive MessageSender where
  | customer
  | agent
  | bot
  deriving DecidableEq, Repr

/-! ## Values beside the database -/

/-- A file that came with a message, as the message row stores it. -/
structure Attachment where
  type : String
  fileId : String
  deriving DecidableEq, Repr

/-- What the normalizer makes of a Telegram update. -/
structure NormalizedIncomingMessage where
  telegramChatId : ℤ
  chatTitle : String
  tgMessageId : ℤ
  fromTelegramUserId : ℤ
  fromUsername : Option String
  fromDisplayName : String
  text : Option String
  replyToTgMessageId : Option ℤ
  attachments : List Attachment
  editedAt : Option Time
  isEdit : Bool
  deriving DecidableEq, Repr

/-- The body of a ticket patch. -/
structure PatchTicketDto where
  status : Option TicketStatus := none
  priority : Option TicketPriority := none
  assignee_id : Option (Option AgentId) := none
  team_id : Option (Option TeamId) := none
  labels : Option (List LabelId) := none
  snooze_until : Option (Option Time) := none
  jira_key : Option (Option String) := none
  deriving DecidableEq, Repr

/-- A file of an outbound job, with the address from which Telegram fetches it. -/
structure OutboundAttachment where
  fileId : String
  url : String
  deriving DecidableEq, Repr

/-- The data of one outbound job. -/
structure OutboundReplyJob where
  ticketId : TicketId
  messageId : MessageId
  telegramChatId : ℤ
  text : String
  replyToTgMessageId : Option ℤ
  attachments : Option (List OutboundAttachment)
  deriving DecidableEq, Repr

/-- The domain events with their payloads. -/
inductive DomainEvent where
  | ticketCreated (ticketId : TicketId)
  | ticketUpdated (ticketId : TicketId) (changes : PatchTicketDto)
  | ticketAssigned (ticketId : TicketId) (assigneeId : Option (Option AgentId))
      (previousAssigneeId : Option AgentId) (byAgentId : AgentId)
  | ticketClosed (ticketId : TicketId) (byAgentId : Option AgentId)
  | messageReceived (ticketId : TicketId) (messageId : MessageId) (isNewTicket : Bool)
  | messageSent (ticketId : TicketId) (messageId : MessageId) (agentId : Option AgentId)
  | commentCreated (ticketId : TicketId) (commentId : CommentId) (mentions : List AgentId)
  | agentTyping (ticketId : TicketId) (agentId : AgentId)
  | notificationCreated (notificationId : NotificationId) (agentId : AgentId) (type : String)
      (ticketId : Option TicketId)
  deriving DecidableEq, Repr

/-! ## Rows -/

structure Agent where
  telegramUserId : ℤ
  isActive : Bool
  deriving DecidableEq, Repr

structure AgentTeam where
  name : String
  deriving DecidableEq, Repr

structure TeamMember where
  teamId : TeamId
  agentId : AgentId
  deriving DecidableEq, Repr

structure Chat where
  telegramChatId : ℤ
  title : String
  defaultTeamId : Option TeamId := none
  defaultAssigneeId : Option AgentId := none
  routingStrategy : RoutingStrategy := .manual
  defaultPriority : TicketPriority := .normal
  deriving DecidableEq, Repr

structure Customer where
  telegramUserId : ℤ
  username : Option String
  displayName : Option String
  deriving DecidableEq, Repr

structure ExcludedSender where
  telegramUserId : Option ℤ
  telegramUsername : Option String
  name : Option String
  note : Option String
  addedByAgentId : Option AgentId
  isActive : Bool := true
  deriving DecidableEq, Repr

structure Ticket where
  chatId : ChatId
  customerId : CustomerId
  status : TicketStatus := .open
  priority : TicketPriority := .normal
  assigneeId : Option AgentId := none
  teamId : Option TeamId := none
  anchorMessageTgId : ℤ
  lastClientMessageTgId : Option ℤ := none
  jiraKey : Option String := none
  firstResponseAt : Option Time := none
  resolvedAt : Option Time := none
  snoozeUntil : Option Time := none
  createdAt : Time
  updatedAt : Time
  closedAt : Option Time := none
  closedById : Option AgentId := none
  deriving DecidableEq, Repr

structure Message where
  ticketId : TicketId
  direction : MessageDirection
  sender : MessageSender
  agentId : Option AgentId := none
  tgMessageId : Option ℤ
  text : Option String
  attachments : List Attachment
  createdAt : Time
  deriving DecidableEq, Repr

structure Label where
  name : String
  color : String
  deriving DecidableEq, Repr

structure TicketLabel where
  ticketId : TicketId
  labelId : LabelId
  deriving DecidableEq, Repr

/-- What an entry of the audit log says: its type and payload. A bulk assignment may leave the
agent out, or name none. -/
inductive TicketEventPayload where
  | updated (dto : PatchTicketDto)
  | assigned (agentId : Option (Option AgentId)) (previousAssigneeId : Option AgentId)
      (reason : Option String)
  deriving DecidableEq, Repr

structure TicketEvent where
  ticketId : TicketId
  agentId : Option AgentId
  payload : TicketEventPayload
  createdAt : Time
  deriving DecidableEq, Repr

/-! ## Unique indexes

A row without a key never collides: a table without a unique index has no keys at all, and
in PostgreSQL a `NULL` under a unique index equals nothing. -/

def Agent.key (agent : Agent) : Option ℤ := some agent.telegramUserId

def AgentTeam.key (_ : AgentTeam) : Option Unit := none

def TeamMember.key (member : TeamMember) : Option (TeamId × AgentId) :=
  some (member.teamId, member.agentId)

def Chat.key (chat : Chat) : Option ℤ := some chat.telegramChatId

def Customer.key (customer : Customer) : Option ℤ := some customer.telegramUserId

def ExcludedSender.key (sender : ExcludedSender) : Option ℤ := sender.telegramUserId

def Ticket.key (_ : Ticket) : Option Unit := none

/-- `@@unique([tgMessageId, ticketId])`. -/
def Message.key (message : Message) : Option (ℤ × TicketId) :=
  message.tgMessageId.map fun tgMessageId => (tgMessageId, message.ticketId)

def Label.key (label : Label) : Option String := some label.name

/-- `@@id([ticketId, labelId])`. -/
def TicketLabel.key (label : TicketLabel) : Option (TicketId × LabelId) :=
  some (label.ticketId, label.labelId)

def TicketEvent.key (_ : TicketEvent) : Option Unit := none

/-- A table without keys takes every row. -/
theorem Ticket.free {tickets : Table Ticket.key} {ticket : Ticket} : tickets.Free ticket :=
  Table.free_of_none rfl

theorem TicketEvent.free {events : Table TicketEvent.key} {event : TicketEvent} :
    events.Free event :=
  Table.free_of_none rfl

theorem Message.key_eq_some_iff {message : Message} {tgMessageId : ℤ} {ticketId : TicketId} :
    message.key = some (tgMessageId, ticketId) ↔
      message.tgMessageId = some tgMessageId ∧ message.ticketId = ticketId := by
  cases found : message.tgMessageId <;> simp [Message.key, found]

/-! ## The statuses of a thread -/

/-- The two sets of `ThreadGroupingService`: a status either is terminal or can be
reopened. -/
def TicketStatus.terminal : TicketStatus → Bool
  | .closed | .archived => true
  | .open | .pending | .on_hold | .solved => false

def TicketStatus.reopenable : TicketStatus → Bool
  | .open | .pending | .on_hold | .solved => true
  | .closed | .archived => false

theorem TicketStatus.reopenable_eq_not_terminal (status : TicketStatus) :
    status.reopenable = !status.terminal := by
  cases status <;> rfl

end SupportCrm
