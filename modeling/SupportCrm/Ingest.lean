import SupportCrm.Messages
import SupportCrm.Senders
import SupportCrm.Threads
import SupportCrm.Tickets

/-!
# Ingest

`IngestOrchestratorService.process` takes one normalized message through the pipeline:
classify its sender, find its chat and customer, decide its thread, store it.
-/

set_option autoImplicit false

namespace SupportCrm

open KeyedTable AtomicProgram

/-- The configuration the services read. -/
structure Config where
  threadIdleWindowMinutes : ℤ
  publicUrl : String
  deriving DecidableEq, Repr

/-- The configuration where the environment sets nothing. -/
def Config.default : Config := ⟨180, "http://localhost:3000"⟩

/-- A message of one customer in one chat. -/
def greeting (tgMessageId : ℤ) : NormalizedIncomingMessage where
  telegramChatId := -5
  chatTitle := "support"
  tgMessageId := tgMessageId
  fromTelegramUserId := 42
  fromUsername := none
  fromDisplayName := "Olena"
  text := some "hello"
  replyToTgMessageId := none
  attachments := [⟨"photo", "file-1"⟩]
  editedAt := none
  isEdit := false

inductive IngestResult where
  | ticketMessage (ticketId : TicketId) (isNewTicket : Bool)
  | ignoredAgent
  | ignoredExcluded
  deriving DecidableEq, Repr

/-- The ticket for a message, and whether it is new: attach to the decided thread, reviving
it where needed, or create one. -/
def resolveTicket (chat : Entry Chat) (customer : Entry Customer) (tgMessageId : ℤ) :
    ThreadGroupingDecision → App (TicketId × Bool)
  | .attach ticketId revive _ => do
      if revive then
        let _ ← patch ticketId { status := some .open } none
      return (ticketId, false)
  | .createNew => do
      let routingDecision ← decideAssignment chat.val
      let ticket ← createForNewThread
        { chatId := chat.id,
          customerId := customer.id,
          anchorMessageTgId := tgMessageId,
          priority := some chat.val.defaultPriority,
          teamId := routingDecision.teamId,
          assigneeId := routingDecision.assigneeId }
      return (ticket.ticket.id, true)

/-- The part of `process` for a message of a customer. -/
def processCustomer (config : Config) (message : NormalizedIncomingMessage) :
    App IngestResult := do
  let chat ← findOrCreateChat message.telegramChatId message.chatTitle
  let customer ← findOrCreateCustomer message.fromTelegramUserId message.fromUsername
    message.fromDisplayName
  let now ← perform .newDate
  let decision ← decide
    { chatId := chat.id,
      customerId := customer.id,
      replyToTgMessageId := message.replyToTgMessageId,
      idleWindowMinutes := config.threadIdleWindowMinutes,
      now := now }
  let (ticketId, isNewTicket) ← resolveTicket chat customer message.tgMessageId decision
  let _ ← recordIncoming ticketId message.tgMessageId message.text message.attachments
    isNewTicket
  return .ticketMessage ticketId isNewTicket

/-- `IngestOrchestratorService.process`. -/
def process (config : Config) (message : NormalizedIncomingMessage) : App IngestResult := do
  match ← classify message.fromTelegramUserId message.fromUsername with
  | .agent _ => return .ignoredAgent
  | .excluded => return .ignoredExcluded
  | .customer => processCustomer config message

end SupportCrm
