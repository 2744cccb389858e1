import SupportCrm.Store

/-!
# Messages

`MessagesService`: an incoming message is stored in its ticket and a new ticket is
acknowledged; a reply of an agent is stored and handed to the outbound queue.
-/

set_option autoImplicit false

namespace SupportCrm

open KeyedTable AtomicProgram

/-- `AUTO_ACK_TEXT`. -/
def autoAckText : String :=
  "Дякую за ваше повідомлення,\nМи взяли в роботу — скоро до вас повернемось."

/-- `attachmentUrl`. -/
def attachmentUrl (publicUrl fileId : String) : String :=
  publicUrl ++ "/uploads/" ++ fileId

/-- `sendAutoAcknowledgement`. -/
def sendAutoAcknowledgement (ticketId : TicketId) (replyToTgMessageId : ℤ) : App Unit := do
  match ← perform (.ticketWithChat ticketId) with
  | none => return ()
  | some (_, chat) =>
      let created ← perform (.acknowledgementCreate ticketId autoAckText)
      perform (.enqueueReply
        { ticketId := ticketId,
          messageId := created.id,
          telegramChatId := chat.val.telegramChatId,
          text := autoAckText,
          replyToTgMessageId := some replyToTgMessageId,
          attachments := none })
      perform (.emit (.messageSent ticketId created.id none))

/-- What `recordIncoming` does once the message is stored. -/
def announceIncoming (ticketId : TicketId) (tgMessageId : ℤ) (isNewTicket : Bool)
    (message : Entry Message) : App (Entry Message) := do
  perform (.emit (.messageReceived ticketId message.id isNewTicket))
  if isNewTicket then
    -- an acknowledgement that fails is only logged
    let _ ← (sendAutoAcknowledgement ticketId tgMessageId).attempt
  return message

/-- `recordIncoming`. -/
def recordIncoming (ticketId : TicketId) (tgMessageId : ℤ) (text : Option String)
    (attachments : List Attachment) (isNewTicket : Bool) : App (Entry Message) := do
  match ← (perform (.recordTransaction ticketId tgMessageId text attachments)).attempt with
  | .ok message => announceIncoming ticketId tgMessageId isNewTicket message
  | .error .uniqueConstraint =>
      match ← perform (.messageByTgMessageId tgMessageId ticketId) with
      | some existing => return existing
      | none => Program.throw .uniqueConstraint
  | .error e => Program.throw e

/-- The parameters of `recordOutgoingReply`. -/
structure OutgoingReply where
  ticketId : TicketId
  agentId : AgentId
  text : String
  attachments : Option (List String)
  asReply : Option Bool
  deriving DecidableEq, Repr

/-- The message a reply quotes. -/
def quotedMessage (ticket : Entry Ticket) (asReply : Option Bool) : App (Option ℤ) :=
  let anchorTgMessageId := ticket.val.lastClientMessageTgId.getD ticket.val.anchorMessageTgId
  match asReply with
  | some false => return none
  | some true => return some anchorTgMessageId
  | none => do
      match ← perform (.lastMessage ticket.id) with
      | none => return some anchorTgMessageId
      | some lastMessage =>
          if lastMessage.val.direction = .in then return lastMessage.val.tgMessageId
          else return none

/-- `recordOutgoingReply`. -/
def recordOutgoingReply (publicUrl : String) (params : OutgoingReply) :
    App (Entry Message) := do
  match ← perform (.ticketWithChat params.ticketId) with
  | none => Program.throw (.notFound "Ticket not found")
  | some (ticket, chat) =>
      let replyToTgMessageId ← quotedMessage ticket params.asReply
      let message ← perform (.replyTransaction ticket.id params.agentId params.text
        ((params.attachments.getD []).map fun fileId => ⟨"file", fileId⟩)
        ticket.val.firstResponseAt.isNone)
      perform (.enqueueReply
        { ticketId := ticket.id,
          messageId := message.id,
          telegramChatId := chat.val.telegramChatId,
          text := params.text,
          -- zero is falsy
          replyToTgMessageId := replyToTgMessageId.filter (· ≠ 0),
          attachments := params.attachments.map fun fileIds => fileIds.map fun fileId =>
            ⟨fileId, attachmentUrl publicUrl fileId⟩ })
      perform (.emit (.messageSent ticket.id message.id (some params.agentId)))
      return message

/-- `confirmOutgoingSent`. -/
def confirmOutgoingSent (messageDbId : MessageId) (tgMessageId : ℤ) : App Unit :=
  perform (.messageConfirm messageDbId tgMessageId)

end SupportCrm
