import SupportCrm.Messages

/-!
# Outbound

`TelegramService.sendReply` sends a stored reply to Telegram, file by file, and
`OutboundProcessor.process` then writes the identifier of the first message into its row.
-/

set_option autoImplicit false

namespace SupportCrm

open AtomicProgram

/-- `/\.(jpe?g|png|gif|webp)$/i`. -/
def isImage (url : String) : Bool :=
  [".jpg", ".jpeg", ".png", ".gif", ".webp"].any fun suffix =>
    suffix.toList.isSuffixOf (url.toList.map Char.toLower)

/-- One call of the loop over the attachments: only the first carries the text and the
quote. -/
def sendAttachment (chatId : ℤ) (text : String) (replyParameters : Option ℤ) (index : ℕ)
    (attachment : OutboundAttachment) : App ℤ :=
  let caption := if index = 0 ∧ text ≠ "" then some text else none
  let method := if isImage attachment.url then TelegramMethod.sendPhoto attachment.url caption
    else .sendDocument attachment.url caption
  perform (.telegram chatId method (if index = 0 then replyParameters else none) index)

/-- The loop over the attachments, from an index on. -/
def sendAttachments (chatId : ℤ) (text : String) (replyParameters : Option ℤ) :
    ℕ → Option ℤ → List OutboundAttachment → App (Option ℤ)
  | _, firstTgMessageId, [] => return firstTgMessageId
  | index, firstTgMessageId, attachment :: rest => do
      let messageId ← sendAttachment chatId text replyParameters index attachment
      sendAttachments chatId text replyParameters (index + 1)
        (if index = 0 then some messageId else firstTgMessageId) rest

/-- `TelegramService.sendReply`. -/
def sendReply (chatId : ℤ) (text : String) (replyToMessageId : Option ℤ)
    (attachments : Option (List OutboundAttachment)) : App ℤ :=
  -- zero is falsy
  let replyParameters := replyToMessageId.filter (· ≠ 0)
  match attachments.getD [] with
  | [] => perform (.telegram chatId (.sendMessage text) replyParameters 0)
  | attachment :: rest => do
      let firstTgMessageId ← sendAttachments chatId text replyParameters 0 none (attachment :: rest)
      -- the loop ran at least once
      return firstTgMessageId.getD 0

/-- `OutboundProcessor.process`. -/
def processOutbound (job : OutboundReplyJob) : App Unit := do
  let tgMessageId ← sendReply job.telegramChatId job.text job.replyToTgMessageId job.attachments
  confirmOutgoingSent job.messageId tgMessageId

end SupportCrm
