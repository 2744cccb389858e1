import SupportCrm.Library.Decimal
import SupportCrm.System

/-!
# From Telegram updates to incoming messages

The webhook hands every update to `TelegramUpdateNormalizer`, and what that lets through goes to
the queue and opens a ticket. It looks at the chat and at the sender, but not at whether it found
anything in the message, so service messages and messages of the kinds it does not read go
through empty (`only_content_enters_iff`).
-/

set_option autoImplicit false

namespace SupportCrm

open KeyedTable AtomicProgram

/-! ## Updates -/

inductive TelegramChatType where
  | «private»
  | group
  | supergroup
  | channel
  deriving DecidableEq, Repr

structure TelegramChat where
  id : ℤ
  type : TelegramChatType
  title : Option String := none
  deriving DecidableEq, Repr

structure TelegramUser where
  id : ℤ
  username : Option String := none
  first_name : String
  last_name : Option String := none
  deriving DecidableEq, Repr

structure TelegramFile where
  file_id : String
  deriving DecidableEq, Repr

/-- The events of a chat that are told as messages. -/
inductive ServiceEvent where
  | new_chat_members
  | left_chat_member
  | new_chat_title
  | new_chat_photo
  | delete_chat_photo
  | group_chat_created
  | supergroup_chat_created
  | pinned_message
  | other (field : String)
  deriving DecidableEq, Repr

/-- A message; `service` are the events that it tells, which the normalizer does not read, nor
does it read `audio`, `video_note` and `animation`. -/
structure TelegramMessage where
  message_id : ℤ
  chat : TelegramChat
  «from» : Option TelegramUser := none
  edit_date : Option ℤ := none
  reply_to_message : Option ℤ := none
  text : Option String := none
  caption : Option String := none
  photo : Option (List TelegramFile) := none
  document : Option TelegramFile := none
  video : Option TelegramFile := none
  voice : Option TelegramFile := none
  sticker : Option TelegramFile := none
  audio : Option TelegramFile := none
  video_note : Option TelegramFile := none
  animation : Option TelegramFile := none
  service : List ServiceEvent := []
  deriving DecidableEq, Repr

/-- An update of another kind has neither. -/
structure TelegramUpdate where
  message : Option TelegramMessage := none
  edited_message : Option TelegramMessage := none
  deriving DecidableEq, Repr

/-! ## The normalizer -/

namespace TelegramMessage

/-- The attachment of one kind of file. -/
def attachment (type : String) (file : Option TelegramFile) : List Attachment :=
  (file.map fun file => ⟨type, file.file_id⟩).toList

/-- The last of the photo sizes is the largest one. -/
def attachments (message : TelegramMessage) : List Attachment :=
  attachment "photo" (message.photo.bind List.getLast?) ++ attachment "document" message.document ++
    attachment "video" message.video ++ attachment "voice" message.voice ++
    attachment "sticker" message.sticker

end TelegramMessage

def TelegramUser.displayName (user : TelegramUser) : String :=
  " ".intercalate ([user.first_name, user.last_name.getD ""].filter (· ≠ ""))

/-- `TelegramUpdateNormalizer.normalize`. -/
def normalize (update : TelegramUpdate) : Option NormalizedIncomingMessage := do
  let message ← update.message.or update.edited_message
  if message.chat.type = .private then none
  let sender ← message.from
  return {
    telegramChatId := message.chat.id
    chatTitle := message.chat.title.getD ""
    tgMessageId := message.message_id
    fromTelegramUserId := sender.id
    fromUsername := sender.username
    fromDisplayName := sender.displayName
    text := message.text.or message.caption
    replyToTgMessageId := message.reply_to_message
    attachments := message.attachments
    isEdit := update.edited_message.isSome
    editedAt := (message.edit_date.filter (· ≠ 0)).map (· * 1000) }

/-! ## The webhook -/

/-- `TelegramService.isWebhookSecretValid`. -/
def isWebhookSecretValid (webhookSecret headerSecret : Option String) : Bool :=
  match webhookSecret with
  | none => true
  | some expected => expected = "" || headerSecret = some expected

structure IngestJob where
  jobId : String
  message : NormalizedIncomingMessage

inductive WebhookResponse where
  | forbidden (message : String)
  | ok (enqueued : Option IngestJob)

/-- `TelegramIngestProducer.enqueue`. -/
def ingestJob (message : NormalizedIncomingMessage) : IngestJob :=
  ⟨toString message.telegramChatId ++ "_" ++ toString message.tgMessageId, message⟩

/-- `TelegramWebhookController.handleWebhook`. -/
def handleWebhook (webhookSecret : Option String) (update : TelegramUpdate)
    (secretHeader : Option String) : WebhookResponse :=
  if isWebhookSecretValid webhookSecret secretHeader then .ok ((normalize update).map ingestJob)
  else .forbidden "Invalid webhook secret token"

/-- A job comes from an update with a valid secret that the normalizer lets through. -/
theorem handleWebhook_eq_ok_iff {webhookSecret secretHeader : Option String}
    {update : TelegramUpdate} {job : IngestJob} :
    handleWebhook webhookSecret update secretHeader = .ok (some job) ↔
      isWebhookSecretValid webhookSecret secretHeader = true ∧
        ∃ message, normalize update = some message ∧ ingestJob message = job := by
  unfold handleWebhook
  split
  · rename_i valid
    simp only [valid, WebhookResponse.ok.injEq, Option.map_eq_some_iff, true_and]
  · rename_i invalid
    simp only [reduceCtorEq, invalid, false_and]

/-- One message of one chat has one job, however often and in whatever version it arrives. -/
theorem ingestJob_jobId_iff {message message' : NormalizedIncomingMessage} :
    (ingestJob message).jobId = (ingestJob message').jobId ↔
      message.telegramChatId = message'.telegramChatId ∧
        message.tgMessageId = message'.tgMessageId := by
  simp only [ingestJob, ← String.toList_inj, String.toList_append, List.append_assoc]
  refine (Decimal.append_sep_inj (c := '_') (by decide) (by decide)).trans ?_
  exact and_congr_right fun _ => Decimal.toString_injective.eq_iff

/-- Of the updates that the webhook accepts, two have one job exactly when they are about one
message of one chat. -/
theorem handleWebhook_jobId_iff {webhookSecret secretHeader secretHeader' : Option String}
    {update update' : TelegramUpdate} {job job' : IngestJob}
    (enqueued : handleWebhook webhookSecret update secretHeader = .ok (some job))
    (enqueued' : handleWebhook webhookSecret update' secretHeader' = .ok (some job')) :
    job.jobId = job'.jobId ↔
      job.message.telegramChatId = job'.message.telegramChatId ∧
        job.message.tgMessageId = job'.message.tgMessageId := by
  obtain ⟨-, message, -, rfl⟩ := handleWebhook_eq_ok_iff.mp enqueued
  obtain ⟨-, message', -, rfl⟩ := handleWebhook_eq_ok_iff.mp enqueued'
  exact ingestJob_jobId_iff

/-! ## Messages with content -/

namespace TelegramMessage

/-- A message that somebody wrote where the pipeline listens. -/
def eligible (message : TelegramMessage) : Bool :=
  message.chat.type ≠ .private && message.from.isSome

/-- The message has something that the normalizer reads. -/
def readable (message : TelegramMessage) : Bool :=
  message.text.isSome || message.caption.isSome || (message.photo.bind List.getLast?).isSome ||
    message.document.isSome || message.video.isSome || message.voice.isSome ||
    message.sticker.isSome

/-- The message has a text, a caption or a medium. -/
def carriesContent (message : TelegramMessage) : Bool :=
  message.readable || message.audio.isSome || message.video_note.isSome || message.animation.isSome

end TelegramMessage

/-- What `normalize` returns for the update comes from an eligible message with content that is no
service message, and has a text or an attachment. -/
def OnlyContentEnters (update : TelegramUpdate) : Prop :=
  ∀ result, normalize update = some result →
    ∃ message, update.message.or update.edited_message = some message ∧
      message.eligible = true ∧ message.carriesContent = true ∧ message.service = [] ∧
      (result.text.isSome ∨ result.attachments ≠ [])

theorem attachment_eq_nil_iff {type : String} {file : Option TelegramFile} :
    TelegramMessage.attachment type file = [] ↔ file = none := by
  cases file <;> simp [TelegramMessage.attachment]

/-- A message without anything to read becomes one without text and attachments. -/
theorem TelegramMessage.readable_iff (message : TelegramMessage) :
    message.readable = true ↔
      (message.text.or message.caption).isSome ∨ message.attachments ≠ [] := by
  simp only [readable, attachments, ne_eq, List.append_eq_nil_iff, attachment_eq_nil_iff,
    Bool.or_eq_true, Option.isSome_or, ← Option.not_isSome_iff_eq_none]
  tauto

theorem normalize_eq_some_iff {update : TelegramUpdate} {result : NormalizedIncomingMessage} :
    normalize update = some result ↔ ∃ message sender,
      update.message.or update.edited_message = some message ∧ message.chat.type ≠ .private ∧
      message.from = some sender ∧ result =
        ⟨message.chat.id, message.chat.title.getD "", message.message_id, sender.id,
          sender.username, sender.displayName, message.text.or message.caption,
          message.reply_to_message, message.attachments,
          (message.edit_date.filter (· ≠ 0)).map (· * 1000), update.edited_message.isSome⟩ := by
  unfold normalize
  cases incoming : update.message.or update.edited_message with
  | none => simp
  | some message =>
      by_cases own : message.chat.type = .private
      · simp [own]
      · cases sender : message.from with
        | none => simp [own, sender]
        | some user => simp [sender, eq_comm]

/-- **Only content enters exactly where there is something to read.** For every update the
normalizer keeps its promise if and only if the message of the update, where it is in a group and
has a sender, is no service message and has a text, a caption, a photo, a document, a video, a
voice message or a sticker. -/
theorem only_content_enters_iff (update : TelegramUpdate) :
    OnlyContentEnters update ↔
      ∀ message, update.message.or update.edited_message = some message →
        message.eligible = true → message.service = [] ∧ message.readable = true := by
  constructor
  · intro enters message incoming eligible
    obtain ⟨group, present⟩ := Bool.and_eq_true_iff.mp eligible
    obtain ⟨sender, sent⟩ := Option.isSome_iff_exists.mp present
    obtain ⟨message', incoming', -, -, ordinary, found⟩ := enters _ <|
      normalize_eq_some_iff.mpr ⟨message, sender, incoming, of_decide_eq_true group, sent, rfl⟩
    obtain rfl := Option.some.inj (incoming.symm.trans incoming')
    exact ⟨ordinary, message.readable_iff.mpr found⟩
  · intro reads result normalized
    obtain ⟨message, sender, incoming, group, sent, rfl⟩ := normalize_eq_some_iff.mp normalized
    have eligible : message.eligible = true := by
      rw [TelegramMessage.eligible, sent, Bool.and_eq_true, decide_eq_true_eq]
      exact ⟨group, rfl⟩
    obtain ⟨ordinary, readable⟩ := reads message incoming eligible
    refine ⟨message, incoming, eligible, ?_, ordinary, message.readable_iff.mp readable⟩
    rw [TelegramMessage.carriesContent, readable, Bool.true_or, Bool.true_or, Bool.true_or]

/-! A message is pinned in a group, and a customer sends a piece of music. -/

namespace Updates

def update (message : TelegramMessage) : TelegramUpdate := { message := some message }

def pinned : TelegramMessage where
  message_id := 7
  chat := { id := -5, type := .supergroup, title := some "support" }
  «from» := some { id := 42, first_name := "Olena" }
  service := [.pinned_message]

def music : TelegramMessage := { pinned with service := [], audio := some ⟨"file-1"⟩ }

end Updates

set_option maxRecDepth 4000 in
/-- Both become messages without text and attachments, and the pinning opens a ticket and gets an
acknowledgement. -/
theorem pinned_message_opens_ticket : ∃ result,
    normalize (Updates.update Updates.pinned) = some result ∧
      result.text = none ∧ result.attachments = [] ∧
      ¬ OnlyContentEnters (Updates.update Updates.pinned) ∧
      ¬ OnlyContentEnters (Updates.update Updates.music) ∧
      (World.seeded.after .default [.ingest result] (alone 20)).tickets.rows.length = 1 ∧
      (World.seeded.after .default [.ingest result] (alone 20)).outbound.length = 1 := by
  refine ⟨_, rfl, rfl, rfl, fun enters => ?_, fun enters => ?_, by decide, by decide⟩
  · obtain ⟨message, -, -, -, -, text | attachments⟩ := enters _ rfl
    · cases text
    · exact attachments rfl
  · obtain ⟨message, -, -, -, -, text | attachments⟩ := enters _ rfl
    · cases text
    · exact attachments rfl

end SupportCrm
