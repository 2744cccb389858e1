import SupportCrm.Bridge
import SupportCrm.Store

/-!
# Notifications

Internal comments and the notifications of agents, in the app and as direct messages by
Telegram: the rows of `notifications`, `notification_prefs` and `internal_comments`, the
commands on them, and the services. The ticket pipeline does not touch these tables, so they
stand beside its world and not in it.
-/

set_option autoImplicit false

namespace SupportCrm

open KeyedTable AtomicProgram

/-! ## Rows -/

structure InternalComment where
  ticketId : TicketId
  agentId : AgentId
  body : String
  mentions : List AgentId
  deriving DecidableEq, Repr

structure Notification where
  agentId : AgentId
  type : String
  ticketId : Option TicketId
  payload : String × ℕ
  isRead : Bool := false
  createdAt : Time
  deriving DecidableEq, Repr

inductive NotificationChannel where
  | in_app
  | browser
  | telegram
  | email
  deriving DecidableEq, Repr

structure NotificationPref where
  agentId : AgentId
  channel : NotificationChannel
  eventType : String
  enabled : Bool := true
  deriving DecidableEq, Repr

def InternalComment.key (_ : InternalComment) : Option Unit := none

def Notification.key (_ : Notification) : Option Unit := none

/-- `@@id([agentId, channel, eventType])`. -/
def NotificationPref.key (pref : NotificationPref) :
    Option (AgentId × NotificationChannel × String) :=
  some (pref.agentId, pref.channel, pref.eventType)

/-- A message that the bot was asked to send to a user. -/
structure DirectMessage where
  telegramUserId : ℤ
  text : String
  deriving DecidableEq, Repr

/-! ## The world -/

/-- The world with the tables of comments and notifications, the direct messages that the bot
was asked to send, and the users to whom it may not write. -/
structure NotificationWorld extends World where
  comments : Table InternalComment.key
  notifications : Table Notification.key
  prefs : Table NotificationPref.key
  directMessages : List DirectMessage
  refuses : ℤ → Bool

namespace NotificationWorld

/-- Milliseconds pass. -/
def elapse (milliseconds : ℕ) (w : NotificationWorld) : NotificationWorld :=
  { w with now := w.now + milliseconds }

/-- A notification of an agent about a ticket, of a type. -/
def concerns (agentId : AgentId) (ticketId : TicketId) (type : String)
    (row : Entry Notification) : Bool :=
  row.val.agentId = agentId && row.val.ticketId = some ticketId && row.val.type = type

/-- `notification.findFirst` with `createdAt: { gte: since }`, the newest first. -/
def findFirst (w : NotificationWorld) (agentId : AgentId) (ticketId : TicketId) (type : String)
    (since : Time) : Option (Entry Notification) :=
  w.notifications.latest (fun row => concerns agentId ticketId type row && since ≤ row.val.createdAt)
    Notification.createdAt

/-- What a refresh writes: a new payload and time, and the notification is unread again. -/
def refreshed (payload : String × ℕ) (createdAt : Time) (notification : Notification) :
    Notification :=
  { notification with payload := payload, isRead := false, createdAt := createdAt }

def read (notification : Notification) : Notification := { notification with isRead := true }

end NotificationWorld

/-! ## Commands -/

/-- The commands of the services for comments and notifications. -/
inductive NotificationCall where
  | newDate
  | agentById (id : AgentId)
  | commentCreate (ticketId : TicketId) (agentId : AgentId) (body : String)
      (mentions : List AgentId)
  | notificationFindFirst (agentId : AgentId) (ticketId : TicketId) (type : String) (since : Time)
  | notificationUpdate (id : NotificationId) (payload : String × ℕ) (createdAt : Time)
  | notificationCreate (agentId : AgentId) (type : String) (ticketId : TicketId)
      (payload : String × ℕ)
  | notificationRead (id : NotificationId) (agentId : AgentId)
  | notificationAllRead (agentId : AgentId)
  | prefByKey (agentId : AgentId) (channel : NotificationChannel) (eventType : String)
  | emit (event : DomainEvent)
  | sendMessage (telegramUserId : ℤ) (text : String)
  deriving DecidableEq

/-- The answer to a command. -/
abbrev NotificationCall.Resp : NotificationCall → Type
  | .newDate => Time
  | .agentById _ => Option (Entry Agent)
  | .commentCreate _ _ _ _ => Entry InternalComment
  | .notificationFindFirst _ _ _ _ => Option (Entry Notification)
  | .notificationUpdate _ _ _ => Entry Notification
  | .notificationCreate _ _ _ _ => Entry Notification
  | .notificationRead _ _ => Unit
  | .notificationAllRead _ => Unit
  | .prefByKey _ _ _ => Option (Entry NotificationPref)
  | .emit _ => Unit
  | .sendMessage _ _ => Unit

namespace NotificationWorld

def notificationCreate (w : NotificationWorld) (notification : Notification) :
    Except Err (Entry Notification) × NotificationWorld :=
  if w.hasAgent (some notification.agentId) &&
      notification.ticketId.all (fun id => (w.tickets.find? id).isSome) then
    (.ok ⟨w.notifications.next, notification⟩,
      { w with notifications := w.notifications.insert notification (Table.free_of_none rfl) })
  else (.error .foreignKeyConstraint, w)

def notificationUpdate (w : NotificationWorld) (id : NotificationId) (payload : String × ℕ)
    (createdAt : Time) : Except Err (Entry Notification) × NotificationWorld :=
  match w.notifications.find? id with
  | none => (.error .recordNotFound, w)
  | some row =>
      (.ok (row.change id (refreshed payload createdAt)),
        { w with
          notifications := w.notifications.update id (refreshed payload createdAt) fun _ => rfl })

def commentCreate (w : NotificationWorld) (comment : InternalComment) :
    Except Err (Entry InternalComment) × NotificationWorld :=
  if (w.tickets.find? comment.ticketId).isSome && w.hasAgent (some comment.agentId) then
    (.ok ⟨w.comments.next, comment⟩,
      { w with comments := w.comments.insert comment (Table.free_of_none rfl) })
  else (.error .foreignKeyConstraint, w)

/-- What a command does. Telegram has been asked to send a message also when it refuses. -/
def perform : (c : NotificationCall) → NotificationWorld →
    Except Err c.Resp × NotificationWorld
  | .newDate, w => (.ok w.now, w)
  | .agentById id, w => (.ok (w.agents.find? id), w)
  | .commentCreate ticketId agentId body mentions, w =>
      w.commentCreate ⟨ticketId, agentId, body, mentions⟩
  | .notificationFindFirst agentId ticketId type since, w =>
      (.ok (w.findFirst agentId ticketId type since), w)
  | .notificationUpdate id payload createdAt, w => w.notificationUpdate id payload createdAt
  | .notificationCreate agentId type ticketId payload, w =>
      w.notificationCreate
        { agentId := agentId, type := type, ticketId := some ticketId, payload := payload,
          createdAt := w.now }
  | .notificationRead id agentId, w =>
      (.ok (), { w with
        notifications := w.notifications.updateMany
          (fun row => row.id = id && row.val.agentId = agentId) read fun _ => rfl })
  | .notificationAllRead agentId, w =>
      (.ok (), { w with
        notifications := w.notifications.updateMany
          (fun row => row.val.agentId = agentId && !row.val.isRead) read fun _ => rfl })
  | .prefByKey agentId channel eventType, w =>
      (.ok (w.prefs.findKey? (agentId, channel, eventType)), w)
  | .emit event, w => (.ok (), { w with emitted := w.emitted ++ [event] })
  | .sendMessage telegramUserId text, w =>
      (if w.refuses telegramUserId then .error .unavailable else .ok (),
        { w with directMessages := w.directMessages ++ [⟨telegramUserId, text⟩] })

end NotificationWorld

namespace NotificationWorld

/-- What a command does to the notifications. -/
inductive Writes (w : NotificationWorld) : NotificationCall → Table Notification.key → Prop where
  | kept (c : NotificationCall) : Writes w c w.notifications
  | created {agentId : AgentId} {type : String} {ticketId : TicketId} {payload : String × ℕ}
      (agent : (w.agents.find? agentId).isSome) (ticket : (w.tickets.find? ticketId).isSome) :
      Writes w (.notificationCreate agentId type ticketId payload)
        (w.notifications.insert ⟨agentId, type, some ticketId, payload, false, w.now⟩
          (Table.free_of_none rfl))
  | refreshed {id : NotificationId} {payload : String × ℕ} {createdAt : Time} :
      Writes w (.notificationUpdate id payload createdAt)
        (w.notifications.update id (refreshed payload createdAt) fun _ => rfl)
  | read (c : NotificationCall) (p : Entry Notification → Bool) :
      Writes w c (w.notifications.updateMany p read fun _ => rfl)

theorem writes_perform (w : NotificationWorld) (c : NotificationCall) :
    w.Writes c (w.perform c).2.notifications := by
  cases c with
  | notificationCreate agentId type ticketId payload =>
      simp only [perform, notificationCreate]
      split
      · next present =>
        obtain ⟨agent, ticket⟩ := Bool.and_eq_true_iff.mp present
        exact .created agent ticket
      · exact .kept _
  | notificationUpdate id payload createdAt =>
      simp only [perform, notificationUpdate]
      split
      · exact .kept _
      · exact .refreshed
  | notificationRead id agentId => exact .read _ _
  | notificationAllRead agentId => exact .read _ _
  | commentCreate ticketId agentId body mentions =>
      simp only [perform, commentCreate]
      split <;> exact .kept _
  | newDate => exact .kept _
  | agentById id => exact .kept _
  | notificationFindFirst agentId ticketId type since => exact .kept _
  | prefByKey agentId channel eventType => exact .kept _
  | emit event => exact .kept _
  | sendMessage telegramUserId text => exact .kept _

/-- A notification of an agent about a ticket is created if both exist. -/
theorem perform_create {w : NotificationWorld} {agentId : AgentId} {type : String}
    {ticketId : TicketId} {payload : String × ℕ} (agent : (w.agents.find? agentId).isSome)
    (ticket : (w.tickets.find? ticketId).isSome) :
    w.perform (.notificationCreate agentId type ticketId payload) =
      (.ok ⟨w.notifications.next, ⟨agentId, type, some ticketId, payload, false, w.now⟩⟩,
        { w with
          notifications := w.notifications.insert
            ⟨agentId, type, some ticketId, payload, false, w.now⟩ (Table.free_of_none rfl) }) := by
  simp only [perform, notificationCreate]
  exact if_pos (Bool.and_eq_true_iff.mpr ⟨agent, ticket⟩)

/-- It is refused if either is missing. -/
theorem perform_create_of_missing {w : NotificationWorld} {agentId : AgentId} {type : String}
    {ticketId : TicketId} {payload : String × ℕ}
    (missing : w.agents.find? agentId = none ∨ w.tickets.find? ticketId = none) :
    w.perform (.notificationCreate agentId type ticketId payload) =
      (.error .foreignKeyConstraint, w) := by
  simp only [perform, notificationCreate]
  refine if_neg fun present => ?_
  obtain ⟨agent, ticket⟩ := Bool.and_eq_true_iff.mp present
  rcases missing with absent | absent
  · simp [World.hasAgent, absent] at agent
  · simp [absent] at ticket

/-- A notification that exists is refreshed. -/
theorem perform_update {w : NotificationWorld} {row : Entry Notification} {payload : String × ℕ}
    {createdAt : Time} (member : row ∈ w.notifications.rows) :
    w.perform (.notificationUpdate row.id payload createdAt) =
      (.ok ⟨row.id, NotificationWorld.refreshed payload createdAt row.val⟩,
        { w with
          notifications := w.notifications.update row.id
            (NotificationWorld.refreshed payload createdAt) fun _ => rfl }) := by
  simp only [perform, notificationUpdate, Table.find?_self member]
  rw [Entry.change, if_pos rfl]

section Frame

variable (w : NotificationWorld) (c : NotificationCall)

@[simp] theorem perform_agents : (w.perform c).2.agents = w.agents := by
  cases c <;> simp only [perform, notificationCreate, notificationUpdate, commentCreate] <;>
    (try split) <;> rfl

@[simp] theorem perform_tickets : (w.perform c).2.tickets = w.tickets := by
  cases c <;> simp only [perform, notificationCreate, notificationUpdate, commentCreate] <;>
    (try split) <;> rfl

@[simp] theorem perform_prefs : (w.perform c).2.prefs = w.prefs := by
  cases c <;> simp only [perform, notificationCreate, notificationUpdate, commentCreate] <;>
    (try split) <;> rfl

@[simp] theorem perform_now : (w.perform c).2.now = w.now := by
  cases c <;> simp only [perform, notificationCreate, notificationUpdate, commentCreate] <;>
    (try split) <;> rfl

end Frame

end NotificationWorld

/-- A store with one agent and one ticket. -/
def NotificationWorld.seeded : NotificationWorld where
  toWorld := { World.initial 0 fun n => 1000 + n with
    agents := Table.empty.insert ⟨100, true⟩ (by decide)
    tickets := Table.empty.insert
      { chatId := 0, customerId := 0, anchorMessageTgId := 1, createdAt := 0, updatedAt := 0 }
      Ticket.free }
  comments := .empty
  notifications := .empty
  prefs := .empty
  directMessages := []
  refuses _ := false

/-- The services for comments and notifications are programs over these commands. -/
abbrev NotificationApp (α : Type) := Program NotificationCall NotificationCall.Resp Err α

/-- Perform one command. -/
abbrev issue (c : NotificationCall) : NotificationApp c.Resp := Program.perform c

/-! ## Services -/

/-- The body of a comment. `mentions` are checked for the form of their identifiers only. -/
structure CreateCommentDto where
  body : String
  mentions : Option (List AgentId)
  minLength : 1 ≤ body.length

def CommentsService.create (ticketId : TicketId) (agentId : AgentId) (body : String)
    (mentions : List AgentId) : NotificationApp (Entry InternalComment) := do
  let comment ← issue (.commentCreate ticketId agentId body mentions)
  issue (.emit (.commentCreated ticketId comment.id mentions))
  return comment

/-- `POST /tickets/:id/comments`. -/
def addComment (id : TicketId) (dto : CreateCommentDto) (agentId : AgentId) :
    NotificationApp (Entry InternalComment) :=
  CommentsService.create id agentId dto.body (dto.mentions.getD [])

def TelegramService.sendDirectMessage (telegramUserId : ℤ) (text : String) :
    NotificationApp Unit := do
  let _ ← (issue (.sendMessage telegramUserId text)).attempt
  return ()

namespace NotificationsService

/-- `DEDUP_WINDOW_MINUTES`, in milliseconds. -/
def dedupWindow : Time := 5 * 60000

/-- `MESSAGE_BY_TYPE`, and the text for any other type. -/
def formatter (type : String) : String :=
  if type = "message.received" then "Нове повідомлення в заасайненому на вас треді."
  else if type = "ticket.assigned" then "Вам призначили тікет."
  else if type = "comment.mention" then "Вас згадали у внутрішньому коментарі."
  else "Нова подія: " ++ type

/-- A direct message, unless the agent has turned it off. -/
def dispatchExternalChannels (agentId : AgentId) (type : String) : NotificationApp Unit := do
  match ← issue (.agentById agentId) with
  | none => return ()
  | some agent =>
      let pref ← issue (.prefByKey agentId .telegram type)
      if (pref.map fun pref => pref.val.enabled).getD true then
        let _ ← (TelegramService.sendDirectMessage agent.val.telegramUserId
          (formatter type)).attempt
        return ()
      else return ()

/-- Create a notification, or refresh the latest one of the same kind within the window. -/
def notify (params : NotifyParams) : NotificationApp (Entry Notification) := do
  let now ← issue .newDate
  let existing ← issue
    (.notificationFindFirst params.agentId params.ticketId params.type (now - dedupWindow))
  let notification ← match existing with
    | some row => do
        let createdAt ← issue .newDate
        issue (.notificationUpdate row.id params.payload createdAt)
    | none =>
        issue
          (.notificationCreate params.agentId params.type params.ticketId params.payload)
  issue
    (.emit (.notificationCreated notification.id params.agentId params.type (some params.ticketId)))
  if existing.isNone then
    dispatchExternalChannels notification.val.agentId params.type
  return notification

/-- What is left of a call that has looked for a recent notification. -/
def refreshOrCreate (params : NotifyParams) (existing : Option (Entry Notification)) :
    NotificationApp (Entry Notification) :=
  match existing with
  | some row => do
      let createdAt ← issue .newDate
      let notification ← issue (.notificationUpdate row.id params.payload createdAt)
      issue (.emit
        (.notificationCreated notification.id params.agentId params.type (some params.ticketId)))
      return notification
  | none => do
      let notification ← issue
        (.notificationCreate params.agentId params.type params.ticketId params.payload)
      issue (.emit
        (.notificationCreated notification.id params.agentId params.type (some params.ticketId)))
      dispatchExternalChannels notification.val.agentId params.type
      return notification

theorem notify_eq (params : NotifyParams) : notify params = (do
    let now ← issue .newDate
    let existing ← issue
      (.notificationFindFirst params.agentId params.ticketId params.type (now - dedupWindow))
    refreshOrCreate params existing) := by
  refine congrArg (Program.call _) (funext fun now => ?_)
  rcases now with _ | now
  · rfl
  · refine congrArg (Program.call _) (funext fun existing => ?_)
    rcases existing with _ | _ | row <;> rfl

def markRead (id : NotificationId) (agentId : AgentId) : NotificationApp Unit :=
  issue (.notificationRead id agentId)

def markAllRead (agentId : AgentId) : NotificationApp Unit :=
  issue (.notificationAllRead agentId)

end NotificationsService

end SupportCrm
