import SupportCrm.Library.Backlog
import SupportCrm.Schema

/-!
# The event bridge

Two processes run the same modules in part, each with an event emitter of its own. The
Workers publish their events to a Redis channel, and the API emits on its own emitter what
arrives there. This module gives the module graph of both processes, the handlers that
listen where, and the steps in which events, messages on the channel and calls of `notify`
go on, in any order.

The gateway is left out: its handlers write to the sockets of browsers and neither emit
events nor notify. An event keeps the number under which it was first emitted, wherever it
is emitted again.
-/

set_option autoImplicit false

namespace SupportCrm

open Backlogs

/-! ## Modules and processes -/

/-- The modules of the repository. -/
inductive NestModule where
  | app
  | worker
  | coreInfra
  | telegramWebhook
  | auth
  | excludedSenders
  | tickets
  | notificationsHttp
  | notifications
  | chatsHttp
  | chats
  | analyticsHttp
  | analytics
  | savedViews
  | cannedResponses
  | organizations
  | teams
  | health
  | uploads
  | telegram
  | routing
  | workers
  deriving DecidableEq, Repr

/-- The providers that take part in the exchange of events. -/
inductive Provider where
  | workerEventPublisher
  | apiEventSubscriber
  | notificationEventsListener
  deriving DecidableEq, Repr

namespace NestModule

/-- The modules of the repository that a module imports. -/
def imports : NestModule → List NestModule
  | .app => [.coreInfra, .telegramWebhook, .auth, .excludedSenders, .tickets, .notificationsHttp,
      .chatsHttp, .analyticsHttp, .savedViews, .cannedResponses, .organizations, .teams, .health,
      .uploads]
  | .worker => [.coreInfra, .workers, .notifications]
  | .coreInfra => []
  | .telegramWebhook => [.telegram]
  | .auth => [.telegram]
  | .excludedSenders => [.telegram, .auth]
  | .tickets => [.chats, .routing, .telegram, .auth, .excludedSenders]
  | .notificationsHttp => [.notifications, .auth]
  | .notifications => [.telegram]
  | .chatsHttp => [.chats, .auth]
  | .chats => []
  | .analyticsHttp => [.analytics, .auth]
  | .analytics => []
  | .savedViews => [.auth]
  | .cannedResponses => [.auth]
  | .organizations => [.auth]
  | .teams => [.auth]
  | .health => []
  | .uploads => [.auth]
  | .telegram => []
  | .routing => []
  | .workers => [.tickets, .telegram, .analytics]

def providers : NestModule → List Provider
  | .app => [.apiEventSubscriber]
  | .worker => [.workerEventPublisher]
  | .notifications => [.notificationEventsListener]
  | _ => []

/-- A module is loaded once, however often it is imported. -/
def scan : ℕ → List NestModule → List NestModule → List NestModule
  | 0, _, loaded => loaded
  | _ + 1, [], loaded => loaded
  | fuel + 1, module :: rest, loaded =>
      if module ∈ loaded then scan fuel rest loaded
      else scan fuel (module.imports ++ rest) (loaded ++ [module])

end NestModule

/-- The processes: `main.ts` and `worker.ts`. -/
inductive Process where
  | api
  | workers
  deriving DecidableEq, Repr

namespace Process

def root : Process → NestModule
  | .api => .app
  | .workers => .worker

def modules (process : Process) : List NestModule := NestModule.scan 64 [process.root] []

def providers (process : Process) : List Provider :=
  process.modules.flatMap NestModule.providers

/-- The scan is complete: nothing that a loaded module imports is left out. -/
theorem imports_loaded (process : Process) :
    ∀ module ∈ process.modules, ∀ imported ∈ module.imports, imported ∈ process.modules := by
  cases process <;> decide

@[simp] theorem providers_api :
    Process.api.providers = [.apiEventSubscriber, .notificationEventsListener] := rfl

@[simp] theorem providers_workers :
    Process.workers.providers = [.workerEventPublisher, .notificationEventsListener] := rfl

end Process

/-- The processes in which `ApiEventSubscriber` listens to the channel. -/
def subscribers : List Process :=
  [Process.api, .workers].filter fun process => Provider.apiEventSubscriber ∈ process.providers

@[simp] theorem subscribers_eq : subscribers = [.api] := rfl

/-! ## Handlers -/

/-- The events for which `WorkerEventPublisher` has a handler. -/
def WorkerEventPublisher.handles : DomainEvent → Bool
  | .ticketCreated _ | .ticketUpdated _ _ | .ticketAssigned _ _ _ _ | .messageReceived _ _ _
  | .messageSent _ _ _ | .commentCreated _ _ _ | .agentTyping _ _
  | .notificationCreated _ _ _ _ => true
  | .ticketClosed _ _ => false

/-- The parameters of one call of `NotificationsService.notify`; the payload has one field. -/
structure NotifyParams where
  agentId : AgentId
  type : String
  ticketId : TicketId
  payload : String × ℕ
  deriving DecidableEq, Repr

/-- The agents to whom tickets are assigned. -/
abbrev Assignees := TicketId → Option AgentId

namespace NotificationEventsListener

def onMessageReceived (assignees : Assignees) (ticketId : TicketId) (messageId : MessageId) :
    List NotifyParams :=
  match assignees ticketId with
  | none => []
  | some assigneeId => [⟨assigneeId, "message.received", ticketId, ("messageId", messageId)⟩]

def onTicketAssigned (ticketId : TicketId) (assigneeId : Option (Option AgentId))
    (byAgentId : AgentId) : List NotifyParams :=
  match assigneeId.join with
  | none => []
  | some assigneeId =>
      if assigneeId = byAgentId then []
      else [⟨assigneeId, "ticket.assigned", ticketId, ("byAgentId", byAgentId)⟩]

def onCommentCreated (ticketId : TicketId) (commentId : CommentId) (mentions : List AgentId) :
    List NotifyParams :=
  mentions.map fun agentId => ⟨agentId, "comment.mention", ticketId, ("commentId", commentId)⟩

/-- The events for which the listener has a handler. -/
def handles : DomainEvent → Bool
  | .messageReceived _ _ _ | .ticketAssigned _ _ _ _ | .commentCreated _ _ _ => true
  | _ => false

/-- The calls of `notify` that the handler of an event makes, one for each recipient. -/
def handle (assignees : Assignees) : DomainEvent → List NotifyParams
  | .messageReceived ticketId messageId _ => onMessageReceived assignees ticketId messageId
  | .ticketAssigned ticketId assigneeId _ byAgentId =>
      onTicketAssigned ticketId assigneeId byAgentId
  | .commentCreated ticketId commentId mentions => onCommentCreated ticketId commentId mentions
  | _ => []

end NotificationEventsListener

/-! ## Tasks -/

/-- What is under way: a message on the channel to a subscriber, a handler of the listener
that has been called, a call of `notify` that has not returned. -/
inductive Task where
  | message (receiver : Process) (number : ℕ) (event : DomainEvent)
  | handler (process : Process) (number : ℕ) (event : DomainEvent)
  | notify (process : Process) (number : ℕ) (params : NotifyParams)
  deriving DecidableEq, Repr

/-- One pass of a handler of the listener, with the assignees that it read. -/
structure Pass where
  process : Process
  number : ℕ
  event : DomainEvent
  assignees : Assignees

def Pass.calls (pass : Pass) : List NotifyParams :=
  NotificationEventsListener.handle pass.assignees pass.event

/-- What the ledger records. -/
inductive Fact where
  | published (process : Process) (number : ℕ) (event : DomainEvent)
  | handled (pass : Pass)
  | notified (number : ℕ) (params : NotifyParams)

namespace Fact

/-- The process, if the fact is that the event with a number was published. -/
def publisher? (number : ℕ) : Fact → Option Process
  | .published process number' _ => if number' = number then some process else none
  | .handled _ | .notified _ _ => none

def pass? (number : ℕ) : Fact → Option Pass
  | .handled pass => if pass.number = number then some pass else none
  | .published _ _ _ | .notified _ _ => none

def call? (number : ℕ) : Fact → Option NotifyParams
  | .notified number' params => if number' = number then some params else none
  | .published _ _ _ | .handled _ => none

end Fact

/-- What a provider does when an event is emitted in its process. -/
def Provider.react (process : Process) (number : ℕ) (event : DomainEvent) :
    Provider → Yield Task Fact
  | .workerEventPublisher =>
      if WorkerEventPublisher.handles event then
        ⟨subscribers.map fun receiver => .message receiver number event,
          [.published process number event]⟩
      else .nothing
  | .notificationEventsListener =>
      if NotificationEventsListener.handles event then ⟨[.handler process number event], []⟩
      else .nothing
  | .apiEventSubscriber => .nothing

/-- `emit` of the emitter of a process: every provider that listens is called. -/
def Process.emit (process : Process) (number : ℕ) (event : DomainEvent) : Yield Task Fact :=
  .join (process.providers.map (Provider.react process number event))

/-- What comes of a task. A handler reads and calls `notify` for each recipient. -/
def Task.yield (assignees : Assignees) : Task → Yield Task Fact
  | .message receiver number event => receiver.emit number event
  | .handler process number event =>
      let calls := NotificationEventsListener.handle assignees event
      ⟨calls.map (.notify process number),
        .handled ⟨process, number, event, assignees⟩ :: calls.map (.notified number)⟩
  | .notify _ _ _ => .nothing

/-! ## Runs -/

/-- Both processes, the channel and the assignees in the database. -/
structure Bridge where
  assignees : Assignees
  emitted : List (Process × DomainEvent)
  backlog : Backlog Task Fact

namespace Bridge

def start (assignees : Assignees) : Bridge := ⟨assignees, [], .empty⟩

/-- A service emits an event, which gets the next number. -/
def emits (s : Bridge) (process : Process) (event : DomainEvent) : Bridge where
  assignees := s.assignees
  emitted := s.emitted ++ [(process, event)]
  backlog := s.backlog.add (process.emit s.emitted.length event)

/-- A service emits an event; tickets are assigned otherwise; a task is done. A call of
`notify` comes to an end with the notification that it has created or refreshed, or it
fails. -/
inductive Step where
  | emits (process : Process) (event : DomainEvent)
  | assigns (assignees : Assignees)
  | works (i : ℕ) (notification : Option NotificationId)

def step (s : Bridge) : Step → Bridge
  | .emits process event => s.emits process event
  | .assigns assignees => { s with assignees := assignees }
  | .works i notification =>
      let s' := { s with backlog := s.backlog.work i (Task.yield s.assignees) }
      match s.backlog.pending[i]?, notification with
      | some (.notify process _ params), some id =>
          s'.emits process
            (.notificationCreated id params.agentId params.type (some params.ticketId))
      | _, _ => s'

def run (s : Bridge) (steps : List Step) : Bridge := steps.foldl step s

/-- The passes of the listener over the event with a number. -/
def passes (s : Bridge) (number : ℕ) : List Pass :=
  s.backlog.ledger.filterMap (Fact.pass? number)

/-- The calls of `notify` made for the event with a number. -/
def calls (s : Bridge) (number : ℕ) : List NotifyParams :=
  s.backlog.ledger.filterMap (Fact.call? number)

/-- The processes that have published the event with a number. -/
def publishers (s : Bridge) (number : ℕ) : List Process :=
  s.backlog.ledger.filterMap (Fact.publisher? number)

/-- **Acted on exactly once.** The calls of `notify` for an event are those of one pass of
the handler for it, and there are none when the listener has no handler. -/
def ActedOnce (s : Bridge) (number : ℕ) (event : DomainEvent) : Prop :=
  if NotificationEventsListener.handles event then
    ∃ pass ∈ s.passes number, pass.event = event ∧ s.calls number = pass.calls
  else s.calls number = []

/-- **Never relayed back.** The API publishes nothing, so an event is published once at most,
by the Workers that emitted it. -/
def NotRelayedBack (s : Bridge) (number : ℕ) (origin : Process) : Prop :=
  match origin with
  | .api => s.publishers number = []
  | .workers => s.publishers number = [] ∨ s.publishers number = [.workers]

end Bridge

end SupportCrm
