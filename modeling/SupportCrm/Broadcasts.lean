import SupportCrm.Bridge
import SupportCrm.Gateway
import SupportCrm.Wire

/-!
# What the browsers are told

Both processes load `TicketsGateway`, but only the API has a server for it, so what the Workers emit
has to cross the channel first. There it is a text, and what comes out of it is emitted again in the
API.

`broadcast_once` says that none of this shows: whichever process an event is emitted in, and in
whatever order the messages of the channel arrive, the browsers are told of it once and in the
same words.
-/

set_option autoImplicit false

namespace SupportCrm

open Backlogs JsonText

/-! ## The gateway -/

/-- A message from the server to the browsers, to all of them or to those in a room. -/
structure Live where
  name : String
  room : Option JsString
  payload : Value

/-- The payload as JSON has it, on the channel and on the sockets. -/
def DomainEvent.json (dates : Dates) (event : DomainEvent) : Value :=
  .object (jsonProperties ((event.payload dates).map fun field => (js field.1, field.2)))

namespace TicketsGateway

/-- The handlers by the names of their events: what the browsers are told, and whether only those
are that follow the ticket. -/
def listens : String → Option (String × Bool)
  | "ticket.created" => some ("ticket:new", false)
  | "ticket.updated" => some ("ticket:updated", false)
  | "ticket.assigned" => some ("ticket:assigned", false)
  | "message.received" => some ("message:new", false)
  | "message.sent" => some ("message:new", false)
  | "comment.created" => some ("comment:new", false)
  | "agent.typing" => some ("agent:typing", true)
  | _ => none

/-- The room of the ticket in a payload; its identifier is a string. -/
def room (payload : Value) : JsString :=
  js "ticket:" ++ ((payload.get? (js "ticketId")).bind readString).getD (js "undefined")

/-- What a handler does with a payload. -/
def handle (event : String) (payload : Value) : Option Live :=
  (listens event).map fun handler =>
    ⟨handler.1, if handler.2 then some (room payload) else none, payload⟩

end TicketsGateway

/-- What the browsers are to be told of an event. -/
def DomainEvent.live (dates : Dates) (event : DomainEvent) : Option Live :=
  (TicketsGateway.onEvent event).map fun emission =>
    ⟨emission.name, emission.room.map fun ticketId => js "ticket:" ++ js (idText ticketId),
      event.json dates⟩

theorem room_agentTyping (dates : Dates) (ticketId : TicketId) (agentId : AgentId) :
    TicketsGateway.room ((DomainEvent.agentTyping ticketId agentId).json dates) =
      js "ticket:" ++ js (idText ticketId) := by
  rw [TicketsGateway.room, DomainEvent.json, get?_jsonProperties (DomainEvent.nodup_payload _ _)]
  rfl

theorem handle_json (dates : Dates) (event : DomainEvent) :
    TicketsGateway.handle event.name (event.json dates) = event.live dates := by
  cases event with
  | agentTyping ticketId agentId =>
      change some (Live.mk _ (some (TicketsGateway.room _)) _) = _
      rw [room_agentTyping]
      rfl
  | _ => rfl

/-- `NestFactory.create` makes a server, `createApplicationContext` does not. -/
def Process.hasServer : Process → Bool
  | .api => true
  | .workers => false

/-! ## Emitting -/

/-- The names of the events for which `WorkerEventPublisher` has a handler. -/
def WorkerEventPublisher.listens : List String :=
  ["ticket.created", "ticket.updated", "ticket.assigned", "message.received", "message.sent",
    "comment.created", "agent.typing", "notification.created"]

theorem mem_listens_iff (event : DomainEvent) :
    event.name ∈ WorkerEventPublisher.listens ↔ WorkerEventPublisher.handles event = true := by
  cases event <;> simp [DomainEvent.name, WorkerEventPublisher.listens, WorkerEventPublisher.handles]

/-- The text on the channel. -/
def WorkerEventPublisher.text (event : String) (payload : Value) : List Char :=
  (Value.object [(js "event", .string (js event)), (js "data", payload)]).print

/-- It is the text that is published for an event. -/
theorem publish_eq (dates : Dates) (event : DomainEvent) :
    WorkerEventPublisher.publish event.name (event.payload dates) =
      WorkerEventPublisher.text event.name (event.json dates) := rfl

/-- A message of the channel on its way to a subscriber, with the number of the event. -/
structure Relay where
  receiver : Process
  number : ℕ
  text : List Char

/-- `emit` of the emitter of a process. -/
def Process.tells (process : Process) (number : ℕ) (event : String) (payload : Value) :
    Yield Relay (ℕ × Live) :=
  let published : Yield Relay (ℕ × Live) :=
    if .workerEventPublisher ∈ process.providers ∧ event ∈ WorkerEventPublisher.listens then
      ⟨subscribers.map fun receiver =>
        ⟨receiver, number, WorkerEventPublisher.text event payload⟩, []⟩
    else .nothing
  let broadcast : Yield Relay (ℕ × Live) :=
    if NestModule.tickets ∈ process.modules ∧ process.hasServer then
      ⟨[], ((TicketsGateway.handle event payload).map fun live => (number, live)).toList⟩
    else .nothing
  .join [published, broadcast]

/-- A subscriber receives a message of the channel. -/
def Relay.yield (relay : Relay) : Yield Relay (ℕ × Live) :=
  match ApiEventSubscriber.onMessage relay.text with
  | .emitted (some event) (some payload) =>
      match readText event with
      | some event => relay.receiver.tells relay.number event payload
      | none => .nothing
  | _ => .nothing

/-! ## Runs -/

/-- The events that were emitted, each in its process; the messages of the channel under way, and
what the browsers were told. -/
structure Broadcasting where
  emitted : List (Process × DomainEvent)
  backlog : Backlog Relay (ℕ × Live)

namespace Broadcasting

/-- A service emits an event; a message of the channel arrives. -/
inductive Step where
  | emits (process : Process) (event : DomainEvent)
  | arrives (i : ℕ)

def step (dates : Dates) (s : Broadcasting) : Step → Broadcasting
  | .emits process event =>
      ⟨s.emitted ++ [(process, event)],
        s.backlog.add (process.tells s.emitted.length event.name (event.json dates))⟩
  | .arrives i => { s with backlog := s.backlog.work i Relay.yield }

def run (dates : Dates) (steps : List Step) : Broadcasting :=
  steps.foldl (step dates) ⟨[], .empty⟩

/-- What an entry of the ledger says about the event with a number. -/
def about (number : ℕ) (entry : ℕ × Live) : Option Live :=
  if entry.1 = number then some entry.2 else none

/-- What the browsers were told of the event with a number. -/
def told (s : Broadcasting) (number : ℕ) : List Live :=
  s.backlog.ledger.filterMap (about number)

end Broadcasting

/-! ## What a message of the channel comes to -/

theorem onMessage_text (event : String) (payload : Value) :
    ApiEventSubscriber.onMessage (WorkerEventPublisher.text event payload) =
      .emitted (some (.string (js event))) (some payload) := by
  have distinct : js "data" ≠ js "event" := js_injective.ne (by decide)
  rw [ApiEventSubscriber.onMessage, WorkerEventPublisher.text, parse_print]
  change Relayed.emitted _ _ = _
  simp only [get?_cons, if_pos, if_neg distinct, if_neg distinct.symm, Option.or_none]
  rfl

theorem yield_text (receiver : Process) (number : ℕ) (event : String) (payload : Value) :
    Relay.yield ⟨receiver, number, WorkerEventPublisher.text event payload⟩ =
      receiver.tells number event payload := by
  have read : readText (.string (js event)) = some event := congrArg some (scalars_js' event)
  simp only [Relay.yield, onMessage_text, read]

theorem tells_api (number : ℕ) (event : String) (payload : Value) :
    Process.api.tells number event payload =
      ⟨[], ((TicketsGateway.handle event payload).map fun live => (number, live)).toList⟩ := by
  have loaded : NestModule.tickets ∈ Process.api.modules := by decide
  simp [Process.tells, Yield.join, Yield.nothing, Process.hasServer, loaded]

theorem tells_workers (number : ℕ) (event : String) (payload : Value) :
    Process.workers.tells number event payload =
      if event ∈ WorkerEventPublisher.listens then
        ⟨[⟨.api, number, WorkerEventPublisher.text event payload⟩], []⟩
      else .nothing := by
  by_cases listed : event ∈ WorkerEventPublisher.listens <;>
    simp [Process.tells, Yield.join, Yield.nothing, Process.hasServer, listed]

/-- What is relayed is not relayed again. -/
theorem tasks_tells {process : Process} {number : ℕ} {event : String} {payload : Value}
    {relay : Relay} (relayed : relay ∈ (process.tells number event payload).tasks) :
    relay.yield.tasks = [] := by
  cases process with
  | api =>
      rw [tells_api] at relayed
      exact nomatch relayed
  | workers =>
      rw [tells_workers] at relayed
      split at relayed
      · rw [List.mem_singleton.mp relayed, yield_text, tells_api]
      · exact nomatch relayed

theorem tasks_yield {relay relay' : Relay} (relayed : relay' ∈ relay.yield.tasks) :
    relay'.yield.tasks = [] := by
  unfold Relay.yield at relayed
  split at relayed
  · split at relayed
    · exact tasks_tells relayed
    · exact nomatch relayed
  · exact nomatch relayed

namespace Broadcasting

/-- What the browsers will be told of the event with a number when a message of the channel
arrives, and when what it is relayed to arrives. -/
def toCome (number : ℕ) (relay : Relay) : List Live :=
  relay.yield.entries.filterMap (about number) ++
    relay.yield.tasks.flatMap fun relay' => relay'.yield.entries.filterMap (about number)

theorem toCome_of_tasks {number : ℕ} {relay : Relay} (last : relay.yield.tasks = []) :
    toCome number relay = relay.yield.entries.filterMap (about number) := by
  rw [toCome, last, List.flatMap_nil, List.append_nil]

theorem faithful_yield (number : ℕ) (relay : Relay) :
    (relay.yield.entries.filterMap (about number) ++
      relay.yield.tasks.flatMap (toCome number)).Perm (toCome number relay) := by
  have next : relay.yield.tasks.flatMap (toCome number) =
      relay.yield.tasks.flatMap fun relay' => relay'.yield.entries.filterMap (about number) :=
    List.flatMap_congr fun relay' relayed => toCome_of_tasks (tasks_yield relayed)
  rw [next, ← toCome]

/-- What will be told of an event does not depend on the process that emits it. -/
theorem promised_tells (dates : Dates) (process : Process) (n : ℕ) (event : DomainEvent)
    (number : ℕ) :
    (process.tells n event.name (event.json dates)).entries.filterMap (about number) ++
        (process.tells n event.name (event.json dates)).tasks.flatMap (toCome number) =
      if n = number then (event.live dates).toList else [] := by
  have api : (Process.api.tells n event.name (event.json dates)).entries.filterMap (about number) =
      if n = number then (event.live dates).toList else [] := by
    rw [tells_api, handle_json]
    by_cases own : n = number <;> cases event.live dates <;> simp [about, own]
  cases process with
  | api => rw [api, tells_api, List.flatMap_nil, List.append_nil]
  | workers =>
      rw [tells_workers]
      split
      · rw [List.filterMap_nil, List.nil_append, List.flatMap_singleton,
          toCome_of_tasks (by rw [yield_text, tells_api]), yield_text, api]
      · next unlisted =>
        have untold : event.live dates = none := by
          rw [mem_listens_iff] at unlisted
          cases event with
          | ticketClosed ticketId byAgentId => rfl
          | notificationCreated notificationId agentId type ticketId => rfl
          | _ => exact absurd rfl unlisted
        simp [Yield.nothing, untold]

/-- Of every event that was emitted so far the browsers are told, or will be. -/
def Promises (dates : Dates) (s : Broadcasting) : Prop :=
  ∀ number, (s.backlog.promised (about number) (toCome number)).Perm
    (s.emitted[number]?.elim [] fun emission => (emission.2.live dates).toList)

theorem promises_step {dates : Dates} {s : Broadcasting} (promises : s.Promises dates)
    (step : Step) : (s.step dates step).Promises dates := by
  intro number
  cases step with
  | emits process event =>
      refine (Backlog.promised_add _ _).trans ?_
      rw [promised_tells]
      rcases lt_trichotomy number s.emitted.length with old | rfl | unknown
      · rw [if_neg old.ne', List.append_nil]
        simpa [Broadcasting.step, List.getElem?_append_left old] using promises number
      · have nothing := promises s.emitted.length
        rw [List.getElem?_eq_none le_rfl] at nothing
        simp [Broadcasting.step, nothing.eq_nil]
      · have nothing := promises number
        rw [List.getElem?_eq_none unknown.le] at nothing
        have later : (s.emitted ++ [(process, event)])[number]? = none :=
          List.getElem?_eq_none (by rw [List.length_append]; exact unknown)
        simp [Broadcasting.step, nothing.eq_nil, unknown.ne, later]
  | arrives i => exact (Backlog.promised_work (faithful_yield number) _ _).trans (promises number)

theorem promises_run (dates : Dates) (steps : List Step) : (run dates steps).Promises dates := by
  induction steps using List.reverseRecOn with
  | nil => exact fun number => .refl _
  | append_singleton steps step ih =>
      rw [run, List.foldl_append]
      exact promises_step ih step

end Broadcasting

open Broadcasting

/-- **The browsers are told once.** An event that a service emits in either process is told to the
browsers at most once, and once when the messages of the channel have arrived: by the name of the
gateway for it, in the room of its ticket if it is for that alone, and with the same payload
whichever process it comes from. -/
theorem broadcast_once (dates : Dates) (steps : List Broadcasting.Step) {number : ℕ}
    {process : Process} {event : DomainEvent}
    (emitted : (Broadcasting.run dates steps).emitted[number]? = some (process, event)) :
    ((Broadcasting.run dates steps).told number).Sublist (event.live dates).toList ∧
      ((Broadcasting.run dates steps).backlog.Settled →
        (Broadcasting.run dates steps).told number = (event.live dates).toList) := by
  have promised := promises_run dates steps number
  rw [emitted, Option.elim_some] at promised
  have whole : (run dates steps).backlog.promised (about number) (toCome number) =
      (event.live dates).toList := by
    revert promised
    cases event.live dates with
    | none => exact List.Perm.eq_nil
    | some live => exact List.perm_singleton.mp
  constructor
  · rw [← whole]
    exact List.sublist_append_left _ _
  · intro settled
    rw [← whole, Backlog.promised_of_settled settled]
    rfl

/-! The Workers record a customer's message while an agent assigns the ticket. -/

namespace Exchange

def steps : List Broadcasting.Step :=
  [.emits .workers (.messageReceived 3 4 true), .emits .api (.ticketAssigned 3 (some (some 1)) none 2),
    .arrives 0]

end Exchange

theorem broadcast_once_received :
    (Broadcasting.run Evening.dates Exchange.steps).told 0 =
      ((DomainEvent.messageReceived 3 4 true).live Evening.dates).toList := by
  have emitted : (Broadcasting.run Evening.dates Exchange.steps).emitted[0]? =
      some (.workers, .messageReceived 3 4 true) := rfl
  have settled : (Broadcasting.run Evening.dates Exchange.steps).backlog.Settled := by
    have relayed : (DomainEvent.messageReceived 3 4 true).name ∈ WorkerEventPublisher.listens :=
      (mem_listens_iff _).mpr rfl
    simp [Broadcasting.run, Exchange.steps, Broadcasting.step, Backlog.Settled, Backlog.work,
      Backlog.add, Backlog.empty, tells_workers, relayed, tells_api, yield_text]
  exact (broadcast_once Evening.dates Exchange.steps emitted).2 settled

end SupportCrm
