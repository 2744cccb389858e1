import SupportCrm.Ingest
import SupportCrm.Invariants
import SupportCrm.Library.RelyGuarantee
import SupportCrm.Outbound

/-!
# The system

The API process and the Workers process serve requests over one store. Any number of
requests may be under way; one step is one command of one of them, and between two steps
time may pass. `World.after` is the state a schedule of such steps reaches. A request that
is scheduled no more is one whose process died.
-/

set_option autoImplicit false

namespace SupportCrm

open KeyedTable AtomicProgram

/-- The requests of agents and admins, and the jobs of the queues. -/
inductive Request where
  | ingest (message : NormalizedIncomingMessage)
  | outbound (job : OutboundReplyJob)
  | patch (id : TicketId) (dto : PatchTicketDto) (byAgentId : AgentId)
  | assign (id : TicketId) (agentId byAgentId : AgentId) (reason : Option String)
  | claim (id : TicketId) (byAgentId : AgentId)
  | close (id : TicketId) (byAgentId : AgentId)
  | reopen (id : TicketId) (byAgentId : AgentId)
  | snooze (id : TicketId) (snoozeUntil : Option (Option Time)) (byAgentId : AgentId)
  | bulk (action : BulkAction) (byAgentId : AgentId) (ticketIds : List TicketId)
  | reply (params : OutgoingReply)
  | markNotCustomer (id : TicketId) (byAgentId : AgentId)
  | createExcluded (params : CreateExcludedSender)
  | updateExcluded (id : ExcludedSenderId) (name note : Option String) (isActive : Option Bool)
  | removeExcluded (id : ExcludedSenderId)
  | updateAgent (id : AgentId) (isActive : Option Bool)
  deriving DecidableEq

/-- The program that serves a request. -/
def Request.program (config : Config) : Request → App Unit
  | .ingest message => discard (process config message)
  | .outbound job => processOutbound job
  | .patch id dto byAgentId => discard (SupportCrm.patch id dto (some byAgentId))
  | .assign id agentId byAgentId reason =>
      discard (SupportCrm.assign id (some (some agentId)) byAgentId reason)
  | .claim id byAgentId => discard (SupportCrm.assign id (some (some byAgentId)) byAgentId none)
  | .close id byAgentId => discard (SupportCrm.close id byAgentId)
  | .reopen id byAgentId => discard (SupportCrm.reopen id byAgentId)
  | .snooze id snoozeUntil byAgentId => discard (SupportCrm.snooze id snoozeUntil byAgentId)
  | .bulk action byAgentId ticketIds => discard (SupportCrm.bulk action byAgentId ticketIds)
  | .reply params => discard (recordOutgoingReply config.publicUrl params)
  | .markNotCustomer id byAgentId => discard (markTicketSenderAsNotCustomer id byAgentId)
  | .createExcluded params => discard (createExcludedSender params)
  | .updateExcluded id name note isActive => updateExcludedSender id name note isActive
  | .removeExcluded id => removeExcludedSender id
  | .updateAgent id isActive => SupportCrm.updateAgent id isActive

namespace World

/-- Milliseconds pass. -/
def advance (milliseconds : ℕ) (w : World) : World := w.setNow (w.now + milliseconds)

end World

/-- The requests under way. -/
abbrev Requests := Pool Call Call.Resp Err Unit World

/-- The requests at their beginning. -/
def Requests.start (config : Config) (requests : List Request) (w : World) : Requests :=
  ⟨requests.map (Request.program config), w⟩

/-- The requests after a schedule of steps. -/
abbrev Requests.exec (pool : Requests) (schedule : List (Act ℕ)) : Requests :=
  Pool.exec (fun _ => World.perform) World.advance pool schedule

/-- The state that requests reach along a schedule. -/
def World.after (config : Config) (requests : List Request) (schedule : List (Act ℕ))
    (w : World) : World :=
  ((Requests.start config requests w).exec schedule).state

theorem World.after_append (config : Config) (requests : List Request) (w : World)
    (first second : List (Act ℕ)) : w.after config requests (first ++ second) =
      (((Requests.start config requests w).exec first).exec second).state :=
  congrArg Pool.state (Pool.exec_append _ first second)

/-- What every command keeps while time passes holds in every state the requests reach. -/
theorem World.after_invariant {I : World → Prop} (commands : ∀ c w, I w → I (w.perform c).2)
    (clock : ∀ milliseconds w, I w → I (w.advance milliseconds)) {config : Config}
    {requests : List Request} {schedule : List (Act ℕ)} {w : World} (holds : I w) :
    I (w.after config requests schedule) :=
  Pool.invariant_exec (P := fun _ _ _ => True) (N := fun _ _ => True)
    (fun _ c w _ => commands c w) (fun milliseconds w _ => clock milliseconds w)
    (Pool.meets_of_forall (fun _ _ _ => trivial) (fun _ _ => trivial) _ _) holds

theorem World.Linked.after {w : World} (linked : w.Linked) (config : Config)
    (requests : List Request) (schedule : List (Act ℕ)) :
    (w.after config requests schedule).Linked :=
  World.after_invariant (I := World.Linked) (fun c _ holds => Linked.perform holds c)
    (fun _ _ holds => Linked.setNow holds _) linked

theorem Agent.free_empty : (Table.empty : Table Agent.key).Free ⟨100, true⟩ := by
  decide

/-- A store with one active agent, as the seed script leaves it, and nothing else. -/
def World.seeded : World :=
  { World.initial 0 fun n => 1000 + n with
    agents := Table.empty.insert ⟨100, true⟩ Agent.free_empty }

theorem World.linked_seeded : World.seeded.Linked := by
  constructor <;> simp [World.seeded, World.initial, Table.empty]

/-- The same store with a second agent. -/
def World.paired : World :=
  { World.seeded with agents := World.seeded.agents.insert ⟨101, true⟩ (by decide) }

/-- A request that runs to its end with no other. -/
def alone (steps : ℕ) : List (Act ℕ) := List.replicate steps (.turn 0)

/-- The first requests, one after another, each with a number of steps. -/
def oneByOne (requests steps : ℕ) : List (Act ℕ) :=
  (List.range requests).flatMap fun i => List.replicate steps (.turn i)

end SupportCrm
