import SupportCrm.Store

/-!
# Tickets

`TicketsService`: a new thread, the patch with which every change of status, priority,
assignee, team and labels is made, and the requests built on it.
-/

set_option autoImplicit false

namespace SupportCrm

open KeyedTable AtomicProgram

/-- `TicketsService.createForNewThread`. -/
def createForNewThread (params : NewTicket) : App TicketView := do
  let ticket ← perform (.ticketCreate params)
  perform (.emit (.ticketCreated ticket.ticket.id))
  return ticket

/-- `TicketsService.getById`, and `requireTicket`, which reads less of the ticket. -/
def getById (id : TicketId) : App TicketView := do
  match ← perform (.ticketById id) with
  | none => Program.throw (.notFound "Ticket not found")
  | some ticket => return ticket

/-- The fields of a patch that do not need the clock. -/
def PatchTicketDto.data (dto : PatchTicketDto) : TicketData where
  status := dto.status
  priority := dto.priority
  assignee := dto.assignee_id
  team := dto.team_id
  snoozeUntil := dto.snooze_until
  jiraKey := dto.jira_key

/-- The update that `patch` builds from its request. -/
def patchData (dto : PatchTicketDto) (byAgentId : Option AgentId) : App TicketData :=
  match dto.status with
  | some .closed => do
      let now ← perform .newDate
      return { dto.data with closedAt := some now, closedBy := byAgentId }
  | some .solved => do
      let now ← perform .newDate
      return { dto.data with resolvedAt := some now }
  | _ => return dto.data

/-- `TicketsService.patch`. -/
def patch (id : TicketId) (dto : PatchTicketDto) (byAgentId : Option AgentId) :
    App TicketView := do
  let _ ← getById id
  let data ← patchData dto byAgentId
  let ticket ← perform (.patchTransaction id data dto byAgentId)
  perform (.emit (.ticketUpdated id dto))
  if dto.status = some .closed then perform (.emit (.ticketClosed id byAgentId))
  return ticket

/-- `TicketsService.assign`; a claim assigns to the agent who asks. A bulk request passes on
what stands under `agent_id`, which may be nothing or `null`. -/
def assign (id : TicketId) (agentId : Option (Option AgentId)) (byAgentId : AgentId)
    (reason : Option String) : App TicketView := do
  let ticket ← getById id
  let previousAssigneeId := ticket.ticket.val.assigneeId
  let updated ← perform (.assignTransaction id agentId byAgentId previousAssigneeId reason)
  perform (.emit (.ticketAssigned id agentId previousAssigneeId byAgentId))
  return updated

/-- `TicketsService.close`. -/
def close (id : TicketId) (byAgentId : AgentId) : App TicketView :=
  patch id { status := some .closed } (some byAgentId)

/-- `TicketsService.reopen`. -/
def reopen (id : TicketId) (byAgentId : AgentId) : App TicketView :=
  patch id { status := some .open } (some byAgentId)

/-- `TicketsService.snooze`; nothing checks that the body has a `snooze_until`. -/
def snooze (id : TicketId) (snoozeUntil : Option (Option Time)) (byAgentId : AgentId) :
    App TicketView :=
  patch id { status := some .on_hold, snooze_until := snoozeUntil } (some byAgentId)

/-- The actions of a bulk request, each with what it reads from the payload. `BulkActionDto`
asks no more of the payload than to be an object: either identifier may be missing, and
`agent_id` may be `null`. -/
inductive BulkAction where
  | assign (agent_id : Option (Option AgentId))
  | close
  | label (label_id : Option LabelId)
  deriving DecidableEq, Repr

/-- One round of the loop in `bulk`. -/
def bulkOne (action : BulkAction) (byAgentId : AgentId) (id : TicketId) : App TicketView :=
  match action with
  | .assign agent_id => assign id agent_id byAgentId none
  | .close => close id byAgentId
  | .label none => do
      let _ ← getById id
      let _ ← getById id
      -- the patch finds the ticket, then Prisma refuses the missing label: nothing is committed
      Program.throw .validation
  | .label (some label_id) => do
      let ticket ← getById id
      let labelIds := ticket.labels.map fun label => label.1.val.labelId
      -- a set keeps its order of insertion, and a label that it has stays where it is
      let added := if label_id ∈ labelIds then labelIds else labelIds ++ [label_id]
      patch id { labels := some added } (some byAgentId)

/-- `TicketsService.bulk`. -/
def bulk (action : BulkAction) (byAgentId : AgentId) : List TicketId → App (List TicketView)
  | [] => return []
  | id :: rest => do
      let result ← bulkOne action byAgentId id
      let results ← bulk action byAgentId rest
      return result :: results

end SupportCrm
