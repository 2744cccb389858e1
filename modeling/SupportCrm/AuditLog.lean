import SupportCrm.Footprint

/-!
# The audit log

`TicketsService.listEvents` returns the events of a ticket as its full audit log. Replaying
them over the values with which the ticket was created gives its current values, as long as
no ticket is closed behind the log: `markTicketSenderAsNotCustomer` closes a ticket without
an event, and every other write logs what it changes (`World.audited_perform`).
`audit_log_complete_iff` says this for every run of requests from the creation of a ticket
on.
-/

set_option autoImplicit false

namespace SupportCrm

open KeyedTable AtomicProgram

/-! ## Replay -/

/-- The values of a ticket for which the log accounts. -/
structure TicketValues where
  status : TicketStatus
  priority : TicketPriority
  assigneeId : Option AgentId
  teamId : Option TeamId
  labels : List LabelId
  deriving DecidableEq, Repr

/-- Apply what the payload of an event gives. -/
def TicketEventPayload.apply : TicketEventPayload → TicketValues → TicketValues
  | .updated dto, values =>
      { status := dto.status.getD values.status
        priority := dto.priority.getD values.priority
        assigneeId := dto.assignee_id.getD values.assigneeId
        teamId := dto.team_id.getD values.teamId
        labels := dto.labels.getD values.labels }
  | .assigned agentId _ _, values =>
      { values with assigneeId := agentId.getD values.assigneeId }

/-- Replay events over initial values, the oldest first. -/
def replay (initial : TicketValues) (events : List TicketEvent) : TicketValues :=
  events.foldl (fun values event => event.payload.apply values) initial

theorem replay_concat (initial : TicketValues) (events : List TicketEvent) (event : TicketEvent) :
    replay initial (events ++ [event]) = event.payload.apply (replay initial events) := by
  simp [replay]

def Ticket.values (ticket : Ticket) (labels : List LabelId) : TicketValues where
  status := ticket.status
  priority := ticket.priority
  assigneeId := ticket.assigneeId
  teamId := ticket.teamId
  labels := labels

/-- The update of a patch writes what its payload gives. -/
theorem PatchTicketDto.Builds.values {dto : PatchTicketDto} {byAgentId : Option AgentId}
    {data : TicketData} (builds : dto.Builds byAgentId data) (now : Time) (ticket : Ticket)
    (labels : List LabelId) :
    (data.apply now ticket).values (dto.labels.getD labels) =
      (TicketEventPayload.updated dto).apply (ticket.values labels) := by
  obtain ⟨resolvedAt, closedAt, closedBy, rfl, -⟩ := builds.stamped
  rfl

namespace World

variable {w w' : World} {id : TicketId}

/-- The current values of a ticket. -/
def ticketValues (w : World) (id : TicketId) : Option TicketValues :=
  (w.tickets.find? id).map fun ticket => ticket.val.values (labelsOf w.ticketLabels id)

/-- The events of a ticket in the order in which they were stored. -/
def eventsOf (ticketEvents : Table TicketEvent.key) (id : TicketId) : List TicketEvent :=
  (ticketEvents.rows.map Entry.val).filter fun event => event.ticketId = id

/-- `TicketsService.listEvents`: the newest first. Of events with the same time, whose order
the query leaves open, the one stored later comes first. -/
def listEvents (w : World) (id : TicketId) : List TicketEvent :=
  (eventsOf w.ticketEvents id).reverse.mergeSort fun newer older => older.createdAt ≤ newer.createdAt

/-- Replaying the log of a ticket over its initial values gives its current values. -/
def LogComplete (w : World) (id : TicketId) (initial : TicketValues) : Prop :=
  w.ticketValues id = some (replay initial (w.listEvents id).reverse)

instance (w : World) (id : TicketId) (initial : TicketValues) :
    Decidable (w.LogComplete id initial) :=
  inferInstanceAs (Decidable (_ = _))

/-- A command does not close the ticket behind its log: where it closes the ticket without
an event, the ticket is closed already, or the agent named for it does not exist. -/
def logs (w : World) (id : TicketId) : Call → Bool
  | .closeTicket other _ byAgentId =>
      other ≠ id || !w.hasAgent (some byAgentId) ||
        (w.tickets.find? id).all fun ticket => ticket.val.status = .closed
  | _ => true

/-! ## One command -/

/-- What a command makes of the values and the events of a ticket. -/
inductive Audited (w : World) (id : TicketId) (values : TicketValues) (events : List TicketEvent) :
    Call → TicketValues → List TicketEvent → Prop where
  | keeps (c : Call) (logged : w.logs id c = true) : Audited w id values events c values events
  | logged (c : Call) (event : TicketEvent) (created : event.createdAt = w.now)
      (logged : w.logs id c = true) :
      Audited w id values events c (event.payload.apply values) (events ++ [event])
  | closes (closedAt : Time) (byAgentId : AgentId) (agent : w.hasAgent (some byAgentId) = true) :
      Audited w id values events (.closeTicket id closedAt byAgentId)
        { values with status := .closed } events

theorem ticketValues_eq_some_iff {values : TicketValues} :
    w.ticketValues id = some values ↔ ∃ ticket, w.tickets.find? id = some ticket ∧
      ticket.val.values (labelsOf w.ticketLabels id) = values :=
  Option.map_eq_some_iff

theorem eventsOf_insert (ticketEvents : Table TicketEvent.key) (event : TicketEvent) :
    eventsOf (ticketEvents.insert event TicketEvent.free) id =
      eventsOf ticketEvents id ++ if event.ticketId = id then [event] else [] := by
  by_cases own : event.ticketId = id <;> simp [eventsOf, own]

/-- An update of one ticket leaves the values of the others, and of its own ticket what is
written. -/
theorem ticketValues_update {other : TicketId} {data : TicketData} {ticket : Entry Ticket}
    (found : w.tickets.find? id = some ticket)
    (tickets : w'.tickets = w.tickets.update other (data.apply w.now) (data.apply_key w.now)) :
    w'.ticketValues id = some ((if id = other then data.apply w.now ticket.val else
      ticket.val).values (labelsOf w'.ticketLabels id)) := by
  rw [ticketValues, tickets, Table.find?_update, found]
  obtain rfl := Table.id_of_find? found
  by_cases own : ticket.id = other <;> simp [Entry.change, own]

/-- Closing a ticket behind its log. -/
theorem audited_closeTicket {other : TicketId} {closedAt : Time} {byAgentId : AgentId}
    {ticket : Entry Ticket} (found : w.tickets.find? id = some ticket) :
    ∃ values events, w.Audited id (ticket.val.values (labelsOf w.ticketLabels id))
        (eventsOf w.ticketEvents id)
        (.closeTicket other closedAt byAgentId) values events ∧
      (w.perform (.closeTicket other closedAt byAgentId)).2.ticketValues id = some values ∧
      eventsOf (w.perform (.closeTicket other closedAt byAgentId)).2.ticketEvents id = events := by
  have kept : w.ticketValues id = some (ticket.val.values (labelsOf w.ticketLabels id)) :=
    ticketValues_eq_some_iff.mpr ⟨ticket, found, rfl⟩
  cases updated : w.ticketUpdate .foreignKeyConstraint other
      { status := some .closed, closedAt := some closedAt, closedBy := some byAgentId } with
  | error e =>
      have failed : w.perform (.closeTicket other closedAt byAgentId) = (.error e, w) :=
        perform_of_error (by simp [effect, updated, Except.map])
      rw [failed]
      refine ⟨_, _, .keeps _ ?_, kept, rfl⟩
      by_contra unlogged
      simp only [logs, ne_eq, decide_not, Bool.or_eq_true, Bool.not_eq_eq_eq_not, Bool.not_true,
        decide_eq_false_iff_not, not_or, Decidable.not_not, Bool.not_eq_false] at unlogged
      obtain ⟨⟨rfl, agent⟩, -⟩ := unlogged
      cases updated.symm.trans (ticketUpdate_eq_ok_iff.mpr
        ⟨by simp [found], by simpa [hasAgent, hasTeam] using agent, rfl⟩)
  | ok w' =>
      have performed : w.perform (.closeTicket other closedAt byAgentId) = (.ok (), w') :=
        perform_of_ok (by simp [effect, updated, Except.map])
      obtain ⟨-, related, rfl⟩ := ticketUpdate_eq_ok_iff.mp updated
      have agent : w.hasAgent (some byAgentId) = true := by
        simpa [hasTeam, hasAgent] using related
      rw [performed, ticketValues_update found rfl]
      by_cases own : id = other
      · subst own
        rw [if_pos rfl]
        exact ⟨_, _, .closes closedAt byAgentId agent, rfl, rfl⟩
      · rw [if_neg own]
        refine ⟨_, _, .keeps _ ?_, rfl, rfl⟩
        simp [logs, Ne.symm own]

/-- **Every command of a request logs what it writes**, closing behind the log apart. -/
theorem audited_perform {c : Call} {request : Request} (performs : request.Performs c)
    {values : TicketValues} (current : w.ticketValues id = some values) :
    ∃ values' events, w.Audited id values (eventsOf w.ticketEvents id) c values' events ∧
      (w.perform c).2.ticketValues id = some values' ∧
      eventsOf (w.perform c).2.ticketEvents id = events := by
  obtain ⟨ticket, found, rfl⟩ := ticketValues_eq_some_iff.mp current
  by_cases closing : ∃ other closedAt byAgentId, c = .closeTicket other closedAt byAgentId
  · obtain ⟨other, closedAt, byAgentId, rfl⟩ := closing
    exact audited_closeTicket found
  have logged : w.logs id c = true := by
    cases c <;> first | rfl | exact absurd ⟨_, _, _, rfl⟩ closing
  have step := w.perform_step c
  generalize (w.perform c).2 = w' at step
  cases step
  case close => exact absurd ⟨_, _, _, rfl⟩ closing
  case ticketCreate data chat customer =>
    refine ⟨_, _, .keeps _ logged, ?_, rfl⟩
    exact ticketValues_eq_some_iff.mpr ⟨ticket, Table.find?_insert_of_some Ticket.free found, rfl⟩
  case patch other data dto byAgentId ticketLabels present relabels =>
    have builds : dto.Builds byAgentId data := performs.builds
    rw [ticketValues_update found rfl, eventsOf_insert]
    by_cases own : id = other
    · subst own
      simp only [if_pos, relabels id]
      exact ⟨_, _, .logged _ ⟨id, byAgentId, .updated dto, w.now⟩ rfl logged,
        congrArg some (builds.values w.now ticket.val _), rfl⟩
    · simp only [if_neg own, if_neg (Ne.symm own), List.append_nil, relabels id]
      exact ⟨_, _, .keeps _ logged, rfl, rfl⟩
  case assign other agentId byAgentId previousAssigneeId reason present =>
    rw [ticketValues_update found rfl, eventsOf_insert]
    by_cases own : id = other
    · subst own
      simp only [if_pos]
      exact ⟨_, _, .logged _
        ⟨id, some byAgentId, .assigned agentId previousAssigneeId reason, w.now⟩ rfl logged,
        rfl, rfl⟩
    · simp only [if_neg own, if_neg (Ne.symm own), List.append_nil]
      exact ⟨_, _, .keeps _ logged, rfl, rfl⟩
  case record ticketId tgMessageId text attachments present free =>
    refine ⟨_, _, .keeps _ logged, ?_, rfl⟩
    rw [ticketValues_update found rfl]
    split <;> rfl
  case reply ticketId agentId text attachments firstResponse message free present own out pending
      created agent =>
    refine ⟨_, _, .keeps _ logged, ?_, rfl⟩
    cases firstResponse with
    | false => exact current
    | true =>
        rw [ticketValues_update found rfl]
        split <;> rfl
  all_goals exact ⟨_, _, .keeps _ logged, current, rfl⟩

/-! ## The log of a run -/

/-- The foreign key of the events. -/
def EventsLinked (w : World) : Prop :=
  ∀ event ∈ w.ticketEvents.rows, (w.tickets.find? event.val.ticketId).isSome

theorem eventsLinked_seeded : World.seeded.EventsLinked := by
  simp [EventsLinked, seeded, initial, Table.empty]

theorem EventsLinked.eventsOf_eq_nil (linked : w.EventsLinked)
    (absent : w.tickets.find? id = none) : eventsOf w.ticketEvents id = [] := by
  rw [eventsOf, List.filter_eq_nil_iff]
  intro event member own
  obtain ⟨row, listed, rfl⟩ := List.mem_map.mp member
  have present := linked row listed
  rw [of_decide_eq_true own, absent] at present
  cases present

theorem EventsLinked.perform (linked : w.EventsLinked) (c : Call) :
    (w.perform c).2.EventsLinked := by
  have kept : ∀ id, (w.tickets.find? id).isSome → ((w.perform c).2.tickets.find? id).isSome :=
    fun _ present => isSome_ticket_perform c present
  have step := w.perform_step c
  generalize (w.perform c).2 = w' at step kept
  cases step
  case patch other data dto byAgentId ticketLabels present relabels =>
    intro event member
    rcases (Table.mem_insert TicketEvent.free).mp member with old | rfl
    · exact kept _ (linked event old)
    · exact kept other present
  case assign other agentId byAgentId previousAssigneeId reason present =>
    intro event member
    rcases (Table.mem_insert TicketEvent.free).mp member with old | rfl
    · exact kept _ (linked event old)
    · exact kept other present
  all_goals exact fun event member => kept _ (linked event member)

/-- A ticket is created without events. -/
theorem ticketEvents_of_created {c : Call} (absent : w.tickets.find? id = none)
    (created : ((w.perform c).2.tickets.find? id).isSome) :
    (w.perform c).2.ticketEvents = w.ticketEvents := by
  have step := w.perform_step c
  generalize (w.perform c).2 = w' at step created
  have updated : ∀ other (data : TicketData),
      ¬ ((w.tickets.update other (data.apply w.now) (data.apply_key w.now)).find? id).isSome := by
    intro other data
    rw [Table.isSome_find?_update, absent]
    exact Bool.false_ne_true
  cases step
  case patch => exact absurd created (updated _ _)
  case assign => exact absurd created (updated _ _)
  all_goals rfl

/-- The events of a ticket are stored in the order of their times, and none is younger than
the clock. -/
structure Ordered (w : World) (id : TicketId) : Prop where
  sorted : (eventsOf w.ticketEvents id).Pairwise fun older newer =>
    older.createdAt ≤ newer.createdAt
  past : ∀ event ∈ eventsOf w.ticketEvents id, event.createdAt ≤ w.now

theorem Ordered.listEvents (ordered : w.Ordered id) :
    (w.listEvents id).reverse = eventsOf w.ticketEvents id := by
  rw [World.listEvents, List.mergeSort_of_pairwise, List.reverse_reverse]
  exact List.pairwise_reverse.mpr (ordered.sorted.imp fun le => decide_eq_true le)

theorem Ordered.logComplete_iff (ordered : w.Ordered id) {initial : TicketValues} :
    w.LogComplete id initial ↔
      w.ticketValues id = some (replay initial (eventsOf w.ticketEvents id)) := by
  rw [LogComplete, ordered.listEvents]

theorem Ordered.advance (ordered : w.Ordered id) (milliseconds : ℕ) :
    (w.advance milliseconds).Ordered id where
  sorted := ordered.sorted
  past := fun event member => (ordered.past event member).trans
    (Int.le_add_of_nonneg_right (Int.natCast_nonneg _))

theorem Ordered.perform {c : Call} {request : Request} (ordered : w.Ordered id)
    (performs : request.Performs c) {values : TicketValues}
    (current : w.ticketValues id = some values) :
    (w.perform c).2.Ordered id ∧ ∃ values', (w.perform c).2.ticketValues id = some values' := by
  obtain ⟨values', events, audited, current', logged⟩ := audited_perform performs current
  refine ⟨?_, values', current'⟩
  have kept : eventsOf (w.perform c).2.ticketEvents id = eventsOf w.ticketEvents id →
      (w.perform c).2.Ordered id := fun same =>
    ⟨same ▸ ordered.sorted, fun event member => by
      rw [now_perform]
      exact ordered.past event (same ▸ member)⟩
  cases audited with
  | keeps => exact kept logged
  | closes => exact kept logged
  | logged _ event created =>
      constructor
      · rw [logged]
        refine List.pairwise_append.mpr ⟨ordered.sorted, List.pairwise_singleton _ _, ?_⟩
        intro older member newer last
        rw [List.mem_singleton.mp last, created]
        exact ordered.past older member
      · intro newer member
        rw [now_perform]
        rw [logged] at member
        rcases List.mem_append.mp member with old | last
        · exact ordered.past newer old
        · rw [List.mem_singleton.mp last, created]

/-- **One command keeps the log complete exactly when it logs what it changes.** -/
theorem Ordered.logComplete_perform_iff {c : Call} {request : Request} (ordered : w.Ordered id)
    (performs : request.Performs c) {initial : TicketValues}
    (complete : w.LogComplete id initial) :
    (w.perform c).2.LogComplete id initial ↔ w.logs id c = true := by
  rw [ordered.logComplete_iff] at complete
  have ordered' := (ordered.perform performs complete).1
  obtain ⟨values', events, audited, current, logged⟩ := audited_perform performs complete
  rw [ordered'.logComplete_iff, current, logged, Option.some_inj]
  cases audited with
  | keeps _ kept => exact iff_of_true rfl kept
  | logged _ event created kept => exact iff_of_true (replay_concat initial _ event).symm kept
  | closes closedAt byAgentId agent =>
      obtain ⟨ticket, found, values⟩ := ticketValues_eq_some_iff.mp complete
      rw [← values]
      simp [logs, agent, found, Ticket.values, eq_comm]

/-- A ticket that the last step created has no events. -/
theorem eventsOf_of_created {config : Config} {requests : List Request} (linked : w.EventsLinked)
    {first : List (Act ℕ)} {act : Act ℕ}
    (new : (w.after config requests first).tickets.find? id = none)
    (created : ((w.after config requests (first ++ [act])).tickets.find? id).isSome) :
    eventsOf (w.after config requests (first ++ [act])).ticketEvents id = [] := by
  have linked' : (w.after config requests first).EventsLinked :=
    World.after_invariant (I := EventsLinked) (fun c _ holds => EventsLinked.perform holds c)
      (fun _ _ holds => holds) linked
  have last : w.after config requests (first ++ [act]) =
      (Pool.step (fun _ => World.perform) World.advance
        ((Requests.start config requests w).exec first) act).state :=
    World.after_append config requests w first [act]
  rw [last] at created ⊢
  rw [World.after] at new linked'
  generalize (Requests.start config requests w).exec first = pool at new created linked' ⊢
  cases act with
  | env milliseconds => exact absurd created (by simp [Pool.step, World.advance, World.setNow, new])
  | turn i =>
      simp only [Pool.step] at created ⊢
      split at created
      · next c next current =>
        rw [ticketEvents_of_created new created]
        exact linked'.eventsOf_eq_nil new
      · rw [new] at created
        cases created

end World

/-- **The audit log is complete unless a ticket is closed behind it.** From the creation of a
ticket on, whatever requests interleave, replaying its events over its initial values gives
its current values in every state reached, if and only if no command on the way closes the
ticket without an event while it is not closed. -/
theorem audit_log_complete_iff (config : Config) (requests : List Request) (w : World)
    (linked : w.EventsLinked) (first : List (Act ℕ)) (act : Act ℕ) (rest : List (Act ℕ))
    (id : TicketId) (initial : TicketValues)
    (new : (w.after config requests first).tickets.find? id = none)
    (created : (w.after config requests (first ++ [act])).ticketValues id = some initial) :
    (∀ n, (w.after config requests (first ++ act :: rest.take n)).LogComplete id initial) ↔
      ((Requests.start config requests w).exec (first ++ [act])).Meets (fun _ => World.perform)
        World.advance (fun _ c w => w.logs id c = true) (fun _ _ => True) rest := by
  have along : ∀ second, ((Requests.start config requests w).exec (first ++ [act])).Meets
      (fun _ => World.perform) World.advance
      (fun _ c _ => ∃ request ∈ requests, request.Performs c) (fun _ _ => True) second :=
    fun second => (Pool.meets_append_iff.mp
      (Requests.meets_performs config requests w (first ++ [act] ++ second))).2
  have split : ∀ second, w.after config requests (first ++ act :: second) =
      (((Requests.start config requests w).exec (first ++ [act])).exec second).state := by
    intro second
    rw [List.append_cons]
    exact World.after_append config requests w (first ++ [act]) second
  have born : World.eventsOf (w.after config requests (first ++ [act])).ticketEvents id = [] := by
    refine World.eventsOf_of_created linked new ?_
    obtain ⟨ticket, found, -⟩ := World.ticketValues_eq_some_iff.mp created
    simp [found]
  have ordered : (w.after config requests (first ++ [act])).Ordered id := by
    constructor <;> simp [born]
  have complete : (w.after config requests (first ++ [act])).LogComplete id initial := by
    rw [ordered.logComplete_iff, born]
    exact created
  -- the order of the events is kept whether the log is complete or not
  have sorted : ∀ second, (((Requests.start config requests w).exec (first ++ [act])).exec
      second).state.Ordered id := by
    intro second
    refine (Pool.invariant_exec (I := fun w => w.Ordered id ∧ ∃ values,
      w.ticketValues id = some values) ?_ ?_ (along second) ⟨ordered, initial, created⟩).1
    · rintro i c w ⟨request, -, performs⟩ ⟨ordered, values, current⟩
      exact ordered.perform performs current
    · rintro milliseconds w - ⟨ordered, values, current⟩
      exact ⟨ordered.advance milliseconds, values, current⟩
  refine Iff.trans ?_ (Pool.invariant_iff_meets (I := fun w => w.Ordered id ∧
    w.LogComplete id initial) ?_ ?_ (along rest) ⟨ordered, complete⟩)
  · refine forall_congr' fun n => ?_
    rw [split]
    exact (and_iff_right (sorted _)).symm
  · rintro i c w ⟨request, -, performs⟩ ⟨ordered, complete⟩
    rw [← ordered.logComplete_perform_iff performs complete]
    exact and_iff_right (ordered.perform performs (ordered.logComplete_iff.mp complete)).1
  · rintro milliseconds w - ⟨ordered, complete⟩
    exact ⟨ordered.advance milliseconds, complete⟩

/-! A ticket is assigned, closed and reopened, or its customer is marked as none. -/

namespace Audit

def handled : List Request :=
  [.ingest (greeting 7), .assign 0 0 0 none, .close 0 0, .patch 0 { priority := some .high } 0]

def marked : List Request := [.ingest (greeting 7), .markNotCustomer 0 0]

/-- The steps of the ingest until it creates the ticket. -/
def untilCreated : List (Act ℕ) := List.replicate 8 (.turn 0)

/-- What is left of the ingest, then the other requests one after another. -/
def others (n : ℕ) : List (Act ℕ) :=
  alone 10 ++ (List.range n).flatMap fun i => List.replicate 6 (.turn (i + 1))

end Audit

/-- A ticket that was marked is closed, but its log has no event that closed it. -/
theorem closed_behind_the_log :
    World.seeded.EventsLinked ∧
      (World.seeded.after .default Audit.marked Audit.untilCreated).tickets.find? 0 = none ∧
      (World.seeded.after .default Audit.marked (Audit.untilCreated ++ [.turn 0])).ticketValues 0 =
        some ⟨.open, .normal, none, none, []⟩ ∧
      (World.seeded.after .default Audit.marked
        (Audit.untilCreated ++ .turn 0 :: Audit.others 1)).ticketValues 0 =
        some ⟨.closed, .normal, none, none, []⟩ ∧
      ¬ (World.seeded.after .default Audit.marked
        (Audit.untilCreated ++ .turn 0 :: Audit.others 1)).LogComplete 0
        ⟨.open, .normal, none, none, []⟩ := by
  refine ⟨World.eventsLinked_seeded, by decide, by decide, by decide, ?_⟩
  have unlogged : World.eventsOf (World.seeded.after .default Audit.marked
      (Audit.untilCreated ++ .turn 0 :: Audit.others 1)).ticketEvents 0 = [] := by decide
  rw [World.LogComplete, World.listEvents, unlogged, List.reverse_nil, List.mergeSort_nil]
  decide

theorem handled_log_complete :
    (World.seeded.after .default Audit.handled
      (Audit.untilCreated ++ .turn 0 :: (Audit.others 3).take 28)).LogComplete 0
      ⟨.open, .normal, none, none, []⟩ := by
  refine (audit_log_complete_iff .default Audit.handled World.seeded World.eventsLinked_seeded
    Audit.untilCreated (.turn 0) (Audit.others 3) 0 ⟨.open, .normal, none, none, []⟩
    ?_ ?_).mpr ?_ 28
  · decide
  · decide
  · decide

end SupportCrm
