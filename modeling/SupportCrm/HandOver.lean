import SupportCrm.Footprint
import SupportCrm.Library.Logs
import SupportCrm.Reactions

/-!
# Hand-overs

A ticket is handed over when a request gives it to an agent other than the one who asks.
`TicketsService.assign` announces this with an event, for which the listener notifies the
new assignee. `patch` can change the assignee too and announces no more than an update, so
nobody is notified; and a bulk request that names a ticket twice notifies twice.

`hand_overs_announced`: a request that has ended, whatever ran beside it, has notified once
for each ticket that it handed over, if it assigns each of these once.
-/

set_option autoImplicit false

namespace SupportCrm

open KeyedTable AtomicProgram

/-! ## Notifications of a request -/

/-- The calls of `notify` that come of an event emitted in a process. -/
def Process.notifies (process : Process) (assignees : Assignees) (event : DomainEvent) :
    List NotifyParams :=
  ((process.emit 0 event).tasks.flatMap fun task => (task.yield assignees).entries).filterMap
    (Fact.call? 0)

/-- In the API these are the calls of one pass of the listener. -/
theorem notifies_api (assignees : Assignees) (event : DomainEvent) :
    Process.api.notifies assignees event = NotificationEventsListener.handle assignees event := by
  have calls : ∀ params : List NotifyParams,
      (params.map (Fact.notified 0)).filterMap (Fact.call? 0) = params := by
    intro params
    induction params with
    | nil => rfl
    | cons first rest ih => simp [Fact.call?, ih]
  rw [Process.notifies, emit_api]
  cases handles : NotificationEventsListener.handles event with
  | false => cases event <;> first | rfl | cases handles
  | true => simp [Task.yield, List.filterMap_cons, Fact.call?, calls]

/-- The commands of a request, each with the state in which it was performed. -/
abbrev CallLog := List (Call × World)

/-- The calls of `notify` that come of a command. -/
def Call.notifies (assignees : Assignees) : Call → List NotifyParams
  | .emit event => Process.api.notifies assignees event
  | _ => []

/-- The notifications of type `ticket.assigned` that come of a request. -/
def assignedCalls (assignees : Assignees) (log : CallLog) : List NotifyParams :=
  (log.flatMap fun entry => entry.1.notifies assignees).filter (·.type = "ticket.assigned")

/-- The command changes the assignee of an existing ticket to this agent. -/
def World.HandsOver (w : World) (c : Call) (id : TicketId) (agentId : AgentId) : Prop :=
  ∃ ticket, w.tickets.find? id = some ticket ∧ ticket.val.assigneeId ≠ some agentId ∧
    ∃ ticket', (w.perform c).2.tickets.find? id = some ticket' ∧
      ticket'.val.assigneeId = some agentId

/-- The command writes the ticket and leaves it with this assignee. -/
def World.Leaves (w : World) (c : Call) (id : TicketId) (assignee : Option AgentId) : Prop :=
  (∃ answer, (w.perform c).1 = .ok answer) ∧ (∃ data, c.ticketData w.now = some (id, data)) ∧
    ∃ ticket, (w.perform c).2.tickets.find? id = some ticket ∧ ticket.val.assigneeId = assignee

/-- **Announced.** For every ticket handed over, the new assignee and nobody else is notified,
once, with the agent who asked; and no ticket that is only left unassigned, or with the agent
who asked, is announced. -/
structure HandOversAnnounced (assignees : Assignees) (byAgentId : AgentId) (log : CallLog) :
    Prop where
  announced : ∀ id agentId, agentId ≠ byAgentId →
    (∃ entry ∈ log, entry.2.HandsOver entry.1 id agentId) →
    (assignedCalls assignees log).filter (·.ticketId = id) =
      [⟨agentId, "ticket.assigned", id, ("byAgentId", byAgentId)⟩]
  silent : ∀ id, (∀ entry ∈ log, ∀ assignee, entry.2.Leaves entry.1 id assignee →
      assignee = none ∨ assignee = some byAgentId) →
    (assignedCalls assignees log).filter (·.ticketId = id) = []

/-- The agent who asks for a change of tickets. -/
def Request.byAgent : Request → Option AgentId
  | .patch _ _ byAgentId | .assign _ _ byAgentId _ | .claim _ byAgentId | .close _ byAgentId
  | .reopen _ byAgentId | .snooze _ _ byAgentId | .bulk _ byAgentId _ => some byAgentId
  | _ => none

/-- The tickets that a request names to be assigned. -/
def Request.assignments : Request → List TicketId
  | .assign id _ _ _ | .claim id _ => [id]
  | .bulk (.assign _) _ ids => ids
  | _ => []

/-! ## Requests that assign -/

/-- What is logged of a request that assigns these tickets, one after another: the calls for
each, no other hand-over, and each left with the assignee that the request gives. -/
structure Assigned (agentId : Option (Option AgentId)) (byAgentId : AgentId) (ids : List TicketId)
    (log : CallLog) : Prop where
  notified : ∀ assignees, assignedCalls assignees log = ids.flatMap fun id =>
    NotificationEventsListener.onTicketAssigned id agentId byAgentId
  handed : ∀ entry ∈ log, ∀ id other, entry.2.HandsOver entry.1 id other →
    id ∈ ids ∧ agentId = some (some other)
  left : ∀ id ∈ ids, ∀ assignee, agentId = some assignee →
    ∃ entry ∈ log, entry.2.Leaves entry.1 id assignee

theorem assignedCalls_append (assignees : Assignees) (log log' : CallLog) :
    assignedCalls assignees (log ++ log') =
      assignedCalls assignees log ++ assignedCalls assignees log' := by
  simp [assignedCalls]

theorem assigned_nil (agentId : Option (Option AgentId)) (byAgentId : AgentId) :
    Assigned agentId byAgentId [] [] where
  notified _ := rfl
  handed _ member := absurd member List.not_mem_nil
  left _ member := absurd member List.not_mem_nil

theorem Assigned.append {agentId : Option (Option AgentId)} {byAgentId : AgentId}
    {ids ids' : List TicketId} {log log' : CallLog} (first : Assigned agentId byAgentId ids log)
    (second : Assigned agentId byAgentId ids' log') :
    Assigned agentId byAgentId (ids ++ ids') (log ++ log') where
  notified assignees := by
    rw [assignedCalls_append, first.notified, second.notified, List.flatMap_append]
  handed entry member id other hands := by
    rcases List.mem_append.mp member with early | late
    · obtain ⟨named, same⟩ := first.handed entry early id other hands
      exact ⟨List.mem_append_left _ named, same⟩
    · obtain ⟨named, same⟩ := second.handed entry late id other hands
      exact ⟨List.mem_append_right _ named, same⟩
  left id named assignee given := by
    rcases List.mem_append.mp named with early | late
    · obtain ⟨entry, member, leaves⟩ := first.left id early assignee given
      exact ⟨entry, List.mem_append_left _ member, leaves⟩
    · obtain ⟨entry, member, leaves⟩ := second.left id late assignee given
      exact ⟨entry, List.mem_append_right _ member, leaves⟩

namespace World

variable {w : World}

/-- A command that updates no ticket hands none over, and neither does one that fails. -/
theorem not_handsOver {c : Call} {id : TicketId} {agentId : AgentId}
    (harmless : c.ticketData w.now = none ∨ ∃ e, (w.perform c).1 = .error e) :
    ¬ w.HandsOver c id agentId := by
  rintro ⟨ticket, found, other, ticket', found', same⟩
  have kept : (w.perform c).2.tickets.find? id = some ticket := by
    rcases harmless with still | ⟨e, failed⟩
    · obtain ⟨ticket'', after, rfl | ⟨data, update, -⟩⟩ := ticket_perform c found
      · exact after
      · cases still.symm.trans update
    · rw [perform_error failed, found]
  obtain rfl := Option.some.inj (kept.symm.trans found')
  exact other same

/-- What an assignment that goes through hands over, and what it leaves. -/
theorem assign_handsOver {id id' : TicketId} {agentId : Option (Option AgentId)}
    {byAgentId other : AgentId} {previous : Option AgentId} {reason : Option String}
    (hands : w.HandsOver (.assignTransaction id agentId byAgentId previous reason) id' other) :
    id' = id ∧ agentId = some (some other) := by
  obtain ⟨ticket, found, changed, ticket', found', same⟩ := hands
  obtain ⟨ticket'', after, kept⟩ :=
    ticket_perform (.assignTransaction id agentId byAgentId previous reason) found
  obtain rfl := Option.some.inj (after.symm.trans found')
  rcases kept with rfl | ⟨data, update, rfl⟩
  · exact absurd same changed
  · cases update
    refine ⟨rfl, ?_⟩
    -- without an agent in the request the ticket keeps its assignee
    cases agentId with
    | none => exact absurd same changed
    | some assignee => exact congrArg some same

theorem leaves_assign {id : TicketId} {assignee : Option AgentId} {byAgentId : AgentId}
    {previous : Option AgentId} {reason : Option String} {view : TicketView}
    (ok : (w.perform (.assignTransaction id (some assignee) byAgentId previous reason)).1 =
      .ok view) :
    w.Leaves (.assignTransaction id (some assignee) byAgentId previous reason) id assignee := by
  obtain ⟨present, same⟩ := assignTransaction_eq_ok (effect_of_perform_ok ok)
  obtain ⟨ticket, found⟩ := Option.isSome_iff_exists.mp present
  refine ⟨⟨view, ok⟩, ⟨_, rfl⟩,
    ⟨id, TicketData.apply { assignee := some assignee } w.now ticket.val⟩, ?_, rfl⟩
  rw [same]
  exact Table.find?_update_self (TicketData.apply_key _ w.now) found

end World

/-- What only reads neither announces nor hands over. -/
theorem assigned_of_reads {agentId : Option (Option AgentId)} {byAgentId : AgentId} {log : CallLog}
    (reads : ∀ entry ∈ log, entry.1.reads = true) : Assigned agentId byAgentId [] log where
  notified assignees := by
    have silent : (log.flatMap fun entry => entry.1.notifies assignees) = [] := by
      refine List.flatMap_eq_nil_iff.mpr fun entry member => ?_
      have reading := reads entry member
      cases command : entry.1 <;> rw [command] at reading <;> first | rfl | cases reading
    rw [assignedCalls, silent]
    rfl
  handed entry member id other hands := by
    refine absurd hands (World.not_handsOver (.inl ?_))
    have reading := reads entry member
    cases command : entry.1 <;> rw [command] at reading <;> first | rfl | cases reading
  left _ named := absurd named List.not_mem_nil

/-- A ticket that is looked up is logged so. -/
theorem getById_logs {id : TicketId} {log : CallLog} {r : Except Err TicketView}
    (logs : (getById id).Logs World.perform log r) :
    ∃ w, log = [(.ticketById id, w)] ∧
      ∀ view, r = .ok view → (w.tickets.find? id).map w.ticketView = some view := by
  obtain ⟨w, ⟨answer, rest, answered, rfl, follows⟩ | ⟨e, failed, -, -⟩⟩ :=
    Program.logs_perform_bind_iff.mp logs
  · obtain rfl := Except.ok.inj answered
    refine ⟨w, ?_⟩
    split at follows
    · obtain ⟨rfl, rfl⟩ := Program.logs_throw_iff.mp follows
      exact ⟨rfl, fun view ok => by cases ok⟩
    · next view found =>
      obtain ⟨rfl, rfl⟩ := Program.logs_pure_iff.mp follows
      exact ⟨rfl, fun view' ok => found.trans (congrArg some (Except.ok.inj ok))⟩
  · cases failed

/-- An assignment and its announcement. -/
theorem assigned_of_ok {w w' : World} {id : TicketId} {agentId : Option (Option AgentId)}
    {byAgentId : AgentId} {previous : Option AgentId} {reason : Option String} {view : TicketView}
    (ok : (w.perform (.assignTransaction id agentId byAgentId previous reason)).1 = .ok view) :
    Assigned agentId byAgentId [id]
      [(.assignTransaction id agentId byAgentId previous reason, w),
        (.emit (.ticketAssigned id agentId previous byAgentId), w')] where
  notified assignees := by
    have typed : ∀ params ∈ NotificationEventsListener.onTicketAssigned id agentId byAgentId,
        params.type = "ticket.assigned" := by
      intro params member
      rw [NotificationEventsListener.onTicketAssigned] at member
      split at member
      · cases member
      · split at member
        · cases member
        · obtain rfl := List.mem_singleton.mp member
          rfl
    simpa [assignedCalls, Call.notifies, notifies_api, NotificationEventsListener.handle] using typed
  handed entry member id' other hands := by
    rcases List.mem_pair.mp member with rfl | rfl
    · obtain ⟨rfl, rfl⟩ := World.assign_handsOver hands
      exact ⟨List.mem_singleton_self _, rfl⟩
    · exact absurd hands (World.not_handsOver (.inl rfl))
  left id' named assignee given := by
    obtain rfl := List.mem_singleton.mp named
    subst given
    exact ⟨_, List.mem_cons_self, World.leaves_assign ok⟩

/-- **An assignment is announced**, if it goes through. -/
theorem assign_assigned {id : TicketId} {agentId : Option (Option AgentId)} {byAgentId : AgentId}
    {reason : Option String} {log : CallLog} {r : Except Err TicketView}
    (logs : (assign id agentId byAgentId reason).Logs World.perform log r) :
    ∃ ids, ids <+: [id] ∧ (∀ view, r = .ok view → ids = [id]) ∧
      Assigned agentId byAgentId ids log := by
  have nothing : ∀ log, Assigned agentId byAgentId [] log → (∃ e, r = .error e) →
      ∃ ids, ids <+: [id] ∧ (∀ view, r = .ok view → ids = [id]) ∧
        Assigned agentId byAgentId ids log := by
    rintro log assigned ⟨e, rfl⟩
    exact ⟨[], List.nil_prefix, fun view ok => (by cases ok), assigned⟩
  rcases Program.logs_bind_iff.mp logs with
    ⟨first, ticket, second, rfl, looked, rest⟩ | ⟨e, rfl, looked⟩
  · obtain ⟨w, rfl, -⟩ := getById_logs looked
    have read : Assigned agentId byAgentId [] [(.ticketById id, w)] :=
      assigned_of_reads (by simp [Call.reads])
    obtain ⟨w₁, ⟨updated, rest', ok, rfl, follows⟩ | ⟨e, failed, rfl, rfl⟩⟩ :=
      Program.logs_perform_bind_iff.mp rest
    · obtain ⟨w₂, ⟨-, rest'', -, rfl, ended⟩ | ⟨e, failed, -, -⟩⟩ :=
        Program.logs_perform_bind_iff.mp follows
      · obtain ⟨rfl, rfl⟩ := Program.logs_pure_iff.mp ended
        exact ⟨[id], List.prefix_rfl, fun _ _ => rfl, read.append (assigned_of_ok ok)⟩
      · cases failed
    · refine nothing _ (read.append ⟨fun _ => rfl, ?_, ?_⟩) ⟨e, rfl⟩
      · intro entry member id' other hands
        obtain rfl := List.mem_singleton.mp member
        exact absurd hands (World.not_handsOver (.inr ⟨e, failed⟩))
      · exact fun _ named => absurd named List.not_mem_nil
  · obtain ⟨w, rfl, -⟩ := getById_logs looked
    exact nothing _ (assigned_of_reads (by simp [Call.reads])) ⟨e, rfl⟩

/-- A bulk assignment is a sequence of assignments, up to the first that fails. -/
theorem bulk_assigned {agentId : Option (Option AgentId)} {byAgentId : AgentId}
    {ids : List TicketId} {log : CallLog}
    {r : Except Err (List TicketView)}
    (logs : (bulk (.assign agentId) byAgentId ids).Logs World.perform log r) :
    ∃ done, done <+: ids ∧ (∀ views, r = .ok views → done = ids) ∧
      Assigned agentId byAgentId done log := by
  induction ids generalizing log r with
  | nil =>
      obtain ⟨rfl, rfl⟩ := Program.logs_pure_iff.mp logs
      exact ⟨[], List.prefix_rfl, fun _ _ => rfl, assigned_nil _ _⟩
  | cons id rest ih =>
      rcases Program.logs_bind_iff.mp logs with
        ⟨first, view, second, rfl, one, others⟩ | ⟨e, rfl, one⟩
      · obtain ⟨ids, -, all, assigned⟩ := assign_assigned one
        obtain rfl := all view rfl
        rcases Program.logs_bind_iff.mp others with
          ⟨third, views, fourth, rfl, later, ended⟩ | ⟨e, rfl, later⟩
        · obtain ⟨rfl, rfl⟩ := Program.logs_pure_iff.mp ended
          obtain ⟨done, part, all, assigned'⟩ := ih later
          refine ⟨id :: done, List.cons_prefix_cons.mpr ⟨rfl, part⟩, fun _ _ => ?_, ?_⟩
          · rw [all views rfl]
          · rw [List.append_nil]
            exact assigned.append assigned'
        · obtain ⟨done, part, -, assigned'⟩ := ih later
          exact ⟨id :: done, List.cons_prefix_cons.mpr ⟨rfl, part⟩, fun _ ok => (by cases ok),
            assigned.append assigned'⟩
      · obtain ⟨ids, part, -, assigned⟩ := assign_assigned one
        refine ⟨ids, part.trans ?_, fun _ ok => (by cases ok), assigned⟩
        exact List.cons_prefix_cons.mpr ⟨rfl, List.nil_prefix⟩

/-! ## Requests that patch -/

/-- The command announces no assignment. -/
def Call.Unannounced (c : Call) : Prop :=
  ∀ assignees, (c.notifies assignees).filter (·.type = "ticket.assigned") = []

theorem unannounced_of_reads (c : Call) (reads : c.reads = true) : c.Unannounced := by
  intro assignees
  cases c <;> first | rfl | cases reads

theorem patch_unannounced (id : TicketId) (dto : PatchTicketDto) (byAgentId : Option AgentId) :
    (patch id dto byAgentId).Always Call.Unannounced := by
  refine patch_always unannounced_of_reads id dto byAgentId (fun _ _ _ => rfl) ?_ ?_
  · intro assignees
    simp [Call.notifies, notifies_api, NotificationEventsListener.handle]
  · intro assignees
    simp [Call.notifies, notifies_api, NotificationEventsListener.handle]

theorem assignedCalls_of_unannounced {log : CallLog}
    (unannounced : ∀ entry ∈ log, entry.1.Unannounced) (assignees : Assignees) :
    assignedCalls assignees log = [] := by
  induction log with
  | nil => rfl
  | cons entry rest ih =>
      have split : assignedCalls assignees (entry :: rest) =
          (entry.1.notifies assignees).filter (·.type = "ticket.assigned") ++
            assignedCalls assignees rest := by simp [assignedCalls]
      rw [split, unannounced entry List.mem_cons_self,
        ih fun entry member => unannounced entry (List.mem_cons_of_mem _ member)]
      rfl

/-! ## All requests -/

/-- What the log of a request says about the assignments that it names: it carries out the
first of them, all if it ends well, or it names none and announces none. -/
inductive Request.Handles (byAgentId : AgentId) (log : CallLog) (r : Except Err Unit)
    (ids : List TicketId) : Prop where
  | assigns (agentId : Option (Option AgentId)) (done : List TicketId) (part : done <+: ids)
      (all : r = .ok () → done = ids) (assigned : Assigned agentId byAgentId done log)
  | patches (none : ids = []) (silent : ∀ assignees, assignedCalls assignees log = [])

theorem Request.handles {config : Config} {request : Request} {byAgentId : AgentId}
    {log : CallLog} {r : Except Err Unit} (asked : request.byAgent = some byAgentId)
    (logs : (request.program config).Logs World.perform log r) :
    Request.Handles byAgentId log r request.assignments := by
  have assigns : ∀ id agentId reason,
      (discard (SupportCrm.assign id agentId byAgentId reason) : App Unit).Logs World.perform log
          r → Request.Handles byAgentId log r [id] := by
    intro id agentId reason logs
    obtain ⟨r', logs', same⟩ := Program.logs_discard logs
    obtain ⟨done, part, all, assigned⟩ := assign_assigned logs'
    refine .assigns agentId done part (fun ok => ?_) assigned
    obtain ⟨view, ok'⟩ := same.mpr ok
    exact all view ok'
  have patches : ∀ {α : Type} {p : App α}, p.Always Call.Unannounced →
      (discard p : App Unit).Logs World.perform log r → Request.Handles byAgentId log r [] := by
    intro α p always logs
    have discarded : (discard p : App Unit).Always Call.Unannounced :=
      Program.always_bind always fun _ => Program.always_pure
    exact .patches rfl (assignedCalls_of_unannounced (logs.forall_of_always discarded))
  cases request <;> simp only [Request.byAgent, reduceCtorEq, Option.some.injEq] at asked <;>
    subst asked
  case assign id agentId byAgentId reason => exact assigns id (some (some agentId)) reason logs
  case claim id byAgentId => exact assigns id (some (some byAgentId)) none logs
  case patch id dto byAgentId => exact patches (patch_unannounced _ _ _) logs
  case close id byAgentId => exact patches (patch_unannounced _ _ _) logs
  case reopen id byAgentId => exact patches (patch_unannounced _ _ _) logs
  case snooze id snoozeUntil byAgentId => exact patches (patch_unannounced _ _ _) logs
  case bulk action byAgentId ids =>
    cases action with
    | assign agentId =>
        obtain ⟨r', logs', same⟩ := Program.logs_discard logs
        obtain ⟨done, part, all, assigned⟩ := bulk_assigned logs'
        refine .assigns agentId done part (fun ok => ?_) assigned
        obtain ⟨views, ok'⟩ := same.mpr ok
        exact all views ok'
    | close =>
        exact patches (bulk_always .close byAgentId ids fun id _ => patch_unannounced _ _ _) logs
    | label labelId =>
        refine patches (bulk_always (.label labelId) byAgentId ids fun id _ => ?_) logs
        have found := getById_always unannounced_of_reads id
        cases labelId with
        | none =>
            exact Program.always_bind found fun _ =>
              Program.always_bind found fun _ => Program.always_throw
        | some labelId => exact Program.always_bind found fun _ => patch_unannounced _ _ _

/-- The calls for one ticket, as often as it was given to another agent. -/
theorem Assigned.calls {agentId byAgentId : AgentId} {ids : List TicketId} {log : CallLog}
    (assigned : Assigned (some (some agentId)) byAgentId ids log) (assignees : Assignees)
    (foreign : agentId ≠ byAgentId) (id : TicketId) :
    (assignedCalls assignees log).filter (·.ticketId = id) =
      List.replicate (ids.count id)
        ⟨agentId, "ticket.assigned", id, ("byAgentId", byAgentId)⟩ := by
  rw [assigned.notified]
  clear assigned
  induction ids with
  | nil => simp
  | cons first rest ih =>
      rw [List.flatMap_cons, List.filter_append, ih]
      by_cases same : first = id
      · subst same
        simp [NotificationEventsListener.onTicketAssigned, foreign, List.replicate_succ]
      · simp [NotificationEventsListener.onTicketAssigned, foreign, same]

/-- No calls where the request gives the tickets to nobody, or to the agent who asks. -/
theorem Assigned.no_calls {agentId : Option (Option AgentId)} {byAgentId : AgentId}
    {ids : List TicketId} {log : CallLog} (assigned : Assigned agentId byAgentId ids log)
    (assignees : Assignees) (own : ∀ other, agentId = some (some other) → other = byAgentId) :
    assignedCalls assignees log = [] := by
  rw [assigned.notified, List.flatMap_eq_nil_iff]
  intro id _
  rw [NotificationEventsListener.onTicketAssigned]
  split
  · rfl
  · next other given => exact if_pos (own other (Option.join_eq_some_iff.mp given))

/-- **Every hand-over is announced** by a request that has ended, whatever runs beside it, if
the request names each ticket that it hands over once to be assigned; and if the request has
ended well, only then. -/
theorem hand_overs_announced (config : Config) (requests : List Request) (w : World)
    (schedule : List (Act ℕ)) (i : ℕ) (request : Request) (byAgentId : AgentId)
    (r : Except Err Unit) (assignees : Assignees) (listed : requests[i]? = some request)
    (asked : request.byAgent = some byAgentId)
    (ended : ((Requests.start config requests w).exec schedule).programs[i]? = some (.ret r))
    (log : CallLog)
    (logged : log = (Requests.start config requests w).logOf (fun _ => World.perform)
      World.advance i schedule) :
    ((∀ id agentId, agentId ≠ byAgentId →
        (∃ entry ∈ log, entry.2.HandsOver entry.1 id agentId) →
          request.assignments.count id = 1) → HandOversAnnounced assignees byAgentId log) ∧
      (r = .ok () → HandOversAnnounced assignees byAgentId log →
        ∀ id agentId, agentId ≠ byAgentId →
          (∃ entry ∈ log, entry.2.HandsOver entry.1 id agentId) →
            request.assignments.count id = 1) := by
  have started : (Requests.start config requests w).programs[i]? =
      some (request.program config) := by
    simp [Requests.start, listed]
  have logs := Pool.logs_of_ended started ended
  rw [← logged] at logs
  cases Request.handles asked logs with
  | assigns agentId done part all assigned =>
      constructor
      · intro once
        constructor
        · rintro id other foreign ⟨entry, member, hands⟩
          obtain ⟨named, rfl⟩ := assigned.handed entry member id other hands
          have count : done.count id = 1 := by
            have atMost := part.sublist.count_le id
            have atLeast := List.count_pos_iff.mpr named
            have all := once id other foreign ⟨entry, member, hands⟩
            omega
          rw [assigned.calls assignees foreign, count]
          rfl
        · intro id kept
          by_cases own : ∀ other, agentId = some (some other) → other = byAgentId
          · rw [assigned.no_calls assignees own]
            rfl
          · push Not at own
            obtain ⟨other, rfl, foreign⟩ := own
            have unnamed : id ∉ done := by
              intro named
              obtain ⟨entry, member, leaves⟩ := assigned.left id named _ rfl
              rcases kept entry member _ leaves with nobody | own
              · cases nobody
              · exact foreign (Option.some.inj own)
            rw [assigned.calls assignees foreign, List.count_eq_zero_of_not_mem unnamed]
            rfl
      · rintro ok announced id other foreign ⟨entry, member, hands⟩
        have one := announced.announced id other foreign ⟨entry, member, hands⟩
        obtain ⟨-, rfl⟩ := assigned.handed entry member id other hands
        rw [assigned.calls assignees foreign, all ok] at one
        simpa using congrArg List.length one
  | patches none silent =>
      constructor
      · intro once
        constructor
        · rintro id other foreign handed
          have count := once id other foreign handed
          rw [none] at count
          cases count
        · intro id _
          rw [silent]
          rfl
      · rintro - announced id other foreign handed
        have one := announced.announced id other foreign handed
        rw [silent] at one
        cases one

/-! A new ticket is given to the second agent by the first. -/

namespace HandOver

/-- The log of the second of two requests that run one after another. -/
def logAfter (request : Request) : CallLog :=
  (Requests.start .default [.ingest (greeting 7), request] World.paired).logOf
    (fun _ => World.perform) World.advance 1 (oneByOne 2 30)

end HandOver

set_option maxRecDepth 4000 in
/-- With a patch nobody is notified. -/
theorem patched_without_notice :
    ((Requests.start .default
        [.ingest (greeting 7), .patch 0 { assignee_id := some (some 1) } 0] World.paired).exec
        (oneByOne 2 30)).programs[1]? = some (.ret (.ok ())) ∧
      (∃ entry ∈ HandOver.logAfter (.patch 0 { assignee_id := some (some 1) } 0),
        entry.2.HandsOver entry.1 0 1) ∧
      ¬ HandOversAnnounced (fun _ => none) 0
        (HandOver.logAfter (.patch 0 { assignee_id := some (some 1) } 0)) := by
  have handed : ∃ entry ∈ HandOver.logAfter (.patch 0 { assignee_id := some (some 1) } 0),
      entry.2.HandsOver entry.1 0 1 :=
    ⟨_, List.mem_of_getElem? (i := 1) (by rfl), _, by rfl, by decide, _, by rfl, by rfl⟩
  refine ⟨by rfl, handed, fun announced => ?_⟩
  have one := announced.announced 0 1 (by decide) handed
  exact absurd one (by decide)

set_option maxRecDepth 4000 in
theorem assigned_with_notice :
    HandOversAnnounced (fun _ => none) 0 (HandOver.logAfter (.assign 0 1 0 none)) := by
  refine (hand_overs_announced .default [.ingest (greeting 7), .assign 0 1 0 none] World.paired
    (oneByOne 2 30) 1 (.assign 0 1 0 none) 0 (.ok ()) (fun _ => none) rfl rfl (by rfl) _ rfl).1
    fun id agentId _ handed => ?_
  obtain ⟨w, w', w'', log⟩ : ∃ w w' w'', HandOver.logAfter (.assign 0 1 0 none) =
      [(.ticketById 0, w), (.assignTransaction 0 (some (some 1)) 0 none none, w'),
        (.emit (.ticketAssigned 0 (some (some 1)) none 0), w'')] := ⟨_, _, _, by rfl⟩
  obtain ⟨entry, member, hands⟩ := handed
  change entry ∈ HandOver.logAfter (.assign 0 1 0 none) at member
  rw [log] at member
  simp only [List.mem_cons, List.not_mem_nil, or_false] at member
  rcases member with rfl | rfl | rfl
  · exact absurd hands (World.not_handsOver (.inl rfl))
  · obtain ⟨rfl, -⟩ := World.assign_handsOver hands
    rfl
  · exact absurd hands (World.not_handsOver (.inl rfl))

end SupportCrm
