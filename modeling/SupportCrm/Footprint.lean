import SupportCrm.Commands
import SupportCrm.System

/-!
# What the requests can perform

`Request.Writes` lists, for every request, the commands with which it may write. Apart from
these a request only reads and emits events (`Request.program_performs`).
-/

set_option autoImplicit false

namespace SupportCrm

open KeyedTable AtomicProgram

/-- The patches that a request may make, with the agent who is named for them. -/
inductive Request.Patches : Request → TicketId → PatchTicketDto → Option AgentId → Prop where
  | revive (message : NormalizedIncomingMessage) (id : TicketId) :
      Patches (.ingest message) id { status := some .open } none
  | patch (id : TicketId) (dto : PatchTicketDto) (byAgentId : AgentId) :
      Patches (.patch id dto byAgentId) id dto (some byAgentId)
  | close (id : TicketId) (byAgentId : AgentId) :
      Patches (.close id byAgentId) id { status := some .closed } (some byAgentId)
  | reopen (id : TicketId) (byAgentId : AgentId) :
      Patches (.reopen id byAgentId) id { status := some .open } (some byAgentId)
  | snooze (id : TicketId) (snoozeUntil : Option (Option Time)) (byAgentId : AgentId) :
      Patches (.snooze id snoozeUntil byAgentId) id
        { status := some .on_hold, snooze_until := snoozeUntil } (some byAgentId)
  | bulkClose (byAgentId : AgentId) (ids : List TicketId) (id : TicketId) (named : id ∈ ids) :
      Patches (.bulk .close byAgentId ids) id { status := some .closed } (some byAgentId)
  | bulkLabel (labelId : LabelId) (byAgentId : AgentId) (ids : List TicketId) (id : TicketId)
      (named : id ∈ ids) (labels : List LabelId) (added : labelId ∈ labels) :
      Patches (.bulk (.label (some labelId)) byAgentId ids) id { labels := some labels }
        (some byAgentId)

/-- The assignments that a request may make: the ticket, the assignee as the request gives it
and the agent who asks. -/
inductive Request.Assigns : Request → TicketId → Option (Option AgentId) → AgentId → Prop where
  | assign (id : TicketId) (agentId byAgentId : AgentId) (reason : Option String) :
      Assigns (.assign id agentId byAgentId reason) id (some (some agentId)) byAgentId
  | claim (id : TicketId) (byAgentId : AgentId) :
      Assigns (.claim id byAgentId) id (some (some byAgentId)) byAgentId
  | bulk (agentId : Option (Option AgentId)) (byAgentId : AgentId) (ids : List TicketId)
      (id : TicketId) (named : id ∈ ids) :
      Assigns (.bulk (.assign agentId) byAgentId ids) id agentId byAgentId

/-- The commands with which a request may write. -/
inductive Request.Writes : Request → Call → Prop where
  | binds (message : NormalizedIncomingMessage) (id : ExcludedSenderId) :
      Writes (.ingest message) (.excludedBind id message.fromTelegramUserId)
  | createsChat (message : NormalizedIncomingMessage) :
      Writes (.ingest message) (.chatCreate message.telegramChatId message.chatTitle)
  | createsCustomer (message : NormalizedIncomingMessage) :
      Writes (.ingest message) (.customerCreate message.fromTelegramUserId message.fromUsername
        message.fromDisplayName)
  | updatesCustomer (message : NormalizedIncomingMessage) (id : CustomerId) :
      Writes (.ingest message) (.customerUpdate id message.fromUsername message.fromDisplayName)
  | createsTicket (message : NormalizedIncomingMessage) (data : NewTicket) :
      Writes (.ingest message) (.ticketCreate data)
  | records (message : NormalizedIncomingMessage) (id : TicketId) :
      Writes (.ingest message)
        (.recordTransaction id message.tgMessageId message.text message.attachments)
  | acknowledges (message : NormalizedIncomingMessage) (id : TicketId) :
      Writes (.ingest message) (.acknowledgementCreate id autoAckText)
  | enqueuesAcknowledgement (message : NormalizedIncomingMessage) (job : OutboundReplyJob) :
      Writes (.ingest message) (.enqueueReply job)
  | sends (job : OutboundReplyJob) (method : TelegramMethod) (quoted : Option ℤ) (part : ℕ) :
      Writes (.outbound job) (.telegram job.telegramChatId method quoted part)
  | confirms (job : OutboundReplyJob) (tgMessageId : ℤ) :
      Writes (.outbound job) (.messageConfirm job.messageId tgMessageId)
  | patches {request : Request} {id : TicketId} {dto : PatchTicketDto} {byAgentId : Option AgentId}
      (patches : request.Patches id dto byAgentId) (data : TicketData)
      (builds : dto.Builds byAgentId data) :
      Writes request (.patchTransaction id data dto byAgentId)
  | assigns {request : Request} {id : TicketId} {agentId : Option (Option AgentId)}
      {byAgentId : AgentId} (assigns : request.Assigns id agentId byAgentId) (previous : Option AgentId)
      (reason : Option String) :
      Writes request (.assignTransaction id agentId byAgentId previous reason)
  | replies (params : OutgoingReply) (id : TicketId) (attachments : List Attachment)
      (firstResponse : Bool) :
      Writes (.reply params)
        (.replyTransaction id params.agentId params.text attachments firstResponse)
  | enqueuesReply (params : OutgoingReply) (job : OutboundReplyJob) :
      Writes (.reply params) (.enqueueReply job)
  | upsertsExcluded (id : TicketId) (byAgentId : AgentId) (telegramUserId : ℤ)
      (create : ExcludedSender) :
      Writes (.markNotCustomer id byAgentId) (.excludedUpsert telegramUserId create)
  | closes (id : TicketId) (byAgentId : AgentId) (closedAt : Time) :
      Writes (.markNotCustomer id byAgentId) (.closeTicket id closedAt byAgentId)
  | createsExcluded (params : CreateExcludedSender) (sender : ExcludedSender) :
      Writes (.createExcluded params) (.excludedCreate sender)
  | updatesExcluded (id : ExcludedSenderId) (name note : Option String) (isActive : Option Bool) :
      Writes (.updateExcluded id name note isActive) (.excludedUpdate id name note isActive)
  | removesExcluded (id : ExcludedSenderId) : Writes (.removeExcluded id) (.excludedDelete id)
  | updatesAgent (id : AgentId) (isActive : Option Bool) :
      Writes (.updateAgent id isActive) (.agentUpdate id isActive)

/-- What a request may perform. -/
def Request.Performs (request : Request) (c : Call) : Prop :=
  c.reads = true ∨ (∃ event, c = .emit event) ∨ request.Writes c

/-- What neither reads nor emits is a write of the request. -/
theorem Request.Performs.writes {request : Request} {c : Call} (performs : request.Performs c)
    (reads : c.reads = false) (silent : ∀ event, c ≠ .emit event) : request.Writes c := by
  rcases performs with reads' | ⟨event, emitted⟩ | writes
  · cases reads.symm.trans reads'
  · exact absurd emitted (silent event)
  · exact writes

/-- The update of a patch is built from its request. -/
theorem Request.Performs.builds {request : Request} {id : TicketId} {data : TicketData}
    {dto : PatchTicketDto} {byAgentId : Option AgentId}
    (performs : request.Performs (.patchTransaction id data dto byAgentId)) :
    dto.Builds byAgentId data := by
  cases performs.writes rfl (by rintro _ ⟨⟩)
  assumption

/-- A patch that a request performs is one that it may make. -/
theorem Request.Performs.patches {request : Request} {id : TicketId} {data : TicketData}
    {dto : PatchTicketDto} {byAgentId : Option AgentId}
    (performs : request.Performs (.patchTransaction id data dto byAgentId)) :
    request.Patches id dto byAgentId := by
  cases performs.writes rfl (by rintro _ ⟨⟩)
  assumption

/-- **A request performs nothing else**, whatever its commands answer. -/
theorem Request.program_performs (config : Config) (request : Request) :
    (request.program config).Always request.Performs := by
  have reads : ∀ c : Call, c.reads = true → request.Performs c := fun c reads => .inl reads
  have emits : ∀ event, request.Performs (.emit event) := fun event => .inr (.inl ⟨event, rfl⟩)
  have discarded : ∀ {α : Type} {p : App α}, p.Always request.Performs →
      (discard p : App Unit).Always request.Performs :=
    fun always => Program.always_bind always fun _ => Program.always_pure
  have patched : ∀ id dto byAgentId, request.Patches id dto byAgentId →
      (SupportCrm.patch id dto byAgentId).Always request.Performs :=
    fun id dto byAgentId patches => patch_always reads id dto byAgentId
      (fun data builds => .inr (.inr (.patches patches data builds))) (emits _) (emits _)
  have assigned : ∀ id agentId byAgentId reason, request.Assigns id agentId byAgentId →
      (SupportCrm.assign id agentId byAgentId reason).Always request.Performs :=
    fun id agentId byAgentId reason assigns => assign_always reads emits id agentId byAgentId
      reason fun previous => .inr (.inr (.assigns assigns previous reason))
  cases request with
  | ingest message =>
      refine discarded (Program.always_bind (classify_always reads _ _
        fun id => .inr (.inr (.binds message id))) fun kind => ?_)
      cases kind with
      | agent => exact Program.always_pure
      | excluded => exact Program.always_pure
      | customer =>
          exact processCustomer_always reads emits config message
            (.inr (.inr (.createsChat message))) (.inr (.inr (.createsCustomer message)))
            (fun id => .inr (.inr (.updatesCustomer message id)))
            (fun id => .inr (.inr (.patches (.revive message id) _ rfl)))
            (fun data => .inr (.inr (.createsTicket message data)))
            (fun id => .inr (.inr (.records message id)))
            (fun id => .inr (.inr (.acknowledges message id)))
            (fun job => .inr (.inr (.enqueuesAcknowledgement message job)))
  | outbound job =>
      exact processOutbound_always job
        (fun method quoted part => .inr (.inr (.sends job method quoted part)))
        fun tgMessageId => .inr (.inr (.confirms job tgMessageId))
  | patch id dto byAgentId => exact discarded (patched _ _ _ (.patch id dto byAgentId))
  | assign id agentId byAgentId reason =>
      exact discarded (assigned _ _ _ _ (.assign id agentId byAgentId reason))
  | claim id byAgentId => exact discarded (assigned _ _ _ _ (.claim id byAgentId))
  | close id byAgentId => exact discarded (patched _ _ _ (.close id byAgentId))
  | reopen id byAgentId => exact discarded (patched _ _ _ (.reopen id byAgentId))
  | snooze id snoozeUntil byAgentId =>
      exact discarded (patched _ _ _ (.snooze id snoozeUntil byAgentId))
  | bulk action byAgentId ids =>
      refine discarded (bulk_always action byAgentId ids fun id named => ?_)
      cases action with
      | assign agentId => exact assigned _ _ _ _ (.bulk agentId byAgentId ids id named)
      | close => exact patched _ _ _ (.bulkClose byAgentId ids id named)
      | label labelId =>
          cases labelId with
          | none =>
              exact Program.always_bind (getById_always reads id) fun _ =>
                Program.always_bind (getById_always reads id) fun _ => Program.always_throw
          | some labelId =>
              refine Program.always_bind (getById_always reads id) fun ticket => ?_
              refine patched _ _ _ (.bulkLabel labelId byAgentId ids id named _ ?_)
              split
              · assumption
              · exact List.mem_append_right _ (List.mem_singleton_self labelId)
  | reply params =>
      exact discarded (recordOutgoingReply_always reads emits _ params
        (fun id attachments first => .inr (.inr (.replies params id attachments first)))
        fun job => .inr (.inr (.enqueuesReply params job)))
  | markNotCustomer id byAgentId =>
      exact discarded (markTicketSenderAsNotCustomer_always reads id byAgentId
        (fun telegramUserId create =>
          .inr (.inr (.upsertsExcluded id byAgentId telegramUserId create)))
        fun now => .inr (.inr (.closes id byAgentId now)))
  | createExcluded params =>
      refine discarded ?_
      unfold createExcludedSender
      split
      · exact Program.always_throw
      · exact Program.always_perform (.inr (.inr (.createsExcluded params _)))
  | updateExcluded id name note isActive =>
      refine Program.always_bind (Program.always_perform (reads _ rfl)) fun existing => ?_
      split
      · exact Program.always_throw
      · exact Program.always_perform (.inr (.inr (.updatesExcluded id name note isActive)))
  | removeExcluded id =>
      refine Program.always_bind (Program.always_perform (reads _ rfl)) fun existing => ?_
      split
      · exact Program.always_throw
      · exact Program.always_perform (.inr (.inr (.removesExcluded id)))
  | updateAgent id isActive =>
      exact Program.always_perform (.inr (.inr (.updatesAgent id isActive)))

/-- The commands along a schedule are performed by requests of the pool. -/
theorem Requests.meets_performs (config : Config) (requests : List Request) (w : World)
    (schedule : List (Act ℕ)) :
    (Requests.start config requests w).Meets (fun _ => World.perform) World.advance
      (fun _ c _ => ∃ request ∈ requests, request.Performs c) (fun _ _ => True) schedule := by
  refine Pool.meets_of_always (P := fun _ c => ∃ request ∈ requests, request.Performs c) ?_ schedule
  intro i p present
  obtain ⟨request, listed, rfl⟩ := List.mem_map.mp (List.mem_of_getElem? present)
  exact (request.program_performs config).imp fun c performs => ⟨request, listed, performs⟩

end SupportCrm
