import SupportCrm.Ingest
import SupportCrm.Outbound

/-!
# What the services can perform

For each service, the commands that it can come to perform, whatever the commands answer: a
property of commands holds of all of them as soon as it holds of the reads and of the few
commands with which the service writes. Two such properties are named here, that a command
has no ticket as its target (`Call.target`) and that it touches no record of an excluded
sender by its identifier (`Call.record`).
-/

set_option autoImplicit false

namespace SupportCrm

open KeyedTable AtomicProgram

/-- The commands that only read. -/
def Call.reads : Call → Bool
  | .newDate | .agentByTelegramUserId _ | .excludedByTelegramUserId _ | .excludedByUsername _
  | .excludedById _ | .chatByTelegramChatId _ | .customerByTelegramUserId _ | .activeMembers _
  | .openCounts _ | .lastAssigned _ | .findTicketByAnchorMessage _ _
  | .findMostRecentActiveTicket _ _ | .ticketById _ | .ticketWithChat _ | .ticketWithCustomer _
  | .messageByTgMessageId _ _ | .lastMessage _ => true
  | _ => false

/-- The ticket that a command may open, or to which it may add an incoming message. -/
def Call.target : Call → Option TicketId
  | .patchTransaction id _ _ _ => some id
  | .recordTransaction ticketId _ _ _ => some ticketId
  | _ => none

/-- The record of an excluded sender that a command binds, edits or deletes. -/
def Call.record : Call → Option ExcludedSenderId
  | .excludedBind id _ | .excludedUpdate id _ _ _ | .excludedDelete id => some id
  | _ => none

/-- The command has no target. -/
abbrev Quiet (c : Call) : Prop := c.target = none

/-- The command touches no record by its identifier. -/
abbrev Recordless (c : Call) : Prop := c.record = none

/-- What `patchData` makes of a request. -/
def PatchTicketDto.Builds (dto : PatchTicketDto) (byAgentId : Option AgentId)
    (data : TicketData) : Prop :=
  match dto.status with
  | some .closed => ∃ now, data = { dto.data with closedAt := some now, closedBy := byAgentId }
  | some .solved => ∃ now, data = { dto.data with resolvedAt := some now }
  | _ => data = dto.data

theorem patchData_builds (dto : PatchTicketDto) (byAgentId : Option AgentId) :
    (patchData dto byAgentId).Gives (dto.Builds byAgentId) := by
  unfold patchData PatchTicketDto.Builds
  rcases dto.status with _ | _ | _ | _ | _ | _ | _
  case some.solved | some.closed =>
    refine Program.gives_bind (Program.gives_true _) fun now _ => ?_
    exact ⟨now, rfl⟩
  all_goals exact Program.gives_pure (Q := fun data => data = dto.data) rfl

/-- An update is what its request names, with the time of resolution if it solves the ticket,
and with the time and the agent if it closes it. -/
theorem PatchTicketDto.Builds.stamped {dto : PatchTicketDto} {byAgentId : Option AgentId}
    {data : TicketData} (builds : dto.Builds byAgentId data) :
    ∃ resolvedAt closedAt closedBy,
      data = { dto.data with
        resolvedAt := resolvedAt
        closedAt := closedAt
        closedBy := closedBy } ∧
      (resolvedAt.isSome ↔ dto.status = some .solved) ∧
      (closedAt.isSome ↔ dto.status = some .closed) ∧
      (closedBy = none ∨ dto.status = some .closed ∧ closedBy = byAgentId) := by
  unfold PatchTicketDto.Builds at builds
  split at builds
  · next closed =>
    obtain ⟨now, rfl⟩ := builds
    exact ⟨none, some now, byAgentId, rfl, by simp [closed], by simp [closed], .inr ⟨closed, rfl⟩⟩
  · next solved =>
    obtain ⟨now, rfl⟩ := builds
    exact ⟨some now, none, none, rfl, by simp [solved], by simp [solved], .inl rfl⟩
  · next notClosed notSolved =>
    exact ⟨none, none, none, builds, by simpa using notSolved, by simpa using notClosed, .inl rfl⟩

/-- An update refers to what its request names, and to the agent who closes the ticket. -/
theorem PatchTicketDto.Builds.refers {dto : PatchTicketDto} {byAgentId : Option AgentId}
    {data : TicketData} (builds : dto.Builds byAgentId data) :
    data.assignee = dto.assignee_id ∧ data.team = dto.team_id ∧
      (data.closedBy = none ∨ data.closedBy = byAgentId) := by
  obtain ⟨resolvedAt, closedAt, closedBy, rfl, -, -, agent⟩ := builds.stamped
  exact ⟨rfl, rfl, agent.imp_right And.right⟩

theorem quiet_of_reads (c : Call) (reads : c.reads = true) : Quiet c := by
  cases c <;> first | rfl | cases reads

theorem World.perform_of_reads (w : World) {c : Call} (reads : c.reads = true) :
    (w.perform c).2 = w := by
  cases c <;> first | rfl | cases reads

theorem recordless_of_reads (c : Call) (reads : c.reads = true) : Recordless c := by
  cases c <;> first | rfl | cases reads

section Always

variable {P : Call → Prop} (reads : ∀ c : Call, c.reads = true → P c)
include reads

/-! ## Sender, chat and customer -/

theorem classify_always (telegramUserId : ℤ) (username : Option String)
    (binds : ∀ id, P (.excludedBind id telegramUserId)) :
    (classify telegramUserId username).Always P := by
  refine Program.always_bind (Program.always_perform (reads _ rfl)) fun agent => ?_
  split
  · exact Program.always_pure
  · refine Program.always_bind (Program.always_perform (reads _ rfl)) fun excludedById => ?_
    split
    · exact Program.always_pure
    · unfold classifyByUsername
      split
      · exact Program.always_pure
      · refine Program.always_bind (Program.always_perform (reads _ rfl)) fun record => ?_
        split
        · exact Program.always_pure
        · exact Program.always_bind (Program.always_perform (binds _)) fun _ => Program.always_pure

theorem findOrCreateChat_always (telegramChatId : ℤ) (title : String)
    (creates : P (.chatCreate telegramChatId title)) :
    (findOrCreateChat telegramChatId title).Always P := by
  refine Program.always_bind (Program.always_perform (reads _ rfl)) fun existing => ?_
  split
  · exact Program.always_pure
  · exact Program.always_perform creates

theorem findOrCreateCustomer_always (telegramUserId : ℤ) (username : Option String)
    (displayName : String) (creates : P (.customerCreate telegramUserId username displayName))
    (updates : ∀ id, P (.customerUpdate id username displayName)) :
    (findOrCreateCustomer telegramUserId username displayName).Always P := by
  refine Program.always_bind (Program.always_perform (reads _ rfl)) fun existing => ?_
  split
  · split
    · exact Program.always_perform (updates _)
    · exact Program.always_pure
  · exact Program.always_perform creates

/-! ## Threads -/

theorem decideAssignment_always (chat : Chat) : (decideAssignment chat).Always P := by
  unfold decideAssignment
  split
  · exact Program.always_pure
  · split
    · exact Program.always_pure
    · refine Program.always_bind (Program.always_perform (reads _ rfl)) fun memberIds => ?_
      split
      · exact Program.always_pure
      · split
        · exact Program.always_bind (Program.always_perform (reads _ rfl))
            fun _ => Program.always_pure
        · exact Program.always_bind (Program.always_perform (reads _ rfl))
            fun _ => Program.always_pure

theorem decideByActivity_always (input : ThreadGroupingInput) :
    (decideByActivity input).Always P := by
  refine Program.always_bind (Program.always_perform (reads _ rfl)) fun active => ?_
  split
  · exact Program.always_pure
  · split
    · exact Program.always_pure
    · exact Program.always_pure

theorem decide_always (input : ThreadGroupingInput) : (decide input).Always P := by
  unfold decide
  split
  · exact decideByActivity_always reads input
  · refine Program.always_bind (Program.always_perform (reads _ rfl)) fun anchor => ?_
    split
    · exact decideByActivity_always reads input
    · split
      · exact decideByActivity_always reads input
      · exact Program.always_pure

/-! ## Tickets -/

theorem getById_always (id : TicketId) : (getById id).Always P := by
  refine Program.always_bind (Program.always_perform (reads _ rfl)) fun ticket => ?_
  split
  · exact Program.always_throw
  · exact Program.always_pure

theorem patchData_always (dto : PatchTicketDto) (byAgentId : Option AgentId) :
    (patchData dto byAgentId).Always P := by
  unfold patchData
  split
  · exact Program.always_bind (Program.always_perform (reads _ rfl)) fun _ => Program.always_pure
  · exact Program.always_bind (Program.always_perform (reads _ rfl)) fun _ => Program.always_pure
  · exact Program.always_pure

theorem patch_always (id : TicketId) (dto : PatchTicketDto) (byAgentId : Option AgentId)
    (patches : ∀ data, dto.Builds byAgentId data → P (.patchTransaction id data dto byAgentId))
    (updated : P (.emit (.ticketUpdated id dto))) (closed : P (.emit (.ticketClosed id byAgentId))) :
    (patch id dto byAgentId).Always P := by
  have data := patchData_always reads dto byAgentId
  refine Program.always_bind (getById_always reads id) fun _ => ?_
  refine Program.always_bind_gives data (patchData_builds dto byAgentId) fun data builds => ?_
  refine Program.always_bind (Program.always_perform (patches data builds)) fun ticket => ?_
  refine Program.always_bind (Program.always_perform updated) fun _ => ?_
  split
  · exact Program.always_bind (Program.always_perform closed) fun _ => Program.always_pure
  · exact Program.always_pure

theorem assign_always (emits : ∀ event, P (.emit event)) (id : TicketId)
    (agentId : Option (Option AgentId)) (byAgentId : AgentId) (reason : Option String)
    (assigns : ∀ previous, P (.assignTransaction id agentId byAgentId previous reason)) :
    (assign id agentId byAgentId reason).Always P := by
  refine Program.always_bind (getById_always reads id) fun _ => ?_
  refine Program.always_bind (Program.always_perform (assigns _)) fun _ => ?_
  exact Program.always_bind (Program.always_perform (emits _)) fun _ => Program.always_pure

omit reads in
theorem bulk_always (action : BulkAction) (byAgentId : AgentId) (ids : List TicketId)
    (one : ∀ id ∈ ids, (bulkOne action byAgentId id).Always P) :
    (bulk action byAgentId ids).Always P := by
  induction ids with
  | nil => exact Program.always_pure
  | cons id rest ih =>
      refine Program.always_bind (one id List.mem_cons_self) fun _ => ?_
      exact Program.always_bind (ih fun id member => one id (List.mem_cons_of_mem _ member))
        fun _ => Program.always_pure

theorem resolveTicket_always (emits : ∀ event, P (.emit event)) (chat : Entry Chat)
    (customer : Entry Customer) (tgMessageId : ℤ) (decision : ThreadGroupingDecision)
    (revives : ∀ id, P (.patchTransaction id { status := some .open } { status := some .open } none))
    (creates : ∀ data, P (.ticketCreate data)) :
    (resolveTicket chat customer tgMessageId decision).Always P := by
  cases decision with
  | attach ticketId revive rule =>
      cases revive with
      | false => exact Program.always_pure
      | true =>
          refine Program.always_bind (patch_always reads ticketId _ none ?_ (emits _) (emits _))
            fun _ => Program.always_pure
          rintro data rfl
          exact revives ticketId
  | createNew =>
      refine Program.always_bind (decideAssignment_always reads chat.val) fun _ => ?_
      refine Program.always_bind (Program.always_bind (Program.always_perform (creates _))
        fun _ => ?_) fun _ => Program.always_pure
      exact Program.always_bind (Program.always_perform (emits _)) fun _ => Program.always_pure

/-! ## Messages -/

theorem sendAutoAcknowledgement_always (emits : ∀ event, P (.emit event)) (ticketId : TicketId)
    (tgMessageId : ℤ) (acknowledges : P (.acknowledgementCreate ticketId autoAckText))
    (enqueues : ∀ job, P (.enqueueReply job)) :
    (sendAutoAcknowledgement ticketId tgMessageId).Always P := by
  refine Program.always_bind (Program.always_perform (reads _ rfl)) fun ticket => ?_
  split
  · exact Program.always_pure
  · refine Program.always_bind (Program.always_perform acknowledges) fun created => ?_
    exact Program.always_bind (Program.always_perform (enqueues _))
      fun _ => Program.always_perform (emits _)

theorem announceIncoming_always (emits : ∀ event, P (.emit event)) (ticketId : TicketId)
    (tgMessageId : ℤ) (isNewTicket : Bool) (message : Entry Message)
    (acknowledges : P (.acknowledgementCreate ticketId autoAckText))
    (enqueues : ∀ job, P (.enqueueReply job)) :
    (announceIncoming ticketId tgMessageId isNewTicket message).Always P := by
  refine Program.always_bind (Program.always_perform (emits _)) fun _ => ?_
  split
  · exact Program.always_bind (Program.always_attempt
      (sendAutoAcknowledgement_always reads emits ticketId tgMessageId acknowledges enqueues))
      fun _ => Program.always_pure
  · exact Program.always_pure

theorem recordIncoming_always (emits : ∀ event, P (.emit event)) (ticketId : TicketId)
    (tgMessageId : ℤ) (text : Option String) (attachments : List Attachment) (isNewTicket : Bool)
    (records : P (.recordTransaction ticketId tgMessageId text attachments))
    (acknowledges : P (.acknowledgementCreate ticketId autoAckText))
    (enqueues : ∀ job, P (.enqueueReply job)) :
    (recordIncoming ticketId tgMessageId text attachments isNewTicket).Always P := by
  refine Program.always_bind (Program.always_attempt (Program.always_perform records))
    fun stored => ?_
  split
  · exact announceIncoming_always reads emits _ _ _ _ acknowledges enqueues
  · refine Program.always_bind (Program.always_perform (reads _ rfl)) fun existing => ?_
    split
    · exact Program.always_pure
    · exact Program.always_throw
  · exact Program.always_throw

theorem quotedMessage_always (ticket : Entry Ticket) (asReply : Option Bool) :
    (quotedMessage ticket asReply).Always P := by
  unfold quotedMessage
  split
  · exact Program.always_pure
  · exact Program.always_pure
  · refine Program.always_bind (Program.always_perform (reads _ rfl)) fun lastMessage => ?_
    split
    · exact Program.always_pure
    · split
      · exact Program.always_pure
      · exact Program.always_pure

theorem recordOutgoingReply_always (emits : ∀ event, P (.emit event)) (publicUrl : String)
    (params : OutgoingReply)
    (replies : ∀ id attachments firstResponse,
      P (.replyTransaction id params.agentId params.text attachments firstResponse))
    (enqueues : ∀ job, P (.enqueueReply job)) :
    (recordOutgoingReply publicUrl params).Always P := by
  refine Program.always_bind (Program.always_perform (reads _ rfl)) fun ticket => ?_
  split
  · exact Program.always_throw
  · refine Program.always_bind (quotedMessage_always reads _ _) fun _ => ?_
    refine Program.always_bind (Program.always_perform (replies _ _ _)) fun _ => ?_
    refine Program.always_bind (Program.always_perform (enqueues _)) fun _ => ?_
    exact Program.always_bind (Program.always_perform (emits _)) fun _ => Program.always_pure

omit reads in
theorem processOutbound_always (job : OutboundReplyJob)
    (sends : ∀ method quoted part, P (.telegram job.telegramChatId method quoted part))
    (confirms : ∀ tgMessageId, P (.messageConfirm job.messageId tgMessageId)) :
    (processOutbound job).Always P := by
  have loop : ∀ (attachments : List OutboundAttachment) (quoted : Option ℤ) (index : ℕ)
      (first : Option ℤ), (sendAttachments job.telegramChatId job.text quoted index first
        attachments).Always P := by
    intro attachments quoted
    induction attachments with
    | nil => exact fun _ _ => Program.always_pure
    | cons attachment rest ih =>
        exact fun index first => Program.always_bind (Program.always_perform (sends _ _ _))
          fun _ => ih _ _
  have sent : (sendReply job.telegramChatId job.text job.replyToTgMessageId
      job.attachments).Always P := by
    unfold sendReply
    split
    · exact Program.always_perform (sends _ _ _)
    · exact Program.always_bind (loop _ _ _ _) fun _ => Program.always_pure
  exact Program.always_bind sent fun _ => Program.always_perform (confirms _)

/-! ## Excluded senders -/

theorem markTicketSenderAsNotCustomer_always (ticketId : TicketId) (byAgentId : AgentId)
    (upserts : ∀ telegramUserId create, P (.excludedUpsert telegramUserId create))
    (closes : ∀ now, P (.closeTicket ticketId now byAgentId)) :
    (markTicketSenderAsNotCustomer ticketId byAgentId).Always P := by
  refine Program.always_bind (Program.always_perform (reads _ rfl)) fun found => ?_
  split
  · exact Program.always_throw
  · refine Program.always_bind (Program.always_perform (upserts _ _)) fun _ => ?_
    refine Program.always_bind (Program.always_perform (reads _ rfl)) fun _ => ?_
    exact Program.always_bind (Program.always_perform (closes _)) fun _ => Program.always_pure

/-! ## Ingest -/

/-- The part of an ingest after the classification. -/
theorem processCustomer_always (emits : ∀ event, P (.emit event)) (config : Config)
    (message : NormalizedIncomingMessage)
    (chats : P (.chatCreate message.telegramChatId message.chatTitle))
    (customers : P (.customerCreate message.fromTelegramUserId message.fromUsername
      message.fromDisplayName))
    (profiles : ∀ id, P (.customerUpdate id message.fromUsername message.fromDisplayName))
    (revives : ∀ id, P (.patchTransaction id { status := some .open } { status := some .open } none))
    (creates : ∀ data, P (.ticketCreate data))
    (records : ∀ id, P (.recordTransaction id message.tgMessageId message.text message.attachments))
    (acknowledges : ∀ id, P (.acknowledgementCreate id autoAckText))
    (enqueues : ∀ job, P (.enqueueReply job)) : (processCustomer config message).Always P := by
  refine Program.always_bind (findOrCreateChat_always reads _ _ chats) fun chat => ?_
  refine Program.always_bind (findOrCreateCustomer_always reads _ _ _ customers profiles)
    fun customer => ?_
  refine Program.always_bind (Program.always_perform (reads _ rfl)) fun now => ?_
  refine Program.always_bind (decide_always reads _) fun decision => ?_
  refine Program.always_bind (resolveTicket_always reads emits _ _ _ _ revives creates)
    fun resolved => ?_
  exact Program.always_bind
    (recordIncoming_always reads emits _ _ _ _ _ (records _) (acknowledges _) enqueues)
    fun _ => Program.always_pure

end Always

end SupportCrm
