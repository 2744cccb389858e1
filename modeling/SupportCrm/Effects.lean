import SupportCrm.Store

/-!
# What the commands can do

`World.Step` lists every effect a command can have, with the world it leaves in full:
a command either changes nothing or makes exactly one of these changes
(`World.perform_step`). Invariants of the store are proved from this list; no later module
looks into the commands again.
-/

set_option autoImplicit false

namespace SupportCrm

open KeyedTable AtomicProgram

namespace World

variable {w w' : World}

/-! ## Performing -/

theorem perform_of_ok {c : Call} {answer : c.Resp} (effect : w.effect c = .ok (answer, w')) :
    w.perform c = (.ok answer, w') := by
  simp [perform, effect]

theorem perform_of_error {c : Call} {e : Err} (effect : w.effect c = .error e) :
    w.perform c = (.error e, w) := by
  simp [perform, effect]

theorem effect_of_perform_ok {c : Call} {answer : c.Resp} (ok : (w.perform c).1 = .ok answer) :
    w.effect c = .ok (answer, (w.perform c).2) := by
  cases effect : w.effect c with
  | error e =>
      rw [perform_of_error effect] at ok
      cases ok
  | ok outcome =>
      have performed : w.perform c = (.ok outcome.1, outcome.2) := perform_of_ok effect
      rw [performed] at ok ⊢
      cases ok
      rfl

theorem effect_of_perform_error {c : Call} {e : Err} (failed : (w.perform c).1 = .error e) :
    w.effect c = .error e := by
  cases effect : w.effect c with
  | error e' =>
      rw [perform_of_error effect] at failed
      cases failed
      rfl
  | ok outcome =>
      have performed : w.perform c = (.ok outcome.1, outcome.2) := perform_of_ok effect
      rw [performed] at failed
      cases failed

/-- A command that fails leaves the world as it was. -/
theorem perform_error {c : Call} {e : Err} (failed : (w.perform c).1 = .error e) :
    (w.perform c).2 = w := by
  unfold perform at failed ⊢
  split at failed
  · cases failed
  · rfl

/-! ## Single writes -/

theorem ticketUpdate_eq_ok_iff {missing : Err} {id : TicketId} {data : TicketData} :
    w.ticketUpdate missing id data = .ok w' ↔
      (w.tickets.find? id).isSome ∧
        (w.hasAgent data.assignee.join && w.hasTeam data.team.join &&
          w.hasAgent data.closedBy) = true ∧
        w' = { w with tickets := w.tickets.update id (data.apply w.now) (data.apply_key w.now) } := by
  unfold ticketUpdate
  split
  · next absent =>
    rw [Option.isNone_iff_eq_none] at absent
    simp [absent]
  · next present =>
    rw [Option.isNone_iff_eq_none, ← ne_eq, ← Option.isSome_iff_ne_none] at present
    split
    · next related => simp [present, related, eq_comm]
    · next unrelated => simp [unrelated]

theorem messageCreate_eq_ok_iff {message : Message} {row : Entry Message} :
    w.messageCreate message = .ok (row, w') ↔
      (w.tickets.find? message.ticketId).isSome ∧ w.hasAgent message.agentId = true ∧
        ∃ free : w.messages.Free message, row = ⟨w.messages.next, message⟩ ∧
          w' = { w with messages := w.messages.insert message free } := by
  unfold messageCreate
  split
  · next free =>
    split
    · next related =>
      rw [Bool.and_eq_true] at related
      simp [related, free, eq_comm]
    · next unrelated =>
      rw [Bool.and_eq_true, not_and] at unrelated
      simp only [reduceCtorEq, false_iff, not_and]
      exact fun present agent => absurd agent (unrelated present)
  · next taken => simp [taken]

theorem messageCreate_of_taken {message : Message} (taken : ¬ w.messages.Free message) :
    w.messageCreate message = .error .uniqueConstraint := by
  rw [messageCreate, dif_neg taken]

theorem ticketCreate_eq_ok {data : NewTicket} {view : TicketView}
    (ok : w.ticketCreate data = .ok (view, w')) :
    w' = { w with tickets := w.tickets.insert (data.row w.now) Ticket.free } ∧
      view.ticket = ⟨w.tickets.next, data.row w.now⟩ ∧
      (w.chats.find? data.chatId).isSome ∧ (w.customers.find? data.customerId).isSome := by
  unfold ticketCreate at ok
  split at ok
  · next related =>
    cases ok
    simp only [Bool.and_eq_true] at related
    exact ⟨rfl, rfl, related.1.1.1, related.1.1.2⟩
  · cases ok

theorem ticketCreate_of_related {data : NewTicket}
    (related : ((w.chats.find? data.chatId).isSome && (w.customers.find? data.customerId).isSome &&
      w.hasTeam data.teamId && w.hasAgent data.assigneeId) = true) :
    w.perform (.ticketCreate data) =
      (.ok (w.ticketView ⟨w.tickets.next, data.row w.now⟩),
        { w with tickets := w.tickets.insert (data.row w.now) Ticket.free }) :=
  perform_of_ok (if_pos related)

theorem bind_eq_ok_iff {ε α β : Type} {x : Except ε α} {f : α → Except ε β} {b : β} :
    x >>= f = .ok b ↔ ∃ a, x = .ok a ∧ f a = .ok b := by
  cases x with
  | error e => simp [bind, Except.bind]
  | ok a => simp [bind, Except.bind]

/-- The labels of a ticket. -/
def labelsOf (ticketLabels : Table TicketLabel.key) (id : TicketId) : List LabelId :=
  (ticketLabels.rows.filter fun row => row.val.ticketId = id).map fun row => row.val.labelId

theorem labelsOf_insert (ticketLabels : Table TicketLabel.key) (id : TicketId) (labelId : LabelId)
    (free : ticketLabels.Free ⟨id, labelId⟩) (other : TicketId) :
    labelsOf (ticketLabels.insert ⟨id, labelId⟩ free) other =
      labelsOf ticketLabels other ++ if other = id then [labelId] else [] := by
  by_cases own : other = id
  · simp [labelsOf, own]
  · simp [labelsOf, own, Ne.symm own]

theorem labelsOf_labelsDelete (w : World) (id other : TicketId) :
    labelsOf (w.labelsDelete id).ticketLabels other =
      if other = id then [] else labelsOf w.ticketLabels other := by
  simp only [labelsOf, labelsDelete, Table.rows_foldl_delete_filter, List.filter_filter]
  split
  · next own =>
    subst own
    simp
  · next ne =>
    refine congrArg _ (List.filter_congr fun row _ => ?_)
    by_cases same : row.val.ticketId = other <;> simp [same, ne]

theorem insertLabels_cons (ticketLabels : Table TicketLabel.key) (id : TicketId)
    (labelId : LabelId) (rest : List LabelId) :
    insertLabels ticketLabels id (labelId :: rest) =
      (ticketLabels.insert? ⟨id, labelId⟩).bind (insertLabels · id rest) := rfl

theorem labelsOf_insertLabels {before after : Table TicketLabel.key} {id : TicketId}
    {labels : List LabelId} (inserted : insertLabels before id labels = some after)
    (other : TicketId) :
    labelsOf after other = labelsOf before other ++ if other = id then labels else [] := by
  induction labels generalizing before with
  | nil =>
      obtain rfl := Option.some.inj inserted
      simp
  | cons labelId rest ih =>
      rw [insertLabels_cons] at inserted
      obtain ⟨table, first, last⟩ := Option.bind_eq_some_iff.mp inserted
      unfold Table.insert? at first
      split at first
      · obtain rfl := Option.some.inj first
        rw [ih last, labelsOf_insert]
        by_cases own : other = id <;> simp [own]
      · cases first

theorem labelsCreate_eq_ok {id : TicketId} {labels : List LabelId}
    (ok : w.labelsCreate id labels = .ok w') :
    ∃ ticketLabels, w' = { w with ticketLabels := ticketLabels } ∧
      ∀ other, labelsOf ticketLabels other =
        labelsOf w.ticketLabels other ++ if other = id then labels else [] := by
  unfold labelsCreate at ok
  split at ok
  · cases ok
  · next ticketLabels inserted =>
    split at ok
    · cases ok
      exact ⟨ticketLabels, rfl, labelsOf_insertLabels inserted⟩
    · cases ok

/-- The labels after a patch, which may name the labels of one ticket. -/
def Relabels (before after : Table TicketLabel.key) (id : TicketId)
    (labels : Option (List LabelId)) : Prop :=
  ∀ other, labelsOf after other =
    if other = id then labels.getD (labelsOf before id) else labelsOf before other

theorem labelsReplace_eq_ok {id : TicketId} {labels : Option (List LabelId)}
    (ok : w.labelsReplace id labels = .ok w') :
    ∃ ticketLabels, w' = { w with ticketLabels := ticketLabels } ∧
      Relabels w.ticketLabels ticketLabels id labels := by
  cases labels with
  | none =>
      obtain rfl := Except.ok.inj ok
      refine ⟨w.ticketLabels, rfl, fun other => ?_⟩
      split
      · next own => rw [own, Option.getD_none]
      · rfl
  | some labels =>
      obtain ⟨ticketLabels, same, labelled⟩ := labelsCreate_eq_ok ok
      refine ⟨ticketLabels, same, fun other => ?_⟩
      rw [labelled, labelsOf_labelsDelete]
      by_cases own : other = id <;> simp [own]

theorem ticketEventCreate_eq_ok {id : TicketId} {agentId : Option AgentId}
    {payload : TicketEventPayload} (ok : w.ticketEventCreate id agentId payload = .ok w') :
    w' = { w with
      ticketEvents := w.ticketEvents.insert ⟨id, agentId, payload, w.now⟩ TicketEvent.free } := by
  unfold ticketEventCreate at ok
  split at ok
  · cases ok
    rfl
  · cases ok

/-! ## Transactions -/

theorem patchTransaction_eq_ok {id : TicketId} {data : TicketData} {dto : PatchTicketDto}
    {byAgentId : Option AgentId} {view : TicketView}
    (ok : w.patchTransaction id data dto byAgentId = .ok (view, w')) :
    (w.tickets.find? id).isSome ∧ ∃ ticketLabels,
      Relabels w.ticketLabels ticketLabels id dto.labels ∧
      w' = { w with
        tickets := w.tickets.update id (data.apply w.now) (data.apply_key w.now)
        ticketLabels := ticketLabels
        ticketEvents := w.ticketEvents.insert ⟨id, byAgentId, .updated dto, w.now⟩
          TicketEvent.free } := by
  simp only [patchTransaction, bind_eq_ok_iff] at ok
  obtain ⟨w₁, updated, viewed, -, w₂, labelled, w₃, logged, same⟩ := ok
  cases same
  obtain ⟨present, -, rfl⟩ := ticketUpdate_eq_ok_iff.mp updated
  obtain ⟨ticketLabels, rfl, relabels⟩ := labelsReplace_eq_ok labelled
  obtain rfl := ticketEventCreate_eq_ok logged
  exact ⟨present, ticketLabels, relabels, rfl⟩

theorem viewOf_of_some {id : TicketId} {ticket : Entry Ticket}
    (found : w.tickets.find? id = some ticket) : w.viewOf id = .ok (w.ticketView ticket) := by
  unfold viewOf
  rw [found]

/-- A patch that connects nothing and names no labels goes through for any ticket. -/
theorem patchTransaction_of_plain {id : TicketId} (data : TicketData) (dto : PatchTicketDto)
    (present : (w.tickets.find? id).isSome) (assignee : data.assignee.join = none)
    (team : data.team.join = none) (closedBy : data.closedBy = none) (labels : dto.labels = none) :
    ∃ view, w.patchTransaction id data dto none = .ok (view,
      { w with
        tickets := w.tickets.update id (data.apply w.now) (data.apply_key w.now)
        ticketEvents := w.ticketEvents.insert ⟨id, none, .updated dto, w.now⟩ TicketEvent.free }) := by
  have kept : ((w.tickets.update id (data.apply w.now) (data.apply_key w.now)).find? id).isSome :=
    (Table.isSome_find?_update _ id).trans present
  obtain ⟨ticket, found⟩ := Option.isSome_iff_exists.mp kept
  have updated : w.ticketUpdate .recordNotFound id data = .ok _ :=
    ticketUpdate_eq_ok_iff.mpr ⟨present, by simp [assignee, team, closedBy, hasAgent, hasTeam], rfl⟩
  refine ⟨World.ticketView { w with
    tickets := w.tickets.update id (data.apply w.now) (data.apply_key w.now) } ticket, ?_⟩
  simp only [patchTransaction, bind_eq_ok_iff, labels]
  refine ⟨_, updated, _, viewOf_of_some found, _, rfl, _, ?_, rfl⟩
  exact if_pos (by simp [kept, hasAgent])

theorem assignTransaction_eq_ok {id : TicketId} {agentId : Option (Option AgentId)}
    {byAgentId : AgentId} {previousAssigneeId : Option AgentId} {reason : Option String}
    {view : TicketView}
    (ok : w.assignTransaction id agentId byAgentId previousAssigneeId reason = .ok (view, w')) :
    (w.tickets.find? id).isSome ∧
      w' = { w with
        tickets := w.tickets.update id
          (TicketData.apply { assignee := agentId } w.now) (TicketData.apply_key _ w.now)
        ticketEvents := w.ticketEvents.insert
          ⟨id, some byAgentId, .assigned agentId previousAssigneeId reason, w.now⟩
          TicketEvent.free } := by
  simp only [assignTransaction, bind_eq_ok_iff] at ok
  obtain ⟨w₁, updated, viewed, -, w₂, logged, same⟩ := ok
  cases same
  obtain ⟨present, -, rfl⟩ := ticketUpdate_eq_ok_iff.mp updated
  obtain rfl := ticketEventCreate_eq_ok logged
  exact ⟨present, rfl⟩

/-- The row that `recordIncoming` stores. -/
def incoming (w : World) (ticketId : TicketId) (tgMessageId : ℤ) (text : Option String)
    (attachments : List Attachment) : Message where
  ticketId := ticketId
  direction := .in
  sender := .customer
  tgMessageId := some tgMessageId
  text := text
  attachments := attachments
  createdAt := w.now

theorem recordTransaction_eq_ok_iff {ticketId : TicketId} {tgMessageId : ℤ}
    {text : Option String} {attachments : List Attachment} {row : Entry Message} :
    w.recordTransaction ticketId tgMessageId text attachments = .ok (row, w') ↔
      (w.tickets.find? ticketId).isSome ∧
        ∃ free : w.messages.Free (w.incoming ticketId tgMessageId text attachments),
          row = ⟨w.messages.next, w.incoming ticketId tgMessageId text attachments⟩ ∧
          w' = { w with
            messages := w.messages.insert (w.incoming ticketId tgMessageId text attachments) free
            tickets := w.tickets.update ticketId
              (TicketData.apply { lastClientMessageTgId := some tgMessageId } w.now)
              (TicketData.apply_key _ w.now) } := by
  simp only [recordTransaction, bind_eq_ok_iff]
  constructor
  · rintro ⟨⟨created, w₁⟩, stored, w₂, updated, same⟩
    obtain ⟨present, -, free, rfl, rfl⟩ := messageCreate_eq_ok_iff.mp stored
    obtain ⟨-, -, rfl⟩ := ticketUpdate_eq_ok_iff.mp updated
    cases same
    exact ⟨present, free, rfl, rfl⟩
  · rintro ⟨present, free, rfl, rfl⟩
    exact ⟨(_, _), messageCreate_eq_ok_iff.mpr ⟨present, rfl, free, rfl, rfl⟩,
      _, ticketUpdate_eq_ok_iff.mpr ⟨present, rfl, rfl⟩, rfl⟩

theorem recordTransaction_of_taken {ticketId : TicketId} {tgMessageId : ℤ}
    {text : Option String} {attachments : List Attachment}
    (taken : ¬ w.messages.Free (w.incoming ticketId tgMessageId text attachments)) :
    w.recordTransaction ticketId tgMessageId text attachments = .error .uniqueConstraint := by
  have refused : w.messageCreate (w.incoming ticketId tgMessageId text attachments) =
      .error .uniqueConstraint := messageCreate_of_taken taken
  change (w.messageCreate (w.incoming ticketId tgMessageId text attachments) >>= _) = _
  rw [refused]
  rfl

/-- A message of an existing ticket is refused only when the ticket has it. -/
theorem recordTransaction_eq_error {ticketId : TicketId} {tgMessageId : ℤ}
    {text : Option String} {attachments : List Attachment} {e : Err}
    (present : (w.tickets.find? ticketId).isSome)
    (failed : w.recordTransaction ticketId tgMessageId text attachments = .error e) :
    e = .uniqueConstraint ∧ ∃ row, w.messages.findKey? (tgMessageId, ticketId) = some row := by
  by_cases free : w.messages.Free (w.incoming ticketId tgMessageId text attachments)
  · cases failed.symm.trans (recordTransaction_eq_ok_iff.mpr ⟨present, free, rfl, rfl⟩)
  · cases failed.symm.trans (recordTransaction_of_taken free)
    exact ⟨rfl, Option.ne_none_iff_exists'.mp (mt (Table.free_iff_findKey? (by rfl)).mpr free)⟩

theorem replyTransaction_eq_ok {ticketId : TicketId} {agentId : AgentId} {text : String}
    {attachments : List Attachment} {firstResponse : Bool} {row : Entry Message}
    (ok : w.replyTransaction ticketId agentId text attachments firstResponse = .ok (row, w')) :
    (w.tickets.find? ticketId).isSome ∧ ∃ message free, row = ⟨w.messages.next, message⟩ ∧
      message.ticketId = ticketId ∧ message.direction = .out ∧ message.tgMessageId = none ∧
      message.createdAt = w.now ∧ message.sender = .agent ∧
      w' = { w with
        messages := w.messages.insert message free
        tickets := if firstResponse then w.tickets.update ticketId
            (TicketData.apply { firstResponseAt := some w.now } w.now) (TicketData.apply_key _ w.now)
          else w.tickets } := by
  simp only [replyTransaction, bind_eq_ok_iff] at ok
  obtain ⟨⟨created, w₁⟩, stored, w₂, updated, same⟩ := ok
  cases same
  obtain ⟨present, -, free, rfl, rfl⟩ := messageCreate_eq_ok_iff.mp stored
  refine ⟨present, _, free, rfl, rfl, rfl, rfl, rfl, rfl, ?_⟩
  cases firstResponse with
  | false =>
      obtain rfl := Except.ok.inj updated
      rfl
  | true =>
      obtain ⟨-, -, rfl⟩ := ticketUpdate_eq_ok_iff.mp updated
      rfl

theorem messageConfirm_eq_ok {id : MessageId} {tgMessageId : ℤ}
    (ok : w.messageConfirm id tgMessageId = .ok w') :
    (w.messages.find? id).isSome ∧ ∃ messages,
      w.messages.modify? id (confirmed tgMessageId) = some messages ∧
        w' = { w with messages := messages } := by
  unfold messageConfirm at ok
  split at ok
  · cases ok
  · next present =>
    rw [Option.isNone_iff_eq_none, ← ne_eq, ← Option.isSome_iff_ne_none] at present
    split at ok
    · cases ok
    · next messages changed =>
      cases ok
      exact ⟨present, messages, changed, rfl⟩

/-! ## The other tables -/

theorem chatCreate_eq_ok {telegramChatId : ℤ} {title : String} {row : Entry Chat}
    (ok : w.chatCreate telegramChatId title = .ok (row, w')) :
    ∃ free : w.chats.Free { telegramChatId := telegramChatId, title := title },
      row = ⟨w.chats.next, { telegramChatId := telegramChatId, title := title }⟩ ∧
      w' = { w with chats := w.chats.insert _ free } := by
  simp only [chatCreate] at ok
  split at ok
  · next free =>
    cases ok
    exact ⟨free, rfl, rfl⟩
  · cases ok

theorem customerCreate_eq_ok {telegramUserId : ℤ} {username : Option String}
    {displayName : String} {row : Entry Customer}
    (ok : w.customerCreate telegramUserId username displayName = .ok (row, w')) :
    ∃ free : w.customers.Free ⟨telegramUserId, username, some displayName⟩,
      row = ⟨w.customers.next, ⟨telegramUserId, username, some displayName⟩⟩ ∧
      w' = { w with customers := w.customers.insert _ free } := by
  simp only [customerCreate] at ok
  split at ok
  · next free =>
    cases ok
    exact ⟨free, rfl, rfl⟩
  · cases ok

/-- A chat is refused only when there is one with its identifier. -/
theorem chatCreate_eq_error {telegramChatId : ℤ} {title : String} {e : Err}
    (failed : w.chatCreate telegramChatId title = .error e) :
    ∃ chat, w.chats.findKey? telegramChatId = some chat := by
  simp only [chatCreate] at failed
  split at failed
  · cases failed
  · next taken =>
    exact Option.ne_none_iff_exists'.mp (mt (Table.free_iff_findKey? (by rfl)).mpr taken)

theorem customerCreate_eq_error {telegramUserId : ℤ} {username : Option String}
    {displayName : String} {e : Err}
    (failed : w.customerCreate telegramUserId username displayName = .error e) :
    ∃ customer, w.customers.findKey? telegramUserId = some customer := by
  simp only [customerCreate] at failed
  split at failed
  · cases failed
  · next taken =>
    exact Option.ne_none_iff_exists'.mp (mt (Table.free_iff_findKey? (by rfl)).mpr taken)

theorem customerUpdate_eq_ok {id : CustomerId} {username : Option String}
    {displayName : String} {row : Entry Customer}
    (ok : w.customerUpdate id username displayName = .ok (row, w')) :
    ∃ old, w.customers.find? id = some old ∧
      row = old.change id (profile username displayName) ∧
      w' = { w with
        customers := w.customers.update id (profile username displayName)
            (profile_key username displayName) } := by
  unfold customerUpdate at ok
  split at ok
  · cases ok
  · next old found =>
    cases ok
    exact ⟨old, found, rfl, rfl⟩

/-- The update of a customer who is stored. -/
theorem effect_customerUpdate {row : Entry Customer} {username : Option String}
    {displayName : String} (stored : row ∈ w.customers.rows) :
    w.effect (.customerUpdate row.id username displayName) =
      .ok (⟨row.id, profile username displayName row.val⟩,
        { w with
          customers := w.customers.update row.id (profile username displayName)
            (profile_key username displayName) }) := by
  have present := Table.find?_self stored
  simp only [effect, customerUpdate, present, Entry.change, if_true]

theorem excludedCreate_eq_ok {sender : ExcludedSender} {row : Entry ExcludedSender}
    (ok : w.excludedCreate sender = .ok (row, w')) :
    ∃ free : w.excludedSenders.Free sender, row = ⟨w.excludedSenders.next, sender⟩ ∧
      w' = { w with excludedSenders := w.excludedSenders.insert sender free } := by
  unfold excludedCreate at ok
  split at ok
  · next free =>
    split at ok
    · cases ok
      exact ⟨free, rfl, rfl⟩
    · cases ok
  · cases ok

theorem excludedBind_eq_ok_iff {id : ExcludedSenderId} {telegramUserId : ℤ} :
    w.excludedBind id telegramUserId = .ok w' ↔
      (w.excludedSenders.find? id).isSome ∧
        ∃ excludedSenders, w.excludedSenders.modify? id (bound telegramUserId) = some excludedSenders ∧
          w' = { w with excludedSenders := excludedSenders } := by
  unfold excludedBind
  split
  · next absent =>
    rw [Option.isNone_iff_eq_none] at absent
    simp [absent]
  · next present =>
    rw [Option.isNone_iff_eq_none, ← ne_eq, ← Option.isSome_iff_ne_none] at present
    split
    · next taken => simp [taken]
    · next excludedSenders changed => simp [present, changed, eq_comm]

/-! ## All effects -/

end World

/-- The commands that write the table of excluded senders. -/
def Call.writesSenders : Call → Bool
  | .excludedBind _ _ | .excludedCreate _ | .excludedUpdate _ _ _ _ | .excludedDelete _
  | .excludedUpsert _ _ => true
  | _ => false

namespace World

variable {w w' : World}

/-- What a command can do. -/
inductive Step (w : World) : Call → World → Prop where
  | unchanged (c : Call) : Step w c w
  | agents (id : AgentId) (isActive : Option Bool) (agents : Table Agent.key)
      (same : ∀ id, (agents.find? id).isSome = (w.agents.find? id).isSome) :
      Step w (.agentUpdate id isActive) { w with agents := agents }
  | excludedSenders (c : Call) (excludedSenders : Table ExcludedSender.key)
      (writes : c.writesSenders = true) : Step w c { w with excludedSenders := excludedSenders }
  | chatCreate (telegramChatId : ℤ) (title : String)
      (free : w.chats.Free { telegramChatId := telegramChatId, title := title }) :
      Step w (.chatCreate telegramChatId title) { w with chats := w.chats.insert _ free }
  | customerCreate (telegramUserId : ℤ) (username : Option String) (displayName : String)
      (free : w.customers.Free ⟨telegramUserId, username, some displayName⟩) :
      Step w (.customerCreate telegramUserId username displayName)
        { w with customers := w.customers.insert _ free }
  | customerUpdate (id : CustomerId) (username : Option String) (displayName : String) :
      Step w (.customerUpdate id username displayName)
        { w with
          customers := w.customers.update id (profile username displayName)
            (profile_key username displayName) }
  | ticketCreate (data : NewTicket) (chat : (w.chats.find? data.chatId).isSome)
      (customer : (w.customers.find? data.customerId).isSome) :
      Step w (.ticketCreate data)
        { w with tickets := w.tickets.insert (data.row w.now) Ticket.free }
  | patch (id : TicketId) (data : TicketData) (dto : PatchTicketDto)
      (byAgentId : Option AgentId) (ticketLabels : Table TicketLabel.key)
      (present : (w.tickets.find? id).isSome)
      (relabels : Relabels w.ticketLabels ticketLabels id dto.labels) :
      Step w (.patchTransaction id data dto byAgentId)
        { w with
          tickets := w.tickets.update id (data.apply w.now) (data.apply_key w.now)
          ticketLabels := ticketLabels
          ticketEvents := w.ticketEvents.insert ⟨id, byAgentId, .updated dto, w.now⟩
            TicketEvent.free }
  | assign (id : TicketId) (agentId : Option (Option AgentId)) (byAgentId : AgentId)
      (previousAssigneeId : Option AgentId) (reason : Option String)
      (present : (w.tickets.find? id).isSome) :
      Step w (.assignTransaction id agentId byAgentId previousAssigneeId reason)
        { w with
          tickets := w.tickets.update id
            (TicketData.apply { assignee := agentId } w.now) (TicketData.apply_key _ w.now)
          ticketEvents := w.ticketEvents.insert
            ⟨id, some byAgentId, .assigned agentId previousAssigneeId reason, w.now⟩
            TicketEvent.free }
  | close (id : TicketId) (closedAt : Time) (closedById : AgentId)
      (agent : w.hasAgent (some closedById) = true) :
      Step w (.closeTicket id closedAt closedById)
        { w with
          tickets := w.tickets.update id
            (TicketData.apply
              { status := some .closed, closedAt := some closedAt, closedBy := some closedById }
              w.now) (TicketData.apply_key _ w.now) }
  | record (ticketId : TicketId) (tgMessageId : ℤ) (text : Option String)
      (attachments : List Attachment) (present : (w.tickets.find? ticketId).isSome)
      (free : w.messages.Free (w.incoming ticketId tgMessageId text attachments)) :
      Step w (.recordTransaction ticketId tgMessageId text attachments)
        { w with
          messages := w.messages.insert (w.incoming ticketId tgMessageId text attachments) free
          tickets := w.tickets.update ticketId
            (TicketData.apply { lastClientMessageTgId := some tgMessageId } w.now)
            (TicketData.apply_key _ w.now) }
  | acknowledge (ticketId : TicketId) (text : String) (message : Message)
      (free : w.messages.Free message) (present : (w.tickets.find? ticketId).isSome)
      (own : message.ticketId = ticketId) (out : message.direction = .out)
      (pending : message.tgMessageId = none) (created : message.createdAt = w.now)
      (bot : message.sender = .bot) :
      Step w (.acknowledgementCreate ticketId text)
        { w with messages := w.messages.insert message free }
  | reply (ticketId : TicketId) (agentId : AgentId) (text : String)
      (attachments : List Attachment) (firstResponse : Bool) (message : Message)
      (free : w.messages.Free message) (present : (w.tickets.find? ticketId).isSome)
      (own : message.ticketId = ticketId) (out : message.direction = .out)
      (pending : message.tgMessageId = none) (created : message.createdAt = w.now)
      (agent : message.sender = .agent) :
      Step w (.replyTransaction ticketId agentId text attachments firstResponse)
        { w with
          messages := w.messages.insert message free
          tickets := if firstResponse then w.tickets.update ticketId
              (TicketData.apply { firstResponseAt := some w.now } w.now) (TicketData.apply_key _ w.now)
            else w.tickets }
  | confirm (id : MessageId) (tgMessageId : ℤ) (messages : Table Message.key)
      (changed : w.messages.modify? id (confirmed tgMessageId) = some messages) :
      Step w (.messageConfirm id tgMessageId) { w with messages := messages }
  | enqueueReply (job : OutboundReplyJob) :
      Step w (.enqueueReply job) { w with outbound := w.outbound ++ [job] }
  | emit (event : DomainEvent) : Step w (.emit event) { w with emitted := w.emitted ++ [event] }
  | telegram (chatId : ℤ) (method : TelegramMethod) (replyParameters : Option ℤ) (part : ℕ)
      (sent : SentMessage) :
      Step w (.telegram chatId method replyParameters part) { w with sent := w.sent ++ [sent] }

theorem map_unit_eq_ok_iff {x : Except Err World} {answer : Unit × World} :
    x.map ((), ·) = .ok answer ↔ x = .ok answer.2 := by
  cases x with
  | error e => simp [Except.map]
  | ok v => simp [Except.map, Prod.ext_iff]

theorem effect_step {c : Call} {answer : c.Resp} (ok : w.effect c = .ok (answer, w')) :
    w.Step c w' := by
  cases c <;> simp only [effect, map_unit_eq_ok_iff] at ok
  case agentUpdate id isActive =>
    unfold agentUpdate at ok
    split at ok
    · cases ok
    · obtain rfl := Except.ok.inj ok
      exact .agents id isActive _ (Table.isSome_find?_update (activity_key isActive))
  case excludedBind id telegramUserId =>
    obtain ⟨-, excludedSenders, -, rfl⟩ := excludedBind_eq_ok_iff.mp ok
    exact .excludedSenders _ excludedSenders rfl
  case excludedCreate sender =>
    obtain ⟨free, -, rfl⟩ := excludedCreate_eq_ok ok
    exact .excludedSenders _ _ rfl
  case excludedUpdate id name note isActive =>
    unfold excludedUpdate at ok
    split at ok
    · cases ok
    · obtain rfl := Except.ok.inj ok
      exact .excludedSenders _ _ rfl
  case excludedDelete id =>
    unfold excludedDelete at ok
    split at ok
    · cases ok
    · obtain rfl := Except.ok.inj ok
      exact .excludedSenders _ _ rfl
  case excludedUpsert telegramUserId create =>
    unfold excludedUpsert at ok
    split at ok
    · cases ok
      exact .excludedSenders _ _ rfl
    · obtain ⟨free, -, rfl⟩ := excludedCreate_eq_ok ok
      exact .excludedSenders _ _ rfl
  case chatCreate telegramChatId title =>
    obtain ⟨free, -, rfl⟩ := chatCreate_eq_ok ok
    exact .chatCreate telegramChatId title free
  case customerCreate telegramUserId username displayName =>
    obtain ⟨free, -, rfl⟩ := customerCreate_eq_ok ok
    exact .customerCreate telegramUserId username displayName free
  case customerUpdate id username displayName =>
    obtain ⟨old, -, -, rfl⟩ := customerUpdate_eq_ok ok
    exact .customerUpdate id username displayName
  case ticketCreate data =>
    obtain ⟨rfl, -, chat, customer⟩ := ticketCreate_eq_ok ok
    exact .ticketCreate data chat customer
  case patchTransaction id data dto byAgentId =>
    obtain ⟨present, ticketLabels, relabels, rfl⟩ := patchTransaction_eq_ok ok
    exact .patch id data dto byAgentId ticketLabels present relabels
  case assignTransaction id agentId byAgentId previousAssigneeId reason =>
    obtain ⟨present, rfl⟩ := assignTransaction_eq_ok ok
    exact .assign id agentId byAgentId previousAssigneeId reason present
  case closeTicket id closedAt closedById =>
    obtain ⟨-, agent, rfl⟩ := ticketUpdate_eq_ok_iff.mp ok
    exact .close id closedAt closedById agent
  case recordTransaction ticketId tgMessageId text attachments =>
    obtain ⟨present, free, -, rfl⟩ := recordTransaction_eq_ok_iff.mp ok
    exact .record ticketId tgMessageId text attachments present free
  case acknowledgementCreate ticketId text =>
    obtain ⟨present, -, free, -, rfl⟩ := messageCreate_eq_ok_iff.mp ok
    exact .acknowledge ticketId text _ free present rfl rfl rfl rfl rfl
  case replyTransaction ticketId agentId text attachments firstResponse =>
    obtain ⟨present, message, free, -, own, out, pending, created, agent, rfl⟩ :=
      replyTransaction_eq_ok ok
    exact .reply ticketId agentId text attachments firstResponse message free present own out
      pending created agent
  case messageConfirm id tgMessageId =>
    obtain ⟨-, messages, changed, rfl⟩ := messageConfirm_eq_ok ok
    exact .confirm id tgMessageId messages changed
  all_goals cases ok
  case enqueueReply job => exact .enqueueReply job
  case emit event => exact .emit event
  case telegram chatId method replyParameters part =>
    exact .telegram chatId method replyParameters part _
  all_goals exact .unchanged _

/-- **Every command makes one of these steps.** -/
theorem perform_step (w : World) (c : Call) : w.Step c (w.perform c).2 := by
  cases effect : w.effect c with
  | error e =>
      rw [perform_of_error effect]
      exact .unchanged c
  | ok result =>
      rw [perform_of_ok effect]
      exact effect_step effect

end World
end SupportCrm
