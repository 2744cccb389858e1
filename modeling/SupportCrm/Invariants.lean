import SupportCrm.Effects

/-!
# Invariants of the store

What every command keeps, whoever performs it and in whatever order: the foreign keys of
the schema that the pipeline relies on (`World.Linked`), and that no row is younger than
the clock (`World.Timely`). Both hold in every state that any interleaving of services
reaches.

`World.ticket_perform` says what a command can do to one ticket, and `message_perform` what
it can do to the messages.
-/

set_option autoImplicit false

namespace SupportCrm

open KeyedTable AtomicProgram

/-! ## Updates of a ticket -/

section Apply

variable (data : TicketData) (now : Time) (ticket : Ticket)

@[simp] theorem TicketData.apply_chatId : (data.apply now ticket).chatId = ticket.chatId := rfl

@[simp] theorem TicketData.apply_customerId :
    (data.apply now ticket).customerId = ticket.customerId := rfl

@[simp] theorem TicketData.apply_anchorMessageTgId :
    (data.apply now ticket).anchorMessageTgId = ticket.anchorMessageTgId := rfl

@[simp] theorem TicketData.apply_updatedAt : (data.apply now ticket).updatedAt = now := rfl

@[simp] theorem TicketData.apply_status :
    (data.apply now ticket).status = data.status.getD ticket.status := rfl

end Apply

/-- The ticket update a command makes, if it takes effect. -/
def Call.ticketData (now : Time) : Call → Option (TicketId × TicketData)
  | .patchTransaction id data _ _ => some (id, data)
  | .assignTransaction id agentId _ _ _ => some (id, { assignee := agentId })
  | .closeTicket id closedAt closedById =>
      some (id, { status := some .closed, closedAt := some closedAt, closedBy := some closedById })
  | .recordTransaction ticketId tgMessageId _ _ =>
      some (ticketId, { lastClientMessageTgId := some tgMessageId })
  | .replyTransaction ticketId _ _ _ true => some (ticketId, { firstResponseAt := some now })
  | _ => none

/-- The commands that update a ticket, each with its update. -/
inductive Call.Updates (now : Time) : Call → TicketId → TicketData → Prop where
  | patch (id : TicketId) (data : TicketData) (dto : PatchTicketDto) (byAgentId : Option AgentId) :
      Updates now (.patchTransaction id data dto byAgentId) id data
  | assign (id : TicketId) (agentId : Option (Option AgentId)) (byAgentId : AgentId)
      (previousAssigneeId : Option AgentId) (reason : Option String) :
      Updates now (.assignTransaction id agentId byAgentId previousAssigneeId reason) id
        { assignee := agentId }
  | close (id : TicketId) (closedAt : Time) (closedById : AgentId) :
      Updates now (.closeTicket id closedAt closedById) id
        { status := some .closed, closedAt := some closedAt, closedBy := some closedById }
  | record (ticketId : TicketId) (tgMessageId : ℤ) (text : Option String)
      (attachments : List Attachment) :
      Updates now (.recordTransaction ticketId tgMessageId text attachments) ticketId
        { lastClientMessageTgId := some tgMessageId }
  | reply (ticketId : TicketId) (agentId : AgentId) (text : String)
      (attachments : List Attachment) :
      Updates now (.replyTransaction ticketId agentId text attachments true) ticketId
        { firstResponseAt := some now }

theorem Call.updates_of_ticketData {now : Time} {c : Call} {id : TicketId} {data : TicketData}
    (update : c.ticketData now = some (id, data)) : c.Updates now id data := by
  cases c with
  | patchTransaction =>
      cases update
      exact .patch _ _ _ _
  | assignTransaction =>
      cases update
      exact .assign _ _ _ _ _
  | closeTicket =>
      cases update
      exact .close _ _ _
  | recordTransaction =>
      cases update
      exact .record _ _ _ _
  | replyTransaction ticketId agentId text attachments firstResponse =>
      cases firstResponse with
      | false => cases update
      | true =>
          cases update
          exact .reply _ _ _ _
  | _ => cases update

namespace World

variable {w : World}

/-! ## Tickets -/

/-- What a command does to the ticket table: nothing, one new row, or one update. -/
theorem tickets_perform (w : World) (c : Call) :
    (w.perform c).2.tickets = w.tickets ∨
      (∃ data, c = .ticketCreate data ∧ (w.perform c).2.tickets =
        w.tickets.insert (data.row w.now) Ticket.free) ∨
      ∃ id data, c.ticketData w.now = some (id, data) ∧
        (w.perform c).2.tickets = w.tickets.update id (data.apply w.now)
          (data.apply_key w.now) := by
  have step := w.perform_step c
  generalize (w.perform c).2 = w' at step
  cases step
  case ticketCreate data chat customer => exact .inr (.inl ⟨data, rfl, rfl⟩)
  case patch id data dto byAgentId ticketLabels present relabels =>
    exact .inr (.inr ⟨id, data, rfl, rfl⟩)
  case assign => exact .inr (.inr ⟨_, _, rfl, rfl⟩)
  case close => exact .inr (.inr ⟨_, _, rfl, rfl⟩)
  case record => exact .inr (.inr ⟨_, _, rfl, rfl⟩)
  case reply ticketId agentId text attachments firstResponse message free present own out
      pending created agent =>
    cases firstResponse with
    | false => exact .inl rfl
    | true => exact .inr (.inr ⟨_, _, rfl, rfl⟩)
  all_goals exact .inl rfl

/-- An update that takes effect updates a ticket that exists. -/
theorem tickets_of_update {c : Call} {answer : c.Resp} (ok : (w.perform c).1 = .ok answer)
    {id : TicketId} {data : TicketData} (update : c.ticketData w.now = some (id, data)) :
    (w.tickets.find? id).isSome ∧
      (w.perform c).2.tickets = w.tickets.update id (data.apply w.now) (data.apply_key w.now) := by
  have effect := effect_of_perform_ok ok
  generalize (w.perform c).2 = w' at effect
  cases Call.updates_of_ticketData update with
  | patch =>
      obtain ⟨present, ticketLabels, -, rfl⟩ := patchTransaction_eq_ok effect
      exact ⟨present, rfl⟩
  | assign =>
      obtain ⟨present, rfl⟩ := assignTransaction_eq_ok effect
      exact ⟨present, rfl⟩
  | close =>
      simp only [World.effect, map_unit_eq_ok_iff] at effect
      obtain ⟨present, -, rfl⟩ := ticketUpdate_eq_ok_iff.mp effect
      exact ⟨present, rfl⟩
  | record =>
      obtain ⟨present, free, -, rfl⟩ := recordTransaction_eq_ok_iff.mp effect
      exact ⟨present, rfl⟩
  | reply =>
      obtain ⟨present, message, free, -, -, -, -, -, -, rfl⟩ := replyTransaction_eq_ok effect
      exact ⟨present, rfl⟩

/-- A ticket that exists still exists, unchanged or updated. -/
theorem ticket_perform (c : Call) {id : TicketId} {ticket : Entry Ticket}
    (found : w.tickets.find? id = some ticket) :
    ∃ ticket', (w.perform c).2.tickets.find? id = some ticket' ∧
      (ticket' = ticket ∨ ∃ data, c.ticketData w.now = some (id, data) ∧
        ticket' = ⟨id, data.apply w.now ticket.val⟩) := by
  rcases w.tickets_perform c with same | ⟨data, rfl, same⟩ | ⟨other, data, update, same⟩
  · exact ⟨ticket, same ▸ found, .inl rfl⟩
  · exact ⟨ticket, same ▸ Table.find?_insert_of_some Ticket.free found, .inl rfl⟩
  · by_cases own : id = other
    · subst own
      exact ⟨_, same ▸ Table.find?_update_self (data.apply_key w.now) found, .inr ⟨data, update, rfl⟩⟩
    · exact ⟨ticket, same ▸ (Table.find?_update_of_ne (data.apply_key w.now) own).trans found, .inl rfl⟩

/-- No command removes a ticket. -/
theorem isSome_ticket_perform (c : Call) {id : TicketId} (present : (w.tickets.find? id).isSome) :
    ((w.perform c).2.tickets.find? id).isSome := by
  obtain ⟨ticket, found⟩ := Option.isSome_iff_exists.mp present
  obtain ⟨ticket', found', -⟩ := ticket_perform c found
  rw [found']
  rfl

/-- The ticket update that a command makes, if it takes effect, meets a condition. -/
def updatesMeet (w : World) (p : Entry Ticket → TicketData → Bool) (c : Call) : Bool :=
  match (w.perform c).1 with
  | .error _ => true
  | .ok _ => (c.ticketData w.now).all fun update =>
      (w.tickets.find? update.1).all fun ticket => p ticket update.2

/-- A command makes an update that takes effect, or it updates nothing. -/
theorem update_cases (w : World) (c : Call) :
    (∃ id data ticket, c.ticketData w.now = some (id, data) ∧ w.tickets.find? id = some ticket ∧
        (w.perform c).2.tickets = w.tickets.update id (data.apply w.now) (data.apply_key w.now) ∧
        ∀ p, w.updatesMeet p c = p ticket data) ∨
      (∀ p, w.updatesMeet p c = true) ∧ ((w.perform c).2.tickets = w.tickets ∨
        ∃ data, c = .ticketCreate data ∧
          (w.perform c).2.tickets = w.tickets.insert (data.row w.now) Ticket.free) := by
  cases answered : (w.perform c).1 with
  | error e =>
      refine .inr ⟨fun p => by rw [updatesMeet, answered], .inl ?_⟩
      rw [perform_error answered]
  | ok answer =>
      cases update : c.ticketData w.now with
      | some written =>
          obtain ⟨id, data⟩ := written
          obtain ⟨present, same⟩ := tickets_of_update answered update
          obtain ⟨ticket, found⟩ := Option.isSome_iff_exists.mp present
          refine .inl ⟨id, data, ticket, rfl, found, same, fun p => ?_⟩
          simp [updatesMeet, answered, update, found]
      | none =>
          refine .inr ⟨fun p => by simp [updatesMeet, answered, update], ?_⟩
          rcases w.tickets_perform c with same | created | ⟨id, data, update', -⟩
          · exact .inl same
          · exact .inr created
          · cases update.symm.trans update'

/-- What holds of every ticket, and of every new one, holds after a command exactly when its
update meets the condition under which it does. -/
theorem tickets_perform_iff {Q : Ticket → Prop} {p : Entry Ticket → TicketData → Bool} {c : Call}
    (created : ∀ data, c = .ticketCreate data → Q (data.row w.now))
    (updated : ∀ id data ticket, c.ticketData w.now = some (id, data) → Q ticket.val →
      (Q (data.apply w.now ticket.val) ↔ p ticket data = true))
    (holds : ∀ row ∈ w.tickets.rows, Q row.val) :
    (∀ row ∈ (w.perform c).2.tickets.rows, Q row.val) ↔ w.updatesMeet p c = true := by
  rcases w.update_cases c with ⟨id, data, ticket, update, found, same, meets⟩ |
    ⟨meets, same | ⟨data, rfl, same⟩⟩
  · rw [meets, ← updated id data ticket update (holds ticket (Table.mem_of_find? found)), same,
      Table.update_rows]
    constructor
    · intro all
      have listed := List.mem_map_of_mem (f := Entry.change id (data.apply w.now))
        (Table.mem_of_find? found)
      obtain rfl := Table.id_of_find? found
      simpa [Entry.change] using all _ listed
    · intro new row member
      obtain ⟨old, listed, rfl⟩ := List.mem_map.mp member
      by_cases own : old.id = id
      · have same : old = ticket :=
          Table.eq_of_id_eq listed (Table.mem_of_find? found) (own.trans (Table.id_of_find? found).symm)
        subst same
        simpa [Entry.change, own] using new
      · rw [Entry.change_of_ne _ _ own]
        exact holds old listed
  · rw [meets, same]
    exact iff_of_true holds rfl
  · rw [meets, same]
    refine iff_of_true (fun row member => ?_) rfl
    rcases (Table.mem_insert Ticket.free).mp member with old | rfl
    · exact holds row old
    · exact created data rfl

/-! ## Messages -/

/-- What a command does to the message table: nothing, one new row of an existing ticket,
or the confirmation of one row. -/
theorem messages_perform (w : World) (c : Call) :
    (w.perform c).2.messages = w.messages ∨
      (∃ message free, (w.tickets.find? message.ticketId).isSome ∧ message.createdAt = w.now ∧
        (w.perform c).2.messages = w.messages.insert message free) ∨
      ∃ id tgMessageId messages, c = .messageConfirm id tgMessageId ∧
        w.messages.modify? id (confirmed tgMessageId) = some messages ∧
        (w.perform c).2.messages = messages := by
  have step := w.perform_step c
  generalize (w.perform c).2 = w' at step
  cases step
  case record ticketId tgMessageId text attachments present free =>
    exact .inr (.inl ⟨_, free, present, rfl, rfl⟩)
  case acknowledge ticketId text message free present own out pending created bot =>
    exact .inr (.inl ⟨message, free, own ▸ present, created, rfl⟩)
  case reply ticketId agentId text attachments firstResponse message free present own out
      pending created agent =>
    exact .inr (.inl ⟨message, free, own ▸ present, created, rfl⟩)
  case confirm id tgMessageId messages changed =>
    exact .inr (.inr ⟨id, tgMessageId, messages, rfl, changed, rfl⟩)
  all_goals exact .inl rfl

/-! ## The clock -/

@[simp] theorem now_perform (w : World) (c : Call) : (w.perform c).2.now = w.now := by
  have step := w.perform_step c
  generalize (w.perform c).2 = w' at step
  cases step <;> rfl

/-- The world at another time. -/
def setNow (w : World) (now : Time) : World := { w with now := now }

/-- Time passes and nothing else happens. -/
def Later (w w' : World) : Prop := ∃ now, w.now ≤ now ∧ w' = w.setNow now

theorem Later.refl (w : World) : w.Later w := ⟨w.now, le_rfl, rfl⟩

theorem Later.trans (w w' w'' : World) (first : w.Later w') (second : w'.Later w'') :
    w.Later w'' := by
  obtain ⟨now, up, rfl⟩ := first
  obtain ⟨now', up', rfl⟩ := second
  exact ⟨now', up.trans up', rfl⟩

/-! ## Foreign keys -/

/-- The foreign keys on which the pipeline relies. -/
structure Linked (w : World) : Prop where
  ticketChat : ∀ ticket ∈ w.tickets.rows, (w.chats.find? ticket.val.chatId).isSome
  ticketCustomer : ∀ ticket ∈ w.tickets.rows, (w.customers.find? ticket.val.customerId).isSome
  messageTicket : ∀ message ∈ w.messages.rows, (w.tickets.find? message.val.ticketId).isSome
  chatTeam : ∀ chat ∈ w.chats.rows, w.hasTeam chat.val.defaultTeamId
  chatAssignee : ∀ chat ∈ w.chats.rows, w.hasAgent chat.val.defaultAssigneeId

theorem linked_initial (now : Time) (telegramIds : ℕ → ℤ) :
    (World.initial now telegramIds).Linked := by
  constructor <;> simp [initial, Table.empty]

namespace Linked

theorem setNow (linked : w.Linked) (now : Time) : (w.setNow now).Linked := { linked with }

theorem updateTicket (linked : w.Linked) (id : TicketId) (data : TicketData) :
    Linked { w with
      tickets := w.tickets.update id (data.apply w.now) (data.apply_key w.now) } where
  ticketChat := by
    intro ticket member
    obtain ⟨old, before, rfl⟩ := List.mem_map.mp member
    rw [Entry.change_same id (data.apply w.now) old Ticket.chatId fun _ => rfl]
    exact linked.ticketChat old before
  ticketCustomer := by
    intro ticket member
    obtain ⟨old, before, rfl⟩ := List.mem_map.mp member
    rw [Entry.change_same id (data.apply w.now) old Ticket.customerId fun _ => rfl]
    exact linked.ticketCustomer old before
  messageTicket := fun message member =>
    (Table.isSome_find?_update (data.apply_key w.now) _).trans
      (linked.messageTicket message member)
  chatTeam := linked.chatTeam
  chatAssignee := linked.chatAssignee

theorem insertMessage (linked : w.Linked) {message : Message} (free : w.messages.Free message)
    (present : (w.tickets.find? message.ticketId).isSome) :
    Linked { w with messages := w.messages.insert message free } :=
  { linked with
    messageTicket := by
      intro row member
      rcases (Table.mem_insert free).mp member with old | rfl
      · exact linked.messageTicket row old
      · exact present }

end Linked

/-- Every command keeps the foreign keys. -/
theorem Linked.perform (linked : w.Linked) (c : Call) : (w.perform c).2.Linked := by
  have step := w.perform_step c
  generalize (w.perform c).2 = w' at step
  cases step
  case agents id isActive agents same =>
    exact { linked with
      chatAssignee := by
        intro chat member
        have known := linked.chatAssignee chat member
        cases assignee : chat.val.defaultAssigneeId with
        | none => rfl
        | some agentId =>
            simp only [assignee, hasAgent, Option.all_some] at known ⊢
            exact (same agentId).trans known }
  case chatCreate telegramChatId title free =>
    exact { linked with
      ticketChat := fun ticket member =>
        Table.isSome_find?_insert free (linked.ticketChat ticket member)
      chatTeam := by
        intro chat member
        rcases (Table.mem_insert free).mp member with old | rfl
        · exact linked.chatTeam chat old
        · rfl
      chatAssignee := by
        intro chat member
        rcases (Table.mem_insert free).mp member with old | rfl
        · exact linked.chatAssignee chat old
        · rfl }
  case customerCreate telegramUserId username displayName free =>
    exact { linked with
      ticketCustomer := fun ticket member =>
        Table.isSome_find?_insert free (linked.ticketCustomer ticket member) }
  case customerUpdate id username displayName =>
    exact { linked with
      ticketCustomer := fun ticket member =>
        (Table.isSome_find?_update (profile_key username displayName) _).trans
          (linked.ticketCustomer ticket member) }
  case ticketCreate data chat customer =>
    exact { linked with
      ticketChat := by
        intro ticket member
        rcases (Table.mem_insert Ticket.free).mp member with old | rfl
        · exact linked.ticketChat ticket old
        · exact chat
      ticketCustomer := by
        intro ticket member
        rcases (Table.mem_insert Ticket.free).mp member with old | rfl
        · exact linked.ticketCustomer ticket old
        · exact customer
      messageTicket := fun message member =>
        Table.isSome_find?_insert Ticket.free (linked.messageTicket message member) }
  case patch id data dto byAgentId ticketLabels present relabels =>
    exact { linked.updateTicket id data with }
  case assign => exact { linked.updateTicket _ _ with }
  case close => exact linked.updateTicket _ _
  case record ticketId tgMessageId text attachments present free =>
    exact (linked.insertMessage free present).updateTicket ticketId _
  case acknowledge ticketId text message free present own out pending created bot =>
    exact linked.insertMessage free (own ▸ present)
  case reply ticketId agentId text attachments firstResponse message free present own out
      pending created agent =>
    have stored := linked.insertMessage free (own ▸ present)
    cases firstResponse with
    | false => exact stored
    | true => exact stored.updateTicket ticketId { firstResponseAt := some w.now }
  case confirm id tgMessageId messages changed =>
    exact { linked with
      messageTicket := by
        intro message member
        obtain ⟨old, before, rfl⟩ := (Table.mem_modify? changed).mp member
        rw [Entry.change_same id (confirmed tgMessageId) old Message.ticketId fun _ => rfl]
        exact linked.messageTicket old before }
  all_goals exact { linked with }

/-! ## The clock and the rows -/

/-- No ticket was updated, and no message created, after now. -/
structure Timely (w : World) : Prop where
  ticket : ∀ ticket ∈ w.tickets.rows, ticket.val.updatedAt ≤ w.now
  message : ∀ message ∈ w.messages.rows, message.val.createdAt ≤ w.now

theorem Timely.setNow (timely : w.Timely) {now : Time} (up : w.now ≤ now) :
    (w.setNow now).Timely where
  ticket := fun ticket member => (timely.ticket ticket member).trans up
  message := fun message member => (timely.message message member).trans up

/-- Every command keeps the rows no younger than the clock. -/
theorem Timely.perform (timely : w.Timely) (c : Call) : (w.perform c).2.Timely where
  ticket := by
    intro ticket member
    rw [now_perform]
    rcases w.tickets_perform c with same | ⟨data, rfl, same⟩ | ⟨id, data, update, same⟩
    · exact timely.ticket ticket (same ▸ member)
    · rw [same] at member
      rcases (Table.mem_insert Ticket.free).mp member with old | rfl
      · exact timely.ticket ticket old
      · exact le_rfl
    · rw [same] at member
      obtain ⟨old, before, rfl⟩ := List.mem_map.mp member
      unfold Entry.change
      split
      · exact le_rfl
      · exact timely.ticket old before
  message := by
    intro message member
    rw [now_perform]
    rcases w.messages_perform c with same | ⟨new, free, -, created, same⟩ |
      ⟨id, tgMessageId, messages, -, changed, same⟩
    · exact timely.message message (same ▸ member)
    · rw [same] at member
      rcases (Table.mem_insert free).mp member with old | rfl
      · exact timely.message message old
      · exact created.le
    · rw [same] at member
      obtain ⟨old, before, rfl⟩ := (Table.mem_modify? changed).mp member
      rw [Entry.change_same id (confirmed tgMessageId) old Message.createdAt fun _ => rfl]
      exact timely.message old before

end World
end SupportCrm
