import SupportCrm.Footprint
import SupportCrm.Routing
import Mathlib.Data.Int.ConditionallyCompleteOrder
import Mathlib.Order.ConditionallyCompleteLattice.Basic
import Mathlib.Order.WithBot

/-!
# Turns and hand-overs

Round robin asks for the member who was assigned longest ago, and infers that from when the
tickets that a member holds were created. A ticket that is handed over brings its old creation
to its new assignee, and takes it from the one before. As long as every hand-over leaves its
receiver with the newest ticket of the team and the others in their order, the inference is
right (`turns_respected`).
-/

set_option autoImplicit false

namespace SupportCrm

open KeyedTable AtomicProgram

/-! ## Who was given a ticket when -/

/-- The agent whom a command gives a ticket. -/
def Call.gives : Call → Option AgentId
  | .ticketCreate data => data.assigneeId
  | .assignTransaction _ agentId _ _ _ => agentId.join
  | .patchTransaction _ data _ _ => data.assignee.join
  | _ => none

/-- When each agent was last given a ticket; never comes before every time. -/
abbrev LastGiven := AgentId → WithBot Time

namespace LastGiven

variable {given : LastGiven} {agentId : AgentId} {agent : Option AgentId} {time : Time}

def give (given : LastGiven) (agent : Option AgentId) (time : Time) : LastGiven :=
  agent.elim given fun agentId => Function.update given agentId time

/-- What a command adds to the history when it takes effect. -/
def note (c : Call) (w : World) (given : LastGiven) : LastGiven :=
  match (w.perform c).1 with
  | .error _ => given
  | .ok _ => given.give c.gives w.now

@[simp] theorem give_none : given.give none time = given := rfl

@[simp] theorem give_self : given.give (some agentId) time agentId = time :=
  Function.update_self agentId _ given

theorem give_of_ne (ne : agent ≠ some agentId) : given.give agent time agentId = given agentId := by
  cases agent with
  | none => rfl
  | some other => exact Function.update_of_ne (fun same => ne (congrArg some same.symm)) _ given

theorem give_le (past : ∀ agentId, given agentId ≤ time) (agentId : AgentId) :
    given.give agent time agentId ≤ time := by
  by_cases own : agent = some agentId
  · rw [own, give_self]
  · rw [give_of_ne own]
    exact past agentId

theorem le_give (past : ∀ agentId, given agentId ≤ time) (agentId : AgentId) :
    given agentId ≤ given.give agent time agentId := by
  by_cases own : agent = some agentId
  · rw [own, give_self]
    exact past agentId
  · rw [give_of_ne own]

end LastGiven

/-- The requests after a schedule, with who was given a ticket when since their beginning. -/
def Requests.given (config : Config) (requests : List Request) (w : World)
    (schedule : List (Act ℕ)) : Pool Call Call.Resp Err Unit (World × LastGiven) :=
  Pool.exec (Pool.observed (fun _ => World.perform) fun _ => LastGiven.note)
    (Pool.unrecorded World.advance) ((Requests.start config requests w).withRecord fun _ => ⊥)
    schedule

theorem Requests.given_state (config : Config) (requests : List Request) (w : World)
    (schedule : List (Act ℕ)) :
    (Requests.given config requests w schedule).state.1 = w.after config requests schedule := by
  obtain ⟨given, same⟩ := Pool.exec_withRecord (H := fun _ => World.perform) (E := World.advance)
    (fun _ => LastGiven.note) (Requests.start config requests w) (fun _ => ⊥) schedule
  rw [Requests.given, same]
  rfl

/-- Whomever `round_robin` picks for a chat of the team, no active member was last given a
ticket before. -/
def TurnsRespected (teamId : TeamId) (w : World) (given : LastGiven) : Prop :=
  ∀ (chat : Chat) (agentId : AgentId), chat.defaultTeamId = some teamId →
    chat.routingStrategy = .round_robin →
    ((decideAssignment chat).run World.perform w).1 = .ok ⟨some teamId, some agentId⟩ →
    ∀ other ∈ w.activeMembers teamId, given agentId ≤ given other

/-! ## Hand-overs in turn -/

/-- A hand-over that takes effect leaves its receiver with the newest ticket of the active
members, and the others in the order of their newest tickets. -/
def World.handsOverInTurn (w : World) (teamId : TeamId) (c : Call) : Bool :=
  match (w.perform c).1, (c.ticketData w.now).bind (·.2.assignee) with
  | .ok _, some assignee =>
      let memberIds := w.activeMembers teamId
      let newest := (w.perform c).2.lastAssignedAt
      (∀ agentId ∈ memberIds, ∀ other ∈ memberIds, assignee ≠ some agentId →
        assignee ≠ some other → newest agentId ≤ newest other →
        w.lastAssignedAt agentId ≤ w.lastAssignedAt other) ∧
      ∀ agentId ∈ memberIds, assignee = some agentId →
        ∀ other ∈ memberIds, other ≠ agentId → newest other < newest agentId
  | _, _ => true

/-- The newest tickets of the active members rank them as the history does. -/
structure InTurn (teamId : TeamId) (w : World) (given : LastGiven) : Prop where
  positive : 0 < w.now
  created : ∀ id ticket, w.tickets.find? id = some ticket →
    0 < ticket.val.createdAt ∧ ticket.val.createdAt ≤ w.now
  past : ∀ agentId, given agentId ≤ w.now
  held : ∀ agentId id time, w.assigned agentId id = some time →
    (time : WithBot Time) ≤ given agentId
  ranked : ∀ agentId ∈ w.activeMembers teamId, ∀ other ∈ w.activeMembers teamId,
    w.lastAssignedAt agentId ≤ w.lastAssignedAt other → given agentId ≤ given other

section

variable {teamId : TeamId} {w w' : World} {given : LastGiven}

/-- What agrees on the tickets, the members and the time agrees on the turns. -/
theorem InTurn.of_assigned (inTurn : InTurn teamId w given)
    (members : w'.activeMembers teamId = w.activeMembers teamId) (now : w.now ≤ w'.now)
    (created : ∀ id ticket, w'.tickets.find? id = some ticket →
      0 < ticket.val.createdAt ∧ ticket.val.createdAt ≤ w'.now)
    (assigned : ∀ agentId, w'.assigned agentId = w.assigned agentId) : InTurn teamId w' given where
  positive := lt_of_lt_of_le inTurn.positive now
  created := created
  past := fun agentId => (inTurn.past agentId).trans (WithBot.coe_le_coe.mpr now)
  held := fun agentId id time own => inTurn.held agentId id time (by rwa [← assigned])
  ranked := fun agentId member other listed le => by
    rw [members] at member listed
    rw [World.lastAssignedAt_congr (assigned agentId),
      World.lastAssignedAt_congr (assigned other)] at le
    exact inTurn.ranked agentId member other listed le

/-- A ticket is given: what is left to see is the order of the newest tickets. -/
theorem InTurn.give (inTurn : InTurn teamId w given) {agent : Option AgentId}
    (members : w'.activeMembers teamId = w.activeMembers teamId) (now : w'.now = w.now)
    (created : ∀ id ticket, w'.tickets.find? id = some ticket →
      0 < ticket.val.createdAt ∧ ticket.val.createdAt ≤ w'.now)
    (held : ∀ agentId id time, w'.assigned agentId id = some time →
      w.assigned agentId id = some time ∨ agent = some agentId ∧ time ≤ w.now)
    (kept : ∀ agentId ∈ w.activeMembers teamId, ∀ other ∈ w.activeMembers teamId,
      agent ≠ some agentId → agent ≠ some other →
      w'.lastAssignedAt agentId ≤ w'.lastAssignedAt other →
      w.lastAssignedAt agentId ≤ w.lastAssignedAt other)
    (last : ∀ agentId ∈ w.activeMembers teamId, agent = some agentId →
      ∀ other ∈ w.activeMembers teamId, other ≠ agentId →
      w'.lastAssignedAt agentId ≤ w'.lastAssignedAt other → (w.now : WithBot Time) ≤ given other) :
    InTurn teamId w' (given.give agent w.now) where
  positive := now ▸ inTurn.positive
  created := created
  past := fun agentId => by
    rw [now]
    exact LastGiven.give_le inTurn.past agentId
  held := fun agentId id time own => by
    rcases held agentId id time own with before | ⟨rfl, within⟩
    · exact (inTurn.held agentId id time before).trans (LastGiven.le_give inTurn.past agentId)
    · rw [LastGiven.give_self]
      exact WithBot.coe_le_coe.mpr within
  ranked := fun agentId member other listed le => by
    rw [members] at member listed
    by_cases second : agent = some other
    · rw [second, LastGiven.give_self]
      exact LastGiven.give_le inTurn.past agentId
    · rw [LastGiven.give_of_ne second]
      by_cases first : agent = some agentId
      · have ne : other ≠ agentId := fun same => second (same ▸ first)
        rw [first, LastGiven.give_self]
        exact last agentId member first other listed ne le
      · rw [LastGiven.give_of_ne first]
        exact inTurn.ranked agentId member other listed
          (kept agentId member other listed first second le)

theorem InTurn.advance (inTurn : InTurn teamId w given) (milliseconds : ℕ) :
    InTurn teamId (w.advance milliseconds) given :=
  have later : w.now ≤ (w.advance milliseconds).now :=
    Int.le_add_of_nonneg_right (Int.natCast_nonneg milliseconds)
  inTurn.of_assigned rfl later
    (fun id ticket found => (inTurn.created id ticket found).imp_right (·.trans later))
    fun _ => rfl

/-! ## One command -/

/-- Only `updateAgent` changes who the active members are. -/
theorem World.activeMembers_perform {c : Call}
    (fixed : ∀ id isActive, c ≠ .agentUpdate id isActive) :
    (w.perform c).2.activeMembers teamId = w.activeMembers teamId := by
  have step := w.perform_step c
  generalize (w.perform c).2 = w' at step
  cases step
  case agents id isActive agents same => exact absurd rfl (fixed id isActive)
  all_goals rfl

/-- No ticket is created after the present. -/
theorem World.created_perform {c : Call} (positive : 0 < w.now)
    (created : ∀ id ticket, w.tickets.find? id = some ticket →
      0 < ticket.val.createdAt ∧ ticket.val.createdAt ≤ w.now)
    {id : TicketId} {ticket : Entry Ticket}
    (found : (w.perform c).2.tickets.find? id = some ticket) :
    0 < ticket.val.createdAt ∧ ticket.val.createdAt ≤ w.now := by
  cases before : w.tickets.find? id with
  | some old =>
      obtain ⟨ticket', found', rfl | ⟨data, -, rfl⟩⟩ := w.ticket_perform c before
      · obtain rfl := Option.some.inj (found.symm.trans found')
        exact created id _ before
      · obtain rfl := Option.some.inj (found.symm.trans found')
        exact created id old before
  | none =>
      rcases w.tickets_perform c with same | ⟨data, -, same⟩ | ⟨other, data, -, same⟩
      · rw [same, before] at found
        cases found
      · rw [same] at found
        by_cases new : id = w.tickets.next
        · rw [new, Table.find?_insert_self] at found
          obtain rfl := Option.some.inj found
          exact ⟨positive, le_refl w.now⟩
        · rw [Table.find?_insert_of_ne _ new, before] at found
          cases found
      · rw [same, Table.find?_update, before] at found
        cases found

theorem Call.gives_of_ticketData {now : Time} {c : Call} {id : TicketId} {data : TicketData}
    (update : c.ticketData now = some (id, data)) : c.gives = data.assignee.join := by
  cases Call.updates_of_ticketData update <;> rfl

/-- The assignees after an update of a ticket. -/
theorem World.assigned_hand {data : TicketData} {id : TicketId} {assignee : Option AgentId}
    (hands : data.assignee = some assignee)
    (tickets : w'.tickets = w.tickets.update id (data.apply w.now) (data.apply_key w.now))
    {agentId : AgentId} {other : TicketId} {time : Time}
    (own : w'.assigned agentId other = some time) :
    w.assigned agentId other = some time ∨
      assignee = some agentId ∧ ∃ ticket, w.tickets.find? id = some ticket ∧
        ticket.val.createdAt = time := by
  obtain ⟨ticket', found', holder, rfl⟩ := World.assigned_eq_some_iff.mp own
  rw [tickets, Table.find?_update] at found'
  obtain ⟨ticket, found, rfl⟩ := Option.map_eq_some_iff.mp found'
  by_cases here : ticket.id = id
  · have same : other = id := (Table.id_of_find? found).symm.trans here
    rw [Entry.change, if_pos here] at holder ⊢
    simp only [TicketData.apply, hands, Option.getD_some] at holder
    exact .inr ⟨holder, ticket, same ▸ found, rfl⟩
  · rw [Entry.change_of_ne _ _ here] at holder ⊢
    exact .inl (World.assigned_eq_some_iff.mpr ⟨ticket, found, holder, rfl⟩)

/-- A new ticket is the newest of its assignee, and changes nothing for the others. -/
theorem InTurn.create (inTurn : InTurn teamId w given) {data : NewTicket}
    (tickets : w'.tickets = w.tickets.insert (data.row w.now) Ticket.free)
    (members : w'.activeMembers teamId = w.activeMembers teamId) (now : w'.now = w.now)
    (created : ∀ id ticket, w'.tickets.find? id = some ticket →
      0 < ticket.val.createdAt ∧ ticket.val.createdAt ≤ w'.now) :
    InTurn teamId w' (given.give data.assigneeId w.now) := by
  have others : ∀ agentId, data.assigneeId ≠ some agentId →
      w'.lastAssignedAt agentId = w.lastAssignedAt agentId := fun agentId foreign =>
    World.lastAssignedAt_congr (World.assigned_insert_of_ne tickets foreign)
  refine inTurn.give members now created ?_ ?_ ?_
  · intro agentId id time own
    rw [World.assigned_insert tickets] at own
    split at own
    · split at own
      · next assignee => exact .inr ⟨assignee, (Option.some.inj own).ge⟩
      · cases own
    · exact .inl own
  · intro agentId _ other _ first second le
    rwa [others agentId first, others other second] at le
  · intro agentId member assignee other listed ne le
    have own : w'.assigned agentId w.tickets.next = some w.now := by
      rw [World.assigned_insert tickets, if_pos rfl, if_pos assignee]
    have newest : w'.lastAssignedAt agentId = w.now := by
      refine World.lastAssignedAt_of_latest own fun id' time held => ?_
      obtain ⟨ticket, found, -, rfl⟩ := World.assigned_eq_some_iff.mp held
      exact now ▸ (created id' ticket found).2
    rw [newest, others other fun same => ne (Option.some.inj (same.symm.trans assignee))] at le
    rcases w.lastAssignedAt_cases other with ⟨-, zero⟩ | ⟨id, own, -⟩
    · rw [zero] at le
      exact absurd inTurn.positive (not_lt.mpr le)
    · exact (WithBot.coe_le_coe.mpr le).trans (inTurn.held other id _ own)

/-- **A command keeps the turns if it hands over in turn.** -/
theorem InTurn.perform {c : Call} (inTurn : InTurn teamId w given)
    (fixed : ∀ id isActive, c ≠ .agentUpdate id isActive)
    (inOrder : w.handsOverInTurn teamId c = true) :
    InTurn teamId (w.perform c).2 (LastGiven.note c w given) := by
  have members : (w.perform c).2.activeMembers teamId = w.activeMembers teamId :=
    World.activeMembers_perform fixed
  have now := w.now_perform c
  have created : ∀ id ticket, (w.perform c).2.tickets.find? id = some ticket →
      0 < ticket.val.createdAt ∧ ticket.val.createdAt ≤ (w.perform c).2.now := by
    intro id ticket found
    rw [now]
    exact World.created_perform inTurn.positive inTurn.created found
  cases answered : (w.perform c).1 with
  | error e =>
      rw [World.perform_error answered]
      simpa only [LastGiven.note, answered] using inTurn
  | ok answer =>
      have noted : LastGiven.note c w given = given.give c.gives w.now := by
        simp only [LastGiven.note, answered]
      rw [noted]
      cases update : c.ticketData w.now with
      | some entry =>
          obtain ⟨id, data⟩ := entry
          obtain ⟨present, tickets⟩ := World.tickets_of_update answered update
          rw [Call.gives_of_ticketData update]
          cases hands : data.assignee with
          | none =>
              exact inTurn.of_assigned members now.ge created fun _ =>
                World.assigned_update hands tickets
          | some assignee =>
              simp only [World.handsOverInTurn, answered, update, hands, Option.bind_some,
                Bool.decide_and, Bool.and_eq_true, decide_eq_true_eq] at inOrder
              refine inTurn.give members now created ?_ inOrder.1 ?_
              · intro agentId other time own
                refine (World.assigned_hand hands tickets own).imp_right ?_
                rintro ⟨receiver, ticket, found, rfl⟩
                exact ⟨receiver, (inTurn.created id ticket found).2⟩
              · intro agentId member receiver other listed ne le
                exact absurd (inOrder.2 agentId member receiver other listed ne) (not_lt.mpr le)
      | none =>
          by_cases creates : ∃ data, c = .ticketCreate data
          · obtain ⟨data, rfl⟩ := creates
            obtain ⟨same, -⟩ := World.ticketCreate_eq_ok (World.effect_of_perform_ok answered)
            exact inTurn.create (congrArg World.tickets same) members now created
          · have nobody : c.gives = none := by
              cases c <;> first | rfl | exact absurd ⟨_, rfl⟩ creates | cases update
            have same : (w.perform c).2.tickets = w.tickets := by
              rcases w.tickets_perform c with same | ⟨data, rfl, -⟩ | ⟨id, data, updates, -⟩
              · exact same
              · exact absurd ⟨data, rfl⟩ creates
              · exact nomatch update.symm.trans updates
            rw [nobody]
            refine inTurn.of_assigned members now.ge created fun agentId => ?_
            funext id
            rw [World.assigned, World.assigned, same]

/-! ## Every state -/

theorem InTurn.respected (inTurn : InTurn teamId w given) : TurnsRespected teamId w given := by
  intro chat agentId team strategy decided other listed
  have staffed : w.activeMembers teamId ≠ [] := List.ne_nil_of_mem listed
  rw [decideAssignment_run, World.assignment, team, strategy] at decided
  simp only [reduceCtorEq, false_or, if_neg staffed, if_false, Except.ok.injEq,
    RoutingDecision.mk.injEq, true_and] at decided
  have member := mem_of_firstOf decided
  have first := firstOf_le decided listed
  rw [World.lookup_lastAssigned member, World.lookup_lastAssigned listed] at first
  exact inTurn.ranked agentId member other listed first

/-! ## Every run -/

/-- **Round robin respects the hand-overs that are in turn.** From a store without tickets on,
whatever requests interleave that neither activate nor deactivate agents: if every assign, claim
and PATCH of an assignee hands over in turn, then in every state reached `round_robin` picks
nobody who was given a ticket after another active member was last given one. -/
theorem turns_respected (config : Config) (requests : List Request) (w : World)
    (schedule : List (Act ℕ)) (teamId : TeamId) (positive : 0 < w.now)
    (ticketless : w.tickets.rows = [])
    (fixed : ∀ id isActive, Request.updateAgent id isActive ∉ requests)
    (meets : (Requests.start config requests w).Meets (fun _ => World.perform) World.advance
      (fun _ c w => w.handsOverInTurn teamId c = true) (fun _ _ => True) schedule) (n : ℕ) :
    TurnsRespected teamId (w.after config requests (schedule.take n))
      (Requests.given config requests w (schedule.take n)).state.2 := by
  have start : InTurn teamId w fun _ => ⊥ := by
    have none : ∀ id, w.tickets.find? id = none := fun id => by
      rw [Table.find?, ticketless, List.find?_nil]
    refine ⟨positive, fun id ticket found => ?_, fun _ => bot_le, fun agentId id time own => ?_,
      fun _ _ _ _ _ => le_refl _⟩
    · cases (none id).symm.trans found
    · obtain ⟨ticket, found, -⟩ := World.assigned_eq_some_iff.mp own
      cases (none id).symm.trans found
  have activity : ∀ {c : Call}, (∃ request ∈ requests, request.Performs c) →
      ∀ id isActive, c ≠ .agentUpdate id isActive := by
    rintro _ ⟨request, member, performs⟩ id isActive rfl
    cases performs.writes rfl (by rintro _ ⟨⟩)
    exact fixed id isActive member
  have both := Pool.meets_and (Requests.meets_performs config requests w schedule) meets
  rw [← List.take_append_drop n schedule] at both
  have inTurn : InTurn teamId (Requests.given config requests w (schedule.take n)).state.1
      (Requests.given config requests w (schedule.take n)).state.2 :=
    Pool.invariant_exec (I := fun s : World × LastGiven => InTurn teamId s.1 s.2)
      (fun _ c s holds inTurn => inTurn.perform (activity holds.1) holds.2)
      (fun milliseconds s _ inTurn => inTurn.advance milliseconds)
      ((Pool.meets_withRecord_iff _).mpr (Pool.meets_append_iff.mp both).1) start
  rw [Requests.given_state] at inTurn
  exact inTurn.respected

end

/-! Three tickets of a team of two, and one of them is handed over. -/

namespace Rotation

/-- The first message of another customer. -/
def newcomer (n : ℕ) : NormalizedIncomingMessage :=
  { greeting n with fromTelegramUserId := 40 + n }

/-- Three customers write, and the ticket with the given identifier goes to the second agent. -/
def requests (handed : TicketId) : List Request :=
  [.ingest (newcomer 1), .ingest (newcomer 2), .ingest (newcomer 3), .assign handed 1 0 none]

/-- One after another, a second apart. -/
def schedule : List (Act ℕ) :=
  (List.range 4).flatMap fun i => List.replicate 10 (.turn i) ++ [.env 1000]

end Rotation

set_option maxRecDepth 4000 in
/-- The second agent gets the oldest ticket last, and is picked again. -/
theorem handed_over_out_of_turn :
    (World.staffed.tickets.rows = [] ∧ 0 < World.staffed.now) ∧
      ((decideAssignment World.sharedChat.val).run World.perform
        (World.staffed.after .default (Rotation.requests 0) Rotation.schedule)).1 =
          .ok ⟨some 0, some 1⟩ ∧
      ¬ TurnsRespected 0 (World.staffed.after .default (Rotation.requests 0) Rotation.schedule)
        (Requests.given .default (Rotation.requests 0) World.staffed Rotation.schedule).state.2 := by
  have picks : ((decideAssignment World.sharedChat.val).run World.perform
      (World.staffed.after .default (Rotation.requests 0) Rotation.schedule)).1 =
        .ok ⟨some 0, some 1⟩ := by decide
  refine ⟨⟨rfl, by decide⟩, picks, fun respected => ?_⟩
  have later := respected World.sharedChat.val 1 rfl rfl picks 0 (by decide)
  exact absurd later (by decide)

set_option maxRecDepth 4000 in
/-- The newest ticket is handed over in turn. -/
theorem handed_over_in_turn :
    TurnsRespected 0 (World.staffed.after .default (Rotation.requests 2) (Rotation.schedule.take 44))
      (Requests.given .default (Rotation.requests 2) World.staffed
        (Rotation.schedule.take 44)).state.2 := by
  refine turns_respected .default (Rotation.requests 2) World.staffed Rotation.schedule 0 (by decide)
    rfl ?_ (by decide) 44
  intro id isActive member
  simp [Rotation.requests] at member

end SupportCrm
