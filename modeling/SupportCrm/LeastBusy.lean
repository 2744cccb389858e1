import SupportCrm.Library.Balance
import SupportCrm.Routing

/-!
# Routing to the least busy

With the strategy `least_busy` a new ticket goes to the member of the team who has the fewest
tickets that are not solved, closed or archived, and that member has one more from then on. So
the loads of a team stay within what they were apart, or within one (`least_busy_balanced`).
-/

set_option autoImplicit false

namespace SupportCrm

open KeyedTable AtomicProgram Balance

/-! ## The load of an agent -/

/-- A ticket an agent still works on. -/
def Ticket.loads (agentId : AgentId) (ticket : Ticket) : Bool :=
  ticket.assigneeId = some agentId && ticket.status ∉ [.solved, .closed, .archived]

namespace World

variable {w : World} {agentId : AgentId}

/-- The number of tickets of an agent that are not solved, closed or archived. -/
def load (w : World) (agentId : AgentId) : ℕ :=
  w.tickets.rows.countP fun row => row.val.loads agentId

/-- What `decideAssignment` makes of the answer for `least_busy`. -/
theorem lookup_openCounts {memberIds : List AgentId} (member : agentId ∈ memberIds) :
    ((w.openCounts memberIds).lookup agentId).getD 0 = w.load agentId := by
  have length : ((w.tickets.rows.map Entry.val).filter (Ticket.loads agentId)).length =
      w.load agentId := by
    rw [← List.countP_eq_length_filter, List.countP_map]
    rfl
  rw [openCounts, lookup_groupByAssignee member _ List.length rfl, ← length]
  split
  · next nothing => exact (congrArg List.length nothing).symm
  · rfl

/-- How far the loads of a team are apart. -/
def spread (w : World) (teamId : TeamId) : ℕ := Balance.spread ((w.activeMembers teamId).map w.load)

end World

/-! ## A routing among other work -/

/-- Work that changes neither the loads of the active members of a team nor who they are, and
takes no ticket from anyone. -/
structure Unmoved (teamId : TeamId) (w w' : World) : Prop where
  members : (w'.activeMembers teamId).Perm (w.activeMembers teamId)
  loads : ∀ agentId ∈ w.activeMembers teamId, w'.load agentId = w.load agentId
  kept : ∀ agentId id, (w.assigned agentId id).isSome → (w'.assigned agentId id).isSome

/-- The member has one ticket more, and the others have what they had. -/
structure Takes (teamId : TeamId) (agentId : AgentId) (w w' : World) : Prop where
  members : (w'.activeMembers teamId).Perm (w.activeMembers teamId)
  own : w'.load agentId = w.load agentId + 1
  others : ∀ other ∈ w.activeMembers teamId, other ≠ agentId → w'.load other = w.load other

section

variable {teamId : TeamId} {agentId : AgentId} {w w' w'' : World}

theorem Unmoved.refl (w : World) : Unmoved teamId w w :=
  ⟨.refl _, fun _ _ => rfl, fun _ _ => id⟩

theorem Unmoved.trans (first : Unmoved teamId w w') (second : Unmoved teamId w' w'') :
    Unmoved teamId w w'' where
  members := second.members.trans first.members
  loads := fun agentId member =>
    (second.loads agentId (first.members.mem_iff.mpr member)).trans (first.loads agentId member)
  kept := fun agentId id held => second.kept agentId id (first.kept agentId id held)

theorem Unmoved.of_eq (tickets : w'.tickets = w.tickets) (members : w'.teamMembers = w.teamMembers)
    (agents : w'.agents = w.agents) : Unmoved teamId w w' where
  members := by rw [World.activeMembers, World.activeMembers, members, agents]
  loads := fun agentId _ => by rw [World.load, World.load, tickets]
  kept := fun agentId id held => by rwa [World.assigned, tickets]

theorem unmoved_advance (milliseconds : ℕ) (w : World) :
    Unmoved teamId w (w.advance milliseconds) :=
  .of_eq rfl rfl rfl

/-- An update of a ticket that leaves its assignee and its status moves nothing. -/
theorem Unmoved.of_update {data : TicketData} (id : TicketId) (assignee : data.assignee = none)
    (status : data.status = none)
    (tickets : w'.tickets = w.tickets.update id (data.apply w.now) (data.apply_key w.now))
    (members : w'.teamMembers = w.teamMembers) (agents : w'.agents = w.agents) :
    Unmoved teamId w w' where
  members := by rw [World.activeMembers, World.activeMembers, members, agents]
  loads := fun agentId _ => by
    rw [World.load, World.load, tickets]
    refine Table.countP_update _ (Ticket.loads agentId) fun ticket => ?_
    simp only [Ticket.loads, TicketData.apply, assignee, status, Option.getD_none]
  kept := fun agentId id held => by rwa [World.assigned_update assignee tickets]

theorem Unmoved.spread (unmoved : Unmoved teamId w w') : w'.spread teamId = w.spread teamId := by
  rw [World.spread, spread_perm (unmoved.members.map w'.load), World.spread,
    List.map_congr_left unmoved.loads]

theorem Takes.before (takes : Takes teamId agentId w' w'') (unmoved : Unmoved teamId w w')
    (member : agentId ∈ w.activeMembers teamId) : Takes teamId agentId w w'' where
  members := takes.members.trans unmoved.members
  own := by rw [takes.own, unmoved.loads agentId member]
  others := fun other listed ne =>
    (takes.others other (unmoved.members.mem_iff.mpr listed) ne).trans (unmoved.loads other listed)

theorem Takes.after (takes : Takes teamId agentId w w') (unmoved : Unmoved teamId w' w'')
    (member : agentId ∈ w.activeMembers teamId) : Takes teamId agentId w w'' where
  members := unmoved.members.trans takes.members
  own := by rw [unmoved.loads agentId (takes.members.mem_iff.mpr member), takes.own]
  others := fun other listed ne =>
    (unmoved.loads other (takes.members.mem_iff.mpr listed)).trans (takes.others other listed ne)

/-- What `createForNewThread` does with the decided assignee: the new ticket is open. -/
theorem takes_insert {data : NewTicket} (assignee : data.assigneeId = some agentId) :
    Takes teamId agentId w
      { w with tickets := w.tickets.insert (data.row w.now) Ticket.free } where
  members := .refl _
  own := by
    have own : (data.row w.now).loads agentId = true := by
      simp [Ticket.loads, NewTicket.row, assignee]
    simp only [World.load, Table.insert_rows, List.countP_append, List.countP_singleton, own,
      if_true]
  others := fun other _ ne => by
    have foreign : (data.row w.now).loads other = false := by
      simp [Ticket.loads, NewTicket.row, assignee, ne.symm]
    simp only [World.load, Table.insert_rows, List.countP_append, List.countP_singleton, foreign,
      Bool.false_eq_true, if_false, Nat.add_zero]

end

/-- The command changes no assignee and no status, and leaves the agents alone. -/
def Call.keepsLoads : Call → Bool
  | .agentUpdate _ _ | .ticketCreate _ | .assignTransaction _ _ _ _ _ | .closeTicket _ _ _ => false
  | .patchTransaction _ data _ _ => data.assignee.isNone && data.status.isNone
  | _ => true

theorem unmoved_perform {teamId : TeamId} {w : World} {c : Call} (keeps : c.keepsLoads = true) :
    Unmoved teamId w (w.perform c).2 := by
  have step := w.perform_step c
  generalize (w.perform c).2 = w' at step
  cases step
  case agents | ticketCreate | assign | close => cases keeps
  case patch id data dto byAgentId ticketLabels present relabels =>
    obtain ⟨assignee, status⟩ := Bool.and_eq_true_iff.mp keeps
    exact .of_update id (Option.isNone_iff_eq_none.mp assignee)
      (Option.isNone_iff_eq_none.mp status) rfl rfl rfl
  case record id tgMessageId text attachments present free =>
    exact .of_update id rfl rfl rfl rfl rfl
  case reply id agentId text attachments firstResponse message free present own out pending created
      agent =>
    cases firstResponse with
    | false => exact .of_eq rfl rfl rfl
    | true => exact .of_update id rfl rfl rfl rfl rfl
  all_goals exact .of_eq rfl rfl rfl

/-! ## One routing -/

section

variable {teamId : TeamId} {w : World}

/-- An active member with the least load of the team. -/
def LeastLoaded (teamId : TeamId) (w : World) (agentId : AgentId) : Prop :=
  agentId ∈ w.activeMembers teamId ∧
    ∀ other ∈ w.activeMembers teamId, w.load agentId ≤ w.load other

/-- `decideAssignment` with `least_busy`, as long as nothing else moves. -/
theorem decideAssignment_least_busy {chat : Chat} (team : chat.defaultTeamId = some teamId)
    (strategy : chat.routingStrategy = .least_busy) (staffed : w.activeMembers teamId ≠ []) :
    Sat World.perform (Unmoved teamId) (fun _ _ => True) (fun _ _ => True) (decideAssignment chat)
      (fun r w' => Unmoved teamId w w' ∧
        ∃ agentId, r = .ok ⟨some teamId, some agentId⟩ ∧ LeastLoaded teamId w agentId) w := by
  simp only [decideAssignment, team, strategy, reduceCtorEq, if_false, if_true]
  exact sat_firstOf (R := Unmoved teamId) World.load Unmoved.trans Unmoved.members Unmoved.loads
    .openCounts (fun _ answer id => (answer.lookup id).getD 0)
    (fun w memberIds => ⟨w.openCounts memberIds, rfl, fun _ => World.lookup_openCounts⟩)
    staffed _ _

/-- The branch of `process` that creates a thread, as long as nothing else moves. -/
theorem resolveTicket_least_busy {chat : Entry Chat} {customer : Entry Customer} {tgMessageId : ℤ}
    (team : chat.val.defaultTeamId = some teamId)
    (strategy : chat.val.routingStrategy = .least_busy) (staffed : w.activeMembers teamId ≠ []) :
    Sat World.perform (Unmoved teamId) (fun _ _ => True) (fun _ _ => True)
      (resolveTicket chat customer tgMessageId .createNew)
      (fun r w' => ∀ result, r = .ok result → ∃ agentId, LeastLoaded teamId w agentId ∧
        Takes teamId agentId w w' ∧ (w'.assigned agentId result.1).isSome) w := by
  refine (sat_createNew (R := Unmoved teamId) Unmoved.refl Unmoved.trans
    (fun _ _ => unmoved_perform rfl) (decideAssignment_least_busy team strategy staffed)).mono ?_
  intro r w' routed result answered
  obtain ⟨agentId, w₁, data, least, before, assignee, id, after⟩ := routed result answered
  refine ⟨agentId, least, ?_, after.kept agentId result.1 ?_⟩
  · refine Takes.before ((takes_insert assignee).after after ?_) before least.1
    exact before.members.mem_iff.mpr least.1
  · rw [World.assigned_insert rfl, if_pos id, if_pos assignee]
    rfl

end

/-! ## A sequence of routings -/

/-- A new ticket of a chat of the team is routed to the least busy, while nothing else moves. -/
inductive Shares (teamId : TeamId) : World → Option AgentId → World → Prop where
  | routed {chat : Entry Chat} {customer : Entry Customer} {tgMessageId : ℤ} {ticket : Entry Ticket}
      {w w' : World} (team : chat.val.defaultTeamId = some teamId)
      (strategy : chat.val.routingStrategy = .least_busy)
      (runs : (resolveTicket chat customer tgMessageId .createNew).Runs World.perform
        (Unmoved teamId) w (.ok (ticket.id, true)) w')
      (created : w'.tickets.find? ticket.id = some ticket) :
      Shares teamId w ticket.val.assigneeId w'

/-- A sequence of new tickets of a team: the moment each was routed, and the assignee it got. -/
inductive Shared (teamId : TeamId) : World → List (World × Option AgentId) → World → Prop where
  | nil (w : World) : Shared teamId w [] w
  | cons {assignee : Option AgentId} {steps : List (World × Option AgentId)} {w w₁ w₂ w' : World}
      (unmoved : Unmoved teamId w w₁) (shares : Shares teamId w₁ assignee w₂)
      (rest : Shared teamId w₂ steps w') : Shared teamId w ((w₁, assignee) :: steps) w'

section

variable {teamId : TeamId} {w w' : World}

theorem Shares.leastLoaded {assignee : Option AgentId} (shares : Shares teamId w assignee w')
    (staffed : w.activeMembers teamId ≠ []) :
    ∃ agentId, assignee = some agentId ∧ LeastLoaded teamId w agentId ∧
      Takes teamId agentId w w' := by
  cases shares with
  | routed team strategy runs created =>
      obtain ⟨agentId, least, takes, held⟩ :=
        (resolveTicket_least_busy team strategy staffed).of_runs Unmoved.refl runs _ rfl
      obtain ⟨time, own⟩ := Option.isSome_iff_exists.mp held
      obtain ⟨ticket, found, assignee, -⟩ := World.assigned_eq_some_iff.mp own
      obtain rfl := Option.some.inj (created.symm.trans found)
      exact ⟨agentId, assignee, least, takes⟩

/-- **The tickets of a team go to the least loaded.** -/
theorem Shared.allots {steps : List (World × Option AgentId)} (shared : Shared teamId w steps w')
    (staffed : w.activeMembers teamId ≠ []) :
    (w'.activeMembers teamId).Perm (w.activeMembers teamId) ∧
      (∀ step ∈ steps, ∃ agentId, step.2 = some agentId ∧ LeastLoaded teamId step.1 agentId) ∧
      ∃ units, Allots (w.activeMembers teamId) w.load units w'.load := by
  induction shared with
  | nil w => exact ⟨.refl _, fun _ listed => absurd listed List.not_mem_nil, [], .nil _⟩
  | @cons assignee steps w w₁ w₂ w' unmoved shares rest ih =>
      have staffed₁ : w₁.activeMembers teamId ≠ [] := fun none =>
        staffed (List.perm_nil.mp (none ▸ unmoved.members.symm))
      obtain ⟨agentId, assigned, least, takes⟩ := shares.leastLoaded staffed₁
      have members : (w₂.activeMembers teamId).Perm (w.activeMembers teamId) :=
        takes.members.trans unmoved.members
      have staffed₂ : w₂.activeMembers teamId ≠ [] := fun none =>
        staffed (List.perm_nil.mp (none ▸ members.symm))
      obtain ⟨kept, assignees, units, allots⟩ := ih staffed₂
      refine ⟨kept.trans members, List.forall_mem_cons.mpr ⟨⟨agentId, assigned, least⟩, assignees⟩,
        agentId :: units, .cons (unmoved.members.mem_iff.mp least.1) ?_ ?_ ?_
          (allots.of_perm members)⟩
      · intro other listed
        rw [← unmoved.loads other listed,
          ← unmoved.loads agentId (unmoved.members.mem_iff.mp least.1)]
        exact least.2 other (unmoved.members.mem_iff.mpr listed)
      · rw [takes.own, unmoved.loads agentId (unmoved.members.mem_iff.mp least.1)]
      · intro other listed ne
        rw [takes.others other (unmoved.members.mem_iff.mpr listed) ne, unmoved.loads other listed]

/-- What comes before a moment of the sequence is a sequence. -/
theorem Shared.until {before after : List (World × Option AgentId)}
    {step : World × Option AgentId} (shared : Shared teamId w (before ++ step :: after) w') :
    ∃ w₁, Shared teamId w before w₁ ∧ Unmoved teamId w₁ step.1 := by
  generalize whole : before ++ step :: after = steps at shared
  induction shared generalizing before with
  | nil w => simp at whole
  | @cons assignee steps w w₁ w₂ w' unmoved shares rest ih =>
      cases before with
      | nil =>
          obtain ⟨rfl, -⟩ := List.cons.inj whole
          exact ⟨w, .nil w, unmoved⟩
      | cons first before =>
          obtain ⟨rfl, rfl⟩ := List.cons.inj whole
          obtain ⟨w₃, earlier, last⟩ := ih rfl
          exact ⟨w₃, .cons unmoved shares earlier, last⟩

/-- The loads of a team at the end of a sequence of routings. -/
theorem Shared.spread_le {steps : List (World × Option AgentId)}
    (shared : Shared teamId w steps w') (staffed : w.activeMembers teamId ≠ []) :
    w'.spread teamId ≤ max (w.spread teamId) 1 := by
  obtain ⟨members, -, units, allots⟩ := shared.allots staffed
  rw [World.spread, spread_perm (members.map w'.load)]
  exact allots.spread_le

/-- **Least busy keeps the load balanced.** Each new ticket goes to an active member with the
least load then, and the loads are never further apart than at the beginning, or than one. -/
theorem least_busy_balanced {steps : List (World × Option AgentId)}
    (shared : Shared teamId w steps w') (staffed : w.activeMembers teamId ≠ []) :
    (∀ step ∈ steps, ∃ agentId, step.2 = some agentId ∧ LeastLoaded teamId step.1 agentId) ∧
      ∀ moment ∈ steps.map Prod.fst ++ [w'], moment.spread teamId ≤ max (w.spread teamId) 1 := by
  refine ⟨(shared.allots staffed).2.1, fun moment listed => ?_⟩
  rcases List.mem_append.mp listed with within | last
  · obtain ⟨step, member, rfl⟩ := List.mem_map.mp within
    obtain ⟨before, after, rfl⟩ := List.append_of_mem member
    obtain ⟨w₁, earlier, unmoved⟩ := shared.until
    rw [unmoved.spread]
    exact earlier.spread_le staffed
  · obtain rfl := List.mem_singleton.mp last
    exact shared.spread_le staffed

end

/-! ## Two tickets for a team of two -/

/-- A chat routed to the least busy. -/
def World.busyChat : Entry Chat := ⟨0, ⟨-5, "support", some 0, none, .least_busy, .normal⟩⟩

/-- The first of the two members already has a ticket. -/
def World.busy : World :=
  { World.staffed with
    chats := Table.empty.insert World.busyChat.val (by decide)
    tickets := Table.empty.insert
      (NewTicket.row ⟨0, 0, 1, none, some 0, some 0⟩ 1) Ticket.free }

/-- A new ticket of the chat. -/
def World.shared (w : World) (tgMessageId : ℤ) : Except Err (TicketId × Bool) × World :=
  (resolveTicket World.busyChat World.sharedCustomer tgMessageId .createNew).run World.perform w

theorem shares_shared {w : World} (tgMessageId : ℤ) {assignee : Option AgentId}
    (answered : (w.shared tgMessageId).1 = .ok (w.tickets.next, true))
    (created : ((w.shared tgMessageId).2.tickets.find? w.tickets.next).any
      (fun ticket => ticket.val.assigneeId = assignee) = true) :
    Shares 0 w assignee (w.shared tgMessageId).2 := by
  obtain ⟨ticket, found, same⟩ := (Option.any_eq_true _ _).mp created
  obtain rfl := of_decide_eq_true same
  have id := Table.id_of_find? found
  have runs : (resolveTicket World.busyChat World.sharedCustomer tgMessageId .createNew).Runs
      World.perform (Unmoved 0) w (.ok (ticket.id, true)) (w.shared tgMessageId).2 := by
    rw [id, ← answered]
    exact Program.runs_run Unmoved.refl _ w
  exact .routed rfl rfl runs (id ▸ found)

/-- The second member catches up, and then the first is next: the loads go from `1, 0` over
`1, 1` to `2, 1`. -/
theorem tickets_shared : ∃ first second w',
    Shared 0 World.busy [(first, some 1), (second, some 0)] w' ∧
      [first.spread 0, second.spread 0, w'.spread 0] = [1, 0, 1] ∧
      (∀ step ∈ [(first, some 1), (second, some 0)],
        ∃ agentId, step.2 = some agentId ∧ LeastLoaded 0 step.1 agentId) ∧
      ∀ moment ∈ [first, second, w'], moment.spread 0 ≤ max (World.busy.spread 0) 1 := by
  have shared : Shared 0 World.busy [(_, some 1), (_, some 0)] _ :=
    .cons (.refl _) (shares_shared 2 rfl (by decide))
      (.cons (unmoved_advance 1 _) (shares_shared 3 rfl (by decide)) (.nil _))
  obtain ⟨least, within⟩ := least_busy_balanced shared (by decide)
  exact ⟨_, _, _, shared, by decide, least, within⟩

end SupportCrm
