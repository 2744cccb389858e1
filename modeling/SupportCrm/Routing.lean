import SupportCrm.Library.RoundRobin
import SupportCrm.System

/-!
# Routing by turns

With the strategy `round_robin` a new ticket goes to the member of the team whose latest
ticket is the oldest, and by that becomes the latest. No cursor is stored: the turns follow
from the tickets alone (`Routed.turns`), so each of `k` consecutive tickets of a team of `k`
goes to another member (`round_robin_fair`).
-/

set_option autoImplicit false

namespace SupportCrm

open KeyedTable AtomicProgram RoundRobin

/-! ## The latest ticket of an agent -/

namespace World

variable {w w' : World} {agentId : AgentId}

/-- When a ticket was created, where it is assigned to the agent. -/
def assigned (w : World) (agentId : AgentId) (id : TicketId) : Option Time :=
  ((w.tickets.find? id).filter fun ticket => ticket.val.assigneeId = some agentId).map
    fun ticket => ticket.val.createdAt

theorem assigned_eq_some_iff {id : TicketId} {createdAt : Time} :
    w.assigned agentId id = some createdAt ↔ ∃ ticket, w.tickets.find? id = some ticket ∧
      ticket.val.assigneeId = some agentId ∧ ticket.val.createdAt = createdAt := by
  simp [assigned, Option.filter_eq_some_iff, and_assoc]

/-- The creation of the latest ticket of an agent; an agent without tickets comes first. -/
def lastAssignedAt (w : World) (agentId : AgentId) : Time :=
  (((w.tickets.rows.map Entry.val).filter fun ticket => ticket.assigneeId = some agentId).map
    Ticket.createdAt).max?.getD 0

/-- The times at which the tickets of an agent were created. -/
theorem mem_times_iff {createdAt : Time} :
    createdAt ∈ ((w.tickets.rows.map Entry.val).filter fun ticket =>
        ticket.assigneeId = some agentId).map Ticket.createdAt ↔
      ∃ id, w.assigned agentId id = some createdAt := by
  simp only [List.mem_map, List.mem_filter, decide_eq_true_eq, assigned_eq_some_iff]
  constructor
  · rintro ⟨_, ⟨⟨row, member, rfl⟩, own⟩, rfl⟩
    exact ⟨row.id, row, Table.find?_self member, own, rfl⟩
  · rintro ⟨id, row, found, own, rfl⟩
    exact ⟨row.val, ⟨⟨row, Table.mem_of_find? found, rfl⟩, own⟩, rfl⟩

theorem lastAssignedAt_of_latest {id : TicketId} {createdAt : Time}
    (last : w.assigned agentId id = some createdAt)
    (earlier : ∀ id' time, w.assigned agentId id' = some time → time ≤ createdAt) :
    w.lastAssignedAt agentId = createdAt := by
  have greatest : (((w.tickets.rows.map Entry.val).filter fun ticket =>
      ticket.assigneeId = some agentId).map Ticket.createdAt).max? = some createdAt := by
    refine List.max?_eq_some_iff.mpr ⟨mem_times_iff.mpr ⟨id, last⟩, fun time listed => ?_⟩
    obtain ⟨id', own⟩ := mem_times_iff.mp listed
    exact earlier id' time own
  rw [lastAssignedAt, greatest, Option.getD_some]

/-- Without tickets the agent is as if last assigned in 1970. -/
theorem lastAssignedAt_of_none (none : ∀ id, w.assigned agentId id = none) :
    w.lastAssignedAt agentId = 0 := by
  rw [lastAssignedAt, List.max?_eq_none_iff.mpr, Option.getD_none]
  refine List.eq_nil_iff_forall_not_mem.mpr fun time listed => ?_
  obtain ⟨id, own⟩ := mem_times_iff.mp listed
  exact nomatch (none id).symm.trans own

/-- Either the agent has no ticket, or one of its tickets is the latest. -/
theorem lastAssignedAt_cases (w : World) (agentId : AgentId) :
    ((∀ id, w.assigned agentId id = none) ∧ w.lastAssignedAt agentId = 0) ∨
      ∃ id, w.assigned agentId id = some (w.lastAssignedAt agentId) ∧
        ∀ id' time, w.assigned agentId id' = some time → time ≤ w.lastAssignedAt agentId := by
  cases greatest : (((w.tickets.rows.map Entry.val).filter fun ticket =>
      ticket.assigneeId = some agentId).map Ticket.createdAt).max? with
  | none =>
      have without : ∀ id, w.assigned agentId id = none := by
        intro id
        by_contra some
        obtain ⟨time, own⟩ := Option.ne_none_iff_exists'.mp some
        have listed := mem_times_iff.mpr ⟨id, own⟩
        rw [List.max?_eq_none_iff.mp greatest] at listed
        exact nomatch listed
      exact .inl ⟨without, lastAssignedAt_of_none without⟩
  | some createdAt =>
      obtain ⟨listed, above⟩ := List.max?_eq_some_iff.mp greatest
      have earlier : ∀ id' time, w.assigned agentId id' = some time → time ≤ createdAt :=
        fun id' time own => above time (mem_times_iff.mpr ⟨id', own⟩)
      obtain ⟨id, own⟩ := mem_times_iff.mp listed
      rw [lastAssignedAt_of_latest own earlier]
      exact .inr ⟨id, own, earlier⟩

theorem lastAssignedAt_congr (same : w'.assigned agentId = w.assigned agentId) :
    w'.lastAssignedAt agentId = w.lastAssignedAt agentId := by
  rcases w.lastAssignedAt_cases agentId with ⟨without, zero⟩ | ⟨id, own, earlier⟩
  · rw [zero]
    exact lastAssignedAt_of_none (by rwa [same])
  · exact lastAssignedAt_of_latest (by rwa [same]) (by rwa [same])

/-- An update of a ticket that leaves its assignee leaves when it was created. -/
theorem assigned_update {data : TicketData} {id : TicketId} (kept : data.assignee = none)
    (tickets : w'.tickets = w.tickets.update id (data.apply w.now) (data.apply_key w.now)) :
    w'.assigned agentId = w.assigned agentId := by
  funext other
  rw [assigned, assigned, tickets, Table.find?_update]
  cases found : w.tickets.find? other with
  | none => rfl
  | some ticket =>
      by_cases here : ticket.id = id
      · simp [Entry.change, here, TicketData.apply, kept, Option.filter]
      · rw [Option.map_some, Entry.change_of_ne _ _ here]

/-- A new ticket is the assignee's from now on. -/
theorem assigned_insert {data : NewTicket}
    (tickets : w'.tickets = w.tickets.insert (data.row w.now) Ticket.free) (id : TicketId) :
    w'.assigned agentId id =
      if id = w.tickets.next then if data.assigneeId = some agentId then some w.now else none
      else w.assigned agentId id := by
  rw [assigned, tickets]
  split
  · next new =>
    subst new
    by_cases own : data.assigneeId = some agentId <;> simp [NewTicket.row, Option.filter, own]
  · next old => rw [Table.find?_insert_of_ne _ old, assigned]

theorem assigned_insert_of_ne {data : NewTicket}
    (tickets : w'.tickets = w.tickets.insert (data.row w.now) Ticket.free)
    (foreign : data.assigneeId ≠ some agentId) : w'.assigned agentId = w.assigned agentId := by
  funext id
  rw [assigned_insert tickets, if_neg foreign]
  split
  · next new => rw [new, assigned, Table.find?_next, Option.filter_none, Option.map_none]
  · rfl

theorem lastAssignedAt_lt {time : Time} (positive : 0 < time)
    (earlier : ∀ row ∈ w.tickets.rows, row.val.createdAt < time) :
    w.lastAssignedAt agentId < time := by
  rcases w.lastAssignedAt_cases agentId with ⟨-, zero⟩ | ⟨id, own, -⟩
  · rwa [zero]
  · obtain ⟨ticket, found, -, created⟩ := assigned_eq_some_iff.mp own
    rw [← created]
    exact earlier ticket (Table.mem_of_find? found)

/-- A list of keys with a value for each, looked up. -/
theorem lookup_map {τ : Type} (ids : List AgentId) (value : AgentId → τ) (agentId : AgentId) :
    (ids.map fun id => (id, value id)).lookup agentId =
      if agentId ∈ ids then some (value agentId) else none := by
  induction ids with
  | nil => rfl
  | cons id rest ih =>
      by_cases same : agentId = id
      · simp [same]
      · have other : (agentId == id) = false := by simpa using same
        simp [List.lookup_cons, same, other, ih]

/-- The group of an agent in the answer of `groupBy`: there is none for an agent without
tickets. -/
theorem lookup_groupByAssignee {τ : Type} {memberIds : List AgentId} (member : agentId ∈ memberIds)
    (p : Ticket → Bool) (value : List Ticket → τ) {own : List Ticket}
    (tickets : (w.tickets.rows.map Entry.val).filter
      (fun ticket => ticket.assigneeId = some agentId && p ticket) = own) :
    ((w.groupByAssignee memberIds p).map fun group => (group.1, value group.2)).lookup agentId =
      if own = [] then none else some (value own) := by
  have grouped : ((w.tickets.rows.map Entry.val).filter fun ticket =>
        ticket.assigneeId.any (· ∈ memberIds) && p ticket).filter
          (fun ticket => ticket.assigneeId = some agentId) = own := by
    rw [← tickets, List.filter_filter]
    refine List.filter_congr fun ticket _ => ?_
    by_cases assignee : ticket.assigneeId = some agentId <;> simp [assignee, member]
  simp only [groupByAssignee, List.map_map, Function.comp_def]
  rw [lookup_map, grouped]
  refine if_congr ?_ rfl rfl |>.trans (ite_not _ _ _)
  rw [← grouped, List.mem_dedup, List.mem_filterMap, List.filter_eq_nil_iff]
  push Not
  simp

/-- What `decideAssignment` makes of the answer for `round_robin`. -/
theorem lookup_lastAssigned {memberIds : List AgentId} (member : agentId ∈ memberIds) :
    ((w.lastAssigned memberIds).lookup agentId).join.getD 0 = w.lastAssignedAt agentId := by
  rw [lastAssigned, lookup_groupByAssignee member _
    (fun tickets => (tickets.map Ticket.createdAt).max?) rfl]
  simp only [Bool.and_true]
  split
  · next nothing => simp [lastAssignedAt, nothing]
  · rfl

/-- A team lists a member once. -/
theorem nodup_activeMembers (w : World) (teamId : TeamId) : (w.activeMembers teamId).Nodup := by
  refine List.pairwise_map.mpr ?_
  have distinct := w.teamMembers.unique.filter fun row =>
    row.val.teamId = teamId && (w.agents.find? row.val.agentId).any (·.val.isActive)
  refine distinct.imp_of_mem fun {row other} listed listed' apart same => ?_
  simp only [List.mem_filter, Bool.and_eq_true, decide_eq_true_eq] at listed listed'
  have collide : TeamMember.key row.val = TeamMember.key other.val := by
    rw [TeamMember.key, TeamMember.key, listed.2.1, listed'.2.1, same]
  rcases apart with keyless | ne
  · cases keyless
  · exact ne collide

end World

/-! ## The decision alone -/

/-- What `decideAssignment` answers, when nothing else happens. -/
theorem decideAssignment_run (chat : Chat) (w : World) :
    (decideAssignment chat).run World.perform w = (.ok (w.assignment chat), w) := by
  unfold decideAssignment World.assignment
  cases team : chat.defaultTeamId with
  | none => rfl
  | some teamId =>
      dsimp only
      by_cases manual : chat.routingStrategy = .manual
      · simp only [manual, if_true, true_or]
        rfl
      · rw [if_neg manual]
        refine (Program.run_perform_bind World.perform rfl).trans ?_
        by_cases unstaffed : w.activeMembers teamId = []
        · rw [if_pos unstaffed, if_pos (.inr unstaffed)]
          rfl
        · rw [if_neg unstaffed, if_neg (not_or.mpr ⟨manual, unstaffed⟩)]
          split
          · rfl
          · rfl

/-! ## A routing among other work -/

/-- Work that neither assigns a ticket of the members of a team, nor unassigns one, nor
changes who the active members are. -/
structure Idle (teamId : TeamId) (w w' : World) : Prop where
  members : (w'.activeMembers teamId).Perm (w.activeMembers teamId)
  assigned : ∀ agentId ∈ w.activeMembers teamId, w'.assigned agentId = w.assigned agentId

/-- A new ticket of a member, and nothing else. -/
structure Assigns (teamId : TeamId) (agentId : AgentId) (id : TicketId) (createdAt : Time)
    (w w' : World) : Prop where
  members : (w'.activeMembers teamId).Perm (w.activeMembers teamId)
  own : w'.assigned agentId = Function.update (w.assigned agentId) id (some createdAt)
  others : ∀ other ∈ w.activeMembers teamId, other ≠ agentId →
    w'.assigned other = w.assigned other

section

variable {teamId : TeamId} {agentId : AgentId} {id : TicketId} {createdAt : Time}
variable {w w' w'' : World}

theorem Idle.refl (w : World) : Idle teamId w w := ⟨.refl _, fun _ _ => rfl⟩

theorem Idle.trans (first : Idle teamId w w') (second : Idle teamId w' w'') :
    Idle teamId w w'' where
  members := second.members.trans first.members
  assigned := fun agentId member =>
    (second.assigned agentId (first.members.mem_iff.mpr member)).trans
      (first.assigned agentId member)

/-- A change that leaves the tickets, the teams and the agents alone is idle. -/
theorem Idle.of_eq (tickets : w'.tickets = w.tickets) (members : w'.teamMembers = w.teamMembers)
    (agents : w'.agents = w.agents) : Idle teamId w w' where
  members := by rw [World.activeMembers, World.activeMembers, members, agents]
  assigned := fun agentId _ => by
    funext id
    rw [World.assigned, World.assigned, tickets]

theorem idle_advance (milliseconds : ℕ) (w : World) : Idle teamId w (w.advance milliseconds) :=
  .of_eq rfl rfl rfl

/-- So is an update of a ticket that leaves its assignee and its creation. -/
theorem Idle.of_update {data : TicketData} (id : TicketId) (kept : data.assignee = none)
    (tickets : w'.tickets = w.tickets.update id (data.apply w.now) (data.apply_key w.now))
    (members : w'.teamMembers = w.teamMembers) (agents : w'.agents = w.agents) :
    Idle teamId w w' where
  members := by rw [World.activeMembers, World.activeMembers, members, agents]
  assigned := fun _ _ => World.assigned_update kept tickets

theorem Idle.lastAssignedAt (idle : Idle teamId w w') (member : agentId ∈ w.activeMembers teamId) :
    w'.lastAssignedAt agentId = w.lastAssignedAt agentId :=
  World.lastAssignedAt_congr (idle.assigned agentId member)

theorem Assigns.before (assigns : Assigns teamId agentId id createdAt w' w'')
    (idle : Idle teamId w w') (member : agentId ∈ w.activeMembers teamId) :
    Assigns teamId agentId id createdAt w w'' where
  members := assigns.members.trans idle.members
  own := by rw [assigns.own, idle.assigned agentId member]
  others := fun other listed ne =>
    (assigns.others other (idle.members.mem_iff.mpr listed) ne).trans (idle.assigned other listed)

theorem Assigns.after (assigns : Assigns teamId agentId id createdAt w w')
    (idle : Idle teamId w' w'') (member : agentId ∈ w.activeMembers teamId) :
    Assigns teamId agentId id createdAt w w'' where
  members := idle.members.trans assigns.members
  own := by rw [idle.assigned agentId (assigns.members.mem_iff.mpr member), assigns.own]
  others := fun other listed ne =>
    (idle.assigned other (assigns.members.mem_iff.mpr listed)).trans
      (assigns.others other listed ne)

/-- What `createForNewThread` does with the decided assignee. -/
theorem assigns_insert {data : NewTicket} (assignee : data.assigneeId = some agentId) :
    Assigns teamId agentId w.tickets.next w.now w
      { w with tickets := w.tickets.insert (data.row w.now) Ticket.free } where
  members := .refl _
  own := by
    funext id
    rw [World.assigned_insert rfl, if_pos assignee, Function.update_apply]
  others := fun other _ ne => World.assigned_insert_of_ne rfl <| by
    rw [assignee]
    exact fun same => ne (Option.some.inj same).symm

end

/-- The command assigns no ticket and leaves the agents alone. -/
def Call.keepsAssignees : Call → Bool
  | .agentUpdate _ _ | .ticketCreate _ | .assignTransaction _ _ _ _ _ => false
  | .patchTransaction _ data _ _ => data.assignee.isNone
  | _ => true

/-- Every other command is idle. -/
theorem idle_perform {teamId : TeamId} {w : World} {c : Call} (keeps : c.keepsAssignees = true) :
    Idle teamId w (w.perform c).2 := by
  have step := w.perform_step c
  generalize (w.perform c).2 = w' at step
  cases step
  case agents | ticketCreate | assign => cases keeps
  case patch id data dto byAgentId ticketLabels present relabels =>
    exact .of_update id (Option.isNone_iff_eq_none.mp keeps) rfl rfl rfl
  case close id closedAt closedById agent => exact .of_update id rfl rfl rfl rfl
  case record id tgMessageId text attachments present free => exact .of_update id rfl rfl rfl rfl
  case reply id agentId text attachments firstResponse message free present own out pending created
      agent =>
    cases firstResponse with
    | false => exact .of_eq rfl rfl rfl
    | true => exact .of_update id rfl rfl rfl rfl
  all_goals exact .of_eq rfl rfl rfl

/-! ## One routing -/

section

variable {teamId : TeamId} {w : World}

/-- The decision: the member whose latest ticket is the oldest. -/
def LongestAgo (teamId : TeamId) (w : World) (agentId : AgentId) : Prop :=
  agentId ∈ w.activeMembers teamId ∧
    ∀ other ∈ w.activeMembers teamId, w.lastAssignedAt agentId ≤ w.lastAssignedAt other

/-- The branches that look at the members of a team and take the first by a value, among work
that changes neither the members nor their values. -/
theorem sat_firstOf {R : World → World → Prop} {τ : Type} [LinearOrder τ]
    (value : World → AgentId → τ) (trans : ∀ {w w' w''}, R w w' → R w' w'' → R w w'')
    (members : ∀ {w w'}, R w w' → (w'.activeMembers teamId).Perm (w.activeMembers teamId))
    (values : ∀ {w w'}, R w w' → ∀ agentId ∈ w.activeMembers teamId,
      value w' agentId = value w agentId) (c : List AgentId → Call)
    (read : (memberIds : List AgentId) → (c memberIds).Resp → AgentId → τ)
    (answers : ∀ w memberIds, ∃ answer, (w.perform (c memberIds)) = (.ok answer, w) ∧
      ∀ agentId ∈ memberIds, read memberIds answer agentId = value w agentId)
    (staffed : w.activeMembers teamId ≠ []) (team : Option TeamId) (fallback : RoutingDecision) :
    Sat World.perform R (fun _ _ => True) (fun _ _ => True)
      (perform (.activeMembers teamId) >>= fun memberIds =>
        if memberIds = [] then pure fallback
        else perform (c memberIds) >>= fun answer =>
          pure ⟨team, firstOf (memberIds.map fun id => (id, read memberIds answer id))⟩)
      (fun r w' => R w w' ∧ ∃ agentId, r = .ok ⟨team, some agentId⟩ ∧
        agentId ∈ w.activeMembers teamId ∧
        ∀ other ∈ w.activeMembers teamId, value w agentId ≤ value w other) w := by
  refine sat_perform_bind (fun _ _ _ => trivial) (fun w₁ memberIds moved₁ _ answered => ?_) ?_
  · obtain rfl : w₁.activeMembers teamId = memberIds := Except.ok.inj answered
    have nonempty : w₁.activeMembers teamId ≠ [] := fun none =>
      staffed (List.perm_nil.mp (none ▸ (members moved₁).symm))
    rw [if_neg nonempty]
    refine sat_perform_bind (fun _ _ _ => trivial) (fun w₂ answer moved₂ _ answered => ?_) ?_
    · obtain ⟨answer', performed, reads⟩ := answers w₂ (w₁.activeMembers teamId)
      rw [performed] at answered ⊢
      obtain rfl := Except.ok.inj answered
      refine sat_pure fun w₃ moved₃ => ?_
      have moved : R w w₂ := trans moved₁ moved₂
      have same : ∀ id ∈ w₁.activeMembers teamId,
          read (w₁.activeMembers teamId) answer' id = value w id := fun id listed =>
        (reads id listed).trans (values moved id ((members moved₁).mem_iff.mp listed))
      obtain ⟨agentId, first⟩ := exists_firstOf nonempty (read (w₁.activeMembers teamId) answer')
      have member := mem_of_firstOf first
      refine ⟨trans moved moved₃, agentId, by rw [first], (members moved₁).mem_iff.mp member, ?_⟩
      intro other listed
      have listed' := (members moved₁).mem_iff.mpr listed
      rw [← same agentId member, ← same other listed']
      exact firstOf_le first listed'
    · intro w₂ e _ _ failed
      obtain ⟨answer, performed, -⟩ := answers w₂ (w₁.activeMembers teamId)
      rw [performed] at failed
      cases failed
  · exact fun _ _ _ _ failed => nomatch failed

/-- `decideAssignment` with `round_robin`, as long as everything else is idle. -/
theorem decideAssignment_sat {chat : Chat} (team : chat.defaultTeamId = some teamId)
    (strategy : chat.routingStrategy = .round_robin) (staffed : w.activeMembers teamId ≠ []) :
    Sat World.perform (Idle teamId) (fun _ _ => True) (fun _ _ => True) (decideAssignment chat)
      (fun r w' => Idle teamId w w' ∧
        ∃ agentId, r = .ok ⟨some teamId, some agentId⟩ ∧ LongestAgo teamId w agentId) w := by
  simp only [decideAssignment, team, strategy, reduceCtorEq, if_false]
  exact sat_firstOf (R := Idle teamId) World.lastAssignedAt Idle.trans Idle.members
    (fun idle _ member => idle.lastAssignedAt member) .lastAssigned
    (fun _ answer id => (answer.lookup id).join.getD 0)
    (fun w memberIds => ⟨w.lastAssigned memberIds, rfl, fun _ => World.lookup_lastAssigned⟩)
    staffed _ _

/-- The branch of `process` that creates a thread: the decided agent gets the new ticket. -/
theorem sat_createNew {R : World → World → Prop} (refl : ∀ w, R w w)
    (trans : ∀ {w w' w''}, R w w' → R w' w'' → R w w'')
    (emitted : ∀ (w : World) (event : DomainEvent), R w (w.perform (.emit event)).2)
    {chat : Entry Chat} {customer : Entry Customer} {tgMessageId : ℤ} {team : Option TeamId}
    {P : AgentId → Prop}
    (decides : Sat World.perform R (fun _ _ => True) (fun _ _ => True) (decideAssignment chat.val)
      (fun r w' => R w w' ∧ ∃ agentId, r = .ok ⟨team, some agentId⟩ ∧ P agentId) w) :
    Sat World.perform R (fun _ _ => True) (fun _ _ => True)
      (resolveTicket chat customer tgMessageId .createNew)
      (fun r w' => ∀ result, r = .ok result → ∃ agentId w₁, ∃ data : NewTicket, P agentId ∧
        R w w₁ ∧ data.assigneeId = some agentId ∧ result.1 = w₁.tickets.next ∧
        R { w₁ with tickets := w₁.tickets.insert (data.row w₁.now) Ticket.free } w') w := by
  refine sat_bind refl (decides.mono ?_)
  rintro _ w₁ ⟨moved₁, agentId, rfl, decided⟩
  refine sat_bind refl (sat_perform_bind (fun _ _ _ => trivial) ?_ ?_)
  · intro w₂ view moved₂ _ answered
    obtain ⟨same, named, -⟩ := World.ticketCreate_eq_ok (World.effect_of_perform_ok answered)
    rw [same]
    refine sat_perform_bind (fun _ _ _ => trivial) (fun w₃ _ moved₃ _ _ => ?_) ?_
    · refine sat_pure fun w₄ moved₄ => ?_
      rintro w₅ moved₅ _ ⟨⟩
      exact ⟨agentId, w₂, _, decided, trans moved₁ moved₂, rfl, congrArg Entry.id named,
        trans moved₃ (trans (emitted w₃ _) (trans moved₄ moved₅))⟩
    · exact fun _ _ _ _ failed => nomatch failed
  · exact fun _ _ _ _ _ _ _ _ failed => nomatch failed

/-- The same with `round_robin`, as long as everything else is idle. -/
theorem resolveTicket_sat {chat : Entry Chat} {customer : Entry Customer} {tgMessageId : ℤ}
    (team : chat.val.defaultTeamId = some teamId)
    (strategy : chat.val.routingStrategy = .round_robin) (staffed : w.activeMembers teamId ≠ []) :
    Sat World.perform (Idle teamId) (fun _ _ => True) (fun _ _ => True)
      (resolveTicket chat customer tgMessageId .createNew)
      (fun r w' => ∀ result, r = .ok result → ∃ agentId createdAt, LongestAgo teamId w agentId ∧
        Assigns teamId agentId result.1 createdAt w w') w := by
  refine (sat_createNew (R := Idle teamId) Idle.refl Idle.trans (fun _ _ => idle_perform rfl)
    (decideAssignment_sat team strategy staffed)).mono ?_
  intro r w' routed result answered
  obtain ⟨agentId, w₁, data, longest, before, assignee, id, after⟩ := routed result answered
  refine ⟨agentId, w₁.now, longest, ?_⟩
  rw [id]
  refine Assigns.before ((assigns_insert assignee).after after ?_) before longest.1
  exact before.members.mem_iff.mpr longest.1

end

/-! ## A sequence of routings -/

/-- A new ticket of a chat of the team is routed by turns, while everything else is idle. It
is created after 1970 and after every ticket before it. -/
inductive Routes (teamId : TeamId) : World → Option AgentId → World → Prop where
  | routed {chat : Entry Chat} {customer : Entry Customer} {tgMessageId : ℤ} {ticket : Entry Ticket}
      {w w' : World} (team : chat.val.defaultTeamId = some teamId)
      (strategy : chat.val.routingStrategy = .round_robin)
      (runs : (resolveTicket chat customer tgMessageId .createNew).Runs World.perform
        (Idle teamId) w (.ok (ticket.id, true)) w')
      (created : w'.tickets.find? ticket.id = some ticket)
      (positive : 0 < ticket.val.createdAt)
      (latest : ∀ row ∈ w.tickets.rows, row.val.createdAt < ticket.val.createdAt) :
      Routes teamId w ticket.val.assigneeId w'

/-- A sequence of new tickets of a team, with the assignees they got. -/
inductive Routed (teamId : TeamId) : World → List (Option AgentId) → World → Prop where
  | nil (w : World) : Routed teamId w [] w
  | cons {assignee : Option AgentId} {assignees : List (Option AgentId)} {w w₁ w₂ w' : World}
      (idle : Idle teamId w w₁) (routes : Routes teamId w₁ assignee w₂)
      (rest : Routed teamId w₂ assignees w') : Routed teamId w (assignee :: assignees) w'

section

variable {teamId : TeamId} {w w' : World}

/-- A new ticket goes to the member whose latest ticket was the oldest, and is the latest of
all from then on. -/
theorem Routes.longestAgo {assignee : Option AgentId} (routes : Routes teamId w assignee w')
    (staffed : w.activeMembers teamId ≠ []) :
    ∃ agentId id createdAt, assignee = some agentId ∧ LongestAgo teamId w agentId ∧
      Assigns teamId agentId id createdAt w w' ∧ 0 < createdAt ∧
      ∀ row ∈ w.tickets.rows, row.val.createdAt < createdAt := by
  cases routes with
  | @routed _ _ _ ticket _ _ team strategy runs created positive latest =>
      obtain ⟨agentId, createdAt, longest, assigns⟩ :=
        (resolveTicket_sat team strategy staffed).of_runs Idle.refl runs _ rfl
      have own := congrFun assigns.own ticket.id
      rw [Function.update_self] at own
      obtain ⟨ticket', found, assignee, same⟩ := World.assigned_eq_some_iff.mp own
      obtain rfl := Option.some.inj (created.symm.trans found)
      rw [same] at positive latest
      exact ⟨agentId, _, createdAt, assignee, longest, assigns, positive, latest⟩

/-- After the new ticket its assignee was assigned last. -/
theorem Assigns.lastAssignedAt {agentId : AgentId} {id : TicketId} {createdAt : Time}
    (assigns : Assigns teamId agentId id createdAt w w')
    (latest : ∀ row ∈ w.tickets.rows, row.val.createdAt < createdAt) :
    w'.lastAssignedAt agentId = createdAt := by
  have own : w'.assigned agentId id = some createdAt := by rw [assigns.own, Function.update_self]
  refine World.lastAssignedAt_of_latest own fun id' time listed => ?_
  rw [assigns.own, Function.update_apply] at listed
  split at listed
  · exact (Option.some.inj listed).ge
  · obtain ⟨ticket, found, -, rfl⟩ := World.assigned_eq_some_iff.mp listed
    exact (latest ticket (Table.mem_of_find? found)).le

/-- **The tickets of a team go round.** Nothing but the tickets is stored, and their times are
those of the turns. -/
theorem Routed.turns {assignees : List (Option AgentId)} (routed : Routed teamId w assignees w')
    (staffed : w.activeMembers teamId ≠ []) :
    ∃ turns, assignees = turns.map some ∧
      Turns (w.activeMembers teamId).toFinset w.lastAssignedAt turns w'.lastAssignedAt := by
  induction routed with
  | nil w => exact ⟨[], rfl, .nil _⟩
  | @cons assignee assignees w w₁ w₂ w' idle routes rest ih =>
      have staffed₁ : w₁.activeMembers teamId ≠ [] := fun none =>
        staffed (List.perm_nil.mp (none ▸ idle.members.symm))
      obtain ⟨agentId, id, createdAt, rfl, ⟨member, least⟩, assigns, positive, latest⟩ :=
        routes.longestAgo staffed₁
      have members : (w₂.activeMembers teamId).Perm (w.activeMembers teamId) :=
        assigns.members.trans idle.members
      have staffed₂ : w₂.activeMembers teamId ≠ [] := fun none =>
        staffed (List.perm_nil.mp (none ▸ members.symm))
      obtain ⟨turns, rfl, taken⟩ := ih staffed₂
      rw [List.toFinset_eq_of_perm _ _ members] at taken
      have before : ∀ other ∈ (w.activeMembers teamId).toFinset,
          other ∈ w₁.activeMembers teamId ∧ w₁.lastAssignedAt other = w.lastAssignedAt other :=
        fun other listed => ⟨idle.members.mem_iff.mpr (List.mem_toFinset.mp listed),
          idle.lastAssignedAt (List.mem_toFinset.mp listed)⟩
      have own := idle.members.mem_iff.mp member
      refine ⟨agentId :: turns, rfl, .cons (List.mem_toFinset.mpr own) ?_ ?_ ?_ taken⟩
      · intro other listed
        rw [← idle.lastAssignedAt own, ← (before other listed).2]
        exact least other (before other listed).1
      · intro other listed
        rw [assigns.lastAssignedAt latest, ← (before other listed).2]
        exact World.lastAssignedAt_lt positive latest
      · intro other listed ne
        rw [← (before other listed).2]
        exact World.lastAssignedAt_congr (assigns.others other (before other listed).1 ne)

/-- **Round robin is fair.** Of any `k` consecutive new tickets of a team with `k` active
members, each goes to another member, so every member gets exactly one. -/
theorem round_robin_fair {before turns after : List (Option AgentId)}
    (routed : Routed teamId w (before ++ turns ++ after) w')
    (round : turns.length = (w.activeMembers teamId).length) :
    turns.Nodup ∧ turns.Perm ((w.activeMembers teamId).map some) := by
  by_cases staffed : w.activeMembers teamId = []
  · rw [staffed, List.length_nil, List.length_eq_zero_iff] at round
    rw [round, staffed]
    exact ⟨List.nodup_nil, .refl _⟩
  · obtain ⟨taken, whole, turned⟩ := routed.turns staffed
    obtain ⟨first, third, rfl, pieces, rfl⟩ := List.append_eq_map_iff.mp whole
    obtain ⟨one, two, rfl, rfl, rfl⟩ := List.append_eq_map_iff.mp pieces.symm
    have distinct := w.nodup_activeMembers teamId
    rw [List.length_map, ← List.toFinset_card_of_nodup distinct] at round
    obtain ⟨nodup, served⟩ := turned.window round
    refine ⟨nodup.map (Option.some_injective _), List.Perm.map _ ?_⟩
    refine (List.perm_ext_iff_of_nodup nodup distinct).mpr fun agentId => ?_
    rw [← List.mem_toFinset, served, List.mem_toFinset]

end

/-! ## Three tickets of a team of two -/

/-- A chat routed by turns, and a customer who writes there. -/
def World.sharedChat : Entry Chat := ⟨0, ⟨-5, "support", some 0, none, .round_robin, .normal⟩⟩

def World.sharedCustomer : Entry Customer := ⟨0, ⟨42, none, some "Olena"⟩⟩

/-- A team with two active members. -/
def World.staffed : World :=
  { World.paired with
    now := 1
    teams := Table.empty.insert ⟨"support"⟩ (by decide)
    teamMembers := (Table.empty.insert ⟨0, 0⟩ (by decide)).insert ⟨0, 1⟩ (by decide)
    chats := Table.empty.insert World.sharedChat.val (by decide)
    customers := Table.empty.insert World.sharedCustomer.val (by decide) }

/-- A new ticket of the chat. -/
def World.ticketed (w : World) : Except Err (TicketId × Bool) × World :=
  (resolveTicket World.sharedChat World.sharedCustomer 1 .createNew).run World.perform w

theorem routes_ticketed {w : World} {assignee : Option AgentId}
    (answered : w.ticketed.1 = .ok (w.tickets.next, true))
    (created : (w.ticketed.2.tickets.find? w.tickets.next).any (fun ticket =>
      ticket.val.assigneeId = assignee ∧ 0 < ticket.val.createdAt ∧
        ∀ row ∈ w.tickets.rows, row.val.createdAt < ticket.val.createdAt) = true) :
    Routes 0 w assignee w.ticketed.2 := by
  obtain ⟨ticket, found, holds⟩ := (Option.any_eq_true _ _).mp created
  obtain ⟨rfl, positive, latest⟩ := of_decide_eq_true holds
  have id := Table.id_of_find? found
  have runs : (resolveTicket World.sharedChat World.sharedCustomer 1 .createNew).Runs
      World.perform (Idle 0) w (.ok (ticket.id, true)) w.ticketed.2 := by
    rw [id, ← answered]
    exact Program.runs_run Idle.refl _ w
  exact .routed rfl rfl runs (id ▸ found) positive latest

/-- Three tickets, a millisecond after each: the last two go to different members. -/
theorem tickets_in_turn : ∃ w', Routed 0 World.staffed ([some 0] ++ [some 1, some 0] ++ []) w' ∧
    [some 1, some 0].Nodup ∧ [some 1, some 0].Perm ((World.staffed.activeMembers 0).map some) := by
  have routed : Routed 0 World.staffed ([some 0] ++ [some 1, some 0] ++ []) _ :=
    .cons (.refl _) (routes_ticketed rfl (by decide))
      (.cons (idle_advance 1 _) (routes_ticketed rfl (by decide))
        (.cons (idle_advance 1 _) (routes_ticketed rfl (by decide)) (.nil _)))
  exact ⟨_, routed, round_robin_fair routed rfl⟩

end SupportCrm
