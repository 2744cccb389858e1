import SupportCrm.AuditLog

/-!
# The chain of assignments

Every assignment logs the assignee that it replaces. `assign` reads this assignee before its
transaction, so another assignment may come between the two; and a bulk request may name no
agent at all, which leaves the assignee and logs an event without one. `assignment_chain_iff`:
from any state on, the logged assignments of a ticket lead from its assignee there to its
current one, each from where the one before it led, if and only if every assignment that takes
effect names its agent, or `null`, and finds the assignee that it read.
-/

set_option autoImplicit false

namespace SupportCrm

open KeyedTable AtomicProgram

/-! ## Chains -/

/-- An assignment: the assignee that it replaces and the one that it sets, if it names any. -/
abbrev Assignment := Option AgentId × Option (Option AgentId)

/-- Each assignment replaces the assignee that the one before it set. One that names none has
no place in a chain. -/
inductive Leads (first : Option AgentId) : List Assignment → Option AgentId → Prop where
  | nil : Leads first [] first
  | concat {links : List Assignment} {last : Option AgentId} (assignee : Option AgentId)
      (chain : Leads first links last) : Leads first (links ++ [(last, some assignee)]) assignee

theorem leads_nil_iff {first last : Option AgentId} : Leads first [] last ↔ last = first := by
  constructor
  · intro chain
    generalize nothing : [] = links at chain
    cases chain with
    | nil => rfl
    | concat _ _ => simp at nothing
  · rintro rfl
    exact .nil

theorem leads_concat_iff {first last previous : Option AgentId} {links : List Assignment}
    {agentId : Option (Option AgentId)} :
    Leads first (links ++ [(previous, agentId)]) last ↔
      Leads first links previous ∧ agentId = some last := by
  constructor
  · intro chain
    generalize whole : links ++ [(previous, agentId)] = all at chain
    cases chain with
    | nil => simp at whole
    | concat assignee chain =>
        obtain ⟨rfl, same⟩ := List.append_inj' whole rfl
        cases same
        exact ⟨chain, rfl⟩
  · rintro ⟨chain, rfl⟩
    exact .concat last chain

/-- A chain leads to one assignee. -/
theorem Leads.unique {first last last' : Option AgentId} {links : List Assignment}
    (chain : Leads first links last) (chain' : Leads first links last') : last' = last := by
  cases chain with
  | nil => exact leads_nil_iff.mp chain'
  | concat assignee _ => exact (Option.some.inj (leads_concat_iff.mp chain').2).symm

/-! ## The log of a ticket -/

/-- The assignment that an event logs. -/
def TicketEventPayload.assignment : TicketEventPayload → Option Assignment
  | .assigned agentId previousAssigneeId _ => some (previousAssigneeId, agentId)
  | .updated _ => none

/-- The assignment of a ticket that a command makes. -/
def Call.assignment (id : TicketId) : Call → Option Assignment
  | .assignTransaction other agentId _ previousAssigneeId _ =>
      if other = id then some (previousAssigneeId, agentId) else none
  | _ => none

namespace World

variable {w : World} {id : TicketId}

/-- The assignments of a ticket in the order of their commits. -/
def assignments (w : World) (id : TicketId) : List Assignment :=
  (eventsOf w.ticketEvents id).filterMap fun event => event.payload.assignment

def assigneeOf (w : World) (id : TicketId) : Option AgentId :=
  (w.tickets.find? id).bind fun ticket => ticket.val.assigneeId

/-- The assignments after the old ones lead from the initial assignee to the current one. -/
def AssignmentsChain (old : List Assignment) (initial : Option AgentId) (id : TicketId)
    (w : World) : Prop :=
  ∃ new, w.assignments id = old ++ new ∧ Leads initial new (w.assigneeOf id)

/-- An assignment of the ticket that takes effect names an agent, or `null`, and finds the
assignee that it read. -/
def assignsInOrder (w : World) (id : TicketId) (c : Call) : Bool :=
  match (w.perform c).1 with
  | .error _ => true
  | .ok _ => (c.assignment id).all fun assignment =>
      assignment.1 = w.assigneeOf id && assignment.2.isSome

/-! ## One command -/

/-- A command that is no assignment of the ticket logs none. -/
theorem assignments_perform_of_none {c : Call} (none : c.assignment id = none) :
    (w.perform c).2.assignments id = w.assignments id := by
  have step := w.perform_step c
  generalize (w.perform c).2 = w' at step
  cases step
  case patch =>
    rw [assignments, eventsOf_insert]
    split <;> simp [assignments, TicketEventPayload.assignment]
  case assign other agentId byAgentId previousAssigneeId reason present =>
    have distinct : other ≠ id := by
      rintro rfl
      simp [Call.assignment] at none
    rw [assignments, eventsOf_insert, if_neg distinct, List.append_nil, assignments]
  all_goals rfl

/-- A command that neither assigns the ticket nor patches its assignee leaves it. -/
theorem assigneeOf_perform_of_none {c : Call} (present : (w.tickets.find? id).isSome)
    (none : c.assignment id = none)
    (unpatched : ∀ data dto byAgentId, c = .patchTransaction id data dto byAgentId →
      data.assignee = .none) :
    (w.perform c).2.assigneeOf id = w.assigneeOf id := by
  obtain ⟨ticket, found⟩ := Option.isSome_iff_exists.mp present
  obtain ⟨ticket', found', rfl | ⟨data, update, rfl⟩⟩ := ticket_perform c found
  · rw [assigneeOf, assigneeOf, found', found]
  · have kept : data.assignee = .none := by
      cases Call.updates_of_ticketData update with
      | patch => exact unpatched _ _ _ rfl
      | assign => simp [Call.assignment] at none
      | close | record | reply => rfl
    rw [assigneeOf, assigneeOf, found', found, Option.bind_some, Option.bind_some, TicketData.apply,
      kept, Option.getD_none]

/-- An assignment of the ticket that takes effect. -/
theorem assign_perform {c : Call} {answer : c.Resp} (ok : (w.perform c).1 = .ok answer)
    {assignment : Assignment} (assigns : c.assignment id = some assignment) :
    (w.perform c).2.assignments id = w.assignments id ++ [assignment] ∧
      (w.perform c).2.assigneeOf id = assignment.2.getD (w.assigneeOf id) := by
  cases c <;> simp only [Call.assignment, reduceCtorEq] at assigns
  case assignTransaction other agentId byAgentId previousAssigneeId reason =>
    split at assigns
    · next own =>
      subst own
      cases assigns
      obtain ⟨present, same⟩ := assignTransaction_eq_ok (effect_of_perform_ok ok)
      obtain ⟨ticket, found⟩ := Option.isSome_iff_exists.mp present
      rw [same]
      constructor
      · rw [assignments, eventsOf_insert, if_pos rfl, List.filterMap_append]
        rfl
      · rw [assigneeOf, assigneeOf, Table.find?_update_self _ found, found]
        rfl
    · cases assigns

/-- **A command keeps the chain exactly when it assigns in order.** -/
theorem AssignmentsChain.perform_iff {old : List Assignment} {initial : Option AgentId} {c : Call}
    (chain : w.AssignmentsChain old initial id) (present : (w.tickets.find? id).isSome)
    (unpatched : ∀ data dto byAgentId, c = .patchTransaction id data dto byAgentId →
      data.assignee = none) :
    (w.perform c).2.AssignmentsChain old initial id ↔ w.assignsInOrder id c = true := by
  obtain ⟨new, logged, leads⟩ := chain
  cases answered : (w.perform c).1 with
  | error e =>
      rw [perform_error answered, assignsInOrder, answered]
      exact iff_of_true ⟨new, logged, leads⟩ rfl
  | ok answer =>
      rw [assignsInOrder, answered]
      cases assigns : c.assignment id with
      | none =>
          rw [AssignmentsChain, assignments_perform_of_none assigns,
            assigneeOf_perform_of_none present assigns unpatched]
          exact iff_of_true ⟨new, logged, leads⟩ rfl
      | some assignment =>
          obtain ⟨previous, agentId⟩ := assignment
          obtain ⟨grown, current⟩ := assign_perform answered assigns
          rw [AssignmentsChain, grown, current, logged]
          simp only [Option.all_some, Bool.and_eq_true, decide_eq_true_eq]
          constructor
          · rintro ⟨new', same, leads'⟩
            rw [List.append_assoc] at same
            obtain rfl := List.append_cancel_left same
            obtain ⟨chained, named⟩ := leads_concat_iff.mp leads'
            exact ⟨leads.unique chained, Option.isSome_of_mem named⟩
          · rintro ⟨rfl, named⟩
            obtain ⟨assignee, rfl⟩ := Option.isSome_iff_exists.mp named
            exact ⟨new ++ [(w.assigneeOf id, some assignee)], List.append_assoc _ _ _,
              leads_concat_iff.mpr ⟨leads, rfl⟩⟩

end World

/-! ## Every run -/

/-- **The assignments form a chain unless one overtakes another between its read and its
commit, or names no agent.** Whatever requests interleave that do not patch the assignee, in
every state reached the assignments of a ticket since the beginning lead from its initial
assignee to its current one, if and only if each of them that takes effect names an agent, or
`null`, and finds the assignee that it read. -/
theorem assignment_chain_iff (config : Config) (requests : List Request) (w : World)
    (schedule : List (Act ℕ)) (id : TicketId) (present : (w.tickets.find? id).isSome)
    (unpatched : ∀ request ∈ requests, ∀ dto byAgentId, request.Patches id dto byAgentId →
      dto.assignee_id = none) :
    (∀ n, (w.after config requests (schedule.take n)).AssignmentsChain (w.assignments id)
        (w.assigneeOf id) id) ↔
      (Requests.start config requests w).Meets (fun _ => World.perform) World.advance
        (fun _ c w => w.assignsInOrder id c = true) (fun _ _ => True) schedule := by
  have start : w.AssignmentsChain (w.assignments id) (w.assigneeOf id) id :=
    ⟨[], (List.append_nil _).symm, .nil⟩
  have kept : ∀ {c : Call}, (∃ request ∈ requests, request.Performs c) →
      ∀ data dto byAgentId, c = .patchTransaction id data dto byAgentId → data.assignee = none := by
    rintro c ⟨request, member, performs⟩ data dto byAgentId rfl
    rw [(PatchTicketDto.Builds.refers performs.builds).1]
    exact unpatched request member dto byAgentId performs.patches
  have exists_along : ∀ n, ((w.after config requests (schedule.take n)).tickets.find? id).isSome :=
    fun n => World.after_invariant (I := fun w => (w.tickets.find? id).isSome)
      (fun c w present => World.isSome_ticket_perform c present) (fun _ _ present => present)
      present
  refine Iff.trans ?_ (Pool.invariant_iff_meets (I := fun v => (v.tickets.find? id).isSome ∧
    v.AssignmentsChain (w.assignments id) (w.assigneeOf id) id) ?_ ?_
    (Requests.meets_performs config requests w schedule) ⟨present, start⟩)
  · exact forall_congr' fun n => (and_iff_right (exists_along n)).symm
  · rintro i c v performs ⟨present, chain⟩
    rw [and_iff_right (World.isSome_ticket_perform c present)]
    exact chain.perform_iff present (kept performs)
  · exact fun _ _ _ holds => holds

/-! Two agents claim the ticket of a greeting. -/

namespace Claims

def greeted : World := World.paired.after .default [.ingest (greeting 7)] (alone 20)

def requests : List Request := [.claim 0 0, .claim 0 1]

/-- Both read the ticket before one of them is assigned to it. -/
def overlapping : List (Act ℕ) := [.turn 0, .turn 1, .turn 0, .turn 1]

def inTurn : List (Act ℕ) := oneByOne 2 2

end Claims

set_option maxRecDepth 4000 in
/-- Both claims log that they replace nobody. -/
theorem overlapping_claims_break_the_chain :
    Claims.greeted.assignments 0 = [] ∧ Claims.greeted.assigneeOf 0 = none ∧
      (Claims.greeted.after .default Claims.requests Claims.overlapping).assignments 0 =
        [(none, some (some 0)), (none, some (some 1))] ∧
      ¬ (Claims.greeted.after .default Claims.requests Claims.overlapping).AssignmentsChain
        (Claims.greeted.assignments 0) (Claims.greeted.assigneeOf 0) 0 := by
  have old : Claims.greeted.assignments 0 = [] := by decide
  have initial : Claims.greeted.assigneeOf 0 = none := by decide
  have logged : (Claims.greeted.after .default Claims.requests
      Claims.overlapping).assignments 0 = [(none, some (some 0)), (none, some (some 1))] := by
    decide
  refine ⟨old, initial, logged, ?_⟩
  rintro ⟨new, same, leads⟩
  rw [old, logged, List.nil_append] at same
  subst same
  have both : Leads (Claims.greeted.assigneeOf 0)
      ([(none, some (some 0))] ++ [(none, some (some 1))]) _ := leads
  have one : Leads (Claims.greeted.assigneeOf 0) ([] ++ [(none, some (some 0))]) none :=
    (leads_concat_iff.mp both).1
  cases (leads_concat_iff.mp one).2

/-- Without an agent the request leaves the assignee and logs an assignment that names none. -/
example : (Claims.greeted.after .default [.bulk (.assign none) 0 [0]] (alone 3)).assignments 0 =
      [(none, none)] ∧
    (Claims.greeted.after .default [.bulk (.assign none) 0 [0]] (alone 3)).assigneeOf 0 = none := by
  decide

set_option maxRecDepth 4000 in
/-- The second claim replaces the agent of the first. -/
theorem claims_in_turn_form_a_chain :
    (Claims.greeted.after .default Claims.requests (Claims.inTurn.take 4)).AssignmentsChain
      (Claims.greeted.assignments 0) (Claims.greeted.assigneeOf 0) 0 := by
  refine (assignment_chain_iff .default Claims.requests Claims.greeted Claims.inTurn 0
    (by decide) ?_).mpr ?_ 4
  · intro request member dto byAgentId patches
    simp only [Claims.requests, List.mem_cons, List.not_mem_nil, or_false] at member
    rcases member with rfl | rfl
    · cases patches
    · cases patches
  · decide

end SupportCrm
