import Mathlib.Data.List.NodupEquivFin
import SupportCrm.Library.Budget
import SupportCrm.Notifications
import SupportCrm.System

/-!
# Mentions

A comment notifies the agents whom it mentions. The listener starts one call of `notify` for
each entry of the list, all at once, and each call looks for a recent notification before it
creates one. Two calls for one agent can both look before either has created: then the agent
has two notifications and two direct messages from one comment.

`mentions_notified_once_iff`: whatever the order of the steps, each agent is notified once
at most, if and only if the comment mentions no agent twice.
-/

set_option autoImplicit false

namespace SupportCrm

open KeyedTable AtomicProgram NotificationsService

namespace NotificationWorld

/-- The notifications of an agent. -/
def countOf (w : NotificationWorld) (agentId : AgentId) : ℕ :=
  w.notifications.rows.countP fun row => row.val.agentId = agentId

/-- The direct messages that the bot was asked to send to a user. -/
def attemptsTo (w : NotificationWorld) (telegramUserId : ℤ) : ℕ :=
  w.directMessages.countP fun message => message.telegramUserId = telegramUserId

/-- **Notified once at most.** Since `w` the agent has got one more notification at most, and
the bot was asked for one more direct message at most. -/
structure NotifiedOnce (w w' : NotificationWorld) (agentId : AgentId) : Prop where
  rows : w'.countOf agentId ≤ w.countOf agentId + 1
  attempts : ∀ agent, w.agents.find? agentId = some agent →
    w'.attemptsTo agent.val.telegramUserId ≤ w.attemptsTo agent.val.telegramUserId + 1

/-- The calls of `notify` that the listener starts together for an event. -/
def handling (w : NotificationWorld) (event : DomainEvent) :
    Pool NotificationCall NotificationCall.Resp Err (Entry Notification) NotificationWorld :=
  ⟨(NotificationEventsListener.handle
      (fun id => (w.tickets.find? id).bind fun ticket => ticket.val.assigneeId)
      event).map notify, w⟩

/-- The state that the calls for an event reach along a schedule. -/
def afterEvent (w : NotificationWorld) (event : DomainEvent) (schedule : List (Act ℕ)) :
    NotificationWorld :=
  ((w.handling event).exec (fun _ => perform) elapse schedule).state

end NotificationWorld

open NotificationWorld

/-! ## What a call can cost -/

/-- The notifications of an agent that a command can create. -/
def NotificationCall.creates (agentId : AgentId) : NotificationCall → ℕ
  | .notificationCreate agentId' _ _ _ => if agentId' = agentId then 1 else 0
  | _ => 0

/-- The direct messages to a user for which a command can ask. -/
def NotificationCall.asks (telegramUserId : ℤ) : NotificationCall → ℕ
  | .sendMessage telegramUserId' _ => if telegramUserId' = telegramUserId then 1 else 0
  | _ => 0

section Commands

variable (w : NotificationWorld) (c : NotificationCall)

/-- Only an agent who exists gets a notification. -/
theorem countOf_perform (agentId : AgentId) : (w.perform c).2.countOf agentId ≤
    w.countOf agentId + if (w.agents.find? agentId).isSome then c.creates agentId else 0 := by
  have writes := w.writes_perform c
  rw [countOf]
  generalize (w.perform c).2.notifications = notifications at writes ⊢
  cases writes with
  | kept => exact Nat.le_add_right _ _
  | created agent ticket =>
      simp only [Table.insert_rows, List.countP_append, List.countP_singleton, decide_eq_true_eq,
        NotificationCall.creates]
      refine Nat.add_le_add_left ?_ _
      split
      · next own =>
        subst own
        rw [if_pos agent]
      · exact Nat.zero_le _
  | refreshed =>
      refine le_of_eq_of_le ?_ (Nat.le_add_right _ _)
      exact Table.countP_update (f := refreshed _ _) (fun _ => rfl)
        (Notification.agentId · = agentId) fun _ => rfl
  | read p =>
      refine le_of_eq_of_le ?_ (Nat.le_add_right _ _)
      exact Table.countP_updateMany (f := NotificationWorld.read) (fun _ => rfl)
        (Notification.agentId · = agentId) fun _ => rfl

theorem attemptsTo_perform (telegramUserId : ℤ) :
    (w.perform c).2.attemptsTo telegramUserId ≤
      w.attemptsTo telegramUserId + c.asks telegramUserId := by
  cases c with
  | sendMessage telegramUserId' text =>
      simp only [NotificationWorld.perform, attemptsTo, List.countP_append, List.countP_singleton,
        decide_eq_true_eq]
      exact le_refl _
  | notificationCreate agentId type ticketId payload =>
      simp only [NotificationWorld.perform, notificationCreate]
      split <;> exact Nat.le_add_right _ _
  | notificationUpdate id payload createdAt =>
      simp only [NotificationWorld.perform, notificationUpdate]
      split <;> exact Nat.le_add_right _ _
  | commentCreate ticketId agentId body mentions =>
      simp only [NotificationWorld.perform, NotificationWorld.commentCreate]
      split <;> exact Nat.le_add_right _ _
  | _ => exact Nat.le_add_right _ _

end Commands

/-! ## Budgets of a call -/

section Budgets

variable {I : NotificationWorld → Prop}

/-- Dispatching creates no notification. -/
theorem always_dispatch (agentId agentId' : AgentId) (type : String) :
    (dispatchExternalChannels agentId' type).Always fun c => c.creates agentId = 0 := by
  refine Program.always_bind (Program.always_perform rfl) fun agent => ?_
  cases agent with
  | none => exact Program.always_pure
  | some agent =>
      refine Program.always_bind (Program.always_perform rfl) fun pref => ?_
      split
      · refine Program.always_bind (Program.always_attempt ?_) fun _ => Program.always_pure
        refine Program.always_bind (Program.always_attempt (Program.always_perform rfl)) fun _ => ?_
        exact Program.always_pure
      · exact Program.always_pure

/-- A call creates one notification at most, and only for the agent whom it notifies. -/
theorem spends_notify_rows (params : NotifyParams) (agentId : AgentId) :
    (notify params).Spends NotificationWorld.perform I (NotificationCall.creates agentId)
      (if params.agentId = agentId then 1 else 0) := by
  refine Program.spends_perform_bind _ (Nat.zero_add _).le fun w now _ _ => ?_
  refine Program.spends_perform_bind _ (Nat.zero_add _).le fun w existing _ _ => ?_
  cases existing with
  | some row =>
      refine Program.spends_of_always ?_ _
      refine Program.always_bind (Program.always_perform rfl) fun createdAt => ?_
      refine Program.always_bind (Program.always_perform rfl) fun notification => ?_
      exact Program.always_bind (Program.always_perform rfl) fun _ => Program.always_pure
  | none =>
      refine Program.spends_perform_bind 0 le_rfl fun w notification _ _ => ?_
      refine Program.spends_of_always ?_ 0
      refine Program.always_bind (Program.always_perform rfl) fun _ => ?_
      exact Program.always_bind (always_dispatch agentId _ _) fun _ => Program.always_pure

/-- Dispatching asks for one direct message at most, to the agent whom it is for. -/
theorem spends_dispatch {agents : Table Agent.key} (fixed : ∀ w, I w → w.agents = agents)
    {agent : Entry Agent} (member : agent ∈ agents.rows) (agentId : AgentId) (type : String) :
    (dispatchExternalChannels agentId type).Spends NotificationWorld.perform I
      (NotificationCall.asks agent.val.telegramUserId) (if agentId = agent.id then 1 else 0) := by
  refine Program.spends_perform_bind _ (Nat.zero_add _).le fun w found holds answered => ?_
  cases found with
  | none => exact Program.spends_pure
  | some other =>
      refine Program.spends_perform_bind _ (Nat.zero_add _).le fun _ pref _ _ => ?_
      split
      · have present : agents.find? agentId = some other := by
          rw [← fixed w holds]
          exact Except.ok.inj answered
        refine Program.spends_bind_pure (Program.spends_attempt (Program.spends_bind_pure
          (Program.spends_attempt (Program.spends_perform ?_))))
        simp only [NotificationCall.asks]
        split
        · -- two agents never share a Telegram identifier
          next same =>
          have equal : other = agent := Table.eq_of_key_eq (Table.mem_of_find? present) member
            (congrArg some same) rfl
          rw [← equal, Table.id_of_find? present, if_pos rfl]
        · exact Nat.zero_le _
      · exact Program.spends_pure

theorem spends_notify_attempts {agents : Table Agent.key} (fixed : ∀ w, I w → w.agents = agents)
    {agent : Entry Agent} (member : agent ∈ agents.rows) (params : NotifyParams) :
    (notify params).Spends NotificationWorld.perform I
      (NotificationCall.asks agent.val.telegramUserId)
      (if params.agentId = agent.id then 1 else 0) := by
  refine Program.spends_perform_bind _ (Nat.zero_add _).le fun w now _ _ => ?_
  refine Program.spends_perform_bind _ (Nat.zero_add _).le fun w existing _ _ => ?_
  cases existing with
  | some row =>
      refine Program.spends_of_always ?_ _
      refine Program.always_bind (Program.always_perform rfl) fun createdAt => ?_
      refine Program.always_bind (Program.always_perform rfl) fun notification => ?_
      exact Program.always_bind (Program.always_perform rfl) fun _ => Program.always_pure
  | none =>
      refine Program.spends_perform_bind _ (Nat.zero_add _).le fun w notification _ created => ?_
      refine Program.spends_perform_bind _ (Nat.zero_add _).le fun w _ _ _ => ?_
      have named : notification.val.agentId = params.agentId := by
        simp only [NotificationWorld.perform, notificationCreate] at created
        split at created
        · cases created
          rfl
        · cases created
      rw [← named]
      exact Program.spends_bind_pure (spends_dispatch fixed member _ _)

end Budgets

section Schedules

variable (w : NotificationWorld) (ticketId : TicketId) (commentId : CommentId)
variable (mentions : List AgentId) (schedule : List (Act ℕ))

/-- The programs of the pool are the calls, one for each entry of the list. -/
theorem program_handling {i : ℕ} {p : NotificationApp (Entry Notification)}
    (present : (w.handling (.commentCreated ticketId commentId mentions)).programs[i]? = some p) :
    ∃ agentId, mentions[i]? = some agentId ∧
      p = notify ⟨agentId, "comment.mention", ticketId, ("commentId", commentId)⟩ := by
  change ((mentions.map _).map notify)[i]? = some p at present
  rw [List.getElem?_map, List.getElem?_map] at present
  cases entry : mentions[i]? with
  | none => simp [entry] at present
  | some agentId => exact ⟨agentId, rfl, by simpa [entry] using present.symm⟩

theorem calls_length :
    (w.handling (.commentCreated ticketId commentId mentions)).programs.length =
      mentions.length := by
  change ((mentions.map _).map notify).length = _
  rw [List.length_map, List.length_map]

/-- An agent has got no more notifications than mentions. -/
theorem countOf_afterEvent (agentId : AgentId) :
    (w.afterEvent (.commentCreated ticketId commentId mentions) schedule).countOf agentId ≤
      w.countOf agentId + mentions.count agentId := by
  have total := Pool.size_exec_le (H := fun _ => NotificationWorld.perform) (E := elapse)
    (I := fun _ => True) (countOf · agentId) (fun _ => NotificationCall.creates agentId)
    (fun i => if mentions[i]? = some agentId then 1 else 0)
    (fun _ c s _ => ⟨trivial, (countOf_perform s c agentId).trans (Nat.add_le_add_left
      (by split <;> [exact le_refl _; exact Nat.zero_le _]) _)⟩)
    (fun _ _ _ => ⟨trivial, le_refl _⟩) (w.handling (.commentCreated ticketId commentId mentions))
    (fun i p present => by
      obtain ⟨other, entry, rfl⟩ := program_handling w ticketId commentId mentions present
      rw [entry]
      simpa using spends_notify_rows ⟨other, _, _, _⟩ agentId)
    trivial schedule
  rw [calls_length, Pool.sum_budget_eq_count] at total
  exact total

/-- Who is not an agent gets no notification. -/
theorem countOf_afterEvent_of_absent {agentId : AgentId}
    (absent : w.agents.find? agentId = none) :
    (w.afterEvent (.commentCreated ticketId commentId mentions) schedule).countOf agentId ≤
      w.countOf agentId := by
  refine (Pool.invariant_exec (P := fun _ _ _ => True) (N := fun _ _ => True)
    (I := fun s => s.agents = w.agents ∧ s.countOf agentId ≤ w.countOf agentId) ?_ ?_
    (Pool.meets_of_forall (fun _ _ _ => trivial) (fun _ _ => trivial)
      (w.handling (.commentCreated ticketId commentId mentions)) schedule) ⟨rfl, le_refl _⟩).2
  · rintro - c s - ⟨fixed, le⟩
    have still := countOf_perform s c agentId
    rw [fixed, absent] at still
    exact ⟨(s.perform_agents c).trans fixed, still.trans le⟩
  · exact fun _ _ _ kept => kept

/-- The bot was asked for no more direct messages to an agent than there are mentions. -/
theorem attemptsTo_afterEvent {agent : Entry Agent} (member : agent ∈ w.agents.rows) :
    (w.afterEvent (.commentCreated ticketId commentId mentions) schedule).attemptsTo
        agent.val.telegramUserId ≤
      w.attemptsTo agent.val.telegramUserId + mentions.count agent.id := by
  have total := Pool.size_exec_le (H := fun _ => NotificationWorld.perform) (E := elapse)
    (I := fun s => s.agents = w.agents) (attemptsTo · agent.val.telegramUserId)
    (fun _ => NotificationCall.asks agent.val.telegramUserId)
    (fun i => if mentions[i]? = some agent.id then 1 else 0)
    (fun _ c s fixed => ⟨(s.perform_agents c).trans fixed, attemptsTo_perform s c _⟩)
    (fun _ _ fixed => ⟨fixed, le_refl _⟩) (w.handling (.commentCreated ticketId commentId mentions))
    (fun i p present => by
      obtain ⟨agentId, entry, rfl⟩ := program_handling w ticketId commentId mentions present
      rw [entry]
      simpa using spends_notify_attempts (fun _ fixed => fixed) member ⟨agentId, _, _, _⟩)
    rfl schedule
  rw [calls_length, Pool.sum_budget_eq_count] at total
  exact total

/-- No agent is mentioned twice: then each is notified once at most, in any order. -/
theorem notifiedOnce_of_count (once : ∀ agent ∈ w.agents.rows, mentions.count agent.id ≤ 1)
    (agentId : AgentId) :
    w.NotifiedOnce (w.afterEvent (.commentCreated ticketId commentId mentions) schedule)
      agentId where
  rows := by
    cases found : w.agents.find? agentId with
    | none =>
        have still := countOf_afterEvent_of_absent w ticketId commentId mentions schedule found
        omega
    | some agent =>
        have few := once agent (Table.mem_of_find? found)
        rw [Table.id_of_find? found] at few
        have total := countOf_afterEvent w ticketId commentId mentions schedule agentId
        omega
  attempts agent found := by
    have few := once agent (Table.mem_of_find? found)
    have total := attemptsTo_afterEvent w ticketId commentId mentions schedule
      (Table.mem_of_find? found)
    omega

end Schedules

/-! ## Two calls for one agent -/

variable {w : NotificationWorld}
variable {pool : Pool NotificationCall NotificationCall.Resp Err (Entry Notification)
  NotificationWorld} {i : ℕ} {params : NotifyParams}

/-- A time after which no notification is recent. -/
theorem exists_quiet (w : NotificationWorld) : ∃ milliseconds : ℕ,
    ∀ row ∈ w.notifications.rows, row.val.createdAt < w.now + milliseconds - dedupWindow := by
  induction w.notifications.rows with
  | nil => exact ⟨0, fun _ listed => absurd listed List.not_mem_nil⟩
  | cons row rest ih =>
      obtain ⟨milliseconds, later⟩ := ih
      refine ⟨max milliseconds (row.val.createdAt - w.now + dedupWindow + 1).toNat, ?_⟩
      intro other listed
      have first := Int.self_le_toNat (row.val.createdAt - w.now + dedupWindow + 1)
      rcases List.mem_cons.mp listed with rfl | listed
      · grind
      · have late := later other listed
        grind

/-- Two turns: the call has looked, and found nothing recent. -/
theorem looks (current : pool.programs[i]? = some (notify params))
    (quiet : ∀ row ∈ pool.state.notifications.rows,
      row.val.createdAt < pool.state.now - dedupWindow) :
    let pool' := pool.exec (fun _ => NotificationWorld.perform) elapse [.turn i, .turn i]
    pool'.state = pool.state ∧ pool'.programs[i]? = some (refreshOrCreate params none) ∧
      ∀ j ≠ i, pool'.programs[j]? = pool.programs[j]? := by
  have nothing : pool.state.findFirst params.agentId params.ticketId params.type
      (pool.state.now - dedupWindow) = none := by
    refine Table.latest_eq_none_iff.mpr fun row listed => Bool.and_eq_false_iff.mpr (.inr ?_)
    exact decide_eq_false (not_le.mpr (quiet row listed))
  rw [notify_eq] at current
  obtain ⟨still, next, others⟩ :=
    Pool.turn_of_call (fun _ => NotificationWorld.perform) elapse current
  obtain ⟨still', next', others'⟩ :=
    Pool.turn_of_call (fun _ => NotificationWorld.perform) elapse next
  refine ⟨still'.trans still, ?_, fun j other => (others' j other).trans (others j other)⟩
  have answered : (NotificationWorld.perform (.notificationFindFirst params.agentId params.ticketId
      params.type (pool.state.now - dedupWindow))
      (pool.step (fun _ => NotificationWorld.perform) elapse (.turn i)).state).1 = .ok none := by
    rw [still]
    exact congrArg Except.ok nothing
  exact next'.trans
    (congrArg (fun answer => some ((Program.ret answer).bind (refreshOrCreate params))) answered)

/-- Another turn: it creates a notification. -/
theorem creates (current : pool.programs[i]? = some (refreshOrCreate params none))
    (agent : (pool.state.agents.find? params.agentId).isSome)
    (ticket : (pool.state.tickets.find? params.ticketId).isSome) :
    let pool' := pool.step (fun _ => NotificationWorld.perform) elapse (.turn i)
    pool'.state.agents = pool.state.agents ∧ pool'.state.tickets = pool.state.tickets ∧
      pool'.state.countOf params.agentId = pool.state.countOf params.agentId + 1 ∧
      ∀ j ≠ i, pool'.programs[j]? = pool.programs[j]? := by
  obtain ⟨after, next, others⟩ :=
    Pool.turn_of_call (fun _ => NotificationWorld.perform) elapse current
  refine ⟨?_, ?_, ?_, others⟩
  · rw [after, perform_agents]
  · rw [after, perform_tickets]
  · rw [after, perform_create agent ticket, countOf, Table.insert_rows, List.countP_append]
    simp [countOf]

/-- An agent who is mentioned twice can get two notifications. -/
theorem not_notifiedOnce_of_count {w : NotificationWorld} {ticketId : TicketId}
    (commentId : CommentId) {mentions : List AgentId} {agent : Entry Agent}
    (member : agent ∈ w.agents.rows) (ticket : (w.tickets.find? ticketId).isSome)
    (twice : 2 ≤ mentions.count agent.id) :
    ∃ schedule, ¬ w.NotifiedOnce
      (w.afterEvent (.commentCreated ticketId commentId mentions) schedule) agent.id := by
  obtain ⟨milliseconds, quiet⟩ := exists_quiet w
  obtain ⟨i, j, earlier, entry, entry'⟩ :=
    List.duplicate_iff_exists_distinct_get.mp (List.duplicate_iff_two_le_count.mpr twice)
  have other : j.val ≠ i.val := (Fin.lt_def.mp earlier).ne'
  have present : (w.agents.find? agent.id).isSome := by rw [Table.find?_self member]; rfl
  let params : NotifyParams := ⟨agent.id, "comment.mention", ticketId, ("commentId", commentId)⟩
  let pool := (w.handling (.commentCreated ticketId commentId mentions)).step
    (fun _ => NotificationWorld.perform) elapse (.env milliseconds)
  have program : ∀ k : Fin mentions.length, agent.id = mentions.get k →
      pool.programs[k.val]? = some (notify params) := by
    intro k entry
    have listed : mentions[k.val]? = some agent.id := by
      rw [List.getElem?_eq_getElem k.isLt, entry]
      rfl
    change ((List.map _ mentions).map notify)[k.val]? = _
    rw [List.getElem?_map, List.getElem?_map, listed]
    rfl
  -- both look before either creates
  obtain ⟨still, looked, others⟩ := looks (program i entry) quiet
  obtain ⟨still', looked', others'⟩ := looks ((others j other).trans (program j entry'))
    (by rw [still]; exact quiet)
  obtain ⟨agents, tickets, created, others''⟩ :=
    creates ((others' i other.symm).trans looked) (by rw [still', still]; exact present)
      (by rw [still', still]; exact ticket)
  obtain ⟨-, -, created', -⟩ := creates ((others'' j other).trans looked')
    (by rw [agents, still', still]; exact present) (by rw [tickets, still', still]; exact ticket)
  rw [created, still', still] at created'
  have two : (w.afterEvent (.commentCreated ticketId commentId mentions) [.env milliseconds,
      .turn i, .turn i, .turn j, .turn j, .turn i, .turn j]).countOf agent.id =
        w.countOf agent.id + 1 + 1 := by
    simp only [afterEvent, Pool.exec_cons, Pool.exec_nil] at created' ⊢
    exact created'
  exact ⟨_, fun once => absurd (two.symm.trans_le once.rows) (Nat.not_succ_le_self _)⟩

/-! ## Comments -/

/-- A comment is announced with its mentions as they were given. -/
theorem addComment_eq_ok {w w' : NotificationWorld} {id : TicketId} {dto : CreateCommentDto}
    {agentId : AgentId} {comment : Entry InternalComment}
    (added : (addComment id dto agentId).run NotificationWorld.perform w = (.ok comment, w')) :
    (w'.tickets.find? id).isSome ∧
      w'.emitted = w.emitted ++ [.commentCreated id comment.id (dto.mentions.getD [])] := by
  rw [addComment, CommentsService.create, Program.run_bind, Program.run_perform] at added
  simp only [NotificationWorld.perform, NotificationWorld.commentCreate] at added
  split at added
  · next created answered =>
    split at answered
    · next present =>
      cases answered
      cases added
      exact ⟨(Bool.and_eq_true_iff.mp present).1, rfl⟩
    · cases answered
  · cases added

/-- **One mention, one notification.** Whatever the order of the steps, the event of a comment
notifies each agent once at most, if and only if the comment mentions no agent twice. -/
theorem mentions_notified_once_iff {w w' : NotificationWorld} {id : TicketId}
    {dto : CreateCommentDto} {agentId : AgentId} {comment : Entry InternalComment}
    (added : (addComment id dto agentId).run NotificationWorld.perform w = (.ok comment, w')) :
    (∀ event ∈ w'.emitted.getLast?, ∀ schedule agentId,
        w'.NotifiedOnce (w'.afterEvent event schedule) agentId) ↔
      ∀ agent ∈ w'.agents.rows, (dto.mentions.getD []).count agent.id ≤ 1 := by
  obtain ⟨ticket, emitted⟩ := addComment_eq_ok added
  rw [emitted, List.getLast?_concat]
  constructor
  · intro always agent member
    by_contra twice
    obtain ⟨schedule, many⟩ := not_notifiedOnce_of_count comment.id member ticket
      (not_le.mp twice)
    exact many (always _ rfl schedule agent.id)
  · rintro once event ⟨⟩ schedule agentId
    exact notifiedOnce_of_count w' id comment.id _ schedule once agentId

def CreateCommentDto.repeating : CreateCommentDto := ⟨"see", some [0, 0], by decide⟩

/-- The agent is mentioned twice: both calls look before either creates. -/
theorem mentioned_twice :
    let added := (addComment 0 .repeating 0).run NotificationWorld.perform .seeded
    let reached := added.2.afterEvent (.commentCreated 0 0 [0, 0])
      (oneByOne 2 2 ++ oneByOne 2 6)
    added.2.emitted.getLast? = some (.commentCreated 0 0 [0, 0]) ∧
      added.2.countOf 0 = 0 ∧ reached.countOf 0 = 2 ∧
      added.2.attemptsTo 100 = 0 ∧ reached.attemptsTo 100 = 2 := by
  decide

/-- The condition fails for this comment, and so does the property. -/
theorem repeating_not_once :
    let added := (addComment 0 .repeating 0).run NotificationWorld.perform .seeded
    ¬ ∀ event ∈ added.2.emitted.getLast?, ∀ schedule agentId,
      added.2.NotifiedOnce (added.2.afterEvent event schedule) agentId := by
  have added : (addComment 0 .repeating 0).run NotificationWorld.perform .seeded =
      (.ok ⟨0, ⟨0, 0, "see", [0, 0]⟩⟩,
        ((addComment 0 .repeating 0).run NotificationWorld.perform .seeded).2) := rfl
  exact (mentions_notified_once_iff added).not.mpr (by decide)

end SupportCrm
