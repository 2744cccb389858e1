import Mathlib.Data.List.Sort
import SupportCrm.Store

/-!
# Threads

How an incoming message finds its thread: the chat and the customer are found or created,
`ThreadGroupingService.decide` applies the three grouping rules, and for a new thread
`RoutingService.decideAssignment` picks a team and an agent.
-/

set_option autoImplicit false

namespace SupportCrm

open KeyedTable AtomicProgram

/-! ## Chats and customers -/

/-- `ChatsService.findOrCreateByTelegramId`. -/
def findOrCreateChat (telegramChatId : ℤ) (title : String) : App (Entry Chat) := do
  match ← perform (.chatByTelegramChatId telegramChatId) with
  | some existing => return existing
  | none => perform (.chatCreate telegramChatId title)

/-- `CustomersService.findOrCreateByTelegramId`. A stored `null` differs from an absent user
name, which is `undefined`. -/
def findOrCreateCustomer (telegramUserId : ℤ) (username : Option String)
    (displayName : String) : App (Entry Customer) := do
  match ← perform (.customerByTelegramUserId telegramUserId) with
  | some existing =>
      if existing.val.username.isNone || existing.val.username ≠ username ||
          existing.val.displayName ≠ some displayName then
        perform (.customerUpdate existing.id username displayName)
      else return existing
  | none => perform (.customerCreate telegramUserId username displayName)

/-- The customer of a sender after `findOrCreateCustomer`, and the table it leaves: the
profile is brought up to date or a customer is created. -/
inductive CustomerFor (before : Table Customer.key) (telegramUserId : ℤ) (username : Option String)
    (displayName : String) : Entry Customer → Table Customer.key → Prop where
  | found {row : Entry Customer} (found : before.findKey? telegramUserId = some row) :
      CustomerFor before telegramUserId username displayName
        ⟨row.id, World.profile username displayName row.val⟩
        (before.update row.id (World.profile username displayName)
          (World.profile_key username displayName))
  | created (absent : before.findKey? telegramUserId = none)
      (free : before.Free ⟨telegramUserId, username, some displayName⟩) :
      CustomerFor before telegramUserId username displayName
        ⟨before.next, ⟨telegramUserId, username, some displayName⟩⟩
        (before.insert _ free)

namespace CustomerFor

variable {before : Table Customer.key} {telegramUserId : ℤ} {username : Option String}
  {displayName : String}
variable {customer : Entry Customer} {customers : Table Customer.key}

theorem findKey? (done : CustomerFor before telegramUserId username displayName customer customers) :
    customers.findKey? telegramUserId = some customer := by
  cases done with
  | found found =>
      next row =>
      obtain ⟨member, own⟩ := Table.findKey?_eq_some_iff.mp found
      refine Table.findKey?_eq_some_iff.mpr ⟨List.mem_map.mpr ⟨row, member, ?_⟩, own⟩
      exact row.change_self (f := World.profile username displayName)
  | created absent free => exact Table.findKey?_eq_some_iff.mpr ⟨by simp, rfl⟩

theorem find? (done : CustomerFor before telegramUserId username displayName customer customers) :
    customers.find? customer.id = some customer :=
  Table.find?_self (Table.findKey?_eq_some_iff.mp done.findKey?).1

theorem isSome_find? (done : CustomerFor before telegramUserId username displayName customer customers)
    {id : CustomerId} (present : (before.find? id).isSome) : (customers.find? id).isSome := by
  cases done with
  | found found =>
      exact (Table.isSome_find?_update (World.profile_key username displayName) id).trans present
  | created absent free => exact Table.isSome_find?_insert free present

theorem unique {customer' : Entry Customer} {customers' : Table Customer.key}
    (done : CustomerFor before telegramUserId username displayName customer customers)
    (done' : CustomerFor before telegramUserId username displayName customer' customers') :
    customer' = customer ∧ customers' = customers := by
  cases done with
  | found found =>
      cases done' with
      | found found' =>
          obtain rfl := Option.some.inj (found'.symm.trans found)
          exact ⟨rfl, rfl⟩
      | created absent _ => cases absent.symm.trans found
  | created absent _ =>
      cases done' with
      | found found' => cases absent.symm.trans found'
      | created _ _ => exact ⟨rfl, rfl⟩

/-- The profile of the customer is up to date. -/
theorem profile (done : CustomerFor before telegramUserId username displayName customer customers) :
    World.profile username displayName customer.val = customer.val := by
  cases done with
  | found _ => cases username <;> rfl
  | created _ _ => cases username <;> rfl

/-- A customer whose profile is up to date is left as it is. -/
theorem same {existing : Entry Customer} (found : before.findKey? telegramUserId = some existing)
    (same : ¬ (existing.val.username.isNone || existing.val.username ≠ username ||
      existing.val.displayName ≠ some displayName) = true) :
    CustomerFor before telegramUserId username displayName existing before := by
  have kept : World.profile username displayName existing.val = existing.val := by
    obtain ⟨id, ⟨userId, name, display⟩⟩ := existing
    simp only [Bool.or_eq_true, Option.isNone_iff_eq_none, decide_eq_true_eq, not_or,
      not_not] at same
    obtain ⟨⟨named, rfl⟩, rfl⟩ := same
    obtain ⟨name, rfl⟩ := Option.ne_none_iff_exists'.mp named
    rfl
  have unchanged : before.update existing.id (World.profile username displayName)
      (World.profile_key username displayName) = before :=
    Table.update_of_fixed _ fun row listed sameId => by
      rw [Table.eq_of_id_eq listed (Table.findKey?_eq_some_iff.mp found).1 sameId, kept]
  have done : CustomerFor before telegramUserId username displayName _ _ := .found found
  rwa [kept, unchanged] at done

/-- Asked again, the customer is found, with nothing to bring up to date. -/
theorem again {customer' : Entry Customer} {customers' : Table Customer.key}
    (done : CustomerFor before telegramUserId username displayName customer customers)
    (done' : CustomerFor customers telegramUserId username displayName customer' customers') :
    customer' = customer ∧ customers' = customers := by
  obtain ⟨member, -⟩ := Table.findKey?_eq_some_iff.mp done.findKey?
  have kept : customers.update customer.id (World.profile username displayName)
      (World.profile_key username displayName) = customers :=
    Table.update_of_fixed _ fun row listed sameId => by
      rw [Table.eq_of_id_eq listed member sameId, done.profile]
  have found : CustomerFor customers telegramUserId username displayName _ _ :=
    .found done.findKey?
  rw [done.profile, kept] at found
  exact found.unique done'

end CustomerFor

/-! ## Routing -/

structure RoutingDecision where
  teamId : Option TeamId
  assigneeId : Option AgentId
  deriving DecidableEq, Repr

/-- The first of the entries in ascending order of their values. -/
def firstOf {τ : Type} [LinearOrder τ] (entries : List (AgentId × τ)) : Option AgentId :=
  (entries.insertionSort fun a b => a.2 ≤ b.2).head?.map Prod.fst

/-- `RoutingService.decideAssignment`. -/
def decideAssignment (chat : Chat) : App RoutingDecision :=
  match chat.defaultTeamId with
  | none => return ⟨chat.defaultTeamId, chat.defaultAssigneeId⟩
  | some teamId =>
      if chat.routingStrategy = .manual then
        return ⟨chat.defaultTeamId, chat.defaultAssigneeId⟩
      else do
        let memberIds ← perform (.activeMembers teamId)
        if memberIds = [] then return ⟨chat.defaultTeamId, chat.defaultAssigneeId⟩
        else if chat.routingStrategy = .least_busy then
          let openCounts ← perform (.openCounts memberIds)
          let countByAgent := memberIds.map fun id => (id, (openCounts.lookup id).getD 0)
          return ⟨chat.defaultTeamId, firstOf countByAgent⟩
        else
          let lastAssigned ← perform (.lastAssigned memberIds)
          let lastAssignedAt := memberIds.map fun id =>
            (id, (lastAssigned.lookup id).join.getD 0)
          return ⟨chat.defaultTeamId, firstOf lastAssignedAt⟩

/-- What `decideAssignment` answers when nothing else happens. -/
def World.assignment (w : World) (chat : Chat) : RoutingDecision :=
  match chat.defaultTeamId with
  | none => ⟨chat.defaultTeamId, chat.defaultAssigneeId⟩
  | some teamId =>
      if chat.routingStrategy = .manual ∨ w.activeMembers teamId = [] then
        ⟨chat.defaultTeamId, chat.defaultAssigneeId⟩
      else if chat.routingStrategy = .least_busy then
        ⟨chat.defaultTeamId, firstOf ((w.activeMembers teamId).map fun id =>
          (id, ((w.openCounts (w.activeMembers teamId)).lookup id).getD 0))⟩
      else
        ⟨chat.defaultTeamId, firstOf ((w.activeMembers teamId).map fun id =>
          (id, ((w.lastAssigned (w.activeMembers teamId)).lookup id).join.getD 0))⟩

theorem mem_of_firstOf {τ : Type} [LinearOrder τ] {ids : List AgentId} {value : AgentId → τ}
    {agentId : AgentId} (first : firstOf (ids.map fun id => (id, value id)) = some agentId) :
    agentId ∈ ids := by
  obtain ⟨entry, head, rfl⟩ := Option.map_eq_some_iff.mp first
  have member := List.mem_of_head? head
  rw [List.mem_insertionSort] at member
  obtain ⟨id, listed, rfl⟩ := List.mem_map.mp member
  exact listed

/-- Someone comes first, unless there is nobody. -/
theorem exists_firstOf {τ : Type} [LinearOrder τ] {ids : List AgentId} (nonempty : ids ≠ [])
    (value : AgentId → τ) : ∃ agentId, firstOf (ids.map fun id => (id, value id)) = some agentId := by
  cases first : firstOf (ids.map fun id => (id, value id)) with
  | some agentId => exact ⟨agentId, rfl⟩
  | none =>
      have nothing := List.head?_eq_none_iff.mp (Option.map_eq_none_iff.mp first)
      have length := congrArg List.length nothing
      rw [List.length_insertionSort, List.length_map] at length
      exact absurd (List.length_eq_zero_iff.mp length) nonempty

/-- No value lies under that of the first. -/
theorem firstOf_le {τ : Type} [LinearOrder τ] {ids : List AgentId} {value : AgentId → τ}
    {agentId other : AgentId} (first : firstOf (ids.map fun id => (id, value id)) = some agentId)
    (member : other ∈ ids) : value agentId ≤ value other := by
  obtain ⟨entry, head, rfl⟩ := Option.map_eq_some_iff.mp first
  have sorted := List.pairwise_insertionSort (fun a b : AgentId × τ => a.2 ≤ b.2)
    (ids.map fun id => (id, value id))
  obtain ⟨rest, split⟩ := List.head?_eq_some_iff.mp head
  have own : value entry.1 = entry.2 := by
    have listed := List.mem_of_head? head
    rw [List.mem_insertionSort] at listed
    obtain ⟨id, -, rfl⟩ := List.mem_map.mp listed
    rfl
  have listed : (other, value other) ∈ (ids.map fun id => (id, value id)).insertionSort
      fun a b => a.2 ≤ b.2 :=
    (List.mem_insertionSort _).mpr (List.mem_map.mpr ⟨other, member, rfl⟩)
  rw [split] at sorted listed
  rw [own]
  rcases List.mem_cons.mp listed with same | later
  · rw [← same]
  · exact (List.pairwise_cons.mp sorted).1 _ later

theorem World.hasAgent_of_activeMember {w : World} {teamId : TeamId} {agentId : AgentId}
    (member : agentId ∈ w.activeMembers teamId) : w.hasAgent (some agentId) := by
  obtain ⟨row, listed, rfl⟩ := List.mem_map.mp member
  have active := (List.mem_filter.mp listed).2
  rw [Bool.and_eq_true] at active
  cases found : w.agents.find? row.val.agentId with
  | none => simp [found] at active
  | some agent => simp [World.hasAgent, found]

/-- A decided team is the default one; a decided agent exists. -/
theorem World.assignment_exists {w : World} {chat : Chat} (team : w.hasTeam chat.defaultTeamId)
    (assignee : w.hasAgent chat.defaultAssigneeId) :
    w.hasTeam (w.assignment chat).teamId ∧ w.hasAgent (w.assignment chat).assigneeId := by
  have member : ∀ {τ : Type} [LinearOrder τ] {teamId : TeamId} {value : AgentId → τ},
      w.hasAgent (firstOf ((w.activeMembers teamId).map fun id => (id, value id))) := by
    intro τ _ teamId value
    cases first : firstOf ((w.activeMembers teamId).map fun id => (id, value id)) with
    | none => rfl
    | some agentId => exact World.hasAgent_of_activeMember (mem_of_firstOf first)
  unfold World.assignment
  split
  · exact ⟨team, assignee⟩
  · next teamId default =>
    rw [default] at team ⊢
    split
    · exact ⟨team, assignee⟩
    · split
      · exact ⟨team, member⟩
      · exact ⟨team, member⟩

/-! ## Thread grouping -/

structure ThreadGroupingInput where
  chatId : ChatId
  customerId : CustomerId
  replyToTgMessageId : Option ℤ
  idleWindowMinutes : ℤ
  now : Time
  deriving DecidableEq, Repr

/-- The grouping rules that attach a message to a thread. -/
inductive MatchedRule where
  | rule1
  | rule2
  deriving DecidableEq, Repr

inductive ThreadGroupingDecision where
  | attach (ticketId : TicketId) (revive : Bool) (matchedRule : MatchedRule)
  | createNew
  deriving DecidableEq, Repr

theorem ThreadGroupingDecision.attach_ne_createNew {ticketId : TicketId} {revive : Bool}
    {matchedRule : MatchedRule} : attach ticketId revive matchedRule ≠ createNew := by
  rintro ⟨⟩

/-- Rules 2 and 3 of `ThreadGroupingService.decide`. -/
def decideByActivity (input : ThreadGroupingInput) : App ThreadGroupingDecision := do
  match ← perform (.findMostRecentActiveTicket input.chatId input.customerId) with
  | none => return .createNew
  | some active =>
      -- the minutes since the last activity lie under the idle window
      if active.status.reopenable &&
          input.now - active.lastActivityAt < input.idleWindowMinutes * 60000 then
        return .attach active.ticketId (active.status ≠ .open) .rule2
      else return .createNew

/-- `ThreadGroupingService.decide`. -/
def decide (input : ThreadGroupingInput) : App ThreadGroupingDecision :=
  match input.replyToTgMessageId with
  | none => decideByActivity input
  | some replyToTgMessageId => do
      match ← perform (.findTicketByAnchorMessage input.chatId replyToTgMessageId) with
      | none => decideByActivity input
      | some anchor =>
          if anchor.status.terminal then decideByActivity input
          else return .attach anchor.ticketId (anchor.status ≠ .open) .rule1

/-- The reply names a message of a thread that is neither closed nor archived. -/
def World.AnchoredBy (w : World) (input : ThreadGroupingInput) (anchor : TicketAnchorLookup) :
    Prop :=
  ∃ replyToTgMessageId, input.replyToTgMessageId = some replyToTgMessageId ∧
    w.findTicketByAnchorMessage input.chatId replyToTgMessageId = some anchor ∧
    anchor.status.terminal = false

/-- The latest active thread of the customer in the chat saw activity within the idle
window. -/
def World.RecentlyActive (w : World) (input : ThreadGroupingInput)
    (active : ActiveTicketForCustomer) : Prop :=
  w.findMostRecentActiveTicket input.chatId input.customerId = some active ∧
    input.now - active.lastActivityAt < input.idleWindowMinutes * 60000

/-- The three grouping rules, in their order. -/
inductive World.Decides (w : World) (input : ThreadGroupingInput) :
    ThreadGroupingDecision → Prop where
  | rule1 {anchor : TicketAnchorLookup} (anchored : w.AnchoredBy input anchor) :
      Decides w input (.attach anchor.ticketId (anchor.status ≠ .open) .rule1)
  | rule2 (unanchored : ∀ anchor, ¬ w.AnchoredBy input anchor) {active : ActiveTicketForCustomer}
      (recent : w.RecentlyActive input active) :
      Decides w input (.attach active.ticketId (active.status ≠ .open) .rule2)
  | rule3 (unanchored : ∀ anchor, ¬ w.AnchoredBy input anchor)
      (idle : ∀ active, ¬ w.RecentlyActive input active) : Decides w input .createNew

theorem World.AnchoredBy.unique {w : World} {input : ThreadGroupingInput}
    {anchor anchor' : TicketAnchorLookup} (anchored : w.AnchoredBy input anchor)
    (anchored' : w.AnchoredBy input anchor') : anchor = anchor' := by
  obtain ⟨reply, given, owner, -⟩ := anchored
  obtain ⟨reply', given', owner', -⟩ := anchored'
  obtain rfl := Option.some.inj (given.symm.trans given')
  exact Option.some.inj (owner.symm.trans owner')

/-- The rules decide one thing only. -/
theorem World.Decides.unique {w : World} {input : ThreadGroupingInput}
    {decision decision' : ThreadGroupingDecision} (decides : w.Decides input decision)
    (decides' : w.Decides input decision') : decision = decision' := by
  cases decides with
  | rule1 anchored =>
      cases decides' with
      | rule1 anchored' => rw [anchored.unique anchored']
      | rule2 unanchored _ => exact absurd anchored (unanchored _)
      | rule3 unanchored _ => exact absurd anchored (unanchored _)
  | rule2 unanchored recent =>
      cases decides' with
      | rule1 anchored' => exact absurd anchored' (unanchored _)
      | rule2 _ recent' => rw [Option.some.inj (recent.1.symm.trans recent'.1)]
      | rule3 _ idle => exact absurd recent (idle _)
  | rule3 unanchored idle =>
      cases decides' with
      | rule1 anchored' => exact absurd anchored' (unanchored _)
      | rule2 _ recent' => exact absurd recent' (idle _)
      | rule3 _ _ => rfl

/-- A thread to which the rules attach a message exists in the chat of the message and is
neither closed nor archived; it is revived when it is not open. -/
theorem World.Decides.attached {w : World} {input : ThreadGroupingInput} {ticketId : TicketId}
    {revive : Bool} {rule : MatchedRule} (decides : w.Decides input (.attach ticketId revive rule)) :
    ∃ ticket, w.tickets.find? ticketId = some ticket ∧ ticket.val.chatId = input.chatId ∧
      ticket.val.status.terminal = false ∧ (revive = true ↔ ticket.val.status ≠ .open) := by
  cases decides with
  | rule1 anchored =>
      obtain ⟨reply, -, owner, live⟩ := anchored
      obtain ⟨message, latest, ticketFound⟩ := Option.bind_eq_some_iff.mp owner
      obtain ⟨ticket, found, rfl⟩ := Option.map_eq_some_iff.mp ticketFound
      have meets := (Table.mem_of_latest latest).2
      simp only [World.inChat, found, Option.any_some, Bool.and_eq_true, decide_eq_true_eq] at meets
      refine ⟨ticket, Table.id_of_find? found ▸ found, meets.2, live, by simp⟩
  | rule2 _ recent =>
      obtain ⟨ticket, latest, rfl⟩ := Option.map_eq_some_iff.mp recent.1
      obtain ⟨member, meets⟩ := Table.mem_of_latest latest
      simp only [World.activeTicket, Bool.and_eq_true, decide_eq_true_eq, Bool.not_eq_true'] at meets
      exact ⟨ticket, Table.find?_self member, meets.1.1, meets.2, by simp⟩

/-- The rules read only the tickets and the messages. -/
theorem World.Decides.congr {w w' : World} (tickets : w'.tickets = w.tickets)
    (messages : w'.messages = w.messages) {input : ThreadGroupingInput}
    {decision : ThreadGroupingDecision} (decides : w.Decides input decision) :
    w'.Decides input decision := by
  have anchor : w'.findTicketByAnchorMessage = w.findTicketByAnchorMessage := by
    funext chatId tgMessageId
    simp only [findTicketByAnchorMessage, World.inChat, tickets, messages]
  have active : w'.findMostRecentActiveTicket = w.findMostRecentActiveTicket := by
    funext chatId customerId
    simp only [findMostRecentActiveTicket, tickets]
  have anchored : w'.AnchoredBy input = w.AnchoredBy input := by
    funext anchor'
    simp only [AnchoredBy, anchor]
  have recently : w'.RecentlyActive input = w.RecentlyActive input := by
    funext active'
    simp only [RecentlyActive, active]
  cases decides with
  | rule1 holds => exact .rule1 (anchored ▸ holds)
  | rule2 unanchored recent => exact .rule2 (anchored ▸ unanchored) (recently ▸ recent)
  | rule3 unanchored idle => exact .rule3 (anchored ▸ unanchored) (recently ▸ idle)

end SupportCrm
