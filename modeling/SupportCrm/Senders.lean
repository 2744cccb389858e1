import SupportCrm.Store

/-!
# Senders

Who wrote a message: `ClientDetectionService.classify` reads the agents and the excluded
senders, and binds a record that so far has only a user name to the first sender who
carries it. `ExcludedSendersService` edits the records; marking a ticket's sender as not a
customer also closes the ticket.
-/

set_option autoImplicit false

namespace SupportCrm

open KeyedTable AtomicProgram

inductive SenderClassification where
  | agent (agent : Entry Agent)
  | excluded
  | customer
  deriving DecidableEq, Repr

/-- The last part of `classify`: a record with only a user name is bound to the sender. -/
def classifyByUsername (telegramUserId : ℤ) (username : Option String) :
    App SenderClassification :=
  -- the empty string is falsy
  match username.filter (· ≠ "") with
  | none => return .customer
  | some username => do
      match ← perform (.excludedByUsername username) with
      | none => return .customer
      | some excludedByUsername =>
          perform (.excludedBind excludedByUsername.id telegramUserId)
          return .excluded

/-- `ClientDetectionService.classify`. -/
def classify (telegramUserId : ℤ) (username : Option String) : App SenderClassification := do
  let agent ← perform (.agentByTelegramUserId telegramUserId)
  match agent.filter (·.val.isActive) with
  | some agent => return .agent agent
  | none =>
      let excludedById ← perform (.excludedByTelegramUserId telegramUserId)
      if excludedById.any (·.val.isActive) then return .excluded
      else classifyByUsername telegramUserId username

/-- The sender is an active agent. -/
def World.isAgent (w : World) (telegramUserId : ℤ) : Bool :=
  (w.agents.findKey? telegramUserId).any (·.val.isActive)

/-- An active record excludes the identifier. -/
def World.isExcluded (w : World) (telegramUserId : ℤ) : Bool :=
  (w.excludedSenders.findKey? telegramUserId).any (·.val.isActive)

/-- The ways a classification can go, with the table of excluded senders it leaves. -/
inductive World.Classifies (w : World) (telegramUserId : ℤ) (username : Option String) :
    Except Err SenderClassification → Table ExcludedSender.key → Prop where
  | agent {agent : Entry Agent} (found : w.agents.findKey? telegramUserId = some agent)
      (active : agent.val.isActive = true) :
      Classifies w telegramUserId username (.ok (.agent agent)) w.excludedSenders
  | byId (notAgent : w.isAgent telegramUserId = false)
      (excluded : w.isExcluded telegramUserId = true) :
      Classifies w telegramUserId username (.ok .excluded) w.excludedSenders
  | customer (notAgent : w.isAgent telegramUserId = false)
      (notById : w.isExcluded telegramUserId = false)
      (unmatched : ∀ name, username = some name → name ≠ "" → w.excludedByUsername name = none) :
      Classifies w telegramUserId username (.ok .customer) w.excludedSenders
  | byUsername (notAgent : w.isAgent telegramUserId = false)
      (notById : w.isExcluded telegramUserId = false) {name : String}
      {record : Entry ExcludedSender} {excludedSenders : Table ExcludedSender.key}
      (given : username = some name) (nonempty : name ≠ "")
      (found : w.excludedByUsername name = some record)
      (binds : w.excludedSenders.modify? record.id (World.bound telegramUserId) =
        some excludedSenders) :
      Classifies w telegramUserId username (.ok .excluded) excludedSenders
  | collision (notAgent : w.isAgent telegramUserId = false)
      (notById : w.isExcluded telegramUserId = false) {name : String}
      {record : Entry ExcludedSender} (given : username = some name) (nonempty : name ≠ "")
      (found : w.excludedByUsername name = some record)
      (taken : w.excludedSenders.modify? record.id (World.bound telegramUserId) = none) :
      Classifies w telegramUserId username (.error .uniqueConstraint) w.excludedSenders

/-- Binding a record succeeds unless another record has the identifier. -/
theorem World.perform_excludedBind {w : World} {record : Entry ExcludedSender}
    (telegramUserId : ℤ) (member : record ∈ w.excludedSenders.rows) :
    w.perform (.excludedBind record.id telegramUserId) =
      match w.excludedSenders.modify? record.id (World.bound telegramUserId) with
      | some excludedSenders => (.ok (), { w with excludedSenders := excludedSenders })
      | none => (.error .uniqueConstraint, w) := by
  simp only [World.perform, World.effect, World.excludedBind, Table.find?_self member,
    Option.isNone_some, Bool.false_eq_true, if_false]
  cases w.excludedSenders.modify? record.id (World.bound telegramUserId) <;> rfl

/-- A command that only reads. -/
theorem run_query_bind {α : Type} {w : World} {c : Call} (answer : c.Resp) {k : c.Resp → App α}
    (reads : w.perform c = (.ok answer, w)) :
    (perform c >>= k).run World.perform w = (k answer).run World.perform w :=
  Program.run_perform_bind World.perform reads

theorem run_classify_of_notAgent {w : World} {telegramUserId : ℤ} {username : Option String}
    (notAgent : w.isAgent telegramUserId = false) :
    (classify telegramUserId username).run World.perform w =
      if w.isExcluded telegramUserId then (.ok .excluded, w)
      else (classifyByUsername telegramUserId username).run World.perform w := by
  have inactive : (w.agents.findKey? telegramUserId).filter (·.val.isActive) = none := by
    rw [Option.filter_eq_none_iff]
    intro agent found
    simpa [World.isAgent, found] using notAgent
  rw [classify, run_query_bind (w.agents.findKey? telegramUserId) rfl, inactive]
  change ((if w.isExcluded telegramUserId then pure .excluded
    else classifyByUsername telegramUserId username : App SenderClassification)).run World.perform w = _
  split <;> rfl

theorem run_classifyByUsername {w : World} {telegramUserId : ℤ} {name : String}
    (nonempty : name ≠ "") :
    (classifyByUsername telegramUserId (some name)).run World.perform w =
      match w.excludedByUsername name with
      | none => (.ok .customer, w)
      | some record =>
          match w.excludedSenders.modify? record.id (World.bound telegramUserId) with
          | some excludedSenders => (.ok .excluded, { w with excludedSenders := excludedSenders })
          | none => (.error .uniqueConstraint, w) := by
  rw [classifyByUsername, Option.filter_some, if_pos (by simpa using nonempty)]
  simp only
  rw [run_query_bind (w.excludedByUsername name) rfl]
  cases found : w.excludedByUsername name with
  | none => rfl
  | some record =>
      have binding := World.perform_excludedBind telegramUserId
        (List.mem_of_find?_eq_some found)
      simp only
      cases binds : w.excludedSenders.modify? record.id (World.bound telegramUserId) with
      | some excludedSenders =>
          rw [binds] at binding
          rw [Program.run_perform_bind World.perform binding]
          rfl
      | none =>
          rw [binds] at binding
          exact Program.run_perform_bind_error World.perform binding

/-- A classification goes in one of these ways. -/
theorem World.Classifies.run {w : World} {telegramUserId : ℤ} {username : Option String}
    {kind : Except Err SenderClassification} {excludedSenders : Table ExcludedSender.key}
    (classifies : w.Classifies telegramUserId username kind excludedSenders) :
    (classify telegramUserId username).run World.perform w =
      (kind, { w with excludedSenders := excludedSenders }) := by
  cases classifies with
  | agent found active =>
      rw [classify, run_query_bind (w.agents.findKey? telegramUserId) rfl, found,
        Option.filter_some, if_pos active]
      rfl
  | byId notAgent excluded => rw [run_classify_of_notAgent notAgent, if_pos excluded]
  | customer notAgent notById unmatched =>
      rw [run_classify_of_notAgent notAgent, if_neg (ne_true_of_eq_false notById)]
      cases username with
      | none => rfl
      | some name =>
          by_cases empty : name = ""
          · subst empty
            rfl
          · rw [run_classifyByUsername empty, unmatched name rfl empty]
  | byUsername notAgent notById given nonempty found binds =>
      rw [run_classify_of_notAgent notAgent, if_neg (ne_true_of_eq_false notById), given,
        run_classifyByUsername nonempty]
      simp only [found, binds]
  | collision notAgent notById given nonempty found taken =>
      rw [run_classify_of_notAgent notAgent, if_neg (ne_true_of_eq_false notById), given,
        run_classifyByUsername nonempty]
      simp only [found, taken]

/-- A classification reads only the agents and the excluded senders. -/
theorem World.Classifies.congr {w w' : World} {telegramUserId : ℤ} {username : Option String}
    {kind : Except Err SenderClassification} {excludedSenders : Table ExcludedSender.key}
    (agents : w'.agents = w.agents) (senders : w'.excludedSenders = w.excludedSenders)
    (classifies : w.Classifies telegramUserId username kind excludedSenders) :
    w'.Classifies telegramUserId username kind excludedSenders := by
  have isAgent : w'.isAgent = w.isAgent := by
    funext id
    simp only [World.isAgent, agents]
  have isExcluded : w'.isExcluded = w.isExcluded := by
    funext id
    simp only [World.isExcluded, senders]
  have byName : w'.excludedByUsername = w.excludedByUsername := by
    funext name
    simp only [World.excludedByUsername, senders]
  cases classifies with
  | agent found active => exact senders ▸ .agent (agents ▸ found) active
  | byId notAgent excluded => exact senders ▸ .byId (isAgent ▸ notAgent) (isExcluded ▸ excluded)
  | customer notAgent notById unmatched =>
      exact senders ▸ .customer (isAgent ▸ notAgent) (isExcluded ▸ notById) (byName ▸ unmatched)
  | byUsername notAgent notById given nonempty found binds =>
      exact .byUsername (isAgent ▸ notAgent) (isExcluded ▸ notById) given nonempty
        (byName ▸ found) (senders ▸ binds)
  | collision notAgent notById given nonempty found taken =>
      exact senders ▸ .collision (isAgent ▸ notAgent) (isExcluded ▸ notById) given nonempty
        (byName ▸ found) (senders ▸ taken)

/-- The parameters of `ExcludedSendersService.create`, with the identifier as `BigInt` reads
it; an empty string counts as absent. -/
structure CreateExcludedSender where
  telegramUserId : Option ℤ
  telegramUsername : Option String
  name : Option String
  note : Option String
  addedByAgentId : AgentId
  deriving DecidableEq, Repr

/-- `replace(/^@/, '')`. -/
def withoutAt (username : String) : String :=
  match username.toList with
  | '@' :: rest => String.ofList rest
  | _ => username

/-- `ExcludedSendersService.create`. -/
def createExcludedSender (params : CreateExcludedSender) : App (Entry ExcludedSender) :=
  if params.telegramUserId.isNone && (params.telegramUsername.filter (· ≠ "")).isNone then
    Program.throw (.badRequest "Provide telegram_user_id or telegram_username")
  else
    perform (.excludedCreate
      { telegramUserId := params.telegramUserId,
        telegramUsername := params.telegramUsername.map withoutAt,
        name := params.name,
        note := params.note,
        addedByAgentId := some params.addedByAgentId })

/-- `ExcludedSendersService.update`. -/
def updateExcludedSender (id : ExcludedSenderId) (name note : Option String)
    (isActive : Option Bool) : App Unit := do
  match ← perform (.excludedById id) with
  | none => Program.throw (.notFound "Excluded sender not found")
  | some _ => perform (.excludedUpdate id name note isActive)

/-- `ExcludedSendersService.remove`. -/
def removeExcludedSender (id : ExcludedSenderId) : App Unit := do
  match ← perform (.excludedById id) with
  | none => Program.throw (.notFound "Excluded sender not found")
  | some _ => perform (.excludedDelete id)

/-- The record that marking a ticket's sender creates. -/
def autoAdded (customer : Customer) (byAgentId : AgentId) : ExcludedSender where
  telegramUserId := some customer.telegramUserId
  telegramUsername := customer.username
  name := customer.displayName
  note := some "Auto-added from \"Mark as not customer\""
  addedByAgentId := some byAgentId

/-- `ExcludedSendersService.markTicketSenderAsNotCustomer`. -/
def markTicketSenderAsNotCustomer (ticketId : TicketId) (byAgentId : AgentId) :
    App (Entry ExcludedSender) := do
  match ← perform (.ticketWithCustomer ticketId) with
  | none => Program.throw (.notFound "Ticket not found")
  | some (_, customer) =>
      let excluded ← perform
        (.excludedUpsert customer.val.telegramUserId (autoAdded customer.val byAgentId))
      let now ← perform .newDate
      perform (.closeTicket ticketId now byAgentId)
      return excluded

/-- `AgentsController.update`, as far as the activity of the agent. -/
def updateAgent (id : AgentId) (isActive : Option Bool) : App Unit :=
  perform (.agentUpdate id isActive)

end SupportCrm
