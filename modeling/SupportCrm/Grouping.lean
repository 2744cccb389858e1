import SupportCrm.Commands

/-!
# The grouping rules over the tables

`PrismaThreadGroupingRepository` asks for the latest message with a Telegram identifier and
for the ticket that was active last. When several rows share the greatest key the database
may answer any of them, so a `ThreadGroupingRepository` is a choice of answers that the tables
of the world allow (`World.repository` is the one that the commands of the model make).

`decide_by_rules`: over every repository the decision of `ThreadGroupingService` follows the
three rules, each of them exactly where those before it do not apply.
-/

set_option autoImplicit false

namespace SupportCrm

open KeyedTable AtomicProgram

/-- The messages with a Telegram identifier in a chat. -/
def World.anchorMessage (w : World) (chatId : ChatId) (tgMessageId : ℤ) (row : Entry Message) :
    Bool :=
  row.val.tgMessageId = some tgMessageId && w.inChat chatId row.val.ticketId

/-- The rows that `findFirst` picks in the two queries of `PrismaThreadGroupingRepository`. -/
structure ThreadGroupingRepository (w : World) where
  message : ChatId → ℤ → Option (Entry Message)
  ticket : ChatId → CustomerId → Option (Entry Ticket)
  message_latest : ∀ chatId tgMessageId, w.messages.AnswersLatest
    (w.anchorMessage chatId tgMessageId) Message.createdAt (message chatId tgMessageId)
  ticket_latest : ∀ chatId customerId, w.tickets.AnswersLatest
    (World.activeTicket chatId customerId) Ticket.updatedAt (ticket chatId customerId)

/-- The rows that the commands pick. -/
def World.repository (w : World) : ThreadGroupingRepository w where
  message chatId tgMessageId :=
    w.messages.latest (w.anchorMessage chatId tgMessageId) Message.createdAt
  ticket chatId customerId := w.tickets.latest (activeTicket chatId customerId) Ticket.updatedAt
  message_latest _ _ := Table.latest_answers _ _ _
  ticket_latest _ _ := Table.latest_answers _ _ _

namespace ThreadGroupingRepository

variable {w : World} (repository : ThreadGroupingRepository w)

def findTicketByAnchorMessage (chatId : ChatId) (tgMessageId : ℤ) : Option TicketAnchorLookup :=
  (repository.message chatId tgMessageId).bind fun message =>
    (w.tickets.find? message.val.ticketId).map fun ticket =>
      { ticketId := ticket.id, status := ticket.val.status }

def findMostRecentActiveTicket (chatId : ChatId) (customerId : CustomerId) :
    Option ActiveTicketForCustomer :=
  (repository.ticket chatId customerId).map fun ticket =>
    { ticketId := ticket.id, status := ticket.val.status, lastActivityAt := ticket.val.updatedAt }

/-- The commands, with the answers of the repository to its two queries. -/
def perform : Handler Call Call.Resp Err World
  | .findTicketByAnchorMessage chatId tgMessageId, s =>
      (.ok (repository.findTicketByAnchorMessage chatId tgMessageId), s)
  | .findMostRecentActiveTicket chatId customerId, s =>
      (.ok (repository.findMostRecentActiveTicket chatId customerId), s)
  | c, s => World.perform c s

/-- `decide` runs with the commands of the model as it does over `World.repository`. -/
theorem run_repository (w : World) (input : ThreadGroupingInput) :
    (decide input).run World.perform w = (decide input).run w.repository.perform w := by
  have agrees (c : Call) : w.perform c = w.repository.perform c w := by cases c <;> rfl
  exact ((decide_always (fun _ reads => reads) input).imp fun c reads =>
    ⟨agrees c, w.perform_of_reads reads⟩).run_congr _

/-- Rule 1: the latest message with the identifier of the reply belongs to the ticket, which
is neither closed nor archived. -/
def Replied (input : ThreadGroupingInput) (ticketId : TicketId) (revive : Bool) : Prop :=
  ∃ replyToTgMessageId message ticket, input.replyToTgMessageId = some replyToTgMessageId ∧
    repository.message input.chatId replyToTgMessageId = some message ∧
    w.messages.IsLatest (w.anchorMessage input.chatId replyToTgMessageId) Message.createdAt
      message ∧
    w.tickets.find? message.val.ticketId = some ticket ∧ ticket.id = ticketId ∧
    ticket.val.status.terminal = false ∧ (revive = true ↔ ticket.val.status ≠ .open)

/-- Rule 2: the ticket is the one of the customer in the chat that was active last among
those neither closed nor archived, and that was within the idle window. -/
def LastActive (input : ThreadGroupingInput) (ticketId : TicketId) (revive : Bool) : Prop :=
  ∃ ticket, repository.ticket input.chatId input.customerId = some ticket ∧
    w.tickets.IsLatest (World.activeTicket input.chatId input.customerId) Ticket.updatedAt ticket ∧
    ticket.id = ticketId ∧ input.now - ticket.val.updatedAt < input.idleWindowMinutes * 60000 ∧
    (revive = true ↔ ticket.val.status ≠ .open)

/-- Each rule decides exactly where it applies and those before it do not. Rule 3 applies when
no ticket of the customer in the chat that is neither closed nor archived was active within the
window. -/
structure Follows (input : ThreadGroupingInput) (decision : ThreadGroupingDecision) : Prop where
  rule1 : ∀ ticketId revive, decision = .attach ticketId revive .rule1 ↔
    repository.Replied input ticketId revive
  rule2 : ∀ ticketId revive, decision = .attach ticketId revive .rule2 ↔
    (∀ anchor revive', ¬ repository.Replied input anchor revive') ∧
      repository.LastActive input ticketId revive
  rule3 : decision = .createNew ↔ (∀ anchor revive', ¬ repository.Replied input anchor revive') ∧
    ∀ ticket ∈ w.tickets.rows, World.activeTicket input.chatId input.customerId ticket = true →
      ¬ input.now - ticket.val.updatedAt < input.idleWindowMinutes * 60000

/-- Where rule 1 does not apply, the other two decide. -/
theorem run_decideByActivity {input : ThreadGroupingInput}
    (unreplied : ∀ ticketId revive, ¬ repository.Replied input ticketId revive) :
    ∃ decision, (decideByActivity input).run repository.perform w = (.ok decision, w) ∧
      repository.Follows input decision := by
  have answers := repository.ticket_latest input.chatId input.customerId
  have reads : repository.perform (.findMostRecentActiveTicket input.chatId input.customerId) w =
      (.ok (repository.findMostRecentActiveTicket input.chatId input.customerId), w) := rfl
  rw [decideByActivity, Program.run_perform_bind repository.perform reads]
  cases picked : repository.ticket input.chatId input.customerId with
  | none =>
      rw [picked] at answers
      rw [findMostRecentActiveTicket, picked]
      cases answers with
      | none absent =>
          refine ⟨.createNew, rfl, ?_, ?_, iff_of_true rfl ⟨unreplied, ?_⟩⟩
          · exact fun ticketId revive => iff_of_false nofun (unreplied ticketId revive)
          · refine fun ticketId revive => iff_of_false nofun ?_
            rintro ⟨-, ticket, found, -⟩
            cases picked.symm.trans found
          · intro ticket member active
            cases (absent ticket member).symm.trans active
  | some ticket =>
      rw [picked] at answers
      rw [findMostRecentActiveTicket, picked]
      cases answers with
      | some latest =>
          have live : ticket.val.status.terminal = false := by
            have active := latest.meets
            simp only [World.activeTicket, Bool.and_eq_true, Bool.not_eq_true'] at active
            exact active.2
          simp only [Option.map_some, TicketStatus.reopenable_eq_not_terminal, live, Bool.not_false,
            Bool.true_and, decide_eq_true_eq]
          split
          · next recent =>
            refine ⟨_, rfl, ?_, ?_, iff_of_false (by simp) ?_⟩
            · exact fun ticketId revive => iff_of_false (by simp) (unreplied ticketId revive)
            · intro ticketId revive
              rw [and_iff_right unreplied]
              constructor
              · intro same
                cases same
                exact ⟨ticket, picked, latest, rfl, recent, decide_eq_true_iff⟩
              · rintro ⟨ticket', found, -, rfl, -, revived⟩
                cases picked.symm.trans found
                rw [Bool.eq_iff_iff.mpr (revived.trans decide_eq_true_iff.symm)]
            · exact fun new => new.2 ticket latest.member latest.meets recent
          · next idle =>
            refine ⟨.createNew, rfl, ?_, ?_, iff_of_true rfl ⟨unreplied, ?_⟩⟩
            · exact fun ticketId revive => iff_of_false nofun (unreplied ticketId revive)
            · refine fun ticketId revive => iff_of_false nofun ?_
              rintro ⟨-, ticket', found, -, -, recent, -⟩
              cases picked.symm.trans found
              exact idle recent
            · -- a ticket active within the window would be later than the latest one
              intro other member active recent
              have notLater := latest.greatest other member active
              exact idle ((Int.sub_le_sub_left notLater input.now).trans_lt recent)

/-- `ThreadGroupingService.decide` follows the three rules, whichever rows of equal rank the
database picks. -/
theorem decide_by_rules (input : ThreadGroupingInput) :
    ∃ decision, (decide input).run repository.perform w = (.ok decision, w) ∧
      repository.Follows input decision := by
  cases given : input.replyToTgMessageId with
  | none =>
      rw [decide, given]
      refine repository.run_decideByActivity ?_
      rintro ticketId revive ⟨reply, message, ticket, given', -⟩
      cases given.symm.trans given'
  | some reply =>
      rw [decide, given]
      simp only
      have reads : repository.perform (.findTicketByAnchorMessage input.chatId reply) w =
          (.ok (repository.findTicketByAnchorMessage input.chatId reply), w) := rfl
      rw [Program.run_perform_bind repository.perform reads]
      have answers := repository.message_latest input.chatId reply
      cases picked : repository.message input.chatId reply with
      | none =>
          rw [findTicketByAnchorMessage, picked]
          refine repository.run_decideByActivity ?_
          rintro ticketId revive ⟨reply', message, ticket, given', found, -⟩
          cases given.symm.trans given'
          cases picked.symm.trans found
      | some message =>
          rw [picked] at answers
          cases answers with
          | some latest =>
              have inChat := latest.meets
              rw [World.anchorMessage, Bool.and_eq_true] at inChat
              obtain ⟨ticket, found, -⟩ := (Option.any_eq_true _ _).mp inChat.2
              have owner : repository.findTicketByAnchorMessage input.chatId reply =
                  some ⟨ticket.id, ticket.val.status⟩ := by
                rw [findTicketByAnchorMessage, picked, Option.bind_some, found, Option.map_some]
              rw [owner]
              simp only
              split
              · next terminal =>
                refine repository.run_decideByActivity ?_
                rintro ticketId revive
                  ⟨reply', message', ticket', given', picked', -, found', -, live, -⟩
                cases given.symm.trans given'
                cases picked.symm.trans picked'
                cases found.symm.trans found'
                cases live.symm.trans terminal
              · next live =>
                rw [Bool.not_eq_true] at live
                have replied : repository.Replied input ticket.id
                    (Decidable.decide (ticket.val.status ≠ .open)) :=
                  ⟨reply, message, ticket, given, picked, latest, found, rfl, live,
                    decide_eq_true_iff⟩
                refine ⟨_, rfl, ?_, ?_, iff_of_false (by simp) fun new => new.1 _ _ replied⟩
                · intro ticketId revive
                  constructor
                  · intro same
                    cases same
                    exact replied
                  · rintro ⟨reply', message', ticket', given', picked', -, found', rfl, -, revived⟩
                    cases given.symm.trans given'
                    cases picked.symm.trans picked'
                    cases found.symm.trans found'
                    rw [Bool.eq_iff_iff.mpr (revived.trans decide_eq_true_iff.symm)]
                · exact fun ticketId revive =>
                    iff_of_false (by simp) fun second => second.1 _ _ replied

end ThreadGroupingRepository

/-! A customer with two tickets in a chat, the later one pending. -/

def World.twoTickets : World :=
  { World.initial 0 (fun n => 1000 + n) with
    chats := Table.empty.insert { telegramChatId := -9, title := "returns" } (by decide)
    customers := Table.empty.insert ⟨42, none, some "Olena"⟩ (by decide)
    tickets := (Table.empty.insert
      (NewTicket.row ⟨0, 0, 11, none, none, none⟩ 30000) Ticket.free).insert
        { NewTicket.row ⟨0, 0, 12, none, none, none⟩ 60000 with status := .pending } Ticket.free }

/-- A message that is no reply goes to the later ticket and revives it. -/
theorem decide_by_rules_two_tickets :
    ∃ decision, (decide ⟨0, 0, none, 60, 120000⟩).run World.twoTickets.repository.perform
        World.twoTickets = (.ok decision, World.twoTickets) ∧
      World.twoTickets.repository.Follows ⟨0, 0, none, 60, 120000⟩ decision ∧
      decision = .attach 1 true .rule2 := by
  obtain ⟨decision, ran, follows⟩ :=
    World.twoTickets.repository.decide_by_rules ⟨0, 0, none, 60, 120000⟩
  refine ⟨decision, ran, follows, ?_⟩
  have attached : ((decide ⟨0, 0, none, 60, 120000⟩).run World.twoTickets.repository.perform
      World.twoTickets).1 = .ok (.attach 1 true .rule2) := by decide
  exact Except.ok.inj ((congrArg Prod.fst ran).symm.trans attached)

end SupportCrm
