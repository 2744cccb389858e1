import SupportCrm.Alone
import SupportCrm.System

/-!
# The idle window

Rule 2 measures the idle time of a thread from the last update of its ticket. This is the
time since the last message as long as no message is younger than the last update of its
ticket (`World.Current`). Recording an incoming message and noting a first response update
the ticket; an acknowledgement and every later reply of an agent do not, and they are the
only steps that can break the law (`World.Keeps`).
-/

set_option autoImplicit false

namespace SupportCrm

open KeyedTable AtomicProgram

/-- The ticket of which a command stores a message without updating it. -/
def Call.leavesTicket : Call → Option TicketId
  | .acknowledgementCreate ticketId _ => some ticketId
  | .replyTransaction ticketId _ _ _ false => some ticketId
  | _ => none

namespace World

variable {w : World}

/-- No message is younger than the last update of its ticket. -/
def Current (w : World) : Prop :=
  ∀ message ∈ w.messages.rows, ∀ ticket, w.tickets.find? message.val.ticketId = some ticket →
    message.val.createdAt ≤ ticket.val.updatedAt

/-- The command does not store an outgoing message, without updating its ticket, at a later
time than the last update. -/
def Keeps (c : Call) (w : World) : Prop :=
  ∀ ticketId ∈ c.leavesTicket, ∀ ticket ∈ w.tickets.find? ticketId, w.now ≤ ticket.val.updatedAt

instance (c : Call) (w : World) : Decidable (Keeps c w) :=
  inferInstanceAs (Decidable (∀ ticketId ∈ c.leavesTicket, _))

theorem Current.updateTicket (current : w.Current) (timely : w.Timely) (id : TicketId)
    (data : TicketData) :
    Current { w with
      tickets := w.tickets.update id (data.apply w.now) (data.apply_key w.now) } := by
  intro message member ticket found
  rw [Table.find?_update] at found
  obtain ⟨old, before, rfl⟩ := Option.map_eq_some_iff.mp found
  unfold Entry.change
  split
  · exact timely.message message member
  · exact current message member old before

theorem Current.insertMessage (current : w.Current) {message : Message}
    (free : w.messages.Free message)
    (updated : ∀ ticket, w.tickets.find? message.ticketId = some ticket →
      message.createdAt ≤ ticket.val.updatedAt) :
    Current { w with messages := w.messages.insert message free } := by
  intro row member ticket found
  rcases (Table.mem_insert free).mp member with old | rfl
  · exact current row old ticket found
  · exact updated ticket found

/-- The law survives every command that keeps it. -/
theorem Current.perform (current : w.Current) (timely : w.Timely) {c : Call}
    (keeps : Keeps c w) : (w.perform c).2.Current := by
  have step := w.perform_step c
  generalize (w.perform c).2 = w' at step
  cases step
  case ticketCreate data chat customer =>
    intro message member ticket found
    by_cases new : message.val.ticketId = w.tickets.next
    · rw [new, Table.find?_insert_self] at found
      cases found
      exact timely.message message member
    · rw [Table.find?_insert_of_ne Ticket.free new] at found
      exact current message member ticket found
  case patch id data dto byAgentId ticketLabels present relabels =>
    exact current.updateTicket timely id data
  case assign => exact current.updateTicket timely _ _
  case close => exact current.updateTicket timely _ _
  case record ticketId tgMessageId text attachments present free =>
    intro message member ticket found
    rw [Table.find?_update] at found
    obtain ⟨old, before, rfl⟩ := Option.map_eq_some_iff.mp found
    rcases (Table.mem_insert free).mp member with listed | rfl
    · unfold Entry.change
      split
      · exact timely.message message listed
      · exact current message listed old before
    · have own : old.id = ticketId := Table.id_of_find? before
      simp [Entry.change, own, incoming]
  case acknowledge ticketId text message free present own out pending created bot =>
    refine current.insertMessage free fun ticket found => ?_
    rw [created]
    exact keeps ticketId rfl ticket (own ▸ found)
  case reply ticketId agentId text attachments firstResponse message free present own out
      pending created agent =>
    cases firstResponse with
    | false =>
        refine current.insertMessage free fun ticket found => ?_
        rw [created]
        exact keeps ticketId rfl ticket (own ▸ found)
    | true =>
        intro row member ticket found
        simp only [if_true, Table.find?_update] at found
        obtain ⟨old, before, rfl⟩ := Option.map_eq_some_iff.mp found
        rcases (Table.mem_insert free).mp member with listed | rfl
        · unfold Entry.change
          split
          · exact timely.message row listed
          · exact current row listed old before
        · have oldId : old.id = ticketId := (Table.id_of_find? before).trans own
          simp [Entry.change, oldId, created]
  case confirm id tgMessageId messages changed =>
    intro message member ticket found
    obtain ⟨old, before, rfl⟩ := (Table.mem_modify? changed).mp member
    rw [Entry.change_same id (confirmed tgMessageId) old Message.ticketId fun _ => rfl] at found
    rw [Entry.change_same id (confirmed tgMessageId) old Message.createdAt fun _ => rfl]
    exact current old before ticket found
  all_goals exact current

theorem Current.setNow (current : w.Current) (now : Time) : (w.setNow now).Current := current

/-! ## What the rules decide -/

/-- `decide` answers what the rules say. -/
theorem run_decide (w : World) (input : ThreadGroupingInput) :
    ∃ decision, w.Decides input decision ∧
      ((SupportCrm.decide input).run World.perform w).1 = .ok decision := by
  have answers : Alone (fun _ => True) (SupportCrm.decide input >>= pure)
      (fun r _ => ∃ decision, w.Decides input decision ∧ r = .ok decision) w :=
    alone_decide (fun _ _ => trivial) fun decision decides =>
      alone_pure fun _ _ => ⟨decision, decides, rfl⟩
  rw [bind_pure] at answers
  obtain ⟨decision, decides, answer⟩ :=
    Alone.of_runs (Program.runs_run Later.refl (SupportCrm.decide input) w) answers
  exact ⟨decision, decides, answer⟩

/-- A customer's next message, not a reply, does not open a new thread while a message of
an active thread is younger than the idle window. -/
def WindowHolds (w : World) (config : Config) : Prop :=
  ∀ ticket ∈ w.tickets.rows, ticket.val.status.terminal = false →
    ∀ message ∈ w.messages.rows, message.val.ticketId = ticket.id →
      w.now - message.val.createdAt < config.threadIdleWindowMinutes * 60000 →
      ((SupportCrm.decide
        { chatId := ticket.val.chatId
          customerId := ticket.val.customerId
          replyToTgMessageId := none
          idleWindowMinutes := config.threadIdleWindowMinutes
          now := w.now }).run World.perform w).1 ≠ .ok .createNew

/-- Where no message is younger than the last update of its ticket, the window holds: the
thread that rule 2 finds was updated no earlier than any other of the customer. -/
theorem Current.windowHolds (current : w.Current) (config : Config) : w.WindowHolds config := by
  intro ticket member live message stored own recent answer
  obtain ⟨decision, decides, answer'⟩ := w.run_decide _
  obtain rfl : decision = .createNew := Except.ok.inj (answer'.symm.trans answer)
  have found : w.tickets.find? message.val.ticketId = some ticket :=
    own ▸ Table.find?_self member
  have active : activeTicket ticket.val.chatId ticket.val.customerId ticket = true := by
    simp [activeTicket, live]
  cases latest : w.tickets.latest (activeTicket ticket.val.chatId ticket.val.customerId)
      Ticket.updatedAt with
  | none => exact absurd active (by simp [Table.latest_eq_none_iff.mp latest ticket member])
  | some newest =>
      have younger : message.val.createdAt ≤ newest.val.updatedAt :=
        (current message stored ticket found).trans (Table.le_of_latest latest member active)
      cases decides with
      | rule3 _ idle =>
          refine idle _ ⟨congrArg (Option.map _) latest, ?_⟩
          exact (Int.sub_le_sub_left younger w.now).trans_lt recent

end World

/-- **The idle window.** Requests start with no ticket and no message, and every
acknowledgement and every reply that notes no first response is stored no later than the
last update of its ticket. Then in every state they reach, along every schedule, a message
of a customer opens no new thread while a message of an active thread of the customer is
younger than the idle window. -/
theorem window_holds (config : Config) {w : World} (noTickets : w.tickets.rows = [])
    (noMessages : w.messages.rows = []) (requests : List Request) (schedule : List (Act ℕ))
    (keeps : Pool.Meets (fun _ => World.perform) World.advance (fun _ => World.Keeps)
      (fun _ _ => True) (Requests.start config requests w) schedule) :
    (w.after config requests schedule).WindowHolds config := by
  have timely : w.Timely := by
    constructor
    · simp [noTickets]
    · simp [noMessages]
  have current : w.Current := by simp [World.Current, noMessages]
  have reached : (w.after config requests schedule).Timely ∧
      (w.after config requests schedule).Current := by
    refine Pool.invariant_exec (I := fun w => w.Timely ∧ w.Current)
      (fun _ c w kept holds => ⟨holds.1.perform c, holds.2.perform holds.1 kept⟩)
      (fun milliseconds w _ holds => ⟨holds.1.setNow ?_, holds.2.setNow _⟩) keeps
      ⟨timely, current⟩
    exact Int.le_add_of_nonneg_right (Int.natCast_nonneg _)
  exact reached.2.windowHolds config

/-! ## A reply that does not count

A customer writes, an agent answers at once and again after 170 minutes. Half an hour after
that answer the customer's next message opens a new thread. -/

namespace SecondReply

def reply (text : String) : OutgoingReply where
  ticketId := 0
  agentId := 0
  text := text
  attachments := none
  asReply := some true

def requests : List Request := [.ingest (greeting 7), .reply (reply "hi"), .reply (reply "done")]

/-- A minute, in milliseconds. -/
def minute : ℕ := 60000

def schedule : List (Act ℕ) :=
  List.replicate 20 (.turn 0) ++ List.replicate 4 (.turn 1) ++ [.env (170 * minute)] ++
    List.replicate 4 (.turn 2) ++ [.env (30 * minute)]

end SecondReply

theorem window_of_second_reply :
    ¬ (World.seeded.after Config.default SecondReply.requests
      SecondReply.schedule).WindowHolds Config.default := by
  intro holds
  refine holds ⟨0, _⟩ (.head _) (by decide) ⟨3, _⟩ (.tail _ (.tail _ (.tail _ (.head _)))) rfl
    (by decide) ?_
  decide

/-- After the first message and the first reply the window holds. -/
theorem window_of_first_reply :
    (World.seeded.after Config.default SecondReply.requests
      (SecondReply.schedule.take 24)).WindowHolds Config.default :=
  window_holds Config.default (by rfl) (by rfl) SecondReply.requests
    (SecondReply.schedule.take 24) (by decide)

end SupportCrm
