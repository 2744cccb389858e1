import Mathlib.Order.Bounds.Basic
import SupportCrm.Quoting

/-!
# The pointer to the last message of the customer

Every recording of an incoming message overwrites `lastClientMessageTgId` with its own
identifier. So the pointer names the message that was recorded last (`World.PointsToLast`), and
that is the latest one of the chat exactly if no later one was recorded before it
(`last_message_is_largest_iff`).
-/

set_option autoImplicit false

namespace SupportCrm

open KeyedTable AtomicProgram

namespace World

variable {w w' : World} {id : TicketId}

/-! ## The recorded messages of a ticket -/

/-- The Telegram identifiers of the messages of the customer, in the order of their recording. -/
def receivedIds (w : World) (id : TicketId) : List ℤ :=
  (w.messages.rows.filter fun row =>
    row.val.ticketId = id && row.val.direction = .in).filterMap fun row => row.val.tgMessageId

theorem receivedIds_insert {message : Message} (free : w.messages.Free message) (id : TicketId)
    (messages : w'.messages = w.messages.insert message free) :
    w'.receivedIds id = w.receivedIds id ++
      if message.ticketId = id ∧ message.direction = .in then message.tgMessageId.toList
      else [] := by
  rw [receivedIds, messages, Table.insert_rows, List.filter_append, List.filterMap_append,
    receivedIds]
  by_cases inbound : message.ticketId = id ∧ message.direction = .in
  · cases number : message.tgMessageId <;> simp [inbound, number]
  · rw [if_neg inbound, List.filter_cons_of_neg (by simpa using inbound)]
    rfl

/-- An outgoing message is not among them. -/
theorem receivedIds_insertOutgoing {message : Message} (free : w.messages.Free message)
    (id : TicketId) (messages : w'.messages = w.messages.insert message free)
    (out : message.direction = .out) : w'.receivedIds id = w.receivedIds id := by
  rw [receivedIds_insert free id messages, if_neg (by simp [out]), List.append_nil]

/-- Nor does the confirmation of an outgoing message change them. -/
theorem receivedIds_confirm {messageId : MessageId} {tgMessageId : ℤ} (id : TicketId)
    (changed : w.messages.modify? messageId (confirmed tgMessageId) = some w'.messages)
    (outgoing : ∀ row, w.messages.find? messageId = some row → row.val.direction = .out) :
    w'.receivedIds id = w.receivedIds id := by
  have inbound : ∀ row : Entry Message,
      ((row.change messageId (confirmed tgMessageId)).val.ticketId = id &&
        (row.change messageId (confirmed tgMessageId)).val.direction = .in) =
          (row.val.ticketId = id && row.val.direction = .in : Bool) := fun row => by
    rw [Entry.change_same messageId (confirmed tgMessageId) row Message.ticketId fun _ => rfl,
      Entry.change_same messageId (confirmed tgMessageId) row Message.direction fun _ => rfl]
  rw [receivedIds, Table.modify?_rows changed, List.filter_map, List.filterMap_map, receivedIds]
  simp only [Function.comp_def, inbound]
  refine List.filterMap_congr fun row member => ?_
  obtain ⟨listed, selected⟩ := List.mem_filter.mp member
  by_cases own : row.id = messageId
  · subst own
    rw [Bool.and_eq_true, decide_eq_true_eq, decide_eq_true_eq,
      outgoing row (Table.find?_self listed)] at selected
    exact nomatch selected.2
  · rw [Entry.change_of_ne _ _ own]

/-- A ticket that does not exist has none. -/
theorem receivedIds_eq_nil (linked : w.Linked) (absent : w.tickets.find? id = none) :
    w.receivedIds id = [] := by
  rw [receivedIds, List.filter_eq_nil_iff.mpr fun row member own => ?_, List.filterMap_nil]
  have present := linked.messageTicket row member
  rw [Bool.and_eq_true, decide_eq_true_eq] at own
  rw [own.1, absent] at present
  cases present

/-! ## One command -/

/-- The pointer of the ticket names the message that was recorded last. -/
def PointsToLast (w : World) (id : TicketId) : Prop :=
  ∀ ticket, w.tickets.find? id = some ticket → ∀ last ∈ (w.receivedIds id).getLast?,
    ticket.val.lastClientMessageTgId = some last

theorem PointsToLast.of_same (points : w.PointsToLast id)
    (received : w'.receivedIds id = w.receivedIds id)
    (pointer : ∀ ticket', w'.tickets.find? id = some ticket' →
      ∃ ticket, w.tickets.find? id = some ticket ∧
        ticket'.val.lastClientMessageTgId = ticket.val.lastClientMessageTgId) :
    w'.PointsToLast id := by
  intro ticket' found last latest
  obtain ⟨ticket, before, same⟩ := pointer ticket' found
  rw [received] at latest
  rw [same]
  exact points ticket before last latest

/-- A recording moves the pointer to its own message. -/
theorem PointsToLast.record (points : w.PointsToLast id) {ticketId : TicketId} {tgMessageId : ℤ}
    {text : Option String} {attachments : List Attachment}
    (free : w.messages.Free (w.incoming ticketId tgMessageId text attachments))
    (messages : w'.messages = w.messages.insert _ free)
    (tickets : w'.tickets = w.tickets.update ticketId
      (TicketData.apply { lastClientMessageTgId := some tgMessageId } w.now)
      (TicketData.apply_key _ w.now)) : w'.PointsToLast id := by
  intro ticket' found last latest
  rw [receivedIds_insert free id messages] at latest
  rw [tickets] at found
  by_cases own : ticketId = id
  · subst own
    rw [if_pos ⟨rfl, rfl⟩, Option.mem_def] at latest
    obtain rfl : tgMessageId = last := by simpa [incoming] using latest
    rw [Table.find?_update] at found
    obtain ⟨ticket, before, rfl⟩ := Option.map_eq_some_iff.mp found
    rw [Entry.change, if_pos (Table.id_of_find? before)]
    rfl
  · rw [if_neg fun both => own both.1, List.append_nil] at latest
    rw [Table.find?_update_of_ne (TicketData.apply_key _ w.now) (Ne.symm own)] at found
    exact points ticket' found last latest

/-- **Every command keeps the pointer at the message that was recorded last.** -/
theorem PointsToLast.perform {c : Call} {request : Request} (points : w.PointsToLast id)
    (linked : w.Linked) (performs : request.Performs c)
    (outgoing : ∀ messageId tgMessageId, c = .messageConfirm messageId tgMessageId → ∀ row,
      w.messages.find? messageId = some row → row.val.direction = .out) :
    (w.perform c).2.PointsToLast id := by
  have step := w.perform_step c
  generalize (w.perform c).2 = w' at step
  cases step
  case ticketCreate data chat customer =>
    intro ticket found last latest
    by_cases new : id = w.tickets.next
    · have nothing : w.receivedIds id = [] := receivedIds_eq_nil linked (new ▸ Table.find?_next _)
      change last ∈ (w.receivedIds id).getLast? at latest
      rw [nothing] at latest
      cases latest
    · rw [Table.find?_insert_of_ne Ticket.free new] at found
      exact points ticket found last latest
  case patch other data dto byAgentId ticketLabels present relabels =>
    exact points.of_same rfl fun _ => lastClient_update performs.builds.lastClient
  case assign other agentId byAgentId previousAssigneeId reason present =>
    exact points.of_same rfl fun _ => lastClient_update rfl
  case close other closedAt closedById agent =>
    exact points.of_same rfl fun _ => lastClient_update rfl
  case record ticketId tgMessageId text attachments present free =>
    exact points.record free rfl rfl
  case acknowledge ticketId text message free present own out pending created bot =>
    exact points.of_same (receivedIds_insertOutgoing free id rfl out) fun ticket found =>
      ⟨ticket, found, rfl⟩
  case reply ticketId agentId text attachments firstResponse message free present own out
      pending created agent =>
    refine points.of_same (receivedIds_insertOutgoing free id rfl out) fun ticket found => ?_
    cases firstResponse with
    | false => exact ⟨ticket, found, rfl⟩
    | true => exact lastClient_update rfl found
  case confirm messageId tgMessageId messages changed =>
    exact points.of_same (receivedIds_confirm id changed (outgoing messageId tgMessageId rfl))
      fun ticket found => ⟨ticket, found, rfl⟩
  all_goals exact points.of_same rfl fun ticket found => ⟨ticket, found, rfl⟩

end World

/-! ## Every run -/

/-- **The pointer names the latest message exactly if that was recorded last.** A ticket is opened
while requests interleave in any order: messages of the customer, their retries, replies, jobs of
the queue. Whenever messages of the customer have been recorded for it, its pointer is the largest
of their identifiers if and only if the one recorded last has the largest. -/
theorem last_message_is_largest_iff (config : Config) (requests : List Request) (w : World)
    (linked : w.Linked) (noJobs : w.outbound = []) (schedule : List (Act ℕ))
    (queued : ∀ job, .outbound job ∈ requests →
      job ∈ (w.after config requests schedule).outbound) (id : TicketId)
    (opened : w.tickets.find? id = none) (ticket : Entry Ticket)
    (found : (w.after config requests schedule).tickets.find? id = some ticket)
    (received : (w.after config requests schedule).receivedIds id ≠ []) :
    (∃ pointer, ticket.val.lastClientMessageTgId = some pointer ∧
        IsGreatest {n | n ∈ (w.after config requests schedule).receivedIds id} pointer) ↔
      ∀ last ∈ ((w.after config requests schedule).receivedIds id).getLast?,
        ∀ n ∈ (w.after config requests schedule).receivedIds id, n ≤ last := by
  have start : w.Linked ∧ w.PointsToLast id :=
    ⟨linked, fun ticket found => nomatch opened.symm.trans found⟩
  have points : (w.after config requests schedule).PointsToLast id := by
    refine (Pool.invariant_exec (I := fun w : World => w.Linked ∧ w.PointsToLast id) ?_ ?_
      (meets_confirmsOutgoing config requests w noJobs schedule queued) start).2
    · rintro i c w ⟨⟨request, listed, performs⟩, outgoing⟩ ⟨linked, points⟩
      exact ⟨linked.perform c, points.perform linked performs outgoing⟩
    · exact fun milliseconds w _ holds => ⟨holds.1.setNow _, holds.2⟩
  have recorded := List.getLast?_eq_some_getLast received
  generalize ((w.after config requests schedule).receivedIds id).getLast received = last at recorded
  have pointer := points ticket found last recorded
  rw [recorded, pointer]
  constructor
  · rintro ⟨_, ⟨⟩, -, largest⟩ _ ⟨⟩
    exact fun n member => largest member
  · intro largest
    exact ⟨last, rfl, List.mem_of_getLast? recorded, largest last rfl⟩

/-! The second of three messages fails at first, and its retry comes after the third. -/

namespace Overtaking

def requests : List Request :=
  [.ingest (greeting 7), .ingest (greeting 8), .ingest (greeting 9), .ingest (greeting 8)]

/-- The worker dies at the first attempt of the second message. -/
def schedule : List (Act ℕ) :=
  alone 12 ++ List.replicate 2 (.turn 1) ++ List.replicate 12 (.turn 2) ++
    List.replicate 12 (.turn 3)

def world (steps : ℕ) : World := World.seeded.after .default requests (schedule.take steps)

end Overtaking

set_option maxRecDepth 4000 in
/-- The pointer goes back to the second message. -/
theorem overtaken_message_is_last : ∃ ticket, (Overtaking.world 38).tickets.find? 0 = some ticket ∧
    (Overtaking.world 38).receivedIds 0 = [7, 9, 8] ∧
    ticket.val.lastClientMessageTgId = some 8 ∧
    ¬ ∃ pointer, ticket.val.lastClientMessageTgId = some pointer ∧
      IsGreatest {n | n ∈ (Overtaking.world 38).receivedIds 0} pointer := by
  have received : (Overtaking.world 38).receivedIds 0 = [7, 9, 8] := by decide
  refine ⟨_, rfl, received, rfl, ?_⟩
  rintro ⟨pointer, named, -, largest⟩
  obtain rfl : 8 = pointer := Option.some.inj named
  have above : (9 : ℤ) ≤ 8 := largest (received ▸ by simp)
  omega

set_option maxRecDepth 4000 in
/-- Until then it names the third. -/
theorem third_message_is_last : ∃ ticket pointer,
    (Overtaking.world 26).tickets.find? 0 = some ticket ∧
      (Overtaking.world 26).receivedIds 0 = [7, 9] ∧
      ticket.val.lastClientMessageTgId = some pointer ∧
      IsGreatest {n | n ∈ (Overtaking.world 26).receivedIds 0} pointer := by
  have received : (Overtaking.world 26).receivedIds 0 = [7, 9] := by decide
  obtain ⟨ticket, found⟩ : ∃ ticket, (Overtaking.world 26).tickets.find? 0 = some ticket := ⟨_, rfl⟩
  obtain ⟨pointer, named, largest⟩ := (last_message_is_largest_iff .default Overtaking.requests
    World.seeded World.linked_seeded rfl (Overtaking.schedule.take 26)
    (by simp [Overtaking.requests]) 0 rfl ticket found (by exact received ▸ by simp)).mpr (by
      intro last latest n member
      change last ∈ ((Overtaking.world 26).receivedIds 0).getLast? at latest
      change n ∈ (Overtaking.world 26).receivedIds 0 at member
      rw [received] at latest member
      obtain rfl : 9 = last := Option.some.inj latest
      simp only [List.mem_cons, List.not_mem_nil, or_false] at member
      omega)
  exact ⟨ticket, pointer, found, received, named, largest⟩

end SupportCrm
