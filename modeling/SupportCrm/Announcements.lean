import SupportCrm.Footprint
import SupportCrm.Library.Monitors

/-!
# What is announced

A new ticket and a new message are announced by an event of the process that stored them, in a step
of its own. Between the two the process may die, other requests may run, and the queue may execute
the same job elsewhere. A message that goes out is handed to the outbound queue first, which may
refuse it: then it is stored and never announced.

Each program is followed by a monitor that remembers the row for which an announcement is due
(`announcer`), and every service announces what it has stored before it stores anything else, unless
its job was refused (`Request.announcing`). `announced_once` is what this comes to for all requests
together, whatever the database, the queue and Telegram refuse.
-/

set_option autoImplicit false

namespace SupportCrm

open KeyedTable AtomicProgram

/-! ## Commands that are refused -/

/-- The store, with the commands that the database, the queue and Telegram refuse at present. -/
structure Faulty where
  world : World
  refuses : Call → Bool

/-- What happens beside the requests: time passes, other commands come to be refused. -/
inductive Disturbance where
  | pass (milliseconds : ℕ)
  | refuse (refuses : Call → Bool)

/-- The commands for which a service waits. Reading the clock and emitting an event cannot fail. -/
def Call.awaited : Call → Bool
  | .newDate | .emit _ => false
  | _ => true

namespace Faulty

/-- A command that is refused has no effect. -/
def perform (c : Call) (s : Faulty) : Except Err c.Resp × Faulty :=
  if c.awaited && s.refuses c then (.error .unavailable, s)
  else ((s.world.perform c).1, { s with world := (s.world.perform c).2 })

def act : Disturbance → Faulty → Faulty
  | .pass milliseconds, s => { s with world := s.world.advance milliseconds }
  | .refuse refuses, s => { s with refuses := refuses }

/-- A command is performed, or it fails and leaves all as it is. -/
theorem perform_cases (c : Call) (s : Faulty) :
    s.perform c = ((s.world.perform c).1, { s with world := (s.world.perform c).2 }) ∨
      c.awaited = true ∧ ∃ e, s.perform c = (.error e, s) := by
  unfold perform
  split
  · next refused => exact .inr ⟨(Bool.and_eq_true_iff.mp refused).1, _, rfl⟩
  · exact .inl rfl

theorem world_of_ok {c : Call} {s : Faulty} {answer : c.Resp} (ok : (s.perform c).1 = .ok answer) :
    (s.world.perform c).1 = .ok answer := by
  rcases s.perform_cases c with performed | ⟨-, e, refused⟩
  · rwa [performed] at ok
  · rw [refused] at ok
    cases ok

end Faulty

/-- The requests at their beginning, with nothing refused. -/
def Requests.disturbed (config : Config) (requests : List Request) (w : World) :
    Pool Call Call.Resp Err Unit Faulty :=
  ⟨requests.map (Request.program config), ⟨w, fun _ => false⟩⟩

/-! ## What is new -/

/-- What an event can announce. -/
inductive Created where
  | ticket (id : TicketId)
  | message (id : MessageId)
  deriving DecidableEq

/-- The ticket or message of which an event says that it is new. -/
def DomainEvent.announces : DomainEvent → Option Created
  | .ticketCreated ticketId => some (.ticket ticketId)
  | .messageReceived _ messageId _ | .messageSent _ messageId _ => some (.message messageId)
  | _ => none

/-- A row that a command has created. -/
inductive Creation where
  | ticket (id : TicketId)
  | message (row : Entry Message)

def Creation.created : Creation → Created
  | .ticket id => .ticket id
  | .message row => .message row.id

/-- A message that goes out. -/
def Creation.outgoing : Creation → Bool
  | .ticket _ => false
  | .message row => row.val.direction = .out

/-- The event says of the row what it is: of a message its ticket, whether it came in or was sent,
and by which agent. -/
inductive Creation.ToldBy : Creation → DomainEvent → Prop where
  | ticket (id : TicketId) : ToldBy (.ticket id) (.ticketCreated id)
  | received {row : Entry Message} (way : row.val.direction = .in) (isNewTicket : Bool) :
      ToldBy (.message row) (.messageReceived row.val.ticketId row.id isNewTicket)
  | sent {row : Entry Message} (way : row.val.direction = .out) :
      ToldBy (.message row) (.messageSent row.val.ticketId row.id row.val.agentId)

theorem Creation.ToldBy.announces {creation : Creation} {event : DomainEvent}
    (told : creation.ToldBy event) : event.announces = some creation.created := by
  cases told <;> rfl

/-- The row that a command has created, if any. -/
def Call.creates : (c : Call) → Except Err c.Resp → Option Creation
  | .ticketCreate _, .ok view => some (.ticket view.ticket.id)
  | .recordTransaction _ _ _ _, .ok row => some (.message row)
  | .acknowledgementCreate _ _, .ok row => some (.message row)
  | .replyTransaction _ _ _ _ _, .ok row => some (.message row)
  | _, _ => none

/-- The commands that can create a ticket or a message. -/
def Call.creator : Call → Bool
  | .ticketCreate _ | .recordTransaction _ _ _ _ | .acknowledgementCreate _ _
  | .replyTransaction _ _ _ _ _ => true
  | _ => false

theorem Call.creates_of_not_creator {c : Call} (other : c.creator = false)
    (answer : Except Err c.Resp) : c.creates answer = none := by
  cases c <;> first | rfl | cases other

theorem Call.creates_error (c : Call) (e : Err) : c.creates (.error e) = none := by
  cases c <;> rfl

namespace World

variable {w w' : World}

/-- The ticket or message is stored. -/
def Has (w : World) : Created → Prop
  | .ticket id => (w.tickets.find? id).isSome
  | .message id => (w.messages.find? id).isSome

/-- The row is stored, a message in its ticket, with its direction and its agent. -/
def Holds (w : World) : Creation → Prop
  | .ticket id => (w.tickets.find? id).isSome
  | .message row => ∃ row', w.messages.find? row.id = some row' ∧
      row'.val.ticketId = row.val.ticketId ∧ row'.val.direction = row.val.direction ∧
      row'.val.agentId = row.val.agentId

/-- A message that goes out is stored, and no job of the outbound queue is for it. -/
def Unsent (w : World) : Created → Prop
  | .ticket _ => False
  | .message id => (∃ row, w.messages.find? id = some row ∧ row.val.direction = .out) ∧
      ∀ job ∈ w.outbound, job.messageId ≠ id

theorem Holds.has {creation : Creation} (holds : w.Holds creation) : w.Has creation.created := by
  cases creation with
  | ticket id => exact holds
  | message row =>
      obtain ⟨row', found, -⟩ := holds
      exact Option.isSome_iff_exists.mpr ⟨row', found⟩

theorem Has.exists_holds {created : Created} (has : w.Has created) :
    ∃ creation, creation.created = created ∧ w.Holds creation := by
  cases created with
  | ticket id => exact ⟨.ticket id, rfl, has⟩
  | message id =>
      obtain ⟨row, found⟩ := Option.isSome_iff_exists.mp has
      obtain rfl := Table.id_of_find? found
      exact ⟨.message row, rfl, row, found, rfl, rfl, rfl⟩

/-- Whether a stored row is unsent. -/
theorem Holds.unsent_iff {creation : Creation} (holds : w.Holds creation) :
    w.Unsent creation.created ↔ creation.outgoing = true ∧
      ∀ job ∈ w.outbound, .message job.messageId ≠ creation.created := by
  cases creation with
  | ticket id => simp [Unsent, Creation.created, Creation.outgoing]
  | message row =>
      obtain ⟨row', found, -, way, -⟩ := holds
      simp [Unsent, Creation.created, Creation.outgoing, found, way]

/-- What is stored stays sent or unsent while the queue does not change. -/
theorem Has.unsent_iff {created : Created} (has : w.Has created)
    (holds : ∀ creation, w.Holds creation → w'.Holds creation)
    (outbound : w'.outbound = w.outbound) : w'.Unsent created ↔ w.Unsent created := by
  obtain ⟨creation, rfl, held⟩ := has.exists_holds
  rw [(holds creation held).unsent_iff, held.unsent_iff, outbound]

/-- Which message rows there are changes with an insertion only. -/
theorem isSome_message_modify? {messages : Table Message.key} {id : MessageId} {tgMessageId : ℤ}
    (changed : w.messages.modify? id (confirmed tgMessageId) = some messages) (other : MessageId) :
    (messages.find? other).isSome = (w.messages.find? other).isSome := by
  rw [Table.find?_modify? changed, Option.isSome_map]

/-- A command that creates nothing leaves what there is. -/
theorem has_of_not_creator {c : Call} (step : w.Step c w') (other : c.creator = false)
    (created : Created) : w'.Has created ↔ w.Has created := by
  cases step
  case ticketCreate | record | acknowledge | reply => cases other
  case patch | assign | close =>
    cases created with
    | ticket id =>
        exact Bool.coe_iff_coe.mpr (Table.isSome_find?_update (TicketData.apply_key _ _) id)
    | message id => exact Iff.rfl
  case confirm id tgMessageId messages changed =>
    cases created with
    | ticket id => exact Iff.rfl
    | message id => exact Bool.coe_iff_coe.mpr (isSome_message_modify? changed id)
  all_goals exact Iff.rfl

/-- The reply of an agent is stored with its agent. -/
theorem agentId_of_replyTransaction {ticketId : TicketId} {agentId : AgentId} {text : String}
    {attachments : List Attachment} {firstResponse : Bool} {row : Entry Message}
    (ok : w.replyTransaction ticketId agentId text attachments firstResponse = .ok (row, w')) :
    row.val.agentId = some agentId := by
  simp only [replyTransaction, bind_eq_ok_iff] at ok
  obtain ⟨⟨created, w₁⟩, stored, w₂, -, same⟩ := ok
  cases same
  obtain ⟨-, -, free, rfl, -⟩ := messageCreate_eq_ok_iff.mp stored
  rfl

/-- A message that was inserted is there, was not there before, and is all that is new. -/
theorem creates_message {message : Message} (free : w.messages.Free message)
    (messages : w'.messages = w.messages.insert message free)
    (tickets : ∀ id, (w'.tickets.find? id).isSome = (w.tickets.find? id).isSome) :
    ¬ w.Has (.message w.messages.next) ∧ w'.Holds (.message ⟨w.messages.next, message⟩) ∧
      ∀ created, w'.Has created ↔ w.Has created ∨ .message w.messages.next = created := by
  refine ⟨?_, ⟨_, by rw [messages, Table.find?_insert_self], rfl, rfl, rfl⟩, fun created => ?_⟩
  · simp [Has, Table.find?_next]
  · cases created with
    | ticket id => simp [Has, tickets id]
    | message id =>
        by_cases own : id = w.messages.next
        · subst own
          simp [Has, messages]
        · simp [Has, messages, Table.find?_insert_of_ne free own, Ne.symm own]

/-- What was created is stored and new, and nothing else is new. -/
theorem creates_perform {c : Call} {creation : Creation}
    (creates : c.creates (w.perform c).1 = some creation) :
    ¬ w.Has creation.created ∧ (w.perform c).2.Holds creation ∧
      ∀ created, (w.perform c).2.Has created ↔ w.Has created ∨ creation.created = created := by
  cases answered : (w.perform c).1 with
  | error e => rw [answered, c.creates_error] at creates; cases creates
  | ok answer =>
      rw [answered] at creates
      have effect := effect_of_perform_ok answered
      generalize (w.perform c).2 = w' at effect
      cases c with
      | ticketCreate data =>
          cases creates
          obtain ⟨rfl, view, -, -⟩ := ticketCreate_eq_ok effect
          simp only [Creation.created, view]
          refine ⟨by simp [Has, Table.find?_next], by simp [Holds], fun created => ?_⟩
          cases created with
          | message id => simp [Has]
          | ticket id =>
              by_cases own : id = w.tickets.next
              · subst own
                simp [Has]
              · simp [Has, Table.find?_insert_of_ne Ticket.free own, Ne.symm own]
      | recordTransaction ticketId tgMessageId text attachments =>
          cases creates
          obtain ⟨-, free, rfl, rfl⟩ := recordTransaction_eq_ok_iff.mp effect
          exact creates_message free rfl (Table.isSome_find?_update (TicketData.apply_key _ _))
      | acknowledgementCreate ticketId text =>
          cases creates
          obtain ⟨-, -, free, rfl, rfl⟩ := messageCreate_eq_ok_iff.mp effect
          exact creates_message free rfl fun _ => rfl
      | replyTransaction ticketId agentId text attachments firstResponse =>
          cases creates
          obtain ⟨-, message, free, rfl, -, -, -, -, -, rfl⟩ := replyTransaction_eq_ok effect
          refine creates_message free rfl fun id => ?_
          cases firstResponse with
          | false => rfl
          | true => exact Table.isSome_find?_update (TicketData.apply_key _ _) id
      | _ => cases creates

/-- Without a creation nothing is new. -/
theorem has_of_creates_none {c : Call} (none : c.creates (w.perform c).1 = none)
    (created : Created) : (w.perform c).2.Has created ↔ w.Has created := by
  cases answered : (w.perform c).1 with
  | error e => rw [perform_error answered]
  | ok answer =>
      refine has_of_not_creator (w.perform_step c) ?_ created
      rw [answered] at none
      cases c <;> first | rfl | cases none

/-- What is stored stays what it is. -/
theorem Holds.perform {creation : Creation} (holds : w.Holds creation) (c : Call) :
    (w.perform c).2.Holds creation := by
  cases creation with
  | ticket id => exact isSome_ticket_perform c holds
  | message row =>
      obtain ⟨row', found, same⟩ := holds
      rcases w.messages_perform c with kept | ⟨message, free, -, -, kept⟩ |
        ⟨id, tgMessageId, messages, -, changed, kept⟩
      · exact ⟨row', kept ▸ found, same⟩
      · exact ⟨row', kept ▸ Table.find?_insert_of_some free found, same⟩
      · refine ⟨row'.change id (confirmed tgMessageId), ?_, ?_⟩
        · rw [kept, Table.find?_modify? changed, found, Option.map_some]
        · unfold Entry.change
          split <;> exact same

theorem outbound_cases (w : World) (c : Call) :
    (∃ job, c = .enqueueReply job ∧ (w.perform c).2.outbound = w.outbound ++ [job]) ∨
      (∀ job, c ≠ .enqueueReply job) ∧ (w.perform c).2.outbound = w.outbound := by
  by_cases queues : ∃ job, c = .enqueueReply job
  · obtain ⟨job, rfl⟩ := queues
    exact .inl ⟨job, rfl, rfl⟩
  · refine .inr ⟨fun job same => queues ⟨job, same⟩, ?_⟩
    have step := w.perform_step c
    generalize (w.perform c).2 = w' at step
    cases step
    case enqueueReply job => exact absurd ⟨job, rfl⟩ queues
    all_goals rfl

theorem emitted_perform (w : World) (c : Call) :
    (∃ event, c = .emit event ∧ (w.perform c).2.emitted = w.emitted ++ [event]) ∨
      (∀ event, c ≠ .emit event) ∧ (w.perform c).2.emitted = w.emitted := by
  by_cases emits : ∃ event, c = .emit event
  · obtain ⟨event, rfl⟩ := emits
    exact .inl ⟨event, rfl, rfl⟩
  · refine .inr ⟨fun event same => emits ⟨event, same⟩, ?_⟩
    have step := w.perform_step c
    generalize (w.perform c).2 = w' at step
    cases step
    case emit event => exact absurd ⟨event, rfl⟩ emits
    all_goals rfl

end World

/-! ## The monitor -/

/-- An announcement that is due: what it is about, and whether a job must be queued before. -/
structure Due where
  creation : Creation
  waits : Bool

/-- What is due for a new row. -/
def Creation.due (creation : Creation) : Due := ⟨creation, creation.outgoing⟩

/-- Remembers the row for which an announcement is due. Nothing else is stored before it is
announced, and only it is announced, after its job was queued if it goes out. If the queue refuses
the job, nothing is due any more. -/
def announcer : Monitor Call Call.Resp Err (Option Due) where
  allows due c := (c.creator = true → due = none) ∧
    (∀ job, c = .enqueueReply job →
      ∃ creation, due = some ⟨creation, true⟩ ∧ .message job.messageId = creation.created) ∧
    ∀ event, c = .emit event → event.announces = none ∨
      ∃ creation, due = some ⟨creation, false⟩ ∧ creation.ToldBy event
  next due c answer :=
    match c, answer with
    | .emit event, _ => if event.announces = none then due else none
    | .enqueueReply _, .ok _ => due.map fun due => ⟨due.creation, false⟩
    | .enqueueReply _, .error _ => none
    | c, answer => ((c.creates answer).map Creation.due).or due

/-- The commands that emit an event or queue a job. -/
def Call.tells : Call → Bool
  | .emit _ | .enqueueReply _ => true
  | _ => false

theorem Call.tells_eq_false {c : Call} (silent : ∀ event, c ≠ .emit event)
    (unqueued : ∀ job, c ≠ .enqueueReply job) : c.tells = false := by
  cases c <;> first | rfl | exact absurd rfl (silent _) | exact absurd rfl (unqueued _)

theorem announcer_next {c : Call} (quiet : c.tells = false) (due : Option Due)
    (answer : Except Err c.Resp) :
    announcer.next due c answer = ((c.creates answer).map Creation.due).or due := by
  cases c <;> first | rfl | cases quiet

/-- The program announces all that it stores, each before it stores the next, but for a message
whose job was refused. -/
abbrev Announcing {α : Type} (p : App α) : Prop :=
  Obeys Faulty.perform announcer p (fun _ due => due = none) none

/-- A command that neither creates, nor announces, nor queues. -/
structure Call.Plain (c : Call) : Prop where
  creator : c.creator = false
  silent : ∀ event, c = .emit event → event.announces = none
  unqueued : ∀ job, c ≠ .enqueueReply job

theorem plain_of_quiet {c : Call} (other : c.creator = false) (quiet : c.tells = false) :
    c.Plain where
  creator := other
  silent := by
    rintro event rfl
    cases quiet
  unqueued := by
    rintro job rfl
    cases quiet

/-- An event that announces nothing new. -/
theorem plain_emit {event : DomainEvent} (plain : event.announces = none) :
    (Call.emit event).Plain where
  creator := rfl
  silent := by
    rintro event' ⟨⟩
    exact plain
  unqueued := nofun

theorem plain_of_reads (c : Call) (reads : c.reads = true) : c.Plain :=
  plain_of_quiet (by cases c <;> first | rfl | cases reads)
    (by cases c <;> first | rfl | cases reads)

theorem Call.Plain.ignored {c : Call} (plain : c.Plain) (due : Option Due) :
    announcer.allows due c ∧ ∀ answer, announcer.next due c answer = due := by
  refine ⟨⟨fun creator => absurd (plain.creator.symm.trans creator) Bool.false_ne_true,
    fun job queues => absurd queues (plain.unqueued job),
    fun event emits => .inl (plain.silent event emits)⟩, fun answer => ?_⟩
  by_cases emits : ∃ event, c = .emit event
  · obtain ⟨event, rfl⟩ := emits
    exact if_pos (plain.silent event rfl)
  · rw [announcer_next (Call.tells_eq_false (fun event same => emits ⟨event, same⟩) plain.unqueued),
      Call.creates_of_not_creator plain.creator, Option.map_none, Option.none_or]

section Announcing

variable {α β : Type} {due : Option Due} {Q : Except Err α → Option Due → Prop}

theorem announcing_of_always {p : App α} (always : p.Always Call.Plain) : Announcing p :=
  obeys_of_always always (fun _ plain => plain.ignored none) fun _ => rfl

theorem announcing_bind {p : App β} {k : β → App α} (first : Announcing p)
    (rest : ∀ b, Announcing (k b)) : Announcing (p >>= k) :=
  obeys_bind <| first.mono fun r due ended => match r with
    | .ok b => by subst ended; exact rest b
    | .error _ => ended

theorem announcing_discard {p : App α} (announcing : Announcing p) :
    Announcing (Functor.discard p) :=
  announcing_bind announcing fun _ => announcing_of_always Program.always_pure

/-- What a command has created is due. -/
theorem obeys_create {c : Call} {next : Except Err c.Resp → App α} (quiet : c.tells = false)
    (ok : ∀ (w : World) answer, (w.perform c).1 = .ok answer →
      Obeys Faulty.perform announcer (next (.ok answer)) Q
        ((c.creates (.ok answer)).map Creation.due))
    (error : ∀ e, Obeys Faulty.perform announcer (next (.error e)) Q none) :
    Obeys Faulty.perform announcer (.call c next) Q none := by
  refine ⟨⟨fun _ => rfl, ?_, ?_⟩, fun s => ?_⟩
  · rintro job rfl
    cases quiet
  · rintro event rfl
    cases quiet
  rw [announcer_next quiet, Option.or_none]
  cases answered : (s.perform c).1 with
  | ok answer => exact ok s.world answer (Faulty.world_of_ok answered)
  | error e =>
      rw [c.creates_error]
      exact error e

/-- The job of a message that goes out. If it is refused, nothing is due. -/
theorem obeys_queue {row : Entry Message} {job : OutboundReplyJob}
    {next : Except Err Unit → App α} (own : job.messageId = row.id)
    (ok : Obeys Faulty.perform announcer (next (.ok ())) Q (some ⟨.message row, false⟩))
    (error : ∀ e, Obeys Faulty.perform announcer (next (.error e)) Q none) :
    Obeys Faulty.perform announcer (.call (.enqueueReply job) next) Q
      (some ⟨.message row, true⟩) := by
  refine ⟨⟨nofun, ?_, fun _ => nofun⟩, fun s => ?_⟩
  · rintro job' ⟨⟩
    exact ⟨.message row, rfl, congrArg Created.message own⟩
  · cases (s.perform (.enqueueReply job)).1 with
    | ok answer => exact ok
    | error e => exact error e

/-- The announcement that is due. -/
theorem obeys_tell {creation : Creation} {event : DomainEvent} {next : Except Err Unit → App α}
    (told : creation.ToldBy event) (rest : Obeys Faulty.perform announcer (next (.ok ())) Q none) :
    Obeys Faulty.perform announcer (.call (.emit event) next) Q (some ⟨creation, false⟩) := by
  refine ⟨⟨nofun, fun _ => nofun, ?_⟩, fun s => ?_⟩
  · rintro event' ⟨⟩
    exact .inr ⟨creation, rfl, told⟩
  · have announced : announcer.next (some ⟨creation, false⟩) (.emit event)
        (s.perform (.emit event)).1 = none := if_neg (told.announces ▸ Option.some_ne_none _)
    rw [announced]
    exact rest

end Announcing

/-! ## The services -/

theorem announcing_createForNewThread (params : NewTicket) :
    Announcing (createForNewThread params) :=
  obeys_create rfl
    (fun _ view _ => obeys_tell (.ticket view.ticket.id) rfl) fun _ => rfl

theorem announcing_patch (id : TicketId) (dto : PatchTicketDto) (byAgentId : Option AgentId) :
    Announcing (patch id dto byAgentId) := by
  refine announcing_of_always (patch_always plain_of_reads id dto byAgentId (fun data _ => ?_) ?_ ?_)
  · exact plain_of_quiet rfl rfl
  · exact plain_emit rfl
  · exact plain_emit rfl

theorem announcing_assign (id : TicketId) (agentId : Option (Option AgentId)) (byAgentId : AgentId)
    (reason : Option String) :
    Announcing (assign id agentId byAgentId reason) := by
  refine announcing_of_always ?_
  refine Program.always_bind (getById_always plain_of_reads id) fun _ => ?_
  refine Program.always_bind (Program.always_perform (plain_of_quiet rfl rfl)) fun _ => ?_
  exact Program.always_bind (Program.always_perform (plain_emit rfl)) fun _ => Program.always_pure

theorem announcing_bulk (action : BulkAction) (byAgentId : AgentId) (ids : List TicketId) :
    Announcing (bulk action byAgentId ids) := by
  induction ids with
  | nil => exact announcing_of_always Program.always_pure
  | cons id rest ih =>
      refine announcing_bind ?_ fun _ =>
        announcing_bind ih fun _ => announcing_of_always Program.always_pure
      cases action with
      | assign agentId => exact announcing_assign id agentId byAgentId none
      | close => exact announcing_patch id _ _
      | label labelId =>
          have found := announcing_of_always (getById_always plain_of_reads id)
          cases labelId with
          | none =>
              exact announcing_bind found fun _ => announcing_bind found fun _ =>
                announcing_of_always Program.always_throw
          | some labelId => exact announcing_bind found fun _ => announcing_patch id _ _

theorem announcing_resolveTicket (chat : Entry Chat) (customer : Entry Customer) (tgMessageId : ℤ)
    (decision : ThreadGroupingDecision) :
    Announcing (resolveTicket chat customer tgMessageId decision) := by
  cases decision with
  | attach ticketId revive rule =>
      cases revive with
      | false => exact announcing_of_always Program.always_pure
      | true =>
          exact announcing_bind (announcing_patch ticketId _ _)
            fun _ => announcing_of_always Program.always_pure
  | createNew =>
      refine announcing_bind (announcing_of_always (decideAssignment_always plain_of_reads _))
        fun routing => ?_
      exact announcing_bind (announcing_createForNewThread _)
        fun _ => announcing_of_always Program.always_pure

theorem announcing_sendAutoAcknowledgement (ticketId : TicketId) (tgMessageId : ℤ) :
    Announcing (sendAutoAcknowledgement ticketId tgMessageId) := by
  refine announcing_bind (announcing_of_always (Program.always_perform (plain_of_reads _ rfl)))
    fun found => ?_
  cases found with
  | none => exact announcing_of_always Program.always_pure
  | some found =>
      refine obeys_create rfl (fun w row stored => ?_) fun _ => rfl
      obtain ⟨-, -, free, rfl, -⟩ :=
        World.messageCreate_eq_ok_iff.mp (World.effect_of_perform_ok stored)
      exact obeys_queue rfl (obeys_tell (.sent rfl) rfl) fun _ => rfl

theorem announcing_recordIncoming (ticketId : TicketId) (tgMessageId : ℤ) (text : Option String)
    (attachments : List Attachment) (isNewTicket : Bool) :
    Announcing (recordIncoming ticketId tgMessageId text attachments isNewTicket) := by
  refine obeys_bind (obeys_attempt (obeys_create rfl
    (fun w row stored => ?_) fun e => ?_))
  · obtain ⟨-, free, rfl, -⟩ :=
      World.recordTransaction_eq_ok_iff.mp (World.effect_of_perform_ok stored)
    change Obeys Faulty.perform announcer (announceIncoming ticketId tgMessageId isNewTicket _)
      (fun _ due => due = none) (some ⟨.message _, false⟩)
    refine obeys_tell (.received rfl isNewTicket) ?_
    cases isNewTicket with
    | false => exact announcing_of_always Program.always_pure
    | true =>
        change Announcing ((sendAutoAcknowledgement ticketId tgMessageId).attempt >>= fun _ => pure _)
        refine announcing_bind (obeys_attempt ?_) fun _ => announcing_of_always Program.always_pure
        exact announcing_sendAutoAcknowledgement ticketId tgMessageId
  · -- A message that is there already was announced by whoever stored it.
    cases e with
    | uniqueConstraint =>
        refine announcing_bind (announcing_of_always (Program.always_perform (plain_of_reads _ rfl)))
          fun existing => ?_
        cases existing with
        | none => exact announcing_of_always Program.always_throw
        | some existing => exact announcing_of_always Program.always_pure
    | _ => rfl

theorem announcing_process (config : Config) (message : NormalizedIncomingMessage) :
    Announcing (process config message) := by
  refine announcing_bind (announcing_of_always (classify_always plain_of_reads _ _
    fun _ => plain_of_quiet rfl rfl)) fun kind => ?_
  cases kind with
  | agent agent => exact announcing_of_always Program.always_pure
  | excluded => exact announcing_of_always Program.always_pure
  | customer =>
      refine announcing_bind (announcing_of_always (findOrCreateChat_always plain_of_reads _ _
        (plain_of_quiet rfl rfl))) fun chat => ?_
      refine announcing_bind (announcing_of_always (findOrCreateCustomer_always plain_of_reads _ _ _
        (plain_of_quiet rfl rfl) fun _ => plain_of_quiet rfl rfl)) fun customer => ?_
      refine announcing_bind (announcing_of_always (Program.always_perform (plain_of_reads _ rfl)))
        fun now => ?_
      refine announcing_bind (announcing_of_always (decide_always plain_of_reads _))
        fun decision => ?_
      refine announcing_bind (announcing_resolveTicket chat customer _ decision) fun resolved => ?_
      exact announcing_bind (announcing_recordIncoming _ _ _ _ _)
        fun _ => announcing_of_always Program.always_pure

theorem announcing_recordOutgoingReply (publicUrl : String) (params : OutgoingReply) :
    Announcing (recordOutgoingReply publicUrl params) := by
  refine announcing_bind (announcing_of_always (Program.always_perform (plain_of_reads _ rfl)))
    fun found => ?_
  cases found with
  | none => exact announcing_of_always Program.always_throw
  | some found =>
      obtain ⟨ticket, chat⟩ := found
      refine announcing_bind (announcing_of_always (quotedMessage_always plain_of_reads _ _))
        fun replyToTgMessageId => ?_
      refine obeys_create rfl (fun w row stored => ?_) fun _ => rfl
      have effect := World.effect_of_perform_ok stored
      have agent := World.agentId_of_replyTransaction effect
      obtain ⟨-, message, free, rfl, own, out, -⟩ := World.replyTransaction_eq_ok effect
      have waits : (Creation.message ⟨w.messages.next, message⟩).outgoing = true :=
        decide_eq_true out
      rw [Call.creates, Option.map_some, Creation.due, waits]
      refine obeys_queue rfl ?_ fun _ => rfl
      rw [← own, ← agent]
      exact obeys_tell (.sent out) rfl

/-- **Every request announces what it stores.** -/
theorem Request.announcing (config : Config) (request : Request) :
    Announcing (request.program config) := by
  cases request with
  | ingest message => exact announcing_discard (announcing_process config message)
  | patch id dto byAgentId => exact announcing_discard (announcing_patch id dto _)
  | assign id agentId byAgentId reason =>
      exact announcing_discard (announcing_assign id _ byAgentId reason)
  | claim id byAgentId => exact announcing_discard (announcing_assign id _ byAgentId none)
  | close id byAgentId => exact announcing_discard (announcing_patch id _ _)
  | reopen id byAgentId => exact announcing_discard (announcing_patch id _ _)
  | snooze id snoozeUntil byAgentId => exact announcing_discard (announcing_patch id _ _)
  | bulk action byAgentId ids => exact announcing_discard (announcing_bulk action byAgentId ids)
  | reply params => exact announcing_discard (announcing_recordOutgoingReply config.publicUrl params)
  | outbound job =>
      exact announcing_of_always (processOutbound_always job (fun _ _ _ => plain_of_quiet rfl rfl)
        fun _ => plain_of_quiet rfl rfl)
  | markNotCustomer id byAgentId =>
      exact announcing_discard (announcing_of_always (markTicketSenderAsNotCustomer_always
        plain_of_reads id byAgentId (fun _ _ => plain_of_quiet rfl rfl)
        fun _ => plain_of_quiet rfl rfl))
  | createExcluded params =>
      refine announcing_discard (announcing_of_always ?_)
      unfold createExcludedSender
      split
      · exact Program.always_throw
      · exact Program.always_perform (plain_of_quiet rfl rfl)
  | updateExcluded id name note isActive =>
      refine announcing_of_always (Program.always_bind
        (Program.always_perform (plain_of_reads _ rfl)) fun existing => ?_)
      split
      · exact Program.always_throw
      · exact Program.always_perform (plain_of_quiet rfl rfl)
  | removeExcluded id =>
      refine announcing_of_always (Program.always_bind
        (Program.always_perform (plain_of_reads _ rfl)) fun existing => ?_)
      split
      · exact Program.always_throw
      · exact Program.always_perform (plain_of_quiet rfl rfl)
  | updateAgent id isActive =>
      exact announcing_of_always (Program.always_perform (plain_of_quiet rfl rfl))

/-! ## All requests together -/

/-- What has been announced, in order. -/
def World.announced (w : World) : List Created := w.emitted.filterMap DomainEvent.announces

/-- Since `first`, each announcement was made once and told of something new that is stored and not
unsent; what is new was announced, or is unsent, or is due to be announced, and nothing is due
twice. Every job is for a message that is stored. -/
structure Announced (first : World) (due : ℕ → Option Due) (w : World) : Prop where
  once : w.announced.Nodup
  told : ∀ event ∈ w.emitted, ∀ created, event.announces = some created →
    ¬ first.Has created ∧ ¬ w.Unsent created ∧
      ∃ creation, w.Holds creation ∧ creation.ToldBy event
  owed : ∀ i announcement, due i = some announcement →
    w.Holds announcement.creation ∧ ¬ first.Has announcement.creation.created ∧
      announcement.creation.created ∉ w.announced ∧
      (announcement.waits = true ↔ w.Unsent announcement.creation.created)
  apart : ∀ i j announcement announcement', due i = some announcement →
    due j = some announcement' →
    announcement.creation.created = announcement'.creation.created → i = j
  all : ∀ created, w.Has created →
    first.Has created ∨ created ∈ w.announced ∨ w.Unsent created ∨
      ∃ i announcement, due i = some announcement ∧ announcement.creation.created = created
  kept : ∀ created, first.Has created → w.Has created
  jobs : ∀ job ∈ w.outbound, w.Has (.message job.messageId)

namespace Announced

variable {first w w' : World} {due : ℕ → Option Due} {i : ℕ}

theorem start (silent : w.emitted = []) (jobs : ∀ job ∈ w.outbound, w.Has (.message job.messageId)) :
    Announced w (fun _ => none) w where
  once := by simp [World.announced, silent]
  told := by simp [silent]
  owed := by rintro i announcement ⟨⟩
  apart := by rintro i j announcement announcement' ⟨⟩
  all := fun created has => .inl has
  kept := fun created has => has
  jobs := jobs

/-- What was announced is stored. -/
theorem has_of_mem (announced : Announced first due w) {created : Created}
    (member : created ∈ w.announced) : w.Has created := by
  obtain ⟨event, listed, announces⟩ := List.mem_filterMap.mp member
  obtain ⟨-, -, creation, holds, told⟩ := announced.told event listed created announces
  obtain rfl := Option.some.inj (told.announces.symm.trans announces)
  exact holds.has

/-- What an announcement has told stays true while more is stored. -/
theorem told_of_holds (announced : Announced first due w)
    (holds : ∀ creation, w.Holds creation → w'.Holds creation)
    (unsent : ∀ created, w.Has created → w'.Unsent created → w.Unsent created) {event : DomainEvent}
    (listed : event ∈ w.emitted) {created : Created} (announces : event.announces = some created) :
    ¬ first.Has created ∧ ¬ w'.Unsent created ∧
      ∃ creation, w'.Holds creation ∧ creation.ToldBy event := by
  obtain ⟨unknown, sent, creation, held, told⟩ := announced.told event listed created announces
  obtain rfl := Option.some.inj (told.announces.symm.trans announces)
  exact ⟨unknown, fun waits => sent (unsent _ held.has waits), creation, holds creation held, told⟩

/-- Nothing is created, announced or queued. -/
theorem still (announced : Announced first due w) (same : w'.announced = w.announced)
    (events : ∀ event ∈ w'.emitted, ∀ created, event.announces = some created → event ∈ w.emitted)
    (has : ∀ created, w'.Has created ↔ w.Has created)
    (holds : ∀ creation, w.Holds creation → w'.Holds creation) (outbound : w'.outbound = w.outbound) :
    Announced first due w' := by
  have unsent : ∀ created, w.Has created → (w'.Unsent created ↔ w.Unsent created) :=
    fun created stored => stored.unsent_iff holds outbound
  constructor
  case once => exact same ▸ announced.once
  case told =>
    intro event listed created announces
    exact announced.told_of_holds holds (fun _ stored => (unsent _ stored).mp)
      (events event listed created announces) announces
  case owed =>
    intro i announcement owed
    obtain ⟨held, fresh, untold, waits⟩ := announced.owed i announcement owed
    exact ⟨holds _ held, fresh, same ▸ untold, waits.trans (unsent _ held.has).symm⟩
  case apart => exact announced.apart
  case all =>
    intro created stored
    have before := (has created).mp stored
    rw [same, unsent created before]
    exact announced.all created before
  case kept => exact fun created stored => (has created).mpr (announced.kept created stored)
  case jobs => exact fun job member => (has _).mpr (announced.jobs job (outbound ▸ member))

/-- What is due after the request `i` has moved. -/
theorem owed_update {moved : Option Due} {announcement : Due} {j : ℕ}
    (owed : Function.update due i moved j = some announcement) :
    (j = i ∧ moved = some announcement) ∨ (j ≠ i ∧ due j = some announcement) := by
  by_cases own : j = i
  · subst own
    exact .inl ⟨rfl, (Function.update_self j moved due).symm.trans owed⟩
  · exact .inr ⟨own, (Function.update_of_ne own moved due).symm.trans owed⟩

/-- What is due of a request is no longer due. -/
theorem owed_update_none {announcement : Due} {j : ℕ}
    (owed : Function.update due i none j = some announcement) :
    j ≠ i ∧ due j = some announcement :=
  (owed_update owed).resolve_left (by simp)

/-- What is due for something new is due nowhere else. -/
theorem apart_create (announced : Announced first due w) {announcement : Due}
    (new : ∀ j other, due j = some other →
      announcement.creation.created ≠ other.creation.created) :
    ∀ j k one other, Function.update due i (some announcement) j = some one →
      Function.update due i (some announcement) k = some other →
      one.creation.created = other.creation.created → j = k := by
  intro j k one other owed owed' equal
  obtain ⟨ownJ, ⟨⟩⟩ | ⟨-, owed⟩ := owed_update owed
  · obtain ⟨ownK, -⟩ | ⟨-, owed'⟩ := owed_update owed'
    · exact ownJ.trans ownK.symm
    · exact absurd equal (new k other owed')
  · obtain ⟨-, ⟨⟩⟩ | ⟨-, owed'⟩ := owed_update owed'
    · exact absurd equal.symm (new j one owed)
    · exact announced.apart j k one other owed owed' equal

/-- A request creates something, which is now due. -/
theorem create (announced : Announced first due w) {creation : Creation}
    (idle : due i = none) (fresh : ¬ w.Has creation.created) (stored : w'.Holds creation)
    (has : ∀ created, w'.Has created ↔ w.Has created ∨ creation.created = created)
    (holds : ∀ creation, w.Holds creation → w'.Holds creation) (emitted : w'.emitted = w.emitted)
    (outbound : w'.outbound = w.outbound) :
    Announced first (Function.update due i (some creation.due)) w' := by
  have same : w'.announced = w.announced := congrArg (List.filterMap _) emitted
  have unsent : ∀ created, w.Has created → (w'.Unsent created ↔ w.Unsent created) :=
    fun created stored => stored.unsent_iff holds outbound
  have new : ∀ j other, due j = some other → creation.created ≠ other.creation.created :=
    fun j other owed same => fresh (same ▸ (announced.owed j other owed).1.has)
  constructor
  case once => exact same ▸ announced.once
  case told =>
    intro event listed created announces
    exact announced.told_of_holds holds (fun _ stored => (unsent _ stored).mp) (emitted ▸ listed)
      announces
  case owed =>
    intro j other owed
    obtain ⟨-, ⟨⟩⟩ | ⟨-, owed⟩ := owed_update owed
    · refine ⟨stored, fun old => fresh (announced.kept _ old), fun told => fresh ?_, ?_⟩
      · exact announced.has_of_mem (same ▸ told)
      · -- no job can be for a message that was not there
        refine (stored.unsent_iff.trans (and_iff_left fun job member queued => ?_)).symm
        exact fresh (queued ▸ announced.jobs job (outbound ▸ member))
    · obtain ⟨held, unknown, untold, waits⟩ := announced.owed j other owed
      exact ⟨holds _ held, unknown, same ▸ untold, waits.trans (unsent _ held.has).symm⟩
  case apart => exact announced.apart_create new
  case all =>
    intro created known
    rw [same]
    rcases (has created).mp known with old | rfl
    · rw [unsent created old]
      rcases announced.all created old with before | told | waits | ⟨j, other, owed, rfl⟩
      · exact .inl before
      · exact .inr (.inl told)
      · exact .inr (.inr (.inl waits))
      · refine .inr (.inr (.inr ⟨j, other, ?_, rfl⟩))
        rw [Function.update_of_ne (by rintro rfl; cases idle.symm.trans owed)]
        exact owed
    · exact .inr (.inr (.inr ⟨i, creation.due, Function.update_self i _ due, rfl⟩))
  case kept => exact fun created old => (has created).mpr (.inl (announced.kept created old))
  case jobs => exact fun job member => (has _).mpr (.inl (announced.jobs job (outbound ▸ member)))

/-- What is due elsewhere. -/
theorem apart_update (announced : Announced first due w) {announcement announcement' : Due}
    (owed : due i = some announcement)
    (same : announcement'.creation.created = announcement.creation.created) :
    ∀ j k one other, Function.update due i (some announcement') j = some one →
      Function.update due i (some announcement') k = some other →
      one.creation.created = other.creation.created → j = k := by
  have before : ∀ j one, Function.update due i (some announcement') j = some one →
      ∃ old, due j = some old ∧ old.creation.created = one.creation.created := by
    intro j one found
    obtain ⟨rfl, ⟨⟩⟩ | ⟨-, found⟩ := owed_update found
    · exact ⟨announcement, owed, same.symm⟩
    · exact ⟨one, found, rfl⟩
  intro j k one other first second equal
  obtain ⟨old, owed, same⟩ := before j one first
  obtain ⟨old', owed', same'⟩ := before k other second
  exact announced.apart j k old old' owed owed' (same.trans (equal.trans same'.symm))

/-- A request queues the job of the message that is due. -/
theorem queue (announced : Announced first due w) {creation : Creation} {job : OutboundReplyJob}
    (owed : due i = some ⟨creation, true⟩) (own : .message job.messageId = creation.created) :
    Announced first (Function.update due i (some ⟨creation, false⟩))
      { w with outbound := w.outbound ++ [job] } := by
  have unsent : ∀ created, ({ w with outbound := w.outbound ++ [job] } : World).Unsent created ↔
      w.Unsent created ∧ created ≠ creation.created := by
    intro created
    rw [← own]
    cases created with
    | ticket id => simp [World.Unsent]
    | message id => simp [World.Unsent, or_imp, forall_and, and_assoc, eq_comm]
  obtain ⟨held, fresh, untold, -⟩ := announced.owed i _ owed
  constructor
  case once => exact announced.once
  case told =>
    intro event listed created announces
    exact announced.told_of_holds (fun creation holds => by cases creation <;> exact holds)
      (fun created _ waits => ((unsent created).mp waits).1) listed announces
  case owed =>
    intro j other owed'
    obtain ⟨-, ⟨⟩⟩ | ⟨same, owed'⟩ := owed_update owed'
    · refine ⟨by cases creation <;> exact held, fresh, untold, ?_⟩
      rw [unsent]
      exact iff_of_false Bool.false_ne_true fun waits => waits.2 rfl
    · obtain ⟨held', fresh', untold', waits⟩ := announced.owed j other owed'
      refine ⟨by cases creation : other.creation <;> exact creation ▸ held', fresh', untold', ?_⟩
      rw [unsent, and_iff_left fun equal => same (announced.apart j i other _ owed' owed equal)]
      exact waits
  case apart => exact announced.apart_update owed rfl
  case all =>
    intro created stored
    have before : w.Has created := by cases created <;> exact stored
    rcases announced.all created before with old | told | waits | ⟨j, other, owed', rfl⟩
    · exact .inl old
    · exact .inr (.inl told)
    · by_cases equal : created = creation.created
      · exact .inr (.inr (.inr ⟨i, _, Function.update_self i _ due, equal.symm⟩))
      · exact .inr (.inr (.inl ((unsent created).mpr ⟨waits, equal⟩)))
    · by_cases same : j = i
      · subst same
        obtain rfl := Option.some.inj (owed'.symm.trans owed)
        exact .inr (.inr (.inr ⟨j, _, Function.update_self j _ due, rfl⟩))
      · exact .inr (.inr (.inr ⟨j, other, (Function.update_of_ne same _ due).trans owed', rfl⟩))
  case kept =>
    intro created old
    have kept := announced.kept created old
    cases created <;> exact kept
  case jobs =>
    intro job' member
    rcases List.mem_append.mp member with old | new
    · exact announced.jobs job' old
    · obtain rfl := List.mem_singleton.mp new
      have stored : w.Has (.message job'.messageId) := own ▸ held.has
      exact stored

/-- The queue refuses the job of the message that is due. -/
theorem drop (announced : Announced first due w) {creation : Creation}
    (owed : due i = some ⟨creation, true⟩) : Announced first (Function.update due i none) w where
  once := announced.once
  told := announced.told
  owed := fun j other owed' => announced.owed j other (owed_update_none owed').2
  apart := fun j k one other owedJ owedK =>
    announced.apart j k one other (owed_update_none owedJ).2 (owed_update_none owedK).2
  all := by
    intro created stored
    rcases announced.all created stored with old | told | waits | ⟨j, other, owed', rfl⟩
    · exact .inl old
    · exact .inr (.inl told)
    · exact .inr (.inr (.inl waits))
    · by_cases own : j = i
      · rw [own, owed] at owed'
        obtain rfl := Option.some.inj owed'
        exact .inr (.inr (.inl ((announced.owed i _ owed).2.2.2.mp rfl)))
      · exact .inr (.inr (.inr ⟨j, other, (Function.update_of_ne own _ due).trans owed', rfl⟩))
  kept := announced.kept
  jobs := announced.jobs

/-- A request announces what was due. -/
theorem tell (announced : Announced first due w) {creation : Creation} {event : DomainEvent}
    (owed : due i = some ⟨creation, false⟩) (told : creation.ToldBy event)
    (emitted : w'.emitted = w.emitted ++ [event]) (has : ∀ created, w'.Has created ↔ w.Has created)
    (holds : ∀ creation, w.Holds creation → w'.Holds creation) (outbound : w'.outbound = w.outbound) :
    Announced first (Function.update due i none) w' := by
  have same : w'.announced = w.announced ++ [creation.created] := by
    simp [World.announced, emitted, told.announces]
  have unsent : ∀ created, w.Has created → (w'.Unsent created ↔ w.Unsent created) :=
    fun created stored => stored.unsent_iff holds outbound
  obtain ⟨held, fresh, untold, sent⟩ := announced.owed i _ owed
  constructor
  case once =>
    rw [same]
    exact List.nodup_append.mpr ⟨announced.once, List.nodup_singleton _,
      fun created member other single => by
        rintro rfl
        exact untold (List.mem_singleton.mp single ▸ member)⟩
  case told =>
    intro event' listed created announces
    rw [emitted] at listed
    rcases List.mem_append.mp listed with old | new
    · exact announced.told_of_holds holds (fun _ stored => (unsent _ stored).mp) old announces
    · obtain rfl := List.mem_singleton.mp new
      obtain rfl := Option.some.inj (told.announces.symm.trans announces)
      refine ⟨fresh, fun waits => ?_, creation, holds creation held, told⟩
      exact Bool.false_ne_true (sent.mpr ((unsent _ held.has).mp waits))
  case owed =>
    intro j other owed'
    obtain ⟨own, owed'⟩ := owed_update_none owed'
    obtain ⟨held', unknown, untold', waits⟩ := announced.owed j other owed'
    refine ⟨holds _ held', unknown, ?_, waits.trans (unsent _ held'.has).symm⟩
    rw [same, List.mem_append, List.mem_singleton]
    rintro (old | equal)
    · exact untold' old
    · exact own (announced.apart j i other _ owed' owed equal)
  case apart =>
    exact fun j k one other owedJ owedK =>
      announced.apart j k one other (owed_update_none owedJ).2 (owed_update_none owedK).2
  case all =>
    intro created known
    have stored := (has created).mp known
    rw [same, List.mem_append, List.mem_singleton, unsent created stored]
    rcases announced.all created stored with before | old | waits | ⟨j, other, owed', rfl⟩
    · exact .inl before
    · exact .inr (.inl (.inl old))
    · exact .inr (.inr (.inl waits))
    · by_cases own : j = i
      · rw [own, owed] at owed'
        obtain rfl := Option.some.inj owed'
        exact .inr (.inl (.inr rfl))
      · exact .inr (.inr (.inr ⟨j, other, (Function.update_of_ne own _ due).trans owed', rfl⟩))
  case kept => exact fun created old => (has created).mpr (announced.kept created old)
  case jobs => exact fun job member => (has _).mpr (announced.jobs job (outbound ▸ member))

/-- A command that its monitor allows and that is not refused keeps all this. -/
theorem performed (announced : Announced first due w) {c : Call}
    (allowed : announcer.allows (due i) c) :
    Announced first (Function.update due i (announcer.next (due i) c (w.perform c).1))
      (w.perform c).2 := by
  have holds : ∀ creation, w.Holds creation → (w.perform c).2.Holds creation :=
    fun _ held => held.perform c
  rcases w.outbound_cases c with ⟨job, rfl, -⟩ | ⟨unqueued, outbound⟩
  · obtain ⟨creation, owed, own⟩ := allowed.2.1 job rfl
    have moved : announcer.next (due i) (.enqueueReply job) (w.perform (.enqueueReply job)).1 =
        some ⟨creation, false⟩ := by
      rw [owed]
      rfl
    rw [moved]
    exact announced.queue owed own
  · rcases w.emitted_perform c with ⟨event, rfl, emitted⟩ | ⟨silent, emitted⟩
    · have has : ∀ created, (w.perform (.emit event)).2.Has created ↔ w.Has created :=
        World.has_of_creates_none rfl
      by_cases plain : event.announces = none
      · have unmoved : announcer.next (due i) (.emit event) (w.perform (.emit event)).1 = due i :=
          if_pos plain
        rw [unmoved, Function.update_eq_self]
        refine announced.still ?_ ?_ has holds outbound
        · simp [World.announced, emitted, plain]
        · intro event' listed created announces
          rw [emitted] at listed
          rcases List.mem_append.mp listed with old | new
          · exact old
          · cases (List.mem_singleton.mp new ▸ plain).symm.trans announces
      · have moved : announcer.next (due i) (.emit event) (w.perform (.emit event)).1 = none :=
          if_neg plain
        obtain ⟨creation, owed, told⟩ := (allowed.2.2 event rfl).resolve_left plain
        rw [moved]
        exact announced.tell owed told emitted has holds outbound
    · rw [announcer_next (Call.tells_eq_false silent unqueued)]
      cases creates : c.creates (w.perform c).1 with
      | none =>
          rw [Option.map_none, Option.none_or, Function.update_eq_self]
          exact announced.still (congrArg (List.filterMap _) emitted)
            (fun event listed _ _ => emitted ▸ listed) (World.has_of_creates_none creates) holds
            outbound
      | some creation =>
          have creator : c.creator = true := by
            by_contra other
            rw [Bool.not_eq_true] at other
            cases (Call.creates_of_not_creator other _).symm.trans creates
          obtain ⟨fresh, stored, has⟩ := World.creates_perform creates
          exact announced.create (allowed.1 creator) fresh stored has holds emitted outbound

/-- **A command that its monitor allows keeps all this**, whether it is refused or not. -/
theorem perform {s : Faulty} (announced : Announced first due s.world) {c : Call}
    (allowed : announcer.allows (due i) c) :
    Announced first (Function.update due i (announcer.next (due i) c (s.perform c).1))
      (s.perform c).2.world := by
  rcases s.perform_cases c with performed | ⟨awaited, e, refused⟩
  · rw [performed]
    exact announced.performed allowed
  · rw [refused]
    by_cases queues : ∃ job, c = .enqueueReply job
    · obtain ⟨job, rfl⟩ := queues
      obtain ⟨creation, owed, -⟩ := allowed.2.1 job rfl
      exact announced.drop owed
    · have silent : ∀ event, c ≠ .emit event := by
        rintro event rfl
        cases awaited
      rw [announcer_next (Call.tells_eq_false silent fun job same => queues ⟨job, same⟩),
        c.creates_error, Option.map_none, Option.none_or, Function.update_eq_self]
      exact announced

theorem act {s : Faulty} (announced : Announced first due s.world) (disturbance : Disturbance) :
    Announced first due (s.act disturbance).world := by
  cases disturbance with
  | refuse refuses => exact announced
  | pass milliseconds =>
      exact announced.still rfl (fun _ listed _ _ => listed)
        (fun created => by cases created <;> exact Iff.rfl)
        (fun creation held => by cases creation <;> exact held) rfl

end Announced

/-- **What is new is announced, once, and as what it is.** However requests and queue jobs
interleave, wherever their processes die, and whatever the database, the queue and Telegram refuse,
no ticket and no message is announced twice, and an announcement names a ticket or message that is
stored, with its ticket, its direction and its agent; a message that goes out has its job in the
queue by then. When all requests have come to an end, what they have created is exactly what they
have announced, but for the messages whose job was refused. -/
theorem announced_once (config : Config) (requests : List Request) {w w' : World}
    (schedule : List (Act Disturbance)) (silent : w.emitted = [])
    (jobs : ∀ job ∈ w.outbound, w.Has (.message job.messageId))
    (run : w' = ((Requests.disturbed config requests w).exec (fun _ => Faulty.perform)
      (fun disturbance s => s.act disturbance) schedule).state.world) :
    w'.announced.Nodup ∧
      (∀ event ∈ w'.emitted, ∀ created, event.announces = some created → ¬ w'.Unsent created ∧
        ∃ creation, w'.Holds creation ∧ creation.ToldBy event) ∧
      (((Requests.disturbed config requests w).exec (fun _ => Faulty.perform)
          (fun disturbance s => s.act disturbance) schedule).Done → ∀ created,
        created ∈ w'.announced ↔ w'.Has created ∧ ¬ w.Has created ∧ ¬ w'.Unsent created) := by
  subst run
  have watched : (Requests.disturbed config requests w).Watched (fun _ => Faulty.perform) announcer
      (fun _ due => due = none) (fun _ => none) := by
    intro i p present
    obtain ⟨request, -, rfl⟩ := List.mem_map.mp (List.mem_of_getElem? present)
    exact request.announcing config
  obtain ⟨due, watched', announced, idle⟩ := Pool.watched_exec
    (E := fun disturbance (s : Faulty) => s.act disturbance)
    (J := fun due (s : Faulty) => Announced w due s.world)
    (fun i c s due announced allowed => announced.perform allowed)
    (fun disturbance s due announced => announced.act disturbance) watched
    (Announced.start silent jobs) schedule
  refine ⟨announced.once, fun event listed created announces =>
    (announced.told event listed created announces).2, fun done created => ?_⟩
  constructor
  · intro member
    obtain ⟨event, listed, same⟩ := List.mem_filterMap.mp member
    obtain ⟨fresh, sent, -⟩ := announced.told event listed created same
    exact ⟨announced.has_of_mem member, fresh, sent⟩
  · rintro ⟨has, new, sent⟩
    rcases announced.all created has with old | told | waits | ⟨i, announcement, owed, rfl⟩
    · exact absurd old new
    · exact told
    · exact absurd waits sent
    · -- Nothing is due for a request that has ended, nor where there is none.
      exfalso
      cases present : ((Requests.disturbed config requests w).exec (fun _ => Faulty.perform)
          (fun disturbance s => s.act disturbance) schedule).programs[i]? with
      | none =>
          have absent : (Requests.disturbed config requests w).programs[i]? = none := by
            rw [List.getElem?_eq_none_iff] at present ⊢
            exact present.trans' (Pool.length_exec _ schedule).ge
          cases (idle i absent).symm.trans owed
      | some p =>
          obtain ⟨r, rfl⟩ := done p (List.mem_of_getElem? present)
          cases (watched'.result present).symm.trans owed

/-! The queue executes a job a second time, and an agent answers twice: the first answer is
refused by the outbound queue. -/

namespace SecondExecution

def requests : List Request :=
  [.ingest (greeting 7), .ingest (greeting 7), .reply ⟨0, 0, "Вітаю!", none, none⟩,
    .reply ⟨0, 0, "Вітаю!", none, none⟩]

/-- A command of the outbound queue. -/
def queues : Call → Bool
  | .enqueueReply _ => true
  | _ => false

def schedule : List (Act Disturbance) :=
  List.replicate 20 (.turn 0) ++ List.replicate 20 (.turn 1) ++ .env (.refuse queues) ::
    List.replicate 20 (.turn 2) ++ .env (.refuse fun _ => false) :: List.replicate 20 (.turn 3)

def final : World :=
  ((Requests.disturbed .default requests .seeded).exec (fun _ => Faulty.perform)
    (fun disturbance s => s.act disturbance) schedule).state.world

end SecondExecution

set_option maxRecDepth 20000 in
/-- The second execution announces nothing, and the refused answer is stored and not announced. -/
theorem announced_once_again :
    SecondExecution.final.announced = [.ticket 0, .message 0, .message 1, .message 3] ∧
      SecondExecution.final.messages.rows.map (·.id) = [0, 1, 2, 3] ∧
      ∀ created, created ∈ SecondExecution.final.announced ↔
        SecondExecution.final.Has created ∧ ¬ World.seeded.Has created ∧
          ¬ SecondExecution.final.Unsent created :=
  ⟨by decide, by decide, (announced_once .default SecondExecution.requests SecondExecution.schedule
    rfl (by simp [World.seeded, World.initial]) rfl).2.2 (by decide)⟩

end SupportCrm
