import SupportCrm.System

/-!
# Coordination

A customer writes several messages in a row, and several Workers processes take them up at
once. Rule 2 looks for a recent thread in one step and a new thread is created in a later
one, with no lock and no unique index between them. `Progress` records how far a worker has
come with its message, and the workers take turns if none looks for a thread between the
vain search of another and the thread that the other then creates (`Burst.TakesTurns`).

`Burst.Coordinated` is what holds of the store and of the progress of all workers as long as
they do. Each step of a worker keeps it.
-/

set_option autoImplicit false

namespace SupportCrm

open KeyedTable AtomicProgram

/-! ## Workers -/

/-- Messages of one customer in one chat, the store when the first worker takes one up, and
the moment by which all of them are processed. -/
structure Burst where
  config : Config
  telegramChatId : ℤ
  telegramUserId : ℤ
  messages : List NormalizedIncomingMessage
  start : World
  deadline : Time

/-- What a worker has done with its message: its clock reading, whether its search for a
recent thread was in vain and it has not yet created one, the thread it has found or
created, and whether it has created a thread, stored an acknowledgement and enqueued it. -/
structure Progress where
  asked : Option Time := none
  vain : Bool := false
  thread : Option TicketId := none
  made : Bool := false
  acknowledged : Bool := false
  queued : Bool := false
  deriving DecidableEq, Repr

/-- The active thread that rule 2 finds, if it saw activity within the idle window. -/
def World.recentThread (config : Config) (w : World) (asked : Option Time) (chatId : ChatId)
    (customerId : CustomerId) : Option TicketId :=
  ((w.findMostRecentActiveTicket chatId customerId).filter fun active => asked.any fun now =>
    now - active.lastActivityAt < config.threadIdleWindowMinutes * 60000).map (·.ticketId)

/-- How the commands of a worker move its progress. -/
def Progress.note (config : Config) (c : Call) (w : World) (progress : Progress) : Progress :=
  match c with
  | .newDate => { progress with asked := some w.now }
  | .findMostRecentActiveTicket chatId customerId =>
      let found := w.recentThread config progress.asked chatId customerId
      { progress with thread := found, vain := found.isNone }
  | .ticketCreate data =>
      match w.ticketCreate data with
      | .ok (ticket, _) =>
          { progress with vain := false, thread := some ticket.ticket.id, made := true }
      | .error _ => progress
  | .acknowledgementCreate _ _ => { progress with acknowledged := true }
  | .enqueueReply _ => { progress with queued := true }
  | _ => progress

namespace Burst

variable (b : Burst)

/-- The idle window in milliseconds. -/
def window : ℤ := b.config.threadIdleWindowMinutes * 60000

/-- The workers at their beginning. The queue gives each message up to five tries. -/
def workers : Pool Call Call.Resp Err IngestResult World :=
  ⟨b.messages.map fun message => (process b.config message).attempts 4, b.start⟩

/-- The workers after a schedule of steps. -/
def after (schedule : List (Act ℕ)) : Pool Call Call.Resp Err IngestResult World :=
  b.workers.exec (fun _ => World.perform) World.advance schedule

/-- All steps happen by the deadline. -/
def InTime (schedule : List (Act ℕ)) : Prop :=
  b.workers.Meets (fun _ => World.perform) World.advance (fun _ _ _ => True)
    (fun milliseconds w => w.now + milliseconds ≤ b.deadline) schedule

/-- The progress of each worker, noted at its own commands. -/
def notes (i : ℕ) (c : Call) (w : World) (progress : ℕ → Progress) : ℕ → Progress :=
  Function.update progress i ((progress i).note b.config c w)

/-- A worker looks for a recent thread only while no other worker has looked in vain and not
yet created its thread. -/
def TakesTurn (i : ℕ) (c : Call) (progress : ℕ → Progress) : Prop :=
  match c with
  | .findMostRecentActiveTicket _ _ =>
      ∀ j < b.messages.length, j ≠ i → (progress j).vain = false
  | _ => True

instance (i : ℕ) (c : Call) (progress : ℕ → Progress) : Decidable (b.TakesTurn i c progress) := by
  unfold TakesTurn
  split <;> infer_instance

/-- The workers take turns along the schedule. -/
def TakesTurns (schedule : List (Act ℕ)) : Prop :=
  (b.workers.withRecord fun _ => {}).Meets (Pool.observed (fun _ => World.perform) b.notes)
    (Pool.unrecorded World.advance) (fun i c s => b.TakesTurn i c s.2) (fun _ _ => True) schedule

instance (schedule : List (Act ℕ)) : Decidable (b.TakesTurns schedule) :=
  Pool.decidableMeets _ _ _ _

instance (schedule : List (Act ℕ)) : Decidable (b.InTime schedule) :=
  Pool.decidableMeets _ _ _ _

/-- The identifier that the chat has, or that it gets when it is created. -/
def chatId : ChatId := b.start.chats.idOf b.telegramChatId

/-- The identifier that the customer has, or gets. -/
def customerId : CustomerId := b.start.customers.idOf b.telegramUserId

/-- The active thread of the customer in the chat that was last updated. -/
def latest (w : World) : Option (Entry Ticket) :=
  w.tickets.latest (World.activeTicket b.chatId b.customerId) Ticket.updatedAt

/-- The message is one of the customer in the chat, and no reply. -/
structure Carries (message : NormalizedIncomingMessage) : Prop where
  chat : message.telegramChatId = b.telegramChatId
  user : message.fromTelegramUserId = b.telegramUserId
  noReply : message.replyToTgMessageId = none
  customer : b.start.Classifies message.fromTelegramUserId message.fromUsername (.ok .customer)
    b.start.excludedSenders

/-- A burst within the idle window: the window does not run out before the deadline, neither
that of a thread that is there at the start nor that of a new one. -/
structure Within : Prop where
  linked : b.start.Linked
  timely : b.start.Timely
  carries : ∀ message ∈ b.messages, b.Carries message
  started : b.start.now ≤ b.deadline
  short : b.deadline - b.start.now < b.window
  settled : ∀ ticket, b.latest b.start = some ticket →
    b.start.now - ticket.val.updatedAt < b.window → b.deadline - ticket.val.updatedAt < b.window

end Burst

/-- The number of acknowledgements: only they are messages of the bot. -/
def World.acknowledgements (w : World) : ℕ := w.messages.rows.countP (·.val.sender = .bot)

/-- At most one thread, one acknowledgement and one outbound job are new, and when all
workers have ended, one thread holds all messages. -/
structure Burst.OneThread (b : Burst) (pool : Pool Call Call.Resp Err IngestResult World) :
    Prop where
  tickets : pool.state.tickets.rows.length ≤ b.start.tickets.rows.length + 1
  acknowledgements : pool.state.acknowledgements ≤ b.start.acknowledgements + 1
  jobs : pool.state.outbound.length ≤ b.start.outbound.length + 1
  together : pool.Done → ∃ ticketId, ∀ message ∈ b.messages,
    (pool.state.messages.findKey? (message.tgMessageId, ticketId)).isSome

/-! ## What the workers keep -/

/-- What no command of a worker takes back. -/
structure World.Grows (w w' : World) : Prop where
  now : w.now ≤ w'.now
  chat : ∀ telegramChatId chat, w.chats.findKey? telegramChatId = some chat →
    w'.chats.findKey? telegramChatId = some chat
  customer : ∀ telegramUserId customer, w.customers.findKey? telegramUserId = some customer →
    ∃ customer', w'.customers.findKey? telegramUserId = some customer' ∧
      customer'.id = customer.id
  message : ∀ key, (w.messages.findKey? key).isSome → (w'.messages.findKey? key).isSome

namespace World.Grows

theorem refl (w : World) : w.Grows w :=
  ⟨le_rfl, fun _ _ => id, fun _ customer found => ⟨customer, found, rfl⟩, fun _ => id⟩

theorem trans {w w' w'' : World} (first : w.Grows w') (second : w'.Grows w'') : w.Grows w'' where
  now := first.now.trans second.now
  chat := fun key chat found => second.chat key chat (first.chat key chat found)
  customer := by
    intro key customer found
    obtain ⟨customer', found', same⟩ := first.customer key customer found
    obtain ⟨customer'', found'', same'⟩ := second.customer key customer' found'
    exact ⟨customer'', found'', same'.trans same⟩
  message := fun key stored => second.message key (first.message key stored)

/-- A new message hides no other. -/
theorem insertMessage {w : World} {message : Message} (free : w.messages.Free message)
    (key : ℤ × TicketId) (stored : (w.messages.findKey? key).isSome) :
    ((w.messages.insert message free).findKey? key).isSome := by
  obtain ⟨row, found⟩ := Option.isSome_iff_exists.mp stored
  exact Option.isSome_iff_exists.mpr ⟨row, Table.findKey?_insert_of_some found⟩

end World.Grows

namespace Burst

variable {b : Burst} {w w' : World} {s s' : World × (ℕ → Progress)} {i : ℕ}

/-- The commands of the workers of a burst: no classification binds a record, and only the
one chat and the one customer are created. -/
def Commands (b : Burst) (c : Call) : Prop :=
  c.writesSenders = false ∧
    match c with
    | .agentUpdate _ _ | .messageConfirm _ _ => False
    | .chatCreate telegramChatId _ => telegramChatId = b.telegramChatId
    | .customerCreate telegramUserId _ _ => telegramUserId = b.telegramUserId
    | _ => True

/-- The commands of the workers undo nothing. -/
theorem grows_perform {c : Call} (commands : b.Commands c) : w.Grows (w.perform c).2 := by
  have step := w.perform_step c
  generalize (w.perform c).2 = w' at step
  have same := World.Grows.refl w
  cases step
  case agents => exact commands.2.elim
  case confirm => exact commands.2.elim
  case chatCreate telegramChatId title free =>
    exact { same with
      chat := fun _ _ found => show (w.chats.insert _ free).findKey? _ = _ from
        Table.findKey?_insert_of_some found }
  case customerCreate telegramUserId username displayName free =>
    exact { same with
      customer := fun _ customer found => ⟨customer,
        show (w.customers.insert _ free).findKey? _ = _ from
          Table.findKey?_insert_of_some found, rfl⟩ }
  case customerUpdate id username displayName =>
    exact { same with
      customer := by
        intro key customer found
        refine ⟨customer.change id (World.profile username displayName), ?_, by simp⟩
        rw [Table.findKey?_update, found]
        rfl }
  case record ticketId tgMessageId text attachments present free =>
    exact { same with message := World.Grows.insertMessage free }
  case acknowledge ticketId text message free present own out pending created bot =>
    exact { same with message := World.Grows.insertMessage free }
  case reply ticketId agentId text attachments firstResponse message free present own out
      pending created agent =>
    exact { same with message := World.Grows.insertMessage free }
  all_goals exact { same with }

/-- The state of the store during a burst, apart from the threads. -/
structure Steady (b : Burst) (w : World) : Prop where
  linked : w.Linked
  timely : w.Timely
  started : b.start.now ≤ w.now
  ended : w.now ≤ b.deadline
  agents : w.agents = b.start.agents
  senders : w.excludedSenders = b.start.excludedSenders
  chat : w.chats.idOf b.telegramChatId = b.chatId
  customer : w.customers.idOf b.telegramUserId = b.customerId

theorem Steady.perform {c : Call} (steady : b.Steady w) (commands : b.Commands c) :
    b.Steady (w.perform c).2 := by
  have linked := steady.linked.perform c
  have timely := steady.timely.perform c
  have started : b.start.now ≤ (w.perform c).2.now := by simpa using steady.started
  have ended : (w.perform c).2.now ≤ b.deadline := by simpa using steady.ended
  have step := w.perform_step c
  generalize (w.perform c).2 = w' at step linked timely started ended
  cases step
  case agents => exact commands.2.elim
  case confirm => exact commands.2.elim
  case excludedSenders excludedSenders writes => cases writes.symm.trans commands.1
  case chatCreate telegramChatId title free =>
    obtain rfl : telegramChatId = b.telegramChatId := commands.2
    exact ⟨linked, timely, started, ended, steady.agents, steady.senders,
      (Table.idOf_insert free (by rfl)).trans steady.chat, steady.customer⟩
  case customerCreate telegramUserId username displayName free =>
    obtain rfl : telegramUserId = b.telegramUserId := commands.2
    exact ⟨linked, timely, started, ended, steady.agents, steady.senders, steady.chat,
      (Table.idOf_insert free (by rfl)).trans steady.customer⟩
  case customerUpdate id username displayName =>
    exact ⟨linked, timely, started, ended, steady.agents, steady.senders, steady.chat,
      (Table.idOf_update (World.profile_key username displayName) _).trans steady.customer⟩
  all_goals exact ⟨linked, timely, started, ended, steady.agents, steady.senders, steady.chat,
    steady.customer⟩

/-- The worker's thread is the one that every search finds until the deadline. -/
def Shares (b : Burst) (w : World) (ticketId : TicketId) : Prop :=
  ∃ ticket, b.latest w = some ticket ∧ ticket.id = ticketId ∧
    b.deadline - ticket.val.updatedAt < b.window

theorem Shares.unique {ticketId ticketId' : TicketId} (shares : b.Shares w ticketId)
    (shares' : b.Shares w ticketId') : ticketId' = ticketId := by
  obtain ⟨ticket, latest, rfl, -⟩ := shares
  obtain ⟨ticket', latest', rfl, -⟩ := shares'
  rw [Option.some.inj (latest'.symm.trans latest)]

/-- The thread that a search finds. -/
theorem recentThread_eq_some_iff {asked : Time} {ticketId : TicketId} :
    w.recentThread b.config (some asked) b.chatId b.customerId = some ticketId ↔
      ∃ ticket, b.latest w = some ticket ∧ ticket.id = ticketId ∧
        asked - ticket.val.updatedAt < b.window := by
  simp only [World.recentThread, World.findMostRecentActiveTicket, Burst.latest, Burst.window,
    Option.map_eq_some_iff, Option.filter_eq_some_iff, Option.any_some, decide_eq_true_eq]
  constructor
  · rintro ⟨active, ⟨⟨ticket, latest, rfl⟩, recent⟩, own⟩
    exact ⟨ticket, latest, own, recent⟩
  · rintro ⟨ticket, latest, own, recent⟩
    exact ⟨_, ⟨⟨ticket, latest, rfl⟩, recent⟩, own⟩

/-- At most one of a kind is new, and none as long as no worker made one. -/
def OneNew (before after : ℕ) (made : ℕ → Bool) : Prop :=
  after ≤ before + 1 ∧ ((∀ j, made j = false) → after ≤ before)

theorem OneNew.raise {before after after' : ℕ} {made made' : ℕ → Bool}
    (oneNew : OneNew before after made) (raised : after' ≤ after + 1)
    (nobody : ∀ j, made j = false) (maker : made' i = true) : OneNew before after' made' :=
  ⟨raised.trans (Nat.succ_le_succ (oneNew.2 nobody)),
    fun none => by cases maker.symm.trans (none i)⟩

/-- What holds of the store and of the progress of the workers as long as they take turns:
all found or created threads are the one that is shared, a worker whose search was in vain
is the only one without company, and at most one worker creates and acknowledges a
thread. -/
structure Coordinated (b : Burst) (s : World × (ℕ → Progress)) : Prop where
  steady : b.Steady s.1
  settled : ∀ ticket, b.latest s.1 = some ticket →
    b.start.now - ticket.val.updatedAt < b.window → b.deadline - ticket.val.updatedAt < b.window
  idle : ∀ j, b.messages.length ≤ j → s.2 j = {}
  thread : ∀ j ticketId, (s.2 j).thread = some ticketId → b.Shares s.1 ticketId
  vain : ∀ j, (s.2 j).vain = true →
    ∀ ticket, b.latest s.1 = some ticket → ticket.val.updatedAt < s.1.now
  alone : ∀ j, (s.2 j).vain = true → ∀ i, (s.2 i).thread = none ∧ ((s.2 i).vain = true → i = j)
  made : ∀ j, (s.2 j).made = true → (s.2 j).thread.isSome
  maker : ∀ i j, (s.2 i).made = true → (s.2 j).made = true → i = j
  acknowledged : ∀ j, (s.2 j).acknowledged = true → (s.2 j).made = true
  queued : ∀ j, (s.2 j).queued = true → (s.2 j).made = true
  tickets : OneNew b.start.tickets.rows.length s.1.tickets.rows.length fun j => (s.2 j).made
  acknowledgements :
    OneNew b.start.acknowledgements s.1.acknowledgements fun j => (s.2 j).acknowledged
  jobs : OneNew b.start.outbound.length s.1.outbound.length fun j => (s.2 j).queued

namespace Coordinated

variable {progress : ℕ → Progress}

/-- The store changes, the shared thread stays shared, and nothing is new. -/
theorem store (coordinated : b.Coordinated (w, progress)) (steady : b.Steady w')
    (settled : ∀ ticket, b.latest w' = some ticket →
      b.start.now - ticket.val.updatedAt < b.window →
        b.deadline - ticket.val.updatedAt < b.window)
    (shares : ∀ j ticketId, (progress j).thread = some ticketId → b.Shares w' ticketId)
    (vain : ∀ j, (progress j).vain = true → b.latest w' = b.latest w ∧ w.now ≤ w'.now)
    (tickets : w'.tickets.rows.length = w.tickets.rows.length)
    (acknowledgements : w'.acknowledgements = w.acknowledgements)
    (jobs : w'.outbound = w.outbound) : b.Coordinated (w', progress) :=
  { coordinated with
    steady := steady
    settled := settled
    thread := shares
    vain := by
      intro j searching ticket latest
      obtain ⟨same, up⟩ := vain j searching
      exact (coordinated.vain j searching ticket (same ▸ latest)).trans_le up
    tickets := by simpa only [tickets] using coordinated.tickets
    acknowledgements := by simpa only [acknowledgements] using coordinated.acknowledgements
    jobs := by simpa only [jobs] using coordinated.jobs }

/-- A change that does not touch threads, messages or jobs. -/
theorem frame (coordinated : b.Coordinated (w, progress)) (steady : b.Steady w')
    (tickets : w'.tickets = w.tickets) (messages : w'.messages = w.messages)
    (jobs : w'.outbound = w.outbound) (now : w.now ≤ w'.now) :
    b.Coordinated (w', progress) := by
  have latest : b.latest w' = b.latest w := by simp only [Burst.latest, tickets]
  refine coordinated.store steady ?_ ?_ (fun _ _ => ⟨latest, now⟩) (by rw [tickets])
    (by simp only [World.acknowledgements, messages]) jobs
  · rw [latest]
    exact coordinated.settled
  · intro j ticketId held
    simpa only [Shares, latest] using coordinated.thread j ticketId held

/-- An update of the shared thread that leaves it active. -/
theorem touch (coordinated : b.Coordinated (w, progress)) (within : b.Within) {ticketId : TicketId}
    (held : (progress i).thread = some ticketId) {data : TicketData}
    (live : ∀ status ∈ data.status, status.terminal = false) (steady : b.Steady w')
    (tickets : w'.tickets = w.tickets.update ticketId (data.apply w.now) (data.apply_key w.now))
    (acknowledgements : w'.acknowledgements = w.acknowledgements)
    (jobs : w'.outbound = w.outbound) : b.Coordinated (w', progress) := by
  obtain ⟨ticket, latest, own, -⟩ := coordinated.thread i ticketId held
  obtain ⟨member, active⟩ := Table.mem_of_latest latest
  simp only [World.activeTicket, Bool.and_eq_true, Bool.not_eq_true'] at active
  have after : b.latest w' = some ⟨ticketId, data.apply w.now ticket.val⟩ := by
    rw [Burst.latest, tickets]
    refine Table.latest_update _ latest own (fun other listed => ?_)
      (coordinated.steady.timely.ticket ticket member)
    by_cases same : other.id = ticketId
    · obtain rfl := Table.eq_of_id_eq listed member (same.trans own.symm)
      have status : (data.status.getD other.val.status).terminal = false := by
        cases set : data.status with
        | none => exact active.2
        | some status => exact live status set
      simp [Entry.change, own, World.activeTicket, status, active.2]
    · rw [Entry.change_of_ne ticketId (data.apply w.now) same]
  have fresh : b.deadline - w.now < b.window :=
    (Int.sub_le_sub_left coordinated.steady.started _).trans_lt within.short
  refine coordinated.store steady ?_ ?_ ?_ (by simp [tickets]) acknowledgements jobs
  · intro ticket' latest' _
    obtain rfl := Option.some.inj (after.symm.trans latest')
    exact fresh
  · intro j ticketId' held'
    obtain rfl := (coordinated.thread i ticketId held).unique (coordinated.thread j ticketId' held')
    exact ⟨_, after, rfl, fresh⟩
  · intro j searching
    cases held.symm.trans (coordinated.alone j searching i).1

/-! ### The steps that move the progress -/

theorem field_update {α : Type} (progress : ℕ → Progress) (i : ℕ) (field : Progress → α)
    {p : Progress} (same : field p = field (progress i)) (j : ℕ) :
    field (Function.update progress i p j) = field (progress j) := by
  by_cases own : j = i
  · subst own
    rw [Function.update_self, same]
  · rw [Function.update_of_ne own]

/-- What is set for one worker only after a step of it. -/
theorem eq_of_update {progress : ℕ → Progress} (flag : Progress → Bool)
    (others : ∀ j, j ≠ i → flag (progress j) = false) {p : Progress} {j : ℕ}
    (set : flag (Function.update progress i p j) = true) : j = i := by
  by_contra other
  rw [Function.update_of_ne other, others j other] at set
  cases set

theorem idle_update (coordinated : b.Coordinated (w, progress)) (inside : i < b.messages.length)
    (p : Progress) : ∀ j, b.messages.length ≤ j → Function.update progress i p j = {} := by
  intro j outside
  rw [Function.update_of_ne (inside.trans_le outside).ne']
  exact coordinated.idle j outside

/-- A worker reads the clock or searches. -/
theorem turn (coordinated : b.Coordinated (w, progress)) (inside : i < b.messages.length)
    {p : Progress} (made : p.made = (progress i).made)
    (acknowledged : p.acknowledged = (progress i).acknowledged)
    (queued : p.queued = (progress i).queued) (unmade : (progress i).made = false)
    (thread : ∀ ticketId, p.thread = some ticketId → b.Shares w ticketId)
    (vain : p.vain = true →
      (∀ ticket, b.latest w = some ticket → ticket.val.updatedAt < w.now) ∧ p.thread = none ∧
        ∀ j, j ≠ i → (progress j).thread = none ∧ (progress j).vain = false)
    (others : ∀ j, j ≠ i → (progress j).vain = true → p.thread = none ∧ p.vain = false) :
    b.Coordinated (w, Function.update progress i p) := by
  have sameMade := field_update progress i Progress.made made
  have sameAcknowledged := field_update progress i Progress.acknowledged acknowledged
  have sameQueued := field_update progress i Progress.queued queued
  exact {
    steady := coordinated.steady
    settled := coordinated.settled
    idle := coordinated.idle_update inside p
    thread := (Function.forall_update_iff progress fun _ q => ∀ ticketId,
      q.thread = some ticketId → b.Shares w ticketId).mpr
        ⟨thread, fun j _ => coordinated.thread j⟩
    vain := (Function.forall_update_iff progress fun _ q => q.vain = true → ∀ ticket,
      b.latest w = some ticket → ticket.val.updatedAt < w.now).mpr
        ⟨fun searching => (vain searching).1, fun j _ => coordinated.vain j⟩
    alone := by
      refine (Function.forall_update_iff progress fun j q => q.vain = true → ∀ k,
        (Function.update progress i p k).thread = none ∧
          ((Function.update progress i p k).vain = true → k = j)).mpr
        ⟨fun searching => ?_, fun j other searching => ?_⟩
      · obtain ⟨-, unheld, others⟩ := vain searching
        refine (Function.forall_update_iff progress fun k q =>
          q.thread = none ∧ (q.vain = true → k = i)).mpr ⟨⟨unheld, fun _ => rfl⟩, fun k same => ?_⟩
        exact ⟨(others k same).1, fun also => by cases (others k same).2.symm.trans also⟩
      · obtain ⟨unheld, idle⟩ := others j other searching
        exact (Function.forall_update_iff progress fun k q =>
          q.thread = none ∧ (q.vain = true → k = j)).mpr
          ⟨⟨unheld, fun also => by cases idle.symm.trans also⟩,
            fun k _ => coordinated.alone j searching k⟩
    made := (Function.forall_update_iff progress fun _ q =>
      q.made = true → q.thread.isSome).mpr
        ⟨fun also => (by cases (made.trans unmade).symm.trans also),
          fun j _ => coordinated.made j⟩
    maker := by simpa only [sameMade] using coordinated.maker
    acknowledged := by simpa only [sameMade, sameAcknowledged] using coordinated.acknowledged
    queued := by simpa only [sameMade, sameQueued] using coordinated.queued
    tickets := by simpa only [sameMade] using coordinated.tickets
    acknowledgements := by simpa only [sameAcknowledged] using coordinated.acknowledgements
    jobs := by simpa only [sameQueued] using coordinated.jobs }

/-- The search of a worker whose clock reading lies between the start and the deadline. -/
theorem search (coordinated : b.Coordinated (w, progress)) (inside : i < b.messages.length)
    {asked : Time} (fresh : progress i = { asked := some asked }) (after : b.start.now ≤ asked)
    (before : asked ≤ w.now) (window : 0 < b.window)
    (turns : ∀ j < b.messages.length, j ≠ i → (progress j).vain = false) :
    b.Coordinated (w, Function.update progress i
      { asked := some asked,
        thread := w.recentThread b.config (some asked) b.chatId b.customerId,
        vain := (w.recentThread b.config (some asked) b.chatId b.customerId).isNone }) := by
  have silent : ∀ j, j ≠ i → (progress j).vain = false := by
    intro j other
    by_cases worker : j < b.messages.length
    · exact turns j worker other
    · have unstarted : progress j = {} := coordinated.idle j (not_lt.mp worker)
      rw [unstarted]
  refine coordinated.turn inside (by rw [fresh]) (by rw [fresh]) (by rw [fresh]) (by rw [fresh])
    ?_ ?_ ?_
  · intro ticketId found
    obtain ⟨ticket, latest, own, recent⟩ := recentThread_eq_some_iff.mp found
    refine ⟨ticket, latest, own, coordinated.settled ticket latest ?_⟩
    exact (Int.sub_le_sub_right after _).trans_lt recent
  · intro searching
    have missed := Option.isNone_iff_eq_none.mp searching
    have idle : ∀ ticket, b.latest w = some ticket →
        ¬ asked - ticket.val.updatedAt < b.window := by
      intro ticket latest recent
      have found := recentThread_eq_some_iff.mpr ⟨ticket, latest, rfl, recent⟩
      cases missed.symm.trans found
    refine ⟨fun ticket latest => ?_, missed, fun j other => ⟨?_, silent j other⟩⟩
    · have old := Int.not_lt.mp (idle ticket latest)
      exact (Int.lt_of_sub_pos (window.trans_le old)).trans_le before
    · cases held : (progress j).thread with
      | none => rfl
      | some ticketId =>
          obtain ⟨ticket, latest, -, recent⟩ := coordinated.thread j ticketId held
          have ended := before.trans coordinated.steady.ended
          exact absurd ((Int.sub_le_sub_right ended _).trans_lt recent) (idle ticket latest)
  · intro j other searching
    cases (silent j other).symm.trans searching

/-- While a worker has searched in vain, nobody has created the thread. -/
theorem unmade (coordinated : b.Coordinated (w, progress)) (vain : (progress i).vain = true)
    (j : ℕ) : (progress j).made = false := by
  cases made : (progress j).made with
  | false => rfl
  | true =>
      have held : (progress j).thread.isSome = true := coordinated.made j made
      rw [(coordinated.alone i vain j).1] at held
      cases held

/-- The ticket that is created after a search in vain is the latest one. -/
theorem latest_create (coordinated : b.Coordinated (w, progress))
    (vain : (progress i).vain = true) {data : NewTicket} (chat : data.chatId = b.chatId)
    (customer : data.customerId = b.customerId)
    (tickets : w'.tickets = w.tickets.insert (data.row w.now) Ticket.free) :
    b.latest w' = some ⟨w.tickets.next, data.row w.now⟩ := by
  rw [Burst.latest, tickets]
  refine Table.latest_insert (by simp [World.activeTicket, NewTicket.row, chat, customer,
    TicketStatus.terminal]) fun row listed active => ?_
  cases latest : b.latest w with
  | none =>
      have inactive := Table.latest_eq_none_iff.mp latest row listed
      cases active.symm.trans inactive
  | some ticket =>
      exact (Table.le_of_latest latest listed active).trans_lt
        (coordinated.vain i vain ticket latest)

/-- A worker whose search was in vain creates the thread. -/
theorem create (coordinated : b.Coordinated (w, progress)) (within : b.Within)
    (inside : i < b.messages.length) {asked : Time}
    (searching : progress i = { asked := some asked, vain := true }) (data : NewTicket)
    (chat : data.chatId = b.chatId) (customer : data.customerId = b.customerId)
    (steady : b.Steady w') (tickets : w'.tickets = w.tickets.insert (data.row w.now) Ticket.free)
    (messages : w'.messages = w.messages) (jobs : w'.outbound = w.outbound) :
    b.Coordinated (w', Function.update progress i
      { asked := some asked, thread := some w.tickets.next, made := true }) := by
  have vain : (progress i).vain = true := by rw [searching]
  have unheld : ∀ j, (progress j).thread = none := fun j => (coordinated.alone i vain j).1
  have unmade : ∀ j, (progress j).made = false := coordinated.unmade vain
  have silent : ∀ j, j ≠ i → (progress j).vain = false := by
    intro j other
    cases also : (progress j).vain with
    | false => rfl
    | true => exact absurd ((coordinated.alone i vain j).2 also) other
  have after := coordinated.latest_create vain chat customer tickets
  have fresh : b.deadline - w.now < b.window :=
    (Int.sub_le_sub_left coordinated.steady.started _).trans_lt within.short
  have shares : b.Shares w' w.tickets.next := ⟨_, after, rfl, fresh⟩
  have sameAcknowledged := field_update progress i Progress.acknowledged
    (p := { asked := some asked, thread := some w.tickets.next, made := true }) (by rw [searching])
  have sameQueued := field_update progress i Progress.queued
    (p := { asked := some asked, thread := some w.tickets.next, made := true }) (by rw [searching])
  have acknowledgements : w'.acknowledgements = w.acknowledgements := by
    simp only [World.acknowledgements, messages]
  have found : ∀ j, (Function.update progress i
      { asked := some asked, thread := some w.tickets.next, made := true } j).vain = false :=
    (Function.forall_update_iff progress fun _ q => q.vain = false).mpr ⟨rfl, silent⟩
  exact {
    steady := steady
    settled := by
      intro ticket latest _
      obtain rfl := Option.some.inj (after.symm.trans latest)
      exact fresh
    idle := coordinated.idle_update inside _
    thread := (Function.forall_update_iff progress fun _ q => ∀ ticketId,
      q.thread = some ticketId → b.Shares w' ticketId).mpr
        ⟨fun _ held => Option.some.inj held ▸ shares,
          fun j _ _ held => by cases (unheld j).symm.trans held⟩
    vain := fun j searching' => by cases (found j).symm.trans searching'
    alone := fun j searching' => by cases (found j).symm.trans searching'
    made := by
      intro j made
      obtain rfl := eq_of_update Progress.made (fun j _ => unmade j) made
      simp
    maker := by
      intro j k made made'
      have first := eq_of_update Progress.made (fun j _ => unmade j) made
      exact first.trans (eq_of_update Progress.made (fun j _ => unmade j) made').symm
    acknowledged := by
      intro j acknowledged
      simp only [sameAcknowledged] at acknowledged
      cases (unmade j).symm.trans (coordinated.acknowledged j acknowledged)
    queued := by
      intro j queued
      simp only [sameQueued] at queued
      cases (unmade j).symm.trans (coordinated.queued j queued)
    tickets := by
      simp only [tickets, Table.insert_rows, List.length_append, List.length_singleton]
      exact coordinated.tickets.raise le_rfl unmade (i := i) (by simp)
    acknowledgements := by
      simpa only [sameAcknowledged, acknowledgements] using coordinated.acknowledgements
    jobs := by simpa only [sameQueued, jobs] using coordinated.jobs }

/-- The worker that created the thread takes a step towards its acknowledgement. -/
theorem announce (coordinated : b.Coordinated (w, progress)) (inside : i < b.messages.length)
    {p : Progress} (made : (progress i).made = true) (sameThread : p.thread = (progress i).thread)
    (sameVain : p.vain = (progress i).vain) (sameMade : p.made = (progress i).made)
    (steady : b.Steady w') (tickets : w'.tickets = w.tickets) (now : w.now ≤ w'.now)
    (acknowledgements : OneNew b.start.acknowledgements w'.acknowledgements
      fun j => (Function.update progress i p j).acknowledged)
    (jobs : OneNew b.start.outbound.length w'.outbound.length
      fun j => (Function.update progress i p j).queued) :
    b.Coordinated (w', Function.update progress i p) := by
  have latest : b.latest w' = b.latest w := by simp only [Burst.latest, tickets]
  have sameThread := field_update progress i Progress.thread sameThread
  have sameVain := field_update progress i Progress.vain sameVain
  have sameMade := field_update progress i Progress.made sameMade
  exact {
    steady := steady
    settled := by
      rw [latest]
      exact coordinated.settled
    idle := coordinated.idle_update inside p
    thread := by
      simp only [sameThread, Shares, latest]
      exact coordinated.thread
    vain := by
      simp only [sameVain, latest]
      exact fun j searching ticket found =>
        (coordinated.vain j searching ticket found).trans_le now
    alone := by
      simp only [sameVain, sameThread]
      exact coordinated.alone
    made := by
      simp only [sameMade, sameThread]
      exact coordinated.made
    maker := by
      simp only [sameMade]
      exact coordinated.maker
    acknowledged := by
      simp only [sameMade]
      exact (Function.forall_update_iff progress fun j q =>
        q.acknowledged = true → (progress j).made = true).mpr
        ⟨fun _ => made, fun j _ => coordinated.acknowledged j⟩
    queued := by
      simp only [sameMade]
      exact (Function.forall_update_iff progress fun j q =>
        q.queued = true → (progress j).made = true).mpr
        ⟨fun _ => made, fun j _ => coordinated.queued j⟩
    tickets := by
      simp only [sameMade, tickets]
      exact coordinated.tickets
    acknowledgements := acknowledgements
    jobs := jobs }

end Coordinated

/-! ### The commands of the workers -/

theorem Coordinated.start (within : b.Within) : b.Coordinated (b.start, fun _ => {}) where
  steady := {
    linked := within.linked
    timely := within.timely
    started := le_rfl
    ended := within.started
    agents := rfl
    senders := rfl
    chat := rfl
    customer := rfl }
  settled := within.settled
  idle := fun _ _ => rfl
  thread := nofun
  vain := nofun
  alone := nofun
  made := nofun
  maker := nofun
  acknowledged := nofun
  queued := nofun
  tickets := ⟨Nat.le_succ _, fun _ => le_rfl⟩
  acknowledgements := ⟨Nat.le_succ _, fun _ => le_rfl⟩
  jobs := ⟨Nat.le_succ _, fun _ => le_rfl⟩

/-- Time passes, up to the deadline. -/
theorem Coordinated.advance (coordinated : b.Coordinated s) {milliseconds : ℕ}
    (inTime : s.1.now + milliseconds ≤ b.deadline) :
    b.Coordinated (s.1.advance milliseconds, s.2) ∧ s.1.Grows (s.1.advance milliseconds) := by
  have up : s.1.now ≤ s.1.now + milliseconds := Int.le_add_of_nonneg_right (Int.natCast_nonneg _)
  have steady := coordinated.steady
  refine ⟨coordinated.frame { steady with
    linked := steady.linked.setNow _
    timely := steady.timely.setNow up
    started := steady.started.trans up
    ended := inTime } rfl rfl rfl up, { World.Grows.refl s.1 with now := up }⟩

/-- The state after a command of a worker. -/
def next (b : Burst) (i : ℕ) (c : Call) (s : World × (ℕ → Progress)) : World × (ℕ → Progress) :=
  ((s.1.perform c).2, b.notes i c s.1 s.2)

/-- The commands that write only the chat, the customer or the events. -/
def enrols : Call → Bool
  | .chatCreate _ _ | .customerCreate _ _ _ | .customerUpdate _ _ _ | .emit _ => true
  | _ => false

/-- A command that is not noted leaves the record as it is. -/
theorem next_of_unnoted {c : Call} (unnoted : ∀ w p, Progress.note b.config c w p = p)
    (s : World × (ℕ → Progress)) : b.next i c s = ((s.1.perform c).2, s.2) := by
  simp only [next, notes, unnoted, Function.update_eq_self]

theorem Coordinated.enrol {c : Call} (coordinated : b.Coordinated s) (commands : b.Commands c)
    (enrolling : enrols c = true) (unnoted : ∀ w p, Progress.note b.config c w p = p) :
    b.Coordinated (b.next i c s) := by
  rw [next_of_unnoted unnoted]
  have steady := coordinated.steady.perform commands
  have step := s.1.perform_step c
  generalize (s.1.perform c).2 = w' at step steady
  cases step
  case unchanged => exact coordinated.frame steady rfl rfl rfl le_rfl
  case excludedSenders => exact coordinated.frame steady rfl rfl rfl le_rfl
  case chatCreate => exact coordinated.frame steady rfl rfl rfl le_rfl
  case customerCreate => exact coordinated.frame steady rfl rfl rfl le_rfl
  case customerUpdate => exact coordinated.frame steady rfl rfl rfl le_rfl
  case emit => exact coordinated.frame steady rfl rfl rfl le_rfl
  all_goals cases enrolling

theorem Coordinated.patched {ticketId : TicketId} {data : TicketData} {dto : PatchTicketDto}
    (within : b.Within) (coordinated : b.Coordinated s)
    (held : (s.2 i).thread = some ticketId) (live : ∀ status ∈ data.status, status.terminal = false) :
    b.Coordinated (b.next i (.patchTransaction ticketId data dto none) s) := by
  rw [next_of_unnoted fun _ _ => rfl]
  have steady := coordinated.steady.perform (c := .patchTransaction ticketId data dto none)
    ⟨rfl, trivial⟩
  have step := s.1.perform_step (.patchTransaction ticketId data dto none)
  generalize (s.1.perform (.patchTransaction ticketId data dto none)).2 = w' at step steady
  cases step
  case unchanged => exact coordinated.frame steady rfl rfl rfl le_rfl
  case excludedSenders writes => cases writes
  case patch => exact coordinated.touch within held live steady rfl rfl rfl

theorem Coordinated.recorded {ticketId : TicketId} {tgMessageId : ℤ} {text : Option String}
    {attachments : List Attachment} (within : b.Within) (coordinated : b.Coordinated s)
    (held : (s.2 i).thread = some ticketId) :
    b.Coordinated (b.next i (.recordTransaction ticketId tgMessageId text attachments) s) := by
  rw [next_of_unnoted fun _ _ => rfl]
  have steady := coordinated.steady.perform
    (c := .recordTransaction ticketId tgMessageId text attachments) ⟨rfl, trivial⟩
  have step := s.1.perform_step (.recordTransaction ticketId tgMessageId text attachments)
  generalize (s.1.perform (.recordTransaction ticketId tgMessageId text attachments)).2 = w'
    at step steady
  cases step
  case unchanged => exact coordinated.frame steady rfl rfl rfl le_rfl
  case excludedSenders writes => cases writes
  case record present free =>
    exact coordinated.touch within held (fun _ set => by cases set) steady rfl
      (by simp [World.acknowledgements, World.incoming]) rfl

/-- Nobody has acknowledged or enqueued anything but the worker that made the thread. -/
theorem Coordinated.nobody {field : Progress → Bool} (coordinated : b.Coordinated s)
    (made : (s.2 i).made = true) (makes : ∀ j, field (s.2 j) = true → (s.2 j).made = true)
    (own : field (s.2 i) = false) (j : ℕ) : field (s.2 j) = false := by
  cases done : field (s.2 j) with
  | false => rfl
  | true =>
      obtain rfl := coordinated.maker i j made (makes j done)
      exact done.symm.trans own

theorem Coordinated.acknowledge {progress : Progress} {ticketId : TicketId} {text : String}
    (inside : i < b.messages.length) (coordinated : b.Coordinated s) (own : s.2 i = progress)
    (made : progress.made = true) (unacknowledged : progress.acknowledged = false) :
    b.Coordinated (b.next i (.acknowledgementCreate ticketId text) s) := by
  subst own
  have steady := coordinated.steady.perform (c := .acknowledgementCreate ticketId text)
    ⟨rfl, trivial⟩
  have nobody := coordinated.nobody made coordinated.acknowledged unacknowledged
  have sameQueued := field_update s.2 i Progress.queued
    (p := { s.2 i with acknowledged := true }) rfl
  have step := s.1.perform_step (.acknowledgementCreate ticketId text)
  change b.Coordinated ((s.1.perform (.acknowledgementCreate ticketId text)).2,
    Function.update s.2 i { s.2 i with acknowledged := true })
  generalize (s.1.perform (.acknowledgementCreate ticketId text)).2 = w' at step steady
  have announced : ∀ {w' : World}, b.Steady w' → w'.tickets = s.1.tickets → w'.now = s.1.now →
      w'.outbound = s.1.outbound → w'.acknowledgements ≤ s.1.acknowledgements + 1 →
        b.Coordinated (w', Function.update s.2 i { s.2 i with acknowledged := true }) := by
    intro w' steady tickets now outbound raised
    refine coordinated.announce (w := s.1) inside made rfl rfl rfl steady tickets now.ge ?_ ?_
    · exact coordinated.acknowledgements.raise raised nobody (i := i) (by simp)
    · simpa only [sameQueued, outbound] using coordinated.jobs
  cases step
  case unchanged => exact announced steady rfl rfl rfl (Nat.le_succ _)
  case excludedSenders writes => cases writes
  case acknowledge message free present own out pending created bot =>
    refine announced steady rfl rfl rfl ?_
    simp only [World.acknowledgements, Table.insert_rows, List.countP_append]
    exact Nat.add_le_add_left List.countP_le_length _

theorem Coordinated.enqueue {progress : Progress} {job : OutboundReplyJob}
    (inside : i < b.messages.length) (coordinated : b.Coordinated s) (own : s.2 i = progress)
    (made : progress.made = true) (unqueued : progress.queued = false) :
    b.Coordinated (b.next i (.enqueueReply job) s) := by
  subst own
  have steady := coordinated.steady.perform (c := .enqueueReply job) ⟨rfl, trivial⟩
  have nobody := coordinated.nobody made coordinated.queued unqueued
  have sameAcknowledged := field_update s.2 i Progress.acknowledged
    (p := { s.2 i with queued := true }) rfl
  change b.Coordinated ((s.1.perform (.enqueueReply job)).2,
    Function.update s.2 i { s.2 i with queued := true })
  refine coordinated.announce (w := s.1) inside made rfl rfl rfl steady rfl le_rfl ?_ ?_
  · simp only [sameAcknowledged]
    exact coordinated.acknowledgements
  · exact coordinated.jobs.raise (by simp [World.perform, World.effect]) nobody (i := i) (by simp)

end Burst
end SupportCrm
