import SupportCrm.Alone

/-!
# The outcome of an ingest

`World.Ingests` says what one uninterrupted `process` of a customer's message does: it
brings chat and customer up to date, decides a thread, and then either records the message
in an existing thread, finds it there already, or creates a thread, records the message and
acknowledges it. `World.Stopped` says where it can be stopped on the way. `process_outcome`
proves that nothing else can happen while no other request runs.
-/

set_option autoImplicit false

namespace SupportCrm

open KeyedTable AtomicProgram

/-- What the grouping rules are asked about a message. -/
def groupingInput (config : Config) (message : NormalizedIncomingMessage) (chat : Entry Chat)
    (customer : Entry Customer) (now : Time) : ThreadGroupingInput where
  chatId := chat.id
  customerId := customer.id
  replyToTgMessageId := message.replyToTgMessageId
  idleWindowMinutes := config.threadIdleWindowMinutes
  now := now

/-- The data of a new thread for a message. -/
def newThread (w : World) (message : NormalizedIncomingMessage) (chat : Entry Chat)
    (customer : Entry Customer) : NewTicket where
  chatId := chat.id
  customerId := customer.id
  anchorMessageTgId := message.tgMessageId
  priority := some chat.val.defaultPriority
  teamId := (w.assignment chat.val).teamId
  assigneeId := (w.assignment chat.val).assigneeId

namespace World

/-- Chat and customer of a message are found or created, and time has passed. -/
def Prepared (w : World) (message : NormalizedIncomingMessage) (chat : Entry Chat)
    (customer : Entry Customer) (w₁ : World) : Prop :=
  ∃ chats customers now,
    w.chats.FoundOrCreated message.telegramChatId
      { telegramChatId := message.telegramChatId, title := message.chatTitle } chat chats ∧
    CustomerFor w.customers message.fromTelegramUserId message.fromUsername message.fromDisplayName
      customer customers ∧
    w.now ≤ now ∧ w₁ = { w with now := now, chats := chats, customers := customers }

/-- The decided thread was revived where that was needed. -/
def Revives (w : World) (ticketId : TicketId) (revive : Bool) (w' : World) : Prop :=
  (revive = false ∧ w' = w) ∨ (revive = true ∧ ∃ now, w.now ≤ now ∧ w' = w.revived ticketId now)

/-- The outcome of `process` for a message of a customer. -/
inductive Ingests (w : World) (config : Config) (message : NormalizedIncomingMessage) :
    IngestResult → World → Prop where
  | attached {chat : Entry Chat} {customer : Entry Customer} {w₁ w₂ : World}
      {ticketId : TicketId} {revive : Bool} {rule : MatchedRule} {now : Time}
      (prepared : w.Prepared message chat customer w₁)
      (decides : w₁.Decides (groupingInput config message chat customer w₁.now)
        (.attach ticketId revive rule))
      (revives : w₁.Revives ticketId revive w₂)
      (unrecorded : w₂.messages.findKey? (message.tgMessageId, ticketId) = none)
      (up : w₂.now ≤ now) :
      Ingests w config message (.ticketMessage ticketId false)
        (w₂.recorded ticketId message.tgMessageId message.text message.attachments false
          unrecorded now)
  | repeated {chat : Entry Chat} {customer : Entry Customer} {w₁ w₂ : World}
      {ticketId : TicketId} {revive : Bool} {rule : MatchedRule} {existing : Entry Message}
      (prepared : w.Prepared message chat customer w₁)
      (decides : w₁.Decides (groupingInput config message chat customer w₁.now)
        (.attach ticketId revive rule))
      (revives : w₁.Revives ticketId revive w₂)
      (taken : w₂.messages.findKey? (message.tgMessageId, ticketId) = some existing) :
      Ingests w config message (.ticketMessage ticketId false) w₂
  | created {chat : Entry Chat} {customer : Entry Customer} {w₁ : World} {now now' now'' : Time}
      (prepared : w.Prepared message chat customer w₁)
      (decides : w₁.Decides (groupingInput config message chat customer w₁.now) .createNew)
      (unrecorded : (w₁.threadCreated (newThread w₁ message chat customer) now).messages.findKey?
        (message.tgMessageId, w₁.tickets.next) = none)
      (up : w₁.now ≤ now) (up' : now ≤ now') (up'' : now' ≤ now'') :
      Ingests w config message (.ticketMessage w₁.tickets.next true)
        (((w₁.threadCreated (newThread w₁ message chat customer) now).recorded w₁.tickets.next
          message.tgMessageId message.text message.attachments true unrecorded now').acknowledged
            w₁.tickets.next chat.val.telegramChatId message.tgMessageId now'')

/-- The chats before or after the chat of a message is found or created. -/
def ChatsReady (w : World) (message : NormalizedIncomingMessage) (chats : Table Chat.key) : Prop :=
  chats = w.chats ∨ ∃ chat, w.chats.FoundOrCreated message.telegramChatId
    { telegramChatId := message.telegramChatId, title := message.chatTitle } chat chats

/-- The customers before or after the customer of a message is found or created. -/
def CustomersReady (w : World) (message : NormalizedIncomingMessage)
    (customers : Table Customer.key) : Prop :=
  customers = w.customers ∨ ∃ customer, CustomerFor w.customers message.fromTelegramUserId
    message.fromUsername message.fromDisplayName customer customers

/-- The states in which a `process` of a customer's message can be stopped: before it
touched a ticket, with the thread revived but the message not stored, with the message
stored but not announced, with a new thread but no job in the queue, or with nothing left
to do but to announce the acknowledgement. -/
inductive Stopped (w : World) (config : Config) (message : NormalizedIncomingMessage) :
    World → Prop where
  | preparing {chats : Table Chat.key} {customers : Table Customer.key} {now : Time}
      (chatDone : w.ChatsReady message chats) (customerDone : w.CustomersReady message customers)
      (up : w.now ≤ now) :
      Stopped w config message { w with now := now, chats := chats, customers := customers }
  | revived {chat : Entry Chat} {customer : Entry Customer} {w₁ : World} {ticketId : TicketId}
      {rule : MatchedRule} {now here : Time} (news : List DomainEvent)
      (prepared : w.Prepared message chat customer w₁)
      (decides : w₁.Decides (groupingInput config message chat customer w₁.now)
        (.attach ticketId true rule))
      (up : w₁.now ≤ now) (still : now ≤ here) :
      Stopped w config message
        { w₁.revived ticketId now with now := here, emitted := w₁.emitted ++ news }
  | unannounced {chat : Entry Chat} {customer : Entry Customer} {w₁ w₂ : World}
      {ticketId : TicketId} {revive : Bool} {rule : MatchedRule} {now here : Time}
      (prepared : w.Prepared message chat customer w₁)
      (decides : w₁.Decides (groupingInput config message chat customer w₁.now)
        (.attach ticketId revive rule))
      (revives : w₁.Revives ticketId revive w₂)
      (unrecorded : w₂.messages.findKey? (message.tgMessageId, ticketId) = none)
      (up : w₂.now ≤ now) (still : now ≤ here) :
      Stopped w config message
        { w₂.recorded ticketId message.tgMessageId message.text message.attachments false
            unrecorded now with now := here, emitted := w₂.emitted }
  | halfway {chat : Entry Chat} {customer : Entry Customer} {w₁ w' : World}
      (prepared : w.Prepared message chat customer w₁)
      (decides : w₁.Decides (groupingInput config message chat customer w₁.now) .createNew)
      (agents : w'.agents = w₁.agents) (excludedSenders : w'.excludedSenders = w₁.excludedSenders)
      (tickets : w'.tickets.rows.length = w₁.tickets.rows.length + 1)
      (outbound : w'.outbound = w₁.outbound) (up : w₁.now ≤ w'.now) : Stopped w config message w'
  | queued {chat : Entry Chat} {customer : Entry Customer} {w₁ : World}
      {now now' now'' here : Time} (prepared : w.Prepared message chat customer w₁)
      (decides : w₁.Decides (groupingInput config message chat customer w₁.now) .createNew)
      (unrecorded : (w₁.threadCreated (newThread w₁ message chat customer) now).messages.findKey?
        (message.tgMessageId, w₁.tickets.next) = none)
      (up : w₁.now ≤ now) (up' : now ≤ now') (up'' : now' ≤ now'') (still : now'' ≤ here) :
      Stopped w config message
        { ((w₁.threadCreated (newThread w₁ message chat customer) now).recorded w₁.tickets.next
            message.tgMessageId message.text message.attachments true unrecorded now').acknowledged
              w₁.tickets.next chat.val.telegramChatId message.tgMessageId now'' with
          now := here
          emitted := w₁.emitted ++ [.ticketCreated w₁.tickets.next] ++
            [.messageReceived w₁.tickets.next w₁.messages.next true] }

variable {w w₁ : World} {message : NormalizedIncomingMessage} {chat : Entry Chat}
variable {customer : Entry Customer}

/-- Before the thread is decided, tickets, messages and the queue stay as they are. -/
theorem Prepared.frame (prepared : w.Prepared message chat customer w₁) :
    w₁.tickets = w.tickets ∧ w₁.messages = w.messages ∧ w₁.outbound = w.outbound := by
  obtain ⟨chats, customers, now, -, -, -, rfl⟩ := prepared
  exact ⟨rfl, rfl, rfl⟩

theorem Prepared.of_later {w₀ : World} (later : w.Later w₀)
    (prepared : w₀.Prepared message chat customer w₁) : w.Prepared message chat customer w₁ := by
  obtain ⟨start, up, rfl⟩ := later
  obtain ⟨chats, customers, now, chatDone, customerDone, up', rfl⟩ := prepared
  exact ⟨chats, customers, now, chatDone, customerDone, up.trans up', rfl⟩

theorem Stopped.of_later {w₀ w' : World} {config : Config} (later : w.Later w₀)
    (stopped : w₀.Stopped config message w') : w.Stopped config message w' := by
  cases stopped with
  | preparing chatDone customerDone up =>
      obtain ⟨start, up', rfl⟩ := later
      exact .preparing chatDone customerDone (up'.trans up)
  | revived news prepared decides up still =>
      exact .revived news (prepared.of_later later) decides up still
  | unannounced prepared decides revives unrecorded up still =>
      exact .unannounced (prepared.of_later later) decides revives unrecorded up still
  | halfway prepared decides agents excludedSenders tickets outbound up =>
      exact .halfway (prepared.of_later later) decides agents excludedSenders tickets outbound up
  | queued prepared decides unrecorded up up' up'' still =>
      exact .queued (prepared.of_later later) decides unrecorded up up' up'' still

theorem Prepared.emitted (prepared : w.Prepared message chat customer w₁) :
    w₁.emitted = w.emitted := by
  obtain ⟨chats, customers, now, -, -, -, rfl⟩ := prepared
  rfl

theorem Prepared.later (prepared : w.Prepared message chat customer w₁) : w.now ≤ w₁.now := by
  obtain ⟨chats, customers, now, -, -, up, rfl⟩ := prepared
  exact up

theorem Prepared.timely (prepared : w.Prepared message chat customer w₁) (timely : w.Timely) :
    w₁.Timely := by
  obtain ⟨chats, customers, now, -, -, up, rfl⟩ := prepared
  exact { timely.setNow up with }

theorem Prepared.chatRow (prepared : w.Prepared message chat customer w₁) :
    chat ∈ w₁.chats.rows ∧ chat.val.telegramChatId = message.telegramChatId := by
  obtain ⟨chats, customers, now, chatDone, -, -, rfl⟩ := prepared
  obtain ⟨member, own⟩ := Table.findKey?_eq_some_iff.mp (chatDone.findKey? rfl)
  exact ⟨member, Option.some.inj own⟩

theorem Prepared.customerRow (prepared : w.Prepared message chat customer w₁) :
    w₁.customers.find? customer.id = some customer := by
  obtain ⟨chats, customers, now, -, customerDone, -, rfl⟩ := prepared
  exact customerDone.find?

theorem Prepared.linked (prepared : w.Prepared message chat customer w₁) (linked : w.Linked) :
    w₁.Linked := by
  obtain ⟨chats, customers, now, chatDone, customerDone, -, rfl⟩ := prepared
  exact { linked with
    ticketChat := fun ticket member => by
      obtain ⟨row, found⟩ := Option.isSome_iff_exists.mp (linked.ticketChat ticket member)
      exact Option.isSome_iff_exists.mpr ⟨row, chatDone.find?_of_some found⟩
    ticketCustomer := fun ticket member =>
      customerDone.isSome_find? (linked.ticketCustomer ticket member)
    chatTeam := fun row member => by
      cases chatDone with
      | found _ => exact linked.chatTeam row member
      | created absent free =>
          rcases (Table.mem_insert free).mp member with old | rfl
          · exact linked.chatTeam row old
          · rfl
    chatAssignee := fun row member => by
      cases chatDone with
      | found _ => exact linked.chatAssignee row member
      | created absent free =>
          rcases (Table.mem_insert free).mp member with old | rfl
          · exact linked.chatAssignee row old
          · rfl }

theorem Revives.present {w' : World} {ticketId : TicketId} {revive : Bool}
    (revives : w.Revives ticketId revive w') (present : (w.tickets.find? ticketId).isSome) :
    (w'.tickets.find? ticketId).isSome := by
  rcases revives with ⟨-, rfl⟩ | ⟨-, now, -, rfl⟩
  · exact present
  · exact (Table.isSome_find?_update (TicketData.apply_key _ now) ticketId).trans present

theorem Revives.linked {w' : World} {ticketId : TicketId} {revive : Bool}
    (revives : w.Revives ticketId revive w') (linked : w.Linked) : w'.Linked := by
  rcases revives with ⟨-, rfl⟩ | ⟨-, now, -, rfl⟩
  · exact linked
  · exact { (linked.setNow now).updateTicket ticketId { status := some .open } with }

/-- A thread that was just created has no message. -/
theorem unrecorded_of_linked (linked : w.Linked) (tgMessageId : ℤ) :
    w.messages.findKey? (tgMessageId, w.tickets.next) = none := by
  refine Table.findKey?_eq_none_iff.mpr fun row member own => ?_
  have present := linked.messageTicket row member
  rw [(Message.key_eq_some_iff.mp own).2, Table.find?_next] at present
  cases present

end World

section Process

variable {config : Config} {message : NormalizedIncomingMessage} {w : World}

/-- The first part of an ingest: chat, customer and decision. -/
theorem alone_processCustomer {Q : Except Err IngestResult → World → Prop}
    (rest : ∀ chat customer w₁ decision, w.Prepared message chat customer w₁ →
      w₁.Decides (groupingInput config message chat customer w₁.now) decision →
      Alone (w.Stopped config message)
        (resolveTicket chat customer message.tgMessageId decision >>= fun resolved =>
          recordIncoming resolved.1 message.tgMessageId message.text message.attachments resolved.2
            >>= fun _ => pure (.ticketMessage resolved.1 resolved.2)) Q w₁) :
    Alone (w.Stopped config message) (processCustomer config message) Q w := by
  have preparing : ∀ {chats customers now}, w.ChatsReady message chats →
      w.CustomersReady message customers → w.now ≤ now → Stoppable (w.Stopped config message)
        { w with now := now, chats := chats, customers := customers } := by
    rintro chats customers now chatDone customerDone up w' ⟨now', up', rfl⟩
    exact .preparing chatDone customerDone (up.trans up')
  unfold processCustomer
  refine alone_findOrCreateChat (preparing (.inl rfl) (.inl rfl) le_rfl)
    fun chat chats now₁ chatDone up₁ => ?_
  refine alone_findOrCreateCustomer (preparing (.inr ⟨chat, chatDone⟩) (.inl rfl) up₁)
    fun customer customers now₂ customerDone up₂ => ?_
  have prepared := fun {now} (up : now₂ ≤ now) =>
    preparing (.inr ⟨chat, chatDone⟩) (.inr ⟨customer, customerDone⟩) ((up₁.trans up₂).trans up)
  refine alone_newDate_bind (prepared le_rfl) fun now up => ?_
  refine alone_decide (prepared up) fun decision decides => ?_
  exact rest chat customer _ decision
    ⟨chats, customers, now, chatDone, customerDone, (up₁.trans up₂).trans up, rfl⟩ decides

theorem stoppable_prepared {chat : Entry Chat} {customer : Entry Customer} {w₁ : World}
    (prepared : w.Prepared message chat customer w₁) :
    Stoppable (w.Stopped config message) w₁ := by
  obtain ⟨chats, customers, now, chatDone, customerDone, up, rfl⟩ := prepared
  rintro w' ⟨now', up', rfl⟩
  exact .preparing (.inr ⟨chat, chatDone⟩) (.inr ⟨customer, customerDone⟩) (up.trans up')

/-- What is left to do once the ticket of the message is known. -/
def storing (message : NormalizedIncomingMessage) (resolved : TicketId × Bool) :
    App IngestResult :=
  recordIncoming resolved.1 message.tgMessageId message.text message.attachments resolved.2 >>=
    fun _ => pure (.ticketMessage resolved.1 resolved.2)

/-- An ingest ends well, in one of its outcomes. -/
def World.EndsIngested (w : World) (config : Config) (message : NormalizedIncomingMessage)
    (r : Except Err IngestResult) (w' : World) : Prop :=
  ∃ result w'', r = .ok result ∧ w.Ingests config message result w'' ∧ w''.Later w'

section

variable {chat : Entry Chat} {customer : Entry Customer} {w₁ w₂ : World} {ticketId : TicketId}
  {revive : Bool} {rule : MatchedRule}

/-- The thread that the message opens. -/
theorem created_outcome (linked : w.Linked) (prepared : w.Prepared message chat customer w₁)
    (decides : w₁.Decides (groupingInput config message chat customer w₁.now) .createNew) :
    Alone (w.Stopped config message)
      (resolveTicket chat customer message.tgMessageId .createNew >>= storing message)
      (w.EndsIngested config message) w₁ := by
  obtain ⟨chatRow, -⟩ := prepared.chatRow
  have linked₁ := prepared.linked linked
  have halfway : ∀ {w'}, w'.agents = w₁.agents → w'.excludedSenders = w₁.excludedSenders →
      w'.tickets.rows.length = w₁.tickets.rows.length + 1 → w'.outbound = w₁.outbound →
      w₁.now ≤ w'.now → Stoppable (w.Stopped config message) w' := by
    rintro w' agents excludedSenders tickets outbound up w'' ⟨now', up', rfl⟩
    exact .halfway prepared decides agents excludedSenders tickets outbound (up.trans up')
  refine alone_createNew (stoppable_prepared prepared) linked₁ chatRow
    (by rw [prepared.customerRow]; rfl) (newThread w₁ message chat customer) rfl
    (fun now up => halfway rfl rfl (by simp [World.threadCreated]) rfl up) fun now up => ?_
  have made : ∀ {w'}, w'.agents = w₁.agents → w'.excludedSenders = w₁.excludedSenders →
      (∃ f keeps, w'.tickets = (w₁.threadCreated (newThread w₁ message chat customer)
        now).tickets.update w₁.tickets.next f keeps) → w'.outbound = w₁.outbound →
      w₁.now ≤ w'.now → Stoppable (w.Stopped config message) w' := by
    rintro w' agents excludedSenders ⟨f, keeps, tickets⟩ outbound up
    exact halfway agents excludedSenders (by simp [tickets, World.threadCreated]) outbound up
  have found : (w₁.threadCreated (newThread w₁ message chat customer) now).ticketWithChat
      w₁.tickets.next =
        some (⟨w₁.tickets.next, (newThread w₁ message chat customer).row now⟩, chat) := by
    simp only [World.ticketWithChat, World.threadCreated, Table.find?_insert_self,
      Option.bind_some]
    exact congrArg (Option.map _) (Table.find?_self chatRow)
  refine alone_recordIncoming
    (halfway rfl rfl (by simp [World.threadCreated]) rfl up) found
    (World.unrecorded_of_linked linked₁ message.tgMessageId) _ rfl
    (fun now' up' => ?_) (fun _ now' up' => ?_) (fun _ now' now'' up' up'' => ?_)
    (fun _ now' now'' up' up'' => ?_) (by rintro ⟨⟩) fun _ now' now'' row up' up'' => ?_
  · exact made rfl rfl ⟨_, TicketData.apply_key _ now', rfl⟩ rfl (up.trans up')
  · exact made rfl rfl ⟨_, TicketData.apply_key _ now', rfl⟩ rfl (up.trans up')
  · exact made rfl rfl ⟨_, TicketData.apply_key _ now', rfl⟩ rfl ((up.trans up').trans up'')
  · rintro w' ⟨here, still, rfl⟩
    exact .queued prepared decides _ up up' up'' still
  · exact alone_pure fun w' later =>
      ⟨_, _, rfl, .created prepared decides _ up up' up'', later⟩

/-- The message in a ticket that is there, whether it has been recorded before or not. -/
theorem recorded_outcome (linked : w.Linked) (prepared : w.Prepared message chat customer w₁)
    (decides : w₁.Decides (groupingInput config message chat customer w₁.now)
      (.attach ticketId revive rule)) (present : (w₁.tickets.find? ticketId).isSome)
    (revives : w₁.Revives ticketId revive w₂) (here : Stoppable (w.Stopped config message) w₂) :
    Alone (w.Stopped config message) (storing message (ticketId, false))
      (w.EndsIngested config message) w₂ := by
  have present₂ := revives.present present
  cases taken : w₂.messages.findKey? (message.tgMessageId, ticketId) with
  | some existing =>
      refine alone_recordIncoming_again here taken ?_
      exact alone_pure fun w' later =>
        ⟨_, _, rfl, .repeated prepared decides revives taken, later⟩
  | none =>
      obtain ⟨row, rowFound⟩ := Option.isSome_iff_exists.mp present₂
      obtain ⟨rowChat, chatFound⟩ := Option.isSome_iff_exists.mp
        ((revives.linked (prepared.linked linked)).ticketChat row (Table.mem_of_find? rowFound))
      have found : w₂.ticketWithChat ticketId = some (row, rowChat) := by
        simp [World.ticketWithChat, rowFound, chatFound]
      refine alone_recordIncoming here found taken _ rfl (fun now up => ?_) (by rintro ⟨⟩)
        (by rintro ⟨⟩) (by rintro ⟨⟩) (fun _ now _ up => ?_) (by rintro ⟨⟩)
      · rintro w' ⟨here, still, rfl⟩
        exact .unannounced prepared decides revives taken up still
      · exact alone_pure fun w' later =>
          ⟨_, _, rfl, .attached prepared decides revives taken up, later⟩

/-- The ticket that the message is attached to, revived first where it is closed. -/
theorem attached_outcome (linked : w.Linked) (prepared : w.Prepared message chat customer w₁)
    (decides : w₁.Decides (groupingInput config message chat customer w₁.now)
      (.attach ticketId revive rule)) :
    Alone (w.Stopped config message)
      (resolveTicket chat customer message.tgMessageId (.attach ticketId revive rule) >>=
        storing message) (w.EndsIngested config message) w₁ := by
  obtain ⟨ticket, ticketFound, -⟩ := decides.attached
  have present : (w₁.tickets.find? ticketId).isSome := by rw [ticketFound]; rfl
  have revived : revive = true → ∀ now, w₁.now ≤ now → ∀ news, Stoppable
      (w.Stopped config message)
      { w₁.revived ticketId now with emitted := w₁.emitted ++ news } := by
    rintro rfl now up news w' ⟨here, still, rfl⟩
    exact .revived news prepared decides up still
  refine alone_attach (stoppable_prepared prepared) present (fun reopened now up => ?_)
    (fun kept => ?_) fun reopened now up => ?_
  · simpa using revived reopened now up []
  · exact recorded_outcome linked prepared decides present (.inl ⟨kept, rfl⟩)
      (stoppable_prepared prepared)
  · exact recorded_outcome linked prepared decides present (.inr ⟨reopened, now, up, rfl⟩)
      (revived reopened now up _)

end

/-- **The outcome of an ingest.** A `process` of a customer's message with no other request
running ends well, and in one of the three outcomes. -/
theorem processCustomer_outcome (linked : w.Linked) :
    Alone (w.Stopped config message) (processCustomer config message)
      (fun r w' => ∃ result w'', r = .ok result ∧ w.Ingests config message result w'' ∧
        w''.Later w') w := by
  refine alone_processCustomer fun chat customer w₁ decision prepared decides => ?_
  cases decision with
  | createNew => exact created_outcome linked prepared decides
  | attach ticketId revive rule => exact attached_outcome linked prepared decides

/-- The whole of `process`: agents and excluded senders are ignored, and a customer's message
has one of the three outcomes. -/
theorem process_outcome (linked : w.Linked) :
    Alone (w.Stopped config message) (process config message)
      (fun r w' => ∃ kind excludedSenders w₀,
        w.Classifies message.fromTelegramUserId message.fromUsername kind excludedSenders ∧
        World.Later { w with excludedSenders := excludedSenders } w₀ ∧
        match kind with
        | .ok (.agent _) => r = .ok .ignoredAgent ∧ w' = w₀
        | .ok .excluded => r = .ok .ignoredExcluded ∧ w' = w₀
        | .ok .customer => ∃ result w'', r = .ok result ∧ w₀.Ingests config message result w'' ∧
            w''.Later w'
        | .error e => r = .error e ∧ w' = w₀) w := by
  have start : Stoppable (w.Stopped config message) w := by
    rintro w' ⟨now, up, rfl⟩
    exact .preparing (.inl rfl) (.inl rfl) up
  unfold process
  refine alone_classify start (fun kind excludedSenders now classifies up => ?_)
    fun now classifies up => ⟨_, _, _, classifies, ⟨now, up, rfl⟩, rfl, rfl⟩
  have later : World.Later { w with excludedSenders := excludedSenders }
      { w with now := now, excludedSenders := excludedSenders } := ⟨now, up, rfl⟩
  cases kind with
  | agent agent =>
      exact alone_pure fun w' later' =>
        ⟨_, _, w', classifies, later.trans _ _ _ later', rfl, rfl⟩
  | excluded =>
      exact alone_pure fun w' later' =>
        ⟨_, _, w', classifies, later.trans _ _ _ later', rfl, rfl⟩
  | customer =>
      obtain rfl : excludedSenders = w.excludedSenders := by cases classifies; rfl
      refine (processCustomer_outcome (linked.setNow now)).imp (fun _ _ => id) (fun _ w' stopped => ?_)
        fun r w' outcome => ⟨_, _, _, classifies, later, outcome⟩
      exact stopped.of_later later

end Process
end SupportCrm
