import SupportCrm.Ingest
import SupportCrm.Invariants
import SupportCrm.Library.RelyGuarantee

/-!
# The services, one at a time

What each service does when no other request runs: the environment only lets time pass
between two commands (`World.Later`). `Alone S p Q w` says that the program `p`, started in
`w`, can only end in `Q`, and can only be stopped in `S`. Reading commands hardly show in
these proofs (`alone_query_bind`); each service has one rule that gives the world it leaves,
for the program that comes after it.
-/

set_option autoImplicit false

namespace SupportCrm

open KeyedTable AtomicProgram

/-- The program, run with no other, can only end in `Q`, and whenever it is about to perform
a command, the world is in `S`. -/
abbrev Alone {α : Type} (S : World → Prop) (p : App α) (Q : Except Err α → World → Prop)
    (w : World) : Prop :=
  Sat World.perform World.Later (fun _ _ => True) (fun _ => S) p Q w

/-- The world is in `S` and stays there while time passes. -/
def Stoppable (S : World → Prop) (w : World) : Prop := ∀ w', w.Later w' → S w'


section Rules

variable {α β : Type} {w : World} {S : World → Prop} {Q : Except Err α → World → Prop}

theorem Stoppable.setNow (here : Stoppable S w) {now : Time} (up : w.now ≤ now) :
    Stoppable S (w.setNow now) :=
  fun w' later => here w' (World.Later.trans _ _ _ ⟨now, up, rfl⟩ later)

theorem alone_pure {a : α} (holds : ∀ w', w.Later w' → Q (.ok a) w') :
    Alone S (pure a) Q w := holds

theorem alone_bind {p : App β} {k : β → App α}
    (first : Alone S p (Passes (fun b => Alone S (k b) Q) Q) w) :
    Alone S (p >>= k) Q w :=
  sat_bind World.Later.refl first

/-- A command that does not read the clock and changes nothing. -/
theorem alone_query_bind {c : Call} (answer : c.Resp) {k : c.Resp → App α}
    (here : Stoppable S w)
    (reads : ∀ now, (w.setNow now).perform c = (.ok answer, w.setNow now))
    (rest : Alone S (k answer) Q w) : Alone S (perform c >>= k) Q w := by
  refine alone_bind (sat_perform fun w' later _ => ⟨here w' later, fun w'' later' => ?_⟩)
  obtain ⟨now, up, rfl⟩ := later
  rw [reads now] at later' ⊢
  exact rest.move World.Later.trans (World.Later.trans _ _ _ ⟨now, up, rfl⟩ later')

/-- A command that succeeds at any time. -/
theorem alone_ok_bind {c : Call} {answer : Time → c.Resp} {after : Time → World}
    {k : c.Resp → App α} (here : Stoppable S w)
    (writes : ∀ now, w.now ≤ now → (w.setNow now).perform c = (.ok (answer now), after now))
    (rest : ∀ now, w.now ≤ now → Alone S (k (answer now)) Q (after now)) :
    Alone S (perform c >>= k) Q w := by
  refine alone_bind (sat_perform fun w' later _ => ⟨here w' later, fun w'' later' => ?_⟩)
  obtain ⟨now, up, rfl⟩ := later
  rw [writes now up] at later' ⊢
  exact (rest now up).move World.Later.trans later'

/-- A part whose errors are handed on. -/
theorem alone_attempt_bind {p : App β} {k : Except Err β → App α}
    (inner : Alone S p (fun r w => Alone S (k r) Q w) w) : Alone S (p.attempt >>= k) Q w :=
  alone_bind (sat_attempt inner)

theorem alone_newDate_bind {k : Time → App α} (here : Stoppable S w)
    (rest : ∀ now, w.now ≤ now → Alone S (k now) Q (w.setNow now)) :
    Alone S (perform .newDate >>= k) Q w :=
  alone_ok_bind here (fun _ _ => rfl) rest

theorem alone_emit_bind {event : DomainEvent} {k : Unit → App α} (here : Stoppable S w)
    (rest : Alone S (k ()) Q { w with emitted := w.emitted ++ [event] }) :
    Alone S (perform (.emit event) >>= k) Q w :=
  alone_ok_bind here (fun _ _ => rfl) fun now up =>
    rest.move World.Later.trans ⟨now, up, rfl⟩

/-- A run with no other ends in what the program can only end in. -/
theorem Alone.of_runs {p : App α} {r : Except Err α} {w' : World}
    (runs : p.Runs World.perform World.Later w r w') (alone : Alone S p Q w) : Q r w' :=
  Sat.of_runs World.Later.refl runs alone

end Rules

/-! ## What the services leave

The worlds after the writing steps of an ingest, as functions of the world before and of
the time of the step. -/

namespace World

/-- A thread was revived. -/
def revived (w : World) (ticketId : TicketId) (now : Time) : World :=
  { w with
    now := now
    tickets := w.tickets.update ticketId (TicketData.apply { status := some .open } now)
      (TicketData.apply_key _ now)
    ticketEvents := w.ticketEvents.insert ⟨ticketId, none, .updated { status := some .open }, now⟩
      TicketEvent.free
    emitted := w.emitted ++ [.ticketUpdated ticketId { status := some .open }] }

/-- A thread was created. -/
def threadCreated (w : World) (data : NewTicket) (now : Time) : World :=
  { w with
    now := now
    tickets := w.tickets.insert (data.row now) Ticket.free
    emitted := w.emitted ++ [.ticketCreated w.tickets.next] }

theorem free_incoming {w : World} {ticketId : TicketId} {tgMessageId : ℤ}
    (unrecorded : w.messages.findKey? (tgMessageId, ticketId) = none) (now : Time)
    (text : Option String) (attachments : List Attachment) :
    w.messages.Free ((w.setNow now).incoming ticketId tgMessageId text attachments) :=
  (Table.free_iff_findKey? (by rfl)).mpr unrecorded

/-- A message was recorded in a ticket that did not have it, and announced. -/
def recorded (w : World) (ticketId : TicketId) (tgMessageId : ℤ) (text : Option String)
    (attachments : List Attachment) (isNewTicket : Bool)
    (unrecorded : w.messages.findKey? (tgMessageId, ticketId) = none) (now : Time) : World :=
  { w with
    now := now
    messages := w.messages.insert
      ((w.setNow now).incoming ticketId tgMessageId text attachments)
      (free_incoming unrecorded now text attachments)
    tickets := w.tickets.update ticketId
      (TicketData.apply { lastClientMessageTgId := some tgMessageId } now)
      (TicketData.apply_key _ now)
    emitted := w.emitted ++ [.messageReceived ticketId w.messages.next isNewTicket] }

/-- The automatic acknowledgement of a ticket. -/
def acknowledgement (ticketId : TicketId) (now : Time) : Message where
  ticketId := ticketId
  direction := .out
  sender := .bot
  tgMessageId := none
  text := some autoAckText
  attachments := []
  createdAt := now

/-- The outbound job of an acknowledgement. -/
def acknowledgementJob (ticketId : TicketId) (messageId : MessageId) (telegramChatId : ℤ)
    (tgMessageId : ℤ) : OutboundReplyJob where
  ticketId := ticketId
  messageId := messageId
  telegramChatId := telegramChatId
  text := autoAckText
  replyToTgMessageId := some tgMessageId
  attachments := none

/-- A ticket was acknowledged. -/
def acknowledged (w : World) (ticketId : TicketId) (telegramChatId tgMessageId : ℤ)
    (now : Time) : World :=
  { w with
    now := now
    messages := w.messages.insert (acknowledgement ticketId now) (Table.free_of_none rfl)
    outbound := w.outbound ++
      [acknowledgementJob ticketId w.messages.next telegramChatId tgMessageId]
    emitted := w.emitted ++ [.messageSent ticketId w.messages.next none] }

end World

section Services

variable {α : Type} {w : World} {S : World → Prop} {Q : Except Err α → World → Prop}

/-! ## Senders -/

theorem alone_classify {telegramUserId : ℤ} {username : Option String}
    {k : SenderClassification → App α} (here : Stoppable S w)
    (rest : ∀ kind excludedSenders now,
      w.Classifies telegramUserId username (.ok kind) excludedSenders → w.now ≤ now →
      Alone S (k kind) Q { w with now := now, excludedSenders := excludedSenders })
    (failed : ∀ now, w.Classifies telegramUserId username (.error .uniqueConstraint)
      w.excludedSenders → w.now ≤ now → Q (.error .uniqueConstraint) (w.setNow now)) :
    Alone S (classify telegramUserId username >>= k) Q w := by
  rw [classify, bind_assoc]
  refine alone_query_bind (w.agents.findKey? telegramUserId) here (fun _ => rfl) ?_
  cases isAgent : (w.agents.findKey? telegramUserId).filter (·.val.isActive) with
  | some agent =>
      obtain ⟨found, active⟩ := Option.filter_eq_some_iff.mp isAgent
      exact rest _ _ w.now (.agent found active) le_rfl
  | none =>
      have notAgent : w.isAgent telegramUserId = false := by
        rw [Option.filter_eq_none_iff] at isAgent
        cases found : w.agents.findKey? telegramUserId with
        | none => simp [World.isAgent, found]
        | some agent => simpa [World.isAgent, found] using isAgent agent found
      simp only [bind_assoc]
      refine alone_query_bind (w.excludedSenders.findKey? telegramUserId) here (fun _ => rfl) ?_
      change Alone S ((if w.isExcluded telegramUserId then _ else _) >>= k) Q w
      split
      · next excluded => exact rest _ _ w.now (.byId notAgent excluded) le_rfl
      · next notExcluded =>
        have notById : w.isExcluded telegramUserId = false := by simpa using notExcluded
        unfold classifyByUsername
        cases given : username.filter (· ≠ "") with
        | none =>
            refine rest _ _ w.now (.customer notAgent notById fun name isName nonempty => ?_) le_rfl
            rw [Option.filter_eq_none_iff] at given
            simpa [nonempty] using given name isName
        | some name =>
            obtain ⟨isName, nonempty⟩ := Option.filter_eq_some_iff.mp given
            have nonempty : name ≠ "" := by simpa using nonempty
            simp only [bind_assoc]
            refine alone_query_bind (w.excludedByUsername name) here (fun _ => rfl) ?_
            cases found : w.excludedByUsername name with
            | none =>
                refine rest _ _ w.now (.customer notAgent notById fun name' isName' _ => ?_) le_rfl
                obtain rfl := Option.some.inj (isName.symm.trans isName')
                exact found
            | some record =>
                have member : record ∈ w.excludedSenders.rows := List.mem_of_find?_eq_some found
                simp only [bind_assoc]
                have binding := fun now => World.perform_excludedBind (w := w.setNow now)
                  telegramUserId member
                cases binds : w.excludedSenders.modify? record.id (World.bound telegramUserId) with
                | some excludedSenders =>
                    have bound : ∀ now, (w.setNow now).perform (.excludedBind record.id _) =
                        (.ok (), { w with now := now, excludedSenders := excludedSenders }) :=
                      fun now => by
                        rw [binding now]
                        simp only [World.setNow, binds]
                    exact alone_ok_bind here (fun now _ => bound now) fun now up => rest _ _ now
                      (.byUsername notAgent notById isName nonempty found binds) up
                | none =>
                    have refused : ∀ now, (w.setNow now).perform (.excludedBind record.id _) =
                        (.error .uniqueConstraint, w.setNow now) := fun now => by
                      rw [binding now]
                      simp only [World.setNow, binds]
                    refine alone_bind (sat_perform fun w' later _ =>
                      ⟨here w' later, fun w'' later' => ?_⟩)
                    obtain ⟨now, up, rfl⟩ := later
                    rw [refused now] at later' ⊢
                    obtain ⟨now', up', rfl⟩ := later'
                    exact failed now' (.collision notAgent notById isName nonempty found binds)
                      (up.trans up')

/-- A classification goes in one of the five ways. -/
theorem World.exists_classifies (w : World) (telegramUserId : ℤ) (username : Option String) :
    ∃ kind excludedSenders, w.Classifies telegramUserId username kind excludedSenders := by
  have answers : Alone (fun _ => True) (classify telegramUserId username >>= pure)
      (fun r _ => ∃ excludedSenders, w.Classifies telegramUserId username r excludedSenders) w :=
    alone_classify (fun _ _ => trivial)
      (fun _ excludedSenders _ classifies _ => alone_pure fun _ _ => ⟨excludedSenders, classifies⟩)
      fun _ classifies _ => ⟨w.excludedSenders, classifies⟩
  exact ⟨_, Alone.of_runs (Program.runs_run World.Later.refl _ w) answers⟩

/-! ## Chats and customers -/

theorem alone_findOrCreateChat {telegramChatId : ℤ} {title : String}
    {k : Entry Chat → App α} (here : Stoppable S w)
    (rest : ∀ chat chats now,
      w.chats.FoundOrCreated telegramChatId
        { telegramChatId := telegramChatId, title := title } chat chats →
      w.now ≤ now → Alone S (k chat) Q { w with now := now, chats := chats }) :
    Alone S (findOrCreateChat telegramChatId title >>= k) Q w := by
  rw [findOrCreateChat, bind_assoc]
  refine alone_query_bind (w.chats.findKey? telegramChatId) here (fun _ => rfl) ?_
  cases found : w.chats.findKey? telegramChatId with
  | some chat => exact rest chat w.chats w.now (.found found) le_rfl
  | none =>
      have free : w.chats.Free { telegramChatId := telegramChatId, title := title } :=
        (Table.free_iff_findKey? (by rfl)).mpr found
      refine alone_ok_bind here (fun now up => World.perform_of_ok ?_) fun now up =>
        rest _ _ now (.created found free) up
      exact dif_pos free

theorem alone_findOrCreateCustomer {telegramUserId : ℤ} {username : Option String}
    {displayName : String} {k : Entry Customer → App α} (here : Stoppable S w)
    (rest : ∀ customer customers now,
      CustomerFor w.customers telegramUserId username displayName customer customers →
      w.now ≤ now → Alone S (k customer) Q { w with now := now, customers := customers }) :
    Alone S (findOrCreateCustomer telegramUserId username displayName >>= k) Q w := by
  rw [findOrCreateCustomer, bind_assoc]
  refine alone_query_bind (w.customers.findKey? telegramUserId) here (fun _ => rfl) ?_
  cases found : w.customers.findKey? telegramUserId with
  | none =>
      have free : w.customers.Free ⟨telegramUserId, username, some displayName⟩ :=
        (Table.free_iff_findKey? (by rfl)).mpr found
      refine alone_ok_bind here (fun now up => World.perform_of_ok ?_) fun now up =>
        rest _ _ now (.created found free) up
      exact dif_pos free
  | some existing =>
      obtain ⟨member, own⟩ := Table.findKey?_eq_some_iff.mp found
      simp only
      split
      · refine alone_ok_bind here (fun now up => World.perform_of_ok ?_) fun now up =>
          rest _ _ now (.found found) up
        exact World.effect_customerUpdate member
      · next same => exact rest existing w.customers w.now (.same found same) le_rfl

/-! ## Routing -/

theorem alone_decideAssignment {chat : Chat} {k : RoutingDecision → App α}
    (here : Stoppable S w) (rest : Alone S (k (w.assignment chat)) Q w) :
    Alone S (decideAssignment chat >>= k) Q w := by
  unfold World.assignment at rest
  unfold decideAssignment
  cases default : chat.defaultTeamId with
  | none =>
      simp only [default] at rest
      exact rest
  | some teamId =>
      simp only [default] at rest ⊢
      by_cases manual : chat.routingStrategy = .manual
      · simp only [manual, if_true, true_or] at rest ⊢
        exact rest
      · simp only [manual, if_false, false_or, bind_assoc] at rest ⊢
        refine alone_query_bind (w.activeMembers teamId) here (fun _ => rfl) ?_
        by_cases nobody : w.activeMembers teamId = []
        · simp only [nobody, if_true] at rest ⊢
          exact rest
        · simp only [nobody, if_false] at rest ⊢
          by_cases busy : chat.routingStrategy = .least_busy
          · simp only [busy, if_true, bind_assoc] at rest ⊢
            exact alone_query_bind _ here (fun _ => rfl) rest
          · simp only [busy, if_false, bind_assoc] at rest ⊢
            exact alone_query_bind _ here (fun _ => rfl) rest

/-! ## Thread grouping -/

theorem alone_decideByActivity {input : ThreadGroupingInput}
    {k : ThreadGroupingDecision → App α} (here : Stoppable S w)
    (unanchored : ∀ anchor, ¬ w.AnchoredBy input anchor)
    (rest : ∀ decision, w.Decides input decision → Alone S (k decision) Q w) :
    Alone S (decideByActivity input >>= k) Q w := by
  rw [decideByActivity, bind_assoc]
  refine alone_query_bind (w.findMostRecentActiveTicket input.chatId input.customerId)
    here (fun _ => rfl) ?_
  cases found : w.findMostRecentActiveTicket input.chatId input.customerId with
  | none =>
      refine rest _ (.rule3 unanchored fun active recent => ?_)
      cases found.symm.trans recent.1
  | some active =>
      simp only
      split
      · next recent =>
        simp only [Bool.and_eq_true, decide_eq_true_eq] at recent
        exact rest _ (.rule2 unanchored ⟨found, recent.2⟩)
      · next idle =>
        refine rest _ (.rule3 unanchored fun active' recent => idle ?_)
        obtain rfl := Option.some.inj (found.symm.trans recent.1)
        obtain ⟨ticket, latest, rfl⟩ := Option.map_eq_some_iff.mp found
        have live := (Table.mem_of_latest latest).2
        simp only [World.activeTicket, Bool.and_eq_true] at live
        simp only [TicketStatus.reopenable_eq_not_terminal, live.2, Bool.true_and,
          decide_eq_true_eq]
        exact recent.2

theorem alone_decide {input : ThreadGroupingInput} {k : ThreadGroupingDecision → App α}
    (here : Stoppable S w)
    (rest : ∀ decision, w.Decides input decision → Alone S (k decision) Q w) :
    Alone S (decide input >>= k) Q w := by
  unfold decide
  cases given : input.replyToTgMessageId with
  | none =>
      refine alone_decideByActivity here ?_ rest
      rintro anchor ⟨reply, isReply, -⟩
      cases given.symm.trans isReply
  | some replyToTgMessageId =>
      simp only [bind_assoc]
      refine alone_query_bind (w.findTicketByAnchorMessage input.chatId replyToTgMessageId)
        here (fun _ => rfl) ?_
      cases owner : w.findTicketByAnchorMessage input.chatId replyToTgMessageId with
      | none =>
          refine alone_decideByActivity here ?_ rest
          rintro anchor ⟨reply, isReply, isOwner, -⟩
          obtain rfl := Option.some.inj (given.symm.trans isReply)
          cases owner.symm.trans isOwner
      | some anchor =>
          simp only
          split
          · next terminal =>
            refine alone_decideByActivity here ?_ rest
            rintro anchor' ⟨reply, isReply, isOwner, live⟩
            obtain rfl := Option.some.inj (given.symm.trans isReply)
            obtain rfl := Option.some.inj (owner.symm.trans isOwner)
            rw [terminal] at live
            cases live
          · next live =>
            exact rest _ (.rule1 ⟨replyToTgMessageId, given, owner, by simpa using live⟩)

/-! ## Tickets -/

theorem alone_attach {chat : Entry Chat} {customer : Entry Customer} {tgMessageId : ℤ}
    {ticketId : TicketId} {revive : Bool} {rule : MatchedRule} {k : TicketId × Bool → App α}
    (here : Stoppable S w) (present : (w.tickets.find? ticketId).isSome)
    (updated : revive = true → ∀ now, w.now ≤ now →
      Stoppable S { w.revived ticketId now with emitted := w.emitted })
    (kept : revive = false → Alone S (k (ticketId, false)) Q w)
    (reopened : revive = true → ∀ now, w.now ≤ now →
      Alone S (k (ticketId, false)) Q (w.revived ticketId now)) :
    Alone S (resolveTicket chat customer tgMessageId (.attach ticketId revive rule) >>= k) Q w := by
  cases revive with
  | false => exact kept rfl
  | true =>
      obtain ⟨ticket, found⟩ := Option.isSome_iff_exists.mp present
      simp only [resolveTicket, if_true, patch, getById, bind_assoc]
      refine alone_query_bind (some (w.ticketView ticket)) here (fun now => ?_) ?_
      · exact World.perform_of_ok (by simp only [World.effect, World.setNow, found]; rfl)
      simp only [pure_bind]
      change Alone S (perform (.patchTransaction ticketId { status := some .open }
        { status := some .open } none) >>= _) Q w
      have patched := fun now => World.patchTransaction_of_plain (w := w.setNow now)
        { status := some .open } { status := some .open } present rfl rfl rfl rfl
      choose view patched using patched
      refine alone_ok_bind here (fun now _ => World.perform_of_ok (patched now)) fun now up => ?_
      exact alone_emit_bind (updated rfl now up) (reopened rfl now up)

theorem alone_createNew {chat : Entry Chat} {customer : Entry Customer} {tgMessageId : ℤ}
    {k : TicketId × Bool → App α} (here : Stoppable S w) (linked : w.Linked)
    (chatRow : chat ∈ w.chats.rows) (customerRow : (w.customers.find? customer.id).isSome)
    (data : NewTicket)
    (routed : data =
      { chatId := chat.id, customerId := customer.id, anchorMessageTgId := tgMessageId,
        priority := some chat.val.defaultPriority,
        teamId := (w.assignment chat.val).teamId,
        assigneeId := (w.assignment chat.val).assigneeId })
    (made : ∀ now, w.now ≤ now →
      Stoppable S { w.threadCreated data now with emitted := w.emitted })
    (rest : ∀ now, w.now ≤ now → Alone S (k (w.tickets.next, true)) Q (w.threadCreated data now)) :
    Alone S (resolveTicket chat customer tgMessageId .createNew >>= k) Q w := by
  subst routed
  have known := World.assignment_exists (linked.chatTeam chat chatRow)
    (linked.chatAssignee chat chatRow)
  have related : ((w.chats.find? chat.id).isSome && (w.customers.find? customer.id).isSome &&
      w.hasTeam (w.assignment chat.val).teamId &&
      w.hasAgent (w.assignment chat.val).assigneeId) = true := by
    simp [Table.find?_self chatRow, customerRow, known]
  simp only [resolveTicket, bind_assoc]
  refine alone_decideAssignment here ?_
  simp only [createForNewThread, bind_assoc]
  refine alone_ok_bind here (fun now _ => World.ticketCreate_of_related (w := w.setNow now) related)
    fun now up => ?_
  exact alone_emit_bind (made now up) (rest now up)

/-! ## Messages -/

theorem alone_sendAutoAcknowledgement {ticketId : TicketId} {tgMessageId : ℤ}
    {ticket : Entry Ticket} {chat : Entry Chat} {k : Unit → App α}
    (here : Stoppable S w) (found : w.ticketWithChat ticketId = some (ticket, chat))
    (stored : ∀ now, w.now ≤ now → Stoppable S
      { w.acknowledged ticketId chat.val.telegramChatId tgMessageId now with
        outbound := w.outbound, emitted := w.emitted })
    (queued : ∀ now, w.now ≤ now → Stoppable S
      { w.acknowledged ticketId chat.val.telegramChatId tgMessageId now with
        emitted := w.emitted })
    (rest : ∀ now, w.now ≤ now → Alone S (k ()) Q
      (w.acknowledged ticketId chat.val.telegramChatId tgMessageId now)) :
    Alone S (sendAutoAcknowledgement ticketId tgMessageId >>= k) Q w := by
  have present : (w.tickets.find? ticketId).isSome := by
    obtain ⟨row, ticketFound, -⟩ := Option.bind_eq_some_iff.mp found
    rw [ticketFound]
    rfl
  simp only [sendAutoAcknowledgement, bind_assoc]
  refine alone_query_bind (some (ticket, chat)) here (fun now => ?_) ?_
  · exact World.perform_of_ok (congrArg (fun answer => Except.ok (answer, w.setNow now)) found)
  simp only [bind_assoc]
  have created : ∀ now, (w.setNow now).messageCreate (World.acknowledgement ticketId now) =
      .ok (⟨w.messages.next, World.acknowledgement ticketId now⟩,
        { w.setNow now with
          messages := w.messages.insert _ (Table.free_of_none rfl) }) := fun now =>
    World.messageCreate_eq_ok_iff.mpr ⟨present, rfl, Table.free_of_none rfl, rfl, rfl⟩
  refine alone_ok_bind here (fun now _ => World.perform_of_ok (created now)) fun now up => ?_
  refine alone_ok_bind (stored now up) (fun _ _ => rfl) fun now' up' => ?_
  refine alone_emit_bind ((queued now up).setNow up') ?_
  exact (rest now up).move World.Later.trans ⟨now', up', rfl⟩

theorem alone_announceIncoming {ticketId : TicketId} {tgMessageId : ℤ} {isNewTicket : Bool}
    {message : Entry Message} {ticket : Entry Ticket} {chat : Entry Chat}
    {k : Entry Message → App α} (here : Stoppable S w)
    (found : w.ticketWithChat ticketId = some (ticket, chat)) {w₁ : World}
    (emits : w₁ = { w with
      emitted := w.emitted ++ [.messageReceived ticketId message.id isNewTicket] })
    (announced : isNewTicket = true → Stoppable S w₁)
    (stored : isNewTicket = true → ∀ now, w.now ≤ now → Stoppable S
      { w₁.acknowledged ticketId chat.val.telegramChatId tgMessageId now with
        outbound := w₁.outbound, emitted := w₁.emitted })
    (queued : isNewTicket = true → ∀ now, w.now ≤ now → Stoppable S
      { w₁.acknowledged ticketId chat.val.telegramChatId tgMessageId now with
        emitted := w₁.emitted })
    (known : isNewTicket = false → Alone S (k message) Q w₁)
    (fresh : isNewTicket = true → ∀ now, w.now ≤ now → Alone S (k message) Q
      (w₁.acknowledged ticketId chat.val.telegramChatId tgMessageId now)) :
    Alone S (announceIncoming ticketId tgMessageId isNewTicket message >>= k) Q w := by
  subst emits
  simp only [announceIncoming, bind_assoc]
  refine alone_emit_bind here ?_
  cases isNewTicket with
  | false => exact known rfl
  | true =>
      simp only [if_true, bind_assoc]
      refine alone_attempt_bind ?_
      rw [← bind_pure (sendAutoAcknowledgement ticketId tgMessageId)]
      refine alone_sendAutoAcknowledgement (announced rfl) found
        (stored rfl) (queued rfl) fun now up => ?_
      exact alone_pure fun w' later => (fresh rfl now up).move World.Later.trans later

/-- `recordIncoming` for a message that the ticket does not have. -/
theorem alone_recordIncoming {ticketId : TicketId} {tgMessageId : ℤ} {text : Option String}
    {attachments : List Attachment} {isNewTicket : Bool} {ticket : Entry Ticket}
    {chat : Entry Chat} {k : Entry Message → App α} (here : Stoppable S w)
    (found : w.ticketWithChat ticketId = some (ticket, chat))
    (unrecorded : w.messages.findKey? (tgMessageId, ticketId) = none) (recorded : Time → World)
    (records : recorded = fun now =>
      w.recorded ticketId tgMessageId text attachments isNewTicket unrecorded now)
    (unannounced : ∀ now, w.now ≤ now → Stoppable S { recorded now with emitted := w.emitted })
    (announced : isNewTicket = true → ∀ now, w.now ≤ now → Stoppable S (recorded now))
    (stored : isNewTicket = true → ∀ now now', w.now ≤ now → now ≤ now' → Stoppable S
      { (recorded now).acknowledged ticketId chat.val.telegramChatId tgMessageId now' with
        outbound := w.outbound, emitted := (recorded now).emitted })
    (queued : isNewTicket = true → ∀ now now', w.now ≤ now → now ≤ now' → Stoppable S
      { (recorded now).acknowledged ticketId chat.val.telegramChatId tgMessageId now' with
        emitted := (recorded now).emitted })
    (known : isNewTicket = false → ∀ now message, w.now ≤ now →
      Alone S (k message) Q (recorded now))
    (fresh : isNewTicket = true → ∀ now now' message, w.now ≤ now → now ≤ now' →
      Alone S (k message) Q
        ((recorded now).acknowledged ticketId chat.val.telegramChatId tgMessageId now')) :
    Alone S (recordIncoming ticketId tgMessageId text attachments isNewTicket >>= k) Q w := by
  subst records
  obtain ⟨row, ticketFound, chatFound⟩ := Option.bind_eq_some_iff.mp found
  obtain ⟨chat', chatFound, same⟩ := Option.map_eq_some_iff.mp chatFound
  cases same
  have inserted := fun now => World.recordTransaction_eq_ok_iff (w := w.setNow now) |>.mpr
    ⟨by rw [World.setNow, ticketFound]; rfl,
      World.free_incoming unrecorded now text attachments, rfl, rfl⟩
  simp only [recordIncoming, bind_assoc]
  refine alone_attempt_bind (sat_perform fun w' later _ => ⟨here w' later, fun w'' later' => ?_⟩)
  obtain ⟨now, up, rfl⟩ := later
  rw [show World.perform (.recordTransaction ticketId tgMessageId text attachments)
    (w.setNow now) = _ from World.perform_of_ok (inserted now)] at later' ⊢
  refine Sat.move World.Later.trans ?_ later'
  have kept : World.ticketWithChat
      { w.setNow now with
        tickets := w.tickets.update ticketId
          (TicketData.apply { lastClientMessageTgId := some tgMessageId } now)
          (TicketData.apply_key _ now) } ticketId =
        some (⟨ticketId, TicketData.apply { lastClientMessageTgId := some tgMessageId } now
          ticket.val⟩, chat) := by
    simp only [World.ticketWithChat, Table.find?_update_self _ ticketFound, Option.bind_some,
      TicketData.apply_chatId]
    exact congrArg (Option.map _) chatFound
  exact alone_announceIncoming (unannounced now up) kept rfl (fun new => announced new now up)
    (fun new now' up' => stored new now now' up up')
    (fun new now' up' => queued new now now' up up')
    (fun known' => known known' now _ up)
    (fun new now' up' => fresh new now now' _ up up')

/-- `recordIncoming` for a message that the ticket already has. -/
theorem alone_recordIncoming_again {ticketId : TicketId} {tgMessageId : ℤ}
    {text : Option String} {attachments : List Attachment} {isNewTicket : Bool}
    {existing : Entry Message} {k : Entry Message → App α} (here : Stoppable S w)
    (taken : w.messages.findKey? (tgMessageId, ticketId) = some existing)
    (rest : Alone S (k existing) Q w) :
    Alone S (recordIncoming ticketId tgMessageId text attachments isNewTicket >>= k) Q w := by
  have refused : ∀ now, World.perform (.recordTransaction ticketId tgMessageId text attachments)
      (w.setNow now) = (.error .uniqueConstraint, w.setNow now) := fun now =>
    World.perform_of_error (World.recordTransaction_of_taken (w := w.setNow now) fun free => by
      rw [Table.free_iff_findKey? (k := (tgMessageId, ticketId)) (by rfl)] at free
      cases taken.symm.trans free)
  simp only [recordIncoming, bind_assoc]
  refine alone_attempt_bind (sat_perform fun w' later _ => ⟨here w' later, fun w'' later' => ?_⟩)
  obtain ⟨now, up, rfl⟩ := later
  rw [refused now] at later' ⊢
  refine Sat.move World.Later.trans ?_ later'
  simp only [bind_assoc]
  refine alone_query_bind (some existing) (here.setNow up) (fun now' => ?_) ?_
  · exact World.perform_of_ok (congrArg (fun answer => Except.ok (answer, w.setNow now')) taken)
  · exact rest.move World.Later.trans ⟨now, up, rfl⟩

end Services
end SupportCrm
