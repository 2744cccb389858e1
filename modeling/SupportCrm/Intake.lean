import SupportCrm.Anchors
import SupportCrm.Footprint

/-!
# Completed ingests

The ingest queue forgets a job when `process` ends without an error. By then the message of a
customer is stored in the chat from which it came, in whatever order other requests and jobs have
done their work in between: `ingest_stored`.

`Received` is what has to hold then, and `Stores` is the rule format of the proofs: what a part of
`process` has reached when it answers, and keeps while others go on.
-/

set_option autoImplicit false

namespace SupportCrm

open KeyedTable AtomicProgram

/-! ## Messages of a chat -/

namespace World

variable {w w' : World}

/-- A message with this identifier came in and is stored in the chat. -/
def Received (w : World) (telegramChatId tgMessageId : ℤ) : Prop :=
  ∃ id row, w.messages.find? id = some row ∧ row.val.direction = .in ∧
    row.val.tgMessageId = some tgMessageId ∧ w.TicketIn row.val.ticketId telegramChatId

/-- The sender is neither an active agent nor excluded. -/
structure FromCustomer (w : World) (message : NormalizedIncomingMessage) : Prop where
  notAgent : w.isAgent message.fromTelegramUserId = false
  notById : w.isExcluded message.fromTelegramUserId = false
  unmatched : ∀ name, message.fromUsername = some name → name ≠ "" →
    w.excludedByUsername name = none

/-- In its chat the identifier of the message is not that of an outgoing one. -/
def Distinct (w : World) (message : NormalizedIncomingMessage) : Prop :=
  ∀ row ∈ w.messages.rows, row.val.direction = .out →
    w.TicketIn row.val.ticketId message.telegramChatId →
      row.val.tgMessageId ≠ some message.tgMessageId

/-- The command gives no incoming message another identifier. -/
def SparesIncoming (w : World) (c : Call) : Prop :=
  ∀ id tgMessageId, c = .messageConfirm id tgMessageId → ∀ row, w.messages.find? id = some row →
    row.val.direction = .out

theorem Received.perform {telegramChatId tgMessageId : ℤ}
    (received : w.Received telegramChatId tgMessageId) {c : Call} (spares : w.SparesIncoming c) :
    (w.perform c).2.Received telegramChatId tgMessageId := by
  obtain ⟨id, row, found, came, own, inChat⟩ := received
  have inChat' := inChat.retains (w.retains_perform c)
  rcases message_perform (c := c) found with same | ⟨other, rfl, -⟩
  · exact ⟨id, row, same, came, own, inChat'⟩
  · cases came.symm.trans (spares id other rfl row found)

theorem Received.advance {telegramChatId tgMessageId : ℤ}
    (received : w.Received telegramChatId tgMessageId) (milliseconds : ℕ) :
    (w.advance milliseconds).Received telegramChatId tgMessageId := by
  obtain ⟨id, row, found, came, own, inChat⟩ := received
  exact ⟨id, row, found, came, own, inChat.retains (w.retains_advance milliseconds)⟩

end World

/-! ## The parts of an ingest -/

section Parts

variable {α β : Type} (message : NormalizedIncomingMessage)

/-- What an ingest relies on others to keep. -/
def Keeps (w w' : World) : Prop :=
  w.Retains w' ∧ (w.Received message.telegramChatId message.tgMessageId →
    w'.Received message.telegramChatId message.tgMessageId)

/-- What holds where a command is performed. -/
def Ordinary (c : Call) (w : World) : Prop :=
  w.SparesIncoming c ∧ w.FromCustomer message ∧ w.Distinct message

/-- When the program answers, `Q` holds of its answer. -/
abbrev Stores (p : App α) (Q : α → World → Prop) (w : World) : Prop :=
  Sat World.perform (Keeps message) (Ordinary message) (fun _ _ => True) p
    (fun r w => ∀ a, r = .ok a → Q a w) w

variable {message}

theorem Keeps.refl (w : World) : Keeps message w w := ⟨.refl w, id⟩

theorem Keeps.trans (w w' w'' : World) (first : Keeps message w w')
    (second : Keeps message w' w'') : Keeps message w w'' :=
  ⟨first.1.trans _ _ _ second.1, second.2 ∘ first.2⟩

theorem Ordinary.keeps {c : Call} {w : World} (ordinary : Ordinary message c w) :
    Keeps message w (w.perform c).2 :=
  ⟨w.retains_perform c, fun received => received.perform ordinary.1⟩

/-- What others keep. -/
def Stable (message : NormalizedIncomingMessage) (P : World → Prop) : Prop :=
  ∀ w w', Keeps message w w' → P w → P w'

theorem stable_ticketIn (ticketId : TicketId) (telegramChatId : ℤ) :
    Stable message fun w => w.TicketIn ticketId telegramChatId :=
  fun _ _ keeps holds => holds.retains keeps.1

variable {Q : α → World → Prop} {w : World}

theorem stores_pure {a : α} (stable : Stable message (Q a)) (holds : Q a w) :
    Stores message (pure a) Q w := by
  rintro w' keeps a' ⟨⟩
  exact stable w w' keeps holds

theorem stores_bind {p : App β} {k : β → App α}
    (first : Stores message p (fun b => Stores message (k b) Q) w) :
    Stores message (p >>= k) Q w := by
  refine sat_bind Keeps.refl (first.mono fun r w holds => ?_)
  cases r with
  | ok b => exact holds b rfl
  | error e => rintro a ⟨⟩

/-- One command, with what its answer tells. -/
theorem stores_perform {c : Call} {Q : c.Resp → World → Prop}
    (stable : ∀ a, Stable message (Q a))
    (holds : ∀ w' answer, Keeps message w w' → Ordinary message c w' →
      (w'.perform c).1 = .ok answer → Q answer (w'.perform c).2) :
    Stores message (SupportCrm.perform c) Q w :=
  sat_perform fun w' keeps ordinary => ⟨trivial, fun _ keeps' a answered =>
    stable a _ _ keeps' (holds w' a keeps ordinary answered)⟩

theorem stores_trivial (p : App α) : Stores message p (fun _ _ => True) w :=
  sat_of_always (Program.always_true p) (fun _ _ _ => trivial) fun _ _ _ _ => trivial

/-- What others keep, the program itself keeps. -/
theorem Stores.keeping {p : App α} (stores : Stores message p Q w) {F : World → Prop}
    (stable : Stable message F) (holds : F w) : Stores message p (fun a w => Q a w ∧ F w) w :=
  (Sat.keeping (stable · ·) (fun _ w ordinary => stable w _ ordinary.keeps) stores holds).mono
    fun _ _ both a answered => ⟨both.1 a answered, both.2⟩

theorem stores_keep {p : App α} {F : World → Prop} (stable : Stable message F) (holds : F w) :
    Stores message p (fun _ => F) w :=
  ((stores_trivial p).keeping stable holds).mono fun _ _ both a answered => (both a answered).2

/-- What is stored by a program stays so while others go on. -/
theorem stable_stores (p : App α) : Stable message (Stores message p Q) :=
  fun _ _ keeps stores => Sat.move Keeps.trans stores keeps

/-- One command, and what follows each of its answers. -/
theorem stores_perform_bind {c : Call} {k : c.Resp → App α}
    (rest : ∀ w' answer, Keeps message w w' → Ordinary message c w' →
      (w'.perform c).1 = .ok answer → Stores message (k answer) Q (w'.perform c).2) :
    Stores message (SupportCrm.perform c >>= k) Q w := by
  refine sat_perform_bind (fun _ _ _ => trivial) rest fun w' e _ _ _ w'' _ => ?_
  rintro a ⟨⟩

/-- A command that may fail, and what follows either way. -/
theorem stores_attempt_bind {c : Call} {k : Except Err c.Resp → App α}
    (rest : ∀ w', Keeps message w w' → Ordinary message c w' →
      Stores message (k (w'.perform c).1) Q (w'.perform c).2) :
    Stores message ((SupportCrm.perform c).attempt >>= k) Q w := by
  refine stores_bind (sat_attempt (sat_perform fun w' keeps ordinary =>
    ⟨trivial, fun w'' keeps' => ?_⟩))
  rintro r ⟨⟩
  exact stable_stores _ _ _ keeps' (rest w' keeps ordinary)

theorem stores_throw (e : Err) : Stores message (Program.throw e : App α) Q w := by
  rintro w' - a ⟨⟩

end Parts

section Ingest

variable {message : NormalizedIncomingMessage} {w : World}

/-- The sender is found to be a customer. -/
theorem stores_classify :
    Stores message (classify message.fromTelegramUserId message.fromUsername)
      (fun kind _ => kind = .customer) w := by
  have customer : ∀ {w : World}, Stores message (pure SenderClassification.customer)
      (fun kind _ => kind = .customer) w := stores_pure (fun _ _ _ => id) rfl
  refine stores_perform_bind fun w₁ agent _ ordinary ok => ?_
  have found : w₁.agents.findKey? message.fromTelegramUserId = agent := Except.ok.inj ok
  have notAgent := ordinary.2.1.notAgent
  rw [World.isAgent, found] at notAgent
  split
  · next other active =>
    obtain ⟨rfl, isActive⟩ := Option.filter_eq_some_iff.mp active
    cases notAgent.symm.trans isActive
  · refine stores_perform_bind fun w₂ excluded _ ordinary ok => ?_
    have found : w₂.excludedSenders.findKey? message.fromTelegramUserId = excluded :=
      Except.ok.inj ok
    have notById := ordinary.2.1.notById
    rw [World.isExcluded, found] at notById
    rw [if_neg (ne_true_of_eq_false notById), classifyByUsername]
    split
    · exact customer
    · next name given =>
      obtain ⟨given, nonempty⟩ := Option.filter_eq_some_iff.mp given
      refine stores_perform_bind fun w₃ record _ ordinary ok => ?_
      have found : w₃.excludedByUsername name = record := Except.ok.inj ok
      rw [ordinary.2.1.unmatched name given (of_decide_eq_true nonempty)] at found
      subst found
      exact customer

/-- The chat is stored, under this identifier in Telegram. -/
def ChatStored (telegramChatId : ℤ) (chat : Entry Chat) (w : World) : Prop :=
  w.chats.find? chat.id = some chat ∧ chat.val.telegramChatId = telegramChatId

theorem stable_chatStored (telegramChatId : ℤ) (chat : Entry Chat) :
    Stable message (ChatStored telegramChatId chat) :=
  fun _ _ keeps stored => ⟨keeps.1.chat _ _ stored.1, stored.2⟩

theorem ChatStored.ticketIn {telegramChatId : ℤ} {chat : Entry Chat}
    (stored : ChatStored telegramChatId chat w) {id : TicketId} {ticket : Entry Ticket}
    (found : w.tickets.find? id = some ticket) (own : ticket.val.chatId = chat.id) :
    w.TicketIn id telegramChatId :=
  ⟨ticket, chat, found, own ▸ stored.1, stored.2⟩

theorem stores_findOrCreateChat (telegramChatId : ℤ) (title : String) :
    Stores message (findOrCreateChat telegramChatId title) (ChatStored telegramChatId) w := by
  refine stores_perform_bind fun w₁ existing _ _ ok => ?_
  have found : w₁.chats.findKey? telegramChatId = existing := Except.ok.inj ok
  cases existing with
  | some chat =>
      obtain ⟨member, own⟩ := Table.findKey?_eq_some_iff.mp found
      exact stores_pure (stable_chatStored _ chat) ⟨Table.find?_self member, Option.some.inj own⟩
  | none =>
      refine stores_perform (stable_chatStored telegramChatId) fun w₂ chat _ _ ok => ?_
      obtain ⟨free, rfl, same⟩ := World.chatCreate_eq_ok (World.effect_of_perform_ok ok)
      rw [same]
      exact ⟨Table.find?_insert_self free, rfl⟩

/-- A thread to which the decision attaches is in the chat. -/
def AttachesIn (telegramChatId : ℤ) (decision : ThreadGroupingDecision) (w : World) : Prop :=
  ∀ ticketId revive rule, decision = .attach ticketId revive rule →
    w.TicketIn ticketId telegramChatId

theorem stores_attach {telegramChatId : ℤ} {ticketId : TicketId} {revive : Bool}
    {rule : MatchedRule} (inChat : w.TicketIn ticketId telegramChatId) :
    Stores message (pure (.attach ticketId revive rule)) (AttachesIn telegramChatId) w := by
  refine stores_pure (fun _ _ keeps holds _ _ _ attached =>
    (holds _ _ _ attached).retains keeps.1) ?_
  rintro _ _ _ ⟨⟩
  exact inChat

theorem stores_createNew (telegramChatId : ℤ) :
    Stores message (pure .createNew) (AttachesIn telegramChatId) w := by
  refine stores_pure (fun _ _ keeps holds _ _ _ attached =>
    (holds _ _ _ attached).retains keeps.1) ?_
  rintro _ _ _ ⟨⟩

theorem stores_decideByActivity {telegramChatId : ℤ} {chat : Entry Chat}
    {input : ThreadGroupingInput} (own : input.chatId = chat.id)
    (stored : ChatStored telegramChatId chat w) :
    Stores message (decideByActivity input) (AttachesIn telegramChatId) w := by
  refine stores_perform_bind fun w₁ active keeps _ ok => ?_
  have found : w₁.findMostRecentActiveTicket input.chatId input.customerId = active :=
    Except.ok.inj ok
  cases active with
  | none => exact stores_createNew telegramChatId
  | some active =>
      obtain ⟨ticket, latest, rfl⟩ := Option.map_eq_some_iff.mp found
      obtain ⟨member, meets⟩ := Table.mem_of_latest latest
      simp only [World.activeTicket, Bool.and_eq_true, decide_eq_true_eq] at meets
      have stored₁ := stable_chatStored _ _ w w₁ keeps stored
      dsimp only
      split
      · exact stores_attach (stored₁.ticketIn (Table.find?_self member) (meets.1.1.trans own))
      · exact stores_createNew telegramChatId

/-- The rules attach a message to a thread of its chat. -/
theorem stores_decide {telegramChatId : ℤ} {chat : Entry Chat} {input : ThreadGroupingInput}
    (own : input.chatId = chat.id) (stored : ChatStored telegramChatId chat w) :
    Stores message (decide input) (AttachesIn telegramChatId) w := by
  rw [SupportCrm.decide]
  split
  · exact stores_decideByActivity own stored
  · next reply given =>
    refine stores_perform_bind fun w₁ anchor keeps _ ok => ?_
    have found : w₁.findTicketByAnchorMessage input.chatId reply = anchor := Except.ok.inj ok
    have stored₁ : ChatStored telegramChatId chat w₁ := stable_chatStored _ _ w w₁ keeps stored
    cases anchor with
    | none => exact stores_decideByActivity own stored₁
    | some anchor =>
        obtain ⟨row, latest, ofTicket⟩ := Option.bind_eq_some_iff.mp found
        obtain ⟨ticket, present, rfl⟩ := Option.map_eq_some_iff.mp ofTicket
        have meets := (Table.mem_of_latest latest).2
        simp only [World.inChat, present, Option.any_some, Bool.and_eq_true, decide_eq_true_eq]
          at meets
        dsimp only
        split
        · exact stores_decideByActivity own stored₁
        · exact stores_attach
            (stored₁.ticketIn (Table.id_of_find? present ▸ present) (meets.2.trans own))

theorem stores_createForNewThread {telegramChatId : ℤ} {chat : Entry Chat} {params : NewTicket}
    (own : params.chatId = chat.id) (stored : ChatStored telegramChatId chat w) :
    Stores message (createForNewThread params)
      (fun view w => w.TicketIn view.ticket.id telegramChatId) w := by
  refine stores_perform_bind fun w₁ view keeps ordinary ok => ?_
  have stored₁ : ChatStored telegramChatId chat (w₁.perform (.ticketCreate params)).2 :=
    stable_chatStored _ _ _ _ (keeps.trans _ _ _ ordinary.keeps) stored
  obtain ⟨same, new, -⟩ := World.ticketCreate_eq_ok (World.effect_of_perform_ok ok)
  have inChat : (w₁.perform (.ticketCreate params)).2.TicketIn view.ticket.id telegramChatId := by
    have found : (w₁.perform (.ticketCreate params)).2.tickets.find? view.ticket.id =
        some ⟨w₁.tickets.next, params.row w₁.now⟩ := by
      rw [same, new]
      exact Table.find?_insert_self Ticket.free
    exact stored₁.ticketIn found own
  refine stores_bind ((stores_keep (stable_ticketIn view.ticket.id telegramChatId) inChat).mono
    fun _ _ holds _ answered => stores_pure (stable_ticketIn _ _) (holds _ answered))

/-- The ticket of the message is in its chat. -/
theorem stores_resolveTicket {telegramChatId : ℤ} {chat : Entry Chat} (customer : Entry Customer)
    (tgMessageId : ℤ) {decision : ThreadGroupingDecision} (stored : ChatStored telegramChatId chat w)
    (attaches : AttachesIn telegramChatId decision w) :
    Stores message (resolveTicket chat customer tgMessageId decision)
      (fun resolved w => w.TicketIn resolved.1 telegramChatId) w := by
  cases decision with
  | attach ticketId revive rule =>
      have inChat := attaches ticketId revive rule rfl
      cases revive with
      | false => exact stores_pure (stable_ticketIn _ _) inChat
      | true =>
          exact stores_bind ((stores_keep (stable_ticketIn ticketId telegramChatId) inChat).mono
            fun _ _ holds _ answered => stores_pure (stable_ticketIn _ _) (holds _ answered))
  | createNew =>
      refine stores_bind ((stores_keep (stable_chatStored telegramChatId chat) stored).mono
        fun _ _ holds routing answered => ?_)
      exact stores_bind ((stores_createForNewThread rfl (holds routing answered)).mono
        fun _ _ inChat _ created => stores_pure (stable_ticketIn _ _) (inChat _ created))

/-- The message of a ticket in its chat is stored, now or before. -/
theorem stores_recordIncoming {ticketId : TicketId} (text : Option String)
    (attachments : List Attachment) (isNewTicket : Bool)
    (inChat : w.TicketIn ticketId message.telegramChatId) :
    Stores message (recordIncoming ticketId message.tgMessageId text attachments isNewTicket)
      (fun _ w => w.Received message.telegramChatId message.tgMessageId) w := by
  refine stores_attempt_bind fun w₁ keeps ordinary => ?_
  have inChat₁ := (inChat.retains keeps.1).retains
    (w₁.retains_perform (.recordTransaction ticketId message.tgMessageId text attachments))
  cases stored : (w₁.perform (.recordTransaction ticketId message.tgMessageId text attachments)).1 with
  | ok row =>
      obtain ⟨-, free, rfl, same⟩ :=
        World.recordTransaction_eq_ok_iff.mp (World.effect_of_perform_ok stored)
      refine stores_keep (fun _ _ keeps => keeps.2)
        ⟨_, _, by rw [same]; exact Table.find?_insert_self free, rfl, rfl, inChat₁⟩
  | error e =>
      cases e with
      | uniqueConstraint =>
          refine stores_perform_bind fun w₂ existing keeps₂ ordinary₂ ok => ?_
          have found : w₂.messages.findKey? (message.tgMessageId, ticketId) = existing :=
            Except.ok.inj ok
          cases existing with
          | none => exact stores_throw _
          | some row =>
              obtain ⟨member, key⟩ := Table.findKey?_eq_some_iff.mp found
              obtain ⟨ofMessage, ofTicket⟩ := Message.key_eq_some_iff.mp key
              have inChat₂ : w₂.TicketIn row.val.ticketId message.telegramChatId :=
                ofTicket ▸ inChat₁.retains keeps₂.1
              have came : row.val.direction = .in := by
                cases way : row.val.direction with
                | «in» => rfl
                | out => exact absurd ofMessage (ordinary₂.2.2 row member way inChat₂)
              exact stores_keep (fun _ _ keeps => keeps.2)
                ⟨row.id, row, Table.find?_self member, came, ofMessage, inChat₂⟩
      | _ => exact stores_throw _

theorem stores_process (config : Config) :
    Stores message (process config message)
      (fun _ w => w.Received message.telegramChatId message.tgMessageId) w := by
  refine stores_bind (stores_classify.mono fun _ w₁ customer kind answered => ?_)
  cases customer kind answered
  refine stores_bind ((stores_findOrCreateChat _ _).mono fun _ w₂ stores chat answered => ?_)
  have stored := stores chat answered
  have frame : ∀ {α : Type} (p : App α) {w : World}, ChatStored message.telegramChatId chat w →
      Stores message p (fun _ => ChatStored message.telegramChatId chat) w :=
    fun _ _ stored => stores_keep (stable_chatStored _ chat) stored
  refine stores_bind ((frame _ stored).mono fun _ w₃ stores customer answered => ?_)
  refine stores_bind ((frame _ (stores customer answered)).mono fun _ w₄ stores now answered => ?_)
  have stored₄ := stores now answered
  refine stores_bind (((stores_decide rfl stored₄).keeping (stable_chatStored _ chat)
    stored₄).mono fun _ w₅ stores decision answered => ?_)
  obtain ⟨attaches, stored₅⟩ := stores decision answered
  refine stores_bind ((stores_resolveTicket customer _ stored₅ attaches).mono
    fun _ w₆ inChat resolved answered => ?_)
  refine stores_bind ((stores_recordIncoming _ _ _ (inChat resolved answered)).mono
    fun _ w₇ received row answered => ?_)
  exact stores_pure (fun _ _ keeps => keeps.2) (received row answered)

end Ingest

/-- **An ingest that is over has stored its message.** Whatever other requests and jobs do in
between, when the job for a message of a customer has ended well, a message that came in under its
identifier is stored in a ticket of the chat from which it came, whether this job has stored it or
an earlier one. The identifier is taken to be that of no outgoing message of the chat, as Telegram
numbers the messages of a chat. -/
theorem ingest_stored (config : Config) (requests : List Request) (schedule : List (Act ℕ))
    {w : World} (noJobs : w.outbound = [])
    (queued : ∀ job, .outbound job ∈ requests → job ∈ (w.after config requests schedule).outbound)
    {i : ℕ} {message : NormalizedIncomingMessage} (asked : requests[i]? = some (.ingest message))
    (done : ((Requests.start config requests w).exec schedule).programs[i]? = some (.ret (.ok ())))
    (customer : ∀ n, (w.after config requests (schedule.take n)).FromCustomer message)
    (distinct : ∀ n, (w.after config requests (schedule.take n)).Distinct message) :
    (w.after config requests schedule).Received message.telegramChatId message.tgMessageId := by
  have meets : (Requests.start config requests w).Meets (fun _ => World.perform) World.advance
      (fun _ => Ordinary message) (fun _ _ => True) schedule :=
    (Pool.meets_and (meets_confirmsOutgoing config requests w noJobs schedule queued)
      (Pool.meets_of_states fun n => And.intro (customer n) (distinct n))).mono
        (fun _ _ _ both => ⟨both.1.2, both.2⟩) fun _ _ _ => trivial
  have sats : (Requests.start config requests w).Sats (fun _ => World.perform)
      (fun _ => Keeps message) (fun _ => Ordinary message) (fun _ _ _ => True)
      fun j r w => j = i → r = .ok () →
        w.Received message.telegramChatId message.tgMessageId := by
    intro j p present
    by_cases own : j = i
    · subst own
      rw [Requests.start, List.getElem?_map, asked] at present
      cases present
      have stores : Stores message (Request.program config (.ingest message))
          (fun _ w => w.Received message.telegramChatId message.tgMessageId) w :=
        stores_bind ((stores_process config).mono fun _ _ received result answered =>
          stores_pure (fun _ _ keeps => keeps.2) (received result answered))
      exact stores.mono fun r _ received _ ended => received () ended
    · exact sat_of_always (Program.always_true p) (fun _ _ _ => trivial)
        fun _ _ same => absurd same own
  have left := (Pool.sats_exec (fun _ => Keeps.refl) (fun _ => Keeps.trans)
    (fun _ _ _ _ _ ordinary _ => ordinary.keeps)
    (fun _ milliseconds w _ =>
      ⟨w.retains_advance milliseconds, fun received => received.advance milliseconds⟩)
    meets sats).2
  exact Pool.Sats.result (fun _ => Keeps.refl) left done rfl rfl

/-! The message of a customer is delivered twice. -/

namespace DeliveredTwice

def requests : List Request := [.ingest (greeting 7), .ingest (greeting 7)]

/-- A state along the two jobs, one after the other. -/
def along (n : ℕ) : World := World.seeded.after .default requests ((oneByOne 2 20).take n)

set_option maxRecDepth 20000 in
theorem along_plain : ∀ n < 41, (along n).isAgent 42 = false ∧ (along n).isExcluded 42 = false ∧
    ∀ row ∈ (along n).messages.rows, row.val.direction = .out → row.val.tgMessageId = none := by
  decide

theorem plain (n : ℕ) : (along n).isAgent 42 = false ∧ (along n).isExcluded 42 = false ∧
    ∀ row ∈ (along n).messages.rows, row.val.direction = .out → row.val.tgMessageId = none := by
  have within : (oneByOne 2 20).take n = (oneByOne 2 20).take (min n 40) := List.take_eq_take_min
  rw [along, within]
  exact along_plain (min n 40) (by omega)

end DeliveredTwice

set_option maxRecDepth 20000 in
theorem ingest_stored_twice :
    (World.seeded.after .default DeliveredTwice.requests (oneByOne 2 20)).Received (-5) 7 := by
  refine ingest_stored .default DeliveredTwice.requests (oneByOne 2 20) rfl ?_
    (rfl : DeliveredTwice.requests[1]? = some (.ingest (greeting 7))) rfl ?_ ?_
  · simp [DeliveredTwice.requests]
  · intro n
    obtain ⟨notAgent, notById, -⟩ := DeliveredTwice.plain n
    exact ⟨notAgent, notById, by rintro _ ⟨⟩⟩
  · intro n row member out _ same
    cases (DeliveredTwice.plain n).2.2 row member out ▸ same

end SupportCrm
