import SupportCrm.Effects
import SupportCrm.System

/-!
# Replies that fail

`recordOutgoingReply` commits the message of an agent before it hands the job to the outbound
queue. A call that throws at one of its steps leaves no trace unless it is the one after that
commit, or the commit itself whose answer is lost (`failed_reply_traceless_iff`). Then the
message stays without a job, and the ticket keeps a time of first response that no reply has.
-/

set_option autoImplicit false

namespace SupportCrm

open KeyedTable AtomicProgram

/-- Every message of an agent has its job in the outbound queue. -/
def World.AgentsEnqueued (w : World) : Prop :=
  ∀ row ∈ w.messages.rows, row.val.sender = .agent → ∃ job ∈ w.outbound, job.messageId = row.id

instance (w : World) : Decidable w.AgentsEnqueued :=
  inferInstanceAs (Decidable (∀ row ∈ w.messages.rows, row.val.sender = .agent →
    ∃ job ∈ w.outbound, job.messageId = row.id))

namespace OutgoingReply

variable (params : OutgoingReply) (publicUrl : String) (fate : ℕ → Program.Fate) (w : World)

/-- These fates of the steps, and no other request running. -/
def quietly : Program.Plan World := ⟨fate, fun _ s => s⟩

@[simp] theorem quietly_fate (n : ℕ) : (quietly fate).fate n = fate n := rfl

@[simp] theorem quietly_move (n : ℕ) (w : World) : (quietly fate).move n w = w := rfl

/-- `recordOutgoingReply` with these fates of its steps. -/
def attempted : Option (Except Err (Entry Message)) × World :=
  (recordOutgoingReply publicUrl params).exec World.perform .unavailable (quietly fate) 0 w

/-- The place of the transaction among the steps: the last message is looked up only when
`asReply` is left out. -/
def transactionStep : ℕ := if params.asReply.isNone then 2 else 1

/-- A call that throws changes no message and no ticket, and every message of an agent has
its job. -/
def Traceless : Prop :=
  (∀ e, (params.attempted publicUrl fate w).1 = some (.error e) →
    (params.attempted publicUrl fate w).2.messages = w.messages ∧
      (params.attempted publicUrl fate w).2.tickets = w.tickets) ∧
    (params.attempted publicUrl fate w).2.AgentsEnqueued

/-- The transaction is reached and finds what it refers to. -/
def Reaches : Prop :=
  (∀ n < params.transactionStep, fate n = .done) ∧
    (w.ticketWithChat params.ticketId).isSome ∧ w.hasAgent (some params.agentId)

/-- The transaction commits, and its answer is lost or the step after it throws. -/
def Strands : Prop :=
  params.Reaches fate w ∧ (fate params.transactionStep = .lost ∨
    fate params.transactionStep = .done ∧ fate (params.transactionStep + 1) ≠ .done)

instance : Decidable (params.Strands fate w) :=
  inferInstanceAs (Decidable (((∀ n < params.transactionStep, fate n = .done) ∧ _) ∧ _))

/-- `recordOutgoingReply` from the transaction on. -/
def send (ticket : Entry Ticket) (chat : Entry Chat) (quoted : Option ℤ) : App (Entry Message) := do
  let message ← perform (.replyTransaction ticket.id params.agentId params.text
    ((params.attachments.getD []).map fun fileId => ⟨"file", fileId⟩)
    ticket.val.firstResponseAt.isNone)
  perform (.enqueueReply
    { ticketId := ticket.id,
      messageId := message.id,
      telegramChatId := chat.val.telegramChatId,
      text := params.text,
      replyToTgMessageId := quoted.filter (· ≠ 0),
      attachments := params.attachments.map fun fileIds => fileIds.map fun fileId =>
        ⟨fileId, attachmentUrl publicUrl fileId⟩ })
  perform (.emit (.messageSent ticket.id message.id (some params.agentId)))
  return message

end OutgoingReply

/-! ## The transaction -/

namespace World

variable {w : World} {ticketId : TicketId} {agentId : AgentId}

/-- A reply to a ticket that exists is stored if its agent exists. -/
theorem replyTransaction_stores (text : String) (attachments : List Attachment)
    (firstResponse : Bool) (present : (w.tickets.find? ticketId).isSome)
    (agent : w.hasAgent (some agentId) = true) :
    ∃ row w', w.perform (.replyTransaction ticketId agentId text attachments firstResponse) =
      (.ok row, w') ∧ row.id = w.messages.next ∧ w'.messages.rows = w.messages.rows ++ [row] ∧
        w'.outbound = w.outbound := by
  let message : Message :=
    { ticketId := ticketId, direction := .out, sender := .agent, agentId := some agentId,
      tgMessageId := none, text := some text, attachments := attachments, createdAt := w.now }
  have free : w.messages.Free message := Table.free_of_none rfl
  have stored : w.messageCreate message = .ok (⟨w.messages.next, message⟩,
      { w with messages := w.messages.insert message free }) :=
    messageCreate_eq_ok_iff.mpr ⟨present, agent, free, rfl, rfl⟩
  have effect : ∃ w', w.replyTransaction ticketId agentId text attachments firstResponse =
      .ok (⟨w.messages.next, message⟩, w') ∧ w'.messages = w.messages.insert message free ∧
        w'.outbound = w.outbound := by
    cases firstResponse with
    | false => exact ⟨_, bind_eq_ok_iff.mpr ⟨_, stored, rfl⟩, rfl, rfl⟩
    | true =>
        refine ⟨_, bind_eq_ok_iff.mpr ⟨_, stored, bind_eq_ok_iff.mpr
          ⟨_, ticketUpdate_eq_ok_iff.mpr ⟨present, rfl, rfl⟩, rfl⟩⟩, rfl, rfl⟩
  obtain ⟨w', ok, messages, outbound⟩ := effect
  refine ⟨_, w', perform_of_ok ok, rfl, ?_, outbound⟩
  rw [messages, Table.insert_rows]

/-- A reply of an agent that does not exist is refused. -/
theorem replyTransaction_refuses (ticketId : TicketId) (text : String)
    (attachments : List Attachment) (firstResponse : Bool)
    (absent : ¬ w.hasAgent (some agentId) = true) :
    ∃ e, w.perform (.replyTransaction ticketId agentId text attachments firstResponse) =
      (.error e, w) := by
  have refused : w.replyTransaction ticketId agentId text attachments firstResponse =
      .error .foreignKeyConstraint := by
    have free : w.messages.Free ⟨ticketId, .out, .agent, some agentId, none, some text,
        attachments, w.now⟩ := Table.free_of_none rfl
    simp only [replyTransaction, messageCreate]
    rw [Bool.not_eq_true] at absent
    rw [dif_pos free, absent, Bool.and_false]
    rfl
  exact ⟨_, perform_of_error refused⟩

end World

/-! ## The whole call -/

namespace OutgoingReply

variable {params : OutgoingReply} {publicUrl : String} {fate : ℕ → Program.Fate} {w : World}

/-- The choice of the message to quote leaves the world, and leads on when it is done. -/
theorem quotedMessage_exec (params : OutgoingReply) (w : World) (ticket : Entry Ticket)
    (k : Option ℤ → App (Entry Message)) (first : fate 0 = .done) :
    (∃ quoted, (∀ n < params.transactionStep, fate n = .done) ∧
      (quotedMessage ticket params.asReply >>= k).exec World.perform .unavailable
        (quietly fate) 1 w =
      (k quoted).exec World.perform .unavailable (quietly fate) params.transactionStep w) ∨
    ((quotedMessage ticket params.asReply >>= k).exec World.perform .unavailable
      (quietly fate) 1 w).2 = w ∧ ¬ params.Reaches fate w := by
  match given : params.asReply with
  | some quote =>
      have step : params.transactionStep = 1 := by simp [transactionStep, given]
      have before : ∀ n < 1, fate n = .done := by
        intro n before
        obtain rfl : n = 0 := by omega
        exact first
      rw [step]
      cases quote with
      | false => exact .inl ⟨none, before, rfl⟩
      | true => exact .inl ⟨some _, before, rfl⟩
  | none =>
      have step : params.transactionStep = 2 := by simp [transactionStep, given]
      rw [step]
      obtain ⟨choose, unfolded, pick⟩ : ∃ choose : Option (Entry Message) → App (Option ℤ),
          quotedMessage ticket none = perform (.lastMessage ticket.id) >>= choose ∧
            ∀ found, ∃ quoted, choose found = pure quoted := by
        refine ⟨_, rfl, fun found => ?_⟩
        split
        · exact ⟨_, rfl⟩
        · split
          · exact ⟨_, rfl⟩
          · exact ⟨_, rfl⟩
      rw [unfolded, bind_assoc]
      have reads : w.perform (.lastMessage ticket.id) = (.ok (w.messages.latest
          (fun row => row.val.ticketId = ticket.id) Message.createdAt), w) := rfl
      rcases Program.exec_query_bind .unavailable (k := fun found => choose found >>= k) reads
        (quietly_move fate 1 w) with ⟨second, next⟩ | ⟨undone, still⟩
      · have before : ∀ n < 2, fate n = .done := by
          intro n before
          obtain rfl | rfl : n = 0 ∨ n = 1 := by omega
          · exact first
          · exact second
        obtain ⟨quoted, chosen⟩ := pick (w.messages.latest
          (fun row => row.val.ticketId = ticket.id) Message.createdAt)
        rw [chosen, pure_bind] at next
        exact .inl ⟨quoted, before, next⟩
      · refine .inr ⟨still, fun reaches => undone (reaches.1 1 ?_)⟩
        omega

/-- The steps before the transaction leave the world, and lead to it when they are done and
the ticket is found. -/
theorem attempted_cases (params : OutgoingReply) (publicUrl : String) (fate : ℕ → Program.Fate)
    (w : World) :
    (∃ ticket chat quoted, w.ticketWithChat params.ticketId = some (ticket, chat) ∧
      (∀ n < params.transactionStep, fate n = .done) ∧
      params.attempted publicUrl fate w = (params.send publicUrl ticket chat quoted).exec
        World.perform .unavailable (quietly fate) params.transactionStep w) ∨
    (params.attempted publicUrl fate w).2 = w ∧ ¬ params.Reaches fate w := by
  have positive : 0 < params.transactionStep := by
    unfold transactionStep
    split <;> decide
  have reads : w.perform (.ticketWithChat params.ticketId) =
      (.ok (w.ticketWithChat params.ticketId), w) := rfl
  obtain ⟨proceed, unfolded, missing, goesOn⟩ :
      ∃ proceed : Option (Entry Ticket × Entry Chat) → App (Entry Message),
        recordOutgoingReply publicUrl params =
            perform (.ticketWithChat params.ticketId) >>= proceed ∧
          proceed none = Program.throw (.notFound "Ticket not found") ∧
          ∀ ticket chat, proceed (some (ticket, chat)) =
            quotedMessage ticket params.asReply >>= params.send publicUrl ticket chat :=
    ⟨_, rfl, rfl, fun _ _ => rfl⟩
  rw [attempted, unfolded]
  rcases Program.exec_query_bind .unavailable (k := proceed) reads (quietly_move fate 0 w) with
    ⟨first, next⟩ | ⟨undone, still⟩
  · rw [next]
    cases found : w.ticketWithChat params.ticketId with
    | none =>
        rw [missing]
        refine .inr ⟨rfl, fun reaches => ?_⟩
        have present := reaches.2.1
        simp [found] at present
    | some both =>
        obtain ⟨ticket, chat⟩ := both
        rw [goesOn]
        rcases quotedMessage_exec params w ticket
          (params.send publicUrl ticket chat) first with ⟨quoted, before, sends⟩ | stopped
        · exact .inl ⟨ticket, chat, quoted, rfl, before, sends⟩
        · exact .inr stopped
  · exact .inr ⟨still, fun reaches => undone (reaches.1 0 positive)⟩

/-- The transaction and the two steps after it, for an agent that exists. -/
theorem send_exec {ticket : Entry Ticket} {chat : Entry Chat} (quoted : Option ℤ) {n : ℕ}
    (present : (w.tickets.find? ticket.id).isSome) (agent : w.hasAgent (some params.agentId) = true)
    {result : Option (Except Err (Entry Message))} {w' : World}
    (ended : (params.send publicUrl ticket chat quoted).exec World.perform .unavailable
      (quietly fate) n w = (result, w')) :
    match fate n with
    | .fails => w' = w
    | .dies => result = none
    | .lost => result = some (.error .unavailable) ∧ w'.messages ≠ w.messages
    | .done =>
        match fate (n + 1) with
        | .dies => result = none
        | .lost | .fails => result = some (.error .unavailable) ∧ w'.messages ≠ w.messages
        | .done => fate (n + 2) = .done →
            (∃ row, result = some (.ok row)) ∧ (w.AgentsEnqueued → w'.AgentsEnqueued) := by
  obtain ⟨row, stored, ok, next, rows, outbound⟩ := World.replyTransaction_stores params.text
    ((params.attachments.getD []).map fun fileId => ⟨"file", fileId⟩)
    ticket.val.firstResponseAt.isNone present agent
  have grown : stored.messages ≠ w.messages := by
    intro same
    have length := congrArg (fun messages => messages.rows.length) same
    simp only [rows, List.length_append, List.length_singleton] at length
    omega
  rw [send, Program.exec_perform_bind, quietly_fate, quietly_move, ok] at ended
  match transaction : fate n with
  | .fails =>
      simp only [transaction] at ended ⊢
      exact (congrArg Prod.snd ended).symm
  | .dies =>
      simp only [transaction] at ended ⊢
      exact (congrArg Prod.fst ended).symm
  | .lost =>
      simp only [transaction, Prod.mk.injEq] at ended ⊢
      obtain ⟨rfl, rfl⟩ := ended
      exact ⟨rfl, grown⟩
  | .done =>
      simp only [transaction] at ended ⊢
      rw [Program.exec_perform_bind, quietly_fate, quietly_move] at ended
      match enqueued : fate (n + 1) with
      | .fails =>
          simp only [enqueued, Prod.mk.injEq] at ended ⊢
          obtain ⟨rfl, rfl⟩ := ended
          exact ⟨rfl, grown⟩
      | .dies =>
          simp only [enqueued] at ended ⊢
          exact (congrArg Prod.fst ended).symm
      | .lost =>
          simp only [enqueued, Prod.mk.injEq] at ended ⊢
          obtain ⟨rfl, rfl⟩ := ended
          exact ⟨rfl, grown⟩
      | .done =>
          simp only [enqueued] at ended ⊢
          intro announced
          rw [World.perform_of_ok rfl] at ended
          simp only at ended
          rw [Program.exec_perform_bind, quietly_fate, quietly_move] at ended
          simp only [announced] at ended
          rw [World.perform_of_ok rfl] at ended
          simp only [Program.exec_pure, Prod.mk.injEq] at ended
          obtain ⟨rfl, rfl⟩ := ended
          refine ⟨⟨row, rfl⟩, fun before => ?_⟩
          intro message member ofAgent
          rw [rows] at member
          rcases List.mem_append.mp member with old | new
          · obtain ⟨job, listed, own⟩ := before message old ofAgent
            exact ⟨job, List.mem_append_left _ (outbound ▸ listed), own⟩
          · obtain rfl := List.mem_singleton.mp new
            exact ⟨_, List.mem_append_right _ (List.mem_singleton_self _), rfl⟩

/-- The transaction is refused for an agent that does not exist. -/
theorem send_exec_refused {ticket : Entry Ticket} {chat : Entry Chat} (quoted : Option ℤ) (n : ℕ)
    (absent : ¬ w.hasAgent (some params.agentId) = true) :
    ((params.send publicUrl ticket chat quoted).exec World.perform .unavailable
      (quietly fate) n w).2 = w := by
  obtain ⟨e, refused⟩ := World.replyTransaction_refuses ticket.id params.text
    ((params.attachments.getD []).map fun fileId => ⟨"file", fileId⟩)
    ticket.val.firstResponseAt.isNone absent
  rw [send, Program.exec_perform_bind, quietly_fate, quietly_move, refused]
  simp only
  cases fate n with
  | done => rfl
  | lost => rfl
  | fails => rfl
  | dies => rfl

/-- A call that throws at the lookup of the ticket, at that of the last message, at the
transaction or at the hand-over to the queue is without trace, and so is one that succeeds, if
and only if it is not stranded between the commit and the queue. -/
theorem failed_reply_traceless_iff (params : OutgoingReply) (publicUrl : String)
    (fate : ℕ → Program.Fate) (w : World) (survives : ∀ n, fate n ≠ .dies)
    (announces : fate (params.transactionStep + 2) = .done) (enqueued : w.AgentsEnqueued) :
    params.Traceless publicUrl fate w ↔ ¬ params.Strands fate w := by
  rcases attempted_cases params publicUrl fate w with
    ⟨ticket, chat, quoted, found, before, sends⟩ | ⟨still, unreached⟩
  · have present : (w.tickets.find? ticket.id).isSome := by
      obtain ⟨ticket', listed, withChat⟩ := Option.bind_eq_some_iff.mp found
      obtain ⟨chat', -, same⟩ := Option.map_eq_some_iff.mp withChat
      cases same
      rw [Table.find?_self (Table.mem_of_find? listed)]
      rfl
    by_cases agent : w.hasAgent (some params.agentId) = true
    · have reached : params.Reaches fate w := ⟨before, by rw [found]; rfl, agent⟩
      have whole : (params.send publicUrl ticket chat quoted).exec World.perform .unavailable
          (quietly fate) params.transactionStep w =
        ((params.attempted publicUrl fate w).1, (params.attempted publicUrl fate w).2) := sends.symm
      have ended := send_exec quoted present agent whole
      rw [Strands, and_iff_right reached]
      match transaction : fate params.transactionStep with
      | .fails =>
          simp only [transaction] at ended
          refine iff_of_true ?_ (by simp)
          rw [Traceless, ended]
          exact ⟨fun _ _ => ⟨rfl, rfl⟩, enqueued⟩
      | .dies => exact absurd transaction (survives _)
      | .lost =>
          simp only [transaction] at ended
          exact iff_of_false (fun traceless => ended.2 (traceless.1 _ ended.1).1) (by simp)
      | .done =>
          simp only [transaction] at ended
          match handed : fate (params.transactionStep + 1) with
          | .dies => exact absurd handed (survives _)
          | .lost =>
              simp only [handed] at ended
              exact iff_of_false (fun traceless => ended.2 (traceless.1 _ ended.1).1) (by simp)
          | .fails =>
              simp only [handed] at ended
              exact iff_of_false (fun traceless => ended.2 (traceless.1 _ ended.1).1) (by simp)
          | .done =>
              simp only [handed] at ended
              obtain ⟨⟨row, succeeded⟩, kept⟩ := ended announces
              refine iff_of_true ⟨fun e threw => ?_, kept enqueued⟩ (by simp)
              rw [succeeded] at threw
              cases threw
    · refine iff_of_true ?_ fun strands => agent strands.1.2.2
      rw [Traceless, sends, send_exec_refused quoted _ agent]
      exact ⟨fun _ _ => ⟨rfl, rfl⟩, enqueued⟩
  · refine iff_of_true ?_ fun strands => unreached strands.1
    rw [Traceless, still]
    exact ⟨fun _ _ => ⟨rfl, rfl⟩, enqueued⟩

end OutgoingReply

/-! A reply that quotes the greeting of a customer: the transaction is its second step and the
hand-over to the queue its third. -/

namespace QuotedReply

def params : OutgoingReply := ⟨0, 0, "hello", none, some true⟩

/-- The world with the ticket of the greeting. -/
def greeted : World := World.seeded.after .default [.ingest (greeting 7)] (alone 20)

def failsAt (step n : ℕ) : Program.Fate := if n = step then .fails else .done

end QuotedReply

set_option maxRecDepth 4000 in
/-- The queue is not there: the call throws, the message stays without a job, and the time of
the first response is set. -/
theorem unqueued_reply_leaves_traces :
    QuotedReply.greeted.AgentsEnqueued ∧
      (QuotedReply.params.attempted "" (QuotedReply.failsAt 2) QuotedReply.greeted).1 =
        some (.error .unavailable) ∧
      (QuotedReply.params.attempted "" (QuotedReply.failsAt 2)
        QuotedReply.greeted).2.messages.rows.length =
          QuotedReply.greeted.messages.rows.length + 1 ∧
      ¬ (QuotedReply.params.attempted "" (QuotedReply.failsAt 2)
        QuotedReply.greeted).2.AgentsEnqueued ∧
      (QuotedReply.greeted.tickets.find? 0).map (·.val.firstResponseAt) = some none ∧
      ((QuotedReply.params.attempted "" (QuotedReply.failsAt 2)
        QuotedReply.greeted).2.tickets.find? 0).map (·.val.firstResponseAt) = some (some 0) ∧
      ¬ QuotedReply.params.Traceless "" (QuotedReply.failsAt 2) QuotedReply.greeted := by
  have enqueued : ¬ (QuotedReply.params.attempted "" (QuotedReply.failsAt 2)
      QuotedReply.greeted).2.AgentsEnqueued := by decide
  exact ⟨by decide, by rfl, by decide, enqueued, by decide, by decide,
    fun traceless => enqueued traceless.2⟩

set_option maxRecDepth 4000 in
/-- The transaction fails. -/
theorem failed_transaction_traceless :
    QuotedReply.params.Traceless "" (QuotedReply.failsAt 1) QuotedReply.greeted := by
  refine (OutgoingReply.failed_reply_traceless_iff QuotedReply.params "" (QuotedReply.failsAt 1)
    QuotedReply.greeted ?_ (by decide) (by decide)).mpr (by decide)
  intro n
  unfold QuotedReply.failsAt
  split <;> decide

end SupportCrm
