import SupportCrm.Anchors

/-!
# What the outbound processor says in a chat

The outbound queue is filled from the message rows of agents and of the acknowledgement, and
`OutboundProcessor` sends what its jobs hold. `told_queued` says that a job holds the text and the
files of its message, `processOutbound_renders` that an execution sends nothing but its job, and
together they say whose words every message is that the processor sends (`sent_written`).
-/

set_option autoImplicit false

namespace SupportCrm

open KeyedTable AtomicProgram

/-! ## Messages as calls of the Bot API -/

/-- The call for one file of a message; the first one carries the text. -/
def attachmentMethod (text : String) (index : ℕ) (url : String) : TelegramMethod :=
  let caption := if index = 0 ∧ text ≠ "" then some text else none
  if isImage url then .sendPhoto url caption else .sendDocument url caption

/-- The calls for a text and files. -/
def rendered (text : String) (urls : List String) : List TelegramMethod :=
  if urls = [] then [.sendMessage text] else urls.mapIdx (attachmentMethod text)

/-- The calls for a stored message. -/
def Message.rendered (publicUrl : String) (message : Message) : List TelegramMethod :=
  SupportCrm.rendered (message.text.getD "")
    (message.attachments.map fun file => attachmentUrl publicUrl file.fileId)

def OutboundReplyJob.urls (job : OutboundReplyJob) : List String :=
  (job.attachments.getD []).map OutboundAttachment.url

/-- A call of the Bot API is a part of what the job holds, and goes to its chat. -/
def Call.Renders (job : OutboundReplyJob) (c : Call) : Prop :=
  ∀ chatId method quoted part, c = .telegram chatId method quoted part →
    chatId = job.telegramChatId ∧ (rendered job.text job.urls)[part]? = some method

theorem sendAttachments_renders {job : OutboundReplyJob} (some : job.urls ≠ [])
    (quoted : Option ℤ) (attachments : List OutboundAttachment) (index : ℕ) (first : Option ℤ)
    (rest : job.urls.drop index = attachments.map OutboundAttachment.url) :
    (sendAttachments job.telegramChatId job.text quoted index first attachments).Always
      (Call.Renders job) := by
  induction attachments generalizing index first with
  | nil => exact Program.always_pure
  | cons attachment attachments ih =>
      have next : job.urls[index]? = Option.some attachment.url := by
        rw [← List.head?_drop, rest]
        rfl
      refine Program.always_bind (Program.always_perform ?_) fun _ => ih _ _ ?_
      · rintro chatId method quoted' part ⟨⟩
        refine ⟨rfl, ?_⟩
        rw [rendered, if_neg some, List.getElem?_mapIdx, next]
        rfl
      · rw [← List.drop_drop, rest]
        rfl

/-- **An execution sends nothing but its job.** -/
theorem processOutbound_renders (job : OutboundReplyJob) :
    (processOutbound job).Always (Call.Renders job) := by
  refine Program.always_bind ?_ fun tgMessageId => Program.always_perform fun _ _ _ _ => nofun
  unfold sendReply
  split
  · next none =>
    have bare : job.urls = [] := congrArg (List.map OutboundAttachment.url) none
    refine Program.always_perform ?_
    rintro chatId method quoted part ⟨⟩
    refine ⟨rfl, ?_⟩
    rw [rendered, if_pos bare]
    rfl
  · next attachment rest given =>
    have some : job.urls = (attachment :: rest).map OutboundAttachment.url := congrArg _ given
    refine Program.always_bind ?_ fun _ => Program.always_pure
    exact sendAttachments_renders (some ▸ List.cons_ne_nil _ _) _ _ 0 none some

/-! ## Jobs and their messages -/

namespace World

variable {w w' : World}

/-- What messages say stays. -/
def KeepsWords (w w' : World) : Prop :=
  ∀ id row, w.messages.find? id = some row → ∃ row', w'.messages.find? id = some row' ∧
    row'.val.text = row.val.text ∧ row'.val.attachments = row.val.attachments

theorem KeepsWords.refl (w : World) : w.KeepsWords w := fun _ row found => ⟨row, found, rfl, rfl⟩

theorem KeepsWords.trans (w w' w'' : World) (first : w.KeepsWords w')
    (second : w'.KeepsWords w'') : w.KeepsWords w'' := by
  intro id row found
  obtain ⟨row', found', text, files⟩ := first id row found
  obtain ⟨row'', found'', text', files'⟩ := second id row' found'
  exact ⟨row'', found'', text'.trans text, files'.trans files⟩

theorem keepsWords_perform (w : World) (c : Call) : w.KeepsWords (w.perform c).2 := by
  intro id row found
  rcases message_perform (c := c) found with same | ⟨tgMessageId, -, same⟩
  · exact ⟨row, same, rfl, rfl⟩
  · exact ⟨_, same, rfl, rfl⟩

/-- The row that `recordOutgoingReply` stores says what the agent wrote. -/
theorem replyTransaction_words {ticketId : TicketId} {agentId : AgentId} {text : String}
    {attachments : List Attachment} {firstResponse : Bool} {row : Entry Message}
    (ok : w.replyTransaction ticketId agentId text attachments firstResponse = .ok (row, w')) :
    ∃ message free, row = ⟨w.messages.next, message⟩ ∧ message.text = some text ∧
      message.attachments = attachments ∧ w'.messages = w.messages.insert message free := by
  simp only [replyTransaction, bind_eq_ok_iff] at ok
  obtain ⟨⟨created, w₁⟩, stored, w₂, updated, same⟩ := ok
  cases same
  obtain ⟨-, -, free, rfl, rfl⟩ := messageCreate_eq_ok_iff.mp stored
  refine ⟨_, free, rfl, rfl, rfl, ?_⟩
  cases firstResponse with
  | false =>
      obtain rfl := Except.ok.inj updated
      rfl
  | true =>
      obtain ⟨-, -, rfl⟩ := ticketUpdate_eq_ok_iff.mp updated
      rfl

/-- The job holds the text and the files of its message. -/
def Tells (publicUrl : String) (w : World) (job : OutboundReplyJob) : Prop :=
  ∃ row, w.messages.find? job.messageId = some row ∧ row.val.text = some job.text ∧
    row.val.attachments.map (fun file => attachmentUrl publicUrl file.fileId) = job.urls

theorem Tells.keepsWords {publicUrl : String} {job : OutboundReplyJob} (tells : w.Tells publicUrl job)
    (keeps : w.KeepsWords w') : w'.Tells publicUrl job := by
  obtain ⟨row, found, text, files⟩ := tells
  obtain ⟨row', found', text', files'⟩ := keeps _ row found
  exact ⟨row', found', text'.trans text, files' ▸ files⟩

end World

/-- A command puts only jobs into the queue that hold their message. -/
def Call.QueuesWords (publicUrl : String) (c : Call) (w : World) : Prop :=
  ∀ job, c = .enqueueReply job → w.Tells publicUrl job

/-- The program puts only jobs into the queue that hold their messages. -/
abbrev Telling (publicUrl : String) {α : Type} (p : App α) (w : World) : Prop :=
  Sat World.perform World.KeepsWords (fun _ _ => True) (Call.QueuesWords publicUrl) p
    (fun _ _ => True) w

section Telling

variable {α β : Type} {publicUrl : String} {w : World}

theorem telling_of_always {p : App α} (always : p.Always Call.Unqueued) : Telling publicUrl p w :=
  sat_of_always always (fun _ _ unqueued job queued => absurd queued (unqueued job))
    fun _ _ => trivial

theorem telling_perform {c : Call} (unqueued : c.Unqueued) :
    Telling publicUrl (SupportCrm.perform c) w :=
  telling_of_always (Program.always_perform unqueued)

theorem telling_bind {p : App β} {k : β → App α} (first : Telling publicUrl p w)
    (rest : ∀ b w, Telling publicUrl (k b) w) : Telling publicUrl (p >>= k) w :=
  sat_bind World.KeepsWords.refl <| first.mono fun r w _ => match r with
    | .ok b => rest b w
    | .error _ => trivial

/-- A message is created, and the job with its words is put into the queue. -/
theorem telling_enqueue {create : Call} {job : create.Resp → OutboundReplyJob}
    {rest : create.Resp → App α} (silent : create.Unqueued)
    (creates : ∀ (w : World) row, (w.perform create).1 = .ok row →
      ∃ (message : Message) (free : w.messages.Free message),
        (job row).messageId = w.messages.next ∧ message.text = some (job row).text ∧
        message.attachments.map (fun file => attachmentUrl publicUrl file.fileId) = (job row).urls ∧
        (w.perform create).2.messages = w.messages.insert message free)
    (unqueued : ∀ row, (rest row).Always Call.Unqueued) :
    Telling publicUrl (SupportCrm.perform create >>= fun row =>
      SupportCrm.perform (.enqueueReply (job row)) >>= fun _ => rest row) w := by
  refine sat_perform_bind (fun w' _ _ job queued => absurd queued (silent job))
    (fun w' row _ _ ok => ?_) fun _ _ _ _ _ _ _ => trivial
  obtain ⟨message, free, ofMessage, text, files, messages⟩ := creates w' row ok
  have tells : (w'.perform create).2.Tells publicUrl (job row) := by
    refine ⟨⟨w'.messages.next, message⟩, ?_, text, files⟩
    rw [messages, ofMessage, Table.find?_insert_self]
  refine sat_perform_bind (fun w'' keeps _ job' same => ?_)
    (fun w'' _ _ _ _ => telling_of_always (unqueued row)) fun _ _ _ _ _ _ _ => trivial
  cases same
  exact tells.keepsWords keeps

theorem telling_sendAutoAcknowledgement (ticketId : TicketId) (tgMessageId : ℤ) :
    Telling publicUrl (sendAutoAcknowledgement ticketId tgMessageId) w := by
  refine telling_bind (telling_perform (unqueued_of_reads _ rfl)) fun answer w => ?_
  cases answer with
  | none => exact telling_of_always Program.always_pure
  | some found =>
      refine telling_enqueue (fun _ => nofun) (fun w row ok => ?_)
        fun row => Program.always_perform fun _ => nofun
      obtain ⟨-, -, free, rfl, same⟩ :=
        World.messageCreate_eq_ok_iff.mp (World.effect_of_perform_ok ok)
      exact ⟨_, free, rfl, rfl, rfl, by rw [same]⟩

theorem telling_recordIncoming (ticketId : TicketId) (tgMessageId : ℤ) (text : Option String)
    (attachments : List Attachment) (isNewTicket : Bool) :
    Telling publicUrl (recordIncoming ticketId tgMessageId text attachments isNewTicket) w := by
  refine telling_bind (sat_attempt (telling_perform fun _ => nofun)) fun stored w => ?_
  split
  · refine telling_bind (telling_perform fun _ => nofun) fun _ w => ?_
    split
    · exact telling_bind (sat_attempt (telling_sendAutoAcknowledgement _ _))
        fun _ _ => telling_of_always Program.always_pure
    · exact telling_of_always Program.always_pure
  · refine telling_bind (telling_perform fun _ => nofun) fun existing w => ?_
    split
    · exact telling_of_always Program.always_pure
    · exact telling_of_always Program.always_throw
  · exact telling_of_always Program.always_throw

theorem telling_process (config : Config) (message : NormalizedIncomingMessage) :
    Telling publicUrl (process config message) w := by
  refine telling_bind (telling_of_always (classify_always unqueued_of_reads _ _
    fun _ _ => nofun)) fun kind w => ?_
  cases kind with
  | agent => exact telling_of_always Program.always_pure
  | excluded => exact telling_of_always Program.always_pure
  | customer =>
      refine telling_bind (telling_of_always (findOrCreateChat_always unqueued_of_reads _ _
        fun _ => nofun)) fun chat w => ?_
      refine telling_bind (telling_of_always (findOrCreateCustomer_always unqueued_of_reads _ _ _
        (fun _ => nofun) fun _ _ => nofun)) fun customer w => ?_
      refine telling_bind (telling_perform (unqueued_of_reads _ rfl)) fun now w => ?_
      refine telling_bind (telling_of_always (decide_always unqueued_of_reads _))
        fun decision w => ?_
      refine telling_bind (telling_of_always (resolveTicket_always unqueued_of_reads
        (fun _ _ => nofun) _ _ _ _ (fun _ _ => nofun) fun _ _ => nofun)) fun resolved w => ?_
      exact telling_bind (telling_recordIncoming _ _ _ _ _)
        fun _ _ => telling_of_always Program.always_pure

theorem telling_recordOutgoingReply (params : OutgoingReply) :
    Telling publicUrl (recordOutgoingReply publicUrl params) w := by
  refine telling_bind (telling_perform (unqueued_of_reads _ rfl)) fun answer w => ?_
  cases answer with
  | none => exact telling_of_always Program.always_throw
  | some found =>
      refine telling_bind (telling_of_always (quotedMessage_always unqueued_of_reads _ _))
        fun quoted w => ?_
      refine telling_enqueue (fun _ => nofun) (fun w row ok => ?_) fun row =>
        Program.always_bind (Program.always_perform fun _ => nofun) fun _ => Program.always_pure
      obtain ⟨message, free, rfl, text, files, same⟩ :=
        World.replyTransaction_words (World.effect_of_perform_ok ok)
      refine ⟨message, free, rfl, text, ?_, same⟩
      rw [files, OutboundReplyJob.urls]
      cases params.attachments with
      | none => rfl
      | some fileIds => simp [Function.comp_def]

theorem telling_program (config : Config) (request : Request) :
    Telling config.publicUrl (request.program config) w := by
  cases request with
  | ingest message =>
      exact telling_bind (telling_process config message)
        fun _ _ => telling_of_always Program.always_pure
  | reply params =>
      exact telling_bind (telling_recordOutgoingReply params)
        fun _ _ => telling_of_always Program.always_pure
  | _ =>
      refine telling_of_always ((Request.program_performs config _).imp fun c performs => ?_)
      rcases performs with reads | ⟨event, rfl⟩ | writes
      · exact unqueued_of_reads c reads
      · exact fun _ => nofun
      · cases writes <;> exact fun _ => nofun

end Telling

/-- **A job holds the words of its message**, in every state that requests reach from an empty
queue. -/
theorem told_queued (config : Config) (requests : List Request) (schedule : List (Act ℕ))
    {w : World} (empty : w.outbound = []) {job : OutboundReplyJob}
    (queued : job ∈ (w.after config requests schedule).outbound) :
    (w.after config requests schedule).Tells config.publicUrl job := by
  have keepsAdvance : ∀ milliseconds w, World.KeepsWords w (w.advance milliseconds) :=
    fun _ _ _ row found => ⟨row, found, rfl, rfl⟩
  have sats : (Requests.start config requests w).Sats (fun _ => World.perform)
      (fun _ => World.KeepsWords) (fun _ _ _ => True) (fun _ => Call.QueuesWords config.publicUrl)
      fun _ _ _ => True := by
    intro i p present
    obtain ⟨request, -, rfl⟩ := List.mem_map.mp (List.mem_of_getElem? present)
    exact telling_program config request
  have meets : (Requests.start config requests w).Meets (fun _ => World.perform) World.advance
      (fun _ => Call.QueuesWords config.publicUrl) (fun _ _ => True) schedule :=
    (Pool.sats_exec (fun _ => World.KeepsWords.refl) (fun _ => World.KeepsWords.trans)
      (fun _ _ _ c w _ _ => w.keepsWords_perform c)
      (fun _ milliseconds w _ => keepsAdvance milliseconds w)
      (Pool.meets_of_forall (fun _ _ _ => trivial) (fun _ _ => trivial) _ schedule) sats).1
  refine Pool.invariant_exec
    (I := fun w => ∀ job ∈ w.outbound, w.Tells config.publicUrl job) ?_ ?_ meets ?_ job queued
  · intro i c w queues holds job member
    rcases World.outbound_perform member with old | rfl
    · exact (holds job old).keepsWords (w.keepsWords_perform c)
    · exact (queues job rfl).keepsWords (w.keepsWords_perform _)
  · exact fun milliseconds w _ holds job member =>
      (holds job member).keepsWords (keepsAdvance milliseconds w)
  · intro job member
    rw [Requests.start, empty] at member
    cases member

/-! ## What was sent -/

namespace World

/-- What was sent is a part of an outgoing message of a ticket in this chat. -/
def Wrote (publicUrl : String) (w : World) (sent : SentMessage) : Prop :=
  ∃ row ticket chat, row ∈ w.messages.rows ∧ row.val.direction = .out ∧
    w.tickets.find? row.val.ticketId = some ticket ∧
    w.chats.find? ticket.val.chatId = some chat ∧ chat.val.telegramChatId = sent.chatId ∧
    (row.val.rendered publicUrl)[sent.part]? = some sent.method

end World

/-- A call of the Bot API is one of a job that is executed. -/
def Call.OfJob (requests : List Request) (c : Call) : Prop :=
  ∀ chatId method quoted part, c = .telegram chatId method quoted part →
    ∃ job, .outbound job ∈ requests ∧ c.Renders job

/-- What was sent is a part of a job that is executed. -/
def SentMessage.OfJob (requests : List Request) (sent : SentMessage) : Prop :=
  ∃ job, .outbound job ∈ requests ∧ sent.chatId = job.telegramChatId ∧
    (rendered job.text job.urls)[sent.part]? = some sent.method

theorem Request.program_ofJob (config : Config) {requests : List Request} {request : Request}
    (listed : request ∈ requests) : (request.program config).Always (Call.OfJob requests) := by
  by_cases delivering : ∃ job, request = .outbound job
  · obtain ⟨job, rfl⟩ := delivering
    exact (processOutbound_renders job).imp fun c renders _ _ _ _ _ => ⟨job, listed, renders⟩
  · refine (request.program_performs config).imp fun c performs => ?_
    rintro chatId method quoted part rfl
    cases performs.writes rfl (by rintro _ ⟨⟩) with
    | sends job => exact absurd ⟨job, rfl⟩ delivering

/-- Whatever was sent belongs to a job that is executed. -/
theorem sent_ofJob (config : Config) (requests : List Request) (schedule : List (Act ℕ))
    {w : World} (nothing : w.sent = []) {sent : SentMessage}
    (said : sent ∈ (w.after config requests schedule).sent) : sent.OfJob requests := by
  have meets : (Requests.start config requests w).Meets (fun _ => World.perform) World.advance
      (fun _ c _ => c.OfJob requests) (fun _ _ => True) schedule := by
    refine Pool.meets_of_always (P := fun _ => Call.OfJob requests) ?_ schedule
    intro i p present
    obtain ⟨request, listed, rfl⟩ := List.mem_map.mp (List.mem_of_getElem? present)
    exact request.program_ofJob config listed
  refine Pool.invariant_exec (I := fun w : World => ∀ sent ∈ w.sent, sent.OfJob requests) ?_ ?_
    meets ?_ sent said
  · intro i c w ofJob holds sent member
    by_cases calls : ∃ chatId method quoted part, c = .telegram chatId method quoted part
    · obtain ⟨chatId, method, quoted, part, rfl⟩ := calls
      rcases List.mem_append.mp member with old | new
      · exact holds sent old
      · obtain ⟨job, listed, own⟩ := ofJob _ _ _ _ rfl
        obtain rfl := List.mem_singleton.mp new
        exact ⟨job, listed, own _ _ _ _ rfl⟩
    · rw [World.sent_perform fun chatId method quoted part same =>
        calls ⟨chatId, method, quoted, part, same⟩] at member
      exact holds sent member
  · exact fun milliseconds w _ holds sent member => holds sent member
  · intro sent member
    rw [Requests.start, nothing] at member
    cases member

/-- **What the outbound processor sends was written for the chat.** However the requests interleave,
a message that the processor has sent to Telegram is a part of the text and files of an outgoing
message, an agent's or the acknowledgement, of a ticket in the chat to which it was sent. -/
theorem sent_written (config : Config) (requests : List Request) (schedule : List (Act ℕ))
    {w : World} (noJobs : w.outbound = []) (nothing : w.sent = [])
    (queued : ∀ job, .outbound job ∈ requests →
      job ∈ (w.after config requests schedule).outbound)
    {sent : SentMessage} (said : sent ∈ (w.after config requests schedule).sent) :
    (w.after config requests schedule).Wrote config.publicUrl sent := by
  obtain ⟨job, listed, ofChat, part⟩ := sent_ofJob config requests schedule nothing said
  obtain ⟨row, ticket, chat, found, own, out, present, withChat, given⟩ :=
    queued_matches config requests schedule noJobs (queued job listed)
  obtain ⟨row', found', text, files⟩ :=
    told_queued config requests schedule noJobs (queued job listed)
  obtain rfl := Option.some.inj (found.symm.trans found')
  refine ⟨row, ticket, chat, Table.mem_of_find? found, out, own ▸ present, withChat,
    given.trans ofChat.symm, ?_⟩
  rw [Message.rendered, text, files, Option.getD_some, part]

/-- The second file of an answer is of the agent's message, and stands in the chat of the ticket. -/
theorem sent_written_answer :
    Answer.sent.Wrote "http://localhost:3000"
      ⟨-5, .sendDocument "http://localhost:3000/uploads/b.pdf" none, none, 1, 1001⟩ := by
  have queued : ∀ job, .outbound job ∈ Answer.requests → job ∈ Answer.sent.outbound := by
    rintro job listed
    obtain rfl : job = Answer.job := by simpa [Answer.requests] using listed
    decide
  exact sent_written .default Answer.requests Answer.schedule rfl rfl queued (by decide)

end SupportCrm
