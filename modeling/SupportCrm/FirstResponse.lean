import SupportCrm.Stamps

/-!
# The first response

`recordOutgoingReply` notes the time of the first response with the first reply of an agent,
and an acknowledgement does not. That the time is there exactly when an agent has replied
holds in all states of every run (`World.Responses.after`). But the check whether there is
one is made on a ticket read before the transaction: of two replies that read the ticket
before either is stored, the second moves the time.

`first_response_once_iff`: the time stays in a run if and only if every reply that notes it finds
none on the ticket when it is stored.
-/

set_option autoImplicit false

namespace SupportCrm

open KeyedTable AtomicProgram

namespace World

variable {w : World}

/-- A message of the ticket that an agent sent is stored. -/
def AgentReplied (w : World) (id : TicketId) : Prop :=
  ∃ row ∈ w.messages.rows, row.val.ticketId = id ∧ row.val.sender = .agent

/-- The time of the first response is there exactly when an agent has replied. -/
def Responses (w : World) : Prop :=
  ∀ id, (w.stampOf .firstResponseAt id).isSome ↔ w.AgentReplied id

theorem responses_seeded : World.seeded.Responses := by
  intro id
  simp [AgentReplied, stampOf, seeded, initial, Table.empty, Table.find?]

/-- A reply that does not note the time is one to a ticket that has it. -/
def Informed (w : World) (c : Call) : Prop :=
  ∀ id agentId text attachments, c = .replyTransaction id agentId text attachments false →
    (w.stampOf .firstResponseAt id).isSome

/-- A time of a first response is not taken back. -/
def Responded (w w' : World) : Prop :=
  ∀ id, (w.stampOf .firstResponseAt id).isSome → (w'.stampOf .firstResponseAt id).isSome

theorem Responded.refl (w : World) : w.Responded w := fun _ held => held

theorem Responded.trans (w w' w'' : World) (first : w.Responded w') (second : w'.Responded w'') :
    w.Responded w'' :=
  fun id held => second id (first id held)

theorem responded_perform (w : World) (c : Call) : w.Responded (w.perform c).2 := by
  intro id held
  rcases w.update_cases c with ⟨other, data, ticket, -, found, same, -⟩ |
    ⟨-, same | ⟨data, -, same⟩⟩
  · rw [stampOf_update found same]
    split
    · next own =>
      subst own
      rw [stampOf, found, Option.bind_some] at held
      rw [Option.isSome_or, held, Bool.or_true]
    · exact held
  · rwa [stampOf_congr same]
  · rwa [stampOf_create same]

/-- What a new message makes of the replies. -/
theorem agentReplied_insert {w' : World} {message : Message} (free : w.messages.Free message)
    (same : w'.messages = w.messages.insert message free) (id : TicketId) :
    w'.AgentReplied id ↔
      w.AgentReplied id ∨ (message.ticketId = id ∧ message.sender = .agent) := by
  rw [AgentReplied, same]
  constructor
  · rintro ⟨row, member, own⟩
    rcases (Table.mem_insert free).mp member with old | rfl
    · exact .inl ⟨row, old, own⟩
    · exact .inr own
  · rintro (⟨row, old, own⟩ | own)
    · exact ⟨row, (Table.mem_insert free).mpr (.inl old), own⟩
    · exact ⟨_, (Table.mem_insert free).mpr (.inr rfl), own⟩

/-- **Every informed command keeps the times with the replies.** -/
theorem Responses.perform (responses : w.Responses) {c : Call} (informed : w.Informed c)
    {request : Request} (performs : request.Performs c) : (w.perform c).2.Responses := by
  have step := w.perform_step c
  generalize (w.perform c).2 = w' at step
  intro id
  cases step
  case ticketCreate data chat customer =>
    rw [stampOf_create rfl]
    exact responses id
  case patch other data dto byAgentId ticketLabels present relabels =>
    have unwritten : Stamp.firstResponseAt.written data = none := performs.builds.stamps.1
    rw [stampOf_update_unwritten unwritten rfl]
    exact responses id
  case assign other agentId byAgentId previous reason present =>
    rw [stampOf_update_unwritten rfl rfl]
    exact responses id
  case close other closedAt closedById agent =>
    rw [stampOf_update_unwritten rfl rfl]
    exact responses id
  case record ticketId tgMessageId text attachments present free =>
    rw [stampOf_update_unwritten rfl rfl, agentReplied_insert free rfl]
    exact (responses id).trans (or_iff_left fun own => by cases own.2).symm
  case acknowledge ticketId text message free present own out pending created bot =>
    rw [agentReplied_insert free rfl]
    refine (responses id).trans (or_iff_left fun own => ?_).symm
    cases bot.symm.trans own.2
  case reply ticketId agentId text attachments firstResponse message free present own out
      pending created agent =>
    rw [agentReplied_insert free rfl]
    cases firstResponse with
    | false =>
        have noted := informed ticketId agentId text attachments rfl
        refine (responses id).trans (or_iff_left_of_imp ?_).symm
        rintro ⟨same, -⟩
        exact (responses id).mp (same ▸ own ▸ noted)
    | true =>
        obtain ⟨ticket, found⟩ := Option.isSome_iff_exists.mp present
        rw [stampOf_update (w := w) found rfl]
        by_cases same : id = ticketId
        · refine iff_of_true ?_ (.inr ⟨own.trans same.symm, agent⟩)
          simp [same, Stamp.written]
        · rw [if_neg same]
          refine (responses id).trans (or_iff_left fun other => ?_).symm
          exact same (other.1.symm.trans own)
  case confirm messageId tgMessageId messages changed =>
    refine (responses id).trans ⟨?_, ?_⟩
    · rintro ⟨row, member, own⟩
      refine ⟨_, (Table.mem_modify? changed).mpr ⟨row, member, rfl⟩, ?_⟩
      rwa [Entry.change_same messageId (confirmed tgMessageId) row Message.ticketId fun _ => rfl,
        Entry.change_same messageId (confirmed tgMessageId) row Message.sender fun _ => rfl]
    · rintro ⟨row, member, own⟩
      obtain ⟨old, before, rfl⟩ := (Table.mem_modify? changed).mp member
      rw [Entry.change_same messageId (confirmed tgMessageId) old Message.ticketId fun _ => rfl,
        Entry.change_same messageId (confirmed tgMessageId) old Message.sender fun _ => rfl] at own
      exact ⟨old, before, own⟩
  all_goals exact responses id

end World

/-! ## A reply -/

/-- A program whose replies are informed while no time is taken back. -/
abbrev Knows {α : Type} (p : App α) (w : World) : Prop :=
  Sat World.perform World.Responded (fun _ _ => True) (fun c w => w.Informed c) p
    (fun _ _ => True) w

/-- What the second part needs holds where the first one ends. -/
theorem knows_bind {α β : Type} {p : App β} {k : β → App α} {F : World → Prop} {w : World}
    (first : Sat World.perform World.Responded (fun _ _ => True) (fun c w => w.Informed c) p
      (fun _ => F) w) (rest : ∀ b w, F w → Knows (k b) w) : Knows (p >>= k) w := by
  refine sat_bind World.Responded.refl (first.mono fun r w holds => ?_)
  cases r with
  | ok b => exact rest b w holds
  | error e => trivial

theorem informed_of_performs {request : Request} {c : Call} (performs : request.Performs c)
    (other : ∀ params, request ≠ .reply params) (w : World) : w.Informed c := by
  rintro id agentId text attachments rfl
  cases performs.writes rfl (by rintro _ ⟨⟩) with
  | replies params => exact absurd rfl (other params)

theorem informed_of_reads {c : Call} (reads : c.reads = true) (w : World) : w.Informed c := by
  rintro id agentId text attachments rfl
  cases reads

/-- **A reply that does not note the time has seen that it is there.** -/
theorem knows_recordOutgoingReply (publicUrl : String) (params : OutgoingReply) (w : World) :
    Knows (recordOutgoingReply publicUrl params) w := by
  refine sat_perform_bind (fun w' _ _ => informed_of_reads rfl w')
    (fun w' answer _ _ answered => ?_) fun _ _ _ _ _ _ _ => trivial
  split
  · exact fun _ _ => trivial
  · next ticket chat =>
    have looked : w'.ticketWithChat params.ticketId = some (ticket, chat) :=
      Except.ok.inj answered
    have found : w'.tickets.find? ticket.id = some ticket := by
      obtain ⟨row, found, paired⟩ := Option.bind_eq_some_iff.mp looked
      obtain ⟨chat', -, same⟩ := Option.map_eq_some_iff.mp paired
      cases same
      exact (Table.id_of_find? found).symm ▸ found
    -- what the check has seen stays true until the transaction
    have seen : ticket.val.firstResponseAt.isNone = false →
        (w'.stampOf .firstResponseAt ticket.id).isSome := by
      intro noted
      rw [World.stampOf, found, Option.bind_some]
      simpa [Stamp.of, Option.isSome_iff_ne_none] using noted
    have quoted : Knows (quotedMessage ticket params.asReply) w' :=
      sat_of_always (quotedMessage_always (fun c reads => reads) ticket params.asReply)
        (fun c w reads => informed_of_reads reads w) fun _ _ => trivial
    refine knows_bind ((Sat.keeping (F := fun w => ticket.val.firstResponseAt.isNone = false →
      (w.stampOf .firstResponseAt ticket.id).isSome) ?_ ?_ quoted seen).mono fun _ _ => And.right)
      fun replyToTgMessageId w seen => ?_
    · exact fun w w' responded seen noted => responded _ (seen noted)
    · exact fun c w _ seen noted => w.responded_perform c _ (seen noted)
    refine sat_perform_bind (fun w' responded _ => ?_) (fun w' message _ _ _ => ?_)
      fun _ _ _ _ _ _ _ => trivial
    · rintro id agentId text attachments same
      simp only [Call.replyTransaction.injEq] at same
      obtain ⟨rfl, -, -, -, noted⟩ := same
      exact responded _ (seen noted)
    · refine sat_of_always (P := fun c => ∀ w : World, w.Informed c) ?_
        (fun c w informed => informed w) fun _ _ => trivial
      refine Program.always_bind (Program.always_perform ?_) fun _ =>
        Program.always_bind (Program.always_perform ?_) fun _ => Program.always_pure
      · rintro w id agentId text attachments ⟨⟩
      · rintro w id agentId text attachments ⟨⟩

theorem Request.program_knows (config : Config) (request : Request) (w : World) :
    Knows (request.program config) w := by
  by_cases reply : ∃ params, request = .reply params
  · obtain ⟨params, rfl⟩ := reply
    exact knows_bind (knows_recordOutgoingReply config.publicUrl params w) fun _ _ _ _ _ => trivial
  · refine sat_of_always (request.program_performs config) (fun c w performs => ?_)
      fun _ _ => trivial
    exact informed_of_performs performs (fun params same => reply ⟨params, same⟩) w

/-! ## Over whole runs -/

/-- Every command of a run is one of a request, and informed. -/
theorem Requests.meets_informed (config : Config) (requests : List Request) (w : World)
    (schedule : List (Act ℕ)) :
    (Requests.start config requests w).Meets (fun _ => World.perform) World.advance
      (fun _ c w => w.Informed c ∧ ∃ request ∈ requests, request.Performs c)
      (fun _ _ => True ∧ True) schedule := by
  have sats : (Requests.start config requests w).Sats (fun _ => World.perform)
      (fun _ => World.Responded) (fun _ _ _ => True) (fun _ c w => w.Informed c)
      fun _ _ _ => True := by
    intro i p present
    obtain ⟨request, listed, rfl⟩ := List.mem_map.mp (List.mem_of_getElem? present)
    exact request.program_knows config w
  have clock : ∀ milliseconds w, World.Responded w (World.advance milliseconds w) :=
    fun milliseconds w => World.Responded.refl w
  have informed := (Pool.sats_exec (fun _ => World.Responded.refl) (fun _ => World.Responded.trans)
    (fun _ _ _ c w _ _ => w.responded_perform c) (fun _ milliseconds w _ => clock milliseconds w)
    (Pool.meets_of_forall (fun _ _ _ => trivial) (fun _ _ => trivial) _ schedule) sats).1
  exact Pool.meets_and informed (Requests.meets_performs config requests w schedule)

/-- In every run the time is there exactly when an agent has replied. -/
theorem World.Responses.after {w : World} (responses : w.Responses) (config : Config)
    (requests : List Request) (schedule : List (Act ℕ)) :
    (w.after config requests schedule).Responses := by
  refine Pool.invariant_exec (I := World.Responses) ?_ ?_
    (Requests.meets_informed config requests w schedule) responses
  · rintro i c w ⟨informed, request, -, performs⟩ responses
    exact responses.perform informed performs
  · exact fun _ _ _ responses => responses

namespace World

/-- If the command is a reply to the ticket that notes the time and takes effect, it finds none
there, or that of its own millisecond. -/
def repliesFirst (w : World) (id : TicketId) (c : Call) : Bool :=
  match c with
  | .replyTransaction ticketId _ _ _ true =>
      if ticketId = id ∧ w.takesEffect c then
        (w.stampOf .firstResponseAt id).all (· = w.now)
      else true
  | _ => true

/-- No other command of a request writes the time. -/
theorem updatesMeet_firstResponse {request : Request} {c : Call} (performs : request.Performs c)
    (w : World) (id : TicketId) :
    w.updatesMeet (Stamp.firstResponseAt.writesOnce id) c = w.repliesFirst id c := by
  cases update : c.ticketData w.now with
  | none =>
      rw [updatesMeet_none update]
      unfold repliesFirst
      split
      · cases update
      · rfl
  | some written =>
      obtain ⟨other, data⟩ := written
      cases Call.updates_of_ticketData update with
      | patch => exact updatesMeet_unwritten update performs.builds.stamps.1
      | assign | close | record => exact updatesMeet_unwritten update rfl
      | reply => exact updatesMeet_written update rfl

end World

/-- **The first response is written once unless two replies overlap.** In every state of a run
the time of the first response of a ticket is there exactly when an agent-sent message of it is
stored; and it never changes again if and only if every reply of the run that notes it finds none
on the ticket when it is stored. -/
theorem first_response_once_iff (config : Config) (requests : List Request) (w : World)
    (responses : w.Responses) (schedule : List (Act ℕ)) (id : TicketId) :
    ((∀ n, ((w.after config requests (schedule.take n)).stampOf .firstResponseAt id).isSome ↔
          (w.after config requests (schedule.take n)).AgentReplied id) ∧
        ∀ n m, n ≤ m → ∀ time,
          (w.after config requests (schedule.take n)).stampOf .firstResponseAt id = some time →
          (w.after config requests (schedule.take m)).stampOf .firstResponseAt id = some time) ↔
      (Requests.start config requests w).Meets (fun _ => World.perform) World.advance
        (fun _ c w => w.repliesFirst id c = true) (fun _ _ => True) schedule := by
  rw [and_iff_right fun n => responses.after config requests (schedule.take n) id]
  refine (World.stamp_stays_iff .firstResponseAt id config requests w schedule).trans
    (Pool.meets_congr (Requests.meets_performs config requests w schedule) ?_ fun _ _ _ => Iff.rfl)
  rintro i c w ⟨request, -, performs⟩
  rw [World.updatesMeet_firstResponse performs]

/-! Two replies to one ticket, the second a millisecond after the first. -/

namespace Replies

def first : Request := .reply ⟨0, 0, "hello", none, some false⟩

def second : Request := .reply ⟨0, 0, "how can I help?", none, some false⟩

def requests : List Request := [.ingest (greeting 7), first, second]

/-- Both read the ticket before one of them stores its message. -/
def overlapping : List (Act ℕ) :=
  alone 20 ++ [.turn 1, .turn 2, .turn 1, .env 1, .turn 2]

def inTurn : List (Act ℕ) :=
  alone 20 ++ [.turn 1, .turn 1, .env 1, .turn 2, .turn 2]

end Replies

set_option maxRecDepth 4000 in
/-- The second reply moves the time of the first response. -/
theorem overlapping_replies_move_first_response :
    World.seeded.Responses ∧
      (World.seeded.after .default Replies.requests
        (Replies.overlapping.take 23)).stampOf .firstResponseAt 0 = some 0 ∧
      (World.seeded.after .default Replies.requests
        (Replies.overlapping.take 25)).stampOf .firstResponseAt 0 = some 1 :=
  ⟨World.responses_seeded, by decide, by decide⟩

set_option maxRecDepth 4000 in
theorem replies_in_turn_keep_first_response :
    (World.seeded.after .default Replies.requests
        (Replies.inTurn.take 22)).stampOf .firstResponseAt 0 = some 0 ∧
      (World.seeded.after .default Replies.requests
        (Replies.inTurn.take 25)).stampOf .firstResponseAt 0 = some 0 := by
  have first : (World.seeded.after .default Replies.requests
      (Replies.inTurn.take 22)).stampOf .firstResponseAt 0 = some 0 := by decide
  refine ⟨first, ((first_response_once_iff .default Replies.requests World.seeded
    World.responses_seeded Replies.inTurn 0).mpr ?_).2 22 25 (by decide) 0 first⟩
  decide

end SupportCrm
