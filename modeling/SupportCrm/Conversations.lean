import Mathlib.Data.List.Sort
import SupportCrm.Anchors

/-!
# Conversations

`MessagesService.listForTicket` shows the messages of a ticket by the time of their creation. There
is no request that deletes a message or edits its text, and the only later write to a message row is
the one of `confirmOutgoingSent`. So a conversation only grows, and it grows at its end
(`conversation_grows`).
-/

set_option autoImplicit false

namespace SupportCrm

open KeyedTable AtomicProgram

/-! ## Listing the messages of a ticket -/

/-- `include: { agent: true }`. -/
def World.withAgent (w : World) (row : Entry Message) : Entry Message × Option (Entry Agent) :=
  (row, row.val.agentId.bind w.agents.find?)

/-- The messages of a ticket, with their agents. -/
def World.messagesOf (w : World) (ticketId : TicketId) :
    List (Entry Message × Option (Entry Agent)) :=
  (w.messages.rows.filter fun row => row.val.ticketId = ticketId).map w.withAgent

/-- The order of the query, which leaves messages of the same time open. -/
def ShownBefore (a b : Entry Message × Option (Entry Agent)) : Prop :=
  a.1.val.createdAt ≤ b.1.val.createdAt

instance : DecidableRel ShownBefore := fun a b =>
  inferInstanceAs (Decidable (a.1.val.createdAt ≤ b.1.val.createdAt))

instance : Std.Total ShownBefore := ⟨fun _ _ => le_total _ _⟩

instance : IsTrans _ ShownBefore := ⟨fun _ _ _ => le_trans⟩

/-- An answer to the query of `listForTicket`: the messages by the time of their creation, those of
the same time in any order. -/
structure World.Conversation (w : World) (ticketId : TicketId) where
  shown : List (Entry Message × Option (Entry Agent))
  all : shown.Perm (w.messagesOf ticketId)
  ordered : shown.Pairwise ShownBefore

/-- `MessagesService.listForTicket`, the messages of the same time in the order of their storing. -/
def World.listForTicket (w : World) (ticketId : TicketId) : w.Conversation ticketId where
  shown := (w.messagesOf ticketId).insertionSort ShownBefore
  all := List.perm_insertionSort _ _
  ordered := List.pairwise_insertionSort _ _

theorem World.Conversation.mem_iff {w : World} {ticketId : TicketId}
    (conversation : w.Conversation ticketId) {row : Entry Message} :
    row ∈ conversation.shown.map Prod.fst ↔ row ∈ w.messages.rows ∧ row.val.ticketId = ticketId := by
  rw [(conversation.all.map Prod.fst).mem_iff, World.messagesOf, List.map_map]
  change row ∈ List.map id _ ↔ _
  rw [List.map_id, List.mem_filter, decide_eq_true_eq]

/-! ## What requests do to messages -/

/-- The messages say the same; their identifiers in Telegram may differ. -/
def Message.SameWords (before after : Message) : Prop :=
  after = { before with tgMessageId := after.tgMessageId }

theorem Message.SameWords.refl (message : Message) : message.SameWords message := rfl

theorem Message.SameWords.trans {a b c : Message} (first : a.SameWords b) (second : b.SameWords c) :
    a.SameWords c := by
  rw [Message.SameWords, second, first]

theorem Message.SameWords.ticketId {a b : Message} (words : a.SameWords b) :
    b.ticketId = a.ticketId := by
  rw [words]

theorem Message.SameWords.createdAt {a b : Message} (words : a.SameWords b) :
    b.createdAt = a.createdAt := by
  rw [words]

/-- The job of one of these requests writes the identifier of the message. -/
def Request.Confirms (requests : List Request) (id : MessageId) : Prop :=
  ∃ job, .outbound job ∈ requests ∧ job.messageId = id

/-- From one state to a later one messages stay, and new ones come when they are created. -/
structure World.Appends (requests : List Request) (w w' : World) : Prop where
  clock : w.now ≤ w'.now
  kept : ∀ id row, w.messages.find? id = some row → ∃ row', w'.messages.find? id = some row' ∧
    row.val.SameWords row'.val ∧
    (row'.val.tgMessageId = row.val.tgMessageId ∨ Request.Confirms requests id)
  younger : ∀ row ∈ w'.messages.rows, w.messages.find? row.id = none → w.now ≤ row.val.createdAt

namespace World.Appends

variable {requests : List Request} {w w' w'' : World}

theorem refl (w : World) : w.Appends requests w where
  clock := le_rfl
  kept := fun _ row found => ⟨row, found, .refl _, .inl rfl⟩
  younger := by
    intro row member absent
    cases absent.symm.trans (Table.find?_self member)

theorem trans (first : w.Appends requests w') (second : w'.Appends requests w'') :
    w.Appends requests w'' where
  clock := first.clock.trans second.clock
  kept := by
    intro id row found
    obtain ⟨row', found', words, same⟩ := first.kept id row found
    obtain ⟨row'', found'', words', same'⟩ := second.kept id row' found'
    refine ⟨row'', found'', words.trans words', ?_⟩
    rcases same' with same' | confirms
    · exact same.imp_left same'.trans
    · exact .inr confirms
  younger := by
    intro row member absent
    cases between : w'.messages.find? row.id with
    | none => exact first.clock.trans (second.younger row member between)
    | some row' =>
        obtain ⟨row'', found, words, -⟩ := second.kept row.id row' between
        obtain rfl := Option.some.inj ((Table.find?_self member).symm.trans found)
        rw [words.createdAt]
        exact first.younger row' (Table.mem_of_find? between) (Table.id_of_find? between ▸ absent)

/-- What a request performs lets the messages grow. -/
theorem perform {request : Request} (listed : request ∈ requests) {c : Call}
    (performs : request.Performs c) (w : World) : w.Appends requests (w.perform c).2 where
  clock := (w.now_perform c).ge
  kept := by
    intro id row found
    rcases message_perform (c := c) found with same | ⟨tgMessageId, rfl, same⟩
    · exact ⟨row, same, .refl _, .inl rfl⟩
    · refine ⟨_, same, rfl, .inr ?_⟩
      cases performs.writes rfl (by rintro _ ⟨⟩) with
      | confirms job => exact ⟨job, listed, rfl⟩
  younger := by
    intro row member absent
    rcases w.messages_perform c with same | ⟨message, free, -, created, same⟩ |
      ⟨id, tgMessageId, messages, -, changed, same⟩
    · cases absent.symm.trans (Table.find?_self (same ▸ member))
    · rcases (Table.mem_insert free).mp (same ▸ member) with old | rfl
      · cases absent.symm.trans (Table.find?_self old)
      · exact created.ge
    · obtain ⟨old, before, rfl⟩ := (Table.mem_modify? changed).mp (same ▸ member)
      rw [Entry.change_id] at absent
      cases absent.symm.trans (Table.find?_self before)

theorem advance (milliseconds : ℕ) (w : World) : w.Appends requests (w.advance milliseconds) where
  clock := Int.le_add_of_nonneg_right (Int.natCast_nonneg milliseconds)
  kept := fun _ row found => ⟨row, found, .refl _, .inl rfl⟩
  younger := by
    intro row member absent
    cases absent.symm.trans (Table.find?_self member)

end World.Appends

/-- Along the rest of a schedule the messages grow. -/
theorem appends_exec (config : Config) (requests : List Request) (w : World)
    (first second : List (Act ℕ)) : (w.after config requests first).Appends requests
      (w.after config requests (first ++ second)) := by
  rw [World.after_append]
  have meets := Requests.meets_performs config requests w (first ++ second)
  refine Pool.invariant_exec (I := (w.after config requests first).Appends requests) ?_ ?_
    (Pool.meets_append_iff.mp meets).2 (World.Appends.refl _)
  · rintro i c w' ⟨request, listed, performs⟩ appends
    exact appends.trans (World.Appends.perform listed performs w')
  · exact fun milliseconds w' _ appends => appends.trans (World.Appends.advance milliseconds w')

theorem timely_after {w : World} (timely : w.Timely) (config : Config) (requests : List Request)
    (schedule : List (Act ℕ)) : (w.after config requests schedule).Timely :=
  World.after_invariant (I := World.Timely) (fun c _ holds => holds.perform c)
    (fun milliseconds _ holds =>
      holds.setNow (Int.le_add_of_nonneg_right (Int.natCast_nonneg milliseconds))) timely

/-- **A conversation only grows, at its end.** Whatever requests and jobs do between two readings of
the messages of a ticket, the second one shows every message of the first again, with its direction,
sender, agent, text, files and time, and with its identifier in Telegram unless an outbound job has
written it. Before such a message it shows no other, except one of the very same time. -/
theorem conversation_grows (config : Config) (requests : List Request) {w : World}
    (timely : w.Timely) (first second : List (Act ℕ)) (ticketId : TicketId)
    (before : (w.after config requests first).Conversation ticketId)
    (after : (w.after config requests (first ++ second)).Conversation ticketId) :
    (∀ row ∈ before.shown.map Prod.fst, ∃ row' ∈ after.shown.map Prod.fst, row'.id = row.id ∧
        row.val.SameWords row'.val ∧
        (row'.val.tgMessageId = row.val.tgMessageId ∨ Request.Confirms requests row.id)) ∧
      ∀ earlier later : Entry Message, [earlier, later].Sublist (after.shown.map Prod.fst) →
        later.id ∈ before.shown.map (fun row => row.1.id) →
          earlier.id ∈ before.shown.map (fun row => row.1.id) ∨
            earlier.val.createdAt = later.val.createdAt := by
  have appends := appends_exec config requests w first second
  have old := timely_after timely config requests first
  have ids : ∀ id, id ∈ before.shown.map (fun row => row.1.id) ↔
      ∃ row ∈ before.shown.map Prod.fst, row.id = id := by simp
  constructor
  · intro row listed
    obtain ⟨member, own⟩ := before.mem_iff.mp listed
    obtain ⟨row', found, words, confirmed⟩ := appends.kept row.id row (Table.find?_self member)
    exact ⟨row', after.mem_iff.mpr ⟨Table.mem_of_find? found, words.ticketId.trans own⟩,
      Table.id_of_find? found, words, confirmed⟩
  · intro earlier later stands shown
    obtain ⟨row, listed, same⟩ := (ids later.id).mp shown
    rw [ids, or_iff_not_imp_left]
    intro unknown
    -- What is new is no older than the first reading, and what it showed no younger.
    obtain ⟨memberE, ownE⟩ := after.mem_iff.mp (stands.subset List.mem_cons_self)
    obtain ⟨memberL, -⟩ := after.mem_iff.mp (stands.subset (.tail _ List.mem_cons_self))
    have absent : (w.after config requests first).messages.find? earlier.id = none := by
      by_contra present
      obtain ⟨was, found⟩ := Option.ne_none_iff_exists'.mp present
      obtain ⟨is, found', words, -⟩ := appends.kept earlier.id was found
      obtain rfl := Option.some.inj ((Table.find?_self memberE).symm.trans found')
      exact unknown ⟨was, before.mem_iff.mpr ⟨Table.mem_of_find? found, words.ticketId ▸ ownE⟩,
        Table.id_of_find? found⟩
    obtain ⟨member, -⟩ := before.mem_iff.mp listed
    obtain ⟨is, found, words, -⟩ := appends.kept row.id row (Table.find?_self member)
    rw [same] at found
    obtain rfl := Option.some.inj ((Table.find?_self memberL).symm.trans found)
    have sorted : (after.shown.map Prod.fst).Pairwise fun a b => a.val.createdAt ≤ b.val.createdAt :=
      List.pairwise_map.mpr after.ordered
    have ordered : earlier.val.createdAt ≤ later.val.createdAt :=
      List.pairwise_iff_forall_sublist.mp sorted stands
    have created : later.val.createdAt ≤ earlier.val.createdAt := by
      rw [words.createdAt]
      exact (old.message row member).trans (appends.younger earlier memberE absent)
    exact le_antisymm ordered created

/-! A customer writes, is acknowledged, and writes again after the bot has sent the
acknowledgement. -/

namespace SecondMessage

def acknowledgement : OutboundReplyJob where
  ticketId := 0
  messageId := 1
  telegramChatId := -5
  text := autoAckText
  replyToTgMessageId := some 7
  attachments := none

def requests : List Request :=
  [.ingest (greeting 7), .outbound acknowledgement, .ingest (greeting 8)]

def opening : List (Act ℕ) := List.replicate 20 (.turn 0)

def rest : List (Act ℕ) :=
  List.replicate 5 (.turn 1) ++ .env 60000 :: List.replicate 20 (.turn 2)

def before : (World.seeded.after .default requests opening).Conversation 0 :=
  World.listForTicket _ 0

def after : (World.seeded.after .default requests (opening ++ rest)).Conversation 0 :=
  World.listForTicket _ 0

end SecondMessage

set_option maxRecDepth 20000 in
theorem conversation_grows_again :
    (SecondMessage.before.shown.map fun row => (row.1.id, row.1.val.tgMessageId)) =
        [(0, some 7), (1, none)] ∧
      (SecondMessage.after.shown.map fun row => (row.1.id, row.1.val.tgMessageId)) =
        [(0, some 7), (1, some 1000), (2, some 8)] ∧
      ∀ row ∈ SecondMessage.before.shown.map Prod.fst,
        ∃ row' ∈ SecondMessage.after.shown.map Prod.fst, row'.id = row.id ∧
          row.val.SameWords row'.val ∧ (row'.val.tgMessageId = row.val.tgMessageId ∨
            Request.Confirms SecondMessage.requests row.id) := by
  have timely : World.seeded.Timely := by
    constructor <;> simp [World.seeded, World.initial, Table.empty]
  refine ⟨by decide, by decide, ?_⟩
  exact (conversation_grows .default SecondMessage.requests timely SecondMessage.opening
    SecondMessage.rest 0 SecondMessage.before SecondMessage.after).1

end SupportCrm
