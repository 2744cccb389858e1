import SupportCrm.Commands
import SupportCrm.System

/-!
# Closed threads

An ingest is to leave closed and archived threads alone. It reads the status of a thread in
one step and writes the thread in later ones, with no condition on the status it then has;
requests of agents may come in between. `World.Choice` records which thread the ingest has
chosen and not yet written the message to, and `ingest_spares_closed` proves that the
ingest touches no closed thread as long as no other request closes the chosen one.
-/

set_option autoImplicit false

namespace SupportCrm

open KeyedTable AtomicProgram

namespace World

variable {w : World}

/-- The thread exists and is neither closed nor archived. -/
def live (w : World) (id : TicketId) : Bool :=
  (w.tickets.find? id).any fun ticket => !ticket.val.status.terminal

theorem live_iff {id : TicketId} : w.live id = true ↔
    ∃ ticket, w.tickets.find? id = some ticket ∧ ticket.val.status.terminal = false := by
  simp [live, Option.any_eq_true_iff_get, Option.eq_some_iff_get_eq]

/-- The command moves no thread out of `closed` or `archived` and stores no incoming message
in one that is closed or archived. -/
def SparesClosed (w : World) (c : Call) : Prop :=
  ∀ id ticket, w.tickets.find? id = some ticket → ticket.val.status.terminal = true →
    (w.perform c).2.live id = false ∧
      ∀ message ∈ (w.perform c).2.messages.rows, message.val.ticketId = id →
        message.val.direction = .in → ∃ old ∈ w.messages.rows, old.id = message.id

theorem live_eq_false {id : TicketId} {ticket : Entry Ticket}
    (found : w.tickets.find? id = some ticket) (closed : ticket.val.status.terminal = true) :
    w.live id = false := by
  simp [live, found, closed]

end World

/-- An update of another ticket than the target leaves the status or closes the ticket. -/
theorem Call.status_of_ticketData {c : Call} {now : Time} {id : TicketId} {data : TicketData}
    (update : c.ticketData now = some (id, data)) :
    c.target = some id ∨ data.status = none ∨ data.status = some .closed := by
  cases Call.updates_of_ticketData update with
  | patch | record => exact .inl rfl
  | assign | reply => exact .inr (.inl rfl)
  | close => exact .inr (.inr rfl)

namespace World

variable {w : World}

/-- A command spares the closed threads if its target is not one of them. -/
theorem sparesClosed_of_target {c : Call} (target : ∀ id ∈ c.target, w.live id) :
    w.SparesClosed c := by
  intro id ticket found closed
  have other : c.target ≠ some id := by
    intro own
    have isLive := target id own
    rw [live_eq_false found closed] at isLive
    cases isLive
  constructor
  · obtain ⟨ticket', found', change⟩ := ticket_perform c found
    refine live_eq_false found' ?_
    rcases change with rfl | ⟨data, update, rfl⟩
    · exact closed
    · rcases Call.status_of_ticketData update with own | kept | set
      · exact absurd own other
      · simpa [kept] using closed
      · simp [set, TicketStatus.terminal]
  · have step := w.perform_step c
    generalize (w.perform c).2 = w' at step
    intro message member own incoming
    cases step
    case record ticketId tgMessageId text attachments present free =>
      rcases (Table.mem_insert free).mp member with old | rfl
      · exact ⟨message, old, rfl⟩
      · exact absurd (congrArg some own) other
    case acknowledge ticketId text row free present own' out pending created bot =>
      rcases (Table.mem_insert free).mp member with old | rfl
      · exact ⟨message, old, rfl⟩
      · cases out.symm.trans incoming
    case reply ticketId agentId text attachments firstResponse row free present own' out pending
        created agent =>
      rcases (Table.mem_insert free).mp member with old | rfl
      · exact ⟨message, old, rfl⟩
      · cases out.symm.trans incoming
    case confirm id' tgMessageId messages changed =>
      obtain ⟨old, before, rfl⟩ := (Table.mem_modify? changed).mp member
      exact ⟨old, before, (Entry.change_id id' (confirmed tgMessageId) old).symm⟩
    all_goals exact ⟨message, member, rfl⟩

/-- A live thread stays live when it is patched to `open`. -/
theorem live_patch_open {id : TicketId} (isLive : w.live id = true) (byAgentId : Option AgentId) :
    (w.perform (.patchTransaction id { status := some .open } { status := some .open }
      byAgentId)).2.live id = true := by
  obtain ⟨ticket, found, live⟩ := live_iff.mp isLive
  obtain ⟨ticket', found', change⟩ := ticket_perform
    (.patchTransaction id { status := some .open } { status := some .open } byAgentId) found
  refine live_iff.mpr ⟨ticket', found', ?_⟩
  rcases change with rfl | ⟨data, update, rfl⟩
  · exact live
  · cases update
    rfl

end World

/-! ## The choice of a thread -/

/-- The clock reading of an ingest, and the thread it has chosen and not yet written its
message to. -/
structure Choice where
  asked : Option Time := none
  held : Option TicketId := none
  deriving DecidableEq, Repr

/-- How the commands of an ingest move its choice: reading a thread that it will attach to
chooses this thread, creating one chooses the new one, and storing the message ends it. -/
def World.choose (config : Config) (c : Call) (w : World) (choice : Choice) : Choice :=
  match c with
  | .newDate => { choice with asked := some w.now }
  | .findTicketByAnchorMessage chatId tgMessageId =>
      match (w.findTicketByAnchorMessage chatId tgMessageId).filter (!·.status.terminal) with
      | some anchor => { choice with held := some anchor.ticketId }
      | none => choice
  | .findMostRecentActiveTicket chatId customerId =>
      match (w.findMostRecentActiveTicket chatId customerId).filter fun active =>
          choice.asked.any fun now =>
            now - active.lastActivityAt < config.threadIdleWindowMinutes * 60000 with
      | some active => { choice with held := some active.ticketId }
      | none => choice
  | .ticketCreate data =>
      match w.ticketCreate data with
      | .ok (ticket, _) => { choice with held := some ticket.ticket.id }
      | .error _ => choice
  | .recordTransaction _ _ _ _ => { choice with held := none }
  | _ => choice

/-- The command does not close or archive the thread that the ingest has chosen. -/
def World.SparesChoice (c : Call) (s : World × Choice) : Prop :=
  ∀ id ∈ s.2.held, s.1.live id = true → (s.1.perform c).2.live id = true

instance (c : Call) (s : World × Choice) : Decidable (World.SparesChoice c s) :=
  inferInstanceAs (Decidable (∀ id ∈ s.2.held, _))

/-- What an ingest relies on: its choice is its own, and the chosen thread stays live. -/
def Keeping (s s' : World × Choice) : Prop :=
  s'.2 = s.2 ∧ ∀ id ∈ s.2.held, s.1.live id = true → s'.1.live id = true

theorem Keeping.refl (s : World × Choice) : Keeping s s := ⟨rfl, fun _ _ => id⟩

theorem Keeping.trans (s s' s'' : World × Choice) (first : Keeping s s')
    (second : Keeping s' s'') : Keeping s s'' :=
  ⟨second.1.trans first.1, fun id held isLive =>
    second.2 id (first.1 ▸ held) (first.2 id held isLive)⟩

/-- The ingest has chosen the thread, and the thread is live. -/
def Holding (id : TicketId) (s : World × Choice) : Prop :=
  s.2.held = some id ∧ s.1.live id = true

theorem Holding.keeping {id : TicketId} {s s' : World × Choice} (holding : Holding id s)
    (moved : Keeping s s') : Holding id s' :=
  ⟨moved.1 ▸ holding.1, moved.2 id holding.1 holding.2⟩

/-- Reviving the chosen thread keeps it chosen and live. -/
theorem Holding.patched {config : Config} {id : TicketId} {s : World × Choice}
    (holding : Holding id s) {byAgentId : Option AgentId} :
    Holding id ((s.1.perform (.patchTransaction id { status := some .open } { status := some .open }
        byAgentId)).2,
      s.1.choose config (.patchTransaction id { status := some .open } { status := some .open }
        byAgentId) s.2) :=
  ⟨holding.1, World.live_patch_open holding.2 byAgentId⟩

/-- A thread that was created is chosen and live. -/
theorem holding_created {config : Config} {s : World × Choice} {data : NewTicket}
    {view : TicketView} (created : (s.1.perform (.ticketCreate data)).1 = .ok view) :
    Holding view.ticket.id
      ((s.1.perform (.ticketCreate data)).2, s.1.choose config (.ticketCreate data) s.2) := by
  cases made : s.1.ticketCreate data with
  | error e =>
      rw [World.perform_of_error (c := .ticketCreate data) made] at created
      cases created
  | ok outcome =>
      have performed := World.perform_of_ok (c := .ticketCreate data) made
      rw [performed] at created ⊢
      obtain rfl : outcome.1 = view := Except.ok.inj created
      obtain ⟨after, row, -⟩ := World.ticketCreate_eq_ok
        (show s.1.ticketCreate data = .ok (outcome.1, outcome.2) from made)
      refine ⟨by simp only [World.choose, made], World.live_iff.mpr
        ⟨⟨s.1.tickets.next, data.row s.1.now⟩, ?_, rfl⟩⟩
      rw [after, row]
      exact Table.find?_insert_self Ticket.free

/-! ## The ingest among other requests -/

section Guarded

variable {α β : Type} {config : Config} {s : World × Choice}

/-- As long as its chosen thread stays live, the program spares the closed threads. -/
abbrev Guarded (config : Config) (p : App α) (s : World × Choice) : Prop :=
  Sat (Handler.observed World.perform (World.choose config)) Keeping (fun _ _ => True)
    (fun c s => s.1.SparesClosed c) p (fun _ _ => True) s

theorem Quiet.sparesClosed {c : Call} (quiet : Quiet c) (w : World) : w.SparesClosed c :=
  World.sparesClosed_of_target (by simp [quiet])

theorem guarded_of_quiet {p : App α} (quiet : p.Always Quiet) : Guarded config p s :=
  sat_of_always quiet (fun _ s holds => Quiet.sparesClosed holds s.1) fun _ _ => trivial

theorem guarded_quiet_bind {p : App α} {k : α → App β} (quiet : p.Always Quiet)
    (rest : ∀ a s, Guarded config (k a) s) : Guarded config (p >>= k) s := by
  refine sat_bind Keeping.refl
    (sat_of_always quiet (fun _ s holds => Quiet.sparesClosed holds s.1) fun r s => ?_)
  cases r with
  | ok a => exact rest a s
  | error e => trivial

/-- One command: what it answers, and the state after it, before anything else moves. -/
theorem guarded_perform_bind {c : Call} {k : c.Resp → App β}
    (spares : ∀ s', Keeping s s' → s'.1.SparesClosed c)
    (rest : ∀ s' answer, Keeping s s' → (s'.1.perform c).1 = .ok answer →
      ∀ s'', Keeping ((s'.1.perform c).2, s'.1.choose config c s'.2) s'' →
        Guarded config (k answer) s'') :
    Guarded config (perform c >>= k) s := by
  refine sat_bind Keeping.refl (sat_perform fun s' moved _ => ⟨spares s' moved, fun s'' moved' => ?_⟩)
  change Passes _ _ (s'.1.perform c).1 s''
  cases answered : (s'.1.perform c).1 with
  | ok answer => exact rest s' answer moved answered s'' moved'
  | error e => trivial

/-! ### The services of an ingest -/

theorem guarded_decideByActivity_bind {input : ThreadGroupingInput}
    {k : ThreadGroupingDecision → App β} (asked : s.2.asked = some input.now)
    (window : input.idleWindowMinutes = config.threadIdleWindowMinutes)
    (attach : ∀ ticketId revive rule s, Holding ticketId s →
      Guarded config (k (.attach ticketId revive rule)) s)
    (createNew : ∀ s, Guarded config (k .createNew) s) :
    Guarded config (decideByActivity input >>= k) s := by
  rw [decideByActivity, bind_assoc]
  refine guarded_perform_bind (fun s' _ => Quiet.sparesClosed rfl s'.1)
    fun s' answer moved answered s'' moved' => ?_
  obtain rfl : s'.1.findMostRecentActiveTicket input.chatId input.customerId = answer :=
    Except.ok.inj answered
  cases found : s'.1.findMostRecentActiveTicket input.chatId input.customerId with
  | none => exact createNew s''
  | some active =>
      simp only
      split
      · next recent =>
        simp only [Bool.and_eq_true, decide_eq_true_eq, window] at recent
        refine attach _ _ _ s'' (Holding.keeping ⟨?_, ?_⟩ moved')
        · simp only [World.choose, found, moved.1, asked, Option.any_some]
          rw [Option.filter_some, if_pos (by simpa using recent.2)]
        · obtain ⟨ticket, latest, rfl⟩ := Option.map_eq_some_iff.mp found
          obtain ⟨member, isActive⟩ := Table.mem_of_latest latest
          simp only [World.activeTicket, Bool.and_eq_true] at isActive
          change s'.1.live ticket.id = true
          simp only [World.live, Table.find?_self member, Option.any_some]
          exact isActive.2
      · exact createNew s''

theorem guarded_decide_bind {input : ThreadGroupingInput} {k : ThreadGroupingDecision → App β}
    (asked : s.2.asked = some input.now)
    (window : input.idleWindowMinutes = config.threadIdleWindowMinutes)
    (attach : ∀ ticketId revive rule s, Holding ticketId s →
      Guarded config (k (.attach ticketId revive rule)) s)
    (createNew : ∀ s, Guarded config (k .createNew) s) :
    Guarded config (decide input >>= k) s := by
  unfold decide
  cases input.replyToTgMessageId with
  | none => exact guarded_decideByActivity_bind asked window attach createNew
  | some replyToTgMessageId =>
      simp only [bind_assoc]
      refine guarded_perform_bind (fun s' _ => Quiet.sparesClosed rfl s'.1)
        fun s' answer moved answered s'' moved' => ?_
      obtain rfl : s'.1.findTicketByAnchorMessage input.chatId replyToTgMessageId = answer :=
        Except.ok.inj answered
      have unchosen : (∀ anchor, s'.1.findTicketByAnchorMessage input.chatId replyToTgMessageId =
          some anchor → anchor.status.terminal = true) → s''.2.asked = some input.now := by
        intro passed
        have none : (s'.1.findTicketByAnchorMessage input.chatId replyToTgMessageId).filter
            (!·.status.terminal) = none :=
          Option.filter_eq_none_iff.mpr fun anchor found => by simp [passed anchor found]
        rw [moved'.1]
        simp only [World.choose, none]
        rw [moved.1, asked]
      cases found : s'.1.findTicketByAnchorMessage input.chatId replyToTgMessageId with
      | none =>
          exact guarded_decideByActivity_bind (unchosen (by simp [found])) window attach createNew
      | some anchor =>
          simp only
          split
          · next closed =>
            refine guarded_decideByActivity_bind (unchosen ?_) window attach createNew
            rintro anchor' found'
            exact Option.some.inj (found.symm.trans found') ▸ closed
          · next live =>
            have isLive : anchor.status.terminal = false := by simpa using live
            refine attach _ _ _ s'' (Holding.keeping ⟨?_, ?_⟩ moved')
            · simp only [World.choose, found]
              rw [Option.filter_some, if_pos (by simpa using isLive)]
            · obtain ⟨message, -, ticketFound⟩ := Option.bind_eq_some_iff.mp found
              obtain ⟨ticket, isTicket, rfl⟩ := Option.map_eq_some_iff.mp ticketFound
              change s'.1.live ticket.id = true
              simp only [World.live, Table.find?_self (Table.mem_of_find? isTicket),
                Option.any_some]
              simpa using isLive

theorem guarded_resolveTicket_bind {chat : Entry Chat} {customer : Entry Customer}
    {tgMessageId : ℤ} {decision : ThreadGroupingDecision} {k : TicketId × Bool → App β}
    (attached : ∀ ticketId revive rule, decision = .attach ticketId revive rule →
      Holding ticketId s)
    (rest : ∀ resolved s, Holding resolved.1 s → Guarded config (k resolved) s) :
    Guarded config (resolveTicket chat customer tgMessageId decision >>= k) s := by
  cases decision with
  | attach ticketId revive rule =>
      have holding := attached ticketId revive rule rfl
      cases revive with
      | false => exact rest _ s holding
      | true =>
          simp only [resolveTicket, if_true, patch, getById, bind_assoc]
          refine guarded_perform_bind (fun s' _ => Quiet.sparesClosed rfl s'.1)
            fun s' answer moved _ s'' moved' => ?_
          have holding := Holding.keeping (s := (s'.1, s'.2)) (holding.keeping moved) moved'
          cases answer with
          | none => exact fun _ _ => trivial
          | some view =>
              simp only [pure_bind]
              change Guarded config (perform (.patchTransaction ticketId { status := some .open }
                { status := some .open } none) >>= _) s''
              refine guarded_perform_bind (fun s₁ moved₁ => ?_)
                fun s₁ answer moved₁ _ s₂ moved₂ => ?_
              · refine World.sparesClosed_of_target fun id target => ?_
                cases target
                exact (holding.keeping moved₁).2
              · have own := holding.keeping moved₁
                have holding₂ : Holding ticketId s₂ := own.patched.keeping moved₂
                refine guarded_perform_bind (fun s' _ => Quiet.sparesClosed rfl s'.1)
                  fun s₃ answer moved₃ _ s₄ moved₄ => ?_
                exact rest _ s₄ (Holding.keeping (s := (_, s₃.2)) (holding₂.keeping moved₃) moved₄)
  | createNew =>
      simp only [resolveTicket, bind_assoc]
      refine guarded_quiet_bind (decideAssignment_always quiet_of_reads chat.val) fun routing s => ?_
      simp only [createForNewThread, bind_assoc]
      refine guarded_perform_bind (fun s' _ => Quiet.sparesClosed rfl s'.1)
        fun s' view moved created s'' moved' => ?_
      have holding := (holding_created created).keeping moved'
      refine guarded_perform_bind (fun s' _ => Quiet.sparesClosed rfl s'.1)
        fun s₁ answer moved₁ _ s₂ moved₂ => ?_
      exact rest _ s₂ (Holding.keeping (s := (_, s₁.2)) (holding.keeping moved₁) moved₂)

theorem guarded_recordIncoming {ticketId : TicketId} {tgMessageId : ℤ} {text : Option String}
    {attachments : List Attachment} {isNewTicket : Bool} {k : Entry Message → App β}
    (holding : Holding ticketId s) (quiet : ∀ message, (k message).Always Quiet) :
    Guarded config
      (recordIncoming ticketId tgMessageId text attachments isNewTicket >>= k) s := by
  simp only [recordIncoming, bind_assoc]
  refine sat_bind Keeping.refl (sat_attempt (sat_perform fun s' moved _ => ⟨?_, fun s'' moved' => ?_⟩))
  · refine World.sparesClosed_of_target fun id target => ?_
    cases target
    exact (holding.keeping moved).2
  · refine guarded_of_quiet ?_
    split
    · exact Program.always_bind (announceIncoming_always quiet_of_reads (fun _ => rfl) _ _ _ _ rfl
        fun _ => rfl) quiet
    · refine Program.always_bind (Program.always_bind (Program.always_perform rfl)
        fun existing => ?_) quiet
      split
      · exact Program.always_pure
      · exact Program.always_throw
    · exact Program.always_throw

theorem guarded_process (message : NormalizedIncomingMessage) :
    Guarded config (process config message) s := by
  refine guarded_quiet_bind (classify_always quiet_of_reads _ _ fun _ => rfl) fun kind s => ?_
  cases kind with
  | agent agent => exact fun _ _ => trivial
  | excluded => exact fun _ _ => trivial
  | customer =>
      refine guarded_quiet_bind (findOrCreateChat_always quiet_of_reads _ _ rfl) fun chat s => ?_
      refine guarded_quiet_bind
        (findOrCreateCustomer_always quiet_of_reads _ _ _ rfl fun _ => rfl) fun customer s => ?_
      refine guarded_perform_bind (fun s' _ => Quiet.sparesClosed rfl s'.1)
        fun s' now moved read s'' moved' => ?_
      obtain rfl : s'.1.now = now := Except.ok.inj read
      refine guarded_decide_bind (by rw [moved'.1]; rfl) rfl ?_ ?_
      · intro ticketId revive rule s holding
        refine guarded_resolveTicket_bind (fun _ _ _ same => ?_) fun resolved s holding => ?_
        · cases same
          exact holding
        · exact guarded_recordIncoming holding fun _ => Program.always_pure
      · intro s
        refine guarded_resolveTicket_bind nofun fun resolved s holding => ?_
        exact guarded_recordIncoming holding fun _ => Program.always_pure

end Guarded

/-- The records of the requests: the first one notes its choice, the others note nothing. -/
def Choice.notes (config : Config) : ℕ → Call → World → Choice → Choice
  | 0 => World.choose config
  | _ + 1 => fun _ _ choice => choice

/-- Every other request spares the thread that the ingest has chosen. -/
def SparesChoices (config : Config) (message : NormalizedIncomingMessage)
    (requests : List Request) (w : World) (schedule : List (Act ℕ)) : Prop :=
  ((Requests.start config (.ingest message :: requests) w).withRecord ({} : Choice)).Meets
    (Pool.observed (fun _ => World.perform) (Choice.notes config)) (Pool.unrecorded World.advance)
    (fun i c s => 0 < i → World.SparesChoice c s) (fun _ _ => True) schedule

instance (config : Config) (message : NormalizedIncomingMessage) (requests : List Request)
    (w : World) (schedule : List (Act ℕ)) :
    Decidable (SparesChoices config message requests w schedule) :=
  Pool.decidableMeets _ _ _ _

/-- **Ingest and closed threads.** One ingest runs among any other requests, step by step in
any order, while time passes. As long as no other request closes or archives the thread
that the ingest has chosen and not yet written its message to, the ingest moves no thread
out of `closed` or `archived` and stores no message in one. -/
theorem ingest_spares_closed (config : Config) (message : NormalizedIncomingMessage)
    (requests : List Request) (w : World) (schedule : List (Act ℕ))
    (spares : SparesChoices config message requests w schedule) :
    (Requests.start config (.ingest message :: requests) w).Meets (fun _ => World.perform)
      World.advance (fun i c w => i = 0 → w.SparesClosed c) (fun _ _ => True) schedule := by
  let relies : ℕ → World × Choice → World × Choice → Prop
    | 0 => Keeping
    | _ + 1 => fun _ _ => True
  refine (Pool.meets_withRecord_iff _ (m := ({} : Choice))).mp
    (Pool.sats_exec (R := relies) (Q := fun _ _ _ => True) ?_ ?_ ?_ ?_ spares ?_).1
  · rintro (_ | i) s
    · exact Keeping.refl s
    · trivial
  · rintro (_ | i) s s' s''
    · exact Keeping.trans s s' s''
    · exact fun _ _ => trivial
  · rintro (_ | i) j ne c s assumed -
    · obtain ⟨j, rfl⟩ := Nat.exists_eq_succ_of_ne_zero ne.symm
      exact ⟨rfl, assumed (Nat.succ_pos j)⟩
    · trivial
  · rintro (_ | i) milliseconds s -
    · exact ⟨rfl, fun _ _ => id⟩
    · trivial
  · rintro (_ | i) p present
    · obtain rfl : (Request.ingest message).program config = p := Option.some.inj present
      have guarded : Guarded config (discard (process config message)) (w, {}) :=
        sat_bind Keeping.refl ((guarded_process message).mono fun r s _ => by
          cases r with
          | ok a => exact fun _ _ => trivial
          | error e => trivial)
      exact guarded.imp (fun _ _ _ => trivial) (fun _ _ spares _ => spares) fun _ _ => id
    · exact sat_of_always (Program.always_true p) (fun _ _ _ same => absurd same (Nat.succ_ne_zero i))
        fun _ _ => trivial

/-! ## A closed thread that an ingest opens again

A thread is pending. The customer writes, and an agent closes the thread after the ingest
has decided to revive it and before it does. -/

namespace ClosedMeanwhile

/-- The customer's first message was delivered. -/
def delivered : World := World.seeded.after .default [.ingest (greeting 7)] (alone 20)

def requests : List Request :=
  [.patch 0 { status := some .pending } 0, .close 0 0]

/-- The thread is set pending; the ingest takes some steps; the thread is closed. -/
def closedAfter (steps : ℕ) : List (Act ℕ) :=
  List.replicate 4 (.turn 1) ++ List.replicate steps (.turn 0) ++ List.replicate 5 (.turn 2)

end ClosedMeanwhile

theorem ingest_opens_closed :
    ¬ (Requests.start .default (.ingest (greeting 8) :: ClosedMeanwhile.requests)
      ClosedMeanwhile.delivered).Meets (fun _ => World.perform) World.advance
        (fun i c w => i = 0 → w.SparesClosed c) (fun _ _ => True)
        (ClosedMeanwhile.closedAfter 8 ++ [.turn 0]) := by
  intro meets
  have last := (Pool.meets_append_iff.mp meets).2.1
  have spares := last _ rfl
    (.patchTransaction 0 { status := some .open } { status := some .open } none) rfl rfl
  have kept := (spares 0 _ rfl rfl).1
  revert kept
  decide

/-- The thread is closed when the message is stored. -/
theorem ingest_before_closed :
    (Requests.start .default (.ingest (greeting 8) :: ClosedMeanwhile.requests)
      ClosedMeanwhile.delivered).Meets (fun _ => World.perform) World.advance
        (fun i c w => i = 0 → w.SparesClosed c) (fun _ _ => True)
        (ClosedMeanwhile.closedAfter 12) :=
  ingest_spares_closed .default (greeting 8) ClosedMeanwhile.requests ClosedMeanwhile.delivered
    (ClosedMeanwhile.closedAfter 12) (by decide)

end SupportCrm
