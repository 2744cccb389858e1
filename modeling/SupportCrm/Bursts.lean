import SupportCrm.Coordination

/-!
# Bursts

The programs of the workers of a burst, among each other. A worker relies on its progress
being its own and on the others keeping what all keep; the rules `works_*` take it through
`process`, and `works_job` through its tries. `burst_one_thread` puts the workers together:
as long as they take turns, the messages of a burst share one thread, with at most one
acknowledgement.
-/

set_option autoImplicit false

namespace SupportCrm

open KeyedTable AtomicProgram

namespace Burst

variable {b : Burst} {w w' : World} {s s' : World × (ℕ → Progress)} {i : ℕ}

/-! ## The workers among each other -/

/-- What a worker relies on: its progress is its own, and the others keep what all keep. -/
def Rely (b : Burst) (i : ℕ) (s s' : World × (ℕ → Progress)) : Prop :=
  s'.2 i = s.2 i ∧ (b.Coordinated s → b.Coordinated s' ∧ s.1.Grows s'.1)

theorem Rely.refl (i : ℕ) (s : World × (ℕ → Progress)) : b.Rely i s s :=
  ⟨rfl, fun coordinated => ⟨coordinated, World.Grows.refl s.1⟩⟩

theorem Rely.trans (i : ℕ) (s s' s'' : World × (ℕ → Progress)) (first : b.Rely i s s')
    (second : b.Rely i s' s'') : b.Rely i s s'' := by
  refine ⟨second.1.trans first.1, fun coordinated => ?_⟩
  obtain ⟨coordinated', grows⟩ := first.2 coordinated
  obtain ⟨coordinated'', grows'⟩ := second.2 coordinated'
  exact ⟨coordinated'', grows.trans grows'⟩

/-- What the commands of a worker keep. -/
def Keeps (b : Burst) (i : ℕ) (c : Call) (s : World × (ℕ → Progress)) : Prop :=
  b.Coordinated s → b.Coordinated (b.next i c s) ∧ s.1.Grows (b.next i c s).1

/-- The program of a worker, among the others as long as they take turns. -/
abbrev Works (b : Burst) (i : ℕ) {α : Type} (p : App α)
    (Q : Except Err α → World × (ℕ → Progress) → Prop) (s : World × (ℕ → Progress)) : Prop :=
  Sat (Handler.observed World.perform (b.notes i)) (b.Rely i) (fun c s => b.TakesTurn i c s.2)
    (b.Keeps i) p Q s

/-- Where a worker stands. -/
structure Stands (b : Burst) (i : ℕ) (progress : Progress) (s : World × (ℕ → Progress)) : Prop where
  inside : i < b.messages.length
  coordinated : b.Coordinated s
  own : s.2 i = progress

theorem Stands.move {progress : Progress} (stands : b.Stands i progress s)
    (moved : b.Rely i s s') : b.Stands i progress s' ∧ s.1.Grows s'.1 :=
  ⟨⟨stands.inside, (moved.2 stands.coordinated).1, moved.1.trans stands.own⟩,
    (moved.2 stands.coordinated).2⟩

section Rules

variable {α β : Type} {progress : Progress} {Q : Except Err β → World × (ℕ → Progress) → Prop}

/-- One command of a worker. -/
theorem works_bind {c : Call} {k : c.Resp → App β} (stands : b.Stands i progress s)
    (commands : b.Commands c)
    (keeps : ∀ s', b.Stands i progress s' → s.1.Grows s'.1 → b.TakesTurn i c s'.2 →
      b.Coordinated (b.next i c s'))
    (ok : ∀ s' answer, b.Stands i progress s' → s.1.Grows s'.1 →
      (s'.1.perform c).1 = .ok answer →
      b.Stands i (progress.note b.config c s'.1) (b.next i c s') →
        s'.1.Grows (b.next i c s').1 → b.Works i (k answer) Q (b.next i c s'))
    (error : ∀ s' e s'', b.Stands i progress s' → s.1.Grows s'.1 →
      (s'.1.perform c).1 = .error e → b.Stands i (progress.note b.config c s'.1) s'' →
        s'.1.Grows s''.1 → Q (.error e) s'') :
    b.Works i (perform c >>= k) Q s := by
  have after : ∀ s', b.Stands i progress s' → s.1.Grows s'.1 → b.TakesTurn i c s'.2 →
      b.Stands i (progress.note b.config c s'.1) (b.next i c s') ∧
        s'.1.Grows (b.next i c s').1 := by
    intro s' stands' grows turn
    refine ⟨⟨stands.inside, keeps s' stands' grows turn, ?_⟩, grows_perform commands⟩
    simp only [next, notes, Function.update_self, stands'.own]
  refine sat_perform_bind ?_ ?_ ?_
  · intro s' moved turn _
    obtain ⟨stands', grows⟩ := stands.move moved
    exact ⟨keeps s' stands' grows turn, grows_perform commands⟩
  · intro s' answer moved turn answered
    obtain ⟨stands', grows⟩ := stands.move moved
    obtain ⟨stands'', grows'⟩ := after s' stands' grows turn
    exact ok s' answer stands' grows answered stands'' grows'
  · intro s' e moved turn answered s'' moved'
    obtain ⟨stands', grows⟩ := stands.move moved
    obtain ⟨stands'', grows'⟩ := after s' stands' grows turn
    obtain ⟨stands₃, grows₃⟩ := stands''.move moved'
    exact error s' e s'' stands' grows answered stands₃ (grows'.trans grows₃)

/-- One command of a worker whose error is caught. -/
theorem works_attempt_bind {c : Call} {k : Except Err c.Resp → App β}
    (stands : b.Stands i progress s) (commands : b.Commands c)
    (keeps : ∀ s', b.Stands i progress s' → s.1.Grows s'.1 → b.TakesTurn i c s'.2 →
      b.Coordinated (b.next i c s'))
    (rest : ∀ s', b.Stands i progress s' → s.1.Grows s'.1 →
      b.Stands i (progress.note b.config c s'.1) (b.next i c s') →
        s'.1.Grows (b.next i c s').1 → b.Works i (k (s'.1.perform c).1) Q (b.next i c s')) :
    b.Works i ((perform c).attempt >>= k) Q s := by
  change b.Works i (.call c k) Q s
  refine sat_call fun s' moved turn => ?_
  obtain ⟨stands', grows⟩ := stands.move moved
  have coordinated := keeps s' stands' grows turn
  refine ⟨fun _ => ⟨coordinated, grows_perform commands⟩, ?_⟩
  refine rest s' stands' grows ⟨stands.inside, coordinated, ?_⟩ (grows_perform commands)
  simp only [next, notes, Function.update_self, stands'.own]

/-- A command that only reads. -/
theorem works_query_bind {c : Call} (answer : World → c.Resp) {k : c.Resp → App β}
    (stands : b.Stands i progress s) (reads : ∀ w : World, w.perform c = (.ok (answer w), w))
    (unnoted : ∀ w p, Progress.note b.config c w p = p) (commands : b.Commands c)
    (rest : ∀ s', b.Stands i progress s' → s.1.Grows s'.1 → b.Works i (k (answer s'.1)) Q s') :
    b.Works i (perform c >>= k) Q s := by
  have same : ∀ s', b.next i c s' = s' := fun s' => by rw [next_of_unnoted unnoted, reads]
  refine works_bind stands commands ?_ ?_ ?_
  · intro s' stands' _ _
    rw [same]
    exact stands'.coordinated
  · intro s' answer' stands' grows answered _ _
    rw [reads] at answered
    cases answered
    rw [same]
    exact rest s' stands' grows
  · intro s' e s'' _ _ answered
    rw [reads] at answered
    cases answered

/-- An event is emitted. -/
theorem works_emit_bind {event : DomainEvent} {k : Unit → App β} (stands : b.Stands i progress s)
    (rest : ∀ s', b.Stands i progress s' → s.1.Grows s'.1 → b.Works i (k ()) Q s') :
    b.Works i (perform (.emit event) >>= k) Q s := by
  refine works_bind stands ⟨rfl, trivial⟩ ?_ ?_
    fun _ _ _ _ _ refused => by cases refused
  · intro s' stands' _ _
    exact stands'.coordinated.enrol ⟨rfl, trivial⟩ rfl fun _ _ => rfl
  · intro s' answer _ grows _ stands'' grows'
    exact rest _ stands'' (grows.trans grows')

/-! ### Sender, chat and customer -/

theorem works_classify_bind {telegramUserId : ℤ} {username : Option String}
    {k : SenderClassification → App β} (stands : b.Stands i progress s)
    (customer : b.start.Classifies telegramUserId username (.ok .customer) b.start.excludedSenders)
    (rest : ∀ s', b.Stands i progress s' → s.1.Grows s'.1 → b.Works i (k .customer) Q s') :
    b.Works i (classify telegramUserId username >>= k) Q s := by
  cases customer with
  | customer notAgent notById unmatched =>
  rw [classify, bind_assoc]
  refine works_query_bind (·.agents.findKey? telegramUserId) stands (fun _ => rfl)
    (fun _ _ => rfl) ⟨rfl, trivial⟩ fun s₁ stands₁ grows₁ => ?_
  have inactive : (s₁.1.agents.findKey? telegramUserId).filter (·.val.isActive) = none := by
    rw [stands₁.coordinated.steady.agents, Option.filter_eq_none_iff]
    intro agent found
    simpa [World.isAgent, found] using notAgent
  rw [inactive]
  simp only [bind_assoc]
  refine works_query_bind (·.excludedSenders.findKey? telegramUserId) stands₁ (fun _ => rfl)
    (fun _ _ => rfl) ⟨rfl, trivial⟩ fun s₂ stands₂ grows₂ => ?_
  have grows₂ := grows₁.trans grows₂
  have unlisted : (s₂.1.excludedSenders.findKey? telegramUserId).any (·.val.isActive) = false := by
    rw [stands₂.coordinated.steady.senders]
    exact notById
  rw [unlisted]
  simp only [Bool.false_eq_true, if_false]
  rw [classifyByUsername]
  cases given : username.filter (· ≠ "") with
  | none => exact rest s₂ stands₂ grows₂
  | some name =>
      obtain ⟨has, nonempty⟩ := Option.filter_eq_some_iff.mp given
      simp only [bind_assoc]
      refine works_query_bind (·.excludedByUsername name) stands₂ (fun _ => rfl)
        (fun _ _ => rfl) ⟨rfl, trivial⟩ fun s₃ stands₃ grows₃ => ?_
      have unmatched : s₃.1.excludedByUsername name = none := by
        simp only [World.excludedByUsername, stands₃.coordinated.steady.senders]
        exact unmatched name has (by simpa using nonempty)
      rw [unmatched]
      exact rest s₃ stands₃ (grows₂.trans grows₃)

/-- The number of rows that the burst still has to create before its first search. -/
def missing (b : Burst) (w : World) : ℕ :=
  (if w.chats.findKey? b.telegramChatId = none then 1 else 0) +
    if w.customers.findKey? b.telegramUserId = none then 1 else 0

theorem missing_le (grows : w.Grows w') : b.missing w' ≤ b.missing w := by
  have chat : w'.chats.findKey? b.telegramChatId = none →
      w.chats.findKey? b.telegramChatId = none := by
    intro absent
    by_contra present
    obtain ⟨chat, found⟩ := Option.ne_none_iff_exists'.mp present
    cases absent.symm.trans (grows.chat _ chat found)
  have customer : w'.customers.findKey? b.telegramUserId = none →
      w.customers.findKey? b.telegramUserId = none := by
    intro absent
    by_contra present
    obtain ⟨customer, found⟩ := Option.ne_none_iff_exists'.mp present
    obtain ⟨customer', found', -⟩ := grows.customer _ customer found
    cases absent.symm.trans found'
  unfold missing
  split_ifs <;> simp_all

theorem missing_lt_of_chat {chat : Entry Chat} (grows : w.Grows w')
    (absent : w.chats.findKey? b.telegramChatId = none)
    (present : w'.chats.findKey? b.telegramChatId = some chat) : b.missing w' < b.missing w := by
  have customers : w'.customers.findKey? b.telegramUserId = none →
      w.customers.findKey? b.telegramUserId = none := by
    intro absent
    by_contra found
    obtain ⟨customer, found⟩ := Option.ne_none_iff_exists'.mp found
    obtain ⟨customer', found', -⟩ := grows.customer _ customer found
    cases absent.symm.trans found'
  simp only [missing, absent, present]
  split_ifs <;> simp_all

theorem missing_lt_of_customer {customer : Entry Customer} (grows : w.Grows w')
    (absent : w.customers.findKey? b.telegramUserId = none)
    (present : w'.customers.findKey? b.telegramUserId = some customer) :
    b.missing w' < b.missing w := by
  have chats : w'.chats.findKey? b.telegramChatId = none →
      w.chats.findKey? b.telegramChatId = none := by
    intro absent
    by_contra found
    obtain ⟨chat, found⟩ := Option.ne_none_iff_exists'.mp found
    cases absent.symm.trans (grows.chat _ chat found)
  simp only [missing, absent, present]
  split_ifs <;> simp_all

theorem works_findOrCreateChat_bind {title : String} {k : Entry Chat → App β}
    (stands : b.Stands i progress s)
    (rest : ∀ chat s', b.Stands i progress s' → s.1.Grows s'.1 →
      s'.1.chats.findKey? b.telegramChatId = some chat → b.Works i (k chat) Q s')
    (error : ∀ e s', b.Stands i progress s' → b.missing s'.1 < b.missing s.1 →
      Q (.error e) s') :
    b.Works i (findOrCreateChat b.telegramChatId title >>= k) Q s := by
  rw [findOrCreateChat, bind_assoc]
  refine works_query_bind (·.chats.findKey? b.telegramChatId) stands (fun _ => rfl)
    (fun _ _ => rfl) ⟨rfl, trivial⟩ fun s₁ stands₁ grows₁ => ?_
  cases existing : s₁.1.chats.findKey? b.telegramChatId with
  | some chat => exact rest chat s₁ stands₁ grows₁ existing
  | none =>
      refine works_bind stands₁ ⟨rfl, rfl⟩ ?_ ?_ ?_
      · intro s₂ stands₂ _ _
        exact stands₂.coordinated.enrol ⟨rfl, rfl⟩ rfl fun _ _ => rfl
      · intro s₂ chat stands₂ grows₂ created stands₃ grows₃
        refine rest chat _ stands₃ (grows₁.trans (grows₂.trans grows₃)) ?_
        obtain ⟨free, rfl, after⟩ :=
          World.chatCreate_eq_ok (World.effect_of_perform_ok created)
        rw [next, after]
        exact Table.findKey?_eq_some_iff.mpr ⟨by simp, rfl⟩
      · intro s₂ e s₃ stands₂ grows₂ refused stands₃ grows₃
        obtain ⟨chat, found⟩ := World.chatCreate_eq_error (World.effect_of_perform_error refused)
        refine error e s₃ stands₃ ?_
        exact (missing_lt_of_chat (grows₂.trans grows₃) existing
          (grows₃.chat _ chat found)).trans_le (missing_le grows₁)

theorem works_findOrCreateCustomer_bind {username : Option String} {displayName : String}
    {k : Entry Customer → App β} (stands : b.Stands i progress s)
    (rest : ∀ customer s', b.Stands i progress s' → s.1.Grows s'.1 →
      (∃ customer', s'.1.customers.findKey? b.telegramUserId = some customer' ∧
        customer'.id = customer.id) → b.Works i (k customer) Q s')
    (error : ∀ e s', b.Stands i progress s' → b.missing s'.1 < b.missing s.1 →
      Q (.error e) s') :
    b.Works i (findOrCreateCustomer b.telegramUserId username displayName >>= k) Q s := by
  rw [findOrCreateCustomer, bind_assoc]
  refine works_query_bind (·.customers.findKey? b.telegramUserId) stands (fun _ => rfl)
    (fun _ _ => rfl) ⟨rfl, trivial⟩ fun s₁ stands₁ grows₁ => ?_
  cases existing : s₁.1.customers.findKey? b.telegramUserId with
  | some customer =>
      simp only
      split
      · refine works_bind stands₁ ⟨rfl, trivial⟩ ?_ ?_ ?_
        · intro s₂ stands₂ _ _
          exact stands₂.coordinated.enrol ⟨rfl, trivial⟩ rfl fun _ _ => rfl
        · intro s₂ row stands₂ grows₂ updated stands₃ grows₃
          refine rest row _ stands₃ (grows₁.trans (grows₂.trans grows₃)) ?_
          obtain ⟨customer', found, same⟩ := (grows₂.trans grows₃).customer _ customer existing
          obtain ⟨old, listed, rfl, -⟩ :=
            World.customerUpdate_eq_ok (World.effect_of_perform_ok updated)
          refine ⟨customer', found, ?_⟩
          rw [same, Entry.change_id]
          exact (Table.id_of_find? listed).symm
        · intro s₂ e s₃ stands₂ grows₂ refused
          obtain ⟨customer', found, same⟩ := grows₂.customer _ customer existing
          have listed := Table.find?_self (Table.findKey?_eq_some_iff.mp found).1
          have failed := World.effect_of_perform_error refused
          simp only [World.effect, World.customerUpdate, ← same, listed] at failed
          cases failed
      · exact rest customer s₁ stands₁ grows₁ ⟨customer, existing, rfl⟩
  | none =>
      refine works_bind stands₁ ⟨rfl, rfl⟩ ?_ ?_ ?_
      · intro s₂ stands₂ _ _
        exact stands₂.coordinated.enrol ⟨rfl, rfl⟩ rfl fun _ _ => rfl
      · intro s₂ customer stands₂ grows₂ created stands₃ grows₃
        refine rest customer _ stands₃ (grows₁.trans (grows₂.trans grows₃)) ⟨customer, ?_, rfl⟩
        obtain ⟨free, rfl, after⟩ :=
          World.customerCreate_eq_ok (World.effect_of_perform_ok created)
        rw [next, after]
        exact Table.findKey?_eq_some_iff.mpr ⟨by simp, rfl⟩
      · intro s₂ e s₃ stands₂ grows₂ refused
        obtain ⟨customer, found⟩ :=
          World.customerCreate_eq_error (World.effect_of_perform_error refused)
        intro stands₃ grows₃
        obtain ⟨customer', found', -⟩ := grows₃.customer _ customer found
        refine error e s₃ stands₃ ?_
        exact (missing_lt_of_customer (grows₂.trans grows₃) existing found').trans_le
          (missing_le grows₁)

/-! ### The thread -/

theorem Within.window_pos (within : b.Within) : 0 < b.window :=
  (Int.sub_nonneg_of_le within.started).trans_lt within.short

theorem works_newDate_bind {k : Time → App β} (stands : b.Stands i {} s)
    (rest : ∀ now s', b.Stands i { asked := some now } s' → s.1.Grows s'.1 →
      b.start.now ≤ now → now ≤ s'.1.now → b.Works i (k now) Q s') :
    b.Works i (perform .newDate >>= k) Q s := by
  refine works_bind stands ⟨rfl, trivial⟩ ?_ ?_
    fun _ _ _ _ _ refused => by cases refused
  · intro s₁ stands₁ _ _
    have own := stands₁.own
    exact stands₁.coordinated.turn (w := s₁.1) stands.inside rfl rfl rfl (by rw [own])
      (by simp [own, Progress.note]) (by simp [own, Progress.note])
      (by simp [own, Progress.note])
  · intro s₁ now stands₁ grows₁ read stands₂ grows₂
    obtain rfl : s₁.1.now = now := Except.ok.inj read
    exact rest _ _ stands₂ (grows₁.trans grows₂) stands₁.coordinated.steady.started grows₂.now

theorem works_decide_bind {input : ThreadGroupingInput} {k : ThreadGroupingDecision → App β}
    (within : b.Within) (stands : b.Stands i { asked := some input.now } s)
    (after : b.start.now ≤ input.now) (before : input.now ≤ s.1.now)
    (noReply : input.replyToTgMessageId = none) (chat : input.chatId = b.chatId)
    (customer : input.customerId = b.customerId)
    (window : input.idleWindowMinutes = b.config.threadIdleWindowMinutes)
    (attach : ∀ ticketId revive rule s',
      b.Stands i { asked := some input.now, thread := some ticketId } s' → s.1.Grows s'.1 →
        b.Works i (k (.attach ticketId revive rule)) Q s')
    (createNew : ∀ s', b.Stands i { asked := some input.now, vain := true } s' →
      s.1.Grows s'.1 → b.Works i (k .createNew) Q s') :
    b.Works i (decide input >>= k) Q s := by
  obtain ⟨chatId, customerId, replyToTgMessageId, idleWindowMinutes, asked⟩ := input
  subst chat customer noReply window
  simp only [decide, decideByActivity, bind_assoc]
  refine works_bind stands ⟨rfl, trivial⟩ ?_ ?_
    fun _ _ _ _ _ refused => by cases refused
  · intro s₁ stands₁ grows₁ turn
    have searched := stands₁.coordinated.search (w := s₁.1) stands.inside stands₁.own after
      (before.trans grows₁.now) within.window_pos turn
    simp only [next, notes, Progress.note, stands₁.own]
    exact searched
  · intro s₁ answer stands₁ grows₁ answered stands₂ grows₂
    obtain rfl : s₁.1.findMostRecentActiveTicket b.chatId b.customerId = answer :=
      Except.ok.inj answered
    have grows := grows₁.trans grows₂
    have found : ∀ thread,
        s₁.1.recentThread b.config (some asked) b.chatId b.customerId = thread →
          b.Stands i { asked := some asked, thread := thread, vain := thread.isNone }
            (b.next i (.findMostRecentActiveTicket b.chatId b.customerId) s₁) := by
      rintro thread rfl
      exact stands₂
    cases searched : s₁.1.findMostRecentActiveTicket b.chatId b.customerId with
    | none => exact createNew _ (found none (by simp [World.recentThread, searched])) grows
    | some active =>
        have reopenable : active.status.reopenable = true := by
          obtain ⟨ticket, latest, rfl⟩ := Option.map_eq_some_iff.mp searched
          have isActive := (Table.mem_of_latest latest).2
          simp only [World.activeTicket, Bool.and_eq_true] at isActive
          rw [TicketStatus.reopenable_eq_not_terminal]
          exact isActive.2
        simp only [reopenable, Bool.true_and]
        split
        · next recent =>
          refine attach _ _ _ _ (found (some active.ticketId) ?_) grows
          simpa [World.recentThread, searched, Option.filter_some] using recent
        · next idle =>
          refine createNew _ (found none ?_) grows
          simpa [World.recentThread, searched, Option.filter_some] using idle

/-- The thread of a worker: it exists and is neither closed nor archived. -/
theorem Stands.ticket {ticketId : TicketId} (stands : b.Stands i progress s)
    (held : progress.thread = some ticketId) :
    ∃ ticket, s.1.tickets.find? ticketId = some ticket := by
  rw [← stands.own] at held
  obtain ⟨ticket, latest, rfl, -⟩ := stands.coordinated.thread i ticketId held
  exact ⟨ticket, Table.find?_self (Table.mem_of_latest latest).1⟩

theorem works_revive_bind {ticketId : TicketId} {k : TicketView → App β} (within : b.Within)
    (stands : b.Stands i progress s) (held : progress.thread = some ticketId)
    (rest : ∀ view s', b.Stands i progress s' → s.1.Grows s'.1 → b.Works i (k view) Q s') :
    b.Works i (patch ticketId { status := some .open } none >>= k) Q s := by
  simp only [patch, getById, bind_assoc]
  refine works_query_bind (fun w => (w.tickets.find? ticketId).map w.ticketView) stands
    (fun _ => rfl) (fun _ _ => rfl) ⟨rfl, trivial⟩ fun s₁ stands₁ grows₁ => ?_
  obtain ⟨ticket, found⟩ := stands₁.ticket held
  rw [found]
  simp only [Option.map_some, pure_bind]
  change b.Works i (perform (.patchTransaction ticketId { status := some .open }
    { status := some .open } none) >>= _) Q s₁
  refine works_bind stands₁ ⟨rfl, trivial⟩ ?_ ?_ ?_
  · intro s₂ stands₂ _ _
    refine stands₂.coordinated.patched within (by rw [stands₂.own, held]) fun status set => ?_
    cases set
    rfl
  · intro s₂ view _ grows₂ _ stands₃ grows₃
    exact works_emit_bind stands₃ fun s₄ stands₄ grows₄ =>
      rest view s₄ stands₄ (grows₁.trans (grows₂.trans (grows₃.trans grows₄)))
  · intro s₂ e s₃ stands₂ _ refused
    obtain ⟨ticket, present⟩ := stands₂.ticket held
    obtain ⟨view, patched⟩ := World.patchTransaction_of_plain { status := some .open }
      { status := some .open } (Option.isSome_iff_exists.mpr ⟨ticket, present⟩) rfl rfl rfl rfl
    cases (World.effect_of_perform_error refused).symm.trans patched

/-- An assignment is decided over agents that stay the same. -/
theorem works_decideAssignment_bind {chat : Entry Chat} {k : RoutingDecision → App β}
    (stands : b.Stands i progress s)
    (known : s.1.chats.findKey? b.telegramChatId = some chat)
    (rest : ∀ routing s', b.Stands i progress s' → s.1.Grows s'.1 →
      routing.teamId = chat.val.defaultTeamId →
      (∀ w, b.Steady w → w.hasAgent routing.assigneeId) → b.Works i (k routing) Q s') :
    b.Works i (decideAssignment chat.val >>= k) Q s := by
  have listed : ∀ {s'}, b.Stands i progress s' → ∀ {assigneeId}, s'.1.hasAgent assigneeId →
      ∀ w, b.Steady w → w.hasAgent assigneeId := by
    intro s' stands' assigneeId exists' w steady
    rwa [World.hasAgent, steady.agents, ← stands'.coordinated.steady.agents]
  have default := listed stands (stands.coordinated.steady.linked.chatAssignee chat
    (Table.findKey?_eq_some_iff.mp known).1)
  unfold decideAssignment
  split
  · exact rest _ s stands (World.Grows.refl s.1) rfl default
  · next teamId _ =>
    split
    · exact rest _ s stands (World.Grows.refl s.1) rfl default
    · rw [bind_assoc]
      refine works_query_bind (·.activeMembers teamId) stands (fun _ => rfl) (fun _ _ => rfl)
        ⟨rfl, trivial⟩ fun s₁ stands₁ grows₁ => ?_
      have member : ∀ {τ : Type} [LinearOrder τ] {value : AgentId → τ} (w : World), b.Steady w →
          w.hasAgent (firstOf ((s₁.1.activeMembers teamId).map fun id => (id, value id))) := by
        intro τ _ value
        refine listed stands₁ ?_
        cases first : firstOf ((s₁.1.activeMembers teamId).map fun id => (id, value id)) with
        | none => rfl
        | some agentId => exact World.hasAgent_of_activeMember (mem_of_firstOf first)
      split
      · exact rest _ s₁ stands₁ grows₁ rfl default
      · split
        · rw [bind_assoc]
          exact works_query_bind (·.openCounts (s₁.1.activeMembers teamId)) stands₁
            (fun _ => rfl) (fun _ _ => rfl) ⟨rfl, trivial⟩ fun s₂ stands₂ grows₂ =>
              rest _ s₂ stands₂ (grows₁.trans grows₂) rfl member
        · rw [bind_assoc]
          exact works_query_bind (·.lastAssigned (s₁.1.activeMembers teamId)) stands₁
            (fun _ => rfl) (fun _ _ => rfl) ⟨rfl, trivial⟩ fun s₂ stands₂ grows₂ =>
              rest _ s₂ stands₂ (grows₁.trans grows₂) rfl member

theorem works_createForNewThread_bind {asked : Time} {data : NewTicket} {chat : Entry Chat}
    {k : TicketView → App β} (within : b.Within)
    (stands : b.Stands i { asked := some asked, vain := true } s)
    (known : s.1.chats.findKey? b.telegramChatId = some chat) (chatId : data.chatId = chat.id)
    (customer : ∃ customer, s.1.customers.findKey? b.telegramUserId = some customer ∧
      customer.id = data.customerId)
    (team : data.teamId = chat.val.defaultTeamId)
    (assignee : ∀ w, b.Steady w → w.hasAgent data.assigneeId)
    (rest : ∀ view s',
      b.Stands i { asked := some asked, thread := some view.ticket.id, made := true } s' →
        s.1.Grows s'.1 → b.Works i (k view) Q s') :
    b.Works i (createForNewThread data >>= k) Q s := by
  rw [createForNewThread, bind_assoc]
  obtain ⟨owner, registered, sameId⟩ := customer
  have created : ∀ s', b.Stands i { asked := some asked, vain := true } s' →
      s.1.Grows s'.1 → s'.1.ticketCreate data = .ok
        (s'.1.ticketView ⟨s'.1.tickets.next, data.row s'.1.now⟩,
          { s'.1 with tickets := s'.1.tickets.insert (data.row s'.1.now) Ticket.free }) := by
    intro s' stands' grows
    have steady := stands'.coordinated.steady
    have chatListed := (Table.findKey?_eq_some_iff.mp (grows.chat _ chat known)).1
    obtain ⟨owner', registered', sameId'⟩ := grows.customer _ owner registered
    have ownerListed := (Table.findKey?_eq_some_iff.mp registered').1
    have chatFound : (s'.1.chats.find? data.chatId).isSome := by
      rw [chatId, Table.find?_self chatListed]
      rfl
    have ownerFound : (s'.1.customers.find? data.customerId).isSome := by
      rw [← sameId, ← sameId', Table.find?_self ownerListed]
      rfl
    have teamFound : s'.1.hasTeam data.teamId := by
      rw [team]
      exact steady.linked.chatTeam chat chatListed
    exact if_pos (by simp [chatFound, ownerFound, teamFound, assignee s'.1 steady])
  refine works_bind stands ⟨rfl, trivial⟩ ?_ ?_ ?_
  · intro s₁ stands₁ grows₁ _
    have steady := stands₁.coordinated.steady
    have steady' := steady.perform (c := .ticketCreate data) ⟨rfl, trivial⟩
    have made := created s₁ stands₁ grows₁
    have performed := World.perform_of_ok (c := .ticketCreate data) made
    rw [performed] at steady'
    obtain ⟨owner', registered', sameId'⟩ := grows₁.customer _ owner registered
    have coordinated := stands₁.coordinated.create (w := s₁.1) within stands.inside stands₁.own
      data
      (by rw [chatId, ← steady.chat, Table.idOf_of_findKey? (grows₁.chat _ chat known)])
      (by rw [← sameId, ← sameId', ← steady.customer, Table.idOf_of_findKey? registered'])
      steady' rfl rfl rfl
    simp only [next, notes, Progress.note, stands₁.own, made, performed]
    exact coordinated
  · intro s₁ view stands₁ grows₁ answered stands₂ grows₂
    have made := created s₁ stands₁ grows₁
    have performed := World.perform_of_ok (c := .ticketCreate data) made
    rw [performed] at answered
    obtain rfl := Except.ok.inj answered
    rw [bind_assoc]
    refine works_emit_bind stands₂ fun s₃ stands₃ grows₃ => ?_
    refine rest _ s₃ ?_ (grows₁.trans (grows₂.trans grows₃))
    simpa only [Progress.note, made] using stands₃
  · intro s₁ e s₂ stands₁ grows₁ refused
    cases (World.effect_of_perform_error refused).symm.trans (created s₁ stands₁ grows₁)

/-- The thread of the message: shared with the other workers, and the worker's own if new. -/
theorem works_resolveTicket_bind {asked : Time} {chat : Entry Chat} {customer : Entry Customer}
    {tgMessageId : ℤ} {decision : ThreadGroupingDecision} {k : TicketId × Bool → App β}
    (within : b.Within) (stands : b.Stands i progress s)
    (known : s.1.chats.findKey? b.telegramChatId = some chat)
    (registered : ∃ customer', s.1.customers.findKey? b.telegramUserId = some customer' ∧
      customer'.id = customer.id)
    (attached : ∀ ticketId revive rule, decision = .attach ticketId revive rule →
      progress = { asked := some asked, thread := some ticketId })
    (new : decision = .createNew → progress = { asked := some asked, vain := true })
    (rest : ∀ ticketId isNew s',
      b.Stands i { asked := some asked, thread := some ticketId, made := isNew } s' →
        b.Works i (k (ticketId, isNew)) Q s') :
    b.Works i (resolveTicket chat customer tgMessageId decision >>= k) Q s := by
  cases decision with
  | attach ticketId revive rule =>
      obtain rfl := attached ticketId revive rule rfl
      cases revive with
      | false => exact rest ticketId false s stands
      | true =>
          simp only [resolveTicket, if_true, bind_assoc]
          exact works_revive_bind within stands rfl fun view s₁ stands₁ _ =>
            rest ticketId false s₁ stands₁
  | createNew =>
      obtain rfl := new rfl
      simp only [resolveTicket, bind_assoc]
      refine works_decideAssignment_bind stands known fun routing s₁ stands₁ grows₁ team
        assignee => ?_
      obtain ⟨customer', found, same⟩ := registered
      obtain ⟨customer'', found', same'⟩ := grows₁.customer _ customer' found
      exact works_createForNewThread_bind within stands₁ (grows₁.chat _ chat known) rfl
        ⟨customer'', found', same'.trans same⟩ team assignee
        fun view s₂ stands₂ _ => rest view.ticket.id true s₂ stands₂

/-! ### The message -/

/-- The worker's message is stored in its thread. -/
def Delivered (b : Burst) (i : ℕ) (tgMessageId : ℤ) (ticketId : TicketId)
    (s : World × (ℕ → Progress)) : Prop :=
  ∃ progress, b.Stands i progress s ∧ progress.thread = some ticketId ∧
    (s.1.messages.findKey? (tgMessageId, ticketId)).isSome

theorem Delivered.move {tgMessageId : ℤ} {ticketId : TicketId}
    (delivered : b.Delivered i tgMessageId ticketId s) (moved : b.Rely i s s') :
    b.Delivered i tgMessageId ticketId s' := by
  obtain ⟨progress, stands, held, stored⟩ := delivered
  obtain ⟨stands', grows⟩ := stands.move moved
  exact ⟨progress, stands', held, grows.message _ stored⟩

theorem works_sendAutoAcknowledgement {asked : Time} {ticketId : TicketId} {tgMessageId : ℤ}
    (stands : b.Stands i { asked := some asked, thread := some ticketId, made := true } s)
    (stored : (s.1.messages.findKey? (tgMessageId, ticketId)).isSome) :
    b.Works i (sendAutoAcknowledgement ticketId tgMessageId)
      (fun _ s => b.Delivered i tgMessageId ticketId s) s := by
  rw [← bind_pure (sendAutoAcknowledgement ticketId tgMessageId)]
  simp only [sendAutoAcknowledgement, bind_assoc]
  refine works_query_bind (·.ticketWithChat ticketId) stands (fun _ => rfl) (fun _ _ => rfl)
    ⟨rfl, trivial⟩ fun s₁ stands₁ grows₁ => ?_
  have stored₁ := grows₁.message _ stored
  cases s₁.1.ticketWithChat ticketId with
  | none => exact fun s' moved => Delivered.move ⟨_, stands₁, rfl, stored₁⟩ moved
  | some found =>
      simp only [bind_assoc]
      refine works_bind stands₁ ⟨rfl, trivial⟩ ?_ ?_ ?_
      · intro s₂ stands₂ _ _
        exact stands₂.coordinated.acknowledge stands.inside stands₂.own rfl rfl
      · intro s₂ created _ grows₂ _ stands₃ grows₃
        have stored₃ := grows₃.message _ (grows₂.message _ stored₁)
        refine works_bind stands₃ ⟨rfl, trivial⟩ ?_ ?_
          fun _ _ _ _ _ refused => by cases refused
        · intro s₄ stands₄ _ _
          exact stands₄.coordinated.enqueue stands.inside stands₄.own rfl rfl
        · intro s₄ _ _ grows₄ _ stands₅ grows₅
          refine works_emit_bind stands₅ fun s₆ stands₆ grows₆ => ?_
          have stored₆ := grows₆.message _ (grows₅.message _ (grows₄.message _ stored₃))
          exact fun s' moved => Delivered.move ⟨_, stands₆, rfl, stored₆⟩ moved
      · intro s₂ e s₃ _ grows₂ _ stands₃ grows₃
        exact ⟨_, stands₃, rfl, grows₃.message _ (grows₂.message _ stored₁)⟩

theorem works_recordIncoming_bind {asked : Time} {ticketId : TicketId} {isNew : Bool}
    {tgMessageId : ℤ} {text : Option String} {attachments : List Attachment}
    {k : Entry Message → App β} (within : b.Within)
    (stands : b.Stands i { asked := some asked, thread := some ticketId, made := isNew } s)
    (rest : ∀ message s', b.Delivered i tgMessageId ticketId s' → b.Works i (k message) Q s') :
    b.Works i (recordIncoming ticketId tgMessageId text attachments isNew >>= k) Q s := by
  simp only [recordIncoming, bind_assoc]
  refine works_attempt_bind stands ⟨rfl, trivial⟩ ?_ ?_
  · intro s₁ stands₁ _ _
    exact stands₁.coordinated.recorded within (by rw [stands₁.own])
  · intro s₁ stands₁ grows₁ stands₂ grows₂
    obtain ⟨ticket, found⟩ := stands₁.ticket rfl
    have present := Option.isSome_iff_exists.mpr ⟨ticket, found⟩
    cases recorded : (s₁.1.perform (.recordTransaction ticketId tgMessageId text attachments)).1 with
    | error e =>
        -- the ticket is there, so only the unique index can have refused the message
        obtain ⟨rfl, row, existing⟩ := World.recordTransaction_eq_error present
          (World.effect_of_perform_error recorded)
        have stored := grows₂.message _ (Option.isSome_iff_exists.mpr ⟨row, existing⟩)
        simp only [bind_assoc]
        refine works_query_bind (·.messages.findKey? (tgMessageId, ticketId)) stands₂
          (fun _ => rfl) (fun _ _ => rfl) ⟨rfl, trivial⟩ fun s₃ stands₃ grows₃ => ?_
        have stored₃ := grows₃.message _ stored
        obtain ⟨row', existing'⟩ := Option.isSome_iff_exists.mp stored₃
        rw [existing']
        exact rest row' s₃ ⟨_, stands₃, rfl, stored₃⟩
    | ok message =>
        obtain ⟨-, free, -, after⟩ := World.recordTransaction_eq_ok_iff.mp
          (World.effect_of_perform_ok recorded)
        have stored : ((b.next i (.recordTransaction ticketId tgMessageId text attachments)
            s₁).1.messages.findKey? (tgMessageId, ticketId)).isSome := by
          rw [next, after]
          exact Option.isSome_iff_exists.mpr ⟨⟨s₁.1.messages.next, _⟩,
            Table.findKey?_eq_some_iff.mpr ⟨(Table.mem_insert free).mpr (.inr rfl), rfl⟩⟩
        simp only [announceIncoming, bind_assoc]
        refine works_emit_bind stands₂ fun s₃ stands₃ grows₃ => ?_
        have stored₃ := grows₃.message _ stored
        cases isNew with
        | false => exact rest message s₃ ⟨_, stands₃, rfl, stored₃⟩
        | true =>
            simp only [if_true, bind_assoc]
            refine sat_bind (Rely.refl i) (sat_attempt
              ((works_sendAutoAcknowledgement stands₃ stored₃).mono fun r s' delivered => ?_))
            exact rest message s' delivered

/-- One try of a worker: its message is stored in the shared thread, or another worker was
faster to create the chat or the customer. -/
theorem works_process {message : NormalizedIncomingMessage} (within : b.Within)
    (carries : b.Carries message) (stands : b.Stands i {} s) :
    b.Works i (process b.config message)
      (fun r s' => (∃ result, r = .ok result ∧ ∀ s'', b.Rely i s' s'' →
          ∃ ticketId, b.Delivered i message.tgMessageId ticketId s'') ∨
        ∃ e, r = .error e ∧ b.Stands i {} s' ∧ b.missing s'.1 < b.missing s.1) s := by
  refine works_classify_bind stands carries.customer fun s₁ stands₁ grows₁ => ?_
  simp only [processCustomer, carries.chat, carries.user]
  refine works_findOrCreateChat_bind stands₁ (fun chat s₂ stands₂ grows₂ known => ?_)
    fun e s' stands' fewer => .inr ⟨e, rfl, stands', fewer.trans_le (missing_le grows₁)⟩
  have grows₂ := grows₁.trans grows₂
  refine works_findOrCreateCustomer_bind stands₂ (fun customer s₃ stands₃ grows₃ registered => ?_)
    fun e s' stands' fewer => .inr ⟨e, rfl, stands', fewer.trans_le (missing_le grows₂)⟩
  have known := grows₃.chat _ chat known
  refine works_newDate_bind stands₃ fun now s₄ stands₄ grows₄ after before => ?_
  have known := grows₄.chat _ chat known
  obtain ⟨customer', found, same⟩ := registered
  obtain ⟨customer'', found', same'⟩ := grows₄.customer _ customer' found
  have chatId : chat.id = b.chatId := by
    rw [← stands₄.coordinated.steady.chat, Table.idOf_of_findKey? known]
  have customerId : customer.id = b.customerId := by
    rw [← same, ← same', ← stands₄.coordinated.steady.customer, Table.idOf_of_findKey? found']
  have stored : ∀ {decision progress s'} {k : TicketId × Bool → App IngestResult},
      b.Stands i progress s' → s₄.1.Grows s'.1 →
      (∀ ticketId revive rule, decision = .attach ticketId revive rule →
        progress = { asked := some now, thread := some ticketId }) →
      (decision = .createNew → progress = { asked := some now, vain := true }) →
      (∀ ticketId isNew, k (ticketId, isNew) =
        recordIncoming ticketId message.tgMessageId message.text message.attachments isNew >>=
          fun _ => pure (.ticketMessage ticketId isNew)) →
      b.Works i (resolveTicket chat customer message.tgMessageId decision >>= k)
        (fun r s' => (∃ result, r = .ok result ∧ ∀ s'', b.Rely i s' s'' →
            ∃ ticketId, b.Delivered i message.tgMessageId ticketId s'') ∨
          ∃ e, r = .error e ∧ b.Stands i {} s' ∧ b.missing s'.1 < b.missing s.1) s' := by
    intro decision progress s' k stands' grows attached new stores
    obtain ⟨customer₃, found₃, same₃⟩ := grows.customer _ customer'' found'
    refine works_resolveTicket_bind within stands' (grows.chat _ chat known)
      ⟨customer₃, found₃, same₃.trans (same'.trans same)⟩ attached new
      fun ticketId isNew s₅ stands₅ => ?_
    rw [stores]
    refine works_recordIncoming_bind within stands₅ fun row s₆ delivered => ?_
    exact fun s₇ moved => .inl ⟨_, rfl, fun s₈ moved' => ⟨ticketId,
      (delivered.move moved).move moved'⟩⟩
  refine works_decide_bind within stands₄ after before carries.noReply chatId customerId rfl
    (fun ticketId revive rule s₅ stands₅ grows₅ => ?_) fun s₅ stands₅ grows₅ => ?_
  · refine stored stands₅ grows₅ (fun ticketId' revive' rule' same => ?_)
      (fun same => absurd same ThreadGroupingDecision.attach_ne_createNew) fun _ _ => rfl
    cases same
    rfl
  · exact stored stands₅ grows₅
      (fun _ _ _ same => absurd same.symm ThreadGroupingDecision.attach_ne_createNew)
      (fun _ => rfl) fun _ _ => rfl

/-- The job of a worker: of its tries at most two can fail. -/
theorem works_job {message : NormalizedIncomingMessage} (within : b.Within)
    (carries : b.Carries message) (stands : b.Stands i {} s) :
    b.Works i ((process b.config message).attempts 4)
      (fun r s => ∃ result, r = .ok result ∧
        ∃ ticketId, b.Delivered i message.tgMessageId ticketId s) s := by
  have few : b.missing s.1 ≤ 4 := by
    unfold missing
    split_ifs <;> omega
  refine sat_attempts (I := fun m s => b.Stands i {} s ∧ b.missing s.1 = m)
    (Q := fun _ s => ∃ ticketId, b.Delivered i message.tgMessageId ticketId s) (Rely.refl i)
    (fun m s start => ?_) 4 _ s few ⟨stands, rfl⟩
  obtain ⟨stands, rfl⟩ := start
  refine (works_process within carries stands).mono fun r s' outcome => ?_
  rcases outcome with ⟨result, same, delivered⟩ | ⟨e, same, stands', fewer⟩
  · exact .inl ⟨result, same, delivered⟩
  · exact .inr ⟨e, same, _, fewer, stands', rfl⟩

end Rules

/-! ## All workers -/

end Burst

/-- **One thread for a burst.** The workers take their steps in any order, while time passes
within the idle window. As long as they take turns, at most one thread and one
acknowledgement are new in every state they reach, and when all have ended, one thread
holds all messages. -/
theorem burst_one_thread (b : Burst) (within : b.Within) (schedule : List (Act ℕ))
    (inTime : b.InTime schedule) (turns : b.TakesTurns schedule) :
    b.OneThread (b.after schedule) := by
  have meets := Pool.meets_and
    ((Pool.meets_withRecord_iff b.notes (m := fun _ => {})).mpr inTime) turns
  have others : ∀ i j, i ≠ j → ∀ c s, b.TakesTurn j c s.2 → b.Keeps j c s →
      b.Rely i s (b.next j c s) :=
    fun i j ne c s _ keeps => ⟨Function.update_of_ne ne _ _, keeps⟩
  have clock : ∀ i (milliseconds : ℕ) (s : World × (ℕ → Progress)),
      s.1.now + milliseconds ≤ b.deadline → b.Rely i s (s.1.advance milliseconds, s.2) :=
    fun i milliseconds s within => ⟨rfl, fun coordinated => coordinated.advance within⟩
  have started : (b.workers.withRecord fun _ => {}).Sats
      (Pool.observed (fun _ => World.perform) b.notes) b.Rely (fun i c s => b.TakesTurn i c s.2)
      b.Keeps (fun i r s => ∃ result, r = .ok result ∧ ∃ ticketId, ∀ message ∈ b.messages[i]?,
        b.Delivered i message.tgMessageId ticketId s) := by
    intro i p present
    have present : (b.messages.map fun message => (process b.config message).attempts 4)[i]? =
      some p := present
    rw [List.getElem?_map] at present
    obtain ⟨message, listed, rfl⟩ := Option.map_eq_some_iff.mp present
    obtain ⟨inside, rfl⟩ := List.getElem?_eq_some_iff.mp listed
    refine (Burst.works_job within (within.carries _ (List.getElem_mem inside))
      ⟨inside, .start within, rfl⟩).mono fun r s outcome => ?_
    obtain ⟨result, same, ticketId, delivered⟩ := outcome
    refine ⟨result, same, ticketId, fun message own => ?_⟩
    obtain rfl := Option.some.inj (listed.symm.trans own)
    exact delivered
  obtain ⟨kept, left⟩ := Pool.sats_exec Burst.Rely.refl Burst.Rely.trans others clock
    (meets.mono (fun _ _ _ => And.right) fun _ _ => And.left) started
  have coordinated := Pool.invariant_exec (I := b.Coordinated)
    (fun i c s (keeps : b.Keeps i c s) holds => (keeps holds).1)
    (fun milliseconds s within holds => (holds.advance within).1) kept
    (Burst.Coordinated.start within)
  obtain ⟨progress, same⟩ := Pool.exec_withRecord (H := fun _ => World.perform)
    (E := World.advance) b.notes b.workers (fun _ => {}) schedule
  rw [same] at left coordinated
  refine ⟨coordinated.tickets.1, coordinated.acknowledgements.1, coordinated.jobs.1,
    fun done => ?_⟩
  have delivered : ∀ message ∈ b.messages, ∃ i ticketId,
      b.Delivered i message.tgMessageId ticketId ((b.after schedule).state, progress) := by
    intro message listed
    obtain ⟨i, inside, rfl⟩ := List.mem_iff_getElem.mp listed
    have present : i < (b.after schedule).programs.length := by
      rw [Burst.after, Pool.length_exec]
      simpa [Burst.workers] using inside
    obtain ⟨r, ended⟩ := done _ (List.getElem_mem present)
    obtain ⟨result, -, ticketId, delivered⟩ := left.result Burst.Rely.refl
      (List.getElem?_eq_some_iff.mpr ⟨present, ended⟩)
    exact ⟨i, ticketId, delivered _ (List.getElem?_eq_getElem inside)⟩
  -- every worker holds the one shared thread
  cases messages : b.messages with
  | nil => exact ⟨0, by simp⟩
  | cons first rest =>
      obtain ⟨i, ticketId, p, stands, held, -⟩ := delivered first (by simp [messages])
      refine ⟨ticketId, fun message listed => ?_⟩
      obtain ⟨j, ticketId', p', stands', held', stored⟩ := delivered message (messages ▸ listed)
      obtain rfl := (coordinated.thread i ticketId (stands.own ▸ held)).unique
        (coordinated.thread j ticketId' (stands'.own ▸ held'))
      exact stored

/-! ## A burst in two threads

A new customer writes two messages, and two workers look for a thread before either has
created one. -/

namespace BothAtOnce

def burst : Burst where
  config := .default
  telegramChatId := -5
  telegramUserId := 42
  messages := [greeting 7, greeting 8]
  start := World.seeded
  deadline := 1000

/-- One worker takes its steps after the other. -/
def inTurns : List (Act ℕ) := List.replicate 20 (.turn 0) ++ List.replicate 20 (.turn 1)

/-- Both workers search before the first creates its thread. -/
def atOnce : List (Act ℕ) :=
  List.replicate 8 (.turn 0) ++ List.replicate 7 (.turn 1) ++ List.replicate 12 (.turn 0) ++
    List.replicate 12 (.turn 1)

theorem within : burst.Within where
  linked := World.linked_seeded
  timely := by constructor <;> simp [burst, World.seeded, World.initial, Table.empty]
  carries := by
    have carries : ∀ tgMessageId, burst.Carries (greeting tgMessageId) := fun tgMessageId =>
      ⟨rfl, rfl, rfl, .customer rfl rfl fun _ given => by cases given⟩
    intro message listed
    rcases List.mem_pair.mp listed with rfl | rfl
    · exact carries 7
    · exact carries 8
  started := by decide
  short := by decide
  settled := by
    have unheld : burst.latest burst.start = none := by rfl
    intro ticket latest
    cases unheld.symm.trans latest

end BothAtOnce

theorem burst_in_two_threads : BothAtOnce.burst.Within ∧
    BothAtOnce.burst.InTime BothAtOnce.atOnce ∧
      ¬ BothAtOnce.burst.OneThread (BothAtOnce.burst.after BothAtOnce.atOnce) := by
  refine ⟨BothAtOnce.within, by decide, fun oneThread => ?_⟩
  have tickets := oneThread.tickets
  revert tickets
  decide

theorem burst_in_turns :
    BothAtOnce.burst.OneThread (BothAtOnce.burst.after BothAtOnce.inTurns) :=
  burst_one_thread BothAtOnce.burst BothAtOnce.within BothAtOnce.inTurns (by decide) (by decide)

end SupportCrm
