import SupportCrm.Analytics

/-!
# The numbers of a day

What a chat has on a day, the tickets opened and the messages in and out, is counted by the
times at which the rows were created (`World.times`). Requests only append to them, and only
at the current time, so once a day is over its numbers stand (`World.count_perform`).

A row stored after the end of its day is therefore right for good: `Reporting.Stored` holds
from then on along every schedule, whatever else is aggregated (`Reporting.Stored.exec`).
-/

set_option autoImplicit false

namespace SupportCrm

open KeyedTable AtomicProgram

/-! ## Days -/

theorem within_day (date time : ℤ) :
    within (startOfDay date) (addDays (startOfDay date) 1) time = true ↔
      dayOf time = dayOf date := by
  simp only [within, Bool.and_eq_true, decide_eq_true_eq]
  simp only [startOfDay, addDays, dayOf]
  omega

theorem dayOf_mono {time time' : ℤ} (up : time ≤ time') : dayOf time ≤ dayOf time' :=
  Int.ediv_le_ediv (by decide) up

theorem startOfDay_le_iff {time date : ℤ} : startOfDay date ≤ time ↔ dayOf date ≤ dayOf time := by
  simp only [startOfDay, dayOf]
  omega

@[simp] theorem dayOf_startOfDay (date : ℤ) : dayOf (startOfDay date) = dayOf date := by
  simp only [startOfDay, dayOf]
  omega

@[simp] theorem dayOf_midnight (day : ℤ) : dayOf (day * 86400000) = day := by
  simp only [dayOf]
  omega

@[simp] theorem startOfDay_startOfDay (date : ℤ) :
    startOfDay (startOfDay date) = startOfDay date := by
  rw [startOfDay, dayOf_startOfDay, startOfDay]

/-! ## What a chat has on a day -/

/-- The numbers that the report adds up over the days. -/
inductive Counted where
  | ticketsOpened
  | messagesIn
  | messagesOut
  deriving DecidableEq, Repr

def Counted.of : Counted → RangeStats → ℕ
  | .ticketsOpened => RangeStats.ticketsOpened
  | .messagesIn => RangeStats.messagesIn
  | .messagesOut => RangeStats.messagesOut

namespace World

variable {w : World}

/-- When the tickets or the messages of a chat were created. -/
def times (w : World) (chatId : ChatId) : Counted → List Time
  | .ticketsOpened =>
      (w.tickets.rows.filter fun row => row.val.chatId = chatId).map fun row => row.val.createdAt
  | .messagesIn => (w.messages.rows.filter fun row =>
      w.inChat chatId row.val.ticketId && row.val.direction = .in).map fun row => row.val.createdAt
  | .messagesOut => (w.messages.rows.filter fun row =>
      w.inChat chatId row.val.ticketId && row.val.direction = .out).map fun row => row.val.createdAt

/-- How many of them lie on a day. -/
def count (w : World) (chatId : ChatId) (kind : Counted) (day : ℤ) : ℕ :=
  (w.times chatId kind).countP fun time => dayOf time = day

/-- The chat has something on a day. -/
def Busy (w : World) (chatId : ChatId) (day : ℤ) : Prop :=
  ∃ kind, ∃ time ∈ w.times chatId kind, dayOf time = day

theorem busy_iff_count {chatId : ChatId} {day : ℤ} :
    w.Busy chatId day ↔ ∃ kind, w.count chatId kind day ≠ 0 := by
  refine exists_congr fun kind => ?_
  simp [count, List.countP_eq_zero]

theorem count_eq_zero {chatId : ChatId} {day : ℤ} (idle : ¬ w.Busy chatId day) (kind : Counted) :
    w.count chatId kind day = 0 := by
  by_contra something
  exact idle (busy_iff_count.mpr ⟨kind, something⟩)

/-- What `computeStatsForRange` counts. -/
theorem of_computeStatsForRange (rowOrder : RowOrder) (chatId : ChatId) (kind : Counted)
    (start stop : Time) : kind.of (w.computeStatsForRange rowOrder chatId start stop) =
      (w.times chatId kind).countP (within start stop) := by
  cases kind <;>
    simp only [Counted.of, computeStatsForRange, times, List.countP_map, List.countP_filter,
      ← List.countP_eq_length_filter, Function.comp_def, Bool.and_comm]

theorem of_day (rowOrder : RowOrder) (chatId : ChatId) (kind : Counted) (date : Time) :
    kind.of (w.computeStatsForRange rowOrder chatId (startOfDay date)
      (addDays (startOfDay date) 1)) = w.count chatId kind (dayOf date) := by
  rw [of_computeStatsForRange, count]
  refine List.countP_congr fun time _ => ?_
  rw [within_day, decide_eq_true_eq]

/-- What has something is there. -/
theorem present_of_busy (linked : w.Linked) {chatId : ChatId} {day : ℤ} (busy : w.Busy chatId day) :
    (w.chats.find? chatId).isSome := by
  obtain ⟨kind, time, listed, -⟩ := busy
  cases kind with
  | ticketsOpened =>
      obtain ⟨row, member, -⟩ := List.mem_map.mp listed
      obtain ⟨known, own⟩ := List.mem_filter.mp member
      exact of_decide_eq_true own ▸ linked.ticketChat row known
  | messagesIn | messagesOut =>
      obtain ⟨row, member, -⟩ := List.mem_map.mp listed
      obtain ⟨-, own⟩ := List.mem_filter.mp member
      obtain ⟨ticket, found, same⟩ := (Option.any_eq_true _ _).mp (Bool.and_eq_true _ _ ▸ own).1
      exact of_decide_eq_true same ▸ linked.ticketChat ticket (Table.mem_of_find? found)

/-! ## Requests only append -/

/-- Nothing was created after now. -/
structure Dated (w : World) : Prop where
  ticket : ∀ ticket ∈ w.tickets.rows, ticket.val.createdAt ≤ w.now
  message : ∀ message ∈ w.messages.rows, message.val.createdAt ≤ w.now

theorem Dated.times (dated : w.Dated) {chatId : ChatId} {kind : Counted} {time : Time}
    (listed : time ∈ w.times chatId kind) : time ≤ w.now := by
  cases kind with
  | ticketsOpened =>
      obtain ⟨row, member, rfl⟩ := List.mem_map.mp listed
      exact dated.ticket row (List.mem_filter.mp member).1
  | messagesIn | messagesOut =>
      obtain ⟨row, member, rfl⟩ := List.mem_map.mp listed
      exact dated.message row (List.mem_filter.mp member).1

/-- A message stays in its chat. -/
theorem inChat_perform (linked : w.Linked) (c : Call) (chatId : ChatId) {row : Entry Message}
    (member : row ∈ w.messages.rows) :
    (w.perform c).2.inChat chatId row.val.ticketId = w.inChat chatId row.val.ticketId := by
  obtain ⟨ticket, found⟩ := Option.isSome_iff_exists.mp (linked.messageTicket row member)
  obtain ⟨ticket', found', rfl | ⟨data, -, rfl⟩⟩ := ticket_perform c found
  · rw [inChat, inChat, found, found']
  · rw [inChat, inChat, found, found']
    rfl

/-- A filtered list of rows of which one is changed in something else. -/
theorem map_filter_change {ρ : Type} {rows : List (Entry ρ)} {id : ℕ} {f : ρ → ρ}
    {p p' : Entry ρ → Bool} {created : ρ → Time} (same : ∀ value, created (f value) = created value)
    (kept : ∀ row ∈ rows, p' (row.change id f) = p row) :
    (((rows.map (Entry.change id f)).filter p').map fun row => created row.val) =
      (rows.filter p).map fun row => created row.val := by
  rw [List.filter_map, List.map_map]
  have filtered : rows.filter (p' ∘ Entry.change id f) = rows.filter p :=
    List.filter_congr kept
  rw [filtered]
  refine List.map_congr_left fun row _ => ?_
  exact Entry.change_same id f row created same

/-- One more row adds its time at the end, if anything. -/
theorem map_filter_append {ρ : Type} {rows : List (Entry ρ)} {row : Entry ρ}
    {p p' : Entry ρ → Bool} {created : ρ → Time} {now : Time} (new : created row.val = now)
    (kept : ∀ row ∈ rows, p' row = p row) :
    ∃ later, (((rows ++ [row]).filter p').map fun row => created row.val) =
      ((rows.filter p).map fun row => created row.val) ++ later ∧ ∀ time ∈ later, time = now := by
  rw [List.filter_append, List.map_append, List.filter_congr kept]
  refine ⟨_, rfl, fun time listed => ?_⟩
  obtain ⟨other, member, rfl⟩ := List.mem_map.mp listed
  rw [List.mem_singleton.mp (List.mem_filter.mp member).1, new]

/-- The messages of one direction after a command. -/
theorem messages_times (linked : w.Linked) (c : Call) (chatId : ChatId)
    (direction : MessageDirection) :
    ∃ later, (((w.perform c).2.messages.rows.filter fun row =>
        (w.perform c).2.inChat chatId row.val.ticketId && row.val.direction = direction).map
          fun row => row.val.createdAt) =
      ((w.messages.rows.filter fun row =>
        w.inChat chatId row.val.ticketId && row.val.direction = direction).map
          fun row => row.val.createdAt) ++ later ∧ ∀ time ∈ later, time = w.now := by
  have kept : ∀ row ∈ w.messages.rows,
      ((w.perform c).2.inChat chatId row.val.ticketId && row.val.direction = direction) =
        (w.inChat chatId row.val.ticketId && row.val.direction = direction) :=
    fun row member => by rw [inChat_perform linked c chatId member]
  rcases w.messages_perform c with same | ⟨message, free, -, created, same⟩ |
    ⟨id, tgMessageId, messages, -, changed, same⟩
  · refine ⟨[], ?_, by simp⟩
    rw [same, List.append_nil, List.filter_congr kept]
  · rw [same, Table.insert_rows]
    exact map_filter_append created kept
  · refine ⟨[], ?_, by simp⟩
    rw [same, Table.modify?_rows changed, List.append_nil]
    refine map_filter_change (fun _ => rfl) fun row member => ?_
    rw [← kept row member, Entry.change_same id (confirmed tgMessageId) row Message.ticketId
      fun _ => rfl, Entry.change_same id (confirmed tgMessageId) row Message.direction fun _ => rfl]

/-- A command adds nothing to the times, or the current one. -/
theorem times_perform (linked : w.Linked) (c : Call) (chatId : ChatId) (kind : Counted) :
    ∃ later, (w.perform c).2.times chatId kind = w.times chatId kind ++ later ∧
      ∀ time ∈ later, time = w.now := by
  cases kind with
  | messagesIn => exact messages_times linked c chatId .in
  | messagesOut => exact messages_times linked c chatId .out
  | ticketsOpened =>
      simp only [times]
      rcases w.tickets_perform c with same | ⟨data, -, same⟩ | ⟨id, data, -, same⟩
      · exact ⟨[], by rw [same, List.append_nil], by simp⟩
      · rw [same, Table.insert_rows]
        exact map_filter_append rfl fun _ _ => rfl
      · refine ⟨[], ?_, by simp⟩
        rw [same, Table.update_rows, List.append_nil]
        refine map_filter_change (fun _ => rfl) fun row _ => ?_
        rw [Entry.change_same id (data.apply w.now) row Ticket.chatId fun _ => rfl]

/-- The numbers of a day only grow. -/
theorem count_le_perform (linked : w.Linked) (c : Call) (chatId : ChatId) (kind : Counted)
    (day : ℤ) : w.count chatId kind day ≤ (w.perform c).2.count chatId kind day := by
  obtain ⟨later, appended, -⟩ := times_perform linked c chatId kind
  rw [count, count, appended, List.countP_append]
  exact Nat.le_add_right _ _

/-- **The numbers of a day that is over stand.** -/
theorem count_perform (linked : w.Linked) (c : Call) (chatId : ChatId) (kind : Counted) {day : ℤ}
    (finished : day < dayOf w.now) :
    (w.perform c).2.count chatId kind day = w.count chatId kind day := by
  obtain ⟨later, appended, now⟩ := times_perform linked c chatId kind
  rw [count, count, appended, List.countP_append, Nat.add_eq_left, List.countP_eq_zero]
  intro time listed same
  rw [now time listed] at same
  exact finished.ne' (of_decide_eq_true same)

end World

/-! ## The stored rows -/

namespace Reporting

variable {r r' : Reporting}

/-- No row counts more than its chat has on its day. -/
structure Sound (r : Reporting) : Prop where
  linked : r.world.Linked
  dated : ∀ chatId kind, ∀ time ∈ r.world.times chatId kind, time ≤ r.world.now
  date : ∀ row ∈ r.statsDaily.rows, row.val.date = startOfDay row.val.date
  below : ∀ row ∈ r.statsDaily.rows, ∀ kind : Counted,
    kind.of row.val.toRangeStats ≤ r.world.count row.val.chatId kind (dayOf row.val.date)

/-- The day is over, and its row has its numbers. -/
structure Stored (chatId : ChatId) (day : ℤ) (r : Reporting) : Prop where
  finished : day < dayOf r.world.now
  row : ∃ row ∈ r.statsDaily.rows, row.val.chatId = chatId ∧ row.val.date = day * 86400000 ∧
    ∀ kind : Counted, kind.of row.val.toRangeStats = r.world.count chatId kind day

theorem sound_start {w : World} (linked : w.Linked) (dated : w.Dated)
    (chatGroups : ChatId → Option ChatGroupId) (rowOrder : RowOrder := {}) :
    Sound ⟨w, chatGroups, .empty, rowOrder⟩ where
  linked := linked
  dated := fun _ _ _ => dated.times
  date := fun _ listed => nomatch listed
  below := fun _ listed => nomatch listed

theorem Sound.perform (sound : r.Sound) (c : Call) : (r.perform c).2.Sound where
  linked := sound.linked.perform c
  dated := by
    intro chatId kind time listed
    have now : (r.perform c).2.world.now = r.world.now := World.now_perform r.world c
    obtain ⟨later, appended, new⟩ := World.times_perform sound.linked c chatId kind
    rw [Reporting.perform, appended] at listed
    rw [now]
    rcases List.mem_append.mp listed with old | added
    · exact sound.dated chatId kind time old
    · exact (new time added).le
  date := sound.date
  below := fun row listed kind => (sound.below row listed kind).trans
    (World.count_le_perform sound.linked c row.val.chatId kind (dayOf row.val.date))

theorem Stored.perform {chatId : ChatId} {day : ℤ} (stored : Stored chatId day r)
    (sound : r.Sound) (c : Call) : Stored chatId day (r.perform c).2 where
  finished := by
    rw [Reporting.perform, World.now_perform]
    exact stored.finished
  row := by
    obtain ⟨row, listed, own, date, counts⟩ := stored.row
    refine ⟨row, listed, own, date, fun kind => (counts kind).trans ?_⟩
    exact (World.count_perform sound.linked c chatId kind stored.finished).symm

theorem now_le_advance (milliseconds : ℕ) (w : World) : w.now ≤ (w.advance milliseconds).now :=
  Int.le_add_of_nonneg_right (Int.natCast_nonneg _)

theorem Sound.pass (sound : r.Sound) (milliseconds : ℕ) : (act (.pass milliseconds) r).Sound where
  linked := sound.linked.setNow _
  dated := fun chatId kind time listed =>
    (sound.dated chatId kind time listed).trans (now_le_advance milliseconds r.world)
  date := sound.date
  below := sound.below

/-- The order in which the database returns tickets does not count. -/
theorem Sound.reorder (sound : r.Sound) (rowOrder : RowOrder) :
    (act (.reorder rowOrder) r).Sound :=
  ⟨sound.linked, sound.dated, sound.date, sound.below⟩

theorem Stored.reorder {chatId : ChatId} {day : ℤ} (stored : Stored chatId day r)
    (rowOrder : RowOrder) : Stored chatId day (act (.reorder rowOrder) r) :=
  ⟨stored.finished, stored.row⟩

theorem Stored.pass {chatId : ChatId} {day : ℤ} (stored : Stored chatId day r)
    (milliseconds : ℕ) : Stored chatId day (act (.pass milliseconds) r) where
  finished := stored.finished.trans_le (dayOf_mono (now_le_advance milliseconds r.world))
  row := stored.row

/-- What one aggregation stores. -/
theorem aggregateDailyForChat_eq_ok {chatId : ChatId} {date : Time}
    (ok : r.aggregateDailyForChat chatId date = .ok r') :
    r' = { r with statsDaily := r.statsDaily.put (r.dailyRow chatId date) rfl } := by
  unfold aggregateDailyForChat at ok
  split at ok
  · cases ok
  · exact (Except.ok.inj ok).symm

theorem mem_aggregate {chatId : ChatId} {date : Time}
    (ok : r.aggregateDailyForChat chatId date = .ok r') {row : Entry ChatStatsDaily} :
    row ∈ r'.statsDaily.rows ↔
      row ∈ r.statsDaily.rows ∧ row.val.key ≠ some (chatId, startOfDay date) ∨
        row = ⟨r.statsDaily.idOf (chatId, startOfDay date), r.dailyRow chatId date⟩ := by
  have keyed : (r.dailyRow chatId date).key = some (chatId, startOfDay date) := rfl
  rw [aggregateDailyForChat_eq_ok ok]
  exact Table.mem_put keyed

theorem world_aggregate {chatId : ChatId} {date : Time}
    (ok : r.aggregateDailyForChat chatId date = .ok r') : r'.world = r.world := by
  rw [aggregateDailyForChat_eq_ok ok]

/-- What the rows are computed from. -/
def source (r : Reporting) : World × RowOrder := (r.world, r.rowOrder)

theorem source_aggregate {chatId : ChatId} {date : Time}
    (ok : r.aggregateDailyForChat chatId date = .ok r') : r'.source = r.source := by
  rw [aggregateDailyForChat_eq_ok ok]
  rfl

/-- The row has the numbers of its day. -/
theorem of_dailyRow (r : Reporting) (chatId : ChatId) (date : Time) (kind : Counted) :
    kind.of (r.dailyRow chatId date).toRangeStats = r.world.count chatId kind (dayOf date) :=
  World.of_day r.rowOrder chatId kind date

theorem Sound.aggregate {chatId : ChatId} {date : Time} (sound : r.Sound)
    (ok : r.aggregateDailyForChat chatId date = .ok r') : r'.Sound := by
  have world := world_aggregate ok
  refine ⟨world ▸ sound.linked, world ▸ sound.dated, fun row listed => ?_,
    fun row listed kind => ?_⟩
  · rcases (mem_aggregate ok).mp listed with ⟨old, -⟩ | rfl
    · exact sound.date row old
    · exact (startOfDay_startOfDay date).symm
  · rw [world]
    rcases (mem_aggregate ok).mp listed with ⟨old, -⟩ | rfl
    · exact sound.below row old kind
    · refine (of_dailyRow r chatId date kind).le.trans_eq ?_
      change _ = r.world.count chatId kind (dayOf (startOfDay date))
      rw [dayOf_startOfDay]

/-- An aggregation of a day that is over stores its numbers. -/
theorem stored_aggregate {chatId : ChatId} {date : Time} (finished : dayOf date < dayOf r.world.now)
    (ok : r.aggregateDailyForChat chatId date = .ok r') : Stored chatId (dayOf date) r' := by
  have world := world_aggregate ok
  refine ⟨world ▸ finished, _, (mem_aggregate ok).mpr (.inr rfl), rfl, rfl, fun kind => ?_⟩
  rw [world]
  exact of_dailyRow r chatId date kind

/-- Another aggregation leaves the row, or stores the same numbers again. -/
theorem Stored.aggregate {chatId chatId' : ChatId} {day : ℤ} {date : Time}
    (stored : Stored chatId day r) (ok : r.aggregateDailyForChat chatId' date = .ok r') :
    Stored chatId day r' := by
  by_cases same : chatId' = chatId ∧ dayOf date = day
  · obtain ⟨rfl, rfl⟩ := same
    exact stored_aggregate stored.finished ok
  · obtain ⟨row, listed, own, dated, counts⟩ := stored.row
    have world := world_aggregate ok
    refine ⟨world ▸ stored.finished, row,
      (mem_aggregate ok).mpr (.inl ⟨listed, fun collide => ?_⟩), own,
      dated, fun kind => world ▸ counts kind⟩
    simp only [ChatStatsDaily.key, Option.some.injEq, Prod.mk.injEq, own, dated, startOfDay]
      at collide
    exact same ⟨collide.1.symm, (mul_left_inj' (by decide)).mp collide.2.symm⟩

/-- What one aggregation keeps, those of several chats keep. -/
theorem foldlM_invariant {I : Reporting → Prop} {date : Time}
    (one : ∀ r chatId r', aggregateDailyForChat r chatId date = .ok r' → I r → I r')
    {chats : List (Entry Chat)}
    (ok : chats.foldlM (fun r chat => r.aggregateDailyForChat chat.id date) r = .ok r')
    (holds : I r) : I r' := by
  induction chats generalizing r with
  | nil => exact Except.ok.inj ok ▸ holds
  | cons chat rest ih =>
      rw [List.foldlM_cons, World.bind_eq_ok_iff] at ok
      obtain ⟨r₁, first, others⟩ := ok
      exact ih others (one r chat.id r₁ first holds)

theorem exists_aggregate {chatId : ChatId} (present : (r.world.chats.find? chatId).isSome)
    (date : Time) : ∃ r', r.aggregateDailyForChat chatId date = .ok r' := by
  refine ⟨_, if_neg fun absent => ?_⟩
  rw [Option.isNone_iff_eq_none.mp absent] at present
  cases present

/-- The aggregation of one chat after another succeeds. What that of one chat establishes and
those of the others keep, holds after them. -/
theorem foldlM_establishes {I : Reporting → Prop} {chatId : ChatId} {date : Time}
    {source : World × RowOrder}
    (own : ∀ r r', r.source = source → aggregateDailyForChat r chatId date = .ok r' → I r')
    (others : ∀ r chatId' r', r.source = source → aggregateDailyForChat r chatId' date = .ok r' →
      I r → I r')
    {chats : List (Entry Chat)} (same : r.source = source)
    (present : ∀ chat ∈ chats, (source.1.chats.find? chat.id).isSome) :
    ∃ r', chats.foldlM (fun r chat => r.aggregateDailyForChat chat.id date) r = .ok r' ∧
      (I r ∨ (∃ chat ∈ chats, chat.id = chatId) → I r') := by
  induction chats generalizing r with
  | nil => exact ⟨r, rfl, fun established => established.elim id nofun⟩
  | cons chat rest ih =>
      obtain ⟨here, later⟩ := List.forall_mem_cons.mp present
      obtain ⟨r₁, first⟩ := exists_aggregate (r := r) (same ▸ here) date
      obtain ⟨r', folded, established⟩ := ih ((source_aggregate first).trans same) later
      refine ⟨r', ?_, fun before => established ?_⟩
      · rw [List.foldlM_cons, World.bind_eq_ok_iff]
        exact ⟨r₁, first, folded⟩
      · rcases before with holds | ⟨other, listed, rfl⟩
        · exact .inl (others r chat.id r₁ same first holds)
        · rcases List.mem_cons.mp listed with rfl | among
          · exact .inl (own r r₁ same first)
          · exact .inr ⟨other, among, rfl⟩

/-- The job aggregates the day before, for every chat. -/
theorem analyticsJob_establishes {I : Reporting → Prop} {chatId : ChatId}
    (present : (r.world.chats.find? chatId).isSome)
    (own : ∀ r₁ r', r₁.source = r.source →
      aggregateDailyForChat r₁ chatId (addDays r.world.now (-1)) = .ok r' → I r')
    (others : ∀ r₁ chatId' r', r₁.source = r.source →
      aggregateDailyForChat r₁ chatId' (addDays r.world.now (-1)) = .ok r' → I r₁ → I r') :
    I (act .analyticsJob r) := by
  obtain ⟨chat, found⟩ := Option.isSome_iff_exists.mp present
  obtain ⟨r', folded, established⟩ := foldlM_establishes own others rfl fun chat listed =>
    Option.isSome_iff_exists.mpr ⟨chat, Table.find?_self listed⟩
  have ok : AnalyticsAggregateProcessor.process r = .ok r' := by
    simp only [AnalyticsAggregateProcessor.process, aggregateAllChatsForDate, World.bind_eq_ok_iff]
    exact ⟨_, ⟨r', folded, rfl⟩, rfl⟩
  rw [act, ok]
  exact established (.inr ⟨chat, Table.mem_of_find? found, Table.id_of_find? found⟩)

theorem dayOf_yesterday (now : ℤ) : dayOf (addDays now (-1)) + 1 = dayOf now := by
  simp only [dayOf, addDays]
  omega

/-- **The job stores the numbers of the day before, for every chat.** -/
theorem stored_analyticsJob {chatId : ChatId} {day : ℤ} (yesterday : day + 1 = dayOf r.world.now)
    (present : (r.world.chats.find? chatId).isSome) : Stored chatId day (act .analyticsJob r) := by
  have date := dayOf_yesterday r.world.now
  obtain rfl : dayOf (addDays r.world.now (-1)) = day := by omega
  refine analyticsJob_establishes present (fun r₁ r' same ok => ?_)
    fun _ _ _ _ ok stored => stored.aggregate ok
  have world : r₁.world = r.world := (Prod.mk.inj same).1
  refine stored_aggregate ?_ ok
  rw [world]
  omega

/-- What one aggregation keeps, the job keeps. -/
theorem process_invariant {I : Reporting → Prop}
    (one : ∀ r₁ chatId r', aggregateDailyForChat r₁ chatId (addDays r.world.now (-1)) = .ok r' →
      I r₁ → I r')
    (ok : AnalyticsAggregateProcessor.process r = .ok r') (holds : I r) : I r' := by
  simp only [AnalyticsAggregateProcessor.process, aggregateAllChatsForDate,
    World.bind_eq_ok_iff] at ok
  obtain ⟨_, ⟨r₁, folded, counted⟩, same⟩ := ok
  cases counted
  cases same
  exact foldlM_invariant one folded holds

/-- What the clock, new orders and every aggregation keep. -/
theorem act_invariant {I : Reporting → Prop}
    (pass : ∀ milliseconds r, I r → I (act (.pass milliseconds) r))
    (one : ∀ r chatId date r', aggregateDailyForChat r chatId date = .ok r' → I r → I r')
    (background : Background) {r : Reporting}
    (reorder : ∀ rowOrder, background = .reorder rowOrder → I (act (.reorder rowOrder) r))
    (holds : I r) : I (act background r) := by
  cases background with
  | pass milliseconds => exact pass milliseconds r holds
  | reorder rowOrder => exact reorder rowOrder rfl
  | aggregateDaily chatId date =>
      simp only [act]
      cases ok : r.aggregateDailyForChat chatId date with
      | ok r' => exact one r chatId date r' ok holds
      | error e => exact holds
  | analyticsJob =>
      simp only [act]
      cases ok : AnalyticsAggregateProcessor.process r with
      | ok r' => exact process_invariant (fun r₁ chatId => one r₁ chatId _) ok holds
      | error e => exact holds

/-- **What every command, the clock, new orders and every aggregation keep holds along every
schedule.** -/
theorem exec_invariant {I : Reporting → Prop} (commands : ∀ c r, I r → I (r.perform c).2)
    (pass : ∀ milliseconds r, I r → I (act (.pass milliseconds) r))
    (reorder : ∀ rowOrder r, I r → I (act (.reorder rowOrder) r))
    (one : ∀ r chatId date r', aggregateDailyForChat r chatId date = .ok r' → I r → I r')
    {pool : Reports} {schedule : List (Act Background)} (holds : I pool.state) :
    I (pool.exec schedule).state :=
  Pool.invariant_exec (P := fun _ _ _ => True) (N := fun _ _ => True)
    (fun _ c r _ => commands c r)
    (fun background r _ holds =>
      act_invariant pass one background (fun rowOrder _ => reorder rowOrder r holds) holds)
    (Pool.meets_of_forall (fun _ _ _ => trivial) (fun _ _ => trivial) _ _) holds

theorem Sound.exec {pool : Reports} (sound : pool.state.Sound) (schedule : List (Act Background)) :
    (pool.exec schedule).state.Sound :=
  exec_invariant (I := Sound) (fun c _ sound => sound.perform c)
    (fun milliseconds _ sound => sound.pass milliseconds)
    (fun rowOrder _ sound => sound.reorder rowOrder)
    (fun _ _ _ _ ok sound => sound.aggregate ok) sound

theorem Stored.exec {chatId : ChatId} {day : ℤ} {pool : Reports}
    (stored : Stored chatId day pool.state) (sound : pool.state.Sound)
    (schedule : List (Act Background)) : Stored chatId day (pool.exec schedule).state :=
  (exec_invariant (I := fun r => Sound r ∧ Stored chatId day r)
    (fun c _ holds => ⟨holds.1.perform c, holds.2.perform holds.1 c⟩)
    (fun milliseconds _ holds => ⟨holds.1.pass milliseconds, holds.2.pass milliseconds⟩)
    (fun rowOrder _ holds => ⟨holds.1.reorder rowOrder, holds.2.reorder rowOrder⟩)
    (fun _ _ _ _ ok holds => ⟨holds.1.aggregate ok, holds.2.aggregate ok⟩) ⟨sound, stored⟩).2

end Reporting

end SupportCrm
