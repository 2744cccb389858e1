import SupportCrm.DailyStats
import SupportCrm.Library.Buckets

/-!
# The report of a range

The report takes in the stored rows of the range and, where the range reaches it, the current
day. With a row for every finished day on which the chat has something, its numbers are the
direct count over the days it takes in (`chatAnalytics_count`). These are the days asked for,
and up to one more: the controller moves an end that is not a midnight into the next day, and
the current day is added even where the range begins after it (`addedDay`).

`chats_direct_iff`: the answer is the direct count exactly when the chat has nothing on the
day that is added.
-/

set_option autoImplicit false

namespace SupportCrm

open KeyedTable AtomicProgram

/-! ## The days of a report -/

/-- The days that a report takes in: the stored ones of the range, and the current one. -/
def Reported (now start stop day : ℤ) : Prop :=
  (dayOf start ≤ day ∧ day < dayOf now ∧ day ≤ dayOf stop) ∨ day = dayOf now ∧ dayOf now ≤ dayOf stop

/-- The days that were asked for, up to the current one. -/
def Asked (now start stop day : ℤ) : Prop :=
  dayOf start ≤ day ∧ day ≤ dayOf stop ∧ day ≤ dayOf now

instance (now start stop day : ℤ) : Decidable (Reported now start stop day) :=
  inferInstanceAs (Decidable (_ ∨ _))

instance (now start stop day : ℤ) : Decidable (Asked now start stop day) :=
  inferInstanceAs (Decidable (_ ∧ _))

/-- The day that a report takes in besides those asked for. An end with a time of day takes in
the next day, and an end that is not over takes in the current day, wherever the range
begins. -/
def addedDay (now start stop : ℤ) : Option ℤ :=
  if dayOf stop < dayOf now then
    if stop % 86400000 ≠ 0 ∧ (dayOf start ≤ dayOf stop + 1 ∨ dayOf stop + 1 = dayOf now) then
      some (dayOf stop + 1)
    else none
  else if dayOf now < dayOf start then some (dayOf now)
  else none

/-- A midnight is moved within its day, any other time into the next one. -/
theorem dayOf_endOfDay (date : ℤ) :
    dayOf (endOfDay date) = if date % 86400000 = 0 then dayOf date else dayOf date + 1 := by
  simp only [dayOf, endOfDay]
  split <;> omega

theorem dayOf_endOfDay_midnight (day : ℤ) : dayOf (endOfDay (day * 86400000)) = day := by
  rw [dayOf_endOfDay, if_pos (Int.mul_emod_left _ _), dayOf_midnight]

theorem reported_iff (now start stop day : ℤ) :
    Reported now start (endOfDay stop) day ↔
      Asked now start stop day ∨ day ∈ addedDay now start stop := by
  simp only [Reported, Asked, addedDay, dayOf_endOfDay, Option.mem_def]
  generalize dayOf now = today
  generalize dayOf start = first
  generalize dayOf stop = last
  by_cases midnight : stop % 86400000 = 0 <;> simp only [midnight, if_true, if_false, ne_eq,
    not_true_eq_false, not_false_eq_true, false_and, true_and] <;> split <;> try split
  all_goals
    simp only [Option.some.injEq, reduceCtorEq, or_false]
    omega

theorem not_asked_of_added {now start stop day : ℤ} (added : day ∈ addedDay now start stop) :
    ¬ Asked now start stop day := by
  simp only [addedDay, Option.mem_def, Asked] at added ⊢
  split at added
  · split at added
    · obtain rfl := Option.some.inj added
      omega
    · cases added
  · split at added
    · obtain rfl := Option.some.inj added
      omega
    · cases added

/-! ## The numbers of a report -/

namespace Reporting

variable {r : Reporting}

/-- A stored row of the range, by its day. -/
theorem in_range_iff (sound : r.Sound) {row : Entry ChatStatsDaily}
    (member : row ∈ r.statsDaily.rows)
    (params : AnalyticsRange) :
    (startOfDay params.from ≤ row.val.date && row.val.date < startOfDay r.world.now &&
        row.val.date ≤ params.to) = true ↔
      dayOf params.from ≤ dayOf row.val.date ∧ dayOf row.val.date < dayOf r.world.now ∧
        dayOf row.val.date ≤ dayOf params.to := by
  have midnight := sound.date row member
  have late : row.val.date ≤ params.to ↔ dayOf row.val.date ≤ dayOf params.to := by
    rw [← startOfDay_le_iff, ← midnight]
  have finished :
      row.val.date < startOfDay r.world.now ↔ dayOf row.val.date < dayOf r.world.now := by
    rw [← not_le, ← not_le, startOfDay_le_iff]
  rw [Bool.and_eq_true, Bool.and_eq_true, decide_eq_true_eq, decide_eq_true_eq, decide_eq_true_eq,
    startOfDay_le_iff, finished, late, and_assoc]

/-- The stored rows of a chat have different days. -/
theorem nodup_days (sound : r.Sound) (chatId : ChatId) (p : Entry ChatStatsDaily → Bool) :
    ((r.statsDaily.rows.filter fun row => row.val.chatId = chatId && p row).map
      fun row => dayOf row.val.date).Nodup := by
  refine List.pairwise_map.mpr ((r.statsDaily.unique.filter _).imp_of_mem ?_)
  intro row other listed listed' apart same
  obtain ⟨member, meets⟩ := List.mem_filter.mp listed
  obtain ⟨member', meets'⟩ := List.mem_filter.mp listed'
  simp only [Bool.and_eq_true, decide_eq_true_eq] at meets meets'
  have collide : row.val.key = other.val.key := by
    rw [ChatStatsDaily.key, ChatStatsDaily.key, meets.1, meets'.1, sound.date row member,
      sound.date other member', startOfDay, startOfDay, same]
  rcases apart with keyless | ne
  · cases keyless
  · exact ne collide

/-- Every finished day of the range on which the chat has something has its row. -/
def Complete (r : Reporting) (chatId : ChatId) (params : AnalyticsRange) : Prop :=
  ∀ day < dayOf r.world.now, dayOf params.from ≤ day → day ≤ dayOf params.to →
    r.world.Busy chatId day → Stored chatId day r

/-- A row has the numbers of its day, if the day has its row wherever there is something to
count. -/
theorem of_row (sound : r.Sound) {chatId : ChatId} {row : Entry ChatStatsDaily}
    (member : row ∈ r.statsDaily.rows) (own : row.val.chatId = chatId)
    (stored : r.world.Busy chatId (dayOf row.val.date) → Stored chatId (dayOf row.val.date) r)
    (kind : Counted) :
    kind.of row.val.toRangeStats = r.world.count chatId kind (dayOf row.val.date) := by
  by_cases busy : r.world.Busy chatId (dayOf row.val.date)
  · obtain ⟨row', member', own', date', counts⟩ := (stored busy).row
    have keyed : row.val.key = some (chatId, startOfDay row.val.date) := by
      rw [ChatStatsDaily.key, own, ← sound.date row member]
    have keyed' : row'.val.key = some (chatId, startOfDay row.val.date) := by
      rw [ChatStatsDaily.key, own', date', startOfDay]
    rw [Table.eq_of_key_eq member member' keyed keyed']
    rw [Table.eq_of_key_eq member member' keyed keyed'] at counts
    exact counts kind
  · have below := sound.below row member kind
    rw [own, World.count_eq_zero busy kind] at below
    rw [World.count_eq_zero busy kind]
    exact Nat.le_zero.mp below

/-- The stored rows of a range, added up. -/
theorem stored_total (sound : r.Sound) {chatId : ChatId} {params : AnalyticsRange}
    (complete : r.Complete chatId params) (kind : Counted) :
    ((r.statsDaily.rows.filter fun row => row.val.chatId = chatId &&
        (startOfDay params.from ≤ row.val.date && row.val.date < startOfDay r.world.now &&
          row.val.date ≤ params.to)).map fun row => kind.of row.val.toRangeStats).sum =
      (r.world.times chatId kind).countP fun time => dayOf params.from ≤ dayOf time ∧
        dayOf time < dayOf r.world.now ∧ dayOf time ≤ dayOf params.to := by
  have inside : ∀ row, row ∈ (r.statsDaily.rows.filter fun row => row.val.chatId = chatId &&
        (startOfDay params.from ≤ row.val.date && row.val.date < startOfDay r.world.now &&
          row.val.date ≤ params.to)) ↔
      row ∈ r.statsDaily.rows ∧ row.val.chatId = chatId ∧ dayOf params.from ≤ dayOf row.val.date ∧
        dayOf row.val.date < dayOf r.world.now ∧ dayOf row.val.date ≤ dayOf params.to := by
    intro row
    rw [List.mem_filter, Bool.and_eq_true, decide_eq_true_eq]
    exact and_congr_right fun member => and_congr_right fun _ => in_range_iff sound member params
  refine Buckets.total_eq_countP (p := fun day => dayOf params.from ≤ day ∧
    day < dayOf r.world.now ∧ day ≤ dayOf params.to) (nodup_days sound chatId _) ?_ ?_ ?_
  · intro row listed
    obtain ⟨member, own, first, finished, last⟩ := (inside row).mp listed
    exact of_row sound member own (complete _ finished first last) kind
  · exact fun row listed => ((inside row).mp listed).2.2
  · rintro time listed asked
    obtain ⟨row, member, own, date, -⟩ :=
      (complete _ asked.2.1 asked.1 asked.2.2 ⟨kind, time, listed, rfl⟩).row
    have day : dayOf row.val.date = dayOf time := by
      rw [date]
      exact dayOf_startOfDay time
    refine List.mem_map.mpr ⟨row, (inside row).mpr ⟨member, own, ?_⟩, day⟩
    rwa [day]

/-- The stored rows of the range and the current day, added up. -/
theorem chatAnalytics_total (r : Reporting) (params : AnalyticsRange) (chat : Entry Chat)
    (kind : Counted) : kind.of (r.chatAnalytics params chat).toRangeStats =
      ((r.statsDaily.rows.filter fun row => row.val.chatId = chat.id &&
        (startOfDay params.from ≤ row.val.date && row.val.date < startOfDay r.world.now &&
          row.val.date ≤ params.to)).map fun row => kind.of row.val.toRangeStats).sum +
      if startOfDay r.world.now ≤ params.to then r.world.count chat.id kind (dayOf r.world.now)
      else 0 := by
  rw [← World.of_day r.rowOrder]
  cases kind <;> simp only [chatAnalytics, Counted.of, List.map_append, List.sum_append,
    List.map_map, Function.comp_def, Bool.and_assoc] <;> split <;> simp

/-- **The report counts its days.** -/
theorem chatAnalytics_count (sound : r.Sound) {chat : Entry Chat} {params : AnalyticsRange}
    (complete : r.Complete chat.id params) (kind : Counted) :
    kind.of (r.chatAnalytics params chat).toRangeStats =
      (r.world.times chat.id kind).countP fun time =>
        Reported r.world.now params.from params.to (dayOf time) := by
  rw [chatAnalytics_total, stored_total sound complete]
  split
  · next live =>
    rw [startOfDay_le_iff] at live
    rw [World.count, ← Buckets.countP_extra (p := fun day => dayOf params.from ≤ day ∧
      day < dayOf r.world.now ∧ day ≤ dayOf params.to) (fun asked => asked.2.1.false)]
    refine List.countP_congr fun time _ => ?_
    simp only [decide_eq_true_eq, Reported, live, and_true]
  · next past =>
    rw [startOfDay_le_iff] at past
    refine List.countP_congr fun time _ => ?_
    simp only [decide_eq_true_eq, Reported, past, and_false, or_false]

end Reporting

/-! ## The answer of the controller -/

/-- What was created in a chat from one day through another, up to now. -/
def World.created (w : World) (chatId : ChatId) (kind : Counted) (first last : ℤ) : ℕ :=
  (w.times chatId kind).countP fun time =>
    first ≤ dayOf time ∧ dayOf time ≤ last ∧ time ≤ w.now

/-- The answer has the chat, with the direct counts over the days of the request. -/
def AnswersDirectly (newDate : String → Option Time) (query : AnalyticsRangeQueryDto)
    (r : Reporting) (chatId : ChatId) : Prop :=
  ∃ start stop report, newDate query.from = some start ∧ newDate query.to = some stop ∧
    AnalyticsController.chats newDate query r = some report ∧
    ∃ entry ∈ report, entry.chatId = chatId ∧ ∀ kind : Counted,
      kind.of entry.toRangeStats = r.world.created chatId kind (dayOf start) (dayOf stop)

namespace Reporting

variable {r : Reporting}

theorem created_eq (sound : r.Sound) (chatId : ChatId) (kind : Counted) (start stop : ℤ) :
    r.world.created chatId kind (dayOf start) (dayOf stop) =
      (r.world.times chatId kind).countP fun time => Asked r.world.now start stop (dayOf time) := by
  refine List.countP_congr fun time listed => ?_
  have before := sound.dated chatId kind time listed
  have day := dayOf_mono before
  simp only [decide_eq_true_eq, Asked, before, day]

theorem created_day (sound : r.Sound) (chatId : ChatId) (kind : Counted) (day : ℤ) :
    r.world.created chatId kind day day = r.world.count chatId kind day := by
  refine List.countP_congr fun time listed => ?_
  have before := sound.dated chatId kind time listed
  simp only [decide_eq_true_eq, before, and_true]
  exact ⟨fun ⟨first, last⟩ => le_antisymm last first, fun same => ⟨same.ge, same.le⟩⟩

/-- The numbers of a report are those asked for, unless the chat has something on the day that
is added. -/
theorem counts_created_iff (sound : r.Sound) {chat : Entry Chat} {start stop : ℤ}
    {chatGroupId : Option ChatGroupId}
    (complete : r.Complete chat.id ⟨start, endOfDay stop, chatGroupId⟩) :
    (∀ kind : Counted,
      kind.of (r.chatAnalytics ⟨start, endOfDay stop, chatGroupId⟩ chat).toRangeStats =
        r.world.created chat.id kind (dayOf start) (dayOf stop)) ↔
      ∀ day ∈ addedDay r.world.now start stop, ¬ r.world.Busy chat.id day := by
  have counted : ∀ kind : Counted,
      kind.of (r.chatAnalytics ⟨start, endOfDay stop, chatGroupId⟩ chat).toRangeStats =
        (r.world.times chat.id kind).countP fun time =>
          Asked r.world.now start stop (dayOf time) ∨ dayOf time ∈ addedDay r.world.now start stop := by
    intro kind
    rw [chatAnalytics_count sound complete]
    refine List.countP_congr fun time _ => ?_
    rw [decide_eq_true_eq, decide_eq_true_eq]
    exact reported_iff r.world.now start stop (dayOf time)
  simp only [counted, created_eq sound]
  cases added : addedDay r.world.now start stop with
  | none => simp
  | some extra =>
      have apart := not_asked_of_added added
      have same : ∀ kind, ((r.world.times chat.id kind).countP (fun time =>
            Asked r.world.now start stop (dayOf time) ∨ dayOf time ∈ some extra) =
          (r.world.times chat.id kind).countP fun time =>
            Asked r.world.now start stop (dayOf time)) ↔
          ∀ time ∈ r.world.times chat.id kind, dayOf time ≠ extra := by
        intro kind
        refine Iff.trans (iff_of_eq (congrArg (· = _) (List.countP_congr fun time _ => ?_)))
          (Buckets.countP_extra_eq_iff apart _)
        rw [decide_eq_true_eq, decide_eq_true_eq, Option.mem_some_iff, eq_comm (a := extra)]
      refine (forall_congr' same).trans ?_
      simp only [Option.mem_some_iff, forall_eq', World.Busy, not_exists, not_and, ne_eq]

theorem answersDirectly_iff (sound : r.Sound) {chat : Entry Chat}
    {newDate : String → Option Time} {query : AnalyticsRangeQueryDto}
    (complete : ∀ start ∈ newDate query.from, ∀ stop ∈ newDate query.to,
      r.Complete chat.id ⟨start, endOfDay stop, query.chat_group⟩)
    (listed : chat ∈ r.chatsOf query.chat_group) :
    AnswersDirectly newDate query r chat.id ↔
      ∃ start stop, newDate query.from = some start ∧ newDate query.to = some stop ∧
        ∀ day ∈ addedDay r.world.now start stop, ¬ r.world.Busy chat.id day := by
  constructor
  · rintro ⟨start, stop, report, first, last, answered, entry, member, own, counts⟩
    refine ⟨start, stop, first, last, ?_⟩
    simp only [AnalyticsController.chats, first, last, Option.some.injEq] at answered
    subst answered
    obtain ⟨chat', member', rfl⟩ := List.mem_map.mp member
    obtain rfl : chat' = chat := Table.eq_of_id_eq (List.mem_filter.mp member').1
      (List.mem_filter.mp listed).1 own
    exact (counts_created_iff sound (complete start first stop last)).mp counts
  · rintro ⟨start, stop, first, last, idle⟩
    refine ⟨start, stop, r.getChatsAnalytics ⟨start, endOfDay stop, query.chat_group⟩, first, last,
      ?_, _, List.mem_map.mpr ⟨chat, listed, rfl⟩, rfl, ?_⟩
    · simp only [AnalyticsController.chats, first, last]
    · exact (counts_created_iff sound (complete start first stop last)).mpr idle

end Reporting

/-! ## Over whole runs -/

/-- An aggregation of this chat and day, with the day over. -/
def Aggregates (chatId : ChatId) (day : ℤ) (r : Reporting) : Background → Prop
  | .pass _ | .reorder _ => False
  | .aggregateDaily chatId' date => chatId' = chatId ∧ dayOf date = day ∧ day < dayOf r.world.now
  | .analyticsJob => day + 1 = dayOf r.world.now

theorem exec_append (pool : Reports) (before after : List (Act Background)) :
    pool.exec (before ++ after) = Reports.exec (pool.exec before) after :=
  List.foldl_append

/-- Along the schedule the day was aggregated for the chat after it was over. -/
def Aggregated (pool : Reports) (schedule : List (Act Background)) (chatId : ChatId) (day : ℤ) :
    Prop :=
  ∃ before background after, schedule = before ++ .env background :: after ∧
    ((pool.exec before).state.world.chats.find? chatId).isSome ∧
    Aggregates chatId day (pool.exec before).state background

theorem Aggregates.stored {chatId : ChatId} {day : ℤ} {r : Reporting} {background : Background}
    (aggregates : Aggregates chatId day r background)
    (present : (r.world.chats.find? chatId).isSome) :
    Reporting.Stored chatId day (Reporting.act background r) := by
  cases background with
  | pass milliseconds => exact aggregates.elim
  | reorder rowOrder => exact aggregates.elim
  | aggregateDaily chatId' date =>
      obtain ⟨rfl, rfl, finished⟩ := aggregates
      obtain ⟨r', ok⟩ := Reporting.exists_aggregate present date
      rw [Reporting.act, ok]
      exact Reporting.stored_aggregate finished ok
  | analyticsJob => exact Reporting.stored_analyticsJob aggregates present

theorem Aggregated.stored {pool : Reports} {schedule : List (Act Background)} {chatId : ChatId}
    {day : ℤ} (aggregated : Aggregated pool schedule chatId day) (sound : pool.state.Sound) :
    Reporting.Stored chatId day (pool.exec schedule).state := by
  obtain ⟨before, background, after, rfl, present, aggregates⟩ := aggregated
  have stored := aggregates.stored present
  have then_sound : ((pool.exec before).step (fun _ => Reporting.perform) Reporting.act
      (.env background)).state.Sound := (sound.exec before).exec [.env background]
  rw [exec_append]
  exact Reporting.Stored.exec stored then_sound after

/-- **When the report is the direct count.** In every run in which each finished day on which
the chat has something was aggregated after it was over, the answer is the direct count over
the days of the request exactly when both strings are dates and the chat has nothing on the
day that is added to them. -/
theorem chats_direct_iff {config : Config} {requests : List Request} {w : World}
    {chatGroups : ChatId → Option ChatGroupId} {schedule : List (Act Background)} {r : Reporting}
    {chat : Entry Chat} {newDate : String → Option Time} {query : AnalyticsRangeQueryDto}
    (linked : w.Linked) (dated : w.Dated)
    (run : r = ((Reports.start config requests w chatGroups).exec schedule).state)
    (aggregated : ∀ day < dayOf r.world.now, r.world.Busy chat.id day →
      Aggregated (Reports.start config requests w chatGroups) schedule chat.id day)
    (listed : chat ∈ r.chatsOf query.chat_group) :
    AnswersDirectly newDate query r chat.id ↔
      ∃ start stop, newDate query.from = some start ∧ newDate query.to = some stop ∧
        ∀ day ∈ addedDay r.world.now start stop, ¬ r.world.Busy chat.id day := by
  have start := Reporting.sound_start linked dated chatGroups
  subst run
  exact Reporting.answersDirectly_iff (Reporting.Sound.exec start schedule)
    (fun _ _ _ _ day finished _ _ busy => (aggregated day finished busy).stored start) listed

/-! ## A range that ends at noon -/

/-- What `new Date` makes of three strings. -/
def readDate (date : String) : Option Time :=
  if date = "1970-01-01" then some 0
  else if date = "1970-01-01T12:00:00Z" then some 43200000
  else if date = "1970-01-02" then some 86400000
  else none

/-- A customer writes on the second day. -/
def untilThirdDay : List (Act Background) :=
  .env (.pass 86400000) :: List.replicate 30 (.turn 0) ++ [.env (.pass 86400000)]

/-- The job runs on the third day. -/
def secondDay : List (Act Background) := untilThirdDay ++ [.env .analyticsJob]

def secondDayReport : Reporting :=
  ((Reports.start .default [.ingest (greeting 1)] World.seeded fun _ => none).exec secondDay).state

theorem dated_seeded : World.seeded.Dated := by
  constructor <;> simp [World.seeded, World.initial, Table.empty]

set_option maxRecDepth 2000 in
theorem secondDayReport_times (kind : Counted) :
    secondDayReport.world.times 0 kind = [86400000] := by
  cases kind <;> decide

theorem secondDay_aggregated (day : ℤ) (busy : secondDayReport.world.Busy 0 day) :
    Aggregated (Reports.start .default [.ingest (greeting 1)] World.seeded fun _ => none) secondDay
      0 day := by
  obtain ⟨kind, time, listed, rfl⟩ := busy
  rw [secondDayReport_times, List.mem_singleton] at listed
  subst listed
  have yesterday : dayOf 86400000 + 1 = dayOf ((Reports.start .default [.ingest (greeting 1)]
      World.seeded fun _ => none).exec untilThirdDay).state.world.now := by decide
  exact ⟨untilThirdDay, .analyticsJob, [], rfl, by decide, yesterday⟩

/-- The chat of the message. -/
def supportChat : Entry Chat := ⟨0, ⟨-5, "support", none, none, .manual, .normal⟩⟩

set_option maxRecDepth 2000 in
theorem supportChat_listed : supportChat ∈ secondDayReport.chatsOf none := by
  decide

/-- Asked for two days, the report is the direct count. -/
theorem two_days_direct :
    AnswersDirectly readDate ⟨"1970-01-01", "1970-01-02", none⟩ secondDayReport supportChat.id := by
  have run : secondDayReport = ((Reports.start .default [.ingest (greeting 1)] World.seeded
      fun _ => none).exec secondDay).state := rfl
  have nothing : addedDay secondDayReport.world.now 0 86400000 = none := by decide
  have direct : AnswersDirectly readDate ⟨"1970-01-01", "1970-01-02", none⟩ secondDayReport
      supportChat.id ↔ _ :=
    chats_direct_iff World.linked_seeded dated_seeded run (fun day _ => secondDay_aggregated day)
      supportChat_listed
  refine direct.mpr ⟨0, 86400000, by decide, by decide, ?_⟩
  rw [nothing]
  exact nofun

/-- Asked for the first day until noon, the report has the ticket of the second day. -/
theorem noon_takes_in_next_day :
    World.seeded.Linked ∧ World.seeded.Dated ∧
    (∀ day < dayOf secondDayReport.world.now, secondDayReport.world.Busy 0 day →
      Aggregated (Reports.start .default [.ingest (greeting 1)] World.seeded fun _ => none) secondDay
        0 day) ∧
    (AnalyticsController.chats readDate ⟨"1970-01-01", "1970-01-01T12:00:00Z", none⟩
      secondDayReport).map (·.map (·.ticketsOpened)) = some [1] ∧
    secondDayReport.world.created 0 .ticketsOpened 0 0 = 0 ∧
    ¬ AnswersDirectly readDate ⟨"1970-01-01", "1970-01-01T12:00:00Z", none⟩ secondDayReport 0 := by
  refine ⟨World.linked_seeded, dated_seeded, fun day _ => secondDay_aggregated day, by decide,
    by decide, ?_⟩
  rintro ⟨start, stop, report, first, last, answered, entry, member, -, counts⟩
  have midnight : readDate "1970-01-01" = some 0 := by decide
  have noon : readDate "1970-01-01T12:00:00Z" = some 43200000 := by decide
  have given : AnalyticsController.chats readDate ⟨"1970-01-01", "1970-01-01T12:00:00Z", none⟩
      secondDayReport = some [⟨⟨1, 0, 1, 1, none, none⟩, 0, "support", 1⟩] := by decide
  cases midnight.symm.trans first
  cases noon.symm.trans last
  cases given.symm.trans answered
  cases List.mem_singleton.mp member
  have none_asked : secondDayReport.world.created 0 .ticketsOpened (dayOf 0) (dayOf 43200000) = 0 := by
    decide
  exact nomatch (counts .ticketsOpened).trans none_asked

end SupportCrm
