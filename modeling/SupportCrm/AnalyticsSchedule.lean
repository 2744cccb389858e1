import SupportCrm.DailyReport

/-!
# The schedule of the aggregation

The job fires every day at 01:00 and aggregates the day before the one on which it is
executed, whichever firing it stands for. So the row of a day is there exactly when the job
was executed on the day after: an execution that is delayed past midnight leaves out the day
it fired for, and between midnight and the execution the day before is not there yet.

`finished_day_reported_iff`: the report of a finished day is right exactly when the job was
executed on the next day, or the chat had nothing on it.
-/

set_option autoImplicit false

namespace SupportCrm

open KeyedTable AtomicProgram

/-! ## Executions -/

/-- When the job was executed along a schedule. -/
def Reports.executions : Reports → List (Act Background) → List Time
  | _, [] => []
  | pool, .env .analyticsJob :: rest =>
      pool.state.world.now :: executions (Reports.exec pool [.env .analyticsJob]) rest
  | pool, act :: rest => executions (Reports.exec pool [act]) rest

/-- The job fires every day at 01:00 (`AnalyticsSchedulerService`), for the first time at
`first`, and each firing is executed before the next. -/
structure Scheduled (first : Time) (executions : List Time) (now : Time) : Prop where
  pattern : first % 86400000 = 3600000
  onTime : ∀ k : ℕ, ∀ e ∈ executions[k]?,
    first + k * 86400000 ≤ e ∧ e < first + (k + 1) * 86400000
  executed : ∀ k : ℕ, first + (k + 1) * 86400000 ≤ now → k < executions.length

/-- The schedule aggregates by the job alone. -/
def JobsOnly (schedule : List (Act Background)) : Prop :=
  ∀ chatId date, .env (.aggregateDaily chatId date) ∉ schedule

/-- Where the job was executed. -/
theorem split_of_execution {pool : Reports} {schedule : List (Act Background)} {e : Time}
    (listed : e ∈ pool.executions schedule) :
    ∃ before after, schedule = before ++ .env .analyticsJob :: after ∧
      (pool.exec before).state.world.now = e := by
  induction schedule generalizing pool with
  | nil => exact nomatch listed
  | cons act rest ih =>
      have later : e ∈ Reports.executions (Reports.exec pool [act]) rest →
          ∃ before after, act :: rest = before ++ .env .analyticsJob :: after ∧
            (pool.exec before).state.world.now = e := by
        intro among
        obtain ⟨before, after, rfl, now⟩ := ih among
        exact ⟨act :: before, after, rfl, now⟩
      rcases act with i | _ | _ | _ | _
      · exact later listed
      · exact later listed
      · exact later listed
      · exact later listed
      · rcases List.mem_cons.mp listed with rfl | among
        · exact ⟨[], rest, rfl, rfl⟩
        · exact later among

namespace Reporting

/-- A row after one step was there, or the job stored it for the day before. -/
theorem row_of_step {pool : Reports} {act : Act Background}
    (job : ∀ chatId date, act ≠ .env (.aggregateDaily chatId date)) {row : Entry ChatStatsDaily}
    (member : row ∈ (Reports.exec pool [act]).state.statsDaily.rows) :
    row ∈ pool.state.statsDaily.rows ∨
      act = .env .analyticsJob ∧ dayOf row.val.date + 1 = dayOf pool.state.world.now := by
  rcases act with i | _ | _ | ⟨chatId, date⟩ | _
  · refine .inl ?_
    rw [Reports.exec, Pool.exec_cons, Pool.exec_nil, Pool.step] at member
    split at member
    · exact member
    · exact member
  · exact .inl member
  · exact .inl member
  · exact absurd rfl (job chatId date)
  · change row ∈ (act .analyticsJob pool.state).statsDaily.rows at member
    rw [act] at member
    cases ok : AnalyticsAggregateProcessor.process pool.state with
    | error e =>
        rw [ok] at member
        exact .inl member
    | ok r' =>
        rw [ok] at member
        have stored := process_invariant
          (I := fun r => ∀ row ∈ r.statsDaily.rows, row ∈ pool.state.statsDaily.rows ∨
            dayOf row.val.date + 1 = dayOf pool.state.world.now) ?_ ok fun row old => .inl old
        · exact (stored row member).imp_right fun day => ⟨rfl, day⟩
        · intro r₁ chatId r₂ one before row listed
          rcases (mem_aggregate one).mp listed with ⟨old, -⟩ | rfl
          · exact before row old
          · refine .inr ?_
            change dayOf (startOfDay _) + 1 = _
            rw [dayOf_startOfDay, dayOf_yesterday]

/-- A row that was not there from the start was stored by an execution on the day after. -/
theorem execution_of_row {pool : Reports} {schedule : List (Act Background)}
    (jobs : JobsOnly schedule) {row : Entry ChatStatsDaily}
    (member : row ∈ (pool.exec schedule).state.statsDaily.rows) :
    row ∈ pool.state.statsDaily.rows ∨
      ∃ e ∈ pool.executions schedule, dayOf row.val.date + 1 = dayOf e := by
  induction schedule generalizing pool with
  | nil => exact .inl member
  | cons act rest ih =>
      have others : JobsOnly rest := fun chatId date among =>
        jobs chatId date (List.mem_cons_of_mem _ among)
      have later : ∀ e ∈ Reports.executions (Reports.exec pool [act]) rest,
          e ∈ pool.executions (act :: rest) := by
        intro e among
        rcases act with i | _ | _ | _ | _
        · exact among
        · exact among
        · exact among
        · exact among
        · exact List.mem_cons_of_mem _ among
      rcases ih others member with before | ⟨e, among, day⟩
      · have job : ∀ chatId date, act ≠ .env (.aggregateDaily chatId date) :=
          fun chatId date same => jobs chatId date (same ▸ List.mem_cons_self)
        rcases row_of_step job before with old | ⟨rfl, day⟩
        · exact .inl old
        · exact .inr ⟨_, List.mem_cons_self, day⟩
      · exact .inr ⟨e, later e among, day⟩

/-! ## The report of a finished day -/

variable {r : Reporting}

/-- Without a row for the day, the report of the day has nothing. -/
theorem chatAnalytics_of_no_row (sound : r.Sound) {day : ℤ} (finished : day < dayOf r.world.now)
    {chat : Entry Chat} (missing : ∀ row ∈ r.statsDaily.rows, dayOf row.val.date ≠ day)
    (kind : Counted) :
    kind.of (r.chatAnalytics ⟨day * 86400000, endOfDay (day * 86400000), none⟩ chat).toRangeStats =
      0 := by
  have nothing : (r.statsDaily.rows.filter fun row => row.val.chatId = chat.id &&
      (startOfDay (day * 86400000) ≤ row.val.date && row.val.date < startOfDay r.world.now &&
        row.val.date ≤ endOfDay (day * 86400000))) = [] := by
    refine List.filter_eq_nil_iff.mpr fun row member meets => missing row member ?_
    rw [Bool.and_eq_true] at meets
    obtain ⟨first, -, last⟩ := (in_range_iff sound member
      ⟨day * 86400000, endOfDay (day * 86400000), none⟩).mp meets.2
    rw [dayOf_midnight] at first
    rw [dayOf_endOfDay_midnight] at last
    exact le_antisymm last first
  have past : ¬ startOfDay r.world.now ≤ endOfDay (day * 86400000) := by
    rw [startOfDay_le_iff, dayOf_endOfDay_midnight]
    omega
  rw [chatAnalytics_total, nothing, if_neg past]
  rfl

/-- The range of one day is complete as soon as the day has its row, or nothing. -/
theorem complete_of_day {chatId : ChatId} {day : ℤ} {chatGroupId : Option ChatGroupId}
    (stored : r.world.Busy chatId day → Stored chatId day r) :
    r.Complete chatId ⟨day * 86400000, endOfDay (day * 86400000), chatGroupId⟩ := by
  intro day' finished first last busy
  rw [dayOf_midnight] at first
  rw [dayOf_endOfDay_midnight] at last
  obtain rfl : day' = day := le_antisymm last first
  exact stored busy

theorem addedDay_midnight {now day : ℤ} (finished : day < dayOf now) :
    addedDay now (day * 86400000) (day * 86400000) = none := by
  simp [addedDay, finished]

/-- The report of a day asked for by its date is right where the day has its row, or nothing. -/
theorem answersDirectly_of_stored (sound : r.Sound) {chat : Entry Chat}
    (listed : chat ∈ r.world.chats.rows) {day : ℤ} (finished : day < dayOf r.world.now)
    {newDate : String → Option Time} {date : String} (named : newDate date = some (day * 86400000))
    (stored : r.world.Busy chat.id day → Stored chat.id day r) :
    AnswersDirectly newDate ⟨date, date, none⟩ r chat.id := by
  refine (answersDirectly_iff sound (fun start given stop given' => ?_)
    (List.mem_filter.mpr ⟨listed, rfl⟩)).mpr
    ⟨day * 86400000, day * 86400000, named, named, ?_⟩
  · obtain rfl := Option.some.inj (named.symm.trans given)
    obtain rfl := Option.some.inj (named.symm.trans given')
    exact complete_of_day stored
  · rw [addedDay_midnight finished]
    exact nofun

/-- It is wrong where the day has something but no row. -/
theorem not_answersDirectly (sound : r.Sound) {chat : Entry Chat} {day : ℤ}
    (listed : chat ∈ r.world.chats.rows) (finished : day < dayOf r.world.now)
    {newDate : String → Option Time} {date : String} (named : newDate date = some (day * 86400000))
    (missing : ∀ row ∈ r.statsDaily.rows, dayOf row.val.date ≠ day)
    (busy : r.world.Busy chat.id day) : ¬ AnswersDirectly newDate ⟨date, date, none⟩ r chat.id := by
  rintro ⟨start, stop, report, first, last, answered, entry, member, own, counts⟩
  obtain rfl := Option.some.inj (named.symm.trans first)
  obtain rfl := Option.some.inj (named.symm.trans last)
  simp only [AnalyticsController.chats, named, Option.some.injEq] at answered
  subst answered
  obtain ⟨chat', member', rfl⟩ := List.mem_map.mp member
  obtain rfl : chat' = chat := Table.eq_of_id_eq (List.mem_filter.mp member').1 listed own
  obtain ⟨kind, something⟩ := World.busy_iff_count.mp busy
  have direct := counts kind
  rw [chatAnalytics_of_no_row sound finished missing, dayOf_midnight, created_day sound] at direct
  exact something direct.symm

end Reporting

/-! ## Over whole runs -/

/-- The numbers of a finished day were the same at any time since. -/
theorem Reporting.count_exec {pool : Reports} (linked : pool.state.world.Linked)
    {chatId : ChatId} {kind : Counted} {day : ℤ} (finished : day < dayOf pool.state.world.now)
    (schedule : List (Act Background)) :
    (pool.exec schedule).state.world.count chatId kind day =
      pool.state.world.count chatId kind day := by
  suffices kept : (pool.exec schedule).state.world.Linked ∧
      day < dayOf (pool.exec schedule).state.world.now ∧
      (pool.exec schedule).state.world.count chatId kind day =
        pool.state.world.count chatId kind day from
    kept.2.2
  refine exec_invariant (I := fun r => r.world.Linked ∧ day < dayOf r.world.now ∧
    r.world.count chatId kind day = pool.state.world.count chatId kind day) ?_ ?_
    (fun _ _ holds => holds) ?_ ⟨linked, finished, rfl⟩
  · rintro c r ⟨linked, finished, same⟩
    refine ⟨linked.perform c, ?_, (World.count_perform linked c chatId kind finished).trans same⟩
    rw [Reporting.perform, World.now_perform]
    exact finished
  · rintro milliseconds r ⟨linked, finished, same⟩
    have later := dayOf_mono (now_le_advance milliseconds r.world)
    exact ⟨linked.setNow _, finished.trans_le later, same⟩
  · intro r chatId date r' ok holds
    rwa [world_aggregate ok]

/-- An execution on the day after stores the numbers of a day on which the chat has something. -/
theorem aggregated_of_execution {pool : Reports}
    (linked : ∀ schedule, (pool.exec schedule).state.world.Linked)
    {schedule : List (Act Background)} {chatId : ChatId} {day : ℤ}
    (busy : (pool.exec schedule).state.world.Busy chatId day) {e : Time}
    (executed : e ∈ pool.executions schedule) (next : dayOf e = day + 1) :
    Aggregated pool schedule chatId day := by
  obtain ⟨before, after, rfl, now⟩ := split_of_execution executed
  have yesterday : day + 1 = dayOf (pool.exec before).state.world.now := by rw [now, next]
  have finished : day < dayOf (pool.exec before).state.world.now := by omega
  obtain ⟨kind, something⟩ := World.busy_iff_count.mp busy
  rw [exec_append, Reporting.count_exec (linked before) finished] at something
  exact ⟨before, .analyticsJob, after, rfl,
    World.present_of_busy (linked before) (World.busy_iff_count.mpr ⟨kind, something⟩), yesterday⟩

/-- **When a finished day is reported.** In every run the report of a day that is over, asked
for by its date, is the direct count exactly when the job was executed on the day after, or
the chat has nothing on it. -/
theorem finished_day_reported_iff {config : Config} {requests : List Request} {w : World}
    {chatGroups : ChatId → Option ChatGroupId} {pool : Reports} {schedule : List (Act Background)}
    {r : Reporting} {chat : Entry Chat} {day : ℤ} {newDate : String → Option Time} {date : String}
    (linked : w.Linked) (dated : w.Dated)
    (start : pool = Reports.start config requests w chatGroups)
    (jobs : JobsOnly schedule) (run : r = (pool.exec schedule).state)
    (listed : chat ∈ r.world.chats.rows) (finished : day < dayOf r.world.now)
    (named : newDate date = some (day * 86400000)) :
    AnswersDirectly newDate ⟨date, date, none⟩ r chat.id ↔
      (∃ e ∈ pool.executions schedule, dayOf e = day + 1) ∨ ¬ r.world.Busy chat.id day := by
  have first : pool.state.Sound := start ▸ Reporting.sound_start linked dated chatGroups
  have sound : r.Sound := run ▸ first.exec schedule
  constructor
  · intro answers
    by_contra unseen
    obtain ⟨missed, busy⟩ := not_or.mp unseen
    refine Reporting.not_answersDirectly sound listed finished named
      (fun row member same => missed ?_) (not_not.mp busy) answers
    rw [run] at member
    rcases Reporting.execution_of_row jobs member with old | ⟨e, executed, next⟩
    · rw [start] at old
      exact nomatch old
    · exact ⟨e, executed, by rw [← next, same]⟩
  · intro covered
    refine Reporting.answersDirectly_of_stored sound listed finished named fun busy => ?_
    obtain ⟨e, executed, next⟩ := covered.resolve_right (not_not.mpr busy)
    subst run
    exact (aggregated_of_execution (fun before => (first.exec before).linked) busy executed
      next).stored first

/-! ## A message on the second day -/

/-- The job runs at 01:00 on the first two days, and a customer writes on the second one,
before it. -/
def twoExecutions : List (Act Background) :=
  [.env (.pass 3600000), .env .analyticsJob, .env (.pass 82800000)] ++
    List.replicate 30 (.turn 0) ++ [.env (.pass 3600000), .env .analyticsJob]

/-- The third execution comes after this time. -/
def thirdAfter (milliseconds : ℕ) : List (Act Background) :=
  twoExecutions ++ [.env (.pass milliseconds), .env .analyticsJob]

def writing : Reports :=
  Reports.start .default [.ingest (greeting 1)] World.seeded fun _ => none

theorem jobsOnly_thirdAfter (milliseconds : ℕ) : JobsOnly (thirdAfter milliseconds) := by
  intro chatId date listed
  simp [thirdAfter, twoExecutions] at listed

set_option maxRecDepth 4000 in
/-- Executed at 01:00 on the third day, the job stores the second one. -/
theorem prompt_execution_reported :
    AnswersDirectly readDate ⟨"1970-01-02", "1970-01-02", none⟩
      (writing.exec (thirdAfter 86400000)).state supportChat.id := by
  have listed : supportChat ∈ (writing.exec (thirdAfter 86400000)).state.world.chats.rows := by
    decide
  have finished : (1 : ℤ) < dayOf (writing.exec (thirdAfter 86400000)).state.world.now := by decide
  have named : readDate "1970-01-02" = some (1 * 86400000) := by decide
  have executed : 176400000 ∈ writing.executions (thirdAfter 86400000) := by decide
  exact (finished_day_reported_iff World.linked_seeded dated_seeded rfl (jobsOnly_thirdAfter _) rfl
    listed finished named).mpr (.inl ⟨176400000, executed, by decide⟩)

set_option maxRecDepth 4000 in
/-- Executed half an hour after the midnight that follows, it leaves the second day out. -/
theorem late_execution_unreported :
    World.seeded.Linked ∧ World.seeded.Dated ∧ JobsOnly (thirdAfter 171000000) ∧
    Scheduled 3600000 (writing.executions (thirdAfter 171000000))
      (writing.exec (thirdAfter 171000000)).state.world.now ∧
    (3600000 : ℤ) < 1 * 86400000 ∧
    (1 : ℤ) < dayOf (writing.exec (thirdAfter 171000000)).state.world.now ∧
    (AnalyticsController.chats readDate ⟨"1970-01-02", "1970-01-02", none⟩
      (writing.exec (thirdAfter 171000000)).state).map (·.map (·.messagesIn)) = some [0] ∧
    (writing.exec (thirdAfter 171000000)).state.world.created 0 .messagesIn 1 1 = 1 ∧
    ¬ AnswersDirectly readDate ⟨"1970-01-02", "1970-01-02", none⟩
      (writing.exec (thirdAfter 171000000)).state supportChat.id := by
  have times : writing.executions (thirdAfter 171000000) = [3600000, 90000000, 261000000] := by
    decide
  have now : (writing.exec (thirdAfter 171000000)).state.world.now = 261000000 := by decide
  have listed : supportChat ∈ (writing.exec (thirdAfter 171000000)).state.world.chats.rows := by
    decide
  have finished : (1 : ℤ) < dayOf (writing.exec (thirdAfter 171000000)).state.world.now := by decide
  have named : readDate "1970-01-02" = some (1 * 86400000) := by decide
  have missing : ∀ row ∈ (writing.exec (thirdAfter 171000000)).state.statsDaily.rows,
      dayOf row.val.date ≠ 1 := by decide
  have first : writing.state.Sound :=
    Reporting.sound_start World.linked_seeded dated_seeded fun _ => none
  have sound := first.exec (thirdAfter 171000000)
  refine ⟨World.linked_seeded, dated_seeded, jobsOnly_thirdAfter _, ?_, by decide, finished,
    by decide, by decide, Reporting.not_answersDirectly sound listed finished named missing
      ⟨.messagesIn, 86400000, by decide, by decide⟩⟩
  rw [times, now]
  refine ⟨by decide, fun k e executed => ?_, fun k fired => ?_⟩
  · rcases k with _ | _ | _ | k
    · obtain rfl := Option.some.inj executed
      decide
    · obtain rfl := Option.some.inj executed
      decide
    · obtain rfl := Option.some.inj executed
      decide
    · exact nomatch executed
  · have first : (3600000 : ℤ) + (k + 1) * 86400000 ≤ 261000000 := fired
    have few : k < 3 := by omega
    exact few

end SupportCrm
