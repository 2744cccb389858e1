import Mathlib.Data.List.Permutation
import SupportCrm.DailyReport

/-!
# The numbers of a finished day

Besides what was created on it, the row of a day counts the tickets closed and averages the
times of first response and resolution. These come from stamps on the tickets, and a stamp
can be written again: a ticket that is closed or solved once more loses its place on the
earlier day. So can a stamp be dated back, when its time was read before midnight and written
after. And the averages add doubles in the order in which the database returns the tickets,
which may differ from one query to the next.

`finished_day_final`: as long as no command moves such a stamp (`World.settles`), and the
tickets of a day that is over are returned in a new order only where their average is the same
in every order (`Reporting.settles`), the row of the day is the same whenever it is computed,
and the stored row agrees with it.
-/

set_option autoImplicit false

namespace SupportCrm

open KeyedTable AtomicProgram

/-! ## Stamps -/

/-- The times noted on a ticket that the statistics read. -/
inductive Stamp where
  | closedAt
  | resolvedAt
  | firstResponseAt
  deriving DecidableEq, Repr

def Stamp.of : Stamp → Ticket → Option Time
  | .closedAt => Ticket.closedAt
  | .resolvedAt => Ticket.resolvedAt
  | .firstResponseAt => Ticket.firstResponseAt

/-- What an update writes. -/
def Stamp.written : Stamp → TicketData → Option Time
  | .closedAt => TicketData.closedAt
  | .resolvedAt => TicketData.resolvedAt
  | .firstResponseAt => TicketData.firstResponseAt

/-- The order in which the database returns the tickets of the average over a stamp. -/
def Stamp.order : Stamp → RowOrder → List TicketId
  | .closedAt, _ => []
  | .resolvedAt, rowOrder => rowOrder.resolvedTickets
  | .firstResponseAt, rowOrder => rowOrder.firstResponseTickets

theorem Stamp.of_apply (stamp : Stamp) (data : TicketData) (now : Time) (ticket : Ticket) :
    stamp.of (data.apply now ticket) = (stamp.written data).or (stamp.of ticket) := by
  cases stamp <;> rfl

/-- The stamp stays, or neither its old nor its new time lies on a day that is over. -/
def Stamp.settles (stamp : Stamp) (now : Time) (ticket : Ticket) (data : TicketData) : Bool :=
  stamp.of (data.apply now ticket) = stamp.of ticket ||
    (((stamp.of ticket).all fun time => startOfDay now ≤ time) &&
      (stamp.written data).all fun time => startOfDay now ≤ time)

namespace World

variable {w : World}

/-- A command that takes effect moves no stamp from or to a day that is over. -/
def settles (w : World) (c : Call) : Bool :=
  match (w.perform c).1 with
  | .error _ => true
  | .ok _ => (c.ticketData w.now).all fun update => (w.tickets.find? update.1).all fun ticket =>
      [Stamp.closedAt, .resolvedAt, .firstResponseAt].all (·.settles w.now ticket.val update.2)

theorem settles_stamp {c : Call} {answer : c.Resp} (ok : (w.perform c).1 = .ok answer)
    (settles : w.settles c = true) {id : TicketId} {data : TicketData}
    (update : c.ticketData w.now = some (id, data)) {ticket : Entry Ticket}
    (found : w.tickets.find? id = some ticket) (stamp : Stamp) :
    stamp.settles w.now ticket.val data = true := by
  simp only [World.settles, ok, update, found, Option.all_some, List.all_cons, List.all_nil,
    Bool.and_true, Bool.and_eq_true] at settles
  obtain ⟨closed, resolved, responded⟩ := settles
  cases stamp <;> assumption

/-- A time of today or later is none of a day that is over. -/
theorem not_within {now date time : ℤ} (finished : dayOf date < dayOf now)
    (late : startOfDay now ≤ time) :
    within (startOfDay date) (addDays (startOfDay date) 1) time = false := by
  rw [startOfDay_le_iff] at late
  by_contra inside
  have same := (within_day date time).mp ((Bool.not_eq_false _).mp inside)
  omega

/-- A stamp that is not moved from or to a day that is over lies there as it did. -/
theorem filter_stamp {stamp : Stamp} {ticket : Ticket} {data : TicketData} {now date : ℤ}
    (finished : dayOf date < dayOf now) (settles : stamp.settles now ticket data = true) :
    (stamp.of (data.apply now ticket)).filter
        (within (startOfDay date) (addDays (startOfDay date) 1)) =
      (stamp.of ticket).filter (within (startOfDay date) (addDays (startOfDay date) 1)) := by
  simp only [Stamp.settles, Bool.or_eq_true, Bool.and_eq_true, decide_eq_true_eq] at settles
  rcases settles with same | ⟨old, new⟩
  · rw [same]
  · have none_of_late : ∀ o : Option Time, (o.all fun time => startOfDay now ≤ time) = true →
        o.filter (within (startOfDay date) (addDays (startOfDay date) 1)) = none := by
      intro o late
      cases o with
      | none => rfl
      | some time => simp [Option.filter, not_within finished (of_decide_eq_true late)]
    rw [Stamp.of_apply, none_of_late _ old]
    cases written : stamp.written data with
    | none => rw [Option.none_or, none_of_late _ old]
    | some time =>
        rw [Option.some_or]
        exact none_of_late _ (written ▸ new)

/-! ## The row of a day -/

/-- The tickets of a chat that are stamped in the range, each with its seconds, as the table
has them. -/
def stamped (w : World) (chatId : ChatId) (start stop : Time) (stamp : Ticket → Option Time) :
    List (TicketId × ℚ) :=
  w.tickets.rows.filterMap fun row =>
    if row.val.chatId = chatId then
      ((stamp row.val).filter (within start stop)).map fun time =>
        (row.id, secondsBetween row.val.createdAt time)
    else none

/-- The database puts them into an order. -/
theorem seconds_eq_map (order : List TicketId) (chatId : ChatId) (start stop : Time)
    (stamp : Ticket → Option Time) :
    w.seconds order chatId start stop stamp =
      ((w.stamped chatId start stop stamp).insertionSort
        fun first second => order.idxOf first.1 ≤ order.idxOf second.1).map Prod.snd := by
  let entry (row : Entry Ticket) : TicketId × ℚ :=
    (row.id, secondsBetween row.val.createdAt ((stamp row.val).getD 0))
  have entries : w.stamped chatId start stop stamp = (w.tickets.rows.filter fun row =>
      row.val.chatId = chatId && (stamp row.val).any (within start stop)).map entry := by
    rw [← List.filterMap_eq_map', List.filterMap_filter]
    refine List.filterMap_congr fun row _ => ?_
    by_cases own : row.val.chatId = chatId
    · cases noted : stamp row.val with
      | none => simp [own]
      | some time =>
          by_cases inside : within start stop time <;>
            simp [own, noted, inside, entry, Option.filter]
    · simp [own]
  have noted : ∀ row ∈ w.ticketsWithin order chatId start stop stamp,
      (stamp row.val).map (secondsBetween row.val.createdAt) = some (entry row).2 := by
    intro row member
    have inside := (List.mem_filter.mp ((List.perm_insertionSort _ _).mem_iff.mp member)).2
    cases found : stamp row.val with
    | none => simp [found] at inside
    | some time => simp [entry, found]
  rw [entries, ← List.map_insertionSort _ _ entry _ fun _ _ _ _ => Iff.rfl, List.map_map]
  exact List.filterMap_eq_map_iff_forall_eq_some.mpr noted

/-- The seconds of a stamp in two orders. -/
theorem seconds_perm (order order' : List TicketId) (chatId : ChatId) (start stop : Time)
    (stamp : Ticket → Option Time) :
    (w.seconds order chatId start stop stamp).Perm (w.seconds order' chatId start stop stamp) := by
  rw [seconds_eq_map, seconds_eq_map]
  exact ((List.perm_insertionSort _ _).trans (List.perm_insertionSort _ _).symm).map _

/-- **The stamps on a day that is over stay.** -/
theorem stamped_perform {c : Call} (settles : w.settles c = true) (chatId : ChatId) {date : Time}
    (finished : dayOf date < dayOf w.now) (stamp : Stamp) :
    (w.perform c).2.stamped chatId (startOfDay date) (addDays (startOfDay date) 1) stamp.of =
      w.stamped chatId (startOfDay date) (addDays (startOfDay date) 1) stamp.of := by
  cases ok : (w.perform c).1 with
  | error e => rw [perform_error ok]
  | ok answer =>
      simp only [stamped]
      rcases w.tickets_perform c with same | ⟨data, -, same⟩ | ⟨id, data, update, same⟩
      · rw [same]
      · have fresh : stamp.of (data.row w.now) = none := by cases stamp <;> rfl
        rw [same, Table.insert_rows, List.filterMap_append]
        simp [fresh]
      · rw [same, Table.update_rows, List.filterMap_map]
        refine List.filterMap_congr fun row member => ?_
        by_cases own : row.id = id
        · subst own
          have stays := filter_stamp finished
            (settles_stamp ok settles update (Table.find?_self member) stamp)
          simp only [Function.comp, Entry.change, if_true, stays]
          rfl
        · rw [Function.comp, Entry.change_of_ne _ _ own]

theorem ticketsClosed_eq (rowOrder : RowOrder) (chatId : ChatId) (start stop : Time) :
    (w.computeStatsForRange rowOrder chatId start stop).ticketsClosed =
      (w.stamped chatId start stop Stamp.closedAt.of).length := by
  rw [stamped, List.length_filterMap_eq_countP]
  change (w.tickets.rows.filter fun row =>
    row.val.chatId = chatId && row.val.closedAt.any (within start stop)).length = _
  rw [← List.countP_eq_length_filter]
  refine List.countP_congr fun row _ => ?_
  by_cases own : row.val.chatId = chatId
  · cases closed : row.val.closedAt with
    | none => simp [own, Stamp.of, closed]
    | some time =>
        by_cases inside : within start stop time <;>
          simp [own, Stamp.of, closed, inside, Option.filter]
  · simp [own]

end World

/-- Two rows with the same six fields. -/
theorem rangeStats_ext {s s' : RangeStats} (counts : ∀ kind : Counted, kind.of s = kind.of s')
    (closed : s.ticketsClosed = s'.ticketsClosed)
    (response : s.avgFirstResponseSec = s'.avgFirstResponseSec)
    (resolution : s.avgResolutionSec = s'.avgResolutionSec) : s = s' := by
  have opened := counts .ticketsOpened
  have incoming := counts .messagesIn
  have outgoing := counts .messagesOut
  cases s
  cases s'
  simp only [Counted.of] at opened incoming outgoing
  subst opened incoming outgoing closed response resolution
  rfl

namespace Reporting

variable {r r' : Reporting}

/-- **The row of a day that is over stays as it is.** -/
theorem dailyRow_perform (linked : r.world.Linked) {c : Call} (settles : r.world.settles c = true)
    (chatId : ChatId) {date : Time} (finished : dayOf date < dayOf r.world.now) :
    (r.perform c).2.dailyRow chatId date = r.dailyRow chatId date := by
  have stamped := World.stamped_perform settles chatId finished
  have seconds : ∀ (stamp : Stamp) (order : List TicketId),
      (r.perform c).2.world.seconds order chatId (startOfDay date)
          (addDays (startOfDay date) 1) stamp.of =
        r.world.seconds order chatId (startOfDay date) (addDays (startOfDay date) 1) stamp.of := by
    intro stamp order
    rw [World.seconds_eq_map, World.seconds_eq_map]
    exact congrArg (fun entries => (List.insertionSort _ entries).map Prod.snd) (stamped stamp)
  have stats : (r.perform c).2.world.computeStatsForRange r.rowOrder chatId (startOfDay date)
      (addDays (startOfDay date) 1) = r.world.computeStatsForRange r.rowOrder chatId
        (startOfDay date) (addDays (startOfDay date) 1) := by
    refine rangeStats_ext (fun kind => ?_) ?_ ?_ ?_
    · rw [World.of_day, World.of_day]
      exact World.count_perform linked c chatId kind finished
    · rw [World.ticketsClosed_eq, World.ticketsClosed_eq]
      exact congrArg List.length (stamped .closedAt)
    · exact congrArg average (seconds .firstResponseAt _)
    · exact congrArg average (seconds .resolvedAt _)
  rw [dailyRow, dailyRow]
  exact congrArg (fun stats : RangeStats => ChatStatsDaily.mk stats chatId (startOfDay date)) stats

/-! ## The order of the tickets -/

/-- The rounded mean of the values is the same in whatever order they are added. -/
def OrderFree (values : List ℚ) : Prop :=
  ∀ values', values'.Perm values → average values' = average values

instance (values : List ℚ) : Decidable (OrderFree values) :=
  decidable_of_iff (∀ values' ∈ values.permutations, average values' = average values)
    (by simp only [OrderFree, List.mem_permutations])

/-- A new order changes no average of a day that is over: the seconds of its tickets come in
the order in which they came, or it does not matter. -/
def keepsAverages (r : Reporting) (rowOrder : RowOrder) : Prop :=
  ∀ stamp ∈ [Stamp.resolvedAt, .firstResponseAt], ∀ row ∈ r.world.tickets.rows,
    ∀ time ∈ stamp.of row.val, dayOf time < dayOf r.world.now →
      let seconds (rowOrder : RowOrder) := r.world.seconds (stamp.order rowOrder) row.val.chatId
        (startOfDay time) (addDays (startOfDay time) 1) stamp.of
      seconds rowOrder = seconds r.rowOrder ∨ OrderFree (seconds r.rowOrder)

instance (r : Reporting) (rowOrder : RowOrder) : Decidable (r.keepsAverages rowOrder) :=
  inferInstanceAs (Decidable (∀ stamp ∈ _, ∀ row ∈ _, ∀ time ∈ _, _ → _ ∨ _))

/-- What happens beside the requests changes no average of a day that is over. -/
def settles (r : Reporting) : Background → Prop
  | .reorder rowOrder => r.keepsAverages rowOrder
  | _ => True

instance (r : Reporting) : (background : Background) → Decidable (r.settles background)
  | .reorder rowOrder => inferInstanceAs (Decidable (r.keepsAverages rowOrder))
  | .pass _ | .aggregateDaily _ _ | .analyticsJob => instDecidableTrue

theorem average_reorder {rowOrder : RowOrder} (keeps : r.keepsAverages rowOrder) (chatId : ChatId)
    {date : Time} (finished : dayOf date < dayOf r.world.now) (stamp : Stamp)
    (averaged : stamp ∈ [Stamp.resolvedAt, .firstResponseAt]) :
    average (r.world.seconds (stamp.order rowOrder) chatId (startOfDay date)
        (addDays (startOfDay date) 1) stamp.of) =
      average (r.world.seconds (stamp.order r.rowOrder) chatId (startOfDay date)
        (addDays (startOfDay date) 1) stamp.of) := by
  have perm := r.world.seconds_perm (stamp.order rowOrder) (stamp.order r.rowOrder) chatId
    (startOfDay date) (addDays (startOfDay date) 1) stamp.of
  by_cases nothing : r.world.stamped chatId (startOfDay date) (addDays (startOfDay date) 1)
      stamp.of = []
  · rw [World.seconds_eq_map, World.seconds_eq_map, nothing]
    rfl
  · obtain ⟨entry, member⟩ := List.exists_mem_of_ne_nil _ nothing
    obtain ⟨row, listed, noted⟩ := List.mem_filterMap.mp member
    split at noted
    · next own =>
      obtain ⟨time, inside, -⟩ := Option.map_eq_some_iff.mp noted
      obtain ⟨found, inside⟩ := Option.filter_eq_some_iff.mp inside
      -- the day is the one of a stamp on one of its tickets
      have day : dayOf time = dayOf date := (within_day date time).mp inside
      have start : startOfDay time = startOfDay date := by rw [startOfDay, startOfDay, day]
      have kept := keeps stamp averaged row listed time found (day ▸ finished)
      rw [start, own] at kept
      rcases kept with same | free
      · exact congrArg average same
      · exact free _ perm
    · cases noted

/-- **So does the row of a day that is over.** -/
theorem dailyRow_reorder {rowOrder : RowOrder} (keeps : r.keepsAverages rowOrder) (chatId : ChatId)
    {date : Time} (finished : dayOf date < dayOf r.world.now) :
    (act (.reorder rowOrder) r).dailyRow chatId date = r.dailyRow chatId date := by
  have stats : r.world.computeStatsForRange rowOrder chatId (startOfDay date)
      (addDays (startOfDay date) 1) = r.world.computeStatsForRange r.rowOrder chatId
        (startOfDay date) (addDays (startOfDay date) 1) :=
    rangeStats_ext (fun kind => by rw [World.of_day, World.of_day]) rfl
      (average_reorder keeps chatId finished .firstResponseAt (by decide))
      (average_reorder keeps chatId finished .resolvedAt (by decide))
  rw [dailyRow, dailyRow]
  exact congrArg (fun stats : RangeStats => ChatStatsDaily.mk stats chatId (startOfDay date)) stats

/-! ## The row through a run -/

/-- The day is over, and its row would be this one. -/
structure Yields (chatId : ChatId) (date : Time) (row : ChatStatsDaily) (r : Reporting) : Prop where
  linked : r.world.Linked
  finished : dayOf date < dayOf r.world.now
  row : r.dailyRow chatId date = row

/-- And it is the one that is stored. -/
def Keeps (chatId : ChatId) (date : Time) (row : ChatStatsDaily) (r : Reporting) : Prop :=
  ∃ id, r.statsDaily.findKey? (chatId, startOfDay date) = some ⟨id, row⟩

variable {chatId : ChatId} {date : Time} {row : ChatStatsDaily}

theorem Yields.perform (yields : Yields chatId date row r) {c : Call}
    (settles : r.world.settles c = true) : Yields chatId date row (r.perform c).2 where
  linked := yields.linked.perform c
  finished := by
    rw [Reporting.perform, World.now_perform]
    exact yields.finished
  row := (dailyRow_perform yields.linked settles chatId yields.finished).trans yields.row

theorem Yields.pass (yields : Yields chatId date row r) (milliseconds : ℕ) :
    Yields chatId date row (act (.pass milliseconds) r) where
  linked := yields.linked.setNow _
  finished := yields.finished.trans_le (dayOf_mono (now_le_advance milliseconds r.world))
  row := yields.row

theorem Yields.reorder (yields : Yields chatId date row r) {rowOrder : RowOrder}
    (keeps : r.keepsAverages rowOrder) : Yields chatId date row (act (.reorder rowOrder) r) where
  linked := yields.linked
  finished := yields.finished
  row := (dailyRow_reorder keeps chatId yields.finished).trans yields.row

theorem Yields.aggregate (yields : Yields chatId date row r) {chatId' : ChatId} {date' : Time}
    (ok : r.aggregateDailyForChat chatId' date' = .ok r') : Yields chatId date row r' := by
  rw [aggregateDailyForChat_eq_ok ok]
  exact ⟨yields.linked, yields.finished, yields.row⟩

/-- Storing the row again stores the same one. -/
theorem Keeps.aggregate (keeps : Keeps chatId date row r) (yields : Yields chatId date row r)
    {chatId' : ChatId} {date' : Time} (ok : r.aggregateDailyForChat chatId' date' = .ok r') :
    Keeps chatId date row r' := by
  have keyed : (r.dailyRow chatId' date').key = some (chatId', startOfDay date') := rfl
  rw [aggregateDailyForChat_eq_ok ok]
  by_cases same : (chatId, startOfDay date) = (chatId', startOfDay date')
  · have again : r.dailyRow chatId' date' = row := by
      rw [← yields.row, dailyRow, dailyRow, (Prod.mk.inj same).1, (Prod.mk.inj same).2]
    refine ⟨r.statsDaily.idOf (chatId', startOfDay date'), ?_⟩
    rw [same, ← again]
    exact Table.findKey?_put_self keyed
  · obtain ⟨id, found⟩ := keeps
    exact ⟨id, Table.findKey?_put_of_ne keyed same found⟩

/-- What holds of the rows while nothing moves a stamp or changes an average of a day that is
over. -/
theorem settled_invariant {I : Reporting → Prop}
    (commands : ∀ c r, r.world.settles c = true → I r → I (r.perform c).2)
    (pass : ∀ milliseconds r, I r → I (act (.pass milliseconds) r))
    (reorder : ∀ rowOrder r, keepsAverages r rowOrder → I r → I (act (.reorder rowOrder) r))
    (one : ∀ r chatId date r', aggregateDailyForChat r chatId date = .ok r' → I r → I r')
    {pool : Reports} {schedule : List (Act Background)}
    (settled : pool.Meets (fun _ => Reporting.perform) act (fun _ c r => r.world.settles c = true)
      (fun background r => r.settles background) schedule) (holds : I pool.state) :
    I (pool.exec schedule).state := by
  refine Pool.invariant_exec (fun _ c r settles => commands c r settles) ?_ settled holds
  intro background r settles holds
  refine act_invariant pass one background ?_ holds
  rintro rowOrder rfl
  exact reorder rowOrder r settles holds

/-- **A day that is over keeps its row** while nothing moves a stamp or changes an average of
such a day. -/
theorem Yields.exec {pool : Reports} {schedule : List (Act Background)}
    (settled : pool.Meets (fun _ => Reporting.perform) act (fun _ c r => r.world.settles c = true)
      (fun background r => r.settles background) schedule)
    (yields : Yields chatId date row pool.state) :
    Yields chatId date row (pool.exec schedule).state :=
  settled_invariant (I := Yields chatId date row) (fun _ _ settles yields => yields.perform settles)
    (fun milliseconds _ yields => yields.pass milliseconds)
    (fun _ _ keeps yields => yields.reorder keeps)
    (fun _ _ _ _ ok yields => yields.aggregate ok) settled yields

theorem Keeps.exec {pool : Reports} {schedule : List (Act Background)}
    (settled : pool.Meets (fun _ => Reporting.perform) act (fun _ c r => r.world.settles c = true)
      (fun background r => r.settles background) schedule)
    (yields : Yields chatId date row pool.state)
    (keeps : Keeps chatId date row pool.state) :
    Keeps chatId date row (pool.exec schedule).state := by
  have both : Yields chatId date row (pool.exec schedule).state ∧
      Keeps chatId date row (pool.exec schedule).state :=
    settled_invariant (I := fun r => Yields chatId date row r ∧ Keeps chatId date row r)
      (fun _ _ settles holds => ⟨holds.1.perform settles, holds.2⟩)
      (fun milliseconds _ holds => ⟨holds.1.pass milliseconds, holds.2⟩)
      (fun _ _ keeps holds => ⟨holds.1.reorder keeps, holds.2⟩)
      (fun _ _ _ _ ok holds => ⟨holds.1.aggregate ok, holds.2.aggregate holds.1 ok⟩) settled
      ⟨yields, keeps⟩
  exact both.2

end Reporting

/-! ## Over whole runs -/

theorem Aggregates.finished {chatId : ChatId} {day : ℤ} {r : Reporting} {background : Background}
    (aggregates : Aggregates chatId day r background) : day < dayOf r.world.now := by
  cases background with
  | pass milliseconds => exact aggregates.elim
  | reorder rowOrder => exact aggregates.elim
  | aggregateDaily chatId' date => exact aggregates.2.2
  | analyticsJob =>
      have next : day + 1 = dayOf r.world.now := aggregates
      omega

end SupportCrm
