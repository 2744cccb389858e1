import Mathlib.Data.List.Sort
import Mathlib.Data.Rat.Floor
import SupportCrm.Library.Doubles
import SupportCrm.System

/-!
# Analytics

`AnalyticsService` counts the tickets and messages of a chat day by day. A background job
stores one row for a chat and a finished day (`aggregateDailyForChat`); the report sums the
stored rows of a range and counts the current day live (`getChatsAnalytics`). The controller
reads the range from a request and moves its end.

`Reporting` is the store with the table of the daily rows; in `Reports` the requests of the
system run over it, while time passes and the job is executed. The averages add doubles in the
order in which the database returns the tickets. No query asks for one, so it may change at
any time.
-/

set_option autoImplicit false

namespace SupportCrm

open KeyedTable AtomicProgram

/-! ## Days -/

/-- The UTC calendar day of a point in time, counted from 1970. -/
def dayOf (time : ℤ) : ℤ := time / 86400000

def startOfDay (date : ℤ) : ℤ := dayOf date * 86400000

def addDays (date days : ℤ) : ℤ := date + days * 86400000

/-- `endOfDay` of the controller. It is meant for a midnight, but adds to any time of day. -/
def endOfDay (date : ℤ) : ℤ := date + 24 * 60 * 60 * 1000 - 1

/-- `{ gte: start, lt: end }`. -/
def within (start stop time : ℤ) : Bool := start ≤ time && time < stop

/-! ## Rows -/

structure RangeStats where
  ticketsOpened : ℕ
  ticketsClosed : ℕ
  messagesIn : ℕ
  messagesOut : ℕ
  avgFirstResponseSec : Option ℤ
  avgResolutionSec : Option ℤ
  deriving DecidableEq, Repr

structure ChatStatsDaily extends RangeStats where
  chatId : ChatId
  date : Time
  deriving DecidableEq, Repr

/-- `@@id([chatId, date])`. -/
def ChatStatsDaily.key (row : ChatStatsDaily) : Option (ChatId × Time) :=
  some (row.chatId, row.date)

/-- The orders in which the database returns the tickets of the two averages; those that are
not named come last, as the table has them. -/
structure RowOrder where
  firstResponseTickets : List TicketId := []
  resolvedTickets : List TicketId := []
  deriving DecidableEq, Repr

/-- The store and the daily rows. `chatGroups` is the column `chatGroupId` of the chats, which
only the report reads. -/
structure Reporting where
  world : World
  chatGroups : ChatId → Option ChatGroupId
  statsDaily : Table ChatStatsDaily.key
  rowOrder : RowOrder

/-! ## The service -/

/-- The mean in doubles, rounded as `Math.round` does it. -/
def average (values : List ℚ) : Option ℤ :=
  if values = [] then none
  else some ⌊Doubles.ofRat (Doubles.sum values / values.length) + 1 / 2⌋

/-- `(end.getTime() - start.getTime()) / 1000`. -/
def secondsBetween (start stop : Time) : ℚ :=
  Doubles.ofRat (Doubles.ofRat (stop - start : ℤ) / 1000)

/-- The order of three tickets decides what their average is. -/
example : average ([700, 600, 200].map (secondsBetween 0)) = some 0 ∧
    average ([200, 600, 700].map (secondsBetween 0)) = some 1 := by
  decide +kernel

namespace World

/-- The tickets of a chat where a time noted on them lies in the range, in the order in which
the database has them. -/
def ticketsWithin (w : World) (order : List TicketId) (chatId : ChatId) (start stop : Time)
    (stamp : Ticket → Option Time) : List (Entry Ticket) :=
  (w.tickets.rows.filter fun row =>
    row.val.chatId = chatId && (stamp row.val).any (within start stop)).insertionSort
      fun row row' => order.idxOf row.id ≤ order.idxOf row'.id

/-- The seconds from the creation of a ticket to the time noted on it, for these tickets. -/
def seconds (w : World) (order : List TicketId) (chatId : ChatId) (start stop : Time)
    (stamp : Ticket → Option Time) : List ℚ :=
  (w.ticketsWithin order chatId start stop stamp).filterMap fun row =>
    (stamp row.val).map (secondsBetween row.val.createdAt)

def computeStatsForRange (w : World) (rowOrder : RowOrder) (chatId : ChatId)
    (start stop : Time) : RangeStats where
  ticketsOpened := (w.tickets.rows.filter fun row =>
    row.val.chatId = chatId && within start stop row.val.createdAt).length
  ticketsClosed := (w.tickets.rows.filter fun row =>
    row.val.chatId = chatId && row.val.closedAt.any (within start stop)).length
  messagesIn := (w.messages.rows.filter fun row =>
    w.inChat chatId row.val.ticketId && row.val.direction = .in &&
      within start stop row.val.createdAt).length
  messagesOut := (w.messages.rows.filter fun row =>
    w.inChat chatId row.val.ticketId && row.val.direction = .out &&
      within start stop row.val.createdAt).length
  avgFirstResponseSec := average
    (w.seconds rowOrder.firstResponseTickets chatId start stop Ticket.firstResponseAt)
  avgResolutionSec := average
    (w.seconds rowOrder.resolvedTickets chatId start stop Ticket.resolvedAt)

end World

/-- A chat of the report. -/
structure ChatAnalytics extends RangeStats where
  chatId : ChatId
  title : String
  backlog : ℕ
  deriving DecidableEq, Repr

structure AnalyticsRange where
  «from» : Time
  «to» : Time
  chatGroupId : Option ChatGroupId

namespace Reporting

/-- The row that the job stores for a chat and a day. -/
def dailyRow (r : Reporting) (chatId : ChatId) (date : Time) : ChatStatsDaily :=
  let dayStart := startOfDay date
  { r.world.computeStatsForRange r.rowOrder chatId dayStart (addDays dayStart 1) with
    chatId := chatId, date := dayStart }

/-- `AnalyticsService.aggregateDailyForChat`. The row refers to its chat. -/
def aggregateDailyForChat (r : Reporting) (chatId : ChatId) (date : Time) :
    Except Err Reporting :=
  if (r.world.chats.find? chatId).isNone then .error .foreignKeyConstraint
  else .ok { r with statsDaily := r.statsDaily.put (r.dailyRow chatId date) rfl }

/-- `AnalyticsService.aggregateAllChatsForDate`. -/
def aggregateAllChatsForDate (r : Reporting) (date : Time) : Except Err (ℕ × Reporting) := do
  let chats := r.world.chats.rows
  let r ← chats.foldlM (fun r chat => r.aggregateDailyForChat chat.id date) r
  return (chats.length, r)

/-- What `getChatsAnalytics` answers for one chat. -/
def chatAnalytics (r : Reporting) (params : AnalyticsRange) (chat : Entry Chat) :
    ChatAnalytics :=
  let todayStart := startOfDay r.world.now
  let storedRows := r.statsDaily.rows.filter fun row =>
    row.val.chatId = chat.id && startOfDay params.from ≤ row.val.date &&
      row.val.date < todayStart && row.val.date ≤ params.to
  let today := r.world.computeStatsForRange r.rowOrder chat.id todayStart (addDays todayStart 1)
  let rangesToSum := storedRows.map (fun row => row.val.toRangeStats) ++
    if todayStart ≤ params.to then [today] else []
  { chatId := chat.id
    title := chat.val.title
    ticketsOpened := (rangesToSum.map RangeStats.ticketsOpened).sum
    ticketsClosed := (rangesToSum.map RangeStats.ticketsClosed).sum
    messagesIn := (rangesToSum.map RangeStats.messagesIn).sum
    messagesOut := (rangesToSum.map RangeStats.messagesOut).sum
    avgFirstResponseSec := average ((rangesToSum.filterMap RangeStats.avgFirstResponseSec).map
      fun sec => (sec : ℚ))
    avgResolutionSec := average ((rangesToSum.filterMap RangeStats.avgResolutionSec).map
      fun sec => (sec : ℚ))
    backlog := (r.world.tickets.rows.filter fun row =>
      row.val.chatId = chat.id && row.val.status ∉ [.solved, .closed, .archived]).length }

/-- The chats of a group, or all. -/
def chatsOf (r : Reporting) (chatGroupId : Option ChatGroupId) : List (Entry Chat) :=
  r.world.chats.rows.filter fun chat => chatGroupId.all fun id => r.chatGroups chat.id = some id

/-- `AnalyticsService.getChatsAnalytics`. -/
def getChatsAnalytics (r : Reporting) (params : AnalyticsRange) : List ChatAnalytics :=
  (r.chatsOf params.chatGroupId).map (r.chatAnalytics params)

end Reporting

/-! ## The controller and the job -/

structure AnalyticsRangeQueryDto where
  «from» : String
  «to» : String
  chat_group : Option ChatGroupId

/-- `AnalyticsController.chats`. `newDate` is what `new Date` makes of a string; a string that
it cannot read gives an invalid date, which the first query of a chat refuses. -/
def AnalyticsController.chats (newDate : String → Option Time) (query : AnalyticsRangeQueryDto)
    (r : Reporting) : Option (List ChatAnalytics) :=
  match newDate query.from, newDate query.to with
  | some start, some stop => some (r.getChatsAnalytics ⟨start, endOfDay stop, query.chat_group⟩)
  | _, _ => if r.chatsOf query.chat_group = [] then some [] else none

/-- `AnalyticsAggregateProcessor.process`: aggregate the day before the clock's. -/
def AnalyticsAggregateProcessor.process (r : Reporting) : Except Err Reporting := do
  let yesterday := addDays r.world.now (-1)
  let (_, r) ← r.aggregateAllChatsForDate yesterday
  return r

/-! ## Running -/

/-- What happens beside the requests: time passes, the database comes to return its rows in
other orders, a day of a chat is aggregated, the job of the schedule is executed. -/
inductive Background where
  | pass (milliseconds : ℕ)
  | reorder (rowOrder : RowOrder)
  | aggregateDaily (chatId : ChatId) (date : Time)
  | analyticsJob
  deriving DecidableEq, Repr

namespace Reporting

/-- An aggregation that fails leaves the rows as they were. -/
def act : Background → Reporting → Reporting
  | .pass milliseconds, r => { r with world := r.world.advance milliseconds }
  | .reorder rowOrder, r => { r with rowOrder := rowOrder }
  | .aggregateDaily chatId date, r => (r.aggregateDailyForChat chatId date).toOption.getD r
  | .analyticsJob, r => (AnalyticsAggregateProcessor.process r).toOption.getD r

/-- A command of a request leaves the rows alone. -/
def perform (c : Call) (r : Reporting) : Except Err c.Resp × Reporting :=
  ((r.world.perform c).1, { r with world := (r.world.perform c).2 })

end Reporting

/-- The requests under way, over the store with the daily rows. -/
abbrev Reports := Pool Call Call.Resp Err Unit Reporting

/-- The requests at their beginning, with no daily row yet. -/
def Reports.start (config : Config) (requests : List Request) (w : World)
    (chatGroups : ChatId → Option ChatGroupId) (rowOrder : RowOrder := {}) : Reports :=
  ⟨requests.map (Request.program config), ⟨w, chatGroups, .empty, rowOrder⟩⟩

/-- The reports after a schedule of steps. -/
abbrev Reports.exec (pool : Reports) (schedule : List (Act Background)) : Reports :=
  Pool.exec (fun _ => Reporting.perform) Reporting.act pool schedule

end SupportCrm
