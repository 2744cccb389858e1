import Mathlib.Data.String.Basic
import SupportCrm.Analytics
import SupportCrm.Library.Buckets

/-!
# The directory of chats

`ChatsService.directory` lists chats with their backlog and the number of their tickets. It asks
the database once for the tickets of all listed chats, grouped by chat and status, and adds up
the groups of each chat; the report of `AnalyticsService` counts the backlog of a chat directly.
A group without tickets is absent from the answer, and the groups come in any order. The two
figures agree (`backlogs_agree`).
-/

set_option autoImplicit false

namespace SupportCrm

open KeyedTable Buckets

/-! ## Grouped tickets -/

/-- A row of `ticket.groupBy({ by: ['chatId', 'status'], _count: true })`. -/
abbrev TicketStat := (ChatId × TicketStatus) × ℕ

namespace TicketStat

def chatId (stat : TicketStat) : ChatId := stat.1.1

def status (stat : TicketStat) : TicketStatus := stat.1.2

def _count (stat : TicketStat) : ℕ := stat.2

end TicketStat

namespace World

/-- `where: { chatId: { in: chatIds } }`. -/
def ticketsOf (w : World) (chatIds : List ChatId) : List (Entry Ticket) :=
  w.tickets.rows.filter fun row => row.val.chatId ∈ chatIds

/-- What the database may answer for some chats: one row for each chat and status that occur, in
any order. -/
abbrev TicketGroupBy (w : World) (chatIds : List ChatId) :=
  GroupBy (w.ticketsOf chatIds) fun row => (row.val.chatId, row.val.status)

end World

/-! ## The service -/

structure DirectoryParams where
  chatGroupId : Option ChatGroupId := none
  q : Option String := none

/-- `{ ...chat, backlog, ticketsTotal }`, with the group of the chat. -/
structure ChatListing where
  chat : Entry Chat
  chatGroup : Option ChatGroupId
  backlog : ℕ
  ticketsTotal : ℕ
  deriving DecidableEq, Repr

namespace ChatsService

/-- The chats of a group, or all, with a text in their title, or all; by title. -/
def findMany (r : Reporting) (ilike : String → String → Bool) (params : DirectoryParams) :
    List (Entry Chat) :=
  (r.world.chats.rows.filter fun chat =>
    params.chatGroupId.all (fun id => r.chatGroups chat.id = some id) &&
      (params.q.filter (· ≠ "")).all (ilike chat.val.title ·)).insertionSort
        fun a b => a.val.title ≤ b.val.title

/-- What `directory` makes of one chat. -/
def listing (r : Reporting) (stats : List TicketStat) (chat : Entry Chat) : ChatListing :=
  let chatStats := stats.filter fun s => s.chatId = chat.id
  let «open» := ((chatStats.filter fun s =>
    s.status ≠ .closed && s.status ≠ .solved && s.status ≠ .archived).map TicketStat._count).sum
  let total := (chatStats.map TicketStat._count).sum
  ⟨chat, r.chatGroups chat.id, «open», total⟩

/-- `ChatsService.directory`, where `database` answers the grouped query and `ilike` tells whether
a text contains another without regard to case. -/
def directory (r : Reporting) (ilike : String → String → Bool)
    (database : (chatIds : List ChatId) → r.world.TicketGroupBy chatIds)
    (params : DirectoryParams) : List ChatListing :=
  let chats := findMany r ilike params
  chats.map (listing r (database (chats.map Entry.id)).stats)

end ChatsService

/-! ## The two figures -/

/-- The groups of a chat with some statuses add up to its tickets with these statuses. -/
theorem World.sum_count {w : World} {chatIds : List ChatId} (database : w.TicketGroupBy chatIds)
    {chatId : ChatId} (listed : chatId ∈ chatIds) (p : TicketStatus → Bool) :
    (((database.stats.filter fun s : TicketStat => s.chatId = chatId).filter
        fun s : TicketStat => p s.status).map TicketStat._count).sum =
      w.tickets.rows.countP fun row => row.val.chatId = chatId ∧ p row.val.status = true := by
  rw [List.filter_filter]
  refine (database.sum_filter fun group => p group.2 && group.1 = chatId).trans ?_
  rw [World.ticketsOf, List.countP_filter]
  refine List.countP_congr fun row _ => ?_
  simp only [Bool.and_eq_true, decide_eq_true_eq]
  constructor
  · rintro ⟨⟨status, own⟩, -⟩
    exact ⟨own, status⟩
  · rintro ⟨own, status⟩
    exact ⟨⟨status, own⟩, own ▸ listed⟩

section

variable {r : Reporting} {chatIds : List ChatId}

/-- The groups that `directory` counts as open are the tickets that the report counts. -/
theorem backlog_listing (database : r.world.TicketGroupBy chatIds) {chat : Entry Chat}
    (listed : chat.id ∈ chatIds) (range : AnalyticsRange) :
    (ChatsService.listing r database.stats chat).backlog =
      (r.chatAnalytics range chat).backlog := by
  refine (World.sum_count database listed fun status =>
    status ≠ .closed && status ≠ .solved && status ≠ .archived).trans ?_
  rw [Reporting.chatAnalytics, ← List.countP_eq_length_filter]
  refine List.countP_congr fun row _ => ?_
  cases row.val.status <;> simp

/-- All groups of a chat are its open tickets and its ended ones. -/
theorem ticketsTotal_listing (database : r.world.TicketGroupBy chatIds) {chat : Entry Chat}
    (listed : chat.id ∈ chatIds) :
    (ChatsService.listing r database.stats chat).ticketsTotal =
      (ChatsService.listing r database.stats chat).backlog +
        r.world.tickets.rows.countP fun row =>
          row.val.chatId = chat.id && row.val.status ∈ [.solved, .closed, .archived] := by
  have total := World.sum_count database listed fun _ => true
  rw [List.filter_true] at total
  refine total.trans ?_
  rw [ChatsService.listing]
  simp only
  rw [World.sum_count database listed fun status =>
    status ≠ .closed && status ≠ .solved && status ≠ .archived,
    List.countP_eq_countP_filter_add r.world.tickets.rows _ fun row =>
      row.val.status ∉ [.solved, .closed, .archived], List.countP_filter, List.countP_filter]
  refine congrArg₂ (· + ·) (List.countP_congr fun row _ => ?_) (List.countP_congr fun row _ => ?_)
  · cases row.val.status <;> simp
  · cases row.val.status <;> simp

end

/-- **The two backlog figures agree.** Whatever the store is, and whichever chats are asked for by
their group and title, the backlog of each listed chat is the one of the report, and together with
the solved, closed and archived tickets of the chat it is their total. -/
theorem backlogs_agree (r : Reporting) (ilike : String → String → Bool)
    (database : (chatIds : List ChatId) → r.world.TicketGroupBy chatIds)
    (params : DirectoryParams) (range : AnalyticsRange) :
    ∀ listing ∈ ChatsService.directory r ilike database params,
      listing.backlog = (r.chatAnalytics range listing.chat).backlog ∧
        (∀ row ∈ r.getChatsAnalytics range, row.chatId = listing.chat.id →
          row.backlog = listing.backlog) ∧
        listing.ticketsTotal = listing.backlog + r.world.tickets.rows.countP fun row =>
          row.val.chatId = listing.chat.id && row.val.status ∈ [.solved, .closed, .archived] := by
  intro listing listed
  obtain ⟨chat, found, rfl⟩ := List.mem_map.mp listed
  have asked := List.mem_map_of_mem (f := Entry.id) found
  have backlog := backlog_listing (database _) asked range
  refine ⟨backlog, fun row reported same => ?_, ticketsTotal_listing (database _) asked⟩
  obtain ⟨chat', stored, rfl⟩ := List.mem_map.mp reported
  have own : chat' = chat := by
    refine Table.eq_of_id_eq (List.mem_of_mem_filter stored) ?_ same
    exact List.mem_of_mem_filter ((List.mem_insertionSort _).mp found)
  rw [own]
  exact backlog.symm

/-! Three chats, two of them in one group. -/

/-- The first chat has an open ticket and a closed one, the second has none, and the third is in
no group. -/
def Reporting.threeChats : Reporting where
  world := { World.initial 0 (fun n => 1000 + n) with
    chats := ((Table.empty.insert { telegramChatId := -5, title := "support" } (by decide)).insert
      { telegramChatId := -6, title := "sales" } (by decide)).insert
        { telegramChatId := -7, title := "billing" } (by decide)
    tickets := ((Table.empty.insert
      (NewTicket.row ⟨0, 0, 1, none, none, none⟩ 1) Ticket.free).insert
        { NewTicket.row ⟨0, 0, 2, none, none, none⟩ 1 with status := .closed } Ticket.free).insert
          (NewTicket.row ⟨2, 0, 3, none, none, none⟩ 1) Ticket.free }
  chatGroups id := if id < 2 then some 0 else none
  statsDaily := .empty
  rowOrder := {}

set_option maxRecDepth 4000 in
/-- The directory of the group: the chat without tickets comes first, with zeros. -/
theorem group_listed :
    let listings := ChatsService.directory .threeChats (fun _ _ => false)
      (fun _ => .inOrder _ _) { chatGroupId := some 0 }
    listings.map (fun listing => (listing.chat.id, listing.backlog, listing.ticketsTotal)) =
        [(1, 0, 0), (0, 1, 2)] ∧
      (Reporting.threeChats.getChatsAnalytics ⟨0, 0, none⟩).map
        (fun row => (row.chatId, row.backlog)) = [(0, 1), (1, 0), (2, 1)] ∧
      ∀ listing ∈ listings, listing.backlog =
        (Reporting.threeChats.chatAnalytics ⟨0, 0, none⟩ listing.chat).backlog := by
  refine ⟨by decide, by decide, fun listing listed => ?_⟩
  exact (backlogs_agree .threeChats (fun _ _ => false)
    (fun _ => .inOrder _ _) { chatGroupId := some 0 } ⟨0, 0, none⟩
    listing listed).1

end SupportCrm
