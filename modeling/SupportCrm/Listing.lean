import SupportCrm.Browsing

/-!
# The whole list, page by page

Somebody follows the cursors of `TicketsService.list` while nothing changes. There is one such
sequence of pages, it ends, and it shows the tickets that meet the filter: all of them, once, in
the order of the list (`inbox_paged`).
-/

set_option autoImplicit false

namespace SupportCrm

open KeyedTable CursorPaging

/-- The pages of somebody who follows the cursors to the end, from a cursor on. -/
inductive Pages (s : Inbox) (query : ListTicketsQueryDto) :
    Option TicketId → List TicketPage → Prop where
  | last {cursor : Option TicketId} {page : TicketPage}
      (listed : TicketsService.list s { query with cursor := cursor } = .ok page)
      (ends : page.next_cursor = none) : Pages s query cursor [page]
  | more {cursor : Option TicketId} {next : TicketId} {page page' : TicketPage}
      {pages : List TicketPage}
      (listed : TicketsService.list s { query with cursor := cursor } = .ok page)
      (goes : page.next_cursor = some next) (rest : Pages s query (some next) (page' :: pages)) :
      Pages s query cursor (page :: page' :: pages)

namespace Pages

variable {s : Inbox} {query : ListTicketsQueryDto} {cursor : Option TicketId}
variable {pages pages' : List TicketPage}

theorem walk (walked : Pages s query cursor pages) :
    Walk Entry.id query.limit cursor (pages.map (Inbox.visit query s)) := by
  induction walked with
  | last listed ends => exact .last (Inbox.visit_answers listed) ends
  | more listed goes rest ih => exact .more (Inbox.visit_answers listed) goes ih

/-- The cursors lead one way. -/
theorem unique (walked : Pages s query cursor pages) (walked' : Pages s query cursor pages') :
    pages' = pages := by
  induction walked generalizing pages' with
  | last listed ends =>
      cases walked' with
      | last listed' ends' =>
          cases listed.symm.trans listed'
          rfl
      | more listed' goes' rest' =>
          cases listed.symm.trans listed'
          exact nomatch ends.symm.trans goes'
  | more listed goes rest ih =>
      cases walked' with
      | last listed' ends' =>
          cases listed.symm.trans listed'
          exact nomatch goes.symm.trans ends'
      | more listed' goes' rest' =>
          cases listed.symm.trans listed'
          cases goes.symm.trans goes'
          rw [ih rest']

end Pages

namespace Inbox

variable {s : Inbox} {query : ListTicketsQueryDto}

/-- Whether the database accepts a request does not depend on the cursor. -/
theorem listed_of_listed (answered : ∃ page, TicketsService.list s query = .ok page)
    (cursor : Option TicketId) :
    ∃ page, TicketsService.list s { query with cursor := cursor } = .ok page := by
  obtain ⟨page, listed⟩ := answered
  have accepts : s.accepts query = true := accepts_of_listed listed
  have moved : s.accepts { query with cursor := cursor } = true := accepts
  obtain ⟨page', listed', -⟩ := list_ok moved
  exact ⟨page', listed'⟩

/-- **Following the cursors ends**: every page leaves less behind its cursor. -/
theorem exists_pages (answered : ∃ page, TicketsService.list s query = .ok page)
    (cursor : Option TicketId) : ∃ pages, Pages s query cursor pages := by
  generalize left : (CursorPaging.after Entry.id cursor (s.selection query)).length = n
  induction n using Nat.strong_induction_on generalizing cursor with
  | _ n ih =>
      obtain ⟨page, listed⟩ := listed_of_listed answered cursor
      cases goes : page.next_cursor with
      | none => exact ⟨[page], .last listed goes⟩
      | some next =>
          have less := (visit_answers listed).length_after_lt query.limit_range.1
            (s.ids_selection query) goes
          obtain ⟨pages, rest⟩ := ih _ (left ▸ less) (some next) rfl
          cases rest with
          | last listed' ends => exact ⟨_, .more listed goes (.last listed' ends)⟩
          | more listed' goes' rest' => exact ⟨_, .more listed goes (.more listed' goes' rest')⟩

theorem selection_sorted (s : Inbox) (query : ListTicketsQueryDto) :
    (s.selection query).Pairwise fun a b => b.val.updatedAt ≤ a.val.updatedAt :=
  (List.pairwise_insertionSort _ s.world.tickets.rows).filter _

end Inbox

/-- **Paging over an unchanging inbox is exact.** Whatever the filter and the limit, once the
database has accepted the filter, the cursors lead through one finite sequence of pages. All but
the last have as many tickets as the limit says, and together they are the tickets that meet the
filter, each once, the last modified first. -/
theorem inbox_paged (s : Inbox) (query : ListTicketsQueryDto)
    (answered : ∃ page, TicketsService.list s query = .ok page) :
    ∃ pages, Pages s query none pages ∧
      (∀ pages', Pages s query none pages' → pages' = pages) ∧
      (∀ page ∈ pages.dropLast, page.data.length = query.limit) ∧
      ∃ tickets, (pages.flatMap fun page => page.data.map TicketView.ticket) = tickets ∧
        tickets = s.selection query ∧ (tickets.map Entry.id).Nodup ∧
        tickets.Pairwise (fun a b => b.val.updatedAt ≤ a.val.updatedAt) ∧
        ∀ row, row ∈ tickets ↔ row ∈ s.world.tickets.rows ∧ s.selects query row = true := by
  obtain ⟨pages, walked⟩ := Inbox.exists_pages answered none
  obtain ⟨shown, full⟩ := walked.walk.still query.limit_range.1 (s.ids_selection query)
    (List.forall_mem_map.mpr fun _ _ => rfl)
  refine ⟨pages, walked, fun _ => walked.unique, ?_, s.selection query, ?_, rfl,
    s.ids_selection query, s.selection_sorted query, fun row => Inbox.mem_selection_iff⟩
  · intro page member
    rw [← List.map_dropLast, List.forall_mem_map] at full
    exact (List.length_map _).symm.trans (full page member)
  · rw [List.flatMap_map] at shown
    exact shown

/-- The open tickets of the store, two on a page. -/
def Walks.byTwo : ListTicketsQueryDto := { status := some .open, limit := 2 }

set_option maxRecDepth 8000 in
/-- Three tickets are a full page and one with what is left. -/
theorem three_tickets_on_two_pages : ∃ pages,
    Pages (Walks.inbox Walks.store) Walks.byTwo none pages ∧
      (pages.map fun page => page.data.map (·.ticket.id)) = [[0, 1], [2]] ∧
      (pages.flatMap fun page => page.data.map TicketView.ticket) =
        (Walks.inbox Walks.store).selection Walks.byTwo := by
  have walked : Pages (Walks.inbox Walks.store) Walks.byTwo none [_, _] :=
    .more rfl rfl (.last rfl rfl)
  obtain ⟨pages, -, only, -, tickets, shown, all, -⟩ :=
    inbox_paged (Walks.inbox Walks.store) Walks.byTwo ⟨_, rfl⟩
  rw [← only _ walked] at shown
  exact ⟨_, walked, by decide, shown.trans all⟩

end SupportCrm
