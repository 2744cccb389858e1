import SupportCrm.Inbox
import SupportCrm.Library.Paging
import SupportCrm.System

/-!
# Browsing the inbox

Somebody follows the cursors of `TicketsService.list` from the first page to the last, while
other requests are served. The list is ordered by the time of the last modification, and a
cursor is the identifier of a ticket that those requests may modify.

`browsing_shows_once`: a ticket that is not modified and meets the filter is on exactly one
page if every cursor keeps its place: when it is used, the ticket comes after it exactly if
it did when the cursor was handed out. A cursor whose ticket is not modified and still meets
the filter keeps its place (`Browses.keeps_places`). One whose ticket no longer meets the filter
ends the list.
-/

set_option autoImplicit false

namespace SupportCrm

open KeyedTable AtomicProgram CursorPaging

/-! ## The order of the list -/

namespace Inbox

/-- The ticket meets the filter of the query. -/
def selects (s : Inbox) (query : ListTicketsQueryDto) (row : Entry Ticket) : Bool :=
  let condition := query.ticketWhere (TicketsService.savedFilter s query)
  s.meets condition (condition.status.bind StatusFilter.statuses?) row

/-- The tickets that meet the filter, in the order of the list. -/
def selection (s : Inbox) (query : ListTicketsQueryDto) : List (Entry Ticket) :=
  s.ordered.filter (s.selects query)

/-- The first ticket comes before the second in the list: it was modified later, or at the same
time and created earlier. -/
def precedes (s : Inbox) (a b : Entry Ticket) : Bool :=
  b.val.updatedAt ≤ a.val.updatedAt && (b.val.updatedAt < a.val.updatedAt ||
    Before (s.world.tickets.rows.map Entry.id) a.id b.id)

/-- The ticket comes after the one that the cursor names, which meets the filter. -/
def follows (s : Inbox) (query : ListTicketsQueryDto) (cursor : TicketId) (x : Entry Ticket) :
    Bool :=
  (s.world.tickets.find? cursor).any fun row => s.selects query row && s.precedes row x

variable {s : Inbox} {query : ListTicketsQueryDto} {a b x : Entry Ticket}

theorem precedes_iff (left : a ∈ s.world.tickets.rows) (right : b ∈ s.world.tickets.rows) :
    s.precedes a b = true ↔ b.val.updatedAt ≤ a.val.updatedAt ∧
      (a.val.updatedAt ≤ b.val.updatedAt → Before s.world.tickets.rows a b) := by
  rw [precedes, Bool.and_eq_true, Bool.or_eq_true, decide_eq_true_eq, decide_eq_true_eq,
    decide_eq_true_eq, before_map_iff s.world.tickets.ids left right, ← not_le,
    imp_iff_not_or]

theorem mem_selection_iff :
    x ∈ s.selection query ↔ x ∈ s.world.tickets.rows ∧ s.selects query x = true := by
  rw [selection, List.mem_filter, ordered, List.mem_insertionSort]

theorem ids_ordered (s : Inbox) : (s.ordered.map Entry.id).Nodup :=
  ((List.perm_insertionSort _ _).map Entry.id).nodup_iff.mpr s.world.tickets.ids

theorem ids_selection (s : Inbox) (query : ListTicketsQueryDto) :
    ((s.selection query).map Entry.id).Nodup :=
  s.ids_ordered.sublist (List.filter_sublist.map Entry.id)

theorem before_selection_iff (left : a ∈ s.world.tickets.rows) (right : b ∈ s.world.tickets.rows) :
    Before (s.selection query) a b ↔
      s.selects query a = true ∧ s.selects query b = true ∧ s.precedes a b = true := by
  rw [selection, before_filter_iff, ordered,
    before_insertionSort_iff s.world.tickets.ids.of_map left right, precedes_iff left right]

/-- What a request finds after its cursor. -/
theorem mem_after_selection_iff {cursor : TicketId} (stored : x ∈ s.world.tickets.rows)
    (selected : s.selects query x = true) :
    x ∈ CursorPaging.after Entry.id (some cursor) (s.selection query) ↔
      s.follows query cursor x = true := by
  rw [mem_after_iff]
  constructor
  · rintro ⟨row, rfl, before⟩
    have listed := (mem_selection_iff.mp before.left).1
    obtain ⟨chosen, -, precedes⟩ := (before_selection_iff listed stored).mp before
    rw [follows, Table.find?_self listed]
    simp [chosen, precedes]
  · intro follows
    obtain ⟨row, found, behind⟩ := (Option.any_eq_true _ _).mp follows
    obtain ⟨chosen, precedes⟩ := Bool.and_eq_true_iff.mp behind
    exact ⟨row, Table.id_of_find? found,
      (before_selection_iff (Table.mem_of_find? found) stored).mpr ⟨chosen, selected, precedes⟩⟩

/-! ## Pages -/

/-- A page as a visit to the selection. -/
def visit (query : ListTicketsQueryDto) (s : Inbox) (page : TicketPage) :
    Visit (Entry Ticket) TicketId :=
  ⟨s.selection query, page.data.map TicketView.ticket, page.next_cursor⟩

/-- What the database returns. -/
theorem findMany_of_ok {condition : TicketWhere} {cursor : Option TicketId} {take : ℕ}
    {items : List (Entry Ticket)} (found : s.findMany condition cursor take = .ok items) :
    items = (s.following condition (condition.status.bind StatusFilter.statuses?) cursor).take
      take := by
  unfold findMany at found
  cases status : condition.status with
  | none =>
      rw [status] at found
      exact (Except.ok.inj found).symm
  | some status' =>
      rw [status, Option.map_some] at found
      cases statuses : status'.statuses? with
      | none =>
          rw [statuses] at found
          cases found
      | some statuses' =>
          rw [statuses] at found
          rw [Option.bind_some, statuses]
          exact (Except.ok.inj found).symm

theorem after_eq (cursor : Option TicketId) (tickets : List (Entry Ticket)) :
    Inbox.after cursor tickets = CursorPaging.after Entry.id cursor tickets := by
  cases cursor <;> rfl

/-- **A page shows the first tickets after its cursor, and the last of them is the next cursor if
there are more.** -/
theorem visit_answers {cursor : Option TicketId} {page : TicketPage}
    (listed : TicketsService.list s { query with cursor := cursor } = .ok page) :
    (visit query s page).Answers Entry.id query.limit cursor := by
  unfold TicketsService.list at listed
  obtain ⟨items, found, same⟩ := World.bind_eq_ok_iff.mp listed
  cases same
  have items_eq := findMany_of_ok found
  change items = (Inbox.after cursor (s.selection query)).take (query.limit + 1) at items_eq
  rw [after_eq] at items_eq
  generalize rest : CursorPaging.after Entry.id cursor (s.selection query) = left at items_eq
  have more : query.limit < items.length ↔ query.limit < left.length := by
    rw [items_eq, List.length_take]
    omega
  have shown : (if query.limit < items.length then items.take query.limit else items) =
      left.take query.limit := by
    rw [items_eq, List.length_take]
    split
    · rw [List.take_take, min_eq_left (Nat.le_succ _)]
    · rw [List.take_of_length_le (by omega), List.take_of_length_le (by omega)]
  have tickets : (visit query s (TicketsService.page s items query.limit)).shown =
      left.take query.limit := by
    change List.map TicketView.ticket (List.map s.world.ticketView _) = _
    rw [List.map_map, shown]
    exact List.map_id _
  constructor
  · rw [tickets]
    exact congrArg (List.take query.limit) rest.symm
  · rw [tickets]
    change (if query.limit < items.length then _ else none) =
      if query.limit < (CursorPaging.after Entry.id cursor (s.selection query)).length then _ else _
    rw [rest, shown]
    simp only [more]

/-- The database accepts the statuses of the query: its own, or those that its view stores. -/
def accepts (s : Inbox) (query : ListTicketsQueryDto) : Bool :=
  (query.ticketWhere (TicketsService.savedFilter s query)).status.all (·.statuses?.isSome)

theorem accepts_of_listed {page : TicketPage} (listed : TicketsService.list s query = .ok page) :
    s.accepts query = true := by
  obtain ⟨items, found, -⟩ := World.bind_eq_ok_iff.mp listed
  unfold findMany at found
  unfold accepts
  cases filter : (query.ticketWhere (TicketsService.savedFilter s query)).status with
  | none => rfl
  | some status =>
      rw [filter, Option.map_some] at found
      cases valid : status.statuses? with
      | none =>
          rw [valid] at found
          cases found
      | some statuses => simp [valid]

/-- The page that a request gets. -/
theorem list_ok (accepts : s.accepts query = true) :
    ∃ page, TicketsService.list s query = .ok page ∧
      page.data = ((CursorPaging.after Entry.id query.cursor (s.selection query)).take
        query.limit).map s.world.ticketView := by
  have found : ∃ items, s.findMany (query.ticketWhere (TicketsService.savedFilter s query))
      query.cursor (query.limit + 1) = .ok items := by
    unfold Inbox.accepts at accepts
    unfold findMany
    cases filter : (query.ticketWhere (TicketsService.savedFilter s query)).status with
    | none => exact ⟨_, rfl⟩
    | some status =>
        rw [filter, Option.all_some] at accepts
        obtain ⟨statuses, valid⟩ := Option.isSome_iff_exists.mp accepts
        rw [Option.map_some, valid]
        exact ⟨_, rfl⟩
  obtain ⟨items, found⟩ := found
  have listed : TicketsService.list s query = .ok (TicketsService.page s items query.limit) :=
    World.bind_eq_ok_iff.mpr ⟨items, found, rfl⟩
  refine ⟨_, listed, ?_⟩
  have shown : (TicketsService.page s items query.limit).data.map TicketView.ticket =
      (CursorPaging.after Entry.id query.cursor (s.selection query)).take query.limit :=
    (visit_answers listed).shown
  rw [← shown, TicketsService.page, List.map_map, List.map_map]
  rfl

end Inbox

/-! ## Following the cursors -/

/-- The page names the ticket. -/
def TicketPage.shows (page : TicketPage) (id : TicketId) : Bool :=
  page.data.any fun view => view.ticket.id = id

/-- The page requests of somebody who follows the cursors to the end, each with the store that it
reads and the page that it gets. Steps of the other requests stand between any two of them. The
schedule is what they have done before the first one. -/
inductive Browses (config : Config) (requests : List Request) (w : World)
    (query : ListTicketsQueryDto) :
    List (Act ℕ) → Option TicketId → List (Inbox × TicketPage) → Prop where
  | last {schedule : List (Act ℕ)} {cursor : Option TicketId} {s : Inbox} {page : TicketPage}
      (reads : s.world = w.after config requests schedule)
      (listed : TicketsService.list s { query with cursor := cursor } = .ok page)
      (ends : page.next_cursor = none) : Browses config requests w query schedule cursor [(s, page)]
  | more {schedule : List (Act ℕ)} (steps : List (Act ℕ)) {cursor : Option TicketId}
      {next : TicketId} {s : Inbox} {page : TicketPage} {visit : Inbox × TicketPage}
      {visits : List (Inbox × TicketPage)}
      (reads : s.world = w.after config requests schedule)
      (listed : TicketsService.list s { query with cursor := cursor } = .ok page)
      (goes : page.next_cursor = some next)
      (rest : Browses config requests w query (schedule ++ steps) (some next) (visit :: visits)) :
      Browses config requests w query schedule cursor ((s, page) :: visit :: visits)

namespace Browses

variable {config : Config} {requests : List Request} {w : World} {query : ListTicketsQueryDto}
variable {schedule : List (Act ℕ)} {cursor : Option TicketId} {visits : List (Inbox × TicketPage)}

theorem walk (browses : Browses config requests w query schedule cursor visits) :
    Walk Entry.id query.limit cursor (visits.map fun v => Inbox.visit query v.1 v.2) := by
  induction browses with
  | last reads listed ends => exact .last (Inbox.visit_answers listed) ends
  | more steps reads listed goes rest ih => exact .more (Inbox.visit_answers listed) goes ih

/-- Every page shows tickets of the selection. -/
theorem shown_subset (browses : Browses config requests w query schedule cursor visits) :
    ∀ v ∈ visits, ∀ view ∈ v.2.data, view.ticket ∈ v.1.selection query := by
  have one {s : Inbox} {page : TicketPage} {cursor : Option TicketId}
      (listed : TicketsService.list s { query with cursor := cursor } = .ok page) :
      ∀ view ∈ page.data, view.ticket ∈ s.selection query :=
    fun _ member => (Inbox.visit_answers listed).shown_subset (List.mem_map_of_mem member)
  induction browses with
  | last reads listed ends => simpa using one listed
  | more steps reads listed goes rest ih => exact List.forall_mem_cons.mpr ⟨one listed, ih⟩

theorem shows_iff (browses : Browses config requests w query schedule cursor visits)
    {v : Inbox × TicketPage} (member : v ∈ visits) {x : Entry Ticket}
    (stored : x ∈ v.1.world.tickets.rows) :
    v.2.shows x.id = true ↔ x ∈ (Inbox.visit query v.1 v.2).shown := by
  rw [TicketPage.shows, List.any_eq_true]
  constructor
  · rintro ⟨view, listed, same⟩
    have selected := Inbox.mem_selection_iff.mp (browses.shown_subset v member view listed)
    have own := Table.eq_of_id_eq selected.1 stored (of_decide_eq_true same)
    exact List.mem_map.mpr ⟨view, listed, own⟩
  · intro listed
    obtain ⟨view, listed, own⟩ := List.mem_map.mp listed
    exact ⟨view, listed, decide_eq_true (congrArg Entry.id own)⟩

end Browses

/-! ## Cursors that keep their places -/

/-- The tickets that there are keep their order of creation. -/
theorem World.ids_perform (w : World) (c : Call) : (w.tickets.rows.map Entry.id).Sublist
    ((w.perform c).2.tickets.rows.map Entry.id) := by
  rcases w.tickets_perform c with same | ⟨data, -, same⟩ | ⟨id, data, -, same⟩
  · rw [same]
  · rw [same, Table.insert_rows, List.map_append]
    exact List.sublist_append_left _ _
  · rw [same, Table.update_rows, Entry.ids_change]

theorem World.ids_after (w : World) (config : Config) (requests : List Request)
    (schedule steps : List (Act ℕ)) :
    ((w.after config requests schedule).tickets.rows.map Entry.id).Sublist
      ((w.after config requests (schedule ++ steps)).tickets.rows.map Entry.id) := by
  rw [World.after_append]
  exact Pool.invariant_exec (E := World.advance) (P := fun _ _ _ => True) (N := fun _ _ => True)
    (I := fun v : World => List.Sublist ((w.after config requests schedule).tickets.rows.map
      Entry.id) (v.tickets.rows.map Entry.id))
    (fun _ c v _ kept => kept.trans (v.ids_perform c)) (fun _ _ _ kept => kept)
    (Pool.meets_of_forall (fun _ _ _ => trivial) (fun _ _ => trivial) _ _) (List.Sublist.refl _)

/-- Two tickets that are not modified stay in the same order. -/
theorem Inbox.follows_of_unmodified {config : Config} {requests : List Request} {w : World}
    {query : ListTicketsQueryDto} {schedule steps : List (Act ℕ)} {s s' : Inbox}
    (reads : s.world = w.after config requests schedule)
    (reads' : s'.world = w.after config requests (schedule ++ steps)) {cursor : TicketId}
    {row x : Entry Ticket}
    (found : s.world.tickets.find? cursor = some row)
    (found' : s'.world.tickets.find? cursor = some row)
    (selected : s.selects query row = true) (selected' : s'.selects query row = true)
    (stored : x ∈ s.world.tickets.rows) :
    s'.follows query cursor x = s.follows query cursor x := by
  have longer := w.ids_after config requests schedule steps
  rw [← reads, ← reads'] at longer
  have order := before_iff_of_sublist longer s'.world.tickets.ids
    (List.mem_map_of_mem (Table.mem_of_find? found)) (List.mem_map_of_mem (f := Entry.id) stored)
  simp only [follows, found, found', Option.any_some, selected, selected', Bool.true_and, precedes,
    order]

namespace Browses

variable {config : Config} {requests : List Request} {w : World} {query : ListTicketsQueryDto}
variable {schedule : List (Act ℕ)} {cursor : Option TicketId} {visits : List (Inbox × TicketPage)}

theorem reads_first {v : Inbox × TicketPage}
    (browses : Browses config requests w query schedule cursor (v :: visits)) :
    v.1.world = w.after config requests schedule := by
  cases browses with
  | last reads listed ends => exact reads
  | more steps reads listed goes rest => exact reads

/-- The ticket that a page hands out as the next cursor meets the filter. -/
theorem selects_next {s : Inbox} {page : TicketPage} {next : TicketId}
    (listed : TicketsService.list s { query with cursor := cursor } = .ok page)
    (goes : page.next_cursor = some next) {row : Entry Ticket}
    (found : s.world.tickets.find? next = some row) : s.selects query row = true := by
  have answers := Inbox.visit_answers listed
  obtain ⟨last, member, named⟩ := answers.mem_of_next goes
  obtain ⟨stored, selected⟩ := Inbox.mem_selection_iff.mp (answers.shown_subset member)
  obtain rfl : last = row := Table.eq_of_id_eq stored (Table.mem_of_find? found)
    (named.trans (Table.id_of_find? found).symm)
  exact selected

/-- **A cursor keeps its place while its ticket is not modified** and meets the filter, whatever
is served in between. -/
theorem keeps_places (browses : Browses config requests w query schedule cursor visits)
    {x : Entry Ticket} (stored : ∀ v ∈ visits, x ∈ v.1.world.tickets.rows)
    (untouched : ∀ p ∈ visits.zip visits.tail, ∀ next, p.1.2.next_cursor = some next →
      ∃ row, p.1.1.world.tickets.find? next = some row ∧
        p.2.1.world.tickets.find? next = some row ∧ p.2.1.selects query row = true) :
    ∀ p ∈ visits.zip visits.tail, ∀ next, p.1.2.next_cursor = some next →
      p.2.1.follows query next x = p.1.1.follows query next x := by
  induction browses with
  | last reads listed ends =>
      intro p moved
      cases moved
  | more steps reads listed goes rest ih =>
      obtain ⟨here, later⟩ := List.forall_mem_cons.mp stored
      obtain ⟨first, others⟩ := List.forall_mem_cons.mp untouched
      refine List.forall_mem_cons.mpr ⟨fun next goes' => ?_, ih later others⟩
      obtain ⟨row, found, found', selected'⟩ := first next goes'
      exact Inbox.follows_of_unmodified reads rest.reads_first found found'
        (selects_next listed goes' found) selected' here

end Browses

/-- **Browsing shows a ticket once where the cursors keep their places.** Whatever happens between
the pages, a ticket that stays as it is and meets the filter is on exactly one page, if every
cursor has the ticket behind it when it is used exactly if it had when it was handed out. -/
theorem browsing_shows_once (config : Config) (requests : List Request) (w : World)
    (query : ListTicketsQueryDto) (schedule : List (Act ℕ)) (visits : List (Inbox × TicketPage))
    (browses : Browses config requests w query schedule none visits) (x : Entry Ticket)
    (stays : ∀ v ∈ visits,
      v.1.world.tickets.find? x.id = some x ∧ v.1.selects query x = true)
    (keeps : ∀ p ∈ visits.zip visits.tail, ∀ cursor, p.1.2.next_cursor = some cursor →
      p.2.1.follows query cursor x = p.1.1.follows query cursor x) :
    visits.countP (fun v => v.2.shows x.id) = 1 := by
  obtain ⟨first, rest, rfl⟩ : ∃ first rest, visits = first :: rest := by
    cases browses
    · exact ⟨_, _, rfl⟩
    · exact ⟨_, _, rfl⟩
  have stored : ∀ v ∈ first :: rest, x ∈ v.1.world.tickets.rows :=
    fun v member => Table.mem_of_find? (stays v member).1
  have found : ∀ v ∈ first :: rest, ∀ cursor,
      x ∈ CursorPaging.after Entry.id (some cursor) (v.1.selection query) ↔
        v.1.follows query cursor x = true :=
    fun v member _ => Inbox.mem_after_selection_iff (stored v member) (stays v member).2
  have once := browses.walk.shown_once query.limit_range.1
    (fun v _ => v.1.ids_selection query) (x := x) (fun p moved cursor goes => ?_) ?_
  · refine (List.countP_congr fun v member => ?_).trans once
    rw [browses.shows_iff member (stored v member), decide_eq_true_eq]
  · obtain ⟨left, right⟩ := List.of_mem_zip moved
    exact (found _ (List.mem_cons_of_mem first right) cursor).trans
      ((Bool.eq_iff_iff.mp (keeps p moved cursor goes)).trans (found _ left cursor).symm)
  · exact Inbox.mem_selection_iff.mpr ⟨stored first List.mem_cons_self,
      (stays first List.mem_cons_self).2⟩

namespace Walks

/-- Three open tickets of three customers. -/
def store : World :=
  World.seeded.after .default [.ingest (greeting 7),
    .ingest { greeting 8 with fromTelegramUserId := 43 },
    .ingest { greeting 9 with fromTelegramUserId := 44 }] (oneByOne 3 20)

/-- The inbox without saved views. -/
def inbox (w : World) : Inbox := ⟨w, fun _ => none, fun _ _ => false, Table.empty⟩

/-- The open tickets, one on a page. -/
def query : ListTicketsQueryDto := { status := some .open, limit := 1 }

/-- The inbox after the first page, when a ticket has been closed. -/
def closed (id : TicketId) : Inbox := inbox (store.after .default [.close id 0] (alone 6))

end Walks

set_option maxRecDepth 8000 in
/-- The ticket that the cursor names is closed, and the second page is empty: an open ticket
that was not touched is on no page. -/
theorem closed_cursor_ends_walk :
    ∃ visits x, Browses .default [.close 0 0] Walks.store Walks.query [] none visits ∧
      (∀ v ∈ visits, v.1.world.tickets.find? x.id = some x ∧
        v.1.selects Walks.query x = true) ∧
      visits.countP (fun v => v.2.shows x.id) = 0 := by
  obtain ⟨x, found⟩ : ∃ x, Walks.store.tickets.find? 1 = some x := ⟨_, rfl⟩
  have own : x.id = 1 := Table.id_of_find? found
  refine ⟨[(Walks.inbox Walks.store, _), (Walks.closed 0, _)], x,
    .more (alone 6) rfl rfl rfl (.last rfl rfl rfl), ?_, ?_⟩
  · rw [own, List.forall_mem_cons, List.forall_mem_singleton]
    cases found
    exact ⟨⟨rfl, rfl⟩, rfl, rfl⟩
  · rw [own]
    rfl

set_option maxRecDepth 8000 in
/-- Another ticket is closed, and the second page goes on after the cursor. -/
theorem untouched_cursor_goes_on :
    ∃ visits, ∃ x : Entry Ticket,
      Browses .default [.close 2 0] Walks.store Walks.query [] none visits ∧
      x.id = 1 ∧ visits.countP (fun v => v.2.shows x.id) = 1 := by
  obtain ⟨x, found⟩ : ∃ x, Walks.store.tickets.find? 1 = some x := ⟨_, rfl⟩
  have own : x.id = 1 := Table.id_of_find? found
  have browses : Browses .default [.close 2 0] Walks.store Walks.query [] none
      [(Walks.inbox Walks.store, _), (Walks.closed 2, _)] :=
    .more (alone 6) rfl rfl rfl (.last rfl rfl rfl)
  have stays (page page' : TicketPage) :
      ∀ v ∈ [(Walks.inbox Walks.store, page), (Walks.closed 2, page')],
        v.1.world.tickets.find? x.id = some x ∧ v.1.selects Walks.query x = true := by
    rw [own, List.forall_mem_cons, List.forall_mem_singleton]
    cases found
    exact ⟨⟨rfl, rfl⟩, rfl, rfl⟩
  refine ⟨_, x, browses, own, browsing_shows_once _ _ _ _ _ _ browses x (stays _ _) ?_⟩
  refine browses.keeps_places (fun v member => Table.mem_of_find? (stays _ _ v member).1) ?_
  rintro p (_ | ⟨_, ⟨⟩⟩) next goes
  cases goes
  exact ⟨_, rfl, rfl, rfl⟩

end SupportCrm
