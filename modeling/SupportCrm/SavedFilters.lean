import SupportCrm.Browsing

/-!
# What a saved view means

A saved view stores the parameters of `GET /tickets` as JSON. `TicketsService.list` reads other
fields than these from it, so a view lists what no filter lists, and that is what its parameters
list exactly where they leave nothing out (`saved_view_means_filter_iff`).
-/

set_option autoImplicit false

namespace SupportCrm

open KeyedTable CursorPaging

/-! ## Parameters as a stored filter -/

def TicketStatus.text : TicketStatus → String
  | .open => "open"
  | .pending => "pending"
  | .on_hold => "on_hold"
  | .solved => "solved"
  | .closed => "closed"
  | .archived => "archived"

namespace ListTicketsQueryDto

/-- The parameters that filter. -/
def filterNames : List String := ["status", "assignee", "team", "label", "chat", "chat_group", "q"]

/-- The stored filter has the shape of the parameters: those that are set, under their names, and
nothing else. -/
structure Shapes (query : ListTicketsQueryDto) (filter : JsonObject) : Prop where
  status : filter.lookup "status" = query.status.map fun status => .str status.text
  assignee : filter.lookup "assignee" = query.assignee.map .str
  team : filter.lookup "team" = query.team.map fun id => .str (idText id)
  label : filter.lookup "label" = query.label.map fun id => .str (idText id)
  chat : filter.lookup "chat" = query.chat.map fun id => .str (idText id)
  chat_group : filter.lookup "chat_group" = query.chat_group.map fun id => .str (idText id)
  q : filter.lookup "q" = query.q.map .str
  only : ∀ field ∈ filter, field.1 ∈ filterNames

/-- The same page of a saved view, and no other filter. -/
def ofView (query : ListTicketsQueryDto) (id : SavedViewId) : ListTicketsQueryDto where
  view := some id
  cursor := query.cursor
  limit := query.limit
  limit_range := query.limit_range

/-- The same page with the parameters themselves. -/
def direct (query : ListTicketsQueryDto) : ListTicketsQueryDto := { query with view := none }

/-- `list` takes over nothing from a filter of this shape: it looks for an array of statuses and
for `assigneeId`. -/
theorem Shapes.ofFilter {query : ListTicketsQueryDto} {filter : JsonObject}
    (shapes : query.Shapes filter) : TicketWhere.ofFilter filter = {} := by
  have unnamed : filter.lookup "assigneeId" = none := by
    refine List.lookup_eq_none_iff.mpr fun field member => ?_
    have named := shapes.only field member
    rw [bne_iff_ne]
    rintro same
    rw [← same] at named
    exact absurd named (by decide)
  rw [TicketWhere.ofFilter, shapes.status, unnamed]
  cases query.status <;> rfl

end ListTicketsQueryDto

/-! ## The page of a view -/

namespace Inbox

/-- The tickets of a page without a filter. -/
def front (s : Inbox) (cursor : Option TicketId) (limit : ℕ) : List (Entry Ticket) :=
  (CursorPaging.after Entry.id cursor s.ordered).take limit

end Inbox

/-- **A saved view means its filter exactly where the filter leaves nothing out.** The list of a
view whose stored filter has the shape of some parameters shows the same tickets as these
parameters do if and only if all tickets of the page without a filter meet them, and so does the
one that the cursor names, where the page shows something. -/
theorem saved_view_means_filter_iff (s : Inbox) (id : SavedViewId) (view : Entry SavedView)
    (query : ListTicketsQueryDto) (stored : s.savedViews.find? id = some view)
    (shapes : query.Shapes view.val.filter) :
    ∃ saved direct, TicketsService.list s (query.ofView id) = .ok saved ∧
      TicketsService.list s query.direct = .ok direct ∧
      (saved.data = direct.data ↔ ∀ row ∈ s.front query.cursor query.limit,
        s.selects query.direct row = true ∧ ∀ cursor, query.cursor = some cursor →
          ∃ named ∈ s.world.tickets.rows, named.id = cursor ∧
            s.selects query.direct named = true) := by
  have nothing : TicketsService.savedFilter s (query.ofView id) = {} := by
    rw [TicketsService.savedFilter, ListTicketsQueryDto.ofView, Option.bind_some, stored]
    exact shapes.ofFilter
  have everything : s.selection (query.ofView id) = s.ordered := by
    refine List.filter_eq_self.mpr fun row _ => ?_
    rw [Inbox.selects, nothing]
    rfl
  have accepts : s.accepts (query.ofView id) = true := by
    rw [Inbox.accepts, nothing]
    rfl
  have accepts' : s.accepts query.direct = true := by
    unfold Inbox.accepts ListTicketsQueryDto.ticketWhere ListTicketsQueryDto.direct
    cases query.status <;> rfl
  obtain ⟨saved, listed, shown⟩ := Inbox.list_ok accepts
  obtain ⟨direct, listed', shown'⟩ := Inbox.list_ok accepts'
  refine ⟨saved, direct, listed, listed', ?_⟩
  have tickets : Function.Injective s.world.ticketView := fun row row' same =>
    congrArg TicketView.ticket same
  rw [shown, shown', everything, (List.map_injective_iff.mpr tickets).eq_iff, eq_comm]
  refine (take_after_filter_eq_iff s.ids_ordered).trans ?_
  simp only [Inbox.ordered, List.mem_insertionSort]
  rfl

/-! Two views of three open tickets. -/

namespace Views

/-- A shared view of the tickets with a status. -/
def saved (status : TicketStatus) : Except RequestError (Entry SavedView × Inbox) :=
  SavedViewsService.create (Walks.inbox Walks.store) 0 status.text [("status", .str status.text)]
    none false

theorem shapes (status : TicketStatus) :
    ListTicketsQueryDto.Shapes { status := some status } [("status", .str status.text)] :=
  ⟨rfl, rfl, rfl, rfl, rfl, rfl, rfl, List.forall_mem_singleton.mpr List.mem_cons_self⟩

end Views

set_option maxRecDepth 8000 in
/-- The view of the closed tickets lists the open ones. -/
theorem view_of_closed_lists_open : ∃ s view, Views.saved .closed = .ok (view, s) ∧
    ListTicketsQueryDto.Shapes { status := some .closed } view.val.filter ∧
    ∃ saved direct, TicketsService.list s { view := some view.id } = .ok saved ∧
      TicketsService.list s { status := some .closed } = .ok direct ∧
      saved.data.map (·.ticket.id) = [0, 1, 2] ∧ direct.data = [] ∧ saved.data ≠ direct.data :=
  ⟨_, _, rfl, Views.shapes .closed, _, _, rfl, rfl, by decide, by decide, by decide⟩

set_option maxRecDepth 8000 in
/-- The view of the open tickets lists them, as they are all there are. -/
theorem view_of_open_lists_open : ∃ s view, Views.saved .open = .ok (view, s) ∧
    ∃ saved direct,
      TicketsService.list s (ListTicketsQueryDto.ofView { status := some .open } view.id) =
        .ok saved ∧
      TicketsService.list s (ListTicketsQueryDto.direct { status := some .open }) = .ok direct ∧
      saved.data = direct.data := by
  obtain ⟨view, s, created⟩ : ∃ view s, Views.saved .open = .ok (view, s) := ⟨_, _, rfl⟩
  have stored : s.savedViews.find? view.id = some view := by
    cases created
    rfl
  have shapes : ListTicketsQueryDto.Shapes { status := some .open } view.val.filter := by
    cases created
    exact Views.shapes .open
  obtain ⟨saved, direct, listed, listed', same⟩ :=
    saved_view_means_filter_iff s view.id view { status := some .open } stored shapes
  refine ⟨s, view, created, saved, direct, listed, listed', same.mpr ?_⟩
  cases created
  decide

end SupportCrm
