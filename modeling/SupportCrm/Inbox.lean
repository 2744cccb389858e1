import Mathlib.Data.List.Sort
import SupportCrm.Store

/-!
# The inbox and its saved views

`TicketsService.list` pages through the tickets that meet a filter, and `SavedViewsService`
keeps the filters that agents have saved: shared ones, and personal ones that belong to an
agent. A page may name a saved view, whose filter the query then overrides.

`Inbox` is the store with the saved views. A filter is stored as JSON, in which an
identifier is a string. A stored view gets an identifier that occurs nowhere, which is the
next one of the table.
-/

set_option autoImplicit false

namespace SupportCrm

open KeyedTable

/-! ## JSON -/

inductive Json where
  | null
  | bool (value : Bool)
  | num (value : Rat)
  | str (value : String)
  | arr (elements : List Json)
  | obj (fields : List (String × Json))

/-- What the DTOs let through as a filter (`@IsObject`). -/
abbrev JsonObject := List (String × Json)

/-- An identifier as a string. -/
def idText (id : ℕ) : String := toString id

def TicketStatus.ofString? : String → Option TicketStatus
  | "open" => some .open
  | "pending" => some .pending
  | "on_hold" => some .on_hold
  | "solved" => some .solved
  | "closed" => some .closed
  | "archived" => some .archived
  | _ => none

/-- A value of the enumeration, if it is one. -/
def TicketStatus.ofJson? : Json → Option TicketStatus
  | .str value => TicketStatus.ofString? value
  | _ => none

/-! ## Saved views -/

structure SavedView where
  ownerId : Option AgentId
  name : String
  filter : JsonObject
  sort : Option JsonObject

def SavedView.key (_ : SavedView) : Option Unit := none

theorem SavedView.key_eq (view view' : SavedView) : view.key = view'.key := rfl

theorem SavedView.free {views : Table SavedView.key} {view : SavedView} : views.Free view :=
  Table.free_of_none rfl

/-- `view.ownerId && view.ownerId !== agentId`: somebody else's personal view. -/
def SavedView.foreign (agentId : AgentId) (view : SavedView) : Bool :=
  view.ownerId.any (· ≠ agentId)

/-- The store with the saved views. `chatGroups` is the column `chatGroupId` of the chats, and
`ilike` tells whether a text contains another, as the database compares them without case. -/
structure Inbox where
  world : World
  chatGroups : ChatId → Option ChatGroupId
  ilike : String → String → Bool
  savedViews : Table SavedView.key

/-- The two exceptions of the services, and arguments that Prisma refuses. -/
inductive RequestError where
  | notFound (message : String)
  | forbidden (message : String)
  | validation
  deriving DecidableEq, Repr

/-- A field of an update: absent, `null`, which no column of a view takes, or a value. -/
def assigned {α : Type} (old : α) : Option (Option α) → Except RequestError α
  | none => .ok old
  | some none => .error .validation
  | some (some value) => .ok value

structure UpdateSavedViewDto where
  name : Option (Option String) := none
  filter : Option (Option JsonObject) := none
  sort : Option (Option JsonObject) := none

/-- The view with the fields of an update. -/
def UpdateSavedViewDto.changed (data : UpdateSavedViewDto) (view : SavedView) :
    Except RequestError SavedView := do
  let name ← assigned view.name data.name
  let filter ← assigned view.filter data.filter
  let sort ← assigned view.sort (data.sort.map (·.map some))
  .ok { view with name := name, filter := filter, sort := sort }

namespace SavedViewsService

/-- `{ OR: [{ ownerId: agentId }, { ownerId: null }] }`. -/
def listed (agentId : AgentId) (view : SavedView) : Bool :=
  view.ownerId = some agentId || view.ownerId = none

def list (s : Inbox) (agentId : AgentId) : List (Entry SavedView) :=
  (s.savedViews.rows.filter fun row => listed agentId row.val).insertionSort fun a b =>
    a.val.name ≤ b.val.name

def create (s : Inbox) (agentId : AgentId) (name : String) (filter : JsonObject)
    (sort : Option (Option JsonObject)) (personal : Bool) :
    Except RequestError (Entry SavedView × Inbox) := do
  let sort ← assigned none (sort.map (·.map some))
  let view : SavedView := ⟨if personal then some agentId else none, name, filter, sort⟩
  .ok (⟨s.savedViews.next, view⟩,
    { s with savedViews := s.savedViews.insert view SavedView.free })

def requireEditable (s : Inbox) (id : SavedViewId) (agentId : AgentId) :
    Except RequestError (Entry SavedView) :=
  match s.savedViews.find? id with
  | none => .error (.notFound "Saved view not found")
  | some view =>
      if view.val.foreign agentId then .error (.forbidden "Not your saved view") else .ok view

def update (s : Inbox) (id : SavedViewId) (agentId : AgentId) (data : UpdateSavedViewDto) :
    Except RequestError (Entry SavedView × Inbox) := do
  let view ← requireEditable s id agentId
  let view ← data.changed view.val
  .ok (⟨id, view⟩,
    { s with savedViews := s.savedViews.update id (fun _ => view) fun _ => view.key_eq _ })

def remove (s : Inbox) (id : SavedViewId) (agentId : AgentId) : Except RequestError Inbox := do
  let _ ← requireEditable s id agentId
  .ok { s with savedViews := s.savedViews.delete id }

end SavedViewsService

/-! ## Pages of tickets -/

structure ListTicketsQueryDto where
  status : Option TicketStatus := none
  assignee : Option String := none
  team : Option TeamId := none
  label : Option LabelId := none
  chat : Option ChatId := none
  chat_group : Option ChatGroupId := none
  view : Option SavedViewId := none
  q : Option String := none
  cursor : Option TicketId := none
  limit : ℕ := 25
  limit_range : 1 ≤ limit ∧ limit ≤ 100 := by decide

/-- `status` in a `where`: a value, or `{ in: … }` with whatever was stored. -/
inductive StatusFilter where
  | is (status : TicketStatus)
  | oneOf (statuses : List Json)

/-- The statuses that are meant, unless something else is among them. -/
def StatusFilter.statuses? : StatusFilter → Option (List TicketStatus)
  | .is status => some [status]
  | .oneOf statuses => statuses.mapM TicketStatus.ofJson?

structure TicketWhere where
  status : Option StatusFilter := none
  assigneeId : Option (Option String) := none
  teamId : Option TeamId := none
  chatId : Option ChatId := none
  chatGroupId : Option ChatGroupId := none
  labelId : Option LabelId := none
  search : Option String := none

/-- The empty string counts as absent. -/
def given (text : Option String) : Option String := text.filter (· ≠ "")

/-- What `list` takes over from the filter of a view. -/
def TicketWhere.ofFilter (filter : JsonObject) : TicketWhere where
  status := match filter.lookup "status" with
    | some (.arr statuses) => some (.oneOf statuses)
    | _ => none
  assigneeId := match filter.lookup "assigneeId" with
    | some .null => some none
    | some (.str id) => some (some id)
    | _ => none

namespace ListTicketsQueryDto

/-- `assignee`, where `unassigned` stands for `null`. -/
def assigneeId (query : ListTicketsQueryDto) : Option (Option String) :=
  (given query.assignee).map fun assignee => if assignee = "unassigned" then none else some assignee

/-- The `where` of a query: what it says itself, else what the filter of the view says. -/
def ticketWhere (query : ListTicketsQueryDto) (saved : TicketWhere) : TicketWhere where
  status := (query.status.map .is).or saved.status
  assigneeId := query.assigneeId.or saved.assigneeId
  teamId := query.team
  chatId := query.chat
  chatGroupId := query.chat_group
  labelId := query.label
  search := given query.q

end ListTicketsQueryDto

namespace Inbox

/-- The text search over the customer and the messages of a ticket. -/
def mentions (s : Inbox) (row : Entry Ticket) (q : String) : Bool :=
  ((s.world.customers.find? row.val.customerId).any fun customer =>
    customer.val.displayName.any (s.ilike · q) || customer.val.username.any (s.ilike · q)) ||
  s.world.messages.rows.any fun message =>
    message.val.ticketId = row.id && message.val.text.any (s.ilike · q)

/-- The conditions of a `where` other than those on the status and the assignee. -/
def fits (s : Inbox) (w : TicketWhere) (row : Entry Ticket) : Bool :=
  w.teamId.all (row.val.teamId = some ·) && w.chatId.all (row.val.chatId = ·) &&
    w.chatGroupId.all (s.chatGroups row.val.chatId = some ·) &&
    w.labelId.all (fun labelId => s.world.ticketLabels.rows.any fun label =>
      label.val.ticketId = row.id && label.val.labelId = labelId) &&
    w.search.all (s.mentions row)

def meets (s : Inbox) (w : TicketWhere) (statuses : Option (List TicketStatus))
    (row : Entry Ticket) : Bool :=
  statuses.all (row.val.status ∈ ·) &&
    w.assigneeId.all (row.val.assigneeId.map idText = ·) && s.fits w row

/-- `orderBy: { updatedAt: 'desc' }`. -/
def ordered (s : Inbox) : List (Entry Ticket) :=
  s.world.tickets.rows.insertionSort fun a b => b.val.updatedAt ≤ a.val.updatedAt

/-- What comes after the cursor (`skip: 1`). A cursor that is not among the tickets ends the
list. -/
def after (cursor : Option TicketId) (tickets : List (Entry Ticket)) : List (Entry Ticket) :=
  match cursor with
  | none => tickets
  | some id => (tickets.dropWhile fun row => row.id ≠ id).drop 1

/-- The tickets after the cursor that meet the conditions. -/
def following (s : Inbox) (w : TicketWhere) (statuses : Option (List TicketStatus))
    (cursor : Option TicketId) : List (Entry Ticket) :=
  after cursor (s.ordered.filter (s.meets w statuses))

/-- `prisma.ticket.findMany`, which refuses a status that is none. -/
def findMany (s : Inbox) (w : TicketWhere) (cursor : Option TicketId) (take : ℕ) :
    Except RequestError (List (Entry Ticket)) :=
  match w.status.map StatusFilter.statuses? with
  | some none => .error .validation
  | some (some statuses) => .ok ((s.following w (some statuses) cursor).take take)
  | none => .ok ((s.following w none cursor).take take)

end Inbox

structure TicketPage where
  data : List TicketView
  next_cursor : Option TicketId
  deriving DecidableEq, Repr

namespace TicketsService

/-- The filter of the view that the query names. It is read by its identifier, whoever asks. -/
def savedFilter (s : Inbox) (query : ListTicketsQueryDto) : TicketWhere :=
  match query.view.bind s.savedViews.find? with
  | some view => .ofFilter view.val.filter
  | none => {}

def page (s : Inbox) (items : List (Entry Ticket)) (limit : ℕ) : TicketPage :=
  let hasMore := limit < items.length
  let shown := if hasMore then items.take limit else items
  ⟨shown.map s.world.ticketView, if hasMore then shown.getLast?.map Entry.id else none⟩

def list (s : Inbox) (query : ListTicketsQueryDto) : Except RequestError TicketPage := do
  let items ← s.findMany (query.ticketWhere (savedFilter s query)) query.cursor (query.limit + 1)
  .ok (page s items query.limit)

end TicketsService

/-! ## Requests of an agent -/

inductive ViewRequest where
  | list
  | create (name : String) (filter : JsonObject) (sort : Option (Option JsonObject))
      (personal : Bool)
  | update (id : SavedViewId) (data : UpdateSavedViewDto)
  | remove (id : SavedViewId)
  | tickets (query : ListTicketsQueryDto)

/-- What a request returns. -/
inductive ViewResponse where
  | views (views : List (Entry SavedView))
  | view (view : Entry SavedView)
  | removed
  | page (page : TicketPage)
  | error (error : RequestError)

namespace Inbox

/-- One request, and the store after it; a request that fails changes nothing. -/
def handle (s : Inbox) (agentId : AgentId) : ViewRequest → ViewResponse × Inbox
  | .list => (.views (SavedViewsService.list s agentId), s)
  | .create name filter sort personal =>
      match SavedViewsService.create s agentId name filter sort personal with
      | .ok (view, s') => (.view view, s')
      | .error e => (.error e, s)
  | .update id data =>
      match SavedViewsService.update s id agentId data with
      | .ok (view, s') => (.view view, s')
      | .error e => (.error e, s)
  | .remove id =>
      match SavedViewsService.remove s id agentId with
      | .ok s' => (.removed, s')
      | .error e => (.error e, s)
  | .tickets query =>
      match TicketsService.list s query with
      | .ok page => (.page page, s)
      | .error e => (.error e, s)

/-- The store after the requests. -/
def afterRequests (s : Inbox) (agentId : AgentId) (requests : List ViewRequest) : Inbox :=
  requests.foldl (fun s request => (s.handle agentId request).2) s

/-- What the agent is told in answer to a request that comes after others. -/
def answer (s : Inbox) (agentId : AgentId) (before : List ViewRequest) (request : ViewRequest) :
    ViewResponse :=
  ((s.afterRequests agentId before).handle agentId request).1

end Inbox

end SupportCrm
