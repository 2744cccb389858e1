import SupportCrm.Effects
import SupportCrm.Inbox

/-!
# Personal views

Two stores look the same to an agent when they differ in the personal views of other agents
only. No request of the agent changes such a view or makes the two stores look different
(`AgreesFor.step`), and an answer can tell them apart in one way only: an attempt to change
somebody else's view is refused as forbidden where the view exists, and as not found where
it does not.

`TicketsService.list` reads whatever view a query names. The result is about queries that
name no personal view of another agent.
-/

set_option autoImplicit false

namespace SupportCrm

open KeyedTable

namespace Inbox

/-- The identifier is that of a personal view of another agent. -/
def Foreign (s : Inbox) (agentId : AgentId) (id : SavedViewId) : Prop :=
  ∃ row ∈ s.savedViews.rows, row.id = id ∧ row.val.foreign agentId = true

/-- The stores differ in the personal views of other agents only. The next identifier is the
same: whatever a new view is called, it is called so in both. -/
structure AgreesFor (s : Inbox) (agentId : AgentId) (s' : Inbox) : Prop where
  world : s'.world = s.world
  chatGroups : s'.chatGroups = s.chatGroups
  ilike : s'.ilike = s.ilike
  next : s'.savedViews.next = s.savedViews.next
  shown : (s'.savedViews.rows.filter fun row => !row.val.foreign agentId) =
    s.savedViews.rows.filter fun row => !row.val.foreign agentId

/-- How an attempt to change somebody else's view is refused. -/
def refusal (s : Inbox) (id : SavedViewId) : RequestError :=
  match s.savedViews.find? id with
  | none => .notFound "Saved view not found"
  | some _ => .forbidden "Not your saved view"

end Inbox

/-- The view that a request is to change. -/
def ViewRequest.target : ViewRequest → Option SavedViewId
  | .update id _ | .remove id => some id
  | .list | .create _ _ _ _ | .tickets _ => none

/-- The answers are the same, unless the request is to change somebody else's view: then it
is refused in either store. -/
structure AnswersAlike (s s' : Inbox) (agentId : AgentId) (request : ViewRequest)
    (answer answer' : ViewResponse) : Prop where
  refused : ∀ id, request.target = some id → s.Foreign agentId id ∨ s'.Foreign agentId id →
    answer = .error (s.refusal id) ∧ answer' = .error (s'.refusal id)
  same : (∀ id, request.target = some id → ¬ s.Foreign agentId id ∧ ¬ s'.Foreign agentId id) →
    answer' = answer

namespace Inbox

variable {s s' : Inbox} {agentId : AgentId} {id : SavedViewId} {request : ViewRequest}

/-! ## Somebody else's views -/

theorem listed_eq (view : SavedView) :
    SavedViewsService.listed agentId view = !view.foreign agentId := by
  cases owner : view.ownerId <;> simp [SavedViewsService.listed, SavedView.foreign, owner]

theorem changed_ownerId {data : UpdateSavedViewDto} {view view' : SavedView}
    (ok : data.changed view = .ok view') : view'.ownerId = view.ownerId := by
  simp only [UpdateSavedViewDto.changed, World.bind_eq_ok_iff] at ok
  obtain ⟨name, -, filter, -, sort, -, equal⟩ := ok
  cases equal
  rfl

theorem requireEditable_ok_iff {view : Entry SavedView} :
    SavedViewsService.requireEditable s id agentId = .ok view ↔
      s.savedViews.find? id = some view ∧ view.val.foreign agentId = false := by
  unfold SavedViewsService.requireEditable
  cases s.savedViews.find? id with
  | none => simp
  | some row =>
      cases foreign : row.val.foreign agentId with
      | true =>
          refine ⟨fun ok => by simp [foreign] at ok, ?_⟩
          rintro ⟨⟨⟩, own⟩
          cases own.symm.trans foreign
      | false =>
          simp only [foreign, Bool.false_eq_true, if_false, Except.ok.injEq, Option.some.injEq]
          refine ⟨fun same => ⟨same, same ▸ foreign⟩, And.left⟩

/-- A view that is somebody else's, or is not there, is not editable. -/
theorem requireEditable_refused (unowned : s.Foreign agentId id ∨ s.savedViews.find? id = none) :
    SavedViewsService.requireEditable s id agentId = .error (s.refusal id) := by
  unfold SavedViewsService.requireEditable refusal
  rcases unowned with ⟨row, member, rfl, foreign⟩ | absent
  · rw [Table.find?_self member]
    simp [foreign]
  · rw [absent]

/-- A request that is to change such a view is refused, and changes nothing. -/
theorem handle_refused (target : request.target = some id)
    (unowned : s.Foreign agentId id ∨ s.savedViews.find? id = none) :
    s.handle agentId request = (.error (s.refusal id), s) := by
  have refused := requireEditable_refused unowned
  cases request with
  | update id' data =>
      obtain rfl := Option.some.inj target
      simp [handle, SavedViewsService.update, refused, bind, Except.bind]
  | remove id' =>
      obtain rfl := Option.some.inj target
      simp [handle, SavedViewsService.remove, refused, bind, Except.bind]
  | _ => cases target

/-- What a request does to the views: nothing, a new view, a change of a view that is not
somebody else's, or its deletion. -/
inductive Writes (s : Inbox) (agentId : AgentId) : Inbox → Prop where
  | nothing : Writes s agentId s
  | created {view : SavedView} (own : view.foreign agentId = false) :
      Writes s agentId { s with savedViews := s.savedViews.insert view SavedView.free }
  | updated {id : SavedViewId} {old : Entry SavedView} {view : SavedView}
      (found : s.savedViews.find? id = some old) (own : old.val.foreign agentId = false)
      (owner : view.ownerId = old.val.ownerId) :
      Writes s agentId
        { s with savedViews := s.savedViews.update id (fun _ => view) fun _ => view.key_eq _ }
  | removed {id : SavedViewId} {old : Entry SavedView}
      (found : s.savedViews.find? id = some old) (own : old.val.foreign agentId = false) :
      Writes s agentId { s with savedViews := s.savedViews.delete id }

theorem writes_handle (s : Inbox) (agentId : AgentId) (request : ViewRequest) :
    s.Writes agentId (s.handle agentId request).2 := by
  cases request with
  | list => exact .nothing
  | create name filter sort personal =>
      rw [handle]
      split
      · rename_i view s' ok
        simp only [SavedViewsService.create, World.bind_eq_ok_iff] at ok
        obtain ⟨sort, -, equal⟩ := ok
        cases equal
        refine .created ?_
        cases personal <;> simp [SavedView.foreign]
      · exact .nothing
  | update id data =>
      rw [handle]
      split
      · rename_i view s' ok
        simp only [SavedViewsService.update, World.bind_eq_ok_iff, requireEditable_ok_iff] at ok
        obtain ⟨old, ⟨found, own⟩, changed, written, equal⟩ := ok
        cases equal
        exact .updated found own (changed_ownerId written)
      · exact .nothing
  | remove id =>
      rw [handle]
      split
      · rename_i s' ok
        simp only [SavedViewsService.remove, World.bind_eq_ok_iff, requireEditable_ok_iff] at ok
        obtain ⟨old, ⟨found, own⟩, equal⟩ := ok
        cases equal
        exact .removed found own
      · exact .nothing
  | tickets query =>
      rw [handle]
      split
      · exact .nothing
      · exact .nothing

/-- Nobody else's view is written, taken away or made. -/
theorem Writes.foreign (writes : s.Writes agentId s') {row : Entry SavedView}
    (foreign : row.val.foreign agentId = true) :
    row ∈ s'.savedViews.rows ↔ row ∈ s.savedViews.rows := by
  cases writes with
  | nothing => exact Iff.rfl
  | created own =>
      rw [Table.mem_insert]
      refine or_iff_left ?_
      rintro rfl
      cases own.symm.trans foreign
  | @updated _ old _ found own owner =>
      obtain ⟨member, rfl⟩ := Table.find?_eq_some_iff.mp found
      rw [Table.mem_update]
      constructor
      · rintro ⟨other, listed, rfl⟩
        by_cases same : other.id = old.id
        · rw [Entry.change, if_pos same, SavedView.foreign, owner] at foreign
          cases own.symm.trans foreign
        · rwa [Entry.change_of_ne _ _ same]
      · intro listed
        refine ⟨row, listed, Entry.change_of_ne _ _ fun same => ?_⟩
        rw [Table.eq_of_id_eq listed member same] at foreign
        cases own.symm.trans foreign
  | removed found own =>
      obtain ⟨member, rfl⟩ := Table.find?_eq_some_iff.mp found
      rw [Table.mem_delete]
      refine and_iff_left_of_imp fun listed same => ?_
      rw [Table.eq_of_id_eq listed member same] at foreign
      cases own.symm.trans foreign

/-- An identifier that has been handed out is not given to another view. -/
theorem Writes.absent (writes : s.Writes agentId s') (used : id < s.savedViews.next)
    (absent : s.savedViews.find? id = none) :
    id < s'.savedViews.next ∧ s'.savedViews.find? id = none := by
  cases writes with
  | nothing => exact ⟨used, absent⟩
  | created own =>
      exact ⟨Nat.lt_succ_of_lt used, (Table.find?_insert_of_ne SavedView.free used.ne).trans absent⟩
  | updated found own owner =>
      refine ⟨used, ?_⟩
      rw [Table.find?_update, absent]
      rfl
  | removed found own =>
      refine ⟨used, Table.find?_eq_none_iff.mpr fun row listed => ?_⟩
      exact Table.find?_eq_none_iff.mp absent row (Table.mem_delete.mp listed).1

/-- What every request keeps, all of them keep. -/
theorem afterRequests_invariant {I : Inbox → Prop} (step : ∀ s s', s.Writes agentId s' → I s → I s')
    (requests : List ViewRequest) {s : Inbox} (holds : I s) :
    I (s.afterRequests agentId requests) := by
  induction requests generalizing s with
  | nil => exact holds
  | cons request rest ih => exact ih (step s _ (writes_handle s agentId request) holds)

/-- **Nobody else's personal view is ever changed.** -/
theorem mem_afterRequests (s : Inbox) (agentId : AgentId) (requests : List ViewRequest)
    {row : Entry SavedView} (foreign : row.val.foreign agentId = true) :
    row ∈ (s.afterRequests agentId requests).savedViews.rows ↔ row ∈ s.savedViews.rows := by
  refine afterRequests_invariant (I := fun s' => row ∈ s'.savedViews.rows ↔ row ∈ s.savedViews.rows)
    (fun s₁ s₂ writes same => (writes.foreign foreign).trans same) requests Iff.rfl

theorem foreign_afterRequests (s : Inbox) (agentId : AgentId) (requests : List ViewRequest)
    (id : SavedViewId) : (s.afterRequests agentId requests).Foreign agentId id ↔
      s.Foreign agentId id := by
  constructor
  · rintro ⟨row, member, own, foreign⟩
    exact ⟨row, (mem_afterRequests s agentId requests foreign).mp member, own, foreign⟩
  · rintro ⟨row, member, own, foreign⟩
    exact ⟨row, (mem_afterRequests s agentId requests foreign).mpr member, own, foreign⟩

/-! ## Stores that look the same -/

theorem not_foreign_of_find? (clear : ¬ s.Foreign agentId id) {row : Entry SavedView}
    (found : s.savedViews.find? id = some row) : row.val.foreign agentId = false := by
  obtain ⟨member, own⟩ := Table.find?_eq_some_iff.mp found
  exact Bool.eq_false_iff.mpr fun foreign => clear ⟨row, member, own, foreign⟩

/-- A view that is not somebody else's is in the one store when it is in the other. -/
theorem AgreesFor.mem_iff (agrees : s.AgreesFor agentId s') {row : Entry SavedView}
    (own : row.val.foreign agentId = false) :
    row ∈ s'.savedViews.rows ↔ row ∈ s.savedViews.rows := by
  have same := congrArg (row ∈ ·) agrees.shown
  simpa [List.mem_filter, own] using same

theorem AgreesFor.symm (agrees : s.AgreesFor agentId s') : s'.AgreesFor agentId s :=
  ⟨agrees.world.symm, agrees.chatGroups.symm, agrees.ilike.symm, agrees.next.symm,
    agrees.shown.symm⟩

/-- An identifier of nobody else's view is that of the same view in both. -/
theorem AgreesFor.find? (agrees : s.AgreesFor agentId s') (clear : ¬ s.Foreign agentId id)
    (clear' : ¬ s'.Foreign agentId id) : s'.savedViews.find? id = s.savedViews.find? id := by
  refine Option.ext fun row => ?_
  constructor
  · intro found
    obtain ⟨member, own⟩ := Table.find?_eq_some_iff.mp found
    exact Table.find?_eq_some_iff.mpr
      ⟨(agrees.mem_iff (not_foreign_of_find? clear' found)).mp member, own⟩
  · intro found
    obtain ⟨member, own⟩ := Table.find?_eq_some_iff.mp found
    exact Table.find?_eq_some_iff.mpr
      ⟨(agrees.mem_iff (not_foreign_of_find? clear found)).mpr member, own⟩

/-- Where one store has somebody else's view, the other has such a view or none. -/
theorem AgreesFor.absent (agrees : s.AgreesFor agentId s') (foreign : s'.Foreign agentId id)
    (clear : ¬ s.Foreign agentId id) :
    id < s.savedViews.next ∧ s.savedViews.find? id = none := by
  obtain ⟨row, member, rfl, foreign⟩ := foreign
  refine ⟨agrees.next ▸ s'.savedViews.below row member, ?_⟩
  by_contra some
  obtain ⟨other, found⟩ := Option.ne_none_iff_exists'.mp some
  obtain ⟨listed, same⟩ := Table.find?_eq_some_iff.mp found
  have own := not_foreign_of_find? clear found
  rw [Table.eq_of_id_eq ((agrees.mem_iff own).mpr listed) member same] at own
  cases own.symm.trans foreign

/-- The same change of both tables. -/
theorem AgreesFor.with (agrees : s.AgreesFor agentId s') {t t' : Table SavedView.key}
    (next : t'.next = t.next)
    (shown : (t'.rows.filter fun row => !row.val.foreign agentId) =
      t.rows.filter fun row => !row.val.foreign agentId) :
    ({ s with savedViews := t } : Inbox).AgreesFor agentId { s' with savedViews := t' } :=
  ⟨agrees.world, agrees.chatGroups, agrees.ilike, next, shown⟩

theorem shown_update {t : Table SavedView.key} {old : Entry SavedView} {view : SavedView}
    (found : t.find? id = some old) (owner : view.ownerId = old.val.ownerId) :
    ((t.update id (fun _ => view) fun _ => view.key_eq _).rows.filter fun row =>
        !row.val.foreign agentId) =
      (t.rows.filter fun row => !row.val.foreign agentId).map (Entry.change id fun _ => view) := by
  rw [Table.update_rows, List.filter_map]
  congr 1
  refine List.filter_congr fun row member => ?_
  obtain ⟨listed, rfl⟩ := Table.find?_eq_some_iff.mp found
  by_cases same : row.id = old.id
  · obtain rfl := Table.eq_of_id_eq member listed same
    simp [Entry.change, SavedView.foreign, owner]
  · rw [Function.comp_apply, Entry.change_of_ne _ _ same]

theorem shown_delete (t : Table SavedView.key) (id : SavedViewId) :
    ((t.delete id).rows.filter fun row => !row.val.foreign agentId) =
      (t.rows.filter fun row => !row.val.foreign agentId).filter fun row => row.id ≠ id := by
  rw [Table.delete, List.filter_filter, List.filter_filter]
  exact List.filter_congr fun row _ => Bool.and_comm _ _

/-- A new view is the same in both stores, and so are the identifiers it is given. -/
theorem AgreesFor.create (agrees : s.AgreesFor agentId s') {name : String} {filter : JsonObject}
    {sort : Option (Option JsonObject)} {personal : Bool} :
    (s'.handle agentId (.create name filter sort personal)).1 =
        (s.handle agentId (.create name filter sort personal)).1 ∧
      (s.handle agentId (.create name filter sort personal)).2.AgreesFor agentId
        (s'.handle agentId (.create name filter sort personal)).2 := by
  simp only [handle, SavedViewsService.create]
  cases assigned (none : Option JsonObject) (sort.map (·.map some)) with
  | error e => exact ⟨rfl, agrees⟩
  | ok sort =>
      refine ⟨congrArg (fun next => ViewResponse.view ⟨next, _⟩) agrees.next, agrees.with ?_ ?_⟩
      · rw [Table.insert_next, Table.insert_next, agrees.next]
      · rw [Table.insert_rows, Table.insert_rows, List.filter_append, List.filter_append,
          agrees.shown, agrees.next]

/-- A view that is in neither store is found in neither. -/
theorem AgreesFor.notFound (agrees : s.AgreesFor agentId s') (target : request.target = some id)
    (absent : s.savedViews.find? id = none) (absent' : s'.savedViews.find? id = none) :
    (s'.handle agentId request).1 = (s.handle agentId request).1 ∧
      (s.handle agentId request).2.AgreesFor agentId (s'.handle agentId request).2 := by
  rw [handle_refused target (.inr absent), handle_refused target (.inr absent'), refusal, refusal,
    absent, absent']
  exact ⟨rfl, agrees⟩

/-- A view that may be edited in one store may be edited in both. -/
theorem AgreesFor.editable (agrees : s.AgreesFor agentId s') (clear : ¬ s.Foreign agentId id)
    (clear' : ¬ s'.Foreign agentId id) {view : Entry SavedView}
    (found : s.savedViews.find? id = some view) :
    SavedViewsService.requireEditable s id agentId = .ok view ∧
      SavedViewsService.requireEditable s' id agentId = .ok view := by
  have own := not_foreign_of_find? clear found
  exact ⟨requireEditable_ok_iff.mpr ⟨found, own⟩,
    requireEditable_ok_iff.mpr ⟨(agrees.find? clear clear').trans found, own⟩⟩

/-- The same view is changed in the same way. -/
theorem AgreesFor.update (agrees : s.AgreesFor agentId s') (clear : ¬ s.Foreign agentId id)
    (clear' : ¬ s'.Foreign agentId id) {data : UpdateSavedViewDto} :
    (s'.handle agentId (.update id data)).1 = (s.handle agentId (.update id data)).1 ∧
      (s.handle agentId (.update id data)).2.AgreesFor agentId
        (s'.handle agentId (.update id data)).2 := by
  have same := agrees.find? clear clear'
  cases found : s.savedViews.find? id with
  | none => exact agrees.notFound rfl found (same.trans found)
  | some view =>
      obtain ⟨editable, editable'⟩ := agrees.editable clear clear' found
      simp only [handle, SavedViewsService.update, editable, editable', bind, Except.bind]
      cases written : data.changed view.val with
      | error e => exact ⟨rfl, agrees⟩
      | ok view' =>
          have owner := changed_ownerId written
          refine ⟨rfl, agrees.with agrees.next ?_⟩
          rw [shown_update (same.trans found) owner, shown_update found owner, agrees.shown]

/-- The same view is deleted. -/
theorem AgreesFor.remove (agrees : s.AgreesFor agentId s') (clear : ¬ s.Foreign agentId id)
    (clear' : ¬ s'.Foreign agentId id) :
    (s'.handle agentId (.remove id)).1 = (s.handle agentId (.remove id)).1 ∧
      (s.handle agentId (.remove id)).2.AgreesFor agentId (s'.handle agentId (.remove id)).2 := by
  have same := agrees.find? clear clear'
  cases found : s.savedViews.find? id with
  | none => exact agrees.notFound rfl found (same.trans found)
  | some view =>
      obtain ⟨editable, editable'⟩ := agrees.editable clear clear' found
      simp only [handle, SavedViewsService.remove, editable, editable', bind, Except.bind]
      refine ⟨trivial, agrees.with agrees.next ?_⟩
      rw [shown_delete, shown_delete, agrees.shown]

/-- A page is the same when the view that the query names is. -/
theorem AgreesFor.page (agrees : s.AgreesFor agentId s') {query : ListTicketsQueryDto}
    (clear : ∀ id, query.view = some id → ¬ s.Foreign agentId id ∧ ¬ s'.Foreign agentId id) :
    TicketsService.list s' query = TicketsService.list s query := by
  have saved : TicketsService.savedFilter s' query = TicketsService.savedFilter s query := by
    unfold TicketsService.savedFilter
    cases named : query.view with
    | none => rfl
    | some id =>
        obtain ⟨own, own'⟩ := clear id named
        rw [Option.bind_some, Option.bind_some, agrees.find? own own']
  obtain ⟨world, chatGroups, ilike, savedViews⟩ := s
  obtain ⟨world', chatGroups', ilike', savedViews'⟩ := s'
  obtain ⟨rfl, rfl, rfl, -, -⟩ := agrees
  unfold TicketsService.list
  rw [saved]
  rfl

/-- Stores that look the same answer the same and look the same afterwards, to a request that
is about nobody else's view. -/
theorem AgreesFor.handle (agrees : s.AgreesFor agentId s') (request : ViewRequest)
    (clear : ∀ id, request.target = some id → ¬ s.Foreign agentId id ∧ ¬ s'.Foreign agentId id)
    (read : ∀ query id, request = .tickets query → query.view = some id →
      ¬ s.Foreign agentId id ∧ ¬ s'.Foreign agentId id) :
    (s'.handle agentId request).1 = (s.handle agentId request).1 ∧
      (s.handle agentId request).2.AgreesFor agentId (s'.handle agentId request).2 := by
  cases request with
  | list =>
      refine ⟨?_, agrees⟩
      rw [Inbox.handle, Inbox.handle, SavedViewsService.list, SavedViewsService.list]
      simp only [listed_eq]
      rw [agrees.shown]
  | create name filter sort personal => exact agrees.create
  | update id data => exact agrees.update (clear id rfl).1 (clear id rfl).2
  | remove id => exact agrees.remove (clear id rfl).1 (clear id rfl).2
  | tickets query =>
      have same := agrees.page (read query · rfl)
      simp only [Inbox.handle, same]
      cases TicketsService.list s query with
      | error e => exact ⟨rfl, agrees⟩
      | ok page => exact ⟨rfl, agrees⟩

/-! ## Over a sequence of requests -/

theorem handle_tickets (s : Inbox) (agentId : AgentId) (query : ListTicketsQueryDto) :
    (s.handle agentId (.tickets query)).2 = s := by
  rw [handle]
  split <;> rfl

/-- Where one of the stores has somebody else's view, both refuse to change it. -/
theorem AgreesFor.refused (agrees : s.AgreesFor agentId s')
    (foreign : s.Foreign agentId id ∨ s'.Foreign agentId id) (target : request.target = some id) :
    s.handle agentId request = (.error (s.refusal id), s) := by
  by_cases own : s.Foreign agentId id
  · exact handle_refused target (.inl own)
  · exact handle_refused target (.inr (agrees.absent (foreign.resolve_left own) own).2)

/-- Stores that look the same do so after any request. -/
theorem AgreesFor.step (agrees : s.AgreesFor agentId s') (request : ViewRequest) :
    (s.handle agentId request).2.AgreesFor agentId (s'.handle agentId request).2 := by
  have change : ∀ id, request.target = some id → (¬ s.Foreign agentId id → ¬ s'.Foreign agentId id →
      (s.handle agentId request).2.AgreesFor agentId (s'.handle agentId request).2) →
      (s.handle agentId request).2.AgreesFor agentId (s'.handle agentId request).2 := by
    intro id target clear
    by_cases foreign : s.Foreign agentId id ∨ s'.Foreign agentId id
    · rw [agrees.refused foreign target, agrees.symm.refused foreign.symm target]
      exact agrees
    · exact clear (not_or.mp foreign).1 (not_or.mp foreign).2
  cases request with
  | list => exact agrees
  | create name filter sort personal => exact agrees.create.2
  | update id data => exact change id rfl fun clear clear' => (agrees.update clear clear').2
  | remove id => exact change id rfl fun clear clear' => (agrees.remove clear clear').2
  | tickets query =>
      rw [handle_tickets, handle_tickets]
      exact agrees

theorem AgreesFor.afterRequests (agrees : s.AgreesFor agentId s') (requests : List ViewRequest) :
    (s.afterRequests agentId requests).AgreesFor agentId (s'.afterRequests agentId requests) := by
  induction requests generalizing s s' with
  | nil => exact agrees
  | cons request rest ih => exact ih (agrees.step request)

/-- A view of somebody else is refused in the same way at any time. -/
theorem AgreesFor.refusal_afterRequests (agrees : s.AgreesFor agentId s')
    (foreign : s.Foreign agentId id ∨ s'.Foreign agentId id) (requests : List ViewRequest) :
    (s.afterRequests agentId requests).refusal id = s.refusal id := by
  by_cases own : s.Foreign agentId id
  · obtain ⟨row, member, rfl, personal⟩ := own
    have kept := (mem_afterRequests s agentId requests personal).mpr member
    rw [refusal, refusal, Table.find?_self member, Table.find?_self kept]
  · obtain ⟨used, absent⟩ := agrees.absent (foreign.resolve_left own) own
    have still : id < (s.afterRequests agentId requests).savedViews.next ∧
        (s.afterRequests agentId requests).savedViews.find? id = none :=
      afterRequests_invariant (I := fun s => id < s.savedViews.next ∧ s.savedViews.find? id = none)
        (fun _ _ writes holds => writes.absent holds.1 holds.2) requests ⟨used, absent⟩
    rw [refusal, refusal, still.2, absent]

end Inbox

/-- **Personal views are invisible to others.** To an agent two stores that differ in personal
views of other agents only answer every sequence of requests alike, where no page is asked
for with such a view, and no such view is ever changed. -/
theorem personal_views_private {agentId : AgentId} {s s' : Inbox} {requests : List ViewRequest}
    (agrees : s.AgreesFor agentId s')
    (own : ∀ query id, .tickets query ∈ requests → query.view = some id →
      ¬ s.Foreign agentId id ∧ ¬ s'.Foreign agentId id) :
    (∀ before request after, requests = before ++ request :: after →
      AnswersAlike s s' agentId request (s.answer agentId before request)
        (s'.answer agentId before request)) ∧
    ∀ row : Entry SavedView, row.val.foreign agentId = true →
      (row ∈ (s.afterRequests agentId requests).savedViews.rows ↔ row ∈ s.savedViews.rows) := by
  refine ⟨fun before request after split => ?_,
    fun row foreign => Inbox.mem_afterRequests s agentId requests foreign⟩
  have later := agrees.afterRequests before
  constructor
  · intro id target foreign
    have foreign' := foreign.imp (Inbox.foreign_afterRequests s agentId before id).mpr
      (Inbox.foreign_afterRequests s' agentId before id).mpr
    rw [Inbox.answer, Inbox.answer, later.refused foreign' target,
      later.symm.refused foreign'.symm target, agrees.refusal_afterRequests foreign,
      agrees.symm.refusal_afterRequests foreign.symm]
    exact ⟨rfl, rfl⟩
  · intro clear
    refine (later.handle request (fun id target => ?_) fun query id asked named => ?_).1
    · rw [Inbox.foreign_afterRequests, Inbox.foreign_afterRequests]
      exact clear id target
    · rw [Inbox.foreign_afterRequests, Inbox.foreign_afterRequests]
      exact own query id (by simp [split, asked]) named

/-! ## A colleague's view -/

def colleagueView : SavedView := ⟨some 0, "Mine", [("status", .arr [.str "closed"])], none⟩

def withView : Inbox :=
  ⟨.initial 0 fun _ => 0, fun _ => none, fun _ _ => false,
    Table.empty.insert colleagueView SavedView.free⟩

def withoutView : Inbox := { withView with savedViews := withView.savedViews.delete 0 }

theorem withView_agrees : withView.AgreesFor 1 withoutView := ⟨rfl, rfl, rfl, rfl, rfl⟩

/-- What another agent asks for: a page with the shared views, and to delete the view. -/
def removalAttempt : List ViewRequest := [.list, .tickets {}, .remove 0]

/-- The page is the same with and without the view, and the view stays. -/
theorem removal_attempt_keeps :
    withoutView.answer 1 [.list] (.tickets {}) = withView.answer 1 [.list] (.tickets {}) ∧
    (⟨0, colleagueView⟩ ∈ (withView.afterRequests 1 removalAttempt).savedViews.rows ↔
      ⟨0, colleagueView⟩ ∈ withView.savedViews.rows) := by
  have own : ∀ query id, .tickets query ∈ removalAttempt → query.view = some id →
      ¬ withView.Foreign 1 id ∧ ¬ withoutView.Foreign 1 id := by
    intro query id asked named
    obtain rfl : query = {} := by simpa [removalAttempt] using asked
    cases named
  have all := personal_views_private withView_agrees own
  exact ⟨(all.1 [.list] (.tickets {}) [.remove 0] rfl).same nofun, all.2 ⟨0, colleagueView⟩ rfl⟩

/-- The refusal tells whether there is such a view. -/
theorem refusals_differ :
    withView.AgreesFor 1 withoutView ∧
    withView.answer 1 [] (.remove 0) = .error (.forbidden "Not your saved view") ∧
    withoutView.answer 1 [] (.remove 0) = .error (.notFound "Saved view not found") ∧
    withoutView.answer 1 [] (.remove 0) ≠ withView.answer 1 [] (.remove 0) := by
  have forbidden : withView.answer 1 [] (.remove 0) =
      .error (.forbidden "Not your saved view") := rfl
  have absent : withoutView.answer 1 [] (.remove 0) =
      .error (.notFound "Saved view not found") := rfl
  refine ⟨withView_agrees, forbidden, absent, ?_⟩
  rw [forbidden, absent]
  simp

end SupportCrm
