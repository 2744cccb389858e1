import SupportCrm.Patches

/-!
# What a patch returns

The transaction of a patch reads its answer after it has updated the row of the ticket and
before it replaces the labels. `patch_returns_stored_iff`: a patch that runs alone returns
what `getById` returns right afterwards if and only if it replaces no labels, or replaces them
by themselves. So a bulk request that adds a label returns tickets with that label only where
they had it before.
-/

set_option autoImplicit false

namespace SupportCrm

open KeyedTable AtomicProgram

namespace TicketView

/-- The labels of a ticket with what they refer to. -/
def labelRows (view : TicketView) : List (TicketLabel × Option (Entry Label)) :=
  view.labels.map fun label => (label.1.val, label.2)

def labelIds (view : TicketView) : List LabelId := view.labels.map fun label => label.1.val.labelId

/-- Two answers that show the same. The order of the labels is left open by the query. -/
structure Agrees (view view' : TicketView) : Prop where
  ticket : view.ticket = view'.ticket
  chat : view.chat = view'.chat
  customer : view.customer = view'.customer
  assignee : view.assignee = view'.assignee
  team : view.team = view'.team
  labels : ∀ label, label ∈ view.labelRows ↔ label ∈ view'.labelRows

end TicketView

namespace World

variable {w w' : World} {id : TicketId} {dto : PatchTicketDto} {byAgentId : Option AgentId}

theorem labelIds_ticketView (ticket : Entry Ticket) :
    (w.ticketView ticket).labelIds = labelsOf w.ticketLabels ticket.id := by
  simp [TicketView.labelIds, ticketView, labelsOf]

theorem mem_labelRows_iff {ticket : Entry Ticket} {label : TicketLabel × Option (Entry Label)} :
    label ∈ (w.ticketView ticket).labelRows ↔
      ∃ labelId ∈ labelsOf w.ticketLabels ticket.id,
        label = (⟨ticket.id, labelId⟩, w.labels.find? labelId) := by
  simp only [TicketView.labelRows, ticketView, labelsOf, List.map_map, List.mem_map]
  constructor
  · rintro ⟨row, listed, rfl⟩
    obtain ⟨stored, own⟩ := List.mem_filter.mp listed
    refine ⟨row.val.labelId, ⟨row, listed, rfl⟩, ?_⟩
    rw [← of_decide_eq_true own]
    rfl
  · rintro ⟨_, ⟨row, listed, rfl⟩, rfl⟩
    refine ⟨row, listed, ?_⟩
    obtain ⟨stored, own⟩ := List.mem_filter.mp listed
    rw [← of_decide_eq_true own]
    rfl

/-- A patch returns the labels from before. -/
theorem Patched.labelIds {view : TicketView} (patched : w.Patched id dto byAgentId view w') :
    view.labelIds = labelsOf w.ticketLabels id := by
  cases patched with
  | mk data now now' ticket ticketLabels builds found relabels =>
      rw [labelIds_ticketView]
      rfl

theorem Patched.relabels {view : TicketView} (patched : w.Patched id dto byAgentId view w') :
    Relabels w.ticketLabels w'.ticketLabels id dto.labels := by
  cases patched with
  | mk data now now' ticket ticketLabels builds found relabels => exact relabels

/-- Replacing the labels changes what is shown of a ticket in its labels only. -/
theorem agrees_ticketView_iff (now : Time) (ticketLabels : Table TicketLabel.key)
    (ticketEvents : Table TicketEvent.key) (emitted : List DomainEvent) (ticket : Entry Ticket) :
    (w.ticketView ticket).Agrees
        (World.ticketView { w with
          now := now
          ticketLabels := ticketLabels
          ticketEvents := ticketEvents
          emitted := emitted } ticket) ↔
      ∀ label, label ∈ labelsOf w.ticketLabels ticket.id ↔
        label ∈ labelsOf ticketLabels ticket.id := by
  constructor
  · intro agrees label
    have rows := agrees.labels (⟨ticket.id, label⟩, w.labels.find? label)
    rw [mem_labelRows_iff, mem_labelRows_iff] at rows
    constructor
    · intro member
      obtain ⟨_, member', same⟩ := rows.mp ⟨label, member, rfl⟩
      cases same
      exact member'
    · intro member
      obtain ⟨_, member', same⟩ := rows.mpr ⟨label, member, rfl⟩
      cases same
      exact member'
  · intro same
    refine ⟨rfl, rfl, rfl, rfl, rfl, fun label => ?_⟩
    rw [mem_labelRows_iff, mem_labelRows_iff]
    exact exists_congr fun labelId => and_congr_left' (same labelId)

theorem run_getById {ticket : Entry Ticket} (found : w.tickets.find? id = some ticket) :
    (getById id).run World.perform w = (.ok (w.ticketView ticket), w) := by
  rw [getById, run_query_bind (some (w.ticketView ticket)) ?_]
  · rfl
  · refine perform_of_ok ?_
    change Except.ok ((w.tickets.find? id).map w.ticketView, w) = _
    rw [found]
    rfl

/-- **What a patch returns agrees with what is stored exactly when the labels are what they
were.** -/
theorem Patched.agrees_iff {view : TicketView} (patched : w.Patched id dto byAgentId view w') :
    ∃ view', (getById id).run World.perform w' = (.ok view', w') ∧
      (view.Agrees view' ↔ ∀ labels, dto.labels = some labels →
        ∀ label, label ∈ labels ↔ label ∈ labelsOf w.ticketLabels id) := by
  cases patched with
  | mk data now now' ticket ticketLabels builds found relabels =>
      refine ⟨_, run_getById (Table.find?_update_self (data.apply_key now) found), ?_⟩
      refine (agrees_ticketView_iff (w := (w.setNow now).updatedTicket id data) now' ticketLabels
        _ _ ⟨id, data.apply now ticket.val⟩).trans ?_
      change (∀ label, label ∈ labelsOf w.ticketLabels id ↔ label ∈ labelsOf ticketLabels id) ↔ _
      rw [relabels id, if_pos rfl]
      cases dto.labels with
      | none => simp
      | some labels =>
          simp only [Option.getD_some, Option.some.injEq, forall_eq']
          exact forall_congr' fun label => iff_comm

end World

/-! ## Adding a label to several tickets -/

/-- What adding a label to one ticket shows and stores. -/
structure World.AddsLabel (w : World) (labelId : LabelId) (id : TicketId) (view : TicketView)
    (w' : World) : Prop where
  shown : labelId ∈ view.labelIds ↔ labelId ∈ World.labelsOf w.ticketLabels id
  stored : ∀ other, labelId ∈ World.labelsOf w'.ticketLabels other ↔
    other = id ∨ labelId ∈ World.labelsOf w.ticketLabels other

theorem mem_added (labelIds : List LabelId) {labelId : LabelId} :
    labelId ∈ if labelId ∈ labelIds then labelIds else labelIds ++ [labelId] := by
  split
  · assumption
  · exact List.mem_append_right labelIds (List.mem_singleton_self labelId)

theorem alone_bulkOne_label (w : World) (labelId : LabelId) (byAgentId : AgentId) (id : TicketId) :
    Alone (fun _ => True) (bulkOne (.label (some labelId)) byAgentId id)
      (fun r w' => ∀ view, r = .ok view → w.AddsLabel labelId id view w') w := by
  simp only [bulkOne, getById, bind_assoc]
  refine alone_query_bind ((w.tickets.find? id).map w.ticketView) (fun _ _ => trivial)
    (fun _ => rfl) ?_
  cases found : w.tickets.find? id with
  | none =>
      intro w' _ view failed
      cases failed
  | some ticket =>
      simp only [Option.map_some, pure_bind]
      refine (alone_patch w id _ (some byAgentId)).mono ?_
      rintro _ w' outcome view rfl
      cases outcome with
      | patched _ patched =>
          refine ⟨by rw [patched.labelIds], fun other => ?_⟩
          rw [patched.relabels other]
          by_cases same : other = id
          · rw [if_pos same]
            exact iff_of_true (mem_added _) (.inl same)
          · rw [if_neg same]
            exact (or_iff_right same).symm

theorem alone_bulk_label (w : World) (labelId : LabelId) (byAgentId : AgentId)
    (ids : List TicketId) :
    Alone (fun _ => True) (bulk (.label (some labelId)) byAgentId ids)
      (fun r _ => ∀ views, r = .ok views → ((∀ view ∈ views, labelId ∈ view.labelIds) ↔
        ∀ id ∈ ids, labelId ∈ World.labelsOf w.ticketLabels id)) w := by
  induction ids generalizing w with
  | nil =>
      refine alone_pure fun w' _ views same => ?_
      cases same
      simp
  | cons id rest ih =>
      refine alone_bind ((alone_bulkOne_label w labelId byAgentId id).mono fun r w₁ adds => ?_)
      cases r with
      | error e =>
          intro views failed
          cases failed
      | ok view =>
          have one := adds view rfl
          refine alone_bind ((ih w₁).mono fun r w₂ rests => ?_)
          cases r with
          | error e =>
              intro views failed
              cases failed
          | ok views =>
              intro w' _ all same
              cases same
              rw [List.forall_mem_cons, List.forall_mem_cons, one.shown, rests views rfl]
              refine and_congr_right fun shown => forall₂_congr fun other _ => ?_
              rw [one.stored, or_iff_right_of_imp]
              rintro rfl
              exact shown

/-! ## Returned and stored -/

/-- **A patch that runs alone returns what is stored unless its labels change.** A patch that
succeeds returns what `getById` returns right afterwards if and only if it gives no labels, or
the ones that the ticket has. A bulk request that adds a label returns tickets with it if and
only if all of them had it before. -/
theorem patch_returns_stored_iff (w : World) :
    (∀ id dto byAgentId view w',
      (patch id dto byAgentId).Runs World.perform World.Later w (.ok view) w' →
        ∃ view', (getById id).run World.perform w' = (.ok view', w') ∧
          (view.Agrees view' ↔ ∀ labels, dto.labels = some labels →
            ∀ label, label ∈ labels ↔ label ∈ World.labelsOf w.ticketLabels id)) ∧
      ∀ labelId byAgentId ids views w',
        (bulk (.label (some labelId)) byAgentId ids).Runs World.perform World.Later w (.ok views) w' →
          ((∀ view ∈ views, labelId ∈ view.labelIds) ↔
            ∀ id ∈ ids, labelId ∈ World.labelsOf w.ticketLabels id) := by
  constructor
  · intro id dto byAgentId view w' runs
    cases Alone.of_runs runs (alone_patch w id dto byAgentId) with
    | patched _ patched => exact patched.agrees_iff
  · intro labelId byAgentId ids views w' runs
    exact Alone.of_runs runs (alone_bulk_label w labelId byAgentId ids) views rfl

set_option maxRecDepth 4000 in
/-- Label 0 is stored, and neither the patch nor the bulk request shows it. -/
theorem stale_labels_returned :
    (∃ view w' view', (patch 0 { labels := some [0] } (some 0)).run World.perform Triage.store =
        (.ok view, w') ∧ (getById 0).run World.perform w' = (.ok view', w') ∧
        view.labelIds = [] ∧ view'.labelIds = [0] ∧ ¬ view.Agrees view') ∧
      ∃ view w', (bulk (.label (some 0)) 0 [0]).run World.perform Triage.store = (.ok [view], w') ∧
        0 ∉ view.labelIds ∧ World.labelsOf w'.ticketLabels 0 = [0] := by
  refine ⟨⟨_, _, _, rfl, rfl, rfl, rfl, fun agrees => ?_⟩, _, _, rfl, by decide, by decide⟩
  have shown := (agrees.labels (⟨0, 0⟩, some ⟨0, "billing", "#d00"⟩)).mpr (by decide)
  exact absurd shown (by decide)

set_option maxRecDepth 4000 in
theorem unlabelled_patch_returned :
    ∃ view w' view',
      (patch 0 { priority := some .urgent } (some 0)).run World.perform Triage.store =
        (.ok view, w') ∧ (getById 0).run World.perform w' = (.ok view', w') ∧
      view.Agrees view' := by
  obtain ⟨view', read, agrees⟩ := (patch_returns_stored_iff Triage.store).1 0
    { priority := some .urgent } (some 0) _ _ (Program.runs_run World.Later.refl _ _)
  exact ⟨_, _, view', rfl, read, agrees.mpr nofun⟩

end SupportCrm
