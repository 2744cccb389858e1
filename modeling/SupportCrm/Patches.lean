import SupportCrm.Alone
import SupportCrm.Commands
import SupportCrm.Labelling
import SupportCrm.Library.Logs

/-!
# What a patch does

The transaction of a patch goes through exactly when everything that it refers to exists and
its labels are distinct (`patchTransaction_ok_iff`): `createMany` refuses a pair of ticket and
label that is there already. `alone_patch` says what a patch that runs alone returns and
leaves.

`set_labels_iff`: a patch with labels is set assignment if and only if no label is repeated.
A patch that throws has changed nothing, whatever the labels.
-/

set_option autoImplicit false

namespace SupportCrm

open KeyedTable AtomicProgram

/-! ## The transaction -/

/-- What a patch refers to exists, and no label is repeated. -/
structure World.Accepts (w : World) (id : TicketId) (dto : PatchTicketDto)
    (byAgentId : Option AgentId) : Prop where
  ticket : (w.tickets.find? id).isSome
  assignee : w.hasAgent dto.assignee_id.join = true
  team : w.hasTeam dto.team_id.join = true
  agent : w.hasAgent byAgentId = true
  labels : ∀ labels, dto.labels = some labels →
    labels.Nodup ∧ ∀ label ∈ labels, (w.labels.find? label).isSome

namespace World

variable {w : World} {id : TicketId}

theorem accepts_setNow {dto : PatchTicketDto} {byAgentId : Option AgentId} {now : Time} :
    (w.setNow now).Accepts id dto byAgentId ↔ w.Accepts id dto byAgentId :=
  ⟨fun accepts => ⟨accepts.ticket, accepts.assignee, accepts.team, accepts.agent, accepts.labels⟩,
    fun accepts => ⟨accepts.ticket, accepts.assignee, accepts.team, accepts.agent, accepts.labels⟩⟩

theorem free_ticketLabel_iff {ticketLabels : Table TicketLabel.key} {label : LabelId} :
    ticketLabels.Free ⟨id, label⟩ ↔ label ∉ labelsOf ticketLabels id := by
  have key : TicketLabel.key ⟨id, label⟩ = some (id, label) := rfl
  rw [Table.free_iff_findKey? key, Table.findKey?_eq_none_iff]
  constructor
  · intro none member
    obtain ⟨row, listed, rfl⟩ := List.mem_map.mp member
    obtain ⟨stored, own⟩ := List.mem_filter.mp listed
    obtain rfl : row.val.ticketId = id := of_decide_eq_true own
    exact none row stored rfl
  · intro absent row listed same
    obtain ⟨own, rfl⟩ := Prod.mk.injEq _ _ _ _ ▸ Option.some.inj same
    exact absent (List.mem_map.mpr ⟨row, List.mem_filter.mpr ⟨listed, decide_eq_true own⟩, rfl⟩)

/-- Labels are new to a ticket when they are distinct and not there yet. -/
theorem insertLabels_isSome_iff {ticketLabels : Table TicketLabel.key} {labels : List LabelId} :
    (insertLabels ticketLabels id labels).isSome ↔
      labels.Nodup ∧ ∀ label ∈ labels, label ∉ labelsOf ticketLabels id := by
  induction labels generalizing ticketLabels with
  | nil => simp [insertLabels]
  | cons label rest ih =>
      rw [insertLabels_cons]
      by_cases free : ticketLabels.Free ⟨id, label⟩
      · have inserted : ticketLabels.insert? ⟨id, label⟩ =
            some (ticketLabels.insert ⟨id, label⟩ free) := dif_pos free
        have grown : labelsOf (ticketLabels.insert ⟨id, label⟩ free) id =
            labelsOf ticketLabels id ++ [label] := by rw [labelsOf_insert, if_pos rfl]
        rw [inserted, Option.bind_some, ih, grown]
        rw [free_ticketLabel_iff] at free
        simp only [List.mem_append, List.mem_singleton, not_or, List.forall_mem_cons,
          List.nodup_cons]
        constructor
        · rintro ⟨distinct, apart⟩
          exact ⟨⟨fun again => (apart label again).2 rfl, distinct⟩, free,
            fun other member => (apart other member).1⟩
        · rintro ⟨⟨once, distinct⟩, -, apart⟩
          exact ⟨distinct, fun other member =>
            ⟨apart other member, fun same => once (same ▸ member)⟩⟩
      · have refused : ticketLabels.insert? ⟨id, label⟩ = none := dif_neg free
        rw [free_ticketLabel_iff, not_not] at free
        simp [refused, free]

/-- Labels can be added to a ticket when they exist, are distinct and not there yet. -/
theorem labelsCreate_ok_iff {labels : List LabelId} (present : (w.tickets.find? id).isSome) :
    (∃ w', w.labelsCreate id labels = .ok w') ↔
      (∀ label ∈ labels, (w.labels.find? label).isSome) ∧ labels.Nodup ∧
        ∀ label ∈ labels, label ∉ labelsOf w.ticketLabels id := by
  rw [← insertLabels_isSome_iff]
  unfold labelsCreate
  cases insertLabels w.ticketLabels id labels with
  | none => simp
  | some ticketLabels =>
      simp only [present, Bool.and_true, List.all_eq_true, Option.isSome_some, and_true]
      split
      · next known => exact iff_of_true ⟨_, rfl⟩ known
      · next unknown => exact iff_of_false (by rintro ⟨_, ⟨⟩⟩) unknown

/-- The labels of a ticket can be replaced when the new ones exist and are distinct. -/
theorem labelsReplace_ok_iff {labels : Option (List LabelId)}
    (present : (w.tickets.find? id).isSome) :
    (∃ w', w.labelsReplace id labels = .ok w') ↔
      ∀ given, labels = some given →
        given.Nodup ∧ ∀ label ∈ given, (w.labels.find? label).isSome := by
  cases labels with
  | none => exact iff_of_true ⟨w, rfl⟩ nofun
  | some labels =>
      have emptied : labelsOf (w.labelsDelete id).ticketLabels id = [] := by
        rw [labelsOf_labelsDelete, if_pos rfl]
      refine (labelsCreate_ok_iff (w := w.labelsDelete id) present).trans ?_
      rw [emptied]
      simp only [Option.some.injEq, forall_eq', List.not_mem_nil, not_false_eq_true, implies_true,
        and_true]
      exact and_comm

theorem ticketEventCreate_ok_iff {agentId : Option AgentId} (payload : TicketEventPayload)
    (present : (w.tickets.find? id).isSome) :
    (∃ w', w.ticketEventCreate id agentId payload = .ok w') ↔ w.hasAgent agentId = true := by
  rw [ticketEventCreate, present, Bool.true_and]
  split
  · next agent => exact iff_of_true ⟨_, rfl⟩ agent
  · next absent => exact iff_of_false (by rintro ⟨_, ⟨⟩⟩) absent

/-- The world with the row of a ticket updated at a given time. -/
def updatedTicketAt (w : World) (now : Time) (id : TicketId) (data : TicketData) : World :=
  { w with tickets := w.tickets.update id (data.apply now) (data.apply_key now) }

/-- The world where the transaction reads its answer. -/
def updatedTicket (w : World) (id : TicketId) (data : TicketData) : World :=
  w.updatedTicketAt w.now id data

/-- **The transaction of a patch goes through exactly when the patch is accepted.** -/
theorem patchTransaction_ok_iff {data : TicketData} {dto : PatchTicketDto}
    {byAgentId : Option AgentId} (builds : dto.Builds byAgentId data) :
    (∃ out, w.patchTransaction id data dto byAgentId = .ok out) ↔ w.Accepts id dto byAgentId := by
  obtain ⟨assignee, team, closedBy⟩ := builds.refers
  have written (present : (w.tickets.find? id).isSome) :
      ((w.updatedTicket id data).tickets.find? id).isSome :=
    (Table.isSome_find?_update (data.apply_key w.now) id).trans present
  constructor
  · rintro ⟨⟨view, w'⟩, ok⟩
    simp only [patchTransaction, bind_eq_ok_iff] at ok
    obtain ⟨w₁, updated, viewed, -, w₂, labelled, w₃, logged, -⟩ := ok
    obtain ⟨present, refers, rfl⟩ := ticketUpdate_eq_ok_iff.mp updated
    simp only [Bool.and_eq_true] at refers
    have named := (labelsReplace_ok_iff (written present)).mp ⟨w₂, labelled⟩
    obtain ⟨ticketLabels, rfl, -⟩ := labelsReplace_eq_ok labelled
    have agent := (ticketEventCreate_ok_iff (w := { w.updatedTicket id data with
      ticketLabels := ticketLabels }) (.updated dto) (written present)).mp ⟨w₃, logged⟩
    exact ⟨present, assignee ▸ refers.1.1, team ▸ refers.1.2, agent, named⟩
  · intro accepts
    have closes : w.hasAgent data.closedBy = true := by
      rcases closedBy with none | same
      · rw [none]
        rfl
      · rw [same]
        exact accepts.agent
    have updated : w.ticketUpdate .recordNotFound id data = .ok (w.updatedTicket id data) :=
      ticketUpdate_eq_ok_iff.mpr
        ⟨accepts.ticket, by simp [assignee, team, accepts.assignee, accepts.team, closes], rfl⟩
    obtain ⟨ticket, found⟩ := Option.isSome_iff_exists.mp (written accepts.ticket)
    obtain ⟨w₂, labelled⟩ := (labelsReplace_ok_iff (written accepts.ticket)).mpr accepts.labels
    obtain ⟨ticketLabels, rfl, -⟩ := labelsReplace_eq_ok labelled
    obtain ⟨w₃, logged⟩ := (ticketEventCreate_ok_iff (w := { w.updatedTicket id data with
      ticketLabels := ticketLabels }) (.updated dto) (written accepts.ticket)).mpr accepts.agent
    refine ⟨((w.updatedTicket id data).ticketView ticket, w₃), ?_⟩
    simp only [patchTransaction, bind_eq_ok_iff]
    exact ⟨_, updated, _, viewOf_of_some (w := w.updatedTicket id data) found, _, labelled, _,
      logged, rfl⟩

/-- The transaction answers with the ticket as it is before its labels are replaced. -/
theorem patchTransaction_view {data : TicketData} {dto : PatchTicketDto}
    {byAgentId : Option AgentId} {ticket : Entry Ticket} (found : w.tickets.find? id = some ticket)
    {view : TicketView} {w' : World}
    (ok : w.patchTransaction id data dto byAgentId = .ok (view, w')) :
    view = (w.updatedTicket id data).ticketView ⟨id, data.apply w.now ticket.val⟩ := by
  simp only [patchTransaction, bind_eq_ok_iff] at ok
  obtain ⟨w₁, updated, viewed, read, w₂, -, w₃, -, same⟩ := ok
  cases same
  obtain ⟨-, -, rfl⟩ := ticketUpdate_eq_ok_iff.mp updated
  have found' := Table.find?_update_self (data.apply_key w.now) found
  rw [viewOf_of_some found'] at read
  exact (Except.ok.inj read).symm

end World

/-! ## The whole patch -/

namespace World

variable {w : World} {id : TicketId} {dto : PatchTicketDto} {byAgentId : Option AgentId}

/-- What a patch that goes through returns and leaves. -/
inductive Patched (w : World) (id : TicketId) (dto : PatchTicketDto) (byAgentId : Option AgentId) :
    TicketView → World → Prop where
  | mk (data : TicketData) (now now' : Time) (ticket : Entry Ticket)
      (ticketLabels : Table TicketLabel.key) (builds : dto.Builds byAgentId data)
      (found : w.tickets.find? id = some ticket)
      (relabels : Relabels w.ticketLabels ticketLabels id dto.labels) :
      Patched w id dto byAgentId
        (((w.setNow now).updatedTicket id data).ticketView ⟨id, data.apply now ticket.val⟩)
        { w with
          now := now'
          tickets := w.tickets.update id (data.apply now) (data.apply_key now)
          ticketLabels := ticketLabels
          ticketEvents := w.ticketEvents.insert ⟨id, byAgentId, .updated dto, now⟩ TicketEvent.free
          emitted := w.emitted ++ .ticketUpdated id dto ::
            if dto.status = some .closed then [.ticketClosed id byAgentId] else [] }

/-- What a patch that runs alone comes to. -/
inductive PatchOutcome (w : World) (id : TicketId) (dto : PatchTicketDto)
    (byAgentId : Option AgentId) : Except Err TicketView → World → Prop where
  | patched {view : TicketView} {w' : World} (accepts : w.Accepts id dto byAgentId)
      (patched : w.Patched id dto byAgentId view w') : PatchOutcome w id dto byAgentId (.ok view) w'
  | refused (e : Err) {w' : World} (refuses : ¬ w.Accepts id dto byAgentId) (later : w.Later w') :
      PatchOutcome w id dto byAgentId (.error e) w'

end World

/-- The update is built from the request while time passes. -/
theorem alone_patchData {α : Type} {w : World} {S : World → Prop} {Q : Except Err α → World → Prop}
    {dto : PatchTicketDto} {byAgentId : Option AgentId} {k : TicketData → App α}
    (here : Stoppable S w)
    (rest : ∀ data now, w.now ≤ now → dto.Builds byAgentId data →
      Alone S (k data) Q (w.setNow now)) :
    Alone S (patchData dto byAgentId >>= k) Q w := by
  unfold patchData
  split
  · next closed =>
    rw [bind_assoc]
    refine alone_newDate_bind here fun now up => rest _ now up ?_
    rw [PatchTicketDto.Builds, closed]
    exact ⟨now, rfl⟩
  · next solved =>
    rw [bind_assoc]
    refine alone_newDate_bind here fun now up => rest _ now up ?_
    rw [PatchTicketDto.Builds, solved]
    exact ⟨now, rfl⟩
  · next notClosed notSolved =>
    refine rest dto.data w.now le_rfl ?_
    unfold PatchTicketDto.Builds
    split
    · next closed => exact absurd closed notClosed
    · next solved => exact absurd solved notSolved
    · rfl

/-- **A patch that runs alone goes through exactly when it is accepted**, and a refused one
changes nothing. -/
theorem alone_patch (w : World) (id : TicketId) (dto : PatchTicketDto)
    (byAgentId : Option AgentId) :
    Alone (fun _ => True) (patch id dto byAgentId) (w.PatchOutcome id dto byAgentId) w := by
  have here : ∀ v, Stoppable (fun _ => True) v := fun _ _ _ => trivial
  simp only [patch, getById, bind_assoc]
  refine alone_query_bind ((w.tickets.find? id).map w.ticketView) (here w) (fun now => rfl) ?_
  cases found : w.tickets.find? id with
  | none =>
      intro w' later
      refine .refused _ (fun accepts => ?_) later
      have present := accepts.ticket
      rw [found] at present
      cases present
  | some ticket =>
      simp only [Option.map_some, pure_bind]
      refine alone_patchData (here w) fun data first up builds => ?_
      refine alone_bind (sat_perform fun w' later _ => ⟨trivial, fun w'' later' => ?_⟩)
      obtain ⟨now, up', rfl⟩ := later
      cases answered : ((w.setNow first).setNow now |>.perform
          (.patchTransaction id data dto byAgentId)).1 with
      | error e =>
          rw [World.perform_error answered] at later'
          have later : w.Later w'' := World.Later.trans _ _ _ ⟨now, up.trans up', rfl⟩ later'
          refine .refused e (fun accepts => ?_) later
          obtain ⟨out, ok⟩ := (World.patchTransaction_ok_iff (w := w.setNow now) builds).mpr
            (World.accepts_setNow.mpr accepts)
          have done := World.perform_of_ok (c := .patchTransaction id data dto byAgentId) ok
          cases answered.symm.trans (congrArg Prod.fst done)
      | ok view =>
          have ok := World.effect_of_perform_ok answered
          have accepts := World.accepts_setNow.mp
            ((World.patchTransaction_ok_iff (w := w.setNow now) builds).mp ⟨_, ok⟩)
          obtain ⟨-, ticketLabels, relabels, after⟩ := World.patchTransaction_eq_ok ok
          obtain rfl := World.patchTransaction_view (w := w.setNow now) found ok
          refine Sat.move World.Later.trans ?_ later'
          rw [after]
          refine alone_emit_bind (here _) ?_
          split
          · next closed =>
            refine alone_emit_bind (here _) (alone_pure fun w₃ later'' => ?_)
            obtain ⟨now', -, rfl⟩ := later''
            have patched := World.Patched.mk data now now' ticket ticketLabels builds found relabels
            rw [if_pos closed, List.append_cons] at patched
            exact .patched accepts patched
          · next other =>
            refine alone_pure fun w₃ later'' => ?_
            obtain ⟨now', -, rfl⟩ := later''
            have patched := World.Patched.mk data now now' ticket ticketLabels builds found relabels
            rw [if_neg other] at patched
            exact .patched accepts patched

/-! ## Failing -/

/-- **A patch that throws has changed nothing**, whatever runs beside it: each of its commands
has left the world as it found it. -/
theorem patch_throws {id : TicketId} {dto : PatchTicketDto} {byAgentId : Option AgentId}
    {log : List (Call × World)} {e : Err}
    (logs : (patch id dto byAgentId).Logs World.perform log (.error e)) :
    ∀ entry ∈ log, (entry.2.perform entry.1).2 = entry.2 := by
  have idle : ∀ {α : Type} {p : App α} {log : List (Call × World)} {r : Except Err α},
      p.Always (fun c => c.reads = true) → p.Logs World.perform log r →
        ∀ entry ∈ log, (entry.2.perform entry.1).2 = entry.2 :=
    fun always logs entry member =>
      entry.2.perform_of_reads (logs.forall_of_always always entry member)
  have found := getById_always (P := fun c => c.reads = true) (fun _ reads => reads) id
  have built := patchData_always (P := fun c => c.reads = true) (fun _ reads => reads) dto byAgentId
  unfold patch at logs
  rcases Program.logs_bind_iff.mp logs with
    ⟨first, view, rest, rfl, looked, patched⟩ | ⟨_, -, looked⟩
  · rcases Program.logs_bind_iff.mp patched with
      ⟨second, data, rest', rfl, dated, written⟩ | ⟨_, -, dated⟩
    · obtain ⟨w, ⟨answer, rest'', _, _, emits⟩ | ⟨_, failed, rfl, -⟩⟩ :=
        Program.logs_perform_bind_iff.mp written
      · -- once the transaction is done, what follows cannot fail
        obtain ⟨w', ⟨_, rest₃, _, _, closes⟩ | ⟨_, failed, -, -⟩⟩ :=
          Program.logs_perform_bind_iff.mp emits
        · split at closes
          · obtain ⟨w'', ⟨_, rest₄, _, _, ended⟩ | ⟨_, failed, -, -⟩⟩ :=
              Program.logs_perform_bind_iff.mp closes
            · cases (Program.logs_pure_iff.mp ended).2
            · cases failed
          · cases (Program.logs_pure_iff.mp closes).2
        · cases failed
      · intro entry member
        simp only [List.mem_append, List.mem_singleton] at member
        rcases member with read | read | rfl
        · exact idle found looked entry read
        · exact idle built dated entry read
        · exact World.perform_error failed
    · intro entry member
      rcases List.mem_append.mp member with read | read
      · exact idle found looked entry read
      · exact idle built dated entry read
  · exact idle found looked

/-! ## Labels -/

/-- The patch has succeeded, the ticket has the labels of the list, no other ticket has changed
its labels, and one event has been logged. -/
structure World.SetsLabels (w : World) (id : TicketId) (dto : PatchTicketDto)
    (labels : List LabelId) (r : Except Err TicketView) (w' : World) : Prop where
  succeeds : ∃ view, r = .ok view
  labelled : ∀ label, label ∈ labelsOf w'.ticketLabels id ↔ label ∈ labels
  others : ∀ other, other ≠ id → labelsOf w'.ticketLabels other = labelsOf w.ticketLabels other
  logged : ∃ event, w'.ticketEvents.rows = w.ticketEvents.rows ++ [event] ∧
    event.val.ticketId = id ∧ event.val.payload = .updated dto

theorem World.Patched.setsLabels {w w' : World} {id : TicketId} {dto : PatchTicketDto}
    {byAgentId : Option AgentId} {labels : List LabelId} {view : TicketView}
    (patched : w.Patched id dto byAgentId view w') (named : dto.labels = some labels) :
    w.SetsLabels id dto labels (.ok view) w' := by
  cases patched with
  | mk data now now' ticket ticketLabels builds found relabels =>
      rw [named] at relabels
      refine ⟨⟨_, rfl⟩, fun label => ?_, fun other ne => ?_, ⟨_, rfl, rfl, rfl⟩⟩
      · rw [relabels id, if_pos rfl, Option.getD_some]
      · rw [relabels other, if_neg ne]

/-- **Replacing labels is set assignment unless a label is repeated.** For a ticket that exists,
labels that exist, and an assignee, a team and an agent that exist where they are named, the
patch succeeds and sets the labels, and a patch that throws changes nothing, if and only if
the list has no label twice. -/
theorem set_labels_iff (w : World) (id : TicketId) (dto : PatchTicketDto)
    (byAgentId : Option AgentId) (labels : List LabelId) (named : dto.labels = some labels)
    (ticket : (w.tickets.find? id).isSome)
    (known : ∀ label ∈ labels, (w.labels.find? label).isSome)
    (assignee : w.hasAgent dto.assignee_id.join = true) (team : w.hasTeam dto.team_id.join = true)
    (agent : w.hasAgent byAgentId = true) :
    ((∀ r w', (patch id dto byAgentId).Runs World.perform World.Later w r w' →
        w.SetsLabels id dto labels r w') ∧
      ∀ other dto' byAgentId' log e,
        (patch other dto' byAgentId').Logs World.perform log (.error e) →
          ∀ entry ∈ log, (entry.2.perform entry.1).2 = entry.2) ↔ labels.Nodup := by
  rw [and_iff_left fun _ _ _ _ _ logs => patch_throws logs]
  constructor
  · intro sets
    have run := Program.runs_run (H := World.perform) World.Later.refl (patch id dto byAgentId) w
    obtain ⟨view, ok⟩ := (sets _ _ run).succeeds
    have outcome := Alone.of_runs run (alone_patch w id dto byAgentId)
    rw [ok] at outcome
    cases outcome with
    | patched accepts _ => exact (accepts.labels labels named).1
  · intro distinct r w' runs
    have accepts : w.Accepts id dto byAgentId :=
      ⟨ticket, assignee, team, agent, fun given same => by
        cases named.symm.trans same
        exact ⟨distinct, known⟩⟩
    cases Alone.of_runs runs (alone_patch w id dto byAgentId) with
    | patched _ patched => exact patched.setsLabels named
    | refused e refuses _ => exact absurd accepts refuses

set_option maxRecDepth 4000 in
/-- A list that names a label twice is refused, although the ticket and the label exist. -/
theorem repeated_label_refused :
    (Triage.store.tickets.find? 0).isSome ∧ (Triage.store.labels.find? 0).isSome ∧
      ((patch 0 { labels := some [0, 0] } (some 0)).run World.perform Triage.store).1 =
        .error .uniqueConstraint ∧
      ¬ ∀ r w', (patch 0 { labels := some [0, 0] } (some 0)).Runs World.perform World.Later
        Triage.store r w' → Triage.store.SetsLabels 0 { labels := some [0, 0] } [0, 0] r w' := by
  have refused : ((patch 0 { labels := some [0, 0] } (some 0)).run World.perform Triage.store).1 =
      .error .uniqueConstraint := by rfl
  refine ⟨by decide, by decide, refused, fun sets => ?_⟩
  obtain ⟨view, ok⟩ := (sets _ _ (Program.runs_run World.Later.refl _ _)).succeeds
  cases refused.symm.trans ok

set_option maxRecDepth 4000 in
theorem distinct_labels_set :
    ∃ r w', (patch 0 { labels := some [1, 0] } (some 0)).run World.perform Triage.store = (r, w') ∧
      Triage.store.SetsLabels 0 { labels := some [1, 0] } [1, 0] r w' := by
  have sets := ((set_labels_iff Triage.store 0 { labels := some [1, 0] } (some 0) [1, 0] rfl
    (by decide) (by decide) rfl rfl (by decide)).mpr (by decide)).1
  exact ⟨_, _, rfl, sets _ _ (Program.runs_run World.Later.refl _ _)⟩

end SupportCrm
