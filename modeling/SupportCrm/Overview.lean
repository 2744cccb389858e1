import SupportCrm.DailyReport
import SupportCrm.Footprint
import SupportCrm.Patches

/-!
# The overview

`AnalyticsService.getOverview` counts the tickets of a range once in all, once by agent and once by
label. It asks the database for the groups, which come in any order and without those that are
empty, and looks up the names.

`overview_named` says what the rows are, in every state of a run: the agents and labels that tickets
refer to are there (`World.Refers`), and a ticket has a label once. `overview_agrees_iff` compares
the total with the report of the chats, which is put together from stored days: the range of the
overview is cut to the millisecond, that of the report is not.
-/

set_option autoImplicit false

namespace SupportCrm

open KeyedTable AtomicProgram Buckets

/-! ## The service -/

structure AgentLoad where
  agentId : Option AgentId
  agentName : Option String
  count : ℕ
  deriving DecidableEq, Repr

structure LabelVolume where
  labelId : LabelId
  labelName : Option String
  count : ℕ
  deriving DecidableEq, Repr

structure Overview where
  ticketsCreated : ℕ
  byAgent : List AgentLoad
  byLabel : List LabelVolume
  deriving DecidableEq, Repr

/-- `{ gte: from, lte: to }`. -/
def AnalyticsRange.has (params : AnalyticsRange) (time : Time) : Bool :=
  params.from ≤ time && time ≤ params.to

namespace World

/-- The tickets that were created in the range. -/
def createdIn (w : World) (params : AnalyticsRange) : List (Entry Ticket) :=
  w.tickets.rows.filter fun row => params.has row.val.createdAt

/-- The labels of these tickets. -/
def labelledIn (w : World) (params : AnalyticsRange) : List (Entry TicketLabel) :=
  w.ticketLabels.rows.filter fun row =>
    (w.tickets.find? row.val.ticketId).any fun ticket => params.has ticket.val.createdAt

/-- What the database answers to the two grouped queries. -/
structure OverviewGroups (w : World) (params : AnalyticsRange) where
  byAgentRaw : GroupBy (w.createdIn params) fun row => row.val.assigneeId
  byLabelRaw : GroupBy (w.labelledIn params) fun row => row.val.labelId

def overviewGroups (w : World) (params : AnalyticsRange) : OverviewGroups w params :=
  ⟨.inOrder _ _, .inOrder _ _⟩

/-- `AnalyticsService.getOverview`. `names` is the column `name` of the agents, which only the
overview reads. -/
def getOverview (w : World) (names : AgentId → String) (params : AnalyticsRange)
    (database : OverviewGroups w params) : Overview :=
  let agentIds := database.byAgentRaw.stats.filterMap Prod.fst
  let agents := w.agents.rows.filter fun agent => agent.id ∈ agentIds
  let labels := w.labels.rows.filter fun label =>
    label.id ∈ database.byLabelRaw.stats.map Prod.fst
  { ticketsCreated := (w.createdIn params).length
    byAgent := database.byAgentRaw.stats.map fun row =>
      { agentId := row.1
        agentName :=
          match row.1 with
          | some assigneeId =>
              (agents.find? fun agent => agent.id = assigneeId).map fun agent => names agent.id
          | none => some "Unassigned"
        count := row.2 }
    byLabel := database.byLabelRaw.stats.map fun row =>
      { labelId := row.1
        labelName := (labels.find? fun label => label.id = row.1).map fun label => label.val.name
        count := row.2 } }

end World

/-- `AnalyticsController.overview`. An invalid date is refused by the first query. -/
def AnalyticsController.overview (newDate : String → Option Time) (names : AgentId → String)
    (database : (w : World) → (params : AnalyticsRange) → w.OverviewGroups params)
    (query : AnalyticsRangeQueryDto) (r : Reporting) : Option Overview := do
  let start ← newDate query.from
  let stop ← newDate query.to
  let params : AnalyticsRange := ⟨start, endOfDay stop, none⟩
  return r.world.getOverview names params (database r.world params)

/-! ## What tickets name -/

namespace World

variable {w : World}

/-- The agents and labels that tickets name are there. -/
structure Refers (w : World) : Prop where
  assignee : ∀ ticket ∈ w.tickets.rows, w.hasAgent ticket.val.assigneeId = true
  label : ∀ row ∈ w.ticketLabels.rows, (w.labels.find? row.val.labelId).isSome

/-- No command removes an agent. -/
theorem hasAgent_perform (w : World) (c : Call) (agentId : Option AgentId) :
    (w.perform c).2.hasAgent agentId = w.hasAgent agentId := by
  have step := w.perform_step c
  generalize (w.perform c).2 = w' at step
  cases step
  case agents id isActive agents same =>
    cases agentId with
    | none => rfl
    | some agentId => exact same agentId
  all_goals rfl

theorem labelTable_perform (w : World) (c : Call) : (w.perform c).2.labels = w.labels := by
  have step := w.perform_step c
  generalize (w.perform c).2 = w' at step
  cases step <;> rfl

/-- Only a patch changes the labels of tickets. -/
theorem ticketLabels_perform (w : World) (c : Call) :
    (w.perform c).2.ticketLabels = w.ticketLabels ∨
      ∃ id data dto byAgentId, c = .patchTransaction id data dto byAgentId ∧
        Relabels w.ticketLabels (w.perform c).2.ticketLabels id dto.labels := by
  have step := w.perform_step c
  generalize (w.perform c).2 = w' at step
  cases step
  case patch id data dto byAgentId ticketLabels present relabels =>
    exact .inr ⟨id, data, dto, byAgentId, rfl, relabels⟩
  all_goals exact .inl rfl

theorem hasAgent_of_ticketCreate {data : NewTicket} {view : TicketView} {w' : World}
    (ok : w.ticketCreate data = .ok (view, w')) : w.hasAgent data.assigneeId = true := by
  unfold ticketCreate at ok
  split at ok
  · next related =>
    simp only [Bool.and_eq_true] at related
    exact related.2
  · cases ok

/-- Whom an update that takes effect assigns exists. -/
theorem hasAgent_of_update {c : Call} {request : Request} (performs : request.Performs c)
    {answer : c.Resp} (ok : (w.perform c).1 = .ok answer) {id : TicketId} {data : TicketData}
    (update : c.ticketData w.now = some (id, data)) : w.hasAgent data.assignee.join = true := by
  have effect := effect_of_perform_ok ok
  cases Call.updates_of_ticketData update with
  | patch =>
      rw [performs.builds.refers.1]
      exact ((patchTransaction_ok_iff performs.builds).mp ⟨_, effect⟩).assignee
  | assign =>
      simp only [World.effect, assignTransaction, bind_eq_ok_iff] at effect
      obtain ⟨w₁, updated, -⟩ := effect
      have related := (ticketUpdate_eq_ok_iff.mp updated).2.1
      simp only [Bool.and_eq_true] at related
      exact related.1.1
  | close | record | reply => rfl

/-- After a command that takes effect, the assignees of all tickets exist. -/
theorem Refers.assignee_perform (refers : w.Refers) {c : Call} {request : Request}
    (performs : request.Performs c) {answer : c.Resp} (answered : (w.perform c).1 = .ok answer)
    {ticket : Entry Ticket} (member : ticket ∈ (w.perform c).2.tickets.rows) :
    w.hasAgent ticket.val.assigneeId = true := by
  rcases w.tickets_perform c with same | ⟨data, rfl, same⟩ | ⟨id, data, update, same⟩
  · exact refers.assignee ticket (same ▸ member)
  · rw [same] at member
    rcases (Table.mem_insert Ticket.free).mp member with old | rfl
    · exact refers.assignee ticket old
    · exact hasAgent_of_ticketCreate (effect_of_perform_ok answered)
  · rw [same] at member
    obtain ⟨old, before, rfl⟩ := List.mem_map.mp member
    unfold Entry.change
    split
    · have assigned := hasAgent_of_update performs answered update
      cases given : data.assignee with
      | none => simpa [TicketData.apply, given] using refers.assignee old before
      | some agentId => simpa [TicketData.apply, given] using assigned
    · exact refers.assignee old before

/-- And so do their labels. -/
theorem Refers.label_perform (refers : w.Refers) {c : Call} {request : Request}
    (performs : request.Performs c) {answer : c.Resp} (answered : (w.perform c).1 = .ok answer)
    {row : Entry TicketLabel} (member : row ∈ (w.perform c).2.ticketLabels.rows) :
    (w.labels.find? row.val.labelId).isSome := by
  rcases w.ticketLabels_perform c with same | ⟨id, data, dto, byAgentId, rfl, relabels⟩
  · exact refers.label row (same ▸ member)
  · have listed : row.val.labelId ∈
        labelsOf (w.perform (.patchTransaction id data dto byAgentId)).2.ticketLabels
          row.val.ticketId :=
      List.mem_map_of_mem (List.mem_filter.mpr ⟨member, decide_eq_true rfl⟩)
    have kept : row.val.labelId ∈ labelsOf w.ticketLabels row.val.ticketId →
        (w.labels.find? row.val.labelId).isSome := by
      intro old
      obtain ⟨row', stored, same⟩ := List.mem_map.mp old
      rw [← same]
      exact refers.label row' (List.mem_of_mem_filter stored)
    rw [relabels] at listed
    split at listed
    · next own =>
      cases given : dto.labels with
      | none =>
          rw [given, Option.getD_none, ← own] at listed
          exact kept listed
      | some labels =>
          rw [given, Option.getD_some] at listed
          have accepts := (patchTransaction_ok_iff performs.builds).mp
            ⟨_, effect_of_perform_ok answered⟩
          exact (accepts.labels labels given).2 _ listed
    · exact kept listed

/-- **Every command of a request keeps the references.** -/
theorem Refers.perform (refers : w.Refers) {c : Call} {request : Request}
    (performs : request.Performs c) : (w.perform c).2.Refers := by
  cases answered : (w.perform c).1 with
  | error e =>
      rw [perform_error answered]
      exact refers
  | ok answer =>
      constructor
      · intro ticket member
        rw [hasAgent_perform]
        exact refers.assignee_perform performs answered member
      · intro row member
        rw [labelTable_perform]
        exact refers.label_perform performs answered member

theorem Refers.after (refers : w.Refers) (config : Config) (requests : List Request)
    (schedule : List (Act ℕ)) : (w.after config requests schedule).Refers := by
  refine Pool.invariant_exec (I := World.Refers) ?_ ?_
    (Requests.meets_performs config requests w schedule) refers
  · rintro i c w ⟨request, -, performs⟩ refers
    exact refers.perform performs
  · exact fun _ _ _ refers => ⟨refers.assignee, refers.label⟩

end World

/-! ## The rows of the overview -/

namespace World

variable {w : World} {params : AnalyticsRange}

/-- A ticket has a label once, so the rows of a label are its tickets. -/
theorem countP_labelledIn (w : World) (params : AnalyticsRange) (labelId : LabelId) :
    ((w.labelledIn params).countP fun row => row.val.labelId = labelId) =
      (w.createdIn params).countP fun ticket => labelId ∈ labelsOf w.ticketLabels ticket.id := by
  have rows : (((w.labelledIn params).filter fun row => row.val.labelId = labelId).map
      fun row => row.val.ticketId).Nodup := by
    have distinct := (w.ticketLabels.unique.filter (fun row : Entry TicketLabel =>
      (w.tickets.find? row.val.ticketId).any fun ticket => params.has ticket.val.createdAt)).filter
        fun row => row.val.labelId = labelId
    refine List.pairwise_map.mpr (distinct.imp_of_mem fun {row row'} member member' apart same => ?_)
    have own : row.val.labelId = labelId := of_decide_eq_true (List.mem_filter.mp member).2
    have own' : row'.val.labelId = labelId := of_decide_eq_true (List.mem_filter.mp member').2
    rcases apart with none | differ
    · cases none
    · exact differ (congrArg some (Prod.ext same (own.trans own'.symm)))
  have tickets : (((w.createdIn params).filter fun ticket =>
      labelId ∈ labelsOf w.ticketLabels ticket.id).map Entry.id).Nodup :=
    w.tickets.ids.sublist ((List.filter_sublist.trans List.filter_sublist).map _)
  rw [List.countP_eq_length_filter, List.countP_eq_length_filter,
    ← List.length_map fun row : Entry TicketLabel => row.val.ticketId,
    ← List.length_map (Entry.id (ρ := Ticket))]
  refine ((List.perm_ext_iff_of_nodup rows tickets).mpr fun id => ?_).length_eq
  constructor
  · intro member
    obtain ⟨row, listed, rfl⟩ := List.mem_map.mp member
    obtain ⟨inRange, own⟩ := List.mem_filter.mp listed
    obtain ⟨stored, found⟩ := List.mem_filter.mp inRange
    obtain ⟨ticket, found, has⟩ := (Option.any_eq_true _ _).mp found
    obtain ⟨present, same⟩ := Table.find?_eq_some_iff.mp found
    refine List.mem_map.mpr ⟨ticket, List.mem_filter.mpr
      ⟨List.mem_filter.mpr ⟨present, has⟩, decide_eq_true ?_⟩, same⟩
    exact List.mem_map.mpr
      ⟨row, List.mem_filter.mpr ⟨stored, decide_eq_true same.symm⟩, of_decide_eq_true own⟩
  · intro member
    obtain ⟨ticket, listed, rfl⟩ := List.mem_map.mp member
    obtain ⟨inRange, own⟩ := List.mem_filter.mp listed
    obtain ⟨present, has⟩ := List.mem_filter.mp inRange
    obtain ⟨row, stored, label⟩ := List.mem_map.mp (of_decide_eq_true own)
    obtain ⟨stored, same⟩ := List.mem_filter.mp stored
    have same : row.val.ticketId = ticket.id := of_decide_eq_true same
    refine List.mem_map.mpr ⟨row, List.mem_filter.mpr
      ⟨List.mem_filter.mpr ⟨stored, ?_⟩, decide_eq_true label⟩, same⟩
    rw [same, Table.find?_self present]
    exact has

variable {names : AgentId → String} {database : w.OverviewGroups params}

theorem sum_byAgent : ((w.getOverview names params database).byAgent.map AgentLoad.count).sum =
    (w.getOverview names params database).ticketsCreated := by
  have total := database.byAgentRaw.sum_filter fun _ => true
  rw [List.filter_true, List.countP_true] at total
  rw [getOverview, List.map_map]
  exact total

/-- Tickets are assigned to agents that are there. -/
theorem Refers.agentName (refers : w.Refers) {load : AgentLoad}
    (listed : load ∈ (w.getOverview names params database).byAgent) :
    load.agentName = some (load.agentId.elim "Unassigned" names) := by
  obtain ⟨⟨group, count⟩, member, rfl⟩ := List.mem_map.mp listed
  cases group with
  | none => rfl
  | some agentId =>
      obtain ⟨ticket, inRange, own⟩ :=
        (database.byAgentRaw.groups (some agentId)).mp (List.mem_map_of_mem (f := Prod.fst) member)
      have known := refers.assignee ticket (List.mem_of_mem_filter inRange)
      rw [own, hasAgent, Option.all_some] at known
      obtain ⟨agent, found⟩ := Option.isSome_iff_exists.mp known
      have asked : agentId ∈ database.byAgentRaw.stats.filterMap Prod.fst :=
        List.mem_filterMap.mpr ⟨_, member, rfl⟩
      simp only
      rw [Table.find?_filter_of_mem w.agents asked, found, Option.map_some, Table.id_of_find? found]
      rfl

/-- Tickets have labels that are there. -/
theorem Refers.labelName (refers : w.Refers) {volume : LabelVolume}
    (listed : volume ∈ (w.getOverview names params database).byLabel) :
    ∃ label, w.labels.find? volume.labelId = some label ∧
      volume.labelName = some label.val.name := by
  obtain ⟨stat, member, rfl⟩ := List.mem_map.mp listed
  have asked := List.mem_map_of_mem (f := Prod.fst) member
  obtain ⟨row, inRange, own⟩ := (database.byLabelRaw.groups stat.1).mp asked
  obtain ⟨label, found⟩ := Option.isSome_iff_exists.mp
    (refers.label row (List.mem_of_mem_filter inRange))
  rw [own] at found
  refine ⟨label, found, ?_⟩
  simp only
  rw [Table.find?_filter_of_mem w.labels asked, found, Option.map_some]

theorem count_byLabel {volume : LabelVolume}
    (listed : volume ∈ (w.getOverview names params database).byLabel) :
    volume.count = (w.createdIn params).countP fun ticket =>
      volume.labelId ∈ labelsOf w.ticketLabels ticket.id := by
  obtain ⟨stat, member, rfl⟩ := List.mem_map.mp listed
  exact (database.byLabelRaw.counts stat member).trans (w.countP_labelledIn params stat.1)

theorem mem_byLabel {ticket : Entry Ticket} (inRange : ticket ∈ w.createdIn params)
    {labelId : LabelId} (has : labelId ∈ labelsOf w.ticketLabels ticket.id) :
    ∃ volume ∈ (w.getOverview names params database).byLabel, volume.labelId = labelId := by
  have counted : 0 < (w.createdIn params).countP fun ticket =>
      labelId ∈ labelsOf w.ticketLabels ticket.id :=
    List.countP_pos_iff.mpr ⟨ticket, inRange, decide_eq_true has⟩
  rw [← countP_labelledIn, List.countP_pos_iff] at counted
  obtain ⟨row, listed, own⟩ := counted
  obtain ⟨stat, member, same⟩ := List.mem_map.mp
    ((database.byLabelRaw.groups labelId).mpr ⟨row, listed, of_decide_eq_true own⟩)
  exact ⟨_, List.mem_map_of_mem member, same⟩

end World

/-- **The overview counts tickets and names what it counts.** In every state of a run, and in
whatever order the groups come: the load by agent adds up to the tickets of the range, and each load
has the name of its agent or is that of the unassigned tickets; each volume by label has the name of
its label and counts the tickets of the range that carry it, and no label that they carry is
missing. -/
theorem overview_named (config : Config) (requests : List Request) {w w' : World}
    (refers : w.Refers) (schedule : List (Act ℕ)) (run : w' = w.after config requests schedule)
    (names : AgentId → String) (params : AnalyticsRange) (database : w'.OverviewGroups params) :
    let overview := w'.getOverview names params database
    (overview.byAgent.map AgentLoad.count).sum = overview.ticketsCreated ∧
      (∀ load ∈ overview.byAgent, load.agentName = some (load.agentId.elim "Unassigned" names)) ∧
      (∀ volume ∈ overview.byLabel,
        (∃ label, w'.labels.find? volume.labelId = some label ∧
          volume.labelName = some label.val.name) ∧
        volume.count = (w'.createdIn params).countP fun ticket =>
          volume.labelId ∈ World.labelsOf w'.ticketLabels ticket.id) ∧
      ∀ ticket ∈ w'.createdIn params, ∀ labelId ∈ World.labelsOf w'.ticketLabels ticket.id,
        ∃ volume ∈ overview.byLabel, volume.labelId = labelId := by
  have referring : w'.Refers := run ▸ refers.after config requests schedule
  refine ⟨World.sum_byAgent, fun load listed => referring.agentName listed, ?_, ?_⟩
  · exact fun volume listed => ⟨referring.labelName listed, World.count_byLabel listed⟩
  · exact fun ticket inRange labelId has => World.mem_byLabel inRange has

/-- The label that was set last is the one that is counted. -/
theorem overview_named_triage :
    let overview := (Triage.store.after .default Triage.requests Triage.race).getOverview
      (fun _ => "Olga Lead") ⟨0, 86399999, none⟩ (World.overviewGroups _ _)
    overview = ⟨1, [⟨none, some "Unassigned", 1⟩], [⟨1, some "vip", 1⟩]⟩ ∧
      ∀ volume ∈ overview.byLabel,
        volume.count = ((Triage.store.after .default Triage.requests Triage.race).createdIn
          ⟨0, 86399999, none⟩).countP fun ticket => volume.labelId ∈ World.labelsOf
            (Triage.store.after .default Triage.requests Triage.race).ticketLabels ticket.id := by
  have refers : Triage.store.Refers := ⟨by decide, by decide⟩
  exact ⟨by decide, fun volume listed => ((overview_named .default Triage.requests refers
    Triage.race rfl _ _ _).2.2.1 volume listed).2⟩

/-! ## The two totals -/

namespace Reporting

variable {r : Reporting}

/-- The tickets that the report of all chats counts are those created on its days. -/
theorem sum_ticketsOpened (sound : r.Sound) {params : AnalyticsRange}
    (all : params.chatGroupId = none)
    (complete : ∀ chat ∈ r.world.chats.rows, r.Complete chat.id params) :
    ((r.getChatsAnalytics params).map fun entry => entry.ticketsOpened).sum =
      r.world.tickets.rows.countP fun row =>
        Reported r.world.now params.from params.to (dayOf row.val.createdAt) := by
  have chats : r.chatsOf params.chatGroupId = r.world.chats.rows := by
    rw [chatsOf, all]
    exact List.filter_eq_self.mpr fun _ _ => rfl
  rw [getChatsAnalytics, chats, List.map_map]
  refine (Buckets.total_eq_countP (k := fun row : Entry Ticket => row.val.chatId)
    (l := r.world.tickets.rows.filter fun row =>
      Reported r.world.now params.from params.to (dayOf row.val.createdAt))
    (p := fun _ => True) r.world.chats.ids (fun chat member => ?_) (fun _ _ => trivial)
    fun row listed _ => ?_).trans ?_
  · refine (chatAnalytics_count sound (complete chat member) .ticketsOpened).trans ?_
    rw [World.times, List.countP_map, List.countP_filter, List.countP_filter]
    exact List.countP_congr fun row _ => by simp [and_comm]
  · obtain ⟨chat, found⟩ := Option.isSome_iff_exists.mp
      (sound.linked.ticketChat row (List.mem_of_mem_filter listed))
    obtain ⟨member, own⟩ := Table.find?_eq_some_iff.mp found
    exact List.mem_map.mpr ⟨chat, member, own⟩
  · rw [List.countP_filter]
    exact List.countP_congr fun row _ => by simp

/-- What the overview counts was created on a day of the report. -/
theorem reported_of_has (sound : r.Sound) {params : AnalyticsRange} {row : Entry Ticket}
    (member : row ∈ r.world.tickets.rows) (has : params.has row.val.createdAt = true) :
    Reported r.world.now params.from params.to (dayOf row.val.createdAt) := by
  obtain ⟨first, last⟩ := Bool.and_eq_true_iff.mp has
  have begun := dayOf_mono (of_decide_eq_true first)
  have ended := dayOf_mono (of_decide_eq_true last)
  have past : dayOf row.val.createdAt ≤ dayOf r.world.now := by
    refine dayOf_mono (sound.dated row.val.chatId .ticketsOpened _ ?_)
    exact List.mem_map.mpr ⟨row, List.mem_filter.mpr ⟨member, decide_eq_true rfl⟩, rfl⟩
  simp only [Reported]
  omega

theorem sum_eq_ticketsCreated_iff (sound : r.Sound) {params : AnalyticsRange}
    (all : params.chatGroupId = none)
    (complete : ∀ chat ∈ r.world.chats.rows, r.Complete chat.id params)
    (names : AgentId → String) (database : r.world.OverviewGroups params) :
    ((r.getChatsAnalytics params).map fun entry => entry.ticketsOpened).sum =
        (r.world.getOverview names params database).ticketsCreated ↔
      ∀ row ∈ r.world.tickets.rows,
        Reported r.world.now params.from params.to (dayOf row.val.createdAt) →
          params.has row.val.createdAt = true := by
  rw [sum_ticketsOpened sound all complete]
  change _ = (r.world.tickets.rows.filter _).length ↔ _
  rw [← List.countP_eq_length_filter]
  have narrower := Buckets.countP_eq_iff_of_imp
    (p := fun row : Entry Ticket => params.has row.val.createdAt = true)
    (q := fun row : Entry Ticket =>
      Reported r.world.now params.from params.to (dayOf row.val.createdAt))
    (l := r.world.tickets.rows) fun row member => reported_of_has sound member
  simpa using narrower

end Reporting

/-- For a range of whole days that has begun, the overview leaves out nothing that the report
takes in. -/
theorem has_of_reported {now start stop time : ℤ} (midnight : start % 86400000 = 0)
    (midnight' : stop % 86400000 = 0) (begun : dayOf start ≤ dayOf now)
    (reported : Reported now start (endOfDay stop) (dayOf time)) :
    (AnalyticsRange.mk start (endOfDay stop) none).has time = true := by
  have ended : endOfDay stop = stop + 86399999 := Int.add_sub_assoc stop 86400000 1
  rw [AnalyticsRange.has, Bool.and_eq_true, decide_eq_true_eq, decide_eq_true_eq]
  change start ≤ time ∧ time ≤ endOfDay stop
  simp only [Reported, dayOf, ended] at begun reported ⊢
  omega

/-- **When the overview and the report agree.** In every run in which each finished day on which a
chat has something was aggregated after it was over, and for a request that names no group of
chats, the tickets of the report add up to the total of the overview exactly when every ticket that
was created on a day of the report was created between the two instants of the request, the end
moved as the controller moves it. -/
theorem overview_agrees_iff {config : Config} {requests : List Request} {w : World}
    {chatGroups : ChatId → Option ChatGroupId} {schedule : List (Act Background)} {r : Reporting}
    {newDate : String → Option Time} {names : AgentId → String}
    {database : (w : World) → (params : AnalyticsRange) → w.OverviewGroups params}
    {query : AnalyticsRangeQueryDto} {start stop : Time} {report : List ChatAnalytics}
    {overview : Overview} (linked : w.Linked) (dated : w.Dated)
    (run : r = ((Reports.start config requests w chatGroups).exec schedule).state)
    (aggregated : ∀ chat ∈ r.world.chats.rows, ∀ day < dayOf r.world.now,
      r.world.Busy chat.id day →
        Aggregated (Reports.start config requests w chatGroups) schedule chat.id day)
    (first : newDate query.from = some start) (last : newDate query.to = some stop)
    (all : query.chat_group = none)
    (chats : AnalyticsController.chats newDate query r = some report)
    (answered : AnalyticsController.overview newDate names database query r = some overview) :
    (report.map fun entry => entry.ticketsOpened).sum = overview.ticketsCreated ↔
      ∀ row ∈ r.world.tickets.rows,
        Reported r.world.now start (endOfDay stop) (dayOf row.val.createdAt) →
          start ≤ row.val.createdAt ∧ row.val.createdAt ≤ endOfDay stop := by
  have begin := Reporting.sound_start linked dated chatGroups
  subst run
  simp only [AnalyticsController.chats, first, last, all, Option.some.injEq] at chats
  simp only [AnalyticsController.overview, first, last, Option.bind_eq_bind, Option.bind_some,
    Option.pure_def, Option.some.injEq] at answered
  subst chats answered
  refine (Reporting.sum_eq_ticketsCreated_iff (Reporting.Sound.exec begin schedule) rfl
    (fun chat member day finished _ _ busy =>
      (aggregated chat member day finished busy).stored begin) names _).trans ?_
  simp only [AnalyticsRange.has, Bool.and_eq_true, decide_eq_true_eq]

/-- Over two whole days they agree. -/
theorem overview_agrees_two_days :
    (AnalyticsController.chats readDate ⟨"1970-01-01", "1970-01-02", none⟩ secondDayReport).map
        (fun report => (report.map fun entry => entry.ticketsOpened).sum) =
      (AnalyticsController.overview readDate (fun _ => "Olga Lead")
        (fun w params => w.overviewGroups params) ⟨"1970-01-01", "1970-01-02", none⟩
        secondDayReport).map Overview.ticketsCreated := by
  have run : secondDayReport = ((Reports.start .default [.ingest (greeting 1)] World.seeded
      fun _ => none).exec secondDay).state := rfl
  have rows : secondDayReport.world.chats.rows = [supportChat] := by decide
  have chats : AnalyticsController.chats readDate ⟨"1970-01-01", "1970-01-02", none⟩
      secondDayReport = some [⟨⟨1, 0, 1, 1, none, none⟩, 0, "support", 1⟩] := by decide
  have answered : AnalyticsController.overview readDate (fun _ => "Olga Lead")
      (fun w params => w.overviewGroups params) ⟨"1970-01-01", "1970-01-02", none⟩
      secondDayReport = some ⟨1, [⟨none, some "Unassigned", 1⟩], []⟩ := by decide
  rw [chats, answered]
  have first : readDate "1970-01-01" = some 0 := by decide
  have last : readDate "1970-01-02" = some 86400000 := by decide
  refine congrArg some ((overview_agrees_iff World.linked_seeded dated_seeded run
    (fun chat member day _ => ?_) first last rfl chats answered).mpr ?_)
  · obtain rfl := List.mem_singleton.mp (rows ▸ member)
    exact secondDay_aggregated day
  · intro row _ reported
    have has := has_of_reported (by decide) (by decide) (by decide) reported
    rwa [AnalyticsRange.has, Bool.and_eq_true, decide_eq_true_eq, decide_eq_true_eq] at has

end SupportCrm
