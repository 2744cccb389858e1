import SupportCrm.Analytics
import SupportCrm.Footprint

/-!
# Closing data

A ticket that is closed has the time of its closing, and one that is worked on has neither
that time nor an agent who closed it. Closing writes these fields with the status; but no
path that leaves the status `closed` takes them back, so a ticket that is reopened keeps
them and is still counted among those closed.

`closing_data_iff`: the data match the status in all states of a run if and only if no
command of the run takes a ticket with closing data back to work.
-/

set_option autoImplicit false

namespace SupportCrm

open KeyedTable AtomicProgram

/-- The closing data of a ticket match its status. -/
structure Ticket.ClosingMatches (ticket : Ticket) : Prop where
  closed : ticket.status = .closed → ticket.closedAt.isSome
  live : ticket.status.terminal = false → ticket.closedAt = none ∧ ticket.closedById = none

/-- The ticket has closing data. -/
def Ticket.hasClosingData (ticket : Ticket) : Bool :=
  ticket.closedAt.isSome || ticket.closedById.isSome

/-- The update does not take a ticket with closing data back to work. -/
def Ticket.staysClosed (ticket : Entry Ticket) (data : TicketData) : Bool :=
  data.status.all TicketStatus.terminal || !ticket.val.hasClosingData

/-- Closing data are written with the status `closed` and never without it. -/
structure TicketData.Closes (data : TicketData) : Prop where
  closed : data.status = some .closed → data.closedAt.isSome
  other : data.status ≠ some .closed → data.closedAt = none ∧ data.closedBy = none

theorem PatchTicketDto.Builds.closes {dto : PatchTicketDto} {byAgentId : Option AgentId}
    {data : TicketData} (builds : dto.Builds byAgentId data) : data.Closes := by
  obtain ⟨resolvedAt, closedAt, closedBy, rfl, -, closes, agent⟩ := builds.stamped
  refine ⟨closes.mpr, fun other => ⟨?_, ?_⟩⟩
  · exact Option.not_isSome_iff_eq_none.mp fun stamped => other (closes.mp stamped)
  · exact agent.resolve_right fun closed => other closed.1

/-- Every update that a request makes writes closing data so. -/
theorem Request.Performs.closes {request : Request} {c : Call} (performs : request.Performs c)
    {now : Time} {id : TicketId} {data : TicketData} (update : c.ticketData now = some (id, data)) :
    data.Closes := by
  have without : ∀ data : TicketData, data.status = none → data.closedAt = none →
      data.closedBy = none → data.Closes := fun data status closedAt closedBy =>
    ⟨fun closed => (by cases status.symm.trans closed), fun _ => ⟨closedAt, closedBy⟩⟩
  cases Call.updates_of_ticketData update with
  | patch => exact performs.builds.closes
  | close => exact ⟨fun _ => rfl, fun other => absurd rfl other⟩
  | assign | record | reply => exact without _ rfl rfl rfl

/-- **One update keeps the match exactly when it does not reopen a closed ticket.** -/
theorem Ticket.ClosingMatches.apply_iff {ticket : Entry Ticket} {data : TicketData}
    (matched : ticket.val.ClosingMatches) (closes : data.Closes) (now : Time) :
    (data.apply now ticket.val).ClosingMatches ↔ Ticket.staysClosed ticket data = true := by
  cases status : data.status with
  | none =>
      obtain ⟨closedAt, closedBy⟩ := closes.other (by simp [status])
      refine iff_of_true ⟨?_, ?_⟩ (by simp [Ticket.staysClosed, status])
      · simpa [TicketData.apply, status, closedAt] using matched.closed
      · simpa [TicketData.apply, status, closedAt, closedBy] using matched.live
  | some new =>
      cases terminal : new.terminal with
      | true =>
          refine iff_of_true ⟨fun closed => ?_, fun live => ?_⟩
            (by simp [Ticket.staysClosed, status, terminal])
          · have now_closed : data.status = some .closed := by
              simpa [TicketData.apply, status] using closed
            have stamped := closes.closed now_closed
            simp [TicketData.apply, stamped]
          · simp [TicketData.apply, status, terminal] at live
      | false =>
          obtain ⟨closedAt, closedBy⟩ := closes.other (by
            rw [status]
            rintro ⟨⟩
            cases terminal)
          constructor
          · intro matched'
            have kept := matched'.live (by simpa [TicketData.apply, status] using terminal)
            simpa [TicketData.apply, closedAt, closedBy, Ticket.staysClosed, status, terminal,
              Ticket.hasClosingData] using kept
          · intro stays
            have bare : ticket.val.closedAt = none ∧ ticket.val.closedById = none := by
              simpa [Ticket.staysClosed, status, terminal, Ticket.hasClosingData] using stays
            refine ⟨fun closed => ?_, fun _ => ?_⟩
            · have same : new = .closed := by simpa [TicketData.apply, status] using closed
              subst same
              cases terminal
            · simpa [TicketData.apply, closedAt, closedBy] using bare

namespace World

variable {w : World}

/-- The closing data of every ticket match its status. -/
def ClosingMatches (w : World) : Prop := ∀ row ∈ w.tickets.rows, row.val.ClosingMatches

theorem closingMatches_seeded : World.seeded.ClosingMatches := by
  simp [ClosingMatches, seeded, initial, Table.empty]

theorem ClosingMatches.perform_iff (matched : w.ClosingMatches) {c : Call} {request : Request}
    (performs : request.Performs c) :
    (w.perform c).2.ClosingMatches ↔ w.updatesMeet Ticket.staysClosed c = true :=
  tickets_perform_iff (Q := Ticket.ClosingMatches)
    (fun _ _ => ⟨fun closed => (by cases closed), fun _ => ⟨rfl, rfl⟩⟩)
    (fun _ _ _ update matched => matched.apply_iff (performs.closes update) w.now) matched

/-- Then no thread that was reopened is counted as closed. -/
theorem ClosingMatches.ticketsClosed (matched : w.ClosingMatches) (rowOrder : RowOrder)
    (chatId : ChatId) (start stop : Time) :
    (w.computeStatsForRange rowOrder chatId start stop).ticketsClosed =
      (w.tickets.rows.filter fun row => row.val.status.terminal &&
        (row.val.chatId = chatId && row.val.closedAt.any (within start stop))).length := by
  refine congrArg List.length (List.filter_congr fun row member => ?_)
  cases terminal : row.val.status.terminal with
  | true => simp
  | false => simp [((matched row member).live terminal).1]

end World

/-- **Closing data match the status unless a closed ticket is reopened.** Whatever requests
interleave, the closing data match the status in all states of a run, and only closed and
archived tickets are counted as closed, if and only if no command of the run takes a ticket
with closing data to a status that is neither closed nor archived. -/
theorem closing_data_iff (config : Config) (requests : List Request) (w : World)
    (matched : w.ClosingMatches) (schedule : List (Act ℕ)) :
    (∀ n, (w.after config requests (schedule.take n)).ClosingMatches ∧
        ∀ rowOrder chatId start stop,
          ((w.after config requests (schedule.take n)).computeStatsForRange rowOrder chatId start
            stop).ticketsClosed =
          ((w.after config requests (schedule.take n)).tickets.rows.filter fun row =>
            row.val.status.terminal &&
              (row.val.chatId = chatId && row.val.closedAt.any (within start stop))).length) ↔
      (Requests.start config requests w).Meets (fun _ => World.perform) World.advance
        (fun _ c w => w.updatesMeet Ticket.staysClosed c = true) (fun _ _ => True) schedule := by
  refine Iff.trans ?_ (Pool.invariant_iff_meets (I := World.ClosingMatches) ?_ ?_
    (Requests.meets_performs config requests w schedule) matched)
  · refine forall_congr' fun n => ⟨And.left, fun matched => ⟨matched, ?_⟩⟩
    exact fun rowOrder chatId start stop => matched.ticketsClosed rowOrder chatId start stop
  · rintro i c w ⟨request, -, performs⟩ matched
    exact matched.perform_iff performs
  · exact fun _ _ _ matched => matched

/-! A ticket is closed, and then reopened or archived. -/

set_option maxRecDepth 4000 in
/-- Reopened, it keeps the time of its closing and the agent. -/
theorem reopened_keeps_closing_data :
    World.seeded.ClosingMatches ∧
      (World.seeded.after .default [.ingest (greeting 7), .close 0 0, .reopen 0 0]
        (oneByOne 3 20)).tickets.rows.map
          (fun row => (row.val.status, row.val.closedAt, row.val.closedById)) =
        [(.open, some 0, some 0)] ∧
      ¬ (World.seeded.after .default [.ingest (greeting 7), .close 0 0, .reopen 0 0]
        (oneByOne 3 20)).ClosingMatches ∧
      ((World.seeded.after .default [.ingest (greeting 7), .close 0 0, .reopen 0 0]
        (oneByOne 3 20)).computeStatsForRange {} 0 0 1).ticketsClosed = 1 := by
  refine ⟨World.closingMatches_seeded, by decide, fun matched => ?_, by decide⟩
  obtain ⟨ticket, listed, unmatched⟩ : ∃ ticket, ticket ∈ (World.seeded.after .default
      [.ingest (greeting 7), .close 0 0, .reopen 0 0] (oneByOne 3 20)).tickets.rows ∧
        ¬ (ticket.val.status.terminal = false → ticket.val.closedAt = none) :=
    ⟨_, List.mem_of_getElem? (i := 0) (by rfl), by decide⟩
  exact unmatched fun live => ((matched ticket listed).live live).1

set_option maxRecDepth 4000 in
theorem archived_keeps_closing_data :
    (World.seeded.after .default
      [.ingest (greeting 7), .close 0 0, .patch 0 { status := some .archived } 0]
      ((oneByOne 3 20).take 60)).ClosingMatches := by
  refine ((closing_data_iff .default
    [.ingest (greeting 7), .close 0 0, .patch 0 { status := some .archived } 0] World.seeded
    World.closingMatches_seeded (oneByOne 3 20)).mpr ?_ 60).1
  decide

end SupportCrm
