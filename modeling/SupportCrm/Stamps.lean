import SupportCrm.FinalDays
import SupportCrm.Footprint
import SupportCrm.Library.Logs

/-!
# Stamps that are written once

A stamp of a ticket stays once it is there, along a whole run, if and only if no update of
the run writes another time over it (`World.stamp_stays_iff`).
-/

set_option autoImplicit false

namespace SupportCrm

open KeyedTable AtomicProgram

/-- The update writes no other time over the stamp of this ticket. -/
def Stamp.writesOnce (stamp : Stamp) (id : TicketId) (ticket : Entry Ticket) (data : TicketData) :
    Bool :=
  ticket.id ≠ id ||
    (stamp.written data).all fun time => (stamp.of ticket.val).all fun old => old = time

/-- A patch writes no time of a first response, and a time of resolution exactly when it
solves the ticket. -/
theorem PatchTicketDto.Builds.stamps {dto : PatchTicketDto} {byAgentId : Option AgentId}
    {data : TicketData} (builds : dto.Builds byAgentId data) :
    data.firstResponseAt = none ∧ (data.resolvedAt.isSome ↔ data.status = some .solved) := by
  obtain ⟨resolvedAt, closedAt, closedBy, rfl, resolves, -⟩ := builds.stamped
  exact ⟨rfl, resolves⟩

namespace World

variable {w : World}

/-- The stamp of a ticket, if it is there. -/
def stampOf (w : World) (stamp : Stamp) (id : TicketId) : Option Time :=
  (w.tickets.find? id).bind fun ticket => stamp.of ticket.val

theorem stampOf_congr {w' : World} (same : w'.tickets = w.tickets) (stamp : Stamp)
    (id : TicketId) : w'.stampOf stamp id = w.stampOf stamp id := by
  rw [stampOf, same, stampOf]

/-- What an update makes of the stamp. -/
theorem stampOf_update {w' : World} {stamp : Stamp} {id other : TicketId} {data : TicketData}
    {ticket : Entry Ticket} (found : w.tickets.find? other = some ticket)
    (same : w'.tickets = w.tickets.update other (data.apply w.now) (data.apply_key w.now)) :
    w'.stampOf stamp id =
      if id = other then (stamp.written data).or (stamp.of ticket.val) else w.stampOf stamp id := by
  rw [stampOf, same]
  split
  · next own =>
    rw [own, Table.find?_update_self (data.apply_key w.now) found]
    exact stamp.of_apply data w.now ticket.val
  · next foreign =>
    rw [Table.find?_update_of_ne (data.apply_key w.now) foreign]
    rfl

theorem stampOf_update_unwritten {w' : World} {stamp : Stamp} {other : TicketId}
    {data : TicketData} (unwritten : stamp.written data = none)
    (same : w'.tickets = w.tickets.update other (data.apply w.now) (data.apply_key w.now))
    (id : TicketId) : w'.stampOf stamp id = w.stampOf stamp id := by
  rw [stampOf, same, Table.find?_update, stampOf]
  cases w.tickets.find? id with
  | none => rfl
  | some ticket =>
      by_cases own : ticket.id = other
      · simp [Entry.change, own, stamp.of_apply, unwritten]
      · rw [Option.map_some, Entry.change_of_ne _ _ own]

/-- A new ticket has no stamps. -/
theorem stampOf_create {w' : World} {stamp : Stamp} {id : TicketId} {data : NewTicket}
    (same : w'.tickets = w.tickets.insert (data.row w.now) Ticket.free) :
    w'.stampOf stamp id = w.stampOf stamp id := by
  rw [stampOf, stampOf, same]
  by_cases new : id = w.tickets.next
  · subst new
    rw [Table.find?_insert_self, Table.find?_next]
    cases stamp <;> rfl
  · rw [Table.find?_insert_of_ne Ticket.free new]

/-- The command takes effect. -/
def takesEffect (w : World) (c : Call) : Bool := (w.perform c).1.isOk

theorem updatesMeet_none {p : Entry Ticket → TicketData → Bool} {c : Call}
    (none : c.ticketData w.now = none) : w.updatesMeet p c = true := by
  unfold updatesMeet
  split
  · rfl
  · rw [none, Option.all_none]

/-- An update leaves the stamp alone if it writes none. -/
theorem updatesMeet_unwritten {stamp : Stamp} {id other : TicketId} {data : TicketData} {c : Call}
    (update : c.ticketData w.now = some (other, data)) (unwritten : stamp.written data = none) :
    w.updatesMeet (stamp.writesOnce id) c = true := by
  unfold updatesMeet
  split
  · rfl
  · simp [update, Stamp.writesOnce, unwritten]

/-- What an update that writes the stamp has to find on the ticket. -/
theorem updatesMeet_written {stamp : Stamp} {id other : TicketId} {data : TicketData} {c : Call}
    {time : Time} (update : c.ticketData w.now = some (other, data))
    (written : stamp.written data = some time) :
    w.updatesMeet (stamp.writesOnce id) c =
      if other = id ∧ w.takesEffect c then (w.stampOf stamp id).all (· = time) else true := by
  unfold updatesMeet
  split
  · next failed => simp [takesEffect, failed, Except.isOk, Except.toBool]
  · next answer answered =>
    obtain ⟨ticket, found⟩ := Option.isSome_iff_exists.mp (tickets_of_update answered update).1
    have own := Table.id_of_find? found
    by_cases same : other = id
    · subst same
      simp [update, found, own, Stamp.writesOnce, written, stampOf, takesEffect, answered,
        Except.isOk, Except.toBool]
    · simp [update, found, own, Stamp.writesOnce, same]

/-- A stamp that is there stays there. -/
def StampStays (stamp : Stamp) (id : TicketId) (w w' : World) : Prop :=
  ∀ time, w.stampOf stamp id = some time → w'.stampOf stamp id = some time

theorem StampStays.refl (stamp : Stamp) (id : TicketId) (w : World) : StampStays stamp id w w :=
  fun _ held => held

theorem StampStays.trans (stamp : Stamp) (id : TicketId) (w w' w'' : World)
    (first : StampStays stamp id w w') (second : StampStays stamp id w' w'') :
    StampStays stamp id w w'' :=
  fun time held => second time (first time held)

/-- **One command leaves the stamp exactly when it writes no other time over it.** -/
theorem stampStays_perform_iff {stamp : Stamp} {id : TicketId} {c : Call} :
    StampStays stamp id w (w.perform c).2 ↔ w.updatesMeet (stamp.writesOnce id) c = true := by
  rcases w.update_cases c with ⟨other, data, ticket, -, found, same, meets⟩ |
    ⟨meets, same | ⟨data, -, same⟩⟩
  · obtain rfl := Table.id_of_find? found
    rw [meets, StampStays, stampOf_update found same]
    by_cases own : id = ticket.id
    · subst own
      rw [if_pos rfl, stampOf, found, Option.bind_some]
      cases old : stamp.of ticket.val <;> cases new : stamp.written data <;>
        simp [Stamp.writesOnce, old, new, eq_comm]
    · simp [own, Stamp.writesOnce, Ne.symm own]
  · rw [meets, StampStays, stampOf_congr same]
    exact iff_of_true (StampStays.refl stamp id w) rfl
  · rw [meets, StampStays, stampOf_create same]
    exact iff_of_true (StampStays.refl stamp id w) rfl

end World

/-- **A stamp stays along a run if and only if no update writes another time over it.** -/
theorem World.stamp_stays_iff (stamp : Stamp) (id : TicketId) (config : Config)
    (requests : List Request) (w : World) (schedule : List (Act ℕ)) :
    (∀ n m, n ≤ m → World.StampStays stamp id (w.after config requests (schedule.take n))
        (w.after config requests (schedule.take m))) ↔
      (Requests.start config requests w).Meets (fun _ => World.perform) World.advance
        (fun _ c w => w.updatesMeet (stamp.writesOnce id) c = true) (fun _ _ => True) schedule := by
  refine (Pool.moves_iff_meets (R := World.StampStays stamp id) (World.StampStays.refl stamp id)
    (World.StampStays.trans stamp id)).trans
    (Pool.meets_congr (P := fun _ _ _ => True) (N := fun _ _ => True)
      (Pool.meets_of_forall (fun _ _ _ => trivial) (fun _ _ => trivial) _ _) ?_ ?_)
  · exact fun _ _ _ _ => World.stampStays_perform_iff
  · exact fun milliseconds w _ => iff_of_true (World.StampStays.refl stamp id w) trivial

end SupportCrm
