import SupportCrm.Stamps

/-!
# The time of resolution

The first transition to `solved` notes the time of resolution (`World.resolved_iff`). The
guard in `patch` that is to keep a time which is there asks the update that is being built,
not the ticket, so every later patch to `solved` notes its own time.

`resolution_once_iff`: the time stays in a run if and only if every patch to `solved` finds none
on the ticket when it is stored.
-/

set_option autoImplicit false

namespace SupportCrm

open KeyedTable AtomicProgram

/-- An update notes a time of resolution exactly when it solves the ticket. -/
theorem Request.Performs.resolves {request : Request} {c : Call} (performs : request.Performs c)
    {now : Time} {id : TicketId} {data : TicketData} (update : c.ticketData now = some (id, data)) :
    data.resolvedAt.isSome ↔ data.status = some .solved := by
  cases Call.updates_of_ticketData update with
  | patch => exact performs.builds.stamps.2
  | assign | close | record | reply => simp

namespace World

variable {w : World}

/-- The ticket is solved. -/
def Solved (w : World) (id : TicketId) : Prop :=
  ∃ ticket, w.tickets.find? id = some ticket ∧ ticket.val.status = .solved

theorem solved_congr {w' : World} (same : w'.tickets = w.tickets) (id : TicketId) :
    w'.Solved id ↔ w.Solved id := by
  rw [Solved, same, Solved]

theorem solved_create {w' : World} {data : NewTicket}
    (same : w'.tickets = w.tickets.insert (data.row w.now) Ticket.free) (id : TicketId) :
    w'.Solved id ↔ w.Solved id := by
  rw [Solved, same, Solved]
  by_cases new : id = w.tickets.next
  · subst new
    rw [Table.find?_insert_self, Table.find?_next]
    simp [NewTicket.row]
  · rw [Table.find?_insert_of_ne Ticket.free new]

/-- **One command notes the time exactly when it leaves the ticket solved.** -/
theorem resolved_perform_iff {c : Call} {request : Request} (performs : request.Performs c)
    {id : TicketId} (noted : w.Solved id → (w.stampOf .resolvedAt id).isSome) :
    ((w.perform c).2.stampOf .resolvedAt id).isSome ↔
      (w.stampOf .resolvedAt id).isSome ∨ (w.perform c).2.Solved id := by
  rcases w.update_cases c with ⟨other, data, ticket, update, found, same, -⟩ |
    ⟨-, same | ⟨data, -, same⟩⟩
  · have resolves := performs.resolves update
    by_cases own : id = other
    · subst own
      have solved : (w.perform c).2.Solved id ↔ data.status.getD ticket.val.status = .solved := by
        rw [Solved, same, Table.find?_update_self (data.apply_key w.now) found]
        simp
      have before : w.stampOf .resolvedAt id = ticket.val.resolvedAt := by
        rw [stampOf, found]
        rfl
      have solvedBefore : w.Solved id ↔ ticket.val.status = .solved := by
        rw [Solved, found]
        simp
      rw [solvedBefore, before] at noted
      rw [stampOf_update found same, if_pos rfl, solved, before, Option.isSome_or, Bool.or_eq_true]
      change data.resolvedAt.isSome ∨ ticket.val.resolvedAt.isSome ↔ _
      rw [resolves]
      cases data.status with
      | none => simpa using noted
      | some status => simp [or_comm]
    · have kept : (w.perform c).2.Solved id ↔ w.Solved id := by
        rw [Solved, same, Table.find?_update_of_ne (data.apply_key w.now) own, Solved]
      rw [stampOf_update found same, if_neg own, kept]
      exact (or_iff_left_of_imp noted).symm
  · rw [stampOf_congr same, solved_congr same]
    exact (or_iff_left_of_imp noted).symm
  · rw [stampOf_create same, solved_create same]
    exact (or_iff_left_of_imp noted).symm

/-- **The first transition to `solved` notes the time**: in a run it is there exactly from the
first state on in which the ticket is solved. -/
theorem resolved_iff (config : Config) (requests : List Request) (w : World)
    (schedule : List (Act ℕ)) (id : TicketId)
    (noted : w.Solved id → (w.stampOf .resolvedAt id).isSome) (n : ℕ) :
    ((w.after config requests (schedule.take n)).stampOf .resolvedAt id).isSome ↔
      (w.stampOf .resolvedAt id).isSome ∨
        ∃ k ≤ n, (w.after config requests (schedule.take k)).Solved id := by
  refine Pool.latch_iff (S := fun w => (w.stampOf .resolvedAt id).isSome = true)
    (T := fun w => w.Solved id) ?_ ?_ (Requests.meets_performs config requests w schedule) noted n
  · rintro i c w ⟨request, -, performs⟩ noted
    exact resolved_perform_iff performs noted
  · exact fun _ w _ noted => (or_iff_left_of_imp noted).symm

end World

namespace World

/-- If the command is a patch of the ticket to `solved` that takes effect, it finds no time of
resolution there, or its own. -/
def solvesFirst (w : World) (id : TicketId) (c : Call) : Bool :=
  match c with
  | .patchTransaction ticketId data dto _ =>
      if (ticketId = id ∧ dto.status = some .solved) ∧ w.takesEffect c then
        (w.stampOf .resolvedAt id).all (some · = data.resolvedAt)
      else true
  | _ => true

/-- No other command of a request writes the time. -/
theorem updatesMeet_resolved {request : Request} {c : Call} (performs : request.Performs c)
    (w : World) (id : TicketId) :
    w.updatesMeet (Stamp.resolvedAt.writesOnce id) c = w.solvesFirst id c := by
  cases update : c.ticketData w.now with
  | none =>
      rw [updatesMeet_none update]
      unfold solvesFirst
      split
      · cases update
      · rfl
  | some written =>
      obtain ⟨other, data⟩ := written
      cases Call.updates_of_ticketData update with
      | patch id' data dto byAgentId =>
          obtain ⟨resolvedAt, closedAt, closedBy, rfl, resolves, -⟩ := performs.builds.stamped
          cases resolvedAt with
          | none =>
              have other : dto.status ≠ some .solved := fun solved => by
                cases resolves.mpr solved
              rw [updatesMeet_unwritten update rfl]
              simp [solvesFirst, other]
          | some time =>
              rw [updatesMeet_written update rfl]
              simp [solvesFirst, resolves.mp rfl]
      | assign | close | record | reply => exact updatesMeet_unwritten update rfl

end World

/-- **The time of resolution is recorded once unless a resolved ticket is solved again.** In a
run the time is there exactly from the first state on in which the ticket is solved; and no
later operation changes it if and only if every patch of the run to `solved` that takes effect
finds none on the ticket. -/
theorem resolution_once_iff (config : Config) (requests : List Request) (w : World)
    (schedule : List (Act ℕ)) (id : TicketId)
    (noted : w.Solved id → (w.stampOf .resolvedAt id).isSome) :
    ((∀ n, ((w.after config requests (schedule.take n)).stampOf .resolvedAt id).isSome ↔
          (w.stampOf .resolvedAt id).isSome ∨
            ∃ k ≤ n, (w.after config requests (schedule.take k)).Solved id) ∧
        ∀ n m, n ≤ m → ∀ time,
          (w.after config requests (schedule.take n)).stampOf .resolvedAt id = some time →
          (w.after config requests (schedule.take m)).stampOf .resolvedAt id = some time) ↔
      (Requests.start config requests w).Meets (fun _ => World.perform) World.advance
        (fun _ c w => w.solvesFirst id c = true) (fun _ _ => True) schedule := by
  rw [and_iff_right fun n => World.resolved_iff config requests w schedule id noted n]
  refine (World.stamp_stays_iff .resolvedAt id config requests w schedule).trans
    (Pool.meets_congr (Requests.meets_performs config requests w schedule) ?_ fun _ _ _ => Iff.rfl)
  rintro i c w ⟨request, -, performs⟩
  rw [World.updatesMeet_resolved performs]

/-! A ticket is solved, reopened and, an hour later, solved again or closed. -/

namespace Resolving

def thenAsked (last : Request) : List Request :=
  [.ingest (greeting 7), .patch 0 { status := some .solved } 0, .reopen 0 0, last]

/-- One request after another. -/
def inTurn : List (Act ℕ) := oneByOne 3 20 ++ .env 3600000 :: List.replicate 6 (.turn 3)

end Resolving

set_option maxRecDepth 4000 in
/-- Solved again, the ticket has another time of resolution. -/
theorem solved_again_moves_resolution :
    (World.seeded.Solved 0 → (World.seeded.stampOf .resolvedAt 0).isSome) ∧
      (World.seeded.after .default
        (Resolving.thenAsked (.patch 0 { status := some .solved } 0))
        (Resolving.inTurn.take 60)).stampOf .resolvedAt 0 = some 0 ∧
      (World.seeded.after .default
        (Resolving.thenAsked (.patch 0 { status := some .solved } 0))
        (Resolving.inTurn.take 67)).stampOf .resolvedAt 0 = some 3600000 := by
  refine ⟨?_, by decide, by decide⟩
  rintro ⟨ticket, found, -⟩
  cases found

set_option maxRecDepth 4000 in
theorem closed_keeps_resolution :
    (World.seeded.after .default (Resolving.thenAsked (.close 0 0))
        (Resolving.inTurn.take 60)).stampOf .resolvedAt 0 = some 0 ∧
      (World.seeded.after .default (Resolving.thenAsked (.close 0 0))
        (Resolving.inTurn.take 67)).stampOf .resolvedAt 0 = some 0 := by
  have first : (World.seeded.after .default (Resolving.thenAsked (.close 0 0))
      (Resolving.inTurn.take 60)).stampOf .resolvedAt 0 = some 0 := by decide
  refine ⟨first, ((resolution_once_iff .default (Resolving.thenAsked (.close 0 0)) World.seeded
    Resolving.inTurn 0 ?_).mpr ?_).2 60 67 (by decide) 0 first⟩
  · rintro ⟨ticket, found, -⟩
    cases found
  · decide

end SupportCrm
