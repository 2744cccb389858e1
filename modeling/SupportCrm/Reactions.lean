import SupportCrm.Bridge

/-!
# Reactions to events

How often the listener acts on an event. What is due for an event is fixed when it is
emitted (`Fair`), and the order of the steps changes nothing about it
(`Bridge.Accounted.run`), so in the end there are as many passes and publications as were
due. Both processes run the listener, and the bridge emits again in the API what the
Workers emitted: such an event gets two passes, and `acted_once_iff` says when that does no
harm.
-/

set_option autoImplicit false

namespace SupportCrm

open Backlogs

/-! ## What is due -/

/-- A way of counting: what is owed when a process emits an event, what a task under way
still owes, and the facts that are counted, for the event with a number. -/
structure Fair {α : Type} (owed : Process → DomainEvent → ℕ) (due : ℕ → Task → ℕ)
    (select : ℕ → Fact → Option α) : Prop where
  emit : ∀ (process : Process) (n : ℕ) (event : DomainEvent) (number : ℕ),
    Backlog.total (due number) (fun fact => (select number fact).toList.length)
      (process.emit n event).tasks (process.emit n event).entries =
        if n = number then owed process event else 0
  message : ∀ (process : Process) (n : ℕ) (event : DomainEvent) (number : ℕ),
    due number (.message process n event) = if n = number then owed process event else 0
  handler : ∀ (process : Process) (n : ℕ) (event : DomainEvent) (number : ℕ) (assignees : Assignees),
    due number (.handler process n event) =
      (select number (.handled ⟨process, n, event, assignees⟩)).toList.length
  notify : ∀ (process : Process) (n : ℕ) (params : NotifyParams) (number : ℕ),
    due number (.notify process n params) = 0
  notified : ∀ (n : ℕ) (params : NotifyParams) (number : ℕ), select number (.notified n params) = none

/-- Nothing is lost or gained when a task is done. -/
theorem Fair.yield {α : Type} {owed : Process → DomainEvent → ℕ} {due : ℕ → Task → ℕ}
    {select : ℕ → Fact → Option α} (fair : Fair owed due select) (assignees : Assignees)
    (number : ℕ) (task : Task) :
    Backlog.total (due number) (fun fact => (select number fact).toList.length)
      (task.yield assignees).tasks (task.yield assignees).entries = due number task := by
  cases task with
  | message receiver n event =>
      exact (fair.emit receiver n event number).trans (fair.message _ _ _ _).symm
  | handler process n event =>
      simp [Backlog.total, Task.yield, Function.comp_def, fair.notify, fair.notified,
        fair.handler process n event number assignees]
  | notify process n params => exact (fair.notify process n params number).symm

/-- The passes of the listener: one in the process that emits, and one more in the API for
what the Workers emit. -/
def Process.passesOwed (process : Process) (event : DomainEvent) : ℕ :=
  if NotificationEventsListener.handles event then
    match process with
    | .api => 1
    | .workers => 2
  else 0

def Task.passesDue (number : ℕ) : Task → ℕ
  | .message receiver n event => if n = number then receiver.passesOwed event else 0
  | .handler _ n _ => if n = number then 1 else 0
  | .notify _ _ _ => 0

def Process.publicationsOwed (process : Process) (event : DomainEvent) : ℕ :=
  match process with
  | .api => 0
  | .workers => if WorkerEventPublisher.handles event then 1 else 0

def Task.publicationsDue (number : ℕ) : Task → ℕ
  | .message receiver n event => if n = number then receiver.publicationsOwed event else 0
  | .handler _ _ _ | .notify _ _ _ => 0

/-- What the listener reacts to is relayed. -/
theorem relayed_of_handles {event : DomainEvent}
    (handles : NotificationEventsListener.handles event = true) :
    WorkerEventPublisher.handles event = true := by
  cases event <;> first | rfl | cases handles

@[simp] theorem emit_api (n : ℕ) (event : DomainEvent) :
    Process.api.emit n event =
      if NotificationEventsListener.handles event then ⟨[.handler .api n event], []⟩
      else .nothing := by
  cases handles : NotificationEventsListener.handles event <;>
    simp [Process.emit, Provider.react, Yield.join, Yield.nothing, handles]

theorem emit_workers (n : ℕ) (event : DomainEvent) :
    Process.workers.emit n event =
      if NotificationEventsListener.handles event then
        ⟨[.message .api n event, .handler .workers n event], [.published .workers n event]⟩
      else if WorkerEventPublisher.handles event then
        ⟨[.message .api n event], [.published .workers n event]⟩
      else .nothing := by
  cases handles : NotificationEventsListener.handles event with
  | true =>
      simp [Process.emit, Provider.react, Yield.join, handles, relayed_of_handles handles]
  | false =>
      cases relays : WorkerEventPublisher.handles event <;>
        simp [Process.emit, Provider.react, Yield.join, Yield.nothing, handles, relays]

theorem fair_passes : Fair Process.passesOwed Task.passesDue Fact.pass? where
  emit process n event number := by
    cases process with
    | api =>
        cases handles : NotificationEventsListener.handles event <;>
          simp [Backlog.total, Yield.nothing, Task.passesDue, Process.passesOwed, handles]
    | workers =>
        rw [emit_workers]
        cases handles : NotificationEventsListener.handles event <;>
          cases WorkerEventPublisher.handles event <;>
          by_cases own : n = number <;>
          simp [Backlog.total, Yield.nothing, Task.passesDue, Process.passesOwed, Fact.pass?,
            handles, own]
  message _ _ _ _ := rfl
  handler _ n _ number _ := by
    by_cases own : n = number <;> simp [Task.passesDue, Fact.pass?, own]
  notify _ _ _ _ := rfl
  notified _ _ _ := rfl

theorem fair_publications :
    Fair Process.publicationsOwed Task.publicationsDue Fact.publisher? where
  emit process n event number := by
    cases process with
    | api =>
        cases handles : NotificationEventsListener.handles event <;>
          simp [Backlog.total, Yield.nothing, Task.publicationsDue, Process.publicationsOwed,
            handles]
    | workers =>
        rw [emit_workers]
        cases handles : NotificationEventsListener.handles event with
        | true =>
            by_cases own : n = number <;>
              simp [Backlog.total, Task.publicationsDue, Process.publicationsOwed,
                Fact.publisher?, relayed_of_handles handles, own]
        | false =>
            cases relays : WorkerEventPublisher.handles event <;> by_cases own : n = number <;>
              simp [Backlog.total, Yield.nothing, Task.publicationsDue, Process.publicationsOwed,
                Fact.publisher?, relays, own]
  message _ _ _ _ := rfl
  handler _ _ _ _ _ := rfl
  notify _ _ _ _ := rfl
  notified _ _ _ := rfl

/-! ## Runs -/

namespace Bridge

variable {s : Bridge} {number : ℕ}

/-- What a step makes of the bridge: an event is emitted, or a task is done and after it,
perhaps, an event is emitted. -/
theorem step_cases (s : Bridge) (step : Step) :
    (∃ process event, s.step step = s.emits process event) ∨
      (∃ assignees, s.step step = { s with assignees := assignees }) ∨
      ∃ i, ∃ worked : Bridge,
        worked = { s with backlog := s.backlog.work i (Task.yield s.assignees) } ∧
          (s.step step = worked ∨ ∃ process event, s.step step = worked.emits process event) := by
  cases step with
  | emits process event => exact .inl ⟨process, event, rfl⟩
  | assigns assignees => exact .inr (.inl ⟨assignees, rfl⟩)
  | works i notification =>
      refine .inr (.inr ⟨i, _, rfl, ?_⟩)
      simp only [Bridge.step]
      split
      · exact .inr ⟨_, _, rfl⟩
      · exact .inl rfl

/-- What holds at the start and is kept when an event is emitted, the assignees change or a
task is done holds after every run. -/
theorem run_invariant {I : Bridge → Prop} {assignees : Assignees} (started : I (start assignees))
    (emits : ∀ s process event, I s → I (s.emits process event))
    (assigns : ∀ s assignees, I s → I { s with assignees := assignees })
    (works : ∀ s i, I s → I { s with backlog := s.backlog.work i (Task.yield s.assignees) })
    (steps : List Step) : I ((start assignees).run steps) := by
  generalize start assignees = s at started
  induction steps generalizing s with
  | nil => exact started
  | cons step rest ih =>
      refine ih (s.step step) ?_
      rcases s.step_cases step with ⟨process, event, same⟩ | ⟨assignees, same⟩ |
        ⟨i, worked, rfl, same | ⟨process, event, same⟩⟩
      all_goals rw [same]
      · exact emits s process event started
      · exact assigns s assignees started
      · exact works s i started
      · exact emits _ process event (works s i started)

/-- What is owed for the events emitted so far is still due or has been done. -/
def Accounted {α : Type} (owed : Process → DomainEvent → ℕ) (due : ℕ → Task → ℕ)
    (select : ℕ → Fact → Option α) (s : Bridge) : Prop :=
  ∀ number, s.backlog.worth (due number) (fun fact => (select number fact).toList.length) =
    s.emitted[number]?.elim 0 fun emission => owed emission.1 emission.2

theorem Accounted.run {α : Type} {owed : Process → DomainEvent → ℕ} {due : ℕ → Task → ℕ}
    {select : ℕ → Fact → Option α} (fair : Fair owed due select) (assignees : Assignees)
    (steps : List Step) : ((start assignees).run steps).Accounted owed due select := by
  refine run_invariant (fun number => rfl) (fun s process event accounted number => ?_)
    (fun s assignees accounted => accounted) (fun s i accounted number => ?_) steps
  · simp only [Bridge.emits]
    rw [Backlog.worth_add, accounted, fair.emit]
    rcases lt_trichotomy number s.emitted.length with old | rfl | unknown
    · rw [List.getElem?_append_left old, if_neg old.ne', add_zero]
    · simp
    · rw [if_neg unknown.ne, add_zero, List.getElem?_eq_none unknown.le,
        List.getElem?_eq_none (by rw [List.length_append]; exact unknown)]
  · exact (Backlog.worth_work (fair.yield s.assignees number) _ _).trans (accounted number)

/-- In the end as many facts are selected as were owed. -/
theorem Accounted.length {α : Type} {owed : Process → DomainEvent → ℕ} {due : ℕ → Task → ℕ}
    {select : ℕ → Fact → Option α} (accounted : s.Accounted owed due select)
    (settled : s.backlog.Settled) {origin : Process} {event : DomainEvent}
    (emitted : s.emitted[number]? = some (origin, event)) :
    (s.backlog.ledger.filterMap (select number)).length = owed origin event := by
  rw [Backlog.length_filterMap_of_settled (due number) settled, accounted, emitted]
  rfl

/-- The calls of `notify` are those of the passes. -/
def Matched (ledger : List Fact) : Prop :=
  ∀ number, ledger.filterMap (Fact.call? number) =
    (ledger.filterMap (Fact.pass? number)).flatMap Pass.calls

theorem Matched.append {ledger entries : List Fact} (matched : Matched ledger)
    (news : Matched entries) : Matched (ledger ++ entries) := by
  intro number
  rw [List.filterMap_append, List.filterMap_append, List.flatMap_append, matched, news]

theorem matched_emit (process : Process) (n : ℕ) (event : DomainEvent) :
    Matched (process.emit n event).entries := by
  intro number
  cases process with
  | api =>
      cases handles : NotificationEventsListener.handles event <;>
        simp [Yield.nothing, handles]
  | workers =>
      rw [emit_workers]
      cases NotificationEventsListener.handles event <;>
        cases WorkerEventPublisher.handles event <;> rfl

theorem matched_yield (assignees : Assignees) (task : Task) :
    Matched (task.yield assignees).entries := by
  cases task with
  | message receiver n event => exact matched_emit receiver n event
  | handler process n event =>
      intro number
      by_cases own : n = number <;>
        simp [Task.yield, List.filterMap_cons, Fact.call?, Fact.pass?, Pass.calls,
          Function.comp_def, own]
  | notify process n params => exact fun _ => rfl

theorem Matched.run (assignees : Assignees) (steps : List Step) :
    Matched ((start assignees).run steps).backlog.ledger := by
  refine run_invariant (I := fun s => Matched s.backlog.ledger) (fun _ => rfl)
    (fun s process event matched => matched.append (matched_emit _ _ _))
    (fun _ _ matched => matched) (fun s i matched => ?_) steps
  rcases s.backlog.ledger_work i (Task.yield s.assignees) with same | ⟨task, same⟩ <;>
    simp only [same]
  · exact matched
  · exact matched.append (matched_yield _ _)

/-- An event number and what is emitted under it. -/
def Emits (s : Bridge) (n : ℕ) (event : DomainEvent) : Prop :=
  ∃ origin, s.emitted[n]? = some (origin, event)

/-- What is under way and what is recorded belongs to the event that has the number, and only
the Workers publish. -/
def Tracks (s : Bridge) : Task → Prop
  | .message _ n event | .handler _ n event => s.Emits n event
  | .notify _ _ _ => True

def Tells (s : Bridge) : Fact → Prop
  | .published process n event => process = .workers ∧ s.Emits n event
  | .handled pass => s.Emits pass.number pass.event
  | .notified _ _ => True

def Tracked (s : Bridge) : Prop := s.backlog.All s.Tracks s.Tells

/-- What comes of emitting an event belongs to it. -/
theorem tracked_emit {process : Process} {n : ℕ} {event : DomainEvent} (emits : s.Emits n event) :
    (∀ task ∈ (process.emit n event).tasks, s.Tracks task) ∧
      ∀ fact ∈ (process.emit n event).entries, s.Tells fact := by
  cases process with
  | api =>
      rw [emit_api]
      cases NotificationEventsListener.handles event <;> simp [Yield.nothing, Tracks, emits]
  | workers =>
      rw [emit_workers]
      cases NotificationEventsListener.handles event <;>
        cases WorkerEventPublisher.handles event <;>
        simp [Yield.nothing, Tracks, Tells, emits]

theorem tracked_yield {task : Task} (tracks : s.Tracks task) :
    (∀ task' ∈ (task.yield s.assignees).tasks, s.Tracks task') ∧
      ∀ fact ∈ (task.yield s.assignees).entries, s.Tells fact := by
  cases task with
  | message receiver n event => exact tracked_emit tracks
  | handler process n event =>
      have emits : s.Emits n event := tracks
      simp [Task.yield, Tracks, Tells, emits]
  | notify process n params => simp [Task.yield, Yield.nothing]

theorem Emits.mono {n : ℕ} {event : DomainEvent} (emits : s.Emits n event) (process : Process)
    (event' : DomainEvent) : (s.emits process event').Emits n event := by
  obtain ⟨origin, emitted⟩ := emits
  have inside := (List.getElem?_eq_some_iff.mp emitted).1
  exact ⟨origin, (List.getElem?_append_left inside).trans emitted⟩

theorem Tracked.run (assignees : Assignees) (steps : List Step) :
    ((start assignees).run steps).Tracked := by
  refine run_invariant Backlog.all_empty (fun s process event tracked => ?_)
    (fun _ _ tracked => tracked) (fun s i tracked => ?_) steps
  · have emits : (s.emits process event).Emits s.emitted.length event :=
      ⟨process, by simp [Bridge.emits]⟩
    refine Backlog.All.add (tracked.imp (fun task tracks => ?_) fun fact tells => ?_)
      (tracked_emit emits).1 (tracked_emit emits).2
    · cases task with
      | message => exact Emits.mono tracks process event
      | handler => exact Emits.mono tracks process event
      | notify => trivial
    · cases fact with
      | published => exact ⟨tells.1, Emits.mono tells.2 process event⟩
      | handled => exact Emits.mono tells process event
      | notified => trivial
  · exact Backlog.All.work tracked i (fun task tracks => (tracked_yield tracks).1)
      fun task tracks => (tracked_yield tracks).2

/-! ## The end of a run -/

theorem mem_passes {pass : Pass} :
    pass ∈ s.passes number ↔ .handled pass ∈ s.backlog.ledger ∧ pass.number = number := by
  simp only [passes, List.mem_filterMap]
  constructor
  · rintro ⟨fact, member, selected⟩
    cases fact with
    | handled pass' =>
        simp only [Fact.pass?, Option.ite_none_right_eq_some, Option.some.injEq] at selected
        obtain ⟨own, rfl⟩ := selected
        exact ⟨member, own⟩
    | published => cases selected
    | notified => cases selected
  · rintro ⟨member, own⟩
    exact ⟨_, member, by simp [Fact.pass?, own]⟩

theorem event_of_mem_passes (tracked : s.Tracked) {origin : Process} {event : DomainEvent}
    (emitted : s.emitted[number]? = some (origin, event)) {pass : Pass}
    (member : pass ∈ s.passes number) : pass.event = event := by
  obtain ⟨handled, rfl⟩ := mem_passes.mp member
  obtain ⟨origin', emitted'⟩ := tracked.2 _ handled
  exact congrArg Prod.snd (Option.some.inj (emitted'.symm.trans emitted))

theorem publishers_workers (tracked : s.Tracked) {process : Process}
    (member : process ∈ s.publishers number) : process = .workers := by
  obtain ⟨fact, recorded, selected⟩ := List.mem_filterMap.mp member
  cases fact with
  | published process' n event =>
      simp only [Fact.publisher?, Option.ite_none_right_eq_some, Option.some.injEq] at selected
      obtain ⟨-, rfl⟩ := selected
      exact (tracked.2 _ recorded).1
  | handled => cases selected
  | notified => cases selected

theorem notRelayedBack (tracked : s.Tracked) {origin : Process} {event : DomainEvent}
    (length : (s.publishers number).length = origin.publicationsOwed event) :
    s.NotRelayedBack number origin := by
  cases origin with
  | api => exact List.eq_nil_of_length_eq_zero length
  | workers =>
      have once : (s.publishers number).length ≤ 1 := by
        rw [length, Process.publicationsOwed]
        split <;> omega
      match published : s.publishers number with
      | [] => exact .inl published
      | [process] =>
          have member : process ∈ s.publishers number := published ▸ List.mem_singleton_self _
          obtain rfl := publishers_workers tracked member
          exact .inr published
      | _ :: _ :: _ =>
          rw [published] at once
          simp at once

/-- The calls of two passes are those of one of them only if the other made none. -/
theorem actedOnce_of_two {event : DomainEvent} {first second : Pass}
    (handles : NotificationEventsListener.handles event = true)
    (calls : s.calls number = (s.passes number).flatMap Pass.calls)
    (two : s.passes number = [first, second])
    (same : ∀ pass ∈ s.passes number, pass.event = event) :
    s.ActedOnce number event ↔ ∃ pass ∈ s.passes number, pass.calls = [] := by
  rw [ActedOnce, if_pos handles, calls]
  simp only [two, List.mem_cons, List.not_mem_nil, or_false, exists_eq_or_imp, exists_eq_left,
    List.flatMap_cons, List.flatMap_nil, List.append_nil] at same ⊢
  constructor
  · rintro (⟨-, own⟩ | ⟨-, own⟩)
    · exact .inr (List.append_right_eq_self.mp own)
    · exact .inl (List.append_left_eq_self.mp own)
  · rintro (silent | silent)
    · exact .inr ⟨same second (.inr rfl), by rw [silent, List.nil_append]⟩
    · exact .inl ⟨same first (.inl rfl), by rw [silent, List.append_nil]⟩

/-- **Two passes for what the Workers emit.** When nothing is under way any more, what the
API emitted has been acted on exactly once, and so has what the Workers emitted unless both
passes of the listener, in the Workers and after the relay in the API, found somebody to
notify. Nothing is ever relayed back. -/
theorem acted_once_iff (assignees : Assignees) (steps : List Step) (s : Bridge)
    (run : (start assignees).run steps = s) (settled : s.backlog.Settled) (number : ℕ)
    (origin : Process) (event : DomainEvent)
    (emitted : s.emitted[number]? = some (origin, event)) :
    s.ActedOnce number event ∧ s.NotRelayedBack number origin ↔
      origin = .api ∨ NotificationEventsListener.handles event = false ∨
        ∃ pass ∈ s.passes number,
          NotificationEventsListener.handle pass.assignees event = [] := by
  subst run
  generalize ended : (start assignees).run steps = s at *
  have tracked : s.Tracked := ended ▸ Tracked.run assignees steps
  have calls : s.calls number = (s.passes number).flatMap Pass.calls :=
    ended ▸ Matched.run assignees steps number
  have length : (s.passes number).length = origin.passesOwed event :=
    (ended ▸ Accounted.run fair_passes assignees steps).length settled emitted
  have relayed : s.NotRelayedBack number origin := notRelayedBack tracked
    ((ended ▸ Accounted.run fair_publications assignees steps).length settled emitted)
  have same : ∀ pass ∈ s.passes number, pass.event = event :=
    fun pass => event_of_mem_passes tracked emitted
  rw [and_iff_left relayed]
  cases handles : NotificationEventsListener.handles event with
  | false =>
      have nobody : s.passes number = [] :=
        List.eq_nil_of_length_eq_zero (length.trans (by simp [Process.passesOwed, handles]))
      have silent : s.calls number = [] := by rw [calls, nobody, List.flatMap_nil]
      simp [ActedOnce, handles, silent]
  | true =>
      have found : (∃ pass ∈ s.passes number,
          NotificationEventsListener.handle pass.assignees event = []) ↔
            ∃ pass ∈ s.passes number, pass.calls = [] :=
        exists_congr fun pass => and_congr_right fun member => by
          rw [Pass.calls, same pass member]
      rw [found]
      cases origin with
      | api =>
          obtain ⟨pass, one⟩ := List.length_eq_one_iff.mp
            (length.trans (by simp [Process.passesOwed, handles]))
          have member : pass ∈ s.passes number := one ▸ List.mem_singleton_self pass
          simp only [ActedOnce, handles, if_true, true_or, iff_true]
          exact ⟨pass, member, same pass member, by rw [calls, one, List.flatMap_singleton]⟩
      | workers =>
          obtain ⟨first, second, two⟩ := List.length_eq_two.mp
            (length.trans (by simp [Process.passesOwed, handles]))
          rw [actedOnce_of_two handles calls two same]
          simp

/-- The Workers receive a message of a ticket that is assigned to agent 7. -/
def received : Bridge :=
  (start fun _ => some 7).run
    [.emits .workers (.messageReceived 0 3 false), .works 1 none, .works 0 none, .works 1 none,
      .works 0 (some 5), .works 0 (some 5), .works 0 none]

/-- The agent is notified of the message twice, once by each process. -/
theorem received_notified_twice :
    received.backlog.Settled ∧
      received.emitted[0]? = some (.workers, .messageReceived 0 3 false) ∧
      received.calls 0 = [⟨7, "message.received", 0, ("messageId", 3)⟩,
        ⟨7, "message.received", 0, ("messageId", 3)⟩] ∧
      ¬ received.ActedOnce 0 (.messageReceived 0 3 false) := by
  refine ⟨by rfl, by rfl, by rfl, ?_⟩
  rintro ⟨pass, member, -, calls⟩
  have passes : received.passes 0 = [⟨.workers, 0, .messageReceived 0 3 false, fun _ => some 7⟩,
      ⟨.api, 0, .messageReceived 0 3 false, fun _ => some 7⟩] := by rfl
  rw [passes] at member
  rcases List.mem_pair.mp member with rfl | rfl <;> exact absurd calls (by decide)

/-- An agent assigns a ticket through the API, and the assignee is notified once. -/
theorem assigned_notified_once :
    ((start fun _ => none).run [.emits .api (.ticketAssigned 0 (some (some 2)) none 1),
        .works 0 none, .works 0 (some 5)]).ActedOnce 0
          (.ticketAssigned 0 (some (some 2)) none 1) ∧
      ((start fun _ => none).run [.emits .api (.ticketAssigned 0 (some (some 2)) none 1),
        .works 0 none, .works 0 (some 5)]).NotRelayedBack 0 .api :=
  (acted_once_iff (fun _ => none) _ _ rfl (by rfl) 0 .api _ (by rfl)).mpr (.inl rfl)

end Bridge

end SupportCrm
