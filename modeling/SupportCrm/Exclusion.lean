import Mathlib.Data.List.Find
import SupportCrm.Classification
import SupportCrm.Footprint

/-!
# Exclusion

An excluded sender stays excluded. `Call.ActsOn` lists what a command can make of one record
of an excluded sender (`World.record_perform`), and from it follows what a request can make
of it: a record that has an identifier keeps it, and only an update or a removal of that
record ends its activity. `exclusion_sticks` puts this together over runs of requests that
are served one after another.
-/

set_option autoImplicit false

namespace SupportCrm

open KeyedTable AtomicProgram

/-! ## Records -/

/-- What a command makes of the record with an identifier. -/
inductive Call.ActsOn (id : ExcludedSenderId) :
    Call → (ExcludedSender → Option ExcludedSender) → Prop where
  | keeps (c : Call) : ActsOn id c some
  | binds (telegramUserId : ℤ) :
      ActsOn id (.excludedBind id telegramUserId) fun record =>
        some (World.bound telegramUserId record)
  | edits (name note : Option String) (isActive : Option Bool) :
      ActsOn id (.excludedUpdate id name note isActive) fun record =>
        some (World.excludedEdit name note isActive record)
  | reactivates (telegramUserId : ℤ) (create : ExcludedSender) :
      ActsOn id (.excludedUpsert telegramUserId create) fun record =>
        some (World.excludedEdit none none (some true) record)
  | deletes : ActsOn id (.excludedDelete id) fun _ => none

namespace World

variable {w w' : World} {id : ExcludedSenderId}

/-- The record with an identifier. -/
def record (w : World) (id : ExcludedSenderId) : Option ExcludedSender :=
  (w.excludedSenders.find? id).map Entry.val

theorem record_of_mem {row : Entry ExcludedSender} (member : row ∈ w.excludedSenders.rows) :
    w.record row.id = some row.val := by
  rw [record, Table.find?_self member]
  rfl

theorem record_eq_some_iff {sender : ExcludedSender} :
    w.record id = some sender ↔ w.excludedSenders.find? id = some ⟨id, sender⟩ := by
  constructor
  · intro found
    obtain ⟨row, listed, rfl⟩ := Option.map_eq_some_iff.mp found
    obtain rfl := Table.id_of_find? listed
    exact listed
  · intro found
    rw [record, found]
    rfl

theorem excludedSenders_perform {c : Call} (reads : c.writesSenders = false) :
    (w.perform c).2.excludedSenders = w.excludedSenders := by
  have step := w.perform_step c
  generalize (w.perform c).2 = w' at step
  cases step
  case excludedSenders writes => cases reads.symm.trans writes
  all_goals rfl

/-- A change of one row acts on the record that has the identifier of the row. -/
theorem actsOn_change {c : Call} {other : ExcludedSenderId} {f : ExcludedSender → ExcludedSender}
    (acts : id = other → c.ActsOn id fun record => some (f record))
    (found : w'.excludedSenders.find? id =
      (w.excludedSenders.find? id).map (Entry.change other f)) :
    ∃ change, c.ActsOn id change ∧ w'.record id = (w.record id).bind change := by
  rw [record, found, record]
  by_cases own : id = other
  · refine ⟨_, acts own, ?_⟩
    cases listed : w.excludedSenders.find? id with
    | none => rfl
    | some row => simp [Entry.change, Table.id_of_find? listed, own]
  · refine ⟨some, .keeps c, ?_⟩
    cases listed : w.excludedSenders.find? id with
    | none => rfl
    | some row => simp [Entry.change, Table.id_of_find? listed, own]

theorem actsOn_insert (c : Call) {sender : ExcludedSender} (free : w.excludedSenders.Free sender)
    (old : id < w.excludedSenders.next)
    (inserted : w'.excludedSenders = w.excludedSenders.insert sender free) :
    ∃ change, c.ActsOn id change ∧ w'.record id = (w.record id).bind change := by
  refine ⟨some, .keeps c, ?_⟩
  rw [record, inserted, Table.find?_insert_of_ne free old.ne, Option.bind_fun_some, record]

/-- A command keeps an old record, changes it or deletes it, and hands no old identifier
out again. -/
theorem record_perform (w : World) (c : Call) (old : id < w.excludedSenders.next) :
    id < (w.perform c).2.excludedSenders.next ∧
      ∃ change, c.ActsOn id change ∧ (w.perform c).2.record id = (w.record id).bind change := by
  by_cases reads : c.writesSenders = false
  · have same := excludedSenders_perform (w := w) reads
    refine ⟨by rwa [same], some, .keeps c, ?_⟩
    rw [record, same, Option.bind_fun_some, record]
  cases effect : w.effect c with
  | error e =>
      rw [perform_of_error effect]
      exact ⟨old, some, .keeps c, (Option.bind_fun_some _).symm⟩
  | ok outcome =>
      have performed : w.perform c = (.ok outcome.1, outcome.2) := perform_of_ok effect
      rw [performed]
      obtain ⟨answer, w'⟩ := outcome
      clear performed
      cases c <;> first
        | exact absurd rfl reads
        | simp only [World.effect, map_unit_eq_ok_iff] at effect
      case excludedBind other telegramUserId =>
        obtain ⟨-, table, changed, rfl⟩ := excludedBind_eq_ok_iff.mp effect
        refine ⟨?_, actsOn_change (f := bound telegramUserId) ?_ (Table.find?_modify? changed id)⟩
        · exact (Table.modify?_next changed).symm ▸ old
        · rintro rfl
          exact .binds telegramUserId
      case excludedCreate sender =>
        obtain ⟨free, -, rfl⟩ := excludedCreate_eq_ok effect
        exact ⟨Nat.lt_succ_of_lt old, actsOn_insert _ free old rfl⟩
      case excludedUpdate other name note isActive =>
        unfold excludedUpdate at effect
        split at effect
        · cases effect
        · cases effect
          refine ⟨old, actsOn_change (f := excludedEdit name note isActive) ?_
            (Table.find?_update (excludedEdit_key name note isActive) id)⟩
          rintro rfl
          exact .edits name note isActive
      case excludedDelete other =>
        unfold excludedDelete at effect
        split at effect
        · cases effect
        · cases effect
          refine ⟨old, ?_⟩
          by_cases own : id = other
          · subst own
            refine ⟨_, .deletes, ?_⟩
            rw [record, Table.find?_delete_self]
            cases w.record id <;> rfl
          · refine ⟨some, .keeps _, ?_⟩
            rw [record, Table.find?_delete_of_ne _ own, Option.bind_fun_some, record]
      case excludedUpsert telegramUserId create =>
        unfold excludedUpsert at effect
        split at effect
        · next row found =>
          cases effect
          refine ⟨old, actsOn_change (f := excludedEdit none none (some true)) ?_
            (Table.find?_update (excludedEdit_key none none (some true)) id)⟩
          exact fun _ => .reactivates telegramUserId create
        · obtain ⟨free, -, rfl⟩ := excludedCreate_eq_ok effect
          exact ⟨Nat.lt_succ_of_lt old, actsOn_insert _ free old rfl⟩

/-! ## What a record keeps -/

/-- The record is active and has the identifier of the user. -/
def ExcludedBy (w : World) (telegramUserId : ℤ) (id : ExcludedSenderId) : Prop :=
  ∃ sender, w.record id = some sender ∧ sender.telegramUserId = some telegramUserId ∧
    sender.isActive = true

/-- The record had the identifier of the user, and has it as long as it exists. -/
def BoundTo (w : World) (telegramUserId : ℤ) (id : ExcludedSenderId) : Prop :=
  id < w.excludedSenders.next ∧
    ∀ sender, w.record id = some sender → sender.telegramUserId = some telegramUserId

theorem old_of_record {sender : ExcludedSender} (found : w.record id = some sender) :
    id < w.excludedSenders.next :=
  Table.lt_next_of_find? (record_eq_some_iff.mp found)

variable {telegramUserId : ℤ}

theorem ExcludedBy.isExcluded (excluded : w.ExcludedBy telegramUserId id) :
    w.isExcluded telegramUserId = true := by
  obtain ⟨sender, found, own, active⟩ := excluded
  have listed : w.excludedSenders.findKey? telegramUserId = some ⟨id, sender⟩ :=
    Table.findKey?_eq_some_iff.mpr ⟨Table.mem_of_find? (record_eq_some_iff.mp found), own⟩
  simp [World.isExcluded, listed, active]

theorem excludedBy_of_isExcluded (excluded : w.isExcluded telegramUserId = true) :
    ∃ id, w.ExcludedBy telegramUserId id := by
  obtain ⟨row, found, active⟩ := (Option.any_eq_true _ _).mp excluded
  obtain ⟨member, own⟩ := Table.findKey?_eq_some_iff.mp found
  exact ⟨row.id, row.val, record_of_mem member, own, active⟩

/-- A command that does not touch the record leaves it active. -/
theorem ExcludedBy.perform {c : Call} (excluded : w.ExcludedBy telegramUserId id)
    (spares : c.record ≠ some id) : (w.perform c).2.ExcludedBy telegramUserId id := by
  obtain ⟨sender, found, own, active⟩ := excluded
  obtain ⟨-, change, acts, after⟩ := w.record_perform c (old_of_record found)
  rw [found] at after
  cases acts with
  | keeps => exact ⟨sender, after, own, active⟩
  | binds => exact absurd rfl spares
  | edits => exact absurd rfl spares
  | reactivates => exact ⟨_, after, own, rfl⟩
  | deletes => exact absurd rfl spares

/-- Only binding gives a record another identifier. -/
theorem BoundTo.perform {c : Call} (bound : w.BoundTo telegramUserId id)
    (unbinding : ∀ other, c ≠ .excludedBind id other) :
    (w.perform c).2.BoundTo telegramUserId id := by
  obtain ⟨old, change, acts, after⟩ := w.record_perform c bound.1
  refine ⟨old, fun sender found => ?_⟩
  rw [after] at found
  obtain ⟨before, listed, changed⟩ := Option.bind_eq_some_iff.mp found
  have own := bound.2 before listed
  cases acts with
  | keeps => exact Option.some.inj changed ▸ own
  | binds other => exact absurd rfl (unbinding other)
  | edits => exact Option.some.inj changed ▸ own
  | reactivates => exact Option.some.inj changed ▸ own
  | deletes => cases changed

/-- A classification binds no record that has an identifier. -/
theorem Classifies.record (id : ExcludedSenderId) {username : Option String} {other : ℤ}
    {kind : Except Err SenderClassification} {table : Table ExcludedSender.key}
    (classifies : w.Classifies other username kind table) :
    table.next = w.excludedSenders.next ∧
      (World.record { w with excludedSenders := table } id = w.record id ∨
        ∃ sender, w.record id = some sender ∧ sender.telegramUserId = none) := by
  cases classifies with
  | byUsername notAgent notById given nonempty found binds =>
      next name record =>
      obtain ⟨member, -, unbound, -⟩ := excludedByUsername_eq_some found
      refine ⟨Table.modify?_next binds, ?_⟩
      by_cases own : id = record.id
      · subst own
        exact .inr ⟨record.val, record_of_mem member, unbound⟩
      · left
        have same := Table.find?_modify? binds id
        rw [World.record, same, World.record]
        cases listed : w.excludedSenders.find? id with
        | none => rfl
        | some row => simp [Entry.change, Table.id_of_find? listed, own]
  | agent | byId | customer | collision => exact ⟨rfl, .inl rfl⟩

end World

/-! ## Requests one after another -/

/-- The record that a request of an admin edits or deletes. -/
def Request.record : Request → Option ExcludedSenderId
  | .updateExcluded id _ _ _ | .removeExcluded id => some id
  | _ => none

/-- What happens next: time passes, or a request is served. -/
inductive Occurrence where
  | wait (milliseconds : ℕ)
  | request (request : Request)
  deriving DecidableEq

/-- A request is served from its beginning to its end. -/
def World.serve (config : Config) (w : World) : Occurrence → World
  | .wait milliseconds => w.advance milliseconds
  | .request request => ((request.program config).run World.perform w).2

/-- The record that an occurrence edits or deletes. -/
def Occurrence.record : Occurrence → Option ExcludedSenderId
  | .wait _ => none
  | .request served => served.record

def World.serves (config : Config) (w : World) (occurrences : List Occurrence) : World :=
  occurrences.foldl (World.serve config) w

/-- The commands of a request other than an ingest: none binds a record, and the only record
touched is the one of the request. -/
theorem Request.program_always (config : Config) {request : Request}
    (other : ∀ message, request ≠ .ingest message) :
    (request.program config).Always fun c =>
      (c.record = none ∨ c.record = request.record) ∧
        ∀ id telegramUserId, c ≠ .excludedBind id telegramUserId := by
  refine (request.program_performs config).imp fun c performs => ?_
  rcases performs with reads | ⟨event, rfl⟩ | writes
  · refine ⟨.inl (recordless_of_reads c reads), ?_⟩
    rintro id telegramUserId rfl
    cases reads
  · exact ⟨.inl rfl, nofun⟩
  · cases writes with
    | binds message id => exact absurd rfl (other message)
    | updatesExcluded id name note isActive => exact ⟨.inr rfl, nofun⟩
    | removesExcluded id => exact ⟨.inr rfl, nofun⟩
    | _ => exact ⟨.inl rfl, nofun⟩

namespace World

variable {w w' : World} {id : ExcludedSenderId} {telegramUserId : ℤ} {config : Config}

/-- What classifications, commands that bind nothing and the clock keep, a request keeps. -/
theorem serve_keeps {I : World → Prop} {occurrence : Occurrence}
    (clock : ∀ milliseconds w, I w → I (w.advance milliseconds))
    (classified : ∀ w other username kind table, Classifies w other username kind table →
      I w → I { w with excludedSenders := table })
    (commands : ∀ c w, (c.record = none ∨ c.record = occurrence.record) →
      (∀ id other, c ≠ .excludedBind id other) → I w → I (w.perform c).2) (holds : I w) :
    I (w.serve config occurrence) := by
  cases occurrence with
  | wait milliseconds => exact clock milliseconds w holds
  | request request =>
      by_cases ingest : ∃ message, request = .ingest message
      · obtain ⟨message, rfl⟩ := ingest
        obtain ⟨kind, table, classifies⟩ :=
          w.exists_classifies message.fromTelegramUserId message.fromUsername
        have after := classified w _ _ kind table classifies holds
        change I ((Functor.discard (process config message)).run World.perform w).2
        rw [Program.run_discard, process, Program.run_bind, classifies.run]
        cases kind with
        | error e => exact after
        | ok kind =>
            cases kind with
            | agent agent => exact after
            | excluded => exact after
            | customer =>
                refine (processCustomer_always recordless_of_reads (fun _ => rfl) config message rfl rfl
                  (fun _ => rfl) (fun _ => rfl) (fun _ => rfl) (fun _ => rfl) (fun _ => rfl)
                  fun _ => rfl).run_invariant World.perform
                  (fun c w recordless => commands c w (.inl recordless) ?_) after
                rintro id other rfl
                cases recordless
      · refine (Request.program_always config fun message same => ingest ⟨message, same⟩).run_invariant
          World.perform (fun c w known => commands c w known.1 known.2) holds

theorem ExcludedBy.serve (excluded : w.ExcludedBy telegramUserId id) {occurrence : Occurrence}
    (spares : occurrence.record ≠ some id) :
    (w.serve config occurrence).ExcludedBy telegramUserId id := by
  refine serve_keeps (I := fun w => w.ExcludedBy telegramUserId id) (fun _ _ kept => kept)
    (fun w other username kind table classifies kept => ?_)
    (fun c w touches _ kept => kept.perform fun own => ?_) excluded
  · obtain ⟨sender, found, own, active⟩ := kept
    rcases (classifies.record id).2 with same | ⟨unbound, found', free⟩
    · exact ⟨sender, same.trans found, own, active⟩
    · cases Option.some.inj (found.symm.trans found')
      cases own.symm.trans free
  · rcases touches with none | same
    · cases none.symm.trans own
    · exact spares (same.symm.trans own)

theorem BoundTo.serve (bound : w.BoundTo telegramUserId id) (occurrence : Occurrence) :
    (w.serve config occurrence).BoundTo telegramUserId id := by
  refine serve_keeps (I := fun w => w.BoundTo telegramUserId id) (fun _ _ kept => kept)
    (fun w other username kind table classifies kept => ?_)
    (fun c w _ unbinding kept => kept.perform (unbinding id)) bound
  obtain ⟨next, change⟩ := classifies.record id
  refine ⟨next.symm ▸ kept.1, fun sender found => ?_⟩
  rcases change with same | ⟨unbound, found', free⟩
  · exact kept.2 sender (same.symm.trans found)
  · cases (kept.2 unbound found').symm.trans free

/-- What has an identifier keeps it, however many requests are served. -/
theorem BoundTo.serves (config : Config) (bound : w.BoundTo telegramUserId id)
    (occurrences : List Occurrence) :
    (w.serves config occurrences).BoundTo telegramUserId id := by
  induction occurrences generalizing w with
  | nil => exact bound
  | cons occurrence rest ih => exact ih (bound.serve occurrence)

/-- No request edits or deletes the record that has the identifier of the user. -/
def Spares (config : Config) (telegramUserId : ℤ) : World → List Occurrence → Prop
  | _, [] => True
  | w, occurrence :: rest =>
      (∀ row, w.excludedSenders.findKey? telegramUserId = some row →
        occurrence.record ≠ some row.id) ∧
      Spares config telegramUserId (w.serve config occurrence) rest

theorem ExcludedBy.serves (excluded : w.ExcludedBy telegramUserId id)
    {occurrences : List Occurrence} (spares : w.Spares config telegramUserId occurrences) :
    (w.serves config occurrences).ExcludedBy telegramUserId id := by
  induction occurrences generalizing w with
  | nil => exact excluded
  | cons occurrence rest ih =>
      refine ih (excluded.serve ?_) spares.2
      obtain ⟨sender, found, own, -⟩ := excluded
      exact spares.1 ⟨id, sender⟩
        (Table.findKey?_eq_some_iff.mpr ⟨Table.mem_of_find? (record_eq_some_iff.mp found), own⟩)

/-! ## Who becomes excluded -/

/-- The request settles that the user is no customer: a message of the user is classified as
excluded, or a ticket of the user is marked. -/
inductive Excludes (w : World) (telegramUserId : ℤ) : Request → Prop where
  | classified {message : NormalizedIncomingMessage}
      (own : message.fromTelegramUserId = telegramUserId)
      (excluded : ((classify message.fromTelegramUserId message.fromUsername).run
        World.perform w).1 = .ok .excluded) : Excludes w telegramUserId (.ingest message)
  | marked {ticketId : TicketId} {byAgentId : AgentId} {ticket : Entry Ticket}
      {customer : Entry Customer} {row : Entry ExcludedSender}
      (found : w.ticketWithCustomer ticketId = some (ticket, customer))
      (own : customer.val.telegramUserId = telegramUserId)
      (done : ((markTicketSenderAsNotCustomer ticketId byAgentId).run World.perform w).1 =
        .ok row) : Excludes w telegramUserId (.markNotCustomer ticketId byAgentId)

/-- After an upsert there is an active record of the user. -/
theorem excludedBy_of_upsert {customer : Customer} {byAgentId : AgentId}
    {row : Entry ExcludedSender}
    (upserted : w.excludedUpsert customer.telegramUserId (autoAdded customer byAgentId) =
      .ok (row, w')) : ∃ id, w'.ExcludedBy customer.telegramUserId id := by
  unfold excludedUpsert at upserted
  split at upserted
  · next old found =>
    cases upserted
    obtain ⟨member, own⟩ := Table.findKey?_eq_some_iff.mp found
    exact ⟨old.id, _, record_eq_some_iff.mpr (Table.find?_update_self
      (excludedEdit_key none none (some true)) (Table.find?_self member)), own, rfl⟩
  · obtain ⟨free, -, rfl⟩ := excludedCreate_eq_ok upserted
    exact ⟨w.excludedSenders.next, _, record_eq_some_iff.mpr (Table.find?_insert_self free),
      rfl, rfl⟩

/-- After a classification as excluded there is one, too. -/
theorem Classifies.excludedBy {username : Option String} {table : Table ExcludedSender.key}
    (classifies : w.Classifies telegramUserId username (.ok .excluded) table) :
    ∃ id, ExcludedBy { w with excludedSenders := table } telegramUserId id := by
  cases classifies with
  | byId notAgent excluded => exact excludedBy_of_isExcluded excluded
  | byUsername notAgent notById given nonempty found binds =>
      next name record =>
      obtain ⟨member, -, -, active⟩ := excludedByUsername_eq_some found
      refine ⟨record.id, bound telegramUserId record.val, record_eq_some_iff.mpr ?_, rfl, active⟩
      change table.find? record.id = _
      rw [Table.find?_modify? binds, Table.find?_self member]
      exact congrArg some (record.change_self (f := bound telegramUserId))

theorem Excludes.excludedBy (config : Config) {request : Request}
    (excludes : w.Excludes telegramUserId request) :
    ∃ id, (w.serve config (.request request)).ExcludedBy telegramUserId id := by
  cases excludes with
  | classified own excluded =>
      next message =>
      subst own
      obtain ⟨kind, table, classifies⟩ :=
        w.exists_classifies message.fromTelegramUserId message.fromUsername
      rw [classifies.run] at excluded
      obtain rfl : kind = .ok .excluded := excluded
      change ∃ id, ExcludedBy
        ((Functor.discard (process config message)).run World.perform w).2 _ id
      rw [Program.run_discard, process, Program.run_bind, classifies.run]
      exact classifies.excludedBy
  | marked found own done =>
      next ticketId byAgentId ticket customer row =>
      subst own
      change ∃ id, ExcludedBy ((Functor.discard
        (markTicketSenderAsNotCustomer ticketId byAgentId)).run World.perform w).2 _ id
      rw [Program.run_discard]
      rw [markTicketSenderAsNotCustomer, run_query_bind (w.ticketWithCustomer ticketId) rfl,
        found] at done ⊢
      simp only at done ⊢
      cases upserted : w.excludedUpsert customer.val.telegramUserId
          (autoAdded customer.val byAgentId) with
      | error e =>
          have failed : w.perform (.excludedUpsert customer.val.telegramUserId
            (autoAdded customer.val byAgentId)) = (.error e, w) := perform_of_error upserted
          rw [Program.run_perform_bind_error World.perform failed] at done
          cases done
      | ok outcome =>
          obtain ⟨created, w'⟩ := outcome
          have performed : w.perform (.excludedUpsert customer.val.telegramUserId
            (autoAdded customer.val byAgentId)) = (.ok created, w') := perform_of_ok upserted
          rw [Program.run_perform_bind World.perform performed]
          obtain ⟨id, excluded⟩ := excludedBy_of_upsert upserted
          refine ⟨id, Program.Always.run_invariant World.perform (P := Recordless)
            (I := fun w => w.ExcludedBy customer.val.telegramUserId id) ?_
            (fun c w recordless kept => kept.perform (by simp [recordless])) excluded⟩
          refine Program.always_bind (Program.always_perform rfl) fun _ => ?_
          exact Program.always_bind (Program.always_perform rfl) fun _ => Program.always_pure

/-! ## What excluded senders write, and what others do -/

/-- A message of the user is that of an excluded sender, or of an agent, and leaves
everything as it is. -/
structure Ignores (config : Config) (w : World) (message : NormalizedIncomingMessage) : Prop where
  classified : ∃ kind,
    (classify message.fromTelegramUserId message.fromUsername).run World.perform w =
      (.ok kind, w) ∧
    (kind = .excluded ∨
      w.isAgent message.fromTelegramUserId = true ∧ ∃ agent, kind = .agent agent)
  unchanged : ((process config message).run World.perform w).2 = w

theorem ignores_of_isExcluded {message : NormalizedIncomingMessage}
    (excluded : w.isExcluded message.fromTelegramUserId = true) : w.Ignores config message := by
  obtain ⟨kind, table, classifies⟩ :=
    w.exists_classifies message.fromTelegramUserId message.fromUsername
  have run := classifies.run
  have ended : ∀ kind, (classify message.fromTelegramUserId message.fromUsername).run
      World.perform w = (.ok kind, w) → kind ≠ .customer →
        ((process config message).run World.perform w).2 = w := by
    intro kind run settled
    rw [process, Program.run_bind, run]
    cases kind with
    | agent agent => rfl
    | excluded => rfl
    | customer => exact absurd rfl settled
  cases classifies with
  | agent found active =>
      exact ⟨⟨_, run, .inr ⟨by simp [World.isAgent, found, active], _, rfl⟩⟩,
        ended _ run (by rintro ⟨⟩)⟩
  | byId notAgent _ => exact ⟨⟨_, run, .inl rfl⟩, ended _ run (by rintro ⟨⟩)⟩
  | customer notAgent notById => cases excluded.symm.trans notById
  | byUsername notAgent notById => cases excluded.symm.trans notById
  | collision notAgent notById => cases excluded.symm.trans notById

/-- The store without a record. -/
def without (w : World) (id : ExcludedSenderId) : World :=
  { w with excludedSenders := w.excludedSenders.delete id }

/-- A record that has the identifier of one user does not count for another. -/
theorem classify_without {username : Option String} {other : ℤ}
    (bound : w.BoundTo telegramUserId id) (ne : other ≠ telegramUserId) :
    ((classify other username).run World.perform (w.without id)).1 =
      ((classify other username).run World.perform w).1 := by
  have sameHolder : (w.without id).excludedSenders.findKey? other =
      w.excludedSenders.findKey? other := by
    refine Table.findKey?_delete_of_ne _ fun row found same => ?_
    obtain ⟨member, own⟩ := Table.findKey?_eq_some_iff.mp found
    subst same
    exact ne (Option.some.inj (own.symm.trans (bound.2 row.val (record_of_mem member))))
  have byUsername : ∀ name, (w.without id).excludedByUsername name = w.excludedByUsername name := by
    intro name
    change (w.excludedSenders.rows.filter fun row => row.id ≠ id).find? _ = _
    rw [List.find?_filter]
    refine List.find?_congr fun row member => ?_
    by_cases same : row.id = id
    · subst same
      simp [bound.2 row.val (record_of_mem member)]
    · simp only [same, ne_eq, not_false_eq_true, decide_true, true_and, Bool.decide_eq_true]
  have isExcluded : (w.without id).isExcluded other = w.isExcluded other := by
    simp only [World.isExcluded, sameHolder]
  obtain ⟨kind, table, classifies⟩ := w.exists_classifies other username
  have alike : ∃ table', (w.without id).Classifies other username kind table' := by
    cases classifies with
    | agent found active => exact ⟨_, .agent found active⟩
    | byId notAgent excluded => exact ⟨_, .byId notAgent (isExcluded.trans excluded)⟩
    | customer notAgent notById unmatched =>
        exact ⟨_, .customer notAgent (isExcluded.trans notById)
          fun name given nonempty => (byUsername name).trans (unmatched name given nonempty)⟩
    | byUsername notAgent notById given nonempty found binds =>
        next name record =>
        have found' := (byUsername name).trans found
        obtain ⟨member, -, unbound, -⟩ := excludedByUsername_eq_some found
        obtain ⟨member', -⟩ := excludedByUsername_eq_some found'
        cases binds' : (w.without id).excludedSenders.modify? record.id (World.bound other) with
        | some table' =>
            have notAgent' : (w.without id).isAgent other = false := notAgent
            exact ⟨table', .byUsername notAgent' (isExcluded.trans notById) given nonempty found'
              binds'⟩
        | none =>
            -- then the identifier is taken in the whole table, too
            have taken := (modify?_bound_eq_none_iff member' unbound).mp binds'
            rw [sameHolder] at taken
            cases binds.symm.trans ((modify?_bound_eq_none_iff member unbound).mpr taken)
    | collision notAgent notById given nonempty found taken =>
        next name record =>
        have found' := (byUsername name).trans found
        obtain ⟨member, -, unbound, -⟩ := excludedByUsername_eq_some found
        obtain ⟨member', -⟩ := excludedByUsername_eq_some found'
        have holder := (modify?_bound_eq_none_iff member unbound).mp taken
        rw [← sameHolder] at holder
        exact ⟨_, .collision notAgent (isExcluded.trans notById) given nonempty found'
          ((modify?_bound_eq_none_iff member' unbound).mpr holder)⟩
  obtain ⟨table', classifies'⟩ := alike
  rw [classifies.run, classifies'.run]

end World

/-- **Exclusion sticks to one person.** Requests are served one after another. Once a message
of a user was classified as excluded, or a ticket of the user was marked, every later
message of the user is that of an excluded sender, or of an agent, and changes nothing, as
long as no admin edits or removes the record of the user. A record that has an identifier
keeps it for good, and for every other user the classification is what it would be without
the record. -/
theorem exclusion_sticks (config : Config) (w : World) (occurrences : List Occurrence) :
    (∀ telegramUserId request message, w.Excludes telegramUserId request →
      (w.serve config (.request request)).Spares config telegramUserId occurrences →
      message.fromTelegramUserId = telegramUserId →
        ((w.serve config (.request request)).serves config occurrences).Ignores config message) ∧
    ∀ id telegramUserId sender, w.record id = some sender →
      sender.telegramUserId = some telegramUserId →
        (∀ sender', (w.serves config occurrences).record id = some sender' →
          sender'.telegramUserId = some telegramUserId) ∧
        ∀ other username, other ≠ telegramUserId →
          ((classify other username).run World.perform
              ((w.serves config occurrences).without id)).1 =
            ((classify other username).run World.perform (w.serves config occurrences)).1 := by
  constructor
  · rintro telegramUserId request message excludes spares rfl
    obtain ⟨id, excluded⟩ := excludes.excludedBy config
    exact World.ignores_of_isExcluded (excluded.serves spares).isExcluded
  · intro id telegramUserId sender found own
    have bound : w.BoundTo telegramUserId id :=
      ⟨World.old_of_record found, fun sender' found' =>
        Option.some.inj (found.symm.trans found') ▸ own⟩
    have later := bound.serves config occurrences
    exact ⟨later.2, fun other username ne => World.classify_without later ne⟩

/-! A record for the user name `olena` is bound to the first user who carries it. -/

namespace Olena

/-- The message of a user with this name. -/
def message (tgMessageId : ℤ) : NormalizedIncomingMessage :=
  { greeting tgMessageId with fromUsername := some "olena" }

def named : World :=
  World.seeded.serve .default (.request (.createExcluded ⟨none, some "@olena", none, none, 0⟩))

def bound : World := named.serve .default (.request (.ingest (message 7)))

def later : List Occurrence :=
  [.wait 1000, .request (.createExcluded ⟨none, some "olena", none, none, 0⟩)]

end Olena

theorem exclusion_sticks_to_olena :
    (Olena.bound.serves .default Olena.later).Ignores .default (greeting 8) ∧
      (∀ sender, (Olena.bound.serves .default Olena.later).record 0 = some sender →
        sender.telegramUserId = some 42) ∧
      ((classify 43 (some "olena")).run World.perform
          ((Olena.bound.serves .default Olena.later).without 0)).1 =
        ((classify 43 (some "olena")).run World.perform
          (Olena.bound.serves .default Olena.later)).1 := by
  have sticks := (exclusion_sticks .default Olena.named Olena.later).1 42
    (.ingest (Olena.message 7)) (greeting 8) (.classified rfl (by decide))
    ⟨fun _ _ => nofun, fun _ _ => nofun, trivial⟩ rfl
  have kept := (exclusion_sticks .default Olena.bound Olena.later).2 0 42 _ rfl rfl
  exact ⟨sticks, kept.1, kept.2 43 (some "olena") (by decide)⟩

end SupportCrm
