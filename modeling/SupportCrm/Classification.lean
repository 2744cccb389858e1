import SupportCrm.Alone
import SupportCrm.System

/-!
# Classification

`classify` looks for an active record of the sender by identifier, then for an active record
without identifier by user name, and binds the latter to the sender. A deactivated record of
the sender does not count in the first search and yet holds the identifier in the unique
index, so that the binding fails: `classify_answers_iff` says exactly when, and
`collision_fails_every_try` that every retry fails alike.
-/

set_option autoImplicit false

namespace SupportCrm

open KeyedTable AtomicProgram

/-- The sender is neither an active agent nor excluded by an active record, an inactive
record holds the sender's identifier, and an active record without identifier has the
sender's user name. -/
structure World.Collides (w : World) (telegramUserId : ℤ) (username : Option String) : Prop where
  notAgent : w.isAgent telegramUserId = false
  held : ∃ holder, w.excludedSenders.findKey? telegramUserId = some holder ∧
    holder.val.isActive = false
  named : ∃ name record, username = some name ∧ name ≠ "" ∧
    w.excludedByUsername name = some record

namespace World

variable {w : World} {telegramUserId : ℤ} {username : Option String}

/-- A record that a user name finds is active and has no identifier. -/
theorem excludedByUsername_eq_some {name : String} {record : Entry ExcludedSender}
    (found : w.excludedByUsername name = some record) :
    record ∈ w.excludedSenders.rows ∧ record.val.telegramUsername = some name ∧
      record.val.telegramUserId = none ∧ record.val.isActive = true := by
  have meets := List.find?_some found
  simp only [Bool.and_eq_true, decide_eq_true_eq, Option.isNone_iff_eq_none] at meets
  exact ⟨List.mem_of_find?_eq_some found, meets.1.1, meets.1.2, meets.2⟩

/-- Binding a record without identifier fails exactly when another record has the
identifier. -/
theorem modify?_bound_eq_none_iff {record : Entry ExcludedSender}
    (member : record ∈ w.excludedSenders.rows) (unbound : record.val.telegramUserId = none) :
    w.excludedSenders.modify? record.id (bound telegramUserId) = none ↔
      ∃ holder, w.excludedSenders.findKey? telegramUserId = some holder := by
  rw [Table.modify?_eq_none_iff]
  constructor
  · rintro ⟨row, -, -, holder, listed, -, clash⟩
    simp only [Apart, not_or, not_not] at clash
    exact ⟨holder, Table.findKey?_eq_some_iff.mpr ⟨listed, clash.2.symm⟩⟩
  · rintro ⟨holder, found⟩
    obtain ⟨listed, own⟩ := Table.findKey?_eq_some_iff.mp found
    refine ⟨record, member, rfl, holder, listed, fun same => ?_, ?_⟩
    · obtain rfl := Table.eq_of_id_eq listed member same
      cases unbound.symm.trans own
    · simp only [Apart, not_or, not_not]
      exact ⟨nofun, own.symm⟩

/-- A sender without active record is held by inactive records only. -/
theorem isExcluded_eq_false_iff : w.isExcluded telegramUserId = false ↔
    ∀ holder, w.excludedSenders.findKey? telegramUserId = some holder →
      holder.val.isActive = false := by
  simp only [isExcluded]
  cases w.excludedSenders.findKey? telegramUserId <;> simp

theorem collides_of_collision {table : Table ExcludedSender.key} {e : Err}
    (classifies : w.Classifies telegramUserId username (.error e) table) :
    e = .uniqueConstraint ∧ w.Collides telegramUserId username ∧ table = w.excludedSenders := by
  cases classifies with
  | collision notAgent notById given nonempty found taken =>
      obtain ⟨member, -, unbound, -⟩ := excludedByUsername_eq_some found
      obtain ⟨holder, held⟩ := (modify?_bound_eq_none_iff member unbound).mp taken
      exact ⟨rfl, ⟨notAgent, ⟨holder, held, isExcluded_eq_false_iff.mp notById holder held⟩,
        _, _, given, nonempty, found⟩, rfl⟩

theorem Collides.classifies (collides : w.Collides telegramUserId username) :
    w.Classifies telegramUserId username (.error .uniqueConstraint) w.excludedSenders := by
  obtain ⟨notAgent, ⟨holder, held, inactive⟩, name, record, given, nonempty, found⟩ := collides
  obtain ⟨member, -, unbound, -⟩ := excludedByUsername_eq_some found
  refine .collision notAgent (isExcluded_eq_false_iff.mpr fun holder' held' => ?_) given nonempty
    found ((modify?_bound_eq_none_iff member unbound).mpr ⟨holder, held⟩)
  rw [← Option.some.inj (held.symm.trans held')]
  exact inactive

end World

/-- **When a sender can be classified.** `classify` answers, whoever the sender and whatever
the table, unless an inactive record holds the sender's identifier and an active one without
identifier has the sender's user name. -/
theorem classify_answers_iff (w : World) (telegramUserId : ℤ) (username : Option String) :
    (∃ kind, ((classify telegramUserId username).run World.perform w).1 = .ok kind) ↔
      ¬ w.Collides telegramUserId username := by
  constructor
  · rintro ⟨kind, answered⟩ collides
    rw [collides.classifies.run] at answered
    cases answered
  · intro apart
    obtain ⟨kind, table, classifies⟩ := w.exists_classifies telegramUserId username
    rw [classifies.run]
    cases kind with
    | ok kind => exact ⟨kind, rfl⟩
    | error e => exact absurd (World.collides_of_collision classifies).2.1 apart

/-- A message of such a sender fails in every try, and nothing is stored. -/
theorem collision_fails_every_try {w : World} {message : NormalizedIncomingMessage}
    (collides : w.Collides message.fromTelegramUserId message.fromUsername) (config : Config) :
    ∀ tries, ((process config message).attempts tries).run World.perform w =
      (.error .uniqueConstraint, w) := by
  have failed : (process config message).run World.perform w = (.error .uniqueConstraint, w) := by
    rw [process, Program.run_bind, collides.classifies.run]
  intro tries
  induction tries with
  | zero => exact failed
  | succ tries ih =>
      rw [Program.attempts, Program.run_bind, Program.run_attempt, failed]
      exact ih

/-! ## A sender that cannot be classified

A record with the identifier 42 is deactivated, and a record for the user name of the same
person is added. -/

namespace Deactivated

def requests : List Request :=
  [.createExcluded ⟨some 42, none, none, none, 0⟩, .updateExcluded 0 none none (some false),
    .createExcluded ⟨none, some "@olena", none, none, 0⟩]

def schedule : List (Act ℕ) := [.turn 0, .turn 1, .turn 1, .turn 2]

end Deactivated

theorem classify_of_deactivated :
    ((classify 42 (some "olena")).run World.perform
      (World.seeded.after .default Deactivated.requests Deactivated.schedule)).1 =
        .error .uniqueConstraint := by
  decide

end SupportCrm
