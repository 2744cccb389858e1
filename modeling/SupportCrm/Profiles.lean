import SupportCrm.Effects
import SupportCrm.Threads

/-!
# Profiles of customers

`CustomersService.findOrCreateByTelegramId` creates a customer with the profile that Telegram
sends, and compares and updates the profile of a known one. A user name that Telegram does not
send is `undefined`: a create stores it as `null`, an update leaves the column alone, and the
comparison never finds it equal to what is stored. So the profile follows Telegram, and is not
written again, exactly when there is a user name (`profile_follows_iff`).
-/

set_option autoImplicit false

namespace SupportCrm

open KeyedTable AtomicProgram

/-! ## The writes of a lookup -/

/-- The commands that write a customer. -/
def Call.writesCustomer : Call → Bool
  | .customerCreate _ _ _ | .customerUpdate _ _ _ => true
  | _ => false

/-- The writes so far, and the command if it is one. -/
def noteWrite (c : Call) (_ : World) (writes : List Call) : List Call :=
  if c.writesCustomer then writes ++ [c] else writes

/-- `findOrCreateByTelegramId` with nothing in between: its answer, the world after and the
writes of customers that it has performed. -/
def World.lookUp (w : World) (telegramUserId : ℤ) (username : Option String)
    (displayName : String) : Except Err (Entry Customer) × World × List Call :=
  (findOrCreateCustomer telegramUserId username displayName).run
    (Handler.observed World.perform noteWrite) (w, [])

/-- The stored profile differs from the one that is sent. -/
def Customer.stale (customer : Customer) (username : Option String) (displayName : String) : Bool :=
  customer.username.isNone || customer.username ≠ username ||
    customer.displayName ≠ some displayName

/-- The writes that a lookup performs. -/
def World.writesFor (w : World) (telegramUserId : ℤ) (username : Option String)
    (displayName : String) : List Call :=
  match w.customers.findKey? telegramUserId with
  | none => [.customerCreate telegramUserId username displayName]
  | some existing =>
      if existing.val.stale username displayName then
        [.customerUpdate existing.id username displayName]
      else []

section

variable {w : World} {telegramUserId : ℤ} {username : Option String} {displayName : String}

/-- A command that succeeds, while the writes are noted. -/
theorem observed_of_ok {c : Call} {answer : c.Resp} {w' : World} (writes : List Call)
    (effect : w.effect c = .ok (answer, w')) :
    Handler.observed World.perform noteWrite c (w, writes) =
      (.ok answer, w', noteWrite c w writes) := by
  rw [Handler.observed, World.perform_of_ok effect]

/-- **A lookup.** It ends with the customer and leaves everything but the customers. -/
theorem lookUp_eq (w : World) (telegramUserId : ℤ) (username : Option String)
    (displayName : String) : ∃ customer customers,
      CustomerFor w.customers telegramUserId username displayName customer customers ∧
        w.lookUp telegramUserId username displayName = (.ok customer,
          { w with customers := customers },
          w.writesFor telegramUserId username displayName) := by
  have read := observed_of_ok (w := w) (c := .customerByTelegramUserId telegramUserId) [] rfl
  unfold World.lookUp findOrCreateCustomer World.writesFor
  rw [Program.run_perform_bind _ read]
  cases known : w.customers.findKey? telegramUserId with
  | none =>
      have free : w.customers.Free ⟨telegramUserId, username, some displayName⟩ :=
        (Table.free_iff_findKey? (by rfl)).mpr known
      exact ⟨_, _, .created known free, observed_of_ok _ (dif_pos free)⟩
  | some existing =>
      by_cases stale : existing.val.stale username displayName = true
      · have updated : w.effect (.customerUpdate existing.id username displayName) = _ :=
          World.effect_customerUpdate (Table.findKey?_eq_some_iff.mp known).1
        refine ⟨_, _, .found known, ?_⟩
        simp only [if_pos stale]
        refine (congrArg (fun p => Program.run _ p _) (if_pos stale)).trans ?_
        exact observed_of_ok _ updated
      · refine ⟨existing, w.customers, .same known stale, ?_⟩
        simp only [if_neg stale]
        exact congrArg (fun p => Program.run _ p _) (if_neg stale)

/-! ## What follows Telegram -/

/-- The lookup ends with the customer under the identifier; the stored profile is the one that
was sent; asked again it writes nothing; and the other customers are as they were. -/
structure FollowsTelegram (w : World) (telegramUserId : ℤ) (username : Option String)
    (displayName : String) : Prop where
  profile : ∃ row,
    (w.lookUp telegramUserId username displayName).1 = .ok row ∧
    (w.lookUp telegramUserId username displayName).2.1.customers.findKey? telegramUserId =
      some row ∧
    row.val.displayName = some displayName ∧ row.val.username = username
  again : ((w.lookUp telegramUserId username displayName).2.1.lookUp telegramUserId username
    displayName).2.2 = []
  others : ∀ row : Entry Customer, row.val.telegramUserId ≠ telegramUserId →
    (row ∈ (w.lookUp telegramUserId username displayName).2.1.customers.rows ↔
      row ∈ w.customers.rows)

/-- The other customers stay as they are. -/
theorem CustomerFor.others {before customers : Table Customer.key} {customer row : Entry Customer}
    (done : CustomerFor before telegramUserId username displayName customer customers)
    (other : row.val.telegramUserId ≠ telegramUserId) :
    row ∈ customers.rows ↔ row ∈ before.rows := by
  cases done with
  | @found existing known =>
      obtain ⟨listed, own⟩ := Table.findKey?_eq_some_iff.mp known
      have apart : ∀ old ∈ before.rows, old.val.telegramUserId ≠ telegramUserId →
          old.change existing.id (World.profile username displayName) = old := by
        refine fun old member foreign => Entry.change_of_ne _ _ fun same => foreign ?_
        rw [Table.eq_of_id_eq member listed same]
        exact Option.some.inj own
      rw [Table.mem_update]
      constructor
      · rintro ⟨old, member, rfl⟩
        rw [Entry.change_same existing.id (World.profile username displayName) old
          Customer.telegramUserId fun _ => rfl] at other
        rwa [apart old member other]
      · exact fun member => ⟨row, member, apart row member other⟩
  | created absent free =>
      rw [Table.mem_insert]
      refine or_iff_left ?_
      rintro rfl
      exact other rfl

/-- Asked again, there is nothing to write exactly if there is a user name. -/
theorem CustomerFor.stale_iff {before customers : Table Customer.key} {customer : Entry Customer}
    (done : CustomerFor before telegramUserId username displayName customer customers) :
    customer.val.stale username displayName = false ↔ username.isSome = true := by
  have current := done.profile
  cases username with
  | none => cases stored : customer.val.username <;> simp [Customer.stale, stored]
  | some name =>
      rw [← current]
      simp [Customer.stale, World.profile]

end

/-- **The profile follows Telegram exactly where there is a user name.** Whatever customers are
stored, a lookup leaves the profile that was sent, is not repeated in the database and leaves the
other customers alone, if and only if a user name was sent. -/
theorem profile_follows_iff (w : World) (telegramUserId : ℤ) (username : Option String)
    (displayName : String) :
    FollowsTelegram w telegramUserId username displayName ↔ username.isSome = true := by
  obtain ⟨customer, customers, done, looked⟩ := lookUp_eq w telegramUserId username displayName
  have again : (({ w with customers := customers } : World).lookUp telegramUserId username
      displayName).2.2 = if customer.val.stale username displayName then
        [.customerUpdate customer.id username displayName] else [] := by
    obtain ⟨_, _, -, repeated⟩ :=
      lookUp_eq { w with customers := customers } telegramUserId username displayName
    simp only [repeated, World.writesFor, done.findKey?]
  constructor
  · intro follows
    have nothing := follows.again
    simp only [looked] at nothing
    rw [again] at nothing
    refine done.stale_iff.mp (Bool.eq_false_iff.mpr fun stale => ?_)
    rw [if_pos stale] at nothing
    cases nothing
  · intro named
    have current := done.stale_iff.mpr named
    refine ⟨⟨customer, ?_, ?_, ?_, ?_⟩, ?_, fun row other => ?_⟩
    · simp only [looked]
    · simp only [looked]
      exact done.findKey?
    · rw [← done.profile]
      rfl
    · obtain ⟨name, rfl⟩ := Option.isSome_iff_exists.mp named
      rw [← done.profile]
      rfl
    · simp only [looked]
      rw [again, current]
      rfl
    · simp only [looked]
      exact done.others other

/-! A customer gives up the user name. -/

/-- The store with a customer who had a user name. -/
def World.named : World :=
  { World.initial 0 (fun n => 1000 + n) with
    customers := Table.empty.insert ⟨42, some "olena", some "Olena"⟩ (by decide) }

/-- The stored name stays, and every further message writes the profile again. -/
theorem given_up_username_stays :
    (World.named.lookUp 42 none "Olena").2.1.customers.rows =
        [⟨0, ⟨42, some "olena", some "Olena"⟩⟩] ∧
      (World.named.lookUp 42 none "Olena").2.2 = [.customerUpdate 0 none "Olena"] ∧
      ((World.named.lookUp 42 none "Olena").2.1.lookUp 42 none "Olena").2.2 =
        [.customerUpdate 0 none "Olena"] ∧
      ¬ FollowsTelegram World.named 42 none "Olena" := by
  refine ⟨by decide, by decide, by decide, fun follows => ?_⟩
  exact absurd follows.again (by decide)

end SupportCrm
