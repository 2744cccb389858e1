import Mathlib.Algebra.Order.Group.Int
import SupportCrm.Library.Window
import SupportCrm.Notifications
import SupportCrm.System

/-!
# The deduplication window

Events of one type about one ticket refresh one notification instead of making another, as
long as the last of them is no older than five minutes. The calls of `notify` come one after
another here, time passes between their commands, and between two calls notifications are
marked as read.

`dedup_window_holds`: notifications of one kind are always more than the window apart; a call
ends with exactly one notification that carries its time and payload, unread, or with an error
when there is no such agent or ticket; and a direct message is asked for only where a
notification was created and the agent has not turned it off, so there are never more direct
messages of a kind than notifications.
-/

set_option autoImplicit false

namespace SupportCrm

open KeyedTable AtomicProgram NotificationsService

/-- What notifications are deduplicated by. -/
def Notification.kind (notification : Notification) : AgentId × Option TicketId × String :=
  (notification.agentId, notification.ticketId, notification.type)

def NotifyParams.kind (params : NotifyParams) : AgentId × Option TicketId × String :=
  (params.agentId, some params.ticketId, params.type)

namespace NotificationWorld

/-- Notifications of one kind are more than the window apart. -/
abbrev Spaced (w : NotificationWorld) : Prop :=
  w.notifications.Spaced Notification.kind Notification.createdAt dedupWindow

/-- No notification is from the future. -/
def Past (w : NotificationWorld) : Prop :=
  ∀ row ∈ w.notifications.rows, row.val.createdAt ≤ w.now

/-- The number of notifications of a kind. -/
def countKind (w : NotificationWorld) (kind : AgentId × Option TicketId × String) : ℕ :=
  w.notifications.rows.countP fun row => row.val.kind = kind

/-- The agent has not turned off direct messages of a type. -/
def Enabled (w : NotificationWorld) (agentId : AgentId) (type : String) : Prop :=
  ∀ pref, w.prefs.findKey? (agentId, .telegram, type) = some pref → pref.val.enabled = true

/-- **Delivered.** Exactly one notification of the kind has the time of the call and its
payload, and it is unread. -/
structure Delivered (before w : NotificationWorld) (params : NotifyParams)
    (row : Entry Notification) : Prop where
  only : (w.notifications.rows.filter fun other => other.val.kind = params.kind &&
    other.val.createdAt = row.val.createdAt && other.val.payload = params.payload) = [row]
  unread : row.val.isRead = false
  started : before.now ≤ row.val.createdAt
  ended : row.val.createdAt ≤ w.now

end NotificationWorld

open NotificationWorld

/-! ## Sessions -/

/-- A call of `notify`: the world when it began, and what is left of it. -/
structure Serving where
  params : NotifyParams
  before : NotificationWorld
  rest : NotificationApp (Entry Notification)

/-- Calls one after another. `asked` are the calls that have asked for a direct message, one
for each time. -/
structure Session where
  world : NotificationWorld
  asked : List NotifyParams
  current : Option Serving

/-- A call begins; the call performs a command; a notification or all of an agent are marked
as read; time passes. -/
inductive Session.Step where
  | begins (params : NotifyParams)
  | performs
  | marksRead (id : NotificationId) (agentId : AgentId)
  | marksAllRead (agentId : AgentId)
  | elapses (milliseconds : ℕ)

/-- What is noted when a call performs a command. -/
def NotifyParams.note (params : NotifyParams) :
    NotificationCall → NotificationWorld → List NotifyParams → List NotifyParams
  | .sendMessage _ _, _, asked => asked ++ [params]
  | _, _, asked => asked

namespace Session

def start (w : NotificationWorld) : Session := ⟨w, [], none⟩

/-- No call is under way. -/
def idle (s : Session) : Bool :=
  match s.current with
  | some ⟨_, _, .call _ _⟩ => false
  | _ => true

def step (s : Session) : Step → Session
  | .begins params =>
      if s.idle then { s with current := some ⟨params, s.world, notify params⟩ } else s
  | .performs =>
      match s.current with
      | some ⟨params, before, .call c next⟩ =>
          { world := (s.world.perform c).2
            asked := params.note c s.world s.asked
            current := some ⟨params, before, next (s.world.perform c).1⟩ }
      | _ => s
  | .marksRead id agentId =>
      if s.idle then
        ⟨((markRead id agentId).run NotificationWorld.perform s.world).2, s.asked, none⟩
      else s
  | .marksAllRead agentId =>
      if s.idle then
        ⟨((markAllRead agentId).run NotificationWorld.perform s.world).2, s.asked, none⟩
      else s
  | .elapses milliseconds => { s with world := s.world.elapse milliseconds }

def run (s : Session) (steps : List Step) : Session := steps.foldl step s

/-- The call that has come to an end, and nothing but time since. -/
def ended? (s : Session) :
    Option (NotifyParams × NotificationWorld × Except Err (Entry Notification)) :=
  match s.current with
  | some ⟨params, before, .ret result⟩ => some (params, before, result)
  | _ => none

/-- The call that is about to ask for a direct message. -/
def asks? (s : Session) : Option (NotifyParams × NotificationWorld) :=
  match s.current with
  | some ⟨params, before, .call (.sendMessage _ _) _⟩ => some (params, before)
  | _ => none

end Session

/-! ## What a call relies on, and what it keeps -/

/-- The worlds with the calls that have asked for a direct message. -/
abbrev AskedNotifications := NotificationWorld × List NotifyParams

/-- The commands of a call, with a note of the direct messages for which it asks. -/
abbrev NotifyParams.handler (params : NotifyParams) :
    Handler NotificationCall NotificationCall.Resp Err AskedNotifications :=
  Handler.observed NotificationWorld.perform params.note

/-- The tables of notifications, agents, tickets and preferences stay, and time passes. -/
structure Onward (s s' : AskedNotifications) : Prop where
  notifications : s'.1.notifications = s.1.notifications
  agents : s'.1.agents = s.1.agents
  tickets : s'.1.tickets = s.1.tickets
  prefs : s'.1.prefs = s.1.prefs
  now : s.1.now ≤ s'.1.now
  asked : s'.2 = s.2

/-- The invariant of a session. -/
structure Orderly (s : AskedNotifications) : Prop where
  spaced : s.1.Spaced
  past : s.1.Past
  covered : ∀ kind, (s.2.countP fun params => params.kind = kind) ≤ s.1.countKind kind

/-- The call is allowed to ask for a direct message. -/
structure MayAsk (params : NotifyParams) (before w : NotificationWorld) : Prop where
  created : w.countKind params.kind = before.countKind params.kind + 1
  enabled : w.Enabled params.agentId params.type

/-- What a call guarantees of its commands. -/
structure Guards (params : NotifyParams) (before : NotificationWorld) (c : NotificationCall)
    (s : AskedNotifications) : Prop where
  orderly : Orderly (params.handler c s).2
  asks : ∀ telegramUserId text, c = .sendMessage telegramUserId text → MayAsk params before s.1

/-- There is no agent or no ticket to notify. -/
def NotificationWorld.Lacks (w : NotificationWorld) (params : NotifyParams) : Prop :=
  w.agents.find? params.agentId = none ∨ w.tickets.find? params.ticketId = none

/-- How a call ends. -/
inductive Ends (params : NotifyParams) (before : NotificationWorld) :
    Except Err (Entry Notification) → AskedNotifications → Prop where
  | delivered {row : Entry Notification} {s : AskedNotifications}
      (delivered : before.Delivered s.1 params row) : Ends params before (.ok row) s
  | refused {e : Err} {s : AskedNotifications} (lacks : s.1.Lacks params)
      (kept : s.1.notifications = before.notifications) : Ends params before (.error e) s

theorem Onward.refl (s : AskedNotifications) : Onward s s := ⟨rfl, rfl, rfl, rfl, le_refl _, rfl⟩

theorem Onward.trans {s s' s'' : AskedNotifications} (first : Onward s s')
    (second : Onward s' s'') : Onward s s'' where
  notifications := second.notifications.trans first.notifications
  agents := second.agents.trans first.agents
  tickets := second.tickets.trans first.tickets
  prefs := second.prefs.trans first.prefs
  now := first.now.trans second.now
  asked := second.asked.trans first.asked

theorem onward_elapse (s : AskedNotifications) (milliseconds : ℕ) :
    Onward s (s.1.elapse milliseconds, s.2) :=
  ⟨rfl, rfl, rfl, rfl, Int.le_add_of_nonneg_right (Int.natCast_nonneg _), rfl⟩

section Onward

variable {s s' : AskedNotifications} {params : NotifyParams} {before : NotificationWorld}

theorem Onward.countKind (onward : Onward s s') (kind : AgentId × Option TicketId × String) :
    s'.1.countKind kind = s.1.countKind kind := by
  rw [NotificationWorld.countKind, onward.notifications, NotificationWorld.countKind]

theorem Orderly.onward (orderly : Orderly s) (onward : Onward s s') : Orderly s' where
  spaced := by
    rw [NotificationWorld.Spaced, onward.notifications]
    exact orderly.spaced
  past row listed := by
    rw [onward.notifications] at listed
    exact (orderly.past row listed).trans onward.now
  covered kind := by
    rw [onward.asked, onward.countKind]
    exact orderly.covered kind

theorem Orderly.of_append {w : NotificationWorld} {asked : List NotifyParams}
    (orderly : Orderly (w, asked ++ [params])) : Orderly (w, asked) where
  spaced := orderly.spaced
  past := orderly.past
  covered kind := by
    refine le_trans ?_ (orderly.covered kind)
    rw [List.countP_append]
    exact Nat.le_add_right _ _

/-- What is onward is so with one more call noted. -/
theorem Onward.append (onward : Onward s s') :
    Onward (s.1, s.2 ++ [params]) (s'.1, s'.2 ++ [params]) :=
  ⟨onward.notifications, onward.agents, onward.tickets, onward.prefs, onward.now,
    congrArg (· ++ [params]) onward.asked⟩

theorem Delivered.onward {row : Entry Notification}
    (delivered : before.Delivered s.1 params row) (onward : Onward s s') :
    before.Delivered s'.1 params row where
  only := by
    rw [onward.notifications]
    exact delivered.only
  unread := delivered.unread
  started := delivered.started
  ended := delivered.ended.trans onward.now

theorem MayAsk.onward (may : MayAsk params before s.1) (onward : Onward s s') :
    MayAsk params before s'.1 where
  created := (onward.countKind params.kind).trans may.created
  enabled := by
    intro pref found
    rw [onward.prefs] at found
    exact may.enabled pref found

theorem Ends.onward {r : Except Err (Entry Notification)} (ends : Ends params before r s)
    (onward : Onward s s') : Ends params before r s' := by
  cases ends with
  | delivered delivered => exact .delivered (Delivered.onward delivered onward)
  | refused lacks kept =>
      refine .refused ?_ (onward.notifications.trans kept)
      rw [Lacks, onward.agents, onward.tickets]
      exact lacks

end Onward

/-! ## Commands that only look -/

/-- The command changes nothing on which calls rely. -/
def NotificationCall.quiet : NotificationCall → Bool
  | .newDate | .agentById _ | .notificationFindFirst _ _ _ _ | .prefByKey _ _ _ | .emit _ => true
  | _ => false

theorem onward_quiet {params : NotifyParams} {c : NotificationCall} (quiet : c.quiet = true)
    (s : AskedNotifications) : Onward s (params.handler c s).2 := by
  cases c <;> first | exact ⟨rfl, rfl, rfl, rfl, le_refl _, rfl⟩ | cases quiet

theorem sat_quiet_bind {params : NotifyParams} {before : NotificationWorld} {c : NotificationCall}
    {α : Type} {k : c.Resp → NotificationApp α} {Q : Except Err α → AskedNotifications → Prop}
    {s : AskedNotifications} (quiet : c.quiet = true) (orderly : Orderly s)
    (follows : ∀ s' answer, Onward s s' → (s'.1.perform c).1 = .ok answer →
      Sat params.handler Onward (fun _ _ => True) (Guards params before) (k answer) Q s') :
    Sat params.handler Onward (fun _ _ => True) (Guards params before) (issue c >>= k) Q s := by
  refine sat_perform_bind ?_ ?_ ?_
  · intro s' onward _
    refine ⟨(orderly.onward onward).onward (onward_quiet quiet s'), ?_⟩
    rintro telegramUserId text rfl
    cases quiet
  · intro s' answer onward _ answered
    exact (follows s' answer onward answered).move (fun _ _ _ first second => first.trans second)
      (onward_quiet quiet s')
  · intro s' e _ _ failed
    cases c <;> first | cases failed | cases quiet

/-! ## A call -/

section Call

variable {params : NotifyParams} {before : NotificationWorld} {s : AskedNotifications}

/-- A refresh: the latest notification of the kind is moved to a time that is not earlier. -/
theorem orderly_refresh {row : Entry Notification} {createdAt : Time} (orderly : Orderly s)
    (member : row ∈ s.1.notifications.rows)
    (latest : ∀ other ∈ s.1.notifications.rows, other.val.kind = row.val.kind →
      other.val.createdAt ≤ row.val.createdAt)
    (later : row.val.createdAt ≤ createdAt) (now : createdAt ≤ s.1.now) :
    Orderly (params.handler (.notificationUpdate row.id params.payload createdAt) s).2 := by
  change Orderly ((s.1.perform (.notificationUpdate row.id params.payload createdAt)).2, s.2)
  rw [perform_update member]
  refine ⟨?_, ?_, fun kind => ?_⟩
  · exact Table.Spaced.update (f := refreshed params.payload createdAt) orderly.spaced
      (fun _ => rfl) member (fun _ => rfl) (by decide) latest later
  · intro other listed
    obtain ⟨old, member', rfl⟩ :=
      (Table.mem_update (f := refreshed params.payload createdAt) fun _ => rfl).mp listed
    unfold Entry.change
    split
    · exact now
    · exact orderly.past old member'
  · exact (orderly.covered kind).trans_eq (Table.countP_update (f := refreshed _ _) (fun _ => rfl)
      (Notification.kind · = kind) fun _ => rfl).symm

/-- A creation, when no notification of the kind is within the window. -/
theorem orderly_create {now : Time} (orderly : Orderly s)
    (old : ∀ row ∈ s.1.notifications.rows, row.val.kind = params.kind →
      row.val.createdAt < now - dedupWindow) (past : now ≤ s.1.now)
    (agent : (s.1.agents.find? params.agentId).isSome)
    (ticket : (s.1.tickets.find? params.ticketId).isSome) :
    Orderly ((s.1.perform
      (.notificationCreate params.agentId params.type params.ticketId params.payload)).2,
      s.2 ++ [params]) := by
  rw [perform_create agent ticket]
  refine ⟨?_, ?_, fun kind => ?_⟩
  · refine orderly.spaced.insert (Table.free_of_none rfl) fun row listed same => ?_
    exact (Int.add_lt_of_lt_sub_right (old row listed same)).trans_le past
  · intro row listed
    rcases (Table.mem_insert (Table.free_of_none rfl)).mp listed with listed | rfl
    · exact orderly.past row listed
    · exact le_refl s.1.now
  · change _ ≤ List.countP _ (s.1.notifications.rows ++ [_])
    rw [List.countP_append, List.countP_append, List.countP_singleton, List.countP_singleton]
    exact Nat.add_le_add_right (orderly.covered kind) _

/-- The direct message of a call that has created a notification. -/
theorem sat_dispatch (orderly : Orderly (s.1, s.2 ++ [params]))
    (created : s.1.countKind params.kind = before.countKind params.kind + 1)
    {row : Entry Notification} (delivered : before.Delivered s.1 params row) :
    Sat params.handler Onward (fun _ _ => True) (Guards params before)
      (dispatchExternalChannels params.agentId params.type)
      (fun r s' => r = .ok () ∧ before.Delivered s'.1 params row) s := by
  have fewer := orderly.of_append
  refine sat_quiet_bind rfl fewer fun s₁ agent onward _ => ?_
  cases agent with
  | none => exact sat_pure fun s' onward' =>
      ⟨rfl, Delivered.onward delivered (onward.trans onward')⟩
  | some agent =>
      refine sat_quiet_bind rfl (fewer.onward onward) fun s₂ pref onward₂ answered => ?_
      have reached := onward.trans onward₂
      split
      · next on =>
        obtain rfl := Except.ok.inj answered
        have may : MayAsk params before s₂.1 := by
          refine ⟨(reached.countKind _).trans created, fun pref found => ?_⟩
          rw [found] at on
          exact on
        refine sat_bind Onward.refl (sat_attempt (sat_bind Onward.refl (sat_attempt
          (sat_perform fun s₃ onward₃ _ => ⟨⟨?_, fun _ _ _ => may.onward onward₃⟩, ?_⟩))))
        · have onward' := reached.trans onward₃
          exact (orderly.onward onward'.append).onward ⟨rfl, rfl, rfl, rfl, le_refl _, rfl⟩
        · have kept := Delivered.onward delivered (reached.trans onward₃)
          have asked : before.Delivered (params.handler (.sendMessage agent.val.telegramUserId
              (formatter params.type)) s₃).2.1 params row :=
            ⟨kept.only, kept.unread, kept.started, kept.ended⟩
          exact fun _ first _ second _ third =>
            ⟨rfl, Delivered.onward asked ((first.trans second).trans third)⟩
      · exact sat_pure fun s' onward' => ⟨rfl, Delivered.onward delivered (reached.trans onward')⟩

theorem concerns_iff {row : Entry Notification} :
    concerns params.agentId params.ticketId params.type row = true ↔
      row.val.kind = params.kind := by
  simp [concerns, Notification.kind, NotifyParams.kind, and_assoc]

/-- In an orderly session a notification with the payload and time of a call is the only one. -/
theorem delivered_of_mem (orderly : Orderly s) {row : Entry Notification}
    (member : row ∈ s.1.notifications.rows) (kind : row.val.kind = params.kind)
    (payload : row.val.payload = params.payload) (unread : row.val.isRead = false)
    (started : before.now ≤ row.val.createdAt) : before.Delivered s.1 params row where
  only := by
    refine orderly.spaced.only (fun _ => Int.le_add_of_nonneg_right (by decide)) member ?_ ?_
    · simp [kind, payload]
    · intro other _ meets
      simp only [Bool.and_eq_true, decide_eq_true_eq] at meets
      exact ⟨meets.1.1.trans kind.symm, meets.1.2⟩
  unread := unread
  started := started
  ended := orderly.past row member

/-- The last steps of a call: it announces the notification, and returns it. -/
theorem sat_announce (orderly : Orderly s) {row : Entry Notification}
    (delivered : before.Delivered s.1 params row) {event : DomainEvent} :
    Sat params.handler Onward (fun _ _ => True) (Guards params before)
      (issue (.emit event) >>= fun _ => pure row) (Ends params before) s :=
  sat_quiet_bind rfl orderly fun _ _ onward _ => sat_pure fun _ onward' =>
    .delivered (Delivered.onward delivered (onward.trans onward'))

/-- What is left of a call that has found a notification of the kind within the window. -/
theorem sat_refresh (orderly : Orderly s) {row : Entry Notification} {since : Time}
    (found : s.1.findFirst params.agentId params.ticketId params.type since = some row)
    (started : before.now ≤ s.1.now) :
    Sat params.handler Onward (fun _ _ => True) (Guards params before)
      (refreshOrCreate params (some row)) (Ends params before) s := by
  obtain ⟨member, meets⟩ := Table.mem_of_latest found
  obtain ⟨concerned, recent⟩ := Bool.and_eq_true_iff.mp meets
  have kind := concerns_iff.mp concerned
  -- what is not within the window is earlier
  have latest : ∀ other ∈ s.1.notifications.rows, other.val.kind = row.val.kind →
      other.val.createdAt ≤ row.val.createdAt := by
    intro other listed same
    rcases le_or_gt since other.val.createdAt with within | before
    · exact Table.le_of_latest found listed (Bool.and_eq_true_iff.mpr
        ⟨concerns_iff.mpr (same.trans kind), decide_eq_true within⟩)
    · exact before.le.trans (of_decide_eq_true recent)
  refine sat_quiet_bind rfl orderly fun s₁ createdAt onward answered => ?_
  obtain rfl : s₁.1.now = createdAt := Except.ok.inj answered
  have refreshes : ∀ s₂, Onward s₁ s₂ →
      row ∈ s₂.1.notifications.rows ∧
        Orderly (params.handler (.notificationUpdate row.id params.payload s₁.1.now) s₂).2 := by
    intro s₂ onward₂
    have reached := onward.trans onward₂
    have member₂ : row ∈ s₂.1.notifications.rows := by rwa [reached.notifications]
    refine ⟨member₂, orderly_refresh (orderly.onward reached) member₂ ?_
      ((orderly.past row member).trans onward.now) onward₂.now⟩
    rw [reached.notifications]
    exact latest
  refine sat_perform_bind ?_ ?_ ?_
  · exact fun s₂ onward₂ _ => ⟨(refreshes s₂ onward₂).2, fun _ _ other => by cases other⟩
  · intro s₂ answer onward₂ _ answered
    obtain ⟨member₂, orderly₂⟩ := refreshes s₂ onward₂
    change (s₂.1.perform _).1 = _ at answered
    rw [perform_update member₂] at answered
    obtain rfl := Except.ok.inj answered
    have listed : ⟨row.id, NotificationWorld.refreshed params.payload s₁.1.now row.val⟩ ∈
        (s₂.1.perform
          (.notificationUpdate row.id params.payload s₁.1.now)).2.notifications.rows := by
      rw [perform_update member₂]
      exact (Table.mem_update (f := refreshed params.payload s₁.1.now) fun _ => rfl).mpr
        ⟨row, member₂, Entry.change_self _ row⟩
    exact sat_announce orderly₂
      (delivered_of_mem orderly₂ listed kind rfl rfl (started.trans onward.now))
  · intro s₂ e onward₂ _ failed
    change (s₂.1.perform _).1 = _ at failed
    rw [perform_update (refreshes s₂ onward₂).1] at failed
    cases failed

/-- What is left of a call that has found none. -/
theorem sat_create (orderly : Orderly s) {now : Time}
    (found : s.1.findFirst params.agentId params.ticketId params.type (now - dedupWindow) = none)
    (past : now ≤ s.1.now) (started : before.now ≤ s.1.now)
    (kept : s.1.notifications = before.notifications) :
    Sat params.handler Onward (fun _ _ => True) (Guards params before)
      (refreshOrCreate params none) (Ends params before) s := by
  have old : ∀ row ∈ s.1.notifications.rows, row.val.kind = params.kind →
      row.val.createdAt < now - dedupWindow := by
    intro row listed same
    have outside := Table.latest_eq_none_iff.mp found row listed
    rw [concerns_iff.mpr same, Bool.true_and] at outside
    exact not_le.mp (of_decide_eq_false outside)
  refine sat_call fun s₁ onward _ => ?_
  have orderly₁ := orderly.onward onward
  change Guards params before _ s₁ ∧ Sat params.handler Onward _ _
    ((Program.ret (s₁.1.perform _).1).bind _) _ ((s₁.1.perform _).2, s₁.2)
  by_cases lacks : s₁.1.Lacks params
  · refine ⟨⟨?_, fun _ _ other => by cases other⟩, ?_⟩
    · change Orderly ((s₁.1.perform _).2, s₁.2)
      rw [perform_create_of_missing lacks]
      exact orderly₁
    · rw [perform_create_of_missing lacks]
      exact fun s' onward' => Ends.onward (.refused lacks (onward.notifications.trans kept)) onward'
  · obtain ⟨missing, missing'⟩ := not_or.mp lacks
    have agent := Option.ne_none_iff_isSome.mp missing
    have ticket := Option.ne_none_iff_isSome.mp missing'
    have created : s₁.1.perform (.notificationCreate params.agentId params.type params.ticketId
        params.payload) = _ := perform_create agent ticket
    have older : ∀ row ∈ s₁.1.notifications.rows, row.val.kind = params.kind →
        row.val.createdAt < now - dedupWindow := by
      rw [onward.notifications]
      exact old
    -- there is one notification more than calls that have asked
    have ahead := orderly_create orderly₁ older (past.trans onward.now) agent ticket
    have orderly₂ : Orderly ((s₁.1.perform (.notificationCreate params.agentId params.type
        params.ticketId params.payload)).2, s₁.2) := ahead.of_append
    refine ⟨⟨orderly₂, fun _ _ other => by cases other⟩, ?_⟩
    rw [created] at orderly₂ ahead ⊢
    refine sat_quiet_bind rfl orderly₂ fun s₃ _ onward₃ _ => ?_
    have delivered : before.Delivered _ params _ := delivered_of_mem orderly₂
      ((Table.mem_insert (Table.free_of_none rfl)).mpr (.inr rfl)) rfl rfl rfl
      (started.trans onward.now)
    refine sat_bind Onward.refl ((sat_dispatch (ahead.onward onward₃.append) ?_
      (Delivered.onward delivered onward₃)).mono ?_)
    · rw [onward₃.countKind, countKind, Table.insert_rows, onward.notifications, kept,
        List.countP_append]
      simp [countKind, Notification.kind, NotifyParams.kind]
    · rintro _ s₄ ⟨rfl, delivered₄⟩
      exact fun s' onward' => .delivered (Delivered.onward delivered₄ onward')

/-- **A call.** In an orderly session a call keeps the order and ends as it should. -/
theorem sat_notify (orderly : Orderly s) :
    Sat params.handler Onward (fun _ _ => True) (Guards params s.1) (notify params)
      (Ends params s.1) s := by
  rw [notify_eq]
  refine sat_quiet_bind rfl orderly fun s₁ now onward answered => ?_
  obtain rfl : s₁.1.now = now := Except.ok.inj answered
  refine sat_quiet_bind rfl (orderly.onward onward) fun s₂ existing onward₂ answered => ?_
  obtain rfl := Except.ok.inj answered
  have reached := onward.trans onward₂
  cases found : s₂.1.findFirst params.agentId params.ticketId params.type
      (s₁.1.now - dedupWindow) with
  | some row => exact sat_refresh (orderly.onward reached) found reached.now
  | none =>
      exact sat_create (orderly.onward reached) found onward₂.now reached.now reached.notifications

end Call

/-! ## Sessions -/

/-- **Deduplicated.** Notifications of one kind are more than the window apart; a call that has
ended has delivered, or there was nobody or nothing to notify about and it has changed
nothing; there are no more direct messages of a kind than notifications; and a call that is
about to ask for one has created a notification, and the agent has not turned them off. -/
structure Session.Deduplicated (s : Session) : Prop where
  spaced : s.world.Spaced
  delivered : ∀ params before row, s.ended? = some (params, before, .ok row) →
    before.Delivered s.world params row
  refused : ∀ params before e, s.ended? = some (params, before, .error e) →
    s.world.Lacks params ∧ s.world.notifications = before.notifications
  asked : ∀ kind, (s.asked.countP fun params => params.kind = kind) ≤ s.world.countKind kind
  asking : ∀ params before, s.asks? = some (params, before) → MayAsk params before s.world

/-- The invariant: the session is orderly, and what is left of a call does what it should. -/
structure Session.Sound (s : Session) : Prop where
  orderly : Orderly (s.world, s.asked)
  serves : ∀ serving ∈ s.current, Sat serving.params.handler Onward (fun _ _ => True)
    (Guards serving.params serving.before) serving.rest (Ends serving.params serving.before)
    (s.world, s.asked)

namespace Session

theorem ended?_eq_some_iff {s : Session} {params : NotifyParams} {before : NotificationWorld}
    {r : Except Err (Entry Notification)} :
    s.ended? = some (params, before, r) ↔ s.current = some ⟨params, before, .ret r⟩ := by
  rcases s with ⟨w, asked, _ | ⟨params', before', _ | _⟩⟩ <;> simp [ended?]

theorem asks?_eq_some_iff {s : Session} {params : NotifyParams} {before : NotificationWorld} :
    s.asks? = some (params, before) ↔ ∃ telegramUserId text next,
      s.current = some ⟨params, before, .call (.sendMessage telegramUserId text) next⟩ := by
  rcases s with ⟨w, asked, _ | ⟨params', before', _ | ⟨c, next⟩⟩⟩
  · simp [asks?]
  · simp [asks?]
  · cases c <;> simp [asks?]

namespace Sound

variable {s : Session} (sound : s.Sound)
include sound

theorem ends {params : NotifyParams} {before : NotificationWorld}
    {r : Except Err (Entry Notification)} (ended : s.ended? = some (params, before, r)) :
    Ends params before r (s.world, s.asked) :=
  sound.serves _ (ended?_eq_some_iff.mp ended) _ (Onward.refl _)

theorem deduplicated : s.Deduplicated where
  spaced := sound.orderly.spaced
  delivered params before row ended := by
    cases sound.ends ended with
    | delivered delivered => exact delivered
  refused params before e ended := by
    cases sound.ends ended with
    | refused lacks kept => exact ⟨lacks, kept⟩
  asked := sound.orderly.covered
  asking params before asks := by
    obtain ⟨telegramUserId, text, next, current⟩ := asks?_eq_some_iff.mp asks
    exact (sound.serves _ current _ (Onward.refl _) trivial).1.asks telegramUserId text rfl

/-- Marking notifications as read moves none. -/
theorem marks {p : Entry Notification → Bool} {world : NotificationWorld}
    (marked : world.notifications = s.world.notifications.updateMany p read fun _ => rfl)
    (now : world.now = s.world.now) : (⟨world, s.asked, none⟩ : Session).Sound := by
  refine ⟨⟨?_, ?_, fun kind => ?_⟩, nofun⟩
  · rw [Spaced, marked]
    exact sound.orderly.spaced.updateMany _ (fun _ => rfl) fun _ => rfl
  · intro row listed
    rw [marked] at listed
    obtain ⟨old, member, rfl⟩ :=
      (Table.mem_updateMany (f := NotificationWorld.read) fun _ => rfl).mp listed
    rw [now]
    split <;> exact sound.orderly.past old member
  · refine (sound.orderly.covered kind).trans_eq ?_
    rw [countKind, countKind, marked]
    exact (Table.countP_updateMany (f := NotificationWorld.read) (fun _ => rfl)
      (Notification.kind · = kind) fun _ => rfl).symm

theorem step (step : Session.Step) : (s.step step).Sound := by
  cases step with
  | begins params =>
      simp only [Session.step]
      split
      · refine ⟨sound.orderly, ?_⟩
        rintro _ ⟨⟩
        exact sat_notify sound.orderly
      · exact sound
  | performs =>
      simp only [Session.step]
      split
      · next params before c next current =>
        obtain ⟨guards, rest⟩ := sound.serves _ current _ (Onward.refl _) trivial
        refine ⟨guards.orderly, ?_⟩
        rintro _ ⟨⟩
        exact rest
      · exact sound
  | marksRead id agentId =>
      simp only [Session.step]
      split
      · exact sound.marks rfl rfl
      · exact sound
  | marksAllRead agentId =>
      simp only [Session.step]
      split
      · exact sound.marks rfl rfl
      · exact sound
  | elapses milliseconds =>
      have onward := onward_elapse (s.world, s.asked) milliseconds
      refine ⟨sound.orderly.onward onward, fun serving current => ?_⟩
      exact (sound.serves serving current).move
        (fun _ _ _ first second => first.trans second) onward

end Sound

end Session

/-- **The deduplication window.** Whatever the calls, the times between their commands and the
marks between the calls, the session is deduplicated at every moment. -/
theorem dedup_window_holds {w : NotificationWorld} (spaced : w.Spaced) (past : w.Past)
    (steps : List Session.Step) : ((Session.start w).run steps).Deduplicated := by
  refine Session.Sound.deduplicated ?_
  induction steps using List.reverseRecOn with
  | nil => exact ⟨⟨spaced, past, fun _ => Nat.zero_le _⟩, nofun⟩
  | append_singleton steps step ih =>
      rw [Session.run, List.foldl_append]
      exact ih.step step

/-- A call for an agent, from its beginning to its end. -/
def Session.calls (params : NotifyParams) : List Session.Step :=
  .begins params :: List.replicate 7 .performs

/-- Three calls of one kind: the second comes within the window and the third after it. -/
theorem dedup_window_seeded :
    let params : NotifyParams := ⟨0, "ticket.assigned", 0, ("byAgentId", 1)⟩
    let s := (Session.start .seeded).run (Session.calls params ++
      [.marksAllRead 0, .elapses 60000] ++ Session.calls params ++ [.elapses 300001] ++
      Session.calls params)
    s.Deduplicated ∧ s.world.countKind params.kind = 2 ∧ s.asked = [params, params] :=
  ⟨dedup_window_holds Table.spaced_empty (fun _ listed => absurd listed List.not_mem_nil) _,
    by decide, by decide⟩

/-- Nobody is notified when a mention names no agent: the call fails. -/
theorem unknown_agent_not_notified :
    let params : NotifyParams := ⟨7, "comment.mention", 0, ("commentId", 0)⟩
    let s := (Session.start .seeded).run (Session.calls params)
    s.ended?.map (fun ended => ended.2.2) = some (.error .foreignKeyConstraint) ∧
      s.world.countKind params.kind = 0 :=
  ⟨rfl, by decide⟩

end SupportCrm
