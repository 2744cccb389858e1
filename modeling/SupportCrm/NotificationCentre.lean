import Mathlib.Data.List.Sort
import SupportCrm.Effects
import SupportCrm.Library.Noninterference
import SupportCrm.Notifications

/-!
# The notification centre

An agent reads its notifications and preferences, marks notifications as read and changes its
preferences. The tables are those of all agents, and the requests of an agent name rows by
their identifiers. `notification_centre_private` says that an agent notices nothing of what the
others ask for: with or without their requests, in whatever order everything happens, it is
listed the same notifications with the same marks, has the same preferences and is sent the
same direct messages.

`LooksAlike` is what the agent sees of a state, and a little more: the notifications of others
count without their marks, since `notify` goes by them.
-/

set_option autoImplicit false

namespace SupportCrm

open KeyedTable AtomicProgram

/-! ## Requests -/

theorem NotificationPref.key_eq (pref : NotificationPref) :
    pref.key = some (pref.agentId, pref.channel, pref.eventType) := rfl

namespace NotificationsService

variable (agentId : AgentId) (w : NotificationWorld)

/-- The condition of `list` on a notification. -/
def listed (unreadOnly : Bool) (row : Entry Notification) : Bool :=
  row.val.agentId = agentId && (!unreadOnly || !row.val.isRead)

/-- The newest first, at most a hundred. -/
def list (unreadOnly : Bool) : List (Entry Notification) :=
  ((w.notifications.rows.filter (listed agentId unreadOnly)).insertionSort
    fun first second => second.val.createdAt ≤ first.val.createdAt).take 100

def getPrefs : List NotificationPref :=
  (w.prefs.rows.map Entry.val).filter fun pref => pref.agentId = agentId

/-- `notificationPref.upsert` by agent, channel and type; a preference needs its agent. -/
def updatePref (channel : NotificationChannel) (eventType : String) (enabled : Bool) :
    Except Err NotificationPref × NotificationWorld :=
  let pref : NotificationPref := ⟨agentId, channel, eventType, enabled⟩
  if w.hasAgent (some agentId) then (.ok pref, { w with prefs := w.prefs.put pref pref.key_eq })
  else (.error .foreignKeyConstraint, w)

end NotificationsService

/-- The requests to `NotificationsController` that write. -/
inductive CentreRequest where
  | markRead (id : NotificationId)
  | markAllRead
  | updatePrefs (channel : NotificationChannel) (eventType : String) (enabled : Bool)
  deriving DecidableEq, Repr

/-- The world after a request; the agent is that of the session. -/
def CentreRequest.handle (agentId : AgentId) (w : NotificationWorld) :
    CentreRequest → NotificationWorld
  | .markRead id =>
      ((NotificationsService.markRead id agentId).run NotificationWorld.perform w).2
  | .markAllRead =>
      ((NotificationsService.markAllRead agentId).run NotificationWorld.perform w).2
  | .updatePrefs channel eventType enabled =>
      (NotificationsService.updatePref agentId w channel eventType enabled).2

/-- What happens beside the calls of `notify`: time passes, a command of the ticket pipeline is
performed, or an agent makes a request. -/
inductive CentreAct where
  | elapses (milliseconds : ℕ)
  | performs (c : Call)
  | asks (agentId : AgentId) (request : CentreRequest)

def CentreAct.effect : CentreAct → NotificationWorld → NotificationWorld
  | .elapses milliseconds, w => w.elapse milliseconds
  | .performs c, w => { w with toWorld := (w.toWorld.perform c).2 }
  | .asks agentId request, w => request.handle agentId w

/-- All acts but the requests of other agents. -/
def CentreAct.concerns (agentId : AgentId) : CentreAct → Bool
  | .elapses _ | .performs _ => true
  | .asks byAgentId _ => byAgentId = agentId

/-- Calls of `notify` under way. -/
abbrev Centre := Pool NotificationCall NotificationCall.Resp Err (Entry Notification)
  NotificationWorld

def Centre.start (calls : List NotifyParams) (w : NotificationWorld) : Centre :=
  ⟨calls.map NotificationsService.notify, w⟩

abbrev Centre.exec (centre : Centre) (schedule : List (Act CentreAct)) : Centre :=
  Pool.exec (fun _ => NotificationWorld.perform) CentreAct.effect centre schedule

/-- The schedule without the requests of other agents. -/
def withoutOthers (agentId : AgentId) (schedule : List (Act CentreAct)) : List (Act CentreAct) :=
  schedule.filter (Act.kept (CentreAct.concerns agentId))

/-! ## What an agent sees -/

/-- The notification as others know it: without the mark. -/
def Notification.veiled (agentId : AgentId) (notification : Notification) : Notification :=
  if notification.agentId = agentId then notification else { notification with isRead := false }

namespace Notification

variable (agentId : AgentId) (notification : Notification)

theorem veiled_own {notification : Notification} (own : notification.agentId = agentId) :
    notification.veiled agentId = notification := if_pos own

theorem veiled_foreign {notification : Notification} (foreign : notification.agentId ≠ agentId) :
    notification.veiled agentId = { notification with isRead := false } := if_neg foreign

@[simp] theorem veiled_agentId : (notification.veiled agentId).agentId = notification.agentId := by
  unfold veiled
  split <;> rfl

@[simp] theorem veiled_ticketId :
    (notification.veiled agentId).ticketId = notification.ticketId := by
  unfold veiled
  split <;> rfl

@[simp] theorem veiled_type : (notification.veiled agentId).type = notification.type := by
  unfold veiled
  split <;> rfl

@[simp] theorem veiled_createdAt :
    (notification.veiled agentId).createdAt = notification.createdAt := by
  unfold veiled
  split <;> rfl

/-- A refreshed notification has no mark. -/
theorem veiled_refreshed (payload : String × ℕ) (createdAt : Time) :
    (NotificationWorld.refreshed payload createdAt notification).veiled agentId =
      NotificationWorld.refreshed payload createdAt (notification.veiled agentId) := by
  unfold veiled NotificationWorld.refreshed
  split <;> rfl

theorem refreshed_veiled (payload : String × ℕ) (createdAt : Time) :
    NotificationWorld.refreshed payload createdAt (notification.veiled agentId) =
      NotificationWorld.refreshed payload createdAt notification := by
  unfold veiled NotificationWorld.refreshed
  split <;> rfl

end Notification

theorem World.agents_perform {w : World} {c : Call}
    (fixed : ∀ id isActive, c ≠ .agentUpdate id isActive) :
    (w.perform c).2.agents = w.agents := by
  have step := w.perform_step c
  generalize (w.perform c).2 = w' at step
  cases step
  case agents id isActive agents same => exact absurd rfl (fixed id isActive)
  all_goals rfl

/-- No command changes who an agent is at Telegram. -/
theorem World.user_perform (w : World) (c : Call) (id : AgentId) :
    ((w.perform c).2.agents.find? id).map (fun agent => agent.val.telegramUserId) =
      (w.agents.find? id).map fun agent => agent.val.telegramUserId := by
  by_cases updates : ∃ other isActive, c = .agentUpdate other isActive
  · obtain ⟨other, isActive, rfl⟩ := updates
    simp only [perform, effect, agentUpdate]
    split
    · next answer w' done =>
      split at done
      · cases done
      · cases done
        rw [Table.find?_update, Option.map_map]
        refine congrArg (Option.map · _) (funext fun agent => ?_)
        exact Entry.change_same other (activity isActive) agent Agent.telegramUserId fun _ => rfl
    · rfl
  · rw [agents_perform fun other isActive same => updates ⟨other, isActive, same⟩]

namespace NotificationWorld

variable (agentId : AgentId) (w : NotificationWorld)

/-- All notifications, those of others without their marks. -/
def veiled : List (Entry Notification) :=
  w.notifications.rows.map (Entry.map (Notification.veiled agentId))

/-- The Telegram user of an agent. -/
def userOf : Option ℤ := (w.agents.find? agentId).map fun agent => agent.val.telegramUserId

/-- The direct messages that the bot was asked to send to a user. -/
def sentTo (user : Option ℤ) : List DirectMessage :=
  w.directMessages.filter fun message => user = some message.telegramUserId

/-- The direct messages to an agent. -/
def messagesTo : List DirectMessage := w.sentTo (w.userOf agentId)

/-- No two agents are the same Telegram user. -/
theorem userOf_injective {id id' : AgentId} {user : ℤ} (first : w.userOf id = some user)
    (second : w.userOf id' = some user) : id = id' := by
  obtain ⟨agent, found, rfl⟩ := Option.map_eq_some_iff.mp first
  obtain ⟨agent', found', same⟩ := Option.map_eq_some_iff.mp second
  have one : agent = agent' := by
    refine Table.eq_of_key_eq (Table.mem_of_find? found) (Table.mem_of_find? found') rfl ?_
    exact congrArg some same
  rw [← Table.id_of_find? found, ← Table.id_of_find? found', one]

end NotificationWorld

/-- Two states that look alike to an agent, where the agents are the given Telegram users. -/
structure LooksAlike (agentId : AgentId) (users : AgentId → Option ℤ)
    (w w' : NotificationWorld) : Prop where
  known : ∀ id, w.userOf id = users id
  world : w.toWorld = w'.toWorld
  refuses : w.refuses = w'.refuses
  next : w.notifications.next = w'.notifications.next
  notifications : w.veiled agentId = w'.veiled agentId
  prefs : NotificationsService.getPrefs agentId w = NotificationsService.getPrefs agentId w'
  messages : w.sentTo (users agentId) = w'.sentTo (users agentId)

namespace LooksAlike

variable {agentId : AgentId} {users : AgentId → Option ℤ} {w w' : NotificationWorld}

theorem refl (agentId : AgentId) (w : NotificationWorld) : LooksAlike agentId w.userOf w w :=
  ⟨fun _ => rfl, rfl, rfl, rfl, rfl, rfl, rfl⟩

theorem known_right (alike : LooksAlike agentId users w w') (id : AgentId) :
    w'.userOf id = users id := by
  rw [← alike.known id, NotificationWorld.userOf, NotificationWorld.userOf, alike.world]

/-! ### What the agent is shown -/

/-- The notifications of an agent are seen with their marks. -/
theorem filter_veiled {p : Entry Notification → Bool}
    (own : ∀ row, p row = true → row.val.agentId = agentId) (w : NotificationWorld) :
    (w.veiled agentId).filter p = w.notifications.rows.filter p := by
  have same : p ∘ Entry.map (Notification.veiled agentId) = p := by
    funext row
    by_cases mine : row.val.agentId = agentId
    · simp [Entry.map, Notification.veiled_own agentId mine]
    · have unseen : p row = false := by
        simpa using mt (own row) mine
      have unseen' : p (row.map (Notification.veiled agentId)) = false := by
        simpa using mt (own (row.map (Notification.veiled agentId)))
          (by simpa [Entry.map] using mine)
      rw [Function.comp_apply, unseen, unseen']
  rw [NotificationWorld.veiled, List.filter_map, same]
  refine (List.map_congr_left fun row listed => ?_).trans (List.map_id _)
  simp [Entry.map, Notification.veiled_own agentId (own row (List.mem_filter.mp listed).2)]

theorem map_veiled_own {row : Entry Notification} (mine : row.val.agentId = agentId) :
    row.map (Notification.veiled agentId) = row :=
  congrArg (Entry.mk row.id) (Notification.veiled_own agentId mine)

theorem list_eq (alike : LooksAlike agentId users w w') (unreadOnly : Bool) :
    NotificationsService.list agentId w unreadOnly =
      NotificationsService.list agentId w' unreadOnly := by
  have own : ∀ row, NotificationsService.listed agentId unreadOnly row = true →
      row.val.agentId = agentId := by
    intro row listed
    simpa using (Bool.and_eq_true_iff.mp listed).1
  rw [NotificationsService.list, NotificationsService.list, ← filter_veiled own,
    ← filter_veiled own, alike.notifications]

theorem messages_eq (alike : LooksAlike agentId users w w') :
    w.messagesTo agentId = w'.messagesTo agentId := by
  rw [NotificationWorld.messagesTo, NotificationWorld.messagesTo, alike.known, alike.known_right]
  exact alike.messages

/-! ### Marks and preferences -/

/-- The entry with a mark, if it meets a condition. -/
def marked (p : Entry Notification → Bool) (row : Entry Notification) : Entry Notification :=
  if p row then ⟨row.id, NotificationWorld.read row.val⟩ else row

theorem marked_agentId (p : Entry Notification → Bool) (row : Entry Notification) :
    (marked p row).val.agentId = row.val.agentId := by
  unfold marked
  split <;> rfl

theorem veiled_marked {p : Entry Notification → Bool}
    (own : ∀ row, p row = true → row.val.agentId = agentId) (row : Entry Notification) :
    (marked p row).map (Notification.veiled agentId) =
      marked p (row.map (Notification.veiled agentId)) := by
  by_cases mine : row.val.agentId = agentId
  · rw [map_veiled_own mine, map_veiled_own ((marked_agentId p row).trans mine)]
  · have unmarked : ¬ p row = true := fun meets => mine (own row meets)
    have unmarked' : ¬ p (row.map (Notification.veiled agentId)) = true :=
      fun meets => mine (by simpa [Entry.map] using own _ meets)
    rw [marked, marked, if_neg unmarked, if_neg unmarked']

theorem veiled_marked_foreign {p : Entry Notification → Bool}
    (foreign : ∀ row, p row = true → row.val.agentId ≠ agentId) (row : Entry Notification) :
    (marked p row).map (Notification.veiled agentId) = row.map (Notification.veiled agentId) := by
  unfold marked
  split
  · next meets =>
    refine congrArg (Entry.mk row.id) ?_
    rw [Notification.veiled_foreign agentId (foreign row meets)]
    exact Notification.veiled_foreign agentId (foreign row meets)
  · rfl

/-- Preferences with the same key belong to the same agent. -/
theorem sameOwner (pref old : NotificationPref) (same : old.key = pref.key) :
    (decide (old.agentId = agentId)) = decide (pref.agentId = agentId) := by
  have owner : old.agentId = pref.agentId := congrArg Prod.fst (Option.some.inj same)
  rw [owner]

/-- The agent marks notifications of its own. -/
theorem marks {p : Entry Notification → Bool}
    (own : ∀ row, p row = true → row.val.agentId = agentId)
    (alike : LooksAlike agentId users w w') :
    LooksAlike agentId users
      { w with notifications := w.notifications.updateMany p NotificationWorld.read fun _ => rfl }
      { w' with
        notifications := w'.notifications.updateMany p NotificationWorld.read fun _ => rfl } := by
  refine ⟨alike.known, alike.world, alike.refuses, alike.next, ?_, alike.prefs, alike.messages⟩
  have rows : (w.veiled agentId).map (marked p) = (w'.veiled agentId).map (marked p) :=
    congrArg _ alike.notifications
  simp only [NotificationWorld.veiled, List.map_map] at rows
  simp only [NotificationWorld.veiled, Table.updateMany, List.map_map]
  refine Eq.trans ?_ (rows.trans ?_)
  · exact List.map_congr_left fun row _ => veiled_marked own row
  · exact List.map_congr_left fun row _ => (veiled_marked own row).symm

/-- Somebody else marks notifications that are not the agent's. -/
theorem marks_foreign {p : Entry Notification → Bool}
    (foreign : ∀ row, p row = true → row.val.agentId ≠ agentId)
    (alike : LooksAlike agentId users w w') :
    LooksAlike agentId users
      { w with notifications := w.notifications.updateMany p NotificationWorld.read fun _ => rfl }
      w' := by
  refine ⟨alike.known, alike.world, alike.refuses, alike.next, ?_, alike.prefs, alike.messages⟩
  refine Eq.trans ?_ alike.notifications
  simp only [NotificationWorld.veiled, Table.updateMany, List.map_map]
  exact List.map_congr_left fun row _ => veiled_marked_foreign foreign row

/-- The agent stores a preference of its own. -/
theorem prefers {pref : NotificationPref} (own : pref.agentId = agentId)
    (alike : LooksAlike agentId users w w') :
    LooksAlike agentId users { w with prefs := w.prefs.put pref pref.key_eq }
      { w' with prefs := w'.prefs.put pref pref.key_eq } := by
  refine ⟨alike.known, alike.world, alike.refuses, alike.next, alike.notifications, ?_,
    alike.messages⟩
  simp only [NotificationsService.getPrefs, Table.values_put]
  rw [filter_upsert_of_true (sameOwner pref) (decide_eq_true own),
    filter_upsert_of_true (sameOwner pref) (decide_eq_true own)]
  exact congrArg _ alike.prefs

/-- Somebody else stores a preference. -/
theorem prefers_foreign {pref : NotificationPref} (foreign : pref.agentId ≠ agentId)
    (alike : LooksAlike agentId users w w') :
    LooksAlike agentId users { w with prefs := w.prefs.put pref pref.key_eq } w' := by
  refine ⟨alike.known, alike.world, alike.refuses, alike.next, alike.notifications, ?_,
    alike.messages⟩
  refine Eq.trans ?_ alike.prefs
  simp only [NotificationsService.getPrefs, Table.values_put]
  exact filter_upsert_of_false (sameOwner pref) (decide_eq_false foreign)

/-! ### Acts -/

/-- What concerns an agent keeps two states alike. -/
theorem effect {act : CentreAct} (concerns : act.concerns agentId = true)
    (alike : LooksAlike agentId users w w') :
    LooksAlike agentId users (act.effect w) (act.effect w') := by
  cases act with
  | elapses milliseconds =>
      refine ⟨alike.known, ?_, alike.refuses, alike.next, alike.notifications, alike.prefs,
        alike.messages⟩
      simp only [CentreAct.effect, NotificationWorld.elapse, alike.world]
  | performs c =>
      refine ⟨fun id => ?_, ?_, alike.refuses, alike.next, alike.notifications, alike.prefs,
        alike.messages⟩
      · exact (w.toWorld.user_perform c id).trans (alike.known id)
      · exact congrArg (fun world : World => (world.perform c).2) alike.world
  | asks byAgentId request =>
      obtain rfl : byAgentId = agentId := of_decide_eq_true concerns
      cases request with
      | markRead id =>
          exact marks (fun row meets => of_decide_eq_true (Bool.and_eq_true_iff.mp meets).2) alike
      | markAllRead =>
          exact marks (fun row meets => of_decide_eq_true (Bool.and_eq_true_iff.mp meets).1) alike
      | updatePrefs channel eventType enabled =>
          have same : w.hasAgent (some byAgentId) = w'.hasAgent (some byAgentId) :=
            congrArg (World.hasAgent · _) alike.world
          simp only [CentreAct.effect, CentreRequest.handle, NotificationsService.updatePref,
            ← same]
          split
          · exact prefers rfl alike
          · exact alike

/-- An agent notices nothing of what does not concern it. -/
theorem effect_foreign {act : CentreAct} (foreign : act.concerns agentId = false)
    (alike : LooksAlike agentId users w w') : LooksAlike agentId users (act.effect w) w' := by
  cases act with
  | elapses milliseconds => cases foreign
  | performs c => cases foreign
  | asks byAgentId request =>
      have other : byAgentId ≠ agentId := of_decide_eq_false foreign
      cases request with
      | markRead id =>
          refine marks_foreign (fun row meets => ?_) alike
          rw [of_decide_eq_true (Bool.and_eq_true_iff.mp meets).2]
          exact other
      | markAllRead =>
          refine marks_foreign (fun row meets => ?_) alike
          rw [of_decide_eq_true (Bool.and_eq_true_iff.mp meets).1]
          exact other
      | updatePrefs channel eventType enabled =>
          simp only [CentreAct.effect, CentreRequest.handle, NotificationsService.updatePref]
          split
          · exact prefers_foreign other alike
          · exact alike

/-! ### Commands -/

theorem lockstep_newDate : Lockstep NotificationWorld.perform (LooksAlike agentId users) .newDate :=
  fun _ _ alike => ⟨congrArg (fun world : World => Except.ok world.now) alike.world, alike⟩

theorem lockstep_emit (event : DomainEvent) :
    Lockstep NotificationWorld.perform (LooksAlike agentId users) (.emit event) := by
  refine fun w w' alike => ⟨rfl, alike.known, ?_, alike.refuses, alike.next, alike.notifications,
    alike.prefs, alike.messages⟩
  simp only [NotificationWorld.perform, alike.world]

theorem lockstep_sendMessage (telegramUserId : ℤ) (text : String) :
    Lockstep NotificationWorld.perform (LooksAlike agentId users)
      (.sendMessage telegramUserId text) := by
  refine fun w w' alike => ⟨?_, alike.known, alike.world, alike.refuses, alike.next,
    alike.notifications, alike.prefs, ?_⟩
  · simp only [NotificationWorld.perform, alike.refuses]
  · simp only [NotificationWorld.perform, NotificationWorld.sentTo, List.filter_append]
    exact congrArg (· ++ _) alike.messages

/-- A message to another user goes unnoticed. -/
theorem unnoticed_sendMessage {telegramUserId : ℤ} (other : users agentId ≠ some telegramUserId)
    (text : String) :
    Unnoticed NotificationWorld.perform (LooksAlike agentId users)
      (.sendMessage telegramUserId text) := by
  have unsent : ∀ w : NotificationWorld,
      (w.perform (.sendMessage telegramUserId text)).2.sentTo (users agentId) =
        w.sentTo (users agentId) := by
    intro w
    simp [NotificationWorld.perform, NotificationWorld.sentTo, other]
  refine fun w w' alike => ⟨?_, ?_⟩
  · exact ⟨alike.known, alike.world, alike.refuses, alike.next, alike.notifications, alike.prefs,
      (unsent w).trans alike.messages⟩
  · exact ⟨alike.known, alike.world, alike.refuses, alike.next, alike.notifications, alike.prefs,
      alike.messages.trans (unsent w').symm⟩

/-- A query goes unnoticed. -/
theorem unnoticed_prefByKey (other : AgentId) (channel : NotificationChannel) (eventType : String) :
    Unnoticed NotificationWorld.perform (LooksAlike agentId users)
      (.prefByKey other channel eventType) :=
  fun _ _ alike => ⟨alike, alike⟩

theorem lockstep_notificationCreate (other : AgentId) (type : String) (ticketId : TicketId)
    (payload : String × ℕ) :
    Lockstep NotificationWorld.perform (LooksAlike agentId users)
      (.notificationCreate other type ticketId payload) := by
  intro w w' alike
  simp only [NotificationWorld.perform, NotificationWorld.notificationCreate, alike.world,
    alike.next]
  split
  · refine ⟨rfl, alike.known_right, rfl, alike.refuses, congrArg (· + 1) alike.next, ?_,
      alike.prefs, alike.messages⟩
    simp only [NotificationWorld.veiled, Table.insert_rows, List.map_append, alike.next]
    exact congrArg (· ++ _) alike.notifications
  · exact ⟨rfl, alike⟩

/-- A refresh of a notification by its identifier. -/
theorem veiled_update (w : NotificationWorld) (id : NotificationId) (payload : String × ℕ)
    (createdAt : Time) :
    NotificationWorld.veiled agentId
      { w with
        notifications := w.notifications.update id
          (NotificationWorld.refreshed payload createdAt) fun _ => rfl } =
      (w.veiled agentId).map (Entry.change id (NotificationWorld.refreshed payload createdAt)) := by
  unfold NotificationWorld.veiled
  change (w.notifications.rows.map (Entry.change id
    (NotificationWorld.refreshed payload createdAt))).map _ = _
  rw [List.map_map, List.map_map]
  refine List.map_congr_left fun row _ => ?_
  exact Entry.map_change id _ row fun value =>
    Notification.veiled_refreshed agentId value payload createdAt

theorem find?_eq (alike : LooksAlike agentId users w w') (id : NotificationId) :
    (w.notifications.find? id).map (Entry.map (Notification.veiled agentId)) =
      (w'.notifications.find? id).map (Entry.map (Notification.veiled agentId)) := by
  have among : ∀ w : NotificationWorld,
      (w.notifications.find? id).map (Entry.map (Notification.veiled agentId)) =
        (w.veiled agentId).find? fun row => row.id = id := by
    intro w
    rw [NotificationWorld.veiled, List.find?_map]
    rfl
  rw [among, among, alike.notifications]

theorem lockstep_notificationUpdate (id : NotificationId) (payload : String × ℕ)
    (createdAt : Time) :
    Lockstep NotificationWorld.perform (LooksAlike agentId users)
      (.notificationUpdate id payload createdAt) := by
  intro w w' alike
  have same := alike.find?_eq id
  simp only [NotificationWorld.perform, NotificationWorld.notificationUpdate]
  cases found : w.notifications.find? id with
  | none =>
      rw [found] at same
      rw [Option.map_eq_none_iff.mp same.symm]
      exact ⟨rfl, alike⟩
  | some row =>
      rw [found, Option.map_some] at same
      obtain ⟨row', found', veiled⟩ := Option.map_eq_some_iff.mp same.symm
      have own : row.id = id := Table.id_of_find? found
      have own' : row'.id = id := Table.id_of_find? found'
      have values : row'.val.veiled agentId = row.val.veiled agentId := congrArg Entry.val veiled
      have refreshed : NotificationWorld.refreshed payload createdAt row.val =
          NotificationWorld.refreshed payload createdAt row'.val := by
        rw [← Notification.refreshed_veiled agentId, ← values, Notification.refreshed_veiled]
      rw [found']
      refine ⟨?_, alike.known, alike.world, alike.refuses, alike.next, ?_, alike.prefs,
        alike.messages⟩
      · simp only [Entry.change, own, own', if_true, refreshed]
      · rw [veiled_update, veiled_update, alike.notifications]

/-- The search for a recent notification finds the same one, with or without a mark. -/
theorem findFirst_eq (alike : LooksAlike agentId users w w') (other : AgentId)
    (ticketId : TicketId) (type : String) (since : Time) :
    (w.findFirst other ticketId type since).map (Entry.map (Notification.veiled agentId)) =
      (w'.findFirst other ticketId type since).map (Entry.map (Notification.veiled agentId)) := by
  have searched : ∀ w : NotificationWorld,
      (w.findFirst other ticketId type since).map (Entry.map (Notification.veiled agentId)) =
        ((w.veiled agentId).filter fun row =>
          NotificationWorld.concerns other ticketId type row && since ≤ row.val.createdAt).argmax
            fun row => row.val.createdAt := by
    intro w
    refine Table.latest_map w.notifications (fun row => ?_) fun value =>
      value.veiled_createdAt agentId
    simp [NotificationWorld.concerns, Entry.map]
  rw [searched, searched, alike.notifications]

/-- The agent's own preferences are found the same. -/
theorem findKey?_prefs (alike : LooksAlike agentId users w w') (channel : NotificationChannel)
    (eventType : String) :
    (w.prefs.findKey? (agentId, channel, eventType)).map Entry.val =
      (w'.prefs.findKey? (agentId, channel, eventType)).map Entry.val := by
  have among : ∀ w : NotificationWorld,
      (w.prefs.findKey? (agentId, channel, eventType)).map Entry.val =
        (NotificationsService.getPrefs agentId w).find? fun pref =>
          pref.key = some (agentId, channel, eventType) := by
    intro w
    rw [Table.findKey?_map_val, NotificationsService.getPrefs, List.find?_filter]
    refine congrArg (List.find? · _) (funext fun pref => ?_)
    by_cases own : pref.key = some (agentId, channel, eventType)
    · have mine : pref.agentId = agentId := congrArg Prod.fst (Option.some.inj own)
      simp [own, mine]
    · simp [own]
  rw [among, among, alike.prefs]

end LooksAlike

/-! ## Calls of notify -/

section Calls

variable {agentId : AgentId} {users : AgentId → Option ℤ}

/-- A direct message to the agent is sent in both runs, or in neither. -/
theorem twins_dispatch_own (type : String) :
    Twins NotificationWorld.perform (LooksAlike agentId users)
      (NotificationsService.dispatchExternalChannels agentId type)
      (NotificationsService.dispatchExternalChannels agentId type) := by
  refine twins_lockstep_bind (fun w w' alike => ?_) fun found => ?_
  · exact ⟨congrArg (fun world : World => Except.ok (world.agents.find? agentId)) alike.world,
      alike⟩
  · cases found with
    | none => exact twins_ret _ _
    | some agent =>
        refine twins_perform_bind (S := fun pref pref' =>
          pref.map Entry.val = pref'.map Entry.val) (fun w w' alike => ?_) fun pref pref' same => ?_
        · exact ⟨.ok (alike.findKey?_prefs .telegram type), alike⟩
        · have enabled : (pref.map fun pref => pref.val.enabled) =
              pref'.map fun pref => pref.val.enabled := by
            have values := congrArg (Option.map NotificationPref.enabled) same
            rw [Option.map_map, Option.map_map] at values
            exact values
          rw [enabled]
          refine twins_of_lockstep ?_
          split
          · refine Program.always_bind (Program.always_attempt ?_) fun _ => Program.always_pure
            refine Program.always_bind (Program.always_attempt ?_) fun _ => Program.always_pure
            exact Program.always_perform (LooksAlike.lockstep_sendMessage _ _)
          · exact Program.always_pure

/-- A direct message to somebody else goes unnoticed, whether it is sent or not. -/
theorem twins_dispatch_foreign
    (injective : ∀ id id' user, users id = some user → users id' = some user → id = id')
    {other : AgentId} (foreign : other ≠ agentId) (type : String) :
    Twins NotificationWorld.perform (LooksAlike agentId users)
      (NotificationsService.dispatchExternalChannels other type)
      (NotificationsService.dispatchExternalChannels other type) := by
  refine twins_perform_bind (S := fun found found' => found = found' ∧
      found.map (fun agent => agent.val.telegramUserId) = users other) (fun w w' alike => ?_)
    fun found found' same => ?_
  · have found : w.agents.find? other = w'.agents.find? other :=
      congrArg (fun world : World => world.agents.find? other) alike.world
    exact ⟨.ok ⟨found, alike.known other⟩, alike⟩
  · obtain ⟨rfl, user⟩ := same
    cases found with
    | none => exact twins_ret _ _
    | some agent =>
        have apart : users agentId ≠ some agent.val.telegramUserId := fun same =>
          foreign (injective other agentId _ user.symm same)
        have silent : ∀ pref : Option (Entry NotificationPref),
            (if (pref.map fun pref => pref.val.enabled).getD true then do
              let _ ← (TelegramService.sendDirectMessage agent.val.telegramUserId
                (NotificationsService.formatter type)).attempt
              return ()
            else return () : NotificationApp Unit).Always
              (Unnoticed NotificationWorld.perform (LooksAlike agentId users)) := by
          intro pref
          split
          · refine Program.always_bind (Program.always_attempt ?_) fun _ => Program.always_pure
            refine Program.always_bind (Program.always_attempt ?_) fun _ => Program.always_pure
            exact Program.always_perform (LooksAlike.unnoticed_sendMessage apart _)
          · exact Program.always_pure
        refine .silent ?_ ?_
        · exact Program.always_bind (Program.always_perform (LooksAlike.unnoticed_prefByKey _ _ _))
            silent
        · exact Program.always_bind (Program.always_perform (LooksAlike.unnoticed_prefByKey _ _ _))
            silent

theorem twins_dispatch
    (injective : ∀ id id' user, users id = some user → users id' = some user → id = id')
    (other : AgentId) (type : String) :
    Twins NotificationWorld.perform (LooksAlike agentId users)
      (NotificationsService.dispatchExternalChannels other type)
      (NotificationsService.dispatchExternalChannels other type) := by
  by_cases own : other = agentId
  · rw [own]
    exact twins_dispatch_own type
  · exact twins_dispatch_foreign injective own type

/-- A notification is refreshed or created in the same way, whether the one that was found had
been marked or not. -/
theorem twins_refreshOrCreate
    (injective : ∀ id id' user, users id = some user → users id' = some user → id = id')
    (params : NotifyParams) {existing existing' : Option (Entry Notification)}
    (same : existing.map (Entry.map (Notification.veiled agentId)) =
      existing'.map (Entry.map (Notification.veiled agentId))) :
    Twins NotificationWorld.perform (LooksAlike agentId users)
      (NotificationsService.refreshOrCreate params existing)
      (NotificationsService.refreshOrCreate params existing') := by
  cases existing with
  | none =>
      rw [Option.map_eq_none_iff.mp same.symm]
      refine twins_lockstep_bind (LooksAlike.lockstep_notificationCreate _ _ _ _) fun created => ?_
      refine twins_lockstep_bind (LooksAlike.lockstep_emit _) fun _ => ?_
      exact (twins_dispatch injective _ _).bind (fun _ => Program.always_pure) fun _ =>
        Program.always_pure
  | some row =>
      rw [Option.map_some] at same
      obtain ⟨row', rfl, veiled⟩ := Option.map_eq_some_iff.mp same.symm
      have sameRefresh : NotificationsService.refreshOrCreate params (some row') =
          NotificationsService.refreshOrCreate params (some row) := by
        obtain ⟨id, value⟩ := row
        obtain ⟨id', value'⟩ := row'
        obtain rfl : id' = id := congrArg Entry.id veiled
        rfl
      rw [sameRefresh]
      refine twins_lockstep_bind LooksAlike.lockstep_newDate fun createdAt => ?_
      refine twins_lockstep_bind (LooksAlike.lockstep_notificationUpdate _ _ _) fun _ => ?_
      exact twins_lockstep_bind (LooksAlike.lockstep_emit _) fun _ => twins_ret _ _

/-- `notify` goes on in the same way in states that look alike to an agent, until nothing is
left that the agent would notice. -/
theorem twins_notify
    (injective : ∀ id id' user, users id = some user → users id' = some user → id = id')
    (params : NotifyParams) :
    Twins NotificationWorld.perform (LooksAlike agentId users)
      (NotificationsService.notify params) (NotificationsService.notify params) := by
  rw [NotificationsService.notify_eq]
  refine twins_lockstep_bind LooksAlike.lockstep_newDate fun now => ?_
  refine twins_perform_bind (fun w w' alike => ?_) fun existing existing' same =>
    twins_refreshOrCreate injective params same
  exact ⟨.ok (alike.findFirst_eq _ _ _ _), alike⟩

end Calls

/-- **Agents do not notice each other's requests.** Whatever happens, an agent is listed the
notifications, has the preferences and is sent the direct messages that it would be listed,
have and be sent if no other agent had asked to mark notifications as read or to change its
preferences. -/
theorem notification_centre_private (agentId : AgentId) (calls : List NotifyParams)
    (schedule : List (Act CentreAct)) (w : NotificationWorld) :
    let reached := ((Centre.start calls w).exec schedule).state
    let alone := ((Centre.start calls w).exec (withoutOthers agentId schedule)).state
    (∀ unreadOnly, NotificationsService.list agentId reached unreadOnly =
      NotificationsService.list agentId alone unreadOnly) ∧
    NotificationsService.getPrefs agentId reached = NotificationsService.getPrefs agentId alone ∧
    reached.messagesTo agentId = alone.messagesTo agentId := by
  intro reached alone
  have injective : ∀ id id' user, w.userOf id = some user → w.userOf id' = some user → id = id' :=
    fun _ _ _ => w.userOf_injective
  have same : Pool.Indistinct (fun _ => NotificationWorld.perform) (LooksAlike agentId w.userOf)
      (Centre.start calls w) (Centre.start calls w) := by
    refine ⟨LooksAlike.refl agentId w, rfl, fun i inside _ => ?_⟩
    simp only [Centre.start, List.get_eq_getElem, List.getElem_map]
    exact twins_notify injective _
  have alike : LooksAlike agentId w.userOf reached alone :=
    (Pool.unwinding (E := CentreAct.effect) (fun _ _ _ => LooksAlike.effect)
      (fun _ _ _ => LooksAlike.effect_foreign) same schedule).state
  exact ⟨alike.list_eq, alike.prefs, alike.messages_eq⟩

/-- The notification of an agent stays unread when somebody else marks it, and is read when the
agent does. -/
def assignedOnce (byAgentId : AgentId) : Centre :=
  (Centre.start [⟨0, "ticket.assigned", 0, ("", 0)⟩] NotificationWorld.seeded).exec
    (List.replicate 7 (.turn 0) ++ [.env (.asks byAgentId (.markRead 0))])

example : (NotificationsService.list 0 (assignedOnce 1).state true).length = 1 := by decide

example : (NotificationsService.list 0 (assignedOnce 0).state true).length = 0 := by decide

end SupportCrm
