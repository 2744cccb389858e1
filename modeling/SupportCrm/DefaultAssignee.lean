import SupportCrm.Routing

/-!
# Default assignees

The members that routing chooses from are active. But a chat that is routed manually, has no
team or has a team without active members leaves its tickets to its default assignee, and
nothing looks at whether that agent is still active (`assigns_active_iff`).
-/

set_option autoImplicit false

namespace SupportCrm

open KeyedTable AtomicProgram

/-! ## The settings of a chat -/

/-- The settings that routing reads; what is absent stays as it is. -/
structure ChatSettings where
  defaultTeamId : Option (Option TeamId) := none
  defaultAssigneeId : Option (Option AgentId) := none
  routingStrategy : Option RoutingStrategy := none
  defaultPriority : Option TicketPriority := none
  deriving DecidableEq, Repr

def ChatSettings.apply (data : ChatSettings) (chat : Chat) : Chat :=
  { chat with
    defaultTeamId := data.defaultTeamId.getD chat.defaultTeamId
    defaultAssigneeId := data.defaultAssigneeId.getD chat.defaultAssigneeId
    routingStrategy := data.routingStrategy.getD chat.routingStrategy
    defaultPriority := data.defaultPriority.getD chat.defaultPriority }

theorem ChatSettings.apply_key (data : ChatSettings) (chat : Chat) :
    Chat.key (data.apply chat) = Chat.key chat := rfl

namespace World

/-- `ChatsService.updateSettings`. -/
def updateSettings (w : World) (id : ChatId) (data : ChatSettings) : Except Err World :=
  if (w.chats.find? id).isNone then .error (.notFound "Chat not found")
  else if !(w.hasTeam data.defaultTeamId.join && w.hasAgent data.defaultAssigneeId.join) then
    .error .foreignKeyConstraint
  else .ok { w with chats := w.chats.update id data.apply data.apply_key }

/-! ## Active agents -/

variable {w : World} {chat : Chat} {agentId : AgentId} {teamId : TeamId}

def isActive (w : World) (agentId : AgentId) : Bool :=
  (w.agents.find? agentId).any fun agent => agent.val.isActive

theorem isActive_of_activeMember (member : agentId ∈ w.activeMembers teamId) :
    w.isActive agentId = true := by
  obtain ⟨row, listed, rfl⟩ := List.mem_map.mp member
  exact (Bool.and_eq_true_iff.mp (List.mem_filter.mp listed).2).2

/-- Routing does not choose: the chat is routed manually, has no team, or has one without
active members. -/
def fallsBack (w : World) (chat : Chat) : Bool :=
  chat.routingStrategy = .manual ||
    chat.defaultTeamId.all fun teamId => w.activeMembers teamId = []

theorem assignment_of_fallsBack (back : w.fallsBack chat = true) :
    (w.assignment chat).assigneeId = chat.defaultAssigneeId := by
  rw [fallsBack, Bool.or_eq_true, decide_eq_true_eq] at back
  unfold assignment
  cases team : chat.defaultTeamId with
  | none => rfl
  | some teamId =>
      rw [team, Option.all_some, decide_eq_true_eq] at back
      simp only [if_pos back]

/-- Otherwise it chooses an active member of the team. -/
theorem assignment_of_chooses (chooses : w.fallsBack chat = false) :
    ∃ teamId agentId, chat.defaultTeamId = some teamId ∧
      (w.assignment chat).assigneeId = some agentId ∧ agentId ∈ w.activeMembers teamId := by
  rw [fallsBack, Bool.or_eq_false_iff, decide_eq_false_iff_not] at chooses
  obtain ⟨routed, staffed⟩ := chooses
  unfold assignment
  cases team : chat.defaultTeamId with
  | none =>
      rw [team] at staffed
      cases staffed
  | some teamId =>
      rw [team, Option.all_some, decide_eq_false_iff_not] at staffed
      simp only [if_neg (not_or.mpr ⟨routed, staffed⟩)]
      split
      · obtain ⟨agentId, first⟩ := exists_firstOf staffed fun id =>
          ((w.openCounts (w.activeMembers teamId)).lookup id).getD 0
        exact ⟨teamId, agentId, rfl, first, mem_of_firstOf first⟩
      · obtain ⟨agentId, first⟩ := exists_firstOf staffed fun id =>
          ((w.lastAssigned (w.activeMembers teamId)).lookup id).join.getD 0
        exact ⟨teamId, agentId, rfl, first, mem_of_firstOf first⟩

end World

/-- **Routing names an active agent unless it falls back to one who is not.** Whatever the
settings, the members and the agents are, the decided assignee is nobody or an active agent if
and only if the default assignee is, where routing falls back to it. -/
theorem assigns_active_iff (chat : Chat) (w : World) :
    (∃ decision, ((decideAssignment chat).run World.perform w).1 = .ok decision ∧
        decision.assigneeId.all w.isActive = true) ↔
      (w.fallsBack chat = true → chat.defaultAssigneeId.all w.isActive = true) := by
  rw [decideAssignment_run]
  simp only [Except.ok.injEq, exists_eq_left']
  cases back : w.fallsBack chat with
  | true => rw [World.assignment_of_fallsBack back, forall_prop_of_true rfl]
  | false =>
      obtain ⟨teamId, agentId, -, chosen, member⟩ := World.assignment_of_chooses back
      rw [chosen, Option.all_some]
      exact iff_of_true (World.isActive_of_activeMember member) nofun

/-- An agent becomes the default assignee of a chat and is deactivated afterwards. -/
theorem deactivated_default_assigned : ∃ w chat,
    World.staffed.updateSettings 0
        { defaultAssigneeId := some (some 1), routingStrategy := some .manual } = .ok w ∧
      w.isActive 1 = true ∧
      (w.after .default [.updateAgent 1 (some false)] (alone 1)).chats.find? 0 = some chat ∧
      ((decideAssignment chat.val).run World.perform
        (w.after .default [.updateAgent 1 (some false)] (alone 1))).1 = .ok ⟨some 0, some 1⟩ ∧
      (w.after .default [.updateAgent 1 (some false)] (alone 1)).isActive 1 = false :=
  ⟨_, _, rfl, by decide, rfl, by decide, by decide⟩

end SupportCrm
