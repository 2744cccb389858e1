import SupportCrm.LiveEvents

/-!
# Who is typing

A client joins the tickets that it looks at, and what it types is told to the others there. The
message names the agent that `handleConnection` has noted on the socket, and nothing that the client
has sent. `typing_delivered` says who hears it and for whom the name stands.
-/

set_option autoImplicit false

namespace SupportCrm

open KeyedTable Histories

namespace Gateway

/-- The last that a socket did about a ticket was to join it. -/
def Follows (steps : List Step) (socket : SocketId) (ticketId : TicketId) : Prop :=
  ∃ before after, steps = before ++ .joins socket ticketId :: after ∧
    .leaves socket ticketId ∉ after

/-- The cookie of the socket was verified for this agent, who was found active, and
`handleConnection` has gone on with the answer. -/
structure SessionOf (service : SessionService) (g₀ : Gateway) (socket : SocketId)
    (agentId : AgentId) (steps : List Step) : Prop where
  session : ∃ claims, claims.sub = agentId ∧ Verified service g₀ socket claims steps ∧
    FoundActive service g₀ socket claims steps
  resumed : Step.resumes socket ∈ steps

/-- The socket is connected. -/
def Connected (g : Gateway) (socket : SocketId) : Prop :=
  ∃ row ∈ g.sockets.rows, row.id = socket ∧ row.val.connected = true

variable {service : SessionService} {g₀ g g' : Gateway} {steps : List Step} {s : Step}
variable {socket : SocketId} {ticketId : TicketId}

/-! ## Rooms -/

theorem follows_concat_iff : Follows (steps ++ [s]) socket ticketId ↔
    s = .joins socket ticketId ∨
      Follows steps socket ticketId ∧ s ≠ .leaves socket ticketId := by
  constructor
  · rintro ⟨before, after, split, stayed⟩
    rcases List.eq_nil_or_concat' after with rfl | ⟨after, last, rfl⟩
    · exact .inl (List.singleton_inj.mp (List.append_inj_right' split rfl))
    · rw [← List.cons_append, ← List.append_assoc] at split
      obtain ⟨rfl, same⟩ := List.append_inj' split rfl
      obtain rfl := List.singleton_inj.mp same
      refine .inr ⟨⟨before, after, rfl, fun left => stayed (List.mem_append_left _ left)⟩, ?_⟩
      rintro rfl
      exact stayed (List.mem_append_right _ (.head _))
  · rintro (rfl | ⟨⟨before, after, rfl, stayed⟩, other⟩)
    · exact ⟨steps, [], rfl, List.not_mem_nil⟩
    · refine ⟨before, after ++ [s], by simp, fun left => ?_⟩
      rcases List.mem_append.mp left with old | last
      · exact stayed old
      · exact other (List.mem_singleton.mp last).symm

theorem Follows.joined (follows : Follows steps socket ticketId) :
    Step.joins socket ticketId ∈ steps := by
  obtain ⟨before, after, rfl, -⟩ := follows
  exact List.mem_append_right _ (.head _)

/-- A connected socket is in the rooms of the tickets that it follows. -/
structure Rooms (steps : List Step) (g : Gateway) : Prop where
  rooms : ∀ row ∈ g.sockets.rows, row.val.connected = true →
    ∀ ticketId, ticketId ∈ row.val.rooms ↔ Follows steps row.id ticketId
  known : ∀ socket ticketId, Step.joins socket ticketId ∈ steps → socket < g.sockets.next

theorem Follows.concat_iff (unjoined : s ≠ .joins socket ticketId)
    (unleft : s ≠ .leaves socket ticketId) :
    Follows (steps ++ [s]) socket ticketId ↔ Follows steps socket ticketId := by
  rw [follows_concat_iff]
  exact ⟨fun follows => (follows.resolve_left unjoined).1, fun follows => .inr ⟨follows, unleft⟩⟩

theorem Rooms.known_concat (rooms : Rooms steps g) (unjoined : s ≠ .joins socket ticketId)
    (joined : Step.joins socket ticketId ∈ steps ++ [s]) : socket < g.sockets.next :=
  rooms.known socket ticketId <| (List.mem_append.mp joined).resolve_right fun last =>
    unjoined (List.mem_singleton.mp last).symm

/-- A step of one socket keeps the rooms when it does to its rooms what it says. -/
theorem Rooms.advance (rooms : Rooms steps g) {id : SocketId} {f : Socket → Option Socket}
    (taken : g.advance id f = some g')
    (others : ∀ other ticketId, other ≠ id →
      s ≠ .joins other ticketId ∧ s ≠ .leaves other ticketId)
    (own : ∀ before after : Socket, f before = some after → after.connected = true →
      before.connected = true ∧ ∀ ticketId, ticketId ∈ after.rooms ↔
        s = .joins id ticketId ∨ ticketId ∈ before.rooms ∧ s ≠ .leaves id ticketId) :
    Rooms (steps ++ [s]) g' := by
  obtain ⟨before, after, member, changed, next, rows⟩ := advance_eq_some taken
  constructor
  · intro row member' connected ticketId
    rcases rows row member' with ⟨old, other⟩ | rfl
    · obtain ⟨unjoined, unleft⟩ := others row.id ticketId other
      exact (rooms.rooms row old connected ticketId).trans (Follows.concat_iff unjoined unleft).symm
    · obtain ⟨connected', stays⟩ := own before after changed connected
      rw [stays, follows_concat_iff, rooms.rooms _ member connected']
  · intro socket ticketId joined
    rw [next]
    by_cases same : socket = id
    · exact same ▸ g.sockets.below _ member
    · exact rooms.known_concat (others socket ticketId same).1 joined

/-- What a client does while it is connected. -/
theorem Rooms.whileConnected (rooms : Rooms steps g) {id : SocketId} {f : Socket → Socket}
    (taken : g.advance id (Socket.whileConnected f) = some g')
    (others : ∀ other ticketId, other ≠ id →
      s ≠ .joins other ticketId ∧ s ≠ .leaves other ticketId)
    (own : ∀ before, (f before).connected = true → ∀ ticketId, ticketId ∈ (f before).rooms ↔
      s = .joins id ticketId ∨ ticketId ∈ before.rooms ∧ s ≠ .leaves id ticketId) :
    Rooms (steps ++ [s]) g' := by
  refine rooms.advance taken others fun before after changed connected => ?_
  unfold Socket.whileConnected at changed
  split at changed
  · rename_i was
    obtain rfl := Option.some.inj changed
    exact ⟨was, own before connected⟩
  · cases changed

/-- A step that is for no ticket. -/
theorem Rooms.untouched (rooms : Rooms steps g) {id : SocketId} {f : Socket → Option Socket}
    (taken : g.advance id f = some g') (unjoined : ∀ socket ticketId, s ≠ .joins socket ticketId)
    (unleft : ∀ socket ticketId, s ≠ .leaves socket ticketId)
    (own : ∀ before after : Socket, f before = some after → after.connected = true →
      before.connected = true ∧ after.rooms = before.rooms) : Rooms (steps ++ [s]) g' := by
  refine rooms.advance taken (fun _ _ _ => ⟨unjoined _ _, unleft _ _⟩) ?_
  intro before after changed connected
  obtain ⟨was, same⟩ := own before after changed connected
  exact ⟨was, fun ticketId => by simp [same, unjoined, unleft]⟩

theorem Rooms.idle (rooms : Rooms steps g) (same : g'.sockets = g.sockets)
    (unjoined : ∀ socket ticketId, s ≠ .joins socket ticketId)
    (unleft : ∀ socket ticketId, s ≠ .leaves socket ticketId) : Rooms (steps ++ [s]) g' := by
  constructor
  · intro row member connected ticketId
    rw [same] at member
    exact (rooms.rooms row member connected ticketId).trans
      (Follows.concat_iff (unjoined _ _) (unleft _ _)).symm
  · intro socket ticketId joined
    rw [same]
    exact rooms.known_concat (unjoined socket ticketId) joined

/-- A new socket is in no room, and nobody has spoken of it. -/
theorem Rooms.connects (rooms : Rooms steps g) {cookieHeader : Option String}
    (taken : g.step service (.connects cookieHeader) = some g') :
    Rooms (steps ++ [.connects cookieHeader]) g' := by
  obtain rfl := Option.some.inj taken
  constructor
  · intro row member connected ticketId
    rcases List.mem_append.mp member with old | last
    · exact (rooms.rooms row old connected ticketId).trans
        (Follows.concat_iff (s := .connects cookieHeader) nofun nofun).symm
    · obtain rfl := List.mem_singleton.mp last
      have roomless : (TicketsGateway.handleConnection service g.now cookieHeader).rooms = [] := by
        unfold TicketsGateway.handleConnection
        split <;> rfl
      rw [roomless]
      refine iff_of_false List.not_mem_nil fun follows => ?_
      exact absurd (rooms.known_concat (s := .connects cookieHeader) nofun follows.joined)
        (lt_irrefl _)
  · intro socket ticketId joined
    exact Nat.lt_succ_of_lt (rooms.known_concat (s := .connects cookieHeader) nofun joined)

theorem Rooms.step (rooms : Rooms steps g) (taken : g.step service s = some g') :
    Rooms (steps ++ [s]) g' := by
  cases s with
  | connects cookieHeader => exact rooms.connects taken
  | reads socket =>
      refine rooms.untouched taken nofun nofun fun before after changed connected => ?_
      unfold Socket.reads at changed
      split at changed
      · obtain rfl := Option.some.inj changed
        exact ⟨connected, rfl⟩
      · cases changed
  | fails socket =>
      refine rooms.untouched taken nofun nofun fun before after changed connected => ?_
      unfold Socket.fails at changed
      split at changed
      · obtain rfl := Option.some.inj changed
        exact ⟨connected, rfl⟩
      · cases changed
  | resumes socket =>
      refine rooms.untouched taken nofun nofun fun before after changed connected => ?_
      unfold Socket.resumes at changed
      split at changed
      · split at changed
        · obtain rfl := Option.some.inj changed
          exact ⟨connected, rfl⟩
        · obtain rfl := Option.some.inj changed
          exact nomatch connected
      · obtain rfl := Option.some.inj changed
        exact nomatch connected
      · cases changed
  | joins socket ticketId =>
      refine rooms.whileConnected taken (fun other ticketId' ne => ⟨?_, nofun⟩)
        fun before connected ticketId' => ?_
      · rintro ⟨⟩
        exact ne rfl
      · simp [@eq_comm _ ticketId']
  | leaves socket ticketId =>
      refine rooms.whileConnected taken (fun other ticketId' ne => ⟨nofun, ?_⟩)
        fun before connected ticketId' => ?_
      · rintro ⟨⟩
        exact ne rfl
      · simp [@eq_comm _ ticketId']
  | types socket ticketId =>
      refine rooms.whileConnected taken (fun _ _ _ => ⟨nofun, nofun⟩)
        fun before connected ticketId' => ?_
      simp
  | closes socket =>
      refine rooms.whileConnected taken (fun _ _ _ => ⟨nofun, nofun⟩) fun before connected => ?_
      cases connected
  | emits event => exact rooms.idle (by cases taken; rfl) nofun nofun
  | writes agents => exact rooms.idle (by cases taken; rfl) nofun nofun
  | passes milliseconds => exact rooms.idle (by cases taken; rfl) nofun nofun

theorem rooms_run {now : Time} {agents : Table Agent.key}
    (ran : run (Gateway.step service) (start now agents) steps = some g) : Rooms steps g := by
  refine invariant (I := Rooms)
    ⟨fun _ member => absurd member List.not_mem_nil, fun _ _ => nofun⟩ ?_ ran
  intro steps g₁ s g₂ before rooms taken
  exact rooms.step taken

/-! ## The agent of a socket -/

/-- Whom a check is about, as the steps so far tell. -/
def Held (service : SessionService) (g₀ : Gateway) (steps : List Step) (id : SocketId) :
    Check → Prop
  | .awaiting claims => Verified service g₀ id claims steps
  | .answered agent => ∀ entry, agent = some entry → entry.val.isActive = true →
      ∃ claims, claims.sub = entry.id ∧ Verified service g₀ id claims steps ∧
        FoundActive service g₀ id claims steps
  | .authenticated agentId => SessionOf service g₀ id agentId steps
  | .refused | .failed _ => True

theorem Held.concat {id : SocketId} {check : Check} (held : Held service g₀ steps id check)
    (s : Step) : Held service g₀ (steps ++ [s]) id check := by
  cases check with
  | awaiting claims => exact Happened.concat held s
  | answered agent =>
      intro entry same active
      obtain ⟨claims, own, verified, found⟩ := held entry same active
      exact ⟨claims, own, verified.concat s, found.concat s⟩
  | authenticated agentId =>
      obtain ⟨⟨claims, own, verified, found⟩, resumed⟩ := held
      exact ⟨⟨claims, own, verified.concat s, found.concat s⟩, List.mem_append_left _ resumed⟩
  | refused => exact trivial
  | failed error => exact trivial

/-- Every check is about the agent that the steps tell. -/
def AllHeld (service : SessionService) (g₀ : Gateway) (steps : List Step) (g : Gateway) : Prop :=
  ∀ row ∈ g.sockets.rows, Held service g₀ steps row.id row.val.check

theorem AllHeld.advance (held : AllHeld service g₀ steps g) {id : SocketId}
    {f : Socket → Option Socket} (taken : g.advance id f = some g')
    (own : ∀ before after : Socket, f before = some after →
      Held service g₀ steps id before.check → Held service g₀ (steps ++ [s]) id after.check) :
    AllHeld service g₀ (steps ++ [s]) g' := by
  obtain ⟨before, after, member, changed, -, rows⟩ := advance_eq_some taken
  intro row member'
  rcases rows row member' with ⟨old, -⟩ | rfl
  · exact (held row old).concat s
  · exact own before after changed (held _ member)

theorem AllHeld.whileConnected (held : AllHeld service g₀ steps g) {id : SocketId}
    {f : Socket → Socket} (taken : g.advance id (Socket.whileConnected f) = some g')
    (same : ∀ socket, (f socket).check = socket.check) : AllHeld service g₀ (steps ++ [s]) g' := by
  refine held.advance taken fun before after changed held => ?_
  unfold Socket.whileConnected at changed
  split at changed
  · obtain rfl := Option.some.inj changed
    exact (same before) ▸ held.concat s
  · cases changed

theorem AllHeld.step (held : AllHeld service g₀ steps g)
    (ran : run (Gateway.step service) g₀ steps = some g) (taken : g.step service s = some g') :
    AllHeld service g₀ (steps ++ [s]) g' := by
  have idle : g'.sockets = g.sockets → AllHeld service g₀ (steps ++ [s]) g' := fun same row member =>
    (held row (same ▸ member)).concat s
  cases s with
  | connects cookieHeader =>
      obtain rfl := Option.some.inj taken
      intro row member
      rcases List.mem_append.mp member with old | last
      · exact (held row old).concat _
      · obtain rfl := List.mem_singleton.mp last
        unfold TicketsGateway.handleConnection
        cases given : service.claims g.now cookieHeader with
        | error e => exact trivial
        | ok claims? =>
            cases claims? with
            | none => exact trivial
            | some claims => exact happened_last ran ⟨cookieHeader, rfl, rfl, given⟩
  | reads id =>
      refine held.advance taken fun before after changed verified => ?_
      unfold Socket.reads at changed
      split at changed
      · next claims waiting =>
        obtain rfl := Option.some.inj changed
        rw [waiting] at verified
        intro entry found active
        have own : entry.id = claims.sub := (Table.find?_eq_some_iff.mp found).2
        exact ⟨claims, own.symm, verified.concat _, happened_last ran ⟨rfl, entry, found, active⟩⟩
      · cases changed
  | fails id =>
      refine held.advance taken fun before after changed _ => ?_
      unfold Socket.fails at changed
      split at changed
      · obtain rfl := Option.some.inj changed
        exact trivial
      · cases changed
  | resumes id =>
      refine held.advance taken fun before after changed answered => ?_
      unfold Socket.resumes at changed
      split at changed
      · next agent was =>
        rw [was] at answered
        split at changed
        · next active =>
          obtain rfl := Option.some.inj changed
          obtain ⟨claims, own, verified, found⟩ := answered agent rfl active
          exact ⟨⟨claims, own, verified.concat _, found.concat _⟩, by simp⟩
        · obtain rfl := Option.some.inj changed
          exact trivial
      · obtain rfl := Option.some.inj changed
        exact trivial
      · cases changed
  | joins socket ticketId => exact held.whileConnected taken fun _ => rfl
  | leaves socket ticketId => exact held.whileConnected taken fun _ => rfl
  | types socket ticketId => exact held.whileConnected taken fun _ => rfl
  | closes socket => exact held.whileConnected taken fun _ => rfl
  | emits event => exact idle (by cases taken; rfl)
  | writes agents => exact idle (by cases taken; rfl)
  | passes milliseconds => exact idle (by cases taken; rfl)

theorem held_run {now : Time} {agents : Table Agent.key}
    (ran : run (Gateway.step service) (start now agents) steps = some g) :
    AllHeld service (start now agents) steps g := by
  refine invariant (I := AllHeld service (start now agents))
    (fun _ member => absurd member List.not_mem_nil) ?_ ran
  intro steps g₁ s g₂ before held taken
  exact held.step before taken

/-- The agent that a socket stands for has a session of its own on it. -/
theorem sessionOf_of_agentId {now : Time} {agents : Table Agent.key}
    (ran : run (Gateway.step service) (start now agents) steps = some g) {row : Entry Socket}
    (member : row ∈ g.sockets.rows) {agentId : AgentId} (noted : row.val.agentId = some agentId) :
    SessionOf service (start now agents) row.id agentId steps := by
  have held := held_run ran row member
  unfold Socket.agentId at noted
  split at noted
  · next agentId' authenticated =>
    obtain rfl := Option.some.inj noted
    rw [authenticated] at held
    exact held
  · cases noted

/-! ## What is told -/

/-- The audience is those who follow the ticket, but for the one who types. -/
theorem mem_audience_types {now : Time} {agents : Table Agent.key}
    (ran : run (Gateway.step service) (start now agents) steps = some g) {sender : SocketId} :
    socket ∈ (g.audience (.types sender ticketId)).map Entry.id ↔
      socket ≠ sender ∧ g.Connected socket ∧ Follows steps socket ticketId := by
  have rooms := (rooms_run ran).rooms
  simp only [audience, listeners, List.mem_map, List.mem_filter, Bool.and_eq_true, Option.all_some,
    decide_eq_true_eq, ne_eq]
  constructor
  · rintro ⟨row, ⟨⟨member, connected, inside⟩, other⟩, rfl⟩
    exact ⟨other, ⟨row, member, rfl, connected⟩, (rooms row member connected ticketId).mp inside⟩
  · rintro ⟨other, ⟨row, member, rfl, connected⟩, follows⟩
    exact ⟨row, ⟨⟨member, connected, (rooms row member connected ticketId).mpr follows⟩, other⟩, rfl⟩

theorem nodup_audience_types (g : Gateway) (sender : SocketId) (ticketId : TicketId) :
    ((g.audience (.types sender ticketId)).map Entry.id).Nodup :=
  ((List.filter_sublist.trans List.filter_sublist).map Entry.id).nodup g.sockets.ids

end Gateway

open Gateway

/-- **Who hears that somebody is typing, and who it is.** In every run that begins without sockets,
what a client types is told, once, to the other sockets that are connected and follow the ticket.
The agent named there, if there is one, has a session on the socket that typed: its cookie was
verified for this agent, who was found active. -/
theorem typing_delivered (service : SessionService) (now : Time) (agents : Table Agent.key)
    {steps : List Gateway.Step} {g : Gateway}
    (ran : run (Gateway.step service) (.start now agents) steps = some g) (sender : SocketId)
    (ticketId : TicketId) :
    ((g.deliveries (.types sender ticketId)).map LiveDelivery.socket).Nodup ∧
      (∀ socket, socket ∈ (g.deliveries (.types sender ticketId)).map LiveDelivery.socket ↔
        socket ≠ sender ∧ g.Connected socket ∧ Follows steps socket ticketId) ∧
      ∀ delivery ∈ g.deliveries (.types sender ticketId), ∃ agentId,
        delivery.payload = .typing ticketId agentId ∧
          ∀ typist ∈ agentId, SessionOf service (.start now agents) sender typist steps := by
  refine ⟨?_, fun socket => ?_, fun delivery delivered => ?_⟩
  · rw [sockets_deliveries]
    exact nodup_audience_types g sender ticketId
  · rw [sockets_deliveries]
    exact mem_audience_types ran
  · obtain ⟨row, -, rfl⟩ := List.mem_map.mp delivered
    refine ⟨_, rfl, fun agentId noted => ?_⟩
    obtain ⟨client, found, own⟩ := Option.bind_eq_some_iff.mp noted
    obtain ⟨member, rfl⟩ := Table.find?_eq_some_iff.mp found
    exact sessionOf_of_agentId ran member own

/-! An agent types while a second browser has joined the ticket but is not checked yet. -/

namespace TwoBrowsers

def onDuty : Table Agent.key := Table.empty.insert ⟨1001, true⟩ fun _ member => nomatch member

def steps : List Gateway.Step :=
  [.connects (some "support_crm_session=signed"), .reads 0, .resumes 0, .joins 0 7,
    .connects (some "support_crm_session=signed"), .joins 1 7]

end TwoBrowsers

set_option maxRecDepth 10000 in
/-- The second browser hears it. -/
theorem typing_delivered_unchecked :
    ∃ g, run (Gateway.step oneToken) (.start 0 TwoBrowsers.onDuty) TwoBrowsers.steps = some g ∧
      1 ∈ (g.deliveries (.types 0 7)).map LiveDelivery.socket := by
  have ran : (run (Gateway.step oneToken) (.start 0 TwoBrowsers.onDuty)
      TwoBrowsers.steps).isSome := by decide
  have connected : (run (Gateway.step oneToken) (.start 0 TwoBrowsers.onDuty)
      TwoBrowsers.steps).map (fun g => g.sockets.rows.map fun row => (row.id, row.val.connected)) =
        some [(0, true), (1, true)] := by decide
  obtain ⟨g, ran⟩ := Option.isSome_iff_exists.mp ran
  rw [ran] at connected
  have rows : g.sockets.rows.map (fun row => (row.id, row.val.connected)) =
      [(0, true), (1, true)] := Option.some.inj connected
  have second : (1, true) ∈ g.sockets.rows.map fun row => (row.id, row.val.connected) :=
    rows ▸ .tail _ (.head _)
  obtain ⟨row, member, same⟩ := List.mem_map.mp second
  obtain ⟨own, up⟩ := Prod.mk.inj same
  refine ⟨g, ran, ((typing_delivered oneToken 0 TwoBrowsers.onDuty ran 0 7).2.1 1).mpr ?_⟩
  exact ⟨by decide, ⟨row, member, own, up⟩, TwoBrowsers.steps.take 5, [], rfl, List.not_mem_nil⟩

end SupportCrm
