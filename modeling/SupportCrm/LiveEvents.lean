import SupportCrm.Gateway

/-!
# Who receives the live events

A socket is authenticated when its cookie was verified at the connection, its agent was
found active afterwards, and `handleConnection` has gone on with the answer. The invariant
of a run says of every socket what the steps so far have been for it; it is carried by the
check of the socket (`Recorded`).

`only_authenticated_iff`: the events reach authenticated sockets only exactly when nothing is
ever sent to a socket whose check is still under way or has thrown.
-/

set_option autoImplicit false

namespace SupportCrm

open KeyedTable Histories

namespace Gateway

/-! ## What a socket has been through -/

/-- The cookie of the handshake was verified, with these claims. -/
def Verified (service : SessionService) (g₀ : Gateway) (socket : SocketId) (claims : SessionClaims)
    (steps : List Step) : Prop :=
  Happened (step service) g₀ (fun g s => ∃ cookieHeader, s = .connects cookieHeader ∧
    g.sockets.next = socket ∧ service.claims g.now cookieHeader = .ok (some claims)) steps

/-- The agent of the claims was found in the database, and was active. -/
def FoundActive (service : SessionService) (g₀ : Gateway) (socket : SocketId)
    (claims : SessionClaims) (steps : List Step) : Prop :=
  Happened (step service) g₀ (fun g s => s = .reads socket ∧
    ∃ agent, g.agents.find? claims.sub = some agent ∧ agent.val.isActive = true) steps

/-- The check of the socket has come to its good end. -/
structure Authenticated (service : SessionService) (g₀ : Gateway) (socket : SocketId)
    (steps : List Step) : Prop where
  session : ∃ claims, Verified service g₀ socket claims steps ∧
    FoundActive service g₀ socket claims steps
  resumed : Step.resumes socket ∈ steps

/-- Whatever is delivered in the run is delivered to a socket that was authenticated before. -/
def OnlyAuthenticated (service : SessionService) (g₀ : Gateway) (steps : List Step) : Prop :=
  ∀ before s after g, steps = before ++ s :: after → run (step service) g₀ before = some g →
    (g.step service s).isSome → ∀ delivery ∈ g.deliveries s,
      Authenticated service g₀ delivery.socket before

/-- Nothing is sent to a socket whose check is under way or has thrown. -/
def AlwaysSettled (service : SessionService) (g₀ : Gateway) (steps : List Step) : Prop :=
  ∀ before s after g, steps = before ++ s :: after → run (step service) g₀ before = some g →
    (g.step service s).isSome → ∀ row ∈ g.audience s, row.val.check.unsettled = false

/-! ## Audiences -/

/-- What is delivered goes to the audience, once to each socket. -/
theorem sockets_deliveries (g : Gateway) (s : Step) :
    (g.deliveries s).map LiveDelivery.socket = (g.audience s).map Entry.id := by
  cases s with
  | emits event =>
      cases sent : TicketsGateway.onEvent event <;> simp [deliveries, audience, sent]
  | types socket ticketId => simp [deliveries, audience]
  | _ => rfl

theorem mem_listeners {g : Gateway} {room : Option TicketId} {row : Entry Socket}
    (member : row ∈ g.listeners room) : row ∈ g.sockets.rows ∧ row.val.connected = true := by
  obtain ⟨row', meets⟩ := List.mem_filter.mp member
  exact ⟨row', (Bool.and_eq_true_iff.mp meets).1⟩

theorem mem_audience {g : Gateway} {s : Step} {row : Entry Socket} (member : row ∈ g.audience s) :
    row ∈ g.sockets.rows ∧ row.val.connected = true := by
  cases s with
  | emits event =>
      rw [audience] at member
      split at member
      · exact mem_listeners member
      · exact nomatch member
  | types socket ticketId => exact mem_listeners (List.mem_filter.mp member).1
  | _ => exact nomatch member

/-! ## The invariant -/

/-- What the steps have been for a socket, as far as its check tells. -/
def Noted (service : SessionService) (g₀ : Gateway) (steps : List Step) (id : SocketId)
    (connected : Bool) : Check → Prop
  | .awaiting claims =>
      Verified service g₀ id claims steps ∧ Step.reads id ∉ steps ∧ Step.resumes id ∉ steps
  | .answered agent => Step.resumes id ∉ steps ∧ ∃ claims, Verified service g₀ id claims steps ∧
      ∀ entry, agent = some entry → entry.val.isActive = true →
        FoundActive service g₀ id claims steps
  | .authenticated _ => Authenticated service g₀ id steps
  | .refused => connected = false
  | .failed _ => Step.reads id ∉ steps

/-- Every socket is as noted, and no step was for a socket that is yet to come. -/
structure Recorded (service : SessionService) (g₀ : Gateway) (steps : List Step) (g : Gateway) :
    Prop where
  noted : ∀ row ∈ g.sockets.rows, Noted service g₀ steps row.id row.val.connected row.val.check
  known : ∀ id, Step.reads id ∈ steps ∨ Step.resumes id ∈ steps → id < g.sockets.next

variable {service : SessionService} {g₀ g g' : Gateway} {steps : List Step} {s : Step}

theorem FoundActive.read {socket : SocketId} {claims : SessionClaims}
    (found : FoundActive service g₀ socket claims steps) : Step.reads socket ∈ steps := by
  obtain ⟨s, member, rfl⟩ := found.mem fun _ _ holds => holds.1
  exact member

theorem not_mem_concat {s' : Step} (before : s' ∉ steps) (other : s ≠ s') : s' ∉ steps ++ [s] := by
  intro member
  rcases List.mem_append.mp member with old | last
  · exact before old
  · exact other (List.mem_singleton.mp last).symm

/-- A step that the check of a socket does not wait for leaves it as noted. -/
theorem Noted.concat {id : SocketId} {connected : Bool} {check : Check}
    (noted : Noted service g₀ steps id connected check) (unread : s ≠ .reads id)
    (paused : s ≠ .resumes id) : Noted service g₀ (steps ++ [s]) id connected check := by
  cases check with
  | awaiting claims =>
      exact ⟨noted.1.concat s, not_mem_concat noted.2.1 unread, not_mem_concat noted.2.2 paused⟩
  | answered agent =>
      obtain ⟨waiting, claims, verified, found⟩ := noted
      exact ⟨not_mem_concat waiting paused, claims, verified.concat s,
        fun entry same active => (found entry same active).concat s⟩
  | authenticated agentId =>
      obtain ⟨⟨claims, verified, found⟩, resumed⟩ := noted
      exact ⟨⟨claims, verified.concat s, found.concat s⟩, List.mem_append_left _ resumed⟩
  | refused => exact noted
  | failed error => exact not_mem_concat noted unread

/-- A connected socket may do what it likes with its connection. -/
theorem Noted.of_connected {id : SocketId} {connected : Bool} {check : Check}
    (noted : Noted service g₀ steps id true check) :
    Noted service g₀ steps id connected check := by
  cases check with
  | refused => exact nomatch noted
  | _ => exact noted

/-! ## Steps -/

/-- What a step of one socket does to the sockets. -/
theorem advance_eq_some {id : SocketId} {f : Socket → Option Socket}
    (taken : g.advance id f = some g') : ∃ socket socket',
      ⟨id, socket⟩ ∈ g.sockets.rows ∧ f socket = some socket' ∧
        g'.sockets.next = g.sockets.next ∧
        ∀ row ∈ g'.sockets.rows, row ∈ g.sockets.rows ∧ row.id ≠ id ∨ row = ⟨id, socket'⟩ := by
  obtain ⟨row, found, rest⟩ := Option.bind_eq_some_iff.mp taken
  obtain ⟨socket', changed, equal⟩ := Option.bind_eq_some_iff.mp rest
  obtain rfl := Option.some.inj equal
  obtain ⟨member, rfl⟩ := Table.find?_eq_some_iff.mp found
  refine ⟨row.val, socket', member, changed, rfl, fun row' member' => ?_⟩
  obtain ⟨old, oldMember, rfl⟩ := List.mem_map.mp member'
  by_cases own : old.id = row.id
  · exact .inr (by simp [Entry.change, own])
  · rw [Entry.change_of_ne _ _ own]
    exact .inl ⟨oldMember, own⟩

/-- What a step is for was there before, unless the step itself is for it. -/
theorem Recorded.known_concat (recorded : Recorded service g₀ steps g) {id : SocketId}
    (unread : s ≠ .reads id) (paused : s ≠ .resumes id)
    (among : Step.reads id ∈ steps ++ [s] ∨ Step.resumes id ∈ steps ++ [s]) :
    id < g.sockets.next := by
  refine recorded.known id (among.imp (fun read => ?_) fun resumed => ?_)
  · exact (List.mem_append.mp read).resolve_right fun last =>
      unread (List.mem_singleton.mp last).symm
  · exact (List.mem_append.mp resumed).resolve_right fun last =>
      paused (List.mem_singleton.mp last).symm

/-- A step of one socket keeps the record when it keeps what is noted of that socket. -/
theorem Recorded.advance (recorded : Recorded service g₀ steps g) {id : SocketId}
    {f : Socket → Option Socket} (taken : g.advance id f = some g')
    (others : ∀ other, other ≠ id → s ≠ .reads other ∧ s ≠ .resumes other)
    (own : ∀ socket socket', Noted service g₀ steps id socket.connected socket.check →
      f socket = some socket' →
        Noted service g₀ (steps ++ [s]) id socket'.connected socket'.check) :
    Recorded service g₀ (steps ++ [s]) g' := by
  obtain ⟨socket, socket', member, changed, next, rows⟩ := advance_eq_some taken
  constructor
  · intro row member'
    rcases rows row member' with ⟨old, other⟩ | rfl
    · exact (recorded.noted row old).concat (others row.id other).1 (others row.id other).2
    · exact own socket socket' (recorded.noted _ member) changed
  · intro id' among
    rw [next]
    by_cases same : id' = id
    · exact same ▸ g.sockets.below _ member
    · exact recorded.known_concat (others id' same).1 (others id' same).2 among

/-- What a client does while it is connected does not concern its check. -/
theorem Recorded.whileConnected (recorded : Recorded service g₀ steps g) {id : SocketId}
    {f : Socket → Socket} (taken : g.advance id (Socket.whileConnected f) = some g')
    (unread : ∀ other, s ≠ .reads other) (paused : ∀ other, s ≠ .resumes other)
    (check : ∀ socket, (f socket).check = socket.check) :
    Recorded service g₀ (steps ++ [s]) g' := by
  refine recorded.advance taken (fun other _ => ⟨unread other, paused other⟩) ?_
  intro socket socket' noted changed
  unfold Socket.whileConnected at changed
  split at changed
  · rename_i connected
    obtain rfl := Option.some.inj changed
    rw [check]
    rw [connected] at noted
    exact (noted.concat (unread id) (paused id)).of_connected
  · cases changed

/-- A step that leaves the sockets alone. -/
theorem Recorded.idle (recorded : Recorded service g₀ steps g) (same : g'.sockets = g.sockets)
    (unread : ∀ other, s ≠ .reads other) (paused : ∀ other, s ≠ .resumes other) :
    Recorded service g₀ (steps ++ [s]) g' := by
  constructor
  · intro row member
    rw [same] at member
    exact (recorded.noted row member).concat (unread row.id) (paused row.id)
  · intro id among
    rw [same]
    exact recorded.known_concat (unread id) (paused id) among

/-- A new socket starts out with what its cookie gave. -/
theorem Recorded.connects (recorded : Recorded service g₀ steps g)
    (ran : run (step service) g₀ steps = some g) {cookieHeader : Option String}
    (taken : g.step service (.connects cookieHeader) = some g') :
    Recorded service g₀ (steps ++ [.connects cookieHeader]) g' := by
  obtain rfl := Option.some.inj taken
  have unread : Step.reads g.sockets.next ∉ steps ++ [.connects cookieHeader] := by
    refine not_mem_concat (fun read => ?_) nofun
    exact absurd (recorded.known _ (.inl read)) (lt_irrefl _)
  have paused : Step.resumes g.sockets.next ∉ steps ++ [.connects cookieHeader] := by
    refine not_mem_concat (fun resumed => ?_) nofun
    exact absurd (recorded.known _ (.inr resumed)) (lt_irrefl _)
  constructor
  · intro row member
    rcases List.mem_append.mp member with old | last
    · exact (recorded.noted row old).concat nofun nofun
    · obtain rfl := List.mem_singleton.mp last
      unfold TicketsGateway.handleConnection
      cases given : service.claims g.now cookieHeader with
      | error e => exact unread
      | ok claims? =>
          cases claims? with
          | none => exact rfl
          | some claims =>
              exact ⟨happened_last ran ⟨cookieHeader, rfl, rfl, given⟩, unread, paused⟩
  · intro id among
    have before : id < g.sockets.next :=
      recorded.known_concat (s := .connects cookieHeader) nofun nofun among
    exact Nat.lt_succ_of_lt before

/-- The database answers: whoever is found active was found now. -/
theorem Recorded.reads (recorded : Recorded service g₀ steps g)
    (ran : run (step service) g₀ steps = some g) {id : SocketId}
    (taken : g.step service (.reads id) = some g') :
    Recorded service g₀ (steps ++ [.reads id]) g' := by
  refine recorded.advance taken (fun other ne => ⟨?_, nofun⟩) ?_
  · rintro ⟨⟩
    exact ne rfl
  intro socket socket' noted changed
  unfold Socket.reads at changed
  split at changed
  · rename_i claims waiting
    obtain rfl := Option.some.inj changed
    rw [waiting] at noted
    obtain ⟨verified, -, paused⟩ := noted
    refine ⟨not_mem_concat paused nofun, claims, verified.concat _, fun entry same active => ?_⟩
    exact happened_last ran ⟨rfl, entry, same, active⟩
  · cases changed

/-- The lookup is rejected: the agent has not been read. -/
theorem Recorded.fails (recorded : Recorded service g₀ steps g) {id : SocketId}
    (taken : g.step service (.fails id) = some g') :
    Recorded service g₀ (steps ++ [.fails id]) g' := by
  refine recorded.advance taken (fun other ne => ⟨nofun, nofun⟩) ?_
  intro socket socket' noted changed
  unfold Socket.fails at changed
  split at changed
  · rename_i claims waiting
    obtain rfl := Option.some.inj changed
    rw [waiting] at noted
    exact not_mem_concat noted.2.1 nofun
  · cases changed

/-- The check ends: an active agent is noted, anyone else is disconnected. -/
theorem Recorded.resumes (recorded : Recorded service g₀ steps g) {id : SocketId}
    (taken : g.step service (.resumes id) = some g') :
    Recorded service g₀ (steps ++ [.resumes id]) g' := by
  refine recorded.advance taken (fun other ne => ⟨nofun, ?_⟩) ?_
  · rintro ⟨⟩
    exact ne rfl
  intro socket socket' noted changed
  unfold Socket.resumes at changed
  split at changed
  · rename_i agent answered
    rw [answered] at noted
    obtain ⟨-, claims, verified, found⟩ := noted
    split at changed
    · rename_i active
      obtain rfl := Option.some.inj changed
      exact ⟨⟨claims, verified.concat _, (found agent rfl active).concat _⟩, by simp⟩
    · obtain rfl := Option.some.inj changed
      exact rfl
  · obtain rfl := Option.some.inj changed
    exact rfl
  · cases changed

theorem Recorded.step (recorded : Recorded service g₀ steps g)
    (ran : run (Gateway.step service) g₀ steps = some g) (taken : g.step service s = some g') :
    Recorded service g₀ (steps ++ [s]) g' := by
  cases s with
  | connects cookieHeader => exact recorded.connects ran taken
  | reads socket => exact recorded.reads ran taken
  | fails socket => exact recorded.fails taken
  | resumes socket => exact recorded.resumes taken
  | joins socket ticketId => exact recorded.whileConnected taken nofun nofun fun _ => rfl
  | leaves socket ticketId => exact recorded.whileConnected taken nofun nofun fun _ => rfl
  | types socket ticketId => exact recorded.whileConnected taken nofun nofun fun _ => rfl
  | closes socket => exact recorded.whileConnected taken nofun nofun fun _ => rfl
  | emits event => exact recorded.idle (by cases taken; rfl) nofun nofun
  | writes agents => exact recorded.idle (by cases taken; rfl) nofun nofun
  | passes milliseconds => exact recorded.idle (by cases taken; rfl) nofun nofun

/-- The record of a run that begins without sockets. -/
theorem recorded_run {now : Time} {agents : Table Agent.key}
    (ran : run (Gateway.step service) (start now agents) steps = some g) :
    Recorded service (start now agents) steps g := by
  refine invariant (I := Recorded service (start now agents))
    ⟨fun row member => absurd member List.not_mem_nil, fun id among => ?_⟩ ?_ ran
  · rcases among with read | resumed
    · exact nomatch read
    · exact nomatch resumed
  · intro steps g₁ s g₂ before recorded taken
    exact recorded.step before taken

/-! ## Who receives -/

/-- A connected socket whose check has settled is authenticated. -/
theorem Noted.authenticated {id : SocketId} {check : Check}
    (noted : Noted service g₀ steps id true check) (settled : check.unsettled = false) :
    Authenticated service g₀ id steps := by
  cases check with
  | awaiting claims => exact nomatch settled
  | answered agent => exact nomatch settled
  | authenticated agentId => exact noted
  | refused => exact nomatch noted
  | failed error => exact nomatch settled

/-- A socket whose check has not settled is not. -/
theorem Noted.settled {id : SocketId} {connected : Bool} {check : Check}
    (noted : Noted service g₀ steps id connected check)
    (authenticated : Authenticated service g₀ id steps) : check.unsettled = false := by
  obtain ⟨⟨claims, -, found⟩, resumed⟩ := authenticated
  cases check with
  | awaiting claims => exact absurd found.read noted.2.1
  | answered agent => exact absurd resumed noted.1
  | authenticated agentId => rfl
  | refused => rfl
  | failed error => exact absurd found.read noted

end Gateway

/-- **Only authenticated sockets receive.** In every run that begins without sockets, all that is
delivered goes to sockets that were authenticated before, exactly when nothing is ever sent to
a socket whose check is still under way or has thrown. -/
theorem only_authenticated_iff (service : SessionService) (now : Time) (agents : Table Agent.key)
    (steps : List Gateway.Step) :
    Gateway.OnlyAuthenticated service (.start now agents) steps ↔
      Gateway.AlwaysSettled service (.start now agents) steps := by
  constructor
  · intro only before s after g split ran taken row heard
    have received : row.id ∈ (g.deliveries s).map LiveDelivery.socket := by
      rw [Gateway.sockets_deliveries]
      exact List.mem_map_of_mem heard
    obtain ⟨delivery, delivered, same⟩ := List.mem_map.mp received
    have authenticated := only before s after g split ran taken delivery delivered
    rw [same] at authenticated
    have noted := (Gateway.recorded_run ran).noted row (Gateway.mem_audience heard).1
    exact noted.settled authenticated
  · intro settled before s after g split ran taken delivery delivered
    have heard : delivery.socket ∈ (g.audience s).map Entry.id := by
      rw [← Gateway.sockets_deliveries]
      exact List.mem_map_of_mem delivered
    obtain ⟨row, listening, same⟩ := List.mem_map.mp heard
    obtain ⟨member, connected⟩ := Gateway.mem_audience listening
    have noted := (Gateway.recorded_run ran).noted row member
    rw [connected, same] at noted
    exact noted.authenticated (settled before s after g split ran taken row listening)

/-! ## A deactivated agent -/

/-- A service that knows one token, signed for the first agent. -/
def oneToken : SessionService where
  cookieName := "support_crm_session"
  jwtSecret := "secret"
  jwtVerify token secret _ :=
    if token = "signed" ∧ secret = "secret" then .ok ⟨0, .agent⟩ else .error "invalid signature"

/-- An agent who has been deactivated since. -/
def deactivated : Table Agent.key := Table.empty.insert ⟨1001, false⟩ fun _ member => nomatch member

/-- The agent connects with the cookie of the old session, and a ticket is created before the
database has answered. -/
def eventBeforeAnswer : List Gateway.Step :=
  [.connects (some "theme=dark; support_crm_session=signed"), .emits (.ticketCreated 7), .reads 0,
    .resumes 0]

set_option maxRecDepth 10000 in
/-- The deactivated agent receives the event. -/
theorem deactivated_agent_receives :
    (run (Gateway.step oneToken) (.start 0 deactivated) (eventBeforeAnswer.take 1)).map
        (·.deliveries (.emits (.ticketCreated 7))) =
      some [⟨0, "ticket:new", .event (.ticketCreated 7)⟩] ∧
    (run (Gateway.step oneToken) (.start 0 deactivated) eventBeforeAnswer).map
        (·.sockets.rows.map Entry.val) = some [⟨false, [], .refused⟩] ∧
    ¬ Gateway.OnlyAuthenticated oneToken (.start 0 deactivated) eventBeforeAnswer := by
  refine ⟨by decide, by decide, fun only => ?_⟩
  have ran : (run (Gateway.step oneToken) (.start 0 deactivated)
      (eventBeforeAnswer.take 1)).isSome := by decide
  obtain ⟨g, ran⟩ := Option.isSome_iff_exists.mp ran
  have received : (run (Gateway.step oneToken) (.start 0 deactivated)
      (eventBeforeAnswer.take 1)).map (·.deliveries (.emits (.ticketCreated 7))) =
        some [⟨0, "ticket:new", .event (.ticketCreated 7)⟩] := by decide
  rw [ran] at received
  have delivered : (⟨0, "ticket:new", .event (.ticketCreated 7)⟩ : LiveDelivery) ∈
      g.deliveries (.emits (.ticketCreated 7)) := by
    have one : g.deliveries (.emits (.ticketCreated 7)) =
        [⟨0, "ticket:new", .event (.ticketCreated 7)⟩] := Option.some.inj received
    rw [one]
    exact List.mem_cons_self
  have authenticated := only _ _ (eventBeforeAnswer.drop 2) g rfl ran rfl _ delivered
  exact absurd authenticated.resumed (by simp [eventBeforeAnswer])

end SupportCrm
