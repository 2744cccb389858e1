import SupportCrm.Library.Characters
import SupportCrm.Library.History
import SupportCrm.Schema

/-!
# The gateway of the live events

Agents follow the tickets over WebSockets. A socket is connected to the namespace before
`handleConnection` looks at it: the cookie is read and the session verified at once, but the
agent is looked up in the database, and until the answer is there the socket stays
connected. The broadcasts of the gateway go to every socket that is connected.

The library that verifies a token (`jwt.verify`) is a parameter. Steps are taken in any
order: connections with any cookie header, the database's answers and failures, the
continuations of `handleConnection`, the messages of the clients, the events of the API
process and whatever other requests write to the agents.
-/

set_option autoImplicit false

namespace SupportCrm

open KeyedTable Histories Characters

/-! ## The cookie -/

/-- The byte that an escape sequence stands for, and the text after it. -/
def escapedByte : List Char → Option (ℕ × List Char)
  | '%' :: high :: low :: rest => do
      let high ← hexDigit high
      let low ← hexDigit low
      some (16 * high + low, rest)
  | _ => none

/-- The continuation bytes of a character in UTF-8. -/
def continuationBytes : ℕ → ℕ → List Char → Option (ℕ × List Char)
  | 0, point, text => some (point, text)
  | more + 1, point, text => do
      let (byte, rest) ← escapedByte text
      if byte / 64 = 2 then continuationBytes more (64 * point + byte % 64) rest else none

/-- What the first byte of a character says: how many follow, the bits it carries and the
least code point that is written with so many. -/
def leadingByte (byte : ℕ) : Option (ℕ × ℕ × ℕ) :=
  if byte < 0x80 then some (0, byte, 0)
  else if byte / 32 = 6 then some (1, byte % 32, 0x80)
  else if byte / 16 = 14 then some (2, byte % 16, 0x800)
  else if byte / 8 = 30 then some (3, byte % 8, 0x10000)
  else none

/-- An escaped character, and the text after it. -/
def escapedChar (text : List Char) : Option (Char × List Char) := do
  let (byte, rest) ← escapedByte text
  let (more, bits, least) ← leadingByte byte
  let (point, rest) ← continuationBytes more bits rest
  if least ≤ point ∧ point.isValidChar then some (Char.ofNat point, rest) else none

/-- `decodeURIComponent`, or nothing where it throws a `URIError`; the fuel is the length. -/
def decodeURIComponent (text : List Char) : Option (List Char) := decode text.length text
where
  decode : ℕ → List Char → Option (List Char)
    | _, [] => some []
    | 0, _ :: _ => none
    | fuel + 1, '%' :: rest => do
        let (c, rest) ← escapedChar ('%' :: rest)
        let decoded ← decode fuel rest
        some (c :: decoded)
    | fuel + 1, c :: rest => do
        let decoded ← decode fuel rest
        some (c :: decoded)

/-- What ends a handler before its time. -/
inductive GatewayError where
  | uriMalformed
  | database
  deriving DecidableEq, Repr

/-- A header without the cookie, and no header, give `undefined`. -/
def extractCookie (cookieHeader : Option String) (name : String) :
    Except GatewayError (Option String) :=
  match cookieHeader with
  | none => .ok none
  | some cookieHeader =>
      let parts := (cookieHeader.toList.splitOn ';').map trim
      match parts.find? fun part => (name.toList ++ ['=']).isPrefixOf part with
      | none => .ok none
      | some part =>
          match decodeURIComponent (part.drop (name.length + 1)) with
          | none => .error .uriMalformed
          | some decoded => .ok (some (String.ofList decoded))

/-! ## The session -/

inductive AgentRole where
  | admin
  | lead
  | agent
  deriving DecidableEq, Repr

structure SessionClaims where
  sub : AgentId
  role : AgentRole
  deriving DecidableEq, Repr

/-- The configuration of the service, and what `jwt.verify` says of a token, a secret and the
time. -/
structure SessionService where
  cookieName : String
  jwtSecret : String
  jwtVerify : String → String → Time → Except String SessionClaims

namespace SessionService

/-- A token that `jwt.verify` refuses gives no claims. -/
def verify (service : SessionService) (now : Time) (token : String) : Option SessionClaims :=
  match service.jwtVerify token service.jwtSecret now with
  | .ok claims => some claims
  | .error _ => none

/-- The claims of a cookie header. An empty token counts as none. -/
def claims (service : SessionService) (now : Time) (cookieHeader : Option String) :
    Except GatewayError (Option SessionClaims) := do
  match ← extractCookie cookieHeader service.cookieName with
  | none => .ok none
  | some token => .ok (if token = "" then none else service.verify now token)

end SessionService

/-! ## Sockets -/

abbrev SocketId := ℕ

/-- How far `handleConnection` has come: the agent is being looked up, the answer is there,
it has noted the agent, it has disconnected the client, it has thrown. -/
inductive Check where
  | awaiting (claims : SessionClaims)
  | answered (agent : Option (Entry Agent))
  | authenticated (agentId : AgentId)
  | refused
  | failed (error : GatewayError)
  deriving DecidableEq, Repr

/-- `handleConnection` has neither noted the agent nor disconnected the client. -/
def Check.unsettled : Check → Bool
  | .awaiting _ | .answered _ | .failed _ => true
  | .authenticated _ | .refused => false

/-- A socket, the rooms `ticket:ID` that it is in, and its check. -/
structure Socket where
  connected : Bool
  rooms : List TicketId
  check : Check
  deriving DecidableEq, Repr

def Socket.key (_ : Socket) : Option Unit := none

namespace Socket

/-- A socket that is disconnected leaves its rooms. -/
def disconnect (socket : Socket) : Socket := { socket with connected := false, rooms := [] }

/-- `client.data.agentId`. -/
def agentId (socket : Socket) : Option AgentId :=
  match socket.check with
  | .authenticated agentId => some agentId
  | _ => none

/-- The database answers `findUnique`. -/
def reads (agents : Table Agent.key) (socket : Socket) : Option Socket :=
  match socket.check with
  | .awaiting claims => some { socket with check := .answered (agents.find? claims.sub) }
  | _ => none

/-- `findUnique` is rejected, and so is the promise of `handleConnection`. -/
def fails (socket : Socket) : Option Socket :=
  match socket.check with
  | .awaiting _ => some { socket with check := .failed .database }
  | _ => none

/-- `handleConnection` goes on with the answer. -/
def resumes (socket : Socket) : Option Socket :=
  match socket.check with
  | .answered (some agent) =>
      if agent.val.isActive then some { socket with check := .authenticated agent.id }
      else some { socket.disconnect with check := .refused }
  | .answered none => some { socket.disconnect with check := .refused }
  | _ => none

/-- A message of a client that is connected. -/
def whileConnected (f : Socket → Socket) (socket : Socket) : Option Socket :=
  if socket.connected then some (f socket) else none

/-- `ticket:join`. -/
def joins (ticketId : TicketId) : Socket → Option Socket :=
  whileConnected fun socket => { socket with rooms := ticketId :: socket.rooms }

/-- `ticket:leave`. -/
def leaves (ticketId : TicketId) : Socket → Option Socket :=
  whileConnected fun socket => { socket with rooms := socket.rooms.filter (· ≠ ticketId) }

end Socket

/-! ## The gateway -/

/-- The clock, the agents in the database and all sockets that there have been. -/
structure Gateway where
  now : Time
  agents : Table Agent.key
  sockets : Table Socket.key

/-- A client connects, with the header of its handshake; the database answers or fails;
`handleConnection` goes on; a client joins or leaves a ticket or types; a connection ends for
a reason of its own; an event is emitted in the API process; other requests write agents;
time passes. -/
inductive Gateway.Step where
  | connects (cookieHeader : Option String)
  | reads (socket : SocketId)
  | fails (socket : SocketId)
  | resumes (socket : SocketId)
  | joins (socket : SocketId) (ticketId : TicketId)
  | leaves (socket : SocketId) (ticketId : TicketId)
  | types (socket : SocketId) (ticketId : TicketId)
  | closes (socket : SocketId)
  | emits (event : DomainEvent)
  | writes (agents : Table Agent.key)
  | passes (milliseconds : ℕ)

namespace TicketsGateway

/-- `handleConnection` up to the first `await`, on a socket that has just been connected. -/
def handleConnection (service : SessionService) (now : Time) (cookieHeader : Option String) :
    Socket :=
  let client : Socket := ⟨true, [], .refused⟩
  match service.claims now cookieHeader with
  | .error e => { client with check := .failed e }
  | .ok none => client.disconnect
  | .ok (some claims) => { client with check := .awaiting claims }

/-- The name under which an event is sent, and the room that it is sent to. -/
structure Emission where
  name : String
  room : Option TicketId
  deriving DecidableEq, Repr

/-- The `onX` handlers. -/
def onEvent : DomainEvent → Option Emission
  | .ticketCreated _ => some ⟨"ticket:new", none⟩
  | .ticketUpdated _ _ => some ⟨"ticket:updated", none⟩
  | .ticketAssigned _ _ _ _ => some ⟨"ticket:assigned", none⟩
  | .messageReceived _ _ _ => some ⟨"message:new", none⟩
  | .messageSent _ _ _ => some ⟨"message:new", none⟩
  | .commentCreated _ _ _ => some ⟨"comment:new", none⟩
  | .agentTyping ticketId _ => some ⟨"agent:typing", some ticketId⟩
  | .ticketClosed _ _ | .notificationCreated _ _ _ _ => none

end TicketsGateway

/-- The body of what a socket receives. -/
inductive LivePayload where
  | event (event : DomainEvent)
  | typing (ticketId : TicketId) (agentId : Option AgentId)
  deriving DecidableEq, Repr

/-- Something that a socket receives. -/
structure LiveDelivery where
  socket : SocketId
  name : String
  payload : LivePayload
  deriving DecidableEq, Repr

namespace Gateway

def start (now : Time) (agents : Table Agent.key) : Gateway := ⟨now, agents, .empty⟩

/-- A step of one socket. -/
def advance (g : Gateway) (id : SocketId) (f : Socket → Option Socket) : Option Gateway := do
  let row ← g.sockets.find? id
  let socket ← f row.val
  some { g with sockets := g.sockets.update id (fun _ => socket) fun _ => rfl }

def step (service : SessionService) (g : Gateway) : Step → Option Gateway
  | .connects cookieHeader =>
      some { g with
        sockets := g.sockets.insert (TicketsGateway.handleConnection service g.now cookieHeader)
          (Table.free_of_none rfl) }
  | .reads socket => g.advance socket (Socket.reads g.agents)
  | .fails socket => g.advance socket Socket.fails
  | .resumes socket => g.advance socket Socket.resumes
  | .joins socket ticketId => g.advance socket (Socket.joins ticketId)
  | .leaves socket ticketId => g.advance socket (Socket.leaves ticketId)
  | .types socket _ => g.advance socket (Socket.whileConnected id)
  | .closes socket => g.advance socket (Socket.whileConnected Socket.disconnect)
  | .emits _ => some g
  | .writes agents => some { g with agents := agents }
  | .passes milliseconds => some { g with now := g.now + milliseconds }

/-- The sockets that are connected, all of them or those in a room. -/
def listeners (g : Gateway) (room : Option TicketId) : List (Entry Socket) :=
  g.sockets.rows.filter fun row => row.val.connected && room.all (· ∈ row.val.rooms)

/-- The sockets to which something is sent in a step. What a client types goes to the others. -/
def audience (g : Gateway) : Step → List (Entry Socket)
  | .emits event =>
      match TicketsGateway.onEvent event with
      | some emission => g.listeners emission.room
      | none => []
  | .types socket ticketId => (g.listeners (some ticketId)).filter fun row => row.id ≠ socket
  | _ => []

/-- What the sockets receive in a step. -/
def deliveries (g : Gateway) : Step → List LiveDelivery
  | .emits event =>
      match TicketsGateway.onEvent event with
      | some emission =>
          (g.listeners emission.room).map fun row => ⟨row.id, emission.name, .event event⟩
      | none => []
  | .types socket ticketId =>
      ((g.listeners (some ticketId)).filter fun row => row.id ≠ socket).map fun row =>
        ⟨row.id, "agent:typing", .typing ticketId ((g.sockets.find? socket).bind fun client =>
          client.val.agentId)⟩
  | _ => []

end Gateway

end SupportCrm
