import SupportCrm.Gateway
import SupportCrm.LoginWidget

/-!
# Requests, sessions and roles

Every request to the API goes through the guards of its controller and of its handler. A login
signs a session, `AllowlistGuard` verifies the session of a request and looks up its agent, and
`RolesGuard` compares the role of that agent with the roles that the handler asks for. This
module gives the guards of every handler, and the steps in which requests arrive, wait for the
database and go on, in any order, with any tokens.

The library `jsonwebtoken` is a parameter: the token that it signs for a payload, and the
payload of a token whose signature is right. The expiry is compared here.
-/

set_option autoImplicit false

namespace SupportCrm

open KeyedTable Histories

/-! ## Handlers and their guards -/

inductive Controller where
  | teams
  | agents
  | auth
  | chats
  | telegramWebhook
  | notifications
  | savedViews
  | uploads
  | health
  | cannedResponses
  | organizations
  | labels
  | tickets
  | excludedSenders
  | analytics
  deriving DecidableEq, Repr

inductive Guard where
  | allowlist
  | roles
  deriving DecidableEq, Repr

/-- `@UseGuards` of a controller. -/
def Controller.useGuards : Controller → List Guard
  | .auth | .telegramWebhook | .health => []
  | .agents | .excludedSenders => [.allowlist, .roles]
  | .teams | .chats | .notifications | .savedViews | .uploads | .cannedResponses | .organizations
  | .labels | .tickets | .analytics => [.allowlist]

/-- `@Roles` of a controller. -/
def Controller.roles : Controller → Option (List AgentRole)
  | .excludedSenders => some [.admin]
  | _ => none

/-- The handlers of the controllers. -/
inductive Endpoint where
  | teams_list | teams_create | teams_addMember | teams_removeMember
  | agents_list | agents_update
  | auth_telegramCallback | auth_devLogin | auth_logout | auth_me
  | chats_list | chats_getById | chats_updateSettings | chats_listGroups | chats_createGroup
  | telegramWebhook_handleWebhook
  | notifications_list | notifications_markRead | notifications_markAllRead
  | notifications_getPrefs | notifications_updatePrefs
  | savedViews_list | savedViews_create | savedViews_update | savedViews_remove
  | uploads_upload
  | health_check
  | cannedResponses_list | cannedResponses_create | cannedResponses_update
  | cannedResponses_remove
  | organizations_list | organizations_create | organizations_getById
  | organizations_assignCustomer
  | labels_list | labels_create
  | tickets_list | tickets_getById | tickets_listMessages | tickets_patch | tickets_reply
  | tickets_addComment | tickets_listComments | tickets_assign | tickets_claim | tickets_close
  | tickets_reopen | tickets_snooze | tickets_bulk | tickets_listEvents | tickets_markNotCustomer
  | excludedSenders_list | excludedSenders_create | excludedSenders_resolve
  | excludedSenders_update | excludedSenders_remove
  | analytics_chats | analytics_overview
  deriving DecidableEq, Repr

namespace Endpoint

def controller : Endpoint → Controller
  | teams_list | teams_create | teams_addMember | teams_removeMember => .teams
  | agents_list | agents_update => .agents
  | auth_telegramCallback | auth_devLogin | auth_logout | auth_me => .auth
  | chats_list | chats_getById | chats_updateSettings | chats_listGroups
  | chats_createGroup => .chats
  | telegramWebhook_handleWebhook => .telegramWebhook
  | notifications_list | notifications_markRead | notifications_markAllRead
  | notifications_getPrefs | notifications_updatePrefs => .notifications
  | savedViews_list | savedViews_create | savedViews_update | savedViews_remove => .savedViews
  | uploads_upload => .uploads
  | health_check => .health
  | cannedResponses_list | cannedResponses_create | cannedResponses_update
  | cannedResponses_remove => .cannedResponses
  | organizations_list | organizations_create | organizations_getById
  | organizations_assignCustomer => .organizations
  | labels_list | labels_create => .labels
  | tickets_list | tickets_getById | tickets_listMessages | tickets_patch | tickets_reply
  | tickets_addComment | tickets_listComments | tickets_assign | tickets_claim | tickets_close
  | tickets_reopen | tickets_snooze | tickets_bulk | tickets_listEvents
  | tickets_markNotCustomer => .tickets
  | excludedSenders_list | excludedSenders_create | excludedSenders_resolve
  | excludedSenders_update | excludedSenders_remove => .excludedSenders
  | analytics_chats | analytics_overview => .analytics

/-- `@UseGuards` of a handler. -/
def useGuards : Endpoint → List Guard
  | auth_logout | auth_me => [.allowlist]
  | _ => []

/-- `@Roles` of a handler. -/
def roles : Endpoint → Option (List AgentRole)
  | agents_update => some [.admin]
  | _ => none

/-- The guards of the controller come before those of the handler. -/
def guards (endpoint : Endpoint) : List Guard :=
  endpoint.controller.useGuards ++ endpoint.useGuards

/-- `getAllAndOverride`: the roles of the handler, else those of its controller. -/
def required (endpoint : Endpoint) : Option (List AgentRole) :=
  endpoint.roles.or endpoint.controller.roles

/-- The role is one of those that the handler asks for, if it asks for any. -/
def admits (endpoint : Endpoint) (role : AgentRole) : Bool :=
  endpoint.required.all fun roles => roles = [] || role ∈ roles

/-- The handlers behind no guard. -/
def isPublic : Endpoint → Bool
  | auth_telegramCallback | auth_devLogin | telegramWebhook_handleWebhook | health_check => true
  | _ => false

/-- All other handlers are behind `AllowlistGuard`, and where roles are asked for `RolesGuard`
comes after it. -/
theorem guards_cases (endpoint : Endpoint) :
    endpoint.isPublic = true ∧ endpoint.guards = [] ∨
      endpoint.isPublic = false ∧ endpoint.guards = [.allowlist] ∧ endpoint.required = none ∨
        endpoint.isPublic = false ∧ endpoint.guards = [.allowlist, .roles] := by
  cases endpoint <;> decide

end Endpoint

/-! ## Agents -/

/-- What the guards, the logins and the list of agents read of an agent. -/
structure AgentAccount where
  telegramUserId : ℤ
  name : String
  username : Option String
  role : AgentRole
  isActive : Bool
  deriving DecidableEq, Repr

def AgentAccount.key (agent : AgentAccount) : Option ℤ := some agent.telegramUserId

/-- The body of `PATCH /agents/:id`. -/
structure PatchAgentDto where
  role : Option AgentRole := none
  is_active : Option Bool := none
  deriving DecidableEq, Repr

/-- What is `undefined` in the data of an update stays as it is. -/
def PatchAgentDto.apply (body : PatchAgentDto) (agent : AgentAccount) : AgentAccount :=
  { agent with
    role := body.role.getD agent.role
    isActive := body.is_active.getD agent.isActive }

/-! ## Sessions -/

/-- The payload of a token; the times are in seconds. -/
structure JwtPayload where
  claims : SessionClaims
  iat : ℤ
  exp : ℤ
  deriving DecidableEq, Repr

/-- The configuration of the API, and what `jsonwebtoken` signs and finds signed. -/
structure Access where
  telegram : TelegramService
  jwtSecret : String
  production : Bool
  jwtSign : JwtPayload → String → String
  jwtDecode : String → String → Option JwtPayload

namespace Access

/-- `expiresIn: '7d'`. -/
def payload (now : Time) (claims : SessionClaims) : JwtPayload :=
  ⟨claims, now / 1000, now / 1000 + 7 * 24 * 60 * 60⟩

/-- `SessionService.sign`. -/
def sign (access : Access) (now : Time) (claims : SessionClaims) : String :=
  access.jwtSign (payload now claims) access.jwtSecret

/-- The payload of a token with the right signature that has not expired. -/
def valid? (access : Access) (now : Time) (token : String) : Option JwtPayload :=
  (access.jwtDecode token access.jwtSecret).filter fun payload => now / 1000 < payload.exp

/-- `SessionService.verify`. -/
def verify (access : Access) (now : Time) (token : String) : Option SessionClaims :=
  (access.valid? now token).map JwtPayload.claims

end Access

/-! ## Requests -/

/-- What a request asks for, with the body where the agents or the sessions depend on it. A body
of `devLogin` may lack the username, and it may be `null`. -/
inductive ApiCall where
  | telegramCallback (dto : TelegramLoginPayload)
  | devLogin (username : Option (Option String))
  | updateAgent (id : AgentId) (body : PatchAgentDto)
  | other (endpoint : Endpoint)
      (rest : endpoint ∉ [.auth_telegramCallback, .auth_devLogin, .agents_update])

def ApiCall.endpoint : ApiCall → Endpoint
  | .telegramCallback _ => .auth_telegramCallback
  | .devLogin _ => .auth_devLogin
  | .updateAgent _ _ => .agents_update
  | .other endpoint _ => endpoint

/-- How a login looks up its agent. -/
inductive LoginQuery where
  | telegramUserId (id : ℤ)
  | username (username : Option (Option String))
  deriving DecidableEq, Repr

/-- What the client is answered. -/
inductive Response where
  | unauthorized (message : String)
  | forbidden (message : String)
  | session (token : String) (agent : Entry AgentAccount)
  | internalError
  | ok
  deriving DecidableEq, Repr

/-- How far a request has come: `AllowlistGuard` looks up the agent, with the guards that come
after it, or has the answer; a login does; the handler runs, with `request.agent`; the answer is
sent. -/
inductive Stage where
  | checking (claims : SessionClaims) (rest : List Guard)
  | checked (agent : Option (Entry AgentAccount)) (rest : List Guard)
  | identifying (query : LoginQuery)
  | identified (agent : Option (Entry AgentAccount))
  | handling (agent : Option (Entry AgentAccount))
  | done (response : Response)
  deriving DecidableEq, Repr

structure ApiRequest where
  token : Option String
  call : ApiCall
  stage : Stage

def ApiRequest.key (_ : ApiRequest) : Option Unit := none

/-- The agent that a login looks up; an undefined username is no condition. -/
def LoginQuery.answer (agents : Table AgentAccount.key) : LoginQuery → Option (Entry AgentAccount)
  | .telegramUserId id => agents.findKey? id
  | .username name =>
      agents.rows.find? fun row => name.all (row.val.username = ·) && row.val.isActive

namespace ApiCall

variable (access : Access) (now : Time) (token : Option String)

/-- The handler up to its first `await`. -/
def handle (agent : Option (Entry AgentAccount)) : ApiCall → Stage
  | .telegramCallback dto =>
      if access.telegram.verifyLoginWidget now dto then .identifying (.telegramUserId dto.id.toInt)
      else .done (.forbidden "Invalid Telegram Login signature")
  | .devLogin username =>
      if access.production then .done (.forbidden "Dev login is disabled outside development")
      else .identifying (.username username)
  | .updateAgent _ _ | .other _ _ => .handling agent

/-- The guards, until one refuses or awaits, and then the handler. -/
def activate (call : ApiCall) (agent : Option (Entry AgentAccount)) : List Guard → Stage
  | [] => call.handle access now agent
  | .allowlist :: rest =>
      match token.filter (· ≠ "") with
      | none => .done (.unauthorized "No session")
      | some token =>
          match access.verify now token with
          | none => .done (.unauthorized "Invalid or expired session")
          | some claims => .checking claims rest
  | .roles :: rest =>
      match call.endpoint.required with
      | none | some [] => activate call agent rest
      | some roles =>
          if agent.any fun agent => agent.val.role ∈ roles then activate call agent rest
          else .done (.forbidden "Insufficient role")

/-- What a login says of an agent that it does not find, or that is not active. -/
def refusal : ApiCall → String
  | .devLogin (some (some username)) => "No active agent with username \"" ++ username ++ "\""
  | .devLogin (some none) => "No active agent with username \"null\""
  | .devLogin none => "No active agent with username \"undefined\""
  | _ => "Not on the agent allowlist"

end ApiCall

namespace ApiRequest

variable (access : Access) (now : Time)

/-- A request as it arrives. -/
def arrive (token : Option String) (call : ApiCall) : ApiRequest :=
  ⟨token, call, call.activate access now token none call.endpoint.guards⟩

/-- The database answers. -/
def reads (agents : Table AgentAccount.key) (request : ApiRequest) : Option ApiRequest :=
  match request.stage with
  | .checking claims rest =>
      some { request with stage := .checked (agents.find? claims.sub) rest }
  | .identifying query => some { request with stage := .identified (query.answer agents) }
  | _ => none

/-- What waits for the answer goes on with it. -/
def resumes (request : ApiRequest) : Option ApiRequest :=
  match request.stage with
  | .checked agent rest =>
      match agent.filter (·.val.isActive) with
      | none => some { request with stage := .done (.unauthorized "Agent is not active") }
      | some agent =>
          some { request with
            stage := request.call.activate access now request.token (some agent) rest }
  | .identified agent =>
      match agent.filter (·.val.isActive) with
      | none => some { request with stage := .done (.forbidden request.call.refusal) }
      | some agent =>
          some { request with
            stage := .done (.session (access.sign now ⟨agent.id, agent.val.role⟩) agent) }
  | _ => none

/-- A query is rejected. -/
def fails (request : ApiRequest) : Option ApiRequest :=
  match request.stage with
  | .checking _ _ | .identifying _ | .handling _ =>
      some { request with stage := .done .internalError }
  | _ => none

/-- The handler comes to its end. There is no update of an agent that does not exist. -/
def works (agents : Table AgentAccount.key) (request : ApiRequest) : Option ApiRequest :=
  match request.stage, request.call with
  | .handling _, .updateAgent id _ =>
      some { request with
        stage := .done (if (agents.find? id).isSome then .ok else .internalError) }
  | .handling _, _ => some { request with stage := .done .ok }
  | _, _ => none

end ApiRequest

/-! ## The API -/

/-- The clock, the agents in the database and all requests that there have been. -/
structure Api where
  now : Time
  agents : Table AgentAccount.key
  requests : Table ApiRequest.key

/-- A request arrives; the database answers or fails; the request goes on; its handler does its
work; time passes. -/
inductive Api.Step where
  | arrives (token : Option String) (call : ApiCall)
  | reads (request : ℕ)
  | resumes (request : ℕ)
  | fails (request : ℕ)
  | works (request : ℕ)
  | passes (milliseconds : ℕ)

namespace Api

def start (now : Time) (agents : Table AgentAccount.key) : Api := ⟨now, agents, .empty⟩

/-- A step of one request. -/
def advance (s : Api) (id : ℕ) (f : ApiRequest → Option ApiRequest) : Option Api := do
  let row ← s.requests.find? id
  let request ← f row.val
  some { s with requests := s.requests.update id (fun _ => request) fun _ => rfl }

/-- The agents after the handler of a call. -/
def written (s : Api) : ApiCall → Table AgentAccount.key
  | .updateAgent id body => s.agents.update id body.apply fun _ => rfl
  | _ => s.agents

def step (access : Access) (s : Api) : Step → Option Api
  | .arrives token call =>
      some { s with
        requests := s.requests.insert (ApiRequest.arrive access s.now token call)
          (Table.free_of_none rfl) }
  | .reads request => s.advance request (ApiRequest.reads s.agents)
  | .resumes request => s.advance request (ApiRequest.resumes access s.now)
  | .fails request => s.advance request ApiRequest.fails
  | .works request => do
      let row ← s.requests.find? request
      let s' ← s.advance request (ApiRequest.works s.agents)
      some { s' with agents := s.written row.val.call }
  | .passes milliseconds => some { s with now := s.now + milliseconds }

end Api

end SupportCrm
