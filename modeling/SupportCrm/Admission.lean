import SupportCrm.Access

/-!
# Whose requests are handled

The invariant of a run says of every request what the steps so far have been for it (`Noted`). A
handler behind the guards runs for an agent who was found active, with a role that the handler
asks for, and whose session was signed at a login before (`handled_of_login`). The agents are
written by handlers only that ask for administrators, so without one they stay as they are
(`agents_without_admin`).
-/

set_option autoImplicit false

namespace SupportCrm

open KeyedTable Histories

namespace Api

/-! ## What a request has been through -/

section

variable (access : Access) (s₀ : Api)

/-- The session with these claims was signed at this time, and its token sent to a client. -/
def Issued (token : String) (claims : SessionClaims) (signed : Time) (steps : List Step) : Prop :=
  Happened (step access) s₀ (fun s a => ∃ id row agent, a = .resumes id ∧
    s.requests.find? id = some row ∧ row.val.stage = .identified (some agent) ∧
    agent.val.isActive = true ∧ s.now = signed ∧ claims = ⟨agent.id, agent.val.role⟩ ∧
    token = access.sign signed claims) steps

/-- A login asked for an agent: after the payload of the widget was verified, or outside
production. -/
inductive Asked : LoginQuery → List Step → Prop where
  | widget {dto : TelegramLoginPayload} {steps : List Step}
      (verified : Happened (step access) s₀ (fun s a => ∃ token,
        a = .arrives token (.telegramCallback dto) ∧
          access.telegram.verifyLoginWidget s.now dto = true) steps) :
      Asked (.telegramUserId dto.id.toInt) steps
  | development {username : Option (Option String)} {steps : List Step}
      (development : access.production = false) : Asked (.username username) steps

/-- A login found the agent active, and the agent was the one that the login asked for. -/
def LoggedIn (agentId : AgentId) (steps : List Step) : Prop :=
  ∃ query, Asked access s₀ query steps ∧
    Happened (step access) s₀ (fun s a => ∃ id agent, a = .reads id ∧
      query.answer s.agents = some agent ∧ agent.id = agentId ∧ agent.val.isActive = true) steps

/-- The request arrived with a token for these claims that had not expired. -/
def Presented (id : ℕ) (claims : SessionClaims) (steps : List Step) : Prop :=
  Happened (step access) s₀ (fun s a => ∃ token call, a = .arrives (some token) call ∧
    s.requests.next = id ∧ access.verify s.now token = some claims) steps

/-- The agent of the request was found in the database. -/
def FoundAgent (id : ℕ) (agent : Entry AgentAccount) (steps : List Step) : Prop :=
  Happened (step access) s₀ (fun s a => a = .reads id ∧ s.agents.find? agent.id = some agent) steps

/-- The guards have let the request through. -/
structure LetThrough (id : ℕ) (endpoint : Endpoint) (agent : Entry AgentAccount)
    (steps : List Step) : Prop where
  presented : ∃ claims, Presented access s₀ id claims steps ∧ claims.sub = agent.id
  found : FoundAgent access s₀ id agent steps
  active : agent.val.isActive = true
  admitted : endpoint.admits agent.val.role = true

/-- What the steps have been for a request, as far as its stage tells. -/
def Noted (steps : List Step) (id : ℕ) (endpoint : Endpoint) : Stage → Prop
  | .checking claims rest =>
      endpoint.guards = .allowlist :: rest ∧ Presented access s₀ id claims steps
  | .checked agent rest =>
      endpoint.guards = .allowlist :: rest ∧ ∃ claims, Presented access s₀ id claims steps ∧
        ∀ found ∈ agent, claims.sub = found.id ∧ FoundAgent access s₀ id found steps
  | .identifying query => Asked access s₀ query steps
  | .identified agent => ∀ found ∈ agent, found.val.isActive = true →
      LoggedIn access s₀ found.id steps
  | .handling none => endpoint.isPublic = true
  | .handling (some agent) => LetThrough access s₀ id endpoint agent steps
  | .done _ => True

/-- Every request is as noted. -/
def Recorded (steps : List Step) (s : Api) : Prop :=
  ∀ row ∈ s.requests.rows, Noted access s₀ steps row.id row.val.call.endpoint row.val.stage

/-- A token with the right signature is one that the API has sent to a client. -/
def Unforged (steps : List Step) : Prop :=
  ∀ before token call after payload, steps = before ++ .arrives (some token) call :: after →
    access.jwtDecode token access.jwtSecret = some payload →
      ∃ claims signed, Issued access s₀ token claims signed before ∧
        payload = Access.payload signed claims

end

variable {access : Access} {s₀ s s' : Api} {steps : List Step} {a : Step} {id : ℕ}
  {endpoint : Endpoint} {agent : Entry AgentAccount} {claims : SessionClaims}

/-! ### It stays so -/

theorem Asked.append {query : LoginQuery} (asked : Asked access s₀ query steps)
    (later : List Step) : Asked access s₀ query (steps ++ later) := by
  cases asked with
  | widget verified => exact .widget (verified.append later)
  | development development => exact .development development

theorem LoggedIn.append {agentId : AgentId} (login : LoggedIn access s₀ agentId steps)
    (later : List Step) : LoggedIn access s₀ agentId (steps ++ later) := by
  obtain ⟨query, asked, found⟩ := login
  exact ⟨query, asked.append later, found.append later⟩

theorem LetThrough.concat (through : LetThrough access s₀ id endpoint agent steps) (a : Step) :
    LetThrough access s₀ id endpoint agent (steps ++ [a]) where
  presented := by
    obtain ⟨claims, presented, same⟩ := through.presented
    exact ⟨claims, presented.concat a, same⟩
  found := through.found.concat a
  active := through.active
  admitted := through.admitted

theorem Noted.concat {stage : Stage} (noted : Noted access s₀ steps id endpoint stage) (a : Step) :
    Noted access s₀ (steps ++ [a]) id endpoint stage := by
  cases stage with
  | checking claims rest => exact ⟨noted.1, noted.2.concat a⟩
  | checked agent rest =>
      obtain ⟨guards, claims, presented, found⟩ := noted
      exact ⟨guards, claims, presented.concat a,
        fun agent member => ⟨(found agent member).1, (found agent member).2.concat a⟩⟩
  | identifying query => exact Asked.append noted [a]
  | identified agent => exact fun found member active => (noted found member active).append [a]
  | handling agent =>
      cases agent with
      | none => exact noted
      | some agent => exact LetThrough.concat noted a
  | done response => trivial

/-! ## Guards -/

/-- What the guards after `AllowlistGuard` make of an agent who is let through by it. -/
theorem activate_rest {now : Time} {token : Option String} {call : ApiCall} {rest : List Guard}
    (guarded : call.endpoint.guards = .allowlist :: rest) (agent : Entry AgentAccount) :
    call.activate access now token (some agent) rest =
      if call.endpoint.admits agent.val.role then .handling (some agent)
      else .done (.forbidden "Insufficient role") := by
  have handles : call.handle access now (some agent) = .handling (some agent) := by
    cases call with
    | telegramCallback dto => cases guarded
    | devLogin username => cases guarded
    | updateAgent id body => rfl
    | other endpoint rest => rfl
  rcases call.endpoint.guards_cases with ⟨-, none⟩ | ⟨-, one, free⟩ | ⟨-, two⟩
  · rw [none] at guarded
    cases guarded
  · obtain rfl : [] = rest := (List.cons.inj (one.symm.trans guarded)).2
    rw [ApiCall.activate, handles, Endpoint.admits, free, Option.all_none, if_pos rfl]
  · obtain rfl : [.roles] = rest := (List.cons.inj (two.symm.trans guarded)).2
    rw [ApiCall.activate, Endpoint.admits]
    cases call.endpoint.required with
    | none => exact handles
    | some roles =>
        cases roles with
        | nil => exact handles
        | cons role roles =>
            simp only [ApiCall.activate, handles, Option.any_some, Option.all_some, reduceCtorEq,
              decide_false, Bool.false_or]

/-- A request that arrives is refused, or waits for the lookup of the agent of its session, or
there is no guard and its handler has begun. -/
theorem noted_arrive (ran : run (step access) s₀ steps = some s) (token : Option String)
    (call : ApiCall) :
    Noted access s₀ (steps ++ [.arrives token call]) s.requests.next call.endpoint
      (ApiRequest.arrive access s.now token call).stage := by
  rw [ApiRequest.arrive]
  have unguarded (free : call.endpoint.isPublic = true) : Noted access s₀
      (steps ++ [.arrives token call]) s.requests.next call.endpoint
        (call.handle access s.now none) := by
    cases call with
    | telegramCallback dto =>
        rw [ApiCall.handle]
        split
        · next verified => exact .widget (happened_last ran ⟨token, rfl, verified⟩)
        · trivial
    | devLogin username =>
        rw [ApiCall.handle]
        split
        · trivial
        · next development => exact .development (Bool.eq_false_iff.mpr development)
    | updateAgent id body => exact free
    | other endpoint rest => exact free
  have guarded {rest : List Guard} (guards : call.endpoint.guards = .allowlist :: rest) :
      Noted access s₀ (steps ++ [.arrives token call]) s.requests.next call.endpoint
        (call.activate access s.now token none (.allowlist :: rest)) := by
    rw [ApiCall.activate]
    split
    · trivial
    · next token' given =>
        obtain ⟨rfl, -⟩ := Option.filter_eq_some_iff.mp given
        split
        · trivial
        · next claims verified =>
            exact ⟨guards, happened_last ran ⟨token', call, rfl, rfl, verified⟩⟩
  rcases call.endpoint.guards_cases with ⟨free, none⟩ | ⟨-, one, -⟩ | ⟨-, two⟩
  · rw [none]
    exact unguarded free
  · rw [one]
    exact guarded one
  · rw [two]
    exact guarded two

/-! ## Steps -/

/-- What a step of one request does to the requests. -/
theorem advance_eq_some {f : ApiRequest → Option ApiRequest} (taken : s.advance id f = some s') :
    ∃ request request', s.requests.find? id = some ⟨id, request⟩ ∧ f request = some request' ∧
      s'.now = s.now ∧ s'.agents = s.agents ∧
        ∀ row ∈ s'.requests.rows, row ∈ s.requests.rows ∨ row = ⟨id, request'⟩ := by
  obtain ⟨row, found, rest⟩ := Option.bind_eq_some_iff.mp taken
  obtain ⟨request', changed, equal⟩ := Option.bind_eq_some_iff.mp rest
  obtain rfl := Option.some.inj equal
  obtain rfl := Table.id_of_find? found
  refine ⟨row.val, request', found, changed, rfl, rfl, fun row' member' => ?_⟩
  obtain ⟨old, oldMember, rfl⟩ := List.mem_map.mp member'
  by_cases own : old.id = row.id
  · exact .inr (by simp [Entry.change, own])
  · rw [Entry.change_of_ne _ _ own]
    exact .inl oldMember

/-- A step of one request keeps the record when it keeps what is noted of that request. -/
theorem Recorded.advance (recorded : Recorded access s₀ steps s) {f : ApiRequest → Option ApiRequest}
    (taken : s.advance id f = some s')
    (own : ∀ request request', s.requests.find? id = some ⟨id, request⟩ →
      Noted access s₀ steps id request.call.endpoint request.stage → f request = some request' →
        Noted access s₀ (steps ++ [a]) id request'.call.endpoint request'.stage) :
    Recorded access s₀ (steps ++ [a]) s' := by
  obtain ⟨request, request', found, changed, -, -, rows⟩ := advance_eq_some taken
  intro row member
  rcases rows row member with old | rfl
  · exact (recorded row old).concat a
  · exact own request request' found (recorded _ (Table.mem_of_find? found)) changed

/-- The database answers: whoever is found is found now. -/
theorem Recorded.reads (recorded : Recorded access s₀ steps s)
    (ran : run (step access) s₀ steps = some s) (taken : s.step access (.reads id) = some s') :
    Recorded access s₀ (steps ++ [.reads id]) s' := by
  refine recorded.advance taken fun request request' _ noted changed => ?_
  unfold ApiRequest.reads at changed
  split at changed
  · next claims rest waiting =>
    obtain rfl := Option.some.inj changed
    rw [waiting] at noted
    refine ⟨noted.1, claims, noted.2.concat _, fun agent found => ?_⟩
    have same := Table.id_of_find? found
    exact ⟨same.symm, happened_last ran ⟨rfl, same ▸ found⟩⟩
  · next query waiting =>
    obtain rfl := Option.some.inj changed
    rw [waiting] at noted
    exact fun agent found active =>
      ⟨query, Asked.append noted _, happened_last ran ⟨id, agent, rfl, found, rfl, active⟩⟩
  · cases changed

/-- The request goes on with the answer. -/
theorem Recorded.resumes (recorded : Recorded access s₀ steps s)
    (taken : s.step access (.resumes id) = some s') :
    Recorded access s₀ (steps ++ [.resumes id]) s' := by
  refine recorded.advance taken fun request request' _ noted changed => ?_
  unfold ApiRequest.resumes at changed
  split at changed
  · next agent rest answered =>
    rw [answered] at noted
    obtain ⟨guards, claims, presented, found⟩ := noted
    split at changed
    · obtain rfl := Option.some.inj changed
      trivial
    · next agent' filtered =>
      obtain rfl := Option.some.inj changed
      obtain ⟨rfl, active⟩ := Option.filter_eq_some_iff.mp filtered
      obtain ⟨own, read⟩ := found agent' rfl
      rw [activate_rest guards]
      split
      · next admitted =>
        exact ⟨⟨claims, presented.concat _, own⟩, read.concat _, active, admitted⟩
      · trivial
  · next agent answered =>
    split at changed
    · obtain rfl := Option.some.inj changed
      trivial
    · obtain rfl := Option.some.inj changed
      trivial
  · cases changed

theorem Recorded.fails (recorded : Recorded access s₀ steps s)
    (taken : s.step access (.fails id) = some s') :
    Recorded access s₀ (steps ++ [.fails id]) s' := by
  refine recorded.advance taken fun request request' _ noted changed => ?_
  unfold ApiRequest.fails at changed
  split at changed
  all_goals cases changed
  all_goals trivial

/-- The step in which a handler does its work. -/
theorem works_eq_some (taken : s.step access (.works id) = some s') : ∃ request s₁ agent,
    s.requests.find? id = some ⟨id, request⟩ ∧ request.stage = .handling agent ∧
      s.advance id (ApiRequest.works s.agents) = some s₁ ∧
        s' = { s₁ with agents := s.written request.call } := by
  obtain ⟨row, found, rest⟩ := Option.bind_eq_some_iff.mp taken
  obtain ⟨s₁, advanced, equal⟩ := Option.bind_eq_some_iff.mp rest
  obtain ⟨request, request', found', changed, -⟩ := advance_eq_some advanced
  obtain rfl := Option.some.inj (found.symm.trans found')
  refine ⟨request, s₁, ?_⟩
  unfold ApiRequest.works at changed
  split at changed
  · next agent _ _ handling _ =>
    exact ⟨agent, found, handling, advanced, (Option.some.inj equal).symm⟩
  · next agent handling _ =>
    exact ⟨agent, found, handling, advanced, (Option.some.inj equal).symm⟩
  · cases changed

theorem Recorded.works (recorded : Recorded access s₀ steps s)
    (taken : s.step access (.works id) = some s') :
    Recorded access s₀ (steps ++ [.works id]) s' := by
  obtain ⟨request, s₁, agent, -, -, advanced, rfl⟩ := works_eq_some taken
  -- The writes of a handler leave what is recorded of the requests alone.
  have same : Recorded access s₀ (steps ++ [.works id]) s₁ := by
    refine recorded.advance advanced fun request request' _ noted changed => ?_
    unfold ApiRequest.works at changed
    split at changed
    all_goals cases changed
    all_goals trivial
  exact same

theorem Recorded.step (recorded : Recorded access s₀ steps s)
    (ran : run (Api.step access) s₀ steps = some s) (taken : s.step access a = some s') :
    Recorded access s₀ (steps ++ [a]) s' := by
  cases a with
  | arrives token call =>
      obtain rfl := Option.some.inj taken
      intro row member
      rcases List.mem_append.mp member with old | last
      · exact (recorded row old).concat _
      · obtain rfl := List.mem_singleton.mp last
        exact noted_arrive ran token call
  | reads id => exact recorded.reads ran taken
  | resumes id => exact recorded.resumes taken
  | fails id => exact recorded.fails taken
  | works id => exact recorded.works taken
  | passes milliseconds =>
      obtain rfl := Option.some.inj taken
      exact fun row member => (recorded row member).concat _

/-- The record of a run that begins without requests. -/
theorem recorded_run {now : Time} {agents : Table AgentAccount.key}
    (ran : run (Api.step access) (start now agents) steps = some s) :
    Recorded access (start now agents) steps s := by
  refine invariant (I := Recorded access (start now agents))
    (fun row member => absurd member List.not_mem_nil) ?_ ran
  intro steps s₁ a s₂ before recorded taken
  exact recorded.step before taken

/-! ## Behind the guards -/

/-- Why a handler behind the guards runs for an agent: the request came with a token that had been
signed for the agent after a login, less than seven days before, and when its agent was looked up,
the agent was active and had a role that the handler asks for. -/
structure Admission (access : Access) (s₀ : Api) (id : ℕ) (endpoint : Endpoint)
    (agent : Entry AgentAccount) (steps : List Step) : Prop where
  session : ∃ before token call after s role signed,
    steps = before ++ .arrives (some token) call :: after ∧
      run (Api.step access) s₀ before = some s ∧ s.requests.next = id ∧
      Issued access s₀ token ⟨agent.id, role⟩ signed before ∧
      s.now / 1000 < signed / 1000 + 7 * 24 * 60 * 60 ∧ LoggedIn access s₀ agent.id before
  found : FoundAgent access s₀ id agent steps
  active : agent.val.isActive = true
  admitted : endpoint.admits agent.val.role = true

/-- Behind a session is a login. -/
theorem Issued.loggedIn {now : Time} {agents : Table AgentAccount.key} {token : String}
    {signed : Time} (issued : Issued access (start now agents) token claims signed steps) :
    LoggedIn access (start now agents) claims.sub steps := by
  obtain ⟨before, a, after, s, rfl, ran, id, row, agent, rfl, found, identified, active, -, rfl,
    -⟩ := issued
  have noted := recorded_run ran row (Table.mem_of_find? found)
  rw [identified] at noted
  exact (noted agent rfl active).append _

end Api

/-- **Nobody acts without a recent login.** In every run, in whatever order requests arrive and go
on, a handler behind the guards runs only for an agent who is admitted: in production the request
goes back to a payload of the login widget that was verified. -/
theorem handled_of_login {access : Access} {now : Time} {agents : Table AgentAccount.key}
    {steps : List Api.Step} {s : Api} (unforged : Api.Unforged access (.start now agents) steps)
    (ran : run (Api.step access) (.start now agents) steps = some s) {row : Entry ApiRequest}
    (member : row ∈ s.requests.rows) {agent : Option (Entry AgentAccount)}
    (handling : row.val.stage = .handling agent)
    (guarded : row.val.call.endpoint.isPublic = false) :
    ∃ agent', agent = some agent' ∧
      Api.Admission access (.start now agents) row.id row.val.call.endpoint agent' steps := by
  have noted := Api.recorded_run ran row member
  rw [handling] at noted
  cases agent with
  | none => exact absurd (guarded.symm.trans noted) Bool.false_ne_true
  | some agent =>
      obtain ⟨⟨claims, presented, own⟩, found, active, admitted⟩ := noted
      refine ⟨agent, rfl, ?_, found, active, admitted⟩
      obtain ⟨before, _, after, s', rfl, ran', token, call, rfl, next, verified⟩ := presented
      obtain ⟨payload, valid, rfl⟩ := Option.map_eq_some_iff.mp verified
      obtain ⟨decoded, unexpired⟩ := Option.filter_eq_some_iff.mp valid
      obtain ⟨claims', signed, issued, rfl⟩ :=
        unforged before token call after payload rfl decoded
      obtain ⟨sub, role⟩ := claims'
      obtain rfl : sub = agent.id := own
      exact ⟨before, token, call, after, s', role, signed, rfl, ran', next, issued,
        of_decide_eq_true unexpired, issued.loggedIn⟩

/-! ### An administrator logs in -/

namespace Api

theorem unforged_nil {access : Access} {s₀ : Api} : Unforged access s₀ [] :=
  fun _ _ _ _ _ split => absurd split (List.append_ne_nil_of_right_ne_nil _ (List.cons_ne_nil _ _)).symm

/-- A step in which no token arrives, or one that has been sent to a client. -/
theorem Unforged.concat {access : Access} {s₀ : Api} {steps : List Step}
    (unforged : Unforged access s₀ steps) (a : Step)
    (sent : ∀ token call payload, a = .arrives (some token) call →
      access.jwtDecode token access.jwtSecret = some payload →
        ∃ claims signed, Issued access s₀ token claims signed steps ∧
          payload = Access.payload signed claims) : Unforged access s₀ (steps ++ [a]) := by
  intro before token call after payload split decoded
  rcases List.eq_nil_or_concat after with rfl | ⟨after, b, rfl⟩
  · obtain ⟨rfl, last⟩ := List.append_inj' split rfl
    exact sent token call payload (List.cons.inj last).1 decoded
  · rw [List.concat_eq_append, ← List.cons_append, ← List.append_assoc] at split
    exact unforged before token call after payload (List.append_inj' split rfl).1 decoded

end Api

namespace FirstLogin

def now : Time := 1700000000000

def token : String :=
  "eyJhbGciOiJIUzI1NiIsInR5cCI6IkpXVCJ9" ++
    ".eyJzdWIiOiIwIiwicm9sZSI6ImFkbWluIiwiaWF0IjoxNzAwMDAwMDAwLCJleHAiOjE3MDA2MDQ4MDB9" ++
    ".Rb36ZXX_lQuwg1916V7oYhTukrlySuIDWZ95423ahmk"

def claims : SessionClaims := ⟨0, .admin⟩

/-- The token is the one that is signed with this secret. -/
def access : Access where
  telegram := .sample
  jwtSecret := "secret"
  production := true
  jwtSign payload secret :=
    if payload = Access.payload now claims ∧ secret = "secret" then token else ""
  jwtDecode text secret :=
    if text = token ∧ secret = "secret" then some (Access.payload now claims) else none

theorem sign_claims : access.jwtSign (Access.payload now claims) "secret" = token := by
  simp [access]

theorem decode_token : access.jwtDecode token "secret" = some (Access.payload now claims) := by
  simp [access]

def agents : Table AgentAccount.key :=
  ((Table.empty : Table AgentAccount.key).put ⟨8, "A", none, .admin, true⟩ rfl).put
    ⟨7, "B", none, .agent, true⟩ rfl

/-- The administrator logs in with the widget, and an hour later makes the other agent a lead. -/
def steps : List Api.Step :=
  [.arrives none (.telegramCallback .lastNameOfTwoLines), .reads 0, .resumes 0, .passes 3600000,
    .arrives (some token) (.updateAgent 1 { role := some .lead }), .reads 1, .resumes 1]

def admin : Entry AgentAccount := ⟨0, ⟨8, "A", none, .admin, true⟩⟩

/-- What there is to see of a request. -/
def seen (s : Api) : List (ℕ × Endpoint × Stage) :=
  s.requests.rows.map fun row => (row.id, row.val.call.endpoint, row.val.stage)

set_option maxRecDepth 20000 in
theorem run_login : (run (Api.step access) (.start now agents) (steps.take 2)).map
    (fun s => (s.now, seen s)) =
      some (now, [(0, .auth_telegramCallback, .identified (some admin))]) := by
  decide

set_option maxRecDepth 20000 in
theorem run_steps : (run (Api.step access) (.start now agents) steps).map seen =
    some [(0, .auth_telegramCallback, .done (.session token admin)),
      (1, .agents_update, .handling (some admin))] := by
  decide

theorem issued : Api.Issued access (.start now agents) token claims now (steps.take 4) := by
  obtain ⟨s, ran, shown⟩ := Option.map_eq_some_iff.mp run_login
  obtain ⟨clock, shown⟩ := Prod.mk.inj shown
  have first : (0, Endpoint.auth_telegramCallback, Stage.identified (some admin)) ∈ seen s :=
    shown ▸ List.mem_cons_self
  obtain ⟨row, member, same⟩ := List.mem_map.mp first
  obtain ⟨same, same'⟩ := Prod.mk.inj same
  refine ⟨steps.take 2, .resumes 0, [.passes 3600000], s, rfl, ran, 0, row, admin, rfl, ?_,
    (Prod.mk.inj same').2, rfl, clock, rfl, ?_⟩
  · rw [← same]
    exact Table.find?_self member
  · exact sign_claims.symm

theorem unforged : Api.Unforged access (.start now agents) steps := by
  have start : Api.Unforged access (.start now agents) (steps.take 4) := by
    refine (((Api.unforged_nil.concat _ ?_).concat _ ?_).concat _ ?_).concat _ ?_
    all_goals rintro token call payload ⟨⟩
  refine ((start.concat _ fun token' call payload same decoded => ?_).concat _ ?_).concat _ ?_
  · obtain ⟨rfl, -⟩ : token = token' ∧ _ = call := by simpa using same
    refine ⟨claims, now, issued, ?_⟩
    exact (Option.some.inj (decode_token.symm.trans decoded)).symm
  all_goals rintro token call payload ⟨⟩

end FirstLogin

/-- The administrator is let through to the handler of `PATCH /agents/:id`. -/
theorem handled_of_login_first : ∃ s row, run (Api.step FirstLogin.access)
    (.start FirstLogin.now FirstLogin.agents) FirstLogin.steps = some s ∧
      row ∈ s.requests.rows ∧ row.val.stage = .handling (some FirstLogin.admin) ∧
        Api.Admission FirstLogin.access (.start FirstLogin.now FirstLogin.agents) row.id
          row.val.call.endpoint FirstLogin.admin FirstLogin.steps := by
  obtain ⟨s, ran, shown⟩ := Option.map_eq_some_iff.mp FirstLogin.run_steps
  have second : (1, Endpoint.agents_update, Stage.handling (some FirstLogin.admin)) ∈
      FirstLogin.seen s := shown ▸ List.mem_cons_of_mem _ List.mem_cons_self
  obtain ⟨row, member, same⟩ := List.mem_map.mp second
  obtain ⟨endpoint, handling⟩ := Prod.mk.inj (Prod.mk.inj same).2
  obtain ⟨agent, same, admission⟩ := handled_of_login FirstLogin.unforged ran member handling
    (endpoint ▸ rfl)
  obtain rfl := Option.some.inj same
  exact ⟨s, row, ran, member, handling, admission⟩

/-! ## Administrators -/

namespace Api

variable {access : Access} {s s' : Api} {steps : List Step} {a : Step}

/-- An active administrator. -/
def IsAdmin (agent : Entry AgentAccount) : Prop :=
  agent.val.isActive = true ∧ agent.val.role = .admin

theorem written_of_other {call : ApiCall} (other : call.endpoint ≠ .agents_update) :
    s.written call = s.agents := by
  cases call with
  | updateAgent id body => exact absurd rfl other
  | _ => rfl

/-- The agents are written in the work of a handler only. -/
theorem agents_step (taken : s.step access a = some s') :
    s'.agents = s.agents ∨ ∃ id request agent, a = .works id ∧
      s.requests.find? id = some ⟨id, request⟩ ∧ request.stage = .handling agent ∧
        request.call.endpoint = .agents_update := by
  cases a with
  | arrives token call =>
      obtain rfl := Option.some.inj taken
      exact .inl rfl
  | reads id =>
      obtain ⟨-, -, -, -, -, same, -⟩ := advance_eq_some taken
      exact .inl same
  | resumes id =>
      obtain ⟨-, -, -, -, -, same, -⟩ := advance_eq_some taken
      exact .inl same
  | fails id =>
      obtain ⟨-, -, -, -, -, same, -⟩ := advance_eq_some taken
      exact .inl same
  | works id =>
      obtain ⟨request, s₁, agent, found, handling, -, rfl⟩ := works_eq_some taken
      by_cases update : request.call.endpoint = .agents_update
      · exact .inr ⟨id, request, agent, rfl, found, handling, update⟩
      · exact .inl (written_of_other update)
  | passes milliseconds =>
      obtain rfl := Option.some.inj taken
      exact .inl rfl

end Api

/-- **Only administrators change agents.** In every run, whatever tokens the clients present, a step
that changes the agents is the work of a request whose agent was an active administrator when it
was looked up. -/
theorem agents_changed_by_admin {access : Access} {now : Time} {agents : Table AgentAccount.key}
    {steps : List Api.Step} {s s' : Api} {a : Api.Step}
    (ran : run (Api.step access) (.start now agents) steps = some s)
    (taken : s.step access a = some s') (changed : s'.agents ≠ s.agents) :
    ∃ id admin, a = .works id ∧ Api.IsAdmin admin ∧
      Api.FoundAgent access (.start now agents) id admin steps := by
  obtain ⟨id, request, agent, rfl, found, handling, update⟩ :=
    (Api.agents_step taken).resolve_left changed
  have noted := Api.recorded_run ran _ (Table.mem_of_find? found)
  simp only [handling, update] at noted
  cases agent with
  | none => cases noted
  | some admin =>
      refine ⟨id, admin, rfl, ⟨noted.active, ?_⟩, noted.found⟩
      simpa [Endpoint.admits, Endpoint.required, Endpoint.roles] using noted.admitted

set_option maxRecDepth 20000 in
theorem agents_changed_first : ∃ s s', run (Api.step FirstLogin.access)
    (.start FirstLogin.now FirstLogin.agents) FirstLogin.steps = some s ∧
      s.step FirstLogin.access (.works 1) = some s' ∧ s'.agents ≠ s.agents ∧
      ∃ id admin, Api.Step.works 1 = .works id ∧ Api.IsAdmin admin ∧
        Api.FoundAgent FirstLogin.access (.start FirstLogin.now FirstLogin.agents) id admin
          FirstLogin.steps := by
  have roles : (run (Api.step FirstLogin.access) (.start FirstLogin.now FirstLogin.agents)
      FirstLogin.steps).bind (fun s => (s.step FirstLogin.access (.works 1)).map fun s' =>
        (s.agents.rows.map (·.val.role), s'.agents.rows.map (·.val.role))) =
      some ([.admin, .agent], [.admin, .lead]) := by decide
  obtain ⟨s, ran, worked⟩ := Option.bind_eq_some_iff.mp roles
  obtain ⟨s', taken, differ⟩ := Option.map_eq_some_iff.mp worked
  obtain ⟨before, after⟩ := Prod.mk.inj differ
  have changed : s'.agents ≠ s.agents := by
    intro same
    rw [same, before] at after
    exact absurd after (by decide)
  exact ⟨s, s', ran, taken, changed, agents_changed_by_admin ran taken changed⟩

/-- **Without an administrator nothing changes.** From agents among whom there is no active
administrator every run leads to the same agents: nobody gets or loses a role, and nobody is
activated or deactivated. -/
theorem agents_without_admin {access : Access} {now : Time} {agents : Table AgentAccount.key}
    (none : ∀ row ∈ agents.rows, ¬ Api.IsAdmin row) {steps : List Api.Step} {s : Api}
    (ran : run (Api.step access) (.start now agents) steps = some s) : s.agents = agents := by
  induction length : steps.length using Nat.strong_induction_on generalizing steps s with
  | _ n ih =>
    rcases List.eq_nil_or_concat steps with rfl | ⟨before, a, rfl⟩
    · obtain rfl := Option.some.inj ran
      rfl
    · rw [List.concat_eq_append] at ran length
      rw [run_concat] at ran
      obtain ⟨s₁, ran₁, taken⟩ := Option.bind_eq_some_iff.mp ran
      rw [List.length_append, List.length_singleton] at length
      have same := ih before.length (by omega) ran₁ rfl
      by_contra changed
      have changed' : s.agents ≠ s₁.agents := same ▸ changed
      obtain ⟨id, admin, -, isAdmin, looked⟩ := agents_changed_by_admin ran₁ taken changed'
      obtain ⟨earlier, b, after, s₂, rfl, ran₂, -, found⟩ := looked
      -- The administrator was found in a state with the same agents.
      rw [List.length_append, List.length_cons] at length
      rw [ih earlier.length (by omega) ran₂ rfl] at found
      exact none admin (Table.mem_of_find? found) isAdmin

/-- A lead alone, who tries what the administrator did. -/
def loneLead : Table AgentAccount.key :=
  (Table.empty : Table AgentAccount.key).put ⟨8, "A", none, .lead, true⟩ rfl

set_option maxRecDepth 20000 in
theorem agents_without_admin_lead : ∃ s, run (Api.step FirstLogin.access)
    (.start FirstLogin.now loneLead) FirstLogin.steps = some s ∧ s.agents = loneLead := by
  have ran : (run (Api.step FirstLogin.access) (.start FirstLogin.now loneLead)
      FirstLogin.steps).isSome := by decide
  obtain ⟨s, ran⟩ := Option.isSome_iff_exists.mp ran
  refine ⟨s, ran, agents_without_admin (fun row member isAdmin => ?_) ran⟩
  obtain rfl := List.mem_singleton.mp member
  exact absurd isAdmin.2 (by decide)

end SupportCrm
