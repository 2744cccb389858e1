import Mathlib.Logic.Basic
import SupportCrm.Gateway

/-!
# Settled handshakes

`handleConnection` ends a handshake by noting the agent or by disconnecting the client, unless
it throws. With a database that answers it throws only where `decodeURIComponent` does, which is
before anything is checked: where the cookie has a value that is not well formed
(`handshake_settled_iff`).
-/

set_option autoImplicit false

namespace SupportCrm

open Characters KeyedTable

/-! ## Percent-encoding -/

/-- Text in which every `%` begins the escape sequences of a character. -/
inductive PercentEncoded : List Char → Prop where
  | nil : PercentEncoded []
  | plain {c : Char} {rest : List Char} (ne : c ≠ '%') (encoded : PercentEncoded rest) :
      PercentEncoded (c :: rest)
  | escaped {c : Char} {text rest : List Char}
      (escapes : escapedChar ('%' :: text) = some (c, rest)) (encoded : PercentEncoded rest) :
      PercentEncoded ('%' :: text)

theorem length_escapedByte {text rest : List Char} {byte : ℕ}
    (escapes : escapedByte text = some (byte, rest)) : rest.length < text.length := by
  unfold escapedByte at escapes
  split at escapes
  · next high low rest' =>
    simp only [Option.bind_eq_bind, Option.bind_eq_some_iff, Option.some.injEq, Prod.mk.injEq]
      at escapes
    obtain ⟨_, -, _, -, -, rfl⟩ := escapes
    simp only [List.length_cons]
    omega
  · cases escapes

theorem length_continuationBytes {more point point' : ℕ} {text rest : List Char}
    (continues : continuationBytes more point text = some (point', rest)) :
    rest.length ≤ text.length := by
  induction more generalizing point text with
  | zero =>
      cases continues
      exact le_refl _
  | succ more ih =>
      simp only [continuationBytes, Option.bind_eq_bind, Option.bind_eq_some_iff] at continues
      obtain ⟨⟨byte, rest'⟩, escapes, continues⟩ := continues
      split at continues
      · exact (ih continues).trans (length_escapedByte escapes).le
      · cases continues

/-- An escaped character takes up some text. -/
theorem length_escapedChar {text rest : List Char} {c : Char}
    (escapes : escapedChar text = some (c, rest)) : rest.length < text.length := by
  simp only [escapedChar, Option.bind_eq_bind, Option.bind_eq_some_iff] at escapes
  obtain ⟨⟨byte, rest₁⟩, escaped, ⟨more, bits, least⟩, -, ⟨point, rest₂⟩, continues, escapes⟩ :=
    escapes
  split at escapes
  · cases escapes
    exact (length_continuationBytes continues).trans_lt (length_escapedByte escaped)
  · cases escapes

theorem percentEncoded_plain_iff {c : Char} {rest : List Char} (plain : c ≠ '%') :
    PercentEncoded (c :: rest) ↔ PercentEncoded rest := by
  refine ⟨fun encoded => ?_, .plain plain⟩
  cases encoded with
  | plain _ encoded => exact encoded
  | escaped _ _ => exact absurd rfl plain

/-- After a `%` it depends on the sequences that follow, and on the text after them. -/
theorem percentEncoded_escaped_iff {text : List Char} :
    PercentEncoded ('%' :: text) ↔
      ∃ c rest, escapedChar ('%' :: text) = some (c, rest) ∧ PercentEncoded rest := by
  constructor
  · intro encoded
    cases encoded with
    | plain ne _ => exact absurd rfl ne
    | escaped escapes encoded => exact ⟨_, _, escapes, encoded⟩
  · rintro ⟨c, rest, escapes, encoded⟩
    exact .escaped escapes encoded

theorem decode_plain {fuel : ℕ} {c : Char} {rest : List Char} (plain : c ≠ '%') :
    decodeURIComponent.decode (fuel + 1) (c :: rest) =
      (decodeURIComponent.decode fuel rest).map (c :: ·) := by
  rw [decodeURIComponent.decode]
  · cases decodeURIComponent.decode fuel rest <;> rfl
  · exact plain

theorem decode_escaped {fuel : ℕ} {text : List Char} :
    decodeURIComponent.decode (fuel + 1) ('%' :: text) =
      (escapedChar ('%' :: text)).bind fun found =>
        (decodeURIComponent.decode fuel found.2).map (found.1 :: ·) := by
  rw [decodeURIComponent.decode]
  cases escapedChar ('%' :: text) with
  | none => rfl
  | some found =>
      obtain ⟨c, rest⟩ := found
      cases decoded : decodeURIComponent.decode fuel rest <;> simp [decoded]

/-- The fuel is enough, and the decoding succeeds on what is well formed. -/
theorem isSome_decode_iff {fuel : ℕ} {text : List Char} (enough : text.length ≤ fuel) :
    (decodeURIComponent.decode fuel text).isSome ↔ PercentEncoded text := by
  induction fuel generalizing text with
  | zero =>
      obtain rfl := List.length_eq_zero_iff.mp (Nat.le_zero.mp enough)
      exact iff_of_true rfl .nil
  | succ fuel ih =>
      cases text with
      | nil => exact iff_of_true rfl .nil
      | cons c rest =>
          by_cases percent : c = '%'
          · subst percent
            rw [decode_escaped, percentEncoded_escaped_iff, Option.isSome_bind,
              Option.any_eq_true, Prod.exists]
            refine exists₂_congr fun c rest' => and_congr_right fun escapes => ?_
            -- The characters of the escape sequences pay for the step.
            have left : rest'.length ≤ fuel :=
              Nat.le_of_lt_succ ((length_escapedChar escapes).trans_le enough)
            rw [Option.isSome_map, ih left]
          · rw [decode_plain percent, percentEncoded_plain_iff percent, Option.isSome_map]
            exact ih (Nat.le_of_succ_le_succ enough)

/-- **`decodeURIComponent` throws exactly on text that is not well formed.** -/
theorem isSome_decodeURIComponent_iff (text : List Char) :
    (decodeURIComponent text).isSome ↔ PercentEncoded text :=
  isSome_decode_iff (le_refl text.length)

/-! ## The cookie of a header -/

/-- The value of a cookie as it stands in the header: of the first part that begins with its
name. -/
def rawCookie (cookieHeader : Option String) (name : String) : Option (List Char) :=
  cookieHeader.bind fun cookieHeader =>
    (((cookieHeader.toList.splitOn ';').map trim).find? fun part =>
      (name.toList ++ ['=']).isPrefixOf part).map fun part => part.drop (name.length + 1)

theorem extractCookie_of_none {cookieHeader : Option String} {name : String}
    (absent : rawCookie cookieHeader name = none) : extractCookie cookieHeader name = .ok none := by
  cases cookieHeader with
  | none => rfl
  | some cookieHeader =>
      have found := Option.map_eq_none_iff.mp absent
      simp only [extractCookie, found]

theorem extractCookie_of_some {cookieHeader : Option String} {name : String} {value : List Char}
    (present : rawCookie cookieHeader name = some value) :
    extractCookie cookieHeader name =
      match decodeURIComponent value with
      | none => .error .uriMalformed
      | some decoded => .ok (some (String.ofList decoded)) := by
  cases cookieHeader with
  | none => cases present
  | some cookieHeader =>
      obtain ⟨part, found, rfl⟩ := Option.map_eq_some_iff.mp present
      cases decoded : decodeURIComponent (part.drop (name.length + 1)) with
      | none => simp only [extractCookie, found, decoded]
      | some text => simp only [extractCookie, found, decoded]

/-- Reading the cookie throws exactly where its value is not well formed. -/
theorem extractCookie_ok_iff (cookieHeader : Option String) (name : String) :
    (∃ token, extractCookie cookieHeader name = .ok token) ↔
      ∀ value, rawCookie cookieHeader name = some value → PercentEncoded value := by
  cases raw : rawCookie cookieHeader name with
  | none => exact iff_of_true ⟨none, extractCookie_of_none raw⟩ nofun
  | some value =>
      simp only [extractCookie_of_some raw, Option.some.injEq, forall_eq',
        ← isSome_decodeURIComponent_iff]
      cases decodeURIComponent value <;> simp

/-! ## The whole handshake -/

namespace TicketsGateway

/-- `handleConnection` to its end, when the database answers with what it holds. -/
def handshake (service : SessionService) (now : Time) (agents : Table Agent.key)
    (cookieHeader : Option String) : Socket :=
  let client := handleConnection service now cookieHeader
  match client.reads agents with
  | none => client
  | some client => client.resumes.getD client

end TicketsGateway

section

variable (service : SessionService) (now : Time) (agents : Table Agent.key)
variable (cookieHeader : Option String)

/-- `client.data.agentId` is an active agent, whom a valid session token names in the cookie with
the configured name. -/
def NotesAgent (client : Socket) : Prop :=
  ∃ token claims agent, extractCookie cookieHeader service.cookieName = .ok (some token) ∧
    token ≠ "" ∧ service.verify now token = some claims ∧ agents.find? claims.sub = some agent ∧
    agent.val.isActive = true ∧ client.agentId = some agent.id

/-- The handshake has ended without an exception, and in exactly one of the two ways. -/
def Settled (client : Socket) : Prop :=
  client.check.unsettled = false ∧
    Xor (NotesAgent service now agents cookieHeader client) (client.connected = false)

variable {service now agents cookieHeader}

theorem claims_eq_some {claims : SessionClaims}
    (named : service.claims now cookieHeader = .ok (some claims)) :
    ∃ token, extractCookie cookieHeader service.cookieName = .ok (some token) ∧ token ≠ "" ∧
      service.verify now token = some claims := by
  unfold SessionService.claims at named
  cases cookie : extractCookie cookieHeader service.cookieName with
  | error e =>
      rw [cookie] at named
      cases named
  | ok token =>
      rw [cookie] at named
      cases token with
      | none => cases named
      | some token =>
          have verified := Except.ok.inj named
          split at verified
          · cases verified
          · next filled => exact ⟨token, rfl, filled, verified⟩

/-- The claims are there whenever the cookie is read. -/
theorem claims_ok_iff (service : SessionService) (now : Time) (cookieHeader : Option String) :
    (∃ claims, service.claims now cookieHeader = .ok claims) ↔
      ∃ token, extractCookie cookieHeader service.cookieName = .ok token := by
  unfold SessionService.claims
  cases extractCookie cookieHeader service.cookieName with
  | error e => exact iff_of_false nofun nofun
  | ok token =>
      refine iff_of_true ?_ ⟨token, rfl⟩
      cases token with
      | none => exact ⟨none, rfl⟩
      | some token => exact ⟨_, rfl⟩

/-- A client that is disconnected is settled. -/
theorem settled_of_refused {client : Socket} (refused : client.check = .refused)
    (disconnected : client.connected = false) : Settled service now agents cookieHeader client := by
  refine ⟨by rw [refused]; rfl, .inr ⟨disconnected, ?_⟩⟩
  rintro ⟨token, claims, agent, -, -, -, -, -, noted⟩
  rw [Socket.agentId, refused] at noted
  cases noted

/-- Once there are claims, the handshake is settled. -/
theorem settled_of_claims {claims : Option SessionClaims}
    (read : service.claims now cookieHeader = .ok claims) :
    Settled service now agents cookieHeader
      (TicketsGateway.handshake service now agents cookieHeader) := by
  unfold TicketsGateway.handshake TicketsGateway.handleConnection
  rw [read]
  cases claims with
  | none => exact settled_of_refused rfl rfl
  | some claims =>
      simp only [Socket.reads, Socket.resumes]
      cases found : agents.find? claims.sub with
      | none => exact settled_of_refused rfl rfl
      | some agent =>
          cases active : agent.val.isActive with
          | false =>
              simp only [active, Bool.false_eq_true, if_false, Option.getD_some]
              exact settled_of_refused rfl rfl
          | true =>
              obtain ⟨token, cookie, filled, verified⟩ := claims_eq_some read
              simp only [active, if_true, Option.getD_some]
              refine ⟨rfl, .inl ⟨?_, nofun⟩⟩
              exact ⟨token, claims, agent, cookie, filled, verified, found, active, rfl⟩

end

/-- **Every handshake is settled unless its cookie is malformed.** Whatever the header, the verdict
on the token and the agents are, with a database that answers `handleConnection` ends without an
exception, and either with an active agent whom the session token of the cookie names or with the
client disconnected, if and only if the value of the cookie with the configured name, where the
header has one, is well-formed percent-encoding. -/
theorem handshake_settled_iff (service : SessionService) (now : Time) (agents : Table Agent.key)
    (cookieHeader : Option String) :
    Settled service now agents cookieHeader
        (TicketsGateway.handshake service now agents cookieHeader) ↔
      ∀ value, rawCookie cookieHeader service.cookieName = some value → PercentEncoded value := by
  rw [← extractCookie_ok_iff, ← claims_ok_iff service now]
  constructor
  · rintro ⟨settled, -⟩
    cases read : service.claims now cookieHeader with
    | ok claims => exact ⟨claims, rfl⟩
    | error e =>
        unfold TicketsGateway.handshake TicketsGateway.handleConnection at settled
        rw [read] at settled
        cases settled
  · rintro ⟨claims, read⟩
    exact settled_of_claims read

/-- A service whose secret verifies nothing. -/
def Sessions.none : SessionService :=
  ⟨"support_crm_session", "secret", fun _ _ _ => .error "invalid token"⟩

/-- A lone `%` makes the handshake throw, and the client stays connected. -/
theorem malformed_cookie_not_settled :
    rawCookie (some "support_crm_session=%") "support_crm_session" = some ['%'] ∧
      (TicketsGateway.handshake Sessions.none 0 Table.empty (some "support_crm_session=%")).check =
        .failed .uriMalformed ∧
      (TicketsGateway.handshake Sessions.none 0 Table.empty
        (some "support_crm_session=%")).connected = true ∧
      ¬ Settled Sessions.none 0 Table.empty (some "support_crm_session=%")
        (TicketsGateway.handshake Sessions.none 0 Table.empty (some "support_crm_session=%")) := by
  refine ⟨by decide, by decide, by decide, fun settled => ?_⟩
  exact absurd settled.1 (by decide)

end SupportCrm
