import Chatterbox.Auth.Handlers

/-!
The guard of the WebSocket gateways. The first event of a socket verifies its access token
and keeps the payload on the socket; the later ones compare the date of expiry in it with
the clock themselves. One event is handled at a time: the promise that events of one socket
share while its token is being verified is not modelled.
-/
namespace Chatterbox

/-- What jsonwebtoken makes of the clock: a token of its keys verifies until the tolerance
    after its date is over. -/
def JwtService.Expires {Payload : Type} (keys : JwtService Payload) (exp : Payload → Time)
    (clockTolerance : Nat) : Prop :=
  ∃ decode : JsString → Option Payload, ∀ token now, keys.verifyAsync token now =
    (decode token).filter fun p => decide (seconds now < exp p + clockTolerance)

def TokenService.verifyAccessToken (env : AuthEnv) (now : Time) (token : JsString) :
    Option AccessTokenPayload :=
  env.accessKeys.verifyAsync token now

def VerifyAccessTokenHandler.execute (env : AuthEnv) (now : Time) (accessToken : JsString) :
    Except Failure AccessTokenPayload :=
  match TokenService.verifyAccessToken env now accessToken with
  | some payload => .ok payload
  | none => .error (.error "Invalid access token")

structure ValidatedTokenPayload where
  sub : Uuid
  role : UserRole
  exp : Option Time
  deriving DecidableEq, Repr

def AuthIntegrationAdapter.verifyToken (env : AuthEnv) (now : Time) (token : JsString) :
    Except Failure ValidatedTokenPayload :=
  (VerifyAccessTokenHandler.execute env now token).map fun res =>
    { sub := res.sub, role := res.role, exp := some res.exp }

structure ClientData (User : Type) where
  authUser : Option User
  accessToken : Option JsString
  deriving DecidableEq, Repr

/-- The answer to an event that is refused. -/
structure WsAck where
  error : String
  statusCode : Nat
  deriving DecidableEq, Repr

/-- A socket: its two places for a token, and its data, which is null once the session has
    expired. -/
structure WsClient (User : Type) where
  authorization : Option JsString
  authToken : Option JsString
  data : Option (ClientData User)
  connected : Bool
  acks : List WsAck
  deriving DecidableEq, Repr

inductive GuardError where
  | wsException (code : Option String) (message : String)
  | typeError (message : String)
  deriving DecidableEq, Repr

def GuardError.message : GuardError → String
  | .wsException _ message => message
  | .typeError message => message

/-- A guard, by how it verifies a token and where the payload has its date of expiry. -/
structure BaseWsAuthGuard (User : Type) where
  verifyToken : Time → JsString → Except Failure User
  exp : User → Option Time

namespace BaseWsAuthGuard
variable {User : Type} (guard : BaseWsAuthGuard User)

def bearer : JsString := [0x42, 0x65, 0x61, 0x72, 0x65, 0x72]

def extractToken (client : WsClient User) : Option JsString :=
  match (client.authorization.or client.authToken).map (List.splitOn 0x20) with
  | some (type :: tokenValue :: _) => if type = bearer then some tokenValue else none
  | _ => none

/-- The acknowledgement, where the event has asked for one. -/
def unauthorized (ack : Bool) (client : WsClient User) : WsClient User :=
  if ack then { client with acks := client.acks ++ [⟨"Unauthorized",401⟩] } else client

def handleExpiredSession (ack : Bool) (client : WsClient User) :
    Except GuardError Bool × WsClient User :=
  (.error (.wsException "UNAUTHENTICATED" "Unauthorized"),
    { unauthorized ack client with data := none, connected := false })

def authenticateUser (now : Time) (client : WsClient User) :
    Except GuardError User × WsClient User :=
  match client.data with
  | none => (.error (.typeError "Cannot read properties of null (reading 'authUser')"), client)
  | some data => match data.authUser with
    | some user => (.ok user, client)
    | none => match (extractToken client).filter (· ≠ []) with
      | none => (.error (.wsException none "Unauthorized"), client)
      | some accessToken => match guard.verifyToken now accessToken with
        | .ok verifyRes => (.ok verifyRes,
            { client with data := some { authUser := verifyRes, accessToken } })
        | .error _ => (.error (.wsException none "Unauthorized"), client)

def expired (now : Time) (authUser : User) : Bool :=
  match guard.exp authUser with
  -- a date of 0 counts as none
  | some exp => exp ≠ 0 && now > exp * 1000
  | none => false

def canActivate (now : Time) (ack : Bool) (client : WsClient User) :
    Except GuardError Bool × WsClient User :=
  match client.data with
  | none => (.error (.typeError "Cannot read properties of null (reading 'authUser')"), client)
  | some data => match data.authUser with
    | some authUser =>
        if guard.expired now authUser then handleExpiredSession ack client else (.ok true, client)
    | none => match guard.authenticateUser now client with
      | (.ok _, client) => (.ok true, client)
      | (.error e, client) =>
          (.error (.wsException "UNAUTHENTICATED" e.message), unauthorized ack client)

/-- The event is handed to the gateway. -/
def LetsThrough (now : Time) (ack : Bool) (client : WsClient User) : Prop :=
  (guard.canActivate now ack client).1 = .ok true

instance (now : Time) (ack : Bool) (client : WsClient User) :
    Decidable (guard.LetsThrough now ack client) :=
  decidable_of_iff ((guard.canActivate now ack client).1.toOption = some true) (by
    unfold LetsThrough
    cases (guard.canActivate now ack client).1 <;> simp [Except.toOption])

end BaseWsAuthGuard

def chatWsGuard (env : AuthEnv) : BaseWsAuthGuard ValidatedTokenPayload :=
  ⟨AuthIntegrationAdapter.verifyToken env,ValidatedTokenPayload.exp⟩

def authWsGuard (env : AuthEnv) : BaseWsAuthGuard AccessTokenPayload :=
  ⟨VerifyAccessTokenHandler.execute env,fun payload => some payload.exp⟩

/-- A socket whose token has not been verified. -/
def WsClient.Unverified {User : Type} (client : WsClient User) : Prop :=
  ∃ data, client.data = some data ∧ data.authUser = none

namespace BaseWsAuthGuard
variable {User : Type} {guard : BaseWsAuthGuard User} {fresh cached : WsClient User}
  {user : User} {t : Time}

/-- The first event: the token verifies, and its payload is kept. -/
theorem authenticated (unverified : fresh.Unverified)
    (is : guard.authenticateUser t fresh = (.ok user, cached)) :
    ∃ token, (extractToken fresh).filter (· ≠ []) = some token ∧
      guard.verifyToken t token = .ok user ∧
      cached = { fresh with data := some { authUser := user, accessToken := token } } := by
  obtain ⟨data,holds,none⟩ := unverified
  simp only [authenticateUser, holds, none] at is
  cases extracts : (extractToken fresh).filter (· ≠ []) with
  | none =>
    rw [extracts] at is
    cases is
  | some token =>
    rw [extracts] at is
    dsimp only at is
    cases verified : guard.verifyToken t token with
    | error e =>
      rw [verified] at is
      cases is
    | ok verifyRes =>
      rw [verified] at is
      cases is
      exact ⟨token,rfl,verified,rfl⟩

/-- An event of a socket whose token has not been verified. -/
theorem letsThrough_fresh (unverified : fresh.Unverified) {token : JsString}
    (extracts : (extractToken fresh).filter (· ≠ []) = some token) (now : Time) (ack : Bool) :
    guard.LetsThrough now ack fresh ↔ ∃ user, guard.verifyToken now token = .ok user := by
  obtain ⟨data,holds,none⟩ := unverified
  simp only [LetsThrough, canActivate, authenticateUser, holds, none, extracts]
  cases guard.verifyToken now token <;> simp

/-- An event of a socket that holds a payload. -/
theorem letsThrough_cached {data : ClientData User} (holds : cached.data = some data)
    (authUser : data.authUser = some user) (now : Time) (ack : Bool) :
    guard.LetsThrough now ack cached ↔ guard.expired now user = false := by
  simp only [LetsThrough, canActivate, holds, authUser, handleExpiredSession]
  cases guard.expired now user <;> simp

end BaseWsAuthGuard

/-- The clock stands outside the tolerance after the date. On the socket a date of 0 never
    expires. -/
def OutsideTolerance (exp now : Nat) : Prop :=
  if exp = 0 then now < AuthModule.clockTolerance * 1000
  else now ≤ exp * 1000 ∨ (exp + AuthModule.clockTolerance) * 1000 ≤ now

instance (exp now : Nat) : Decidable (OutsideTolerance exp now) :=
  inferInstanceAs (Decidable (if exp = 0 then now < AuthModule.clockTolerance * 1000
    else now ≤ exp * 1000 ∨ (exp + AuthModule.clockTolerance) * 1000 ≤ now))

/-- Both tests of the clock give the same answer outside the tolerance. -/
theorem outsideTolerance_iff {exp now : Nat} :
    ((exp = 0 ∨ now ≤ exp * 1000) ↔ seconds now < exp + AuthModule.clockTolerance) ↔
      OutsideTolerance exp now := by
  unfold OutsideTolerance seconds AuthModule.clockTolerance
  by_cases never : exp = 0
  · rw [if_pos never]
    omega
  · rw [if_neg never]
    omega

namespace BaseWsAuthGuard
variable {User : Type} {guard : BaseWsAuthGuard User} {env : AuthEnv}

/-- The guard verifies over the bus and keeps the date of the payload. -/
structure Backed (guard : BaseWsAuthGuard User) (env : AuthEnv)
    (view : AccessTokenPayload → User) : Prop where
  verifies : ∀ now token,
    guard.verifyToken now token = (VerifyAccessTokenHandler.execute env now token).map view
  dates : ∀ payload, guard.exp (view payload) = some payload.exp

theorem Backed.verifyToken_ok {view : AccessTokenPayload → User} (backed : guard.Backed env view)
    {now : Time} {token : JsString} {user : User} :
    guard.verifyToken now token = .ok user ↔
      ∃ payload, env.accessKeys.verifyAsync token now = some payload ∧ view payload = user := by
  rw [backed.verifies, VerifyAccessTokenHandler.execute, TokenService.verifyAccessToken]
  cases env.accessKeys.verifyAsync token now <;> simp [Except.map]

/-- With the payload on the socket the guard decides as a fresh verification would. -/
def PathsAgree (guard : BaseWsAuthGuard User) (now : Time) (ack : Bool)
    (fresh cached : WsClient User) : Prop :=
  guard.LetsThrough now ack cached ↔ guard.LetsThrough now ack fresh

theorem Backed.pathsAgree_iff {view : AccessTokenPayload → User} (backed : guard.Backed env view)
    (expires : env.accessKeys.Expires AccessTokenPayload.exp AuthModule.clockTolerance)
    {fresh cached : WsClient User} {user : User} {t : Time} (unverified : fresh.Unverified)
    (is : guard.authenticateUser t fresh = (.ok user, cached)) (now : Time) (ack : Bool) :
    ∃ exp, guard.exp user = some exp ∧
      (guard.PathsAgree now ack fresh cached ↔ OutsideTolerance exp now) := by
  obtain ⟨token,extracts,verified,rfl⟩ := authenticated unverified is
  obtain ⟨decode,clock⟩ := expires
  obtain ⟨payload,accepted,rfl⟩ := backed.verifyToken_ok.mp verified
  rw [clock, Option.filter_eq_some_iff] at accepted
  obtain ⟨decoded,_⟩ := accepted
  refine ⟨payload.exp,backed.dates payload,?_⟩
  have slow : guard.LetsThrough now ack fresh ↔
      seconds now < payload.exp + AuthModule.clockTolerance := by
    rw [letsThrough_fresh unverified extracts]
    simp [backed.verifyToken_ok, clock, decoded, Option.filter]
  have fast : guard.LetsThrough now ack { fresh with
      data := some { authUser := view payload, accessToken := token } } ↔
      (payload.exp = 0 ∨ now ≤ payload.exp * 1000) := by
    rw [letsThrough_cached rfl rfl, expired, backed.dates]
    by_cases never : payload.exp = 0 <;> simp [never]
  rw [PathsAgree, slow, fast]
  exact outsideTolerance_iff

end BaseWsAuthGuard

theorem chatWsGuard_backed (env : AuthEnv) : (chatWsGuard env).Backed env fun payload =>
    { sub := payload.sub, role := payload.role, exp := some payload.exp } :=
  ⟨fun _ _ => rfl,fun _ => rfl⟩

theorem authWsGuard_backed (env : AuthEnv) : (authWsGuard env).Backed env id := by
  refine ⟨fun now token => ?_,fun _ => rfl⟩
  change VerifyAccessTokenHandler.execute env now token = _
  cases VerifyAccessTokenHandler.execute env now token <;> rfl

/-- A socket that holds the payload of its token and one whose token is verified again at that
    instant are treated alike exactly when the clock stands outside the tolerance after the
    date of the token. -/
theorem guard_paths_agree_iff {env : AuthEnv}
    (expires : env.accessKeys.Expires AccessTokenPayload.exp AuthModule.clockTolerance)
    (t now : Time) (ack : Bool) :
    (∀ fresh cached user, fresh.Unverified →
      (chatWsGuard env).authenticateUser t fresh = (.ok user, cached) →
      ∃ exp, user.exp = some exp ∧
        ((chatWsGuard env).PathsAgree now ack fresh cached ↔ OutsideTolerance exp now)) ∧
    ∀ fresh cached payload, fresh.Unverified →
      (authWsGuard env).authenticateUser t fresh = (.ok payload, cached) →
      ((authWsGuard env).PathsAgree now ack fresh cached ↔
        OutsideTolerance payload.exp now) := by
  constructor
  · intro fresh cached user unverified is
    exact (chatWsGuard_backed env).pathsAgree_iff expires unverified is now ack
  · intro fresh cached payload unverified is
    obtain ⟨exp,same,agree⟩ :=
      (authWsGuard_backed env).pathsAgree_iff expires unverified is now ack
    obtain rfl := Option.some.inj same
    exact agree

/-- The payload that an access token spells out. -/
def spelledPayload : JsString → Option AccessTokenPayload
  | [sub, iat, exp] => some ⟨sub,.user,iat,exp⟩
  | _ => none

def expiringEnv : AuthEnv :=
  { plainEnv with
    accessKeys :=
      { signAsync := fun p => .ok [p.sub, p.iat, p.exp]
        verifyAsync := fun token now => (spelledPayload token).filter fun p =>
          decide (seconds now < p.exp + AuthModule.clockTolerance) } }

theorem expiringEnv_expires :
    expiringEnv.accessKeys.Expires AccessTokenPayload.exp AuthModule.clockTolerance :=
  ⟨spelledPayload,fun _ _ => rfl⟩

/-- The socket of user 1, with a token of 5 s that expires a day later. -/
def newSocket : WsClient ValidatedTokenPayload :=
  { authorization := some (BaseWsAuthGuard.bearer ++ [0x20, 1, 5, 86405]), authToken := none
    data := some ⟨none,none⟩, connected := true, acks := [] }

def usedSocket : WsClient ValidatedTokenPayload :=
  { newSocket with data := some ⟨some ⟨1,.user,some 86405⟩,some [1, 5, 86405]⟩ }

theorem newSocket_authenticated : (chatWsGuard expiringEnv).authenticateUser 5000 newSocket =
    (.ok ⟨1,.user,some 86405⟩, usedSocket) := by decide

/-- At the date of the token, to the millisecond, the paths agree. -/
theorem guard_paths_agree_at_date :
    (chatWsGuard expiringEnv).PathsAgree 86405000 false newSocket usedSocket := by
  obtain ⟨exp,is,agree⟩ := (guard_paths_agree_iff expiringEnv_expires 5000 86405000 false).1
    newSocket usedSocket _ ⟨_,rfl,rfl⟩ newSocket_authenticated
  obtain rfl := Option.some.inj is
  exact agree.mpr (by decide)

/-- A millisecond later a fresh verification passes, and the socket is closed. -/
theorem guard_paths_disagree :
    (chatWsGuard expiringEnv).authenticateUser 5000 newSocket =
        (.ok ⟨1,.user,some 86405⟩, usedSocket) ∧
      (chatWsGuard expiringEnv).LetsThrough 86405001 false newSocket ∧
      ¬ (chatWsGuard expiringEnv).LetsThrough 86405001 false usedSocket := by
  refine ⟨newSocket_authenticated,?_,?_⟩ <;> decide

end Chatterbox
