import Chatterbox.Auth.RefreshToken

/-!
The commands of the auth module: signup, signin, refresh and logout. Signing,
verifying and hashing belong to packages and are parameters; the calls into the
user module run its own handlers.
-/
namespace Chatterbox
open Concurrency

structure AccessTokenPayload where
  sub : Uuid
  role : UserRole
  iat : Time
  exp : Time
  deriving DecidableEq, Repr

structure RefreshTokenPayload where
  sub : Uuid
  jti : Uuid
  iat : Time
  exp : Time
  deriving DecidableEq, Repr

/-- The jsonwebtoken package under one pair of keys. A token that is malformed, has
    another signature or has expired does not verify. -/
structure JwtService (Payload : Type) where
  signAsync : Payload → Except Failure JsString
  verifyAsync : JsString → Time → Option Payload

structure AuthEnv where
  accessKeys : JwtService AccessTokenPayload
  refreshKeys : JwtService RefreshTokenPayload
  bcrypt : Bcrypt
  isEmail : JsString → Bool

/-- Seconds since the epoch, the unit of `iat` and `exp`. -/
def seconds (now : Time) : Nat := now / 1000

namespace TokenService

def signAccessToken (env : AuthEnv) (now : Time) (userId : Uuid) (role : UserRole) :
    Except Failure JsString :=
  env.accessKeys.signAsync
    { sub := userId, role, iat := seconds now, exp := seconds now + 24 * 60 * 60 }

structure SignRefreshTokenDto where
  token : JsString
  jti : Uuid

def refreshPayload (now : Time) (userId jti : Uuid) : RefreshTokenPayload :=
  { sub := userId, jti, iat := seconds now, exp := seconds now + 7 * 24 * 60 * 60 }

def signRefreshToken (env : AuthEnv) (now : Time) (jti userId : Uuid) :
    Except Failure SignRefreshTokenDto := do
  let token ← env.refreshKeys.signAsync (refreshPayload now userId jti)
  return { token, jti }

def verifyRefreshToken (env : AuthEnv) (now : Time) (token : JsString) :
    Option RefreshTokenPayload :=
  env.refreshKeys.verifyAsync token now

end TokenService

structure AuthUser where
  id : Uuid
  role : UserRole
  firstName : Option JsString
  lastName : Option JsString
  createdAt : Time

/-- A handler of the user module, called over the bus. -/
def viaUserBus {α : Type} (p : UserProgram α) : AuthProgram α := p.translate .user id

namespace UserIntegrationAdapter

def createUser (env : AuthEnv) (amb : Ambient) (data : CreateUserCommand) :
    AuthProgram AuthUser := do
  let res ← viaUserBus (CreateUserHandler.execute env.bcrypt amb data)
  return { id := res.id, role := res.role, firstName := some res.firstName,
           lastName := some res.lastName, createdAt := res.createdAt }

def toAuthUser (res : UserReadDto) : AuthUser :=
  { id := res.id, role := res.role, firstName := res.firstName, lastName := res.lastName,
    createdAt := res.createdAt }

def validatePassword (env : AuthEnv) (property password : JsString) : AuthProgram AuthUser := do
  let res ← viaUserBus (ValidatePasswordHandler.execute env.isEmail env.bcrypt property password)
  return toAuthUser res

/-- The query behind it throws when there is no such user. -/
def getUserById (userId : Uuid) : AuthProgram (Option AuthUser) := do
  let res ← viaUserBus (GetUserByIdHandler.execute userId)
  return some (toAuthUser res)

end UserIntegrationAdapter

def invalidRefreshTokenException (reason : Option String) : Failure :=
  .domain ⟨withReason "Refresh token is invalid or expired" reason,
    "AUTH_INVALID_REFRESH_TOKEN", .unauthorized⟩

def tokenGenerationException (reason : String) : Failure :=
  .domain ⟨withReason "Failed to generate token" (some reason), "AUTH_TOKEN_GENERATION_FAILED",
    .internalError⟩

structure RefreshTokensOutput where
  accessToken : JsString
  refreshToken : JsString
  deriving DecidableEq, Repr

/-- The random values of one issue of a token: its jti, then the id of its row. -/
def issueToken (env : AuthEnv) (amb : Ambient) (userId : Uuid) (role : UserRole) :
    Except Failure (RefreshTokensOutput × RefreshTokenEntity) := do
  let accessToken ← TokenService.signAccessToken env amb.now userId role
  let refreshTokenDto ← TokenService.signRefreshToken env amb.now (amb.uuid 0) userId
  let hashed ← env.bcrypt.hash refreshTokenDto.token (amb.salt 0)
  let entity ← RefreshTokenEntity.create (amb.uuid 1) amb.now userId hashed refreshTokenDto.jti
  return ({ accessToken, refreshToken := refreshTokenDto.token }, entity)

namespace RefreshTokensHandler

/-- The second half of the handler, for a token that was accepted. -/
def exchange (env : AuthEnv) (amb : Ambient) (sub : Uuid)
    (currentTokenEntity : RefreshTokenEntity) : AuthProgram RefreshTokensOutput := do
  let some user ← UserIntegrationAdapter.getUserById sub
    | throw (invalidRefreshTokenException (some "User not found"))
  let tokenToRevoke := currentTokenEntity.revoke amb.now
  let (output, newToken) ← issueToken env amb user.id user.role
  try AuthPostgresRepository.rotateRefreshToken tokenToRevoke newToken
  catch _ => throw (tokenGenerationException "Failed to save new refresh token")
  return output

def execute (env : AuthEnv) (amb : Ambient) (refreshToken : JsString) :
    AuthProgram RefreshTokensOutput := do
  let some payload := TokenService.verifyRefreshToken env amb.now refreshToken
    | throw (invalidRefreshTokenException (some "Invalid refresh token signature"))
  let some currentTokenEntity ←
      AuthPostgresRepository.getRefreshTokenIncludingDeleted payload.jti payload.sub
    | throw (invalidRefreshTokenException none)
  if currentTokenEntity.deletedAt ≠ none then
    let _ ← AuthPostgresRepository.revokeAllRefreshTokens amb.now payload.sub
    throw (invalidRefreshTokenException
      (some "Revoked token reuse detected; all sessions terminated"))
  else if !env.bcrypt.compare refreshToken currentTokenEntity.token then
    throw (invalidRefreshTokenException none)
  else exchange env amb payload.sub currentTokenEntity

end RefreshTokensHandler

structure LogoutCommand where
  userId : Uuid
  refreshToken : Option JsString
  allDevices : Bool

/-- Only a token that does not verify is caught: the promise of the single revocation
    is returned, not awaited. -/
def LogoutHandler.execute (env : AuthEnv) (now : Time) (command : LogoutCommand) :
    AuthProgram Bool :=
  match command.allDevices, command.refreshToken.filter (· ≠ []) with
  | false, some refreshToken =>
    match TokenService.verifyRefreshToken env now refreshToken with
    | some payload => AuthPostgresRepository.revokeRefreshToken now payload.jti command.userId
    | none => AuthPostgresRepository.revokeAllRefreshTokens now command.userId
  | _, _ => AuthPostgresRepository.revokeAllRefreshTokens now command.userId

structure SigninCommand where
  property : JsString
  password : JsString

structure SigninResponse where
  user : AuthUser
  tokens : RefreshTokensOutput

def SigninHandler.execute (env : AuthEnv) (amb : Ambient) (command : SigninCommand) :
    AuthProgram SigninResponse := do
  let user ← UserIntegrationAdapter.validatePassword env command.property command.password
  let (tokens, rtDomain) ← issueToken env amb user.id user.role
  try
    let _ ← AuthPostgresRepository.save rtDomain
  catch _ => throw (tokenGenerationException "Failed to create token; please sign in again")
  return { user, tokens }

structure SignupCommand where
  email : JsString
  password : Option JsString
  firstName : Option JsString
  lastName : Option JsString

structure SignupResponse where
  id : Uuid
  tokens : RefreshTokensOutput
  createdAt : Time

def SignupHandler.execute (env : AuthEnv) (amb : Ambient) (command : SignupCommand) :
    AuthProgram SignupResponse := do
  let createUserRes ← UserIntegrationAdapter.createUser env amb
    { email := command.email, username := none, password := command.password,
      firstName := command.firstName, lastName := command.lastName, avatar := none }
  let (tokens, refreshToken) ← issueToken env (amb.skip 1) createUserRes.id .user
  try
    let _ ← AuthPostgresRepository.save refreshToken
  catch _ =>
    Program.request (.token (.publishSignupFailed createUserRes.id)) Program.done
    throw (tokenGenerationException "Failed to create token; please sign in again")
  return { id := createUserRes.id, tokens, createdAt := createUserRes.createdAt }

/-- Verification accepts a token for so many seconds after its date. -/
def AuthModule.clockTolerance : Nat := 15

/-- Packages to evaluate the handlers with: a token spells out its payload, a hash its
    salt and its text. -/
def plainEnv : AuthEnv where
  accessKeys :=
    { signAsync := fun p => .ok [p.sub, p.iat, p.exp]
      verifyAsync := fun token now => match token with
        | [sub, iat, exp] =>
            if seconds now < exp + AuthModule.clockTolerance then some ⟨sub,.user,iat,exp⟩
            else none
        | _ => none }
  refreshKeys :=
    { signAsync := fun p => .ok [p.sub, p.jti, p.iat, p.exp]
      verifyAsync := fun token now => match token with
        | [sub, jti, iat, exp] =>
            if seconds now < exp + AuthModule.clockTolerance then some ⟨sub,jti,iat,exp⟩
            else none
        | _ => none }
  bcrypt :=
    { hash := fun text salt => .ok (salt :: text)
      compare := fun text hash => match hash with
        | _ :: rest => text = rest
        | [] => false }
  isEmail := fun text => 0x40 ∈ text

def noUsers : AuthDatabase :=
  { users := { users := [], blocks := [], published := [] }, refreshTokens := [],
    signupFailed := [] }

end Chatterbox
