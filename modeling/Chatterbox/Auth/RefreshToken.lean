import Chatterbox.User.Directory

/-!
The refresh tokens of the auth module: the entity, its table and the statements of
the repository. A revocation sets the deletion date; the row stays, and the lookup
that detects reuse sees it.
-/
namespace Chatterbox
open Concurrency Tables

structure RefreshTokenEntity where
  id : Uuid
  createdAt : Time
  updatedAt : Time
  userId : Uuid
  token : JsString
  identifier : Uuid
  deletedAt : Option Time
  tokenPresent : token ≠ []
  deriving DecidableEq

namespace RefreshTokenEntity

/-- The constructor. Of its three checks only the one on the hash can fail: the
    identifiers are uuids. -/
def new (id : Uuid) (createdAt updatedAt : Time) (userId : Uuid) (token : JsString)
    (identifier : Uuid) (deletedAt : Option Time) : Except Failure RefreshTokenEntity :=
  if tokenPresent : token ≠ [] then
    .ok { id, createdAt, updatedAt, userId, token, identifier, deletedAt, tokenPresent }
  else .error (.error "Refresh token must have a token hash")

def create (id : Uuid) (now : Time) (userId : Uuid) (tokenHash : JsString) (identifier : Uuid) :
    Except Failure RefreshTokenEntity :=
  new id now now userId tokenHash identifier none

def revoke (e : RefreshTokenEntity) (now : Time) : RefreshTokenEntity :=
  { e with deletedAt := some now, updatedAt := now }

end RefreshTokenEntity

/-- A row of `auth.refresh_tokens`. -/
structure RefreshToken where
  id : Uuid
  userId : Uuid
  token : JsString
  identifier : Uuid
  createdAt : Time
  updatedAt : Time
  deletedAt : Option Time
  deriving DecidableEq, Repr

namespace RefreshToken

def fromDomain (e : RefreshTokenEntity) : RefreshToken :=
  { id := e.id, userId := e.userId, token := e.token, identifier := e.identifier,
    createdAt := e.createdAt, updatedAt := e.updatedAt, deletedAt := e.deletedAt }

def toDomain (r : RefreshToken) : Except Failure RefreshTokenEntity :=
  RefreshTokenEntity.new r.id r.createdAt r.updatedAt r.userId r.token r.identifier r.deletedAt

/-- The owner and the identifier, by which the repository finds a token. -/
def owned (r : RefreshToken) : Uuid × Uuid := (r.userId, r.identifier)

def revoked (now : Time) (r : RefreshToken) : RefreshToken :=
  { r with deletedAt := some now, updatedAt := now }

theorem toDomain_fromDomain (e : RefreshTokenEntity) : (fromDomain e).toDomain = .ok e := by
  simp [toDomain, fromDomain, RefreshTokenEntity.new, e.tokenPresent]

/-- What was loaded is what the row holds. -/
theorem fromDomain_of_toDomain {r : RefreshToken} {e : RefreshTokenEntity}
    (loaded : r.toDomain = .ok e) : fromDomain e = r := by
  unfold toDomain RefreshTokenEntity.new at loaded
  split at loaded
  · cases loaded
    rfl
  · cases loaded

end RefreshToken

structure AuthDatabase where
  users : UserDatabase
  refreshTokens : List RefreshToken
  /-- The published `SignupFailedEvent`s. -/
  signupFailed : List Uuid
  deriving DecidableEq, Repr

/-- The statements on the token table, and the publication of a failed signup. -/
inductive TokenRequest : Type → Type where
  | getRefreshTokenIncludingDeleted (identifier userId : Uuid) :
      TokenRequest (Answer (Option RefreshToken))
  | saveRefreshToken (row : RefreshToken) : TokenRequest (Answer Unit)
  | rotateRefreshToken (old new : RefreshToken) : TokenRequest (Answer Unit)
  | revokeRefreshToken (identifier userId : Uuid) (now : Time) : TokenRequest (Answer Nat)
  | revokeAllRefreshTokens (userId : Uuid) (now : Time) : TokenRequest (Answer Nat)
  | publishSignupFailed (userId : Uuid) : TokenRequest Unit

inductive AuthRequest (β : Type) : Type where
  | user (q : UserRequest β)
  | token (q : TokenRequest β)

namespace AuthDatabase

/-- `save` of the object mapper under the unique index on the identifier. -/
def storeToken (row : RefreshToken) (rows : List RefreshToken) : Answer (List RefreshToken) :=
  if rows.any (fun r => r.id ≠ row.id && r.identifier = row.identifier) then
    .error ⟨.uniqueViolation, "refresh_tokens_identifier_uniq"⟩
  else .ok (save RefreshToken.id row rows)

/-- A write to the token table: all of it or nothing. -/
def commitTokens (db : AuthDatabase) : Answer (List RefreshToken) → Answer Unit × AuthDatabase
  | .ok rows => (.ok (), { db with refreshTokens := rows })
  | .error e => (.error e, db)

/-- A soft delete, with the number of rows it has dated. A row that is dated already is left. -/
def softDeleteTokens (db : AuthDatabase) (p : RefreshToken → Bool) (now : Time) :
    Answer Nat × AuthDatabase :=
  (.ok (db.refreshTokens.countP (fun r => r.deletedAt.isNone && p r)),
    { db with
      refreshTokens := amend (fun r => r.deletedAt.isNone && p r) (RefreshToken.revoked now)
        db.refreshTokens })

def answerToken : {β : Type} → TokenRequest β → AuthDatabase → β × AuthDatabase
  | _, .getRefreshTokenIncludingDeleted identifier userId, db =>
      (.ok (lookup RefreshToken.owned (userId, identifier) db.refreshTokens), db)
  | _, .saveRefreshToken row, db => db.commitTokens (storeToken row db.refreshTokens)
  | _, .rotateRefreshToken old new, db =>
      db.commitTokens (storeToken old db.refreshTokens >>= storeToken new)
  | _, .revokeRefreshToken identifier userId now, db =>
      db.softDeleteTokens (fun r => r.owned = (userId, identifier)) now
  | _, .revokeAllRefreshTokens userId now, db =>
      db.softDeleteTokens (fun r => r.userId = userId) now
  | _, .publishSignupFailed userId, db =>
      ((), { db with signupFailed := db.signupFailed ++ [userId] })

def answer {β : Type} : AuthRequest β → AuthDatabase → β × AuthDatabase
  | .user q, db => ((userHandler.answer q db.users).1,
      { db with users := (userHandler.answer q db.users).2 })
  | .token q, db => answerToken q db

end AuthDatabase

def authHandler : Handler AuthRequest AuthDatabase := ⟨AuthDatabase.answer⟩

abbrev AuthProgram := Program AuthRequest Failure

namespace AuthPostgresRepository

def save (entity : RefreshTokenEntity) : AuthProgram RefreshTokenEntity := do
  ask (.token (.saveRefreshToken (RefreshToken.fromDomain entity)))
  (RefreshToken.fromDomain entity).toDomain

def getRefreshTokenIncludingDeleted (identifier userId : Uuid) :
    AuthProgram (Option RefreshTokenEntity) := do
  match ← ask (.token (.getRefreshTokenIncludingDeleted identifier userId)) with
  | some row => return some (← row.toDomain)
  | none => return none

/-- One transaction that saves both rows. -/
def rotateRefreshToken (oldToken newToken : RefreshTokenEntity) : AuthProgram Unit :=
  ask (.token (.rotateRefreshToken (RefreshToken.fromDomain oldToken)
    (RefreshToken.fromDomain newToken)))

def revokeRefreshToken (now : Time) (identifier userId : Uuid) : AuthProgram Bool := do
  let affected ← ask (.token (.revokeRefreshToken identifier userId now))
  return affected > 0

def revokeAllRefreshTokens (now : Time) (userId : Uuid) : AuthProgram Bool := do
  let affected ← ask (.token (.revokeAllRefreshTokens userId now))
  return affected > 0

end AuthPostgresRepository

end Chatterbox
