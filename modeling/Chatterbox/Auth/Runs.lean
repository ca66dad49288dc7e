import Chatterbox.Auth.Steps

/-!
The auth commands one at a time, for packages that behave as documented: what each
of them answers and what it leaves in the token table.
-/
namespace Chatterbox
open Concurrency Tables AuthDatabase

/-- Signing and hashing succeed, and a text matches its own hash. -/
structure AuthEnv.SignsAndHashes (env : AuthEnv) : Prop where
  signsAccess : ∀ p, ∃ token, env.accessKeys.signAsync p = .ok token
  signs : ∀ p, ∃ token, env.refreshKeys.signAsync p = .ok token
  hashes : ∀ text salt, ∃ hash, env.bcrypt.hash text salt = .ok hash ∧ hash ≠ [] ∧
    env.bcrypt.compare text hash = true

/-- The packages: they sign and hash, and a signed refresh token verifies to its payload until
    it expires, with the tolerance that the module registers them with. -/
structure AuthEnv.Lawful (env : AuthEnv) : Prop extends env.SignsAndHashes where
  verifies : ∀ p token now, env.refreshKeys.signAsync p = .ok token →
    env.refreshKeys.verifyAsync token now =
      if seconds now < p.exp + AuthModule.clockTolerance then some p else none

variable {env : AuthEnv} {amb : Ambient} {db : AuthDatabase}

/-- A token is the signature of one payload. -/
theorem AuthEnv.Lawful.payload_unique (lawful : env.Lawful) {p p' : RefreshTokenPayload}
    {token : JsString} (first : env.refreshKeys.signAsync p = .ok token)
    (second : env.refreshKeys.signAsync p' = .ok token) : p = p' := by
  have start (exp : Nat) : seconds 0 < exp + AuthModule.clockTolerance :=
    Nat.lt_add_left exp (by decide)
  have one := lawful.verifies p token 0 first
  have two := lawful.verifies p' token 0 second
  rw [if_pos (start _)] at one
  rw [if_pos (start _), one, Option.some_inj] at two
  exact two

/-- Issuing a token: the signature of the payload is returned and its hash kept. -/
theorem issueToken_lawful (signs : env.SignsAndHashes) (amb : Ambient) (userId : Uuid)
    (role : UserRole) :
    ∃ output entity, issueToken env amb userId role = .ok (output, entity) ∧
      env.refreshKeys.signAsync (TokenService.refreshPayload amb.now userId (amb.uuid 0)) =
        .ok output.refreshToken ∧
      env.bcrypt.compare output.refreshToken entity.token = true := by
  obtain ⟨access,signed⟩ := signs.signsAccess
    { sub := userId, role, iat := seconds amb.now, exp := seconds amb.now + 24 * 60 * 60 }
  obtain ⟨token,refresh⟩ := signs.signs (TokenService.refreshPayload amb.now userId (amb.uuid 0))
  obtain ⟨hash,hashed,present,matching⟩ := signs.hashes token (amb.salt 0)
  refine ⟨⟨access,token⟩,⟨amb.uuid 1,amb.now,amb.now,userId,hash,amb.uuid 0,none,present⟩,?_,
    refresh,matching⟩
  simp [issueToken, TokenService.signAccessToken, TokenService.signRefreshToken, signed, refresh,
    hashed, bind, Except.bind, pure, Except.pure, RefreshTokenEntity.create,
    RefreshTokenEntity.new, present]

theorem run_viaUserBus {α : Type} (p : UserProgram α) (db : AuthDatabase) :
    (viaUserBus p).run authHandler db =
      ((p.run userHandler db.users).1, { db with users := (p.run userHandler db.users).2 }) := by
  have run := Program.run_translate userHandler authHandler AuthRequest.user (id : Failure → Failure)
    AuthDatabase.users (fun users db => { db with users }) (fun _ _ => rfl) (fun _ _ => rfl)
    (fun _ _ _ => rfl) (fun _ => rfl) p db
  rw [viaUserBus, run]
  cases (p.run userHandler db.users).1 <;> rfl

/-- The table after a new session. -/
def AuthDatabase.withToken (db : AuthDatabase) (entity : RefreshTokenEntity) : AuthDatabase :=
  { db with refreshTokens := db.refreshTokens ++ [RefreshToken.fromDomain entity] }

theorem run_saveOrThrow {α : Type} {entity : RefreshTokenEntity}
    (fresh : db.Absent entity.id entity.identifier) (handle : Failure → AuthProgram Unit)
    (response : α) :
    (tryCatchThe Failure (AuthPostgresRepository.save entity >>= fun _ => Program.done ()) handle
      >>= fun _ => Program.done response).run authHandler db =
      (.ok response, db.withToken entity) := by
  have absent : db.Absent (RefreshToken.fromDomain entity).id
      (RefreshToken.fromDomain entity).identifier := fresh
  have answered : authHandler.answer
      (.token (.saveRefreshToken (RefreshToken.fromDomain entity))) db =
      (.ok (), db.withToken entity) := answer_save absent
  have saved : (AuthPostgresRepository.save entity).run authHandler db =
      (.ok entity, db.withToken entity) := by
    unfold AuthPostgresRepository.save
    rw [run_ask_bind answered, RefreshToken.toDomain_fromDomain]
    rfl
  have first := Program.run_bind_ok authHandler db saved fun _ => Program.done ()
  exact Program.run_bind_ok authHandler db (Program.run_catch_ok authHandler db first handle) _

/-- A signin: refused by the password check, or a new session of a live user. -/
theorem run_signin (lawful : env.Lawful) (command : SigninCommand)
    (fresh : db.Absent (amb.uuid 1) (amb.uuid 0)) :
    (∃ e, (SigninHandler.execute env amb command).run authHandler db = (.error e, db)) ∨
    ∃ response entity, (SigninHandler.execute env amb command).run authHandler db =
        (.ok response, db.withToken entity) ∧
      db.users.HasUser response.user.id ∧
      issueToken env amb response.user.id response.user.role = .ok (response.tokens, entity) := by
  obtain ⟨r,checked,known⟩ := run_validatePassword env.isEmail env.bcrypt command.property
    command.password db.users
  have bus := run_viaUserBus (ValidatePasswordHandler.execute env.isEmail env.bcrypt
    command.property command.password) db
  rw [checked] at bus
  unfold SigninHandler.execute UserIntegrationAdapter.validatePassword
  rw [Program.bind_assoc]
  cases r with
  | error e =>
    rw [Program.run_bind_error _ _ bus]
    exact Or.inl ⟨e,rfl⟩
  | ok res =>
    obtain ⟨output,entity,issued,_⟩ := issueToken_lawful lawful.toSignsAndHashes amb
      (UserIntegrationAdapter.toAuthUser res).id (UserIntegrationAdapter.toAuthUser res).role
    obtain ⟨id,identifier,_⟩ := issueToken_fields issued
    rw [Program.run_bind_ok _ _ bus]
    simp only [Program.pure_eq, Program.done_bind, issued, Program.lift_ok]
    refine Or.inr ⟨_,entity,run_saveOrThrow ?_ _ _,known res rfl,issued⟩
    rwa [id, identifier]

/-- A signup: refused, with the accounts as far as it came, or a new session of the new
    user. -/
theorem run_signup (lawful : env.Lawful) (command : SignupCommand)
    (fresh : db.Absent ((amb.skip 1).uuid 1) ((amb.skip 1).uuid 0)) :
    ∃ users, (∀ id, db.users.HasUser id → users.HasUser id) ∧
      ((∃ e, (SignupHandler.execute env amb command).run authHandler db =
        (.error e, { db with users })) ∨
      ∃ response entity, (SignupHandler.execute env amb command).run authHandler db =
          (.ok response, { db with users }.withToken entity) ∧
        users.HasUser response.id ∧
        issueToken env (amb.skip 1) response.id .user = .ok (response.tokens, entity)) := by
  let data : CreateUserCommand :=
    { email := command.email, username := none, password := command.password,
      firstName := command.firstName, lastName := command.lastName, avatar := none }
  have bus := run_viaUserBus (CreateUserHandler.execute env.bcrypt amb data) db
  refine ⟨((CreateUserHandler.execute env.bcrypt amb data).run userHandler db.users).2,
    fun _ => createUser_keeps,?_⟩
  unfold SignupHandler.execute UserIntegrationAdapter.createUser
  rw [Program.bind_assoc]
  cases result : (CreateUserHandler.execute env.bcrypt amb data).run userHandler db.users with
  | mk r users =>
    rw [result] at bus
    cases r with
    | error e =>
      rw [Program.run_bind_error _ _ bus]
      exact Or.inl ⟨e,rfl⟩
    | ok res =>
      obtain ⟨output,entity,issued,_⟩ := issueToken_lawful lawful.toSignsAndHashes (amb.skip 1) res.id .user
      obtain ⟨id,identifier,_⟩ := issueToken_fields issued
      rw [Program.run_bind_ok _ _ bus]
      simp only [Program.pure_eq, Program.done_bind, issued, Program.lift_ok]
      refine Or.inr ⟨_,entity,run_saveOrThrow ?_ _ _,run_createUser_ok result,issued⟩
      rw [id, identifier]
      exact fresh

/-- The rows that a logout revokes. -/
def logoutMatches (env : AuthEnv) (now : Time) (command : LogoutCommand) (r : RefreshToken) :
    Bool :=
  match command.allDevices, command.refreshToken.filter (· ≠ []) with
  | false, some token => match TokenService.verifyRefreshToken env now token with
    | some p => r.owned = (command.userId, p.jti)
    | none => r.userId = command.userId
  | _, _ => r.userId = command.userId

/-- A logout is one soft delete. -/
theorem run_logout (env : AuthEnv) (db : AuthDatabase) (now : Time) (command : LogoutCommand) :
    ∃ success, (LogoutHandler.execute env now command).run authHandler db =
      (.ok success, (db.softDeleteTokens (logoutMatches env now command) now).2) := by
  unfold LogoutHandler.execute logoutMatches
  cases command.allDevices with
  | true => exact ⟨_,rfl⟩
  | false =>
    cases command.refreshToken.filter (· ≠ []) with
    | none => exact ⟨_,rfl⟩
    | some token =>
      cases verified : TokenService.verifyRefreshToken env now token with
      | some p => simp only [verified]; exact ⟨_,rfl⟩
      | none => simp only [verified]; exact ⟨_,rfl⟩

section Refresh
variable {token : JsString} {p : RefreshTokenPayload} {row : RefreshToken}
  (verified : TokenService.verifyRefreshToken env amb.now token = some p)
  (found : lookup RefreshToken.owned (p.sub,p.jti) db.refreshTokens = some row)
  (present : row.token ≠ [])

theorem run_refresh_unverified (db : AuthDatabase)
    (rejected : TokenService.verifyRefreshToken env amb.now token = none) :
    ∃ e, (RefreshTokensHandler.execute env amb token).run authHandler db = (.error e, db) := by
  unfold RefreshTokensHandler.execute
  simp only [rejected]
  exact ⟨_,rfl⟩

include found present in
theorem run_getRefreshToken : ∃ e, RefreshToken.fromDomain e = row ∧
    (AuthPostgresRepository.getRefreshTokenIncludingDeleted p.jti p.sub).run authHandler db =
      (.ok (some e), db) := by
  have loaded : row.toDomain = .ok ⟨row.id,row.createdAt,row.updatedAt,row.userId,row.token,
      row.identifier,row.deletedAt,present⟩ := by
    simp [RefreshToken.toDomain, RefreshTokenEntity.new, present]
  refine ⟨_,RefreshToken.fromDomain_of_toDomain loaded,?_⟩
  unfold AuthPostgresRepository.getRefreshTokenIncludingDeleted
  have answered : authHandler.answer (.token (.getRefreshTokenIncludingDeleted p.jti p.sub)) db =
      (.ok (some row), db) := by
    simp [authHandler, AuthDatabase.answer, answerToken, found]
  rw [run_ask_bind answered]
  simp [loaded]

include verified found present in
/-- A revoked token is a replay: every session of its owner ends. -/
theorem run_refresh_replayed (revoked : row.deletedAt ≠ none) :
    ∃ e, (RefreshTokensHandler.execute env amb token).run authHandler db =
      (.error e, (db.softDeleteTokens (fun r => r.userId = p.sub) amb.now).2) := by
  obtain ⟨e,fields,loaded⟩ := run_getRefreshToken found present
  have dead : e.deletedAt ≠ none := by
    rw [← fields] at revoked
    exact revoked
  unfold RefreshTokensHandler.execute
  simp only [verified]
  rw [Program.run_bind_ok _ _ loaded]
  simp only [if_pos dead]
  exact ⟨_,rfl⟩

include verified found present in
/-- A live token of a live user is exchanged. -/
theorem run_refresh_live (lawful : env.Lawful) (live : row.deletedAt = none)
    (matching : env.bcrypt.compare token row.token = true) (keyed : db.TokensKeyed)
    (fresh : db.Absent (amb.uuid 1) (amb.uuid 0)) (known : db.users.HasUser p.sub) :
    ∃ output entity role, (RefreshTokensHandler.execute env amb token).run authHandler db =
        (.ok output, { db with
          refreshTokens := save RefreshToken.id (row.revoked amb.now) db.refreshTokens ++
            [RefreshToken.fromDomain entity] }) ∧
      issueToken env amb p.sub role = .ok (output, entity) := by
  obtain ⟨e,fields,loaded⟩ := run_getRefreshToken found present
  subst fields
  obtain ⟨user,account⟩ := Option.isSome_iff_exists.mp (hasUser_iff.mp known)
  obtain ⟨_,same⟩ := lookup_mem account
  obtain ⟨output,entity,issued,_⟩ := issueToken_lawful lawful.toSignsAndHashes amb p.sub user.role
  obtain ⟨id,identifier,_⟩ := issueToken_fields issued
  refine ⟨output,entity,user.role,?_,issued⟩
  have read : (UserIntegrationAdapter.getUserById p.sub).run authHandler db =
      (.ok (some (UserIntegrationAdapter.toAuthUser (UserPostgresReadRepository.mapToDto user))),
        db) := by
    have answered : authHandler.answer (.user (.getUserById p.sub)) db = (.ok (some user), db) := by
      simp [authHandler, AuthDatabase.answer, userHandler, UserDatabase.answer, account]
    have query : (GetUserByIdHandler.execute p.sub).run userHandler db.users =
        (.ok (UserPostgresReadRepository.mapToDto user), db.users) := by
      simp [GetUserByIdHandler.execute, UserPostgresReadRepository.getUserById, ask, userHandler,
        UserDatabase.answer, account]
    have bus := run_viaUserBus (GetUserByIdHandler.execute p.sub) db
    rw [query] at bus
    exact Program.run_bind_ok _ _ bus _
  have rotated : (AuthPostgresRepository.rotateRefreshToken (e.revoke amb.now) entity).run
      authHandler db = (.ok (), { db with
        refreshTokens := save RefreshToken.id ((RefreshToken.fromDomain e).revoked amb.now)
          db.refreshTokens ++ [RefreshToken.fromDomain entity] }) := by
    have stored : answerToken (.rotateRefreshToken
        (RefreshToken.fromDomain (e.revoke amb.now)) (RefreshToken.fromDomain entity)) db = _ :=
      answer_rotate keyed ⟨RefreshToken.fromDomain e,(lookup_mem found).1,rfl,rfl⟩ (by
        simpa [RefreshToken.fromDomain, id, identifier] using fresh)
    unfold AuthPostgresRepository.rotateRefreshToken ask
    rw [Program.run_request]
    simp only [authHandler, AuthDatabase.answer, stored]
    rfl
  have owner : (UserIntegrationAdapter.toAuthUser
      (UserPostgresReadRepository.mapToDto user)).id = p.sub := same
  have exchanged : (RefreshTokensHandler.exchange env amb p.sub e).run authHandler db =
      (.ok output, { db with
        refreshTokens := save RefreshToken.id ((RefreshToken.fromDomain e).revoked amb.now)
          db.refreshTokens ++ [RefreshToken.fromDomain entity] }) := by
    unfold RefreshTokensHandler.exchange
    rw [Program.run_bind_ok _ _ read]
    simp only [owner]
    have issued' : issueToken env amb p.sub (UserIntegrationAdapter.toAuthUser
        (UserPostgresReadRepository.mapToDto user)).role = .ok (output,entity) := issued
    rw [issued', Program.lift_ok, Program.done_bind]
    exact Program.run_bind_ok _ _ (Program.run_catch_ok _ _ rotated _) _
  have accepted : ¬ e.deletedAt ≠ none := by simpa [RefreshToken.fromDomain] using live
  unfold RefreshTokensHandler.execute
  simp only [verified]
  rw [Program.run_bind_ok _ _ loaded]
  have matches' : env.bcrypt.compare token e.token = true := matching
  simp only [if_neg accepted, matches', Bool.not_true, Bool.false_eq_true, ↓reduceIte]
  exact exchanged

end Refresh
end Chatterbox
