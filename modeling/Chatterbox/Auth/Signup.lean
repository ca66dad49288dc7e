import Chatterbox.Auth.Runs
import Chatterbox.Concurrency.Faults

/-!
A signup that fails after it has created its user. A failure that is published makes the
saga delete the user; a failure that is not leaves the user behind.
-/
namespace Chatterbox
open Concurrency Tables AuthDatabase

/-- The saga answers every event with a command that deletes the user. -/
def AuthSaga.signupFailed (events : List Uuid) : List (UserProgram Unit) :=
  events.map DeleteUserHandler.execute

/-- The store `after` a run, once the saga has processed the events of the run. -/
def AuthDatabase.settled (before after : AuthDatabase) : AuthDatabase :=
  { after with
    users := (Program.runAll userHandler (AuthSaga.signupFailed
      (after.signupFailed.drop before.signupFailed.length)) after.users).2 }

/-- The answer of a statement that fails; the publication of an event does not. -/
def TokenRequest.refused : {β : Type} → TokenRequest β → DbError → Option β
  | _, .getRefreshTokenIncludingDeleted _ _, e => some (.error e)
  | _, .saveRefreshToken _, e => some (.error e)
  | _, .rotateRefreshToken _ _, e => some (.error e)
  | _, .revokeRefreshToken _ _ _, e => some (.error e)
  | _, .revokeAllRefreshTokens _ _, e => some (.error e)
  | _, .publishSignupFailed _, _ => none

def AuthRequest.refused {β : Type} : AuthRequest β → DbError → Option β
  | .user q, e => q.refused e
  | .token q, e => q.refused e

/-- Only statements fail, each with an error of the database. -/
def FailsStatements (fault : Fault AuthRequest) : Prop :=
  ∀ (β : Type) (q : AuthRequest β) (n : Nat) (b : β), fault q n = some b →
    ∃ e, q.refused e = some b

/-- The packages sign both tokens of a new user and hash the second. -/
def AuthEnv.Issues (env : AuthEnv) (amb : Ambient) (userId : Uuid) : Prop :=
  ∃ accessToken refreshToken hash,
    TokenService.signAccessToken env amb.now userId .user = .ok accessToken ∧
    env.refreshKeys.signAsync (TokenService.refreshPayload amb.now userId (amb.uuid 0)) =
      .ok refreshToken ∧
    env.bcrypt.hash refreshToken (amb.salt 0) = .ok hash ∧ hash ≠ []

/-- What a signup needs besides an email that nobody has: packages that work, a drawn
    username that is free, and an unused identifier for the token. -/
structure SignupReady (env : AuthEnv) (amb : Ambient) (command : SignupCommand)
    (db : AuthDatabase) : Prop where
  named : ∀ name ∈ amb.usernames, trim name ≠ [] ∧
    ∀ u ∈ db.users.users, u.username = name → u.deletedAt = none
  free : ∃ name ∈ amb.usernames, ∀ u ∈ db.users.users, u.username ≠ name
  hashed : ∃ hash, CreateUserHandler.hashPassword env.bcrypt amb command.password = .ok hash
  issues : env.Issues (amb.skip 1) (amb.uuid 0)
  fresh : db.Absent ((amb.skip 1).uuid 1) ((amb.skip 1).uuid 0)

/-- Nothing of the user is left, and the email can be used again. -/
structure Compensated (before after : AuthDatabase) (email : JsString) : Prop where
  users : after.users.users = before.users.users
  again : ∀ env amb command, command.email = email → SignupReady env amb command after →
    ∃ response t, (SignupHandler.execute env amb command).run authHandler after =
      (.ok response, t)

/-- What the signup asks the user module for. -/
def SignupCommand.newUser (command : SignupCommand) : CreateUserCommand :=
  { email := command.email, username := none, password := command.password,
    firstName := command.firstName, lastName := command.lastName, avatar := none }

variable {env : AuthEnv} {amb : Ambient} {db : AuthDatabase} {fault : Fault AuthRequest}

theorem issueToken_ok_iff {userId : Uuid} : env.Issues amb userId ↔
    ∃ output entity, issueToken env amb userId .user = .ok (output, entity) := by
  constructor
  · rintro ⟨access,token,hash,signedAccess,signed,hashed,present⟩
    refine ⟨⟨access,token⟩,⟨amb.uuid 1,amb.now,amb.now,userId,hash,amb.uuid 0,none,present⟩,?_⟩
    simp [issueToken, TokenService.signRefreshToken, signedAccess, signed, hashed, bind,
      Except.bind, pure, Except.pure, RefreshTokenEntity.create, RefreshTokenEntity.new, present]
  · rintro ⟨output,entity,issued⟩
    obtain ⟨access,signedAccess,issued⟩ := ok_of_bind issued
    obtain ⟨dto,signed,issued⟩ := ok_of_bind issued
    obtain ⟨hash,hashed,issued⟩ := ok_of_bind issued
    obtain ⟨built,new,_⟩ := ok_of_bind issued
    obtain ⟨token,signs,is⟩ := ok_of_bind signed
    cases is
    have signed : env.refreshKeys.signAsync (TokenService.refreshPayload amb.now userId
        (amb.uuid 0)) = .ok token := signs
    refine ⟨access,token,hash,signedAccess,signed,hashed,?_⟩
    rintro rfl
    cases new

section Faults
variable {α : Type} (fails : FailsStatements fault)

include fails

theorem fragile_ask {q : UserRequest (Answer α)} (refuses : ∀ e, q.refused e = some (.error e)) :
    (ask q : UserProgram α).Fragile fun q n => fault (.user q) n := by
  constructor
  · intro n b failed
    obtain ⟨e,is⟩ := fails _ _ _ _ failed
    rw [AuthRequest.refused, refuses, Option.some_inj] at is
    exact ⟨_,by rw [← is]⟩
  · intro b
    cases b <;> trivial

theorem fragile_generateUsername (draws : List JsString) :
    (CreateUserHandler.generateUsername draws).Fragile fun q n => fault (.user q) n := by
  induction draws with
  | nil => trivial
  | cons name draws ih =>
    apply (fragile_ask fails fun _ => rfl).bind
    intro taken
    cases taken with
    | false => trivial
    | true => exact ih

theorem fragile_createUser (bcrypt : Bcrypt) (amb : Ambient) (data : CreateUserCommand) :
    (CreateUserHandler.execute bcrypt amb data).Fragile fun q n => fault (.user q) n := by
  have username : (CreateUserHandler.chooseUsername amb data.username).Fragile
      fun q n => fault (.user q) n := by
    unfold CreateUserHandler.chooseUsername
    split
    · apply (fragile_ask fails fun _ => rfl).bind
      intro taken
      cases taken <;> trivial
    · exact fragile_generateUsername fails _
  have saved : ∀ entity : UserEntity, (UserPostgresRepository.save entity).Fragile
      fun q n => fault (.user q) n :=
    fun entity => (fragile_ask fails fun _ => rfl).bind fun _ => Program.fragile_lift _
  apply (fragile_ask fails fun _ => rfl).bind
  intro emailExists
  cases emailExists with
  | true => trivial
  | false =>
    refine username.bind fun finalUsername => (Program.fragile_lift _).bind fun hashed =>
      (Program.fragile_lift _).bind fun user => (saved user).bind fun _ => ⟨?_,fun _ => trivial⟩
    intro n b failed
    obtain ⟨e,is⟩ := fails _ _ _ _ failed
    cases is

/-- A creation that has returned has met no failure. -/
theorem createdUser_of_faulty {data : CreateUserCommand} {n : Nat} {user : AuthUser}
    {v : AuthDatabase × Nat}
    (run : (UserIntegrationAdapter.createUser env amb data).run (authHandler.faulty fault) (db, n) =
      (.ok user, v)) :
    ∃ users entity, CreatedUser amb data db.users users entity ∧ user.id = entity.id ∧
      v.1 = { db with users } := by
  have fragile : (UserIntegrationAdapter.createUser env amb data).Fragile fault :=
    (fragile_createUser fails env.bcrypt amb data).translate.bind fun _ => trivial
  obtain ⟨entity,u,created,rest⟩ := Program.run_bind_inv _ _ (fragile.run_ok run)
  rw [run_viaUserBus] at created
  have outcome := Prod.ext_iff.mp created
  cases rest
  exact ⟨_,entity,createdUser_of_run (Prod.ext outcome.1 rfl),rfl,outcome.2.symm⟩

/-- The token is saved, or the store is as it was. -/
theorem run_save_faulty {entity : RefreshTokenEntity} {n : Nat}
    {r : Except Failure RefreshTokenEntity} {v : AuthDatabase × Nat}
    (run : (AuthPostgresRepository.save entity).run (authHandler.faulty fault) (db, n) = (r, v)) :
    r = .ok entity ∨ ∃ e, r = .error e ∧ v.1 = db := by
  unfold AuthPostgresRepository.save at run
  rw [RefreshToken.toDomain_fromDomain] at run
  cases failed : fault (.token (.saveRefreshToken (RefreshToken.fromDomain entity))) n with
  | some b =>
    obtain ⟨e,is⟩ := fails _ _ _ _ failed
    cases is
    have answered : (authHandler.faulty fault).answer
        (.token (.saveRefreshToken (RefreshToken.fromDomain entity))) (db, n) =
          (.error e, (db, n + 1)) := by
      simp [Handler.faulty, failed]
    rw [run_ask_error answered] at run
    cases run
    exact Or.inr ⟨_,rfl,rfl⟩
  | none =>
    have answered : (authHandler.faulty fault).answer
        (.token (.saveRefreshToken (RefreshToken.fromDomain entity))) (db, n) =
          ((db.commitTokens (storeToken (RefreshToken.fromDomain entity) db.refreshTokens)).1,
            ((db.commitTokens (storeToken (RefreshToken.fromDomain entity) db.refreshTokens)).2,
              n + 1)) := by
      simp [Handler.faulty, failed, authHandler, AuthDatabase.answer, answerToken]
    cases stored : storeToken (RefreshToken.fromDomain entity) db.refreshTokens with
    | error e =>
      rw [stored] at answered
      rw [run_ask_error answered] at run
      cases run
      exact Or.inr ⟨_,rfl,rfl⟩
    | ok rows =>
      rw [stored] at answered
      rw [run_ask_bind answered] at run
      cases run
      exact Or.inl rfl

/-- A failed save is published before the signup fails. -/
theorem run_saveOrPublish {α : Type} {entity : RefreshTokenEntity} {userId : Uuid} {n : Nat}
    {thrown e : Failure} {response : α} {v : AuthDatabase × Nat}
    (run : (tryCatchThe Failure (AuthPostgresRepository.save entity >>= fun _ => Program.done ())
        (fun _ => Program.request (.token (.publishSignupFailed userId)) Program.done >>=
          fun _ => throw thrown) >>= fun _ => Program.done response).run
      (authHandler.faulty fault) (db, n) = (.error e, v)) :
    v.1 = { db with signupFailed := db.signupFailed ++ [userId] } := by
  rw [Program.run_bind, Program.run_catch] at run
  cases saved : (AuthPostgresRepository.save entity).run (authHandler.faulty fault) (db, n) with
  | mk r u =>
    rcases run_save_faulty fails saved with rfl | ⟨e',rfl,same⟩
    · rw [Program.run_bind_ok _ _ saved] at run
      cases run
    · rw [Program.run_bind_error _ _ saved] at run
      obtain ⟨db',m⟩ := u
      have same : db' = db := same
      subst same
      cases failed : fault (.token (.publishSignupFailed userId)) m with
      | some b =>
        obtain ⟨e,is⟩ := fails _ _ _ _ failed
        cases is
      | none =>
        simp only [Program.request_bind, Program.run_request, Handler.faulty, failed] at run
        cases run
        rfl

/-- A signup that fails after its user was created: the user is stored, and its failure is
    published when the tokens could be issued. -/
theorem signup_failed {command : SignupCommand} {user : AuthUser} {mid after : AuthDatabase × Nat}
    {e : Failure}
    (created : (UserIntegrationAdapter.createUser env amb command.newUser).run
      (authHandler.faulty fault) (db, 0) = (.ok user, mid))
    (failed : (SignupHandler.execute env amb command).run (authHandler.faulty fault) (db, 0) =
      (.error e, after)) :
    ∃ users entity, CreatedUser amb command.newUser db.users users entity ∧
      ((env.Issues (amb.skip 1) (amb.uuid 0) ∧
          after.1 = { db with users, signupFailed := db.signupFailed ++ [amb.uuid 0] }) ∨
        (¬ env.Issues (amb.skip 1) (amb.uuid 0) ∧ after.1 = { db with users })) := by
  obtain ⟨users,entity,made,is,same⟩ := createdUser_of_faulty fails created
  refine ⟨users,entity,made,?_⟩
  have drawn : user.id = amb.uuid 0 := is.trans made.id
  unfold SignupHandler.execute at failed
  rw [SignupCommand.newUser] at created
  rw [Program.run_bind_ok _ _ created, drawn] at failed
  obtain ⟨db',n⟩ := mid
  have same : db' = { db with users } := same
  subst same
  cases issued : issueToken env (amb.skip 1) (amb.uuid 0) .user with
  | error e' =>
    rw [issued] at failed
    cases failed
    refine Or.inr ⟨?_,rfl⟩
    intro issues
    obtain ⟨output,entity,ok⟩ := issueToken_ok_iff.mp issues
    rw [issued] at ok
    cases ok
  | ok pair =>
    obtain ⟨output,token⟩ := pair
    rw [issued] at failed
    exact Or.inl ⟨issueToken_ok_iff.mpr ⟨_,_,issued⟩,run_saveOrPublish fails failed⟩

end Faults

/-- The saga has nothing to do. -/
theorem settled_silent {users : UserDatabase} :
    db.settled { db with users } = { db with users } := by
  simp [AuthDatabase.settled, AuthSaga.signupFailed]

/-- The saga deletes the one user whose signup failed. -/
theorem settled_published {users : UserDatabase} {userId : Uuid} :
    db.settled { db with users, signupFailed := db.signupFailed ++ [userId] } =
      { db with users := (users.deleteUser userId).2,
                signupFailed := db.signupFailed ++ [userId] } := by
  simp [AuthDatabase.settled, AuthSaga.signupFailed, DeleteUserHandler.execute, ask, userHandler,
    UserDatabase.answer, UserDatabase.deleteUser]

/-- Conditions on one column alone. -/
theorem holds_email {email : JsString} (given : email ≠ []) (u : User) :
    UserExistsOptions.holds ⟨some email,none⟩ u = decide (u.email = email) := by
  simp [UserExistsOptions.holds, Option.filter, given]

theorem holds_username {username : JsString} (given : username ≠ []) (u : User) :
    UserExistsOptions.holds ⟨none,some username⟩ u = decide (u.username = username) := by
  simp [UserExistsOptions.holds, Option.filter, given]

/-- A user whose email and username nobody has is saved. -/
theorem run_save_free {users : UserDatabase} {user : UserEntity}
    (email : ∀ u ∈ users.users, u.email ≠ user.email)
    (username : ∀ u ∈ users.users, u.username ≠ user.username) :
    (UserPostgresRepository.save user).run userHandler users =
      (.ok user, { users with users := save User.id (User.toOrm user) users.users }) := by
  have emails : ¬ (users.users.filter fun u => u.id ≠ (User.toOrm user).id).any
      fun u => u.email = (User.toOrm user).email := by
    simp only [List.any_eq_true, List.mem_filter, decide_eq_true_eq, not_exists, not_and]
    exact fun u mem => email u mem.1
  have usernames : ¬ (users.users.filter fun u => u.id ≠ (User.toOrm user).id).any
      fun u => u.username = (User.toOrm user).username := by
    simp only [List.any_eq_true, List.mem_filter, decide_eq_true_eq, not_exists, not_and]
    exact fun u mem => username u mem.1
  have saved : userHandler.answer (.saveUser (User.toOrm user)) users =
      (.ok (), { users with users := save User.id (User.toOrm user) users.users }) := by
    simp only [userHandler, UserDatabase.answer, UserDatabase.saveUser, if_neg emails,
      if_neg usernames]
  unfold UserPostgresRepository.save
  rw [run_ask_bind saved, User.toEntity_toOrm]
  rfl

/-- A user with an email that nobody has, under one of the drawn names. -/
theorem createUser_succeeds {bcrypt : Bcrypt} {data : CreateUserCommand} {users : UserDatabase}
    {hash : JsString} (anyName : data.username = none) (present : trim data.email ≠ [])
    (free : ∀ u ∈ users.users, u.email ≠ data.email)
    (named : ∀ name ∈ amb.usernames, trim name ≠ [] ∧
      ∀ u ∈ users.users, u.username = name → u.deletedAt = none)
    (unused : ∃ name ∈ amb.usernames, ∀ u ∈ users.users, u.username ≠ name)
    (hashed : CreateUserHandler.hashPassword bcrypt amb data.password = .ok hash) :
    ∃ user after, (CreateUserHandler.execute bcrypt amb data).run userHandler users =
      (.ok user, after) := by
  have given : ∀ {text : JsString}, trim text ≠ [] → text ≠ [] := by
    rintro _ nonblank rfl
    exact nonblank rfl
  have asked : userHandler.answer (.userExists ⟨some data.email,none⟩) users =
      (.ok false, users) := by
    have nobody : users.live.any (UserExistsOptions.holds ⟨some data.email,none⟩) = false := by
      simp only [UserDatabase.live, List.any_filter, List.any_eq_false, holds_email (given present),
        Bool.and_eq_true, decide_eq_true_eq, not_and]
      exact fun u mem _ => free u mem
    simp [userHandler, UserDatabase.answer, nobody]
  have unknown : ∀ name ∈ amb.usernames, (users.live.any
      (UserExistsOptions.holds ⟨none,some name⟩) = false ↔
        ∀ u ∈ users.users, u.username ≠ name) := by
    intro name drawn
    simp only [UserDatabase.live, List.any_filter, List.any_eq_false,
      holds_username (given (named name drawn).1), Bool.and_eq_true, decide_eq_true_eq, not_and,
      Option.isNone_iff_eq_none]
    constructor
    · intro live u mem same
      exact live u mem ((named name drawn).2 u mem same) same
    · intro all u mem _
      exact all u mem
  obtain ⟨name,drawn,is,chosen⟩ := generateUsername_ends (by
    obtain ⟨name,drawn,is⟩ := unused
    exact ⟨name,drawn,(unknown name drawn).mpr is⟩)
  have entity : ∃ user, UserEntity.create amb data.email name hash data.firstName data.lastName
      data.avatar = .ok user ∧ user.email = data.email ∧ user.username = name := by
    simp [UserEntity.create, UserEntity.new, present, (named name drawn).1]
  obtain ⟨user,built,email,rfl⟩ := entity
  have stored := run_save_free (email ▸ free) ((unknown user.username drawn).mp is)
  have chosen : (CreateUserHandler.chooseUsername amb data.username).run userHandler users =
      (.ok user.username, users) := by
    rw [anyName]
    exact chosen
  refine ⟨user,?after,(run_ask_bind asked _).trans ((Program.run_bind_ok _ _ chosen _).trans ?rest)⟩
  case rest =>
    simp only [hashed, Program.lift_ok, Program.done_bind, built]
    exact Program.run_bind_ok _ _ stored _

/-- A signup with an email that nobody has. -/
theorem signup_succeeds {command : SignupCommand} (ready : SignupReady env amb command db)
    (present : trim command.email ≠ []) (free : ∀ u ∈ db.users.users, u.email ≠ command.email) :
    ∃ response t, (SignupHandler.execute env amb command).run authHandler db =
      (.ok response, t) := by
  obtain ⟨hash,hashed⟩ := ready.hashed
  have creates : ∃ user users, (CreateUserHandler.execute env.bcrypt amb command.newUser).run
      userHandler db.users = (.ok user, users) :=
    createUser_succeeds rfl present free ready.named ready.free hashed
  obtain ⟨user,users,created⟩ := creates
  have bus := run_viaUserBus (CreateUserHandler.execute env.bcrypt amb command.newUser) db
  rw [created, SignupCommand.newUser] at bus
  have drawn : user.id = amb.uuid 0 := (createdUser_of_run created).id
  obtain ⟨output,token,issued⟩ := issueToken_ok_iff.mp ready.issues
  obtain ⟨id,identifier,_⟩ := issueToken_fields issued
  unfold SignupHandler.execute UserIntegrationAdapter.createUser
  rw [Program.bind_assoc, Program.run_bind_ok _ _ bus]
  simp only [Program.pure_eq, Program.done_bind, drawn, issued, Program.lift_ok]
  refine ⟨_,_,run_saveOrThrow ?_ _ _⟩
  rw [id, identifier]
  exact ready.fresh

/-- A signup that fails after its user was created is undone exactly when the tokens of the
    user could be issued: only a failed save is published. -/
theorem signup_compensated_iff {command : SignupCommand} {user : AuthUser}
    {mid after : AuthDatabase × Nat} {e : Failure} (fails : FailsStatements fault)
    (fresh : ∀ u ∈ db.users.users, u.id ≠ amb.uuid 0)
    (created : (UserIntegrationAdapter.createUser env amb command.newUser).run
      (authHandler.faulty fault) (db, 0) = (.ok user, mid))
    (failed : (SignupHandler.execute env amb command).run (authHandler.faulty fault) (db, 0) =
      (.error e, after)) :
    Compensated db (db.settled after.1) command.email ↔
      env.Issues (amb.skip 1) (amb.uuid 0) := by
  obtain ⟨users,entity,made,outcome⟩ := signup_failed fails created failed
  have unused : ∀ u ∈ db.users.users, u.id ≠ entity.id := by
    intro u mem
    rw [made.id]
    exact fresh u mem
  have stored : users.users = db.users.users ++ [User.toOrm entity] := by
    rw [made.stored]
    exact save_new unused
  rcases outcome with ⟨issues,is⟩ | ⟨silent,is⟩
  · simp only [issues, iff_true, is, settled_published]
    have restored : (users.deleteUser (amb.uuid 0)).2.users = db.users.users := by
      have own : (User.toOrm entity).id = amb.uuid 0 := made.id
      simp only [UserDatabase.deleteUser, stored, List.filter_append]
      simp [own, List.filter_eq_self]
      exact fresh
    constructor
    · exact restored
    · intro env amb command' same ready
      apply signup_succeeds ready
      · have email : entity.email = command'.email := made.email.trans same.symm
        rw [← email]
        exact entity.emailPresent
      · intro u mem
        have before : u ∈ db.users.users := restored ▸ mem
        have email : entity.email = command'.email := made.email.trans same.symm
        rw [← email]
        exact made.free u before (unused u before)
  · simp only [silent, iff_false, is, settled_silent]
    intro compensated
    have longer := congrArg List.length (stored.symm.trans compensated.users)
    simp at longer

def signupDraws (n : Nat) : Ambient :=
  { now := 0, uuid := fun k => n + k, salt := fun _ => 3, usernames := [[97 + n]] }

def aliceSignup : SignupCommand := ⟨[0x40],some [97],none,none⟩

def saveFails : Fault AuthRequest
  | _, .token (.saveRefreshToken _), _ => some (.error ⟨.other,""⟩)
  | _, _, _ => none

theorem saveFails_fails : FailsStatements saveFails := by
  intro β q n b failed
  cases q with
  | user q => cases failed
  | token q =>
    cases q with
    | saveRefreshToken row =>
      cases failed
      exact ⟨_,rfl⟩
    | _ => cases failed

/-- The save fails: the user is gone again. -/
theorem signup_compensated_unsaved : Compensated noUsers (noUsers.settled
    ((SignupHandler.execute plainEnv (signupDraws 5) aliceSignup).run
      (authHandler.faulty saveFails) (noUsers, 0)).2.1) aliceSignup.email := by
  have fresh : ∀ u ∈ noUsers.users.users, u.id ≠ (signupDraws 5).uuid 0 := by decide
  have issues : plainEnv.Issues ((signupDraws 5).skip 1) ((signupDraws 5).uuid 0) :=
    ⟨_,_,_,rfl,rfl,rfl,List.cons_ne_nil _ _⟩
  exact (signup_compensated_iff saveFails_fails fresh rfl rfl).mpr issues

/-- The key of the refresh tokens is missing. -/
def unsignedEnv : AuthEnv :=
  { plainEnv with refreshKeys :=
      { signAsync := fun _ => .error (.error "secretOrPrivateKey must have a value")
        verifyAsync := fun _ _ => none } }

/-- The refresh token cannot be signed: the user stays, and the email is taken. -/
theorem signup_left_behind : ∃ user mid e after,
    (UserIntegrationAdapter.createUser unsignedEnv (signupDraws 5) aliceSignup.newUser).run
      authHandler noUsers = (.ok user, mid) ∧
    (SignupHandler.execute unsignedEnv (signupDraws 5) aliceSignup).run authHandler noUsers =
      (.error e, after) ∧
    (noUsers.settled after).users.users ≠ noUsers.users.users ∧
    ((SignupHandler.execute plainEnv (signupDraws 20) aliceSignup).run authHandler
      (noUsers.settled after)).1 =
        .error (userAlreadyExistsException "Your email is Duplicate") :=
  ⟨_,_,_,_,rfl,rfl,by decide,rfl⟩

end Chatterbox
