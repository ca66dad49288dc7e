import Chatterbox.Auth.Accounts
import Chatterbox.Socket.Server

/-!
What an access token stands for. Whoever is handed one out has signed up, has given the password
of an account, or comes with a refresh token of somebody who has; and the guards of both protocols
take it for the user of that account, until it has expired.
-/
namespace Chatterbox
open Concurrency Tables AuthDatabase

def AuthOutcome.tokens : AuthOutcome → Option RefreshTokensOutput
  | .signedUp response => some response.tokens
  | .signedIn response => some response.tokens
  | .refreshed output => some output
  | .loggedOut _ => none

/-- The user that a command is answered for; a refresh is for the owner of the token that comes
    with it. -/
def AuthCommand.IsFor (env : AuthEnv) (amb : Ambient) : AuthCommand → AuthOutcome → Uuid → Prop
  | .refresh refreshToken, _, userId => ∃ p,
      TokenService.verifyRefreshToken env amb.now refreshToken = some p ∧ p.sub = userId
  | _, .signedUp response, userId => response.id = userId
  | _, .signedIn response, userId => response.user.id = userId
  | _, _, _ => False

/-- A session of the user was started some time. -/
def AuthDatabase.HasSession (userId : Uuid) (db : AuthDatabase) : Prop :=
  ∃ row ∈ db.refreshTokens, row.userId = userId

theorem AuthDatabase.HasSession.stable {userId : Uuid} {s t : AuthDatabase}
    (session : s.HasSession userId) (moved : s.Persist t) : t.HasSession userId := by
  obtain ⟨row,mem,owner⟩ := session
  obtain ⟨row',mem',_,owned⟩ := moved row mem
  exact ⟨row',mem',(Prod.mk.inj owned).1.trans owner⟩

/-- What is handed out was issued for that user, and he has a session. -/
def AuthCommand.Backed (env : AuthEnv) (amb : Ambient) (command : AuthCommand)
    (outcome : AuthOutcome) (db : AuthDatabase) : Prop :=
  ∀ tokens, outcome.tokens = some tokens → ∃ userId, command.IsFor env amb outcome userId ∧
    (∃ role entity, issueToken env (command.draws amb) userId role = .ok (tokens, entity)) ∧
      db.HasSession userId

/-- Of a schedule whose inserts are known the programs have nothing to say, but that rows
    persist. -/
def sessionContract (rights : TokenRights) : Contract AuthRequest AuthDatabase where
  rely := Persist
  admits q s := q.Issues rights s
  issues q s := q.Issues rights s
  rely_refl := Persist.refl
  rely_trans := Persist.trans

section Commands
variable {α : Type} {env : AuthEnv} {amb : Ambient} {rights : TokenRights} {s : AuthDatabase}

theorem session_keeps {β : Type} {q : AuthRequest β} (keyed : s.TokensKeyed)
    (issued : (sessionContract rights).admits q s) :
    q.Issues rights s ∧ (authHandler.answer q s).2.TokensKeyed := by
  have known : q.Issues rights s := issued
  exact ⟨known,(insert_answer q keyed known).1⟩

theorem meets_session (p : AuthProgram α) (s : AuthDatabase) :
    p.Meets authHandler TokensKeyed (sessionContract rights) (fun _ _ => True) s := by
  induction p generalizing s with
  | done a => exact fun _ _ _ => trivial
  | fail e => exact fun _ _ _ => trivial
  | request q rest ih =>
    intro t _ keyed issued
    exact ⟨issued,(session_keeps keyed issued).2,ih _ _⟩

theorem meets_newSession (entity : RefreshTokenEntity) (s : AuthDatabase) :
    (AuthPostgresRepository.save entity >>= fun _ => (Program.done () : AuthProgram Unit)).Meets
      authHandler TokensKeyed (sessionContract rights)
      (fun r t => ∀ a, r = .ok a → t.HasSession entity.userId) s := by
  unfold AuthPostgresRepository.save
  rw [Program.bind_assoc]
  refine meets_ask_bind fun t _ keyed issued =>
    ⟨issued,(session_keeps keyed issued).2,fun _ _ => ?_,fun _ _ _ _ _ => of_error⟩
  obtain ⟨⟨_,id,jti,fresh⟩,_⟩ := session_keeps keyed issued
  rw [← id, ← jti] at fresh
  have session : (authHandler.answer (.token (.saveRefreshToken
      (RefreshToken.fromDomain entity))) t).2.HasSession entity.userId := by
    refine ⟨RefreshToken.fromDomain entity,?_,rfl⟩
    simp [authHandler, AuthDatabase.answer, answer_save fresh]
  rw [RefreshToken.toDomain_fromDomain, Program.lift_ok, Program.done_bind]
  exact fun u later _ _ _ => session.stable later

theorem meets_rotated {old new : RefreshTokenEntity} (s : AuthDatabase) :
    (AuthPostgresRepository.rotateRefreshToken old new).Meets authHandler TokensKeyed
      (sessionContract rights) (fun r t => ∀ a, r = .ok a → t.HasSession new.userId) s := by
  intro t _ keyed issued
  obtain ⟨⟨known,_,_,id,jti,_,fresh⟩,kept⟩ := session_keeps keyed issued
  refine ⟨issued,kept,?_⟩
  rw [← id, ← jti] at fresh
  have answered : authHandler.answer (.token (.rotateRefreshToken (RefreshToken.fromDomain old)
      (RefreshToken.fromDomain new))) t = _ := answer_rotate keyed known fresh
  rw [answered]
  intro u later _ _ _
  refine HasSession.stable ⟨RefreshToken.fromDomain new,?_,rfl⟩ later
  exact List.mem_append_right _ (List.mem_singleton.mpr rfl)

theorem backed_signup (command : SignupCommand) (keyed : s.TokensKeyed) :
    (SignupHandler.execute env amb command).Meets authHandler TokensKeyed (sessionContract rights)
      (fun r t => ∀ response, r = .ok response →
        (AuthCommand.signup command).Backed env amb (.signedUp response) t) s := by
  unfold SignupHandler.execute
  refine (meets_session _ s).bind keyed (fun user t keyed _ => ?_) (fun _ _ _ _ => of_error)
  cases issued : issueToken env (amb.skip 1) user.id .user with
  | error e => exact fun _ _ _ => of_error
  | ok pair =>
    have owner : pair.2.userId = user.id := (issueToken_fields issued).2.2.1
    simp only [Program.lift_ok, Program.done_bind]
    refine Program.Meets.bind (?_ : Program.Meets _ _ _
      (fun r u => ∀ a, r = .ok a → u.HasSession user.id) _ _) keyed
      (fun _ u _ session v moved _ response is => ?_) (fun _ _ _ _ => of_error)
    · refine (meets_newSession pair.2 t).tryCatch keyed (fun _ u _ session => ?_)
        fun _ u keyed _ => ?_
      · rwa [owner] at session
      · intro v _ keyed issued
        exact ⟨issued,(session_keeps keyed issued).2,fun _ _ _ => of_error⟩
    · cases is
      rintro tokens ⟨⟩
      exact ⟨user.id,rfl,⟨_,_,issued⟩,(session () rfl).stable moved⟩

theorem backed_signin (command : SigninCommand) (keyed : s.TokensKeyed) :
    (SigninHandler.execute env amb command).Meets authHandler TokensKeyed (sessionContract rights)
      (fun r t => ∀ response, r = .ok response →
        (AuthCommand.signin command).Backed env amb (.signedIn response) t) s := by
  unfold SigninHandler.execute
  refine (meets_session _ s).bind keyed (fun user t keyed _ => ?_) (fun _ _ _ _ => of_error)
  cases issued : issueToken env amb user.id user.role with
  | error e => exact fun _ _ _ => of_error
  | ok pair =>
    have owner : pair.2.userId = user.id := (issueToken_fields issued).2.2.1
    simp only [Program.lift_ok, Program.done_bind]
    refine Program.Meets.bind (?_ : Program.Meets _ _ _
      (fun r u => ∀ a, r = .ok a → u.HasSession user.id) _ _) keyed
      (fun _ u _ session v moved _ response is => ?_) (fun _ _ _ _ => of_error)
    · refine (meets_newSession pair.2 t).tryCatch keyed (fun _ u _ session => ?_)
        fun _ u _ _ _ _ _ => of_error
      rwa [owner] at session
    · cases is
      rintro tokens ⟨⟩
      exact ⟨user.id,rfl,⟨_,_,issued⟩,(session () rfl).stable moved⟩

theorem meets_userById (userId : Uuid) (s : AuthDatabase) :
    (UserIntegrationAdapter.getUserById userId).Meets authHandler TokensKeyed
      (sessionContract rights) (fun r _ => ∀ found, r = .ok found →
        ∀ user, found = some user → user.id = userId) s := by
  unfold UserIntegrationAdapter.getUserById GetUserByIdHandler.execute
    UserPostgresReadRepository.getUserById
  simp only [viaUserBus_bind, viaUserBus_ask, Program.bind_assoc]
  refine meets_ask_bind fun t _ keyed issued =>
    ⟨issued,(session_keeps keyed issued).2,fun found answered => ?_,fun _ _ _ _ _ => of_error⟩
  cases found with
  | none => exact fun _ _ _ => of_error
  | some row =>
    have own : row.id = userId := (lookup_mem (Except.ok.inj answered)).2
    rintro u _ _ found is user rfl
    cases is
    exact own

theorem meets_exchanged (sub : Uuid) (current : RefreshTokenEntity) (keyed : s.TokensKeyed) :
    (RefreshTokensHandler.exchange env amb sub current).Meets authHandler TokensKeyed
      (sessionContract rights) (fun r t => ∀ output, r = .ok output →
        (∃ role entity, issueToken env amb sub role = .ok (output, entity)) ∧
          t.HasSession sub) s := by
  unfold RefreshTokensHandler.exchange
  refine (meets_userById sub s).bind keyed (fun found t keyed own => ?_) (fun _ _ _ _ => of_error)
  cases found with
  | none => exact fun _ _ _ => of_error
  | some user =>
    obtain rfl := own _ rfl user rfl
    cases issued : issueToken env amb user.id user.role with
    | error e =>
      simp only [issued, Program.lift_error, Program.fail_bind]
      exact fun _ _ _ => of_error
    | ok pair =>
      have owner : pair.2.userId = user.id := (issueToken_fields issued).2.2.1
      simp only [issued, Program.lift_ok, Program.done_bind]
      refine Program.Meets.bind (?_ : Program.Meets _ _ _
        (fun r u => ∀ a, r = .ok a → u.HasSession user.id) _ _) keyed
        (fun _ u _ session v moved _ output is => ?_) (fun _ _ _ _ => of_error)
      · refine (meets_rotated t).tryCatch keyed (fun _ u _ session => ?_)
          fun _ u _ _ _ _ _ => of_error
        rwa [owner] at session
      · cases is
        exact ⟨⟨user.role,pair.2,rfl⟩,(session () rfl).stable moved⟩

theorem backed_refresh (refreshToken : JsString) (keyed : s.TokensKeyed) :
    (RefreshTokensHandler.execute env amb refreshToken).Meets authHandler TokensKeyed
      (sessionContract rights) (fun r t => ∀ output, r = .ok output →
        (AuthCommand.refresh refreshToken).Backed env amb (.refreshed output) t) s := by
  unfold RefreshTokensHandler.execute
  cases verified : TokenService.verifyRefreshToken env amb.now refreshToken with
  | none => exact fun _ _ _ => of_error
  | some p =>
    refine (meets_session _ s).bind keyed (fun found t keyed _ => ?_) (fun _ _ _ _ => of_error)
    cases found with
    | none => exact fun _ _ _ => of_error
    | some current =>
      dsimp only
      split_ifs
      · exact (meets_session _ t).bind keyed (fun _ _ _ _ _ _ _ => of_error)
          (fun _ _ _ _ => of_error)
      · exact fun _ _ _ => of_error
      · refine (meets_exchanged p.sub current keyed).weaken fun r u _ given output is => ?_
        rintro tokens ⟨⟩
        exact ⟨p.sub,⟨p,verified,rfl⟩,given output is⟩

theorem backed_command (command : AuthCommand) (keyed : s.TokensKeyed) :
    (command.execute env amb).Meets authHandler TokensKeyed (sessionContract rights)
      (fun r t => ∀ outcome, r = .ok outcome → command.Backed env amb outcome t) s := by
  cases command with
  | refresh refreshToken =>
    refine (backed_refresh refreshToken keyed).map keyed (fun output t _ backed outcome is => ?_)
      (fun _ _ _ _ => of_error)
    cases is
    exact backed output rfl
  | signin command =>
    refine (backed_signin command keyed).map keyed (fun response t _ backed outcome is => ?_)
      (fun _ _ _ _ => of_error)
    cases is
    exact backed response rfl
  | signup command =>
    refine (backed_signup command keyed).map keyed (fun response t _ backed outcome is => ?_)
      (fun _ _ _ _ => of_error)
    cases is
    exact backed response rfl
  | logout command =>
    refine (meets_session _ s).map keyed (fun success t _ _ outcome is => ?_)
      (fun _ _ _ _ => of_error)
    cases is
    rintro tokens ⟨⟩

end Commands

section Pools
variable {ι : Type} {env : AuthEnv} {ambs : ι → Ambient} {tasks : ι → AccountTask}

/-- The task has shown that it is the user's: it is his signup, or a signin with the password of
    his account. -/
def Authenticates (env : AuthEnv) (ambs : ι → Ambient) (tasks : ι → AccountTask) (j : ι)
    (userId : Uuid) : Prop :=
  (∃ command, tasks j = .auth (.signup command) ∧ userId = (ambs j).uuid 0) ∨
    ∃ command, tasks j = .auth (.signin command) ∧ command.Vouched env ambs tasks userId

theorem authenticates_owner {j : ι} {userId : Uuid} {db : AuthDatabase}
    (owns : (tasks j).Owns env (Opened env ambs tasks) (ambs j) userId db) :
    Authenticates env ambs tasks j userId := by
  unfold Authenticates
  cases is : tasks j with
  | rollback userId =>
    rw [is] at owns
    exact owns.elim
  | auth command =>
    rw [is] at owns
    cases command with
    | signup command => exact Or.inl ⟨command,rfl,owns⟩
    | signin command =>
      have admitted : command.Admitted env ambs tasks userId db := owns
      exact Or.inr ⟨command,rfl,admitted.vouched⟩
    | refresh refreshToken => exact owns.elim
    | logout command => exact owns.elim

/-- Every session goes back to a task that has shown to be the user's. -/
structure SessionsRooted (env : AuthEnv) (ambs : ι → Ambient) (tasks : ι → AccountTask)
    (moved : List ι) (db : AuthDatabase) : Prop where
  keyed : db.TokensKeyed
  rooted : ∀ row ∈ db.refreshTokens, ∃ j ∈ moved, Authenticates env ambs tasks j row.userId

theorem rooted_step {β : Type} {q : AuthRequest β} {moved : List ι} {j : ι} {db : AuthDatabase}
    (sessions : SessionsRooted env ambs tasks moved db) (mem : j ∈ moved)
    (accounts : q.OnAccounts env (Opened env ambs tasks) (ambs j) (tasks j) db)
    (issued : q.Issues ((tasks j).rights env (ambs j)) db) :
    SessionsRooted env ambs tasks moved (authHandler.answer q db).2 := by
  have starts : ∀ row, q.saved = some row → Authenticates env ambs tasks j row.userId := by
    intro row saved
    cases q with
    | user q => cases saved
    | token q =>
      cases q with
      | saveRefreshToken token =>
        cases saved
        exact authenticates_owner accounts
      | _ => cases saved
  have step := tokenStep q sessions.keyed issued
  refine ⟨(insert_answer q sessions.keyed issued).1,fun row there => ?_⟩
  generalize q.saved = saved, q.rotated = rotated at step starts
  cases step with
  | quiet rows =>
    obtain ⟨old,before,_,owned,_⟩ := rows row there
    obtain ⟨k,among,root⟩ := sessions.rooted old before
    exact ⟨k,among,(Prod.mk.inj owned).1 ▸ root⟩
  | save _ _ _ rows =>
    rcases (rows row).mp there with before | rfl
    · exact sessions.rooted row before
    · exact ⟨j,mem,starts row rfl⟩
  | @rotate old new own stored _ owned _ _ _ user _ rows =>
    obtain ⟨k,among,root⟩ := sessions.rooted own stored
    rw [(Prod.mk.inj owned).1] at root
    rcases (rows row).mp there with rfl | rfl | ⟨before,_⟩
    · exact ⟨k,among,user ▸ root⟩
    · exact ⟨k,among,root⟩
    · exact sessions.rooted row before

variable [DecidableEq ι]

theorem sessions_rooted (apart : DrawnApart ambs tasks) {schedule : List ι}
    (saga : (accountPool env ambs tasks).Respects authHandler
      (fun e => e.request.FollowsSaga e.before) schedule) :
    SessionsRooted env ambs tasks schedule
      ((accountPool env ambs tasks).run authHandler schedule).state := by
  have accounts := (accountPool_run apart schedule saga).2
  have issued : (accountPool env ambs tasks).Respects authHandler _ schedule :=
    (accountPool_issues apart schedule).2
  refine Pool.invariant_run (SessionsRooted env ambs tasks schedule)
    (fun e => e.thread ∈ schedule ∧
      e.request.OnAccounts env (Opened env ambs tasks) (ambs e.thread) (tasks e.thread) e.before ∧
      e.request.Issues ((tasks e.thread).rights env (ambs e.thread)) e.before)
    (fun e sessions known => rooted_step sessions known.1 known.2.1 known.2.2)
    ⟨tokens_noUsers,fun _ mem => absurd mem List.not_mem_nil⟩ schedule
    fun e mem => ⟨?_,accounts e mem,issued e mem⟩
  obtain ⟨past,later,is,_⟩ := Pool.mem_trace_split mem
  rw [is]
  exact List.mem_append_right _ List.mem_cons_self

/-- What a task hands out when it ends was issued for a user with a session. -/
theorem accountPool_backed (apart : DrawnApart ambs tasks) (schedule : List ι) {k : ι}
    {command : AuthCommand} (is : tasks k = .auth command) {outcome : AuthOutcome}
    (ended : ((accountPool env ambs tasks).run authHandler schedule).threads k =
      .done (some outcome)) :
    command.Backed env (ambs k) outcome
      ((accountPool env ambs tasks).run authHandler schedule).state := by
  have compatible : Pool.Compatible authHandler TokensKeyed
      fun i => sessionContract ((tasks i).rights env (ambs i)) := by
    intro i j other β q s keyed admitted _
    have issued : q.Issues ((tasks j).rights env (ambs j)) s := admitted
    exact (insert_answer q keyed issued).2.1
  let post (i : ι) (r : Except Failure (Option AuthOutcome)) (db : AuthDatabase) : Prop :=
    ∀ command, tasks i = .auth command → ∀ outcome, r = .ok (some outcome) →
      command.Backed env (ambs i) outcome db
  have start : (accountPool env ambs tasks).Sound authHandler TokensKeyed
      (fun i => sessionContract ((tasks i).rights env (ambs i))) post := by
    refine ⟨tokens_noUsers,fun i => ?_⟩
    change ((tasks i).execute env (ambs i)).Meets authHandler TokensKeyed _ (post i) noUsers
    cases task : tasks i with
    | auth command =>
      refine (backed_command command tokens_noUsers).map tokens_noUsers
        (fun outcome t _ backed command' same outcome' is => ?_)
        (fun e t _ _ command' same outcome' is => ?_)
      · cases is
        cases task.symm.trans same
        exact backed outcome rfl
      · cases is
    | rollback userId =>
      refine (meets_session _ noUsers).weaken fun r t _ _ command same => ?_
      cases task.symm.trans same
  have final := (Pool.sound_run compatible start schedule (accountPool_issues apart schedule).2).1
  exact final.post_done ended command is outcome rfl

end Pools

/-- The package and the keys of the access tokens: a token that was signed is not empty, has no
    blanks in it, and verifies to its payload until the tolerance after its date is over. -/
structure AuthEnv.SignsAccess (env : AuthEnv) : Prop where
  verifies : ∀ p token now, env.accessKeys.signAsync p = .ok token →
    env.accessKeys.verifyAsync token now =
      if seconds now < p.exp + AuthModule.clockTolerance then some p else none
  written : ∀ p token, env.accessKeys.signAsync p = .ok token → token ≠ [] ∧ 0x20 ∉ token

/-- The header that a client sends its token in. -/
def bearerHeader (accessToken : JsString) : JsString :=
  BaseWsAuthGuard.bearer ++ 0x20 :: accessToken

/-- Whom a token lets in that was issued for the user at this time: him, for a day and the
    tolerance. -/
def letsIn (userId : Uuid) (issuedAt now : Time) : Option Uuid :=
  if seconds now < seconds issuedAt + 24 * 60 * 60 + AuthModule.clockTolerance
  then some userId else none

/-- The user of a new socket that comes with this header. -/
def chatWsUser (env : AuthEnv) (now : Time) (header : JsString) : Option Uuid :=
  ((chatWsGuard env).authenticateUser now (WsClient.opened (some header) none)).1.toOption.map
    ValidatedTokenPayload.sub

section Guards
variable {env : AuthEnv} {amb : Ambient} {token : JsString}

theorem splitOn_bearerHeader (solid : 0x20 ∉ token) :
    List.splitOn 0x20 (bearerHeader token) = [BaseWsAuthGuard.bearer, token] := by
  have outside : 0x20 ∉ BaseWsAuthGuard.bearer := by decide
  rw [bearerHeader, List.splitOn_append_cons_self_of_not_mem outside,
    List.splitOn_eq_singleton solid]

variable (env) in
/-- Both guards verify the token of the header. -/
theorem guards_verify (present : token ≠ []) (solid : 0x20 ∉ token) (now : Time) :
    BaseHttpAuthGuard.canActivate env now (some (bearerHeader token)) =
        (TokenService.verifyAccessToken env now token).map AccessTokenPayload.sub ∧
      chatWsUser env now (bearerHeader token) =
        (TokenService.verifyAccessToken env now token).map AccessTokenPayload.sub := by
  have filtered : (some token).filter (· ≠ []) = some token := by simp [present]
  constructor
  · simp only [BaseHttpAuthGuard.canActivate, BaseHttpAuthGuard.extractTokenFromHeader,
      Option.map_some, splitOn_bearerHeader solid, if_true, filtered]
  · have extracted : BaseWsAuthGuard.extractToken
        (WsClient.opened (some (bearerHeader token)) none :
          WsClient ValidatedTokenPayload) = some token := by
      simp only [BaseWsAuthGuard.extractToken, WsClient.opened, Option.some_or, Option.map_some,
        splitOn_bearerHeader solid, if_true]
    unfold chatWsUser BaseWsAuthGuard.authenticateUser
    rw [extracted, filtered]
    cases verified : TokenService.verifyAccessToken env now token <;>
      simp [WsClient.opened, chatWsGuard, AuthIntegrationAdapter.verifyToken,
        VerifyAccessTokenHandler.execute, verified, Except.map, Except.toOption]

theorem issueToken_access {userId : Uuid} {role : UserRole} {tokens : RefreshTokensOutput}
    {entity : RefreshTokenEntity} (issued : issueToken env amb userId role = .ok (tokens, entity)) :
    TokenService.signAccessToken env amb.now userId role = .ok tokens.accessToken := by
  obtain ⟨accessToken,signed,rest⟩ := ok_of_bind issued
  obtain ⟨_,_,rest⟩ := ok_of_bind rest
  obtain ⟨_,_,rest⟩ := ok_of_bind rest
  obtain ⟨_,_,rest⟩ := ok_of_bind rest
  cases rest
  exact signed

/-- How long an access token that was issued is good, and for whom. -/
theorem guards_issued (signs : env.SignsAccess) {userId : Uuid} {role : UserRole}
    {tokens : RefreshTokensOutput} {entity : RefreshTokenEntity}
    (issued : issueToken env amb userId role = .ok (tokens, entity)) (now : Time) :
    BaseHttpAuthGuard.canActivate env now (some (bearerHeader tokens.accessToken)) =
        letsIn userId amb.now now ∧
      chatWsUser env now (bearerHeader tokens.accessToken) = letsIn userId amb.now now := by
  have signed := issueToken_access issued
  obtain ⟨present,solid⟩ := signs.written _ _ signed
  have verifies := signs.verifies _ _ now signed
  obtain ⟨http,ws⟩ := guards_verify env present solid now
  rw [TokenService.verifyAccessToken, verifies] at http ws
  rw [http, ws, letsIn]
  split_ifs <;> exact ⟨rfl,rfl⟩

end Guards

/-- Packages whose tokens are good for a header. -/
def solidEnv : AuthEnv :=
  { plainEnv with
    accessKeys :=
      { signAsync := fun p => .ok [p.sub + 0x21, p.iat + 0x21, p.exp + 0x21]
        verifyAsync := fun token now => (spelledPayload (token.map fun c => c - 0x21)).filter
          fun p => decide (seconds now < p.exp + AuthModule.clockTolerance) } }

theorem solidEnv_signsAccess : solidEnv.SignsAccess where
  verifies p token now is := by
    cases is
    obtain ⟨sub,role,iat,exp⟩ := p
    cases role
    simp [solidEnv, spelledPayload, Option.filter]
  written p token is := by
    cases is
    exact ⟨List.cons_ne_nil _ _,by simp⟩

/-- Whatever runs side by side, an access token that is handed out is for the user of the command,
    who has shown to be that user, by a signup or a password, in a command that has moved by then.
    The guards of both protocols take it for that user, for a day and the tolerance. -/
theorem access_from_credentials {ι : Type} [DecidableEq ι] {env : AuthEnv}
    (signs : env.SignsAccess) {ambs : ι → Ambient} {tasks : ι → AccountTask}
    (apart : DrawnApart ambs tasks) {schedule : List ι}
    (saga : (accountPool env ambs tasks).Respects authHandler
      (fun e => e.request.FollowsSaga e.before) schedule) {k : ι} {command : AuthCommand}
    {outcome : AuthOutcome} {tokens : RefreshTokensOutput} (is : tasks k = .auth command)
    (ended : ((accountPool env ambs tasks).run authHandler schedule).threads k =
      .done (some outcome)) (handed : outcome.tokens = some tokens) :
    ∃ userId, command.IsFor env (ambs k) outcome userId ∧
      (∃ j ∈ schedule, Authenticates env ambs tasks j userId) ∧
      ∀ now, BaseHttpAuthGuard.canActivate env now (some (bearerHeader tokens.accessToken)) =
          letsIn userId (ambs k).now now ∧
        chatWsUser env now (bearerHeader tokens.accessToken) =
          letsIn userId (ambs k).now now := by
  obtain ⟨userId,isFor,⟨role,entity,issued⟩,row,mem,owner⟩ :=
    accountPool_backed apart schedule is ended tokens handed
  obtain ⟨j,moved,root⟩ := (sessions_rooted apart saga).rooted row mem
  have clock : (command.draws (ambs k)).now = (ambs k).now := by cases command <;> rfl
  refine ⟨userId,isFor,⟨j,moved,owner ▸ root⟩,fun now => ?_⟩
  rw [← clock]
  exact guards_issued signs issued now

/-- The token of a signin at second 0 is good for user 0 until second 86415. -/
theorem access_from_credentials_alice : ∃ accessToken,
    BaseHttpAuthGuard.canActivate solidEnv 86414000 (some (bearerHeader accessToken)) = some 0 ∧
      chatWsUser solidEnv 86415000 (bearerHeader accessToken) = none := by
  obtain ⟨response,ended,user⟩ : ∃ response,
      ((accountPool solidEnv arrivalDraws arrivals).run authHandler
        (arrivalTurns ++ [2, 2])).threads 2 = .done (some (.signedIn response)) ∧
        response.user.id = 0 := ⟨_,rfl,rfl⟩
  obtain ⟨userId,isFor,_,good⟩ := access_from_credentials solidEnv_signsAccess arrivals_apart
    (by decide) rfl ended rfl
  obtain rfl : userId = 0 := isFor.symm.trans user
  exact ⟨_,(good 86414000).1.trans (by decide),(good 86415000).2.trans (by decide)⟩

end Chatterbox
