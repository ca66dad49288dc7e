import Chatterbox.Auth.Accounts
import Chatterbox.Concurrency.Purge

/-!
The sessions of one user among those of everybody else. What his commands answer and what becomes
of his refresh tokens is the same when the commands of the others are left out.
-/
namespace Chatterbox
open Concurrency Tables AuthDatabase

def AuthDatabase.tokensOf (db : AuthDatabase) (userId : Uuid) : List RefreshToken :=
  db.refreshTokens.filter fun r => r.userId = userId

/-- A task for the user of this row: it comes with a refresh token of his, is a logout of his, or
    a signin that names him, with whatever password. -/
def AccountTask.actsFor (env : AuthEnv) (amb : Ambient) (row : User) : AccountTask → Bool
  | .auth (.refresh refreshToken) =>
      (TokenService.verifyRefreshToken env amb.now refreshToken).any fun p => p.sub = row.id
  | .auth (.logout command) => command.userId = row.id
  | .auth (.signin command) =>
      (if env.isEmail command.property then row.email else row.username) = command.property
  | _ => false

def AuthRequest.OfSignin (env : AuthEnv) (command : SigninCommand) :
    {β : Type} → AuthRequest β → Prop
  | _, .user (.getUserByEmail email) =>
      env.isEmail command.property = true ∧ email = command.property
  | _, .user (.getUserByUsername username) =>
      env.isEmail command.property = false ∧ username = command.property
  | _, .token (.saveRefreshToken _) => True
  | _, _ => False

/-- The requests of signups and of the saga. -/
def AuthRequest.OfSignup : {β : Type} → AuthRequest β → Prop
  | _, .user _ => True
  | _, .token (.saveRefreshToken _) => True
  | _, .token (.publishSignupFailed _) => True
  | _, _ => False

/-- The requests that a task can issue, whatever it is answered. -/
def AccountTask.Sends (env : AuthEnv) (amb : Ambient) {β : Type} (q : AuthRequest β) :
    AccountTask → Prop
  | .auth (.refresh refreshToken) => ∃ p,
      TokenService.verifyRefreshToken env amb.now refreshToken = some p ∧ q.OfSession p.sub
  | .auth (.logout command) => q.OfSession command.userId
  | .auth (.signin command) => q.OfSignin env command
  | _ => q.OfSignup

section Requests
variable {env : AuthEnv} {amb : Ambient}

theorem sends_save {kind : {β : Type} → AuthRequest β → Prop} {entity : RefreshTokenEntity}
    (save : kind (.token (.saveRefreshToken (RefreshToken.fromDomain entity)))) :
    (AuthPostgresRepository.save entity).Only kind :=
  (only_ask save).bind fun _ => Program.only_lift _

theorem sends_signin (command : SigninCommand) :
    (SigninHandler.execute env amb command).Only (AuthRequest.OfSignin env command) := by
  have checked : (UserIntegrationAdapter.validatePassword env command.property
      command.password).Only (AuthRequest.OfSignin env command) := by
    obtain ⟨check,nobody,known,is⟩ := validatePassword_checks env command
    have checks : ∀ found, (viaUserBus (check found)).Only (AuthRequest.OfSignin env command) := by
      intro found
      cases found with
      | none =>
        rw [nobody]
        trivial
      | some user =>
        rw [known]
        split <;> trivial
    unfold UserIntegrationAdapter.validatePassword
    rw [is, ValidatePasswordHandler.findUser]
    cases email : env.isEmail command.property with
    | true =>
      rw [if_pos rfl, UserPostgresReadRepository.getUserByEmail]
      simp only [viaUserBus_bind, viaUserBus_ask, Program.bind_assoc]
      exact (only_ask ⟨email,rfl⟩).bind fun found => (checks _).bind fun _ => trivial
    | false =>
      rw [if_neg Bool.false_ne_true, UserPostgresReadRepository.getUserByUsername]
      simp only [viaUserBus_bind, viaUserBus_ask, Program.bind_assoc]
      exact (only_ask ⟨email,rfl⟩).bind fun found => (checks _).bind fun _ => trivial
  unfold SigninHandler.execute
  refine checked.bind fun user => (Program.only_lift _).bind fun pair => ?_
  exact Program.Only.bind (Program.Only.tryCatch ((sends_save trivial).bind fun _ => trivial)
    fun _ => trivial) fun _ => trivial

theorem sends_signup (command : SignupCommand) :
    (SignupHandler.execute env amb command).Only AuthRequest.OfSignup := by
  have created : (UserIntegrationAdapter.createUser env amb
      { email := command.email, username := none, password := command.password,
        firstName := command.firstName, lastName := command.lastName, avatar := none }).Only
      AuthRequest.OfSignup :=
    (Program.only_translate AuthRequest.user id (fun _ => trivial) _).bind fun _ => trivial
  unfold SignupHandler.execute
  refine created.bind fun user => (Program.only_lift _).bind fun pair => ?_
  exact Program.Only.bind (Program.Only.tryCatch ((sends_save trivial).bind fun _ => trivial)
    fun _ => ⟨trivial,fun _ => trivial⟩) fun _ => trivial

theorem sends_task (task : AccountTask) :
    (task.execute env amb).Only fun q => task.Sends env amb q := by
  cases task with
  | rollback userId =>
    exact (Program.only_translate AuthRequest.user id (fun _ => trivial) _).map _
  | auth command =>
    refine Program.Only.map ?_ some
    cases command with
    | refresh refreshToken =>
      refine Program.Only.map ?_ AuthOutcome.refreshed
      cases verified : TokenService.verifyRefreshToken env amb.now refreshToken with
      | none =>
        unfold RefreshTokensHandler.execute
        simp only [verified]
        trivial
      | some p => exact (sends_refresh verified).weaken fun q is => ⟨p,verified,is⟩
    | logout command => exact (sends_logout amb.now command).map _
    | signin command => exact (sends_signin command).map _
    | signup command => exact (sends_signup command).map _

end Requests

/-- The user whose refresh tokens a request writes. -/
def AuthRequest.writes : {β : Type} → AuthRequest β → Option Uuid
  | _, .token (.saveRefreshToken row) => some row.userId
  | _, .token (.rotateRefreshToken old _) => some old.userId
  | _, .token (.revokeRefreshToken _ owner _) => some owner
  | _, .token (.revokeAllRefreshTokens owner _) => some owner
  | _, _ => none

/-- The requests that are about the tokens or the account of one user, or start a session. -/
def AuthRequest.About (row : User) : {β : Type} → AuthRequest β → Prop
  | _, .user (.getUserById id) => id = row.id
  | _, .user (.getUserByEmail email) => email = row.email
  | _, .user (.getUserByUsername username) => username = row.username
  | _, .token (.getRefreshTokenIncludingDeleted _ owner) => owner = row.id
  | _, .token (.saveRefreshToken _) => True
  | _, .token (.rotateRefreshToken old _) => old.userId = row.id
  | _, .token (.revokeRefreshToken _ owner _) => owner = row.id
  | _, .token (.revokeAllRefreshTokens owner _) => owner = row.id
  | _, _ => False

/-- The account is there, live and by each of its names. -/
structure User.Listed (row : User) (db : AuthDatabase) : Prop where
  byId : lookup User.id row.id db.users.live = some row
  byEmail : lookup User.email row.email db.users.live = some row
  byUsername : lookup User.username row.username db.users.live = some row

section Tokens
variable {β : Type} {q : AuthRequest β} {rights : TokenRights} {userId : Uuid} {row : User}
  {s t db : AuthDatabase}

/-- The rows of a rotation are those of one user. -/
theorem rotated_owner {old : RefreshToken} (keyed : db.TokensKeyed)
    (known : ∃ r ∈ db.refreshTokens, r.id = old.id ∧ r.owned = old.owned) {r : RefreshToken}
    (mem : r ∈ db.refreshTokens) (same : r.id = old.id) : r.userId = old.userId := by
  obtain ⟨own,there,id,owned⟩ := known
  rw [keyed_unique keyed.byId mem there (same.trans id.symm)]
  exact (Prod.mk.inj owned).1

/-- A write for one user leaves the tokens of all others. -/
theorem tokensOf_frame (keyed : db.TokensKeyed) (issued : q.Issues rights db)
    (other : ∀ owner ∈ q.writes, owner ≠ userId) :
    (authHandler.answer q db).2.tokensOf userId = db.tokensOf userId := by
  have amended : ∀ (p : RefreshToken → Bool) now, (∀ r, p r = true → r.userId ≠ userId) →
      (db.softDeleteTokens p now).2.tokensOf userId = db.tokensOf userId := fun p now apart =>
    filter_amend_other fun r _ hit =>
      have away := decide_eq_false (apart r (Bool.and_eq_true_iff.mp hit).2)
      ⟨away,away⟩
  cases q with
  | user q => rfl
  | token q =>
    cases q with
    | getRefreshTokenIncludingDeleted identifier owner => rfl
    | publishSignupFailed owner => rfl
    | saveRefreshToken row =>
      obtain ⟨_,id,jti,fresh⟩ := issued
      rw [← id, ← jti] at fresh
      have apart : row.userId ≠ userId := other _ rfl
      simp only [authHandler, AuthDatabase.answer, answer_save fresh, tokensOf]
      simp [apart]
    | rotateRefreshToken old new =>
      obtain ⟨known,_,_,id,jti,user,fresh⟩ := issued
      rw [← id, ← jti] at fresh
      have apart : old.userId ≠ userId := other _ rfl
      have apart' : new.userId ≠ userId := user ▸ apart
      have left : (save RefreshToken.id old db.refreshTokens).filter (fun r => r.userId = userId) =
          db.tokensOf userId := by
        refine filter_save_other (decide_eq_false apart) fun r mem same => decide_eq_false ?_
        rw [rotated_owner keyed known mem same]
        exact apart
      simp only [authHandler, AuthDatabase.answer, answer_rotate keyed known fresh]
      simp only [tokensOf, List.filter_append, left]
      simp [apart']
    | revokeRefreshToken identifier owner now =>
      refine amended _ now fun r hit => ?_
      rw [(Prod.mk.inj (of_decide_eq_true hit)).1]
      exact other _ rfl
    | revokeAllRefreshTokens owner now =>
      refine amended _ now fun r hit => ?_
      rw [of_decide_eq_true hit]
      exact other _ rfl

/-- A soft delete among the tokens of one user. -/
theorem softDelete_own {p : RefreshToken → Bool} (own : ∀ r, p r = true → r.userId = userId)
    (now : Time) (db : AuthDatabase) :
    ((db.softDeleteTokens p now).1, (db.softDeleteTokens p now).2.tokensOf userId) =
      (.ok ((db.tokensOf userId).countP fun r => r.deletedAt.isNone && p r),
        amend (fun r => r.deletedAt.isNone && p r) (RefreshToken.revoked now)
          (db.tokensOf userId)) := by
  have counts : db.refreshTokens.countP (fun r => r.deletedAt.isNone && p r) =
      (db.tokensOf userId).countP fun r => r.deletedAt.isNone && p r := by
    rw [tokensOf, List.countP_filter]
    refine List.countP_congr fun r _ => ?_
    simp only [Bool.and_eq_true, decide_eq_true_eq, iff_self_and]
    exact fun hit => own r hit.2
  refine Prod.ext (congrArg Except.ok counts) ?_
  have frame : ∀ r : RefreshToken,
      decide ((r.revoked now).userId = userId) = decide (r.userId = userId) := fun _ => rfl
  exact filter_amend_frame frame db.refreshTokens

/-- What such a request is answered and makes of the tokens of the user depends on his tokens
    alone. -/
theorem about_reads (rights : TokenRights) (about : q.About row) :
    ∃ reads : List RefreshToken → β × List RefreshToken, ∀ db : AuthDatabase, db.TokensKeyed →
      row.Listed db → q.Issues rights db →
      ((authHandler.answer q db).1, (authHandler.answer q db).2.tokensOf row.id) =
        reads (db.tokensOf row.id) := by
  cases q with
  | user q =>
    cases q with
    | getUserById id =>
      obtain rfl : id = row.id := about
      refine ⟨fun tokens => (.ok (some row), tokens),fun db _ listed _ => ?_⟩
      exact Prod.ext (congrArg Except.ok listed.byId) rfl
    | getUserByEmail email =>
      obtain rfl : email = row.email := about
      refine ⟨fun tokens => (.ok (some row), tokens),fun db _ listed _ => ?_⟩
      exact Prod.ext (congrArg Except.ok listed.byEmail) rfl
    | getUserByUsername username =>
      obtain rfl : username = row.username := about
      refine ⟨fun tokens => (.ok (some row), tokens),fun db _ listed _ => ?_⟩
      exact Prod.ext (congrArg Except.ok listed.byUsername) rfl
    | _ => exact absurd about fun h => h
  | token q =>
    cases q with
    | getRefreshTokenIncludingDeleted identifier owner =>
      obtain rfl : owner = row.id := about
      refine ⟨fun tokens => (.ok (lookup RefreshToken.owned (row.id,identifier) tokens), tokens),
        fun db _ _ _ => Prod.ext (congrArg Except.ok (lookup_filter ?_).symm) rfl⟩
      exact fun r _ same => decide_eq_true (Prod.mk.inj same).1
    | saveRefreshToken token =>
      refine ⟨fun tokens => (.ok (),
        tokens ++ [token].filter fun r => r.userId = row.id),fun db _ _ issued => ?_⟩
      obtain ⟨_,id,jti,fresh⟩ := issued
      rw [← id, ← jti] at fresh
      simp only [authHandler, AuthDatabase.answer, answer_save fresh, tokensOf, List.filter_append]
    | rotateRefreshToken old new =>
      have owner : old.userId = row.id := about
      refine ⟨fun tokens => (.ok (), save RefreshToken.id old tokens ++ [new].filter fun r =>
        r.userId = row.id),fun db keyed _ issued => ?_⟩
      obtain ⟨known,_,_,id,jti,_,fresh⟩ := issued
      rw [← id, ← jti] at fresh
      have saved : (save RefreshToken.id old db.refreshTokens).filter (fun r => r.userId = row.id) =
          save RefreshToken.id old (db.tokensOf row.id) :=
        filter_save (decide_eq_true owner) fun r mem same =>
          decide_eq_true ((rotated_owner keyed known mem same).trans owner)
      simp only [authHandler, AuthDatabase.answer, answer_rotate keyed known fresh]
      simp only [tokensOf, List.filter_append, saved]
    | revokeRefreshToken identifier owner now =>
      obtain rfl : owner = row.id := about
      let p (r : RefreshToken) : Bool := r.owned = (row.id,identifier)
      have own : ∀ r, p r = true → r.userId = row.id :=
        fun r hit => (Prod.mk.inj (of_decide_eq_true hit)).1
      let live (r : RefreshToken) : Bool := r.deletedAt.isNone && p r
      exact ⟨fun tokens => (.ok (tokens.countP live), amend live (RefreshToken.revoked now) tokens),
        fun db _ _ _ => softDelete_own own now db⟩
    | revokeAllRefreshTokens owner now =>
      obtain rfl : owner = row.id := about
      let p (r : RefreshToken) : Bool := r.userId = row.id
      have own : ∀ r, p r = true → r.userId = row.id := fun r hit => of_decide_eq_true hit
      let live (r : RefreshToken) : Bool := r.deletedAt.isNone && p r
      exact ⟨fun tokens => (.ok (tokens.countP live), amend live (RefreshToken.revoked now) tokens),
        fun db _ _ _ => softDelete_own own now db⟩
    | publishSignupFailed owner => exact absurd about fun h => h

/-- The states of two runs, as one user sees them: the second has the same tokens of his, and none
    that the first has not. -/
structure AuthDatabase.AlikeFor (row : User) (s t : AuthDatabase) : Prop where
  there : row ∈ s.users.users
  fine : row.id ∉ s.signupFailed
  tokens : t.tokensOf row.id = s.tokensOf row.id
  among : t.Persist s
  keyed : t.TokensKeyed
  listed : row.Listed t

theorem absent_among (among : t.Persist s) {id jti : Uuid} (absent : s.Absent id jti) :
    t.Absent id jti := by
  intro r mem
  obtain ⟨r',mem',sameId,owned⟩ := among r mem
  rw [← sameId, ← (Prod.mk.inj owned).2]
  exact absent r' mem'

/-- What may be issued in the first run may be issued in the second. -/
theorem issues_alike (alike : s.AlikeFor row t) (about : q.About row) (issued : q.Issues rights s) :
    q.Issues rights t := by
  by_cases harmless : ¬ q.Inserts
  · exact issues_of_harmless harmless rights t
  cases q with
  | user q => exact absurd (fun h => h) harmless
  | token q =>
    cases q with
    | saveRefreshToken token =>
      obtain ⟨may,id,jti,fresh⟩ := issued
      exact ⟨may,id,jti,absent_among alike.among fresh⟩
    | rotateRefreshToken old new =>
      obtain ⟨⟨r,mem,id,owned⟩,may,revoked,newId,jti,user,fresh⟩ := issued
      have own : r.userId = row.id := (Prod.mk.inj owned).1.trans about
      have his : r ∈ t.tokensOf row.id := by
        rw [alike.tokens]
        exact List.mem_filter.mpr ⟨mem,decide_eq_true own⟩
      exact ⟨⟨r,(List.mem_filter.mp his).1,id,owned⟩,may,revoked,newId,jti,user,
        absent_among alike.among fresh⟩
    | _ => exact absurd (fun h => h) harmless

theorem persist_step (keyed : s.TokensKeyed) (keyed' : t.TokensKeyed) (issued : q.Issues rights s)
    (issued' : q.Issues rights t) (among : t.Persist s) :
    (authHandler.answer q t).2.Persist (authHandler.answer q s).2 := by
  have persists := among.trans (insert_answer q keyed issued).2.1
  have first := tokenStep q keyed issued
  have second := tokenStep q keyed' issued'
  intro r mem
  generalize q.saved = saved, q.rotated = rotated at first second
  cases second with
  | quiet rows =>
    obtain ⟨r',mem',id,owned,_⟩ := rows r mem
    obtain ⟨r'',mem'',id',owned'⟩ := persists r' mem'
    exact ⟨r'',mem'',id'.trans id,owned'.trans owned⟩
  | save _ _ _ rows =>
    cases first with
    | save _ _ _ rows' =>
      rcases (rows r).mp mem with old | rfl
      · exact persists r old
      · exact ⟨r,(rows' r).mpr (Or.inr rfl),rfl,rfl⟩
  | rotate _ _ _ _ _ _ _ _ rows =>
    cases first with
    | rotate _ _ _ _ _ _ _ _ rows' =>
      rcases (rows r).mp mem with rfl | rfl | ⟨old,_⟩
      · exact ⟨r,(rows' r).mpr (Or.inl rfl),rfl,rfl⟩
      · exact ⟨r,(rows' r).mpr (Or.inr (Or.inl rfl)),rfl,rfl⟩
      · exact persists r old

theorem about_accounts (about : q.About row) (db : AuthDatabase) :
    (authHandler.answer q db).2.users.users = db.users.users ∧
      (authHandler.answer q db).2.signupFailed = db.signupFailed := by
  by_cases spares : q.SparesAccounts
  · exact spares_answer q spares
  cases q with
  | user q => cases q <;> first | exact absurd trivial spares | exact absurd about fun h => h
  | token q =>
    cases q with
    | saveRefreshToken token => exact saveToken_accounts token db
    | publishSignupFailed owner => exact absurd about fun h => h
    | _ => exact absurd trivial spares

theorem User.Listed.of_users (listed : row.Listed s) (users : t.users.users = s.users.users) :
    row.Listed t := by
  have live : t.users.live = s.users.live := by rw [UserDatabase.live, users, UserDatabase.live]
  exact ⟨live ▸ listed.byId,live ▸ listed.byEmail,live ▸ listed.byUsername⟩

/-- A request about the user, in both runs. -/
theorem alike_about (alike : s.AlikeFor row t) (keyed : s.TokensKeyed) (listed : row.Listed s)
    (about : q.About row) (issued : q.Issues rights s) :
    (authHandler.answer q t).1 = (authHandler.answer q s).1 ∧
      (authHandler.answer q s).2.AlikeFor row (authHandler.answer q t).2 := by
  have issued' := issues_alike alike about issued
  obtain ⟨reads,same⟩ := about_reads rights about
  obtain ⟨users,failed⟩ := about_accounts about s
  have agree := (same t alike.keyed alike.listed issued').trans
    ((congrArg reads alike.tokens).trans (same s keyed listed issued).symm)
  obtain ⟨answers,tokens⟩ := Prod.mk.inj agree
  refine ⟨answers,users ▸ alike.there,failed ▸ alike.fine,tokens,
    persist_step keyed alike.keyed issued issued' alike.among,?_,?_⟩
  · exact (insert_answer q alike.keyed issued').1
  · exact alike.listed.of_users (about_accounts about t).1

/-- A request of the others, in the first run alone. -/
theorem alike_other (alike : s.AlikeFor row t) (keyed : s.TokensKeyed) (issued : q.Issues rights s)
    (other : ∀ owner ∈ q.writes, owner ≠ row.id)
    (moved : Undisturbed row.id s (authHandler.answer q s).2) :
    (authHandler.answer q s).2.AlikeFor row t :=
  ⟨moved.kept alike.fine row alike.there rfl,mt moved.failed.mp alike.fine,
    alike.tokens.trans (tokensOf_frame keyed issued other).symm,
    alike.among.trans (insert_answer q keyed issued).2.1,alike.keyed,alike.listed⟩

end Tokens

section Tasks
variable {ι β : Type} {env : AuthEnv} {ambs : ι → Ambient} {tasks : ι → AccountTask}
  {amb : Ambient} {task : AccountTask} {q : AuthRequest β} {row : User} {db : AuthDatabase}

theorem listed_kept (kept : AccountsKept env ambs tasks db) (there : row ∈ db.users.users) :
    row.Listed db := by
  obtain ⟨_,_,_,opens⟩ := kept.opened row there
  have live : row ∈ db.users.live :=
    List.mem_filter.mpr ⟨there,Option.isNone_iff_eq_none.mpr opens.live⟩
  exact ⟨(lookup_eq_some_iff (keyed_filter kept.ids _)).mpr ⟨live,rfl⟩,
    (lookup_eq_some_iff (keyed_filter kept.emails _)).mpr ⟨live,rfl⟩,
    (lookup_eq_some_iff (keyed_filter kept.usernames _)).mpr ⟨live,rfl⟩⟩

theorem presents_rotated {rights : TokenRights} (issued : q.Issues rights db)
    {pair : RefreshToken × RefreshToken} (rotated : pair ∈ q.rotated) :
    rights.presents pair.1.owned := by
  cases q with
  | user q => cases rotated
  | token q =>
    cases q with
    | rotateRefreshToken old new =>
      cases rotated
      exact issued.2.1
    | _ => cases rotated

theorem about_session {userId : Uuid} (session : q.OfSession userId) (is : userId = row.id)
    (rotates : ∀ pair ∈ q.rotated, pair.1.userId = row.id) : q.About row := by
  cases q with
  | user q =>
    cases q with
    | getUserById id => exact Eq.trans session is
    | _ => exact absurd session fun h => h
  | token q =>
    cases q with
    | rotateRefreshToken old new => exact rotates _ rfl
    | saveRefreshToken token => trivial
    | publishSignupFailed owner => exact session
    | _ => exact Eq.trans session is

/-- A task for the user issues requests about him. -/
theorem about_own (own : task.actsFor env amb row = true) (sends : task.Sends env amb q)
    (issued : q.Issues (task.rights env amb) db) : q.About row := by
  cases task with
  | rollback userId => cases own
  | auth command =>
    cases command with
    | signup command => cases own
    | refresh refreshToken =>
      obtain ⟨p,verified,session⟩ := sends
      have sub : p.sub = row.id := by
        simpa [AccountTask.actsFor, verified] using own
      refine about_session session sub fun pair rotated => ?_
      obtain ⟨p',verified',owned⟩ := presents_rotated issued rotated
      cases verified.symm.trans verified'
      exact (Prod.mk.inj owned).1.trans sub
    | logout command =>
      exact about_session sends (of_decide_eq_true own) fun pair rotated =>
        absurd (presents_rotated issued rotated) fun h => h
    | signin command =>
      have named := of_decide_eq_true own
      cases q with
      | user q =>
        cases q with
        | getUserByEmail email =>
          obtain ⟨isEmail,is⟩ := sends
          rw [if_pos isEmail] at named
          exact is.trans named.symm
        | getUserByUsername username =>
          obtain ⟨isEmail,is⟩ := sends
          rw [isEmail, if_neg Bool.false_ne_true] at named
          exact is.trans named.symm
        | _ => exact absurd sends fun h => h
      | token q =>
        cases q with
        | saveRefreshToken token => trivial
        | _ => exact absurd sends fun h => h

/-- A session writes the tokens of its own user. -/
theorem writes_session {userId owner : Uuid} (session : q.OfSession userId)
    (writes : owner ∈ q.writes) (rotates : ∀ pair ∈ q.rotated, pair.1.userId = userId) :
    owner = userId := by
  cases q with
  | user q => cases writes
  | token q =>
    cases q with
    | rotateRefreshToken old new =>
      cases writes
      exact rotates _ rfl
    | saveRefreshToken token => exact absurd session fun h => h
    | publishSignupFailed owner => cases writes
    | getRefreshTokenIncludingDeleted identifier owner => cases writes
    | revokeRefreshToken identifier owner now =>
      cases writes
      exact session
    | revokeAllRefreshTokens owner now =>
      cases writes
      exact session

/-- The others write no tokens of the user. -/
theorem writes_other (foreign : task.actsFor env amb row = false) (sends : task.Sends env amb q)
    (issued : q.Issues (task.rights env amb) db)
    (accounts : q.OnAccounts env (Opened env ambs tasks) amb task db)
    (kept : AccountsKept env ambs tasks db) (there : row ∈ db.users.users)
    (fine : row.id ∉ db.signupFailed) (apart : amb.uuid 0 ≠ row.id) :
    ∀ owner ∈ q.writes, owner ≠ row.id := by
  intro owner writes
  cases task with
  | rollback userId =>
    cases q with
    | user q => cases writes
    | token q =>
      cases q with
      | saveRefreshToken token => exact absurd accounts fun h => h
      | publishSignupFailed owner => cases writes
      | _ => exact absurd sends fun h => h
  | auth command =>
    cases command with
    | signup command =>
      cases q with
      | user q => cases writes
      | token q =>
        cases q with
        | saveRefreshToken token =>
          cases writes
          have owns : token.userId = amb.uuid 0 := accounts
          rwa [owns]
        | publishSignupFailed owner => cases writes
        | _ => exact absurd sends fun h => h
    | signin command =>
      cases q with
      | user q => cases writes
      | token q =>
        cases q with
        | saveRefreshToken token =>
          cases writes
          obtain ⟨other,id,_,knows,mem | gone⟩ := accounts
          · intro same
            rw [keyed_unique kept.ids mem there (id.trans same)] at knows
            exact of_decide_eq_false foreign knows.property
          · rintro same
            rw [id, same] at gone
            exact fine gone
        | _ => exact absurd sends fun h => h
    | refresh refreshToken =>
      obtain ⟨p,verified,session⟩ := sends
      have sub : p.sub ≠ row.id := by
        simpa [AccountTask.actsFor, verified] using foreign
      refine fun same => sub ?_
      refine (writes_session session writes fun pair rotated => ?_).symm.trans same
      obtain ⟨p',verified',owned⟩ := presents_rotated issued rotated
      cases verified.symm.trans verified'
      exact (Prod.mk.inj owned).1
    | logout command =>
      have sub : command.userId ≠ row.id := of_decide_eq_false foreign
      refine fun same => sub ((writes_session sends writes fun pair rotated => ?_).symm.trans same)
      exact absurd (presents_rotated issued rotated) fun h => h

end Tasks

section Runs
variable {ι : Type} [DecidableEq ι] {env : AuthEnv} {ambs : ι → Ambient} {tasks : ι → AccountTask}
  {first rest : List ι} {i : ι} {response : SignupResponse} {row : User}

/-- The tasks for the user of this row. -/
def actingFor (env : AuthEnv) (ambs : ι → Ambient) (tasks : ι → AccountTask) (row : User)
    (k : ι) : Bool :=
  (tasks k).actsFor env (ambs k) row

/-- Once his signup has ended no step of the others can be seen from the sessions of the user. -/
theorem sessions_unwind (apart : DrawnApart ambs tasks)
    (saga : (accountPool env ambs tasks).Respects authHandler
      (fun e => e.request.FollowsSaga e.before) (first ++ rest))
    (ended : ((accountPool env ambs tasks).run authHandler first).threads i =
      .done (some (.signedUp response))) (own : row.id = (ambs i).uuid 0) :
    ((accountPool env ambs tasks).run authHandler first).Respects authHandler
      (Unwinds authHandler (AlikeFor row) (actingFor env ambs tasks row)) rest := by
  intro e mem
  have among : e ∈ (accountPool env ambs tasks).trace authHandler (first ++ rest) := by
    rw [Pool.trace_append]
    exact List.mem_append_right _ mem
  obtain ⟨past,later,rfl,now⟩ := Pool.mem_trace_split mem
  rw [← Pool.run_append] at now
  obtain ⟨_,before⟩ := Pool.issued_thread (now ▸ List.mem_singleton.mpr rfl)
  have upTo : (accountPool env ambs tasks).Respects authHandler
      (fun e => e.request.FollowsSaga e.before) (first ++ past) := fun e mem => saga e (by
    rw [← List.append_assoc, Pool.trace_append]
    exact List.mem_append_left _ mem)
  have kept : AccountsKept env ambs tasks e.before :=
    before ▸ (accountPool_run apart (first ++ past) upTo).1.1
  have keyed : e.before.TokensKeyed := before ▸ (accountPool_issues apart (first ++ past)).1
  have accounts := (accountPool_run apart _ saga).2 e among
  have issued := (accountPool_issues apart _).2 e among
  have sends : (tasks e.thread).Sends env (ambs e.thread) e.request :=
    Pool.only_run (fun k => sends_task (tasks k)) _ e among
  have other : e.thread ≠ i := by
    intro same
    rw [same, Pool.run_append, Pool.issued, Pool.run_done ended past] at now
    cases now
  have apart' : (ambs e.thread).uuid 0 ≠ row.id := fun same => other (apart.users (same.trans own))
  refine ⟨fun foreign t alike => ?_,fun mine t alike => ?_⟩
  · exact alike_other alike keyed issued
      (writes_other foreign sends issued accounts kept alike.there alike.fine apart')
      (undisturbed_step (accountStep e.request accounts) apart'.symm)
  · exact alike_about alike keyed (listed_kept kept alike.there) (about_own mine sends issued)
      issued

end Runs

/-- Sessions of different users do not meet: from the end of a signup on, leaving out the steps of
    everybody else changes neither what the commands for its user come to nor his tokens. -/
theorem sessions_apart {ι : Type} [DecidableEq ι] {env : AuthEnv} {ambs : ι → Ambient}
    {tasks : ι → AccountTask} (apart : DrawnApart ambs tasks) {first rest : List ι}
    (saga : (accountPool env ambs tasks).Respects authHandler
      (fun e => e.request.FollowsSaga e.before) (first ++ rest)) {i : ι}
    {response : SignupResponse} {row : User}
    (ended : ((accountPool env ambs tasks).run authHandler first).threads i =
      .done (some (.signedUp response)))
    (there : row ∈ ((accountPool env ambs tasks).run authHandler first).state.users.users)
    (own : row.id = response.id) :
    let whole := (accountPool env ambs tasks).run authHandler (first ++ rest)
    let alone := (accountPool env ambs tasks).run authHandler
      (first ++ rest.filter (actingFor env ambs tasks row))
    (∀ k, actingFor env ambs tasks row k = true → alone.threads k = whole.threads k) ∧
      alone.state.tokensOf row.id = whole.state.tokensOf row.id := by
  intro whole alone
  have upTo : (accountPool env ambs tasks).Respects authHandler
      (fun e => e.request.FollowsSaga e.before) first := fun e mem => saga e (by
    rw [Pool.trace_append]
    exact List.mem_append_left _ mem)
  obtain ⟨sound,_⟩ := accountPool_run apart first upTo
  obtain ⟨id,_,_,registered⟩ := (sound.post_done ended).signedUp response rfl
  rw [id] at own
  have start : AlikeFor row ((accountPool env ambs tasks).run authHandler first).state
      ((accountPool env ambs tasks).run authHandler first).state :=
    ⟨there,own.symm ▸ registered.kept,rfl,Persist.refl _,(accountPool_issues apart first).1,
      listed_kept sound.1 there⟩
  have final := Pool.purge ⟨start,fun _ _ => rfl⟩ (sessions_unwind apart saga ended own)
  rw [← Pool.run_append, ← Pool.run_append] at final
  exact ⟨final.threads,final.states.tokens⟩

/-- Both users sign in side by side, and the first one alone. -/
theorem sessions_apart_alice :
    ((accountPool plainEnv arrivalDraws arrivals).run authHandler (arrivalTurns ++ [2, 2])).threads
        2 =
      ((accountPool plainEnv arrivalDraws arrivals).run authHandler
        (arrivalTurns ++ [3, 2, 3, 2])).threads 2 ∧
    ((accountPool plainEnv arrivalDraws arrivals).run authHandler
        (arrivalTurns ++ [2, 2])).state.tokensOf 0 =
      ((accountPool plainEnv arrivalDraws arrivals).run authHandler
        (arrivalTurns ++ [3, 2, 3, 2])).state.tokensOf 0 := by
  let row : User := ⟨0,[0x40],[97],[3, 97],some [],some [],.user,none,0,none⟩
  obtain ⟨response,ended,user⟩ : ∃ response,
      ((accountPool plainEnv arrivalDraws arrivals).run authHandler arrivalTurns).threads 0 =
        .done (some (.signedUp response)) ∧ response.id = 0 := ⟨_,rfl,rfl⟩
  have there : row ∈ ((accountPool plainEnv arrivalDraws arrivals).run authHandler
      arrivalTurns).state.users.users := by decide
  have saga : (accountPool plainEnv arrivalDraws arrivals).Respects authHandler
      (fun e => e.request.FollowsSaga e.before) (arrivalTurns ++ [3, 2, 3, 2]) := by decide
  have left : [3, 2, 3, 2].filter (actingFor plainEnv arrivalDraws arrivals row) = [2, 2] := rfl
  obtain ⟨threads,tokens⟩ := sessions_apart arrivals_apart saga ended there user.symm
  rw [left] at threads tokens
  exact ⟨threads 2 rfl,tokens⟩

end Chatterbox
