import Chatterbox.Auth.History
import Chatterbox.Auth.Signup

/-!
The accounts behind the auth commands, whatever runs side by side. Accounts come from signups
only and go only with a signup that has failed, so that who signs in has signed up, and who has
signed up can sign in.
-/
namespace Chatterbox
open Concurrency Tables AuthDatabase

/-- What runs side by side: auth commands, and the commands that the saga issues. -/
inductive AccountTask where
  | auth (command : AuthCommand)
  | rollback (userId : Uuid)

namespace AccountTask

def execute (env : AuthEnv) (amb : Ambient) : AccountTask → AuthProgram (Option AuthOutcome)
  | auth command => some <$> command.execute env amb
  | rollback userId => (fun _ => none) <$> viaUserBus (DeleteUserHandler.execute userId)

/-- The draws that are left for the token. -/
def draws : AccountTask → Ambient → Ambient
  | auth command, amb => command.draws amb
  | rollback _, amb => amb

def rights (env : AuthEnv) (amb : Ambient) : AccountTask → TokenRights
  | auth command => command.rights env amb
  | rollback _ => amb.rights (fun _ => False) False

theorem rights_rowId (env : AuthEnv) (amb : Ambient) (task : AccountTask) :
    (task.rights env amb).rowId = (task.draws amb).uuid 1 := by
  cases task <;> rfl

theorem rights_jti (env : AuthEnv) (amb : Ambient) (task : AccountTask) :
    (task.rights env amb).jti = (task.draws amb).uuid 0 := by
  cases task <;> rfl

end AccountTask

/-- The row is the one that this signup inserts. -/
structure SignupCommand.Opens (env : AuthEnv) (amb : Ambient) (command : SignupCommand)
    (row : User) : Prop where
  id : row.id = amb.uuid 0
  email : row.email = command.email
  username : row.username ∈ amb.usernames
  password : CreateUserHandler.hashPassword env.bcrypt amb command.password = .ok row.password
  live : row.deletedAt = none

/-- The account of a signup is there, and nothing has been said against it. -/
structure SignupCommand.Registered (env : AuthEnv) (amb : Ambient) (command : SignupCommand)
    (db : AuthDatabase) : Prop where
  kept : amb.uuid 0 ∉ db.signupFailed
  row : ∃ row ∈ db.users.users, command.Opens env amb row

/-- The password check takes this row for that of the user who signs in. -/
structure SigninCommand.Knows (env : AuthEnv) (command : SigninCommand) (row : User) : Prop where
  property : (if env.isEmail command.property then row.email else row.username) = command.property
  password : env.bcrypt.compare command.password row.password = true

/-- A row with this id was taken for that of the user who signs in. It is there still, unless its
    signup has failed. -/
structure SigninCommand.Checked (env : AuthEnv) (opened : User → Prop) (command : SigninCommand)
    (row : User) (db : AuthDatabase) : Prop where
  opened : opened row
  knows : command.Knows env row
  there : row ∈ db.users.users ∨ row.id ∈ db.signupFailed

/-- The user that a new session of the task is for. -/
def AccountTask.Owns (env : AuthEnv) (opened : User → Prop) (amb : Ambient) :
    AccountTask → Uuid → AuthDatabase → Prop
  | .auth (.signup _), userId, _ => userId = amb.uuid 0
  | .auth (.signin command), userId, db =>
      ∃ row, row.id = userId ∧ command.Checked env opened row db
  | _, _, _ => False

def AuthRequest.deletes : {β : Type} → AuthRequest β → Option Uuid
  | _, .user (.deleteUser id) => some id
  | _, _ => none

/-- The deletions are those that the saga answers a failed signup with. -/
def AuthRequest.FollowsSaga {β : Type} (q : AuthRequest β) (db : AuthDatabase) : Prop :=
  ∀ id ∈ q.deletes, id ∈ db.signupFailed

instance {β : Type} (q : AuthRequest β) (db : AuthDatabase) : Decidable (q.FollowsSaga db) :=
  inferInstanceAs (Decidable (∀ id ∈ q.deletes, id ∈ db.signupFailed))

/-- What a request may do to the accounts, for the task that issues it. -/
def AuthRequest.OnAccounts (env : AuthEnv) (opened : User → Prop) (amb : Ambient)
    (task : AccountTask) : {β : Type} → AuthRequest β → AuthDatabase → Prop
  | _, .user (.saveUser row), db => (∀ u ∈ db.users.users, u.id ≠ row.id) ∧
      ∃ command, task = .auth (.signup command) ∧ command.Opens env amb row
  | _, .user (.deleteUser id), db => id ∈ db.signupFailed
  | _, .token (.saveRefreshToken row), db => task.Owns env opened amb row.userId db
  | _, .token (.publishSignupFailed userId), _ => userId = amb.uuid 0
  | _, _, _ => True

/-- The requests that start no session and leave the accounts and the failed signups alone. -/
def AuthRequest.SparesAccounts : {β : Type} → AuthRequest β → Prop
  | _, .user (.saveUser _) => False
  | _, .user (.deleteUser _) => False
  | _, .token (.saveRefreshToken _) => False
  | _, .token (.publishSignupFailed _) => False
  | _, _ => True

/-- The requests of a command that has a session of the user. -/
def AuthRequest.OfSession (userId : Uuid) : {β : Type} → AuthRequest β → Prop
  | _, .user (.getUserById id) => id = userId
  | _, .token (.getRefreshTokenIncludingDeleted _ owner) => owner = userId
  | _, .token (.rotateRefreshToken _ _) => True
  | _, .token (.revokeRefreshToken _ owner _) => owner = userId
  | _, .token (.revokeAllRefreshTokens owner _) => owner = userId
  | _, _ => False

/-- What one request of a task does to the accounts. -/
inductive AccountStep (env : AuthEnv) (amb : Ambient) (task : AccountTask)
    (db after : AuthDatabase) : Prop where
  | quiet (users : after.users.users = db.users.users)
      (failed : after.signupFailed = db.signupFailed)
  | opens {row : User} {command : SignupCommand} (is : task = .auth (.signup command))
      (opens : command.Opens env amb row)
      (fresh : ∀ u ∈ db.users.users,
        u.id ≠ row.id ∧ u.email ≠ row.email ∧ u.username ≠ row.username)
      (users : after.users.users = db.users.users ++ [row])
      (failed : after.signupFailed = db.signupFailed)
  | deletes {id : Uuid} (mem : id ∈ db.signupFailed)
      (users : after.users.users = db.users.users.filter fun u => u.id ≠ id)
      (failed : after.signupFailed = db.signupFailed)
  | fails (users : after.users.users = db.users.users)
      (failed : after.signupFailed = db.signupFailed ++ [amb.uuid 0])

section Steps
variable {env : AuthEnv} {opened : User → Prop} {amb : Ambient} {task : AccountTask}
  {db : AuthDatabase}

theorem spares_answer {β : Type} (q : AuthRequest β) (spares : q.SparesAccounts) :
    (authHandler.answer q db).2.users.users = db.users.users ∧
      (authHandler.answer q db).2.signupFailed = db.signupFailed := by
  cases q with
  | user q =>
    refine ⟨?_,rfl⟩
    cases q with
    | saveUser row => exact absurd spares id
    | deleteUser id => exact absurd spares fun h => h
    | insertBlock blockerId blockedId =>
      simp only [authHandler, AuthDatabase.answer, userHandler, UserDatabase.answer,
        UserDatabase.insertBlock]
      split_ifs <;> rfl
    | _ => rfl
  | token q =>
    cases q with
    | publishSignupFailed userId => exact absurd spares id
    | saveRefreshToken row => exact absurd spares id
    | rotateRefreshToken old new =>
      simp only [authHandler, AuthDatabase.answer, answerToken]
      cases storeToken old db.refreshTokens >>= storeToken new <;> exact ⟨rfl,rfl⟩
    | _ => exact ⟨rfl,rfl⟩

theorem saveToken_accounts (row : RefreshToken) (db : AuthDatabase) :
    (authHandler.answer (.token (.saveRefreshToken row)) db).2.users.users = db.users.users ∧
      (authHandler.answer (.token (.saveRefreshToken row)) db).2.signupFailed =
        db.signupFailed := by
  simp only [authHandler, AuthDatabase.answer, answerToken]
  cases storeToken row db.refreshTokens <;> exact ⟨rfl,rfl⟩

theorem accountStep {β : Type} (q : AuthRequest β) (issued : q.OnAccounts env opened amb task db) :
    AccountStep env amb task db (authHandler.answer q db).2 := by
  by_cases spares : q.SparesAccounts
  · obtain ⟨users,failed⟩ := spares_answer q spares
    exact .quiet users failed
  cases q with
  | user q =>
    cases q with
    | saveUser row =>
      obtain ⟨fresh,command,is,opens⟩ := issued
      have others : db.users.users.filter (fun u => u.id ≠ row.id) = db.users.users :=
        List.filter_eq_self.mpr fun u mem => decide_eq_true (fresh u mem)
      simp only [authHandler, AuthDatabase.answer, userHandler, UserDatabase.answer,
        UserDatabase.saveUser, others]
      split_ifs with emails usernames
      · exact .quiet rfl rfl
      · exact .quiet rfl rfl
      · refine .opens is opens (fun u mem => ⟨fresh u mem,fun same => emails ?_,
          fun same => usernames ?_⟩) (save_new fresh) rfl
        · exact List.any_eq_true.mpr ⟨u,mem,decide_eq_true same⟩
        · exact List.any_eq_true.mpr ⟨u,mem,decide_eq_true same⟩
    | deleteUser id => exact .deletes issued rfl rfl
    | _ => exact absurd trivial spares
  | token q =>
    cases q with
    | publishSignupFailed userId =>
      obtain rfl := issued
      exact .fails rfl rfl
    | saveRefreshToken row =>
      obtain ⟨users,failed⟩ := saveToken_accounts row db
      exact .quiet users failed
    | _ => exact absurd trivial spares

end Steps

/-- What the others leave alone: the account under this id, and every account whose signup has
    not failed. -/
structure Undisturbed (userId : Uuid) (s t : AuthDatabase) : Prop where
  failed : userId ∈ t.signupFailed ↔ userId ∈ s.signupFailed
  kept : userId ∉ s.signupFailed → ∀ u ∈ s.users.users, u.id = userId → u ∈ t.users.users
  absent : (∀ u ∈ s.users.users, u.id ≠ userId) → ∀ u ∈ t.users.users, u.id ≠ userId
  others : ∀ u ∈ s.users.users, u ∈ t.users.users ∨ u.id ∈ t.signupFailed
  grows : ∀ id ∈ s.signupFailed, id ∈ t.signupFailed

theorem Undisturbed.refl (userId : Uuid) (s : AuthDatabase) : Undisturbed userId s s :=
  ⟨Iff.rfl,fun _ _ mem _ => mem,fun absent => absent,fun _ mem => Or.inl mem,fun _ mem => mem⟩

theorem Undisturbed.trans {userId : Uuid} {s t u : AuthDatabase} (first : Undisturbed userId s t)
    (next : Undisturbed userId t u) : Undisturbed userId s u :=
  ⟨next.failed.trans first.failed,
    fun fine row mem is => next.kept (mt first.failed.mp fine) row (first.kept fine row mem is) is,
    fun absent => next.absent (first.absent absent),
    fun row mem => (first.others row mem).elim (next.others row) fun gone =>
      Or.inr (next.grows _ gone),
    fun id mem => next.grows id (first.grows id mem)⟩

/-- What a password check has found stays so. -/
theorem SigninCommand.Checked.stable {env : AuthEnv} {opened : User → Prop}
    {command : SigninCommand} {row : User} {own : Uuid} {s t : AuthDatabase}
    (checked : command.Checked env opened row s) (moved : Undisturbed own s t) :
    command.Checked env opened row t :=
  ⟨checked.opened,checked.knows,
    checked.there.elim (moved.others row) fun gone => Or.inr (moved.grows _ gone)⟩

def accountContract (env : AuthEnv) (opened : User → Prop) (amb : Ambient) (task : AccountTask) :
    Contract AuthRequest AuthDatabase where
  rely := Undisturbed (amb.uuid 0)
  admits q s := q.FollowsSaga s
  issues q s := q.OnAccounts env opened amb task s
  rely_refl := Undisturbed.refl _
  rely_trans := Undisturbed.trans

variable {ι : Type}

/-- The row is that of a signup among the tasks. -/
def Opened (env : AuthEnv) (ambs : ι → Ambient) (tasks : ι → AccountTask) (row : User) : Prop :=
  ∃ i command, tasks i = .auth (.signup command) ∧ command.Opens env (ambs i) row

/-- Every account is that of a signup, and the indexes hold. -/
structure AccountsKept (env : AuthEnv) (ambs : ι → Ambient) (tasks : ι → AccountTask)
    (db : AuthDatabase) : Prop where
  ids : Keyed User.id db.users.users
  emails : Keyed User.email db.users.users
  usernames : Keyed User.username db.users.users
  opened : ∀ row ∈ db.users.users, Opened env ambs tasks row

section Invariant
variable {env : AuthEnv} {ambs : ι → Ambient} {tasks : ι → AccountTask} {s t : AuthDatabase}

theorem AccountsKept.of_users (kept : AccountsKept env ambs tasks s)
    (users : t.users.users = s.users.users) : AccountsKept env ambs tasks t :=
  ⟨users ▸ kept.ids,users ▸ kept.emails,users ▸ kept.usernames,users ▸ kept.opened⟩

theorem kept_step {i : ι} (kept : AccountsKept env ambs tasks s)
    (step : AccountStep env (ambs i) (tasks i) s t) : AccountsKept env ambs tasks t := by
  cases step with
  | quiet users => exact kept.of_users users
  | fails users => exact kept.of_users users
  | deletes _ users =>
    refine ⟨?_,?_,?_,?_⟩
    · rw [users]
      exact keyed_filter kept.ids _
    · rw [users]
      exact keyed_filter kept.emails _
    · rw [users]
      exact keyed_filter kept.usernames _
    · rw [users]
      exact fun row mem => kept.opened row (List.mem_filter.mp mem).1
  | @opens row _ is opens fresh users =>
    have new : ∀ {Key : Type} (key : User → Key), (∀ u ∈ s.users.users, key u ≠ key row) →
        key row ∉ s.users.users.map key := by
      intro Key key apart mem
      obtain ⟨u,there,same⟩ := List.mem_map.mp mem
      exact apart u there same
    refine ⟨?_,?_,?_,?_⟩
    · rw [users]
      exact keyed_snoc kept.ids (new _ fun u mem => (fresh u mem).1)
    · rw [users]
      exact keyed_snoc kept.emails (new _ fun u mem => (fresh u mem).2.1)
    · rw [users]
      exact keyed_snoc kept.usernames (new _ fun u mem => (fresh u mem).2.2)
    · intro row mem
      rw [users] at mem
      rcases List.mem_append.mp mem with old | new
      · exact kept.opened row old
      · rw [List.mem_singleton.mp new]
        exact ⟨i,_,is,opens⟩

theorem undisturbed_same (userId : Uuid) (users : t.users.users = s.users.users)
    (failed : t.signupFailed = s.signupFailed) : Undisturbed userId s t :=
  ⟨by rw [failed],fun _ u mem _ => users ▸ mem,fun absent => users ▸ absent,
    fun u mem => Or.inl (users ▸ mem),fun id mem => failed ▸ mem⟩

theorem undisturbed_step {amb : Ambient} {task : AccountTask} {userId : Uuid}
    (step : AccountStep env amb task s t) (other : userId ≠ amb.uuid 0) :
    Undisturbed userId s t := by
  cases step with
  | quiet users failed => exact undisturbed_same userId users failed
  | fails users failed =>
    refine ⟨?_,fun _ u mem _ => users ▸ mem,fun absent => users ▸ absent,
      fun u mem => Or.inl (users ▸ mem),fun id mem => failed ▸ List.mem_append_left _ mem⟩
    rw [failed, List.mem_append, List.mem_singleton, or_iff_left other]
  | @deletes id mem users failed =>
    refine ⟨by rw [failed],fun fine u there is => ?_,fun absent u there => ?_,fun u there => ?_,
      fun _ mem => failed ▸ mem⟩
    · rw [users]
      refine List.mem_filter.mpr ⟨there,decide_eq_true fun same => fine ?_⟩
      rw [← is, same]
      exact mem
    · rw [users] at there
      exact absent u (List.mem_filter.mp there).1
    · by_cases same : u.id = id
      · exact Or.inr (failed ▸ same ▸ mem)
      · rw [users]
        exact Or.inl (List.mem_filter.mpr ⟨there,decide_eq_true same⟩)
  | opens is opens fresh users failed =>
    refine ⟨by rw [failed],fun _ u mem _ => users ▸ List.mem_append_left _ mem,
      fun absent u mem => ?_,fun u mem => Or.inl (users ▸ List.mem_append_left _ mem),
      fun id mem => failed ▸ mem⟩
    rw [users] at mem
    rcases List.mem_append.mp mem with old | new
    · exact absent u old
    · rw [List.mem_singleton.mp new, opens.id]
      exact other.symm

/-- Tasks with draws of their own do not disturb each other. -/
theorem accounts_compatible (apart : Function.Injective fun i => (ambs i).uuid 0) :
    Pool.Compatible authHandler (AccountsKept env ambs tasks)
      fun i => accountContract env (Opened env ambs tasks) (ambs i) (tasks i) := by
  intro i j other β q s kept _ issued
  exact undisturbed_step (accountStep q issued) fun same => other (apart same)

end Invariant

section Meets
variable {env : AuthEnv} {ambs : ι → Ambient} {tasks : ι → AccountTask} {amb : Ambient}
  {task : AccountTask} {α : Type}

theorem onAccounts_of_spares {β : Type} (q : AuthRequest β) (spares : q.SparesAccounts)
    (opened : User → Prop) (db : AuthDatabase) : q.OnAccounts env opened amb task db := by
  cases q with
  | user q =>
    cases q with
    | saveUser row => exact absurd spares id
    | deleteUser id => exact absurd spares fun h => h
    | _ => trivial
  | token q =>
    cases q with
    | publishSignupFailed userId => exact absurd spares id
    | saveRefreshToken row => exact absurd spares id
    | _ => trivial

/-- A part of a task that leaves the accounts alone. -/
theorem meets_spares {p : AuthProgram α} (only : p.Only AuthRequest.SparesAccounts)
    (s : AuthDatabase) :
    p.Meets authHandler (AccountsKept env ambs tasks)
      (accountContract env (Opened env ambs tasks) amb task)
      (fun _ t => Undisturbed (amb.uuid 0) s t) s :=
  only.meets fun q t spares kept => by
    obtain ⟨users,failed⟩ := spares_answer q spares
    exact ⟨onAccounts_of_spares q spares _ t,kept.of_users users,
      undisturbed_same _ users failed⟩

theorem viaUserBus_bind {β : Type} (p : UserProgram α) (f : α → UserProgram β) :
    viaUserBus (p >>= f) = viaUserBus p >>= fun a => viaUserBus (f a) :=
  Program.translate_bind _ _ p f

theorem viaUserBus_ask (q : UserRequest (Answer α)) :
    viaUserBus (ask q) = ask (AuthRequest.user q) :=
  congrArg (Program.request (AuthRequest.user q)) (funext fun b => by cases b <;> rfl)

theorem viaUserBus_done (a : α) : viaUserBus (.done a) = .done a := rfl

theorem SignupCommand.Registered.stable {command : SignupCommand} {s t : AuthDatabase}
    (registered : command.Registered env amb s) (moved : Undisturbed (amb.uuid 0) s t) :
    command.Registered env amb t := by
  obtain ⟨kept,row,mem,opens⟩ := registered
  exact ⟨mt moved.failed.mp kept,row,moved.kept kept row mem opens.id,opens⟩

theorem of_error {ε : Type} {e : ε} {P : α → Prop} (a : α) (is : (.error e : Except ε α) = .ok a) :
    P a := by cases is

/-- The name that the loop ends with is one of the draws. -/
theorem meets_generateUsername (draws : List JsString) (s : AuthDatabase) :
    (viaUserBus (CreateUserHandler.generateUsername draws)).Meets authHandler
      (AccountsKept env ambs tasks)
      (accountContract env (Opened env ambs tasks) amb task)
      (fun r t => Undisturbed (amb.uuid 0) s t ∧ ∀ name, r = .ok name → name ∈ draws) s := by
  induction draws generalizing s with
  | nil => exact fun t moved _ => ⟨moved,of_error⟩
  | cons name draws ih =>
    unfold CreateUserHandler.generateUsername
    rw [viaUserBus_bind, viaUserBus_ask]
    refine meets_ask_bind fun t moved kept _ =>
      ⟨trivial,kept.of_users rfl,?_,fun _ answered => by cases answered⟩
    intro taken _
    cases taken with
    | false =>
      refine fun u later _ => ⟨moved.trans later,fun other is => ?_⟩
      cases is
      exact List.mem_cons_self
    | true =>
      refine (ih t).weaken fun r u _ after => ⟨moved.trans after.1,fun other is => ?_⟩
      exact List.mem_cons_of_mem _ (after.2 other is)

theorem answer_saveUser {row : User} {db : AuthDatabase}
    (saved : (authHandler.answer (.user (.saveUser row)) db).1 = .ok ()) :
    row ∈ (authHandler.answer (.user (.saveUser row)) db).2.users.users ∧
      (authHandler.answer (.user (.saveUser row)) db).2.signupFailed = db.signupFailed := by
  simp only [authHandler, AuthDatabase.answer, userHandler, UserDatabase.answer,
    UserDatabase.saveUser] at saved ⊢
  split_ifs at saved ⊢
  exact ⟨mem_save.mpr (Or.inl rfl),trivial⟩

/-- A signup that has created its user has an account. -/
theorem meets_createUser {i : ι} {command : SignupCommand}
    (is : tasks i = .auth (.signup command)) {s : AuthDatabase}
    (fresh : ∀ u ∈ s.users.users, u.id ≠ (ambs i).uuid 0)
    (fine : (ambs i).uuid 0 ∉ s.signupFailed) :
    (UserIntegrationAdapter.createUser env (ambs i)
      { email := command.email, username := none, password := command.password,
        firstName := command.firstName, lastName := command.lastName, avatar := none }).Meets
      authHandler (AccountsKept env ambs tasks)
      (accountContract env (Opened env ambs tasks) (ambs i) (tasks i))
      (fun r t => ∀ user, r = .ok user →
        user.id = (ambs i).uuid 0 ∧ command.Registered env (ambs i) t) s := by
  unfold UserIntegrationAdapter.createUser CreateUserHandler.execute
  simp only [viaUserBus_bind, viaUserBus_ask, Program.bind_assoc]
  refine meets_ask_bind fun t first kept _ =>
    ⟨trivial,kept.of_users rfl,?_,fun _ _ _ _ _ => of_error⟩
  intro emailExists _
  cases emailExists with
  | true => exact fun _ _ _ => of_error
  | false =>
    have choose : CreateUserHandler.chooseUsername (ambs i) none =
        CreateUserHandler.generateUsername (ambs i).usernames := rfl
    simp only [Bool.false_eq_true, if_false, viaUserBus_bind, choose, Program.bind_assoc]
    refine (meets_generateUsername (ambs i).usernames _).bind kept ?_ (fun _ _ _ _ => of_error)
    intro username u kept named
    obtain ⟨second,drawn⟩ := named
    cases hashed : CreateUserHandler.hashPassword env.bcrypt (ambs i) command.password with
    | error e => exact fun _ _ _ => of_error
    | ok password =>
      simp only [Program.lift_ok, viaUserBus_done, Program.done_bind]
      cases created : UserEntity.create (ambs i) command.email username password command.firstName
          command.lastName none with
      | error e => exact fun _ _ _ => of_error
      | ok user =>
        have opens : command.Opens env (ambs i) (User.toOrm user) := by
          unfold UserEntity.create UserEntity.new at created
          split_ifs at created
          cases created
          exact ⟨rfl,rfl,drawn username rfl,hashed,rfl⟩
        have moved : Undisturbed ((ambs i).uuid 0) s u :=
          (first.trans (undisturbed_same _ rfl rfl)).trans second
        simp only [Program.lift_ok, viaUserBus_done, Program.done_bind, Program.pure_eq,
          UserPostgresRepository.save, User.toEntity_toOrm, viaUserBus_bind, viaUserBus_ask,
          Program.bind_assoc]
        refine meets_ask_bind fun v third kept _ => ?_
        have unused : ∀ row ∈ v.users.users, row.id ≠ (ambs i).uuid 0 :=
          (moved.trans third).absent fresh
        have issues : AuthRequest.OnAccounts env (Opened env ambs tasks) (ambs i)
            (tasks i) (.user (.saveUser (User.toOrm user))) v :=
          ⟨fun row mem => opens.id ▸ unused row mem,command,is,opens⟩
        refine ⟨issues,kept_step kept (accountStep _ issues),fun _ saved => ?_,
          fun _ _ _ _ _ => of_error⟩
        obtain ⟨there,same⟩ := answer_saveUser saved
        have registered : command.Registered env (ambs i)
            (authHandler.answer (.user (.saveUser (User.toOrm user))) v).2 := by
          refine ⟨?_,_,there,opens⟩
          rw [same]
          exact mt (moved.trans third).failed.mp fine
        -- the publication of the new user is left
        intro w fourth kept _
        refine ⟨trivial,kept.of_users rfl,fun x fifth _ res returned => ?_⟩
        cases returned
        have published : Undisturbed ((ambs i).uuid 0) w (authHandler.answer (.user (.publish
            (.userCreated user.id user.email user.username))) w).2 := undisturbed_same _ rfl rfl
        exact ⟨opens.id,registered.stable (fourth.trans (published.trans fifth))⟩

/-- A session is started for the user that the task owns by then. -/
theorem meets_saveToken {entity : RefreshTokenEntity} {s : AuthDatabase}
    (owns : ∀ t, Undisturbed (amb.uuid 0) s t →
      task.Owns env (Opened env ambs tasks) amb entity.userId t) :
    (AuthPostgresRepository.save entity >>= fun _ => (Program.done () : AuthProgram Unit)).Meets
      authHandler (AccountsKept env ambs tasks)
      (accountContract env (Opened env ambs tasks) amb task)
      (fun _ t => Undisturbed (amb.uuid 0) s t) s := by
  unfold AuthPostgresRepository.save
  rw [Program.bind_assoc]
  refine meets_ask_bind fun t moved kept _ => ?_
  obtain ⟨users,failed⟩ := saveToken_accounts (RefreshToken.fromDomain entity) t
  have saved := moved.trans (undisturbed_same (amb.uuid 0) users failed)
  refine ⟨owns t moved,kept.of_users users,fun _ _ => ?_,fun _ _ _ later _ => saved.trans later⟩
  cases (RefreshToken.fromDomain entity).toDomain <;> exact fun _ later _ => saved.trans later

/-- A signup that has succeeded has its account still. -/
theorem meets_signupTask {i : ι} {command : SignupCommand}
    (is : tasks i = .auth (.signup command)) {s : AuthDatabase}
    (kept : AccountsKept env ambs tasks s)
    (fresh : ∀ u ∈ s.users.users, u.id ≠ (ambs i).uuid 0)
    (fine : (ambs i).uuid 0 ∉ s.signupFailed) :
    (SignupHandler.execute env (ambs i) command).Meets authHandler (AccountsKept env ambs tasks)
      (accountContract env (Opened env ambs tasks) (ambs i) (tasks i))
      (fun r t => ∀ response, r = .ok response →
        response.id = (ambs i).uuid 0 ∧ command.Registered env (ambs i) t) s := by
  unfold SignupHandler.execute
  refine (meets_createUser is fresh fine).bind kept ?_ (fun _ _ _ _ => of_error)
  intro user t kept created
  obtain ⟨id,registered⟩ := created user rfl
  cases issued : issueToken env ((ambs i).skip 1) user.id .user with
  | error e => exact fun _ _ _ => of_error
  | ok pair =>
    simp only [Program.lift_ok, Program.done_bind]
    refine Program.Meets.bind (?_ : Program.Meets _ _ _
      (fun r u => ∀ a, r = .ok a → command.Registered env (ambs i) u) _ _) kept
      (fun _ u _ holds v moved _ response is => ?_) (fun _ _ _ _ => of_error)
    · have owner : pair.2.userId = (ambs i).uuid 0 := (issueToken_fields issued).2.2.1.trans id
      refine (meets_saveToken fun u _ => ?_).tryCatch kept
        (fun _ u _ moved _ _ => registered.stable moved) (fun _ u kept _ => ?_)
      · rw [is]
        exact owner
      intro v moved kept _
      exact ⟨id,kept.of_users rfl,fun _ _ _ => of_error⟩
    · cases is
      exact ⟨id,(holds () rfl).stable moved⟩

/-- A signup of one of the tasks has stored the row that the signin has been checked against. -/
def SigninCommand.Vouched (env : AuthEnv) (ambs : ι → Ambient) (tasks : ι → AccountTask)
    (command : SigninCommand) (userId : Uuid) : Prop :=
  ∃ i signup row, tasks i = .auth (.signup signup) ∧ signup.Opens env (ambs i) row ∧
    command.Knows env row ∧ userId = row.id

/-- The user that the handler returns is that of a row that it has checked. -/
def SigninCommand.Admitted (env : AuthEnv) (ambs : ι → Ambient) (tasks : ι → AccountTask)
    (command : SigninCommand) (userId : Uuid) (db : AuthDatabase) : Prop :=
  ∃ row, row.id = userId ∧ command.Checked env (Opened env ambs tasks) row db

theorem SigninCommand.Admitted.vouched {command : SigninCommand} {userId : Uuid}
    {db : AuthDatabase} (admitted : command.Admitted env ambs tasks userId db) :
    command.Vouched env ambs tasks userId := by
  obtain ⟨row,id,⟨i,signup,is,opens⟩,knows,_⟩ := admitted
  exact ⟨i,signup,row,is,opens,knows,id.symm⟩

/-- The check of a row that a select has come up with. -/
theorem meets_checked {command : SigninCommand} {found : Option User} {s : AuthDatabase}
    {check : Option UserReadDto → UserProgram UserReadDto}
    (nobody : check none = throw invalidCredentialsException)
    (known : ∀ user, check (some user) =
      if env.bcrypt.compare command.password user.password then return user
      else throw invalidCredentialsException)
    (kept : AccountsKept env ambs tasks s) (there : ∀ row, found = some row →
      row ∈ s.users.users ∧
        (if env.isEmail command.property then row.email else row.username) = command.property) :
    (viaUserBus (check (found.map UserPostgresReadRepository.mapToDto)) >>= fun res =>
        (return UserIntegrationAdapter.toAuthUser res : AuthProgram AuthUser)).Meets authHandler
      (AccountsKept env ambs tasks)
      (accountContract env (Opened env ambs tasks) amb task)
      (fun r t => ∀ user, r = .ok user → command.Admitted env ambs tasks user.id t) s := by
  cases found with
  | none =>
    rw [Option.map_none, nobody]
    exact fun _ _ _ => of_error
  | some row =>
    obtain ⟨mem,named⟩ := there row rfl
    rw [Option.map_some, known]
    split
    · rename_i matching
      intro t moved _ user is
      cases is
      have checked : command.Checked env (Opened env ambs tasks) row s :=
        ⟨kept.opened row mem,⟨named,matching⟩,Or.inl mem⟩
      exact ⟨row,rfl,checked.stable moved⟩
    · exact fun _ _ _ => of_error

/-- The handler checks what it has found. -/
theorem validatePassword_checks (env : AuthEnv) (command : SigninCommand) :
    ∃ check : Option UserReadDto → UserProgram UserReadDto,
      check none = throw invalidCredentialsException ∧
      (∀ user, check (some user) =
        if env.bcrypt.compare command.password user.password then return user
        else throw invalidCredentialsException) ∧
      ValidatePasswordHandler.execute env.isEmail env.bcrypt command.property command.password =
        ValidatePasswordHandler.findUser env.isEmail command.property >>= check :=
  ⟨_,rfl,fun _ => rfl,rfl⟩

theorem meets_validatePassword (command : SigninCommand) (s : AuthDatabase) :
    (UserIntegrationAdapter.validatePassword env command.property command.password).Meets
      authHandler (AccountsKept env ambs tasks)
      (accountContract env (Opened env ambs tasks) amb task)
      (fun r t => ∀ user, r = .ok user → command.Admitted env ambs tasks user.id t) s := by
  have live : ∀ {key : User → JsString} {db : UserDatabase} {row : User},
      lookup key command.property db.live = some row →
        row ∈ db.users ∧ key row = command.property :=
    fun found => ⟨(List.mem_filter.mp (lookup_mem found).1).1,(lookup_mem found).2⟩
  obtain ⟨check,nobody,known,is⟩ := validatePassword_checks env command
  unfold UserIntegrationAdapter.validatePassword
  rw [is, ValidatePasswordHandler.findUser]
  by_cases email : env.isEmail command.property = true
  · rw [if_pos email, UserPostgresReadRepository.getUserByEmail]
    simp only [viaUserBus_bind, viaUserBus_ask, Program.bind_assoc]
    refine meets_ask_bind fun t _ kept _ =>
      ⟨trivial,kept.of_users rfl,fun found is => ?_,fun _ _ _ _ _ => of_error⟩
    refine meets_checked nobody known (kept.of_users rfl) fun row some => ?_
    rw [if_pos email]
    exact live ((Except.ok.inj is).trans some)
  · rw [if_neg email, UserPostgresReadRepository.getUserByUsername]
    simp only [viaUserBus_bind, viaUserBus_ask, Program.bind_assoc]
    refine meets_ask_bind fun t _ kept _ =>
      ⟨trivial,kept.of_users rfl,fun found is => ?_,fun _ _ _ _ _ => of_error⟩
    refine meets_checked nobody known (kept.of_users rfl) fun row some => ?_
    rw [if_neg email]
    exact live ((Except.ok.inj is).trans some)

theorem meets_signinTask {command : SigninCommand} (is : task = .auth (.signin command))
    {s : AuthDatabase} (kept : AccountsKept env ambs tasks s) :
    (SigninHandler.execute env amb command).Meets authHandler (AccountsKept env ambs tasks)
      (accountContract env (Opened env ambs tasks) amb task)
      (fun r _ => ∀ response, r = .ok response →
        command.Vouched env ambs tasks response.user.id) s := by
  unfold SigninHandler.execute
  refine (meets_validatePassword command s).bind kept ?_ (fun _ _ _ _ => of_error)
  intro user t kept admitted
  obtain ⟨row,id,checked⟩ := admitted user rfl
  cases issued : issueToken env amb user.id user.role with
  | error e => exact fun _ _ _ => of_error
  | ok pair =>
    simp only [Program.lift_ok, Program.done_bind]
    have owner : pair.2.userId = user.id := (issueToken_fields issued).2.2.1
    refine Program.Meets.bind (?_ : Program.Meets _ _ _ (fun _ _ => True) _ _) kept
      (fun _ u _ _ v _ _ response is => ?_) (fun _ _ _ _ => of_error)
    · refine (meets_saveToken fun u moved => ?_).tryCatch kept (fun _ _ _ _ => trivial)
        fun _ _ _ _ _ _ _ => trivial
      rw [is, owner]
      exact ⟨row,id,checked.stable moved⟩
    · cases is
      exact (admitted user rfl).vouched

theorem sends_refresh {refreshToken : JsString} {p : RefreshTokenPayload}
    (verified : TokenService.verifyRefreshToken env amb.now refreshToken = some p) :
    (RefreshTokensHandler.execute env amb refreshToken).Only (AuthRequest.OfSession p.sub) := by
  have user : (UserIntegrationAdapter.getUserById p.sub).Only (AuthRequest.OfSession p.sub) := by
    unfold UserIntegrationAdapter.getUserById GetUserByIdHandler.execute
      UserPostgresReadRepository.getUserById
    simp only [viaUserBus_bind, viaUserBus_ask, Program.bind_assoc]
    refine (only_ask rfl).bind fun found => ?_
    cases found <;> trivial
  have exchanged : ∀ current, (RefreshTokensHandler.exchange env amb p.sub current).Only
      (AuthRequest.OfSession p.sub) := by
    intro current
    unfold RefreshTokensHandler.exchange
    refine user.bind fun found => ?_
    cases found with
    | none => trivial
    | some user =>
      refine (Program.only_lift _).bind fun pair => ?_
      exact Program.Only.bind (Program.Only.tryCatch (only_ask trivial) fun _ => trivial)
        fun _ => trivial
  unfold RefreshTokensHandler.execute
  simp only [verified]
  refine Program.Only.bind ((only_ask rfl).bind fun found => ?_) fun found => ?_
  · cases found with
    | none => trivial
    | some row => exact (Program.only_lift _).bind fun _ => trivial
  · cases found with
    | none => trivial
    | some current =>
      dsimp only
      split_ifs
      · exact Program.Only.bind ⟨rfl,fun b => by cases b <;> trivial⟩ fun _ => trivial
      · trivial
      · exact exchanged _

theorem sends_logout (now : Time) (command : LogoutCommand) :
    (LogoutHandler.execute env now command).Only (AuthRequest.OfSession command.userId) := by
  have all : (AuthPostgresRepository.revokeAllRefreshTokens now command.userId).Only
      (AuthRequest.OfSession command.userId) := ⟨rfl,fun b => by cases b <;> trivial⟩
  unfold LogoutHandler.execute
  split
  · split
    · exact ⟨rfl,fun b => by cases b <;> trivial⟩
    · exact all
  · exact all

theorem spares_session {β : Type} {q : AuthRequest β} {userId : Uuid} (own : q.OfSession userId) :
    q.SparesAccounts := by
  cases q with
  | user q => cases q <;> trivial
  | token q => cases q <;> trivial

theorem only_refresh (amb : Ambient) (refreshToken : JsString) :
    (RefreshTokensHandler.execute env amb refreshToken).Only AuthRequest.SparesAccounts := by
  cases verified : TokenService.verifyRefreshToken env amb.now refreshToken with
  | none =>
    unfold RefreshTokensHandler.execute
    simp only [verified]
    trivial
  | some p => exact (sends_refresh verified).weaken fun _ => spares_session

theorem only_logout (now : Time) (command : LogoutCommand) :
    (LogoutHandler.execute env now command).Only AuthRequest.SparesAccounts :=
  (sends_logout now command).weaken fun _ => spares_session

theorem meets_rollback (userId : Uuid) (s : AuthDatabase) {i : ι} :
    (viaUserBus (DeleteUserHandler.execute userId)).Meets authHandler
      (AccountsKept env ambs tasks)
      (accountContract env (Opened env ambs tasks) (ambs i) (tasks i)) (fun _ _ => True) s := by
  unfold DeleteUserHandler.execute
  rw [viaUserBus_bind, viaUserBus_ask]
  refine meets_ask_bind fun t _ kept follows =>
    ⟨follows userId rfl,?_,fun _ _ _ _ _ => trivial,fun _ answered => by cases answered⟩
  have issues : AuthRequest.OnAccounts env (Opened env ambs tasks) (ambs i) (tasks i)
      (.user (.deleteUser userId)) t :=
    follows userId rfl
  exact kept_step kept (accountStep _ issues)

end Meets

/-- A pool of tasks, each with its own draws, from empty tables on. -/
def accountPool (env : AuthEnv) (ambs : ι → Ambient) (tasks : ι → AccountTask) :
    Pool AuthRequest Failure (Option AuthOutcome) AuthDatabase ι :=
  { state := noUsers, threads := fun i => (tasks i).execute env (ambs i) }

/-- What holds at the end of a task: a signup that has succeeded has its account, and a signin
    was checked against the account of a signup. -/
structure AccountEnd (env : AuthEnv) (ambs : ι → Ambient) (tasks : ι → AccountTask) (i : ι)
    (r : Except Failure (Option AuthOutcome)) (db : AuthDatabase) : Prop where
  signedUp : ∀ response, r = .ok (some (.signedUp response)) →
    response.id = (ambs i).uuid 0 ∧ ∃ command, tasks i = .auth (.signup command) ∧
      command.Registered env (ambs i) db
  signedIn : ∀ response, r = .ok (some (.signedIn response)) →
    ∃ command, tasks i = .auth (.signin command) ∧ command.Vouched env ambs tasks response.user.id

section Pools
variable {env : AuthEnv} {ambs : ι → Ambient} {tasks : ι → AccountTask}

theorem keyed_noUsers : AccountsKept env ambs tasks noUsers :=
  ⟨List.nodup_nil,List.nodup_nil,List.nodup_nil,nofun⟩

theorem tokens_noUsers : noUsers.TokensKeyed := ⟨List.nodup_nil,List.nodup_nil⟩

theorem absent_noUsers (id jti : Uuid) : noUsers.Absent id jti :=
  fun _ mem => absurd mem List.not_mem_nil

theorem meets_authTask {i : ι} {command : AuthCommand} (is : tasks i = .auth command) :
    (command.execute env (ambs i)).Meets authHandler (AccountsKept env ambs tasks)
      (accountContract env (Opened env ambs tasks) (ambs i) (tasks i))
      (fun r t => AccountEnd env ambs tasks i (some <$> r) t) noUsers := by
  cases command with
  | refresh refreshToken =>
    exact (meets_spares (only_refresh _ refreshToken) _).map keyed_noUsers
      (fun _ _ _ _ => ⟨nofun,nofun⟩) (fun _ _ _ _ => ⟨nofun,nofun⟩)
  | logout command =>
    exact (meets_spares (only_logout _ command) _).map keyed_noUsers
      (fun _ _ _ _ => ⟨nofun,nofun⟩) (fun _ _ _ _ => ⟨nofun,nofun⟩)
  | signin command =>
    refine (meets_signinTask is keyed_noUsers).map keyed_noUsers (fun answer t _ vouched => ?_)
      (fun _ _ _ _ => ⟨nofun,nofun⟩)
    refine ⟨nofun,fun response signed => ?_⟩
    cases signed
    exact ⟨command,is,vouched answer rfl⟩
  | signup command =>
    refine (meets_signupTask is keyed_noUsers nofun nofun).map keyed_noUsers
      (fun answer t _ registered => ?_) (fun _ _ _ _ => ⟨nofun,nofun⟩)
    refine ⟨fun response signed => ?_,nofun⟩
    cases signed
    obtain ⟨id,there⟩ := registered answer rfl
    exact ⟨id,command,is,there⟩

theorem meets_task (i : ι) : ((tasks i).execute env (ambs i)).Meets authHandler
    (AccountsKept env ambs tasks)
      (accountContract env (Opened env ambs tasks) (ambs i) (tasks i))
    (AccountEnd env ambs tasks i) noUsers := by
  have meets : ∀ task, tasks i = task → (task.execute env (ambs i)).Meets authHandler
      (AccountsKept env ambs tasks)
      (accountContract env (Opened env ambs tasks) (ambs i) (tasks i))
      (AccountEnd env ambs tasks i) noUsers := by
    intro task is
    cases task with
    | auth command =>
      exact (meets_authTask is).map keyed_noUsers (fun _ _ _ ends => ends) (fun _ _ _ ends => ends)
    | rollback userId =>
      exact (meets_rollback userId noUsers).map keyed_noUsers (fun _ _ _ _ => ⟨nofun,nofun⟩)
        (fun _ _ _ _ => ⟨nofun,nofun⟩)
  exact meets _ rfl

variable [DecidableEq ι]

/-- The uuids that the tasks draw: no two of them draw the same for a user, for a row or for a
    token. -/
structure DrawnApart (ambs : ι → Ambient) (tasks : ι → AccountTask) : Prop where
  users : Function.Injective fun i => (ambs i).uuid 0
  rowIds : Function.Injective fun i => ((tasks i).draws (ambs i)).uuid 1
  jtis : Function.Injective fun i => ((tasks i).draws (ambs i)).uuid 0

/-- Every task keeps to what it may do, and what it ends with holds. -/
theorem accountPool_run (apart : DrawnApart ambs tasks) (schedule : List ι)
    (saga : (accountPool env ambs tasks).Respects authHandler
      (fun e => e.request.FollowsSaga e.before) schedule) :
    ((accountPool env ambs tasks).run authHandler schedule).Sound authHandler
      (AccountsKept env ambs tasks)
      (fun i => accountContract env (Opened env ambs tasks) (ambs i) (tasks i))
      (AccountEnd env ambs tasks) ∧
    (accountPool env ambs tasks).Respects authHandler
      (fun e => e.request.OnAccounts env (Opened env ambs tasks) (ambs e.thread) (tasks e.thread)
        e.before) schedule :=
  Pool.sound_run (accounts_compatible apart.users) ⟨keyed_noUsers,meets_task⟩ schedule saga

/-- Every token that is saved has a row and a jti of its own. -/
theorem accountPool_issues (apart : DrawnApart ambs tasks) (schedule : List ι) :
    ((accountPool env ambs tasks).run authHandler schedule).state.TokensKeyed ∧
    (accountPool env ambs tasks).Respects authHandler
      (fun e => e.request.Issues ((tasks e.thread).rights env (ambs e.thread)) e.before)
      schedule := by
  have compatible : Pool.Compatible authHandler TokensKeyed
      (fun i => tokenContract ((tasks i).rights env (ambs i))) := by
    refine tokens_compatible ?_ ?_
    · simp only [AccountTask.rights_rowId]
      exact apart.rowIds
    · simp only [AccountTask.rights_jti]
      exact apart.jtis
  have start : (accountPool env ambs tasks).Sound authHandler TokensKeyed
      (fun i => tokenContract ((tasks i).rights env (ambs i))) (fun _ _ _ => True) := by
    refine ⟨tokens_noUsers,fun i => ?_⟩
    change ((tasks i).execute env (ambs i)).Meets authHandler TokensKeyed
      (tokenContract ((tasks i).rights env (ambs i))) (fun _ _ => True) noUsers
    cases tasks i with
    | auth command =>
      exact (meets_command command tokens_noUsers (absent_noUsers _ _)).map tokens_noUsers
        (fun _ _ _ _ => trivial) fun _ _ _ _ => trivial
    | rollback userId =>
      exact (meets_harmless (only_viaUserBus _) noUsers).map tokens_noUsers
        (fun _ _ _ _ => trivial) fun _ _ _ _ => trivial
  obtain ⟨sound,issues⟩ := Pool.sound_run compatible start schedule fun _ _ => trivial
  exact ⟨sound.1,issues⟩

/-- The rest of a signin once the user is known. -/
theorem signin_issues (env : AuthEnv) (amb : Ambient) (command : SigninCommand) :
    ∃ tail : AuthUser → AuthProgram SigninResponse,
      (∀ user pair, issueToken env amb user.id user.role = .ok pair → ∃ save,
        tail user = .request (.token (.saveRefreshToken (RefreshToken.fromDomain pair.2))) save ∧
          save (.ok ()) = .done ⟨user,pair.1⟩) ∧
      SigninHandler.execute env amb command =
        UserIntegrationAdapter.validatePassword env command.property command.password >>= tail := by
  refine ⟨_,fun user pair issued => ?_,rfl⟩
  simp only [issued, Program.lift_ok, Program.done_bind]
  refine ⟨_,rfl,?_⟩
  dsimp only
  rw [RefreshToken.toDomain_fromDomain]
  rfl

/-- The requests of a signin: the row of the email, and a new token if the credentials are
    right. -/
theorem signin_reads (amb : Ambient) {c : SigninCommand}
    (email : env.isEmail c.property = true) :
    ∃ check, (AccountTask.auth (.signin c)).execute env amb =
        .request (.user (.getUserByEmail c.property)) check ∧
      ∀ row pair, env.bcrypt.compare c.password row.password = true →
        issueToken env amb row.id row.role = .ok pair → ∃ save, check (.ok (some row)) =
          .request (.token (.saveRefreshToken (RefreshToken.fromDomain pair.2))) save ∧
        ∃ answer, save (.ok ()) = .done (some (.signedIn answer)) ∧ answer.user.id = row.id := by
  obtain ⟨check,_,known,checks⟩ := validatePassword_checks env c
  obtain ⟨tail,tails,is⟩ := signin_issues env amb c
  unfold AccountTask.execute AuthCommand.execute
  dsimp only
  rw [is, UserIntegrationAdapter.validatePassword, checks, ValidatePasswordHandler.findUser,
    if_pos email]
  refine ⟨_,rfl,fun row pair matching issued => ?_⟩
  obtain ⟨save,goes,ends⟩ := tails (UserIntegrationAdapter.toAuthUser
    (UserPostgresReadRepository.mapToDto row)) pair issued
  refine ⟨fun b => some <$> AuthOutcome.signedIn <$> save b,?_,
    ⟨UserIntegrationAdapter.toAuthUser (UserPostgresReadRepository.mapToDto row),pair.1⟩,?_,rfl⟩
  · change some <$> AuthOutcome.signedIn <$> ((viaUserBus (check (some
      (UserPostgresReadRepository.mapToDto row))) >>= fun res =>
        (return UserIntegrationAdapter.toAuthUser res : AuthProgram AuthUser)) >>= tail) = _
    have same : env.bcrypt.compare c.password
        (UserPostgresReadRepository.mapToDto row).password = true := matching
    rw [known, if_pos same]
    change some <$> AuthOutcome.signedIn <$> tail _ = _
    rw [goes]
    rfl
  · dsimp only
    rw [ends]
    rfl

omit [DecidableEq ι] in
/-- The password of a signup compares with the hash in its row. -/
theorem compares_opened (signs : env.SignsAndHashes) {amb : Ambient} {signup : SignupCommand}
    {row : User} {password : JsString} (opens : signup.Opens env amb row)
    (chosen : signup.password = some password) (present : password ≠ []) :
    env.bcrypt.compare password row.password = true := by
  obtain ⟨hash,is,_,compares⟩ := signs.hashes password (amb.salt 0)
  have hashed := opens.password
  rw [chosen] at hashed
  have same : CreateUserHandler.hashPassword env.bcrypt amb (some password) = .ok hash := by
    unfold CreateUserHandler.hashPassword
    simp only [Option.filter, decide_eq_true present, if_true]
    exact is
  rw [← Except.ok.inj (same.symm.trans hashed)]
  exact compares

omit [DecidableEq ι] in
/-- The row of an account that has been registered, as a signin with its email finds it. -/
theorem finds_registered {amb : Ambient} {signup : SignupCommand} {db : AuthDatabase}
    (kept : AccountsKept env ambs tasks db) (registered : signup.Registered env amb db) :
    ∃ row, (authHandler.answer (.user (.getUserByEmail signup.email)) db).1 = .ok (some row) ∧
      signup.Opens env amb row := by
  obtain ⟨_,row,mem,opens⟩ := registered
  refine ⟨row,congrArg Except.ok ((lookup_eq_some_iff (keyed_filter kept.emails _)).mpr
    ⟨List.mem_filter.mpr ⟨mem,?_⟩,opens.email⟩),opens⟩
  rw [opens.live]
  rfl

end Pools

/-- Two signups, and a signin with the credentials of each. -/
def arrivals : Fin 4 → AccountTask
  | 0 => .auth (.signup aliceSignup)
  | 1 => .auth (.signup ⟨[0x40, 98],some [98],none,none⟩)
  | 2 => .auth (.signin ⟨[0x40],[97]⟩)
  | 3 => .auth (.signin ⟨[0x40, 98],[98]⟩)

def arrivalDraws (i : Fin 4) : Ambient := signupDraws (10 * i)

theorem arrivals_apart : DrawnApart arrivalDraws arrivals :=
  ⟨by unfold Function.Injective; decide,by unfold Function.Injective; decide,
    by unfold Function.Injective; decide⟩

/-- The signups side by side. -/
def arrivalTurns : List (Fin 4) := [0, 1, 0, 1, 0, 1, 0, 1, 0, 1]

/-- Whatever runs side by side, who has signed in was checked against the row of a signup: it
    has his email or username, and the hash of its password that his compares with. -/
theorem signedIn_vouched {ι : Type} [DecidableEq ι] {env : AuthEnv} {ambs : ι → Ambient}
    {tasks : ι → AccountTask} (apart : DrawnApart ambs tasks) {schedule : List ι}
    (saga : (accountPool env ambs tasks).Respects authHandler
      (fun e => e.request.FollowsSaga e.before) schedule) {i : ι} {command : SigninCommand}
    {response : SigninResponse} (is : tasks i = .auth (.signin command))
    (ended : ((accountPool env ambs tasks).run authHandler schedule).threads i =
      .done (some (.signedIn response))) :
    command.Vouched env ambs tasks response.user.id := by
  obtain ⟨_,same,vouched⟩ :=
    ((accountPool_run apart schedule saga).1.post_done ended).signedIn response rfl
  cases is.symm.trans same
  exact vouched

theorem signedIn_vouched_alice :
    SigninCommand.Vouched plainEnv arrivalDraws arrivals ⟨[0x40],[97]⟩ 0 := by
  obtain ⟨response,ended,user⟩ : ∃ response,
      ((accountPool plainEnv arrivalDraws arrivals).run authHandler
        (arrivalTurns ++ [2, 2])).threads 2 = .done (some (.signedIn response)) ∧
        response.user.id = 0 := ⟨_,rfl,rfl⟩
  rw [← user]
  exact signedIn_vouched arrivals_apart (by decide) rfl ended

/-- Two signups that succeed have different users and different emails. -/
theorem signups_apart {ι : Type} [DecidableEq ι] {env : AuthEnv} {ambs : ι → Ambient}
    {tasks : ι → AccountTask} (apart : DrawnApart ambs tasks) {schedule : List ι}
    (saga : (accountPool env ambs tasks).Respects authHandler
      (fun e => e.request.FollowsSaga e.before) schedule) {i j : ι} (other : i ≠ j)
    {command command' : SignupCommand} {response response' : SignupResponse}
    (is : tasks i = .auth (.signup command)) (is' : tasks j = .auth (.signup command'))
    (ended : ((accountPool env ambs tasks).run authHandler schedule).threads i =
      .done (some (.signedUp response)))
    (ended' : ((accountPool env ambs tasks).run authHandler schedule).threads j =
      .done (some (.signedUp response'))) :
    response.id ≠ response'.id ∧ command.email ≠ command'.email := by
  obtain ⟨sound,_⟩ := accountPool_run apart schedule saga
  obtain ⟨id,_,same,_,row,mem,opens⟩ := (sound.post_done ended).signedUp response rfl
  obtain ⟨id',_,same',_,row',mem',opens'⟩ := (sound.post_done ended').signedUp response' rfl
  cases is.symm.trans same
  cases is'.symm.trans same'
  have ids : (ambs i).uuid 0 ≠ (ambs j).uuid 0 := fun same => other (apart.users same)
  refine ⟨by rwa [id, id'],fun emails => ids ?_⟩
  rw [← opens.email, ← opens'.email] at emails
  rw [← opens.id, ← opens'.id, keyed_unique sound.1.emails mem mem' emails]

theorem signups_apart_two : ∃ response response' : SignupResponse,
    response.tokens ≠ response'.tokens ∧ response.id ≠ response'.id ∧
      aliceSignup.email ≠ [0x40, 98] := by
  obtain ⟨response,response',ended,ended',tokens⟩ : ∃ response response' : SignupResponse,
      ((accountPool plainEnv arrivalDraws arrivals).run authHandler arrivalTurns).threads 0 =
        .done (some (.signedUp response)) ∧
      ((accountPool plainEnv arrivalDraws arrivals).run authHandler arrivalTurns).threads 1 =
        .done (some (.signedUp response')) ∧ response.tokens ≠ response'.tokens :=
    ⟨_,_,rfl,rfl,by decide⟩
  have saga : (accountPool plainEnv arrivalDraws arrivals).Respects authHandler
      (fun e => e.request.FollowsSaga e.before) arrivalTurns := by decide
  have apart := signups_apart arrivals_apart saga (by decide) rfl rfl ended ended'
  exact ⟨response,response',tokens,apart⟩

/-- Who has signed up can sign in: where signing and hashing succeed, a signin with the email and
    the password of a signup that has succeeded by then returns its user, after two steps of its
    own, whatever runs side by side with it. -/
theorem signedUp_signs_in {ι : Type} [DecidableEq ι] {env : AuthEnv}
    (signs : env.SignsAndHashes) {ambs : ι → Ambient} {tasks : ι → AccountTask}
    (apart : DrawnApart ambs tasks) {first later : List ι}
    (saga : (accountPool env ambs tasks).Respects authHandler
      (fun e => e.request.FollowsSaga e.before) (first ++ later)) {i k : ι}
    {signup : SignupCommand} {response : SignupResponse} {password : JsString}
    (is : tasks i = .auth (.signup signup)) (chosen : signup.password = some password)
    (present : password ≠ []) (email : env.isEmail signup.email = true)
    (signsIn : tasks k = .auth (.signin ⟨signup.email,password⟩))
    (ended : ((accountPool env ambs tasks).run authHandler first).threads i =
      .done (some (.signedUp response)))
    (waits : k ∉ first) (twice : 2 ≤ later.count k) :
    ∃ answer, ((accountPool env ambs tasks).run authHandler (first ++ later)).threads k =
      .done (some (.signedIn answer)) ∧ answer.user.id = response.id := by
  obtain ⟨a,rest,rfl,idle⟩ := List.eq_append_cons_of_mem (List.count_pos_iff.mp
    (Nat.lt_of_lt_of_le Nat.zero_lt_two twice))
  have once : 0 < rest.count k := by
    rw [List.count_append, List.count_eq_zero_of_not_mem idle, List.count_cons_self] at twice
    omega
  obtain ⟨b,d,rfl,idle'⟩ := List.eq_append_cons_of_mem (List.count_pos_iff.mp once)
  have cut : first ++ (a ++ k :: (b ++ k :: d)) = first ++ a ++ k :: b ++ k :: d := by simp
  rw [cut] at saga ⊢
  obtain ⟨check,reads,checked⟩ := signin_reads (ambs k) (c := ⟨signup.email,password⟩) email
  have next : ((accountPool env ambs tasks).run authHandler (first ++ a)).threads k = _ :=
    (Pool.run_other (by simp [waits, idle])).trans
      ((congrArg (AccountTask.execute env (ambs k)) signsIn).trans reads)
  -- the account is there when the signin reads
  obtain ⟨sound,_⟩ := accountPool_run apart (first ++ a) fun e mem => saga e (by
    rw [List.append_assoc, Pool.trace_append]
    exact List.mem_append_left _ mem)
  have done : ((accountPool env ambs tasks).run authHandler (first ++ a)).threads i =
      .done (some (.signedUp response)) := by
    rw [Pool.run_append]
    exact Pool.run_done ended a
  obtain ⟨id,_,same,registered⟩ := (sound.post_done done).signedUp response rfl
  cases is.symm.trans same
  obtain ⟨row,found,opens⟩ := finds_registered sound.1 registered
  have matching := compares_opened signs opens chosen present
  obtain ⟨tokens,entity,issued,_⟩ := issueToken_lawful signs (ambs k) row.id row.role
  obtain ⟨save,saves,answer,ends,user⟩ := checked row (tokens, entity) matching issued
  have second : ((accountPool env ambs tasks).run authHandler (first ++ a ++ k :: b)).threads k =
      _ := (Pool.run_turn next idle').trans ((congrArg check found).trans saves)
  -- and nobody else has the row or the jti of the new token
  obtain ⟨_,rowId,jti,fresh⟩ := (Pool.respects_at (Pool.issued_request second) _
    (accountPool_issues apart (first ++ a ++ k :: b ++ k :: d)).2).2.1
  rw [← rowId, ← jti] at fresh
  refine ⟨answer,?_,user.trans (opens.id.trans id.symm)⟩
  rw [Pool.run_append, Pool.run]
  refine Pool.run_done ?_ d
  rw [Pool.step_request second]
  refine (Function.update_self ..).trans ?_
  have saved : (authHandler.answer (.token (.saveRefreshToken (RefreshToken.fromDomain entity)))
      ((accountPool env ambs tasks).run authHandler (first ++ a ++ k :: b)).state).1 = .ok () :=
    congrArg Prod.fst (answer_save fresh)
  rw [saved]
  exact ends

theorem signedUp_signs_in_alice : ∃ answer,
    ((accountPool plainEnv arrivalDraws arrivals).run authHandler (arrivalTurns ++ [2, 2])).threads
      2 = .done (some (.signedIn answer)) ∧ answer.user.id = 0 := by
  obtain ⟨response,ended,user⟩ : ∃ response,
      ((accountPool plainEnv arrivalDraws arrivals).run authHandler arrivalTurns).threads 0 =
        .done (some (.signedUp response)) ∧ response.id = 0 := ⟨_,rfl,rfl⟩
  rw [← user]
  exact signedUp_signs_in plainEnv_lawful.toSignsAndHashes arrivals_apart (by decide) rfl rfl
    (by decide) (by decide) rfl ended (by decide) (by decide)

end Chatterbox
