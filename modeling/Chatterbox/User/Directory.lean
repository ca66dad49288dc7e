import Chatterbox.Common
import Chatterbox.Tables.Keyed

/-!
The directory of the user module: accounts, the tables behind them and the
statements the two user repositories send. Rows with a deletion date stay in the
tables and no select sees them. Column widths are not modelled, and of the
timestamps only those that some code reads.
-/
namespace Chatterbox
open Concurrency Tables

inductive UserRole where
  | user
  deriving DecidableEq, Repr

structure UserEntity where
  id : Uuid
  createdAt : Time
  email : JsString
  username : JsString
  password : JsString
  firstName : JsString
  lastName : JsString
  role : UserRole
  avatar : Option JsString
  deletedAt : Option Time
  emailPresent : trim email ≠ []
  usernamePresent : trim username ≠ []
  deriving DecidableEq

namespace UserEntity

/-- The constructor. An email or a username of blanks alone is refused. -/
def new (id : Uuid) (createdAt : Time) (email username : JsString) (password : JsString)
    (firstName lastName : Option JsString) (role : UserRole) (avatar : Option JsString)
    (deletedAt : Option Time) : Except Failure UserEntity :=
  if emailPresent : trim email ≠ [] then
    if usernamePresent : trim username ≠ [] then
      .ok { id, createdAt, email, username, password, firstName := firstName.getD [],
            lastName := lastName.getD [], role, avatar, deletedAt, emailPresent,
            usernamePresent }
    else .error (.error "User username cannot be empty")
  else .error (.error "User email cannot be empty")

def create (amb : Ambient) (email username password : JsString)
    (firstName lastName avatar : Option JsString) : Except Failure UserEntity :=
  new (amb.uuid 0) amb.now email username password firstName lastName .user avatar none

theorem create_live {amb : Ambient} {email username password : JsString}
    {firstName lastName avatar : Option JsString} {e : UserEntity}
    (created : create amb email username password firstName lastName avatar = .ok e) :
    e.deletedAt = none := by
  unfold create new at created
  split_ifs at created
  cases created
  rfl

end UserEntity

/-- A row of `user.users`. -/
structure User where
  id : Uuid
  email : JsString
  username : JsString
  password : JsString
  firstName : Option JsString
  lastName : Option JsString
  role : UserRole
  avatar : Option JsString
  createdAt : Time
  deletedAt : Option Time
  deriving DecidableEq, Repr

namespace User

def toOrm (e : UserEntity) : User :=
  { id := e.id, email := e.email, username := e.username, password := e.password,
    firstName := some e.firstName, lastName := some e.lastName, role := e.role,
    avatar := e.avatar, createdAt := e.createdAt, deletedAt := e.deletedAt }

def toEntity (u : User) : Except Failure UserEntity :=
  UserEntity.new u.id u.createdAt u.email u.username u.password u.firstName u.lastName u.role u.avatar
    u.deletedAt

theorem toEntity_toOrm (e : UserEntity) : (toOrm e).toEntity = .ok e := by
  simp [toEntity, toOrm, UserEntity.new, e.emailPresent, e.usernamePresent]

end User

/-- A row of `user.user_blocks`, keyed by both users. -/
structure UserBlock where
  blockerId : Uuid
  blockedId : Uuid
  deletedAt : Option Time
  deriving DecidableEq, Repr

def UserBlock.pair (b : UserBlock) : Uuid × Uuid := (b.blockerId, b.blockedId)

inductive UserEvent where
  | userCreated (userId : Uuid) (email username : JsString)
  | userBlocked (blockerId blockedId : Uuid)
  | userUnblocked (unblockerId unblockedId : Uuid)
  deriving DecidableEq, Repr

structure UserDatabase where
  users : List User
  blocks : List UserBlock
  published : List UserEvent
  deriving DecidableEq, Repr

namespace UserDatabase

/-- The rows a select sees. -/
def live (db : UserDatabase) : List User := db.users.filter (fun u => u.deletedAt.isNone)

def liveBlocks (db : UserDatabase) : List UserBlock :=
  db.blocks.filter (fun b => b.deletedAt.isNone)

/-- `blockerId` has a live block on `blockedId`. -/
def blocking (db : UserDatabase) (blockerId blockedId : Uuid) : Bool :=
  db.liveBlocks.any (fun b => b.blockerId = blockerId && b.blockedId = blockedId)

theorem blocking_iff {db : UserDatabase} {a b : Uuid} :
    db.blocking a b = true ↔ ⟨a,b,none⟩ ∈ db.blocks := by
  simp only [blocking, liveBlocks, List.any_eq_true, List.mem_filter, Bool.and_eq_true,
    decide_eq_true_eq, Option.isNone_iff_eq_none]
  constructor
  · rintro ⟨⟨_,_,_⟩,⟨mem,rfl⟩,rfl,rfl⟩
    exact mem
  · exact fun mem => ⟨_,⟨mem,rfl⟩,rfl,rfl⟩

end UserDatabase

structure UserExistsOptions where
  email : Option JsString
  username : Option JsString
  deriving DecidableEq, Repr

/-- The WHERE clause of `userExists`: conditions that are absent or empty are not
    added, and without any condition every row matches. -/
def UserExistsOptions.holds (o : UserExistsOptions) (u : User) : Bool :=
  match o.email.filter (· ≠ []), o.username.filter (· ≠ []) with
  | none, none => true
  | some email, none => u.email = email
  | none, some username => u.username = username
  | some email, some username => u.email = email || u.username = username

/-- The statements of the user repositories, and the publication of events. The
    filter of a name search comes with its ILIKE comparison. -/
inductive UserRequest : Type → Type where
  | userExists (options : UserExistsOptions) : UserRequest (Answer Bool)
  | getUserById (id : Uuid) : UserRequest (Answer (Option User))
  | getUserByEmail (email : JsString) : UserRequest (Answer (Option User))
  | getUserByUsername (username : JsString) : UserRequest (Answer (Option User))
  | getUsersByIds (userIds : List Uuid) : UserRequest (Answer (List User))
  | getUserIdsByNameOrUsername (ilike : JsString → Bool) : UserRequest (Answer (List Uuid))
  | saveUser (row : User) : UserRequest (Answer Unit)
  | deleteUser (id : Uuid) : UserRequest (Answer Bool)
  | blockExists (blockerId blockedId : Uuid) : UserRequest (Answer Bool)
  | insertBlock (blockerId blockedId : Uuid) : UserRequest (Answer Unit)
  | softDeleteBlock (blockerId blockedId : Uuid) (now : Time) : UserRequest (Answer Bool)
  | getBlockedUserIds (blockerId : Uuid) (blockedIds : List Uuid) :
      UserRequest (Answer (List Uuid))
  | publish (event : UserEvent) : UserRequest Unit

/-- The answer of a statement that fails; the publication of an event does not. -/
def UserRequest.refused : {β : Type} → UserRequest β → DbError → Option β
  | _, .userExists _, e => some (.error e)
  | _, .getUserById _, e => some (.error e)
  | _, .getUserByEmail _, e => some (.error e)
  | _, .getUserByUsername _, e => some (.error e)
  | _, .getUsersByIds _, e => some (.error e)
  | _, .getUserIdsByNameOrUsername _, e => some (.error e)
  | _, .saveUser _, e => some (.error e)
  | _, .deleteUser _, e => some (.error e)
  | _, .blockExists _ _, e => some (.error e)
  | _, .insertBlock _ _, e => some (.error e)
  | _, .softDeleteBlock _ _ _, e => some (.error e)
  | _, .getBlockedUserIds _ _, e => some (.error e)
  | _, .publish _, _ => none

namespace UserDatabase

/-- The unique indexes on email and username, soft-deleted rows included. -/
def saveUser (db : UserDatabase) (row : User) : Answer Unit × UserDatabase :=
  let others := db.users.filter (fun u => u.id ≠ row.id)
  if others.any (fun u => u.email = row.email) then
    (.error ⟨.uniqueViolation, "users_email_uniq"⟩, db)
  else if others.any (fun u => u.username = row.username) then
    (.error ⟨.uniqueViolation, "users_username_uniq"⟩, db)
  else (.ok (), { db with users := save User.id row db.users })

/-- A hard delete; the blocks of the user go with it. -/
def deleteUser (db : UserDatabase) (id : Uuid) : Answer Bool × UserDatabase :=
  (.ok (db.users.any (fun u => u.id = id)),
    { db with
      users := db.users.filter (fun u => u.id ≠ id)
      blocks := db.blocks.filter (fun b => b.blockerId ≠ id && b.blockedId ≠ id) })

/-- A plain insert: the primary key spans soft-deleted rows, and both users are
    foreign keys. -/
def insertBlock (db : UserDatabase) (blockerId blockedId : Uuid) : Answer Unit × UserDatabase :=
  if (lookup UserBlock.pair (blockerId, blockedId) db.blocks).isSome then
    (.error ⟨.uniqueViolation, "PK_48667515438e7d0f0fed998b193"⟩, db)
  else if (lookup User.id blockerId db.users).isNone then
    (.error ⟨.foreignKeyViolation, "FK_dfcd8a81016d1de587fbd2d70bf"⟩, db)
  else if (lookup User.id blockedId db.users).isNone then
    (.error ⟨.foreignKeyViolation, "FK_7a0806a54f0ad9ced3e247cacd1"⟩, db)
  else (.ok (), { db with blocks := db.blocks ++ [⟨blockerId,blockedId,none⟩] })

def softDeleteBlock (db : UserDatabase) (blockerId blockedId : Uuid) (now : Time) :
    Answer Bool × UserDatabase :=
  (.ok (db.blocks.any (fun b => b.deletedAt.isNone && b.pair = (blockerId, blockedId))),
    { db with
      blocks := amend (fun b => b.deletedAt.isNone && b.pair = (blockerId, blockedId))
        (fun b => { b with deletedAt := some now }) db.blocks })

def answer : {β : Type} → UserRequest β → UserDatabase → β × UserDatabase
  | _, .userExists options, db => (.ok (db.live.any options.holds), db)
  | _, .getUserById id, db => (.ok (lookup User.id id db.live), db)
  | _, .getUserByEmail email, db => (.ok (lookup User.email email db.live), db)
  | _, .getUserByUsername username, db => (.ok (lookup User.username username db.live), db)
  | _, .getUsersByIds userIds, db => (.ok (db.live.filter (fun u => u.id ∈ userIds)), db)
  | _, .getUserIdsByNameOrUsername ilike, db =>
      (.ok ((db.live.filter (fun u => u.firstName.any ilike || u.lastName.any ilike ||
        ilike u.username)).map User.id), db)
  | _, .saveUser row, db => db.saveUser row
  | _, .deleteUser id, db => db.deleteUser id
  | _, .blockExists blockerId blockedId, db => (.ok (db.blocking blockerId blockedId), db)
  | _, .insertBlock blockerId blockedId, db => db.insertBlock blockerId blockedId
  | _, .softDeleteBlock blockerId blockedId now, db => db.softDeleteBlock blockerId blockedId now
  | _, .getBlockedUserIds blockerId blockedIds, db =>
      (.ok ((db.liveBlocks.filter (fun b => b.blockerId = blockerId &&
        (blockedIds.isEmpty || b.blockedId ∈ blockedIds))).map UserBlock.blockedId), db)
  | _, .publish event, db => ((), { db with published := db.published ++ [event] })

end UserDatabase

/-- Postgres and the event bus, as the user module sees them. -/
def userHandler : Handler UserRequest UserDatabase := ⟨UserDatabase.answer⟩

/-- The bcrypt package: the hash of a text under a salt, and the comparison of a
    text with a hash. -/
structure Bcrypt where
  hash : JsString → Nat → Except Failure JsString
  compare : JsString → JsString → Bool

abbrev UserProgram := Program UserRequest Failure

def userNotFoundException (identifier : Uuid) : Failure :=
  .domain ⟨"User with identifier " ++ toString identifier ++ " not found", "USER_NOT_FOUND",
    .notFound⟩

def userAlreadyExistsException (reason : String) : Failure :=
  .domain ⟨withReason "User already exists" (some reason), "USER_ALREADY_EXISTS", .conflict⟩

def invalidCredentialsException : Failure :=
  .domain ⟨withReason "Username or password combination is invalid" none,
    "USER_INVALID_CREDENTIALS", .unauthorized⟩

structure UserReadDto where
  id : Uuid
  email : JsString
  username : JsString
  role : UserRole
  firstName : Option JsString
  lastName : Option JsString
  avatar : Option JsString
  createdAt : Time
  password : JsString
  deriving DecidableEq, Repr

namespace UserPostgresReadRepository

def mapToDto (u : User) : UserReadDto :=
  { id := u.id, email := u.email, username := u.username, role := u.role,
    firstName := u.firstName, lastName := u.lastName, avatar := u.avatar,
    createdAt := u.createdAt, password := u.password }

def getUserById (id : Uuid) : UserProgram (Option UserReadDto) := do
  let res ← ask (.getUserById id)
  return res.map mapToDto

def getUserByEmail (email : JsString) : UserProgram (Option UserReadDto) := do
  let res ← ask (.getUserByEmail email)
  return res.map mapToDto

def getUserByUsername (username : JsString) : UserProgram (Option UserReadDto) := do
  let res ← ask (.getUserByUsername username)
  return res.map mapToDto

def getUsersByIds (userIds : List Uuid) : UserProgram (List UserReadDto) := do
  if userIds = [] then return []
  let res ← ask (.getUsersByIds userIds)
  return res.map mapToDto

end UserPostgresReadRepository

def UserPostgresRepository.getUserById (id : Uuid) : UserProgram (Option UserEntity) := do
  match ← ask (.getUserById id) with
  | some row => return some (← row.toEntity)
  | none => return none

def UserPostgresRepository.save (entity : UserEntity) : UserProgram UserEntity := do
  ask (.saveUser (User.toOrm entity))
  (User.toOrm entity).toEntity

structure CreateUserCommand where
  email : JsString
  username : Option JsString
  password : Option JsString
  firstName : Option JsString
  lastName : Option JsString
  avatar : Option JsString

namespace CreateUserHandler

/-- The loop that draws usernames until one is free. -/
def generateUsername : List JsString → UserProgram JsString
  | [] => .fail .running
  | finalUsername :: draws => do
      let usernameExists ← ask (.userExists ⟨none, some finalUsername⟩)
      if usernameExists then generateUsername draws else return finalUsername

def chooseUsername (amb : Ambient) (username : Option JsString) : UserProgram JsString :=
  match username.filter (· ≠ []) with
  | some finalUsername => do
      let usernameExists ← ask (.userExists ⟨none, some finalUsername⟩)
      if usernameExists then throw (userAlreadyExistsException "Your username is Duplicate")
      else return finalUsername
  | none => generateUsername amb.usernames

def hashPassword (bcrypt : Bcrypt) (amb : Ambient) (password : Option JsString) :
    Except Failure JsString :=
  match password.filter (· ≠ []) with
  | some password => bcrypt.hash password (amb.salt 0)
  | none => .ok []

def execute (bcrypt : Bcrypt) (amb : Ambient) (command : CreateUserCommand) :
    UserProgram UserEntity := do
  let emailExists ← ask (.userExists ⟨some command.email, none⟩)
  if emailExists then throw (userAlreadyExistsException "Your email is Duplicate")
  let finalUsername ← chooseUsername amb command.username
  let hashedPassword ← hashPassword bcrypt amb command.password
  let user ← UserEntity.create amb command.email finalUsername hashedPassword command.firstName
    command.lastName command.avatar
  let _ ← UserPostgresRepository.save user
  Program.request (.publish (.userCreated user.id user.email user.username)) Program.done
  return user

end CreateUserHandler

/-- With a free name among the draws the loop ends, and with a free name. -/
theorem generateUsername_ends {draws : List JsString} {db : UserDatabase}
    (free : ∃ name ∈ draws, db.live.any (UserExistsOptions.holds ⟨none, some name⟩) = false) :
    ∃ name ∈ draws, db.live.any (UserExistsOptions.holds ⟨none, some name⟩) = false ∧
      (CreateUserHandler.generateUsername draws).run userHandler db = (.ok name, db) := by
  induction draws with
  | nil => simp at free
  | cons head draws ih =>
    by_cases taken : db.live.any (UserExistsOptions.holds ⟨none, some head⟩) = true
    · have later : ∃ name ∈ draws,
          db.live.any (UserExistsOptions.holds ⟨none, some name⟩) = false := by
        obtain ⟨name,mem,is⟩ := free
        rcases List.mem_cons.mp mem with rfl | tail
        · rw [taken] at is
          cases is
        · exact ⟨name,tail,is⟩
      obtain ⟨name,mem,is,run⟩ := ih later
      refine ⟨name,List.mem_cons_of_mem _ mem,is,?_⟩
      rw [← run]
      simp [CreateUserHandler.generateUsername, ask, userHandler, UserDatabase.answer, taken]
    · have open' : db.live.any (UserExistsOptions.holds ⟨none, some head⟩) = false := by
        simpa using taken
      refine ⟨head,by simp,open',?_⟩
      simp [CreateUserHandler.generateUsername, ask, userHandler, UserDatabase.answer, open']

def DeleteUserHandler.execute (id : Uuid) : UserProgram Unit := do
  let _ ← ask (.deleteUser id)

def GetUserByIdHandler.execute (id : Uuid) : UserProgram UserReadDto := do
  match ← UserPostgresReadRepository.getUserById id with
  | some res => return res
  | none => throw (userNotFoundException id)

namespace ValidatePasswordHandler

/-- `isEmail` is the check of the validator package. -/
def findUser (isEmail : JsString → Bool) (property : JsString) :
    UserProgram (Option UserReadDto) :=
  if isEmail property then UserPostgresReadRepository.getUserByEmail property
  else UserPostgresReadRepository.getUserByUsername property

def execute (isEmail : JsString → Bool) (bcrypt : Bcrypt) (property password : JsString) :
    UserProgram UserReadDto := do
  match ← findUser isEmail property with
  | none => throw invalidCredentialsException
  | some user =>
    if bcrypt.compare password user.password then return user
    else throw invalidCredentialsException

end ValidatePasswordHandler

/-- An account that selects see. -/
def UserDatabase.HasUser (db : UserDatabase) (id : Uuid) : Prop :=
  ∃ u ∈ db.users, u.id = id ∧ u.deletedAt = none

theorem hasUser_iff {db : UserDatabase} {id : Uuid} :
    db.HasUser id ↔ (lookup User.id id db.live).isSome := by
  simp only [lookup_isSome_iff, UserDatabase.HasUser, UserDatabase.live, List.mem_filter,
    Option.isNone_iff_eq_none]
  constructor
  · rintro ⟨u,mem,is,live⟩
    exact ⟨u,⟨mem,live⟩,is⟩
  · rintro ⟨u,⟨mem,live⟩,is⟩
    exact ⟨u,mem,is,live⟩

/-- The statements after which every account is still there. -/
def UserRequest.KeepsUsers : {β : Type} → UserRequest β → Prop
  | _, .saveUser row => row.deletedAt = none
  | _, .deleteUser _ => False
  | _, _ => True

theorem hasUser_answer {β : Type} {q : UserRequest β} {db : UserDatabase} {id : Uuid}
    (keeps : q.KeepsUsers) (known : db.HasUser id) :
    (userHandler.answer q db).2.HasUser id := by
  cases q with
  | saveUser row =>
    simp only [userHandler, UserDatabase.answer, UserDatabase.saveUser]
    split
    · exact known
    · split
      · exact known
      · obtain ⟨u,mem,is,live⟩ := known
        by_cases same : u.id = row.id
        · exact ⟨row,mem_save.mpr (Or.inl rfl),same ▸ is,keeps⟩
        · exact ⟨u,mem_save.mpr (Or.inr ⟨mem,same⟩),is,live⟩
  | deleteUser id => exact absurd keeps (fun h => h)
  | insertBlock blockerId blockedId =>
    simp only [userHandler, UserDatabase.answer, UserDatabase.insertBlock]
    split_ifs <;> exact known
  | _ => exact known

/-- A program that touches no account leaves every account in place. -/
theorem hasUser_run {α : Type} {p : UserProgram α} (keeps : p.Only UserRequest.KeepsUsers)
    {db : UserDatabase} {id : Uuid} (known : db.HasUser id) :
    (p.run userHandler db).2.HasUser id := by
  let has : UserDatabase → Prop := fun s => s.HasUser id
  have kept : has (p.run userHandler db).2 :=
    keeps.run_invariant (fun _ _ keeps => hasUser_answer keeps) known
  exact kept

theorem only_createUser (bcrypt : Bcrypt) (amb : Ambient) (command : CreateUserCommand) :
    (CreateUserHandler.execute bcrypt amb command).Only UserRequest.KeepsUsers := by
  have draws : ∀ names, (CreateUserHandler.generateUsername names).Only
      UserRequest.KeepsUsers := by
    intro names
    induction names with
    | nil => trivial
    | cons name names ih =>
      refine (only_ask trivial).bind fun taken => ?_
      cases taken with
      | false => trivial
      | true => exact ih
  have username : (CreateUserHandler.chooseUsername amb command.username).Only
      UserRequest.KeepsUsers := by
    unfold CreateUserHandler.chooseUsername
    split
    · refine (only_ask trivial).bind fun taken => ?_
      cases taken <;> trivial
    · exact draws _
  have saved : ∀ entity : UserEntity, entity.deletedAt = none →
      (UserPostgresRepository.save entity).Only UserRequest.KeepsUsers := by
    intro entity live
    exact (only_ask live).bind fun _ => Program.only_lift _
  refine (only_ask trivial).bind fun emailExists => ?_
  cases emailExists with
  | true => trivial
  | false =>
    refine username.bind fun finalUsername => ?_
    refine (Program.only_lift _).bind fun hashedPassword => ?_
    cases created : UserEntity.create amb command.email finalUsername hashedPassword
        command.firstName command.lastName command.avatar with
    | error e => trivial
    | ok user =>
      exact (saved user (UserEntity.create_live created)).bind fun _ =>
        ⟨trivial,fun _ => trivial⟩

theorem createUser_keeps {bcrypt : Bcrypt} {amb : Ambient} {command : CreateUserCommand}
    {db : UserDatabase} {id : Uuid} (known : db.HasUser id) :
    ((CreateUserHandler.execute bcrypt amb command).run userHandler db).2.HasUser id :=
  hasUser_run (only_createUser bcrypt amb command) known

section CreateUser
variable {bcrypt : Bcrypt} {amb : Ambient} {data : CreateUserCommand} {users after : UserDatabase}

theorem looks_generateUsername (draws : List JsString) :
    (CreateUserHandler.generateUsername draws).Only
      fun q => ∀ db, (userHandler.answer q db).2 = db := by
  induction draws with
  | nil => trivial
  | cons name draws ih =>
    apply (only_ask fun _ => rfl).bind
    intro taken
    cases taken with
    | false => trivial
    | true => exact ih

theorem looks_chooseUsername (amb : Ambient) (username : Option JsString) :
    (CreateUserHandler.chooseUsername amb username).Only
      fun q => ∀ db, (userHandler.answer q db).2 = db := by
  unfold CreateUserHandler.chooseUsername
  split
  · apply (only_ask fun _ => rfl).bind
    intro taken
    cases taken <;> trivial
  · exact looks_generateUsername _

/-- What the creation of a user has done: the email was nobody's, and the user is stored. -/
structure CreatedUser (amb : Ambient) (data : CreateUserCommand) (users after : UserDatabase)
    (user : UserEntity) : Prop where
  id : user.id = amb.uuid 0
  email : user.email = data.email
  live : user.deletedAt = none
  free : ∀ u ∈ users.users, u.id ≠ user.id → u.email ≠ user.email
  stored : after.users = save User.id (User.toOrm user) users.users

theorem createdUser_of_run {user : UserEntity}
    (run : (CreateUserHandler.execute bcrypt amb data).run userHandler users =
      (.ok user, after)) : CreatedUser amb data users after user := by
  obtain ⟨emailExists,u₁,asked,run₁⟩ := Program.run_bind_inv _ _ run
  have same₁ : users = u₁ := (Prod.ext_iff.mp (run_ask_inv asked)).2
  subst same₁
  cases emailExists with
  | true => cases run₁
  | false =>
    obtain ⟨username,u₂,chosen,run₂⟩ := Program.run_bind_inv _ _ run₁
    have same₂ : users = u₂ := by
      have looked := (looks_chooseUsername amb data.username).run_invariant
        (fun q t is (same : users = t) => same.trans (is t).symm) rfl
      rw [chosen] at looked
      exact looked
    subst same₂
    obtain ⟨password,u₃,hashed,run₃⟩ := Program.run_bind_inv _ _ run₂
    obtain ⟨_,rfl⟩ := Program.run_lift_inv _ _ hashed
    obtain ⟨entity,u₄,created,run₄⟩ := Program.run_bind_inv _ _ run₃
    obtain ⟨built,rfl⟩ := Program.run_lift_inv _ _ created
    obtain ⟨saved,u₅,save,run₅⟩ := Program.run_bind_inv _ _ run₄
    cases run₅
    obtain ⟨_,u₆,write,rest⟩ := Program.run_bind_inv _ _ save
    obtain ⟨_,rfl⟩ := Program.run_lift_inv _ _ rest
    have answered := run_ask_inv write
    unfold UserEntity.create UserEntity.new at built
    split_ifs at built
    cases built
    simp only [userHandler, UserDatabase.answer, UserDatabase.saveUser] at answered
    split_ifs at answered with emails usernames
    · cases answered
    · cases answered
    · cases answered
      refine ⟨rfl,rfl,rfl,?_,rfl⟩
      intro u mem other same
      apply emails
      simp only [List.any_eq_true, List.mem_filter, decide_eq_true_eq]
      exact ⟨u,⟨mem,other⟩,same⟩

end CreateUser

/-- An account that was created is in the directory. -/
theorem run_createUser_ok {bcrypt : Bcrypt} {amb : Ambient} {command : CreateUserCommand}
    {db db' : UserDatabase} {user : UserEntity}
    (created : (CreateUserHandler.execute bcrypt amb command).run userHandler db =
      (.ok user, db')) : db'.HasUser user.id := by
  have made := createdUser_of_run created
  unfold UserDatabase.HasUser
  rw [made.stored]
  exact ⟨User.toOrm user,mem_save.mpr (Or.inl rfl),rfl,made.live⟩

theorem hasUser_of_lookup {Key : Type} [DecidableEq Key] {key : User → Key} {k : Key}
    {db : UserDatabase} {u : User} (found : lookup key k db.live = some u) : db.HasUser u.id := by
  obtain ⟨mem,_⟩ := lookup_mem found
  exact ⟨u,(List.mem_filter.mp mem).1,rfl,by simpa using (List.mem_filter.mp mem).2⟩

/-- A password check only reads, and what it returns is a live account. -/
theorem run_validatePassword (isEmail : JsString → Bool) (bcrypt : Bcrypt)
    (property password : JsString) (db : UserDatabase) :
    ∃ r, (ValidatePasswordHandler.execute isEmail bcrypt property password).run userHandler db =
        (r, db) ∧
      ∀ user, r = .ok user → db.HasUser user.id := by
  have accounts : ∃ row : Option User,
      (ValidatePasswordHandler.findUser isEmail property).run userHandler db =
        (.ok (row.map UserPostgresReadRepository.mapToDto), db) ∧
      ∀ u, row = some u → db.HasUser u.id := by
    unfold ValidatePasswordHandler.findUser
    split
    · exact ⟨lookup User.email property db.live,rfl,fun u => hasUser_of_lookup⟩
    · exact ⟨lookup User.username property db.live,rfl,fun u => hasUser_of_lookup⟩
  obtain ⟨row,read,live⟩ := accounts
  unfold ValidatePasswordHandler.execute
  rw [Program.run_bind_ok _ _ read]
  cases row with
  | none => exact ⟨_,rfl,by rintro _ ⟨⟩⟩
  | some u =>
    by_cases matching :
        bcrypt.compare password (UserPostgresReadRepository.mapToDto u).password = true
    · simp only [Option.map_some, matching, ↓reduceIte]
      refine ⟨_,rfl,?_⟩
      rintro _ ⟨⟩
      exact live u rfl
    · simp only [Option.map_some, matching, Bool.false_eq_true, ↓reduceIte]
      exact ⟨_,rfl,by rintro _ ⟨⟩⟩

end Chatterbox
