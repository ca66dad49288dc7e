import Chatterbox.User.Directory

/-!
Blocking and unblocking. An unblock is a soft delete, a block is a plain insert
of the same primary key, and the reads in between see live rows only.
-/
namespace Chatterbox
open Concurrency Tables

namespace UserPostgresRepository

def getBlockStatus (blockerId blockedId : Uuid) : UserProgram Bool :=
  ask (.blockExists blockerId blockedId)

/-- One transaction: the check, and the insert that commits it. -/
def block (blockerId blockedId : Uuid) : UserProgram Bool := do
  let status ← ask (.blockExists blockerId blockedId)
  if status then return false
  ask (.insertBlock blockerId blockedId)
  return true

def unblock (blockerId blockedId : Uuid) (now : Time) : UserProgram Bool :=
  ask (.softDeleteBlock blockerId blockedId now)

end UserPostgresRepository

namespace UserPostgresReadRepository

def getBlockStatus (blockerId blockedId : Uuid) : UserProgram Bool :=
  ask (.blockExists blockerId blockedId)

def getBlockedUserIds (blockerId : Uuid) (blockedIds : List Uuid) : UserProgram (List Uuid) :=
  ask (.getBlockedUserIds blockerId blockedIds)

end UserPostgresReadRepository

structure BlockUserCommand where
  blockerId : Uuid
  blockedId : Uuid

def BlockUserHandler.execute (command : BlockUserCommand) : UserProgram Bool := do
  let some _ ← UserPostgresRepository.getUserById command.blockerId
    | throw (userNotFoundException command.blockerId)
  let some _ ← UserPostgresRepository.getUserById command.blockedId
    | throw (userNotFoundException command.blockedId)
  let isBlocked ← UserPostgresRepository.getBlockStatus command.blockerId command.blockedId
  if isBlocked then return false
  let _ ← UserPostgresRepository.block command.blockerId command.blockedId
  Program.request (.publish (.userBlocked command.blockerId command.blockedId)) Program.done
  return true

structure UnblockUserCommand where
  unblockerId : Uuid
  unblockedId : Uuid

def UnblockUserHandler.execute (now : Time) (command : UnblockUserCommand) :
    UserProgram Bool := do
  let some _ ← UserPostgresRepository.getUserById command.unblockerId
    | throw (userNotFoundException command.unblockerId)
  let isBlocked ← UserPostgresRepository.getBlockStatus command.unblockerId command.unblockedId
  if !isBlocked then return false
  let _ ← UserPostgresRepository.unblock command.unblockerId command.unblockedId now
  Program.request (.publish (.userUnblocked command.unblockerId command.unblockedId)) Program.done
  return true

structure GetBlockStatusQuery where
  userId : Uuid
  targetUserId : Uuid

structure GetBlockStatusResponse where
  isBlocker : Bool
  isBlocked : Bool
  deriving DecidableEq, Repr

def GetBlockStatusHandler.execute (query : GetBlockStatusQuery) :
    UserProgram GetBlockStatusResponse := do
  let isBlocker ← UserPostgresReadRepository.getBlockStatus query.userId query.targetUserId
  let isBlocked ← UserPostgresReadRepository.getBlockStatus query.targetUserId query.userId
  return { isBlocker, isBlocked }

namespace UserDatabase

/-- A user that the repository can load. -/
def Existing (db : UserDatabase) (id : Uuid) : Prop :=
  ∃ u e, lookup User.id id db.live = some u ∧ u.toEntity = .ok e

instance (db : UserDatabase) (id : Uuid) : Decidable (db.Existing id) :=
  match found : lookup User.id id db.live with
  | none => isFalse (by rintro ⟨u,e,is,_⟩; rw [found] at is; cases is)
  | some u =>
    match loaded : u.toEntity with
    | .ok e => isTrue ⟨u,e,found,loaded⟩
    | .error _ => isFalse (by
        rintro ⟨v,e,is,ok⟩
        rw [found, Option.some_inj] at is
        subst is
        rw [loaded] at ok
        cases ok)

/-- A block row, in force or not. -/
def blockRow (db : UserDatabase) (a b : Uuid) : Option UserBlock :=
  lookup UserBlock.pair (a, b) db.blocks

theorem existing_row {db : UserDatabase} {id : Uuid} (known : db.Existing id) :
    (lookup User.id id db.users).isSome := by
  obtain ⟨u,_,found,_⟩ := known
  obtain ⟨mem,is⟩ := lookup_mem found
  exact lookup_isSome_iff.mpr ⟨u, (List.mem_filter.mp mem).1, is⟩

/-- A live block row is the only row of its pair. -/
theorem blocking_iff_blockRow {db : UserDatabase} (keyed : Keyed UserBlock.pair db.blocks)
    {a b : Uuid} : db.blocking a b = true ↔ db.blockRow a b = some ⟨a,b,none⟩ := by
  rw [blocking_iff, blockRow, lookup_eq_some_iff keyed]
  exact ⟨fun mem => ⟨mem,rfl⟩,And.left⟩

end UserDatabase

open UserDatabase

theorem run_getUserById {db : UserDatabase} {id : Uuid} (known : db.Existing id) :
    ∃ e, (UserPostgresRepository.getUserById id).run userHandler db = (.ok (some e), db) := by
  obtain ⟨u,e,found,loaded⟩ := known
  exact ⟨e, by simp [UserPostgresRepository.getUserById, ask, userHandler, answer, found, loaded]⟩

theorem run_getBlockStatus (db : UserDatabase) (a b : Uuid) :
    (UserPostgresRepository.getBlockStatus a b).run userHandler db =
      (.ok (db.blocking a b), db) := rfl

theorem run_getBlockStatusQuery (db : UserDatabase) (a b : Uuid) :
    (GetBlockStatusHandler.execute ⟨a,b⟩).run userHandler db =
      (.ok ⟨db.blocking a b, db.blocking b a⟩, db) := rfl

/-- What a block command does for two existing users: nothing when the block is in
    force, an insert when the pair has no row, and a rejected insert otherwise. -/
theorem run_block {db : UserDatabase} {a b : Uuid} (blocker : db.Existing a)
    (blocked : db.Existing b) :
    (BlockUserHandler.execute ⟨a,b⟩).run userHandler db =
      if db.blocking a b then (.ok false, db)
      else if (db.blockRow a b).isSome then
        (.error (.database ⟨.uniqueViolation, "PK_48667515438e7d0f0fed998b193"⟩), db)
      else (.ok true, { db with blocks := db.blocks ++ [⟨a,b,none⟩]
                                published := db.published ++ [.userBlocked a b] }) := by
  obtain ⟨_,first⟩ := run_getUserById blocker
  obtain ⟨_,second⟩ := run_getUserById blocked
  have knownBlocker := Option.isSome_iff_ne_none.mp (existing_row blocker)
  have knownBlocked := Option.isSome_iff_ne_none.mp (existing_row blocked)
  unfold BlockUserHandler.execute
  rw [Program.run_bind_ok _ _ first, Program.run_bind_ok _ _ second,
    Program.run_bind_ok _ _ (run_getBlockStatus db a b)]
  by_cases inForce : db.blocking a b = true
  · simp [inForce]
  · by_cases known : (db.blockRow a b).isSome = true
    · have row : (lookup UserBlock.pair (a,b) db.blocks).isSome = true := known
      simp [inForce, known, row, UserPostgresRepository.block, ask, userHandler, answer,
        insertBlock]
    · have row : ¬ (lookup UserBlock.pair (a,b) db.blocks).isSome = true := known
      simp [inForce, known, row, UserPostgresRepository.block, ask, userHandler, answer,
        insertBlock, knownBlocker, knownBlocked]

theorem run_unblock {db : UserDatabase} {a : Uuid} (unblocker : db.Existing a) (b : Uuid)
    (now : Time) :
    (UnblockUserHandler.execute now ⟨a,b⟩).run userHandler db =
      if db.blocking a b then
        (.ok true, { db with
          blocks := amend (fun r => r.deletedAt.isNone && r.pair = (a,b))
            (fun r => { r with deletedAt := some now }) db.blocks
          published := db.published ++ [.userUnblocked a b] })
      else (.ok false, db) := by
  obtain ⟨_,first⟩ := run_getUserById unblocker
  unfold UnblockUserHandler.execute
  rw [Program.run_bind_ok _ _ first, Program.run_bind_ok _ _ (run_getBlockStatus db a b)]
  by_cases inForce : db.blocking a b = true
  · simp [inForce, UserPostgresRepository.unblock, ask, userHandler, answer, softDeleteBlock]
  · simp [inForce]

/-- The statements and events of the commands of `a` on `b`. -/
def UserRequest.OfPair (a b : Uuid) : {β : Type} → UserRequest β → Prop
  | _, .getUserById _ => True
  | _, .blockExists x y => (x,y) = (a,b)
  | _, .insertBlock x y => (x,y) = (a,b)
  | _, .softDeleteBlock x y _ => (x,y) = (a,b)
  | _, .publish event => event = .userBlocked a b ∨ event = .userUnblocked a b
  | _, _ => False

theorem ofPair_getUserById (a b id : Uuid) :
    (UserPostgresRepository.getUserById id).Only (UserRequest.OfPair a b) := by
  refine (only_ask trivial).bind fun row => ?_
  cases row with
  | none => trivial
  | some row => exact (Program.only_lift _).bind fun _ => trivial

theorem ofPair_block (command : BlockUserCommand) :
    (BlockUserHandler.execute command).Only
      (UserRequest.OfPair command.blockerId command.blockedId) := by
  refine (ofPair_getUserById _ _ _).bind fun blocker => ?_
  cases blocker with
  | none => trivial
  | some blocker =>
    refine (ofPair_getUserById _ _ _).bind fun blocked => ?_
    cases blocked with
    | none => trivial
    | some blocked =>
      refine (only_ask rfl).bind fun isBlocked => ?_
      cases isBlocked with
      | true => trivial
      | false =>
        refine Program.Only.bind ?_ fun _ => ⟨Or.inl rfl,fun _ => trivial⟩
        refine (only_ask rfl).bind fun status => ?_
        cases status with
        | true => trivial
        | false => exact (only_ask rfl).bind fun _ => trivial

theorem ofPair_unblock (now : Time) (command : UnblockUserCommand) :
    (UnblockUserHandler.execute now command).Only
      (UserRequest.OfPair command.unblockerId command.unblockedId) := by
  refine (ofPair_getUserById _ _ _).bind fun unblocker => ?_
  cases unblocker with
  | none => trivial
  | some unblocker =>
    refine (only_ask rfl).bind fun isBlocked => ?_
    cases isBlocked with
    | false => trivial
    | true => exact (only_ask rfl).bind fun _ => ⟨Or.inr rfl,fun _ => trivial⟩

theorem UserRequest.OfPair.keepsUsers {a b : Uuid} {β : Type} {q : UserRequest β}
    (mine : q.OfPair a b) : q.KeepsUsers := by
  cases q with
  | saveUser row => cases mine
  | deleteUser id => cases mine
  | _ => trivial

/-- Neither a block nor an unblock touches an account. -/
theorem only_block (command : BlockUserCommand) :
    (BlockUserHandler.execute command).Only UserRequest.KeepsUsers :=
  (ofPair_block command).weaken fun _ => UserRequest.OfPair.keepsUsers

theorem only_unblock (now : Time) (command : UnblockUserCommand) :
    (UnblockUserHandler.execute now command).Only UserRequest.KeepsUsers :=
  (ofPair_unblock now command).weaken fun _ => UserRequest.OfPair.keepsUsers

/-- Two accounts and no block. -/
def twoUsers : UserDatabase :=
  { users := [⟨1,[97],[97],[],none,none,.user,none,0,none⟩,
              ⟨2,[98],[98],[],none,none,.user,none,0,none⟩]
    blocks := []
    published := [] }

end Chatterbox
