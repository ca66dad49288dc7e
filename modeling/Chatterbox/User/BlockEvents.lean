import Chatterbox.Concurrency.Announcements
import Chatterbox.User.BlockHistory

/-!
What the events of blocks and unblocks tell. A command publishes its event after its write
and whatever the write has done, so the events of a pair follow its row only while every
command still finds, when it writes, the status that it has read.
-/
namespace Chatterbox
open Concurrency Tables

/-- The status of the pair that an event tells, `true` for a block. -/
def UserEvent.tells (a b : Uuid) : UserEvent → Option Bool
  | .userBlocked x y => if (x,y) = (a,b) then some true else none
  | .userUnblocked x y => if (x,y) = (a,b) then some false else none
  | .userCreated _ _ _ => none

namespace UserRequest

def event : {β : Type} → UserRequest β → Option UserEvent
  | _, .publish event => some event
  | _, _ => none

/-- The request reads the status of the pair. -/
def asks (a b : Uuid) : {β : Type} → UserRequest β → Bool
  | _, .blockExists x y => (x,y) = (a,b)
  | _, _ => false

/-- The request lifts the block of the pair. -/
def lifts (a b : Uuid) : {β : Type} → UserRequest β → Bool
  | _, .softDeleteBlock x y _ => (x,y) = (a,b)
  | _, _ => false

end UserRequest

theorem published_answer {β : Type} (q : UserRequest β) (db : UserDatabase) :
    (userHandler.answer q db).2.published = db.published ++ q.event.toList := by
  cases q with
  | saveUser row =>
    simp only [userHandler, UserDatabase.answer, UserDatabase.saveUser, UserRequest.event]
    split_ifs <;> simp
  | insertBlock x y =>
    simp only [userHandler, UserDatabase.answer, UserDatabase.insertBlock, UserRequest.event]
    split_ifs <;> simp
  | publish event => rfl
  | _ => exact (List.append_nil _).symm

/-- The block status of a pair, and the events that tell it. -/
def blockAnnouncing (a b : Uuid) : Announcing UserRequest UserDatabase Bool where
  handler := userHandler
  status db := db.blocking a b
  announces q := q.event.bind (UserEvent.tells a b)
  quiet q s speaks := by
    cases q with
    | publish event => rfl
    | _ => cases speaks

namespace UserDatabase

/-- An insert is refused, or it puts a pair without a row in force. -/
theorem insertBlock_cases (db : UserDatabase) (a b : Uuid) :
    (∃ e, db.insertBlock a b = (.error e, db)) ∨
      (db.blockRow a b = none ∧
        db.insertBlock a b = (.ok (), { db with blocks := db.blocks ++ [⟨a,b,none⟩] })) := by
  unfold insertBlock
  split_ifs with known blocker blocked
  · exact Or.inl ⟨_,rfl⟩
  · exact Or.inl ⟨_,rfl⟩
  · exact Or.inl ⟨_,rfl⟩
  · exact Or.inr ⟨Option.not_isSome_iff_eq_none.mp known,rfl⟩

theorem not_blocking_of_row {db : UserDatabase} {a b : Uuid} (free : db.blockRow a b = none) :
    db.blocking a b = false := by
  rw [Bool.eq_false_iff]
  intro blocks
  exact lookup_none_iff.mp free _ (blocking_iff.mp blocks) rfl

theorem blocking_softDelete (db : UserDatabase) (a b : Uuid) (now : Time) :
    (db.softDeleteBlock a b now).2.blocking a b = false := by
  rw [Bool.eq_false_iff]
  intro blocks
  rcases mem_amend.mp (blocking_iff.mp blocks) with ⟨r,_,_,is⟩ | ⟨_,other⟩
  · cases is
  · simp [UserBlock.pair] at other

/-- The commands on another pair leave the status of this one. -/
theorem blocking_other {β : Type} {q : UserRequest β} {x y a b : Uuid} (on : q.OfPair x y)
    (other : (x,y) ≠ (a,b)) (db : UserDatabase) :
    (userHandler.answer q db).2.blocking a b = db.blocking a b := by
  rw [Bool.eq_iff_iff, blocking_iff, blocking_iff]
  cases q with
  | insertBlock x' y' =>
    cases on
    change _ ∈ (db.insertBlock x y).2.blocks ↔ _
    rcases db.insertBlock_cases x y with ⟨e,is⟩ | ⟨_,is⟩
    · rw [is]
    · have apart : ¬ (a = x ∧ b = y) := by
        rintro ⟨rfl,rfl⟩
        exact other rfl
      rw [is]
      simp [apart]
  | softDeleteBlock x' y' now =>
    cases on
    change _ ∈ amend _ _ db.blocks ↔ _
    rw [mem_amend]
    constructor
    · rintro (⟨r,_,_,is⟩ | ⟨mem,_⟩)
      · cases is
      · exact mem
    · intro mem
      have apart : decide ((⟨a,b,none⟩ : UserBlock).pair = (x,y)) = false :=
        decide_eq_false fun same => other same.symm
      exact Or.inr ⟨mem,apart⟩
  | saveUser row => cases on
  | deleteUser id => cases on
  | _ => rfl

end UserDatabase

open UserDatabase

/-- The status that a command has read still holds when the command writes: a block that
    asks again finds no block, and an unblock finds one. -/
def StillHolds {ι : Type} (a b : Uuid) (own : List (Issued UserRequest UserDatabase ι))
    (e : Issued UserRequest UserDatabase ι) : Prop :=
  (e.request.asks a b = true → (∃ f ∈ own, f.request.asks a b = true) →
    e.before.blocking a b = false) ∧
  (e.request.lifts a b = true → e.before.blocking a b = true)

instance {ι : Type} (a b : Uuid) (own : List (Issued UserRequest UserDatabase ι))
    (e : Issued UserRequest UserDatabase ι) : Decidable (StillHolds a b own e) :=
  inferInstanceAs (Decidable (_ ∧ _))

section Commands
variable {ι : Type} {a b : Uuid} {i : ι} {own : List (Issued UserRequest UserDatabase ι)}

/-- A statement that announces nothing, and what follows its answer. -/
theorem announces_ask {α β : Type} {q : UserRequest (Answer α)} {f : α → UserProgram β}
    (silent : q.event = none) (settled : (blockAnnouncing a b).owed own = none)
    (next : ∀ s, StillHolds a b own ⟨i,_,q,s⟩ →
      (∀ r, (userHandler.answer q s).1 = .ok r → (f r).Announces (blockAnnouncing a b)
        (StillHolds a b) i (own ++ [⟨i,_,q,s⟩])) ∧
      (∀ e, (userHandler.answer q s).1 = .error e →
        (userHandler.answer q s).2.blocking a b = s.blocking a b)) :
    (ask q >>= f).Announces (blockAnnouncing a b) (StillHolds a b) i own := by
  intro s may
  obtain ⟨passes,stops⟩ := next s may
  constructor
  · rw [settled]
    change q.event.bind _ = none
    rw [silent]
    rfl
  · change Program.Announces _ _ _ _ (_ >>= f)
    unfold blockAnnouncing at passes ⊢
    cases answered : (userHandler.answer q s).1 with
    | ok r => exact passes r answered
    | error e =>
      change Announcing.owed _ (own ++ [_]) = none
      rw [Announcing.owed_append]
      exact if_pos (stops e answered)

theorem owed_snoc {β : Type} {q : UserRequest β} {s : UserDatabase}
    (same : (userHandler.answer q s).2.blocking a b = s.blocking a b) :
    (blockAnnouncing a b).owed (own ++ [⟨i,_,q,s⟩]) = none := by
  rw [Announcing.owed_append]
  exact if_pos same

theorem owed_write {β : Type} {q : UserRequest β} {s : UserDatabase} {status : Bool}
    (before : s.blocking a b = !status)
    (after : (userHandler.answer q s).2.blocking a b = status) :
    (blockAnnouncing a b).owed (own ++ [⟨i,_,q,s⟩]) = some status := by
  have differ : ¬ (userHandler.answer q s).2.blocking a b = s.blocking a b := by
    simp [before, after]
  rw [Announcing.owed_append, ← after]
  exact if_neg differ

/-- The publication that follows a write. -/
theorem announces_publish {event : UserEvent} (status : Bool) {outcome : Bool}
    (owes : (blockAnnouncing a b).owed own = some status)
    (tells : event.tells a b = some status) :
    (do Program.request (.publish event) Program.done
        return outcome : UserProgram Bool).Announces (blockAnnouncing a b) (StillHolds a b) i
      own := by
  intro s _
  constructor
  · rw [owes]
    exact tells
  · exact owed_snoc rfl

theorem announces_load {β : Type} (id : Uuid) {f : Option UserEntity → UserProgram β}
    (settled : (blockAnnouncing a b).owed own = none)
    (next : ∀ user later, (blockAnnouncing a b).owed (own ++ later) = none →
      (f user).Announces (blockAnnouncing a b) (StillHolds a b) i (own ++ later)) :
    (UserPostgresRepository.getUserById id >>= f).Announces (blockAnnouncing a b)
      (StillHolds a b) i own := by
  unfold UserPostgresRepository.getUserById
  rw [Program.bind_assoc]
  apply announces_ask rfl settled
  intro s _
  have same : (blockAnnouncing a b).owed (own ++ [⟨i,_,.getUserById id,s⟩]) = none :=
    owed_snoc rfl
  constructor
  · intro row _
    cases row with
    | none => exact next none _ same
    | some row =>
      cases loaded : row.toEntity with
      | ok user => simpa [loaded] using next (some user) _ same
      | error e =>
        simp only [loaded]
        exact same
  · intro e _
    rfl

/-- A read of the status, and what follows it. -/
theorem announces_status {β : Type} {f : Bool → UserProgram β}
    (settled : (blockAnnouncing a b).owed own = none)
    (next : ∀ s, StillHolds a b own ⟨i,_,.blockExists a b,s⟩ →
      (blockAnnouncing a b).owed (own ++ [⟨i,_,.blockExists a b,s⟩]) = none →
      (f (s.blocking a b)).Announces (blockAnnouncing a b) (StillHolds a b) i
        (own ++ [⟨i,_,.blockExists a b,s⟩])) :
    (UserPostgresRepository.getBlockStatus a b >>= f).Announces (blockAnnouncing a b)
      (StillHolds a b) i own := by
  apply announces_ask rfl settled
  intro s may
  constructor
  · intro status answered
    obtain rfl := Except.ok.inj answered
    exact next s may (owed_snoc rfl)
  · intro e answered
    cases answered

/-- An insert that is refused stops its program; any other puts the block in force. -/
theorem announces_insert {β : Type} {f : Unit → UserProgram β}
    (settled : (blockAnnouncing a b).owed own = none)
    (next : ∀ later, (blockAnnouncing a b).owed (own ++ later) = some true →
      (f ()).Announces (blockAnnouncing a b) (StillHolds a b) i (own ++ later)) :
    (ask (.insertBlock a b) >>= f).Announces (blockAnnouncing a b) (StillHolds a b) i own := by
  apply announces_ask rfl settled
  intro s _
  change (∀ r, (s.insertBlock a b).1 = _ → _) ∧ ∀ e, (s.insertBlock a b).1 = _ →
    (s.insertBlock a b).2.blocking a b = _
  rcases s.insertBlock_cases a b with ⟨e,refused⟩ | ⟨row,inserted⟩
  · constructor
    · intro _ answered
      rw [refused] at answered
      cases answered
    · intro _ _
      rw [refused]
  · constructor
    · intro _ _
      apply next
      apply owed_write (not_blocking_of_row row)
      change (s.insertBlock a b).2.blocking a b = true
      rw [inserted, blocking_iff]
      simp
    · intro _ answered
      rw [inserted] at answered
      cases answered

/-- A block announces the insert that it has made, and nothing if the insert is refused. -/
theorem announces_block :
    (BlockUserHandler.execute ⟨a,b⟩).Announces (blockAnnouncing a b) (StillHolds a b) i [] := by
  unfold BlockUserHandler.execute
  apply announces_load a rfl
  intro blocker later settled
  cases blocker with
  | none => exact settled
  | some blocker =>
    apply announces_load b settled
    intro blocked later' settled
    cases blocked with
    | none => exact settled
    | some blocked =>
      apply announces_status settled
      intro s _ settled
      cases s.blocking a b with
      | true => exact settled
      | false =>
        simp only [Bool.false_eq_true, ↓reduceIte]
        unfold UserPostgresRepository.block
        rw [Program.bind_assoc]
        apply announces_status settled
        intro t may settled
        have free : t.blocking a b = false := by
          apply may.1 (decide_eq_true rfl)
          exact ⟨_,List.mem_append_right _ (List.mem_singleton.mpr rfl),decide_eq_true rfl⟩
        simp only [free, Bool.false_eq_true, ↓reduceIte]
        rw [Program.bind_assoc]
        apply announces_insert settled
        intro later owes
        exact announces_publish true owes (if_pos rfl)

/-- An unblock announces the block that it has lifted. -/
theorem announces_unblock (now : Time) :
    (UnblockUserHandler.execute now ⟨a,b⟩).Announces (blockAnnouncing a b) (StillHolds a b) i
      [] := by
  unfold UnblockUserHandler.execute
  apply announces_load a rfl
  intro unblocker later settled
  cases unblocker with
  | none => exact settled
  | some unblocker =>
    apply announces_status settled
    intro s _ settled
    cases s.blocking a b with
    | false => exact settled
    | true =>
      simp only [Bool.not_true, Bool.false_eq_true, ↓reduceIte]
      apply announces_ask rfl settled
      intro t may
      constructor
      · intro affected _
        apply announces_publish false
        · exact owed_write (may.2 (decide_eq_true rfl)) (blocking_softDelete t a b now)
        · exact if_pos rfl
      · intro e answered
        cases answered

end Commands

namespace BlockCommand

theorem ofPair_execute (command : BlockCommand) :
    command.execute.Only (UserRequest.OfPair command.pair.1 command.pair.2) := by
  cases command with
  | block x y => exact ofPair_block ⟨x,y⟩
  | unblock x y now => exact ofPair_unblock now ⟨x,y⟩

/-- Commands on other pairs neither change the status of this one nor tell it. -/
theorem announces_execute {ι : Type} (a b : Uuid) (i : ι) (command : BlockCommand) :
    command.execute.Announces (blockAnnouncing a b) (StillHolds a b) i [] := by
  by_cases mine : command.pair = (a,b)
  · cases command with
    | block x y =>
      cases mine
      exact announces_block
    | unblock x y now =>
      cases mine
      exact announces_unblock now
  · apply command.ofPair_execute.announces ?_ rfl
    intro β q s on
    constructor
    · cases q with
      | publish event => rcases on with rfl | rfl <;> exact if_neg mine
      | _ => rfl
    · exact if_pos (blocking_other on mine s)

end BlockCommand

section Pool
variable {ι : Type} [DecidableEq ι]

def blockPool (commands : ι → BlockCommand) (db : UserDatabase) :
    Pool UserRequest Failure Bool UserDatabase ι :=
  ⟨db,fun i => (commands i).execute⟩

/-- What the events published since then tell of the pair, in their order. -/
def toldSince (start db : UserDatabase) (a b : Uuid) : List Bool :=
  (db.published.drop start.published.length).filterMap (UserEvent.tells a b)

/-- The events of the pair come in turns, a block first, and the last one tells the stored
    status when all commands have finished. -/
structure EventsFollow (a b : Uuid) (start : UserDatabase)
    (c : Pool UserRequest Failure Bool UserDatabase ι) : Prop where
  alternate : (false :: toldSince start c.state a b).IsChain (· ≠ ·)
  last : c.Ended → (toldSince start c.state a b).getLast?.getD false = c.state.blocking a b

/-- No command of the pair writes upon a status that has changed since it was read, and
    the commands publish in the order of their writes. -/
def Orderly (a b : Uuid) (trace : List (Issued UserRequest UserDatabase ι)) : Prop :=
  ∀ before e later, trace = before ++ e :: later →
    StillHolds a b (Pool.ownSteps e.thread before) e ∧ (blockAnnouncing a b).InTurn before e

instance (a b : Uuid) (trace : List (Issued UserRequest UserDatabase ι)) :
    Decidable (Orderly a b trace) :=
  inferInstanceAs (Decidable (∀ before e later, trace = before ++ e :: later → _))

theorem published_run (c : Pool UserRequest Failure Bool UserDatabase ι) (schedule : List ι) :
    (c.run userHandler schedule).state.published =
      c.state.published ++ (c.trace userHandler schedule).filterMap fun e => e.request.event := by
  let told (past : List (Issued UserRequest UserDatabase ι)) (db : UserDatabase) : Prop :=
    db.published = c.state.published ++ past.filterMap fun e => e.request.event
  have step : ∀ past e, told past e.before →
      told (past ++ [e]) (userHandler.answer e.request e.before).2 := by
    intro past e known
    change _ = _
    rw [published_answer, known, List.filterMap_append, List.append_assoc]
    cases event : e.request.event <;> simp [event]
  exact Pool.trace_run told (fun past e _ _ => step past e) (List.append_nil _).symm

theorem toldSince_run (a b : Uuid) (c : Pool UserRequest Failure Bool UserDatabase ι)
    (schedule : List ι) :
    toldSince c.state (c.run userHandler schedule).state a b =
      (blockAnnouncing a b).announced (c.trace userHandler schedule) := by
  rw [toldSince, published_run, List.drop_left, List.filterMap_filterMap]
  rfl

/-- Commands in any order of their steps, from a state in which the pair has no row: as long
    as the run is orderly, the events of the pair follow its row. -/
theorem blockEvents_follow {a b : Uuid} (commands : ι → BlockCommand) {start : UserDatabase}
    (noRow : start.blockRow a b = none) (schedule : List ι)
    (orderly : Orderly a b ((blockPool commands start).trace userHandler schedule)) :
    EventsFollow a b start ((blockPool commands start).run userHandler schedule) := by
  have ok : Pool.Announced (blockAnnouncing a b) (StillHolds a b)
      ((blockPool commands start).trace userHandler schedule)
      ((blockPool commands start).run userHandler schedule) :=
    Pool.announced_run (fun i => (commands i).announces_execute a b i) schedule orderly
  have open' : (blockAnnouncing a b).status (blockPool commands start).state = false :=
    not_blocking_of_row noRow
  obtain ⟨chain,last⟩ := @Pool.changes_run _ _ _ _ _ _ _ (blockAnnouncing a b) _
    (blockPool commands start) schedule
  rw [open'] at chain last
  have told : toldSince start ((blockPool commands start).run userHandler schedule).state a b =
      (blockAnnouncing a b).announced ((blockPool commands start).trace userHandler schedule) :=
    toldSince_run a b (blockPool commands start) schedule
  constructor
  · rw [told]
    apply chain.prefix
    apply (List.prefix_cons_inj false).mpr
    exact ⟨_,ok.told.symm⟩
  · intro ended
    rw [told, ok.complete ended]
    rw [List.getLast?_cons] at last
    exact Option.some.inj last

end Pool

/-- One device blocks the user, another one lifts the block. -/
def blockAndUnblock (other : Bool) : BlockCommand :=
  if other then .unblock 1 2 5 else .block 1 2

/-- The second command reads the status between the write and the event of the first. -/
theorem blockEvents_follow_overlapping :
    EventsFollow 1 2 twoUsers ((blockPool blockAndUnblock twoUsers).run userHandler
      [false,false,false,true,false,false,true,false,true,true]) :=
  blockEvents_follow blockAndUnblock rfl _ (by decide)

/-- Two devices block the user. Both have read that there is no block, and the second tells a
    block that it has not made. -/
theorem blockEvents_repeated :
    twoUsers.blockRow 1 2 = none ∧
      ¬ EventsFollow 1 2 twoUsers ((blockPool (fun _ : Bool => .block 1 2) twoUsers).run userHandler
        [false,false,false,true,true,true,false,false,false,true,true]) := by
  constructor
  · rfl
  · intro follow
    exact absurd follow.alternate (by decide)

end Chatterbox
