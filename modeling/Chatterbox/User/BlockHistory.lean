import Chatterbox.User.Blocks
import Mathlib.Data.List.Sublists

/-!
Histories of block and unblock commands. The row of a pair is an automaton with
three phases: no row, a block in force, a block that was lifted. Lifted is a trap:
the insert of a further block is rejected by the primary key of the row that the
unblock left behind.
-/
namespace Chatterbox
open Concurrency Tables

inductive BlockPhase where
  | never
  | inForce
  | lifted
  deriving DecidableEq, Repr

namespace BlockPhase

/-- The phase after a block (`true`) or an unblock (`false`) of the pair. -/
def next : BlockPhase → Bool → BlockPhase
  | .never, true => .inForce
  | .never, false => .never
  | .inForce, true => .inForce
  | .inForce, false => .lifted
  | .lifted, _ => .lifted

def after (p : BlockPhase) (commands : List Bool) : BlockPhase := commands.foldl next p

/-- Some block of the pair comes when the pair is lifted. -/
def trapped : BlockPhase → List Bool → Bool
  | _, [] => false
  | p, c :: rest => (p = .lifted && c) || trapped (p.next c) rest

/-- What has to follow to run into the trap. -/
def pattern : BlockPhase → List Bool
  | .never => [true,false,true]
  | .inForce => [false,true]
  | .lifted => [true]

theorem trapped_iff (p : BlockPhase) (commands : List Bool) :
    p.trapped commands = true ↔ p.pattern.Sublist commands := by
  induction commands generalizing p with
  | nil => cases p <;> simp [trapped, pattern]
  | cons c rest ih =>
    cases p with
    | never =>
      cases c with
      | true => simp [trapped, next, ih, pattern]
      | false => simp [trapped, next, ih, pattern, List.sublist_cons_iff]
    | inForce =>
      cases c with
      | true => simp [trapped, next, ih, pattern, List.sublist_cons_iff]
      | false => simp [trapped, next, ih, pattern]
    | lifted =>
      cases c with
      | true => simp [trapped, next, pattern]
      | false => simp [trapped, next, ih, pattern]

/-- Out of the trap, the phase tells the last command of the pair. -/
theorem after_inForce_iff {p : BlockPhase} {commands : List Bool}
    (free : p.trapped commands = false) :
    p.after commands = .inForce ↔
      commands.getLast? = some true ∨ (commands = [] ∧ p = .inForce) := by
  induction commands generalizing p with
  | nil => simp [after]
  | cons c rest ih =>
    simp only [trapped, Bool.or_eq_false_iff] at free
    obtain ⟨now,later⟩ := free
    have step := ih later
    rw [after, List.foldl_cons, ← after, step]
    cases rest with
    | nil => cases p <;> cases c <;> simp_all [next]
    | cons d rest => simp [List.getLast?_cons_cons]

end BlockPhase

inductive BlockCommand where
  | block (blockerId blockedId : Uuid)
  | unblock (unblockerId unblockedId : Uuid) (now : Time)
  deriving DecidableEq, Repr

namespace BlockCommand

def execute : BlockCommand → UserProgram Bool
  | block blockerId blockedId => BlockUserHandler.execute ⟨blockerId,blockedId⟩
  | unblock unblockerId unblockedId now => UnblockUserHandler.execute now ⟨unblockerId,unblockedId⟩

def pair : BlockCommand → Uuid × Uuid
  | block a b => (a,b)
  | unblock a b _ => (a,b)

def isBlock : BlockCommand → Bool
  | block _ _ => true
  | unblock _ _ _ => false

end BlockCommand

/-- The commands of `a` on `b`: `true` for a block, `false` for an unblock. -/
def commandsOn (a b : Uuid) (history : List BlockCommand) : List Bool :=
  (history.filter (fun c => c.pair = (a,b))).map BlockCommand.isBlock

/-- Somewhere `a` blocks `b`, unblocks him and blocks him again. -/
def Reblocks (a b : Uuid) (history : List BlockCommand) : Prop :=
  [true,false,true].Sublist (commandsOn a b history)

def runHistory (db : UserDatabase) (history : List BlockCommand) :
    List (Except Failure Bool) × UserDatabase :=
  Program.runAll userHandler (history.map BlockCommand.execute) db

/-- What a history of commands promises: no command ends with a database error,
    and the status query tells the last command of every pair. -/
def FollowsHistory (db : UserDatabase) (history : List BlockCommand) : Prop :=
  (∀ outcome ∈ (runHistory db history).1, ∀ e, outcome ≠ .error (.database e)) ∧
  ∀ a b, ∃ status,
    ((GetBlockStatusHandler.execute ⟨a,b⟩).run userHandler (runHistory db history).2).1 =
      .ok status ∧
    (status.isBlocker = true ↔ (commandsOn a b history).getLast? = some true)

namespace UserDatabase

def phase (db : UserDatabase) (a b : Uuid) : BlockPhase :=
  match db.blockRow a b with
  | none => .never
  | some r => if r.deletedAt.isNone then .inForce else .lifted

theorem phase_inForce_iff {db : UserDatabase} (keyed : Keyed UserBlock.pair db.blocks)
    {a b : Uuid} : db.phase a b = .inForce ↔ db.blocking a b = true := by
  rw [blocking_iff_blockRow keyed]
  unfold phase
  cases row : db.blockRow a b with
  | none => simp
  | some r =>
    obtain ⟨_,is⟩ := lookup_mem row
    obtain ⟨x,y,deleted⟩ := r
    obtain ⟨rfl,rfl⟩ := Prod.mk.inj is
    cases deleted <;> simp

end UserDatabase

open UserDatabase

/-- A block command: the phase of its own pair makes its transition and no other pair
    moves, users stay, and the database objects exactly in the trap. -/
theorem block_step {db : UserDatabase} {a b : Uuid} (keyed : Keyed UserBlock.pair db.blocks)
    (blocker : db.Existing a) (blocked : db.Existing b) :
    let after := (BlockCommand.block a b).execute.run userHandler db
    Keyed UserBlock.pair after.2.blocks ∧ after.2.users = db.users ∧
    (∀ x y, after.2.phase x y = if (a,b) = (x,y) then (db.phase x y).next true else db.phase x y) ∧
    ((∃ e, after.1 = .error (.database e)) ↔ db.phase a b = .lifted) := by
  simp only [BlockCommand.execute, run_block blocker blocked]
  by_cases inForce : db.blocking a b = true
  · have phase := (phase_inForce_iff keyed).mpr inForce
    simp only [inForce, ↓reduceIte]
    refine ⟨keyed,trivial,fun x y => ?_,by simp [phase]⟩
    split
    · rename_i same
      obtain ⟨rfl,rfl⟩ := Prod.mk.inj same
      rw [phase, BlockPhase.next]
    · rfl
  · by_cases known : (db.blockRow a b).isSome = true
    · obtain ⟨r,row⟩ := Option.isSome_iff_exists.mp known
      have phase : db.phase a b = .lifted := by
        have open' := mt (phase_inForce_iff keyed).mp inForce
        simp only [UserDatabase.phase, row] at open' ⊢
        split
        · rename_i live
          simp [live] at open'
        · rfl
      simp only [inForce, known, Bool.false_eq_true, ↓reduceIte]
      refine ⟨keyed,by simp,fun x y => ?_,by simp [phase]⟩
      split
      · rename_i same
        obtain ⟨rfl,rfl⟩ := Prod.mk.inj same
        rw [phase, BlockPhase.next]
      · rfl
    · have none : db.blockRow a b = none := by simpa using known
      have phase : db.phase a b = .never := by simp [UserDatabase.phase, none]
      simp only [inForce, known, Bool.false_eq_true, ↓reduceIte]
      refine ⟨?_,trivial,fun x y => ?_,by simp [phase]⟩
      · have fresh := lookup_none_iff.mp none
        have new : Keyed UserBlock.pair (save UserBlock.pair ⟨a,b,Option.none⟩ db.blocks) :=
          keyed_save keyed
        rwa [save_new fresh] at new
      · have row := lookup_append UserBlock.pair (x,y) db.blocks ⟨a,b,Option.none⟩
        split
        · rename_i same
          obtain ⟨rfl,rfl⟩ := Prod.mk.inj same
          rw [phase, BlockPhase.next]
          simp only [blockRow] at none
          simp [UserDatabase.phase, blockRow, row, none, UserBlock.pair]
        · rename_i other
          simp only [UserDatabase.phase, blockRow, row, UserBlock.pair, other, ↓reduceIte,
            Option.or_none]

theorem unblock_step {db : UserDatabase} {a : Uuid} (keyed : Keyed UserBlock.pair db.blocks)
    (unblocker : db.Existing a) (b : Uuid) (now : Time) :
    let after := (BlockCommand.unblock a b now).execute.run userHandler db
    Keyed UserBlock.pair after.2.blocks ∧ after.2.users = db.users ∧
    (∀ x y, after.2.phase x y = if (a,b) = (x,y) then (db.phase x y).next false else db.phase x y) ∧
    ¬ ∃ e, after.1 = .error (.database e) := by
  simp only [BlockCommand.execute, run_unblock unblocker b now]
  by_cases inForce : db.blocking a b = true
  · simp only [inForce, ↓reduceIte]
    have frame : ∀ r : UserBlock, UserBlock.pair { r with deletedAt := some now } = r.pair :=
      fun _ => rfl
    refine ⟨keyed_amend keyed frame,trivial,fun x y => ?_,by simp⟩
    have row := lookup_amend frame (fun r => r.deletedAt.isNone && r.pair = (a,b)) (x,y) db.blocks
    split
    · rename_i same
      obtain ⟨rfl,rfl⟩ := Prod.mk.inj same
      have found := (blocking_iff_blockRow keyed).mp inForce
      rw [(phase_inForce_iff keyed).mpr inForce]
      simp only [blockRow] at found
      simp only [UserDatabase.phase, blockRow, row, found, Option.map_some]
      simp [UserBlock.pair, BlockPhase.next]
    · rename_i other
      simp only [UserDatabase.phase, blockRow, row]
      cases found : lookup UserBlock.pair (x,y) db.blocks with
      | none => rfl
      | some r =>
        have is : r.pair ≠ (a,b) := by
          rw [(lookup_mem found).2]
          exact fun same => other same.symm
        simp [is]
  · have phase := mt (phase_inForce_iff keyed).mp inForce
    simp only [inForce, Bool.false_eq_true, ↓reduceIte]
    refine ⟨keyed,trivial,fun x y => ?_,by simp⟩
    split
    · rename_i same
      obtain ⟨rfl,rfl⟩ := Prod.mk.inj same
      cases is : db.phase a b with
      | inForce => exact absurd is phase
      | never => rfl
      | lifted => rfl
    · rfl

theorem existing_of_users {db after : UserDatabase} (same : after.users = db.users) {id : Uuid}
    (known : db.Existing id) : after.Existing id := by
  unfold Existing live at known ⊢
  rwa [same]

/-- One command of a history, between existing users. -/
theorem execute_step {db : UserDatabase} {c : BlockCommand}
    (keyed : Keyed UserBlock.pair db.blocks) (user : db.Existing c.pair.1)
    (target : db.Existing c.pair.2) :
    let after := c.execute.run userHandler db
    Keyed UserBlock.pair after.2.blocks ∧ after.2.users = db.users ∧
    (∀ x y, after.2.phase x y =
      if c.pair = (x,y) then (db.phase x y).next c.isBlock else db.phase x y) ∧
    ((∃ e, after.1 = .error (.database e)) ↔
      (db.phase c.pair.1 c.pair.2 = .lifted ∧ c.isBlock = true)) := by
  cases c with
  | block a b =>
    obtain ⟨kept,users,phase,rejected⟩ := block_step keyed user target
    exact ⟨kept,users,phase,by simpa [BlockCommand.isBlock, BlockCommand.pair] using rejected⟩
  | unblock a b now =>
    have unblocker : db.Existing a := user
    obtain ⟨kept,users,phase,accepted⟩ := unblock_step keyed unblocker b now
    exact ⟨kept,users,phase,by simpa [BlockCommand.isBlock] using accepted⟩

theorem commandsOn_cons (a b : Uuid) (c : BlockCommand) (rest : List BlockCommand) :
    commandsOn a b (c :: rest) =
      if c.pair = (a,b) then c.isBlock :: commandsOn a b rest else commandsOn a b rest := by
  unfold commandsOn
  by_cases hit : c.pair = (a,b) <;> simp [hit]

/-- A whole history: every pair runs through its automaton, and a command ends with a
    database error exactly when some pair runs into the trap. -/
theorem history_run {db : UserDatabase} {history : List BlockCommand}
    (keyed : Keyed UserBlock.pair db.blocks)
    (known : ∀ c ∈ history, db.Existing c.pair.1 ∧ db.Existing c.pair.2) :
    Keyed UserBlock.pair (runHistory db history).2.blocks ∧
    (∀ a b, (runHistory db history).2.phase a b = (db.phase a b).after (commandsOn a b history)) ∧
    ((∃ outcome ∈ (runHistory db history).1, ∃ e, outcome = .error (.database e)) ↔
      ∃ a b, (db.phase a b).trapped (commandsOn a b history) = true) := by
  induction history generalizing db with
  | nil => exact ⟨keyed,fun a b => rfl,by simp [runHistory, commandsOn, BlockPhase.trapped]⟩
  | cons c rest ih =>
    obtain ⟨user,target⟩ := known c (by simp)
    obtain ⟨kept,users,phase,rejected⟩ := execute_step keyed user target
    have later : ∀ d ∈ rest, (c.execute.run userHandler db).2.Existing d.pair.1 ∧
        (c.execute.run userHandler db).2.Existing d.pair.2 := by
      intro d mem
      obtain ⟨u,t⟩ := known d (List.mem_cons_of_mem _ mem)
      exact ⟨existing_of_users users u, existing_of_users users t⟩
    obtain ⟨final,phases,errors⟩ := ih kept later
    refine ⟨final,fun a b => ?_,?_⟩
    · change (runHistory _ rest).2.phase a b = _
      rw [phases, phase, commandsOn_cons]
      split <;> rfl
    · change (∃ outcome ∈ _ :: (runHistory _ rest).1, _) ↔ _
      rw [List.exists_mem_cons_iff, rejected, errors]
      constructor
      · rintro (⟨trap,block⟩ | ⟨a,b,trap⟩)
        · refine ⟨c.pair.1,c.pair.2,?_⟩
          simp [commandsOn_cons, BlockPhase.trapped, trap, block]
        · refine ⟨a,b,?_⟩
          rw [phase] at trap
          rw [commandsOn_cons]
          split at trap
          · rename_i mine
            simp [mine, BlockPhase.trapped, trap]
          · rename_i other
            simpa [other] using trap
      · rintro ⟨a,b,trap⟩
        rw [commandsOn_cons] at trap
        by_cases mine : c.pair = (a,b)
        · simp only [mine, ↓reduceIte, BlockPhase.trapped, Bool.or_eq_true,
            Bool.and_eq_true, decide_eq_true_eq] at trap
          rcases trap with now | later
          · exact Or.inl (by rw [mine]; exact now)
          · exact Or.inr ⟨a,b,by rw [phase, if_pos mine]; exact later⟩
        · exact Or.inr ⟨a,b,by rw [phase, if_neg mine]; simpa [mine] using trap⟩

/-- Starting without blocks, a history keeps its promise exactly when nobody blocks
    again a user he has unblocked. -/
theorem followsHistory_iff {db : UserDatabase} {history : List BlockCommand}
    (fresh : db.blocks = [])
    (known : ∀ c ∈ history, db.Existing c.pair.1 ∧ db.Existing c.pair.2) :
    FollowsHistory db history ↔ ∀ a b, ¬ Reblocks a b history := by
  have keyed : Keyed UserBlock.pair db.blocks := by simp [Keyed, fresh]
  have never : ∀ a b, db.phase a b = .never := by
    intro a b
    simp [UserDatabase.phase, blockRow, fresh, lookup]
  obtain ⟨final,phases,errors⟩ := history_run keyed known
  have trap : ∀ a b, (db.phase a b).trapped (commandsOn a b history) = true ↔
      Reblocks a b history := by
    intro a b
    rw [BlockPhase.trapped_iff, never]
    rfl
  constructor
  · rintro ⟨accepted,_⟩ a b again
    obtain ⟨outcome,mem,e,rejected⟩ := errors.mpr ⟨a,b,(trap a b).mpr again⟩
    exact accepted outcome mem e rejected
  · intro once
    refine ⟨fun outcome mem e rejected => ?_,fun a b => ⟨_,rfl,?_⟩⟩
    · obtain ⟨a,b,trapped⟩ := errors.mp ⟨outcome,mem,e,rejected⟩
      exact once a b ((trap a b).mp trapped)
    · have free : (db.phase a b).trapped (commandsOn a b history) = false := by
        rw [Bool.eq_false_iff]
        exact fun trapped => once a b ((trap a b).mp trapped)
      change (runHistory db history).2.blocking a b = true ↔ _
      rw [← phase_inForce_iff final, phases, BlockPhase.after_inForce_iff free, never]
      simp

theorem followsHistory_block_unblock :
    FollowsHistory twoUsers [.block 1 2, .unblock 1 2 5] :=
  (followsHistory_iff rfl (by decide)).mpr (by
    intro a b again
    have long := again.length_le
    have short := List.length_filter_le (fun c : BlockCommand => decide (c.pair = (a,b)))
      [.block 1 2, .unblock 1 2 5]
    simp only [commandsOn, List.length_map, List.length_cons, List.length_nil] at long short
    omega)

/-- The second block of the same user is answered by the primary key. -/
theorem block_again_rejected :
    ¬ FollowsHistory twoUsers [.block 1 2, .unblock 1 2 5, .block 1 2] := by
  rintro ⟨accepted,_⟩
  exact accepted (.error (.database ⟨.uniqueViolation, "PK_48667515438e7d0f0fed998b193"⟩))
    (by decide) _ rfl

end Chatterbox
