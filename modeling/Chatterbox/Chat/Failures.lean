import Chatterbox.Chat.FailedCalls
import Chatterbox.Chat.Tombstones

/-!
The message commands when database calls fail, call by call. What a command has written before
a call that fails stays written.
-/
namespace Chatterbox
open Concurrency Tables ConversationPostgresRepository

/-- The database calls of a run that fail, by their number. -/
abbrev Failures := Nat → Option DbError

def failingHandler (failures : Failures) : Handler ChatRequest (ChatWorld × Nat) :=
  chatHandler.faulty fun q n => (failures n).bind q.refused

/-- The messages commands that write. -/
inductive MessageWrite where
  | create (command : CreateMessageCommand)
  | edit (command : EditMessageCommand)
  | delete (command : DeleteMessageCommand)
  deriving DecidableEq, Repr

namespace MessageWrite

def execute (amb : Ambient) : MessageWrite → ChatProgram LoadedMessage
  | create command => CreateMessageHandler.execute amb command
  | edit command => EditMessageHandler.execute amb.now command
  | delete command => DeleteMessageHandler.execute amb.now command

/-- What the command does when no call fails. -/
def change (amb : Ambient) (db : ChatDatabase) :
    MessageWrite → Except Failure (Change LoadedMessage)
  | create command => CreateMessageHandler.change amb command db
  | edit command => EditMessageHandler.change amb.now command db
  | delete command => DeleteMessageHandler.change amb.now command db

/-- The number of the first database call after the write: an edit and a deletion read the
    message again, a send does not. -/
def rereadsAt (db : ChatDatabase) : MessageWrite → Option Nat
  | create _ => none
  | edit _ => some 4
  | delete command => some (5 + ((db.membersOf command.conversationId).filter fun cm =>
      cm.lastMessageId = some command.messageId).length)

end MessageWrite

theorem refusing_failures (failures : Failures) :
    Refusing fun q n => (failures n).bind q.refused := by
  intro β q n b failed
  obtain ⟨e,_,is⟩ := Option.bind_eq_some_iff.mp failed
  exact ⟨e,is⟩

/-- A statement passes unless its number fails. -/
theorem store_passes (failures : Failures) (n : Nat) {β : Type} (q : StoreRequest β) :
    (failures n).bind (ChatRequest.refused (.store q)) = none ↔ failures n = none := by
  cases failures n <;> simp [ChatRequest.refused]

section Numbered
variable {failures : Failures} {w : ChatWorld} {n : Nat} {α β : Type} {r : Except Failure β}
  {v : ChatWorld × Nat}

/-- A statement is answered with the error of its failure, or as ever. -/
theorem failing_query {q : StoreRequest (Answer α)} (refuses : ∀ e, q.refused e = .error e)
    {f : α → ChatProgram β} (run : (query q >>= f).run (failingHandler failures) (w, n) = (r, v)) :
    (failures n ≠ none ∧ v.1 = w ∧ ∃ e, r = .error e) ∨
      (failures n = none ∧
        ((∃ e, (ChatDatabase.answer q w.chat).1 = .error e ∧ r = .error (.database e) ∧
            v.1 = { w with chat := (ChatDatabase.answer q w.chat).2 }) ∨
          ∃ a, (ChatDatabase.answer q w.chat).1 = .ok a ∧
            (f a).run (failingHandler failures)
              ({ w with chat := (ChatDatabase.answer q w.chat).2 }, n + 1) = (r, v))) := by
  have ends := faulty_query (refusing_failures failures) refuses run
  simp only [ne_eq, store_passes] at ends ⊢
  exact ends

theorem failing_read {q : StoreRequest (Answer α)} {read : ChatDatabase → α}
    (refuses : ∀ e, q.refused e = .error e) (reads : q.Reads read) {f : α → ChatProgram β}
    (run : (query q >>= f).run (failingHandler failures) (w, n) = (r, v)) :
    (failures n ≠ none ∧ v.1 = w ∧ ∃ e, r = .error e) ∨
      (failures n = none ∧ (f (read w.chat)).run (failingHandler failures) (w, n + 1) = (r, v)) := by
  have ends := faulty_read (refusing_failures failures) refuses reads run
  simp only [ne_eq, store_passes] at ends ⊢
  exact ends

theorem failing_requireMember {conversationId userId : Uuid}
    {f : ConversationMemberEntity → ChatProgram β}
    (run : (requireMember conversationId userId >>= f).run (failingHandler failures) (w, n) =
      (r, v)) :
    (v.1 = w ∧ (∃ e, r = .error e) ∧
        (failures n ≠ none ∨ ∃ e, w.chat.conversationMember conversationId userId = .error e)) ∨
      (failures n = none ∧ ∃ member,
        w.chat.conversationMember conversationId userId = .ok member ∧
        (f member.toDomain).run (failingHandler failures) (w, n + 1) = (r, v)) := by
  have ends := faulty_requireMember (refusing_failures failures) run
  simp only [ne_eq, store_passes] at ends ⊢
  exact ends

/-- The next two calls of an edit and of a deletion. -/
theorem failing_requireMessage {conversationId messageId : Uuid} {f : LoadedMessage → ChatProgram β}
    (run : (requireMessage conversationId messageId >>= f).run (failingHandler failures) (w, n) =
      (r, v)) :
    (v.1 = w ∧ (∃ e, r = .error e) ∧ ((failures n ≠ none ∨ failures (n + 1) ≠ none) ∨
        ∃ e, w.chat.conversationMessage conversationId messageId = .error e)) ∨
      (failures n = none ∧ failures (n + 1) = none ∧ ∃ loaded,
        w.chat.conversationMessage conversationId messageId = .ok loaded ∧
        (f loaded).run (failingHandler failures) (w, n + 2) = (r, v)) := by
  rw [requireMessage_bind] at run
  rcases failing_read (fun _ => rfl) (fun _ => rfl) run with ⟨failed,same,error⟩ | ⟨first,run⟩
  · exact Or.inl ⟨same,error,Or.inl (Or.inl failed)⟩
  unfold ChatDatabase.conversationMessage
  cases found : w.chat.message messageId with
  | none =>
    rw [found] at run
    cases run
    exact Or.inl ⟨rfl,⟨_,rfl⟩,Or.inr ⟨_,rfl⟩⟩
  | some m =>
    rw [found] at run
    simp only [Option.map_some, ChatDatabase.withReply] at run ⊢
    rcases failing_read (fun _ => rfl) (fun _ => rfl) run with ⟨failed,same,error⟩ | ⟨second,run⟩
    · exact Or.inl ⟨same,error,Or.inl (Or.inr failed)⟩
    · by_cases other : m.conversationId ≠ conversationId
      · rw [if_pos other] at run ⊢
        cases run
        exact Or.inl ⟨rfl,⟨_,rfl⟩,Or.inr ⟨_,rfl⟩⟩
      · rw [if_neg other] at run ⊢
        exact Or.inr ⟨first,second,_,rfl,run⟩

/-- How a command ends that has written the change, and reads the message again at call `n`. -/
def Rereads (failures : Failures) (n : Nat) (w : ChatWorld) (c : Change LoadedMessage)
    (r : Except Failure LoadedMessage) (v : ChatWorld) : Prop :=
  (failures n = none ∧ failures (n + 1) = none ∧ r = .ok c.result ∧
      v = { w with chat := c.chat, published := w.published ++ c.events }) ∨
    ((failures n ≠ none ∨ failures (n + 1) ≠ none) ∧ (∃ e, r = .error e) ∧
      v = { w with chat := c.chat })

theorem failing_publishAll (events : List MessageEvent) (f : Unit → ChatProgram β) :
    ∃ m, (publishAll events >>= f).run (failingHandler failures) (w, n) =
      (f ()).run (failingHandler failures) ({ w with published := w.published ++ events }, m) := by
  induction events generalizing w n with
  | nil => exact ⟨n,by simp [publishAll]⟩
  | cons event rest ih =>
    obtain ⟨m,is⟩ := @ih { w with published := w.published ++ [event] } (n + 1)
    refine ⟨m,?_⟩
    rw [publishAll, Program.bind_assoc, failingHandler, faulty_publish (refusing_failures failures),
      ← failingHandler, is]
    simp

theorem failing_reload {id : Uuid} {events : List MessageEvent} {db : ChatDatabase}
    {c : Change LoadedMessage} (reloads : db.reload id events = .ok c)
    {r : Except Failure LoadedMessage} (run : (getMessageById id >>= fun saved =>
      publishAll events >>= fun _ => requireSaved saved).run (failingHandler failures)
        ({ w with chat := db }, n) = (r, v)) : Rereads failures n w c r v.1 := by
  obtain ⟨m,found,rfl⟩ := reload_ok reloads
  rw [getMessageById_bind] at run
  rcases failing_read (fun _ => rfl) (fun _ => rfl) run with ⟨failed,same,error⟩ | ⟨first,run⟩
  · exact Or.inr ⟨Or.inl failed,error,same⟩
  · dsimp only at run
    rw [found] at run
    simp only [Option.map_some, ChatDatabase.withReply, loadDeletions_bind] at run
    rcases failing_read (fun _ => rfl) (fun _ => rfl) run with ⟨failed,same,error⟩ | ⟨second,run⟩
    · exact Or.inr ⟨Or.inr failed,error,same⟩
    · obtain ⟨m,is⟩ := @failing_publishAll failures { w with chat := db } (n + 1 + 1) _ events
        fun _ => requireSaved (some (db.loaded m))
      refine Or.inl ⟨first,second,?_⟩
      have ran := is.symm.trans run
      cases ran
      exact ⟨rfl,rfl⟩

/-- The loop of a deletion makes a call for every member that points at the message. -/
theorem failing_movePointers (d : MessageDeletion) {members : List ConversationMember}
    {f : List ConversationMember → ChatProgram β}
    (run : (movePointers d members >>= f).run (failingHandler failures) (w, n) = (r, v)) :
    ((∃ i < members.length, failures (n + i) ≠ none) ∧ v.1 = w ∧ ∃ e, r = .error e) ∨
      ((∀ i < members.length, failures (n + i) = none) ∧
        (f (members.map (w.chat.movePointer d))).run (failingHandler failures)
          (w, n + members.length) = (r, v)) := by
  induction members generalizing n f with
  | nil => exact Or.inr ⟨nofun,run⟩
  | cons cm rest ih =>
    rw [movePointers, Program.bind_assoc] at run
    rcases failing_read (fun _ => rfl) (fun _ => rfl) run with ⟨failed,stopped⟩ | ⟨first,run⟩
    · exact Or.inl ⟨⟨0,Nat.succ_pos _,failed⟩,stopped⟩
    rw [Program.bind_assoc] at run
    rcases ih run with ⟨⟨i,inside,failed⟩,stopped⟩ | ⟨others,run⟩
    · refine Or.inl ⟨⟨i + 1,Nat.succ_lt_succ inside,?_⟩,stopped⟩
      rw [← Nat.add_assoc, Nat.add_right_comm]
      exact failed
    · refine Or.inr ⟨?_,?_⟩
      · intro i inside
        cases i with
        | zero => exact first
        | succ i =>
          rw [← Nat.add_assoc, Nat.add_right_comm]
          exact others i (Nat.lt_of_succ_lt_succ inside)
      · rw [List.length_cons, ← Nat.add_assoc, Nat.add_right_comm]
        exact run

/-- How a command ends whose write is the last of its first `n` calls: stopped before the write,
    with nothing changed, or at the second reading. -/
def EndsWriting (failures : Failures) (n : Nat) (w : ChatWorld)
    (change : Except Failure (Change LoadedMessage)) (r : Except Failure LoadedMessage)
    (v : ChatWorld) : Prop :=
  (v = w ∧ (∃ e, r = .error e) ∧
      ((∃ i < n, failures i ≠ none) ∨ ∃ e, change = .error e)) ∨
    ((∀ i < n, failures i = none) ∧ ∃ c, change = .ok c ∧ Rereads failures n w c r v)

/-- A write that does not fail, and the second reading. -/
theorem endsWriting_write {q : StoreRequest (Answer Unit)} {db : ChatDatabase}
    (refuses : ∀ e, q.refused e = .error e) (answered : ChatDatabase.answer q w.chat = (.ok (), db))
    {id : Uuid} {events : List MessageEvent} {m : Message} (known : db.message id = some m)
    (before : ∀ i < n, failures i = none) {change : Except Failure (Change LoadedMessage)}
    (changes : change = db.reload id events) {r : Except Failure LoadedMessage}
    (run : (query q >>= fun _ => getMessageById id >>= fun saved => publishAll events >>= fun _ =>
      requireSaved saved).run (failingHandler failures) (w, n) = (r, v)) :
    EndsWriting failures (n + 1) w change r v.1 := by
  rcases failing_query refuses run with
    ⟨failed,same,error⟩ | ⟨written,⟨e,is,_⟩ | ⟨_,_,run⟩⟩
  · exact Or.inl ⟨same,error,Or.inl ⟨n,Nat.lt_succ_self n,failed⟩⟩
  · rw [answered] at is
    cases is
  · rw [answered] at run
    have reloads : db.reload id events = .ok ⟨db.loaded m,db,events⟩ := by
      rw [ChatDatabase.reload, known]
    refine Or.inr ⟨?_,_,changes.trans reloads,failing_reload reloads run⟩
    intro i inside
    rcases Nat.lt_succ_iff_lt_or_eq.mp inside with earlier | last
    · exact before i earlier
    · rw [last]
      exact written

theorem failing_edit {now : Time} {command : EditMessageCommand} {r : Except Failure LoadedMessage}
    (run : (EditMessageHandler.execute now command).run (failingHandler failures) (w, 0) = (r, v)) :
    EndsWriting failures 4 w (EditMessageHandler.change now command w.chat) r v.1 := by
  unfold EditMessageHandler.execute at run
  rcases failing_requireMember run with ⟨same,error,failed | ⟨e,refused⟩⟩ | ⟨first,member,seated,run⟩
  · exact Or.inl ⟨same,error,Or.inl ⟨0,by omega,failed⟩⟩
  · exact Or.inl ⟨same,error,Or.inr ⟨e,by rw [EditMessageHandler.change, refused]; rfl⟩⟩
  rcases failing_requireMessage run with
    ⟨same,error,(failed | failed) | ⟨e,refused⟩⟩ | ⟨second,third,loaded,read,run⟩
  · exact Or.inl ⟨same,error,Or.inl ⟨1,by omega,failed⟩⟩
  · exact Or.inl ⟨same,error,Or.inl ⟨2,by omega,failed⟩⟩
  · exact Or.inl ⟨same,error,Or.inr ⟨e,by rw [EditMessageHandler.change, seated, refused]; rfl⟩⟩
  cases edits : loaded.message.edit now command.text member.id with
  | error e =>
    have is : loaded.message.edit now command.text member.toDomain.id = .error e := edits
    rw [is] at run
    cases run
    have refused : EditMessageHandler.change now command w.chat = .error e := by
      simp only [EditMessageHandler.change, seated, read, bind, Except.bind, edits]
    exact Or.inl ⟨rfl,⟨_,rfl⟩,Or.inr ⟨e,refused⟩⟩
  | ok edited =>
    have is : loaded.message.edit now command.text member.toDomain.id = .ok edited := edits
    have changes : EditMessageHandler.change now command w.chat = (w.chat.updateMessage edited.1.id
        edited.1.text edited.1.editedAt edited.1.updatedAt).reload edited.1.id edited.2 := by
      simp only [EditMessageHandler.change, seated, read, bind, Except.bind, edits]
    rw [is, Program.lift_ok, Program.done_bind, updateMessage, Program.bind_assoc] at run
    obtain ⟨m,found,_,_,id⟩ := message_isSome_of_loaded read
    have known : ((w.chat.updateMessage edited.1.id edited.1.text edited.1.editedAt
        edited.1.updatedAt).message edited.1.id).isSome := by
      rw [message_updateMessage, edit_id edits, id, found]
      rfl
    obtain ⟨m',known⟩ := Option.isSome_iff_exists.mp known
    have before : ∀ i < 3, failures i = none := by
      intro i inside
      have which : i = 0 ∨ i = 1 ∨ i = 2 := by omega
      rcases which with rfl | rfl | rfl <;> assumption
    exact endsWriting_write (fun _ => rfl) rfl known before changes run

theorem failing_delete {now : Time} {command : DeleteMessageCommand}
    {r : Except Failure LoadedMessage}
    (run : (DeleteMessageHandler.execute now command).run (failingHandler failures) (w, 0) =
      (r, v)) :
    EndsWriting failures (5 + ((w.chat.membersOf command.conversationId).filter fun cm =>
      cm.lastMessageId = some command.messageId).length) w
      (DeleteMessageHandler.change now command w.chat) r v.1 := by
  unfold DeleteMessageHandler.execute at run
  rcases failing_requireMember run with ⟨same,error,failed | ⟨e,refused⟩⟩ | ⟨first,member,seated,run⟩
  · exact Or.inl ⟨same,error,Or.inl ⟨0,by omega,failed⟩⟩
  · exact Or.inl ⟨same,error,Or.inr ⟨e,by rw [DeleteMessageHandler.change, refused]; rfl⟩⟩
  rcases failing_requireMessage run with
    ⟨same,error,(failed | failed) | ⟨e,refused⟩⟩ | ⟨second,third,loaded,read,run⟩
  · exact Or.inl ⟨same,error,Or.inl ⟨1,by omega,failed⟩⟩
  · exact Or.inl ⟨same,error,Or.inl ⟨2,by omega,failed⟩⟩
  · exact Or.inl ⟨same,error,Or.inr ⟨e,by rw [DeleteMessageHandler.change, seated, refused]; rfl⟩⟩
  cases deletes : DeleteMessageHandler.delete now command member.id loaded.message with
  | error e =>
    have is : DeleteMessageHandler.delete now command member.toDomain.id loaded.message =
      .error e := deletes
    rw [is] at run
    cases run
    have refused : DeleteMessageHandler.change now command w.chat = .error e := by
      simp only [DeleteMessageHandler.change, seated, read, bind, Except.bind, deletes]
    exact Or.inl ⟨rfl,⟨_,rfl⟩,Or.inr ⟨e,refused⟩⟩
  | ok deleted =>
    have is : DeleteMessageHandler.delete now command member.toDomain.id loaded.message =
      .ok deleted := deletes
    have changes : DeleteMessageHandler.change now command w.chat =
        (w.chat.storeDeletion deleted.1.deletion
          (w.chat.movedPointers deleted.1.deletion)).reload deleted.1.id deleted.2 := by
      simp only [DeleteMessageHandler.change, seated, read, bind, Except.bind, deletes]
    obtain ⟨m,found,home,rfl,id⟩ := message_isSome_of_loaded read
    obtain ⟨sameId,sameHome,_⟩ := delete_ok deletes
    have here : deleted.1.conversationId = command.conversationId :=
      (sameHome.trans (MessageEntity.loadDeletedForUserIds_conversationId ..)).trans home
    have its : deleted.1.id = command.messageId := sameId.trans id
    have known : ((w.chat.storeDeletion deleted.1.deletion
        (w.chat.movedPointers deleted.1.deletion)).message deleted.1.id).isSome := by
      rw [message_storeDeletion, its, found]
      rfl
    obtain ⟨m',known⟩ := Option.isSome_iff_exists.mp known
    rw [is, Program.lift_ok, Program.done_bind, saveMessageDeletion] at run
    simp only [Program.bind_assoc] at run
    rcases failing_read (fun _ => rfl) (fun _ => rfl) run with ⟨failed,same,error⟩ | ⟨fourth,run⟩
    · exact Or.inl ⟨same,error,Or.inl ⟨3,by omega,failed⟩⟩
    rw [here, its] at run
    rcases failing_movePointers _ run with ⟨⟨i,inside,failed⟩,same,error⟩ | ⟨others,run⟩
    · exact Or.inl ⟨same,error,Or.inl ⟨3 + 1 + i,by omega,failed⟩⟩
    have before : ∀ i < 3 + 1 + ((w.chat.membersOf command.conversationId).filter fun cm =>
        cm.lastMessageId = some command.messageId).length, failures i = none := by
      intro i inside
      by_cases early : i < 4
      · have which : i = 0 ∨ i = 1 ∨ i = 2 ∨ i = 3 := by omega
        rcases which with rfl | rfl | rfl | rfl <;> assumption
      · have later := others (i - 4) (by omega)
        have place : 3 + 1 + (i - 4) = i := by omega
        rwa [place] at later
    have moved : w.chat.movedPointers deleted.1.deletion =
        ((w.chat.membersOf command.conversationId).filter fun cm =>
          cm.lastMessageId = some command.messageId).map
            (w.chat.movePointer deleted.1.deletion) := by
      change ((w.chat.membersOf deleted.1.conversationId).filter fun cm =>
        cm.lastMessageId = some deleted.1.id).map _ = _
      rw [here, its]
    rw [← moved] at run
    rw [its] at known changes
    have ends := endsWriting_write (fun _ => rfl) rfl known before changes run
    have five : ∀ k, 3 + 1 + k + 1 = 5 + k := by omega
    rwa [five] at ends

end Numbered

namespace MessageWrite

/-- A command that ends with an error has changed nothing and published nothing, and with a
    change that is stored its events are published. -/
def AllOrNothing (amb : Ambient) (failures : Failures) (w : ChatWorld) (command : MessageWrite) :
    Prop :=
  let (r, v, _) := (command.execute amb).run (failingHandler failures) (w, 0)
  ((∃ e, r = .error e) → v.chat = w.chat ∧ v.published = w.published) ∧
    (v.chat ≠ w.chat → ∃ c, command.change amb w.chat = .ok c ∧ v.chat = c.chat ∧
      v.published = w.published ++ c.events)

/-- Where the calls up to a write succeed that changes a row, the two calls of the second reading
    succeed. -/
def RereadsSafely (amb : Ambient) (failures : Failures) (w : ChatWorld) (command : MessageWrite) :
    Prop :=
  ∀ n, command.rereadsAt w.chat = some n → (∀ i < n, failures i = none) →
    ∀ c, command.change amb w.chat = .ok c → c.chat ≠ w.chat →
      failures n = none ∧ failures (n + 1) = none

section Ends
variable {amb : Ambient} {failures : Failures} {w : ChatWorld}

/-- A command that reads the message again after its write. -/
theorem all_or_nothing_of_ends {command : MessageWrite} {n : Nat}
    (rereads : command.rereadsAt w.chat = some n)
    (ends : ∀ {r v}, (command.execute amb).run (failingHandler failures) (w, 0) = (r, v) →
      EndsWriting failures n w (command.change amb w.chat) r v.1) :
    command.AllOrNothing amb failures w ↔ command.RereadsSafely amb failures w := by
  unfold AllOrNothing RereadsSafely
  cases run : (command.execute amb).run (failingHandler failures) (w, 0) with
  | mk r v =>
    rw [rereads]
    dsimp only
    rcases ends run with ⟨same,⟨e,error⟩,stopped⟩ | ⟨before,c,changes,again⟩
    · rw [same]
      constructor
      · intro _ n is before c changes
        cases is
        rcases stopped with ⟨i,inside,failed⟩ | ⟨e,refused⟩
        · exact absurd (before i inside) failed
        · rw [refused] at changes
          cases changes
      · intro _
        exact ⟨fun _ => ⟨rfl,rfl⟩,fun differs => absurd rfl differs⟩
    · rcases again with ⟨first,second,rfl,is⟩ | ⟨failed,⟨e,rfl⟩,is⟩
      · rw [is]
        constructor
        · intro _ n is _ _ _ _
          cases is
          exact ⟨first,second⟩
        · intro _
          exact ⟨nofun,fun _ => ⟨c,changes,rfl,rfl⟩⟩
      · rw [is]
        constructor
        · intro ⟨kept,_⟩ n is _ c' changes' differs
          rw [changes] at changes'
          cases changes'
          exact absurd (kept ⟨e,rfl⟩).1 differs
        · intro safe
          by_cases same : c.chat = w.chat
          · exact ⟨fun _ => ⟨same,rfl⟩,fun differs => absurd same differs⟩
          · obtain ⟨first,second⟩ := safe n rfl before c changes same
            rcases failed with failed | failed
            · exact absurd first failed
            · exact absurd second failed

/-- Whatever database calls fail, a send is all or nothing, and an edit or a deletion is if and
    only if the calls succeed that read the message again after a write that changes a row. -/
theorem all_or_nothing_iff (command : MessageWrite) :
    command.AllOrNothing amb failures w ↔ command.RereadsSafely amb failures w := by
  cases command with
  | create command =>
    unfold AllOrNothing RereadsSafely
    cases run : ((create command).execute amb).run (failingHandler failures) (w, 0) with
    | mk r v =>
      constructor
      · intro _ n is
        cases is
      · intro _
        dsimp only
        rcases faulty_create (refusing_failures failures) run with same | ⟨⟨a,rfl⟩,same⟩ | plain
        · rw [same]
          exact ⟨fun _ => ⟨rfl,rfl⟩,fun differs => absurd rfl differs⟩
        · exact ⟨nofun,fun differs => absurd same differs⟩
        · rw [run_createMessage] at plain
          rcases apply_inv plain with ⟨same,e,_,rfl⟩ | ⟨c,changes,rfl,is⟩
          · rw [same]
            exact ⟨fun _ => ⟨rfl,rfl⟩,fun differs => absurd rfl differs⟩
          · rw [is]
            exact ⟨nofun,fun _ => ⟨c,changes,rfl,rfl⟩⟩
  | edit command => exact all_or_nothing_of_ends rfl failing_edit
  | delete command => exact all_or_nothing_of_ends rfl failing_delete

end Ends

end MessageWrite

/-- Only this call fails. -/
def failsAt (n : Nat) : Failures := fun i => if i = n then some ⟨.other,""⟩ else none

/-- The text of a message is stored, and nobody is told: the message is not read again. -/
theorem edit_unannounced :
    ¬ (MessageWrite.edit ⟨200,100,1,[121, 111]⟩).AllOrNothing (numberedDraws 3) (failsAt 4)
      sentWorld := by
  intro ⟨kept,_⟩
  have error : (((MessageWrite.edit ⟨200,100,1,[121, 111]⟩).execute (numberedDraws 3)).run
      (failingHandler (failsAt 4)) (sentWorld, 0)).1 = .error (.database ⟨.other,""⟩) := by decide
  have same := (kept ⟨_,error⟩).1
  revert same
  decide

end Chatterbox
