import Chatterbox.Chat.Idempotency
import Chatterbox.Chat.LastMessage
import Chatterbox.Chat.Tombstones
import Chatterbox.Concurrency.Serial
import Mathlib.Data.List.Permutation

/-!
Marking as read, sending and deleting side by side. Each of these reads member rows and
saves them back whole, so a save can overwrite a pointer that another operation has moved
since. As long as every save still finds what its operation has read for it, the tables
are those of the same operations one after another.
-/
namespace Chatterbox
open Concurrency Tables ConversationPostgresRepository

/-- The tables that a command leaves. -/
def ChatDatabase.afterwards {α : Type} (db : ChatDatabase) :
    Except Failure (Change α) → ChatDatabase
  | .error _ => db
  | .ok c => c.chat

theorem apply_chat {α : Type} (w : ChatWorld) (change : Except Failure (Change α)) :
    (w.apply change).2.chat = w.chat.afterwards change := by
  cases change <;> rfl

inductive MemberCommand where
  | markAsRead (command : MarkConversationAsReadCommand)
  | send (command : CreateMessageCommand)
  | delete (command : DeleteMessageCommand)
  deriving DecidableEq, Repr

namespace MemberCommand

def execute (amb : Ambient) : MemberCommand → ChatProgram Unit
  | markAsRead command => MarkConversationAsReadCommandHandler.execute command
  | send command => (fun _ => ()) <$> CreateMessageHandler.execute amb command
  | delete command => (fun _ => ()) <$> DeleteMessageHandler.execute amb.now command

/-- What a save is made from has not changed since its operation has read it. -/
def StillReads : {β : Type} → MemberCommand → ChatRequest β → ChatDatabase → ChatDatabase → Prop
  | _, markAsRead _, .store (.getConversation id), before, now =>
      now.getConversation id = before.getConversation id
  | _, send _, .store (.getMembers conversationId), before, now =>
      now.membersOf conversationId = before.membersOf conversationId
  | _, delete _, .store (.getMessage id), before, now => now.message id = before.message id
  | _, delete _, .store (.getDeletedMessages id), before, now =>
      now.deletedMessages.filter (fun r => r.messageId = id) =
        before.deletedMessages.filter (fun r => r.messageId = id)
  | _, delete _, .store (.getMembersAt conversationId messageId), before, now =>
      (now.membersOf conversationId).filter (fun m => m.lastMessageId = some messageId) =
        (before.membersOf conversationId).filter (fun m => m.lastMessageId = some messageId)
  | _, delete _, .store (.getLatestMessage d userId), before, now =>
      ((now.applyDeletion d).latestVisible d.conversationId userId).map Message.id =
        ((before.applyDeletion d).latestVisible d.conversationId userId).map Message.id
  | _, _, _, _, _ => True

instance {β : Type} (command : MemberCommand) (q : ChatRequest β) (before now : ChatDatabase) :
    Decidable (command.StillReads q before now) := by
  unfold StillReads
  split <;> infer_instance

/-- The message that a send quotes may still be quoted. -/
def MayQuote : MemberCommand → ChatDatabase → Bool
  | send command, db => (CreateMessageHandler.quoted command db).isOk
  | _, _ => true

/-- The tables after the operation when it runs alone. -/
def alone (amb : Ambient) (db : ChatDatabase) : MemberCommand → ChatDatabase
  | markAsRead command => db.afterwards (MarkConversationAsReadCommandHandler.change command db)
  | send command => db.afterwards (CreateMessageHandler.change amb command db)
  | delete command => db.afterwards (DeleteMessageHandler.change amb.now command db)

theorem run_chat (amb : Ambient) (command : MemberCommand) (w : ChatWorld) :
    ((command.execute amb).run chatHandler w).2.chat = command.alone amb w.chat := by
  cases command with
  | markAsRead command =>
    rw [execute, run_markConversationAsRead]
    exact apply_chat ..
  | send command =>
    rw [execute, Program.run_map, run_createMessage]
    exact apply_chat ..
  | delete command =>
    rw [execute, Program.run_map, run_deleteMessage]
    exact apply_chat ..

end MemberCommand

namespace ChatDatabase

/-- The same conversations, with the same members. -/
structure Alike (s t : ChatDatabase) : Prop where
  conversations : s.conversations = t.conversations
  members : s.members.map ConversationMember.identity = t.members.map ConversationMember.identity

variable {s t : ChatDatabase} {conversationId userId : Uuid}

theorem find_identity (db : ChatDatabase) (conversationId userId : Uuid) :
    ((db.membersOf conversationId).find? (fun m => m.userId = userId)).map
        ConversationMember.identity =
      (((db.members.map ConversationMember.identity).filter fun k => k.2.2.2.isNone).filter
        fun k => k.2.2.1 = conversationId).find? fun k => k.2.1 = userId := by
  rw [List.filter_map, List.filter_map, List.find?_map]
  rfl

/-- The member behind a request stays the same row. -/
theorem conversationMember_alike (alike : s.Alike t) {member : ConversationMember}
    (is : s.conversationMember conversationId userId = .ok member) :
    ∃ member', t.conversationMember conversationId userId = .ok member' ∧
      member'.id = member.id := by
  have same := find_identity s conversationId userId
  rw [alike.members, ← find_identity t] at same
  unfold conversationMember getConversation liveConversations at is ⊢
  rw [alike.conversations] at is
  cases found : lookup Conversation.id conversationId
      (t.conversations.filter fun c => c.deletedAt.isNone) with
  | none => rw [found] at is; cases is
  | some c =>
    rw [found] at is
    dsimp only [Option.map_some] at is ⊢
    cases here : (s.membersOf conversationId).find? (fun m => m.userId = userId) with
    | none => rw [here] at is; cases is
    | some row =>
      rw [here] at is same
      cases is
      obtain ⟨row',there,identity⟩ := Option.map_eq_some_iff.mp same.symm
      rw [there]
      exact ⟨row',rfl,congrArg Prod.fst identity⟩

/-- Saving a conversation and its members as they are, but for their pointers. -/
theorem storeConversation_alike (alike : s.Alike t)
    (conversations : Keyed Conversation.id t.conversations)
    (members : Keyed ConversationMember.id t.members)
    {rows : Conversation × List ConversationMember}
    (read : s.getConversation conversationId = some rows)
    {change : ConversationMember → ConversationMember}
    (frame : ∀ m, (change m).identity = m.identity) :
    (s.storeConversation rows.1 (rows.2.map change)).2.Alike s ∧
      (s.storeConversation rows.1 (rows.2.map change)).2.messages = s.messages := by
  obtain ⟨c,found,rfl⟩ := Option.map_eq_some_iff.mp read
  cases stores : s.storeConversation c ((s.membersOf conversationId).map change) with
  | mk answered stored =>
    cases answered with
    | error e =>
      rw [s.storeConversation_error stores]
      exact ⟨⟨rfl,rfl⟩,rfl⟩
    | ok a =>
      obtain ⟨_,rfl,_⟩ := s.storeConversation_ok stores
      refine ⟨⟨?_,?_⟩,rfl⟩
      · rw [← alike.conversations] at conversations
        exact save_same conversations (List.mem_of_mem_filter (lookup_mem found).1)
      · exact identity_saved (keyed_of_identity alike.members members)
          (fun m mem => (membersOf_iff.mp mem).1) frame

theorem store_alike {message : MessageEntity} (members : Keyed ConversationMember.id s.members) :
    (CreateMessageHandler.store message s).2.Alike s ∧
      ∀ id ∈ (CreateMessageHandler.store message s).2.messages.map Message.id,
        id = message.id ∨ id ∈ s.messages.map Message.id := by
  cases stores : CreateMessageHandler.store message s with
  | mk answered stored =>
    cases answered with
    | error e =>
      rw [s.storeMessage_error stores]
      exact ⟨⟨rfl,rfl⟩,fun _ => Or.inr⟩
    | ok a =>
      obtain ⟨_,_,rfl⟩ := s.storeMessage_ok stores
      refine ⟨⟨rfl,?_⟩,fun id mem => ?_⟩
      · exact identity_saved members (fun m mem => (membersOf_iff.mp mem).1) fun _ => rfl
      · obtain ⟨m,known,rfl⟩ := List.mem_map.mp mem
        rcases mem_save.mp known with rfl | ⟨old,_⟩
        · exact Or.inl rfl
        · exact Or.inr (List.mem_map_of_mem old)

end ChatDatabase

/-- The operations share the tables of the chat module. Conversations and the identity of
    members never change; the uuid of a message is unused until its send commits. -/
def memberSharing {ι : Type} (w : ChatWorld) (owns : ι → Uuid) :
    Sharing ChatRequest ChatWorld ChatDatabase ι where
  handler := chatHandler
  view := ChatWorld.chat
  inv s := s.chat.Alike w.chat
  mine i s := owns i ∉ s.chat.messages.map Message.id

/-- What has been read for a save still holds when it commits. -/
def MemberCommand.Admits {ι : Type} (command : MemberCommand)
    (past : List (Issued ChatRequest ChatWorld ι)) (save : Issued ChatRequest ChatWorld ι) : Prop :=
  save.request.writes = true →
    (∀ load ∈ past, command.StillReads load.request load.before.chat save.before.chat) ∧
      command.MayQuote save.before.chat = true

/-- What the program does to the tables when it runs alone. -/
def Leaves {α : Type} (p : ChatProgram α) (after : ChatDatabase → ChatDatabase) : Prop :=
  ∀ s, (p.run chatHandler s).2.chat = after s.chat

section Pivots
variable {ι α β : Type} {w : ChatWorld} {owns : ι → Uuid} {i : ι}

theorem quiet_silent {p : ChatProgram α} (quiet : Quiet p) :
    p.Silent (memberSharing w owns) i := by
  refine quiet.silent fun q s reads hs => ?_
  have same := chat_of_reads reads s
  refine ⟨⟨?_,fun j _ free => ?_⟩,same⟩
  · change (chatHandler.answer q s).2.chat.Alike w.chat
    rw [same]
    exact hs
  · change _ ∉ (chatHandler.answer q s).2.chat.messages.map _
    rw [same]
    exact free

variable {whole : ChatProgram β} {after : ChatDatabase → ChatDatabase}
  {admits : List (Issued ChatRequest ChatWorld ι) → Issued ChatRequest ChatWorld ι → Prop}
  {past : List (Issued ChatRequest ChatWorld ι)}
  (leaves : Leaves whole after)
include leaves

/-- A statement that is answered from the tables: the program goes on, or it is refused here
    and now. -/
theorem pivots_answer {q : StoreRequest (Answer α)} {read : ChatDatabase → α}
    (reads : q.Reads read) {f : Answer α → ChatProgram β}
    (next : ∀ s : ChatWorld, s.chat.Alike w.chat →
      Program.Pivots (memberSharing w owns) whole admits i (past ++ [⟨i,_,.store q,s⟩])
          (f (.ok (read s.chat))) ∨
        (after s.chat = s.chat ∧ Quiet (f (.ok (read s.chat))))) :
    Program.Pivots (memberSharing w owns) whole admits i past (.request (.store q) f) := by
  intro s hs own _
  have answered : (memberSharing w owns).handler.answer (.store q) s = (.ok (read s.chat), s) := by
    change chatHandler.answer (.store q) s = _
    simp [chatHandler, ChatWorld.answer, reads s.chat]
  rw [answered]
  refine ⟨⟨hs,fun _ _ free => free⟩,?_⟩
  rcases next s hs with later | ⟨refused,quiet⟩
  · exact Or.inl ⟨rfl,own,later⟩
  · exact Or.inr ⟨((leaves s).trans refused).symm,quiet_silent quiet⟩

theorem pivots_read {q : StoreRequest (Answer α)} {read : ChatDatabase → α} (reads : q.Reads read)
    {f : α → ChatProgram β}
    (next : ∀ s : ChatWorld, s.chat.Alike w.chat →
      Program.Pivots (memberSharing w owns) whole admits i (past ++ [⟨i,_,.store q,s⟩])
          (f (read s.chat)) ∨
        (after s.chat = s.chat ∧ Quiet (f (read s.chat)))) :
    Program.Pivots (memberSharing w owns) whole admits i past (query q >>= f) :=
  pivots_answer leaves reads next

/-- A commit that does what the operation does alone. -/
theorem pivots_commit {γ : Type} {q : StoreRequest γ} {f : γ → ChatProgram β}
    (commit : ∀ s : ChatWorld, s.chat.Alike w.chat → owns i ∉ s.chat.messages.map Message.id →
      admits past ⟨i,_,.store q,s⟩ →
      (ChatDatabase.answer q s.chat).2.Alike s.chat ∧
        (∀ id ∈ (ChatDatabase.answer q s.chat).2.messages.map Message.id, id = owns i ∨
          id ∈ s.chat.messages.map Message.id) ∧
        (ChatDatabase.answer q s.chat).2 = after s.chat)
    (distinct : Function.Injective owns) (quiet : ∀ a, Quiet (f a)) :
    Program.Pivots (memberSharing w owns) whole admits i past (.request (.store q) f) := by
  intro s hs own admitted
  obtain ⟨alike,ids,alone⟩ := commit s hs own admitted
  refine ⟨⟨⟨alike.1.trans hs.1,alike.2.trans hs.2⟩,fun j other free mem => ?_⟩,
    Or.inr ⟨alone.trans (leaves s).symm,quiet_silent (quiet _)⟩⟩
  rcases ids _ mem with same | old
  · exact other (distinct same)
  · exact free old

/-- The check that starts every command: it refuses alone what it refuses here, and whom it
    lets pass stays the same row. -/
theorem pivots_requireMember {conversationId userId : Uuid}
    {f : ConversationMemberEntity → ChatProgram β}
    (refuses : ∀ db e, db.conversationMember conversationId userId = .error e → after db = db)
    (next : ∀ load (member : ConversationMember),
      (∀ db : ChatDatabase, db.Alike w.chat → ∃ member',
        db.conversationMember conversationId userId = .ok member' ∧ member'.id = member.id) →
      Program.Pivots (memberSharing w owns) whole admits i (past ++ [load]) (f member.toDomain)) :
    Program.Pivots (memberSharing w owns) whole admits i past
      (requireMember conversationId userId >>= f) := by
  rw [requireMember_bind]
  refine pivots_read leaves (fun _ => rfl) fun s hs => ?_
  cases is : s.chat.conversationMember conversationId userId with
  | error e =>
    refine Or.inr ⟨refuses _ e is,?_⟩
    cases found : s.chat.getConversation conversationId with
    | none => trivial
    | some rows =>
      cases seat : rows.2.find? (fun m => m.userId = userId) with
      | none =>
        simp only [seat]
        trivial
      | some member => simp [ChatDatabase.conversationMember, found, seat] at is
  | ok member =>
    refine Or.inl ?_
    have stays : ∀ db : ChatDatabase, db.Alike w.chat → ∃ member',
        db.conversationMember conversationId userId = .ok member' ∧ member'.id = member.id :=
      fun db alike => ChatDatabase.conversationMember_alike
        ⟨hs.1.trans alike.1.symm,hs.2.trans alike.2.symm⟩ is
    cases found : s.chat.getConversation conversationId with
    | none => simp [ChatDatabase.conversationMember, found] at is
    | some rows =>
      cases seat : rows.2.find? (fun m => m.userId = userId) with
      | none => simp [ChatDatabase.conversationMember, found, seat] at is
      | some member' =>
        simp only [ChatDatabase.conversationMember, found, seat, Except.ok.injEq] at is
        simp only [seat, is]
        exact next _ _ stays

/-- The loop of a deletion: what it has read for each member is what it saves. -/
theorem pivots_movePointers {command : DeleteMessageCommand} (d : MessageDeletion)
    (rows : List ConversationMember)
    {f : List ConversationMember → ChatProgram β}
    (next : ∀ later moved, (∀ now : ChatDatabase, (∀ load ∈ past ++ later,
        (MemberCommand.delete command).StillReads load.request load.before.chat now) →
          moved = rows.map (now.movePointer d)) →
      Program.Pivots (memberSharing w owns) whole (MemberCommand.delete command).Admits i
        (past ++ later) (f moved)) :
    Program.Pivots (memberSharing w owns) whole (MemberCommand.delete command).Admits i past
      (ConversationPostgresRepository.movePointers d rows >>= f) := by
  induction rows generalizing past f with
  | nil =>
    have start := next [] [] fun _ _ => rfl
    rwa [List.append_nil] at start
  | cons cm rest ih =>
    simp only [ConversationPostgresRepository.movePointers, Program.bind_assoc]
    refine pivots_read leaves (fun _ => rfl) fun s hs => Or.inl ?_
    refine ih fun later moved tail => ?_
    have final := next (⟨i,_,.store (.getLatestMessage d cm.userId),s⟩ :: later)
      ({ cm with
        lastMessageId :=
          ((s.chat.applyDeletion d).latestVisible d.conversationId cm.userId).map Message.id } ::
        moved)
      fun now still => by
        rw [tail now fun load mem => still load (by simpa using mem)]
        have head := still ⟨i,_,.store (.getLatestMessage d cm.userId),s⟩
          (List.mem_append_right _ List.mem_cons_self)
        rw [List.map_cons]
        exact congrArg (fun k => { cm with lastMessageId := k } :: _) (Eq.symm head)
    simpa using final

end Pivots

section Commands
variable {ι : Type} {w : ChatWorld} {owns : ι → Uuid} {i : ι}
  (conversations : Keyed Conversation.id w.chat.conversations)
  (members : Keyed ConversationMember.id w.chat.members) (distinct : Function.Injective owns)
include conversations members distinct

theorem pivots_markAsRead (command : MarkConversationAsReadCommand) :
    Program.Pivots (memberSharing w owns) (MarkConversationAsReadCommandHandler.execute command)
      (MemberCommand.markAsRead command).Admits i []
      (MarkConversationAsReadCommandHandler.execute command) := by
  have leaves : Leaves (MarkConversationAsReadCommandHandler.execute command)
      fun db => db.afterwards (MarkConversationAsReadCommandHandler.change command db) := by
    intro s
    rw [run_markConversationAsRead, apply_chat]
  conv =>
    arg 6
    unfold MarkConversationAsReadCommandHandler.execute requireConversation
      ConversationPostgresRepository.getConversationById
  simp only [Program.bind_assoc]
  refine pivots_read leaves (fun _ => rfl) fun s hs => ?_
  cases found : s.chat.getConversation command.conversationId with
  | none =>
    refine Or.inr ⟨?_,trivial⟩
    simp [MarkConversationAsReadCommandHandler.change, found, ChatDatabase.afterwards]
  | some rows =>
    simp only [Option.map_some, Program.pure_eq, Program.done_bind]
    cases is : (Conversation.toDomain rows).markAsRead command.userId command.messageId with
    | error e =>
      refine Or.inr ⟨?_,trivial⟩
      simp [MarkConversationAsReadCommandHandler.change, found, is, ChatDatabase.afterwards, bind,
        Except.bind]
    | ok marked =>
      refine Or.inl ?_
      simp only [Program.lift_ok, Program.done_bind, ConversationPostgresRepository.saveConversation,
        Program.bind_assoc]
      obtain ⟨change,frame,saved⟩ := markAsRead_rows is
      rw [saved]
      refine pivots_commit leaves (fun t ht _ admitted => ?_) distinct ?_
      · have still := (admitted rfl).1 _ (List.mem_append_right [] List.mem_cons_self)
        have read : t.chat.getConversation command.conversationId = some rows :=
          Eq.trans still found
        have after : (t.chat.storeConversation rows.1 (rows.2.map change)).2 =
            t.chat.afterwards (MarkConversationAsReadCommandHandler.change command t.chat) := by
          simp only [MarkConversationAsReadCommandHandler.change, read, is, bind, Except.bind, saved]
          cases stores : t.chat.storeConversation rows.1 (rows.2.map change) with
          | mk answered stored =>
            cases answered with
            | error e => exact t.chat.storeConversation_error stores
            | ok a => rfl
        have identity : ∀ cm, (change cm).identity = cm.identity := by
          intro cm
          obtain ⟨seen,is⟩ := frame cm
          rw [is]
          rfl
        obtain ⟨stored,same⟩ :=
          ChatDatabase.storeConversation_alike ht conversations members read identity
        refine ⟨stored,fun id mem => Or.inr ?_,after⟩
        rw [← same]
        exact mem
      · rintro (e | a) <;> trivial

omit conversations members distinct in
theorem delete_refused {now : Time} {command : DeleteMessageCommand} {db : ChatDatabase}
    (refused : ∀ member loaded d,
      db.conversationMember command.conversationId command.userId = .ok member →
      db.conversationMessage command.conversationId command.messageId = .ok loaded →
      DeleteMessageHandler.delete now command member.id loaded.message ≠ .ok d) :
    db.afterwards (DeleteMessageHandler.change now command db) = db := by
  cases is : DeleteMessageHandler.change now command db with
  | error e => rfl
  | ok c =>
    obtain ⟨member,found,is⟩ := ok_of_bind is
    obtain ⟨loaded,read,is⟩ := ok_of_bind is
    obtain ⟨d,done,_⟩ := ok_of_bind is
    exact absurd done (refused member loaded d found read)

omit conversations members distinct in
theorem delete_accepted {now : Time} {command : DeleteMessageCommand} {db : ChatDatabase}
    {member : ConversationMember} {loaded : LoadedMessage} {d : MessageEntity × List MessageEvent}
    (found : db.conversationMember command.conversationId command.userId = .ok member)
    (read : db.conversationMessage command.conversationId command.messageId = .ok loaded)
    (done : DeleteMessageHandler.delete now command member.id loaded.message = .ok d) :
    db.afterwards (DeleteMessageHandler.change now command db) =
      db.storeDeletion d.1.deletion (db.movedPointers d.1.deletion) := by
  have change : DeleteMessageHandler.change now command db =
      (db.storeDeletion d.1.deletion (db.movedPointers d.1.deletion)).reload d.1.id d.2 := by
    simp [DeleteMessageHandler.change, found, read, done, bind, Except.bind]
  obtain ⟨m,stored,_,_,id⟩ := message_isSome_of_loaded read
  rw [change, ChatDatabase.reload, message_storeDeletion, (delete_ok done).1, id, stored]
  rfl

omit conversations in
/-- Whether a deletion is refused depends on who asks, and on nothing that changes. -/
theorem pivots_delete (now : Time) (command : DeleteMessageCommand) :
    Program.Pivots (memberSharing w owns) (DeleteMessageHandler.execute now command)
      (MemberCommand.delete command).Admits i [] (DeleteMessageHandler.execute now command) := by
  have leaves : Leaves (DeleteMessageHandler.execute now command)
      fun db => db.afterwards (DeleteMessageHandler.change now command db) := by
    intro s
    rw [run_deleteMessage, apply_chat]
  conv =>
    arg 6
    unfold DeleteMessageHandler.execute
  refine pivots_requireMember leaves (fun db e is => delete_refused fun member loaded d ok => ?_)
    fun first member stays => ?_
  · rw [is] at ok
    cases ok
  have sender : ∀ (m : Message) reply deleted,
      (LoadedMessage.ofRows m reply deleted).message.senderId = m.senderId :=
    fun _ _ _ => MessageEntity.loadDeletedForUserIds_senderId ..
  rw [requireMessage_bind]
  refine pivots_read leaves (fun _ => rfl) fun s hs => ?_
  by_cases accepted : ∃ m, s.chat.message command.messageId = some m ∧
      m.conversationId = command.conversationId ∧
      (command.scope = .me ∨ member.id = m.senderId)
  · obtain ⟨m,found,home,owner⟩ := accepted
    rw [found]
    refine Or.inl (pivots_read leaves (fun _ => rfl) fun s' hs' => Or.inl ?_)
    rw [if_neg (not_not.mpr home)]
    obtain ⟨d,done⟩ : ∃ d, DeleteMessageHandler.delete now command member.toDomain.id
        (LoadedMessage.ofRows m (m.replyToMessageId.bind s.chat.message)
          (s'.chat.deletedMessages.filter fun r => r.messageId = m.id)).message = .ok d :=
      delete_accepts.mpr (owner.imp_right fun is => is.trans (sender ..).symm)
    rw [done]
    simp only [Program.lift_ok, Program.done_bind,
      ConversationPostgresRepository.saveMessageDeletion, Program.bind_assoc]
    refine pivots_read leaves (fun _ => rfl) fun s₂ _ => Or.inl ?_
    refine pivots_movePointers leaves d.1.deletion _ fun later moved move => ?_
    refine pivots_commit leaves (fun t ht _ admitted => ?_) distinct ?_
    · have still := (admitted rfl).1
      have sameMessage : t.chat.message command.messageId = some m :=
        Eq.trans (still ⟨i,_,.store (.getMessage command.messageId),s⟩ (by simp)) found
      have sameDeleted : t.chat.deletedMessages.filter (fun r => r.messageId = m.id) =
          s'.chat.deletedMessages.filter (fun r => r.messageId = m.id) :=
        still ⟨i,_,.store (.getDeletedMessages m.id),s'⟩ (by simp)
      have sameRows : (t.chat.membersOf d.1.conversationId).filter
            (fun cm => cm.lastMessageId = some d.1.id) =
          (s₂.chat.membersOf d.1.conversationId).filter
            (fun cm => cm.lastMessageId = some d.1.id) :=
        still ⟨i,_,.store (.getMembersAt d.1.conversationId d.1.id),s₂⟩ (by simp)
      have pointers : moved = t.chat.movedPointers d.1.deletion := by
        rw [move t.chat still, ← sameRows]
        rfl
      obtain ⟨here,is,same⟩ := stays t.chat ht
      have read : t.chat.conversationMessage command.conversationId command.messageId =
          .ok (t.chat.loaded m) := by
        unfold ChatDatabase.conversationMessage
        rw [sameMessage]
        exact if_neg (not_not.mpr home)
      have again : DeleteMessageHandler.delete now command here.id (t.chat.loaded m).message =
          .ok d := by
        rw [same, ChatDatabase.loaded, sameDeleted]
        exact done
      rw [pointers]
      refine ⟨⟨rfl,?_⟩,fun id mem => Or.inr ?_,(delete_accepted is read again).symm⟩
      · exact identity_saved (keyed_of_identity ht.members members)
          (fun cm mem => (ChatDatabase.membersOf_iff.mp (List.mem_of_mem_filter mem)).1)
          fun _ => rfl
      · have frame : ∀ row : Message, (d.1.deletion.mark row).id = row.id := fun _ => rfl
        rw [← map_amend frame t.chat.messages]
        exact mem
    · rintro (e | a)
      · trivial
      · exact (plain_getMessageById _).quiet.bind fun _ =>
          (quiet_publishAll _).bind fun _ => (plain_requireSaved _).quiet
  · refine Or.inr ⟨delete_refused fun here loaded d is read done => accepted ?_,?_⟩
    · obtain ⟨here',is',same⟩ := stays s.chat hs
      cases is.symm.trans is'
      obtain ⟨m,found,home,rfl,_⟩ := message_isSome_of_loaded read
      refine ⟨m,found,home,(delete_accepts.mp ⟨d,done⟩).imp_right fun owner => ?_⟩
      rw [← same, owner]
      exact sender ..
    · cases found : s.chat.message command.messageId with
      | none => trivial
      | some m =>
        refine (plain_query rfl).quiet.bind fun deleted => ?_
        split_ifs with home
        · trivial
        · cases done : DeleteMessageHandler.delete now command member.toDomain.id
              (LoadedMessage.ofRows m (m.replyToMessageId.bind s.chat.message) deleted).message with
          | error e => trivial
          | ok d =>
            refine absurd ⟨m,found,not_not.mp home,?_⟩ accepted
            refine (delete_accepts.mp ⟨d,done⟩).imp_right fun owner => owner.trans ?_
            exact sender ..

omit conversations members distinct in
theorem send_refused {amb : Ambient} {command : CreateMessageCommand} {db : ChatDatabase}
    (refused : ∀ member created stored,
      db.conversationMember command.conversationId command.senderId = .ok member →
      CreateMessageHandler.existing command member db = none →
      (∃ reply, CreateMessageHandler.quoted command db = .ok reply) →
      MessageEntity.create amb command.text command.type member.id command.conversationId
        command.deletedForUserIds command.replyToMessageId command.clientMessageId =
          .ok created →
      CreateMessageHandler.store created.1 db ≠ (.ok (), stored)) :
    db.afterwards (CreateMessageHandler.change amb command db) = db := by
  cases is : CreateMessageHandler.change amb command db with
  | error e => rfl
  | ok c =>
    obtain ⟨member,found,is⟩ := ok_of_bind is
    cases existing : CreateMessageHandler.existing command member db with
    | some m =>
      rw [existing] at is
      dsimp only at is
      split_ifs at is
      cases is
      rfl
    | none =>
      rw [existing] at is
      obtain ⟨reply,quoted,is⟩ := ok_of_bind is
      obtain ⟨created,built,is⟩ := ok_of_bind is
      cases stores : CreateMessageHandler.store created.1 db with
      | mk answered stored =>
        cases answered with
        | error e => rw [stores] at is; cases is
        | ok a =>
          exact absurd stores (refused member created stored found existing ⟨reply,quoted⟩ built)

omit conversations members distinct in
/-- A send that meets its own checks does what its insert does. -/
theorem send_stores {amb : Ambient} {command : CreateMessageCommand} {db : ChatDatabase}
    {member : ConversationMember} {created : MessageEntity × MessageCreatedDomainEvent}
    (found : db.conversationMember command.conversationId command.senderId = .ok member)
    (quotes : (CreateMessageHandler.quoted command db).isOk = true)
    (built : MessageEntity.create amb command.text command.type member.id command.conversationId
      command.deletedForUserIds command.replyToMessageId command.clientMessageId = .ok created)
    (unused : amb.uuid 0 ∉ db.messages.map Message.id) :
    db.afterwards (CreateMessageHandler.change amb command db) =
      (CreateMessageHandler.store created.1 db).2 := by
  cases stores : CreateMessageHandler.store created.1 db with
  | mk answered stored =>
    cases answered with
    | error e =>
      rw [db.storeMessage_error stores]
      refine send_refused fun member' created' stored' found' _ _ built' stores' => ?_
      rw [found] at found'
      cases found'
      rw [built] at built'
      cases built'
      rw [stores] at stores'
      cases stores'
    | ok a =>
      obtain ⟨free,_,_⟩ := db.storeMessage_ok stores
      have existing : CreateMessageHandler.existing command member db = none := by
        rw [CreateMessageHandler.existing_eq built]
        obtain ⟨_,_,_,fields⟩ := MessageEntity.create_ok built
        cases key : created.1.clientMessageId with
        | none => rfl
        | some k =>
          refine lookup_none_iff.mpr fun m mem same => ?_
          have other : m.id ≠ created.1.id := by
            rw [fields]
            intro is
            exact unused (List.mem_map.mpr ⟨m,mem,is⟩)
          refine free k key m mem other (same.trans ?_)
          rw [Message.clientKey, Message.fromDomain, key, fields]
      cases quoted : CreateMessageHandler.quoted command db with
      | error e => rw [quoted] at quotes; cases quotes
      | ok reply =>
        simp [CreateMessageHandler.change, found, existing, quoted, built, stores, bind, Except.bind,
          ChatDatabase.afterwards]

omit conversations in
/-- The insert of a send, with what its handler has checked by then. -/
theorem pivots_insert {amb : Ambient} (own : owns i = amb.uuid 0) {command : CreateMessageCommand}
    {member : ConversationMember} {created : MessageEntity × MessageCreatedDomainEvent}
    (stays : ∀ db : ChatDatabase, db.Alike w.chat → ∃ member',
      db.conversationMember command.conversationId command.senderId = .ok member' ∧
        member'.id = member.id)
    (built : MessageEntity.create amb command.text command.type member.id command.conversationId
      command.deletedForUserIds command.replyToMessageId command.clientMessageId = .ok created)
    (past : List (Issued ChatRequest ChatWorld ι)) (reply : Option LoadedMessage) :
    Program.Pivots (memberSharing w owns) (CreateMessageHandler.execute amb command)
      (MemberCommand.send command).Admits i past
      (CreateMessageHandler.create amb command member.toDomain reply) := by
  have leaves : Leaves (CreateMessageHandler.execute amb command)
      fun db => db.afterwards (CreateMessageHandler.change amb command db) := by
    intro s
    rw [run_createMessage, apply_chat]
  obtain ⟨_,_,_,fields⟩ := MessageEntity.create_ok built
  have id : created.1.id = amb.uuid 0 := by rw [fields]
  unfold CreateMessageHandler.create
  rw [ConversationMember.toDomain, built]
  refine pivots_answer leaves (fun _ => rfl) fun s _ => Or.inl ?_
  refine pivots_commit leaves (fun t ht unused admitted => ?_) distinct ?_
  · obtain ⟨still,quotes⟩ := admitted rfl
    have sameMembers : t.chat.membersOf created.1.conversationId =
        s.chat.membersOf created.1.conversationId :=
      still ⟨i,_,.store (.getMembers created.1.conversationId),s⟩ (by simp)
    rw [← sameMembers]
    obtain ⟨here,found,same⟩ := stays t.chat ht
    rw [← same] at built
    rw [own] at unused ⊢
    obtain ⟨alike,ids⟩ := ChatDatabase.store_alike (keyed_of_identity ht.members members)
    rw [id] at ids
    exact ⟨alike,ids,(send_stores found quotes built unused).symm⟩
  · rintro (e | a)
    · refine Program.Only.bind (plain_recoverExisting _ _).quiet fun saved => ⟨rfl,fun _ => ?_⟩
      cases reply <;> trivial
    · refine ⟨rfl,fun _ => ?_⟩
      cases reply <;> trivial

omit conversations members distinct in
theorem pivots_loadReply {amb : Ambient} {command : CreateMessageCommand}
    {f : Option LoadedMessage → ChatProgram LoadedMessage}
    (next : ∀ past reply, Program.Pivots (memberSharing w owns)
      (CreateMessageHandler.execute amb command) (MemberCommand.send command).Admits i past (f reply))
    (past : List (Issued ChatRequest ChatWorld ι)) :
    Program.Pivots (memberSharing w owns) (CreateMessageHandler.execute amb command)
      (MemberCommand.send command).Admits i past (CreateMessageHandler.loadReply command >>= f) := by
  have leaves : Leaves (CreateMessageHandler.execute amb command)
      fun db => db.afterwards (CreateMessageHandler.change amb command db) := by
    intro s
    rw [run_createMessage, apply_chat]
  unfold CreateMessageHandler.loadReply
  cases quotes : command.replyToMessageId with
  | none => exact next past none
  | some messageId =>
    simp only [Program.bind_assoc, getMessageById_bind, loadDeletions_bind]
    refine pivots_read leaves (fun _ => rfl) fun s hs => ?_
    cases found : s.chat.message messageId with
    | none =>
      refine Or.inr ⟨send_refused fun _ _ _ _ _ quoted => ?_,trivial⟩
      obtain ⟨reply,is⟩ := quoted
      obtain ⟨m,known,_⟩ := CreateMessageHandler.quoted_ok quotes is
      rw [found] at known
      cases known
    | some m =>
      simp only [Option.map_some, ChatDatabase.withReply, Program.bind_assoc]
      by_cases may : m.conversationId = command.conversationId ∧ m.deletedAt = none
      · refine Or.inl (pivots_read leaves (fun _ => rfl) fun s' hs' => ?_)
        cases accepted : CreateMessageHandler.acceptReply command (some (.ofRows m
            (m.replyToMessageId.bind s.chat.message)
            (s'.chat.deletedMessages.filter fun r => r.messageId = m.id))) with
        | ok r => exact Or.inl (next _ _)
        | error e =>
          refine Or.inr ⟨send_refused fun _ _ _ _ _ quoted => ?_,trivial⟩
          obtain ⟨reply,is⟩ := quoted
          obtain ⟨_,_,_,_,_,kept⟩ := CreateMessageHandler.quoted_ok quotes is
          refine absurd (acceptReply_rows_iff.mpr ⟨rfl,may.1,may.2,fun hidden => kept ?_⟩) (by
            rw [accepted]
            rintro (_ | _))
          obtain ⟨r,mem,user⟩ := List.mem_map.mp hidden
          obtain ⟨row,its⟩ := List.mem_filter.mp mem
          rw [← user, ← (lookup_mem found).2, ← of_decide_eq_true its]
          exact row
      · refine Or.inr ⟨send_refused fun _ _ _ _ _ quoted => ?_,
          (plain_query rfl).quiet.bind fun deleted => ?_⟩
        · obtain ⟨reply,is⟩ := quoted
          obtain ⟨_,known,_,home,live,_⟩ := CreateMessageHandler.quoted_ok quotes is
          rw [found] at known
          cases known
          exact absurd ⟨home,live⟩ may
        · cases accepted : CreateMessageHandler.acceptReply command (some (.ofRows m
              (m.replyToMessageId.bind s.chat.message) deleted)) with
          | error e => trivial
          | ok r =>
            obtain ⟨_,home,live,_⟩ := acceptReply_rows_iff.mp accepted
            exact absurd ⟨home,live⟩ may

omit conversations members distinct in
/-- A send with a key that is not valid, or of a message that quotes itself. -/
theorem quiet_refusedSend {amb : Ambient} {command : CreateMessageCommand}
    (refused : ¬ (command.replyToMessageId ≠ some (amb.uuid 0) ∧
      ∃ key, MessageEntity.validateClientMessageId command.clientMessageId = .ok key)) :
    Quiet (CreateMessageHandler.execute amb command) := by
  refine (plain_requireMember _ _).quiet.bind fun member => ?_
  have create : ∀ reply, Quiet (CreateMessageHandler.create amb command member reply) := by
    intro reply
    unfold CreateMessageHandler.create
    cases built : MessageEntity.create amb command.text command.type member.id
        command.conversationId command.deletedForUserIds command.replyToMessageId
        command.clientMessageId with
    | error e => trivial
    | ok created => exact absurd (MessageEntity.create_accepts.mp ⟨_,built⟩) refused
  refine (plain_findExisting command member).quiet.bind fun existing => ?_
  cases existing with
  | none => exact (plain_loadReply command).quiet.bind create
  | some existing =>
    dsimp only
    split <;> trivial

omit conversations in
theorem pivots_send {amb : Ambient} (own : owns i = amb.uuid 0) (command : CreateMessageCommand) :
    Program.Pivots (memberSharing w owns) (CreateMessageHandler.execute amb command)
      (MemberCommand.send command).Admits i [] (CreateMessageHandler.execute amb command) := by
  have leaves : Leaves (CreateMessageHandler.execute amb command)
      fun db => db.afterwards (CreateMessageHandler.change amb command db) := by
    intro s
    rw [run_createMessage, apply_chat]
  conv =>
    arg 6
    unfold CreateMessageHandler.execute
  by_cases accepts : command.replyToMessageId ≠ some (amb.uuid 0) ∧
      ∃ key, MessageEntity.validateClientMessageId command.clientMessageId = .ok key
  · refine pivots_requireMember leaves (fun db e is => send_refused fun member _ _ ok => ?_)
      fun first member stays => ?_
    · rw [is] at ok
      cases ok
    obtain ⟨created,built⟩ := MessageEntity.create_accepts.mpr accepts
    have reply := pivots_loadReply
      (pivots_insert members distinct own stays built)
    unfold CreateMessageHandler.findExisting
    cases key : command.clientMessageId.filter (· ≠ []) with
    | none => exact reply _
    | some k =>
      simp only [ConversationPostgresRepository.getMessageByClientMessageId, Program.bind_assoc,
        loadDeletions_bind]
      refine pivots_read leaves (fun _ => rfl) fun s hs => ?_
      cases found : lookup Message.clientKey
          (command.conversationId, member.id, some (trim k)) s.chat.messages with
      | none =>
        refine Or.inl ?_
        have none : (lookup Message.clientKey (command.conversationId, member.toDomain.id,
          some (trim k)) s.chat.messages).map s.chat.withReply = none := congrArg _ found
        rw [none]
        exact reply _
      | some m =>
        refine Or.inr ⟨send_refused fun here _ _ is free _ _ => ?_,?_⟩
        · obtain ⟨here',is',same⟩ := stays s.chat hs
          cases is.symm.trans is'
          rw [CreateMessageHandler.existing, key, same] at free
          cases found.symm.trans free
        · have some : (lookup Message.clientKey (command.conversationId, member.toDomain.id,
            some (trim k)) s.chat.messages).map s.chat.withReply = some (s.chat.withReply m) :=
            congrArg _ found
          rw [some]
          refine (plain_query rfl).quiet.bind fun deleted => ?_
          split <;> trivial
  · have refused : ∀ db : ChatDatabase,
        db.afterwards (CreateMessageHandler.change amb command db) = db := fun db =>
      send_refused fun _ _ _ _ _ _ built =>
        absurd (MessageEntity.create_accepts.mp ⟨_,built⟩) accepts
    have quiet := quiet_refusedSend accepts
    unfold CreateMessageHandler.execute at quiet
    rw [requireMember_bind] at quiet ⊢
    exact pivots_read leaves (fun _ => rfl) fun s _ => Or.inr ⟨refused _,quiet.2 (.ok _)⟩

theorem pivots_execute {amb : Ambient} (own : owns i = amb.uuid 0) (command : MemberCommand) :
    Program.Pivots (memberSharing w owns) (command.execute amb) command.Admits i []
      (command.execute amb) := by
  cases command with
  | markAsRead command => exact pivots_markAsRead conversations members distinct command
  | send command => exact (pivots_send members distinct own command).map _
  | delete command => exact (pivots_delete members distinct amb.now command).map _

end Commands

section Pool
variable {ι : Type} [DecidableEq ι]

def memberPool (commands : ι → MemberCommand) (ambs : ι → Ambient) (w : ChatWorld) :
    Pool ChatRequest Failure Unit ChatWorld ι :=
  ⟨w,fun i => (commands i).execute (ambs i)⟩

/-- Whenever an operation saves, what it has read for the save still holds. -/
structure UpToDate (commands : ι → MemberCommand)
    (trace : List (Issued ChatRequest ChatWorld ι)) : Prop where
  reads : trace.Pairwise fun load save => load.thread = save.thread →
    save.request.writes = true →
    (commands save.thread).StillReads load.request load.before.chat save.before.chat
  quotes : ∀ save ∈ trace, save.request.writes = true →
    (commands save.thread).MayQuote save.before.chat = true

instance (commands : ι → MemberCommand) (trace : List (Issued ChatRequest ChatWorld ι)) :
    Decidable (UpToDate commands trace) :=
  decidable_of_iff (_ ∧ _) ⟨fun both => ⟨both.1,both.2⟩,fun both => ⟨both.1,both.2⟩⟩

/-- As long as every save still finds what its operation has read for it, the tables, with
    the pointers of all members, are those of the operations in some serial order. -/
theorem pointers_serializable {commands : ι → MemberCommand} {ambs : ι → Ambient} {w : ChatWorld}
    (conversations : Keyed Conversation.id w.chat.conversations)
    (members : Keyed ConversationMember.id w.chat.members)
    (distinct : Function.Injective fun i => (ambs i).uuid 0)
    (fresh : ∀ i, (ambs i).uuid 0 ∉ w.chat.messages.map Message.id) {schedule : List ι}
    (ended : AllEnded ((memberPool commands ambs w).run chatHandler schedule))
    (upToDate : UpToDate commands ((memberPool commands ambs w).trace chatHandler schedule)) :
    ∃ order : List ι, order.Nodup ∧ (∀ i, i ∈ order) ∧
      ((memberPool commands ambs w).run chatHandler schedule).state.chat =
        (serially chatHandler (fun i => (commands i).execute (ambs i)) order w).chat := by
  have inv : (memberSharing w fun i => (ambs i).uuid 0).inv w := ⟨rfl,rfl⟩
  have pivots : ∀ i, Program.Pivots (memberSharing w fun i => (ambs i).uuid 0)
      ((commands i).execute (ambs i)) (commands i).Admits i [] ((commands i).execute (ambs i)) :=
    fun i => pivots_execute conversations members distinct rfl (commands i)
  have alone : ∀ i (s t : ChatWorld), s.chat = t.chat →
      (((commands i).execute (ambs i)).run chatHandler s).2.chat =
        (((commands i).execute (ambs i)).run chatHandler t).2.chat := by
    intro i s t same
    rw [MemberCommand.run_chat, MemberCommand.run_chat, same]
  have admitted : ∀ before e later,
      (memberPool commands ambs w).trace chatHandler schedule = before ++ e :: later →
      (commands e.thread).Admits (Pool.ownSteps e.thread before) e := by
    intro before e later cut writes
    have reads := upToDate.reads
    rw [cut] at reads
    refine ⟨fun load own => ?_,upToDate.quotes e (by simp [cut]) writes⟩
    obtain ⟨earlier,thread⟩ := List.mem_filter.mp own
    exact (List.pairwise_append.mp reads).2.2 load earlier e List.mem_cons_self
      (of_decide_eq_true thread) writes
  obtain ⟨order,nodup,all,same⟩ := Pool.serial_run inv fresh alone pivots schedule admitted
  exact ⟨order,nodup,fun i => all i (ended i),same⟩

end Pool

/-- User 2 marks the conversation as read up to the message 200, while user 1 sends another
    message. -/
def markAndSend (second : Bool) : MemberCommand :=
  if second then .send { hello with clientMessageId := none } else .markAsRead ⟨100,2,200⟩

/-- The mark-as-read runs between two statements of the send. -/
theorem pointers_serializable_overlapping :
    ∃ order : List Bool, order.Nodup ∧ (∀ i, i ∈ order) ∧
      ((memberPool markAndSend sendDraws sentWorld).run chatHandler
        [true,false,false,true,true,true]).state.chat =
        (serially chatHandler (fun i => (markAndSend i).execute (sendDraws i)) order
          sentWorld).chat :=
  pointers_serializable (by decide) (by decide) sendDraws_injective
    (by intro i; cases i <;> decide) (by intro i; cases i <;> exact Or.inl ⟨_,rfl⟩) (by decide)

def ChatDatabase.pointers (db : ChatDatabase) : List (Uuid × Option Uuid × Option Uuid) :=
  db.members.map fun m => (m.id, m.lastSeenMessageId, m.lastMessageId)

/-- The mark-as-read has loaded the members before the send commits, and saves their old
    pointers after it. -/
theorem pointers_overwritten :
    AllEnded ((memberPool markAndSend sendDraws sentWorld).run chatHandler
        [false,true,true,true,true,false]) ∧
      ∀ order : List Bool, order.Nodup → (∀ i, i ∈ order) →
        ((memberPool markAndSend sendDraws sentWorld).run chatHandler
          [false,true,true,true,true,false]).state.chat.pointers ≠
          (serially chatHandler (fun i => (markAndSend i).execute (sendDraws i)) order
            sentWorld).chat.pointers := by
  constructor
  · intro i
    cases i <;> exact Or.inl ⟨_,rfl⟩
  · intro order nodup all
    have perm : order.Perm [false,true] :=
      (List.perm_ext_iff_of_nodup nodup (by decide)).mpr fun i => by cases i <;> simp [all]
    rcases List.perm_pair.mp perm with rfl | rfl
    · decide
    · decide

end Chatterbox
