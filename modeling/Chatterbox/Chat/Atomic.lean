import Chatterbox.Chat.Queries

/-!
The commands of the chat module as single changes of the tables. A command that runs
without interruption is refused, with nothing changed, or it stores its result and
publishes its events; the change is a function of the tables it has met.
-/
namespace Chatterbox
open Concurrency Tables

/-- What a command that is not refused leaves: its result, the tables and its events. -/
structure Change (α : Type) where
  result : α
  chat : ChatDatabase
  events : List MessageEvent

def ChatWorld.apply {α : Type} (w : ChatWorld) :
    Except Failure (Change α) → Except Failure α × ChatWorld
  | .error e => (.error e, w)
  | .ok c => (.ok c.result, { w with chat := c.chat, published := w.published ++ c.events })

namespace ChatDatabase
variable (db : ChatDatabase)

/-- The member row behind `requireMember`. -/
def conversationMember (conversationId userId : Uuid) : Except Failure ConversationMember :=
  match db.getConversation conversationId with
  | none => .error (conversationNotFoundException none)
  | some rows => match rows.2.find? (fun m => m.userId = userId) with
    | none => .error (notMessageOwnerException "User is not a member of the conversation")
    | some member => .ok member

/-- A message as `getMessageById` loads it. -/
def loaded (m : Message) : LoadedMessage :=
  .ofRows m (m.replyToMessageId.bind db.message)
    (db.deletedMessages.filter fun r => r.messageId = m.id)

def conversationMessage (conversationId messageId : Uuid) : Except Failure LoadedMessage :=
  match db.message messageId with
  | none => .error (messageNotFoundException none)
  | some m =>
      if m.conversationId ≠ conversationId then .error (messageNotFoundException none)
      else .ok (db.loaded m)

/-- The tables with this message loaded again, and the events. -/
def reload (id : Uuid) (events : List MessageEvent) : Except Failure (Change LoadedMessage) :=
  match db.message id with
  | none => .error (.error "Cannot read properties of null")
  | some m => .ok ⟨db.loaded m,db,events⟩

def movePointer (d : MessageDeletion) (m : ConversationMember) : ConversationMember :=
  { m with
    lastMessageId :=
      ((db.applyDeletion d).latestVisible d.conversationId m.userId).map Message.id }

/-- The members that point at the deleted message, each with what takes its place. -/
def movedPointers (d : MessageDeletion) : List ConversationMember :=
  ((db.membersOf d.conversationId).filter fun m => m.lastMessageId = some d.messageId).map
    (db.movePointer d)

end ChatDatabase

def EditMessageHandler.change (now : Time) (command : EditMessageCommand) (db : ChatDatabase) :
    Except Failure (Change LoadedMessage) := do
  let member ← db.conversationMember command.conversationId command.userId
  let loaded ← db.conversationMessage command.conversationId command.messageId
  let edited ← loaded.message.edit now command.text member.id
  let stored := db.updateMessage edited.1.id edited.1.text edited.1.editedAt edited.1.updatedAt
  stored.reload edited.1.id edited.2

def DeleteMessageHandler.change (now : Time) (command : DeleteMessageCommand)
    (db : ChatDatabase) : Except Failure (Change LoadedMessage) := do
  let member ← db.conversationMember command.conversationId command.userId
  let loaded ← db.conversationMessage command.conversationId command.messageId
  let deleted ← DeleteMessageHandler.delete now command member.id loaded.message
  (db.storeDeletion deleted.1.deletion (db.movedPointers deleted.1.deletion)).reload deleted.1.id
    deleted.2

def MarkConversationAsReadCommandHandler.change (command : MarkConversationAsReadCommand)
    (db : ChatDatabase) : Except Failure (Change Unit) :=
  match db.getConversation command.conversationId with
  | none => .error (conversationNotFoundException none)
  | some rows => do
      let marked ← (Conversation.toDomain rows).markAsRead command.userId command.messageId
      match db.storeConversation (Conversation.fromDomain marked).1
        (Conversation.fromDomain marked).2 with
      | (.ok _, stored) => .ok ⟨(),stored,[]⟩
      | (.error e, _) => .error (.database e)

/-- The user behind an id, as the chat module knows him. -/
def UserDatabase.chatUser (db : UserDatabase) (userId : Uuid) : Except Failure ChatUser :=
  match lookup User.id userId db.live with
  | none => .error (userNotFoundException userId)
  | some u => .ok (ChatUserIntegrationAdapter.toChatUser (UserPostgresReadRepository.mapToDto u))

namespace CreateDirectConversationHandler

/-- The checks on the two users. -/
def checkUsers (command : CreateDirectConversationCommand) (users : UserDatabase) :
    Except Failure Unit :=
  if (lookup User.id command.targetUserId users.live).isNone then
    .error (targetUserNotFoundException none)
  else if users.blocking command.targetUserId command.userId ||
      users.blocking command.userId command.targetUserId then .error (blockedUserException none)
  else .ok ()

def change (amb : Ambient) (command : CreateDirectConversationCommand) (db : ChatDatabase) :
    Except Failure (Change ConversationEntity) :=
  if db.conversationExists command.userId command.targetUserId then
    .error (conversationAlreadyExistsException none)
  else do
    let conversation ← ConversationEntity.createDirect amb command.userId command.targetUserId
    match db.storeConversation (Conversation.fromDomain conversation).1
      (Conversation.fromDomain conversation).2 with
    | (.ok (some rows), stored) => .ok ⟨Conversation.toDomain rows,stored,[]⟩
    | (.ok none, _) => .error (.error "Cannot read properties of null")
    | (.error e, _) => .error (.database e)

end CreateDirectConversationHandler

namespace CreateMessageHandler

/-- The message that holds the client key of the command already. -/
def existing (command : CreateMessageCommand) (member : ConversationMember) (db : ChatDatabase) :
    Option Message :=
  (command.clientMessageId.filter (· ≠ [])).bind fun clientMessageId =>
    lookup Message.clientKey (command.conversationId, member.id, some (trim clientMessageId))
      db.messages

def quoted (command : CreateMessageCommand) (db : ChatDatabase) :
    Except Failure (Option LoadedMessage) :=
  match command.replyToMessageId with
  | none => .ok none
  | some replyToMessageId =>
      some <$> acceptReply command ((db.message replyToMessageId).map db.loaded)

/-- What the command returns for the message it has stored. -/
def sent (message : MessageEntity) (reply : Option LoadedMessage) : LoadedMessage :=
  ⟨(Message.toDomain (Message.fromDomain message)).loadDeletedForUserIds message.deletedForUserIds,
    reply.map LoadedMessage.message⟩

def store (message : MessageEntity) (db : ChatDatabase) : Answer Unit × ChatDatabase :=
  db.storeMessage (Message.fromDomain message)
    (message.deletedForUserIds.map fun userId => ⟨userId,message.id⟩)
    ((db.membersOf message.conversationId).map message.updateMember)

def change (amb : Ambient) (command : CreateMessageCommand) (db : ChatDatabase) :
    Except Failure (Change LoadedMessage) := do
  let member ← db.conversationMember command.conversationId command.senderId
  match existing command member db with
  | some m =>
      if m.text ≠ command.text then .error (idempotencyConflictException none)
      else .ok ⟨db.loaded m,db,[]⟩
  | none => do
      let reply ← quoted command db
      let created ← MessageEntity.create amb command.text command.type member.id
        command.conversationId command.deletedForUserIds command.replyToMessageId
        command.clientMessageId
      match store created.1 db with
      | (.ok _, stored) => .ok ⟨sent created.1 reply,stored,[.created created.2]⟩
      | (.error e, _) => .error (.database e)

end CreateMessageHandler

/-- What every change keeps, a command keeps. -/
theorem apply_keeps {α : Type} {w : ChatWorld} {change : Except Failure (Change α)}
    {inv : ChatDatabase → Prop} (start : inv w.chat)
    (keeps : ∀ c, change = .ok c → inv c.chat) : inv (w.apply change).2.chat := by
  cases change with
  | error e => exact start
  | ok c => exact keeps c rfl

section Reads
variable {α : Type} {w : ChatWorld} {conversationId userId messageId : Uuid}

/-- A command that goes on from a check. -/
def orRefuse {β : Type} (checked : Except Failure β) (next : β → Except Failure α × ChatWorld)
    (w : ChatWorld) : Except Failure α × ChatWorld :=
  match checked with
  | .error e => (.error e, w)
  | .ok b => next b

theorem orRefuse_inv {β : Type} {checked : Except Failure β}
    {next : β → Except Failure α × ChatWorld} {r : Except Failure α} {v : ChatWorld}
    (is : orRefuse checked next w = (r, v)) :
    (v = w ∧ ∃ e, checked = .error e ∧ r = .error e) ∨ ∃ b, checked = .ok b ∧ next b = (r, v) := by
  cases checked with
  | error e =>
    cases is
    exact Or.inl ⟨rfl,e,rfl,rfl⟩
  | ok b => exact Or.inr ⟨b,rfl,is⟩

theorem apply_inv {change : Except Failure (Change α)} {r : Except Failure α} {v : ChatWorld}
    (is : w.apply change = (r, v)) :
    (v = w ∧ ∃ e, change = .error e ∧ r = .error e) ∨ ∃ c, change = .ok c ∧ r = .ok c.result ∧
      v = { w with chat := c.chat, published := w.published ++ c.events } := by
  cases change with
  | error e =>
    cases is
    exact Or.inl ⟨rfl,e,rfl,rfl⟩
  | ok c =>
    cases is
    exact Or.inr ⟨c,rfl,rfl,rfl⟩

theorem apply_bind {β : Type} (w : ChatWorld) (checked : Except Failure β)
    (f : β → Except Failure (Change α)) :
    w.apply (checked >>= f) = orRefuse checked (fun b => w.apply (f b)) w := by
  cases checked <;> rfl

theorem run_requireMember (f : ConversationMemberEntity → ChatProgram α) :
    (requireMember conversationId userId >>= f).run chatHandler w =
      orRefuse (w.chat.conversationMember conversationId userId)
        (fun m => (f m.toDomain).run chatHandler w) w := by
  rw [requireMember_bind, run_read (fun _ => rfl)]
  unfold ChatDatabase.conversationMember
  cases w.chat.getConversation conversationId with
  | none => rfl
  | some rows =>
    dsimp only
    cases rows.2.find? (fun m => m.userId = userId) <;> rfl

theorem run_requireMessage (f : LoadedMessage → ChatProgram α) :
    (requireMessage conversationId messageId >>= f).run chatHandler w =
      orRefuse (w.chat.conversationMessage conversationId messageId)
        (fun m => (f m).run chatHandler w) w := by
  rw [requireMessage_bind, run_read (fun _ => rfl)]
  unfold ChatDatabase.conversationMessage
  cases w.chat.message messageId with
  | none => rfl
  | some m =>
    simp only [Option.map_some, ChatDatabase.withReply]
    rw [run_read (fun _ => rfl)]
    split <;> rfl

theorem run_lift {β : Type} (checked : Except Failure β) (f : β → ChatProgram α) :
    ((liftM checked : ChatProgram β) >>= f).run chatHandler w =
      orRefuse checked (fun b => (f b).run chatHandler w) w := by
  cases checked <;> rfl

theorem run_loaded (id : Uuid) (f : Option LoadedMessage → ChatProgram α) :
    (ConversationPostgresRepository.getMessageById id >>= f).run chatHandler w =
      (f ((w.chat.message id).map w.chat.loaded)).run chatHandler w :=
  Program.run_bind_ok _ _ (run_getMessageById id w) f

theorem run_publishAll (events : List MessageEvent) (f : Unit → ChatProgram α) :
    (publishAll events >>= f).run chatHandler w =
      (f ()).run chatHandler { w with published := w.published ++ events } := by
  induction events generalizing w with
  | nil => rw [List.append_nil]; rfl
  | cons event rest ih =>
    have rest : (publishAll rest >>= f).run chatHandler
        { w with published := w.published ++ [event] } = _ := ih
    rw [List.append_assoc] at rest
    exact rest

theorem run_movePointers (d : MessageDeletion) (members : List ConversationMember) :
    (ConversationPostgresRepository.movePointers d members).run chatHandler w =
      (.ok (members.map (w.chat.movePointer d)), w) := by
  induction members with
  | nil => rfl
  | cons m rest ih =>
    rw [ConversationPostgresRepository.movePointers, run_read (fun _ => rfl),
      Program.run_bind_ok _ _ ih]
    rfl

/-- A statement that changes the tables and cannot fail. -/
theorem run_write {β : Type} (w : ChatWorld) (q : StoreRequest (Answer β)) {b : β} {db : ChatDatabase}
    (answered : ChatDatabase.answer q w.chat = (.ok b, db)) (f : β → ChatProgram α) :
    (query q >>= f).run chatHandler w = (f b).run chatHandler { w with chat := db } := by
  have step : chatHandler.answer (.store q) w = (.ok b, { w with chat := db }) := by
    simp [chatHandler, ChatWorld.answer, answered]
  exact run_ask_bind step f

theorem run_write_error {β : Type} (w : ChatWorld) (q : StoreRequest (Answer β)) {e : DbError}
    (answered : ChatDatabase.answer q w.chat = (.error e, w.chat)) (f : β → ChatProgram α) :
    (query q >>= f).run chatHandler w = (.error (.database e), w) := by
  have step : chatHandler.answer (.store q) w = (.error e, w) := by
    simp [chatHandler, ChatWorld.answer, answered]
  exact run_ask_error step f

/-- The end of an edit and of a deletion: the message is read again, and the events go out. -/
theorem run_reload (id : Uuid) (events : List MessageEvent) (db : ChatDatabase)
    (known : (db.message id).isSome) :
    (ConversationPostgresRepository.getMessageById id >>= fun saved =>
      publishAll events >>= fun _ => requireSaved saved).run chatHandler { w with chat := db } =
      w.apply (db.reload id events) := by
  rw [run_loaded, run_publishAll]
  obtain ⟨m,found⟩ := Option.isSome_iff_exists.mp known
  simp only [found, ChatDatabase.reload]
  rfl

end Reads

theorem conversationMember_ok {db : ChatDatabase} {conversationId userId : Uuid}
    {member : ConversationMember} (is : db.conversationMember conversationId userId = .ok member) :
    member ∈ db.membersOf conversationId ∧ member.userId = userId ∧
      conversationId ∈ db.conversations.map Conversation.id := by
  unfold ChatDatabase.conversationMember ChatDatabase.getConversation at is
  cases found : lookup Conversation.id conversationId db.liveConversations with
  | none => rw [found] at is; cases is
  | some c =>
    rw [found] at is
    dsimp only [Option.map_some] at is
    split at is
    · cases is
    · rename_i first
      cases is
      obtain ⟨mem,id⟩ := lookup_mem found
      have user := List.find?_some first
      rw [decide_eq_true_eq] at user
      exact ⟨List.mem_of_find?_eq_some first,user,
        List.mem_map.mpr ⟨c,List.mem_of_mem_filter mem,id⟩⟩

theorem reload_ok {db : ChatDatabase} {id : Uuid} {events : List MessageEvent}
    {c : Change LoadedMessage} (is : db.reload id events = .ok c) :
    ∃ m, db.message id = some m ∧ c = ⟨db.loaded m,db,events⟩ := by
  unfold ChatDatabase.reload at is
  split at is
  · cases is
  · rename_i m found
    cases is
    exact ⟨m,found,rfl⟩

theorem reload_chat {db : ChatDatabase} {id : Uuid} {events : List MessageEvent}
    {c : Change LoadedMessage} (is : db.reload id events = .ok c) : c.chat = db := by
  obtain ⟨_,_,rfl⟩ := reload_ok is
  rfl

theorem message_isSome_of_loaded {db : ChatDatabase} {conversationId messageId : Uuid}
    {loaded : LoadedMessage}
    (is : db.conversationMessage conversationId messageId = .ok loaded) :
    ∃ m, db.message messageId = some m ∧ m.conversationId = conversationId ∧
      loaded = db.loaded m ∧ loaded.message.id = messageId := by
  unfold ChatDatabase.conversationMessage at is
  cases found : db.message messageId with
  | none => rw [found] at is; cases is
  | some m =>
    rw [found] at is
    dsimp only at is
    split_ifs at is with same
    cases is
    refine ⟨m,rfl,by simpa using same,rfl,?_⟩
    exact (MessageEntity.loadDeletedForUserIds_id ..).trans (lookup_mem found).2

theorem message_updateMessage (db : ChatDatabase) (id id' : Uuid) (text : JsString)
    (editedAt : Option Time) (updatedAt : Time) :
    (db.updateMessage id text editedAt updatedAt).message id' = (db.message id').map fun m =>
      if decide (m.id = id) then m.withText text editedAt updatedAt else m := by
  have frame : ∀ m : Message, (m.withText text editedAt updatedAt).id = m.id := fun _ => rfl
  exact lookup_amend frame ..

theorem message_storeDeletion (db : ChatDatabase) (d : MessageDeletion)
    (members : List ConversationMember) (id : Uuid) :
    (db.storeDeletion d members).message id = (db.message id).map fun m =>
      if decide (m.id = d.messageId) then d.mark m else m := by
  have frame : ∀ m : Message, (d.mark m).id = m.id := fun _ => rfl
  exact lookup_amend frame ..

theorem edit_id {m : MessageEntity} {now : Time} {text : JsString} {memberId : Uuid}
    {edited : MessageEntity × List MessageEvent} (is : m.edit now text memberId = .ok edited) :
    edited.1.id = m.id := by
  unfold MessageEntity.edit at is
  split_ifs at is <;> cases is <;> rfl

theorem run_editMessage (now : Time) (command : EditMessageCommand) (w : ChatWorld) :
    (EditMessageHandler.execute now command).run chatHandler w =
      w.apply (EditMessageHandler.change now command w.chat) := by
  unfold EditMessageHandler.execute EditMessageHandler.change
  rw [run_requireMember, apply_bind]
  cases w.chat.conversationMember command.conversationId command.userId with
  | error e => rfl
  | ok member =>
    dsimp only [orRefuse]
    rw [run_requireMessage, apply_bind]
    cases read : w.chat.conversationMessage command.conversationId command.messageId with
    | error e => rfl
    | ok loaded =>
      dsimp only [orRefuse]
      rw [run_lift, apply_bind]
      cases is : loaded.message.edit now command.text member.id with
      | error e => rw [ConversationMember.toDomain, is]; rfl
      | ok edited =>
        rw [ConversationMember.toDomain, is]
        dsimp only [orRefuse]
        rw [ConversationPostgresRepository.updateMessage, Program.bind_assoc,
          run_write w (.updateMessage _ _ _ _) rfl]
        refine run_reload _ _ (w.chat.updateMessage edited.1.id edited.1.text edited.1.editedAt
          edited.1.updatedAt) ?_
        obtain ⟨m,found,_,_,id⟩ := message_isSome_of_loaded read
        rw [message_updateMessage, edit_id is, id, found]
        rfl

theorem run_deleteMessage (now : Time) (command : DeleteMessageCommand) (w : ChatWorld) :
    (DeleteMessageHandler.execute now command).run chatHandler w =
      w.apply (DeleteMessageHandler.change now command w.chat) := by
  unfold DeleteMessageHandler.execute DeleteMessageHandler.change
  rw [run_requireMember, apply_bind]
  cases w.chat.conversationMember command.conversationId command.userId with
  | error e => rfl
  | ok member =>
    dsimp only [orRefuse]
    rw [run_requireMessage, apply_bind]
    cases read : w.chat.conversationMessage command.conversationId command.messageId with
    | error e => rfl
    | ok loaded =>
      dsimp only [orRefuse]
      rw [run_lift, apply_bind]
      cases is : DeleteMessageHandler.delete now command member.id loaded.message with
      | error e => rw [ConversationMember.toDomain, is]; rfl
      | ok deleted =>
        rw [ConversationMember.toDomain, is]
        dsimp only [orRefuse]
        rw [ConversationPostgresRepository.saveMessageDeletion]
        simp only [Program.bind_assoc]
        rw [run_read (fun _ => rfl), Program.run_bind_ok _ _ (run_movePointers _ _),
          run_write w (.commitDeletion _ _) rfl]
        refine run_reload _ _ (w.chat.storeDeletion deleted.1.deletion
          (w.chat.movedPointers deleted.1.deletion)) ?_
        obtain ⟨m,found,_,_,id⟩ := message_isSome_of_loaded read
        rw [message_storeDeletion, (delete_ok is).1, id, found]
        rfl

theorem run_saveConversation (conversation : ConversationEntity) (w : ChatWorld) :
    (ConversationPostgresRepository.saveConversation conversation).run chatHandler w =
      match w.chat.storeConversation (Conversation.fromDomain conversation).1
        (Conversation.fromDomain conversation).2 with
      | (.ok rows, stored) => (.ok (rows.map Conversation.toDomain), { w with chat := stored })
      | (.error e, _) => (.error (.database e), w) := by
  unfold ConversationPostgresRepository.saveConversation
  let commit : StoreRequest (Answer (Option (Conversation × List ConversationMember))) :=
    .commitConversation (Conversation.fromDomain conversation).1
      (Conversation.fromDomain conversation).2
  cases is : w.chat.storeConversation (Conversation.fromDomain conversation).1
      (Conversation.fromDomain conversation).2 with
  | mk answered stored =>
    cases answered with
    | ok rows =>
      rw [run_write w commit is]
      rfl
    | error e =>
      rw [w.chat.storeConversation_error is] at is
      rw [run_write_error w commit is]

theorem run_markConversationAsRead (command : MarkConversationAsReadCommand) (w : ChatWorld) :
    (MarkConversationAsReadCommandHandler.execute command).run chatHandler w =
      w.apply (MarkConversationAsReadCommandHandler.change command w.chat) := by
  unfold MarkConversationAsReadCommandHandler.execute MarkConversationAsReadCommandHandler.change
  unfold requireConversation ConversationPostgresRepository.getConversationById
  simp only [Program.bind_assoc]
  rw [run_read (fun _ => rfl)]
  cases w.chat.getConversation command.conversationId with
  | none => rfl
  | some rows =>
    simp only [Option.map_some, Program.pure_eq, Program.done_bind]
    rw [run_lift, apply_bind]
    cases (Conversation.toDomain rows).markAsRead command.userId command.messageId with
    | error e => rfl
    | ok marked =>
      dsimp only [orRefuse]
      rw [Program.run_bind, run_saveConversation]
      cases w.chat.storeConversation (Conversation.fromDomain marked).1
          (Conversation.fromDomain marked).2 with
      | mk answered stored => cases answered <;> simp [ChatWorld.apply]

namespace CreateMessageHandler
variable {α : Type} {w : ChatWorld} {command : CreateMessageCommand} {member : ConversationMember}

/-- The key that is looked up first is the key that is stored. -/
theorem existing_eq {amb : Ambient} {created : MessageEntity × MessageCreatedDomainEvent}
    {db : ChatDatabase}
    (built : MessageEntity.create amb command.text command.type member.id command.conversationId
      command.deletedForUserIds command.replyToMessageId command.clientMessageId = .ok created) :
    existing command member db = created.1.clientMessageId.bind fun k =>
      lookup Message.clientKey (command.conversationId, member.id, some k) db.messages := by
  obtain ⟨_,key,valid,rfl⟩ := MessageEntity.create_ok built
  obtain ⟨rfl,nonblank⟩ := MessageEntity.validateClientMessageId_ok valid
  unfold existing
  cases given : command.clientMessageId with
  | none => rfl
  | some raw =>
    have present : raw ≠ [] := by
      rintro rfl
      exact nonblank (trim []) (by rw [given]; rfl) rfl
    rw [Option.filter_some_pos (by simpa using present)]
    rfl

/-- The message that a repeated send finds. -/
theorem existing_found {db : ChatDatabase} {m : Message}
    (known : existing command member db = some m) :
    m ∈ db.messages ∧ m.conversationId = command.conversationId ∧ m.senderId = member.id := by
  obtain ⟨_,_,found⟩ := Option.bind_eq_some_iff.mp known
  obtain ⟨stored,key⟩ := lookup_mem found
  exact ⟨stored,congrArg Prod.fst key,congrArg (fun k => k.2.1) key⟩

theorem run_findExisting (f : Option LoadedMessage → ChatProgram α) :
    (findExisting command member.toDomain >>= f).run chatHandler w =
      (f ((existing command member w.chat).map w.chat.loaded)).run chatHandler w := by
  unfold findExisting existing
  cases command.clientMessageId.filter (· ≠ []) with
  | none => rfl
  | some k =>
    unfold ConversationPostgresRepository.getMessageByClientMessageId
    simp only [Program.bind_assoc]
    rw [run_read (fun _ => rfl), loadDeletions_bind, Option.bind_some]
    dsimp only [ConversationMember.toDomain]
    cases lookup Message.clientKey (command.conversationId, member.id, some (trim k))
        w.chat.messages with
    | none => rfl
    | some m =>
      simp only [Option.map_some, ChatDatabase.withReply]
      rw [run_read (fun _ => rfl)]
      rfl

/-- What holds of a message that is quoted. -/
theorem quoted_ok {db : ChatDatabase} {reply : Option LoadedMessage} {messageId : Uuid}
    (quotes : command.replyToMessageId = some messageId) (is : quoted command db = .ok reply) :
    ∃ m, db.message messageId = some m ∧ reply = some (db.loaded m) ∧
      m.conversationId = command.conversationId ∧ m.deletedAt = none ∧
      ⟨command.senderId,messageId⟩ ∉ db.deletedMessages := by
  unfold quoted at is
  rw [quotes] at is
  dsimp only at is
  cases found : db.message messageId with
  | none => rw [found] at is; cases is
  | some m =>
    rw [found] at is
    cases accepted : acceptReply command (some (db.loaded m)) with
    | error e =>
      simp only [Option.map_some, accepted] at is
      cases is
    | ok r =>
      simp only [Option.map_some, accepted] at is
      cases is
      obtain ⟨rfl,home,live,kept⟩ := acceptReply_rows_iff.mp accepted
      refine ⟨m,rfl,rfl,home,live,fun hidden => kept ?_⟩
      refine List.mem_map.mpr ⟨⟨command.senderId,messageId⟩,List.mem_filter.mpr ⟨hidden,?_⟩,rfl⟩
      simpa using (lookup_mem found).2.symm

theorem run_loadReply (f : Option LoadedMessage → ChatProgram α) :
    (loadReply command >>= f).run chatHandler w =
      orRefuse (quoted command w.chat) (fun reply => (f reply).run chatHandler w) w := by
  unfold loadReply quoted
  cases command.replyToMessageId with
  | none => rfl
  | some id =>
    simp only [Program.bind_assoc]
    rw [run_loaded, run_lift]
    cases acceptReply command ((w.chat.message id).map w.chat.loaded) <;> rfl

/-- Alone, an insert that fails has no row to recover. -/
theorem run_saveMessage {message : MessageEntity}
    (unused : ∀ k, message.clientMessageId = some k →
      lookup Message.clientKey (message.conversationId, message.senderId, some k)
        w.chat.messages = none) :
    (ConversationPostgresRepository.saveMessage message).run chatHandler w =
      match store message w.chat with
      | (.ok _, stored) => (.ok (sent message none), { w with chat := stored })
      | (.error e, _) => (.error (.database e), w) := by
  unfold ConversationPostgresRepository.saveMessage
  have insert : (ConversationPostgresRepository.insertMessage message).run chatHandler w =
      match store message w.chat with
      | (.ok _, stored) => (.ok (sent message none), { w with chat := stored })
      | (.error e, _) => (.error (.database e), w) := by
    unfold ConversationPostgresRepository.insertMessage
    rw [run_read (fun _ => rfl)]
    let commit : StoreRequest (Answer Unit) := .commitMessage (Message.fromDomain message)
      (message.deletedForUserIds.map fun userId => ⟨userId,message.id⟩)
      ((w.chat.membersOf message.conversationId).map message.updateMember)
    cases is : store message w.chat with
    | mk answered db =>
      cases answered with
      | ok a =>
        rw [run_write w commit is]
        rfl
      | error e =>
        rw [w.chat.storeMessage_error is] at is
        rw [run_write_error w commit is]
  cases is : store message w.chat with
  | mk answered db =>
    rw [is] at insert
    cases answered with
    | ok a => exact Program.run_catch_ok _ _ insert _
    | error e =>
      rw [Program.run_catch_error _ _ insert]
      unfold ConversationPostgresRepository.recoverExisting
      split
      · rename_i k _ key _
        unfold ConversationPostgresRepository.getMessageByClientMessageId
        simp only [Program.bind_assoc]
        rw [run_read (fun _ => rfl), unused k key]
        rfl
      · rfl

end CreateMessageHandler

theorem run_createMessage (amb : Ambient) (command : CreateMessageCommand) (w : ChatWorld) :
    (CreateMessageHandler.execute amb command).run chatHandler w =
      w.apply (CreateMessageHandler.change amb command w.chat) := by
  unfold CreateMessageHandler.execute CreateMessageHandler.change
  rw [run_requireMember, apply_bind]
  cases w.chat.conversationMember command.conversationId command.senderId with
  | error e => rfl
  | ok member =>
    dsimp only [orRefuse]
    rw [CreateMessageHandler.run_findExisting]
    cases found : CreateMessageHandler.existing command member w.chat with
    | some m =>
      have text : (w.chat.loaded m).message.text = m.text :=
        MessageEntity.loadDeletedForUserIds_text ..
      simp only [Option.map_some, text]
      split
      · rfl
      · simp [ChatWorld.apply]
    | none =>
      simp only [Option.map_none]
      rw [CreateMessageHandler.run_loadReply, apply_bind]
      cases CreateMessageHandler.quoted command w.chat with
      | error e => rfl
      | ok reply =>
        dsimp only [orRefuse]
        unfold CreateMessageHandler.create
        rw [run_lift, apply_bind]
        dsimp only [ConversationMember.toDomain]
        cases is : MessageEntity.create amb command.text command.type member.id
            command.conversationId command.deletedForUserIds command.replyToMessageId
            command.clientMessageId with
        | error e => rfl
        | ok created =>
          dsimp only [orRefuse]
          obtain ⟨_,_,_,fields⟩ := MessageEntity.create_ok is
          have unused : ∀ k, created.1.clientMessageId = some k →
              lookup Message.clientKey (created.1.conversationId, created.1.senderId, some k)
                w.chat.messages = none := by
            intro k given
            rw [CreateMessageHandler.existing_eq is, given] at found
            rw [fields]
            exact found
          have saved := CreateMessageHandler.run_saveMessage unused
          rw [Program.run_bind, saved]
          cases CreateMessageHandler.store created.1 w.chat with
          | mk answered stored =>
            cases answered with
            | error e => rfl
            | ok a => cases reply <;> rfl

section Users
variable {α : Type} {w : ChatWorld}

theorem run_askUserModule (p : UserProgram α) (w : ChatWorld) :
    (askUserModule p).run chatHandler w =
      ((p.run userHandler w.users).1, { w with users := (p.run userHandler w.users).2 }) := by
  have run := Program.run_translate userHandler chatHandler ChatRequest.user
    (id : Failure → Failure) ChatWorld.users (fun users w => { w with users })
    (fun _ _ => rfl) (fun _ _ => rfl) (fun _ _ _ => rfl) (fun _ => rfl) p w
  refine run.trans ?_
  cases (p.run userHandler w.users).1 <;> rfl

theorem run_getUserByIdQuery (userId : Uuid) (db : UserDatabase) :
    (GetUserByIdHandler.execute userId).run userHandler db =
      match lookup User.id userId db.live with
      | none => (.error (userNotFoundException userId), db)
      | some u => (.ok (UserPostgresReadRepository.mapToDto u), db) := by
  have answered : userHandler.answer (.getUserById userId) db =
      (.ok (lookup User.id userId db.live), db) := rfl
  unfold GetUserByIdHandler.execute UserPostgresReadRepository.getUserById
  rw [Program.bind_assoc, run_ask_bind answered]
  cases lookup User.id userId db.live <;> rfl

theorem chatUser_id {db : UserDatabase} {userId : Uuid} {user : ChatUser}
    (is : db.chatUser userId = .ok user) : user.id = userId := by
  unfold UserDatabase.chatUser at is
  split at is
  · cases is
  · rename_i found
    cases is
    exact (lookup_mem found).2

theorem chatUser_error {db : UserDatabase} {userId : Uuid} {e : Failure}
    (is : db.chatUser userId = .error e) : e = userNotFoundException userId := by
  unfold UserDatabase.chatUser at is
  split at is
  · cases is
    rfl
  · cases is

theorem hasUser_of_chatUser {db : UserDatabase} {userId : Uuid} {user : ChatUser}
    (is : db.chatUser userId = .ok user) : db.HasUser userId := by
  unfold UserDatabase.chatUser at is
  split at is
  · cases is
  · rename_i found
    rw [hasUser_iff, found]
    rfl

theorem not_hasUser_of_chatUser {db : UserDatabase} {userId : Uuid} {e : Failure}
    (is : db.chatUser userId = .error e) : ¬ db.HasUser userId := by
  unfold UserDatabase.chatUser at is
  split at is
  · rename_i missing
    rw [hasUser_iff, missing]
    exact nofun
  · cases is

theorem checkUsers_ok {command : CreateDirectConversationCommand} {users : UserDatabase}
    (is : CreateDirectConversationHandler.checkUsers command users = .ok ()) :
    users.blocking command.targetUserId command.userId = false ∧
      users.blocking command.userId command.targetUserId = false := by
  unfold CreateDirectConversationHandler.checkUsers at is
  split_ifs at is with missing blocked
  rw [Bool.or_eq_true, not_or] at blocked
  simpa using blocked

theorem checkUsers_error {command : CreateDirectConversationCommand} {users : UserDatabase}
    {e : Failure} (is : CreateDirectConversationHandler.checkUsers command users = .error e) :
    e = targetUserNotFoundException none ∨ e = blockedUserException none := by
  unfold CreateDirectConversationHandler.checkUsers at is
  split_ifs at is
  · cases is
    exact Or.inl rfl
  · cases is
    exact Or.inr rfl

theorem run_chatUser (userId : Uuid) (f : ChatUser → ChatProgram α) :
    (ChatUserIntegrationAdapter.getUserById userId >>= f).run chatHandler w =
      orRefuse (w.users.chatUser userId) (fun user => (f user).run chatHandler w) w := by
  unfold ChatUserIntegrationAdapter.getUserById UserDatabase.chatUser
  rw [Program.bind_assoc, Program.run_bind, run_askUserModule, run_getUserByIdQuery]
  cases lookup User.id userId w.users.live <;> rfl

theorem run_blockStatus (userId targetUserId : Uuid)
    (f : GetBlockStatusResponse → ChatProgram α) :
    (ChatUserIntegrationAdapter.getBlockStatus userId targetUserId >>= f).run chatHandler w =
      (f ⟨w.users.blocking userId targetUserId,w.users.blocking targetUserId userId⟩).run
        chatHandler w := by
  unfold ChatUserIntegrationAdapter.getBlockStatus
  rw [Program.run_bind, run_askUserModule, run_getBlockStatusQuery]

theorem run_doesUserExist (userId : Uuid) (f : Bool → ChatProgram α) :
    (ChatUserIntegrationAdapter.doesUserExist userId >>= f).run chatHandler w =
      (f (lookup User.id userId w.users.live).isSome).run chatHandler w := by
  unfold ChatUserIntegrationAdapter.doesUserExist
  have asked := run_askUserModule (GetUserByIdHandler.execute userId) w
  rw [run_getUserByIdQuery] at asked
  rw [Program.run_bind, Program.run_catch]
  cases found : lookup User.id userId w.users.live with
  | none =>
    rw [found] at asked
    rw [Program.run_map_error _ _ asked]
    simp [ChatUserIntegrationAdapter.isUserNotFound, userNotFoundException]
  | some u =>
    rw [found] at asked
    rw [Program.run_map_ok _ _ asked]
    rfl

end Users

theorem run_createDirectConversation (amb : Ambient) (command : CreateDirectConversationCommand)
    (w : ChatWorld) :
    (CreateDirectConversationHandler.execute amb command).run chatHandler w =
      orRefuse (CreateDirectConversationHandler.checkUsers command w.users)
        (fun _ => w.apply (CreateDirectConversationHandler.change amb command w.chat)) w := by
  unfold CreateDirectConversationHandler.execute CreateDirectConversationHandler.checkUsers
  rw [run_doesUserExist]
  cases lookup User.id command.targetUserId w.users.live with
  | none => rfl
  | some u =>
    simp only [Option.isSome_some, Bool.not_true, Bool.false_eq_true, ↓reduceIte,
      Option.isNone_some]
    unfold ChatUserIntegrationAdapter.hasBlockRelation
    rw [Program.bind_assoc, run_blockStatus]
    by_cases blocked : (w.users.blocking command.targetUserId command.userId ||
        w.users.blocking command.userId command.targetUserId) = true
    · simp [blocked, orRefuse]
    · simp only [Program.pure_eq, Program.done_bind, blocked, Bool.false_eq_true, ↓reduceIte]
      unfold ConversationPostgresReadRepository.conversationExists
        CreateDirectConversationHandler.change
      rw [run_read (fun _ => rfl)]
      dsimp only [orRefuse]
      split
      · rfl
      · unfold CreateDirectConversationHandler.create
        rw [run_lift, apply_bind, ConversationEntity.createDirect_eq]
        dsimp only [orRefuse]
        rw [Program.run_bind, run_saveConversation]
        cases is : w.chat.storeConversation _ _ with
        | mk answered stored =>
          cases answered with
          | error e => rfl
          | ok rows =>
            obtain ⟨found,rfl⟩ := Option.isSome_iff_exists.mp
              (w.chat.storeConversation_found is rfl)
            simp [ChatWorld.apply]

theorem run_deleteConversation (now : Time) (conversationId : Uuid) (w : ChatWorld) :
    (DeleteConversationHandler.execute now conversationId).run chatHandler w =
      (.ok (w.chat.conversations.countP (fun c => c.deletedAt.isNone && c.id = conversationId) = 1),
        { w with chat := (w.chat.removeConversation conversationId now).2 }) := rfl

/-- The two ways in which a send succeeds: its key is stored already, or it inserts. -/
theorem CreateMessageHandler.change_ok {amb : Ambient} {command : CreateMessageCommand}
    {db : ChatDatabase} {c : Change LoadedMessage}
    (is : CreateMessageHandler.change amb command db = .ok c) :
    ∃ member, db.conversationMember command.conversationId command.senderId = .ok member ∧
      ((∃ m, existing command member db = some m ∧ m.text = command.text ∧
          c = ⟨db.loaded m,db,[]⟩) ∨
        (existing command member db = none ∧ ∃ reply created stored,
          quoted command db = .ok reply ∧
          MessageEntity.create amb command.text command.type member.id command.conversationId
            command.deletedForUserIds command.replyToMessageId command.clientMessageId =
              .ok created ∧
          store created.1 db = (.ok (), stored) ∧
          c = ⟨sent created.1 reply,stored,[.created created.2]⟩)) := by
  obtain ⟨member,found,is⟩ := ok_of_bind is
  refine ⟨member,found,?_⟩
  cases existing : existing command member db with
  | some m =>
    rw [existing] at is
    dsimp only at is
    split_ifs at is with other
    cases is
    exact Or.inl ⟨m,rfl,not_not.mp other,rfl⟩
  | none =>
    rw [existing] at is
    obtain ⟨reply,quotes,is⟩ := ok_of_bind is
    obtain ⟨created,built,is⟩ := ok_of_bind is
    cases stores : store created.1 db with
    | mk answered stored =>
      rw [stores] at is
      cases answered with
      | error e => cases is
      | ok a =>
        cases is
        exact Or.inr ⟨rfl,reply,created,stored,quotes,built,stores,rfl⟩

/-- The row of a new conversation. -/
abbrev newConversation (amb : Ambient) : Conversation :=
  ⟨amb.uuid 0,.direct,none,none,some (amb.uuid 1),amb.now,none⟩

/-- Its member rows. -/
abbrev newMembers (amb : Ambient) (userId targetUserId : Uuid) : List ConversationMember :=
  ⟨amb.uuid 2,userId,amb.uuid 0,none,none,amb.now,none⟩ ::
    if userId = targetUserId then []
    else [⟨amb.uuid 3,targetUserId,amb.uuid 0,none,none,amb.now,none⟩]

theorem fromDomain_direct (amb : Ambient) (userId targetUserId : Uuid) :
    Conversation.fromDomain
        { id := amb.uuid 0, createdAt := amb.now, type := .direct, title := none, picture := none,
          identifier := some (amb.uuid 1), deletedAt := none,
          members := .create (amb.uuid 2) amb.now userId (amb.uuid 0) ::
            if userId = targetUserId then []
            else [.create (amb.uuid 3) amb.now targetUserId (amb.uuid 0)] } =
      (newConversation amb, newMembers amb userId targetUserId) := by
  by_cases same : userId = targetUserId <;>
    simp [Conversation.fromDomain, ConversationMemberEntity.create,
      ConversationMember.fromDomain, same]

/-- What a new conversation adds to the tables. -/
theorem CreateDirectConversationHandler.change_ok {amb : Ambient}
    {command : CreateDirectConversationCommand} {db : ChatDatabase} {c : Change ConversationEntity}
    (is : CreateDirectConversationHandler.change amb command db = .ok c) :
    db.conversationExists command.userId command.targetUserId = false ∧ c.events = [] ∧
      c.result.id = amb.uuid 0 ∧ ∃ rows,
        db.storeConversation (newConversation amb)
          (newMembers amb command.userId command.targetUserId) = (.ok rows, c.chat) := by
  unfold change at is
  split_ifs at is with known
  rw [ConversationEntity.createDirect_eq] at is
  obtain ⟨conversation,built,is⟩ := ok_of_bind is
  cases built
  split at is
  · rename_i rows stored stores
    cases is
    rw [fromDomain_direct] at stores
    refine ⟨by simpa using known,rfl,?_,some rows,stores⟩
    obtain ⟨_,_,found⟩ := db.storeConversation_ok stores
    obtain ⟨row,known,rfl⟩ := Option.map_eq_some_iff.mp found.symm
    exact (lookup_mem known).2
  · cases is
  · cases is

end Chatterbox
