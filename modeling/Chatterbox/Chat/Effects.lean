import Chatterbox.Chat.LastMessage
import Chatterbox.Chat.Outcomes

/-!
What one operation of a user does to the tables of the chat module: nothing, or one of
six changes, each at the cost of one row and its companions. The invariants of the tables
under such changes need no more of the generated ids than that they are unused.
-/
namespace Chatterbox
open Concurrency Tables

namespace ChatDatabase
variable (db : ChatDatabase)

/-- The tables after a send. -/
def withMessage (message : MessageEntity) : ChatDatabase :=
  { db with
    messages := db.messages ++ [Message.fromDomain message]
    deletedMessages := saveAll id (message.deletedForUserIds.map fun userId => ⟨userId,message.id⟩)
      db.deletedMessages
    members := amend (fun cm => cm ∈ db.membersOf message.conversationId) message.updateMember
      db.members }

/-- The tables after a new conversation. -/
def withConversation (amb : Ambient) (userId targetUserId : Uuid) : ChatDatabase :=
  { db with
    conversations := db.conversations ++
      [⟨amb.uuid 0,.direct,none,none,some (amb.uuid 1),amb.now,none⟩]
    members := db.members ++ (⟨amb.uuid 2,userId,amb.uuid 0,none,none,amb.now,none⟩ ::
      if userId = targetUserId then []
      else [⟨amb.uuid 3,targetUserId,amb.uuid 0,none,none,amb.now,none⟩]) }

/-- The tables after a mark as read. -/
def withSeen (memberId messageId : Uuid) : ChatDatabase :=
  { db with
    members := amend (fun cm => cm.id = memberId)
      (fun cm => { cm with lastSeenMessageId := some messageId }) db.members }

/-- The uuids of an operation are unused. -/
structure Unused (amb : Ambient) (db : ChatDatabase) : Prop where
  injective : Function.Injective amb.uuid
  conversations : ∀ k, amb.uuid k ∉ db.conversations.map Conversation.id
  members : ∀ k, amb.uuid k ∉ db.members.map ConversationMember.id
  messages : ∀ k, amb.uuid k ∉ db.messages.map Message.id

theorem Fresh.unused {amb : Ambient} {db : ChatDatabase} (fresh : Fresh amb db) : Unused amb db :=
  ⟨fresh.injective,fresh.conversations,fresh.members,fresh.messages⟩

end ChatDatabase

section Commands
variable {amb : Ambient} {db : ChatDatabase}

/-- An edit by a member of a message of his: the loaded copy, edited. -/
theorem EditMessageHandler.change_ok {now : Time} {command : EditMessageCommand}
    {c : Change LoadedMessage} (is : EditMessageHandler.change now command db = .ok c) :
    ∃ member m edited, db.conversationMember command.conversationId command.userId = .ok member ∧
      db.message command.messageId = some m ∧ m.conversationId = command.conversationId ∧
      (db.loaded m).message.edit now command.text member.id = .ok edited ∧
      c.chat = db.updateMessage edited.1.id edited.1.text edited.1.editedAt edited.1.updatedAt ∧
      c.events = edited.2 ∧ c.result.message.id = m.id ∧ c.result.message.text = edited.1.text := by
  obtain ⟨member,seated,is⟩ := ok_of_bind is
  obtain ⟨loaded,read,is⟩ := ok_of_bind is
  obtain ⟨m,found,home,rfl,_⟩ := message_isSome_of_loaded read
  obtain ⟨edited,edits,is⟩ := ok_of_bind is
  have same : edited.1.id = m.id :=
    (edit_id edits).trans (MessageEntity.loadDeletedForUserIds_id ..)
  obtain ⟨row,again,rfl⟩ := reload_ok is
  have own : db.message m.id = some m := by rw [(lookup_mem found).2, found]
  rw [message_updateMessage, same, own, Option.map_some, Option.some.injEq,
    if_pos (decide_eq_true rfl)] at again
  obtain rfl := again
  exact ⟨member,m,edited,seated,found,home,edits,rfl,rfl,
    MessageEntity.loadDeletedForUserIds_id ..,MessageEntity.loadDeletedForUserIds_text ..⟩

/-- Who has deleted a message, in the loaded copy. -/
theorem mem_loaded {m : Message} {userId : Uuid} :
    userId ∈ (db.loaded m).message.deletedForUserIds ↔ ⟨userId,m.id⟩ ∈ db.deletedMessages := by
  rw [ChatDatabase.loaded, LoadedMessage.ofRows, MessageEntity.mem_loadDeletedForUserIds]
  simp only [Message.toDomain, List.not_mem_nil, false_or, List.mem_map, List.mem_filter,
    decide_eq_true_eq]
  constructor
  · rintro ⟨⟨_,_⟩,⟨stored,rfl⟩,rfl⟩
    exact stored
  · exact fun stored => ⟨_,⟨stored,rfl⟩,rfl⟩

/-- What an edit that is accepted demands, and makes of the loaded copy. -/
theorem edit_ok {m : MessageEntity} {now : Time} {text : JsString} {memberId : Uuid}
    {edited : MessageEntity × List MessageEvent} (is : m.edit now text memberId = .ok edited) :
    m.deletedAt = none ∧ memberId = m.senderId ∧
      ((m.text = text ∧ edited = (m, [])) ∨
        (m.text ≠ text ∧ edited =
          ({ m with text, editedAt := some now, updatedAt := now },
            [.edited { messageId := m.id, conversationId := m.conversationId,
                       senderId := m.senderId, text, deletedForUserIds := m.deletedForUserIds,
                       editedAt := now }]))) := by
  unfold MessageEntity.edit at is
  split_ifs at is with gone other kind blank same
  · cases is
    exact ⟨by simpa using gone,not_not.mp other,Or.inl ⟨same,rfl⟩⟩
  · cases is
    exact ⟨by simpa using gone,not_not.mp other,Or.inr ⟨same,rfl⟩⟩

theorem DeleteMessageHandler.change_ok {now : Time} {command : DeleteMessageCommand}
    {c : Change LoadedMessage} (is : DeleteMessageHandler.change now command db = .ok c) :
    ∃ member m deleted, db.conversationMember command.conversationId command.userId = .ok member ∧
      db.message command.messageId = some m ∧ m.conversationId = command.conversationId ∧
      DeleteMessageHandler.delete now command member.id (db.loaded m).message = .ok deleted ∧
      c.chat = db.storeDeletion deleted.1.deletion (db.movedPointers deleted.1.deletion) ∧
      c.events = deleted.2 := by
  obtain ⟨member,seated,is⟩ := ok_of_bind is
  obtain ⟨loaded,read,is⟩ := ok_of_bind is
  obtain ⟨m,found,home,rfl,_⟩ := message_isSome_of_loaded read
  obtain ⟨deleted,deletes,is⟩ := ok_of_bind is
  obtain ⟨row,_,rfl⟩ := reload_ok is
  exact ⟨member,m,deleted,seated,found,home,deletes,rfl,rfl⟩

/-- What a deletion that is accepted demands, and makes of the loaded copy. -/
theorem delete_cases {now : Time} {command : DeleteMessageCommand} {memberId : Uuid}
    {m : MessageEntity} {deleted : MessageEntity × List MessageEvent}
    (is : DeleteMessageHandler.delete now command memberId m = .ok deleted) :
    (command.scope = .me ∧ deleted = m.deleteForUser now command.userId) ∨
      (command.scope = .everyone ∧ memberId = m.senderId ∧
        ((m.deletedAt ≠ none ∧ deleted = (m, [])) ∨
          (m.deletedAt = none ∧ deleted = ({ m with deletedAt := some now, updatedAt := now },
            [.deleted { messageId := m.id, conversationId := m.conversationId, scope := .everyone,
                        actorUserId := command.userId, deletedForUserIds := m.deletedForUserIds,
                        deletedAt := some now }])))) := by
  unfold DeleteMessageHandler.delete at is
  cases scope : command.scope with
  | me =>
    rw [scope] at is
    cases is
    exact Or.inl ⟨rfl,rfl⟩
  | everyone =>
    rw [scope] at is
    dsimp only [MessageEntity.deleteForEveryone] at is
    split_ifs at is with other gone
    · cases is
      exact Or.inr ⟨rfl,not_not.mp other,Or.inl ⟨Option.isSome_iff_ne_none.mp gone,rfl⟩⟩
    · cases is
      exact Or.inr ⟨rfl,not_not.mp other,Or.inr ⟨by simpa using gone,rfl⟩⟩

/-- An edit publishes edits, a deletion publishes deletions. -/
theorem edit_events {m : MessageEntity} {now : Time} {text : JsString} {memberId : Uuid}
    {edited : MessageEntity × List MessageEvent} (is : m.edit now text memberId = .ok edited) :
    ∀ event ∈ edited.2, ∃ e, event = .edited e := by
  obtain ⟨_,_,⟨_,rfl⟩ | ⟨_,rfl⟩⟩ := edit_ok is <;> simp

theorem delete_events {now : Time} {command : DeleteMessageCommand} {memberId : Uuid}
    {m : MessageEntity} {deleted : MessageEntity × List MessageEvent}
    (is : DeleteMessageHandler.delete now command memberId m = .ok deleted) :
    ∀ event ∈ deleted.2, ∃ e, event = .deleted e := by
  rcases delete_cases is with ⟨_,rfl⟩ | ⟨_,_,⟨_,rfl⟩ | ⟨_,rfl⟩⟩
  · unfold MessageEntity.deleteForUser
    split <;> simp
  · simp
  · simp

/-- What a mark as read changes: the position of one member, who now has seen a stored
    message. -/
theorem MarkConversationAsReadCommandHandler.change_ok
    (conversations : Keyed Conversation.id db.conversations)
    (members : Keyed ConversationMember.id db.members) {command : MarkConversationAsReadCommand}
    {c : Change Unit} (is : MarkConversationAsReadCommandHandler.change command db = .ok c) :
    ∃ member, db.conversationMember command.conversationId command.userId = .ok member ∧
      c.events = [] ∧
      ((member.lastSeenMessageId = some command.messageId ∧ c.chat = db) ∨
        ((db.message command.messageId).isSome ∧
          c.chat = db.withSeen member.id command.messageId)) := by
  unfold MarkConversationAsReadCommandHandler.change at is
  cases loaded : db.getConversation command.conversationId with
  | none =>
    rw [loaded] at is
    cases is
  | some rows =>
    rw [loaded] at is
    obtain ⟨conversation,known,rfl⟩ := Option.map_eq_some_iff.mp loaded
    obtain ⟨marked,marks,is⟩ := ok_of_bind is
    obtain ⟨member,first,saved⟩ := markAsRead_ok marks
    have seated : db.conversationMember command.conversationId command.userId = .ok member := by
      rw [ChatDatabase.conversationMember, loaded]
      dsimp only
      rw [first]
    obtain ⟨row,_⟩ := conversationMember_ok seated
    obtain ⟨storedRow,_⟩ := ChatDatabase.membersOf_iff.mp row
    have storedConversation : conversation ∈ db.conversations :=
      List.mem_of_mem_filter (lookup_mem known).1
    split at is
    · rename_i rows stored stores
      cases is
      refine ⟨member,seated,rfl,?_⟩
      have seen := db.storeConversation_seen stores
      obtain ⟨_,rfl,_⟩ := db.storeConversation_ok stores
      have distinct : Keyed ConversationMember.id (db.membersOf command.conversationId) :=
        ChatDatabase.keyed_membersOf members _
      have stays : ∀ cm ∈ db.membersOf command.conversationId, cm ∈ db.members :=
        fun cm mem => (ChatDatabase.membersOf_iff.mp mem).1
      rcases saved with ⟨already,same⟩ | moved
      · refine Or.inl ⟨already,?_⟩
        rw [same]
        dsimp only
        rw [save_same conversations storedConversation, saveAll_same members stays]
      · have own : member ∈ db.membersOf command.conversationId := row
        refine Or.inr ⟨seen { member with lastSeenMessageId := some command.messageId } ?_ _ rfl,?_⟩
        · rw [moved]
          exact List.mem_map.mpr ⟨member,own,if_pos rfl⟩
        · rw [moved]
          dsimp only
          rw [save_same conversations storedConversation, saveAll_change members distinct stays]
          · unfold ChatDatabase.withSeen
            congr 1
            refine List.map_congr_left fun cm mem => ?_
            by_cases hit : cm.id = member.id
            · have same : cm = member := keyed_unique members mem storedRow hit
              subst same
              simp [own]
            · simp [hit]
          · intro cm
            split <;> rfl
    · cases is

/-- A send that stores a message: who sends, what it may quote, and what it builds. -/
structure Inserts (amb : Ambient) (command : CreateMessageCommand) (db : ChatDatabase)
    (member : ConversationMember) (message : MessageEntity) (event : MessageCreatedDomainEvent) :
    Prop where
  seated : db.conversationMember command.conversationId command.senderId = .ok member
  unknown : CreateMessageHandler.existing command member db = none
  quotes : ∃ reply, CreateMessageHandler.quoted command db = .ok reply
  built : MessageEntity.create amb command.text command.type member.id command.conversationId
    command.deletedForUserIds command.replyToMessageId command.clientMessageId =
      .ok (message, event)

theorem CreateMessageHandler.store_ok (members : Keyed ConversationMember.id db.members)
    {message : MessageEntity} (unused : message.id ∉ db.messages.map Message.id)
    {stored : ChatDatabase} (stores : store message db = (.ok (), stored)) :
    stored = db.withMessage message := by
  obtain ⟨_,_,rfl⟩ := db.storeMessage_ok stores
  have absent : ∀ m ∈ db.messages, m.id ≠ message.id :=
    fun m mem same => unused (List.mem_map.mpr ⟨m,mem,same⟩)
  have stays : ∀ cm ∈ db.membersOf message.conversationId, cm ∈ db.members :=
    fun cm mem => (ChatDatabase.membersOf_iff.mp mem).1
  have frame : ∀ cm, (message.updateMember cm).id = cm.id := fun _ => rfl
  have appended : save Message.id (Message.fromDomain message) db.messages =
      db.messages ++ [Message.fromDomain message] := save_new absent
  unfold ChatDatabase.withMessage
  rw [appended, saveAll_change members (ChatDatabase.keyed_membersOf members _) stays frame]

/-- A send stores its message, or it repeats one that is stored. -/
theorem CreateMessageHandler.change_effect (members : Keyed ConversationMember.id db.members)
    (unused : amb.uuid 0 ∉ db.messages.map Message.id) {command : CreateMessageCommand}
    {c : Change LoadedMessage} (is : CreateMessageHandler.change amb command db = .ok c) :
    (∃ member m, db.conversationMember command.conversationId command.senderId = .ok member ∧
        existing command member db = some m ∧ m.text = command.text ∧ c = ⟨db.loaded m,db,[]⟩) ∨
      ∃ member message event reply, Inserts amb command db member message event ∧
        quoted command db = .ok reply ∧
        c = ⟨sent message reply,db.withMessage message,[.created event]⟩ := by
  obtain ⟨member,seated,again⟩ := CreateMessageHandler.change_ok is
  rcases again with ⟨m,known,same,rfl⟩ | ⟨unknown,reply,⟨message,event⟩,stored,quotes,built,stores,rfl⟩
  · exact Or.inl ⟨member,m,seated,known,same,rfl⟩
  · refine Or.inr ⟨member,message,event,reply,⟨seated,unknown,⟨reply,quotes⟩,built⟩,quotes,?_⟩
    obtain ⟨_,key,_,is⟩ := MessageEntity.create_ok built
    have id : message.id = amb.uuid 0 := by rw [(Prod.mk.inj is).1]
    rw [CreateMessageHandler.store_ok members (id ▸ unused) stores]

/-- The two member rows of a new conversation. -/
theorem mem_newMembers {userId targetUserId : Uuid} {cm : ConversationMember}
    (mem : cm ∈ newMembers amb userId targetUserId) :
    cm = ⟨amb.uuid 2,userId,amb.uuid 0,none,none,amb.now,none⟩ ∨
      (userId ≠ targetUserId ∧ cm = ⟨amb.uuid 3,targetUserId,amb.uuid 0,none,none,amb.now,none⟩) := by
  rcases List.mem_cons.mp mem with rfl | second
  · exact Or.inl rfl
  · split_ifs at second with same
    · cases second
    · exact Or.inr ⟨same,List.mem_singleton.mp second⟩

theorem keyed_withConversation (unused : ChatDatabase.Unused amb db)
    (members : Keyed ConversationMember.id db.members) (userId targetUserId : Uuid) :
    Keyed ConversationMember.id (db.withConversation amb userId targetUserId).members := by
  have apart : amb.uuid 2 ≠ amb.uuid 3 := fun same => absurd (unused.injective same) (by decide)
  unfold Keyed ChatDatabase.withConversation
  rw [List.map_append, List.nodup_append]
  refine ⟨members,?_,?_⟩
  · split_ifs <;> simp [apart]
  · rintro _ old _ new rfl
    obtain ⟨cm,mem,rfl⟩ := List.mem_map.mp new
    rcases mem_newMembers mem with rfl | ⟨_,rfl⟩
    · exact unused.members 2 old
    · exact unused.members 3 old

/-- A conversation of unused ids is added, with its members. -/
theorem storeConversation_new (unused : ChatDatabase.Unused amb db) {userId targetUserId : Uuid}
    {rows : Option (Conversation × List ConversationMember)} {stored : ChatDatabase}
    (stores : db.storeConversation (newConversation amb) (newMembers amb userId targetUserId) =
      (.ok rows, stored)) :
    stored = db.withConversation amb userId targetUserId := by
  obtain ⟨_,is,_⟩ := db.storeConversation_ok stores
  rw [is]
  have absent : ∀ c ∈ db.conversations, c.id ≠ amb.uuid 0 :=
    fun c mem same => unused.conversations 0 (List.mem_map.mpr ⟨c,mem,same⟩)
  have missing : ∀ k, ∀ cm ∈ db.members, cm.id ≠ amb.uuid k :=
    fun k cm mem same => unused.members k (List.mem_map.mpr ⟨cm,mem,same⟩)
  have apart : amb.uuid 2 ≠ amb.uuid 3 := fun same => absurd (unused.injective same) (by decide)
  unfold ChatDatabase.withConversation newMembers
  rw [save_new absent]
  congr 1
  by_cases own : userId = targetUserId
  · rw [if_pos own]
    exact save_new (missing 2)
  · rw [if_neg own]
    let own : ConversationMember := ⟨amb.uuid 2,userId,amb.uuid 0,none,none,amb.now,none⟩
    have first : save ConversationMember.id own db.members = db.members ++ [own] :=
      save_new (missing 2)
    change save _ _ (save ConversationMember.id own db.members) = _
    rw [first, save_new, List.append_assoc, List.singleton_append]
    intro cm mem
    rcases List.mem_append.mp mem with old | new
    · exact missing 3 cm old
    · rw [List.mem_singleton.mp new]
      exact apart

theorem CreateDirectConversationHandler.change_effect (unused : ChatDatabase.Unused amb db)
    {command : CreateDirectConversationCommand} {c : Change ConversationEntity}
    (is : CreateDirectConversationHandler.change amb command db = .ok c) :
    db.conversationExists command.userId command.targetUserId = false ∧
      c.chat = db.withConversation amb command.userId command.targetUserId := by
  obtain ⟨known,_,_,rows,stores⟩ := CreateDirectConversationHandler.change_ok is
  exact ⟨known,storeConversation_new unused stores⟩

end Commands

/-- What an operation of a user makes of the chat tables, with the events that it publishes. -/
inductive Effect (users : UserDatabase) (amb : Ambient) (actor : Uuid) (db : ChatDatabase) :
    ChatOperation → ChatDatabase → List MessageEvent → Prop where
  | nothing {operation : ChatOperation} : Effect users amb actor db operation db []
  | opened {data : CreateConversationRequest} {member : ConversationMember}
      {message : MessageEntity} {event : MessageCreatedDomainEvent}
      (accounts : users.HasUser actor ∧ users.HasUser data.targetUserId)
      (unblocked : users.blocking data.targetUserId actor = false)
      (unknown : db.conversationExists actor data.targetUserId = false)
      (sends : Inserts (amb.skip 4) (data.firstMessage actor (amb.uuid 0))
        (db.withConversation amb actor data.targetUserId) member message event) :
      Effect users amb actor db (.createConversation data)
        ((db.withConversation amb actor data.targetUserId).withMessage message) [.created event]
  | rolledBack {data : CreateConversationRequest}
      (unknown : db.conversationExists actor data.targetUserId = false) :
      Effect users amb actor db (.createConversation data)
        ((db.withConversation amb actor data.targetUserId).removeConversation (amb.uuid 0)
          amb.now).2 []
  | sent {data : CreateMessageRequest} {target member : ConversationMember}
      {message : MessageEntity} {event : MessageCreatedDomainEvent}
      (other : target ∈ db.membersOf data.conversationId) (apart : target.userId ≠ actor)
      (accounts : users.HasUser actor ∧ users.HasUser target.userId)
      (unblocked : users.blocking actor target.userId = false)
      (sends : Inserts amb (data.command actor
        (if users.blocking target.userId actor then [target.userId] else [])) db member message
        event) :
      Effect users amb actor db (.sendMessage data) (db.withMessage message) [.created event]
  | edited {data : EditMessageRequest} {member : ConversationMember} {m : Message}
      {edited : MessageEntity × List MessageEvent}
      (seated : db.conversationMember data.conversationId actor = .ok member)
      (found : db.message data.messageId = some m) (home : m.conversationId = data.conversationId)
      (edits : (db.loaded m).message.edit amb.now data.text member.id = .ok edited) :
      Effect users amb actor db (.editMessage data)
        (db.updateMessage edited.1.id edited.1.text edited.1.editedAt edited.1.updatedAt) edited.2
  | deleted {data : DeleteMessageRequest} {member : ConversationMember} {m : Message}
      {deleted : MessageEntity × List MessageEvent}
      (seated : db.conversationMember data.conversationId actor = .ok member)
      (found : db.message data.messageId = some m) (home : m.conversationId = data.conversationId)
      (deletes : DeleteMessageHandler.delete amb.now (data.command actor) member.id
        (db.loaded m).message = .ok deleted) :
      Effect users amb actor db (.deleteMessage data)
        (db.storeDeletion deleted.1.deletion (db.movedPointers deleted.1.deletion)) deleted.2
  | marked {data : MarkMessageSeenRequest} {member : ConversationMember}
      (seated : db.conversationMember data.conversationId actor = .ok member)
      (known : (db.message data.messageId).isSome) :
      Effect users amb actor db (.markMessageSeen data) (db.withSeen member.id data.messageId) []

section Perform
variable {amb : Ambient} {w : ChatWorld}

/-- After an operation the tables are changed as its effect says, and its events have been
    published; no account is gone. -/
theorem effect_perform (ilike : JsString → JsString → Bool) (actor : Uuid)
    (operation : ChatOperation) (conversations : Keyed Conversation.id w.chat.conversations)
    (members : Keyed ConversationMember.id w.chat.members)
    (unused : ChatDatabase.Unused amb w.chat) :
    Effect w.users amb actor w.chat operation (w.perform ilike amb actor operation).2.chat
        (w.perform ilike amb actor operation).2.published ∧
      ∀ id, w.users.HasUser id → (w.perform ilike amb actor operation).2.users.HasUser id := by
  have settled : ∀ {α : Type} (c : Change α) sent,
      ((w.changed c sent).announce c.events).chat = c.chat ∧
        ((w.changed c sent).announce c.events).published = c.events ∧
        ∀ id, w.users.HasUser id → ((w.changed c sent).announce c.events).users.HasUser id := by
    intro α c sent
    obtain ⟨later,is⟩ := announce_sends c.events (w.changed c sent)
    rw [is]
    exact ⟨rfl,rfl,fun _ known => known⟩
  cases is : w.perform ilike amb actor operation with
  | mk r v =>
    have outcome := outcome_perform ilike amb actor w operation
    rw [is] at outcome
    dsimp only
    cases outcome with
    | refused => exact ⟨.nothing,fun _ known => known⟩
    | listedConversations => exact ⟨.nothing,fun _ known => known⟩
    | listedMessages => exact ⟨.nothing,fun _ known => known⟩
    | blocked kept => exact ⟨.nothing,kept⟩
    | rolledBack accounts opens =>
      obtain ⟨unknown,chat⟩ := CreateDirectConversationHandler.change_effect unused opens
      dsimp only
      rw [chat]
      exact ⟨.rolledBack unknown,fun _ known => known⟩
    | @created data _ opened c announced accounts unblocked opens sends =>
      obtain ⟨chat,events,users⟩ := settled c announced
      obtain ⟨unknown,stores⟩ := CreateDirectConversationHandler.change_effect unused opens
      rw [stores] at sends
      rw [chat, events]
      refine ⟨?_,users⟩
      rcases CreateMessageHandler.change_effect (keyed_withConversation unused members actor
          data.targetUserId) (unused.messages 4) sends with
        ⟨_,_,_,known,_⟩ | ⟨_,_,_,_,inserts,_,rfl⟩
      · cases known
      · exact .opened accounts unblocked.1 unknown inserts
    | @sent data _ target c other apart accounts unblocked sends =>
      obtain ⟨chat,events,users⟩ := settled c []
      rw [chat, events]
      refine ⟨?_,users⟩
      rcases CreateMessageHandler.change_effect members (unused.messages 0) sends with
        ⟨_,_,_,_,_,rfl⟩ | ⟨_,_,_,_,inserts,_,rfl⟩
      · exact .nothing
      · exact .sent other apart accounts unblocked inserts
    | @edited data _ c edits =>
      obtain ⟨chat,events,users⟩ := settled c []
      obtain ⟨_,_,_,seated,found,home,changes,is,published,_⟩ :=
        EditMessageHandler.change_ok edits
      rw [chat, events]
      refine ⟨?_,users⟩
      rw [is, published]
      exact .edited seated found home changes
    | @deleted data _ c deletes =>
      obtain ⟨chat,events,users⟩ := settled c []
      obtain ⟨_,_,_,seated,found,home,changes,is,published⟩ :=
        DeleteMessageHandler.change_ok deletes
      rw [chat, events]
      refine ⟨?_,users⟩
      rw [is, published]
      exact .deleted seated found home changes
    | @marked data _ c rooms marks =>
      obtain ⟨chat,events,users⟩ := settled c (if rooms = [] then [] else
        [⟨rooms,.messageSeen data.conversationId data.messageId⟩])
      obtain ⟨_,seated,published,moved⟩ :=
        MarkConversationAsReadCommandHandler.change_ok conversations members marks
      rw [chat, events]
      refine ⟨?_,users⟩
      rw [published]
      rcases moved with ⟨_,same⟩ | ⟨known,same⟩
      · rw [same]
        exact .nothing
      · rw [same]
        exact .marked seated known

end Perform

end Chatterbox
