import Chatterbox.Chat.FrameLaw
import Chatterbox.Chat.StoredTexts
import Chatterbox.Chat.Tombstones
import Mathlib.Data.Finset.Basic

/-!
The repository as a store of aggregates. What it loads is compared as records: the
persistent fields without the date of the last update, and sets for the users who have
deleted a message and for the members of a conversation. To persist an entity is to put its
record in the place of its id; no other record moves.
-/
namespace Chatterbox
open Concurrency Tables ConversationPostgresRepository

structure MessageRecord where
  id : Uuid
  createdAt : Time
  text : JsString
  type : MessageType
  senderId : Uuid
  conversationId : Uuid
  deletedFor : Finset Uuid
  deletedAt : Option Time
  editedAt : Option Time
  replyToMessageId : Option Uuid
  clientMessageId : Option JsString
  deriving DecidableEq

def MessageEntity.record (m : MessageEntity) : MessageRecord :=
  { id := m.id, createdAt := m.createdAt, text := m.text, type := m.type, senderId := m.senderId,
    conversationId := m.conversationId, deletedFor := m.deletedForUserIds.toFinset,
    deletedAt := m.deletedAt, editedAt := m.editedAt, replyToMessageId := m.replyToMessageId,
    clientMessageId := m.clientMessageId }

structure ConversationRecord where
  id : Uuid
  createdAt : Time
  type : ConversationType
  title : Option JsString
  picture : Option JsString
  identifier : Option Uuid
  deletedAt : Option Time
  members : Finset ConversationMemberEntity
  deriving DecidableEq

def ConversationEntity.record (c : ConversationEntity) : ConversationRecord :=
  { id := c.id, createdAt := c.createdAt, type := c.type, title := c.title, picture := c.picture,
    identifier := c.identifier, deletedAt := c.deletedAt, members := c.members.toFinset }

namespace ChatWorld

/-- The messages, as they are loaded one by one. -/
def messageRecords (w : ChatWorld) (id : Uuid) : Option MessageRecord :=
  match ((getMessageById id).run utf8Handler w).1 with
  | .ok loaded => loaded.map fun m => m.message.record
  | .error _ => none

/-- The conversations, as they are loaded one by one. -/
def conversationRecords (w : ChatWorld) (id : Uuid) : Option ConversationRecord :=
  match ((getConversationById id).run utf8Handler w).1 with
  | .ok loaded => loaded.map ConversationEntity.record
  | .error _ => none

end ChatWorld

namespace ChatDatabase
variable (db : ChatDatabase)

def deletedUsers (messageId : Uuid) : Finset Uuid :=
  ((db.deletedMessages.filter fun r => r.messageId = messageId).map
    DeletedMessage.userId).toFinset

theorem mem_deletedUsers {userId messageId : Uuid} :
    userId ∈ db.deletedUsers messageId ↔ ⟨userId,messageId⟩ ∈ db.deletedMessages := by
  simp only [deletedUsers, List.mem_toFinset, List.mem_map, List.mem_filter, decide_eq_true_eq]
  constructor
  · rintro ⟨r,⟨mem,rfl⟩,rfl⟩
    exact mem
  · exact fun mem => ⟨_,⟨mem,rfl⟩,rfl⟩

/-- The record of a message row. -/
def record (m : Message) : MessageRecord :=
  { (Message.toDomain m).record with deletedFor := db.deletedUsers m.id }

theorem record_loaded (m : Message) : (db.loaded m).message.record = db.record m := by
  have users : (db.loaded m).message.deletedForUserIds.toFinset = db.deletedUsers m.id := by
    ext userId
    rw [List.mem_toFinset, mem_loaded, mem_deletedUsers]
  rw [record, ← users, loaded_eq]
  rfl

end ChatDatabase

section Records
variable {w w' : ChatWorld}

theorem messageRecords_eq (w : ChatWorld) (id : Uuid) :
    w.messageRecords id = (w.chat.message id).map w.chat.record := by
  have loads : (getMessageById id).run chatHandler w =
      (.ok ((w.chat.message id).map w.chat.loaded), w) := run_getMessageById id w
  rw [ChatWorld.messageRecords, run_storable (storable_getMessageById id), loads]
  simp only [Option.map_map]
  congr 1
  exact funext fun m => w.chat.record_loaded m

theorem conversationRecords_eq (w : ChatWorld) (id : Uuid) :
    w.conversationRecords id =
      (w.chat.getConversation id).map fun rows => (Conversation.toDomain rows).record := by
  rw [ChatWorld.conversationRecords, run_storable (storable_getConversationById id),
    getConversationById, run_read (fun _ => rfl)]
  cases w.chat.getConversation id <;> rfl

/-- Messages whose rows and deletions are the same have the same records. -/
theorem messageRecords_same (messages : w'.chat.messages = w.chat.messages)
    (deleted : w'.chat.deletedMessages = w.chat.deletedMessages) :
    w'.messageRecords = w.messageRecords := by
  funext id
  rw [messageRecords_eq, messageRecords_eq, ChatDatabase.message, messages]
  unfold ChatDatabase.record ChatDatabase.deletedUsers ChatDatabase.message
  rw [deleted]

end Records

section Messages
variable {w : ChatWorld} {m : Message}

/-- A row in the place of another: the record of its id changes, and no other does. -/
theorem messageRecords_put {db : ChatDatabase} {id : Uuid} {record : MessageRecord}
    (own : (db.message id).map db.record = some record)
    (others : ∀ other, other ≠ id →
      (db.message other).map db.record = (w.chat.message other).map w.chat.record) :
    ChatWorld.messageRecords { w with chat := db } =
      Function.update w.messageRecords id (some record) := by
  funext other
  rw [messageRecords_eq]
  by_cases same : other = id
  · rw [same, Function.update_self]
    exact own
  · rw [Function.update_of_ne same, messageRecords_eq]
    exact others other same

/-- An update of one row, in the records. -/
theorem map_updated {found : Option Message} {id other : Uuid} {change : Message → Message}
    {record record' : Message → MessageRecord} (named : ∀ row, found = some row → row.id = other)
    (apart : other ≠ id) (same : ∀ row, row.id ≠ id → record' row = record row) :
    (found.map fun row => if decide (row.id = id) then change row else row).map record' =
      found.map record := by
  cases found with
  | none => rfl
  | some row =>
    have miss : row.id ≠ id := (named row rfl).symm ▸ apart
    simp only [Option.map_some, miss, decide_false, Bool.false_eq_true, ↓reduceIte,
      same row miss]

/-- `updateMessage` of an entity that differs from what is stored in what it writes. -/
theorem run_updateMessage {edited : MessageEntity} (found : w.chat.message m.id = some m)
    (id : edited.id = m.id) (frame : edited.record = { w.chat.record m with
      text := edited.text, editedAt := edited.editedAt }) :
    ∃ result w', (updateMessage edited).run chatHandler w = (.ok result, w') ∧
      w'.messageRecords = Function.update w.messageRecords m.id (some edited.record) := by
  let db := w.chat.updateMessage edited.id edited.text edited.editedAt edited.updatedAt
  have run : (updateMessage edited).run chatHandler w =
      (.ok ((db.message edited.id).map db.loaded), { w with chat := db }) := by
    rw [updateMessage, run_write w (.updateMessage _ _ _ _) rfl]
    exact run_getMessageById edited.id { w with chat := db }
  refine ⟨_,_,run,messageRecords_put ?_ fun other apart => ?_⟩
  · rw [message_updateMessage, found, id, frame]
    simp only [Option.map_some, decide_true, ↓reduceIte]
    rfl
  · rw [message_updateMessage, id]
    exact map_updated (fun row there => (lookup_mem there).2) apart fun _ _ => rfl

theorem deletedUsers_storeDeletion (db : ChatDatabase) (d : MessageDeletion)
    (members : List ConversationMember) (messageId : Uuid) :
    (db.storeDeletion d members).deletedUsers messageId =
      if messageId = d.messageId then d.deletedForUserIds.toFinset ∪ db.deletedUsers messageId
      else db.deletedUsers messageId := by
  ext userId
  have rows : (db.storeDeletion d members).deletedMessages =
    saveAll id (d.deletedForUserIds.map fun u => ⟨u,d.messageId⟩) db.deletedMessages := rfl
  rw [ChatDatabase.mem_deletedUsers, rows, mem_saveAll_id]
  split_ifs with same
  · rw [Finset.mem_union, List.mem_toFinset, ChatDatabase.mem_deletedUsers, same]
    simp
  · rw [ChatDatabase.mem_deletedUsers]
    constructor
    · intro mem
      rcases mem with new | old
      · obtain ⟨_,_,is⟩ := List.mem_map.mp new
        exact absurd (congrArg DeletedMessage.messageId is).symm same
      · exact old
    · exact Or.inr

/-- `saveMessageDeletion` of an entity that differs from what is stored in what it writes. -/
theorem run_saveMessageDeletion {deleted : MessageEntity} (found : w.chat.message m.id = some m)
    (id : deleted.id = m.id) (frame : deleted.record = { w.chat.record m with
      deletedFor := deleted.deletedForUserIds.toFinset, deletedAt := deleted.deletedAt })
    (grows : w.chat.deletedUsers m.id ⊆ deleted.deletedForUserIds.toFinset) :
    ∃ result w', (saveMessageDeletion deleted).run chatHandler w = (.ok result, w') ∧
      w'.messageRecords = Function.update w.messageRecords m.id (some deleted.record) := by
  let db := w.chat.storeDeletion deleted.deletion (w.chat.movedPointers deleted.deletion)
  have run : (saveMessageDeletion deleted).run chatHandler w =
      (.ok ((db.message deleted.id).map db.loaded), { w with chat := db }) := by
    rw [saveMessageDeletion, run_read (fun _ => rfl),
      Program.run_bind_ok _ _ (run_movePointers _ _), run_write w (.commitDeletion _ _) rfl]
    exact run_getMessageById deleted.id { w with chat := db }
  have names : deleted.deletion.messageId = m.id := id
  refine ⟨_,_,run,messageRecords_put ?_ fun other apart => ?_⟩
  · rw [message_storeDeletion, found, names, frame]
    simp only [Option.map_some, decide_true, ↓reduceIte, Option.some.injEq]
    have users : db.deletedUsers m.id = deleted.deletedForUserIds.toFinset := by
      rw [deletedUsers_storeDeletion, if_pos names.symm]
      exact Finset.union_eq_left.mpr grows
    change ({ (Message.toDomain (deleted.deletion.mark m)).record with
      deletedFor := db.deletedUsers m.id } : MessageRecord) = _
    rw [users]
    rfl
  · rw [message_storeDeletion, names]
    refine map_updated (fun row there => (lookup_mem there).2) apart fun row miss => ?_
    have users : db.deletedUsers row.id = w.chat.deletedUsers row.id := by
      rw [deletedUsers_storeDeletion, if_neg (fun same => miss (same.trans names))]
    rw [ChatDatabase.record, users, ChatDatabase.record]

/-- The records after the insert of a message of an unused id. -/
theorem messageRecords_store {message : MessageEntity} {stored : ChatDatabase}
    (unused : message.id ∉ w.chat.messages.map Message.id)
    (deletions : ∀ r ∈ w.chat.deletedMessages, r.messageId ∈ w.chat.messages.map Message.id)
    (stores : CreateMessageHandler.store message w.chat = (.ok (), stored)) :
    ChatWorld.messageRecords { w with chat := stored } =
      Function.update w.messageRecords message.id (some message.record) := by
  obtain ⟨_,_,rfl⟩ := w.chat.storeMessage_ok stores
  have new : ∀ row ∈ w.chat.messages, row.id ≠ (Message.fromDomain message).id :=
    fun row mem same => unused (List.mem_map.mpr ⟨row,mem,same⟩)
  rw [save_new new]
  let db : ChatDatabase := { w.chat with
    messages := w.chat.messages ++ [Message.fromDomain message]
    deletedMessages := saveAll id (message.deletedForUserIds.map fun u => ⟨u,message.id⟩)
      w.chat.deletedMessages
    members := saveAll ConversationMember.id
      ((w.chat.membersOf message.conversationId).map message.updateMember) w.chat.members }
  have users : ∀ messageId, db.deletedUsers messageId = if messageId = message.id then
      message.deletedForUserIds.toFinset else w.chat.deletedUsers messageId := by
    intro messageId
    ext userId
    rw [ChatDatabase.mem_deletedUsers, mem_saveAll_id]
    split_ifs with same
    · have shown : ⟨userId,message.id⟩ ∉ w.chat.deletedMessages :=
        fun mem => unused (deletions _ mem)
      simp [same, shown]
    · rw [ChatDatabase.mem_deletedUsers]
      constructor
      · intro mem
        rcases mem with added | old
        · obtain ⟨_,_,is⟩ := List.mem_map.mp added
          exact absurd (congrArg DeletedMessage.messageId is).symm same
        · exact old
      · exact Or.inr
  have missing : w.chat.message message.id = none := lookup_none_iff.mpr new
  have found : ∀ id, db.message id = (w.chat.message id).or
      (if message.id = id then some (Message.fromDomain message) else none) :=
    fun id => lookup_append ..
  change ChatWorld.messageRecords { w with chat := db } = _
  refine messageRecords_put ?_ fun other apart => ?_
  · rw [found, missing, Option.none_or, if_pos rfl, Option.map_some, ChatDatabase.record]
    have own : db.deletedUsers (Message.fromDomain message).id =
        message.deletedForUserIds.toFinset := (users message.id).trans (if_pos rfl)
    rw [own]
    rfl
  · rw [found, if_neg (Ne.symm apart), Option.or_none]
    cases there : w.chat.message other with
    | none => rfl
    | some row =>
      have old : db.deletedUsers row.id = w.chat.deletedUsers row.id := by
        rw [users, (lookup_mem there).2, if_neg apart]
      rw [Option.map_some, Option.map_some, ChatDatabase.record, old, ChatDatabase.record]

/-- A client id that is taken: nothing is written, and the message that has it is answered. -/
theorem run_saveMessage_taken {message : MessageEntity} {existing : Message} {key : JsString}
    (is : message.clientMessageId = some key) (unused : message.id ∉ w.chat.messages.map Message.id)
    (taken : lookup Message.clientKey (message.conversationId, message.senderId, some key)
      w.chat.messages = some existing) :
    (saveMessage message).run chatHandler w = (.ok (w.chat.loaded existing), w) := by
  obtain ⟨mem,same⟩ := lookup_mem taken
  have clash : w.chat.messages.any (fun m => m.id ≠ (Message.fromDomain message).id &&
      m.clientKey = (Message.fromDomain message).clientKey) = true := by
    refine List.any_eq_true.mpr ⟨existing,mem,?_⟩
    have other : existing.id ≠ (Message.fromDomain message).id :=
      fun same => unused (List.mem_map.mpr ⟨existing,mem,same⟩)
    have keys : existing.clientKey = (Message.fromDomain message).clientKey := by
      rw [same, ← is]
      rfl
    simp [other, keys]
  have refused : CreateMessageHandler.store message w.chat =
      (.error ⟨.uniqueViolation, "messages_sender_id_client_message_id_uniq"⟩, w.chat) := by
    have given : (Message.fromDomain message).clientMessageId.isSome = true :=
      Option.isSome_of_eq_some is
    rw [CreateMessageHandler.store, ChatDatabase.storeMessage, given, clash]
    rfl
  have insert : (insertMessage message).run chatHandler w =
      (.error (.database ⟨.uniqueViolation, "messages_sender_id_client_message_id_uniq"⟩), w) := by
    let commit : StoreRequest (Answer Unit) := .commitMessage (Message.fromDomain message)
      (message.deletedForUserIds.map fun userId => ⟨userId,message.id⟩)
      ((w.chat.membersOf message.conversationId).map message.updateMember)
    rw [insertMessage, run_read (fun _ => rfl), run_write_error w commit refused]
  rw [saveMessage, Program.run_catch_error _ _ insert]
  simp only [recoverExisting, is, getMessageByClientMessageId, Program.bind_assoc]
  rw [run_read (fun _ => rfl), taken]
  rfl

end Messages

section Conversations
variable {w : ChatWorld}

/-- A save breaks no constraint when its identifier and its seats are its own and its positions
    name stored messages. -/
theorem storeConversation_accepted {db : ChatDatabase} {conversation : Conversation}
    {members : List ConversationMember}
    (identifier : ∀ c ∈ db.conversations, conversation.identifier.isSome →
      c.identifier = conversation.identifier → c.id = conversation.id)
    (seats : ∀ m ∈ members, ∀ r ∈ db.members, r.seat = m.seat → r.id = m.id)
    (seen : ∀ m ∈ members, ∀ id ∈ m.lastSeenMessageId, (db.message id).isSome)
    (last : ∀ m ∈ members, ∀ id ∈ m.lastMessageId, (db.message id).isSome) :
    ∃ rows stored, db.storeConversation conversation members = (.ok rows, stored) := by
  have known : ∀ pointer : Option Uuid, (∀ id ∈ pointer, (db.message id).isSome) →
      (pointer.any fun id => (db.message id).isNone) = false := by
    intro pointer stored
    cases pointer with
    | none => rfl
    | some id =>
      rw [Option.any_some, Option.isNone_eq_false_iff]
      exact stored id rfl
  have named : (conversation.identifier.isSome && db.conversations.any fun c =>
      c.id ≠ conversation.id && c.identifier = conversation.identifier) = false := by
    rw [Bool.eq_false_iff]
    intro clash
    obtain ⟨given,other⟩ := Bool.and_eq_true_iff.mp clash
    obtain ⟨c,mem,differs⟩ := List.any_eq_true.mp other
    simp only [Bool.and_eq_true, decide_eq_true_eq] at differs
    exact differs.1 (identifier c mem given differs.2)
  have seated : (members.any fun m => db.members.any fun r => r.id ≠ m.id && r.seat = m.seat) =
      false := by
    rw [Bool.eq_false_iff]
    intro clash
    obtain ⟨m,mem,other⟩ := List.any_eq_true.mp clash
    obtain ⟨r,row,differs⟩ := List.any_eq_true.mp other
    simp only [Bool.and_eq_true, decide_eq_true_eq] at differs
    exact differs.1 (seats m mem r row differs.2)
  have seenKnown : (members.any fun m => m.lastSeenMessageId.any fun id =>
      (db.message id).isNone) = false :=
    List.any_eq_false.mpr fun m mem => by simp [known _ (seen m mem)]
  have lastKnown : (members.any fun m => m.lastMessageId.any fun id =>
      (db.message id).isNone) = false :=
    List.any_eq_false.mpr fun m mem => by simp [known _ (last m mem)]
  rw [ChatDatabase.storeConversation, named, seated, seenKnown, lastKnown]
  exact ⟨_,_,rfl⟩

/-- Saved rows in the place of others: the record of their id changes, and no other does. -/
theorem conversationRecords_put {db : ChatDatabase} {id : Uuid} {c : ConversationEntity}
    (own : db.getConversation id = some (Conversation.fromDomain c))
    (others : ∀ other, other ≠ id →
      db.getConversation other = w.chat.getConversation other) :
    ChatWorld.conversationRecords { w with chat := db } =
      Function.update w.conversationRecords id (some c.record) := by
  funext other
  rw [conversationRecords_eq]
  by_cases same : other = id
  · rw [same, Function.update_self]
    change (db.getConversation id).map _ = _
    rw [own, Option.map_some, Conversation.toDomain_fromDomain]
  · rw [Function.update_of_ne same, conversationRecords_eq]
    change (db.getConversation other).map _ = _
    rw [others other same]

theorem membersOf_withConversation {amb : Ambient} (db : ChatDatabase)
    (userId targetUserId id : Uuid) :
    (db.withConversation amb userId targetUserId).membersOf id = db.membersOf id ++
      if id = amb.uuid 0 then newMembers amb userId targetUserId else [] := by
  simp only [ChatDatabase.membersOf, ChatDatabase.liveMembers, ChatDatabase.withConversation,
    List.filter_append]
  unfold newMembers
  congr 1
  by_cases own : id = amb.uuid 0
  · split_ifs <;> simp [own]
  · have apart : amb.uuid 0 ≠ id := Ne.symm own
    split_ifs <;> simp [apart]

/-- What an opened conversation is saved as, loaded again. -/
theorem conversationRecords_opened {amb : Ambient} {userId targetUserId : Uuid}
    {opened : ConversationEntity} (unused : ChatDatabase.Unused amb w.chat)
    (homes : ∀ cm ∈ w.chat.members, cm.conversationId ∈ w.chat.conversations.map Conversation.id)
    (built : ConversationEntity.createDirect amb userId targetUserId = .ok opened) :
    ChatWorld.conversationRecords
        { w with chat := w.chat.withConversation amb userId targetUserId } =
      Function.update w.conversationRecords opened.id (some opened.record) := by
  rw [ConversationEntity.createDirect_eq] at built
  obtain rfl := Except.ok.inj built
  have found : ∀ id, (w.chat.withConversation amb userId targetUserId).getConversation id =
      ((lookup Conversation.id id w.chat.liveConversations).or (if amb.uuid 0 = id then
        some (newConversation amb) else none)).map
        fun c => (c, (w.chat.withConversation amb userId targetUserId).membersOf id) := by
    intro id
    have live : (w.chat.withConversation amb userId targetUserId).liveConversations =
        w.chat.liveConversations ++ [newConversation amb] := by
      simp [ChatDatabase.liveConversations, ChatDatabase.withConversation, List.filter_append]
    rw [ChatDatabase.getConversation, live, lookup_append]
  refine conversationRecords_put ?_ fun other apart => ?_
  · have missing : lookup Conversation.id (amb.uuid 0) w.chat.liveConversations = none :=
      lookup_none_iff.mpr fun c mem same =>
        unused.conversations 0 (List.mem_map.mpr ⟨c,List.mem_of_mem_filter mem,same⟩)
    have nobody : w.chat.membersOf (amb.uuid 0) = [] := by
      rw [List.eq_nil_iff_forall_not_mem]
      intro cm mem
      obtain ⟨stored,_,home⟩ := ChatDatabase.membersOf_iff.mp mem
      exact unused.conversations 0 (home ▸ homes cm stored)
    rw [found, missing, Option.none_or, if_pos rfl, Option.map_some, membersOf_withConversation,
      nobody, if_pos rfl, List.nil_append, fromDomain_direct]
  · have other' : amb.uuid 0 ≠ other := Ne.symm apart
    rw [found, if_neg other', Option.or_none, membersOf_withConversation, if_neg apart,
      List.append_nil]
    rfl

/-- What a marked conversation is saved as, loaded again. -/
theorem conversationRecords_marked {id userId messageId : Uuid}
    {rows : Conversation × List ConversationMember} {marked : ConversationEntity}
    {saved : Option (Conversation × List ConversationMember)} {stored : ChatDatabase}
    (conversations : Keyed Conversation.id w.chat.conversations)
    (members : Keyed ConversationMember.id w.chat.members)
    (found : w.chat.getConversation id = some rows)
    (marks : (Conversation.toDomain rows).markAsRead userId messageId = .ok marked)
    (stores : w.chat.storeConversation (Conversation.fromDomain marked).1
      (Conversation.fromDomain marked).2 = (.ok saved, stored)) :
    ChatWorld.conversationRecords { w with chat := stored } =
      Function.update w.conversationRecords id (some marked.record) := by
  obtain ⟨c,live,rfl⟩ := Option.map_eq_some_iff.mp found
  have stays : c ∈ w.chat.conversations := List.mem_of_mem_filter (lookup_mem live).1
  obtain ⟨_,is,_⟩ := w.chat.storeConversation_ok stores
  obtain ⟨member,_,⟨_,same⟩ | moved⟩ := markAsRead_ok marks
  · rw [same, save_same conversations stays,
      saveAll_same members fun cm mem => (ChatDatabase.membersOf_iff.mp mem).1] at is
    rw [is]
    refine conversationRecords_put ?_ fun _ _ => rfl
    rw [same]
    exact found
  · let change (cm : ConversationMember) : ConversationMember :=
      if cm.id = member.id then { cm with lastSeenMessageId := some messageId } else cm
    have frame : ∀ cm, (change cm).identity = cm.identity := by
      intro cm
      dsimp only [change]
      split <;> rfl
    have copies : (Conversation.fromDomain marked).2 = (w.chat.membersOf id).map change :=
      congrArg Prod.snd moved
    have saves : saveAll ConversationMember.id ((w.chat.membersOf id).map change) w.chat.members =
        amend (fun cm => cm ∈ w.chat.membersOf id) change w.chat.members :=
      saveAll_change members (keyed_filter (keyed_filter members _) _)
        (fun cm mem => (ChatDatabase.membersOf_iff.mp mem).1)
        (fun cm => congrArg Prod.fst (frame cm))
    rw [copies, congrArg Prod.fst moved, save_same conversations stays, saves] at is
    have seats : ∀ other, stored.membersOf other =
        amend (fun cm => cm ∈ w.chat.membersOf id) change (w.chat.membersOf other) := by
      intro other
      have gone : ∀ cm, (change cm).deletedAt = cm.deletedAt :=
        fun cm => congrArg (fun i => i.2.2.2) (frame cm)
      have home : ∀ cm, (change cm).conversationId = cm.conversationId :=
        fun cm => congrArg (fun i => i.2.2.1) (frame cm)
      rw [is, ChatDatabase.membersOf, ChatDatabase.liveMembers,
        filter_amend_frame (fun cm => by rw [gone]), filter_amend_frame fun cm => by rw [home]]
      rfl
    have loads : ∀ other, stored.getConversation other =
        (lookup Conversation.id other w.chat.liveConversations).map fun c =>
          (c, stored.membersOf other) := by
      intro other
      rw [is]
      rfl
    refine conversationRecords_put ?_ fun other apart => ?_
    · rw [loads, live, Option.map_some, moved, seats]
      have all : amend (fun cm => cm ∈ w.chat.membersOf id) change (w.chat.membersOf id) =
          (w.chat.membersOf id).map change :=
        List.map_congr_left fun cm mem => by simp [mem]
      rw [all]
    · rw [loads, seats, amend_same]
      · rfl
      · intro cm mem hit
        obtain ⟨_,_,here⟩ := ChatDatabase.membersOf_iff.mp mem
        obtain ⟨_,_,there⟩ := ChatDatabase.membersOf_iff.mp (of_decide_eq_true hit)
        exact absurd (here.symm.trans there) apart

end Conversations

/-- The constraints of the tables: primary and foreign keys, unique indexes, and strings that can
    be stored. -/
structure ChatDatabase.KeysHold (db : ChatDatabase) : Prop where
  conversations : Keyed Conversation.id db.conversations
  members : Keyed ConversationMember.id db.members
  homes : ∀ cm ∈ db.members, cm.conversationId ∈ db.conversations.map Conversation.id
  deletions : ∀ r ∈ db.deletedMessages, r.messageId ∈ db.messages.map Message.id
  identifiers : ∀ c ∈ db.conversations, ∀ c' ∈ db.conversations, c.identifier.isSome →
    c'.identifier = c.identifier → c'.id = c.id
  seats : ∀ cm ∈ db.members, ∀ cm' ∈ db.members, cm'.seat = cm.seat → cm'.id = cm.id
  seen : ∀ cm ∈ db.members, ∀ id ∈ cm.lastSeenMessageId, (db.message id).isSome
  last : ∀ cm ∈ db.members, ∀ id ∈ cm.lastMessageId, (db.message id).isSome
  titles : ∀ c ∈ db.conversations, ∀ s ∈ c.title, Storable s
  pictures : ∀ c ∈ db.conversations, ∀ s ∈ c.picture, Storable s

/-- The uuids of an operation are new, as ids and as identifiers. -/
structure ChatDatabase.New (amb : Ambient) (db : ChatDatabase) : Prop where
  unused : ChatDatabase.Unused amb db
  identifiers : ∀ c ∈ db.conversations, ∀ k, c.identifier ≠ some (amb.uuid k)

/-- The foreign keys of a new message, and of its deletions. -/
structure ChatDatabase.Accepts (db : ChatDatabase) (message : MessageEntity) : Prop where
  conversation : message.conversationId ∈ db.conversations.map Conversation.id
  sender : message.senderId ∈ db.members.map ConversationMember.id
  reply : ∀ id ∈ message.replyToMessageId, id ∈ db.messages.map Message.id
  users : message.deletedForUserIds.Nodup

section Saves
variable {w : ChatWorld} {amb : Ambient}

/-- A new conversation breaks no constraint. -/
theorem storeConversation_opened (keys : w.chat.KeysHold) (new : w.chat.New amb)
    (userId targetUserId : Uuid) :
    ∃ rows, w.chat.storeConversation (newConversation amb) (newMembers amb userId targetUserId) =
      (.ok rows, w.chat.withConversation amb userId targetUserId) := by
  have fresh : ∀ m ∈ newMembers amb userId targetUserId,
      m.conversationId = amb.uuid 0 ∧ m.lastSeenMessageId = none ∧ m.lastMessageId = none := by
    intro m mem
    rcases mem_newMembers mem with rfl | ⟨_,rfl⟩ <;> exact ⟨rfl,rfl,rfl⟩
  have accepted : ∃ rows stored, w.chat.storeConversation (newConversation amb)
      (newMembers amb userId targetUserId) = (.ok rows, stored) := by
    apply storeConversation_accepted
    · intro c mem _ same
      exact absurd same (new.identifiers c mem 1)
    · intro m mem r row same
      have home : r.conversationId = amb.uuid 0 :=
        (congrArg Prod.fst same).trans (fresh m mem).1
      exact absurd (home ▸ keys.homes r row) (new.unused.conversations 0)
    · intro m mem
      simp [(fresh m mem).2.1]
    · intro m mem
      simp [(fresh m mem).2.2]
  obtain ⟨rows,stored,stores⟩ := accepted
  rw [storeConversation_new new.unused stores] at stores
  exact ⟨rows,stores⟩

/-- Positions that have moved break no constraint when they name a stored message. -/
theorem storeConversation_marked (keys : w.chat.KeysHold) {id userId messageId : Uuid}
    {rows : Conversation × List ConversationMember} {marked : ConversationEntity}
    (found : w.chat.getConversation id = some rows)
    (marks : (Conversation.toDomain rows).markAsRead userId messageId = .ok marked)
    (stored : (w.chat.message messageId).isSome) :
    ∃ saved stored, w.chat.storeConversation (Conversation.fromDomain marked).1
      (Conversation.fromDomain marked).2 = (.ok saved, stored) := by
  obtain ⟨c,live,rfl⟩ := Option.map_eq_some_iff.mp found
  have known : c ∈ w.chat.conversations := List.mem_of_mem_filter (lookup_mem live).1
  have row : ∀ cm ∈ w.chat.membersOf id, cm ∈ w.chat.members :=
    fun cm mem => (ChatDatabase.membersOf_iff.mp mem).1
  obtain ⟨conversation,members⟩ := markAsRead_saved marks
  rw [conversation]
  apply storeConversation_accepted
  · exact fun c' mem => keys.identifiers c known c' mem
  · intro m mem r there same
    obtain ⟨cm,joined,rfl | rfl⟩ := members m mem
    · exact keys.seats m (row m joined) r there same
    · exact keys.seats cm (row cm joined) r there same
  · intro m mem pointer is
    obtain ⟨cm,joined,rfl | rfl⟩ := members m mem
    · exact keys.seen m (row m joined) pointer is
    · rwa [← Option.mem_some.mp is]
  · intro m mem pointer is
    obtain ⟨cm,joined,rfl | rfl⟩ := members m mem
    · exact keys.last m (row m joined) pointer is
    · exact keys.last cm (row cm joined) pointer is

end Saves

section Entities
variable {w : ChatWorld} {m : Message}

theorem edit_persisted {now : Time} {newText : JsString} {editorMemberId : Uuid}
    {edited : MessageEntity × List MessageEvent} (found : w.chat.message m.id = some m)
    (edits : (w.chat.loaded m).message.edit now newText editorMemberId = .ok edited)
    (storable : Storable newText) :
    ∃ result w', (updateMessage edited.1).run utf8Handler w = (.ok result, w') ∧
      w'.messageRecords = Function.update w.messageRecords m.id (some edited.1.record) := by
  have id : edited.1.id = m.id := (edit_id edits).trans (MessageEntity.loadDeletedForUserIds_id ..)
  have text : edited.1.text = newText := by
    obtain ⟨_,_,⟨same,rfl⟩ | ⟨_,rfl⟩⟩ := edit_ok edits
    · exact same
    · rfl
  rw [run_storable (storable_updateMessage (text ▸ storable))]
  apply run_updateMessage found id
  rw [← w.chat.record_loaded m]
  obtain ⟨_,_,⟨_,rfl⟩ | ⟨_,rfl⟩⟩ := edit_ok edits <;> rfl

theorem users_loaded (db : ChatDatabase) (m : Message) :
    (db.loaded m).message.deletedForUserIds.toFinset = db.deletedUsers m.id :=
  congrArg MessageRecord.deletedFor (db.record_loaded m)

theorem deleteForUser_persisted (now : Time) (userId : Uuid)
    (found : w.chat.message m.id = some m) :
    ∃ result w', (saveMessageDeletion ((w.chat.loaded m).message.deleteForUser now
        userId).1).run utf8Handler w = (.ok result, w') ∧
      w'.messageRecords = Function.update w.messageRecords m.id
        (some ((w.chat.loaded m).message.deleteForUser now userId).1.record) := by
  have id : (w.chat.loaded m).message.id = m.id := MessageEntity.loadDeletedForUserIds_id ..
  rw [run_storable (storable_saveMessageDeletion _)]
  apply run_saveMessageDeletion found
  · unfold MessageEntity.deleteForUser
    split_ifs <;> exact id
  · rw [← w.chat.record_loaded m]
    unfold MessageEntity.deleteForUser
    split_ifs <;> rfl
  · rw [← users_loaded]
    unfold MessageEntity.deleteForUser
    split_ifs
    · exact Finset.Subset.refl _
    · intro user mem
      rw [List.mem_toFinset] at mem ⊢
      exact List.mem_append_left _ mem

/-- A deletion for everyone sets the date and nothing else. -/
theorem deleteForEveryone_frame {e : MessageEntity} {now : Time}
    {requesterMemberId actorUserId : Uuid} {deleted : MessageEntity × List MessageEvent}
    (deletes : e.deleteForEveryone now requesterMemberId actorUserId = .ok deleted) :
    deleted.1.id = e.id ∧ deleted.1.deletedForUserIds = e.deletedForUserIds ∧
      deleted.1.record = { e.record with deletedAt := deleted.1.deletedAt } := by
  unfold MessageEntity.deleteForEveryone at deletes
  split_ifs at deletes <;> obtain rfl := Except.ok.inj deletes <;> exact ⟨rfl,rfl,rfl⟩

theorem deleteForEveryone_persisted {now : Time} {requesterMemberId actorUserId : Uuid}
    {deleted : MessageEntity × List MessageEvent} (found : w.chat.message m.id = some m)
    (deletes : (w.chat.loaded m).message.deleteForEveryone now requesterMemberId actorUserId =
      .ok deleted) :
    ∃ result w', (saveMessageDeletion deleted.1).run utf8Handler w = (.ok result, w') ∧
      w'.messageRecords = Function.update w.messageRecords m.id (some deleted.1.record) := by
  obtain ⟨id,users,frame⟩ := deleteForEveryone_frame deletes
  rw [run_storable (storable_saveMessageDeletion _)]
  apply run_saveMessageDeletion found (id.trans (MessageEntity.loadDeletedForUserIds_id ..))
  · rw [frame, users, users_loaded, w.chat.record_loaded m]
    rfl
  · rw [users, users_loaded]

end Entities

/-- The text and the client id are stored as they are. -/
structure MessageEntity.Storable (m : MessageEntity) : Prop where
  text : Chatterbox.Storable m.text
  key : ∀ key ∈ m.clientMessageId, Chatterbox.Storable key

/-- The stored message that has the client id of this one. -/
def ChatDatabase.holder (db : ChatDatabase) (m : MessageEntity) : Option Message :=
  m.clientMessageId.bind fun key =>
    lookup Message.clientKey (m.conversationId, m.senderId, some key) db.messages

section Inserts
variable {w : ChatWorld} {message : MessageEntity}

/-- A message whose client id is free breaks no constraint. -/
theorem store_accepted (accepts : w.chat.Accepts message) (free : w.chat.holder message = none) :
    ∃ stored, CreateMessageHandler.store message w.chat = (.ok (), stored) := by
  have clash : ((Message.fromDomain message).clientMessageId.isSome && w.chat.messages.any fun m =>
      m.id ≠ (Message.fromDomain message).id &&
        m.clientKey = (Message.fromDomain message).clientKey) = false := by
    rw [Bool.eq_false_iff]
    intro clash
    obtain ⟨given,other⟩ := Bool.and_eq_true_iff.mp clash
    obtain ⟨key,is⟩ := Option.isSome_iff_exists.mp given
    obtain ⟨m,mem,differs⟩ := List.any_eq_true.mp other
    simp only [Bool.and_eq_true, decide_eq_true_eq] at differs
    have given : message.clientMessageId = some key := is
    rw [ChatDatabase.holder, given] at free
    have keys : (Message.fromDomain message).clientKey =
        (message.conversationId, message.senderId, some key) := by
      rw [← given]
      rfl
    exact lookup_none_iff.mp free m mem (differs.2.trans keys)
  have rows : (message.deletedForUserIds.map fun userId =>
      (⟨userId,message.id⟩ : DeletedMessage)).Nodup :=
    accepts.users.map fun _ _ same => congrArg DeletedMessage.userId same
  rw [CreateMessageHandler.store, ChatDatabase.storeMessage, clash, if_neg Bool.false_ne_true,
    if_neg (not_not.mpr rows)]
  exact ⟨_,rfl⟩

theorem saveMessage_persisted (keys : w.chat.KeysHold)
    (unused : message.id ∉ w.chat.messages.map Message.id) (storable : message.Storable)
    (accepts : w.chat.Accepts message) (free : w.chat.holder message = none) :
    ∃ saved w', (saveMessage message).run utf8Handler w = (.ok saved, w') ∧
      w'.messageRecords = Function.update w.messageRecords message.id (some message.record) := by
  rw [run_storable (storable_saveMessage storable.text storable.key)]
  obtain ⟨stored,stores⟩ := store_accepted accepts free
  have run := CreateMessageHandler.run_saveMessage fun key given => by
    rw [ChatDatabase.holder, given] at free
    exact free
  rw [stores] at run
  exact ⟨_,_,run,messageRecords_store unused keys.deletions stores⟩

theorem saveMessage_holder (unused : message.id ∉ w.chat.messages.map Message.id)
    (storable : message.Storable) {existing : Message}
    (taken : w.chat.holder message = some existing) :
    (saveMessage message).run utf8Handler w = (.ok (w.chat.loaded existing), w) := by
  rw [run_storable (storable_saveMessage storable.text storable.key)]
  obtain ⟨key,is,held⟩ := Option.bind_eq_some_iff.mp taken
  exact run_saveMessage_taken is unused held

end Inserts

section Conversations
variable {w : ChatWorld} {amb : Ambient}

theorem createDirect_persisted (keys : w.chat.KeysHold) (new : w.chat.New amb)
    {userId targetUserId : Uuid} {opened : ConversationEntity}
    (built : ConversationEntity.createDirect amb userId targetUserId = .ok opened) :
    ∃ saved w', (saveConversation opened).run utf8Handler w = (.ok saved, w') ∧
      w'.conversationRecords = Function.update w.conversationRecords opened.id
        (some opened.record) ∧ w'.messageRecords = w.messageRecords := by
  obtain ⟨rows,stores⟩ := storeConversation_opened keys new userId targetUserId
  have direct := built
  rw [ConversationEntity.createDirect_eq] at direct
  have untitled : SendsStorable (saveConversation opened) := by
    rw [← Except.ok.inj direct]
    refine storable_saveConversation (fun s given => ?_) fun s given => ?_ <;> cases given
  rw [run_storable untitled]
  have run := run_saveConversation opened w
  rw [← Except.ok.inj direct, fromDomain_direct] at run
  dsimp only at run
  rw [stores, Except.ok.inj direct] at run
  exact ⟨_,_,run,conversationRecords_opened new.unused keys.homes built,messageRecords_same rfl rfl⟩

/-- A marked conversation keeps its title and its picture. -/
theorem storable_marked (keys : w.chat.KeysHold) {id userId messageId : Uuid}
    {rows : Conversation × List ConversationMember} {marked : ConversationEntity}
    (found : w.chat.getConversation id = some rows)
    (marks : (Conversation.toDomain rows).markAsRead userId messageId = .ok marked) :
    SendsStorable (saveConversation marked) := by
  obtain ⟨c,known,rfl⟩ := Option.map_eq_some_iff.mp found
  have stored : c ∈ w.chat.conversations := List.mem_of_mem_filter (lookup_mem known).1
  have same : (Conversation.fromDomain marked).1 = c := by
    obtain ⟨_,_,⟨_,is⟩ | is⟩ := markAsRead_ok marks <;> rw [is]
  have title : marked.title = c.title := congrArg Conversation.title same
  have picture : marked.picture = c.picture := congrArg Conversation.picture same
  exact storable_saveConversation (title ▸ keys.titles c stored) (picture ▸ keys.pictures c stored)

theorem markAsRead_persisted (keys : w.chat.KeysHold) {id userId messageId : Uuid}
    {rows : Conversation × List ConversationMember} {marked : ConversationEntity}
    (found : w.chat.getConversation id = some rows)
    (marks : (Conversation.toDomain rows).markAsRead userId messageId = .ok marked)
    (known : (w.chat.message messageId).isSome) :
    ∃ saved w', (saveConversation marked).run utf8Handler w = (.ok saved, w') ∧
      w'.conversationRecords = Function.update w.conversationRecords id (some marked.record) ∧
      w'.messageRecords = w.messageRecords := by
  rw [run_storable (storable_marked keys found marks)]
  obtain ⟨saved,stored,stores⟩ := storeConversation_marked keys found marks known
  have run := run_saveConversation marked w
  rw [stores] at run
  refine ⟨_,_,run,conversationRecords_marked keys.conversations keys.members found marks stores,?_⟩
  obtain ⟨_,rfl,_⟩ := w.chat.storeConversation_ok stores
  exact messageRecords_same rfl rfl

/-- The foreign key of the position refuses an unknown message. -/
theorem markAsRead_refused (keys : w.chat.KeysHold) {id userId messageId : Uuid}
    {rows : Conversation × List ConversationMember} {marked : ConversationEntity}
    (found : w.chat.getConversation id = some rows)
    (marks : (Conversation.toDomain rows).markAsRead userId messageId = .ok marked)
    (unknown : w.chat.message messageId = none) :
    ∃ e, (saveConversation marked).run utf8Handler w = (.error e, w) := by
  rw [run_storable (storable_marked keys found marks)]
  have seen : ∃ cm ∈ (Conversation.fromDomain marked).2, cm.lastSeenMessageId = some messageId := by
    obtain ⟨member,first,⟨already,same⟩ | moved⟩ := markAsRead_ok marks
    · rw [same]
      exact ⟨member,List.mem_of_find?_eq_some first,already⟩
    · rw [moved]
      exact ⟨_,List.mem_map_of_mem (List.mem_of_find?_eq_some first),by simp⟩
  obtain ⟨cm,mem,position⟩ := seen
  have run := run_saveConversation marked w
  cases stores : w.chat.storeConversation (Conversation.fromDomain marked).1
      (Conversation.fromDomain marked).2 with
  | mk answered stored =>
    rw [stores] at run
    cases answered with
    | error e => exact ⟨_,run⟩
    | ok saved =>
      have demanded := w.chat.storeConversation_seen stores cm mem messageId position
      rw [unknown] at demanded
      cases demanded

end Conversations

/-- Persisting puts what a method has made of an entity in the place of its id, and touches
    no other, for strings that can be stored. A new message whose client id is taken is not stored:
    the message that has it is answered. Nor is a position at a message that is not stored. -/
theorem repository_refines {w : ChatWorld} (keys : w.chat.KeysHold) :
    (∀ id loaded, (getMessageById id).run utf8Handler w = (.ok (some loaded), w) →
      (∀ now newText editorMemberId edited,
        loaded.message.edit now newText editorMemberId = .ok edited → Storable newText →
        ∃ saved w', (updateMessage edited.1).run utf8Handler w = (.ok saved, w') ∧
          w'.messageRecords = Function.update w.messageRecords id (some edited.1.record)) ∧
      (∀ now userId deleted, loaded.message.deleteForUser now userId = deleted →
        ∃ saved w', (saveMessageDeletion deleted.1).run utf8Handler w = (.ok saved, w') ∧
          w'.messageRecords = Function.update w.messageRecords id (some deleted.1.record)) ∧
      (∀ now requesterMemberId actorUserId deleted,
        loaded.message.deleteForEveryone now requesterMemberId actorUserId = .ok deleted →
        ∃ saved w', (saveMessageDeletion deleted.1).run utf8Handler w = (.ok saved, w') ∧
          w'.messageRecords = Function.update w.messageRecords id (some deleted.1.record))) ∧
    (∀ amb, w.chat.New amb →
      (∀ text type senderId conversationId deletedForUserIds replyToMessageId clientMessageId
          created, MessageEntity.create amb text type senderId conversationId deletedForUserIds
            replyToMessageId clientMessageId = .ok created → created.1.Storable →
        (w.chat.Accepts created.1 → w.chat.holder created.1 = none →
          ∃ saved w', (saveMessage created.1).run utf8Handler w = (.ok saved, w') ∧
            w'.messageRecords = Function.update w.messageRecords created.1.id
              (some created.1.record)) ∧
        (∀ existing, w.chat.holder created.1 = some existing →
          (saveMessage created.1).run utf8Handler w = (.ok (w.chat.loaded existing), w))) ∧
      (∀ userId targetUserId opened,
        ConversationEntity.createDirect amb userId targetUserId = .ok opened →
        ∃ saved w', (saveConversation opened).run utf8Handler w = (.ok saved, w') ∧
          w'.conversationRecords = Function.update w.conversationRecords opened.id
            (some opened.record) ∧ w'.messageRecords = w.messageRecords)) ∧
    (∀ id conversation, (getConversationById id).run utf8Handler w = (.ok (some conversation), w) →
      ∀ userId messageId marked, conversation.markAsRead userId messageId = .ok marked →
        ((w.messageRecords messageId).isSome →
          ∃ saved w', (saveConversation marked).run utf8Handler w = (.ok saved, w') ∧
            w'.conversationRecords = Function.update w.conversationRecords id
              (some marked.record) ∧ w'.messageRecords = w.messageRecords) ∧
        (w.messageRecords messageId = none →
          ∃ e, (saveConversation marked).run utf8Handler w = (.error e, w))) := by
  refine ⟨fun id loaded read => ?_,fun amb new => ⟨?_,?_⟩,?_⟩
  · have loads := run_getMessageById id w
    rw [run_storable (storable_getMessageById id)] at read
    rw [read] at loads
    obtain ⟨m,found,rfl⟩ := Option.map_eq_some_iff.mp (Except.ok.inj (Prod.mk.inj loads).1).symm
    obtain rfl := (lookup_mem found).2
    refine ⟨fun now newText editorMemberId edited edits storable =>
      edit_persisted found edits storable,?_,?_⟩
    · rintro now userId _ rfl
      exact deleteForUser_persisted now userId found
    · exact fun now requesterMemberId actorUserId deleted deletes =>
        deleteForEveryone_persisted found deletes
  · intro text type senderId conversationId deletedForUserIds replyToMessageId clientMessageId
      created factory storable
    have unused : created.1.id ∉ w.chat.messages.map Message.id := by
      obtain ⟨_,_,_,rfl⟩ := MessageEntity.create_ok factory
      exact new.unused.messages 0
    exact ⟨fun accepts free => saveMessage_persisted keys unused storable accepts free,
      fun existing => saveMessage_holder unused storable⟩
  · intro userId targetUserId opened built
    exact createDirect_persisted keys new built
  · intro id conversation read userId messageId marked marks
    rw [run_storable (storable_getConversationById id), getConversationById,
      run_read (fun _ => rfl)] at read
    obtain ⟨rows,found,rfl⟩ :=
      Option.map_eq_some_iff.mp (Except.ok.inj (Prod.mk.inj read).1)
    rw [messageRecords_eq, Option.isSome_map, Option.map_eq_none_iff]
    exact ⟨markAsRead_persisted keys found marks,markAsRead_refused keys found marks⟩

/-- The stored message of `sentWorld`, as it is loaded. -/
def sentMessage : MessageEntity :=
  { id := 200, createdAt := 1000, updatedAt := 1000, text := [104, 105], type := .text,
    senderId := 101, conversationId := 100, deletedForUserIds := [], deletedAt := none,
    editedAt := none, replyToMessageId := none, clientMessageId := none }

theorem repository_refines_sent :
    ∃ saved w', (updateMessage { sentMessage with
        text := [121, 111], editedAt := some 2000, updatedAt := 2000 }).run utf8Handler
          sentWorld = (.ok saved, w') ∧
      w'.messageRecords = Function.update sentWorld.messageRecords 200
        (some { sentMessage.record with text := [121, 111], editedAt := some 2000 }) := by
  have keys : sentWorld.chat.KeysHold := ⟨by decide,by decide,by decide,by decide,by decide,
    by decide,by decide,by decide,by decide,by decide⟩
  exact ((repository_refines keys).1 200 ⟨sentMessage,none⟩ rfl).1 2000 [121, 111] 101 _ rfl
    (by decide)

/-- `sentWorld` with a client id on its message. -/
def keyedWorld : ChatWorld :=
  { sentWorld with chat := { sentWorld.chat with
      messages := [⟨200,[104, 105],.text,101,100,1000,1000,none,none,none,some [107]⟩] } }

/-- A new message with the client id of a stored one is answered, and cannot be loaded. An edit to
    a text with U+0000 is refused by the table, and one to half of a surrogate pair loads as
    something else. A position at an unknown message is taken by the conversation in memory and
    refused by the table. -/
theorem new_message_not_stored :
    keyedWorld.chat.KeysHold ∧ keyedWorld.chat.New (numberedDraws 3) ∧
      (∃ created saved w', MessageEntity.create (numberedDraws 3) [104, 105] .text 101 100 [] none
          (some [107]) = .ok created ∧
        (saveMessage created.1).run utf8Handler keyedWorld = (.ok saved, w') ∧
        w'.messageRecords created.1.id ≠ some created.1.record) ∧
      (∃ loaded, (getMessageById 200).run utf8Handler keyedWorld = (.ok (some loaded), keyedWorld) ∧
        (∃ edited e, loaded.message.edit 2000 [0] 101 = .ok edited ∧
          (updateMessage edited.1).run utf8Handler keyedWorld = (.error e, keyedWorld)) ∧
        ∃ edited saved w', loaded.message.edit 2000 [0xD83D] 101 = .ok edited ∧
          (updateMessage edited.1).run utf8Handler keyedWorld = (.ok saved, w') ∧
          w'.messageRecords 200 ≠ some edited.1.record) ∧
      ∃ conversation marked e,
        (getConversationById 100).run utf8Handler keyedWorld =
          (.ok (some conversation), keyedWorld) ∧
        conversation.markAsRead 1 999 = .ok marked ∧
        (saveConversation marked).run utf8Handler keyedWorld = (.error e, keyedWorld) := by
  have keys : keyedWorld.chat.KeysHold := ⟨by decide,by decide,by decide,by decide,by decide,
    by decide,by decide,by decide,by decide,by decide⟩
  have unused : ChatDatabase.Unused (numberedDraws 3) keyedWorld.chat :=
    unused_numberedDraws (by decide) (by decide) (by decide)
  have unnamed : ∀ c ∈ keyedWorld.chat.conversations, c.identifier = none := by decide
  have new : keyedWorld.chat.New (numberedDraws 3) :=
    ⟨unused,fun c mem k is => by simp [unnamed c mem] at is⟩
  have none : keyedWorld.messageRecords 300 = none := rfl
  refine ⟨keys,new,⟨_,_,keyedWorld,rfl,rfl,?_⟩,
    ⟨_,rfl,⟨_,_,rfl,rfl⟩,_,_,_,rfl,rfl,by decide⟩,_,_,_,rfl,rfl,rfl⟩
  change keyedWorld.messageRecords 300 ≠ _
  rw [none]
  exact (Option.some_ne_none _).symm

end Chatterbox
