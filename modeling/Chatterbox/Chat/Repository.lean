import Chatterbox.Chat.World

/-!
The repository behind the chat commands. Its transactions read before they commit: a send
reads the members it will update, a deletion reads the members that point at the message
and, for each of them, the message that takes its place.
-/
namespace Chatterbox
open Concurrency

namespace ConversationMember

def fromDomain (e : ConversationMemberEntity) : ConversationMember :=
  { id := e.id, userId := e.userId, conversationId := e.conversationId,
    lastSeenMessageId := e.lastSeenMessageId, lastMessageId := e.lastMessageId,
    createdAt := e.createdAt, deletedAt := e.deletedAt }

def toDomain (r : ConversationMember) : ConversationMemberEntity :=
  { id := r.id, createdAt := r.createdAt, userId := r.userId, conversationId := r.conversationId,
    lastSeenMessageId := r.lastSeenMessageId, lastMessageId := r.lastMessageId,
    deletedAt := r.deletedAt }

@[simp] theorem fromDomain_toDomain (r : ConversationMember) : fromDomain (toDomain r) = r := rfl

@[simp] theorem toDomain_fromDomain (e : ConversationMemberEntity) :
    toDomain (fromDomain e) = e := rfl

end ConversationMember

namespace Conversation

def fromDomain (e : ConversationEntity) : Conversation × List ConversationMember :=
  ({ id := e.id, type := e.type, title := e.title, picture := e.picture,
     identifier := e.identifier, createdAt := e.createdAt, deletedAt := e.deletedAt },
   e.members.map ConversationMember.fromDomain)

def toDomain (r : Conversation × List ConversationMember) : ConversationEntity :=
  { id := r.1.id, createdAt := r.1.createdAt, type := r.1.type, title := r.1.title,
    picture := r.1.picture, identifier := r.1.identifier, deletedAt := r.1.deletedAt,
    members := r.2.map ConversationMember.toDomain }

theorem toDomain_fromDomain (e : ConversationEntity) : toDomain (fromDomain e) = e := by
  simp [toDomain, fromDomain, Function.comp_def]

end Conversation

namespace Message

def fromDomain (e : MessageEntity) : Message :=
  { id := e.id, text := e.text, type := e.type, senderId := e.senderId,
    conversationId := e.conversationId, createdAt := e.createdAt, updatedAt := e.updatedAt,
    editedAt := e.editedAt, deletedAt := e.deletedAt, replyToMessageId := e.replyToMessageId,
    clientMessageId := e.clientMessageId }

/-- The repository fills in `deletedForUserIds` separately. -/
def toDomain (r : Message) : MessageEntity :=
  { id := r.id, createdAt := r.createdAt, updatedAt := r.updatedAt, text := r.text,
    type := r.type, senderId := r.senderId, conversationId := r.conversationId,
    deletedForUserIds := [], deletedAt := r.deletedAt, editedAt := r.editedAt,
    replyToMessageId := r.replyToMessageId, clientMessageId := r.clientMessageId }

end Message

namespace MessageEntity

/-- Loading deletions changes nothing else. -/
theorem loadDeletedForUserIds_eq (m : MessageEntity) (userIds : List Uuid) :
    m.loadDeletedForUserIds userIds =
      { m with deletedForUserIds := (m.loadDeletedForUserIds userIds).deletedForUserIds } := by
  induction userIds generalizing m with
  | nil => rfl
  | cons userId rest ih =>
    have tail := ih (m.loadDeletedForUserId userId)
    change (m.loadDeletedForUserId userId).loadDeletedForUserIds rest = { m with
      deletedForUserIds :=
        ((m.loadDeletedForUserId userId).loadDeletedForUserIds rest).deletedForUserIds }
    rw [tail]
    unfold loadDeletedForUserId
    split <;> rfl

section Fields
variable (m : MessageEntity) (userIds : List Uuid)

@[simp] theorem loadDeletedForUserIds_id : (m.loadDeletedForUserIds userIds).id = m.id := by
  rw [loadDeletedForUserIds_eq]

@[simp] theorem loadDeletedForUserIds_text : (m.loadDeletedForUserIds userIds).text = m.text := by
  rw [loadDeletedForUserIds_eq]

@[simp] theorem loadDeletedForUserIds_senderId :
    (m.loadDeletedForUserIds userIds).senderId = m.senderId := by
  rw [loadDeletedForUserIds_eq]

@[simp] theorem loadDeletedForUserIds_conversationId :
    (m.loadDeletedForUserIds userIds).conversationId = m.conversationId := by
  rw [loadDeletedForUserIds_eq]

@[simp] theorem loadDeletedForUserIds_deletedAt :
    (m.loadDeletedForUserIds userIds).deletedAt = m.deletedAt := by
  rw [loadDeletedForUserIds_eq]

end Fields

theorem mem_loadDeletedForUserIds {m : MessageEntity} {userIds : List Uuid} {u : Uuid} :
    u ∈ (m.loadDeletedForUserIds userIds).deletedForUserIds ↔
      u ∈ m.deletedForUserIds ∨ u ∈ userIds := by
  induction userIds generalizing m with
  | nil => simp [loadDeletedForUserIds]
  | cons userId rest ih =>
    have head : u ∈ (m.loadDeletedForUserId userId).deletedForUserIds ↔
        u ∈ m.deletedForUserIds ∨ u = userId := by
      unfold loadDeletedForUserId
      split
      · constructor
        · exact Or.inl
        · rintro (mem | rfl) <;> assumption
      · simp
    change u ∈ ((m.loadDeletedForUserId userId).loadDeletedForUserIds rest).deletedForUserIds ↔ _
    rw [ih, head, List.mem_cons, or_assoc]

end MessageEntity

def LoadedMessage.ofRows (message : Message) (reply : Option Message)
    (deletedMessages : List DeletedMessage) : LoadedMessage :=
  ⟨(Message.toDomain message).loadDeletedForUserIds (deletedMessages.map DeletedMessage.userId),
    reply.map Message.toDomain⟩

/-- The member row after a send: who has not deleted the message points at it, and the
    sender has seen it. -/
def MessageEntity.updateMember (message : MessageEntity) (cm : ConversationMember) :
    ConversationMember :=
  { cm with
    lastMessageId :=
      if cm.userId ∈ message.deletedForUserIds then cm.lastMessageId else some message.id
    lastSeenMessageId :=
      if cm.id = message.senderId then some message.id else cm.lastSeenMessageId }

def MessageEntity.deletion (message : MessageEntity) : MessageDeletion :=
  { messageId := message.id, conversationId := message.conversationId,
    deletedForUserIds := message.deletedForUserIds, deletedAt := message.deletedAt,
    updatedAt := message.updatedAt }

namespace ConversationPostgresRepository

def getConversationById (id : Uuid) : ChatProgram (Option ConversationEntity) := do
  let conversation ← query (.getConversation id)
  return conversation.map Conversation.toDomain

def saveConversation (conversation : ConversationEntity) :
    ChatProgram (Option ConversationEntity) := do
  let stored ← query (.commitConversation (Conversation.fromDomain conversation).1
    (Conversation.fromDomain conversation).2)
  return stored.map Conversation.toDomain

/-- The second statement of both message reads: who has deleted the message. -/
def loadDeletions : Option (Message × Option Message) → ChatProgram (Option LoadedMessage)
  | none => pure none
  | some (message, reply) => do
      let deletedMessages ← query (.getDeletedMessages message.id)
      return some (LoadedMessage.ofRows message reply deletedMessages)

def getMessageByClientMessageId (conversationId senderId : Uuid) (clientMessageId : JsString) :
    ChatProgram (Option LoadedMessage) :=
  query (.getMessageByKey conversationId senderId clientMessageId) >>= loadDeletions

def getMessageById (id : Uuid) : ChatProgram (Option LoadedMessage) :=
  query (.getMessage id) >>= loadDeletions

/-- The transaction of `saveMessage`. -/
def insertMessage (message : MessageEntity) : ChatProgram LoadedMessage := do
  let members ← query (.getMembers message.conversationId)
  query (.commitMessage (Message.fromDomain message)
    (message.deletedForUserIds.map fun userId => ⟨userId,message.id⟩)
    (members.map message.updateMember))
  return ⟨(Message.toDomain (Message.fromDomain message)).loadDeletedForUserIds
    message.deletedForUserIds,none⟩

/-- After a unique violation: the message that holds the client key already. -/
def recoverExisting (message : MessageEntity) (error : Failure) : ChatProgram LoadedMessage :=
  match message.clientMessageId, error with
  | some clientMessageId, .database ⟨.uniqueViolation,_⟩ => do
      let existing ← getMessageByClientMessageId message.conversationId message.senderId
        clientMessageId
      match existing with
      | some existing => return existing
      | none => throw error
  | _, _ => throw error

def saveMessage (message : MessageEntity) : ChatProgram LoadedMessage :=
  tryCatchThe Failure (insertMessage message) (recoverExisting message)

def updateMessage (message : MessageEntity) : ChatProgram (Option LoadedMessage) := do
  query (.updateMessage message.id message.text message.editedAt message.updatedAt)
  getMessageById message.id

/-- The loop over the members that point at the deleted message. -/
def movePointers (deletion : MessageDeletion) :
    List ConversationMember → ChatProgram (List ConversationMember)
  | [] => pure []
  | cm :: rest => do
      let latestMessage ← query (.getLatestMessage deletion cm.userId)
      let moved ← movePointers deletion rest
      return { cm with lastMessageId := latestMessage.map Message.id } :: moved

def saveMessageDeletion (message : MessageEntity) : ChatProgram (Option LoadedMessage) := do
  let members ← query (.getMembersAt message.conversationId message.id)
  let moved ← movePointers message.deletion members
  query (.commitDeletion message.deletion moved)
  getMessageById message.id

def deleteConversation (now : Time) (id : Uuid) : ChatProgram Bool :=
  query (.deleteConversation id now)

end ConversationPostgresRepository

section Flat
variable {α : Type}

theorem loadDeletions_bind (rows : Option (Message × Option Message))
    (f : Option LoadedMessage → ChatProgram α) :
    ConversationPostgresRepository.loadDeletions rows >>= f = match rows with
      | none => f none
      | some (message, reply) => query (.getDeletedMessages message.id) >>= fun deleted =>
          f (some (.ofRows message reply deleted)) := by
  cases rows with
  | none => rfl
  | some rows =>
    simp only [ConversationPostgresRepository.loadDeletions, Program.bind_assoc]
    rfl

theorem getMessageById_bind (id : Uuid) (f : Option LoadedMessage → ChatProgram α) :
    ConversationPostgresRepository.getMessageById id >>= f =
      query (.getMessage id) >>= fun rows =>
        ConversationPostgresRepository.loadDeletions rows >>= f := by
  rw [ConversationPostgresRepository.getMessageById, Program.bind_assoc]

end Flat

def ConversationPostgresReadRepository.conversationExists (userId targetUserId : Uuid) :
    ChatProgram Bool :=
  query (.conversationExists userId targetUserId)

end Chatterbox
