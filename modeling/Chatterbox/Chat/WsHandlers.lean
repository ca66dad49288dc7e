import Chatterbox.Chat.Gateway

/-!
The event handlers that turn domain events into WebSocket events. They run after the
operation that published the events and load the conversation again; what they throw they
catch themselves.
-/
namespace Chatterbox
open Concurrency ConversationPostgresRepository ChatUserIntegrationAdapter

namespace MessageCreatedWsEventHandler

/-- The conversation, the user of the sending member, and the conversation as that user
    sees it. -/
def resolve (event : MessageCreatedDomainEvent) :
    ChatProgram (ConversationEntity × Uuid × ConversationReadDto) := do
  let conversation ← getConversationById event.conversationId
  match conversation with
  | none => throw (.error "Cannot read properties of null")
  | some convEntity =>
    match convEntity.members.find? (fun m => m.id = event.senderId) with
    | none => throw (.error "Sender member not found")
    | some senderMember => do
      let conversationDto ← GetUserConversationHandler.execute event.conversationId
        senderMember.userId
      return (convEntity, senderMember.userId, conversationDto)

def loadPreview (convEntity : ConversationEntity) (currentUser targetUser : ChatUser)
    (replyToMessageId : Uuid) : ChatProgram (Option (ReplyTo WsUser)) := do
  let parentMsg ← getMessageById replyToMessageId
  match parentMsg with
  | none => return none
  | some parentMsg => do
    let parentUserId := (convEntity.members.find? fun m =>
      m.id = parentMsg.message.senderId).map ConversationMemberEntity.userId
    let parentUser ← resolveParentUser currentUser targetUser parentUserId
    return some (replyPreview parentMsg.message parentUserId (parentUser.map ChatUser.toWsUser))

/-- The preview of the quoted message; without it when it cannot be resolved. -/
def replyTo (convEntity : ConversationEntity) (currentUser targetUser : ChatUser)
    (event : MessageCreatedDomainEvent) : ChatProgram (Option (ReplyTo WsUser)) :=
  match event.replyToMessageId with
  | none => pure none
  | some replyToMessageId =>
      tryCatchThe Failure (loadPreview convEntity currentUser targetUser replyToMessageId)
        fun _ => pure none

def rooms (event : MessageCreatedDomainEvent) (currentUser targetUser : ChatUser) : List Uuid :=
  (if targetUser.id ∈ event.deletedForUserIds then [] else [targetUser.id]) ++ [currentUser.id]

def payload (event : MessageCreatedDomainEvent) (currentUser : ChatUser)
    (conversationDto : ConversationReadDto) (replyTo : Option (ReplyTo WsUser)) :
    UserMessageCreated :=
  { id := event.messageId, seen := false, createdAt := event.createdAt,
    user := currentUser.toWsUser, content := event.text,
    conversation := { id := conversationDto.id, name := currentUser.fullName,
                      avatar := currentUser.avatar, username := currentUser.username },
    replyToMessageId := event.replyToMessageId, replyTo,
    clientMessageId := event.clientMessageId }

def announce (event : MessageCreatedDomainEvent) (convEntity : ConversationEntity)
    (senderUserId targetUserId : Uuid) (conversationDto : ConversationReadDto) :
    ChatProgram Unit := do
  let currentUser ← getUserById senderUserId
  let targetUser ← getUserById targetUserId
  let preview ← replyTo convEntity currentUser targetUser event
  broadcast (rooms event currentUser targetUser)
    (.messageSent (payload event currentUser conversationDto preview))

def handle (event : MessageCreatedDomainEvent) : ChatProgram Unit := do
  let resolved ← tryCatchThe Failure (some <$> resolve event) fun _ => pure none
  match resolved with
  | none => pure ()
  | some (convEntity, senderUserId, conversationDto) =>
    match conversationDto.members.find? (fun member => member.userId ≠ senderUserId) with
    | none => pure ()
    | some targetMember =>
      tryCatchThe Failure
        (announce event convEntity senderUserId targetMember.userId conversationDto)
        fun _ => pure ()

end MessageCreatedWsEventHandler

/-- The rooms of the members who have not deleted the message. -/
def memberRooms (convEntity : ConversationEntity) (deletedForUserIds : List Uuid) : List Uuid :=
  (convEntity.members.filter fun m => m.userId ∉ deletedForUserIds).map
    ConversationMemberEntity.userId

def MessageEditedWsEventHandler.handle (event : MessageEditedDomainEvent) : ChatProgram Unit := do
  let conversation ← tryCatchThe Failure (getConversationById event.conversationId)
    fun _ => pure none
  match conversation with
  | none => pure ()
  | some convEntity =>
      broadcast (memberRooms convEntity event.deletedForUserIds)
        (.messageEdited { id := event.messageId, conversationId := event.conversationId,
                          content := event.text, editedAt := event.editedAt })

def deletedEvent (event : MessageDeletedDomainEvent) : WsEvent :=
  .messageDeleted { id := event.messageId, conversationId := event.conversationId,
                    scope := event.scope, deletedAt := event.deletedAt }

def MessageDeletedWsEventHandler.handle (event : MessageDeletedDomainEvent) :
    ChatProgram Unit :=
  match event.scope with
  | .me => broadcast [event.actorUserId] (deletedEvent event)
  | .everyone => do
      let conversation ← tryCatchThe Failure (getConversationById event.conversationId)
        fun _ => pure none
      match conversation with
      | none => pure ()
      | some convEntity =>
          broadcast (memberRooms convEntity event.deletedForUserIds) (deletedEvent event)

def MessageEvent.handle : MessageEvent → ChatProgram Unit
  | .created event => MessageCreatedWsEventHandler.handle event
  | .edited event => MessageEditedWsEventHandler.handle event
  | .deleted event => MessageDeletedWsEventHandler.handle event

/-- The chat module listens to blocks and unblocks of the user module only. -/
def UserEvent.handle : UserEvent → ChatProgram Unit
  | .userBlocked blockerId blockedId =>
      broadcast [blockedId, blockerId] (.userBlocked blockerId blockedId)
  | .userUnblocked unblockerId unblockedId =>
      broadcast [unblockedId, unblockerId] (.userUnblocked unblockerId unblockedId)
  | .userCreated _ _ _ => pure ()

end Chatterbox
