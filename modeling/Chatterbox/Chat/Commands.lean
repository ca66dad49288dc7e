import Chatterbox.Chat.Repository
import Chatterbox.User.Blocks

/-!
The commands of the chat module. Every command on a message starts from the live
conversation and the member row of its user, loads the message, changes the loaded
entity, saves it, and publishes what the entity has recorded.
-/
namespace Chatterbox
open Concurrency

structure ChatUser where
  id : Uuid
  username : JsString
  firstName : Option JsString
  lastName : Option JsString
  avatar : Option JsString
  deriving DecidableEq, Repr

/-- A query of the user module, over the bus. -/
def askUserModule {α : Type} (p : UserProgram α) : ChatProgram α := p.translate .user id

namespace ChatUserIntegrationAdapter

def toChatUser (res : UserReadDto) : ChatUser :=
  { id := res.id, username := res.username, firstName := res.firstName,
    lastName := res.lastName, avatar := res.avatar }

def getUserById (userId : Uuid) : ChatProgram ChatUser := do
  let res ← askUserModule (GetUserByIdHandler.execute userId)
  return toChatUser res

def isUserNotFound : Failure → Bool
  | .domain e => e.code = "USER_NOT_FOUND"
  | _ => false

def doesUserExist (userId : Uuid) : ChatProgram Bool :=
  tryCatchThe Failure ((fun _ => true) <$> askUserModule (GetUserByIdHandler.execute userId))
    fun e => if isUserNotFound e then pure false else throw e

def getBlockStatus (userId targetUserId : Uuid) : ChatProgram GetBlockStatusResponse :=
  askUserModule (GetBlockStatusHandler.execute ⟨userId,targetUserId⟩)

def hasBlockRelation (userA userB : Uuid) : ChatProgram Bool := do
  let res ← getBlockStatus userA userB
  return res.isBlocked || res.isBlocker

end ChatUserIntegrationAdapter

open ConversationPostgresRepository ChatUserIntegrationAdapter

structure CreateDirectConversationCommand where
  userId : Uuid
  targetUserId : Uuid

namespace CreateDirectConversationHandler

def create (amb : Ambient) (command : CreateDirectConversationCommand) :
    ChatProgram ConversationEntity := do
  let conversation ← ConversationEntity.createDirect amb command.userId command.targetUserId
  let saved ← saveConversation conversation
  match saved with
  | some saved => return saved
  | none => throw (.error "Cannot read properties of null")

def execute (amb : Ambient) (command : CreateDirectConversationCommand) :
    ChatProgram ConversationEntity := do
  let userExists ← doesUserExist command.targetUserId
  if !userExists then throw (targetUserNotFoundException none)
  else do
    let isBlocked ← hasBlockRelation command.userId command.targetUserId
    if isBlocked then throw (blockedUserException none)
    else do
      let exists' ← ConversationPostgresReadRepository.conversationExists command.userId
        command.targetUserId
      if exists' then throw (conversationAlreadyExistsException none)
      else create amb command

end CreateDirectConversationHandler

def requireConversation (conversationId : Uuid) : ChatProgram ConversationEntity := do
  let conversation ← getConversationById conversationId
  match conversation with
  | some conversation => return conversation
  | none => throw (conversationNotFoundException none)

def requireMember (conversationId userId : Uuid) : ChatProgram ConversationMemberEntity := do
  let conversation ← requireConversation conversationId
  match conversation.members.find? (fun m => m.userId = userId) with
  | some member => return member
  | none => throw (notMessageOwnerException "User is not a member of the conversation")

def requireMessage (conversationId messageId : Uuid) : ChatProgram LoadedMessage := do
  let loaded ← getMessageById messageId
  match loaded with
  | none => throw (messageNotFoundException none)
  | some loaded =>
      if loaded.message.conversationId ≠ conversationId then throw (messageNotFoundException none)
      else return loaded

/-- The handlers read the id of the saved message for their log line. -/
def requireSaved : Option LoadedMessage → ChatProgram LoadedMessage
  | some saved => pure saved
  | none => throw (.error "Cannot read properties of null")

structure CreateMessageCommand where
  text : JsString
  type : MessageType
  senderId : Uuid
  conversationId : Uuid
  deletedForUserIds : List Uuid
  replyToMessageId : Option Uuid
  clientMessageId : Option JsString
  deriving DecidableEq, Repr

namespace CreateMessageHandler

/-- A message that an earlier request has stored under the same key. -/
def findExisting (command : CreateMessageCommand) (member : ConversationMemberEntity) :
    ChatProgram (Option LoadedMessage) :=
  match command.clientMessageId.filter (· ≠ []) with
  | some clientMessageId => getMessageByClientMessageId command.conversationId member.id
      (trim clientMessageId)
  | none => pure none

theorem findExisting_given {command : CreateMessageCommand} {clientMessageId : JsString}
    (given : command.clientMessageId = some clientMessageId) (nonblank : trim clientMessageId ≠ [])
    (member : ConversationMemberEntity) :
    findExisting command member = getMessageByClientMessageId command.conversationId member.id
      (trim clientMessageId) := by
  have present : clientMessageId ≠ [] := by
    intro empty
    rw [empty] at nonblank
    exact nonblank rfl
  have filtered : (some clientMessageId).filter (· ≠ []) = some clientMessageId :=
    Option.filter_eq_some_iff.mpr ⟨rfl,by simpa using present⟩
  simp only [findExisting, given, filtered]

/-- The checks on a quoted message. -/
def acceptReply (command : CreateMessageCommand) :
    Option LoadedMessage → Except Failure LoadedMessage
  | none => .error (messageNotFoundException "Replied message not found")
  | some reply =>
      if reply.message.conversationId ≠ command.conversationId then
        .error (chatDomainError "Replied message does not belong to this conversation")
      else if reply.message.deletedAt.isSome then
        .error (chatDomainError "Cannot reply to a deleted message")
      else if command.senderId ∈ reply.message.deletedForUserIds then
        .error (messageNotFoundException "Replied message not found")
      else .ok reply

def loadReply (command : CreateMessageCommand) : ChatProgram (Option LoadedMessage) :=
  match command.replyToMessageId with
  | none => pure none
  | some replyToMessageId => do
      let reply ← getMessageById replyToMessageId
      let accepted ← acceptReply command reply
      return some accepted

def create (amb : Ambient) (command : CreateMessageCommand) (member : ConversationMemberEntity)
    (reply : Option LoadedMessage) : ChatProgram LoadedMessage := do
  let created ← MessageEntity.create amb command.text command.type member.id
    command.conversationId command.deletedForUserIds command.replyToMessageId
    command.clientMessageId
  let saved ← saveMessage created.1
  publish (.created created.2)
  match reply with
  | some reply => return { saved with replyToMessage := some reply.message }
  | none => return saved

def execute (amb : Ambient) (command : CreateMessageCommand) : ChatProgram LoadedMessage := do
  let member ← requireMember command.conversationId command.senderId
  let existing ← findExisting command member
  match existing with
  | some existing =>
      if existing.message.text ≠ command.text then throw (idempotencyConflictException none)
      else return existing
  | none => do
      let reply ← loadReply command
      create amb command member reply

end CreateMessageHandler

structure EditMessageCommand where
  messageId : Uuid
  conversationId : Uuid
  userId : Uuid
  text : JsString
  deriving DecidableEq, Repr

def EditMessageHandler.execute (now : Time) (command : EditMessageCommand) :
    ChatProgram LoadedMessage := do
  let member ← requireMember command.conversationId command.userId
  let loaded ← requireMessage command.conversationId command.messageId
  let edited ← loaded.message.edit now command.text member.id
  let updatedMessage ← updateMessage edited.1
  publishAll edited.2
  requireSaved updatedMessage

structure DeleteMessageCommand where
  messageId : Uuid
  conversationId : Uuid
  userId : Uuid
  scope : MessageDeleteScope
  deriving DecidableEq, Repr

def DeleteMessageHandler.delete (now : Time) (command : DeleteMessageCommand)
    (memberId : Uuid) (message : MessageEntity) :
    Except Failure (MessageEntity × List MessageEvent) :=
  match command.scope with
  | .me => .ok (message.deleteForUser now command.userId)
  | .everyone => message.deleteForEveryone now memberId command.userId

def DeleteMessageHandler.execute (now : Time) (command : DeleteMessageCommand) :
    ChatProgram LoadedMessage := do
  let member ← requireMember command.conversationId command.userId
  let loaded ← requireMessage command.conversationId command.messageId
  let deleted ← DeleteMessageHandler.delete now command member.id loaded.message
  let updatedMessage ← saveMessageDeletion deleted.1
  publishAll deleted.2
  requireSaved updatedMessage

structure MarkConversationAsReadCommand where
  conversationId : Uuid
  userId : Uuid
  messageId : Uuid
  deriving DecidableEq, Repr

def MarkConversationAsReadCommandHandler.execute (command : MarkConversationAsReadCommand) :
    ChatProgram Unit := do
  let conversation ← requireConversation command.conversationId
  let marked ← conversation.markAsRead command.userId command.messageId
  let _ ← saveConversation marked

def DeleteConversationHandler.execute (now : Time) (conversationId : Uuid) : ChatProgram Bool :=
  deleteConversation now conversationId

/-- The copy that a deletion saves, against the copy it has loaded. -/
theorem delete_ok {now : Time} {c : DeleteMessageCommand} {memberId : Uuid} {m : MessageEntity}
    {d : MessageEntity × List MessageEvent}
    (deleted : DeleteMessageHandler.delete now c memberId m = .ok d) :
    d.1.id = m.id ∧ d.1.conversationId = m.conversationId ∧
      (d.1.deletedAt ≠ none ∨ (c.scope = .me ∧ m.deletedAt = none)) := by
  unfold DeleteMessageHandler.delete at deleted
  cases scope : c.scope with
  | me =>
    simp only [scope, MessageEntity.deleteForUser] at deleted
    cases live : m.deletedAt with
    | none =>
      split at deleted <;> cases deleted <;> exact ⟨rfl,rfl,Or.inr ⟨rfl,rfl⟩⟩
    | some t =>
      split at deleted <;> cases deleted <;> exact ⟨rfl,rfl,Or.inl (by simp [live])⟩
  | everyone =>
    simp only [scope, MessageEntity.deleteForEveryone] at deleted
    split_ifs at deleted with other gone
    · cases deleted
      exact ⟨rfl,rfl,Or.inl (Option.isSome_iff_ne_none.mp gone)⟩
    · cases deleted
      exact ⟨rfl,rfl,Or.inl (Option.some_ne_none _)⟩

/-- A deletion is refused only to one who asks for everyone and is not the sender. -/
theorem delete_accepts {now : Time} {c : DeleteMessageCommand} {memberId : Uuid}
    {m : MessageEntity} :
    (∃ d, DeleteMessageHandler.delete now c memberId m = .ok d) ↔
      c.scope = .me ∨ memberId = m.senderId := by
  unfold DeleteMessageHandler.delete
  cases c.scope with
  | me => simp
  | everyone =>
    simp only [MessageEntity.deleteForEveryone, reduceCtorEq, false_or]
    split_ifs with other gone
    · simp [other]
    · exact ⟨fun _ => not_not.mp other,fun _ => ⟨_,rfl⟩⟩
    · exact ⟨fun _ => not_not.mp other,fun _ => ⟨_,rfl⟩⟩

section Flat
variable {α : Type} (conversationId userId messageId : Uuid)

theorem requireMember_bind (f : ConversationMemberEntity → ChatProgram α) :
    requireMember conversationId userId >>= f =
      query (.getConversation conversationId) >>= fun rows => match rows with
        | none => throw (conversationNotFoundException none)
        | some rows => match rows.2.find? (fun m => m.userId = userId) with
          | none => throw (notMessageOwnerException "User is not a member of the conversation")
          | some member => f member.toDomain := by
  simp only [requireMember, requireConversation, getConversationById, Program.bind_assoc]
  refine congrArg (query (.getConversation conversationId) >>= ·) (funext fun rows => ?_)
  cases rows with
  | none => rfl
  | some rows =>
    have found : (Conversation.toDomain rows).members.find? (fun m => m.userId = userId) =
        (rows.2.find? (fun m => m.userId = userId)).map ConversationMember.toDomain :=
      List.find?_map ..
    simp only [Option.map_some, Program.pure_eq, Program.done_bind, found]
    cases rows.2.find? (fun m => m.userId = userId) <;> rfl

theorem requireMessage_bind (f : LoadedMessage → ChatProgram α) :
    requireMessage conversationId messageId >>= f =
      query (.getMessage messageId) >>= fun rows => match rows with
        | none => throw (messageNotFoundException none)
        | some (message, reply) =>
            query (.getDeletedMessages message.id) >>= fun deleted =>
              if message.conversationId ≠ conversationId then
                throw (messageNotFoundException none)
              else f (.ofRows message reply deleted) := by
  simp only [requireMessage, Program.bind_assoc, getMessageById_bind, loadDeletions_bind]
  refine congrArg (query (.getMessage messageId) >>= ·) (funext fun rows => ?_)
  cases rows with
  | none => rfl
  | some rows =>
    obtain ⟨message,reply⟩ := rows
    simp only [Program.bind_assoc]
    refine congrArg (query (.getDeletedMessages message.id) >>= ·) (funext fun deleted => ?_)
    have same : (LoadedMessage.ofRows message reply deleted).message.conversationId =
        message.conversationId := MessageEntity.loadDeletedForUserIds_conversationId ..
    simp only [same]
    split <;> rfl

/-- The quoted messages that a send accepts. -/
theorem acceptReply_rows_iff {command : CreateMessageCommand} {message : Message}
    {reply : Option Message} {deleted : List DeletedMessage} {r : LoadedMessage} :
    CreateMessageHandler.acceptReply command (some (.ofRows message reply deleted)) = .ok r ↔
      r = .ofRows message reply deleted ∧ message.conversationId = command.conversationId ∧
        message.deletedAt = none ∧ command.senderId ∉ deleted.map DeletedMessage.userId := by
  have fields : (LoadedMessage.ofRows message reply deleted).message.conversationId =
        message.conversationId ∧
      (LoadedMessage.ofRows message reply deleted).message.deletedAt = message.deletedAt ∧
      (command.senderId ∈ (LoadedMessage.ofRows message reply deleted).message.deletedForUserIds ↔
        command.senderId ∈ deleted.map DeletedMessage.userId) := by
    refine ⟨MessageEntity.loadDeletedForUserIds_conversationId ..,
      MessageEntity.loadDeletedForUserIds_deletedAt ..,?_⟩
    rw [LoadedMessage.ofRows, MessageEntity.mem_loadDeletedForUserIds]
    simp [Message.toDomain]
  obtain ⟨conversation,deletedAt,deletedFor⟩ := fields
  simp only [CreateMessageHandler.acceptReply]
  split_ifs with other gone hidden
  · simp [← conversation, other]
  · simp [← deletedAt, Option.isSome_iff_ne_none.mp gone]
  · simp [deletedFor.mp hidden]
  · rw [Except.ok.injEq, eq_comm, ← deletedFor]
    simp only [not_not, Option.isSome_iff_ne_none] at other gone
    rw [conversation] at other
    rw [deletedAt] at gone
    exact ⟨fun is => ⟨is,other,gone,hidden⟩,And.left⟩

end Flat

section Plain

theorem plain_loadDeletions (rows : Option (Message × Option Message)) :
    Plain (loadDeletions rows) := by
  cases rows with
  | none => trivial
  | some rows => exact (plain_query rfl).bind fun _ => trivial

theorem plain_getMessageById (id : Uuid) : Plain (getMessageById id) :=
  (plain_query rfl).bind plain_loadDeletions

theorem plain_recoverExisting (message : MessageEntity) (error : Failure) :
    Plain (recoverExisting message error) := by
  unfold recoverExisting
  split
  · refine ((plain_query rfl).bind plain_loadDeletions).bind fun existing => ?_
    cases existing <;> trivial
  · trivial

theorem plain_requireSaved (saved : Option LoadedMessage) :
    Plain (requireSaved saved) := by
  cases saved <;> trivial

theorem plain_movePointers (deletion : MessageDeletion) (members : List ConversationMember) :
    Plain (movePointers deletion members) := by
  induction members with
  | nil => trivial
  | cons cm rest ih =>
    exact (plain_query rfl).bind fun _ => ih.bind fun _ => trivial

theorem plain_findExisting (command : CreateMessageCommand) (member : ConversationMemberEntity) :
    Plain (CreateMessageHandler.findExisting command member) := by
  unfold CreateMessageHandler.findExisting
  split
  · exact (plain_query rfl).bind plain_loadDeletions
  · trivial

theorem plain_loadReply (command : CreateMessageCommand) :
    Plain (CreateMessageHandler.loadReply command) := by
  unfold CreateMessageHandler.loadReply
  split
  · trivial
  · exact (plain_getMessageById _).bind fun reply => (Program.only_lift _).bind fun _ => trivial

theorem plain_getConversationById (id : Uuid) : Plain (getConversationById id) :=
  (plain_query rfl).bind fun _ => trivial

theorem plain_requireConversation (conversationId : Uuid) :
    Plain (requireConversation conversationId) := by
  apply (plain_getConversationById conversationId).bind
  intro conversation
  cases conversation <;> trivial

theorem plain_requireMember (conversationId userId : Uuid) :
    Plain (requireMember conversationId userId) := by
  apply (plain_requireConversation conversationId).bind
  intro conversation
  split <;> trivial

theorem plain_requireMessage (conversationId messageId : Uuid) :
    Plain (requireMessage conversationId messageId) := by
  apply (plain_getMessageById messageId).bind
  intro loaded
  cases loaded with
  | none => trivial
  | some loaded =>
    dsimp only
    split_ifs <;> trivial

end Plain

end Chatterbox
