import Chatterbox.Common
import Mathlib.Tactic.SplitIfs

/-!
The domain of the chat module: messages, conversations and their members, with the
checks their methods make and the events they record. A quoted message is loaded
next to the message that quotes it.
-/
namespace Chatterbox

inductive MessageType where
  | text
  deriving DecidableEq, Repr

inductive ConversationType where
  | direct
  deriving DecidableEq, Repr

inductive MessageDeleteScope where
  | me
  | everyone
  deriving DecidableEq, Repr

def targetUserNotFoundException (reason : Option String) : Failure :=
  .domain ⟨withReason "Target user does not exist" reason, "CHAT_TARGET_USER_NOT_FOUND", .notFound⟩

def blockedUserException (reason : Option String) : Failure :=
  .domain ⟨withReason "Cannot interact with blocked user" reason, "CHAT_BLOCKED_USER", .forbidden⟩

def conversationAlreadyExistsException (reason : Option String) : Failure :=
  .domain ⟨withReason "Conversation already exists" reason, "CHAT_CONVERSATION_ALREADY_EXISTS",
    .conflict⟩

def conversationNotFoundException (reason : Option String) : Failure :=
  .domain ⟨withReason "Conversation not found" reason, "CHAT_CONVERSATION_NOT_FOUND", .notFound⟩

def messageNotFoundException (reason : Option String) : Failure :=
  .domain ⟨withReason "Message not found" reason, "CHAT_MESSAGE_NOT_FOUND", .notFound⟩

def notMessageOwnerException (reason : Option String) : Failure :=
  .domain ⟨withReason "You are not the owner of this message" reason, "CHAT_NOT_MESSAGE_OWNER",
    .forbidden⟩

def chatDomainError (message : String) : Failure :=
  .domain ⟨message, "CHAT_DOMAIN_ERROR", .businessRule⟩

def idempotencyConflictException : Option String → Failure
  | some reason =>
      .domain ⟨"Idempotency conflict: " ++ reason, "CHAT_IDEMPOTENCY_CONFLICT", .conflict⟩
  | none =>
      .domain ⟨"Idempotency conflict: clientMessageId was previously used with " ++
        "different message content", "CHAT_IDEMPOTENCY_CONFLICT", .conflict⟩

structure MessageCreatedDomainEvent where
  messageId : Uuid
  conversationId : Uuid
  senderId : Uuid
  text : JsString
  deletedForUserIds : List Uuid
  createdAt : Time
  replyToMessageId : Option Uuid
  clientMessageId : Option JsString
  deriving DecidableEq, Repr

structure MessageEditedDomainEvent where
  messageId : Uuid
  conversationId : Uuid
  senderId : Uuid
  text : JsString
  deletedForUserIds : List Uuid
  editedAt : Time
  deriving DecidableEq, Repr

structure MessageDeletedDomainEvent where
  messageId : Uuid
  conversationId : Uuid
  scope : MessageDeleteScope
  actorUserId : Uuid
  deletedForUserIds : List Uuid
  deletedAt : Option Time
  deriving DecidableEq, Repr

inductive MessageEvent where
  | created (event : MessageCreatedDomainEvent)
  | edited (event : MessageEditedDomainEvent)
  | deleted (event : MessageDeletedDomainEvent)
  deriving DecidableEq, Repr

structure MessageEntity where
  id : Uuid
  createdAt : Time
  updatedAt : Time
  text : JsString
  type : MessageType
  senderId : Uuid
  conversationId : Uuid
  deletedForUserIds : List Uuid
  deletedAt : Option Time
  editedAt : Option Time
  replyToMessageId : Option Uuid
  clientMessageId : Option JsString
  deriving DecidableEq, Repr

/-- A message with the quoted message, where that has been loaded. -/
structure LoadedMessage where
  message : MessageEntity
  replyToMessage : Option MessageEntity
  deriving DecidableEq, Repr

namespace MessageEntity

def validateClientMessageId : Option JsString → Except Failure (Option JsString)
  | none => .ok none
  | some clientMessageId =>
      if trim clientMessageId = [] then .error (chatDomainError "clientMessageId cannot be empty")
      else if (trim clientMessageId).length > 255 then
        .error (chatDomainError "clientMessageId cannot exceed 255 characters")
      else .ok (some (trim clientMessageId))

def create (amb : Ambient) (text : JsString) (type : MessageType) (senderId conversationId : Uuid)
    (deletedForUserIds : List Uuid) (replyToMessageId : Option Uuid)
    (clientMessageId : Option JsString) :
    Except Failure (MessageEntity × MessageCreatedDomainEvent) :=
  if replyToMessageId = some (amb.uuid 0) then
    .error (chatDomainError "A message cannot reply to itself")
  else do
    let validatedClientMessageId ← validateClientMessageId clientMessageId
    return ({ id := amb.uuid 0, createdAt := amb.now, updatedAt := amb.now, text, type, senderId,
              conversationId, deletedForUserIds, deletedAt := none, editedAt := none,
              replyToMessageId, clientMessageId := validatedClientMessageId },
            { messageId := amb.uuid 0, conversationId, senderId, text, deletedForUserIds,
              createdAt := amb.now, replyToMessageId,
              clientMessageId := validatedClientMessageId })

/-- What the factory builds when it accepts its arguments. -/
theorem create_ok {amb : Ambient} {text : JsString} {type : MessageType}
    {senderId conversationId : Uuid} {deletedForUserIds : List Uuid}
    {replyToMessageId : Option Uuid} {clientMessageId : Option JsString}
    {created : MessageEntity × MessageCreatedDomainEvent}
    (is : create amb text type senderId conversationId deletedForUserIds replyToMessageId
      clientMessageId = .ok created) :
    replyToMessageId ≠ some (amb.uuid 0) ∧ ∃ key, validateClientMessageId clientMessageId = .ok key ∧
      created = ({ id := amb.uuid 0, createdAt := amb.now, updatedAt := amb.now, text, type,
                   senderId, conversationId, deletedForUserIds, deletedAt := none,
                   editedAt := none, replyToMessageId, clientMessageId := key },
                 { messageId := amb.uuid 0, conversationId, senderId, text, deletedForUserIds,
                   createdAt := amb.now, replyToMessageId, clientMessageId := key }) := by
  unfold create at is
  split at is
  · cases is
  · rename_i other
    refine ⟨other,?_⟩
    cases valid : validateClientMessageId clientMessageId with
    | error e => rw [valid] at is; cases is
    | ok key =>
      rw [valid] at is
      exact ⟨key,rfl,(Except.ok.inj is).symm⟩

/-- Whether the factory accepts its arguments does not depend on the sender. -/
theorem create_accepts {amb : Ambient} {text : JsString} {type : MessageType}
    {senderId conversationId : Uuid} {deletedForUserIds : List Uuid}
    {replyToMessageId : Option Uuid} {clientMessageId : Option JsString} :
    (∃ created, create amb text type senderId conversationId deletedForUserIds replyToMessageId
      clientMessageId = .ok created) ↔
      replyToMessageId ≠ some (amb.uuid 0) ∧
        ∃ key, validateClientMessageId clientMessageId = .ok key := by
  constructor
  · rintro ⟨created,is⟩
    obtain ⟨other,key,valid,_⟩ := create_ok is
    exact ⟨other,key,valid⟩
  · rintro ⟨other,key,valid⟩
    rw [create, if_neg other, valid]
    exact ⟨_,rfl⟩

theorem validateClientMessageId_ok {given key : Option JsString}
    (is : validateClientMessageId given = .ok key) :
    key = given.map trim ∧ ∀ k, key = some k → k ≠ [] := by
  cases given with
  | none =>
    cases is
    exact ⟨rfl,by simp⟩
  | some k =>
    simp only [validateClientMessageId] at is
    split_ifs at is with blank long
    cases is
    exact ⟨rfl,by rintro _ ⟨⟩; exact blank⟩

/-- An edit, with the event it records. The same text again records nothing. -/
def edit (m : MessageEntity) (now : Time) (newText : JsString) (editorMemberId : Uuid) :
    Except Failure (MessageEntity × List MessageEvent) :=
  if m.deletedAt.isSome then .error (messageNotFoundException "Cannot edit a deleted message")
  else if editorMemberId ≠ m.senderId then .error (notMessageOwnerException none)
  else if m.type ≠ .text then .error (chatDomainError "Only text messages can be edited")
  else if trim newText = [] then .error (chatDomainError "Message text cannot be empty")
  else if m.text = newText then .ok (m, [])
  else .ok
    ({ m with text := newText, editedAt := some now, updatedAt := now },
     [.edited { messageId := m.id, conversationId := m.conversationId, senderId := m.senderId,
                text := newText, deletedForUserIds := m.deletedForUserIds, editedAt := now }])

def deleteForUser (m : MessageEntity) (now : Time) (userId : Uuid) :
    MessageEntity × List MessageEvent :=
  if userId ∈ m.deletedForUserIds then (m, [])
  else
    ({ m with deletedForUserIds := m.deletedForUserIds ++ [userId], updatedAt := now },
     [.deleted { messageId := m.id, conversationId := m.conversationId, scope := .me,
                 actorUserId := userId, deletedForUserIds := m.deletedForUserIds ++ [userId],
                 deletedAt := m.deletedAt }])

def deleteForEveryone (m : MessageEntity) (now : Time) (requesterMemberId actorUserId : Uuid) :
    Except Failure (MessageEntity × List MessageEvent) :=
  if requesterMemberId ≠ m.senderId then .error (notMessageOwnerException none)
  else if m.deletedAt.isSome then .ok (m, [])
  else .ok
    ({ m with deletedAt := some now, updatedAt := now },
     [.deleted { messageId := m.id, conversationId := m.conversationId, scope := .everyone,
                 actorUserId, deletedForUserIds := m.deletedForUserIds, deletedAt := some now }])

def loadDeletedForUserId (m : MessageEntity) (userId : Uuid) : MessageEntity :=
  if userId ∈ m.deletedForUserIds then m
  else { m with deletedForUserIds := m.deletedForUserIds ++ [userId] }

def loadDeletedForUserIds (m : MessageEntity) (userIds : List Uuid) : MessageEntity :=
  userIds.foldl loadDeletedForUserId m

end MessageEntity

structure ConversationMemberEntity where
  id : Uuid
  createdAt : Time
  userId : Uuid
  conversationId : Uuid
  lastSeenMessageId : Option Uuid
  lastMessageId : Option Uuid
  deletedAt : Option Time
  deriving DecidableEq, Repr

def ConversationMemberEntity.create (id : Uuid) (now : Time) (userId conversationId : Uuid) :
    ConversationMemberEntity :=
  { id, createdAt := now, userId, conversationId, lastSeenMessageId := none,
    lastMessageId := none, deletedAt := none }

structure ConversationEntity where
  id : Uuid
  createdAt : Time
  type : ConversationType
  title : Option JsString
  picture : Option JsString
  identifier : Option Uuid
  deletedAt : Option Time
  members : List ConversationMemberEntity
  deriving DecidableEq, Repr

namespace ConversationEntity

def addMember (c : ConversationEntity) (member : ConversationMemberEntity) :
    Except Failure ConversationEntity :=
  if c.type = .direct ∧ c.members.length ≥ 2 then
    .error (.error "Direct conversations can only have 2 members")
  else if c.members.any (fun m => m.userId = member.userId) then .ok c
  else .ok { c with members := c.members ++ [member] }

def createDirect (amb : Ambient) (userId targetUserId : Uuid) : Except Failure ConversationEntity :=
  let conversation : ConversationEntity :=
    { id := amb.uuid 0, createdAt := amb.now, type := .direct, title := none, picture := none,
      identifier := some (amb.uuid 1), deletedAt := none, members := [] }
  conversation.addMember (.create (amb.uuid 2) amb.now userId (amb.uuid 0)) >>= fun conversation =>
    conversation.addMember (.create (amb.uuid 3) amb.now targetUserId (amb.uuid 0))

/-- A conversation of a user with himself has one member. -/
theorem createDirect_eq (amb : Ambient) (userId targetUserId : Uuid) :
    createDirect amb userId targetUserId = .ok
      { id := amb.uuid 0, createdAt := amb.now, type := .direct, title := none, picture := none,
        identifier := some (amb.uuid 1), deletedAt := none,
        members := .create (amb.uuid 2) amb.now userId (amb.uuid 0) ::
          if userId = targetUserId then []
          else [.create (amb.uuid 3) amb.now targetUserId (amb.uuid 0)] } := by
  by_cases same : userId = targetUserId <;>
    simp [createDirect, addMember, ConversationMemberEntity.create, same, bind, Except.bind]

def markAsRead (c : ConversationEntity) (userId messageId : Uuid) :
    Except Failure ConversationEntity :=
  match c.members.find? (fun m => m.userId = userId) with
  | none => .error (chatDomainError
      ("User " ++ toString userId ++ " is not a member of the conversation"))
  | some member =>
      if member.lastSeenMessageId = some messageId then .ok c
      else .ok { c with members := c.members.map fun m =>
        if m.id = member.id then { m with lastSeenMessageId := some messageId } else m }

end ConversationEntity

end Chatterbox
