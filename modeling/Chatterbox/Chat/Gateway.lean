import Chatterbox.Chat.Queries

/-!
The WebSocket gateway of the chat module, message by message: what a client gets back,
and what goes out to the rooms of users. Blocks are looked at here, before the commands.
-/
namespace Chatterbox
open Concurrency ConversationPostgresRepository ChatUserIntegrationAdapter

/-- A value in a template literal. -/
def interpolate (value : Option JsString) : JsString := value.getD [0x6E, 0x75, 0x6C, 0x6C]

def ChatUser.fullName (user : ChatUser) : JsString :=
  interpolate user.firstName ++ [0x20] ++ interpolate user.lastName

def ChatUser.named (user : ChatUser) : NamedUser := ⟨user.id,user.fullName⟩

def ChatUser.toWsUser (user : ChatUser) : WsUser :=
  { id := user.id, username := user.username, name := user.fullName, avatar := user.avatar }

/-- The text of a quoted message in the acknowledgement and in the broadcast of a reply. -/
def MessageEntity.preview (parent : MessageEntity) : Option JsString :=
  if parent.deletedAt.isSome then none else some parent.text

structure CreateConversationRequest where
  targetUserId : Uuid
  content : JsString
  deriving DecidableEq, Repr

structure CreateConversationResponse where
  id : Uuid
  username : Option Uuid
  createdAt : Time
  avatar : Option JsString
  name : JsString
  chat : ConversationMessage
  deriving DecidableEq, Repr

structure CreateMessageRequest where
  conversationId : Uuid
  text : JsString
  replyToMessageId : Option Uuid
  clientMessageId : Option JsString
  deriving DecidableEq, Repr

structure CreateMessageResponse where
  id : Uuid
  createdAt : Time
  seen : Bool
  user : NamedUser
  content : JsString
  replyToMessageId : Option Uuid
  replyTo : Option (ReplyTo NamedUser)
  clientMessageId : Option JsString
  deriving DecidableEq, Repr

structure EditMessageRequest where
  conversationId : Uuid
  messageId : Uuid
  text : JsString
  deriving DecidableEq, Repr

structure EditMessageResponse where
  id : Uuid
  content : JsString
  editedAt : Time
  deriving DecidableEq, Repr

structure DeleteMessageRequest where
  conversationId : Uuid
  messageId : Uuid
  scope : MessageDeleteScope
  deriving DecidableEq, Repr

structure DeleteMessageResponse where
  id : Uuid
  conversationId : Uuid
  scope : MessageDeleteScope
  deriving DecidableEq, Repr

structure GetUserConversationListRequest where
  targetUserId : Option Uuid
  filter : JsString
  page : Option Int
  pageSize : Option Int
  deriving DecidableEq, Repr

structure LastMessageUser where
  id : Uuid
  username : JsString
  name : JsString
  deriving DecidableEq, Repr

structure UserConversationLastMessage where
  id : Uuid
  text : JsString
  createdAt : Time
  seen : Bool
  user : Option LastMessageUser
  deriving DecidableEq, Repr

/-- `identifier` is the identifier of the conversation, or the username of the other
    member of a direct one. -/
structure UserConversationListItem where
  id : Uuid
  title : Option JsString
  picture : Option JsString
  identifier : Option Uuid ⊕ JsString
  lastMessage : Option UserConversationLastMessage
  notSeenCount : Nat
  deriving DecidableEq, Repr

structure GetConversationMessageListRequest where
  conversationId : Uuid
  page : Option Int
  pageSize : Option Int
  deriving DecidableEq, Repr

structure ListedUser where
  id : Uuid
  name : Option JsString
  deriving DecidableEq, Repr

structure UserConversationMessageItem where
  id : Uuid
  content : Option JsString
  createdAt : Time
  editedAt : Option Time
  deletedAt : Option Time
  seen : Bool
  user : Option ListedUser
  replyToMessageId : Option Uuid
  replyTo : Option (ReplyTo ListedUser)
  clientMessageId : Option JsString
  deriving DecidableEq, Repr

structure UserConversationMessageMember where
  id : Uuid
  avatar : Option JsString
  username : JsString
  name : Option JsString
  isBlocked : Bool
  deriving DecidableEq, Repr

structure GetConversationMessageListResponse where
  id : Uuid
  name : Option JsString
  avatar : Option JsString
  username : Option JsString ⊕ Option Uuid
  members : List UserConversationMessageMember
  total : Nat
  page : Nat
  pageSize : Nat
  list : List UserConversationMessageItem
  deriving DecidableEq, Repr

structure MarkMessageSeenRequest where
  conversationId : Uuid
  messageId : Uuid
  deriving DecidableEq, Repr

namespace ChatUserIntegrationAdapter

def getUsersByIds (userIds : List Uuid) : ChatProgram (List ChatUser) := do
  let res ← askUserModule (UserPostgresReadRepository.getUsersByIds userIds)
  return res.map toChatUser

def getBlockedUsersIds (userId : Uuid) (targetUserIds : List Uuid) : ChatProgram (List Uuid) :=
  askUserModule (UserPostgresReadRepository.getBlockedUserIds userId targetUserIds)

/-- `ilike` is the comparison of Postgres of a pattern with a text. -/
def getUserIdsByNameOrUsername (ilike : JsString → JsString → Bool) (filter : JsString) :
    ChatProgram (List Uuid) :=
  askUserModule (ask (.getUserIdsByNameOrUsername (ilike ([0x25] ++ filter ++ [0x25]))))

end ChatUserIntegrationAdapter

def usersById (users : List ChatUser) (id : Uuid) : Option ChatUser :=
  users.find? (fun u => u.id = id)

/-- The user behind a member id, taken from the two users of the conversation where it is
    one of them. -/
def resolveParentUser (currentUser targetUser : ChatUser) :
    Option Uuid → ChatProgram (Option ChatUser)
  | none => pure none
  | some parentUserId =>
      if parentUserId = currentUser.id then pure (some currentUser)
      else if parentUserId = targetUser.id then pure (some targetUser)
      else some <$> getUserById parentUserId

def replyPreview {User : Type} (parent : MessageEntity) (parentUserId : Option Uuid)
    (user : Option User) : ReplyTo User :=
  { id := parent.id, content := parent.preview, createdAt := parent.createdAt,
    senderId := parentUserId.getD parent.senderId, user }

namespace ChatWsGateway

/-- The first message of a new conversation; the conversation goes again when it fails. -/
def firstMessage (amb : Ambient) (currentUser targetUser : ChatUser) (isBlocked : Bool)
    (content : JsString) (conversationId : Uuid) : ChatProgram LoadedMessage :=
  tryCatchThe Failure
    (CreateMessageHandler.execute (amb.skip 4)
      { text := content, type := .text, senderId := currentUser.id, conversationId,
        deletedForUserIds := if isBlocked then [targetUser.id] else [],
        replyToMessageId := none, clientMessageId := none })
    fun e => do
      let _ ← DeleteConversationHandler.execute amb.now conversationId
      throw e

def conversationCreated (message : MessageEntity) (sender shown : ChatUser) (seen : Bool)
    (notSeenCount : Nat) : ConversationCreated :=
  { id := message.conversationId, name := shown.fullName, avatar := shown.avatar,
    username := shown.username, notSeenCount,
    lastMessage := { id := message.id, content := message.text, createdAt := message.createdAt,
                     seen, user := sender.named } }

/-- The new conversation goes to the target, who is shown the creator, and to the other
    devices of the creator, who is shown the target. -/
def announceConversation (currentUser targetUser : ChatUser) (message : MessageEntity) :
    ChatProgram Unit := do
  if targetUser.id ∈ message.deletedForUserIds then pure ()
  else
    broadcast [targetUser.id]
      (.conversationCreated (conversationCreated message currentUser currentUser false 1))
  broadcast [currentUser.id]
    (.conversationCreated (conversationCreated message currentUser targetUser true 0))

def createDirectConversation (amb : Ambient) (data : CreateConversationRequest)
    (authUserId : Uuid) : ChatProgram CreateConversationResponse := do
  let currentUser ← getUserById authUserId
  let targetUser ← getUserById data.targetUserId
  let blockStatus ← getBlockStatus authUserId targetUser.id
  if blockStatus.isBlocker then throw (.ws "You have blocked this user.")
  else do
    let createConversation ← CreateDirectConversationHandler.execute amb
      ⟨currentUser.id,data.targetUserId⟩
    let createMessage ← firstMessage amb currentUser targetUser blockStatus.isBlocked data.content
      createConversation.id
    announceConversation currentUser targetUser createMessage.message
    return { id := createConversation.id, username := createConversation.identifier,
             createdAt := createMessage.message.createdAt, avatar := createConversation.picture,
             name := targetUser.fullName,
             chat := { id := createMessage.message.id, content := createMessage.message.text,
                       createdAt := createMessage.message.createdAt, seen := false,
                       user := currentUser.named } }

/-- Whether the member has seen what was created at that date. -/
def isSeenBy (member : Option ConversationMemberReadDto) (messageCreatedAt : Time) : Bool :=
  match member.bind ConversationMemberReadDto.lastSeenMessage with
  | none => false
  | some seenAt => messageCreatedAt ≤ seenAt

def toListItem (users : List ChatUser) (authUserId : Uuid) (item : ConversationReadDto) :
    UserConversationListItem :=
  let currentMember := item.members.find? (fun m => m.userId = authUserId)
  let otherMember := item.members.find? (fun m => m.userId ≠ authUserId)
  let isDirect := decide (item.type = .direct)
  let otherUser := if isDirect then otherMember.bind fun m => usersById users m.userId else none
  { id := item.id
    title := (otherUser.map fun u => some u.fullName).getD item.title
    picture := (otherUser.map ChatUser.avatar).getD item.picture
    identifier := (otherUser.map fun u => .inr u.username).getD (.inl item.identifier)
    notSeenCount := item.notSeenCount
    lastMessage := item.lastMessage.map fun last =>
      { id := last.id, text := last.text, createdAt := last.createdAt
        seen := if last.senderId = authUserId then isDirect && isSeenBy otherMember last.createdAt
          else isSeenBy currentMember last.createdAt
        user := (usersById users last.senderId).map fun u =>
          { id := u.id, username := u.username, name := u.fullName } } }

def listItems (authUserId : Uuid) (conversationList : PaginatedResult ConversationReadDto) :
    ChatProgram (PaginatedResult UserConversationListItem) :=
  if conversationList.data = [] then pure { data := [], info := conversationList.info }
  else do
    let conversationsUserIds := conversationList.data.filterMap fun c =>
      c.lastMessage.map LastMessageReadDto.senderId
    let allUsersInvolved := conversationList.data.flatMap fun c =>
      c.members.map ConversationMemberReadDto.userId
    let users ← getUsersByIds (allUsersInvolved ++ conversationsUserIds).dedup
    return { data := conversationList.data.map (toListItem users authUserId)
             info := conversationList.info }

def filterUsers (ilike : JsString → JsString → Bool) (data : GetUserConversationListRequest) :
    ChatProgram (List Uuid) :=
  if data.filter = [] then pure data.targetUserId.toList
  else do
    let named ← getUserIdsByNameOrUsername ilike data.filter
    return named ++ data.targetUserId.toList

def getUserConversationList (ilike : JsString → JsString → Bool)
    (data : GetUserConversationListRequest) (authUserId : Uuid) :
    ChatProgram (PaginatedResult UserConversationListItem) := do
  let pagination := PaginationHelper.parse data.page data.pageSize
  let filteredUserIds ← filterUsers ilike data
  if data.filter ≠ [] ∧ filteredUserIds = [] then
    return PaginationHelper.createResult [] 0 pagination
  else do
    let conversationList ← GetUserConversationListHandler.execute authUserId
      (filteredUserIds.filter fun userId => userId ≠ authUserId) pagination
    listItems authUserId conversationList

/-- The preview in the acknowledgement of a reply. -/
def ackReply (members : List ConversationMemberReadDto) (currentUser targetUser : ChatUser)
    (createMessage : LoadedMessage) : ChatProgram (Option (ReplyTo NamedUser)) :=
  match createMessage.message.replyToMessageId, createMessage.replyToMessage with
  | some _, some parentMsg => do
      let parentUserId := (members.find? fun m => m.id = parentMsg.senderId).map
        ConversationMemberReadDto.userId
      let parentUser ← resolveParentUser currentUser targetUser parentUserId
      return some (replyPreview parentMsg parentUserId (parentUser.map ChatUser.named))
  | _, _ => pure none

def createMessage (amb : Ambient) (data : CreateMessageRequest) (authUserId : Uuid) :
    ChatProgram CreateMessageResponse := do
  let conversation ← GetUserConversationHandler.execute data.conversationId authUserId
  match conversation.members.find? (fun member => member.userId ≠ authUserId) with
  | none => throw (.ws "Conversation not found")
  | some targetMember => do
    let currentUser ← getUserById authUserId
    let targetUser ← getUserById targetMember.userId
    let blockStatus ← getBlockStatus authUserId targetMember.userId
    if blockStatus.isBlocker then
      throw (.ws "You need to unblock the user before sending a message.")
    else do
      let createMessage ← CreateMessageHandler.execute amb
        { text := data.text, type := .text, senderId := authUserId,
          conversationId := conversation.id,
          deletedForUserIds := if blockStatus.isBlocked then [targetUser.id] else [],
          replyToMessageId := data.replyToMessageId, clientMessageId := data.clientMessageId }
      let replyTo ← ackReply conversation.members currentUser targetUser createMessage
      return { id := createMessage.message.id, createdAt := createMessage.message.createdAt,
               seen := false, user := currentUser.named, content := createMessage.message.text,
               replyToMessageId := createMessage.message.replyToMessageId, replyTo,
               clientMessageId := createMessage.message.clientMessageId }

/-- The membership check that an edit, a deletion and a mark share. -/
def requireMembership (conversationId authUserId : Uuid) : ChatProgram ConversationReadDto := do
  let conversation ← GetUserConversationHandler.execute conversationId authUserId
  if conversation.members.any (fun m => m.userId = authUserId) then return conversation
  else throw (.ws "Conversation not found or access denied")

def editMessage (amb : Ambient) (data : EditMessageRequest) (authUserId : Uuid) :
    ChatProgram EditMessageResponse := do
  let _ ← requireMembership data.conversationId authUserId
  let editedMessage ← EditMessageHandler.execute amb.now
    { messageId := data.messageId, conversationId := data.conversationId, userId := authUserId,
      text := data.text }
  return { id := editedMessage.message.id, content := editedMessage.message.text,
           editedAt := editedMessage.message.editedAt.getD editedMessage.message.updatedAt }

def deleteMessage (amb : Ambient) (data : DeleteMessageRequest) (authUserId : Uuid) :
    ChatProgram DeleteMessageResponse := do
  let _ ← requireMembership data.conversationId authUserId
  let deletedMessage ← DeleteMessageHandler.execute amb.now
    { messageId := data.messageId, conversationId := data.conversationId, userId := authUserId,
      scope := data.scope }
  return { id := deletedMessage.message.id, conversationId := data.conversationId,
           scope := data.scope }

def toMessageItem (users : List ChatUser) (authUserId : Uuid) (isDirect : Bool)
    (me other : Option ConversationMemberReadDto) (item : MessageReadDto) :
    UserConversationMessageItem :=
  { id := item.id
    content := if item.deletedAt.isSome then none else some item.text
    createdAt := item.createdAt, editedAt := item.editedAt, deletedAt := item.deletedAt
    seen := if item.senderId = authUserId then isDirect && isSeenBy other item.createdAt
      else isSeenBy me item.createdAt
    user := (usersById users item.senderId).map fun u => ⟨u.id,u.firstName⟩
    replyToMessageId := item.replyToMessageId
    replyTo := item.replyTo.map fun r =>
      { id := r.id, content := r.text, createdAt := r.createdAt, senderId := r.senderId
        user := (usersById users r.senderId).map fun u => ⟨u.id,u.firstName⟩ }
    clientMessageId := item.clientMessageId }

/-- The users of the page: the senders, the members and the senders of quoted messages. -/
def involvedUsers (conversation : ConversationReadDto) (messages : List MessageReadDto) :
    List Uuid :=
  (messages.map MessageReadDto.senderId ++
    conversation.members.map ConversationMemberReadDto.userId ++
    messages.filterMap fun m => m.replyTo.map QuotedMessageReadDto.senderId).dedup

def getConversationMessageList (amb : Ambient) (data : GetConversationMessageListRequest)
    (authUserId : Uuid) : ChatProgram GetConversationMessageListResponse := do
  let conversation ← GetUserConversationHandler.execute data.conversationId authUserId
  let messageList ← GetUserConversationMessageListHandler.execute amb.now data.conversationId
    authUserId (PaginationHelper.parse data.page data.pageSize)
  let users ← getUsersByIds (involvedUsers conversation messageList.data)
  let blockedUserIds ← getBlockedUsersIds authUserId (users.map ChatUser.id)
  let isDirect := decide (conversation.type = .direct)
  let otherMember := conversation.members.find? (fun m => m.userId ≠ authUserId)
  let otherUser := otherMember.bind fun m => usersById users m.userId
  let me := conversation.members.find? (fun m => m.userId = authUserId)
  return { id := conversation.id
           name := if isDirect then otherUser.bind ChatUser.firstName else conversation.title
           avatar := if isDirect then otherUser.bind ChatUser.avatar else conversation.picture
           username := if isDirect then .inl (otherUser.map ChatUser.username)
             else .inr conversation.identifier
           members := (users.filter fun u => u.id ≠ authUserId).map fun u =>
             { id := u.id, avatar := u.avatar, username := u.username, name := u.firstName,
               isBlocked := decide (u.id ∈ blockedUserIds) }
           total := messageList.info.total
           page := messageList.info.page
           pageSize := messageList.info.pageSize
           list := messageList.data.map
             (toMessageItem users authUserId isDirect me otherMember) }

def markMessageAsSeen (data : MarkMessageSeenRequest) (authUserId : Uuid) : ChatProgram Unit := do
  let conversation ← requireMembership data.conversationId authUserId
  MarkConversationAsReadCommandHandler.execute ⟨conversation.id,authUserId,data.messageId⟩
  broadcast (conversation.members.map ConversationMemberReadDto.userId)
    (.messageSeen conversation.id data.messageId)

end ChatWsGateway
end Chatterbox
