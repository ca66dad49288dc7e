import Chatterbox.Chat.Commands

/-!
The read side of the chat module: the projections of its rows that clients are shown.
A message that is deleted for everyone keeps its row and loses its text, a quoted message
loses it for the viewers who have deleted it as well.
-/
namespace Chatterbox
open Concurrency Tables

structure PaginationMeta where
  page : Nat
  pageSize : Nat
  total : Nat
  totalPages : Nat
  hasNext : Bool
  hasPrevious : Bool
  deriving DecidableEq, Repr

structure PaginatedResult (α : Type) where
  data : List α
  info : PaginationMeta
  deriving DecidableEq, Repr

namespace PaginationHelper

/-- Absent stands for everything that `Number` maps to NaN. -/
def parse (page pageSize : Option Int) : PaginationOptions :=
  let sanitizedPage := (max 1 (page.getD 1)).toNat
  let sanitizedPageSize := (min 100 (max 1 (pageSize.getD 15))).toNat
  { page := sanitizedPage, pageSize := sanitizedPageSize,
    offset := (sanitizedPage - 1) * sanitizedPageSize, limit := sanitizedPageSize }

def createResult {α : Type} (data : List α) (total : Nat) (options : PaginationOptions) :
    PaginatedResult α :=
  let totalPages := (total + options.limit - 1) / options.limit
  { data
    info := { page := options.page, pageSize := options.pageSize, total, totalPages,
              hasNext := options.page < totalPages, hasPrevious := options.page > 1 } }

end PaginationHelper

structure QuotedMessageReadDto where
  id : Uuid
  text : Option JsString
  type : MessageType
  senderId : Uuid
  createdAt : Time
  deletedAt : Option Time
  deriving DecidableEq, Repr

structure MessageReadDto where
  id : Uuid
  text : JsString
  type : MessageType
  senderId : Uuid
  createdAt : Time
  editedAt : Option Time
  deletedAt : Option Time
  replyToMessageId : Option Uuid
  replyTo : Option QuotedMessageReadDto
  clientMessageId : Option JsString
  deriving DecidableEq, Repr

structure LastMessageReadDto where
  id : Uuid
  text : JsString
  type : MessageType
  senderId : Uuid
  createdAt : Time
  deriving DecidableEq, Repr

/-- `lastSeenMessage` is the creation date of that message. -/
structure ConversationMemberReadDto where
  id : Uuid
  userId : Uuid
  lastSeenMessageId : Option Uuid
  lastSeenMessage : Option Time
  lastMessageId : Option Uuid
  deriving DecidableEq, Repr

structure ConversationReadDto where
  id : Uuid
  type : ConversationType
  identifier : Option Uuid
  title : Option JsString
  picture : Option JsString
  members : List ConversationMemberReadDto
  lastMessage : Option LastMessageReadDto
  notSeenCount : Nat
  deriving DecidableEq, Repr

namespace ConversationPostgresReadRepository

def toMemberDto (row : SeenMember) : ConversationMemberReadDto :=
  { id := row.1.id, userId := row.1.userId, lastSeenMessageId := row.1.lastSeenMessageId,
    lastSeenMessage := row.2.map Message.createdAt, lastMessageId := row.1.lastMessageId }

def toConversationDto (row : Conversation × List SeenMember) : ConversationReadDto :=
  { id := row.1.id, type := row.1.type, identifier := row.1.identifier, title := row.1.title,
    picture := row.1.picture, members := row.2.map toMemberDto, lastMessage := none,
    notSeenCount := 0 }

def getUserConversationById (conversationId userId : Uuid) :
    ChatProgram (Option ConversationReadDto) := do
  let res ← query (.getUserConversation conversationId userId)
  return res.map toConversationDto

def toLastMessageDto (message : Message) (sender : Option ConversationMember) :
    LastMessageReadDto :=
  { id := message.id, text := if message.deletedAt.isSome then [] else message.text,
    type := message.type, senderId := (sender.map ConversationMember.userId).getD message.senderId,
    createdAt := message.createdAt }

def toListDto (notSeenCounts : List (Uuid × Nat)) (others : List SeenMember)
    (row : ConversationListRow) : ConversationReadDto :=
  { id := row.conversation.id, type := row.conversation.type,
    identifier := row.conversation.identifier, title := row.conversation.title,
    picture := row.conversation.picture,
    members := toMemberDto (row.member, row.lastSeenMessage) ::
      (others.filter fun m => m.1.conversationId = row.conversation.id).map toMemberDto,
    lastMessage := row.lastMessage.map fun last => toLastMessageDto last row.lastMessageSender,
    notSeenCount := ((notSeenCounts.find? fun c => c.1 = row.conversation.id).map Prod.snd).getD 0 }

def getUserConversationList (userId : Uuid) (filterUserIds : List Uuid)
    (pagination : PaginationOptions) : ChatProgram (PaginatedResult ConversationReadDto) := do
  let res ← query (.listConversations userId filterUserIds pagination)
  if res.1 = [] then return PaginationHelper.createResult [] res.2 pagination
  else do
    let conversationIds := res.1.map fun row => row.conversation.id
    let notSeenCounts ← query (.countNotSeen userId conversationIds)
    let others ← query (.getOtherMembers userId conversationIds)
    return PaginationHelper.createResult (res.1.map (toListDto notSeenCounts others)) res.2
      pagination

def toQuotedDto (now : Time) (deletedForMe : List Uuid) (rm : Message)
    (sender : Option ConversationMember) : QuotedMessageReadDto :=
  let isDeletedForEveryone := rm.deletedAt.isSome
  let isDeletedForMe := decide (rm.id ∈ deletedForMe)
  { id := rm.id, text := if isDeletedForEveryone || isDeletedForMe then none else some rm.text,
    type := rm.type, senderId := (sender.map ConversationMember.userId).getD rm.senderId,
    createdAt := rm.createdAt,
    deletedAt := if isDeletedForEveryone then rm.deletedAt
      else if isDeletedForMe then some now else none }

def toMessageDto (now : Time) (deletedForMe : List Uuid) (row : MessageListRow) :
    MessageReadDto :=
  let m := row.message
  { id := m.id, text := if m.deletedAt.isSome then [] else m.text, type := m.type,
    senderId := row.sender.userId, createdAt := m.createdAt, editedAt := m.editedAt,
    deletedAt := m.deletedAt, replyToMessageId := m.replyToMessageId,
    replyTo := row.replyTo.map fun rm => toQuotedDto now deletedForMe rm.1 rm.2,
    clientMessageId := m.clientMessageId }

/-- The quoted messages on the page that the viewer has deleted. -/
def deletedReplies (userId : Uuid) (rows : List MessageListRow) : ChatProgram (List Uuid) :=
  let replyIds := rows.filterMap fun row => row.message.replyToMessageId
  if replyIds = [] then pure []
  else do
    let deleted ← query (.getDeletedAmong userId replyIds)
    return deleted.map DeletedMessage.messageId

def getUserConversationMessageList (now : Time) (conversationId userId : Uuid)
    (pagination : PaginationOptions) : ChatProgram (PaginatedResult MessageReadDto) := do
  let res ← query (.listMessages conversationId userId pagination)
  let deletedForMe ← deletedReplies userId res.1
  return PaginationHelper.createResult (res.1.map (toMessageDto now deletedForMe)) res.2 pagination

end ConversationPostgresReadRepository

def GetUserConversationHandler.execute (conversationId userId : Uuid) :
    ChatProgram ConversationReadDto := do
  let conversation ← ConversationPostgresReadRepository.getUserConversationById conversationId
    userId
  match conversation with
  | some conversation => return conversation
  | none => throw (conversationNotFoundException none)

def GetUserConversationListHandler.execute (userId : Uuid) (filterUserIds : List Uuid)
    (pagination : PaginationOptions) : ChatProgram (PaginatedResult ConversationReadDto) :=
  ConversationPostgresReadRepository.getUserConversationList userId filterUserIds pagination

def GetUserConversationMessageListHandler.execute (now : Time) (conversationId userId : Uuid)
    (pagination : PaginationOptions) : ChatProgram (PaginatedResult MessageReadDto) :=
  ConversationPostgresReadRepository.getUserConversationMessageList now conversationId userId
    pagination

section Rows
variable {db : ChatDatabase} {w : ChatWorld} {conversationId userId : Uuid}
  {filterUserIds : List Uuid} {pagination : PaginationOptions}

theorem mem_page {α : Type} {rows : List α} {x : α}
    (mem : x ∈ ChatDatabase.page pagination rows) : x ∈ rows :=
  List.mem_of_mem_drop (List.mem_of_mem_take mem)

/-- A listed message is one of the conversation that the viewer has not deleted, with the
    stored message it quotes. -/
theorem mem_listMessages {row : MessageListRow}
    (mem : row ∈ (db.listMessages conversationId userId pagination).1) :
    row.message ∈ db.messages ∧ row.message.conversationId = conversationId ∧
      db.deletedFor userId row.message.id = false ∧
      ∀ rm, row.replyTo = some rm → row.message.replyToMessageId.bind db.message = some rm.1 := by
  have listed := (List.mem_insertionSort _).mp (mem_page mem)
  obtain ⟨m,memm,joined⟩ := List.mem_filterMap.mp listed
  obtain ⟨stored,visible⟩ := List.mem_filter.mp memm
  obtain ⟨sender,_,rfl⟩ := Option.map_eq_some_iff.mp joined
  obtain ⟨conversation,kept⟩ : m.conversationId = conversationId ∧
      db.deletedFor userId m.id = false := by simpa using visible
  refine ⟨stored,conversation,kept,fun rm quotes => ?_⟩
  obtain ⟨quoted,found,rfl⟩ := Option.map_eq_some_iff.mp quotes
  exact found

/-- A listed conversation comes with the live member row of the viewer and the message that
    row points at. -/
theorem mem_listConversations {row : ConversationListRow}
    (mem : row ∈ (db.listConversations userId filterUserIds pagination).1) :
    row.member ∈ db.membersOf row.conversation.id ∧ row.member.userId = userId ∧
      row.lastMessage = row.member.lastMessageId.bind db.message := by
  have listed := (List.mem_insertionSort _).mp (mem_page mem)
  obtain ⟨c,_,joined⟩ := List.mem_flatMap.mp listed
  split at joined
  · cases joined
  · obtain ⟨m,memm,rfl⟩ := List.mem_map.mp joined
    obtain ⟨seated,own⟩ := List.mem_filter.mp memm
    exact ⟨seated,of_decide_eq_true own,rfl⟩

/-- What a viewer is shown of a conversation: its listed rows, with the quoted messages that
    he has deleted known. -/
theorem run_getUserConversationMessageList (now : Time) (conversationId userId : Uuid)
    (pagination : PaginationOptions) (w : ChatWorld) :
    ∃ deletedForMe : List Uuid,
      (ConversationPostgresReadRepository.getUserConversationMessageList now conversationId userId
        pagination).run chatHandler w =
        (.ok (PaginationHelper.createResult
          ((w.chat.listMessages conversationId userId pagination).1.map
            (ConversationPostgresReadRepository.toMessageDto now deletedForMe))
          (w.chat.listMessages conversationId userId pagination).2 pagination), w) ∧
      ∀ row ∈ (w.chat.listMessages conversationId userId pagination).1, ∀ rm,
        row.replyTo = some rm → (rm.1.id ∈ deletedForMe ↔ w.chat.deletedFor userId rm.1.id = true) := by
  have quoted : ∀ row ∈ (w.chat.listMessages conversationId userId pagination).1, ∀ rm,
      row.replyTo = some rm → row.message.replyToMessageId = some rm.1.id := by
    intro row mem rm quotes
    obtain ⟨_,_,_,found⟩ := mem_listMessages mem
    obtain ⟨id,is,stored⟩ := Option.bind_eq_some_iff.mp (found rm quotes)
    rw [is, (lookup_mem stored).2]
  unfold ConversationPostgresReadRepository.getUserConversationMessageList
  rw [run_read (fun _ => rfl), ConversationPostgresReadRepository.deletedReplies]
  by_cases none : (w.chat.listMessages conversationId userId pagination).1.filterMap
      (fun row => row.message.replyToMessageId) = []
  · refine ⟨[],by simp only [none, ↓reduceIte]; rfl,fun row mem rm quotes => ?_⟩
    have absent := List.filterMap_eq_nil_iff.mp none row mem
    rw [quoted row mem rm quotes] at absent
    cases absent
  · simp only [none, ↓reduceIte, Program.bind_assoc]
    rw [run_read (fun _ => rfl)]
    refine ⟨_,rfl,fun row mem rm quotes => ?_⟩
    have among : rm.1.id ∈ (w.chat.listMessages conversationId userId pagination).1.filterMap
        (fun row => row.message.replyToMessageId) :=
      List.mem_filterMap.mpr ⟨row,mem,quoted row mem rm quotes⟩
    simp only [List.mem_map, List.mem_filter, ChatDatabase.deletedFor, decide_eq_true_eq,
      Bool.and_eq_true]
    constructor
    · rintro ⟨⟨user,message⟩,⟨stored,rfl,_⟩,rfl⟩
      exact stored
    · exact fun stored => ⟨_,⟨stored,rfl,among⟩,rfl⟩

/-- The counts of unseen messages that the conversation list asks for. -/
def ChatDatabase.notSeenCounts (db : ChatDatabase) (userId : Uuid) (conversationIds : List Uuid) :
    List (Uuid × Nat) :=
  (db.liveMembers.filter fun m => m.userId = userId && m.conversationId ∈ conversationIds).map
    fun m => (m.conversationId, db.notSeenCount m)

/-- The other members of the listed conversations. -/
def ChatDatabase.otherMembers (db : ChatDatabase) (userId : Uuid) (conversationIds : List Uuid) :
    List SeenMember :=
  (db.liveMembers.filter fun m => m.conversationId ∈ conversationIds && m.userId ≠ userId).map
    db.withLastSeen

/-- What the ORDER BY of the conversation list makes of the rows. -/
abbrev ConversationOrder := List ConversationListRow → List ConversationListRow

/-- Postgres with its order of the rows of the conversation list. -/
def ChatWorld.answerListed (order : ConversationOrder) : {β : Type} → ChatRequest β → ChatWorld →
    β × ChatWorld
  | _, .store (.listConversations userId filterUserIds pagination), w =>
      let rows := w.chat.conversationRows userId filterUserIds
      (.ok (ChatDatabase.page pagination (order rows), rows.length), w)
  | _, q, w => w.answer q

def listedHandler (order : ConversationOrder) : Handler ChatRequest ChatWorld :=
  ⟨ChatWorld.answerListed order⟩

/-- The handler of the tables sorts the rows in one of the orders that are left open. -/
theorem chatHandler_listed :
    chatHandler = listedHandler (List.insertionSort ChatDatabase.newestFirst) := by
  unfold chatHandler listedHandler
  congr
  funext β q w
  cases q with
  | store q => cases q <;> rfl
  | _ => rfl

/-- A page of the list, in the order of the query. -/
theorem run_listedConversations (order : ConversationOrder) (userId : Uuid)
    (filterUserIds : List Uuid) (pagination : PaginationOptions) (w : ChatWorld) :
    let rows := ChatDatabase.page pagination (order (w.chat.conversationRows userId filterUserIds))
    (ConversationPostgresReadRepository.getUserConversationList userId filterUserIds
      pagination).run (listedHandler order) w =
      (.ok (PaginationHelper.createResult
        (rows.map (ConversationPostgresReadRepository.toListDto
          (w.chat.notSeenCounts userId (rows.map fun row => row.conversation.id))
          (w.chat.otherMembers userId (rows.map fun row => row.conversation.id))))
        (w.chat.conversationRows userId filterUserIds).length pagination), w) := by
  intro rows
  have listed : (listedHandler order).answer
      (.store (.listConversations userId filterUserIds pagination)) w =
        (.ok (rows, (w.chat.conversationRows userId filterUserIds).length), w) := rfl
  have counted : (listedHandler order).answer
      (.store (.countNotSeen userId (rows.map fun row => row.conversation.id))) w =
        (.ok (w.chat.notSeenCounts userId (rows.map fun row => row.conversation.id)), w) := rfl
  have joined : (listedHandler order).answer
      (.store (.getOtherMembers userId (rows.map fun row => row.conversation.id))) w =
        (.ok (w.chat.otherMembers userId (rows.map fun row => row.conversation.id)), w) := rfl
  unfold ConversationPostgresReadRepository.getUserConversationList
  refine (run_ask_bind listed _).trans ?_
  by_cases none : rows = []
  · simp [none]
  · simp only [none, ↓reduceIte]
    refine (run_ask_bind counted _).trans ?_
    exact run_ask_bind joined _

theorem run_getUserConversationList (userId : Uuid) (filterUserIds : List Uuid)
    (pagination : PaginationOptions) (w : ChatWorld) :
    (ConversationPostgresReadRepository.getUserConversationList userId filterUserIds
      pagination).run chatHandler w =
      (.ok (PaginationHelper.createResult
        ((w.chat.listConversations userId filterUserIds pagination).1.map
          (ConversationPostgresReadRepository.toListDto
            (w.chat.notSeenCounts userId
              ((w.chat.listConversations userId filterUserIds pagination).1.map
                fun row => row.conversation.id))
            (w.chat.otherMembers userId
              ((w.chat.listConversations userId filterUserIds pagination).1.map
                fun row => row.conversation.id))))
        (w.chat.listConversations userId filterUserIds pagination).2 pagination), w) := by
  rw [chatHandler_listed]
  exact run_listedConversations _ userId filterUserIds pagination w

/-- A program that reads no page: the handler answers it as the tables do. -/
abbrev Unpaged (h : Handler ChatRequest ChatWorld) {α : Type} (p : ChatProgram α) : Prop :=
  p.Only fun q => ∀ w, h.answer q w = chatHandler.answer q w

theorem run_unpaged {α β : Type} {h : Handler ChatRequest ChatWorld} {p : ChatProgram α}
    {f : α → ChatProgram β} {a : α} (unpaged : Unpaged h p)
    (run : p.run chatHandler w = (.ok a, w)) : (p >>= f).run h w = (f a).run h w := by
  apply Program.run_bind_ok
  rw [unpaged.run_same w, run]

/-- Reading a message: the row, who has deleted it, and the row it quotes. -/
theorem run_getMessageById (id : Uuid) (w : ChatWorld) :
    (ConversationPostgresRepository.getMessageById id).run chatHandler w =
      (.ok ((w.chat.message id).map fun m => .ofRows m (m.replyToMessageId.bind w.chat.message)
        (w.chat.deletedMessages.filter fun r => r.messageId = m.id)), w) := by
  have flat := getMessageById_bind id Program.done
  rw [Program.bind_done] at flat
  rw [flat, run_read (fun _ => rfl)]
  cases w.chat.message id with
  | none => rfl
  | some m => rfl

end Rows

end Chatterbox
