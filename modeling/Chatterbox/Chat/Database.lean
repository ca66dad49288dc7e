import Chatterbox.Chat.Entities
import Chatterbox.User.Directory
import Mathlib.Data.List.MinMax
import Mathlib.Data.List.Sort
import Mathlib.Order.WithBot

/-!
The tables of the chat module, and Postgres as its repositories see it. A request is
one statement, or one transaction at the moment it commits; a statement inside a
transaction that reads what the transaction has written carries those writes with it.
Soft-deleted conversations and members are invisible to selects; a message that is
deleted for everyone stays a row like any other.
-/
namespace Chatterbox
open Concurrency Tables

structure Conversation where
  id : Uuid
  type : ConversationType
  title : Option JsString
  picture : Option JsString
  identifier : Option Uuid
  createdAt : Time
  deletedAt : Option Time
  deriving DecidableEq, Repr

structure ConversationMember where
  id : Uuid
  userId : Uuid
  conversationId : Uuid
  lastSeenMessageId : Option Uuid
  lastMessageId : Option Uuid
  createdAt : Time
  deletedAt : Option Time
  deriving DecidableEq, Repr

structure Message where
  id : Uuid
  text : JsString
  type : MessageType
  senderId : Uuid
  conversationId : Uuid
  createdAt : Time
  updatedAt : Time
  editedAt : Option Time
  deletedAt : Option Time
  replyToMessageId : Option Uuid
  clientMessageId : Option JsString
  deriving DecidableEq, Repr

structure DeletedMessage where
  userId : Uuid
  messageId : Uuid
  deriving DecidableEq, Repr

/-- The columns of `conversation_members_conversation_user_uniq`. -/
def ConversationMember.seat (m : ConversationMember) : Uuid × Uuid := (m.conversationId, m.userId)

/-- The columns by which a live select recognises a member. -/
def ConversationMember.identity (m : ConversationMember) : Uuid × Uuid × Uuid × Option Time :=
  (m.id, m.userId, m.conversationId, m.deletedAt)

/-- The columns of `messages_sender_id_client_message_id_uniq`. -/
def Message.clientKey (m : Message) : Uuid × Uuid × Option JsString :=
  (m.conversationId, m.senderId, m.clientMessageId)

structure ChatDatabase where
  conversations : List Conversation
  members : List ConversationMember
  messages : List Message
  deletedMessages : List DeletedMessage
  deriving DecidableEq, Repr

/-- What a deletion writes to a message and to its `deleted_messages` rows. -/
structure MessageDeletion where
  messageId : Uuid
  conversationId : Uuid
  deletedForUserIds : List Uuid
  deletedAt : Option Time
  updatedAt : Time
  deriving DecidableEq, Repr

def MessageDeletion.mark (d : MessageDeletion) (m : Message) : Message :=
  { m with deletedAt := d.deletedAt, updatedAt := d.updatedAt }

/-- What an edit writes to a message. -/
def Message.withText (text : JsString) (editedAt : Option Time) (updatedAt : Time)
    (m : Message) : Message :=
  { m with text, editedAt, updatedAt }

structure PaginationOptions where
  page : Nat
  pageSize : Nat
  offset : Nat
  limit : Nat
  deriving DecidableEq, Repr

/-- A row of the conversation list: the member row of the viewer and what it points at. -/
structure ConversationListRow where
  conversation : Conversation
  member : ConversationMember
  lastSeenMessage : Option Message
  lastMessage : Option Message
  lastMessageSender : Option ConversationMember
  deriving DecidableEq, Repr

/-- What the conversation list is ordered by. In a descending order Postgres has the rows without
    a last message first. -/
def ConversationListRow.lastMessageAt (row : ConversationListRow) : WithTop Time :=
  row.lastMessage.map Message.createdAt

/-- A row of the message list: a message, its sender, the quoted message and its sender. -/
structure MessageListRow where
  message : Message
  sender : ConversationMember
  replyTo : Option (Message × Option ConversationMember)
  deriving DecidableEq, Repr

/-- A member row with the message it has last seen. -/
abbrev SeenMember := ConversationMember × Option Message

inductive StoreRequest : Type → Type where
  | getConversation (id : Uuid) :
      StoreRequest (Answer (Option (Conversation × List ConversationMember)))
  | getMessage (id : Uuid) : StoreRequest (Answer (Option (Message × Option Message)))
  | getMessageByKey (conversationId senderId : Uuid) (clientMessageId : JsString) :
      StoreRequest (Answer (Option (Message × Option Message)))
  | getDeletedMessages (messageId : Uuid) : StoreRequest (Answer (List DeletedMessage))
  | getMembers (conversationId : Uuid) : StoreRequest (Answer (List ConversationMember))
  | commitMessage (message : Message) (deleted : List DeletedMessage)
      (members : List ConversationMember) : StoreRequest (Answer Unit)
  | updateMessage (id : Uuid) (text : JsString) (editedAt : Option Time) (updatedAt : Time) :
      StoreRequest (Answer Unit)
  | getMembersAt (conversationId messageId : Uuid) :
      StoreRequest (Answer (List ConversationMember))
  | getLatestMessage (deletion : MessageDeletion) (userId : Uuid) :
      StoreRequest (Answer (Option Message))
  | commitDeletion (deletion : MessageDeletion) (members : List ConversationMember) :
      StoreRequest (Answer Unit)
  | commitConversation (conversation : Conversation) (members : List ConversationMember) :
      StoreRequest (Answer (Option (Conversation × List ConversationMember)))
  | deleteConversation (id : Uuid) (now : Time) : StoreRequest (Answer Bool)
  | conversationExists (userId targetUserId : Uuid) : StoreRequest (Answer Bool)
  | getUserConversation (conversationId userId : Uuid) :
      StoreRequest (Answer (Option (Conversation × List SeenMember)))
  | listConversations (userId : Uuid) (filterUserIds : List Uuid)
      (pagination : PaginationOptions) : StoreRequest (Answer (List ConversationListRow × Nat))
  | countNotSeen (userId : Uuid) (conversationIds : List Uuid) :
      StoreRequest (Answer (List (Uuid × Nat)))
  | getOtherMembers (userId : Uuid) (conversationIds : List Uuid) :
      StoreRequest (Answer (List SeenMember))
  | listMessages (conversationId userId : Uuid) (pagination : PaginationOptions) :
      StoreRequest (Answer (List MessageListRow × Nat))
  | getDeletedAmong (userId : Uuid) (messageIds : List Uuid) :
      StoreRequest (Answer (List DeletedMessage))

namespace ChatDatabase
variable (db : ChatDatabase)

def liveConversations : List Conversation :=
  db.conversations.filter (fun c => c.deletedAt.isNone)

def liveMembers : List ConversationMember := db.members.filter (fun m => m.deletedAt.isNone)

def membersOf (conversationId : Uuid) : List ConversationMember :=
  db.liveMembers.filter (fun m => m.conversationId = conversationId)

def isMember (conversationId userId : Uuid) : Bool :=
  (db.membersOf conversationId).any (fun m => m.userId = userId)

def message (id : Uuid) : Option Message := lookup Message.id id db.messages

def deletedFor (userId messageId : Uuid) : Bool :=
  decide (⟨userId,messageId⟩ ∈ db.deletedMessages)

/-- The user still sees the message: nobody has deleted it for him or for everyone. -/
def visibleTo (userId : Uuid) (m : Message) : Bool :=
  m.deletedAt.isNone && !db.deletedFor userId m.id

/-- The message of the conversation that the user sees and that was created last. -/
def latestVisible (conversationId userId : Uuid) : Option Message :=
  (db.messages.filter fun m =>
    m.conversationId = conversationId && db.visibleTo userId m).argmax Message.createdAt

def getConversation (id : Uuid) : Option (Conversation × List ConversationMember) :=
  (lookup Conversation.id id db.liveConversations).map (fun c => (c, db.membersOf id))

def withReply (m : Message) : Message × Option Message :=
  (m, m.replyToMessageId.bind db.message)

def withLastSeen (m : ConversationMember) : SeenMember :=
  (m, m.lastSeenMessageId.bind db.message)

/-- The transaction of `saveMessage`: the unique index on the client key, the primary key
    of `deleted_messages`, and then all its writes. The text and the client id are taken to be
    well-formed UTF-16 without U+0000, which the column has as they are. -/
def storeMessage (message : Message) (deleted : List DeletedMessage)
    (members : List ConversationMember) : Answer Unit × ChatDatabase :=
  if message.clientMessageId.isSome &&
      db.messages.any (fun m => m.id ≠ message.id && m.clientKey = message.clientKey) then
    (.error ⟨.uniqueViolation, "messages_sender_id_client_message_id_uniq"⟩, db)
  else if ¬ deleted.Nodup then (.error ⟨.uniqueViolation, "PK_291432ce5670ad7a99d1ec20818"⟩, db)
  else (.ok (), { db with
    messages := save Message.id message db.messages
    deletedMessages := saveAll id deleted db.deletedMessages
    members := saveAll ConversationMember.id members db.members })

/-- The update of an edit. The text is taken to be well-formed, as that of a new message. -/
def updateMessage (id : Uuid) (text : JsString) (editedAt : Option Time) (updatedAt : Time) :
    ChatDatabase :=
  { db with
    messages := amend (fun m => m.id = id) (Message.withText text editedAt updatedAt) db.messages }

theorem storeMessage_error {message : Message} {deleted : List DeletedMessage}
    {members : List ConversationMember} {e : DbError} {stored : ChatDatabase}
    (failed : db.storeMessage message deleted members = (.error e, stored)) : stored = db := by
  unfold storeMessage at failed
  split_ifs at failed <;> cases failed <;> rfl

theorem storeMessage_ok {message : Message} {deleted : List DeletedMessage}
    {members : List ConversationMember} {stored : ChatDatabase}
    (done : db.storeMessage message deleted members = (.ok (), stored)) :
    (∀ k, message.clientMessageId = some k → ∀ m ∈ db.messages, m.id ≠ message.id →
        m.clientKey ≠ message.clientKey) ∧ deleted.Nodup ∧
      stored = { db with
        messages := save Message.id message db.messages
        deletedMessages := saveAll id deleted db.deletedMessages
        members := saveAll ConversationMember.id members db.members } := by
  unfold storeMessage at done
  split_ifs at done with taken distinct <;> cases done
  refine ⟨fun k given m mem other same => taken ?_,distinct,rfl⟩
  rw [given]
  simpa using ⟨m,mem,other,same⟩

/-- The database as the transaction of a deletion sees it before it has moved pointers. -/
def applyDeletion (d : MessageDeletion) : ChatDatabase :=
  { db with
    messages := amend (fun m => m.id = d.messageId) d.mark db.messages
    deletedMessages := saveAll id (d.deletedForUserIds.map fun u => ⟨u,d.messageId⟩)
      db.deletedMessages }

def storeDeletion (d : MessageDeletion) (members : List ConversationMember) : ChatDatabase :=
  { db.applyDeletion d with members := saveAll ConversationMember.id members db.members }

/-- The transaction of `saveConversation`: the unique indexes, the foreign keys of the
    member pointers, and then all its writes. -/
def storeConversation (conversation : Conversation) (members : List ConversationMember) :
    Answer (Option (Conversation × List ConversationMember)) × ChatDatabase :=
  if conversation.identifier.isSome && db.conversations.any (fun c =>
      c.id ≠ conversation.id && c.identifier = conversation.identifier) then
    (.error ⟨.uniqueViolation, "conversations_identifier_uniq"⟩, db)
  else if members.any (fun m => db.members.any fun r => r.id ≠ m.id && r.seat = m.seat) then
    (.error ⟨.uniqueViolation, "conversation_members_conversation_user_uniq"⟩, db)
  else if members.any (fun m => m.lastSeenMessageId.any fun id => (db.message id).isNone) then
    (.error ⟨.foreignKeyViolation, "FK_ae81cc388649f0c1348c155c828"⟩, db)
  else if members.any (fun m => m.lastMessageId.any fun id => (db.message id).isNone) then
    (.error ⟨.foreignKeyViolation, "FK_ababfb5efdac0d785efb19722d7"⟩, db)
  else
    let stored := { db with
      conversations := save Conversation.id conversation db.conversations
      members := saveAll ConversationMember.id members db.members }
    (.ok (stored.getConversation conversation.id), stored)

theorem storeConversation_error {conversation : Conversation} {members : List ConversationMember}
    {e : DbError} {stored : ChatDatabase}
    (failed : db.storeConversation conversation members = (.error e, stored)) : stored = db := by
  unfold storeConversation at failed
  split_ifs at failed <;> cases failed <;> rfl

theorem storeConversation_ok {conversation : Conversation} {members : List ConversationMember}
    {rows : Option (Conversation × List ConversationMember)} {stored : ChatDatabase}
    (done : db.storeConversation conversation members = (.ok rows, stored)) :
    (∀ m ∈ members, ∀ r ∈ db.members, r.id ≠ m.id → r.seat ≠ m.seat) ∧
      stored = { db with
        conversations := save Conversation.id conversation db.conversations
        members := saveAll ConversationMember.id members db.members } ∧
      rows = stored.getConversation conversation.id := by
  unfold storeConversation at done
  split_ifs at done with identifier seat seen last
  · cases done
  · cases done
  · cases done
  · cases done
  · obtain ⟨first,rfl⟩ := Prod.mk.inj done
    refine ⟨fun m mem r memr other same => seat ?_,rfl,(Except.ok.inj first).symm⟩
    simpa using ⟨m,mem,r,memr,other,same⟩

/-- What the foreign key of the seen message demands. -/
theorem storeConversation_seen {conversation : Conversation} {members : List ConversationMember}
    {rows : Option (Conversation × List ConversationMember)} {stored : ChatDatabase}
    (done : db.storeConversation conversation members = (.ok rows, stored)) :
    ∀ m ∈ members, ∀ id, m.lastSeenMessageId = some id → (db.message id).isSome := by
  unfold storeConversation at done
  split_ifs at done with identifier seat seen last
  · cases done
  · cases done
  · cases done
  · cases done
  · intro m mem id is
    by_contra missing
    refine seen (List.any_eq_true.mpr ⟨m,mem,?_⟩)
    rw [is, Option.any_some, Option.isNone_iff_eq_none]
    exact Option.not_isSome_iff_eq_none.mp missing

/-- A live conversation that has been stored is found again. -/
theorem storeConversation_found {conversation : Conversation} {members : List ConversationMember}
    {rows : Option (Conversation × List ConversationMember)} {stored : ChatDatabase}
    (done : db.storeConversation conversation members = (.ok rows, stored))
    (live : conversation.deletedAt = none) : rows.isSome := by
  obtain ⟨_,rfl,rfl⟩ := db.storeConversation_ok done
  simp only [getConversation, Option.isSome_map, lookup_isSome_iff, liveConversations,
    List.mem_filter, mem_save]
  exact ⟨conversation,⟨Or.inl rfl,by simp [live]⟩,rfl⟩

/-- Both soft deletes of `deleteConversation`, with the count of the second. They date live rows
    only. -/
def removeConversation (id : Uuid) (now : Time) : Answer Bool × ChatDatabase :=
  (.ok (db.conversations.countP (fun c => c.deletedAt.isNone && c.id = id) = 1),
    { db with
      members := amend (fun m => m.deletedAt.isNone && m.conversationId = id)
        (fun m => { m with deletedAt := some now }) db.members
      conversations := amend (fun c => c.deletedAt.isNone && c.id = id)
        (fun c => { c with deletedAt := some now }) db.conversations })

def conversationExists (userId targetUserId : Uuid) : Bool :=
  db.liveConversations.any fun c =>
    c.type = .direct && db.isMember c.id userId && db.isMember c.id targetUserId

def getUserConversation (conversationId userId : Uuid) :
    Option (Conversation × List SeenMember) :=
  if db.isMember conversationId userId then
    (lookup Conversation.id conversationId db.liveConversations).map fun c =>
      (c, (db.membersOf conversationId).map db.withLastSeen)
  else none

def newestFirst (a b : ConversationListRow) : Prop := b.lastMessageAt ≤ a.lastMessageAt

instance : DecidableRel newestFirst := fun a b =>
  inferInstanceAs (Decidable (b.lastMessageAt ≤ a.lastMessageAt))

def page {α : Type} (pagination : PaginationOptions) (rows : List α) : List α :=
  (rows.drop pagination.offset).take pagination.limit

theorem map_page {α β : Type} (f : α → β) (pagination : PaginationOptions) (rows : List α) :
    (page pagination rows).map f = page pagination (rows.map f) := by
  simp [page, List.map_take, List.map_drop]

def conversationRows (userId : Uuid) (filterUserIds : List Uuid) : List ConversationListRow :=
  db.liveConversations.flatMap fun c =>
    if filterUserIds ≠ [] ∧ ¬ filterUserIds.any (db.isMember c.id) then [] else
      ((db.membersOf c.id).filter (fun m => m.userId = userId)).map fun m =>
        { conversation := c, member := m
          lastSeenMessage := m.lastSeenMessageId.bind db.message
          lastMessage := m.lastMessageId.bind db.message
          lastMessageSender := (m.lastMessageId.bind db.message).bind fun last =>
            lookup ConversationMember.id last.senderId db.liveMembers }

def listConversations (userId : Uuid) (filterUserIds : List Uuid)
    (pagination : PaginationOptions) : List ConversationListRow × Nat :=
  let rows := db.conversationRows userId filterUserIds
  (page pagination (rows.insertionSort newestFirst), rows.length)

/-- The messages of the conversation after the one last seen, less those deleted for the
    user. -/
def notSeenCount (m : ConversationMember) : Nat :=
  let unseen := db.messages.filter fun n =>
    n.conversationId = m.conversationId && n.deletedAt.isNone &&
      m.lastSeenMessageId.all (fun id => id < n.id)
  unseen.length - unseen.countP (fun n => db.deletedFor m.userId n.id)

def messageRows (conversationId userId : Uuid) : List MessageListRow :=
  (db.messages.filter fun m =>
      m.conversationId = conversationId && !db.deletedFor userId m.id).filterMap fun m =>
    (lookup ConversationMember.id m.senderId db.liveMembers).map fun sender =>
      { message := m, sender
        replyTo := (m.replyToMessageId.bind db.message).map fun rm =>
          (rm, lookup ConversationMember.id rm.senderId db.liveMembers) }

def listMessages (conversationId userId : Uuid) (pagination : PaginationOptions) :
    List MessageListRow × Nat :=
  let rows := db.messageRows conversationId userId
  (page pagination (rows.insertionSort fun a b => b.message.createdAt ≤ a.message.createdAt),
    rows.length)

def answer : {β : Type} → StoreRequest β → ChatDatabase → β × ChatDatabase
  | _, .getConversation id, db => (.ok (db.getConversation id), db)
  | _, .getMessage id, db => (.ok ((db.message id).map db.withReply), db)
  | _, .getMessageByKey conversationId senderId clientMessageId, db =>
      (.ok ((lookup Message.clientKey (conversationId, senderId, some clientMessageId)
        db.messages).map db.withReply), db)
  | _, .getDeletedMessages messageId, db =>
      (.ok (db.deletedMessages.filter fun r => r.messageId = messageId), db)
  | _, .getMembers conversationId, db => (.ok (db.membersOf conversationId), db)
  | _, .commitMessage message deleted members, db => db.storeMessage message deleted members
  | _, .updateMessage id text editedAt updatedAt, db =>
      (.ok (), db.updateMessage id text editedAt updatedAt)
  | _, .getMembersAt conversationId messageId, db =>
      (.ok ((db.membersOf conversationId).filter fun m => m.lastMessageId = some messageId), db)
  | _, .getLatestMessage deletion userId, db =>
      (.ok ((db.applyDeletion deletion).latestVisible deletion.conversationId userId), db)
  | _, .commitDeletion deletion members, db => (.ok (), db.storeDeletion deletion members)
  | _, .commitConversation conversation members, db => db.storeConversation conversation members
  | _, .deleteConversation id now, db => db.removeConversation id now
  | _, .conversationExists userId targetUserId, db =>
      (.ok (db.conversationExists userId targetUserId), db)
  | _, .getUserConversation conversationId userId, db =>
      (.ok (db.getUserConversation conversationId userId), db)
  | _, .listConversations userId filterUserIds pagination, db =>
      (.ok (db.listConversations userId filterUserIds pagination), db)
  | _, .countNotSeen userId conversationIds, db =>
      (.ok ((db.liveMembers.filter fun m =>
        m.userId = userId && m.conversationId ∈ conversationIds).map fun m =>
          (m.conversationId, db.notSeenCount m)), db)
  | _, .getOtherMembers userId conversationIds, db =>
      (.ok ((db.liveMembers.filter fun m =>
        m.conversationId ∈ conversationIds && m.userId ≠ userId).map db.withLastSeen), db)
  | _, .listMessages conversationId userId pagination, db =>
      (.ok (db.listMessages conversationId userId pagination), db)
  | _, .getDeletedAmong userId messageIds, db =>
      (.ok (db.deletedMessages.filter fun r => r.userId = userId && r.messageId ∈ messageIds), db)

theorem membersOf_iff {db : ChatDatabase} {conversationId : Uuid} {cm : ConversationMember} :
    cm ∈ db.membersOf conversationId ↔
      cm ∈ db.members ∧ cm.deletedAt = none ∧ cm.conversationId = conversationId := by
  simp only [membersOf, liveMembers, List.mem_filter, Option.isNone_iff_eq_none,
    decide_eq_true_eq, and_assoc]

end ChatDatabase

/-- Rows that a live select recognises as the same have the same keys. -/
theorem keyed_of_identity {rows rows' : List ConversationMember}
    (same : rows'.map ConversationMember.identity = rows.map ConversationMember.identity)
    (keyed : Keyed ConversationMember.id rows) : Keyed ConversationMember.id rows' := by
  have ids : ∀ rows : List ConversationMember,
      rows.map ConversationMember.id = (rows.map ConversationMember.identity).map Prod.fst :=
    fun rows => by rw [List.map_map]; rfl
  unfold Keyed at keyed ⊢
  rwa [ids, same, ← ids]

/-- Saving copies of member rows that differ from them only in their pointers. -/
theorem identity_saveAll {db : ChatDatabase} (keyed : Keyed ConversationMember.id db.members)
    {copies : List ConversationMember}
    (known : ∀ c ∈ copies, ∃ r ∈ db.members, r.identity = c.identity) :
    (saveAll ConversationMember.id copies db.members).map ConversationMember.identity =
      db.members.map ConversationMember.identity := by
  apply map_saveAll
  · intro c mem
    obtain ⟨r,memr,is⟩ := known c mem
    exact ⟨r,memr,congrArg Prod.fst is⟩
  · intro c mem r memr same
    obtain ⟨r',memr',is⟩ := known c mem
    rw [keyed_unique keyed memr memr' (same.trans (congrArg Prod.fst is).symm)]
    exact is

theorem identity_saved {db : ChatDatabase} (keyed : Keyed ConversationMember.id db.members)
    {rows : List ConversationMember} (stored : ∀ m ∈ rows, m ∈ db.members)
    {change : ConversationMember → ConversationMember}
    (frame : ∀ m, (change m).identity = m.identity) :
    (saveAll ConversationMember.id (rows.map change) db.members).map ConversationMember.identity =
      db.members.map ConversationMember.identity := by
  apply identity_saveAll keyed
  intro c mem
  obtain ⟨m,memm,rfl⟩ := List.mem_map.mp mem
  exact ⟨m,stored m memm,(frame m).symm⟩

theorem isMember_iff {db : ChatDatabase} {conversationId userId : Uuid} :
    db.isMember conversationId userId = true ↔
      ∃ id, (id, userId, conversationId, none) ∈ db.members.map ConversationMember.identity := by
  simp only [ChatDatabase.isMember, ChatDatabase.membersOf, ChatDatabase.liveMembers,
    List.any_eq_true, List.mem_filter, decide_eq_true_eq, Option.isNone_iff_eq_none, List.mem_map,
    ConversationMember.identity, Prod.mk.injEq]
  constructor
  · rintro ⟨m,⟨⟨mem,live⟩,conv⟩,user⟩
    exact ⟨m.id,m,mem,rfl,user,conv,live⟩
  · rintro ⟨id,m,mem,_,user,conv,live⟩
    exact ⟨m,⟨⟨mem,live⟩,conv⟩,user⟩

/-- A member is a user with a live row in the conversation. -/
theorem isMember_row {db : ChatDatabase} {conversationId userId : Uuid} :
    db.isMember conversationId userId = true ↔ ∃ cm ∈ db.members, cm.deletedAt = none ∧
      cm.conversationId = conversationId ∧ cm.userId = userId := by
  simp only [ChatDatabase.isMember, List.any_eq_true, decide_eq_true_eq,
    ChatDatabase.membersOf_iff, and_assoc]

theorem isMember_of_identity {db db' : ChatDatabase}
    (same : db'.members.map ConversationMember.identity =
      db.members.map ConversationMember.identity) (conversationId userId : Uuid) :
    db'.isMember conversationId userId = db.isMember conversationId userId := by
  rw [Bool.eq_iff_iff, isMember_iff, isMember_iff, same]

end Chatterbox
