import Chatterbox.Chat.FailedCalls
import Chatterbox.Chat.Tombstones

/-!
Operations of many users side by side. Of every statement of an operation that writes to
the tables, or publishes an edit, it is said here what the operation has read for it at its
own earlier statements; what the others do in between is left open.
-/
namespace Chatterbox
open Concurrency Tables ConversationPostgresRepository ChatUserIntegrationAdapter

section Plain

theorem plain_askUserModule {α : Type} (p : UserProgram α) : Plain (askUserModule p) :=
  Program.only_translate _ _ (fun _ => rfl) p

theorem plain_getUserById (userId : Uuid) :
    Plain (ChatUserIntegrationAdapter.getUserById userId) :=
  (plain_askUserModule _).bind fun _ => trivial

theorem plain_getUsersByIds (userIds : List Uuid) :
    Plain (ChatUserIntegrationAdapter.getUsersByIds userIds) :=
  (plain_askUserModule _).bind fun _ => trivial

theorem plain_hasBlockRelation (userA userB : Uuid) :
    Plain (ChatUserIntegrationAdapter.hasBlockRelation userA userB) :=
  (plain_askUserModule _).bind fun _ => trivial

theorem plain_broadcast (rooms : List Uuid) (event : WsEvent) : Plain (broadcast rooms event) :=
  ⟨rfl,fun _ => trivial⟩

theorem plain_getUserConversation (conversationId userId : Uuid) :
    Plain (GetUserConversationHandler.execute conversationId userId) := by
  have load : Plain (ConversationPostgresReadRepository.getUserConversationById conversationId
      userId) := (plain_query rfl).bind fun _ => trivial
  refine load.bind fun conversation => ?_
  cases conversation <;> trivial

theorem plain_resolveParentUser (currentUser targetUser : ChatUser) (parentUserId : Option Uuid) :
    Plain (resolveParentUser currentUser targetUser parentUserId) := by
  unfold resolveParentUser
  split
  · trivial
  · split_ifs
    · trivial
    · trivial
    · exact (plain_getUserById _).map _

theorem plain_ackReply (members : List ConversationMemberReadDto) (currentUser targetUser : ChatUser)
    (m : LoadedMessage) : Plain (ChatWsGateway.ackReply members currentUser targetUser m) := by
  unfold ChatWsGateway.ackReply
  split
  · exact (plain_resolveParentUser _ _ _).bind fun _ => trivial
  · trivial

theorem plain_requireMembership (conversationId authUserId : Uuid) :
    Plain (ChatWsGateway.requireMembership conversationId authUserId) := by
  refine (plain_getUserConversation _ _).bind fun conversation => ?_
  split <;> trivial

theorem plain_announceConversation (currentUser targetUser : ChatUser) (m : MessageEntity) :
    Plain (ChatWsGateway.announceConversation currentUser targetUser m) := by
  unfold ChatWsGateway.announceConversation
  split
  · exact plain_broadcast _ _
  · exact (plain_broadcast _ _).bind fun _ => plain_broadcast _ _

theorem plain_listConversations (ilike : JsString → JsString → Bool)
    (data : GetUserConversationListRequest) (authUserId : Uuid) :
    Plain (ChatWsGateway.getUserConversationList ilike data authUserId) := by
  have filter : Plain (ChatWsGateway.filterUsers ilike data) := by
    unfold ChatWsGateway.filterUsers
    split
    · trivial
    · exact (plain_askUserModule _).bind fun _ => trivial
  have items : ∀ list, Plain (ChatWsGateway.listItems authUserId list) := by
    intro list
    unfold ChatWsGateway.listItems
    split
    · trivial
    · exact (plain_getUsersByIds _).bind fun _ => trivial
  have list : ∀ filterUserIds pagination,
      Plain (GetUserConversationListHandler.execute authUserId filterUserIds pagination) := by
    intro filterUserIds pagination
    refine (plain_query rfl).bind fun res => ?_
    dsimp only
    split
    · trivial
    · exact (plain_query rfl).bind fun _ => (plain_query rfl).bind fun _ => trivial
  refine filter.bind fun filteredUserIds => ?_
  split
  · trivial
  · exact (list _ _).bind items

theorem plain_listMessages (amb : Ambient) (data : GetConversationMessageListRequest)
    (authUserId : Uuid) : Plain (ChatWsGateway.getConversationMessageList amb data authUserId) := by
  have list : ∀ pagination, Plain (GetUserConversationMessageListHandler.execute amb.now
      data.conversationId authUserId pagination) := by
    intro pagination
    refine (plain_query rfl).bind fun res => ?_
    have replies : Plain (ConversationPostgresReadRepository.deletedReplies authUserId res.1) := by
      unfold ConversationPostgresReadRepository.deletedReplies
      dsimp only
      split
      · trivial
      · exact (plain_query rfl).bind fun _ => trivial
    exact replies.bind fun _ => trivial
  exact (plain_getUserConversation _ _).bind fun _ => (list _).bind fun _ =>
    (plain_getUsersByIds _).bind fun _ => (plain_askUserModule _).bind fun _ => trivial

theorem plain_messageEvent (event : MessageEvent) : Plain event.handle := by
  have conversation : ∀ id, Plain (tryCatchThe Failure (getConversationById id)
      fun _ => pure none) := fun id =>
    Program.Only.tryCatch (plain_getConversationById id) fun _ => trivial
  cases event with
  | edited event =>
    refine (conversation _).bind fun found => ?_
    cases found with
    | none => trivial
    | some convEntity => exact plain_broadcast _ _
  | deleted event =>
    change Plain (MessageDeletedWsEventHandler.handle event)
    unfold MessageDeletedWsEventHandler.handle
    split
    · exact plain_broadcast _ _
    · refine (conversation _).bind fun found => ?_
      cases found with
      | none => trivial
      | some convEntity => exact plain_broadcast _ _
  | created event =>
    have resolve : Plain (MessageCreatedWsEventHandler.resolve event) := by
      refine (plain_getConversationById _).bind fun found => ?_
      cases found with
      | none => trivial
      | some convEntity =>
        dsimp only
        split
        · trivial
        · exact (plain_getUserConversation _ _).bind fun _ => trivial
    have replyTo : ∀ convEntity currentUser targetUser,
        Plain (MessageCreatedWsEventHandler.replyTo convEntity currentUser targetUser event) := by
      intro convEntity currentUser targetUser
      unfold MessageCreatedWsEventHandler.replyTo
      split
      · trivial
      · refine Program.Only.tryCatch ((plain_getMessageById _).bind fun parent => ?_)
          fun _ => trivial
        cases parent with
        | none => trivial
        | some parent => exact (plain_resolveParentUser _ _ _).bind fun _ => trivial
    refine Program.Only.bind (Program.Only.tryCatch (resolve.map _) fun _ => trivial)
      fun resolved => ?_
    cases resolved with
    | none => trivial
    | some resolved =>
      obtain ⟨convEntity,senderUserId,dto⟩ := resolved
      dsimp only
      split
      · trivial
      · exact Program.Only.tryCatch ((plain_getUserById _).bind fun _ =>
          (plain_getUserById _).bind fun _ => (replyTo _ _ _).bind fun _ =>
            plain_broadcast _ _) fun _ => trivial

theorem plain_userEvent (event : UserEvent) : Plain event.handle := by
  cases event with
  | userBlocked => exact plain_broadcast _ _
  | userUnblocked => exact plain_broadcast _ _
  | userCreated => trivial

end Plain

/-- The insert of a message. -/
def ChatRequest.inserts : {β : Type} → ChatRequest β → Bool
  | _, .store (.commitMessage _ _ _) => true
  | _, _ => false

theorem inserts_of_plain {β : Type} {q : ChatRequest β} (plain : q.plain = true) :
    q.inserts = false := by
  cases q with
  | user q => rfl
  | store q => cases q <;> first | rfl | cases plain
  | bus q => rfl

variable {ι : Type}

/-- One of these steps has loaded the message, with this in its row. -/
def LoadedWith (holds : Message → Prop) (past : List (Issued ChatRequest ChatWorld ι))
    (id : Uuid) : Prop :=
  ∃ load ∈ past, load.request.loads id = true ∧
    ∃ row ∈ load.before.chat.messages, row.id = id ∧ holds row

theorem LoadedWith.append {holds : Message → Prop}
    {past later : List (Issued ChatRequest ChatWorld ι)} {id : Uuid}
    (loaded : LoadedWith holds past id) : LoadedWith holds (past ++ later) id := by
  obtain ⟨load,mem,rest⟩ := loaded
  exact ⟨load,List.mem_append_left _ mem,rest⟩

/-- What one statement of an operation can be, after the statements that the operation has
    issued before. -/
inductive OperationStep (amb : Ambient) (actor : Uuid) (operation : ChatOperation)
    (past : List (Issued ChatRequest ChatWorld ι)) : {β : Type} → ChatRequest β → Prop where
  | plain {β : Type} {q : ChatRequest β} (plain : q.plain = true) :
      OperationStep amb actor operation past q
  | edited {event : MessageEditedDomainEvent}
      (loaded : LoadedWith (fun row => row.deletedAt = none) past event.messageId) :
      OperationStep amb actor operation past (.bus (.publish (.edited event)))
  | text {id : Uuid} {text : JsString} {editedAt : Option Time} {updatedAt : Time}
      (loaded : LoadedWith (fun row => row.deletedAt = none) past id) :
      OperationStep amb actor operation past (.store (.updateMessage id text editedAt updatedAt))
  | insert {message : MessageEntity} {load : Issued ChatRequest ChatWorld ι}
      (before : load ∈ past) (drawn : ∃ k, message.id = amb.uuid k)
      (first : ∀ e ∈ past, e.request.inserts = false)
      (home : ∀ data, operation = .createConversation data →
        message.conversationId = amb.uuid 0)
      (quotes : ∀ id, message.replyToMessageId = some id →
        LoadedWith (fun row => row.conversationId = message.conversationId) past id)
      (placed : ∃ load ∈ past,
        message.conversationId ∈ load.before.chat.conversations.map Conversation.id) :
      OperationStep amb actor operation past (.store (.commitMessage (Message.fromDomain message)
        (message.deletedForUserIds.map fun userId => ⟨userId,message.id⟩)
        ((load.before.chat.membersOf message.conversationId).map message.updateMember)))
  | deletion {data : DeleteMessageRequest} (is : operation = .deleteMessage data)
      {deletion : MessageDeletion} {members : List ConversationMember}
      (loaded : LoadedWith (fun row => deletion.deletedAt ≠ none ∨
        (data.scope = .me ∧ row.deletedAt = none)) past deletion.messageId)
      (moved : ∀ cm ∈ members, ∃ load ∈ past, ∃ row ∈ load.before.chat.members, ∃ last,
        cm = { row with lastMessageId := last } ∧ ∀ id, last = some id → ∃ load ∈ past,
          ∃ m ∈ load.before.chat.messages, m.id = id ∧ m.conversationId = row.conversationId) :
      OperationStep amb actor operation past (.store (.commitDeletion deletion members))
  | opening {data : CreateConversationRequest} (is : operation = .createConversation data)
      (first : ∀ e ∈ past, e.request.writes = false) {conversation : ConversationEntity}
      (built : ConversationEntity.createDirect amb actor data.targetUserId = .ok conversation) :
      OperationStep amb actor operation past (.store (.commitConversation
        (Conversation.fromDomain conversation).1 (Conversation.fromDomain conversation).2))
  | marking {data : MarkMessageSeenRequest} (is : operation = .markMessageSeen data)
      {load : Issued ChatRequest ChatWorld ι} (before : load ∈ past)
      {rows : Conversation × List ConversationMember}
      (found : load.before.chat.getConversation data.conversationId = some rows)
      {marked : ConversationEntity}
      (marks : (Conversation.toDomain rows).markAsRead actor data.messageId = .ok marked) :
      OperationStep amb actor operation past (.store (.commitConversation
        (Conversation.fromDomain marked).1 (Conversation.fromDomain marked).2))
  | removal {data : CreateConversationRequest} (is : operation = .createConversation data) :
      OperationStep amb actor operation past (.store (.deleteConversation (amb.uuid 0) amb.now))

/-- The rows of a new conversation. -/
theorem createDirect_rows {amb : Ambient} {userId targetUserId : Uuid}
    {conversation : ConversationEntity}
    (built : ConversationEntity.createDirect amb userId targetUserId = .ok conversation) :
    Conversation.fromDomain conversation =
      (newConversation amb, newMembers amb userId targetUserId) := by
  rw [ConversationEntity.createDirect_eq] at built
  rw [← Except.ok.inj built, fromDomain_direct]

section Along
variable {amb : Ambient} {actor : Uuid} {operation : ChatOperation} {i : ι}
  {past : List (Issued ChatRequest ChatWorld ι)} {α β : Type}

abbrev AlongOperation (amb : Ambient) (actor : Uuid) (operation : ChatOperation) (i : ι)
    (past : List (Issued ChatRequest ChatWorld ι)) (p : ChatProgram α) : Prop :=
  p.Along chatAnswering (fun past e => OperationStep amb actor operation past e.request) i past

theorem steps_plain {p : ChatProgram α} (only : Plain p)
    (past : List (Issued ChatRequest ChatWorld ι)) :
    AlongOperation amb actor operation i past p :=
  only.along (fun _ _ _ _ plain => .plain plain) past

theorem steps_plain_bind {p : ChatProgram α} {f : α → ChatProgram β} (only : Plain p)
    (next : ∀ a later, (∀ e ∈ later, e.request.plain = true) →
      AlongOperation amb actor operation i (past ++ later) (f a)) :
    AlongOperation amb actor operation i past (p >>= f) :=
  Program.along_bind only (fun _ _ _ _ plain => .plain plain) past next

theorem steps_query {q : StoreRequest (Answer α)} {f : α → ChatProgram β}
    (refuses : ∀ e, q.refused e = .error e)
    (good : OperationStep amb actor operation past (.store q))
    (next : ∀ s a, (ChatDatabase.answer q s.chat).1 = .ok a →
      AlongOperation amb actor operation i (past ++ [⟨i,_,.store q,s⟩]) (f a)) :
    AlongOperation amb actor operation i past (query q >>= f) := by
  refine fun s => ⟨good,fun b answered => ?_⟩
  cases b with
  | error e => trivial
  | ok a =>
    rcases answered with is | ⟨e,is⟩
    · exact next s a is.symm
    · rw [ChatRequest.refused, refuses] at is
      cases is

theorem steps_requireMember {conversationId userId : Uuid}
    {f : ConversationMemberEntity → ChatProgram β}
    (next : ∀ member (s : ChatWorld),
      conversationId ∈ s.chat.conversations.map Conversation.id →
      AlongOperation amb actor operation i
        (past ++ [⟨i,_,.store (.getConversation conversationId),s⟩]) (f member)) :
    AlongOperation amb actor operation i past (requireMember conversationId userId >>= f) := by
  rw [requireMember_bind]
  refine steps_query (fun _ => rfl) (.plain rfl) fun s rows answered => ?_
  cases rows with
  | none => trivial
  | some rows =>
    obtain ⟨c,found,_⟩ := Option.map_eq_some_iff.mp (Except.ok.inj answered)
    obtain ⟨mem,id⟩ := lookup_mem found
    dsimp only
    split
    · trivial
    · exact next _ s (List.mem_map.mpr ⟨c,List.mem_of_mem_filter mem,id⟩)

theorem steps_requireMessage {conversationId messageId : Uuid} {f : LoadedMessage → ChatProgram β}
    (next : ∀ (s : ChatWorld) row reply deleted later, row ∈ s.chat.messages →
      row.id = messageId →
      AlongOperation amb actor operation i
        (past ++ [⟨i,_,.store (.getMessage messageId),s⟩] ++ later)
        (f (.ofRows row reply deleted))) :
    AlongOperation amb actor operation i past (requireMessage conversationId messageId >>= f) := by
  rw [requireMessage_bind]
  refine steps_query (fun _ => rfl) (.plain rfl) fun s rows answered => ?_
  cases rows with
  | none => trivial
  | some rows =>
    obtain ⟨row,reply⟩ := rows
    refine steps_query (fun _ => rfl) (.plain rfl) fun s' deleted _ => ?_
    split
    · trivial
    · obtain ⟨m,found,is⟩ := Option.map_eq_some_iff.mp (Except.ok.inj answered)
      obtain ⟨mem,id⟩ := lookup_mem found
      cases is
      exact next s _ _ deleted _ mem id

/-- The events of a command, at its end. -/
theorem steps_publishAll {events : List MessageEvent} {f : Unit → ChatProgram β}
    (loaded : ∀ event, .edited event ∈ events →
      LoadedWith (fun row => row.deletedAt = none) past event.messageId)
    (next : ∀ later, AlongOperation amb actor operation i (past ++ later) (f ())) :
    AlongOperation amb actor operation i past (publishAll events >>= f) := by
  induction events generalizing past with
  | nil =>
    have start := next []
    rwa [List.append_nil] at start
  | cons event rest ih =>
    refine fun s => ⟨?_,fun b _ => ?_⟩
    · cases event with
      | edited event => exact .edited (loaded event (by simp))
      | created event => exact .plain rfl
      | deleted event => exact .plain rfl
    · refine ih (fun event mem => (loaded event (List.mem_cons_of_mem _ mem)).append) fun later => ?_
      have longer := next ([⟨i,_,.bus (.publish event),s⟩] ++ later)
      rwa [← List.append_assoc] at longer

theorem steps_editMessage (now : Time) (command : EditMessageCommand) :
    AlongOperation amb actor operation i past (EditMessageHandler.execute now command) := by
  refine steps_plain_bind (plain_requireMember _ _) fun member later _ => ?_
  refine steps_requireMessage fun s row reply deleted later' mem id => ?_
  cases edits : (LoadedMessage.ofRows row reply deleted).message.edit now command.text member.id with
  | error e => trivial
  | ok edited =>
    simp only [Program.lift_ok, Program.done_bind, updateMessage, Program.bind_assoc]
    have same : edited.1.id = row.id :=
      (edit_id edits).trans (MessageEntity.loadDeletedForUserIds_id ..)
    obtain ⟨live,_,events⟩ := edit_ok edits
    have loaded : LoadedWith (fun row => row.deletedAt = none) (past ++ later ++
        [⟨i,_,.store (.getMessage command.messageId),s⟩] ++ later') row.id := by
      refine ⟨⟨i,_,.store (.getMessage command.messageId),s⟩,by simp,?_,row,mem,rfl,?_⟩
      · simp [ChatRequest.loads, id]
      · rwa [LoadedMessage.ofRows, MessageEntity.loadDeletedForUserIds_deletedAt] at live
    refine steps_query (fun _ => rfl) (.text (same ▸ loaded)) fun _ _ _ => ?_
    refine steps_plain_bind (plain_getMessageById _) fun saved later'' _ => ?_
    refine steps_publishAll (fun event published => ?_) fun _ =>
      steps_plain (plain_requireSaved saved) _
    have about : event.messageId = row.id := by
      rcases events with ⟨_,rfl⟩ | ⟨_,rfl⟩
      · cases published
      · cases List.mem_singleton.mp published
        exact MessageEntity.loadDeletedForUserIds_id ..
    rw [about]
    exact loaded.append.append

/-- The message that takes the place of a deleted one is one of the conversation. -/
theorem latestVisible_row {db : ChatDatabase} {deletion : MessageDeletion} {userId : Uuid}
    {m : Message}
    (found : (db.applyDeletion deletion).latestVisible deletion.conversationId userId = some m) :
    ∃ old ∈ db.messages, old.id = m.id ∧ old.conversationId = deletion.conversationId := by
  obtain ⟨stored,shown⟩ := List.mem_filter.mp (List.argmax_mem found)
  rw [Bool.and_eq_true, decide_eq_true_eq] at shown
  rcases mem_amend.mp stored with ⟨old,mem,_,rfl⟩ | ⟨mem,_⟩
  · exact ⟨old,mem,rfl,shown.1⟩
  · exact ⟨m,mem,rfl,shown.1⟩

/-- The members that pointed at a deleted message point elsewhere now, and keep the rest. -/
theorem steps_movePointers {deletion : MessageDeletion} {members : List ConversationMember}
    {f : List ConversationMember → ChatProgram β}
    (next : ∀ moved later, (∀ cm ∈ moved, ∃ row ∈ members, ∃ last,
        cm = { row with lastMessageId := last } ∧ ∀ id, last = some id → ∃ load ∈ later,
          ∃ m ∈ load.before.chat.messages, m.id = id ∧
            m.conversationId = deletion.conversationId) →
      AlongOperation amb actor operation i (past ++ later) (f moved)) :
    AlongOperation amb actor operation i past (movePointers deletion members >>= f) := by
  induction members generalizing past f with
  | nil =>
    have start := next [] [] (by simp)
    rwa [List.append_nil] at start
  | cons cm rest ih =>
    simp only [movePointers, Program.bind_assoc]
    refine steps_query (fun _ => rfl) (.plain rfl) fun s latest answered => ?_
    have found : (s.chat.applyDeletion deletion).latestVisible deletion.conversationId cm.userId =
        latest := Except.ok.inj answered
    refine ih fun moved later all => ?_
    have longer := next ({ cm with lastMessageId := latest.map Message.id } :: moved)
      ([⟨i,_,.store (.getLatestMessage deletion cm.userId),s⟩] ++ later) (by
        intro cm' mem
        rcases List.mem_cons.mp mem with rfl | tail
        · refine ⟨cm,by simp,_,rfl,fun id last => ?_⟩
          obtain ⟨m,rfl,rfl⟩ := Option.map_eq_some_iff.mp last
          obtain ⟨old,stored,is,here⟩ := latestVisible_row found
          exact ⟨⟨i,_,.store (.getLatestMessage deletion cm.userId),s⟩,by simp,old,stored,is,here⟩
        · obtain ⟨row,old,last,is,named⟩ := all cm' tail
          refine ⟨row,List.mem_cons_of_mem _ old,last,is,fun id is => ?_⟩
          obtain ⟨load,before,rest⟩ := named id is
          exact ⟨load,List.mem_append_right _ before,rest⟩)
    rwa [← List.append_assoc] at longer

theorem steps_deleteMessage {data : DeleteMessageRequest} (is : operation = .deleteMessage data)
    (now : Time) (command : DeleteMessageCommand) (scope : command.scope = data.scope) :
    AlongOperation amb actor operation i past (DeleteMessageHandler.execute now command) := by
  refine steps_plain_bind (plain_requireMember _ _) fun member later _ => ?_
  refine steps_requireMessage fun s row reply deleted later' mem id => ?_
  cases deletes : DeleteMessageHandler.delete now command member.id
      (LoadedMessage.ofRows row reply deleted).message with
  | error e => trivial
  | ok d =>
    simp only [Program.lift_ok, Program.done_bind, saveMessageDeletion, Program.bind_assoc]
    obtain ⟨sameId,_,deletedAt⟩ := delete_ok deletes
    have same : d.1.id = row.id := sameId.trans (MessageEntity.loadDeletedForUserIds_id ..)
    refine steps_query (fun _ => rfl) (.plain rfl) fun s' members answered => ?_
    refine steps_movePointers fun moved later'' all => ?_
    refine steps_query (fun _ => rfl) (.deletion is (.append (.append ?_)) fun cm moving => ?_)
      fun _ _ _ => ?_
    · refine ⟨⟨i,_,.store (.getMessage command.messageId),s⟩,by simp,?_,row,mem,same.symm,?_⟩
      · simp [ChatRequest.loads, MessageEntity.deletion, same, id]
      · refine deletedAt.imp_right fun everyone => ⟨scope ▸ everyone.1,?_⟩
        have live := everyone.2
        rwa [LoadedMessage.ofRows, MessageEntity.loadDeletedForUserIds_deletedAt] at live
    · obtain ⟨row',found,last,rfl,named⟩ := all cm moving
      cases answered
      obtain ⟨stored,_,here⟩ := ChatDatabase.membersOf_iff.mp (List.mem_of_mem_filter found)
      refine ⟨⟨i,_,.store (.getMembersAt d.1.conversationId d.1.id),s'⟩,by simp,row',stored,last,
        rfl,fun id is => ?_⟩
      obtain ⟨load,before,m,old,name,home⟩ := named id is
      exact ⟨load,List.mem_append_right _ before,m,old,name,home.trans here.symm⟩
    · refine steps_plain_bind (plain_getMessageById _) fun saved _ _ => ?_
      refine steps_publishAll (fun event published => ?_) fun _ =>
        steps_plain (plain_requireSaved saved) _
      obtain ⟨_,other⟩ := delete_events deletes _ published
      cases other

/-- A command that stores a message stores one, under an id it has drawn itself. -/
theorem steps_createMessage {amb' : Ambient} {k : ℕ} (drawn : amb'.uuid 0 = amb.uuid k)
    (command : CreateMessageCommand) (first : ∀ e ∈ past, e.request.inserts = false)
    (home : ∀ data, operation = .createConversation data →
      command.conversationId = amb.uuid 0) :
    AlongOperation amb actor operation i past (CreateMessageHandler.execute amb' command) := by
  have store : ∀ member reply (past : List (Issued ChatRequest ChatWorld ι)),
      (∀ e ∈ past, e.request.inserts = false) →
      (∃ load ∈ past,
        command.conversationId ∈ load.before.chat.conversations.map Conversation.id) →
      (∀ id, command.replyToMessageId = some id →
        LoadedWith (fun row => row.conversationId = command.conversationId) past id) →
      AlongOperation amb actor operation i past
        (CreateMessageHandler.create amb' command member reply) := by
    intro member reply past first ⟨seen,mem,placed⟩ quotes
    unfold CreateMessageHandler.create
    cases built : MessageEntity.create amb' command.text command.type member.id
        command.conversationId command.deletedForUserIds command.replyToMessageId
        command.clientMessageId with
    | error e => trivial
    | ok created =>
      obtain ⟨_,key,_,rfl⟩ := MessageEntity.create_ok built
      simp only [Program.lift_ok, Program.done_bind, saveMessage]
      refine Program.Along.bind (Program.Along.tryCatch ?_ fun e later =>
        steps_plain (plain_recoverExisting _ _) _) fun saved later => ?_
      · refine steps_query (fun _ => rfl) (.plain rfl) fun s members answered => ?_
        cases answered
        let load : Issued ChatRequest ChatWorld ι :=
          ⟨i,_,.store (.getMembers command.conversationId),s⟩
        have before : load ∈ past ++ [load] := by simp
        have none : ∀ e ∈ past ++ [load], e.request.inserts = false :=
          List.forall_mem_append.mpr ⟨first,by simp [load, ChatRequest.inserts]⟩
        exact steps_query (fun _ => rfl) (.insert before ⟨k,drawn⟩ none home
          (fun id is => (quotes id is).append) ⟨seen,List.mem_append_left _ mem,placed⟩)
          fun _ _ _ => trivial
      · refine steps_plain_bind ⟨rfl,fun _ => trivial⟩ fun _ _ _ => ?_
        cases reply <;> trivial
  refine steps_requireMember fun member s placed => ?_
  refine steps_plain_bind (plain_findExisting _ _) fun existing later all => ?_
  let seen : Issued ChatRequest ChatWorld ι :=
    ⟨i,_,.store (.getConversation command.conversationId),s⟩
  have none : ∀ e ∈ past ++ [seen] ++ later, e.request.inserts = false :=
    List.forall_mem_append.mpr ⟨List.forall_mem_append.mpr
      ⟨first,by simp [seen, ChatRequest.inserts]⟩,fun e mem => inserts_of_plain (all e mem)⟩
  have known : seen ∈ past ++ [seen] ++ later := by simp
  cases existing with
  | some existing =>
    dsimp only
    split <;> trivial
  | none =>
    dsimp only
    unfold CreateMessageHandler.loadReply
    cases quotes : command.replyToMessageId with
    | none => exact store member .none _ none ⟨seen,known,placed⟩ (by simp [quotes])
    | some id =>
      simp only [Program.bind_assoc, getMessageById_bind, loadDeletions_bind]
      refine steps_query (fun _ => rfl) ?_ fun s rows answered => ?_
      · exact .plain rfl
      cases rows with
      | none => trivial
      | some rows =>
        obtain ⟨row,quoted⟩ := rows
        dsimp only
        simp only [Program.bind_assoc]
        refine steps_query (fun _ => rfl) ?_ fun s' deleted _ => ?_
        · exact .plain rfl
        cases accepted : CreateMessageHandler.acceptReply command
            (some (.ofRows row quoted deleted)) with
        | error e => trivial
        | ok reply =>
          obtain ⟨_,here,_⟩ := acceptReply_rows_iff.mp accepted
          obtain ⟨m,found,is⟩ := Option.map_eq_some_iff.mp (Except.ok.inj answered)
          obtain ⟨mem,rowId⟩ := lookup_mem found
          cases is
          refine store member (some reply) _ ?_ ⟨seen,?_,placed⟩ ?_
          · refine List.forall_mem_append.mpr ⟨List.forall_mem_append.mpr ⟨none,?_⟩,?_⟩
            · simp [ChatRequest.inserts]
            · simp [ChatRequest.inserts]
          · exact List.mem_append_left _ (List.mem_append_left _ known)
          · intro id' is
            cases quotes.symm.trans is
            refine .append ⟨⟨i,_,.store (.getMessage id),s⟩,by simp,?_,_,mem,rowId,here⟩
            simp [ChatRequest.loads]

theorem steps_getUserById {userId : Uuid} {f : ChatUser → ChatProgram β}
    (next : ∀ user later, user.id = userId → (∀ e ∈ later, e.request.plain = true) →
      AlongOperation amb actor operation i (past ++ later) (f user)) :
    AlongOperation amb actor operation i past
      (ChatUserIntegrationAdapter.getUserById userId >>= f) := by
  refine fun s => ⟨.plain rfl,?_⟩
  rintro b (rfl | ⟨e,is⟩)
  · cases found : lookup User.id userId s.users.live with
    | none =>
      have answered : chatHandler.answer (.user (.getUserById userId)) s = (.ok none,s) :=
        congrArg (fun known => (Except.ok known,s)) found
      simp only [answered]
      trivial
    | some row =>
      have answered : chatHandler.answer (.user (.getUserById userId)) s = (.ok (some row),s) :=
        congrArg (fun known => (Except.ok known,s)) found
      simp only [answered]
      exact next _ [⟨i,_,.user (.getUserById userId),s⟩] (lookup_mem found).2 (by
        simp [ChatRequest.plain])
  · cases is
    trivial

theorem plain_doesUserExist (userId : Uuid) : Plain (doesUserExist userId) := by
  refine Program.Only.tryCatch ((plain_askUserModule _).map _) fun e => ?_
  split <;> trivial

/-- The checks of a new conversation, and its insert. -/
theorem steps_createDirect {data : CreateConversationRequest}
    (is : operation = .createConversation data) (first : ∀ e ∈ past, e.request.plain = true)
    {f : ConversationEntity → ChatProgram β}
    (next : ∀ c later, c.id = amb.uuid 0 → (∀ e ∈ later, e.request.inserts = false) →
      AlongOperation amb actor operation i (past ++ later) (f c)) :
    AlongOperation amb actor operation i past
      (CreateDirectConversationHandler.execute amb ⟨actor,data.targetUserId⟩ >>= f) := by
  simp only [CreateDirectConversationHandler.execute, Program.bind_assoc]
  refine steps_plain_bind (plain_doesUserExist _) fun userExists later₁ all₁ => ?_
  split
  · trivial
  rw [Program.bind_assoc]
  refine steps_plain_bind ((plain_askUserModule _).bind fun _ => trivial)
    fun isBlocked later₂ all₂ => ?_
  split
  · trivial
  rw [Program.bind_assoc]
  refine steps_plain_bind (plain_query rfl) fun exists' later₃ all₃ => ?_
  split
  · trivial
  have reads : ∀ e ∈ past ++ later₁ ++ later₂ ++ later₃, e.request.plain = true :=
    List.forall_mem_append.mpr ⟨List.forall_mem_append.mpr
      ⟨List.forall_mem_append.mpr ⟨first,all₁⟩,all₂⟩,all₃⟩
  unfold CreateDirectConversationHandler.create
  cases built : ConversationEntity.createDirect amb actor data.targetUserId with
  | error e => trivial
  | ok conversation =>
    simp only [Program.lift_ok, Program.done_bind, saveConversation, Program.bind_assoc]
    refine steps_query (fun _ => rfl) (.opening is (fun e mem => writes_of_plain (reads e mem)) built)
      fun s rows answered => ?_
    have id : conversation.id = amb.uuid 0 := by
      rw [ConversationEntity.createDirect_eq] at built
      rw [← Except.ok.inj built]
    cases rows with
    | none => trivial
    | some rows =>
      have saved : rows.1.id = amb.uuid 0 := by
        rw [← id]
        cases stores : s.chat.storeConversation (Conversation.fromDomain conversation).1
            (Conversation.fromDomain conversation).2 with
        | mk r stored =>
          rw [ChatDatabase.answer, stores] at answered
          dsimp only at answered
          subst answered
          obtain ⟨_,_,found⟩ := s.chat.storeConversation_ok stores
          obtain ⟨c,known,rfl⟩ := Option.map_eq_some_iff.mp found.symm
          exact (lookup_mem known).2
      have longer := next (Conversation.toDomain rows) (later₁ ++ later₂ ++ later₃ ++
        [⟨i,_,.store (.commitConversation (Conversation.fromDomain conversation).1
          (Conversation.fromDomain conversation).2),s⟩]) saved
        (List.forall_mem_append.mpr ⟨List.forall_mem_append.mpr ⟨List.forall_mem_append.mpr
          ⟨fun e mem => inserts_of_plain (all₁ e mem),fun e mem => inserts_of_plain (all₂ e mem)⟩,
            fun e mem => inserts_of_plain (all₃ e mem)⟩,by simp [ChatRequest.inserts]⟩)
      simp only [← List.append_assoc] at longer
      exact longer

/-- A request for a conversation. -/
theorem steps_createDirectConversation {data : CreateConversationRequest}
    (is : operation = .createConversation data) :
    AlongOperation amb actor operation i ([] : List (Issued ChatRequest ChatWorld ι))
      (ChatWsGateway.createDirectConversation amb data actor) := by
  refine steps_getUserById fun currentUser later current all => ?_
  refine steps_plain_bind (plain_getUserById _) fun targetUser later' all' => ?_
  refine steps_plain_bind (plain_askUserModule _) fun blockStatus later'' all'' => ?_
  split
  · trivial
  rw [current]
  have reads : ∀ e ∈ [] ++ later ++ later' ++ later'', e.request.plain = true :=
    List.forall_mem_append.mpr ⟨List.forall_mem_append.mpr
      ⟨List.forall_mem_append.mpr ⟨by simp,all⟩,all'⟩,all''⟩
  refine steps_createDirect is reads fun c opened id stores => ?_
  refine Program.Along.bind (Program.Along.tryCatch ?_ fun e failed => ?_) fun m sent => ?_
  · have none := List.forall_mem_append.mpr ⟨fun e mem => inserts_of_plain (reads e mem),stores⟩
    refine steps_createMessage (amb.skip_uuid 4 0) _ none fun data' other => ?_
    exact id
  · rw [id]
    exact steps_query (fun _ => rfl) (.removal is) fun _ _ _ => trivial
  · exact steps_plain_bind (plain_announceConversation _ _ _) fun _ _ _ => trivial

/-- A request to send a message. -/
theorem steps_createMessageRequest {data : CreateMessageRequest}
    (is : operation = .sendMessage data) :
    AlongOperation amb actor operation i ([] : List (Issued ChatRequest ChatWorld ι))
      (ChatWsGateway.createMessage amb data actor) := by
  refine steps_plain_bind (plain_getUserConversation _ _) fun conversation later all => ?_
  split
  · trivial
  refine steps_plain_bind (plain_getUserById _) fun currentUser later₁ all₁ => ?_
  refine steps_plain_bind (plain_getUserById _) fun targetUser later₂ all₂ => ?_
  refine steps_plain_bind (plain_askUserModule _) fun blockStatus later₃ all₃ => ?_
  split
  · trivial
  have none : ∀ e ∈ [] ++ later ++ later₁ ++ later₂ ++ later₃, e.request.inserts = false :=
    fun e mem => inserts_of_plain (List.forall_mem_append.mpr ⟨List.forall_mem_append.mpr
      ⟨List.forall_mem_append.mpr ⟨List.forall_mem_append.mpr
        ⟨by simp,all⟩,all₁⟩,all₂⟩,all₃⟩ e mem)
  refine Program.Along.bind (steps_createMessage (Eq.refl (amb.uuid 0)) _ none fun data' other => ?_)
    fun m sent => ?_
  · rw [is] at other
    cases other
  · exact steps_plain_bind (plain_ackReply _ _ _ _) fun _ _ _ => trivial

theorem steps_requireMembership {conversationId : Uuid} {f : ConversationReadDto → ChatProgram β}
    (next : ∀ dto later, dto.id = conversationId → (∀ e ∈ later, e.request.plain = true) →
      AlongOperation amb actor operation i (past ++ later) (f dto)) :
    AlongOperation amb actor operation i past
      (ChatWsGateway.requireMembership conversationId actor >>= f) := by
  simp only [ChatWsGateway.requireMembership, GetUserConversationHandler.execute,
    ConversationPostgresReadRepository.getUserConversationById, Program.bind_assoc]
  refine steps_query (fun _ => rfl) (.plain rfl) fun s rows answered => ?_
  cases rows with
  | none => trivial
  | some rows =>
    have found : s.chat.getUserConversation conversationId actor = some rows :=
      Except.ok.inj answered
    have home : rows.1.id = conversationId := by
      unfold ChatDatabase.getUserConversation at found
      split_ifs at found
      obtain ⟨c,known,rfl⟩ := Option.map_eq_some_iff.mp found
      exact (lookup_mem known).2
    change AlongOperation amb actor operation i _ ((if (_ : Bool) = true then pure _ else throw _) >>= f)
    split_ifs
    · exact next _ [⟨i,_,.store (.getUserConversation conversationId actor),s⟩] home (by
        simp [ChatRequest.plain, StoreRequest.writes])
    · trivial

/-- A request to mark a message as seen. -/
theorem steps_markMessageAsSeen {data : MarkMessageSeenRequest}
    (is : operation = .markMessageSeen data) :
    AlongOperation amb actor operation i ([] : List (Issued ChatRequest ChatWorld ι))
      (ChatWsGateway.markMessageAsSeen data actor) := by
  refine steps_requireMembership fun conversation later home all => ?_
  simp only [home, MarkConversationAsReadCommandHandler.execute, requireConversation,
    getConversationById, Program.bind_assoc]
  refine steps_query (fun _ => rfl) (.plain rfl) fun s rows answered => ?_
  cases rows with
  | none => trivial
  | some rows =>
    have found : s.chat.getConversation data.conversationId = some rows := Except.ok.inj answered
    change AlongOperation amb actor operation i _ ((liftM ((Conversation.toDomain rows).markAsRead
      actor data.messageId) : ChatProgram ConversationEntity) >>= _)
    cases marks : (Conversation.toDomain rows).markAsRead actor data.messageId with
    | error e => trivial
    | ok marked =>
      rw [Program.lift_ok, Program.done_bind]
      let load : Issued ChatRequest ChatWorld ι :=
        ⟨i,_,.store (.getConversation data.conversationId),s⟩
      have before : load ∈ [] ++ later ++ [load] := by simp
      simp only [saveConversation, Program.bind_assoc]
      refine steps_query (fun _ => rfl) (.marking is before found marks) fun _ _ _ => ?_
      exact steps_plain (plain_broadcast _ _) _

/-- Every step of an operation is one of these steps. -/
theorem steps_operation (ilike : JsString → JsString → Bool) (amb : Ambient) (actor : Uuid)
    (operation : ChatOperation) (i : ι) :
    AlongOperation amb actor operation i ([] : List (Issued ChatRequest ChatWorld ι))
      (operation.execute ilike amb actor) := by
  cases operation with
  | createConversation data =>
    exact (steps_createDirectConversation rfl).bind fun _ _ => trivial
  | sendMessage data => exact (steps_createMessageRequest rfl).bind fun _ _ => trivial
  | editMessage data =>
    refine Program.Along.bind (steps_requireMembership fun _ _ _ _ => ?_) fun _ _ => trivial
    exact (steps_editMessage amb.now _).bind fun _ _ => trivial
  | deleteMessage data =>
    refine Program.Along.bind (steps_requireMembership fun _ _ _ _ => ?_) fun _ _ => trivial
    exact (steps_deleteMessage rfl amb.now _ rfl).bind fun _ _ => trivial
  | listConversations data => exact steps_plain ((plain_listConversations _ _ _).map _) _
  | listMessages data => exact steps_plain ((plain_listMessages _ _ _).map _) _
  | markMessageSeen data => exact (steps_markMessageAsSeen rfl).bind fun _ _ => trivial
  | block targetUserId => exact steps_plain ((plain_askUserModule _).map _) _
  | unblock targetUserId => exact steps_plain ((plain_askUserModule _).map _) _

end Along

end Chatterbox
