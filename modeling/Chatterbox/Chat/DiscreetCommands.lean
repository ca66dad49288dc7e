import Chatterbox.Chat.Discretion

/-!
The commands on conversations and messages keep texts where they were written: what a command
loads, stores and publishes is of the conversation that its user has named and is a member of.
-/
namespace Chatterbox
open Concurrency Tables ConversationPostgresRepository ChatUserIntegrationAdapter

section Texts
variable {ι : Type} {activities : ι → Activity} {ambs : ι → Ambient} {i : ι} {s : ChatWorld}

section Repository
variable {conversationId userId : Uuid}

theorem leads_getConversationById (id : Uuid) (kept : Discretion activities ambs s) :
    Leads activities ambs i
      (fun found v => ∀ c, found = some c → ∀ m ∈ c.members, v.chat.Hosts id m.userId)
      (getConversationById id) s := by
  refine (leads_read rfl (fun _ => rfl)).bind kept fun rows t _ _ ⟨u,_,is,later⟩ => ?_
  refine leads_pure fun v more _ c some m mem => ?_
  obtain ⟨rows,found,rfl⟩ := Option.map_eq_some_iff.mp (is ▸ some)
  obtain ⟨_,_,rfl⟩ := Option.map_eq_some_iff.mp found
  obtain ⟨cm,seated,rfl⟩ := List.mem_map.mp mem
  exact (ChatDatabase.hosts_of_membersOf seated).later (later.trans more).places

theorem leads_requireConversation (kept : Discretion activities ambs s) :
    Leads activities ambs i
      (fun c v => ∀ m ∈ c.members, v.chat.Hosts conversationId m.userId)
      (requireConversation conversationId) s := by
  refine (leads_getConversationById conversationId kept).bind kept fun found t _ _ hosts => ?_
  cases found with
  | none => exact leads_throw _
  | some c => exact leads_pure fun v more _ m mem => (hosts c rfl m mem).later more.places

theorem leads_requireMember (kept : Discretion activities ambs s) :
    Leads activities ambs i (fun _ v => v.chat.Hosts conversationId userId)
      (requireMember conversationId userId) s := by
  refine (leads_requireConversation kept).bind kept fun c t _ _ hosts => ?_
  cases found : c.members.find? (fun m => m.userId = userId) with
  | none => exact leads_throw _
  | some member =>
    refine leads_pure fun v more _ => ?_
    have own : member.userId = userId := by simpa using List.find?_some found
    exact own ▸ (hosts member (List.mem_of_find?_eq_some found)).later more.places

/-- The users for whom a message is deleted do not change where it is from. -/
theorem genuine_loadDeletedForUserIds {message : MessageEntity} {parent : Option MessageEntity}
    (userIds : List Uuid) (stored : s.chat.Names message.conversationId (some message.id))
    (text : Shows activities ambs s.chat message.conversationId (message.id, some message.text))
    (quoted : ∀ p, parent = some p →
      Shows activities ambs s.chat message.conversationId (p.id, some p.text)) :
    LoadedMessage.Genuine activities ambs s.chat
      ⟨message.loadDeletedForUserIds userIds,parent⟩ := by
  have home := MessageEntity.loadDeletedForUserIds_conversationId message userIds
  have id := MessageEntity.loadDeletedForUserIds_id message userIds
  have same := MessageEntity.loadDeletedForUserIds_text message userIds
  refine ⟨?_,?_,fun p is => ?_⟩
  · rwa [home, id]
  · rwa [home, id, same]
  · rw [home]
    exact quoted p is

/-- A message that has been loaded comes from its conversation. -/
theorem genuine_ofRows (kept : Discretion activities ambs s) {m : Message}
    (mem : m ∈ s.chat.messages) (deleted : List DeletedMessage) :
    (LoadedMessage.ofRows m (m.replyToMessageId.bind s.chat.message) deleted).Genuine activities
      ambs s.chat := by
  have stored : s.chat.Names m.conversationId (some m.id) :=
    fun _ is => ⟨m,mem,Option.some.inj is,rfl⟩
  refine genuine_loadDeletedForUserIds _ stored (kept.texts m mem).shows fun parent is => ?_
  obtain ⟨quoted,found,rfl⟩ := Option.map_eq_some_iff.mp is
  obtain ⟨q,_,read⟩ := Option.bind_eq_some_iff.mp found
  have there := (kept.confined.quotes m mem).found kept.confined.messages found
  have said := (kept.texts quoted (lookup_mem read).1).shows
  rwa [there] at said

theorem leads_loaded {q : StoreRequest (Answer (Option (Message × Option Message)))}
    {read : ChatDatabase → Option Message} {holds : Message → Prop} (writes : q.writes = false)
    (reads : q.Reads fun db => (read db).map db.withReply)
    (stored : ∀ db m, read db = some m → m ∈ db.messages ∧ holds m)
    (kept : Discretion activities ambs s) :
    Leads activities ambs i (fun found v => ∀ loaded, found = some loaded →
      loaded.Genuine activities ambs v.chat ∧ ∃ m, holds m ∧ loaded.message.id = m.id ∧
        loaded.message.conversationId = m.conversationId) (query q >>= loadDeletions) s := by
  refine (leads_read writes reads).bind kept fun rows t _ ht ⟨u,hu,is,later⟩ => ?_
  cases found : read u.chat with
  | none =>
    rw [found] at is
    rw [is]
    exact leads_pure fun _ _ _ _ => nofun
  | some m =>
    rw [found] at is
    rw [is]
    obtain ⟨mem,has⟩ := stored u.chat m found
    refine (leads_read rfl (fun _ => rfl)).bind ht fun deleted v more hv _ => ?_
    refine leads_pure fun x last _ loaded is => ?_
    obtain rfl := Option.some.inj is
    refine ⟨(genuine_ofRows hu mem deleted).later ((later.trans more).trans last),m,has,?_,?_⟩
    · exact MessageEntity.loadDeletedForUserIds_id ..
    · exact MessageEntity.loadDeletedForUserIds_conversationId ..

theorem leads_getMessageById (id : Uuid) (kept : Discretion activities ambs s) :
    Leads activities ambs i (fun found v => ∀ loaded, found = some loaded →
      loaded.Genuine activities ambs v.chat ∧ loaded.message.id = id) (getMessageById id) s := by
  have stored : ∀ (db : ChatDatabase) m, db.message id = some m → m ∈ db.messages ∧ m.id = id :=
    fun _ _ found => lookup_mem found
  refine Program.Meets.weaken (leads_loaded rfl (fun _ => rfl) stored kept) ?_
  intro r v _ found a is loaded some
  obtain ⟨genuine,m,rfl,same,_⟩ := found a is loaded some
  exact ⟨genuine,same⟩

theorem leads_getMessageByClientMessageId (senderId : Uuid) (clientMessageId : JsString)
    (kept : Discretion activities ambs s) :
    Leads activities ambs i (fun found v => ∀ loaded, found = some loaded →
      loaded.Genuine activities ambs v.chat ∧ loaded.message.conversationId = conversationId)
      (getMessageByClientMessageId conversationId senderId clientMessageId) s := by
  have stored : ∀ (db : ChatDatabase) m, lookup Message.clientKey
      (conversationId, senderId, some clientMessageId) db.messages = some m →
      m ∈ db.messages ∧ m.conversationId = conversationId := by
    intro db m found
    obtain ⟨mem,key⟩ := lookup_mem found
    exact ⟨mem,congrArg Prod.fst key⟩
  refine Program.Meets.weaken (leads_loaded rfl (fun _ => rfl) stored kept) ?_
  intro r v _ found a is loaded some
  obtain ⟨genuine,m,here,_,same⟩ := found a is loaded some
  exact ⟨genuine,same.trans here⟩

theorem leads_requireMessage {messageId : Uuid} (kept : Discretion activities ambs s) :
    Leads activities ambs i (fun loaded v => loaded.Genuine activities ambs v.chat ∧
      loaded.message.id = messageId ∧ loaded.message.conversationId = conversationId)
      (requireMessage conversationId messageId) s := by
  refine (leads_getMessageById messageId kept).bind kept fun found t _ _ is => ?_
  cases found with
  | none => exact leads_throw _
  | some loaded =>
    obtain ⟨genuine,id⟩ := is loaded rfl
    dsimp only
    split_ifs with other
    · exact leads_throw _
    · exact leads_pure fun v more _ => ⟨genuine.later more,id,not_not.mp other⟩

theorem mem_storeMessage {db : ChatDatabase} {message : Message} {deleted : List DeletedMessage}
    {members : List ConversationMember} {u : Unit}
    (done : (db.storeMessage message deleted members).1 = .ok u) :
    message ∈ (db.storeMessage message deleted members).2.messages := by
  cases stores : db.storeMessage message deleted members with
  | mk r stored =>
    rw [stores] at done
    obtain rfl : r = .ok u := done
    obtain ⟨_,_,rfl⟩ := db.storeMessage_ok stores
    exact mem_save.mpr (Or.inl rfl)

/-- A message after its insert. -/
theorem leads_insertMessage {message : MessageEntity} (kept : Discretion activities ambs s)
    (penned : Penned activities ambs s.chat message.conversationId message.id message.text) :
    Leads activities ambs i (fun loaded v => loaded.Genuine activities ambs v.chat ∧
      loaded.message.conversationId = message.conversationId) (insertMessage message) s := by
  refine ((silent_query rfl).leads s).bind kept fun members t more ht _ => ?_
  have issue : ∀ u, t.Extends u → Discretion activities ambs u →
      (ChatRequest.store (.commitMessage (Message.fromDomain message)
        (message.deletedForUserIds.map fun userId => ⟨userId,message.id⟩)
        (members.map message.updateMember))).Discreet activities ambs u.chat :=
    fun u moved _ => (penned.later more).later moved
  refine (leads_query issue).bind ht fun _ v moved _ ⟨u,_,_,stores,later⟩ => ?_
  have names : v.chat.Names message.conversationId (some message.id) := by
    have now : ChatDatabase.Names _ message.conversationId (some message.id) :=
      fun id is => ⟨_,mem_storeMessage stores,Option.some.inj is,rfl⟩
    exact now.later later.origins
  refine leads_pure fun x last _ => ?_
  have penned := ((penned.later more).later moved).later last
  have home := MessageEntity.loadDeletedForUserIds_conversationId
    (Message.toDomain (Message.fromDomain message)) message.deletedForUserIds
  have genuine : LoadedMessage.Genuine activities ambs x.chat
      ⟨(Message.toDomain (Message.fromDomain message)).loadDeletedForUserIds
        message.deletedForUserIds,none⟩ :=
    genuine_loadDeletedForUserIds _ (names.later last.origins) penned.shows fun _ => nofun
  exact ⟨genuine,home⟩

theorem leads_saveMessage {message : MessageEntity} (kept : Discretion activities ambs s)
    (penned : Penned activities ambs s.chat message.conversationId message.id message.text) :
    Leads activities ambs i (fun loaded v => loaded.Genuine activities ambs v.chat ∧
      loaded.message.conversationId = message.conversationId) (saveMessage message) s := by
  refine (leads_insertMessage kept penned).tryCatch kept fun e t _ ht => ?_
  unfold recoverExisting
  split
  · refine (leads_getMessageByClientMessageId _ _ ht).bind ht fun found u _ _ is => ?_
    cases found with
    | none => exact leads_throw _
    | some existing =>
      obtain ⟨genuine,here⟩ := is existing rfl
      exact leads_pure fun v more _ => ⟨genuine.later more,here⟩
  · exact leads_throw _

theorem leads_updateMessage {message : MessageEntity} (kept : Discretion activities ambs s)
    (names : s.chat.Names conversationId (some message.id))
    (penned : Penned activities ambs s.chat conversationId message.id message.text) :
    Leads activities ambs i (fun found v => ∀ loaded, found = some loaded →
      loaded.Genuine activities ambs v.chat ∧ loaded.message.id = message.id)
      (updateMessage message) s := by
  have issue : ∀ t, s.Extends t → Discretion activities ambs t →
      (ChatRequest.store (.updateMessage message.id message.text message.editedAt
        message.updatedAt)).Discreet activities ambs t.chat :=
    fun t more _ => ⟨conversationId,names.later more.origins,penned.later more⟩
  exact (leads_query issue).bind kept fun _ _ _ ht _ => leads_getMessageById message.id ht

theorem silent_movePointers (deletion : MessageDeletion) (members : List ConversationMember) :
    Silent (movePointers deletion members) := by
  induction members with
  | nil => trivial
  | cons cm rest ih => exact (silent_query rfl).bind fun _ => ih.bind fun _ => trivial

theorem leads_saveMessageDeletion (message : MessageEntity) (kept : Discretion activities ambs s) :
    Leads activities ambs i (fun _ _ => True) (saveMessageDeletion message) s := by
  refine ((silent_query rfl).leads s).bind kept fun members t _ ht _ => ?_
  refine ((silent_movePointers _ _).leads t).bind ht fun moved u _ hu _ => ?_
  have issue : ∀ v, u.Extends v → Discretion activities ambs v →
      (ChatRequest.store (.commitDeletion message.deletion moved)).Discreet activities ambs
        v.chat := fun _ _ _ => trivial
  refine (leads_query issue).bind hu fun _ v _ hv _ => ?_
  exact Program.Meets.weaken (leads_getMessageById message.id hv) fun _ _ _ _ _ _ => trivial

end Repository

section Commands
variable {amb : Ambient} {conversationId userId targetUserId : Uuid}

theorem leads_findExisting (command : CreateMessageCommand) (member : ConversationMemberEntity)
    (kept : Discretion activities ambs s) :
    Leads activities ambs i (fun found v => ∀ existing, found = some existing →
      existing.Genuine activities ambs v.chat ∧
        existing.message.conversationId = command.conversationId)
      (CreateMessageHandler.findExisting command member) s := by
  unfold CreateMessageHandler.findExisting
  split
  · exact leads_getMessageByClientMessageId member.id _ kept
  · exact leads_pure fun _ _ _ _ => nofun

/-- A quoted message is one of the conversation. -/
theorem leads_loadReply (command : CreateMessageCommand) (kept : Discretion activities ambs s) :
    Leads activities ambs i (fun found v => (∀ reply, found = some reply →
        reply.Genuine activities ambs v.chat ∧
          reply.message.conversationId = command.conversationId) ∧
        v.chat.Names command.conversationId command.replyToMessageId)
      (CreateMessageHandler.loadReply command) s := by
  unfold CreateMessageHandler.loadReply
  cases quotes : command.replyToMessageId with
  | none => exact leads_pure fun _ _ _ => ⟨fun _ => nofun,ChatDatabase.names_none _⟩
  | some id =>
    refine (leads_getMessageById id kept).bind kept fun found t _ ht is => ?_
    cases found with
    | none => exact leads_throw _
    | some loaded =>
      obtain ⟨genuine,same⟩ := is loaded rfl
      have accepted : ∀ reply,
          CreateMessageHandler.acceptReply command (some loaded) = .ok reply →
            reply = loaded ∧ loaded.message.conversationId = command.conversationId := by
        intro reply is
        unfold CreateMessageHandler.acceptReply at is
        dsimp only at is
        split_ifs at is with other
        exact ⟨(Except.ok.inj is).symm,not_not.mp other⟩
      have lift : Leads activities ambs i (fun reply v => reply.Genuine activities ambs v.chat ∧
          reply.message.id = id ∧ reply.message.conversationId = command.conversationId)
          (liftM (CreateMessageHandler.acceptReply command (some loaded)) :
            ChatProgram LoadedMessage) t := by
        refine leads_lift fun reply is v more _ => ?_
        obtain ⟨rfl,here⟩ := accepted reply is
        exact ⟨genuine.later more,same,here⟩
      refine lift.bind ht fun reply u _ _ ⟨fine,id',here⟩ => leads_pure fun v more _ => ⟨?_,?_⟩
      · rintro _ ⟨⟩
        exact ⟨fine.later more,here⟩
      · have names := fine.stored
        rw [here, id'] at names
        exact names.later more.origins

theorem leads_create {command : CreateMessageCommand} (member : ConversationMemberEntity)
    {reply : Option LoadedMessage} (kept : Discretion activities ambs s)
    (penned : Penned activities ambs s.chat command.conversationId (amb.uuid 0) command.text)
    (quotes : (∀ loaded, reply = some loaded → loaded.Genuine activities ambs s.chat ∧
        loaded.message.conversationId = command.conversationId) ∧
      s.chat.Names command.conversationId command.replyToMessageId) :
    Leads activities ambs i (fun loaded v => loaded.Genuine activities ambs v.chat ∧
      loaded.message.conversationId = command.conversationId)
      (CreateMessageHandler.create amb command member reply) s := by
  unfold CreateMessageHandler.create
  cases built : MessageEntity.create amb command.text command.type member.id
      command.conversationId command.deletedForUserIds command.replyToMessageId
      command.clientMessageId with
  | error e => exact leads_throw e
  | ok created =>
    obtain ⟨_,key,_,rfl⟩ := MessageEntity.create_ok built
    rw [Program.lift_ok, Program.done_bind]
    refine (leads_saveMessage kept penned).bind kept fun saved t more ht ⟨genuine,here⟩ => ?_
    have announced : (MessageEvent.created
        { messageId := amb.uuid 0, conversationId := command.conversationId,
          senderId := member.id, text := command.text,
          deletedForUserIds := command.deletedForUserIds, createdAt := amb.now,
          replyToMessageId := command.replyToMessageId, clientMessageId := key }).Genuine
        activities ambs t.chat := ⟨penned.later more,quotes.2.later more.origins⟩
    refine (leads_publish announced).bind ht fun _ u after _ _ => ?_
    cases reply with
    | none => exact leads_pure fun v last _ => ⟨genuine.later (after.trans last),here⟩
    | some loaded =>
      obtain ⟨fine,home⟩ := quotes.1 loaded rfl
      refine leads_pure fun v last _ => ⟨⟨?_,?_,?_⟩,here⟩
      · exact (genuine.later (after.trans last)).stored
      · exact (genuine.later (after.trans last)).text
      · rintro _ ⟨⟩
        have shown := (fine.later ((more.trans after).trans last)).text
        rw [home] at shown
        dsimp only
        rw [here]
        exact shown

theorem leads_createMessage {command : CreateMessageCommand}
    (kept : Discretion activities ambs s)
    (pens : ∀ db : ChatDatabase, db.Hosts command.conversationId command.senderId →
      Penned activities ambs db command.conversationId (amb.uuid 0) command.text) :
    Leads activities ambs i (fun loaded v => loaded.Genuine activities ambs v.chat ∧
      loaded.message.conversationId = command.conversationId)
      (CreateMessageHandler.execute amb command) s := by
  refine (leads_requireMember kept).bind kept fun member t _ ht hosts => ?_
  refine (leads_findExisting command member ht).bind ht fun existing u more hu is => ?_
  cases existing with
  | some existing =>
    obtain ⟨genuine,here⟩ := is existing rfl
    dsimp only
    split_ifs
    · exact leads_throw _
    · exact leads_pure fun v last _ => ⟨genuine.later last,here⟩
  | none =>
    refine (leads_loadReply command hu).bind hu fun reply v after hv quotes => ?_
    exact leads_create member hv (pens v.chat (hosts.later (more.trans after).places)) quotes

theorem leads_requireSaved {found : Option LoadedMessage}
    {good : LoadedMessage → ChatWorld → Prop}
    (is : ∀ saved, found = some saved → ∀ t, s.Extends t → good saved t) :
    Leads activities ambs i good (requireSaved found) s := by
  cases found with
  | none => exact leads_throw _
  | some saved => exact leads_pure fun t more _ => is saved rfl t more

theorem leads_editMessage {now : Time} {command : EditMessageCommand}
    (kept : Discretion activities ambs s)
    (pens : ∀ db : ChatDatabase, db.Hosts command.conversationId command.userId →
      db.Names command.conversationId (some command.messageId) →
      Penned activities ambs db command.conversationId command.messageId command.text) :
    Leads activities ambs i (fun loaded v => loaded.Genuine activities ambs v.chat ∧
      loaded.message.conversationId = command.conversationId)
      (EditMessageHandler.execute now command) s := by
  refine (leads_requireMember kept).bind kept fun member t _ ht hosts => ?_
  refine (leads_requireMessage ht).bind ht fun loaded u more hu ⟨genuine,id,here⟩ => ?_
  have names := genuine.stored
  rw [here, id] at names
  have penned := pens u.chat (hosts.later more.places) names
  cases edits : loaded.message.edit now command.text member.id with
  | error e => exact leads_throw e
  | ok edited =>
    rw [Program.lift_ok, Program.done_bind]
    obtain ⟨same,text,events⟩ : edited.1.id = command.messageId ∧ edited.1.text = command.text ∧
        ∀ event ∈ edited.2, event.Genuine activities ambs u.chat := by
      obtain ⟨_,_,⟨text,rfl⟩ | ⟨_,rfl⟩⟩ := edit_ok edits
      · exact ⟨id,text,by simp⟩
      · refine ⟨id,rfl,fun event mem => ?_⟩
        rw [List.mem_singleton.mp mem]
        change Penned activities ambs u.chat loaded.message.conversationId loaded.message.id
          command.text
        rwa [here, id]
    rw [← same] at names penned
    rw [← text] at penned
    refine (leads_updateMessage hu names penned).bind hu fun found v after hv is => ?_
    refine (leads_publishAll hv fun event mem => (events event mem).later after).bind hv
      fun _ x later hx _ => leads_requireSaved fun saved some y last => ?_
    obtain ⟨fine,id'⟩ := is saved some
    refine ⟨fine.later (later.trans last),?_⟩
    have there := fine.stored
    rw [id'] at there
    exact there.unique (names.later after.origins) hv.confined.messages

theorem leads_deleteMessage {now : Time} {command : DeleteMessageCommand}
    (kept : Discretion activities ambs s) :
    Leads activities ambs i (fun _ _ => True) (DeleteMessageHandler.execute now command) s := by
  refine (leads_requireMember kept).bind kept fun member t _ ht _ => ?_
  refine (leads_requireMessage ht).bind ht fun loaded u _ hu _ => ?_
  cases deletes : DeleteMessageHandler.delete now command member.id loaded.message with
  | error e => exact leads_throw e
  | ok deleted =>
    rw [Program.lift_ok, Program.done_bind]
    refine (leads_saveMessageDeletion deleted.1 hu).bind hu fun found v _ hv _ => ?_
    have events : ∀ event ∈ deleted.2, event.Genuine activities ambs v.chat := by
      intro event mem
      obtain ⟨e,rfl⟩ := delete_events deletes event mem
      trivial
    exact (leads_publishAll hv events).bind hv fun _ x _ hx _ =>
      leads_requireSaved fun _ _ _ _ => trivial

theorem leads_commitConversation (conversation : Conversation)
    (members : List ConversationMember) (s : ChatWorld) :
    Leads activities ambs i (fun rows v => ∃ t, Discretion activities ambs t ∧
      (t.chat.storeConversation conversation members).1 = .ok rows ∧
      (chatHandler.answer (.store (.commitConversation conversation members)) t).2.Extends v)
      (query (.commitConversation conversation members)) s := by
  have issue : ∀ t, s.Extends t → Discretion activities ambs t →
      (ChatRequest.store (.commitConversation conversation members)).Discreet activities ambs
        t.chat := fun _ _ _ => trivial
  refine Program.Meets.weaken (leads_query issue) fun r v _ found a is => ?_
  obtain ⟨t,_,kept,stores,later⟩ := found a is
  exact ⟨t,kept,stores,later⟩

theorem leads_markConversationAsRead (command : MarkConversationAsReadCommand)
    (kept : Discretion activities ambs s) :
    Leads activities ambs i (fun _ _ => True)
      (MarkConversationAsReadCommandHandler.execute command) s := by
  refine (leads_requireConversation kept).bind kept fun conversation t _ ht _ => ?_
  cases marks : conversation.markAsRead command.userId command.messageId with
  | error e => exact leads_throw e
  | ok marked =>
    rw [Program.lift_ok, Program.done_bind]
    have saves : Leads activities ambs i (fun _ _ => True) (saveConversation marked) t :=
      (leads_commitConversation _ _ t).bind ht fun _ _ _ _ _ => leads_pure fun _ _ _ => trivial
    exact saves.bind ht fun _ _ _ _ _ => leads_pure fun _ _ _ => trivial

theorem leads_deleteConversation (now : Time) (conversationId : Uuid) :
    Leads activities ambs i (fun _ _ => True) (DeleteConversationHandler.execute now conversationId)
      s := by
  have issue : ∀ t, s.Extends t → Discretion activities ambs t →
      (ChatRequest.store (.deleteConversation conversationId now)).Discreet activities ambs
        t.chat := fun _ _ _ => trivial
  exact Program.Meets.weaken (leads_query issue) fun _ _ _ _ _ _ => trivial

theorem silent_doesUserExist (userId : Uuid) : Silent (doesUserExist userId) := by
  refine Program.Only.tryCatch ((silent_askUserModule _).map _) fun e => ?_
  split <;> trivial

/-- The rows of a new conversation are there when it has been saved. -/
theorem mem_storeConversation {db : ChatDatabase} {conversation : Conversation}
    {members : List ConversationMember}
    {rows : Option (Conversation × List ConversationMember)}
    (done : (db.storeConversation conversation members).1 = .ok rows)
    (distinct : Keyed ConversationMember.id members) :
    (∀ cm ∈ members, cm ∈ (db.storeConversation conversation members).2.members) ∧
      ∀ found, rows = some found → found.1.id = conversation.id := by
  cases stores : db.storeConversation conversation members with
  | mk r stored =>
    rw [stores] at done
    obtain rfl : r = .ok rows := done
    obtain ⟨_,rfl,rfl⟩ := db.storeConversation_ok stores
    refine ⟨fun cm mem => (mem_saveAll distinct).mpr (Or.inl mem),fun found is => ?_⟩
    obtain ⟨c,known,rfl⟩ := Option.map_eq_some_iff.mp is
    exact (lookup_mem known).2

theorem leads_createDirect {command : CreateDirectConversationCommand}
    (injective : Function.Injective amb.uuid) (kept : Discretion activities ambs s) :
    Leads activities ambs i (fun c v => c.id = amb.uuid 0 ∧
      v.chat.Hosts (amb.uuid 0) command.userId ∧ v.chat.Hosts (amb.uuid 0) command.targetUserId)
      (CreateDirectConversationHandler.execute amb command) s := by
  refine ((silent_doesUserExist _).leads s).bind kept fun userExists t _ ht _ => ?_
  split
  · exact leads_throw _
  have blocks : Silent (hasBlockRelation command.userId command.targetUserId) :=
    (silent_askUserModule _).bind fun _ => trivial
  refine (blocks.leads t).bind ht fun isBlocked u _ hu _ => ?_
  split
  · exact leads_throw _
  refine ((silent_query rfl).leads u).bind hu fun exists' v _ hv _ => ?_
  split
  · exact leads_throw _
  unfold CreateDirectConversationHandler.create
  cases built : ConversationEntity.createDirect amb command.userId command.targetUserId with
  | error e => exact leads_throw e
  | ok conversation =>
    rw [Program.lift_ok, Program.done_bind]
    have saves : Leads activities ambs i (fun found v => ∀ c, found = some c →
        c.id = amb.uuid 0 ∧ v.chat.Hosts (amb.uuid 0) command.userId ∧
          v.chat.Hosts (amb.uuid 0) command.targetUserId) (saveConversation conversation) v := by
      unfold saveConversation
      rw [createDirect_rows built]
      refine (leads_commitConversation _ _ v).bind hv fun rows x _ _ ⟨y,_,stores,later⟩ => ?_
      refine leads_pure fun z last _ c some => ?_
      have distinct : Keyed ConversationMember.id
          (newMembers amb command.userId command.targetUserId) := by
        unfold newMembers
        split_ifs
        · exact List.nodup_singleton _
        · refine List.nodup_cons.mpr ⟨?_,List.nodup_singleton _⟩
          simp [injective.eq_iff]
      obtain ⟨seated,id⟩ := mem_storeConversation stores distinct
      obtain ⟨found,is,rfl⟩ := Option.map_eq_some_iff.mp some
      have hosts : ∀ cm ∈ newMembers amb command.userId command.targetUserId,
          cm.conversationId = amb.uuid 0 → z.chat.Hosts (amb.uuid 0) cm.userId := by
        intro cm mem here
        have now : ChatDatabase.Hosts _ (amb.uuid 0) cm.userId := ⟨cm,seated cm mem,here,rfl⟩
        exact now.later (later.trans last).places
      refine ⟨id found is,hosts _ List.mem_cons_self rfl,?_⟩
      by_cases same : command.userId = command.targetUserId
      · rw [← same]
        exact hosts _ List.mem_cons_self rfl
      · refine hosts ⟨amb.uuid 3,command.targetUserId,amb.uuid 0,none,none,amb.now,none⟩ ?_ rfl
        simp [newMembers, same]
    refine saves.bind hv fun saved x _ _ is => ?_
    cases saved with
    | none => exact leads_throw _
    | some c =>
      obtain ⟨id,own,target⟩ := is c rfl
      exact leads_pure fun y more _ => ⟨id,own.later more.places,target.later more.places⟩

end Commands

end Texts

end Chatterbox
