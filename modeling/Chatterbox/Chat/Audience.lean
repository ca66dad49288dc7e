import Chatterbox.Chat.Couples

/-!
Who is told about a message, and who finds it in his message list. The handlers of the
message events compute rooms from the event and the members of the conversation, the list
leaves out the messages that the viewer has deleted; in a conversation of two the rooms are
those of the members who find the message.
-/
namespace Chatterbox
open Concurrency Tables

/-- The message is on one of the pages of the message list that the viewer is shown. -/
def ChatWorld.Lists (ilike : JsString → JsString → Bool) (w : ChatWorld)
    (viewer conversationId id : Uuid) : Prop :=
  ∃ amb page pageSize response,
    (w.perform ilike amb viewer (.listMessages ⟨conversationId,page,pageSize⟩)).1 =
      .ok (.messages response) ∧ ∃ item ∈ response.list, item.id = id

/-- The messages of the conversation that the viewer has not deleted. -/
def ChatDatabase.listable (db : ChatDatabase) (viewer conversationId : Uuid) : List Message :=
  db.messages.filter fun m => m.conversationId = conversationId && !db.deletedFor viewer m.id

section Lists
variable {w : ChatWorld} {conversationId viewer id : Uuid}

theorem run_getUsersByIds (userIds : List Uuid) (w : ChatWorld) :
    ∃ users, (ChatUserIntegrationAdapter.getUsersByIds userIds).run chatHandler w =
      (.ok users, w) := by
  unfold ChatUserIntegrationAdapter.getUsersByIds UserPostgresReadRepository.getUsersByIds
  rw [Program.run_bind, run_askUserModule]
  by_cases none : userIds = []
  · rw [if_pos none]
    exact ⟨_,rfl⟩
  · rw [if_neg none]
    exact ⟨_,rfl⟩

theorem run_getBlockedUsersIds (userId : Uuid) (targetUserIds : List Uuid) (w : ChatWorld) :
    ∃ blocked, (ChatUserIntegrationAdapter.getBlockedUsersIds userId targetUserIds).run
      chatHandler w = (.ok blocked, w) := by
  unfold ChatUserIntegrationAdapter.getBlockedUsersIds
  rw [run_askUserModule]
  exact ⟨_,rfl⟩

/-- A member of a live conversation gets a response, with the page that he asks for. -/
theorem run_messageList (amb : Ambient) (data : GetConversationMessageListRequest)
    {dto : ConversationReadDto}
    (loaded : w.chat.userConversation data.conversationId viewer = .ok dto) :
    ∃ response, (ChatWsGateway.getConversationMessageList amb data viewer).run chatHandler w =
        (.ok response, w) ∧
      response.list.map UserConversationMessageItem.id =
        (w.chat.listMessages data.conversationId viewer
          (PaginationHelper.parse data.page data.pageSize)).1.map fun row => row.message.id := by
  obtain ⟨deletedForMe,listed,_⟩ := run_getUserConversationMessageList amb.now
    data.conversationId viewer (PaginationHelper.parse data.page data.pageSize) w
  unfold ChatWsGateway.getConversationMessageList
  rw [run_getUserConversation, loaded]
  dsimp only [orRefuse]
  rw [GetUserConversationMessageListHandler.execute, Program.run_bind_ok _ _ listed]
  obtain ⟨users,known⟩ := run_getUsersByIds (ChatWsGateway.involvedUsers dto
    ((w.chat.listMessages data.conversationId viewer
      (PaginationHelper.parse data.page data.pageSize)).1.map
        (ConversationPostgresReadRepository.toMessageDto amb.now deletedForMe))) w
  obtain ⟨blocked,asked⟩ := run_getBlockedUsersIds viewer (users.map ChatUser.id) w
  dsimp only [PaginationHelper.createResult]
  rw [Program.run_bind_ok _ _ known, Program.run_bind_ok _ _ asked]
  refine ⟨_,rfl,?_⟩
  simp only [List.map_map]
  rfl

/-- The page with the number of a row, of pages with one row. -/
theorem mem_pages {α : Type} {rows : List α} {x : α} (mem : x ∈ rows) :
    ∃ page, x ∈ ChatDatabase.page (PaginationHelper.parse (some page) (some 1)) rows := by
  obtain ⟨i,inside,is⟩ := List.getElem_of_mem mem
  refine ⟨(i : Int) + 1,?_⟩
  have options : PaginationHelper.parse (some ((i : Int) + 1)) (some 1) =
      ⟨i + 1,1,i,1⟩ := by
    have first : (max 1 ((i : Int) + 1)).toNat = i + 1 := by omega
    simp only [PaginationHelper.parse, Option.getD_some, first]
    simp
  rw [options, ChatDatabase.page]
  dsimp only
  rw [List.drop_eq_getElem_cons inside, List.take_succ_cons, is]
  exact List.mem_cons_self

/-- Where somebody is a live member the conversation is live, and so are its other members. -/
theorem ChatDatabase.Seated.live {db : ChatDatabase} (seated : db.Seated)
    (member : db.isMember conversationId viewer = true) :
    (∃ c, lookup Conversation.id conversationId db.liveConversations = some c) ∧
      ∀ cm ∈ db.members, cm.conversationId = conversationId → cm.deletedAt = none := by
  obtain ⟨own,mem,_⟩ := List.any_eq_true.mp member
  obtain ⟨stored,alive,there⟩ := ChatDatabase.membersOf_iff.mp mem
  obtain ⟨c,known,is,live⟩ := seated.homes own stored
  have standing : c.deletedAt = none := live.mpr alive
  constructor
  · apply Option.isSome_iff_exists.mp
    apply lookup_isSome_iff.mpr
    exact ⟨c,List.mem_filter.mpr ⟨known,by simp [standing]⟩,is.trans there⟩
  · intro cm memcm home
    obtain ⟨c',known',is',live'⟩ := seated.homes cm memcm
    have same : c' = c := keyed_unique seated.conversations known' known
      (is'.trans (home.trans (there.symm.trans is.symm)))
    apply live'.mp
    rw [same]
    exact standing

/-- The rows of a conversation of the viewer are the messages that he can list. -/
theorem ChatDatabase.Sound.rows {db : ChatDatabase} (sound : db.Sound)
    (member : db.isMember conversationId viewer = true) :
    (db.messageRows conversationId viewer).map MessageListRow.message =
      db.listable viewer conversationId := by
  unfold ChatDatabase.messageRows ChatDatabase.listable
  rw [List.map_filterMap]
  have joined : ∀ m ∈ db.messages.filter (fun m =>
      m.conversationId = conversationId && !db.deletedFor viewer m.id),
      Option.map MessageListRow.message ((lookup ConversationMember.id m.senderId
        db.liveMembers).map fun sender => (⟨m,sender,(m.replyToMessageId.bind db.message).map
          fun rm => (rm, lookup ConversationMember.id rm.senderId db.liveMembers)⟩ :
            MessageListRow)) = some m := by
    intro m mem
    obtain ⟨stored,shown⟩ := List.mem_filter.mp mem
    obtain ⟨home,_⟩ : m.conversationId = conversationId ∧ db.deletedFor viewer m.id = false := by
      simpa using shown
    obtain ⟨cm,memcm,is,there⟩ := sound.filed.senders m stored
    have alive := (sound.seated.live member).2 cm memcm (there.trans home)
    have present : (lookup ConversationMember.id m.senderId db.liveMembers).isSome :=
      lookup_isSome_iff.mpr ⟨cm,List.mem_filter.mpr ⟨memcm,by simp [alive]⟩,is⟩
    obtain ⟨sender,found⟩ := Option.isSome_iff_exists.mp present
    rw [found]
    rfl
  rw [List.filterMap_congr joined, List.filterMap_some]

/-- Every message of the conversation that the viewer has not deleted is among the rows. -/
theorem ChatDatabase.Sound.listed {db : ChatDatabase} (sound : db.Sound)
    (member : db.isMember conversationId viewer = true) {m : Message} (stored : m ∈ db.messages)
    (home : m.conversationId = conversationId) (kept : ⟨viewer,m.id⟩ ∉ db.deletedMessages) :
    ∃ row ∈ db.messageRows conversationId viewer, row.message = m := by
  apply List.mem_map.mp
  rw [sound.rows member]
  simp [listable, deletedFor, stored, home, kept]

/-- Members find the messages of the conversation that they have not deleted. -/
theorem lists_iff (ilike : JsString → JsString → Bool) (sound : w.chat.Sound) :
    w.Lists ilike viewer conversationId id ↔ w.chat.isMember conversationId viewer = true ∧
      (∃ m ∈ w.chat.messages, m.id = id ∧ m.conversationId = conversationId) ∧
        ⟨viewer,id⟩ ∉ w.chat.deletedMessages := by
  constructor
  · rintro ⟨amb,page,pageSize,response,performed,item,mem,rfl⟩
    have outcome := outcome_perform ilike amb viewer w
      (.listMessages ⟨conversationId,page,pageSize⟩)
    cases is : w.perform ilike amb viewer (.listMessages ⟨conversationId,page,pageSize⟩) with
    | mk r v =>
      rw [is] at outcome performed
      cases outcome with
      | refused => cases performed
      | blocked _ responds =>
        have texts := responds _ performed
        have shown : (item.id, item.content) ∈ ChatResponse.texts (.messages response) :=
          List.mem_flatMap.mpr ⟨item,mem,List.mem_cons_self⟩
        rw [texts] at shown
        cases shown
      | listedMessages member shows =>
        cases performed
        obtain ⟨m,stored,same,home,kept,_⟩ := shows item mem
        rw [same] at kept
        exact ⟨member,⟨m,stored,same,home⟩,kept⟩
  · intro ⟨member,⟨m,stored,is,home⟩,kept⟩
    rw [← is] at kept
    obtain ⟨row,joined,rfl⟩ := sound.listed member stored home kept
    have sorted : row ∈ (w.chat.messageRows conversationId viewer).insertionSort
        fun a b => b.message.createdAt ≤ a.message.createdAt :=
      (List.mem_insertionSort _).mpr joined
    obtain ⟨page,there⟩ := mem_pages sorted
    obtain ⟨c,known⟩ := (sound.seated.live member).1
    have loaded : w.silent.chat.userConversation conversationId viewer = _ :=
      userConversation_known known member
    obtain ⟨response,run,ids⟩ := run_messageList ⟨0,fun k => k,fun _ => 0,[]⟩
      ⟨conversationId,some page,some 1⟩ loaded
    refine ⟨⟨0,fun k => k,fun _ => 0,[]⟩,some page,some 1,response,?_,?_⟩
    · rw [perform_eq rfl run rfl]
      rfl
    · have shown : row.message.id ∈ response.list.map UserConversationMessageItem.id := by
        rw [ids]
        exact List.mem_map_of_mem there
      obtain ⟨item,mem,same⟩ := List.mem_map.mp shown
      exact ⟨item,mem,same.trans is⟩

end Lists

/-- The message that an event is about, when it is the one that the operation announces. -/
def ChatOperation.announcedIn : ChatOperation → WsEvent → Option Uuid
  | createConversation _, .messageSent data => some data.id
  | sendMessage _, .messageSent data => some data.id
  | editMessage _, .messageEdited data => some data.id
  | deleteMessage request, .messageDeleted data =>
      if data.scope = request.scope then some data.id else none
  | _, _ => none

/-- The user gets the event of the operation about the message. -/
def ChatWorld.Told (w : ChatWorld) (operation : ChatOperation) (id userId : Uuid) : Prop :=
  ∃ b ∈ w.emitted, userId ∈ b.rooms ∧ operation.announcedIn b.event = some id

section Told
variable {v : ChatWorld} {operation : ChatOperation} {id userId : Uuid}

theorem told_send {rooms : List Uuid} {event : WsEvent}
    (before : ∀ b ∈ v.emitted, operation.announcedIn b.event ≠ some id)
    (its : operation.announcedIn event = some id) :
    (v.send rooms event).Told operation id userId ↔ userId ∈ rooms := by
  unfold ChatWorld.send
  constructor
  · intro ⟨b,mem,reached,about⟩
    split at mem
    · exact absurd about (before b mem)
    · rcases List.mem_append.mp mem with old | new
      · exact absurd about (before b old)
      · rw [List.mem_singleton.mp new] at reached
        exact reached
  · intro reached
    have some_room : rooms ≠ [] := List.ne_nil_of_mem reached
    rw [if_neg some_room]
    exact ⟨⟨rooms,event⟩,by simp,reached,its⟩

/-- The live members are two different users. -/
def ChatDatabase.Couple (db : ChatDatabase) (conversationId : Uuid) : Prop :=
  ∃ a b, db.usersOf conversationId = [a, b] ∧ a ≠ b

theorem ChatDatabase.Couple.other {db : ChatDatabase} {conversationId : Uuid}
    (couple : db.Couple conversationId) (userId : Uuid) :
    ∃ other ∈ db.membersOf conversationId, other.userId ≠ userId := by
  obtain ⟨a,b,users,apart⟩ := couple
  have seat : ∀ u ∈ [a, b], ∃ cm ∈ db.membersOf conversationId, cm.userId = u := by
    intro u mem
    rw [← users] at mem
    exact List.mem_map.mp mem
  by_cases first : a = userId
  · obtain ⟨cm,mem,is⟩ := seat b (by simp)
    refine ⟨cm,mem,?_⟩
    rw [is, ← first]
    exact apart.symm
  · obtain ⟨cm,mem,is⟩ := seat a (by simp)
    refine ⟨cm,mem,?_⟩
    rw [is]
    exact first

/-- The rooms of a new message are those of the members from whom its send does not hide it. -/
theorem mem_createdRooms {event : MessageCreatedDomainEvent} (seated : v.chat.Seated)
    {sender target : ConversationMember} (own : sender ∈ v.chat.membersOf event.conversationId)
    (there : target ∈ v.chat.membersOf event.conversationId)
    (apart : target.userId ≠ sender.userId) (kept : sender.userId ∉ event.deletedForUserIds) :
    userId ∈ (if target.userId ∈ event.deletedForUserIds then [] else [target.userId]) ++
        [sender.userId] ↔
      v.chat.isMember event.conversationId userId = true ∧ userId ∉ event.deletedForUserIds := by
  constructor
  · intro reached
    rcases List.mem_append.mp reached with first | second
    · split_ifs at first with hidden
      · cases first
      · rw [List.mem_singleton.mp first]
        exact ⟨List.any_eq_true.mpr ⟨target,there,by simp⟩,hidden⟩
    · rw [List.mem_singleton.mp second]
      exact ⟨List.any_eq_true.mpr ⟨sender,own,by simp⟩,kept⟩
  · intro ⟨member,visible⟩
    obtain ⟨cm,mem,is⟩ := List.any_eq_true.mp member
    have user : cm.userId = userId := of_decide_eq_true is
    by_cases same : cm.userId = sender.userId
    · rw [← user, same]
      simp
    · have other : target.userId = cm.userId := seated.other own there mem apart same
      rw [other, user, if_neg visible]
      simp

/-- A new message is announced to the members from whom its send does not hide it. -/
theorem told_created {event : MessageCreatedDomainEvent} (announces : v.Announces event)
    (seated : v.chat.Seated)
    (before : ∀ b ∈ v.emitted, operation.announcedIn b.event ≠ some event.messageId)
    (its : ∀ data, operation.announcedIn (.messageSent data) = some data.id)
    (shown : ∀ cm ∈ v.chat.membersOf event.conversationId, cm.id = event.senderId →
      cm.userId ∉ event.deletedForUserIds) :
    ((MessageEvent.handle (.created event)).run chatHandler v).2.Told operation event.messageId
        userId ↔
      v.chat.isMember event.conversationId userId = true ∧ userId ∉ event.deletedForUserIds := by
  rcases run_messageCreated event v with ⟨_,silent⟩ |
    ⟨sender,own,target,there,is,apart,data,run,about,_⟩
  · exact absurd announces silent
  · have handled : ((MessageEvent.handle (.created event)).run chatHandler v).2 = _ :=
      congrArg Prod.snd run
    rw [handled, told_send before ((its data).trans (congrArg some about))]
    exact mem_createdRooms seated own there apart (shown sender own is)

variable {ilike : JsString → JsString → Bool} {amb : Ambient} {db : ChatDatabase}

/-- Behind the event of a new message there are a sender and another member with accounts, and
    the sender is no one from whom the message is hidden. -/
theorem announces_inserted {command : CreateMessageCommand} {member : ConversationMember}
    {message : MessageEntity} {event : MessageCreatedDomainEvent}
    (sends : Inserts amb command db member message event)
    (unused : amb.uuid 0 ∉ db.messages.map Message.id) (sound : db.Sound)
    (chat : v.chat = db.withMessage message) (couple : v.chat.Couple message.conversationId)
    (accounts : ∀ cm ∈ db.membersOf command.conversationId, v.users.HasUser cm.userId)
    (visible : command.senderId ∉ command.deletedForUserIds) :
    v.chat.Sound ∧ v.Announces event ∧ ∀ cm ∈ v.chat.membersOf event.conversationId,
      cm.id = event.senderId → cm.userId ∉ event.deletedForUserIds := by
  obtain ⟨_,sender,home,_,hidden,_,_,_,_,there,from',_,shadow,_⟩ := sends.fields
  have after : v.chat.Sound := by
    rw [chat]
    exact sound_withMessage sends unused sound
  have identity : v.chat.members.map ConversationMember.identity =
      db.members.map ConversationMember.identity := by
    rw [chat]
    exact ChatDatabase.identity_withMessage message
  obtain ⟨joined,user,_⟩ := conversationMember_ok sends.seated
  obtain ⟨own,memown,sameId,sameUser⟩ := ChatDatabase.membersOf_frame identity.symm joined
  have place : event.conversationId = command.conversationId := there.trans home
  have member' : v.chat.isMember command.conversationId own.userId = true :=
    List.any_eq_true.mpr ⟨own,memown,by simp⟩
  have announces : v.Announces event := by
    constructor
    · obtain ⟨c,known⟩ := (after.seated.live member').1
      rw [place, ChatDatabase.getConversation, known]
      rfl
    · rw [place]
      exact ⟨own,memown,by rw [sameId, from', sender]⟩
    · intro cm _ _
      rw [there]
      exact couple.other cm.userId
    · intro cm mem
      rw [place] at mem
      obtain ⟨old,memold,_,is⟩ := ChatDatabase.membersOf_frame identity mem
      rw [← is]
      exact accounts old memold
  refine ⟨after,announces,fun cm mem is => ?_⟩
  rw [place] at mem
  have same : cm = own := keyed_unique after.seated.members
    (ChatDatabase.membersOf_iff.mp mem).1 (ChatDatabase.membersOf_iff.mp memown).1
    (is.trans (from'.trans (sender.trans sameId.symm)))
  rw [same, sameUser, user, shadow, hidden]
  exact visible

/-- The sender's room and the rooms of the others, against the rows of the new message. -/
theorem told_inserted {command : CreateMessageCommand} {member : ConversationMember}
    {message : MessageEntity} {event : MessageCreatedDomainEvent}
    (sends : Inserts amb command db member message event)
    (unused : amb.uuid 0 ∉ db.messages.map Message.id) (sound : db.Sound)
    (chat : v.chat = db.withMessage message) (couple : v.chat.Couple message.conversationId)
    (accounts : ∀ cm ∈ db.membersOf command.conversationId, v.users.HasUser cm.userId)
    (visible : command.senderId ∉ command.deletedForUserIds)
    (before : ∀ b ∈ v.emitted, operation.announcedIn b.event ≠ some message.id)
    (its : ∀ data, operation.announcedIn (.messageSent data) = some data.id) :
    (v.announce [.created event]).Told operation message.id userId ↔
      (v.announce [.created event]).Lists ilike userId message.conversationId message.id := by
  obtain ⟨id,_,_,_,_,_,_,_,about,there,_,_,shadow,_⟩ := sends.fields
  obtain ⟨after,announces,shown⟩ :=
    announces_inserted sends unused sound chat couple accounts visible
  have told : (v.announce [.created event]).Told operation event.messageId userId ↔ _ :=
    told_created announces after.seated (about ▸ before) its shown
  have chat' : (v.announce [.created event]).chat = v.chat := announce_chat _ v
  rw [about] at told
  refine told.trans ?_
  rw [lists_iff ilike (chat'.symm ▸ after), chat', there, chat]
  have stored : ∃ m ∈ (db.withMessage message).messages, m.id = message.id ∧
      m.conversationId = message.conversationId :=
    ⟨Message.fromDomain message,List.mem_append_right _ (List.mem_singleton.mpr rfl),rfl,rfl⟩
  have rows : ⟨userId,message.id⟩ ∈ (db.withMessage message).deletedMessages ↔
      userId ∈ event.deletedForUserIds := by
    refine ChatDatabase.mem_deletionRows.trans ?_
    rw [shadow]
    constructor
    · rintro (⟨_,hides⟩ | old)
      · exact hides
      · exact absurd (id ▸ sound.filed.deletions _ old) unused
    · exact fun hides => Or.inl ⟨rfl,hides⟩
  simp only [stored, rows, true_and]

/-- The rooms of the members who have not deleted the message. -/
theorem told_members {event : WsEvent} {conversationId : Uuid} {hidden : List Uuid}
    (sound : v.chat.Sound)
    (stored : ∃ m ∈ v.chat.messages, m.id = id ∧ m.conversationId = conversationId)
    (rows : userId ∈ hidden ↔ ⟨userId,id⟩ ∈ v.chat.deletedMessages)
    (before : ∀ b ∈ v.emitted, operation.announcedIn b.event ≠ some id)
    (its : operation.announcedIn event = some id) :
    (v.send (v.chat.liveRooms conversationId hidden) event).Told operation id userId ↔
      (v.send (v.chat.liveRooms conversationId hidden) event).Lists ilike userId conversationId
        id := by
  have chat : (v.send (v.chat.liveRooms conversationId hidden) event).chat = v.chat := by
    unfold ChatWorld.send
    split <;> rfl
  rw [told_send before its, mem_liveRooms, lists_iff ilike (chat.symm ▸ sound), chat, ← rows]
  constructor
  · intro ⟨_,member,kept⟩
    exact ⟨member,stored,kept⟩
  · intro ⟨member,_,kept⟩
    obtain ⟨c,known⟩ := (sound.seated.live member).1
    refine ⟨?_,member,kept⟩
    rw [ChatDatabase.getConversation, known]
    rfl

end Told

/-- The messages that an operation is about: the one it has stored, or the one it names. -/
def ChatOperation.About (before after : ChatDatabase) (m : Message) : ChatOperation → Prop
  | createConversation _ => after.messages = before.messages ++ [m]
  | sendMessage _ => after.messages = before.messages ++ [m]
  | editMessage data => after.message data.messageId = some m
  | deleteMessage data => after.message data.messageId = some m
  | _ => False

/-- A deletion for oneself concerns oneself, everything else those who find the message. -/
def ChatOperation.Concerns (ilike : JsString → JsString → Bool) (actor : Uuid) (after : ChatWorld)
    (m : Message) (userId : Uuid) : ChatOperation → Prop
  | deleteMessage data => match data.scope with
    | .me => userId = actor
    | .everyone => after.Lists ilike userId m.conversationId m.id
  | _ => after.Lists ilike userId m.conversationId m.id

section Steps
variable {ilike : JsString → JsString → Bool} {amb : Ambient} {actor : Uuid} {w : ChatWorld}
  {db : ChatDatabase}

/-- Saving a message as it has been loaded. -/
theorem updateMessage_same (messages : Keyed Message.id db.messages) {m : Message}
    (stored : m ∈ db.messages) :
    db.updateMessage m.id m.text m.editedAt m.updatedAt = db := by
  unfold ChatDatabase.updateMessage
  rw [amend_same]
  intro r mem hit
  rw [keyed_unique messages mem stored (of_decide_eq_true hit)]
  rfl

/-- Saving a deletion as it has been loaded. -/
theorem applyDeletion_same (messages : Keyed Message.id db.messages) {m : Message}
    (stored : m ∈ db.messages) : db.applyDeletion (db.loaded m).message.deletion = db := by
  have marked : amend (fun row => row.id = m.id) (db.loaded m).message.deletion.mark db.messages =
      db.messages := by
    apply amend_same
    intro r mem hit
    rw [keyed_unique messages mem stored (of_decide_eq_true hit), loaded_eq]
    rfl
  have rows : saveAll id ((db.loaded m).message.deletedForUserIds.map fun u => ⟨u,m.id⟩)
      db.deletedMessages = db.deletedMessages := by
    apply saveAll_id_same
    intro r mem
    obtain ⟨u,deleted,rfl⟩ := List.mem_map.mp mem
    exact mem_loaded.mp deleted
  have same : (db.loaded m).message.deletion.messageId = m.id :=
    MessageEntity.loadDeletedForUserIds_id ..
  unfold ChatDatabase.applyDeletion
  rw [same, marked, show (db.loaded m).message.deletion.deletedForUserIds =
    (db.loaded m).message.deletedForUserIds from rfl, rows]

/-- Where the pointers are right they stay when nothing is deleted. -/
theorem storeDeletion_same (tidy : db.Tidy) {m : Message} (stored : m ∈ db.messages) :
    db.storeDeletion (db.loaded m).message.deletion
      (db.movedPointers (db.loaded m).message.deletion) = db := by
  have same := applyDeletion_same tidy.messages stored
  have kept : saveAll ConversationMember.id
      (db.movedPointers (db.loaded m).message.deletion) db.members = db.members := by
    apply saveAll_same tidy.members
    intro copy mem
    obtain ⟨cm,picked,rfl⟩ := List.mem_map.mp mem
    obtain ⟨seated,_⟩ := List.mem_filter.mp picked
    obtain ⟨row,live,home⟩ := ChatDatabase.membersOf_iff.mp seated
    have latest : Newest (db.Shows cm.conversationId cm.userId) _ :=
      ChatDatabase.newest_latestVisible tidy.dates
    have pointer := Newest.unique (tidy.pointers cm row live) latest
    unfold ChatDatabase.movePointer
    rw [same, ← home, ← pointer]
    exact row
  unfold ChatDatabase.storeDeletion
  rw [kept, same]

/-- A stored message is found again, in its conversation. -/
theorem message_home {db' : ChatDatabase} (messages : Keyed Message.id db.messages)
    (origins : db'.messages.map Message.origin = db.messages.map Message.origin) {id : Uuid}
    {row m : Message} (found : db.message id = some row) (found' : db'.message id = some m) :
    m ∈ db'.messages ∧ m.id = row.id ∧ m.conversationId = row.conversationId := by
  obtain ⟨stored,is⟩ := lookup_mem found
  obtain ⟨stored',is'⟩ := lookup_mem found'
  obtain ⟨old,memold,same⟩ := ChatDatabase.same_row origins stored'
  obtain ⟨id,_,home,_⟩ := ChatDatabase.origin_inj same
  have row' : old = row := keyed_unique messages memold stored (id.trans (is'.trans is.symm))
  rw [← row']
  exact ⟨stored',id.symm,home.symm⟩

theorem announce_edited (event : MessageEditedDomainEvent) (v : ChatWorld) :
    v.announce [.edited event] =
      v.send (v.chat.liveRooms event.conversationId event.deletedForUserIds)
        (.messageEdited { id := event.messageId, conversationId := event.conversationId,
                          content := event.text, editedAt := event.editedAt }) :=
  congrArg Prod.snd (run_messageEdited event v)

theorem announce_deleted (event : MessageDeletedDomainEvent) (v : ChatWorld) :
    v.announce [.deleted event] =
      v.send (match event.scope with
        | .me => [event.actorUserId]
        | .everyone => v.chat.liveRooms event.conversationId event.deletedForUserIds)
        (deletedEvent event) :=
  congrArg Prod.snd (run_messageDeleted event v)

theorem told_edit {data : EditMessageRequest} {c : Change LoadedMessage} (sound : w.chat.Sound)
    (after : c.chat.Sound)
    (edits : EditMessageHandler.change amb.now (data.command actor) w.chat = .ok c) :
    c.chat = w.chat ∨ ∀ m, c.chat.message data.messageId = some m → ∀ userId,
      ((w.changed c []).announce c.events).Told (.editMessage data) m.id userId ↔
        ((w.changed c []).announce c.events).Lists ilike userId m.conversationId m.id := by
  obtain ⟨member,row,edited,_,found,_,changes,chat,events,_⟩ := EditMessageHandler.change_ok edits
  have loadedId : (w.chat.loaded row).message.id = row.id := MessageEntity.loadDeletedForUserIds_id ..
  have loadedHome : (w.chat.loaded row).message.conversationId = row.conversationId :=
    MessageEntity.loadDeletedForUserIds_conversationId ..
  obtain ⟨_,_,⟨_,is⟩ | ⟨_,is⟩⟩ := edit_ok changes
  · refine Or.inl (chat.trans ?_)
    rw [is, loaded_eq]
    exact updateMessage_same sound.filed.messages (lookup_mem found).1
  · refine Or.inr fun m found' userId => ?_
    have origins : c.chat.messages.map Message.origin = w.chat.messages.map Message.origin := by
      rw [chat]
      exact ChatDatabase.origin_updateMessage ..
    obtain ⟨stored,same,home⟩ := message_home sound.filed.messages origins found found'
    have rows : userId ∈ (w.chat.loaded row).message.deletedForUserIds ↔
        ⟨userId,m.id⟩ ∈ c.chat.deletedMessages := by
      rw [mem_loaded, same, chat]
      rfl
    rw [events, is]
    dsimp only
    rw [announce_edited]
    dsimp only
    rw [loadedHome, ← home]
    exact told_members after ⟨m,stored,rfl,rfl⟩ rows (by simp [ChatWorld.changed])
      (congrArg some (loadedId.trans same.symm))

/-- A deletion of a message, or one that was made before. -/
theorem told_delete {data : DeleteMessageRequest} {c : Change LoadedMessage}
    (sound : w.chat.Sound) (after : c.chat.Sound)
    (deletes : DeleteMessageHandler.change amb.now (data.command actor) w.chat = .ok c) :
    (c.chat.messages = w.chat.messages ∧ c.chat.deletedMessages = w.chat.deletedMessages ∧
        (w.chat.Tidy → c.chat = w.chat)) ∨
      ∀ m, c.chat.message data.messageId = some m → ∀ userId,
        ((w.changed c []).announce c.events).Told (.deleteMessage data) m.id userId ↔
          (ChatOperation.deleteMessage data).Concerns ilike actor
            ((w.changed c []).announce c.events) m userId := by
  obtain ⟨member,row,deleted,_,found,_,changes,chat,events⟩ :=
    DeleteMessageHandler.change_ok deletes
  have stored := (lookup_mem found).1
  have loadedId : (w.chat.loaded row).message.id = row.id := MessageEntity.loadDeletedForUserIds_id ..
  have loadedHome : (w.chat.loaded row).message.conversationId = row.conversationId :=
    MessageEntity.loadDeletedForUserIds_conversationId ..
  have again : deleted = ((w.chat.loaded row).message, []) →
      c.chat.messages = w.chat.messages ∧ c.chat.deletedMessages = w.chat.deletedMessages ∧
        (w.chat.Tidy → c.chat = w.chat) := by
    intro is
    have same := applyDeletion_same sound.filed.messages stored
    have rows := congrArg (fun db => (db.messages, db.deletedMessages)) same
    rw [chat, is]
    refine ⟨congrArg Prod.fst rows,congrArg Prod.snd rows,?_⟩
    exact fun tidy => storeDeletion_same tidy stored
  have origins : c.chat.messages.map Message.origin = w.chat.messages.map Message.origin := by
    rw [chat]
    exact ChatDatabase.origin_storeDeletion ..
  rcases delete_cases changes with ⟨scope,is⟩ | ⟨scope,_,⟨_,is⟩ | ⟨_,is⟩⟩
  · unfold MessageEntity.deleteForUser at is
    split_ifs at is with before
    · exact Or.inl (again is)
    · refine Or.inr fun m found' userId => ?_
      obtain ⟨_,same,_⟩ := message_home sound.filed.messages origins found found'
      have own : data.scope = .me := scope
      rw [events, is]
      dsimp only
      rw [announce_deleted]
      dsimp only [ChatOperation.Concerns]
      rw [own]
      refine (told_send (by simp [ChatWorld.changed]) ?_).trans List.mem_singleton
      simp [ChatOperation.announcedIn, deletedEvent, own, loadedId, same]
  · exact Or.inl (again is)
  · refine Or.inr fun m found' userId => ?_
    obtain ⟨stored',same,home⟩ := message_home sound.filed.messages origins found found'
    have every : data.scope = .everyone := scope
    have rows : userId ∈ (w.chat.loaded row).message.deletedForUserIds ↔
        ⟨userId,m.id⟩ ∈ c.chat.deletedMessages := by
      rw [mem_loaded, same, chat, is]
      refine Iff.symm (ChatDatabase.mem_deletionRows.trans (or_iff_right_of_imp ?_))
      intro ⟨_,hidden⟩
      exact mem_loaded.mp hidden
    rw [events, is]
    dsimp only
    rw [announce_deleted]
    dsimp only [ChatOperation.Concerns]
    rw [every, loadedHome, ← home]
    refine told_members after ⟨m,stored',rfl,rfl⟩ rows (by simp [ChatWorld.changed]) ?_
    simp [ChatOperation.announcedIn, deletedEvent, every, loadedId, same]

/-- The members of a conversation of two accounts have accounts. -/
theorem accounts_of_two (seated : db.Seated) {users : UserDatabase} {conversationId : Uuid}
    {own target : ConversationMember} (mine : own ∈ db.membersOf conversationId)
    (other : target ∈ db.membersOf conversationId) (apart : target.userId ≠ own.userId)
    (accounts : users.HasUser own.userId ∧ users.HasUser target.userId) :
    ∀ cm ∈ db.membersOf conversationId, users.HasUser cm.userId := by
  intro cm mem
  by_cases same : cm.userId = own.userId
  · rw [same]
    exact accounts.1
  · rw [← seated.other mine other mem apart same]
    exact accounts.2

/-- The members of a new conversation. -/
theorem accounts_withConversation (unused : ChatDatabase.Unused amb db) (seated : db.Seated)
    {users : UserDatabase} {userId targetUserId : Uuid}
    (accounts : users.HasUser userId ∧ users.HasUser targetUserId) :
    ∀ cm ∈ (db.withConversation amb userId targetUserId).membersOf (amb.uuid 0),
      users.HasUser cm.userId := by
  intro cm mem
  obtain ⟨stored,_,home⟩ := ChatDatabase.membersOf_iff.mp mem
  rcases List.mem_append.mp stored with old | new
  · obtain ⟨c,known,is,_⟩ := seated.homes cm old
    exact absurd (List.mem_map.mpr ⟨c,known,is.trans home⟩) (unused.conversations 0)
  · rcases mem_newMembers new with rfl | ⟨_,rfl⟩
    · exact accounts.1
    · exact accounts.2

/-- What a step tells about the message that it is about. -/
def ChatOperation.TellsRight (ilike : JsString → JsString → Bool) (actor : Uuid)
    (before after : ChatWorld) (operation : ChatOperation) : Prop :=
  ∀ m, operation.About before.chat after.chat m → after.chat.Couple m.conversationId →
    ∀ userId, after.Told operation m.id userId ↔ operation.Concerns ilike actor after m userId

/-- A send that has stored its message. -/
theorem tells_inserted {command : CreateMessageCommand} {member : ConversationMember}
    {message : MessageEntity} {event : MessageCreatedDomainEvent} {operation : ChatOperation}
    {v : ChatWorld} (sends : Inserts amb command db member message event)
    (unused : amb.uuid 0 ∉ db.messages.map Message.id) (sound : db.Sound)
    (chat : v.chat = db.withMessage message) (messages : db.messages = w.chat.messages)
    (accounts : ∀ cm ∈ db.membersOf command.conversationId, v.users.HasUser cm.userId)
    (visible : command.senderId ∉ command.deletedForUserIds)
    (before : ∀ b ∈ v.emitted, operation.announcedIn b.event = none)
    (its : ∀ data, operation.announcedIn (.messageSent data) = some data.id)
    (about : ∀ m, operation.About w.chat v.chat m → v.chat.messages = w.chat.messages ++ [m])
    (concerns : ∀ after m userId, operation.Concerns ilike actor after m userId ↔
      after.Lists ilike userId m.conversationId m.id) :
    operation.TellsRight ilike actor w (v.announce [.created event]) := by
  intro m is couple userId
  have same : (v.announce [.created event]).chat = v.chat := announce_chat _ v
  rw [same] at is couple
  have rows := about m is
  rw [chat] at rows
  have new : Message.fromDomain message = m := by
    have appended : w.chat.messages ++ [Message.fromDomain message] = w.chat.messages ++ [m] := by
      rw [← messages]
      rw [← messages] at rows
      exact rows
    simpa using appended
  rw [concerns, ← new]
  rw [← new] at couple
  exact told_inserted sends unused sound chat couple accounts visible
    (fun b mem => by rw [before b mem]; simp) its

theorem tells_perform {operation : ChatOperation} (sound : w.chat.Sound)
    (unused : ChatDatabase.Unused amb w.chat) :
    ((w.perform ilike amb actor operation).2.chat.messages = w.chat.messages ∧
        (w.perform ilike amb actor operation).2.chat.deletedMessages = w.chat.deletedMessages ∧
        (w.chat.Tidy → (w.perform ilike amb actor operation).2.chat = w.chat)) ∨
      operation.TellsRight ilike actor w (w.perform ilike amb actor operation).2 := by
  have after : (w.perform ilike amb actor operation).2.chat.Sound :=
    sound_effect (effect_of_sound ilike actor operation sound unused) unused sound
  cases is : w.perform ilike amb actor operation with
  | mk r v =>
    have outcome := outcome_perform ilike amb actor w operation
    rw [is] at outcome after
    dsimp only at after ⊢
    cases outcome with
    | refused => exact Or.inl ⟨rfl,rfl,fun _ => rfl⟩
    | listedConversations => exact Or.inl ⟨rfl,rfl,fun _ => rfl⟩
    | listedMessages => exact Or.inl ⟨rfl,rfl,fun _ => rfl⟩
    | blocked => exact Or.inl ⟨rfl,rfl,fun _ => rfl⟩
    | marked => exact Or.inr fun m about => absurd about (by simp [ChatOperation.About])
    | rolledBack accounts opens =>
      refine Or.inr fun m about => ?_
      obtain ⟨_,chat⟩ := CreateDirectConversationHandler.change_effect unused opens
      have rows : w.chat.messages = w.chat.messages ++ [m] := by
        have about' := about
        dsimp only [ChatOperation.About] at about'
        rw [chat] at about'
        exact about'
      simp at rows
    | @created data _ opened c announced accounts unblocked opens sends announces =>
      refine Or.inr ?_
      obtain ⟨_,stores⟩ := CreateDirectConversationHandler.change_effect unused opens
      rw [stores] at sends
      rcases CreateMessageHandler.change_effect (keyed_withConversation unused sound.seated.members
          actor data.targetUserId) (unused.messages 4) sends with
        ⟨_,_,_,known,_⟩ | ⟨_,_,_,_,inserts,_,rfl⟩
      · cases known
      · refine tells_inserted inserts (unused.messages 4) (sound_withConversation unused sound _ _)
          rfl rfl (accounts_withConversation unused sound.seated accounts)
          (by simp [CreateConversationRequest.firstMessage]) ?_ (fun _ => rfl) (fun _ about => about)
          (fun _ _ _ => Iff.rfl)
        intro b mem
        obtain ⟨_,shown,kind,_⟩ := announces b mem
        rw [kind]
        rfl
    | @sent data _ target c other apart accounts unblocked sends =>
      rcases CreateMessageHandler.change_effect sound.seated.members (unused.messages 0) sends with
        ⟨_,_,_,_,_,rfl⟩ | ⟨member,_,_,_,inserts,_,rfl⟩
      · exact Or.inl ⟨rfl,rfl,fun _ => rfl⟩
      · refine Or.inr ?_
        obtain ⟨joined,user,_⟩ := conversationMember_ok inserts.seated
        have user' : member.userId = actor := user
        refine tells_inserted inserts (unused.messages 0) sound rfl rfl
          (accounts_of_two sound.seated joined other (user'.symm ▸ apart) (user'.symm ▸ accounts)) ?_
          (by simp [ChatWorld.changed]) (fun _ => rfl) (fun _ about => about)
          (fun _ _ _ => Iff.rfl)
        intro hidden
        dsimp only [CreateMessageRequest.command] at hidden
        split_ifs at hidden
        · exact apart (List.mem_singleton.mp hidden).symm
        · cases hidden
    | @edited data _ c edits =>
      rw [announce_chat] at after
      rcases told_edit sound after edits with same | told
      · refine Or.inl ?_
        rw [announce_chat]
        exact ⟨congrArg ChatDatabase.messages same,congrArg ChatDatabase.deletedMessages same,
          fun _ => same⟩
      · refine Or.inr fun m about _ userId => ?_
        rw [announce_chat] at about
        exact told m about userId
    | @deleted data _ c deletes =>
      rw [announce_chat] at after
      rcases told_delete sound after deletes with same | told
      · refine Or.inl ?_
        rw [announce_chat]
        exact same
      · refine Or.inr fun m about _ userId => ?_
        rw [announce_chat] at about
        exact told m about userId

/-- The draws that an opening leaves for the first message. -/
theorem fresh_withConversation (fresh : ChatDatabase.Fresh amb db) (userId targetUserId : Uuid) :
    ChatDatabase.Fresh (amb.skip 4) (db.withConversation amb userId targetUserId) := by
  have apart : ∀ k l, l < 4 → amb.uuid (4 + k) ≠ amb.uuid l := by
    intro k l less same
    have index := fresh.injective same
    omega
  constructor
  · intro k l same
    have index := fresh.injective same
    omega
  · intro k mem
    obtain ⟨c,stored,is⟩ := List.mem_map.mp mem
    rcases List.mem_append.mp stored with old | new
    · exact fresh.conversations (4 + k) (List.mem_map.mpr ⟨c,old,is⟩)
    · rw [List.mem_singleton.mp new] at is
      exact apart k 0 (by omega) is.symm
  · intro k mem
    obtain ⟨cm,stored,is⟩ := List.mem_map.mp mem
    rcases List.mem_append.mp stored with old | new
    · exact fresh.members (4 + k) (List.mem_map.mpr ⟨cm,old,is⟩)
    · rcases mem_newMembers new with rfl | ⟨_,rfl⟩
      · exact apart k 2 (by omega) is.symm
      · exact apart k 3 (by omega) is.symm
  · exact fun k => fresh.messages (4 + k)
  · exact fresh.later

/-- With a clock that advances the pointers stay at the newest messages. -/
theorem tidy_perform {operation : ChatOperation} (tidy : w.chat.Tidy)
    (fresh : ChatDatabase.Fresh amb w.chat) :
    (w.perform ilike amb actor operation).2.chat.Tidy := by
  cases is : w.perform ilike amb actor operation with
  | mk r v =>
    have outcome := outcome_perform ilike amb actor w operation
    rw [is] at outcome
    cases outcome with
    | refused => exact tidy
    | listedConversations => exact tidy
    | listedMessages => exact tidy
    | blocked => exact tidy
    | rolledBack accounts opens =>
      exact ChatDatabase.tidy_removed (tidy_create tidy fresh opens) _ _
    | @created data _ opened c announced accounts unblocked opens sends =>
      rw [announce_chat]
      have opened' := tidy_create tidy fresh opens
      obtain ⟨_,stores⟩ := CreateDirectConversationHandler.change_effect fresh.unused opens
      refine tidy_send opened' ?_ sends
      rw [stores]
      exact fresh_withConversation fresh _ _
    | sent _ _ _ _ sends =>
      rw [announce_chat]
      exact tidy_send tidy fresh sends
    | edited edits =>
      rw [announce_chat]
      exact tidy_edit tidy edits
    | deleted deletes =>
      rw [announce_chat]
      exact tidy_delete tidy deletes
    | marked marks =>
      rw [announce_chat]
      exact tidy_markAsRead tidy marks

end Steps

/-- The messages, or who has deleted them, are different. -/
def ChatDatabase.MessagesDiffer (before after : ChatDatabase) : Prop :=
  after.messages ≠ before.messages ∨ after.deletedMessages ≠ before.deletedMessages

/-- An operation that changes the tables tells those whom it concerns. -/
def Turn.TellsRight (ilike : JsString → JsString → Bool)
    (changed : ChatDatabase → ChatDatabase → Prop) (w : ChatWorld) : Turn → Prop
  | .request amb authUserId operation =>
      changed w.chat (w.perform ilike amb authUserId operation).2.chat →
        operation.TellsRight ilike authUserId w (w.perform ilike amb authUserId operation).2
  | .elsewhere _ => True

/-- The clock of an operation is past all messages. -/
def Turn.Later (w : ChatWorld) : Turn → Prop
  | .request amb _ _ => ∀ m ∈ w.chat.messages, m.createdAt < amb.now
  | .elsewhere _ => True

theorem tidy_turn {ilike : JsString → JsString → Bool} {w : ChatWorld} {turn : Turn}
    (tidy : w.chat.Tidy) (allowed : turn.Allowed w) (later : turn.Later w) :
    (turn.run ilike w).chat.Tidy := by
  cases turn with
  | request amb authUserId operation =>
    exact tidy_perform tidy ⟨allowed.injective,allowed.conversations,allowed.members,
      allowed.messages,later⟩
  | elsewhere users => exact tidy

/-- In a conversation of two, the users who get the event of a send, an edit or a deletion for
    everyone are those who find the message in their list afterwards, and a deletion for oneself is
    announced to its user only. This is so for every operation that changes messages or
    deletions, and with a clock that advances for every one that changes anything. -/
theorem told_as_listed {ilike : JsString → JsString → Bool} {w : ChatWorld} {turns : List Turn}
    (empty : w.chat = ⟨[],[],[],[]⟩) (along : Turn.Along ilike Turn.Allowed turns w) :
    Turn.Along ilike (Turn.TellsRight ilike ChatDatabase.MessagesDiffer) turns w ∧
      (Turn.Along ilike Turn.Later turns w →
        Turn.Along ilike (Turn.TellsRight ilike fun before after => after ≠ before) turns w) := by
  constructor
  · refine along.derive (fun _ _ => sound_turn) (fun v turn sound allowed => ?_)
      (empty ▸ ChatDatabase.sound_empty)
    cases turn with
    | elsewhere => trivial
    | request amb authUserId operation =>
      intro differ
      rcases tells_perform sound allowed with ⟨messages,deleted,_⟩ | tells
      · exact absurd differ (not_or.mpr ⟨not_not.mpr messages,not_not.mpr deleted⟩)
      · exact tells
  · intro later
    have start : w.chat.Sound ∧ w.chat.Tidy := by
      rw [empty]
      exact ⟨ChatDatabase.sound_empty,tidy_empty⟩
    refine (along.both later).derive
      (fun _ _ (ok : ChatDatabase.Sound _ ∧ ChatDatabase.Tidy _) step =>
        ⟨sound_turn ok.1 step.1,tidy_turn ok.2 step.1 step.2⟩) (fun v turn ok step => ?_) start
    cases turn with
    | elsewhere => trivial
    | request amb authUserId operation =>
      intro differ
      rcases tells_perform ok.1 step.1 with ⟨_,_,same⟩ | tells
      · exact absurd (same ok.2) differ
      · exact tells

/-- User 1 edits the greeting, user 2 deletes it for himself and user 1 for everyone. -/
theorem told_as_listed_corrections :
    Turn.Along noMatch (Turn.TellsRight noMatch ChatDatabase.MessagesDiffer) corrections emptyWorld ∧
      (Turn.Along noMatch Turn.Later corrections emptyWorld →
        Turn.Along noMatch (Turn.TellsRight noMatch fun before after => after ≠ before) corrections
          emptyWorld) :=
  told_as_listed rfl ⟨unused_numberedDraws (by decide) (by decide) (by decide),
    unused_numberedDraws (by decide) (by decide) (by decide),
    unused_numberedDraws (by decide) (by decide) (by decide),
    unused_numberedDraws (by decide) (by decide) (by decide),trivial⟩

end Chatterbox
