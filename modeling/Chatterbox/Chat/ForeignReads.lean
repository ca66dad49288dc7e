import Chatterbox.Chat.ForeignTexts
import Chatterbox.Concurrency.TwoRuns

/-!
What is read on two servers that are the same for a user: the users behind their ids, the
conversation that a request names, the lists that the user is shown, and what the event
handlers load.
-/
namespace Chatterbox
open Concurrency Tables

/-- The same accounts, and the same tables for the viewer. -/
structure ChatWorld.SameFor (viewer : Uuid) (w v : ChatWorld) : Prop where
  users : v.users = w.users
  chat : w.chat.SameFor viewer v.chat

section Users
variable {α : Type} {viewer : Uuid} {w v : ChatWorld}

/-- A question to the user module that changes nothing there. -/
theorem agrees_askUserModule (alike : w.SameFor viewer v) {p : UserProgram α}
    (keeps : (p.run userHandler w.users).2 = w.users) :
    (askUserModule p).Agrees chatHandler w v := by
  refine ⟨(p.run userHandler w.users).1,?_,?_⟩
  · rw [run_askUserModule, keeps]
  · rw [run_askUserModule, alike.users, keeps, ← alike.users]

theorem agrees_getUserById (alike : w.SameFor viewer v) (userId : Uuid) :
    (ChatUserIntegrationAdapter.getUserById userId).Agrees chatHandler w v := by
  refine (agrees_askUserModule alike ?_).bind fun _ _ => Program.agrees_done _
  rw [run_getUserByIdQuery]
  split <;> rfl

theorem agrees_getBlockStatus (alike : w.SameFor viewer v) (userId targetUserId : Uuid) :
    (ChatUserIntegrationAdapter.getBlockStatus userId targetUserId).Agrees chatHandler w v := by
  refine agrees_askUserModule alike ?_
  rw [run_getBlockStatusQuery]

theorem agrees_getUsersByIds (alike : w.SameFor viewer v) (userIds : List Uuid) :
    (ChatUserIntegrationAdapter.getUsersByIds userIds).Agrees chatHandler w v := by
  refine (agrees_askUserModule alike ?_).bind fun _ _ => Program.agrees_done _
  unfold UserPostgresReadRepository.getUsersByIds
  split <;> rfl

theorem agrees_getBlockedUsersIds (alike : w.SameFor viewer v) (userId : Uuid)
    (targetUserIds : List Uuid) :
    (ChatUserIntegrationAdapter.getBlockedUsersIds userId targetUserIds).Agrees chatHandler w v :=
  agrees_askUserModule alike rfl

theorem agrees_filterUsers (alike : w.SameFor viewer v) (ilike : JsString → JsString → Bool)
    (data : GetUserConversationListRequest) :
    (ChatWsGateway.filterUsers ilike data).Agrees chatHandler w v := by
  unfold ChatWsGateway.filterUsers
  split
  · exact Program.agrees_done _
  · have named : (ChatUserIntegrationAdapter.getUserIdsByNameOrUsername ilike
        data.filter).Agrees chatHandler w v := agrees_askUserModule alike rfl
    exact named.bind fun _ _ => Program.agrees_done _

theorem agrees_listItems (alike : w.SameFor viewer v) (authUserId : Uuid)
    (list : PaginatedResult ConversationReadDto) :
    (ChatWsGateway.listItems authUserId list).Agrees chatHandler w v := by
  unfold ChatWsGateway.listItems
  split
  · exact Program.agrees_done _
  · exact (agrees_getUsersByIds alike _).bind fun _ _ => Program.agrees_done _

theorem agrees_resolveParentUser (alike : w.SameFor viewer v) (currentUser targetUser : ChatUser)
    (parentUserId : Option Uuid) :
    (resolveParentUser currentUser targetUser parentUserId).Agrees chatHandler w v := by
  unfold resolveParentUser
  split
  · exact Program.agrees_done _
  · split_ifs
    · exact Program.agrees_done _
    · exact Program.agrees_done _
    · exact (agrees_getUserById alike _).map _

theorem agrees_ackReply (alike : w.SameFor viewer v) (members : List ConversationMemberReadDto)
    (currentUser targetUser : ChatUser) (m : LoadedMessage) :
    (ChatWsGateway.ackReply members currentUser targetUser m).Agrees chatHandler w v := by
  unfold ChatWsGateway.ackReply
  split
  · exact (agrees_resolveParentUser alike _ _ _).bind fun _ _ => Program.agrees_done _
  · exact Program.agrees_done _

end Users

/-- A listed conversation without the text of the message last seen, which nobody is shown. -/
def ConversationListRow.blind (row : ConversationListRow) : ConversationListRow :=
  { row with lastSeenMessage := row.lastSeenMessage.map Message.bare }

theorem toListDto_blind (notSeenCounts : List (Uuid × Nat)) (others : List SeenMember)
    (row : ConversationListRow) :
    ConversationPostgresReadRepository.toListDto notSeenCounts others row.blind =
      ConversationPostgresReadRepository.toListDto notSeenCounts others row := by
  obtain ⟨conversation,member,seen,last,sender⟩ := row
  cases seen <;> rfl

section Tables
variable {α : Type} {viewer : Uuid} {db db' : ChatDatabase}

namespace ChatDatabase.SameFor

/-- A member row shows the date of the message last seen, and nothing else of it. -/
theorem seenMember (same : db.SameFor viewer db') (m : ConversationMember) :
    ConversationPostgresReadRepository.toMemberDto (db'.withLastSeen m) =
      ConversationPostgresReadRepository.toMemberDto (db.withLastSeen m) := by
  have date : (m.lastSeenMessageId.bind db'.message).map Message.createdAt =
      (m.lastSeenMessageId.bind db.message).map Message.createdAt := by
    cases m.lastSeenMessageId with
    | none => rfl
    | some id =>
      simp only [Option.bind_some]
      rcases same.message id with ⟨none,none'⟩ | ⟨m,m',found,found',pair⟩
      · rw [none, none']
      · rw [found, found', Option.map_some, Option.map_some, pair.createdAt]
  simp only [ConversationPostgresReadRepository.toMemberDto, withLastSeen, date]

theorem liveMembers (same : db.SameFor viewer db') : db'.liveMembers = db.liveMembers := by
  rw [same.eq]
  rfl

theorem userConversation (same : db.SameFor viewer db') (conversationId userId : Uuid) :
    db'.userConversation conversationId userId = db.userConversation conversationId userId := by
  have live : db'.liveConversations = db.liveConversations := by
    rw [same.eq]
    rfl
  have shown : ∀ rows : Conversation,
      ConversationPostgresReadRepository.toConversationDto
          (rows, (db.membersOf conversationId).map db'.withLastSeen) =
        ConversationPostgresReadRepository.toConversationDto
          (rows, (db.membersOf conversationId).map db.withLastSeen) := by
    intro rows
    simp only [ConversationPostgresReadRepository.toConversationDto, List.map_map]
    congr 1
    exact List.map_congr_left fun m _ => same.seenMember m
  unfold ChatDatabase.userConversation ChatDatabase.getUserConversation
  rw [same.isMember, live, same.membersOf]
  split_ifs
  · cases lookup Conversation.id conversationId db.liveConversations with
    | none => rfl
    | some c => exact congrArg Except.ok (shown c)
  · rfl

/-- The pages of a conversation of the viewer. -/
theorem listMessages (same : db.SameFor viewer db') (confined : db.Confined)
    {conversationId : Uuid} (reads : db.isMember conversationId viewer = true)
    (pagination : PaginationOptions) :
    db'.listMessages conversationId viewer pagination =
      db.listMessages conversationId viewer pagination := by
  have listed : db'.messages.filter (fun m =>
        m.conversationId = conversationId && !db'.deletedFor viewer m.id) =
      db.messages.filter fun m =>
        m.conversationId = conversationId && !db.deletedFor viewer m.id := by
    refine filter_same (fun m m' pair => ?_) (fun m m' pair passes => ?_) same.messages
    · rw [pair.home, pair.id, deletedFor, deletedFor, same.deletedMessages]
    · have home : m.conversationId = conversationId ∧ db.deletedFor viewer m.id = false := by
        simpa using passes
      exact pair.same (home.1 ▸ reads)
  have rows : db'.messageRows conversationId viewer = db.messageRows conversationId viewer := by
    unfold messageRows
    rw [listed, same.liveMembers]
    refine List.filterMap_congr fun m mem => ?_
    obtain ⟨stored,passes⟩ := List.mem_filter.mp mem
    have home : m.conversationId = conversationId ∧ db.deletedFor viewer m.id = false := by
      simpa using passes
    rw [same.found confined.messages (confined.quotes m stored) (home.1 ▸ reads)]
  unfold ChatDatabase.listMessages
  rw [rows]

theorem notSeenCount (same : db.SameFor viewer db') (m : ConversationMember) :
    db'.notSeenCount m = db.notSeenCount m := by
  have columns : ∀ r r', Message.SameFor (fun c => db.isMember c viewer) r r' →
      (decide (r'.conversationId = m.conversationId) && r'.deletedAt.isNone &&
          m.lastSeenMessageId.all fun id => id < r'.id) =
        (decide (r.conversationId = m.conversationId) && r.deletedAt.isNone &&
          m.lastSeenMessageId.all fun id => id < r.id) := by
    intro r r' pair
    rw [pair.home, pair.fields.2, pair.id]
  have unseen := filter_related columns same.messages
  have deleted : ∀ r r', Message.SameFor (fun c => db.isMember c viewer) r r' →
      db'.deletedFor m.userId r'.id = db.deletedFor m.userId r.id := by
    intro r r' pair
    rw [pair.id, deletedFor, deletedFor, same.deletedMessages]
  unfold ChatDatabase.notSeenCount
  dsimp only
  rw [unseen.length_eq, countP_related deleted unseen]

/-- The rows of the conversations of the viewer, but for the messages last seen. -/
theorem conversationRows (same : db.SameFor viewer db') (confined : db.Confined)
    (filterUserIds : List Uuid) :
    (db'.conversationRows viewer filterUserIds).map ConversationListRow.blind =
      (db.conversationRows viewer filterUserIds).map ConversationListRow.blind := by
  have live : db'.liveConversations = db.liveConversations := by
    rw [same.eq]
    rfl
  have members : ∀ c, db'.isMember c = db.isMember c := fun c => funext (same.isMember c)
  unfold ChatDatabase.conversationRows
  rw [live, List.map_flatMap, List.map_flatMap]
  refine List.flatMap_congr fun c _ => ?_
  rw [same.membersOf, members]
  split
  · rfl
  · rw [List.map_map, List.map_map]
    refine List.map_congr_left fun m mem => ?_
    obtain ⟨seated,own⟩ := List.mem_filter.mp mem
    obtain ⟨stored,_,home⟩ := membersOf_iff.mp seated
    have reads : db.isMember m.conversationId viewer = true := by
      rw [home]
      exact List.any_eq_true.mpr ⟨m,seated,own⟩
    have last : m.lastMessageId.bind db'.message = m.lastMessageId.bind db.message :=
      same.found confined.messages (confined.last m stored) reads
    have seen : (m.lastSeenMessageId.bind db'.message).map Message.bare =
        (m.lastSeenMessageId.bind db.message).map Message.bare := by
      cases m.lastSeenMessageId with
      | none => rfl
      | some id =>
        simp only [Option.bind_some]
        rcases same.message id with ⟨none,none'⟩ | ⟨r,r',found,found',pair⟩
        · rw [none, none']
        · rw [found, found', Option.map_some, Option.map_some, pair.bare]
    simp only [Function.comp_apply, ConversationListRow.blind, last, seen, same.liveMembers]

theorem listConversations (same : db.SameFor viewer db') (confined : db.Confined)
    (filterUserIds : List Uuid) (pagination : PaginationOptions) :
    (db'.listConversations viewer filterUserIds pagination).1.map ConversationListRow.blind =
        (db.listConversations viewer filterUserIds pagination).1.map ConversationListRow.blind ∧
      (db'.listConversations viewer filterUserIds pagination).2 =
        (db.listConversations viewer filterUserIds pagination).2 := by
  have rows := same.conversationRows confined filterUserIds
  have order : ∀ rows : List ConversationListRow,
      (rows.insertionSort newestFirst).map ConversationListRow.blind =
        (rows.map ConversationListRow.blind).insertionSort newestFirst :=
    fun rows => List.map_insertionSort _ _ _ rows fun _ _ _ _ => Iff.rfl
  unfold ChatDatabase.listConversations
  dsimp only
  constructor
  · rw [ChatDatabase.map_page, ChatDatabase.map_page, order, order, rows]
  · rw [← List.length_map ConversationListRow.blind, rows, List.length_map]

/-- The dates that the other members have read to. -/
theorem others (same : db.SameFor viewer db') (members : List ConversationMember) (id : Uuid) :
    ((members.map db'.withLastSeen).filter fun m => m.1.conversationId = id).map
        ConversationPostgresReadRepository.toMemberDto =
      ((members.map db.withLastSeen).filter fun m => m.1.conversationId = id).map
        ConversationPostgresReadRepository.toMemberDto := by
  rw [List.filter_map, List.filter_map, List.map_map, List.map_map]
  exact List.map_congr_left fun m _ => same.seenMember m

end ChatDatabase.SameFor
end Tables

section Lists
variable {viewer : Uuid} {w v : ChatWorld}

theorem agrees_query {α : Type} {q : StoreRequest (Answer α)}
    {read : ChatDatabase → α} (reads : q.Reads read) (same : read v.chat = read w.chat) :
    (query q).Agrees chatHandler w v := by
  have here := run_read reads Program.done w
  have there := run_read reads Program.done v
  rw [Program.bind_done] at here there
  refine ⟨.ok (read w.chat),here,?_⟩
  rw [there, same]
  rfl

theorem run_userConversation (conversationId userId : Uuid) (w : ChatWorld) :
    (GetUserConversationHandler.execute conversationId userId).run chatHandler w =
      (w.chat.userConversation conversationId userId, w) := by
  have flat : (GetUserConversationHandler.execute conversationId userId >>= Program.done).run
      chatHandler w = _ := run_getUserConversation Program.done
  rw [Program.bind_done] at flat
  rw [flat]
  cases w.chat.userConversation conversationId userId <;> rfl

theorem agrees_userConversation (alike : w.SameFor viewer v) (conversationId userId : Uuid) :
    (GetUserConversationHandler.execute conversationId userId).Agrees chatHandler w v := by
  refine ⟨_,run_userConversation conversationId userId w,?_⟩
  rw [run_userConversation, alike.chat.userConversation]

theorem agrees_requireMembership (alike : w.SameFor viewer v) (conversationId authUserId : Uuid) :
    (ChatWsGateway.requireMembership conversationId authUserId).Agrees chatHandler w v := by
  refine (agrees_userConversation alike conversationId authUserId).bind fun dto _ => ?_
  split
  · exact Program.agrees_done _
  · exact Program.agrees_fail _

/-- The message list of the viewer. -/
theorem agrees_getConversationMessageList (alike : w.SameFor viewer v) (confined : w.chat.Confined)
    (amb : Ambient) (data : GetConversationMessageListRequest) :
    (ChatWsGateway.getConversationMessageList amb data viewer).Agrees chatHandler w v := by
  refine (agrees_userConversation alike data.conversationId viewer).bind fun dto loaded => ?_
  rw [run_userConversation] at loaded
  obtain ⟨_,reads,_⟩ := userConversation_ok (Prod.mk.inj loaded).1
  have listed : (GetUserConversationMessageListHandler.execute amb.now data.conversationId viewer
      (PaginationHelper.parse data.page data.pageSize)).Agrees chatHandler w v := by
    refine (agrees_query (fun _ => rfl) ?_).bind fun res _ => ?_
    · exact alike.chat.listMessages confined reads _
    · refine Program.Agrees.bind ?_ fun _ _ => Program.agrees_done _
      unfold ConversationPostgresReadRepository.deletedReplies
      dsimp only
      split
      · exact Program.agrees_done _
      · refine (agrees_query (fun _ => rfl) ?_).bind fun _ _ => Program.agrees_done _
        rw [alike.chat.deletedMessages]
  refine listed.bind fun messageList _ => ?_
  refine (agrees_getUsersByIds alike _).bind fun users _ => ?_
  exact (agrees_getBlockedUsersIds alike _ _).bind fun _ _ => Program.agrees_done _

/-- The page of conversations, with what is not seen and the other members of each. -/
theorem agrees_listConversations (alike : w.SameFor viewer v) (confined : w.chat.Confined)
    (filterUserIds : List Uuid) (pagination : PaginationOptions) :
    (ConversationPostgresReadRepository.getUserConversationList viewer filterUserIds
      pagination).Agrees chatHandler w v := by
  obtain ⟨rows,total⟩ := alike.chat.listConversations confined filterUserIds pagination
  have ids' : (v.chat.listConversations viewer filterUserIds pagination).1.map
        (fun row => row.conversation.id) =
      (w.chat.listConversations viewer filterUserIds pagination).1.map
        fun row => row.conversation.id := by
    have column : ∀ rows : List ConversationListRow, rows.map (fun row => row.conversation.id) =
        (rows.map ConversationListRow.blind).map fun row => row.conversation.id := by
      intro rows
      rw [List.map_map]
      rfl
    rw [column, rows, ← column]
  let ids := (w.chat.listConversations viewer filterUserIds pagination).1.map
    fun row => row.conversation.id
  have counted : v.chat.notSeenCounts viewer ids = w.chat.notSeenCounts viewer ids := by
    unfold ChatDatabase.notSeenCounts
    rw [alike.chat.liveMembers]
    exact List.map_congr_left fun m _ => by rw [alike.chat.notSeenCount]
  have shown : ∀ rows : List ConversationListRow, rows.map
        (ConversationPostgresReadRepository.toListDto (w.chat.notSeenCounts viewer ids)
          (v.chat.otherMembers viewer ids)) =
      (rows.map ConversationListRow.blind).map
        (ConversationPostgresReadRepository.toListDto (w.chat.notSeenCounts viewer ids)
          (w.chat.otherMembers viewer ids)) := by
    intro rows
    rw [List.map_map]
    apply List.map_congr_left
    intro row _
    rw [Function.comp_apply, toListDto_blind]
    unfold ConversationPostgresReadRepository.toListDto ChatDatabase.otherMembers
    rw [alike.chat.liveMembers, alike.chat.others]
  refine ⟨_,run_getUserConversationList viewer filterUserIds pagination w,?_⟩
  rw [run_getUserConversationList, ids', total, counted, shown, rows, List.map_map]
  have sighted : ∀ rows : List ConversationListRow, rows.map
        (ConversationPostgresReadRepository.toListDto (w.chat.notSeenCounts viewer ids)
          (w.chat.otherMembers viewer ids) ∘ ConversationListRow.blind) =
      rows.map (ConversationPostgresReadRepository.toListDto (w.chat.notSeenCounts viewer ids)
        (w.chat.otherMembers viewer ids)) :=
    fun rows => List.map_congr_left fun row _ => toListDto_blind ..
  rw [sighted]

/-- The conversation list of the viewer. -/
theorem agrees_getUserConversationList (alike : w.SameFor viewer v) (confined : w.chat.Confined)
    (ilike : JsString → JsString → Bool) (data : GetUserConversationListRequest) :
    (ChatWsGateway.getUserConversationList ilike data viewer).Agrees chatHandler w v := by
  refine (agrees_filterUsers alike ilike data).bind fun filteredUserIds _ => ?_
  split
  · exact Program.agrees_done _
  · refine Program.Agrees.bind ?_ fun list _ => agrees_listItems alike viewer list
    exact agrees_listConversations alike confined _ _

end Lists

section Handlers
variable {viewer : Uuid} {w v : ChatWorld}

/-- What the event quotes is read alike. -/
def MessageEvent.QuotesAlike (db db' : ChatDatabase) : MessageEvent → Prop
  | created event => ∀ q, event.replyToMessageId = some q →
      (db'.message q).map db'.loaded = (db.message q).map db.loaded
  | _ => True

theorem agrees_getConversationById (alike : w.SameFor viewer v) (id : Uuid) :
    (ConversationPostgresRepository.getConversationById id).Agrees chatHandler w v := by
  refine (agrees_query (fun _ => rfl) ?_).bind fun _ _ => Program.agrees_done _
  exact alike.chat.getConversation id

theorem agrees_resolve (alike : w.SameFor viewer v) (event : MessageCreatedDomainEvent) :
    (MessageCreatedWsEventHandler.resolve event).Agrees chatHandler w v := by
  refine (agrees_getConversationById alike _).bind fun conversation _ => ?_
  split
  · exact Program.agrees_fail _
  · split
    · exact Program.agrees_fail _
    · exact (agrees_userConversation alike _ _).bind fun _ _ => Program.agrees_done _

theorem agrees_replyTo (alike : w.SameFor viewer v) (convEntity : ConversationEntity)
    (currentUser targetUser : ChatUser) {event : MessageCreatedDomainEvent}
    (quotes : (MessageEvent.created event).QuotesAlike w.chat v.chat) :
    (MessageCreatedWsEventHandler.replyTo convEntity currentUser targetUser event).Agrees
      chatHandler w v := by
  unfold MessageCreatedWsEventHandler.replyTo
  cases is : event.replyToMessageId with
  | none => exact Program.agrees_done _
  | some q =>
    have parent : (ConversationPostgresRepository.getMessageById q).Agrees chatHandler w v := by
      refine ⟨_,run_getMessageById q w,?_⟩
      rw [run_getMessageById]
      exact Prod.ext (congrArg Except.ok (quotes q is)) rfl
    refine Program.Agrees.tryCatch (parent.bind fun parentMsg _ => ?_)
      fun _ => Program.agrees_done _
    cases parentMsg with
    | none => exact Program.agrees_done _
    | some parentMsg =>
      exact (agrees_resolveParentUser alike _ _ _).bind fun _ _ => Program.agrees_done _

/-- The program sends one event, the same one in both worlds. -/
def SendsAlike (w v : ChatWorld) (p : ChatProgram Unit) : Prop :=
  ∃ rooms event, p.run chatHandler w = (.ok (), w.send rooms event) ∧
    p.run chatHandler v = (.ok (), v.send rooms event)

/-- Nothing is sent to nobody. -/
theorem sendsAlike_nothing : SendsAlike w v (Program.done ()) :=
  ⟨[],.messageSeen 0 0,rfl,rfl⟩

/-- Where both runs of a broadcast end: refused alike, or with the same event sent. -/
def EndAlike (w v : ChatWorld) (x x' : Except Failure Unit × ChatWorld) : Prop :=
  (∃ e, x = (.error e, w) ∧ x' = (.error e, v)) ∨
    ∃ rooms event, x = (.ok (), w.send rooms event) ∧ x' = (.ok (), v.send rooms event)

theorem endAlike_announce (alike : w.SameFor viewer v) {event : MessageCreatedDomainEvent}
    (quotes : (MessageEvent.created event).QuotesAlike w.chat v.chat)
    (convEntity : ConversationEntity) (senderUserId targetUserId : Uuid)
    (conversationDto : ConversationReadDto) :
    EndAlike w v
      ((MessageCreatedWsEventHandler.announce event convEntity senderUserId targetUserId
        conversationDto).run chatHandler w)
      ((MessageCreatedWsEventHandler.announce event convEntity senderUserId targetUserId
        conversationDto).run chatHandler v) := by
  have refused : ∀ e, EndAlike w v (.error e, w) (.error e, v) := fun e => Or.inl ⟨e,rfl,rfl⟩
  unfold MessageCreatedWsEventHandler.announce
  apply (agrees_getUserById alike senderUserId).follow refused
  intro currentUser _
  apply (agrees_getUserById alike targetUserId).follow refused
  intro targetUser _
  apply (agrees_replyTo alike convEntity currentUser targetUser quotes).follow refused
  intro preview _
  exact Or.inr ⟨_,_,rfl,rfl⟩

theorem sendsAlike_created (alike : w.SameFor viewer v) {event : MessageCreatedDomainEvent}
    (quotes : (MessageEvent.created event).QuotesAlike w.chat v.chat) :
    SendsAlike w v (MessageCreatedWsEventHandler.handle event) := by
  obtain ⟨r,here,there⟩ := agrees_resolve alike event
  unfold SendsAlike MessageCreatedWsEventHandler.handle
  cases r with
  | error e =>
    rw [Program.run_bind, Program.run_catch_error _ _ (Program.run_map_error _ _ here _),
      Program.run_bind, Program.run_catch_error _ _ (Program.run_map_error _ _ there _)]
    exact sendsAlike_nothing
  | ok resolved =>
    obtain ⟨convEntity,senderUserId,conversationDto⟩ := resolved
    rw [Program.run_bind, Program.run_catch_ok _ _ (Program.run_map_ok _ _ here _),
      Program.run_bind, Program.run_catch_ok _ _ (Program.run_map_ok _ _ there _)]
    dsimp only
    split
    · exact sendsAlike_nothing
    · rename_i targetMember _
      rw [Program.run_catch, Program.run_catch]
      rcases endAlike_announce alike quotes convEntity senderUserId targetMember.userId
          conversationDto with ⟨e,first,second⟩ | ⟨rooms,sent,first,second⟩
      · rw [first, second]
        exact sendsAlike_nothing
      · rw [first, second]
        exact ⟨rooms,sent,rfl,rfl⟩

theorem sendsAlike_handle (alike : w.SameFor viewer v) {event : MessageEvent}
    (quotes : event.QuotesAlike w.chat v.chat) : SendsAlike w v event.handle := by
  cases event with
  | created event => exact sendsAlike_created alike quotes
  | edited event =>
    refine ⟨_,_,run_messageEdited event w,?_⟩
    have sent := run_messageEdited event v
    rw [ChatDatabase.liveRooms, alike.chat.getConversation] at sent
    exact sent
  | deleted event =>
    refine ⟨_,_,run_messageDeleted event w,?_⟩
    have sent := run_messageDeleted event v
    rw [ChatDatabase.liveRooms, alike.chat.getConversation] at sent
    exact sent

theorem send_eq (w : ChatWorld) (rooms : List Uuid) (event : WsEvent) :
    w.send rooms event =
      { w with emitted := w.emitted ++ if rooms = [] then [] else [⟨rooms,event⟩] } := by
  unfold ChatWorld.send
  split
  · rw [List.append_nil]
  · rfl

/-- Events that quote alike are announced alike. -/
theorem announce_alike (alike : w.SameFor viewer v) {events : List MessageEvent}
    (quotes : ∀ event ∈ events, event.QuotesAlike w.chat v.chat) :
    ∃ sent, w.announce events = { w with emitted := w.emitted ++ sent } ∧
      v.announce events = { v with emitted := v.emitted ++ sent } := by
  induction events generalizing w v with
  | nil => exact ⟨[],by simp [ChatWorld.announce],by simp [ChatWorld.announce]⟩
  | cons event rest ih =>
    obtain ⟨rooms,sent,here,there⟩ := sendsAlike_handle alike (quotes event List.mem_cons_self)
    have first : ∀ w : ChatWorld, event.handle.run chatHandler w = (.ok (), w.send rooms sent) →
        w.announce (event :: rest) = (w.send rooms sent).announce rest := by
      intro w is
      change ChatWorld.announce (event.handle.run chatHandler w).2 rest = _
      rw [is]
    rw [first w here, first v there, send_eq, send_eq]
    let added : List Broadcast := if rooms = [] then [] else [⟨rooms,sent⟩]
    have next : ChatWorld.SameFor viewer { w with emitted := w.emitted ++ added }
        { v with emitted := v.emitted ++ added } := ⟨alike.users,alike.chat⟩
    obtain ⟨later,runs,runs'⟩ := ih next fun event mem =>
      quotes event (List.mem_cons_of_mem _ mem)
    refine ⟨added ++ later,?_,?_⟩
    · rw [runs, ← List.append_assoc]
    · rw [runs', ← List.append_assoc]

/-- What a user is sent. -/
def ChatWorld.sentTo (viewer : Uuid) (w : ChatWorld) : List WsEvent :=
  (w.emitted.filter fun b => viewer ∈ b.rooms).map Broadcast.event

/-- An event of a conversation that the viewer is no member of, by somebody else. -/
def MessageEvent.Foreign (viewer : Uuid) (db : ChatDatabase) : MessageEvent → Prop
  | created event => db.isMember event.conversationId viewer = false
  | edited event => db.isMember event.conversationId viewer = false
  | deleted event => db.isMember event.conversationId viewer = false ∧ event.actorUserId ≠ viewer

theorem handle_foreign {event : MessageEvent} (foreign : event.Foreign viewer w.chat) :
    ∃ rooms sent, (event.handle.run chatHandler w).2 = w.send rooms sent ∧ viewer ∉ rooms := by
  have outside : ∀ conversationId, w.chat.isMember conversationId viewer = false →
      ∀ cm ∈ w.chat.membersOf conversationId, viewer ≠ cm.userId := by
    rintro conversationId apart cm seated rfl
    exact absurd (List.any_eq_false.mp apart cm seated) (by simp)
  have members : ∀ conversationId hidden, w.chat.isMember conversationId viewer = false →
      viewer ∉ w.chat.liveRooms conversationId hidden := by
    intro conversationId hidden apart listed
    rw [(mem_liveRooms.mp listed).2.1] at apart
    cases apart
  cases event with
  | created event =>
    rcases run_messageCreated event w with ⟨silent,_⟩ |
      ⟨sender,seated,target,seat,_,_,data,sends,_⟩
    · exact ⟨[],.messageSeen 0 0,congrArg Prod.snd silent,List.not_mem_nil⟩
    · refine ⟨_,_,congrArg Prod.snd sends,fun mem => ?_⟩
      rcases List.mem_append.mp mem with first | second
      · split at first
        · cases first
        · exact outside _ foreign target seat (List.mem_singleton.mp first)
      · exact outside _ foreign sender seated (List.mem_singleton.mp second)
  | edited event =>
    exact ⟨_,_,congrArg Prod.snd (run_messageEdited event w),members _ _ foreign⟩
  | deleted event =>
    refine ⟨_,_,congrArg Prod.snd (run_messageDeleted event w),?_⟩
    split
    · exact fun mem => foreign.2 (List.mem_singleton.mp mem).symm
    · exact members _ _ foreign.1

/-- Of such events the viewer hears nothing. -/
theorem announce_foreign {events : List MessageEvent}
    (foreign : ∀ event ∈ events, event.Foreign viewer w.chat) :
    (w.announce events).sentTo viewer = w.sentTo viewer := by
  induction events generalizing w with
  | nil => rfl
  | cons event rest ih =>
    obtain ⟨rooms,sent,is,outside⟩ := handle_foreign (foreign event List.mem_cons_self)
    have first : w.announce (event :: rest) = (w.send rooms sent).announce rest := by
      rw [← is]
      rfl
    let added : List Broadcast := if rooms = [] then [] else [⟨rooms,sent⟩]
    have later : ∀ event ∈ rest, event.Foreign viewer
        ({ w with emitted := w.emitted ++ added } : ChatWorld).chat :=
      fun event mem => foreign event (List.mem_cons_of_mem _ mem)
    rw [first, send_eq, ih later]
    have none : added.filter (fun b => viewer ∈ b.rooms) = [] := by
      unfold added
      split
      · rfl
      · rw [List.filter_cons_of_neg (by simpa using outside), List.filter_nil]
    unfold ChatWorld.sentTo
    dsimp only
    rw [List.filter_append, none, List.append_nil]

end Handlers

end Chatterbox
