import Chatterbox.Chat.DiscreetCommands

/-!
The requests of clients keep texts where they were written: what a response and the announcement
of a new conversation hold was written in a conversation that the reader is a member of.
-/
namespace Chatterbox
open Concurrency Tables ConversationPostgresRepository ChatUserIntegrationAdapter

section Texts
variable {ι : Type} {activities : ι → Activity} {ambs : ι → Ambient} {i : ι} {s : ChatWorld}

section Gateway
variable {amb : Ambient} {conversationId userId authUserId : Uuid}

theorem leads_getUserConversation (kept : Discretion activities ambs s) :
    Leads activities ambs i (fun dto v => dto.id = conversationId ∧
      v.chat.Hosts conversationId userId ∧ ∀ m ∈ dto.members, v.chat.Hosts conversationId m.userId)
      (GetUserConversationHandler.execute conversationId userId) s := by
  simp only [GetUserConversationHandler.execute,
    ConversationPostgresReadRepository.getUserConversationById, Program.bind_assoc]
  refine (leads_read rfl (fun _ => rfl)).bind kept fun rows t _ _ found => ?_
  obtain ⟨u,_,is,later⟩ := found
  cases rows with
  | none => exact leads_throw _
  | some rows =>
    have loaded : u.chat.userConversation conversationId userId =
        .ok (ConversationPostgresReadRepository.toConversationDto rows) := by
      simp only [ChatDatabase.userConversation, ← is]
    obtain ⟨id,member,members⟩ := userConversation_ok loaded
    refine leads_pure fun v more _ => ⟨id,?_,fun m mem => ?_⟩
    · exact (ChatDatabase.hosts_of_isMember member).later (later.trans more).places
    · obtain ⟨cm,seated,_,user⟩ := members m mem
      exact user ▸ (ChatDatabase.hosts_of_membersOf seated).later (later.trans more).places

theorem leads_requireMembership (kept : Discretion activities ambs s) :
    Leads activities ambs i (fun dto v => dto.id = conversationId ∧
      v.chat.Hosts conversationId authUserId)
      (ChatWsGateway.requireMembership conversationId authUserId) s := by
  refine (leads_getUserConversation kept).bind kept fun dto t _ _ ⟨id,hosts,_⟩ => ?_
  split
  · exact leads_pure fun v more _ => ⟨id,hosts.later more.places⟩
  · exact leads_throw _

/-- What a response may hold for the user who gets it. -/
def Answers (activities : ι → Activity) (ambs : ι → Ambient) (reader : Uuid)
    (response : ChatResponse) (s : ChatWorld) : Prop :=
  ∀ shown ∈ response.texts, MeantFor activities ambs s.chat reader shown

theorem leads_ackReply (members : List ConversationMemberReadDto)
    (currentUser targetUser : ChatUser) {loaded : LoadedMessage}
    (kept : Discretion activities ambs s) (genuine : loaded.Genuine activities ambs s.chat) :
    Leads activities ambs i (fun preview v => ∀ p, preview = some p →
      Shows activities ambs v.chat loaded.message.conversationId p.shown)
      (ChatWsGateway.ackReply members currentUser targetUser loaded) s := by
  unfold ChatWsGateway.ackReply
  split
  · rename_i parent _ quoted
    refine ((silent_resolveParentUser _ _ _).leads s).bind kept fun user t more _ _ => ?_
    refine leads_pure fun v after _ p is => ?_
    obtain rfl := Option.some.inj is
    exact ((genuine.quoted parent quoted).later (more.trans after)).withheld.1
  · exact leads_pure fun _ _ _ _ => nofun

/-- The acknowledgement of a send. -/
theorem leads_createMessageRequest {data : CreateMessageRequest}
    (is : activities i = .request authUserId (.sendMessage data))
    (kept : Discretion activities ambs s) :
    Leads activities ambs i (fun response => Answers activities ambs authUserId (.message response))
      (ChatWsGateway.createMessage (ambs i) data authUserId) s := by
  refine (leads_getUserConversation kept).bind kept fun conversation t _ ht ⟨id,hosts,_⟩ => ?_
  split
  · exact leads_throw _
  rename_i targetMember _
  refine ((silent_getUserById _).leads t).bind ht fun currentUser t₁ more₁ h₁ _ => ?_
  refine ((silent_getUserById _).leads t₁).bind h₁ fun targetUser t₂ more₂ h₂ _ => ?_
  refine ((silent_askUserModule _).leads t₂).bind h₂ fun blockStatus u more₃ hu _ => ?_
  split
  · exact leads_throw _
  have pens : ∀ db : ChatDatabase, db.Hosts conversation.id authUserId →
      Penned activities ambs db conversation.id ((ambs i).uuid 0) data.text :=
    fun db hosts => ⟨i,_,_,is,⟨id,rfl,rfl⟩,hosts⟩
  refine (leads_createMessage hu pens).bind hu fun loaded v after hv ⟨genuine,here⟩ => ?_
  refine (leads_ackReply conversation.members currentUser targetUser hv genuine).bind hv
    fun replyTo x later _ quotes => ?_
  refine leads_pure fun y last _ shown mem => ?_
  have more := ((((more₁.trans more₂).trans more₃).trans after).trans later).trans last
  refine ⟨loaded.message.conversationId,?_,?_⟩
  · rw [here, id]
    exact hosts.later more.places
  · rcases List.mem_cons.mp mem with rfl | quoted
    · exact (genuine.later (later.trans last)).text
    · obtain ⟨p,some,rfl⟩ := List.mem_map.mp quoted
      exact (quotes p (Option.mem_toList.mp some)).later last

theorem leads_editRequest {data : EditMessageRequest}
    (is : activities i = .request authUserId (.editMessage data))
    (kept : Discretion activities ambs s) :
    Leads activities ambs i (fun response => Answers activities ambs authUserId (.edited response))
      (ChatWsGateway.editMessage (ambs i) data authUserId) s := by
  refine (leads_requireMembership kept).bind kept fun _ t _ ht ⟨_,hosts⟩ => ?_
  have pens : ∀ db : ChatDatabase, db.Hosts data.conversationId authUserId →
      db.Names data.conversationId (some data.messageId) →
      Penned activities ambs db data.conversationId data.messageId data.text :=
    fun db hosts names => ⟨i,_,_,is,⟨rfl,rfl,rfl,names⟩,hosts⟩
  refine (leads_editMessage ht pens).bind ht fun loaded u more _ ⟨genuine,here⟩ => ?_
  refine leads_pure fun v last _ shown mem => ⟨loaded.message.conversationId,?_,?_⟩
  · rw [here]
    exact hosts.later (more.trans last).places
  · rw [List.mem_singleton.mp mem]
    exact (genuine.later last).text

theorem leads_deleteRequest {data : DeleteMessageRequest} (kept : Discretion activities ambs s) :
    Leads activities ambs i (fun response => Answers activities ambs authUserId (.deleted response))
      (ChatWsGateway.deleteMessage amb data authUserId) s := by
  refine (leads_requireMembership kept).bind kept fun _ t _ ht _ => ?_
  refine (leads_deleteMessage ht).bind ht fun _ _ _ _ _ => leads_pure fun _ _ _ shown mem => ?_
  cases mem

theorem leads_markRequest {data : MarkMessageSeenRequest} (kept : Discretion activities ambs s) :
    Leads activities ambs i (fun _ _ => True) (ChatWsGateway.markMessageAsSeen data authUserId)
      s := by
  refine (leads_requireMembership kept).bind kept fun conversation t _ ht _ => ?_
  refine (leads_markConversationAsRead _ ht).bind ht fun _ u _ hu _ => ?_
  exact leads_broadcast fun _ _ _ _ room _ shown mem => absurd mem List.not_mem_nil

/-- A new conversation is announced to its two members. -/
theorem leads_announceConversation {currentUser targetUser : ChatUser} {loaded : LoadedMessage}
    (kept : Discretion activities ambs s) (genuine : loaded.Genuine activities ambs s.chat)
    (own : s.chat.Hosts loaded.message.conversationId currentUser.id)
    (target : s.chat.Hosts loaded.message.conversationId targetUser.id) :
    Leads activities ambs i (fun _ _ => True)
      (ChatWsGateway.announceConversation currentUser targetUser loaded.message) s := by
  have announces : ∀ (user : ChatUser) (event : ConversationCreated) (t : ChatWorld),
      t.chat.Hosts loaded.message.conversationId user.id →
      loaded.Genuine activities ambs t.chat →
      event.lastMessage.id = loaded.message.id → event.lastMessage.content = loaded.message.text →
      Leads activities ambs i (fun _ _ => True) (broadcast [user.id] (.conversationCreated event))
        t := by
    intro user event t hosts fine id content
    refine leads_broadcast fun u more _ _ room here shown mem => ?_
    rw [List.mem_singleton.mp here]
    refine ⟨_,hosts.later more.places,?_⟩
    rw [List.mem_singleton.mp mem, id, content]
    exact (fine.later more).text
  unfold ChatWsGateway.announceConversation
  split
  · exact announces currentUser _ s own genuine rfl rfl
  · refine (announces targetUser _ s target genuine rfl rfl).bind kept fun _ t more _ _ => ?_
    exact announces currentUser _ t (own.later more.places) (genuine.later more) rfl rfl

theorem leads_createConversationRequest {data : CreateConversationRequest}
    (injective : Function.Injective (ambs i).uuid)
    (is : activities i = .request authUserId (.createConversation data))
    (kept : Discretion activities ambs s) :
    Leads activities ambs i
      (fun response => Answers activities ambs authUserId (.conversation response))
      (ChatWsGateway.createDirectConversation (ambs i) data authUserId) s := by
  refine (leads_getUserById authUserId).bind kept fun currentUser t₁ _ h₁ current => ?_
  refine (leads_getUserById data.targetUserId).bind h₁ fun targetUser t₂ _ h₂ target => ?_
  refine ((silent_askUserModule _).leads t₂).bind h₂ fun blockStatus t _ ht _ => ?_
  split
  · exact leads_throw _
  refine (leads_createDirect injective ht).bind ht fun opened u _ hu ⟨id,own,other⟩ => ?_
  dsimp only at own other
  have pens : ∀ db : ChatDatabase, db.Hosts opened.id currentUser.id →
      Penned activities ambs db opened.id (((ambs i).skip 4).uuid 0) data.content := by
    intro db hosts
    exact ⟨i,_,_,is,⟨id,rfl,rfl⟩,current ▸ hosts⟩
  have first : Leads activities ambs i (fun loaded v => loaded.Genuine activities ambs v.chat ∧
      loaded.message.conversationId = opened.id)
      (ChatWsGateway.firstMessage (ambs i) currentUser targetUser blockStatus.isBlocked
        data.content opened.id) u := by
    refine Leads.tryCatch (leads_createMessage hu pens) hu fun e v _ hv => ?_
    exact (leads_deleteConversation _ _).bind hv fun _ _ _ _ _ => leads_throw _
  refine first.bind hu fun loaded v more hv ⟨genuine,here⟩ => ?_
  have ours : v.chat.Hosts loaded.message.conversationId currentUser.id := by
    rw [here, id]
    exact own.later more.places
  have theirs : v.chat.Hosts loaded.message.conversationId targetUser.id := by
    rw [here, id, target]
    exact other.later more.places
  refine (leads_announceConversation hv genuine ours theirs).bind hv fun _ x after _ _ => ?_
  refine leads_pure fun y last _ shown mem => ⟨loaded.message.conversationId,?_,?_⟩
  · rw [← current]
    exact ours.later (after.trans last).places
  · rw [List.mem_singleton.mp mem]
    exact (genuine.later (after.trans last)).text

end Gateway

section Lists
variable {amb : Ambient} {conversationId userId authUserId : Uuid}
  {ilike : JsString → JsString → Bool}

/-- The last messages of a list are those of conversations that the user is a member of. -/
def Listable (activities : ι → Activity) (ambs : ι → Ambient) (reader : Uuid)
    (list : PaginatedResult ConversationReadDto) (s : ChatWorld) : Prop :=
  ∀ dto ∈ list.data, ∀ last, dto.lastMessage = some last →
    MeantFor activities ambs s.chat reader (last.id, some last.text)

theorem meantFor_row (kept : Discretion activities ambs s) {filterUserIds : List Uuid}
    {pagination : PaginationOptions} {row : ConversationListRow} {m : Message}
    (mem : row ∈ (s.chat.listConversations userId filterUserIds pagination).1)
    (last : row.lastMessage = some m) :
    MeantFor activities ambs s.chat userId
      (m.id, some (if m.deletedAt.isSome then [] else m.text)) := by
  obtain ⟨seated,own,points⟩ := mem_listConversations mem
  obtain ⟨stored,_,here⟩ := ChatDatabase.membersOf_iff.mp seated
  rw [points] at last
  obtain ⟨id,_,found⟩ := Option.bind_eq_some_iff.mp last
  have home := (kept.confined.last row.member stored).found kept.confined.messages last
  refine ⟨m.conversationId,⟨row.member,stored,home.symm,own⟩,?_⟩
  exact (kept.texts m (lookup_mem found).1).shows.withheld.2

theorem leads_conversationList (filterUserIds : List Uuid) (pagination : PaginationOptions)
    (kept : Discretion activities ambs s) :
    Leads activities ambs i (Listable activities ambs userId)
      (GetUserConversationListHandler.execute userId filterUserIds pagination) s := by
  refine (leads_read rfl (fun _ => rfl)).bind kept fun res t _ ht ⟨u,hu,is,later⟩ => ?_
  dsimp only
  split
  · exact leads_pure fun _ _ _ dto mem => absurd mem List.not_mem_nil
  refine ((silent_query rfl).leads t).bind ht fun notSeenCounts t₁ more₁ h₁ _ => ?_
  refine ((silent_query rfl).leads t₁).bind h₁ fun others t₂ more₂ h₂ _ => ?_
  refine leads_pure fun v more₃ _ dto mem last shown => ?_
  obtain ⟨row,listed,rfl⟩ := List.mem_map.mp mem
  obtain ⟨m,points,rfl⟩ := Option.map_eq_some_iff.mp shown
  rw [is] at listed
  have more := ((later.trans more₁).trans more₂).trans more₃
  exact (meantFor_row hu listed points).later more

theorem silent_getUsersByIds (userIds : List Uuid) :
    Silent (ChatUserIntegrationAdapter.getUsersByIds userIds) :=
  (silent_askUserModule _).bind fun _ => trivial

theorem silent_filterUsers (data : GetUserConversationListRequest) :
    Silent (ChatWsGateway.filterUsers ilike data) := by
  unfold ChatWsGateway.filterUsers
  split
  · trivial
  · exact (silent_askUserModule _).bind fun _ => trivial

theorem leads_listConversations (data : GetUserConversationListRequest)
    (kept : Discretion activities ambs s) :
    Leads activities ambs i
      (fun response => Answers activities ambs authUserId (.conversations response))
      (ChatWsGateway.getUserConversationList ilike data authUserId) s := by
  have none : ∀ (info : PaginationMeta) t,
      Answers activities ambs authUserId (.conversations ⟨[],info⟩) t :=
    fun _ _ shown mem => absurd mem List.not_mem_nil
  refine ((silent_filterUsers data).leads s).bind kept fun filteredUserIds t _ ht _ => ?_
  split
  · exact leads_pure fun _ _ _ => none _ _
  refine (leads_conversationList _ _ ht).bind ht fun list u _ hu listable => ?_
  unfold ChatWsGateway.listItems
  split
  · exact leads_pure fun _ _ _ => none _ _
  refine ((silent_getUsersByIds _).leads u).bind hu fun users v more hv _ => ?_
  refine leads_pure fun x after _ shown mem => ?_
  obtain ⟨item,listed,mem⟩ := List.mem_flatMap.mp mem
  obtain ⟨dto,known,rfl⟩ := List.mem_map.mp listed
  obtain ⟨last,some,rfl⟩ := List.mem_map.mp mem
  obtain ⟨found,is,rfl⟩ := Option.map_eq_some_iff.mp (Option.mem_toList.mp some)
  exact (listable dto known found is).later (more.trans after)

/-- The messages of a page, and what they quote, were written in the conversation. -/
def Legible (activities : ι → Activity) (ambs : ι → Ambient) (conversationId : Uuid)
    (list : PaginatedResult MessageReadDto) (s : ChatWorld) : Prop :=
  ∀ dto ∈ list.data, Shows activities ambs s.chat conversationId
      (dto.id, if dto.deletedAt.isSome then none else some dto.text) ∧
    ∀ quoted, dto.replyTo = some quoted →
      Shows activities ambs s.chat conversationId (quoted.id, quoted.text)

theorem legible_row (kept : Discretion activities ambs s) {pagination : PaginationOptions}
    {row : MessageListRow} (mem : row ∈ (s.chat.listMessages conversationId userId pagination).1) :
    Shows activities ambs s.chat conversationId (row.message.id, some row.message.text) ∧
      ∀ rm, row.replyTo = some rm →
        Shows activities ambs s.chat conversationId (rm.1.id, some rm.1.text) := by
  obtain ⟨stored,home,_,quotes⟩ := mem_listMessages mem
  refine ⟨home ▸ (kept.texts row.message stored).shows,fun rm replies => ?_⟩
  have found := quotes rm replies
  have there := (kept.confined.quotes row.message stored).found kept.confined.messages found
  obtain ⟨id,_,read⟩ := Option.bind_eq_some_iff.mp found
  have said := (kept.texts rm.1 (lookup_mem read).1).shows
  rwa [there, home] at said

theorem leads_messageList {now : Time} (pagination : PaginationOptions)
    (kept : Discretion activities ambs s) :
    Leads activities ambs i (Legible activities ambs conversationId)
      (GetUserConversationMessageListHandler.execute now conversationId userId pagination) s := by
  refine (leads_read rfl (fun _ => rfl)).bind kept fun res t _ ht found => ?_
  obtain ⟨u,hu,is,later⟩ := found
  have replies : Silent (ConversationPostgresReadRepository.deletedReplies userId res.1) := by
    unfold ConversationPostgresReadRepository.deletedReplies
    dsimp only
    split
    · trivial
    · exact (silent_query rfl).bind fun _ => trivial
  refine (replies.leads t).bind ht fun deletedForMe v more _ _ => ?_
  refine leads_pure fun x after _ dto mem => ?_
  obtain ⟨row,listed,rfl⟩ := List.mem_map.mp mem
  rw [is] at listed
  obtain ⟨text,quotes⟩ := legible_row hu listed
  have ahead := (later.trans more).trans after
  constructor
  · by_cases gone : row.message.deletedAt.isSome
    · simp only [ConversationPostgresReadRepository.toMessageDto, gone, ↓reduceIte]
      exact shows_nothing
    · simp only [ConversationPostgresReadRepository.toMessageDto, gone, Bool.false_eq_true,
        ↓reduceIte]
      exact text.later ahead
  · intro quoted shown
    obtain ⟨rm,replies,rfl⟩ := Option.map_eq_some_iff.mp shown
    exact ((quotes rm replies).later ahead).withheld.1

theorem leads_listMessages (data : GetConversationMessageListRequest)
    (kept : Discretion activities ambs s) :
    Leads activities ambs i
      (fun response => Answers activities ambs authUserId (.messages response))
      (ChatWsGateway.getConversationMessageList amb data authUserId) s := by
  refine (leads_getUserConversation kept).bind kept fun conversation t _ ht ⟨_,hosts,_⟩ => ?_
  refine (leads_messageList _ ht).bind ht fun list u more₁ hu legible => ?_
  refine ((silent_getUsersByIds _).leads u).bind hu fun users v more₂ hv _ => ?_
  refine ((silent_askUserModule _).leads v).bind hv fun blockedUserIds x more₃ _ _ => ?_
  refine leads_pure fun y more₄ _ shown mem => ⟨data.conversationId,?_,?_⟩
  · exact hosts.later (((more₁.trans more₂).trans more₃).trans more₄).places
  obtain ⟨item,listed,mem⟩ := List.mem_flatMap.mp mem
  obtain ⟨dto,known,rfl⟩ := List.mem_map.mp listed
  obtain ⟨text,quotes⟩ := legible dto known
  have after := (more₂.trans more₃).trans more₄
  rcases List.mem_cons.mp mem with rfl | mem
  · exact text.later after
  · obtain ⟨preview,some,rfl⟩ := List.mem_map.mp mem
    obtain ⟨quoted,is,rfl⟩ := Option.map_eq_some_iff.mp (Option.mem_toList.mp some)
    exact (quotes quoted is).later after

end Lists

end Texts

end Chatterbox
