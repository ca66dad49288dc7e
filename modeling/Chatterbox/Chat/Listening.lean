import Chatterbox.Chat.ClientViews

/-!
Clients that listen. A client that applies the WebSocket events of its user one after another
holds the messages that the message list shows to a client that loads them.
-/
namespace Chatterbox
open Concurrency Tables

section Steps
variable {ilike : JsString → JsString → Bool} {amb : Ambient} {actor viewer : Uuid}
  {w : ChatWorld}

/-- The client of the viewer is where the tables are. -/
def ChatWorld.Followed (viewer : Uuid) (before : ChatDatabase) (v : ChatWorld) : Prop :=
  (v.sentTo viewer).foldl WsEvent.follow (before.view viewer) = v.chat.view viewer

/-- A send that is stored is announced to a couple. -/
theorem followed_inserted {command : CreateMessageCommand} {member : ConversationMember}
    {message : MessageEntity} {event : MessageCreatedDomainEvent} {db : ChatDatabase}
    {v : ChatWorld} (sends : Inserts amb command db member message event)
    (unused : amb.uuid 0 ∉ db.messages.map Message.id) (sound : db.Sound)
    (chat : v.chat = db.withMessage message) (coupled : v.chat.Coupled)
    (accounts : ∀ cm ∈ db.membersOf command.conversationId, v.users.HasUser cm.userId)
    (visible : command.senderId ∉ command.deletedForUserIds)
    (quiet : ∀ e ∈ v.sentTo viewer, ∀ view, WsEvent.follow view e = view) :
    (v.announce [.created event]).Followed viewer db := by
  obtain ⟨_,_,home,_⟩ := sends.fields
  obtain ⟨joined,_⟩ := conversationMember_ok sends.seated
  have after : v.chat.Seated := by
    rw [chat]
    exact (sound_withMessage sends unused sound).seated
  have member' : v.chat.isMember message.conversationId member.userId = true := by
    rw [chat, isMember_of_identity (ChatDatabase.identity_withMessage message), home]
    exact List.any_eq_true.mpr ⟨member,joined,by simp⟩
  have couple := couple_of_member after coupled member'
  rw [ChatWorld.Followed, announce_chat]
  exact follow_inserted sends unused sound chat couple accounts visible quiet

/-- The events of the user module are about no messages. -/
theorem followed_userEvents (events : List UserEvent) {v : ChatWorld} {before : ChatDatabase}
    (followed : v.Followed viewer before) :
    (events.foldl (fun v event => ((UserEvent.handle event).run chatHandler v).2) v).Followed viewer
      before := by
  induction events generalizing v with
  | nil => exact followed
  | cons event rest ih =>
    apply ih
    have sent : ∀ (rooms : List Uuid) (e : WsEvent), (∀ view, WsEvent.follow view e = view) →
        (v.send rooms e).Followed viewer before := by
      intro rooms e quiet
      have chat : (v.send rooms e).chat = v.chat := by
        unfold ChatWorld.send
        split <;> rfl
      rw [ChatWorld.Followed, sentTo_send, List.foldl_append, chat, followed]
      refine follow_quiet fun e' mem => ?_
      split_ifs at mem
      · rw [List.mem_singleton.mp mem]
        exact quiet _
      · cases mem
    cases event with
    | userBlocked blockerId blockedId =>
      exact sent [blockedId, blockerId] (.userBlocked blockerId blockedId) fun _ => rfl
    | userUnblocked unblockerId unblockedId =>
      exact sent [unblockedId, unblockerId] (.userUnblocked unblockerId unblockedId) fun _ => rfl
    | userCreated id email username => exact followed

theorem followed_userModule {operation : ChatOperation} {p : UserProgram Bool}
    {f : Bool → ChatResponse} (is : operation.execute ilike amb actor = f <$> askUserModule p) :
    (w.perform ilike amb actor operation).2.Followed viewer w.chat := by
  rw [ChatWorld.perform, is, Program.run_map, run_askUserModule]
  have nothing : ({ w.silent with users := (p.run userHandler w.silent.users).2 } :
      ChatWorld).Followed viewer w.chat := rfl
  exact followed_userEvents _ nothing

theorem followed_create {data : CreateConversationRequest} (sound : w.chat.Sound)
    (unused : ChatDatabase.Unused amb w.chat)
    (coupled : (w.perform ilike amb actor (.createConversation data)).2.chat.Coupled) :
    (w.perform ilike amb actor (.createConversation data)).2.Followed viewer w.chat := by
  cases run : (ChatWsGateway.createDirectConversation amb data actor).run chatHandler w.silent with
  | mk r v =>
    rcases run_createRequest run with ⟨rfl,e,rfl,_⟩ |
      ⟨known,target,_,_,opened,opens,⟨rfl,e,rfl,_⟩ | ⟨c,announced,sends,rfl,announces,_⟩⟩
    · rw [perform_eq rfl run rfl]
      rfl
    · obtain ⟨_,chat⟩ := CreateDirectConversationHandler.change_effect unused opens
      rw [perform_eq rfl run rfl]
      have same : (opened.chat.removeConversation (amb.uuid 0) amb.now).2.view viewer =
          w.chat.view viewer := by
        rw [chat]
        exact view_rolledBack unused sound _ _ _
      exact same.symm
    · rw [perform_eq rfl run rfl] at coupled ⊢
      obtain ⟨_,stores⟩ := CreateDirectConversationHandler.change_effect unused opens
      rw [stores] at sends
      have members := keyed_withConversation unused sound.seated.members actor data.targetUserId
      rcases CreateMessageHandler.change_effect members (unused.messages 4) sends with
        ⟨_,_,_,none,_⟩ | ⟨_,_,_,_,inserts,_,rfl⟩
      · cases none
      · dsimp only at coupled ⊢
        rw [announce_chat] at coupled
        rw [ChatWorld.Followed, ← view_withConversation unused sound actor data.targetUserId]
        have opens' := sound_withConversation unused sound actor data.targetUserId
        have accounts := accounts_withConversation unused sound.seated ⟨known,target⟩
        refine followed_inserted inserts (unused.messages 4) opens' rfl coupled accounts
          (by simp [CreateConversationRequest.firstMessage]) ?_
        intro e mem view
        obtain ⟨b,sent,rfl⟩ := List.mem_map.mp mem
        obtain ⟨_,shown,kind,_⟩ := announces b (List.mem_of_mem_filter sent)
        rw [kind]
        rfl

theorem followed_send {data : CreateMessageRequest} (sound : w.chat.Sound)
    (unused : ChatDatabase.Unused amb w.chat)
    (coupled : (w.perform ilike amb actor (.sendMessage data)).2.chat.Coupled) :
    (w.perform ilike amb actor (.sendMessage data)).2.Followed viewer w.chat := by
  cases run : (ChatWsGateway.createMessage amb data actor).run chatHandler w.silent with
  | mk r v =>
    rcases run_sendMessage run with ⟨rfl,e,rfl⟩ | ⟨target,other,apart,known,known',_,c,sends,rfl,_⟩
    · rw [perform_eq rfl run rfl]
      rfl
    · rw [perform_eq rfl run rfl] at coupled ⊢
      rcases CreateMessageHandler.change_effect sound.seated.members (unused.messages 0) sends with
        ⟨_,_,_,_,_,rfl⟩ | ⟨member,_,_,_,inserts,_,rfl⟩
      · rfl
      · dsimp only at coupled ⊢
        rw [announce_chat] at coupled
        obtain ⟨joined,user,_⟩ := conversationMember_ok inserts.seated
        have user' : member.userId = actor := user
        refine followed_inserted inserts (unused.messages 0) sound rfl coupled
          (accounts_of_two sound.seated joined other (user'.symm ▸ apart)
            (user'.symm ▸ ⟨known,known'⟩)) ?_ (fun e mem => by cases mem)
        intro hidden
        dsimp only [CreateMessageRequest.command] at hidden
        split_ifs at hidden
        · exact apart (List.mem_singleton.mp hidden).symm
        · cases hidden

theorem followed_edit {data : EditMessageRequest} (sound : w.chat.Sound) :
    (w.perform ilike amb actor (.editMessage data)).2.Followed viewer w.chat := by
  cases run : (ChatWsGateway.editMessage amb data actor).run chatHandler w.silent with
  | mk r v =>
    rcases run_editRequest run with ⟨rfl,e,rfl⟩ | ⟨c,edits,rfl,_⟩
    · rw [perform_eq rfl run rfl]
      rfl
    · obtain ⟨_,row,edited,_,found,_,changes,chat,events,_⟩ := EditMessageHandler.change_ok edits
      rw [perform_eq rfl run rfl, ChatWorld.Followed, announce_chat]
      dsimp only
      rw [events]
      exact follow_edit sound (lookup_mem found).1 changes chat rfl

theorem followed_delete {data : DeleteMessageRequest} (sound : w.chat.Sound) :
    (w.perform ilike amb actor (.deleteMessage data)).2.Followed viewer w.chat := by
  cases run : (ChatWsGateway.deleteMessage amb data actor).run chatHandler w.silent with
  | mk r v =>
    rcases run_deleteRequest run with ⟨rfl,e,rfl⟩ | ⟨c,deletes,rfl,_⟩
    · rw [perform_eq rfl run rfl]
      rfl
    · obtain ⟨_,row,deleted,_,found,_,changes,chat,events⟩ :=
        DeleteMessageHandler.change_ok deletes
      rw [perform_eq rfl run rfl, ChatWorld.Followed, announce_chat]
      dsimp only
      rw [events]
      exact follow_delete sound (lookup_mem found).1 changes chat rfl

theorem followed_mark {data : MarkMessageSeenRequest} (sound : w.chat.Sound) :
    (w.perform ilike amb actor (.markMessageSeen data)).2.Followed viewer w.chat := by
  cases run : (ChatWsGateway.markMessageAsSeen data actor).run chatHandler w.silent with
  | mk r v =>
    rcases run_markRequest run with ⟨rfl,e,rfl⟩ | ⟨c,marks,rfl,rooms,rfl⟩
    · rw [perform_eq rfl run rfl]
      rfl
    · obtain ⟨member,_,events,moved⟩ := MarkConversationAsReadCommandHandler.change_ok
        sound.seated.conversations sound.seated.members marks
      have same : c.chat.view viewer = w.chat.view viewer := by
        rcases moved with ⟨_,is⟩ | ⟨_,is⟩
        · rw [is]
        · rw [is]
          refine ChatDatabase.view_same rfl fun m _ => ?_
          exact ChatDatabase.keeps_congr (ChatDatabase.identity_withSeen _ _) rfl
      rw [perform_eq rfl run rfl, ChatWorld.Followed, announce_chat]
      dsimp only
      rw [events, same]
      refine follow_quiet fun e mem => ?_
      obtain ⟨b,sent,rfl⟩ := List.mem_map.mp mem
      have sent' := List.mem_of_mem_filter sent
      change b ∈ [] ++ (if rooms = [] then [] else _) at sent'
      split_ifs at sent'
      · cases sent'
      · rw [List.mem_singleton.mp sent']
        rfl

/-- Every operation of anybody. -/
theorem followed_perform {operation : ChatOperation} (sound : w.chat.Sound)
    (unused : ChatDatabase.Unused amb w.chat)
    (coupled : (w.perform ilike amb actor operation).2.chat.Coupled) :
    (w.perform ilike amb actor operation).2.Followed viewer w.chat := by
  cases operation with
  | createConversation data => exact followed_create sound unused coupled
  | sendMessage data => exact followed_send sound unused coupled
  | editMessage data => exact followed_edit sound
  | deleteMessage data => exact followed_delete sound
  | markMessageSeen data => exact followed_mark sound
  | listConversations data =>
    cases run : (ChatWsGateway.getUserConversationList ilike data actor).run chatHandler
        w.silent with
    | mk r v =>
      obtain ⟨rfl,_⟩ := run_listConversations run
      rw [perform_eq rfl run rfl]
      rfl
  | listMessages data =>
    cases run : (ChatWsGateway.getConversationMessageList amb data actor).run chatHandler
        w.silent with
    | mk r v =>
      obtain ⟨rfl,_⟩ := run_listMessages run
      rw [perform_eq rfl run rfl]
      rfl
  | block targetUserId => exact followed_userModule rfl
  | unblock targetUserId => exact followed_userModule rfl

/-- There are only direct conversations. -/
theorem direct_effect {users : UserDatabase} {db db' : ChatDatabase} {operation : ChatOperation}
    {events : List MessageEvent} (effect : Effect users amb actor db operation db' events)
    (direct : ∀ c ∈ db.conversations, c.type = .direct) :
    ∀ c ∈ db'.conversations, c.type = .direct := by
  have opened : ∀ userId targetUserId,
      ∀ c ∈ (db.withConversation amb userId targetUserId).conversations, c.type = .direct := by
    intro userId targetUserId c mem
    rcases List.mem_append.mp mem with old | new
    · exact direct c old
    · rw [List.mem_singleton.mp new]
  cases effect with
  | @opened data => exact opened actor data.targetUserId
  | rolledBack =>
    intro c mem
    rcases mem_amend.mp mem with ⟨old,stored,_,rfl⟩ | ⟨stored,_⟩
    · exact opened _ _ old stored
    · exact opened _ _ c stored
  | _ => exact direct

end Steps

/-- What holds of the tables while nobody opens a conversation with himself. -/
structure ChatDatabase.Steady (db : ChatDatabase) : Prop where
  sound : db.Sound
  paired : db.Paired
  direct : ∀ c ∈ db.conversations, c.type = .direct

theorem ChatDatabase.Steady.coupled {db : ChatDatabase} (steady : db.Steady) : db.Coupled :=
  fun c stored live => steady.paired c stored live (steady.direct c stored)

section Sessions
variable {ilike : JsString → JsString → Bool} {viewer : Uuid} {w : ChatWorld} {turns : List Turn}

theorem steady_turn {turn : Turn} (steady : w.chat.Steady) (allowed : turn.Allowed w)
    (pairs : turn.PairsUsers w) : (turn.run ilike w).chat.Steady := by
  obtain ⟨sound,paired⟩ := paired_turn ⟨steady.sound,steady.paired⟩ allowed pairs
  refine ⟨sound,paired,?_⟩
  cases turn with
  | request amb actor operation =>
    exact direct_effect (effect_of_sound ilike actor operation steady.sound allowed) steady.direct
  | elsewhere users => exact steady.direct

/-- The events that the viewer gets in a session. -/
def Turn.heard (ilike : JsString → JsString → Bool) (viewer : Uuid) (turns : List Turn)
    (w : ChatWorld) : List WsEvent :=
  (Turn.transcript ilike viewer turns w).flatMap Prod.snd

/-- A client that has started with what the tables have ends with what they have. -/
theorem follow_heard (viewer : Uuid) (steady : w.chat.Steady)
    (along : Turn.Along ilike (fun w turn => turn.Allowed w ∧ turn.PairsUsers w) turns w) :
    (Turn.heard ilike viewer turns w).foldl WsEvent.follow (w.chat.view viewer) =
        (Turn.runAll ilike turns w).chat.view viewer ∧
      (Turn.runAll ilike turns w).chat.Steady := by
  induction turns generalizing w with
  | nil => exact ⟨rfl,steady⟩
  | cons turn rest ih =>
    obtain ⟨⟨allowed,pairs⟩,later⟩ := along
    have steady' : (turn.run ilike w).chat.Steady := steady_turn steady allowed pairs
    have step : (turn.shown ilike viewer w).2.foldl WsEvent.follow (w.chat.view viewer) =
        (turn.run ilike w).chat.view viewer := by
      cases turn with
      | request amb actor operation =>
        exact followed_perform steady.sound allowed steady'.coupled
      | elsewhere users => rfl
    obtain ⟨rest',final⟩ := ih steady' later
    refine ⟨?_,final⟩
    unfold Turn.heard Turn.transcript
    rw [List.flatMap_cons, List.foldl_append, step]
    exact rest'

/-- A row of the message list, as it is shown. -/
theorem shown_toMessageItem {row : MessageListRow} {conversationId : Uuid}
    (home : row.message.conversationId = conversationId) (users : List ChatUser) (userId : Uuid)
    (isDirect : Bool) (me other : Option ConversationMemberReadDto) (now : Time)
    (deleted : List Uuid) :
    (ChatWsGateway.toMessageItem users userId isDirect me other
      (ConversationPostgresReadRepository.toMessageDto now deleted row)).shown conversationId =
        row.message.shown := by
  unfold UserConversationMessageItem.shown ChatWsGateway.toMessageItem
    ConversationPostgresReadRepository.toMessageDto Message.shown
  dsimp only
  rw [← home]
  split_ifs <;> rfl

/-- What a member holds of a conversation are the rows of its message list. -/
theorem view_conversation {db : ChatDatabase} (sound : db.Sound) {conversationId : Uuid}
    (member : db.isMember conversationId viewer = true) :
    (db.view viewer).filter (fun m => m.conversationId = conversationId) =
      (db.messageRows conversationId viewer).map fun row => row.message.shown := by
  have rows : (db.messageRows conversationId viewer).map (fun row => row.message.shown) =
      ((db.messageRows conversationId viewer).map MessageListRow.message).map Message.shown := by
    rw [List.map_map]
    rfl
  rw [rows, sound.rows member, ChatDatabase.view, List.filter_map, List.filter_filter]
  refine congrArg (List.map _) (List.filter_congr fun m _ => ?_)
  change (decide (m.conversationId = conversationId) && db.keeps viewer m) = _
  by_cases home : m.conversationId = conversationId
  · simp [ChatDatabase.keeps, home, member]
  · simp [home]

/-- The pages of the message list are those of the messages that a client holds of the
    conversation, newest first. -/
def ChatWorld.Loads (w : ChatWorld) (order : RowOrder) (viewer conversationId : Uuid)
    (held : List ShownMessage) : Prop :=
  ∃ sorted, Ordered ShownMessage.createdAt
      (held.filter fun m => m.conversationId = conversationId) sorted ∧
    ∀ amb page pageSize, ∃ response,
      (ChatWsGateway.getConversationMessageList amb ⟨conversationId,page,pageSize⟩ viewer).run
        (orderedHandler order) w = (.ok response, w) ∧
      response.list.map (UserConversationMessageItem.shown conversationId) =
        ChatDatabase.page (PaginationHelper.parse page pageSize) sorted

theorem loads_view (sound : w.chat.Sound) {conversationId : Uuid}
    (member : w.chat.isMember conversationId viewer = true) {order : RowOrder}
    (admitted : order.Admitted (w.chat.messageRows conversationId viewer)) :
    w.Loads order viewer conversationId (w.chat.view viewer) := by
  let rows := order (w.chat.messageRows conversationId viewer)
  refine ⟨rows.map fun row => row.message.shown,?_,fun amb page pageSize => ?_⟩
  · rw [view_conversation sound member]
    exact ⟨admitted.perm.map _,List.pairwise_map.mpr admitted.descending⟩
  · obtain ⟨c,known⟩ := (sound.seated.live member).1
    obtain ⟨response,users,deleted,run,items⟩ := run_orderedList order amb
      ⟨conversationId,page,pageSize⟩ (userConversation_known known member)
    refine ⟨response,run,?_⟩
    rw [items, List.map_map, ← ChatDatabase.map_page]
    refine List.map_congr_left fun row mem => shown_toMessageItem ?_ _ _ _ _ _ _ _
    have listed : row.message ∈ w.chat.listable viewer conversationId := by
      rw [← sound.rows member]
      exact List.mem_map_of_mem (admitted.perm.mem_iff.mp
        (List.mem_of_mem_drop (List.mem_of_mem_take mem)))
    have home := (List.mem_filter.mp listed).2
    rw [Bool.and_eq_true, decide_eq_true_eq] at home
    exact home.1

/-- A client that has heard every event of its user from the start, and has applied one after
    another, holds what the message lists show to a client that loads them, page by page and in
    whatever order Postgres has the messages of one millisecond. Of a conversation that its user
    is no member of it holds nothing. -/
theorem loads_as_heard (empty : w.chat = ⟨[],[],[],[]⟩)
    (along : Turn.Along ilike (fun w turn => turn.Allowed w ∧ turn.PairsUsers w) turns w)
    (viewer conversationId : Uuid) :
    if (Turn.runAll ilike turns w).chat.isMember conversationId viewer then
      ∀ order : RowOrder, order.Admitted
          ((Turn.runAll ilike turns w).chat.messageRows conversationId viewer) →
        (Turn.runAll ilike turns w).Loads order viewer conversationId
          ((Turn.heard ilike viewer turns w).foldl WsEvent.follow [])
    else ∀ m ∈ (Turn.heard ilike viewer turns w).foldl WsEvent.follow [],
      m.conversationId ≠ conversationId := by
  have start : w.chat.Steady := by
    rw [empty]
    exact ⟨ChatDatabase.sound_empty,by simp [ChatDatabase.Paired],by simp⟩
  have nothing : w.chat.view viewer = [] := by rw [empty]; rfl
  obtain ⟨held,steady⟩ := follow_heard viewer start along
  rw [nothing] at held
  rw [held]
  split_ifs with member
  · exact fun order admitted => loads_view steady.sound member admitted
  · intro m mem home
    obtain ⟨row,kept,rfl⟩ := List.mem_map.mp mem
    have keeps := (List.mem_filter.mp kept).2
    rw [ChatDatabase.keeps, Bool.and_eq_true] at keeps
    exact member (home ▸ keeps.1)

end Sessions

/-- User 1 has edited his message and deleted it for everyone: what is left of it has no text. -/
theorem loads_as_heard_corrections : (Turn.runAll noMatch corrections emptyWorld).Loads id 1 100
    [⟨104,100,none,1000,some 2000,some 4000,none,none⟩] := by
  have along : Turn.Along noMatch (fun w turn => turn.Allowed w ∧ turn.PairsUsers w) corrections
      emptyWorld :=
    ⟨⟨unused_numberedDraws (by decide) (by decide) (by decide),fun own => absurd own (by decide)⟩,
      ⟨unused_numberedDraws (by decide) (by decide) (by decide),trivial⟩,
      ⟨unused_numberedDraws (by decide) (by decide) (by decide),trivial⟩,
      ⟨unused_numberedDraws (by decide) (by decide) (by decide),trivial⟩,trivial⟩
  have loads := loads_as_heard rfl along 1 100
  have held : (Turn.heard noMatch 1 corrections emptyWorld).foldl WsEvent.follow [] =
      [⟨104,100,none,1000,some 2000,some 4000,none,none⟩] := by decide
  rw [if_pos (by decide), held] at loads
  exact loads id ⟨.refl _,by decide⟩

end Chatterbox
