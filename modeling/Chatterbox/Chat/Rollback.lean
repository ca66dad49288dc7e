import Chatterbox.Chat.Activities
import Chatterbox.Chat.Failures
import Chatterbox.Chat.ReplyPreview
import Chatterbox.Concurrency.TwoRuns

/-!
A new conversation whose first message fails. The conversation is taken back by soft deletes,
so its rows stay in the tables, out of the sight of every query, also those that earlier
requests have left there.
-/
namespace Chatterbox
open Concurrency Tables ConversationPostgresRepository ChatUserIntegrationAdapter

/-- The tables differ in soft-deleted conversations and members alone. -/
structure ChatDatabase.LiveAlike (db db' : ChatDatabase) : Prop where
  conversations : db'.liveConversations = db.liveConversations
  members : db'.liveMembers = db.liveMembers
  messages : db'.messages = db.messages
  deletedMessages : db'.deletedMessages = db.deletedMessages

section Alike
variable {db db' : ChatDatabase} {w v : ChatWorld} {α : Type}

namespace ChatDatabase.LiveAlike

theorem membersOf (alike : db.LiveAlike db') : db'.membersOf = db.membersOf := by
  funext conversationId
  simp only [ChatDatabase.membersOf, alike.members]

theorem isMember (alike : db.LiveAlike db') : db'.isMember = db.isMember := by
  funext conversationId userId
  simp only [ChatDatabase.isMember, alike.membersOf]

theorem message (alike : db.LiveAlike db') : db'.message = db.message := by
  funext id
  simp only [ChatDatabase.message, alike.messages]

theorem deletedFor (alike : db.LiveAlike db') : db'.deletedFor = db.deletedFor := by
  funext userId messageId
  simp only [ChatDatabase.deletedFor, alike.deletedMessages]

theorem withLastSeen (alike : db.LiveAlike db') : db'.withLastSeen = db.withLastSeen := by
  funext m
  simp only [ChatDatabase.withLastSeen, alike.message]

theorem notSeenCount (alike : db.LiveAlike db') : db'.notSeenCount = db.notSeenCount := by
  funext m
  simp only [ChatDatabase.notSeenCount, alike.messages, alike.deletedFor]

theorem conversationRows (alike : db.LiveAlike db') :
    db'.conversationRows = db.conversationRows := by
  funext userId filterUserIds
  simp only [ChatDatabase.conversationRows, alike.conversations, alike.membersOf, alike.isMember,
    alike.message, alike.members]

theorem messageRows (alike : db.LiveAlike db') : db'.messageRows = db.messageRows := by
  funext conversationId userId
  simp only [ChatDatabase.messageRows, alike.messages, alike.deletedFor, alike.members,
    alike.message]

theorem latestVisible (alike : db.LiveAlike db') : db'.latestVisible = db.latestVisible := by
  funext conversationId userId
  simp only [ChatDatabase.latestVisible, ChatDatabase.visibleTo, alike.messages, alike.deletedFor]

theorem applyDeletion (alike : db.LiveAlike db') (d : MessageDeletion) :
    (db.applyDeletion d).LiveAlike (db'.applyDeletion d) := by
  constructor
  · exact alike.conversations
  · exact alike.members
  · simp only [ChatDatabase.applyDeletion, alike.messages]
  · simp only [ChatDatabase.applyDeletion, alike.deletedMessages]

/-- A statement that does not write is blind to what has been soft-deleted. -/
theorem answer (alike : db.LiveAlike db') {β : Type} {q : StoreRequest β}
    (reads : q.writes = false) :
    (ChatDatabase.answer q db').1 = (ChatDatabase.answer q db).1 := by
  have withReply : db'.withReply = db.withReply := by
    funext m
    simp only [ChatDatabase.withReply, alike.message]
  cases q with
  | commitMessage => cases reads
  | updateMessage => cases reads
  | commitDeletion => cases reads
  | commitConversation => cases reads
  | deleteConversation => cases reads
  | _ =>
    simp only [ChatDatabase.answer, ChatDatabase.getConversation, ChatDatabase.conversationExists,
      ChatDatabase.getUserConversation, ChatDatabase.listConversations, ChatDatabase.listMessages,
      withReply, alike.conversations, alike.members, alike.messages, alike.deletedMessages,
      alike.membersOf, alike.isMember, alike.message, alike.withLastSeen, alike.notSeenCount,
      alike.conversationRows, alike.messageRows, (alike.applyDeletion _).latestVisible]

end ChatDatabase.LiveAlike

/-- Two worlds that a query cannot tell apart. -/
def ChatWorld.LiveAlike (w v : ChatWorld) : Prop :=
  v.users = w.users ∧ w.chat.LiveAlike v.chat

/-- A program that leaves the tables alone comes to the same in both worlds. -/
theorem quiet_alike {p : ChatProgram α} (quiet : Quiet p) (alike : w.LiveAlike v) :
    (p.run chatHandler v).1 = (p.run chatHandler w).1 := by
  refine (Program.Only.run_related (quiet.weaken fun {β} {q} reads w v alike => ?_) alike).1
  have kept : (chatHandler.answer q w).2.chat.LiveAlike (chatHandler.answer q v).2.chat := by
    rw [chat_of_reads reads, chat_of_reads reads]
    exact alike.2
  cases q with
  | user q =>
    have users := alike.1
    refine ⟨?_,?_,kept⟩
    · simp only [chatHandler, ChatWorld.answer, users]
    · simp only [chatHandler, ChatWorld.answer, users]
  | store q => exact ⟨alike.2.answer reads,alike.1,kept⟩
  | bus q =>
    refine ⟨?_,?_,kept⟩
    · cases q <;> rfl
    · cases q with
      | publish event => exact alike.1
      | broadcast rooms event =>
        simp only [chatHandler, ChatWorld.answer, ChatWorld.answerBus]
        split <;> exact alike.1

/-- A conversation that has been added and removed again leaves nothing to be seen. -/
theorem liveAlike_removed {amb : Ambient} (unused : ChatDatabase.Unused amb db)
    (absent : ∀ cm ∈ db.members, cm.conversationId ≠ amb.uuid 0) (userId targetUserId : Uuid)
    (now : Time) :
    db.LiveAlike
      ((db.withConversation amb userId targetUserId).removeConversation (amb.uuid 0) now).2 := by
  have new : ∀ c ∈ db.conversations, c.id ≠ amb.uuid 0 :=
    fun c mem same => unused.conversations 0 (List.mem_map.mpr ⟨c,mem,same⟩)
  constructor
  · refine (filter_amend fun c _ _ => rfl).trans ?_
    rw [ChatDatabase.withConversation, List.filter_append, ChatDatabase.liveConversations]
    have gone : [newConversation amb].filter (fun c =>
        c.deletedAt.isNone && !(c.deletedAt.isNone && decide (c.id = amb.uuid 0))) = [] := by simp
    rw [gone, List.append_nil]
    apply List.filter_congr
    intro c mem
    simp [new c mem]
  · refine (filter_amend fun cm _ _ => rfl).trans ?_
    rw [ChatDatabase.withConversation, List.filter_append, ChatDatabase.liveMembers]
    have gone : (newMembers amb userId targetUserId).filter (fun cm => cm.deletedAt.isNone &&
        !(cm.deletedAt.isNone && decide (cm.conversationId = amb.uuid 0))) = [] := by
      rw [newMembers]
      split <;> simp
    rw [gone, List.append_nil]
    apply List.filter_congr
    intro cm mem
    simp [absent cm mem]
  · rfl
  · rfl

end Alike

/-- The transaction of `DeleteConversationCommand`. -/
def ChatRequest.removes : {β : Type} → ChatRequest β → Bool
  | _, .store (.deleteConversation _ _) => true
  | _, _ => false

/-- These calls fail, but `DeleteConversationCommand` does not. -/
def sparing (failures : Failures) : Fault ChatRequest :=
  fun q n => if q.removes then none else (failures n).bind q.refused

section Runs
variable {failures : Failures} {amb : Ambient} {w : ChatWorld} {n : Nat} {authUserId : Uuid}

theorem refusing_sparing (failures : Failures) : Refusing (sparing failures) := by
  intro β q n b failed
  simp only [sparing] at failed
  split at failed
  · cases failed
  · exact refusing_failures failures β q n b failed

theorem fragile_getUserById (userId : Uuid) :
    (getUserById userId).Fragile (sparing failures) := by
  refine ⟨fun n b failed => ?_,fun b => ?_⟩
  · obtain ⟨e,is⟩ := refusing_sparing failures _ _ _ _ failed
    cases is
    exact ⟨.database e,rfl⟩
  · cases b with
    | error e => trivial
    | ok row => cases row <;> trivial

theorem fragile_doesUserExist (userId : Uuid) :
    (doesUserExist userId).Fragile (sparing failures) := by
  refine ⟨fun n b failed => ?_,fun b => ?_⟩
  · obtain ⟨e,is⟩ := refusing_sparing failures _ _ _ _ failed
    cases is
    exact ⟨.database e,rfl⟩
  · cases b with
    | error e => trivial
    | ok row => cases row <;> trivial

theorem fragile_getBlockStatus (userId targetUserId : Uuid) :
    (getBlockStatus userId targetUserId).Fragile (sparing failures) := by
  refine ⟨fun n b failed => ?_,fun b => ?_⟩
  · obtain ⟨e,is⟩ := refusing_sparing failures _ _ _ _ failed
    cases is
    exact ⟨.database e,rfl⟩
  · cases b with
    | error e => trivial
    | ok isBlocker =>
      refine ⟨fun n b failed => ?_,fun b => ?_⟩
      · obtain ⟨e,is⟩ := refusing_sparing failures _ _ _ _ failed
        cases is
        exact ⟨.database e,rfl⟩
      · cases b <;> trivial

theorem inert_doesUserExist (userId : Uuid) : Inert (doesUserExist userId) := by
  refine ⟨fun _ => rfl,fun b => ?_⟩
  cases b with
  | error e => trivial
  | ok row => cases row <;> trivial

theorem inert_getBlockStatus (userId targetUserId : Uuid) :
    Inert (getBlockStatus userId targetUserId) := by
  refine ⟨fun _ => rfl,fun b => ?_⟩
  cases b with
  | error e => trivial
  | ok isBlocker => exact ⟨fun _ => rfl,fun b => by cases b <;> trivial⟩

/-- A conversation that is opened, or refused with nothing changed. -/
theorem faulty_createDirect {command : CreateDirectConversationCommand}
    (unused : ChatDatabase.Unused amb w.chat) {r : Except Failure ConversationEntity}
    {v : ChatWorld × Nat} (run : (CreateDirectConversationHandler.execute amb command).run
      (chatHandler.faulty (sparing failures)) (w, n) = (r, v)) :
    (v.1 = w ∧ ∃ e, r = .error e) ∨
      (w.chat.conversationExists command.userId command.targetUserId = false ∧
        (∃ c, r = .ok c ∧ c.id = amb.uuid 0) ∧
        v.1 = { w with
          chat := w.chat.withConversation amb command.userId command.targetUserId }) := by
  unfold CreateDirectConversationHandler.execute at run
  rcases (fragile_doesUserExist _).bind_inv (inert_doesUserExist _) run with
    refused | ⟨userExists,_,_,run⟩
  · exact Or.inl refused
  split at run
  · cases run
    exact Or.inl ⟨rfl,_,rfl⟩
  unfold hasBlockRelation at run
  rw [Program.bind_assoc] at run
  rcases (fragile_getBlockStatus _ _).bind_inv (inert_getBlockStatus _ _) run with
    refused | ⟨status,_,_,run⟩
  · exact Or.inl refused
  rw [Program.pure_eq, Program.done_bind] at run
  split at run
  · cases run
    exact Or.inl ⟨rfl,_,rfl⟩
  rcases faulty_read (refusing_sparing failures) (fun _ => rfl) (fun _ => rfl) run with
    ⟨_,refused⟩ | ⟨_,run⟩
  · exact Or.inl refused
  split at run
  · cases run
    exact Or.inl ⟨rfl,_,rfl⟩
  rename_i unknown
  unfold CreateDirectConversationHandler.create at run
  rw [ConversationEntity.createDirect_eq, Program.lift_ok, Program.done_bind, saveConversation,
    fromDomain_direct, Program.bind_assoc] at run
  rcases faulty_query (refusing_sparing failures) (fun _ => rfl) run with
    ⟨_,refused⟩ | ⟨_,⟨e,is,rfl,same⟩ | ⟨rows,is,run⟩⟩
  · exact Or.inl refused
  · have kept := w.chat.storeConversation_error (Prod.ext is rfl)
    refine Or.inl ⟨?_,_,rfl⟩
    rw [same]
    exact congrArg (fun chat => { w with chat }) kept
  · have stores : ChatDatabase.answer (.commitConversation _ _) w.chat = (.ok rows, _) :=
      Prod.ext is rfl
    have found := w.chat.storeConversation_found stores rfl
    have added := storeConversation_new unused stores
    obtain ⟨_,_,loaded⟩ := w.chat.storeConversation_ok stores
    cases rows with
    | none => cases found
    | some rows =>
      cases run
      obtain ⟨row,known,rfl⟩ := Option.map_eq_some_iff.mp loaded.symm
      refine Or.inr ⟨by simpa using unknown,⟨_,rfl,(lookup_mem known).2⟩,?_⟩
      exact congrArg (fun chat => { w with chat }) added

theorem getUserById_id {userId : Uuid} {user : ChatUser}
    (is : (getUserById userId).run chatHandler w = (.ok user, w)) : user.id = userId := by
  have plain : (getUserById userId >>= Program.done).run chatHandler w = _ :=
    run_chatUser userId Program.done
  rw [Program.bind_done, is] at plain
  cases known : w.users.chatUser userId with
  | error e =>
    rw [known] at plain
    cases plain
  | ok u =>
    rw [known] at plain
    cases plain
    exact chatUser_id known

/-- A first message that fails takes the conversation with it. -/
theorem faulty_firstMessage {currentUser targetUser : ChatUser} {isBlocked : Bool}
    {content : JsString} {conversationId : Uuid} {r : Except Failure LoadedMessage}
    {v : ChatWorld × Nat}
    (run : (ChatWsGateway.firstMessage amb currentUser targetUser isBlocked content
      conversationId).run (chatHandler.faulty (sparing failures)) (w, n) = (r, v)) :
    (∃ m, r = .ok m) ∨ ((∃ e, r = .error e) ∧
      v.1 = { w with chat := (w.chat.removeConversation conversationId amb.now).2 }) := by
  unfold ChatWsGateway.firstMessage at run
  rw [Program.run_catch] at run
  split at run
  · cases run
    exact Or.inl ⟨_,rfl⟩
  · rename_i e u failed
    have same := faulty_create_error (refusing_sparing failures) failed
    obtain ⟨x,k⟩ := u
    cases same
    rcases faulty_query (refusing_sparing failures) (fun _ => rfl) run with
      ⟨spared,_⟩ | ⟨_,⟨_,is,_⟩ | ⟨_,_,run⟩⟩
    · exact absurd rfl spared
    · cases is
    · cases run
      exact Or.inr ⟨⟨e,rfl⟩,rfl⟩

/-- Broadcasting does not fail. -/
theorem faulty_announce {currentUser targetUser : ChatUser} {m : MessageEntity} {α : Type} (a : α)
    {r : Except Failure α} {v : ChatWorld × Nat}
    (run : (ChatWsGateway.announceConversation currentUser targetUser m >>= fun _ =>
      (pure a : ChatProgram α)).run (chatHandler.faulty (sparing failures)) (w, n) = (r, v)) :
    r = .ok a := by
  unfold ChatWsGateway.announceConversation at run
  split at run
  · cases run
    rfl
  · cases run
    rfl

/-- A request for a conversation that ends with an error has changed nothing, or it has added
    the conversation and removed it again. -/
theorem failed_create {data : CreateConversationRequest} (unused : ChatDatabase.Unused amb w.chat)
    {e : Failure} {v : ChatWorld × Nat}
    (run : (ChatWsGateway.createDirectConversation amb data authUserId).run
      (chatHandler.faulty (sparing failures)) (w, n) = (.error e, v)) :
    v.1 = w ∨ (w.chat.conversationExists authUserId data.targetUserId = false ∧
      v.1 = { w with chat := ((w.chat.withConversation amb authUserId
        data.targetUserId).removeConversation (amb.uuid 0) amb.now).2 }) := by
  unfold ChatWsGateway.createDirectConversation at run
  rcases (fragile_getUserById _).bind_inv (inert_getUserById _) run with
    ⟨same,_⟩ | ⟨currentUser,_,found,run⟩
  · exact Or.inl same
  rw [getUserById_id found] at run
  rcases (fragile_getUserById _).bind_inv (inert_getUserById _) run with
    ⟨same,_⟩ | ⟨targetUser,_,_,run⟩
  · exact Or.inl same
  rcases (fragile_getBlockStatus _ _).bind_inv (inert_getBlockStatus _ _) run with
    ⟨same,_⟩ | ⟨blockStatus,_,_,run⟩
  · exact Or.inl same
  split at run
  · cases run
    exact Or.inl rfl
  rw [Program.run_bind] at run
  split at run
  · rename_i opened u ran
    rcases faulty_createDirect unused ran with ⟨_,_,refused⟩ | ⟨unknown,⟨c,is,id⟩,stored⟩
    · cases refused
    · cases is
      obtain ⟨x,k⟩ := u
      cases stored
      rw [Program.run_bind] at run
      split at run
      · cases faulty_announce _ run
      · rename_i failed
        cases run
        rcases faulty_firstMessage failed with ⟨_,sent⟩ | ⟨_,removed⟩
        · cases sent
        · rw [id] at removed
          exact Or.inr ⟨unknown,removed⟩
  · rename_i ran
    cases run
    rcases faulty_createDirect unused ran with ⟨same,_⟩ | ⟨_,⟨_,opened,_⟩,_⟩
    · exact Or.inl same
    · cases opened

end Runs

/-- Every query, of whichever user, is answered in the second world as in the first. -/
structure QueriesAlike (ilike : JsString → JsString → Bool) (w v : ChatWorld) : Prop where
  known : ∀ userId targetUserId,
    ((ConversationPostgresReadRepository.conversationExists userId targetUserId).run
        chatHandler v).1 =
      ((ConversationPostgresReadRepository.conversationExists userId targetUserId).run
        chatHandler w).1
  byId : ∀ conversationId userId,
    ((GetUserConversationHandler.execute conversationId userId).run chatHandler v).1 =
      ((GetUserConversationHandler.execute conversationId userId).run chatHandler w).1
  conversations : ∀ amb userId data, (v.perform ilike amb userId (.listConversations data)).1 =
    (w.perform ilike amb userId (.listConversations data)).1
  messages : ∀ amb userId data, (v.perform ilike amb userId (.listMessages data)).1 =
    (w.perform ilike amb userId (.listMessages data)).1
  command : ∀ id, ((getConversationById id).run chatHandler v).1 =
    ((getConversationById id).run chatHandler w).1

/-- The answer to a request for a conversation that there is already. -/
def RefusedAsExisting {α : Type} (r : Except Failure α) : Prop :=
  ∃ reason, r = .error (conversationAlreadyExistsException reason)

/-- Neither of the two users is told that they have a conversation when he asks for one. -/
def ChatWorld.Free (w : ChatWorld) (userId targetUserId : Uuid) : Prop :=
  ∀ amb content,
    ¬ RefusedAsExisting ((ChatWsGateway.createDirectConversation amb ⟨targetUserId,content⟩
        userId).run chatHandler w).1 ∧
      ¬ RefusedAsExisting ((ChatWsGateway.createDirectConversation amb ⟨userId,content⟩
        targetUserId).run chatHandler w).1

section Answers
variable {ilike : JsString → JsString → Bool} {w v : ChatWorld} {amb : Ambient}

theorem queriesAlike (alike : w.LiveAlike v) : QueriesAlike ilike w v := by
  have silent : w.silent.LiveAlike v.silent := by
    refine ⟨?_,alike.2⟩
    simp only [ChatWorld.silent, alike.1]
  constructor
  · intro userId targetUserId
    exact quiet_alike (plain_query rfl).quiet alike
  · intro conversationId userId
    exact quiet_alike (plain_getUserConversation _ _).quiet alike
  · intro amb userId data
    exact quiet_alike ((plain_listConversations ilike data userId).quiet.map _) silent
  · intro amb userId data
    exact quiet_alike ((plain_listMessages amb data userId).quiet.map _) silent
  · intro id
    exact quiet_alike (plain_getConversationById id).quiet alike

theorem firstMessage_not_existing {data : CreateConversationRequest} {senderId : Uuid}
    {conversationId : Uuid} {db : ChatDatabase} {e : Failure} {reason : Option String}
    (is : CreateMessageHandler.change amb (data.firstMessage senderId conversationId) db =
      .error e) : e ≠ conversationAlreadyExistsException reason := by
  rcases error_of_bind is with refused | ⟨member,_,is⟩
  · unfold ChatDatabase.conversationMember at refused
    split at refused
    · cases refused
      simp [conversationNotFoundException, conversationAlreadyExistsException]
    · split at refused
      · cases refused
        simp [notMessageOwnerException, conversationAlreadyExistsException]
      · cases refused
  split at is
  · rename_i keyed
    cases keyed
  rcases error_of_bind is with refused | ⟨reply,_,is⟩
  · cases refused
  rcases error_of_bind is with refused | ⟨created,_,is⟩
  · simp [MessageEntity.create, MessageEntity.validateClientMessageId,
      CreateConversationRequest.firstMessage, bind, Except.bind, pure, Except.pure] at refused
  split at is
  · cases is
  · cases is
    simp [conversationAlreadyExistsException]

theorem change_not_existing {userId targetUserId : Uuid} {db : ChatDatabase} {e : Failure}
    {reason : Option String} (unknown : db.conversationExists userId targetUserId = false)
    (is : CreateDirectConversationHandler.change amb ⟨userId,targetUserId⟩ db = .error e) :
    e ≠ conversationAlreadyExistsException reason := by
  unfold CreateDirectConversationHandler.change at is
  rw [if_neg (by simp [unknown]), ConversationEntity.createDirect_eq] at is
  rcases error_of_bind is with refused | ⟨conversation,_,is⟩
  · cases refused
  split at is
  · cases is
  · cases is
    simp [conversationAlreadyExistsException]
  · cases is
    simp [conversationAlreadyExistsException]

/-- Without a conversation of the two, no request for one is refused for that reason. -/
theorem free_of_unknown {userId targetUserId : Uuid}
    (unknown : w.chat.conversationExists userId targetUserId = false) (content : JsString) :
    ¬ RefusedAsExisting ((ChatWsGateway.createDirectConversation amb ⟨targetUserId,content⟩
      userId).run chatHandler w).1 := by
  rintro ⟨reason,is⟩
  cases run : (ChatWsGateway.createDirectConversation amb ⟨targetUserId,content⟩ userId).run
      chatHandler w with
  | mk r v =>
    rw [run] at is
    rcases run_createRequest run with ⟨_,e,rfl,opens | other⟩ |
      ⟨_,_,_,_,opened,_,⟨_,e,rfl,sends⟩ | ⟨_,_,_,_,_,_,rfl,_⟩⟩
    · exact change_not_existing unknown opens (Except.error.inj is)
    · exact other reason (Except.error.inj is)
    · exact firstMessage_not_existing sends (Except.error.inj is)
    · cases is

theorem conversationExists_comm (db : ChatDatabase) (userId targetUserId : Uuid) :
    db.conversationExists targetUserId userId = db.conversationExists userId targetUserId := by
  unfold ChatDatabase.conversationExists
  congr 1
  funext c
  rw [Bool.and_right_comm]

end Answers

/-- Members sit in stored conversations. -/
def ChatDatabase.Homed (db : ChatDatabase) : Prop :=
  ∀ cm ∈ db.members, cm.conversationId ∈ db.conversations.map Conversation.id

/-- The conversations of the first tables are there in the second, and the members of these sit
    in conversations. -/
structure ChatDatabase.Homes (db db' : ChatDatabase) : Prop where
  kept : db.conversations.map Conversation.id ⊆ db'.conversations.map Conversation.id
  homed : db'.Homed

section Homes
variable {ι : Type} {db db' : ChatDatabase} {amb : Ambient} {activity : Activity}
  {past : List (Issued ChatRequest ChatWorld ι)} {β : Type} {q : ChatRequest β} {s : ChatWorld}

namespace ChatDatabase

theorem Homed.refl (homed : db.Homed) : db.Homes db :=
  ⟨List.Subset.refl _,homed⟩

/-- Member rows that are saved in conversations that are stored. -/
theorem Homed.saved (homed : db.Homed) (conversations : db'.conversations = db.conversations)
    (members : ∀ cm ∈ db'.members, cm ∈ db.members ∨
      cm.conversationId ∈ db.conversations.map Conversation.id) : db.Homes db' := by
  refine ⟨conversations ▸ List.Subset.refl _,fun cm mem => ?_⟩
  rw [conversations]
  rcases members cm mem with old | here
  · exact homed cm old
  · exact here

/-- The members that are saved with a conversation are its own. -/
theorem Homed.commitConversation (homed : db.Homed) {conversation : Conversation}
    {members : List ConversationMember}
    (own : ∀ cm ∈ members, cm.conversationId = conversation.id) :
    db.Homes (db.storeConversation conversation members).2 := by
  cases stores : db.storeConversation conversation members with
  | mk r stored =>
    cases r with
    | error e =>
      rw [db.storeConversation_error stores]
      exact homed.refl
    | ok rows =>
      obtain ⟨_,rfl,_⟩ := db.storeConversation_ok stores
      have kept : db.conversations.map Conversation.id ⊆
          (save Conversation.id conversation db.conversations).map Conversation.id := by
        intro id known
        obtain ⟨c,mem,rfl⟩ := List.mem_map.mp known
        by_cases same : c.id = conversation.id
        · exact List.mem_map.mpr ⟨conversation,mem_save.mpr (Or.inl rfl),same.symm⟩
        · exact List.mem_map.mpr ⟨c,mem_save.mpr (Or.inr ⟨mem,same⟩),rfl⟩
      refine ⟨kept,fun cm mem => ?_⟩
      rcases mem_of_mem_saveAll mem with new | old
      · exact List.mem_map.mpr ⟨conversation,mem_save.mpr (Or.inl rfl),(own cm new).symm⟩
      · exact kept (homed cm old)

end ChatDatabase

/-- A statement keeps all conversations and puts members into them alone. -/
theorem homes_step (step : activity.Step amb past q)
    (loaded : ∀ load ∈ past, load.before.chat.Homes s.chat ∧ load.before.chat.Homed)
    (homed : s.chat.Homed) : s.chat.Homes (chatHandler.answer q s).2.chat := by
  have reads : q.writes = false → s.chat.Homes (chatHandler.answer q s).2.chat := by
    intro reads
    rw [chat_of_reads reads]
    exact homed.refl
  have copy : ∀ load ∈ past, ∀ cm ∈ load.before.chat.members,
      cm.conversationId ∈ s.chat.conversations.map Conversation.id :=
    fun load mem cm stored => (loaded load mem).1.kept ((loaded load mem).2 cm stored)
  rcases step with plain | ⟨actor,operation,_,step⟩
  · exact reads (writes_of_plain plain)
  cases step with
  | plain plain => exact reads (writes_of_plain plain)
  | edited => exact reads rfl
  | text => exact homed.saved rfl fun _ mem => Or.inl mem
  | @insert message load before =>
    have conversations : (chatHandler.answer (.store (.commitMessage (Message.fromDomain message)
        (message.deletedForUserIds.map fun userId => ⟨userId,message.id⟩)
        ((load.before.chat.membersOf message.conversationId).map message.updateMember)))
          s).2.chat.conversations = s.chat.conversations := by
      change (s.chat.storeMessage _ _ _).2.conversations = _
      unfold ChatDatabase.storeMessage
      split_ifs <;> rfl
    refine homed.saved conversations fun cm mem => ?_
    rcases mem_commitMessage mem with old | ⟨saved,_⟩
    · exact Or.inl old
    · obtain ⟨row,joined,rfl⟩ := List.mem_map.mp saved
      exact Or.inr (copy load before row (ChatDatabase.membersOf_iff.mp joined).1)
  | @deletion data is deletion members loadedWith moved =>
    refine homed.saved rfl fun cm mem => ?_
    rcases mem_of_mem_saveAll mem with new | old
    · obtain ⟨load,before,row,stored,last,rfl,_⟩ := moved cm new
      exact Or.inr (copy load before row stored)
    · exact Or.inl old
  | @opening data is first conversation built =>
    refine homed.commitConversation fun cm mem => ?_
    rw [createDirect_rows built] at mem ⊢
    rcases mem_newMembers mem with rfl | ⟨_,rfl⟩ <;> rfl
  | @marking data is load before rows found marked marks =>
    obtain ⟨c,known,rfl⟩ := Option.map_eq_some_iff.mp found
    obtain ⟨conversation,members⟩ := markAsRead_saved marks
    refine homed.commitConversation fun cm mem => ?_
    obtain ⟨row,joined,same⟩ := members cm mem
    have here : row.conversationId = c.id :=
      (ChatDatabase.membersOf_iff.mp joined).2.2.trans (lookup_mem known).2.symm
    rw [conversation]
    rcases same with rfl | rfl <;> exact here
  | @removal data is =>
    have frame : ∀ c : Conversation,
        ({ c with deletedAt := some amb.now } : Conversation).id = c.id := fun _ => rfl
    have ids : (s.chat.removeConversation (amb.uuid 0) amb.now).2.conversations.map
        Conversation.id = s.chat.conversations.map Conversation.id := map_amend frame _
    refine ⟨?_,fun cm mem => ?_⟩
    · change _ ⊆ (s.chat.removeConversation (amb.uuid 0) amb.now).2.conversations.map _
      rw [ids]
      exact List.Subset.refl _
    · change _ ∈ (s.chat.removeConversation (amb.uuid 0) amb.now).2.conversations.map _
      rw [ids]
      rcases mem_amend.mp mem with ⟨old,stored,_,rfl⟩ | ⟨stored,_⟩
      · exact homed old stored
      · exact homed cm stored

/-- Whatever goes on at once, and whichever database calls fail. -/
theorem homed_run [DecidableEq ι] {ilike : JsString → JsString → Bool}
    {activities : ι → Activity} {ambs : ι → Ambient} {w : ChatWorld} {fault : Fault ChatRequest}
    (refusing : Refusing fault) (empty : w.chat = ⟨[],[],[],[]⟩) (schedule : List ι) :
    ((activityPool ilike activities ambs w).numbered.run (chatHandler.faulty fault)
      schedule).state.1.chat.Homed := by
  let holds (past : List (Issued ChatRequest (ChatWorld × ℕ) ι)) (s : ChatWorld × ℕ) : Prop :=
    s.1.chat.Homed ∧ ∀ load ∈ past, load.before.1.chat.Homes s.1.chat ∧ load.before.1.chat.Homed
  have start : holds [] (w, 0) := by
    refine ⟨?_,by simp⟩
    change w.chat.Homed
    rw [empty]
    exact fun _ mem => by cases mem
  refine (Pool.trace_run holds (fun before e later cut known => ?_) start).1
  have homes : e.before.1.chat.Homes ((chatHandler.faulty fault).answer e.request
      e.before).2.1.chat := by
    rcases chatHandler.faulty_state fault e.request e.before with ⟨_,same⟩ | ⟨_,same⟩
    · rw [same]
      refine homes_step (activityStep_faulty refusing cut) (fun load own => ?_) known.1
      obtain ⟨f,mem,rfl⟩ := List.mem_map.mp (List.mem_of_mem_filter own)
      exact known.2 f mem
    · rw [same]
      exact known.1.refl
  refine ⟨homes.homed,fun load mem => ?_⟩
  rcases List.mem_append.mp mem with old | now
  · obtain ⟨earlier,homed⟩ := known.2 load old
    exact ⟨⟨List.Subset.trans earlier.kept homes.kept,homes.homed⟩,homed⟩
  · rw [List.mem_singleton.mp now]
    exact ⟨homes,known.1⟩

end Homes

/-- After anything that has gone on at once from empty tables, whichever database calls have failed
    in it: a request for a conversation whose first message fails leaves no trace that a query
    finds, nothing to broadcast, and nothing in the way of the next try. -/
theorem create_rolled_back {ι : Type} [DecidableEq ι] {ilike : JsString → JsString → Bool}
    {activities : ι → Activity} {ambs : ι → Ambient} {start w : ChatWorld}
    {fault : Fault ChatRequest} {schedule : List ι} (refusing : Refusing fault)
    (empty : start.chat = ⟨[],[],[],[]⟩)
    (reached : w.chat = ((activityPool ilike activities ambs start).numbered.run
      (chatHandler.faulty fault) schedule).state.1.chat)
    {failures : Failures} {amb : Ambient} {data : CreateConversationRequest} {authUserId : Uuid}
    {e : Failure} {v : ChatWorld × Nat} (unused : ChatDatabase.Unused amb w.chat)
    (failed : (ChatWsGateway.createDirectConversation amb data authUserId).run
      (chatHandler.faulty (sparing failures)) (w, 0) = (.error e, v))
    (saved : amb.uuid 0 ∈ v.1.chat.conversations.map Conversation.id) :
    QueriesAlike ilike w v.1 ∧ v.1.emitted = w.emitted ∧ v.1.published = w.published ∧
      v.1.Free authUserId data.targetUserId := by
  have homed : w.chat.Homed := reached ▸ homed_run refusing empty schedule
  rcases failed_create unused failed with same | ⟨unknown,is⟩
  · rw [same] at saved
    exact absurd saved (unused.conversations 0)
  · have absent : ∀ cm ∈ w.chat.members, cm.conversationId ≠ amb.uuid 0 :=
      fun cm mem same => unused.conversations 0 (same ▸ homed cm mem)
    have alike : w.LiveAlike v.1 := by
      rw [is]
      exact ⟨rfl,liveAlike_removed unused absent _ _ _⟩
    have still : v.1.chat.conversationExists authUserId data.targetUserId = false := by
      rw [← unknown]
      simp only [ChatDatabase.conversationExists, alike.2.conversations, alike.2.isMember]
    refine ⟨queriesAlike alike,?_,?_,fun amb content => ⟨free_of_unknown still content,?_⟩⟩
    · rw [is]
    · rw [is]
    · exact free_of_unknown ((conversationExists_comm _ _ _).trans still) content

/-- User 1 asks for a conversation with user 2, and the insert of his message fails. -/
def unsaid : ChatWorld :=
  ((activityPool noMatch (fun _ : Unit => .request 1 (.createConversation ⟨2,[104, 105]⟩))
    (fun _ => numberedDraws 1) emptyWorld).numbered.run
      (chatHandler.faulty (sparing (failsAt 11))) (List.replicate 13 ())).state.1

/-- Then user 2 asks for one with user 1, and his message fails too. -/
def unsaidAgain : Except Failure CreateConversationResponse × ChatWorld × Nat :=
  (ChatWsGateway.createDirectConversation (numberedDraws 2) ⟨1,[121, 111]⟩ 2).run
    (chatHandler.faulty (sparing (failsAt 11))) (unsaid, 0)

theorem create_rolled_back_again : unsaid.chat.conversations ≠ [] ∧
    QueriesAlike noMatch unsaid unsaidAgain.2.1 ∧ unsaidAgain.2.1.emitted = unsaid.emitted ∧
      unsaidAgain.2.1.published = unsaid.published ∧ unsaidAgain.2.1.Free 2 1 := by
  have failed : unsaidAgain.1 = .error (.database ⟨.other,""⟩) := by decide
  have saved : (numberedDraws 2).uuid 0 ∈ unsaidAgain.2.1.chat.conversations.map Conversation.id :=
    by decide
  have ran : (ChatWsGateway.createDirectConversation (numberedDraws 2) ⟨1,[121, 111]⟩ 2).run
      (chatHandler.faulty (sparing (failsAt 11))) (unsaid, 0) =
        (.error (.database ⟨.other,""⟩), unsaidAgain.2) := by
    rw [← failed]
    rfl
  have unused : ChatDatabase.Unused (numberedDraws 2) unsaid.chat :=
    unused_numberedDraws (by decide) (by decide) (by decide)
  have rolled := create_rolled_back (refusing_sparing (failsAt 11)) rfl rfl unused ran saved
  exact ⟨by decide,rolled⟩

end Chatterbox
