import Chatterbox.Chat.Atomic
import Chatterbox.Chat.WsHandlers

/-!
The backend one operation at a time. An operation of a client runs without interruption,
and then the event handlers run on what it has published; the client gets a response, and
the rooms of users get WebSocket events.
-/
namespace Chatterbox
open Concurrency Tables

/-- What a client can ask for, over the WebSocket gateway of the chat module and over the
    HTTP controller of the user module. -/
inductive ChatOperation where
  | createConversation (data : CreateConversationRequest)
  | sendMessage (data : CreateMessageRequest)
  | editMessage (data : EditMessageRequest)
  | deleteMessage (data : DeleteMessageRequest)
  | listConversations (data : GetUserConversationListRequest)
  | listMessages (data : GetConversationMessageListRequest)
  | markMessageSeen (data : MarkMessageSeenRequest)
  | block (targetUserId : Uuid)
  | unblock (targetUserId : Uuid)
  deriving DecidableEq, Repr

inductive ChatResponse where
  | conversation (data : CreateConversationResponse)
  | message (data : CreateMessageResponse)
  | edited (data : EditMessageResponse)
  | deleted (data : DeleteMessageResponse)
  | conversations (data : PaginatedResult UserConversationListItem)
  | messages (data : GetConversationMessageListResponse)
  | seen
  | blocked (success : Bool)
  | unblocked (success : Bool)
  deriving DecidableEq, Repr

def ChatOperation.execute (ilike : JsString → JsString → Bool) (amb : Ambient)
    (authUserId : Uuid) : ChatOperation → ChatProgram ChatResponse
  | createConversation data =>
      .conversation <$> ChatWsGateway.createDirectConversation amb data authUserId
  | sendMessage data => .message <$> ChatWsGateway.createMessage amb data authUserId
  | editMessage data => .edited <$> ChatWsGateway.editMessage amb data authUserId
  | deleteMessage data => .deleted <$> ChatWsGateway.deleteMessage amb data authUserId
  | listConversations data =>
      .conversations <$> ChatWsGateway.getUserConversationList ilike data authUserId
  | listMessages data =>
      .messages <$> ChatWsGateway.getConversationMessageList amb data authUserId
  | markMessageSeen data => (fun _ => .seen) <$> ChatWsGateway.markMessageAsSeen data authUserId
  | block targetUserId =>
      .blocked <$> askUserModule (BlockUserHandler.execute ⟨authUserId,targetUserId⟩)
  | unblock targetUserId =>
      .unblocked <$> askUserModule (UnblockUserHandler.execute amb.now ⟨authUserId,targetUserId⟩)

namespace ChatWorld

/-- Before an operation nothing is waiting to be handled or to be sent. -/
def silent (w : ChatWorld) : ChatWorld :=
  { w with
    users := { w.users with published := [] }
    published := []
    emitted := [] }

/-- Every published event reaches its handler. -/
def handled (w : ChatWorld) : ChatWorld :=
  let chat := w.published.foldl (fun v event => (event.handle.run chatHandler v).2) w
  w.users.published.foldl (fun v event => ((UserEvent.handle event).run chatHandler v).2) chat

/-- One operation of a user: the response, and the world with what has gone out. -/
def perform (w : ChatWorld) (ilike : JsString → JsString → Bool) (amb : Ambient)
    (authUserId : Uuid) (operation : ChatOperation) : Except Failure ChatResponse × ChatWorld :=
  let ran := (operation.execute ilike amb authUserId).run chatHandler w.silent
  (ran.1, ran.2.handled)

end ChatWorld

/-- A text on its way to a client: the message it belongs to, and the text unless it is
    withheld. -/
abbrev ShownText := Uuid × Option JsString

def ReplyTo.shown {User : Type} (preview : ReplyTo User) : ShownText :=
  (preview.id, preview.content)

namespace WsEvent

def previews : WsEvent → List ShownText
  | messageSent data => data.replyTo.toList.map ReplyTo.shown
  | _ => []

def texts : WsEvent → List ShownText
  | conversationCreated data => [(data.lastMessage.id, some data.lastMessage.content)]
  | messageSent data => (data.id, some data.content) :: data.replyTo.toList.map ReplyTo.shown
  | messageEdited data => [(data.id, some data.content)]
  | _ => []

end WsEvent

namespace ChatResponse

def previews : ChatResponse → List ShownText
  | message data => data.replyTo.toList.map ReplyTo.shown
  | messages data => data.list.flatMap fun item => item.replyTo.toList.map ReplyTo.shown
  | _ => []

def texts : ChatResponse → List ShownText
  | conversation data => [(data.chat.id, some data.chat.content)]
  | message data => (data.id, some data.content) :: data.replyTo.toList.map ReplyTo.shown
  | edited data => [(data.id, some data.content)]
  | conversations data => data.data.flatMap fun item =>
      item.lastMessage.toList.map fun last => (last.id, some last.text)
  | messages data => data.list.flatMap fun item =>
      (item.id, item.content) :: item.replyTo.toList.map ReplyTo.shown
  | _ => []

end ChatResponse

/-- What reaches a user in one operation: the response when the operation is his own, and the
    events for his room. -/
def shownTo (viewer authUserId : Uuid) (fromResponse : ChatResponse → List ShownText)
    (fromEvent : WsEvent → List ShownText)
    (performed : Except Failure ChatResponse × ChatWorld) : List ShownText :=
  (match performed.1 with
    | .ok response => if authUserId = viewer then fromResponse response else []
    | .error _ => []) ++
  (performed.2.emitted.filter fun b => viewer ∈ b.rooms).flatMap fun b => fromEvent b.event

/-- One step of the backend: an operation of a user, or something in the user module that is
    no business of the chat module, such as a registration. -/
inductive Turn where
  | request (amb : Ambient) (authUserId : Uuid) (operation : ChatOperation)
  | elsewhere (users : UserDatabase)

namespace Turn

def run (ilike : JsString → JsString → Bool) (w : ChatWorld) : Turn → ChatWorld
  | request amb authUserId operation => (w.perform ilike amb authUserId operation).2
  | elsewhere users => { w with users }

/-- A session: one step after another. -/
def runAll (ilike : JsString → JsString → Bool) : List Turn → ChatWorld → ChatWorld
  | [], w => w
  | turn :: rest, w => runAll ilike rest (turn.run ilike w)

/-- A condition on every step of a session, at the world that the step meets. -/
def Along (ilike : JsString → JsString → Bool) (holds : ChatWorld → Turn → Prop) :
    List Turn → ChatWorld → Prop
  | [], _ => True
  | turn :: rest, w => holds w turn ∧ Along ilike holds rest (turn.run ilike w)

variable {ilike : JsString → JsString → Bool} {holds holds' : ChatWorld → Turn → Prop}
  {turns : List Turn} {w : ChatWorld}

theorem runAll_append (first rest : List Turn) (w : ChatWorld) :
    runAll ilike (first ++ rest) w = runAll ilike rest (runAll ilike first w) := by
  induction first generalizing w with
  | nil => rfl
  | cons turn first ih => exact ih _

theorem along_append {first rest : List Turn} :
    Along ilike holds (first ++ rest) w ↔
      Along ilike holds first w ∧ Along ilike holds rest (runAll ilike first w) := by
  induction first generalizing w with
  | nil => exact ⟨fun rest => ⟨trivial,rest⟩,And.right⟩
  | cons turn first ih => exact (and_congr_right fun _ => ih).trans and_assoc.symm

theorem Along.both (first : Along ilike holds turns w) (second : Along ilike holds' turns w) :
    Along ilike (fun w turn => holds w turn ∧ holds' w turn) turns w := by
  induction turns generalizing w with
  | nil => trivial
  | cons turn rest ih => exact ⟨⟨first.1,second.1⟩,ih first.2 second.2⟩

/-- What every step preserves, a session preserves. -/
theorem Along.invariant {inv : ChatWorld → Prop}
    (step : ∀ w turn, inv w → holds w turn → inv (turn.run ilike w))
    (along : Along ilike holds turns w) (start : inv w) : inv (runAll ilike turns w) := by
  induction turns generalizing w with
  | nil => exact start
  | cons turn rest ih => exact ih along.2 (step w turn start along.1)

/-- What follows of every step from an invariant holds of every step of a session. -/
theorem Along.derive {inv : ChatWorld → Prop}
    (step : ∀ w turn, inv w → holds w turn → inv (turn.run ilike w))
    (here : ∀ w turn, inv w → holds w turn → holds' w turn)
    (along : Along ilike holds turns w) (start : inv w) : Along ilike holds' turns w := by
  induction turns generalizing w with
  | nil => trivial
  | cons turn rest ih =>
    exact ⟨here w turn start along.1,ih along.2 (step w turn start along.1)⟩

end Turn

/-- A request that changes nothing. -/
def ChatRequest.Inert {β : Type} (q : ChatRequest β) : Prop :=
  ∀ w, (chatHandler.answer q w).2 = w

/-- A program that only looks. -/
abbrev Inert {α : Type} (p : ChatProgram α) : Prop := p.Only fun q => q.Inert

section Inert
variable {α : Type}

theorem inert_run {p : ChatProgram α} (inert : Inert p) (w : ChatWorld) :
    (p.run chatHandler w).2 = w := by
  induction p generalizing w with
  | done a => rfl
  | fail e => rfl
  | request q rest ih => exact (ih _ (inert.2 _) _).trans (inert.1 w)

theorem inert_store {β : Type} {q : StoreRequest β} (reads : q.writes = false) :
    (ChatRequest.store q).Inert := by
  intro w
  cases q <;> first | rfl | cases reads

theorem inert_query {q : StoreRequest (Answer α)} (reads : q.writes = false) :
    Inert (query q) :=
  only_ask (inert_store reads)

theorem inert_getUserById (userId : Uuid) :
    Inert (ChatUserIntegrationAdapter.getUserById userId) := by
  refine ⟨fun _ => rfl,fun answered => ?_⟩
  rcases answered with e | row
  · trivial
  · cases row <;> trivial

theorem inert_resolveParentUser (currentUser targetUser : ChatUser) (parentUserId : Option Uuid) :
    Inert (resolveParentUser currentUser targetUser parentUserId) := by
  unfold resolveParentUser
  split
  · trivial
  · split_ifs
    · trivial
    · trivial
    · exact (inert_getUserById _).bind fun _ => trivial

theorem inert_getMessageById (id : Uuid) :
    Inert (ConversationPostgresRepository.getMessageById id) := by
  refine (inert_query rfl).bind fun rows => ?_
  cases rows with
  | none => trivial
  | some rows => exact (inert_query rfl).bind fun _ => trivial

theorem run_inert_bind {β : Type} {p : ChatProgram β} (inert : Inert p) (f : β → ChatProgram α)
    (w : ChatWorld) :
    (p >>= f).run chatHandler w =
      orRefuse (p.run chatHandler w).1 (fun b => (f b).run chatHandler w) w := by
  have looks := inert_run inert w
  rw [Program.run_bind]
  cases is : p.run chatHandler w with
  | mk r u =>
    rw [is] at looks
    cases looks
    cases r <;> rfl

theorem inert_getUsersByIds (userIds : List Uuid) :
    Inert (ChatUserIntegrationAdapter.getUsersByIds userIds) := by
  unfold ChatUserIntegrationAdapter.getUsersByIds UserPostgresReadRepository.getUsersByIds
  split_ifs
  · trivial
  · refine ⟨fun _ => rfl,fun answered => ?_⟩
    cases answered <;> trivial

theorem inert_getBlockedUsersIds (userId : Uuid) (targetUserIds : List Uuid) :
    Inert (ChatUserIntegrationAdapter.getBlockedUsersIds userId targetUserIds) := by
  refine ⟨fun _ => rfl,fun answered => ?_⟩
  cases answered <;> trivial

theorem inert_filterUsers (ilike : JsString → JsString → Bool)
    (data : GetUserConversationListRequest) : Inert (ChatWsGateway.filterUsers ilike data) := by
  unfold ChatWsGateway.filterUsers
  split_ifs
  · trivial
  · refine ⟨fun _ => rfl,fun answered => ?_⟩
    cases answered <;> trivial

end Inert

/-- The conversation as the gateway loads it for one of its members. -/
def ChatDatabase.userConversation (db : ChatDatabase) (conversationId userId : Uuid) :
    Except Failure ConversationReadDto :=
  match db.getUserConversation conversationId userId with
  | none => .error (conversationNotFoundException none)
  | some rows => .ok (ConversationPostgresReadRepository.toConversationDto rows)

def CreateMessageRequest.command (data : CreateMessageRequest) (senderId : Uuid)
    (deletedForUserIds : List Uuid) : CreateMessageCommand :=
  { text := data.text, type := .text, senderId, conversationId := data.conversationId,
    deletedForUserIds, replyToMessageId := data.replyToMessageId,
    clientMessageId := data.clientMessageId }

section Gateway
variable {α : Type} {w v : ChatWorld} {conversationId userId authUserId : Uuid} {amb : Ambient}

theorem run_getUserConversation (f : ConversationReadDto → ChatProgram α) :
    (GetUserConversationHandler.execute conversationId userId >>= f).run chatHandler w =
      orRefuse (w.chat.userConversation conversationId userId) (fun dto => (f dto).run chatHandler w)
        w := by
  unfold GetUserConversationHandler.execute ChatDatabase.userConversation
    ConversationPostgresReadRepository.getUserConversationById
  simp only [Program.bind_assoc]
  rw [run_read (fun _ => rfl)]
  cases w.chat.getUserConversation conversationId userId <;> rfl

/-- A live conversation is loaded for its members, with all of them. -/
theorem userConversation_known {db : ChatDatabase} {c : Conversation}
    (known : lookup Conversation.id conversationId db.liveConversations = some c)
    (member : db.isMember conversationId userId = true) :
    db.userConversation conversationId userId =
      .ok (ConversationPostgresReadRepository.toConversationDto
        (c, (db.membersOf conversationId).map db.withLastSeen)) := by
  rw [ChatDatabase.userConversation, ChatDatabase.getUserConversation, if_pos member, known]
  rfl

theorem userConversation_ok {db : ChatDatabase} {dto : ConversationReadDto}
    (is : db.userConversation conversationId userId = .ok dto) :
    dto.id = conversationId ∧ db.isMember conversationId userId = true ∧
      ∀ m ∈ dto.members, ∃ cm ∈ db.membersOf conversationId, cm.id = m.id ∧ cm.userId = m.userId := by
  unfold ChatDatabase.userConversation ChatDatabase.getUserConversation at is
  split_ifs at is with member
  · split at is
    · cases is
    · rename_i rows found
      obtain ⟨c,known,rfl⟩ := Option.map_eq_some_iff.mp found
      cases is
      refine ⟨(lookup_mem known).2,member,fun m mem => ?_⟩
      obtain ⟨seen,joined,rfl⟩ := List.mem_map.mp mem
      obtain ⟨cm,stored,rfl⟩ := List.mem_map.mp joined
      exact ⟨cm,stored,rfl,rfl⟩

/-- Nobody is left out. -/
theorem userConversation_members {db : ChatDatabase} {dto : ConversationReadDto}
    (is : db.userConversation conversationId userId = .ok dto) {cm : ConversationMember}
    (seated : cm ∈ db.membersOf conversationId) : ∃ m ∈ dto.members, m.userId = cm.userId := by
  unfold ChatDatabase.userConversation ChatDatabase.getUserConversation at is
  split at is
  · cases is
  · rename_i rows found
    split_ifs at found
    obtain ⟨c,_,rfl⟩ := Option.map_eq_some_iff.mp found
    cases is
    exact ⟨_,List.mem_map_of_mem (List.mem_map_of_mem seated),rfl⟩

theorem requireMembership_inv {f : ConversationReadDto → ChatProgram α} {r : Except Failure α}
    (run : (ChatWsGateway.requireMembership conversationId authUserId >>= f).run chatHandler w =
      (r, v)) :
    (v = w ∧ ∃ e, r = .error e) ∨
      ∃ dto, w.chat.userConversation conversationId authUserId = .ok dto ∧
        (f dto).run chatHandler w = (r, v) := by
  unfold ChatWsGateway.requireMembership at run
  rw [Program.bind_assoc, run_getUserConversation] at run
  rcases orRefuse_inv run with ⟨same,e,_,is⟩ | ⟨dto,loaded,run⟩
  · exact Or.inl ⟨same,e,is⟩
  · split_ifs at run
    · exact Or.inr ⟨dto,loaded,run⟩
    · cases run
      exact Or.inl ⟨rfl,_,rfl⟩

def EditMessageRequest.command (data : EditMessageRequest) (userId : Uuid) : EditMessageCommand :=
  { messageId := data.messageId, conversationId := data.conversationId, userId,
    text := data.text }

/-- What an edit does that is not refused. -/
theorem run_editRequest {data : EditMessageRequest} {r : Except Failure EditMessageResponse}
    (run : (ChatWsGateway.editMessage amb data authUserId).run chatHandler w = (r, v)) :
    (v = w ∧ ∃ e, r = .error e) ∨
      ∃ c, EditMessageHandler.change amb.now (data.command authUserId) w.chat = .ok c ∧
        v = { w with chat := c.chat, published := w.published ++ c.events } ∧
        ∃ response, r = .ok response ∧ response.id = c.result.message.id ∧
          response.content = c.result.message.text := by
  rcases requireMembership_inv run with refused | ⟨dto,_,run⟩
  · exact Or.inl refused
  rw [Program.run_bind, run_editMessage] at run
  cases applied : w.apply (EditMessageHandler.change amb.now (data.command authUserId) w.chat) with
  | mk saved u =>
    rw [EditMessageRequest.command] at applied
    rw [applied] at run
    rcases apply_inv applied with ⟨rfl,e,_,rfl⟩ | ⟨c,is,rfl,rfl⟩
    · cases run
      exact Or.inl ⟨rfl,e,rfl⟩
    · cases run
      exact Or.inr ⟨c,is,rfl,_,rfl,rfl,rfl⟩

def DeleteMessageRequest.command (data : DeleteMessageRequest) (userId : Uuid) :
    DeleteMessageCommand :=
  { messageId := data.messageId, conversationId := data.conversationId, userId,
    scope := data.scope }

theorem run_deleteRequest {data : DeleteMessageRequest} {r : Except Failure DeleteMessageResponse}
    (run : (ChatWsGateway.deleteMessage amb data authUserId).run chatHandler w = (r, v)) :
    (v = w ∧ ∃ e, r = .error e) ∨
      ∃ c, DeleteMessageHandler.change amb.now (data.command authUserId) w.chat = .ok c ∧
        v = { w with chat := c.chat, published := w.published ++ c.events } ∧
        ∃ response, r = .ok response := by
  rcases requireMembership_inv run with refused | ⟨dto,_,run⟩
  · exact Or.inl refused
  rw [Program.run_bind, run_deleteMessage] at run
  cases applied : w.apply (DeleteMessageHandler.change amb.now (data.command authUserId) w.chat) with
  | mk saved u =>
    rw [DeleteMessageRequest.command] at applied
    rw [applied] at run
    rcases apply_inv applied with ⟨rfl,e,_,rfl⟩ | ⟨c,is,rfl,rfl⟩
    · cases run
      exact Or.inl ⟨rfl,e,rfl⟩
    · cases run
      exact Or.inr ⟨c,is,rfl,_,rfl⟩

/-- The acknowledgement of a reply only looks, and shows the quoted message that the command
    has returned. -/
theorem run_ackReply (members : List ConversationMemberReadDto) (currentUser targetUser : ChatUser)
    (m : LoadedMessage) (w : ChatWorld) :
    ∃ r, (ChatWsGateway.ackReply members currentUser targetUser m).run chatHandler w = (r, w) ∧
      ∀ p, r = .ok (some p) → ∃ parent, m.replyToMessage = some parent ∧
        p.shown = (parent.id, parent.preview) := by
  unfold ChatWsGateway.ackReply
  split
  · rename_i parent _ quotes
    have looks := inert_run (inert_resolveParentUser currentUser targetUser ((members.find? fun m =>
      m.id = parent.senderId).map ConversationMemberReadDto.userId)) w
    rw [Program.run_bind]
    cases is : (resolveParentUser currentUser targetUser ((members.find? fun m =>
        m.id = parent.senderId).map ConversationMemberReadDto.userId)).run chatHandler w with
    | mk resolved u =>
      rw [is] at looks
      cases looks
      cases resolved with
      | error e => exact ⟨_,rfl,nofun⟩
      | ok user => exact ⟨_,rfl,by rintro _ ⟨⟩; exact ⟨parent,quotes,rfl⟩⟩
  · exact ⟨_,rfl,nofun⟩

/-- What a send does that is not refused. -/
theorem run_sendMessage {data : CreateMessageRequest} {r : Except Failure CreateMessageResponse}
    (run : (ChatWsGateway.createMessage amb data authUserId).run chatHandler w = (r, v)) :
    (v = w ∧ ∃ e, r = .error e) ∨
      ∃ target ∈ w.chat.membersOf data.conversationId, target.userId ≠ authUserId ∧
        w.users.HasUser authUserId ∧ w.users.HasUser target.userId ∧
        w.users.blocking authUserId target.userId = false ∧
        ∃ c, CreateMessageHandler.change amb (data.command authUserId
            (if w.users.blocking target.userId authUserId then [target.userId] else [])) w.chat =
              .ok c ∧
          v = { w with chat := c.chat, published := w.published ++ c.events } ∧
          ∀ response, r = .ok response → response.id = c.result.message.id ∧
            response.content = c.result.message.text ∧
            ∀ p, response.replyTo = some p → ∃ parent, c.result.replyToMessage = some parent ∧
              p.shown = (parent.id, parent.preview) := by
  unfold ChatWsGateway.createMessage at run
  rw [run_getUserConversation] at run
  rcases orRefuse_inv run with ⟨same,e,_,is⟩ | ⟨dto,loaded,run⟩
  · exact Or.inl ⟨same,e,is⟩
  obtain ⟨id,_,rows⟩ := userConversation_ok loaded
  cases found : dto.members.find? (fun member => member.userId ≠ authUserId) with
  | none =>
    rw [found] at run
    cases run
    exact Or.inl ⟨rfl,_,rfl⟩
  | some targetMember =>
    rw [found] at run
    dsimp only at run
    rw [run_chatUser] at run
    rcases orRefuse_inv run with ⟨same,e,_,is⟩ | ⟨currentUser,current,run⟩
    · exact Or.inl ⟨same,e,is⟩
    rw [run_chatUser] at run
    rcases orRefuse_inv run with ⟨same,e,_,is⟩ | ⟨targetUser,target,run⟩
    · exact Or.inl ⟨same,e,is⟩
    rw [run_blockStatus] at run
    dsimp only at run
    by_cases blocker : w.users.blocking authUserId targetMember.userId = true
    · rw [if_pos blocker] at run
      cases run
      exact Or.inl ⟨rfl,_,rfl⟩
    rw [if_neg blocker] at run
    have other := List.find?_some found
    obtain ⟨cm,seated,_,user⟩ := rows targetMember (List.mem_of_find?_eq_some found)
    rw [decide_eq_true_eq, ← user] at other
    rw [Program.run_bind, run_createMessage, id, chatUser_id target, ← user] at run
    cases is : CreateMessageHandler.change amb (data.command authUserId
        (if w.users.blocking cm.userId authUserId then [cm.userId] else [])) w.chat with
    | error e =>
      rw [CreateMessageRequest.command] at is
      rw [is] at run
      cases run
      exact Or.inl ⟨rfl,_,rfl⟩
    | ok c =>
      rw [← user] at blocker
      refine Or.inr ⟨cm,seated,other,hasUser_of_chatUser current,
        user ▸ hasUser_of_chatUser target,by simpa using blocker,c,is,?_⟩
      rw [CreateMessageRequest.command] at is
      rw [is] at run
      obtain ⟨replyTo,acked,shown⟩ := run_ackReply dto.members currentUser targetUser c.result
        { w with chat := c.chat, published := w.published ++ c.events }
      dsimp only [ChatWorld.apply] at run
      rw [Program.run_bind, acked] at run
      cases replyTo with
      | error e =>
        cases run
        exact ⟨rfl,nofun⟩
      | ok replyTo =>
        cases run
        refine ⟨rfl,?_⟩
        rintro _ ⟨⟩
        exact ⟨rfl,rfl,fun p is => shown p (congrArg Except.ok is)⟩

/-- What a mark as seen does that is not refused: the command, and the broadcast to the members
    of the conversation. -/
theorem run_markRequest {data : MarkMessageSeenRequest} {r : Except Failure Unit}
    (run : (ChatWsGateway.markMessageAsSeen data authUserId).run chatHandler w = (r, v)) :
    (v = w ∧ ∃ e, r = .error e) ∨
      ∃ c, MarkConversationAsReadCommandHandler.change
          ⟨data.conversationId,authUserId,data.messageId⟩ w.chat = .ok c ∧ r = .ok () ∧
        ∃ rooms, v = { w with
          chat := c.chat
          published := w.published ++ c.events
          emitted := w.emitted ++ if rooms = [] then [] else
            [⟨rooms,.messageSeen data.conversationId data.messageId⟩] } := by
  rcases requireMembership_inv run with refused | ⟨dto,loaded,run⟩
  · exact Or.inl refused
  obtain ⟨id,_,_⟩ := userConversation_ok loaded
  rw [id, Program.run_bind, run_markConversationAsRead] at run
  cases applied : w.apply (MarkConversationAsReadCommandHandler.change
      ⟨data.conversationId,authUserId,data.messageId⟩ w.chat) with
  | mk saved u =>
    rw [applied] at run
    rcases apply_inv applied with ⟨rfl,e,_,rfl⟩ | ⟨c,is,rfl,rfl⟩
    · cases run
      exact Or.inl ⟨rfl,e,rfl⟩
    · cases run
      refine Or.inr ⟨c,is,rfl,dto.members.map ConversationMemberReadDto.userId,?_⟩
      change (if _ then _ else _) = _
      split_ifs <;> simp

/-- The first message of a new conversation. -/
def CreateConversationRequest.firstMessage (data : CreateConversationRequest)
    (senderId conversationId : Uuid) : CreateMessageCommand :=
  { text := data.content, type := .text, senderId, conversationId, deletedForUserIds := [],
    replyToMessageId := none, clientMessageId := none }

theorem run_announceConversation (currentUser targetUser : ChatUser) (m : MessageEntity) :
    ∃ announced, (∀ w : ChatWorld,
        (ChatWsGateway.announceConversation currentUser targetUser m).run chatHandler w =
          (.ok (), { w with emitted := w.emitted ++ announced })) ∧
      ∀ b ∈ announced, (b.rooms = [targetUser.id] ∨ b.rooms = [currentUser.id]) ∧
        ∃ data, b.event = .conversationCreated data ∧ data.lastMessage.id = m.id ∧
          data.lastMessage.content = m.text := by
  unfold ChatWsGateway.announceConversation
  split_ifs
  · refine ⟨_,fun _ => rfl,fun b mem => ?_⟩
    rw [List.mem_singleton.mp mem]
    exact ⟨Or.inr rfl,_,rfl,rfl,rfl⟩
  · refine ⟨[_,_],fun w => Prod.ext rfl (congrArg (fun sent => { w with emitted := sent })
      (List.append_assoc ..)),fun b mem => ?_⟩
    rcases List.mem_cons.mp mem with rfl | second
    · exact ⟨Or.inl rfl,_,rfl,rfl,rfl⟩
    · rw [List.mem_singleton.mp second]
      exact ⟨Or.inr rfl,_,rfl,rfl,rfl⟩

theorem chatUser_refused {db : UserDatabase} {userId : Uuid} {e : Failure}
    (is : db.chatUser userId = .error e) (reason : Option String) :
    e ≠ conversationAlreadyExistsException reason := by
  rw [chatUser_error is]
  simp [userNotFoundException, conversationAlreadyExistsException]

/-- What a conversation request does that is not refused: the conversation and its first
    message, or the conversation and its removal. Only the conversation command answers that
    there is a conversation already. -/
theorem run_createRequest {data : CreateConversationRequest}
    {r : Except Failure CreateConversationResponse}
    (run : (ChatWsGateway.createDirectConversation amb data authUserId).run chatHandler w =
      (r, v)) :
    (v = w ∧ ∃ e, r = .error e ∧
        (CreateDirectConversationHandler.change amb ⟨authUserId,data.targetUserId⟩ w.chat =
            .error e ∨ ∀ reason, e ≠ conversationAlreadyExistsException reason)) ∨
      (w.users.HasUser authUserId ∧ w.users.HasUser data.targetUserId ∧
        w.users.blocking data.targetUserId authUserId = false ∧
        w.users.blocking authUserId data.targetUserId = false ∧
        ∃ opened, CreateDirectConversationHandler.change amb ⟨authUserId,data.targetUserId⟩ w.chat =
            .ok opened ∧
          ((v = { w with
              chat := (opened.chat.removeConversation (amb.uuid 0) amb.now).2 } ∧
              ∃ e, r = .error e ∧ CreateMessageHandler.change (amb.skip 4)
                (data.firstMessage authUserId (amb.uuid 0)) opened.chat = .error e) ∨
            ∃ c announced, CreateMessageHandler.change (amb.skip 4)
                (data.firstMessage authUserId (amb.uuid 0)) opened.chat = .ok c ∧
              v = { w with
                chat := c.chat
                published := w.published ++ c.events
                emitted := w.emitted ++ announced } ∧
              (∀ b ∈ announced, (b.rooms = [data.targetUserId] ∨ b.rooms = [authUserId]) ∧
                ∃ shown, b.event = .conversationCreated shown ∧
                  shown.lastMessage.id = c.result.message.id ∧
                  shown.lastMessage.content = c.result.message.text) ∧
              ∃ response, r = .ok response ∧ response.chat.id = c.result.message.id ∧
                response.chat.content = c.result.message.text)) := by
  unfold ChatWsGateway.createDirectConversation at run
  rw [run_chatUser] at run
  rcases orRefuse_inv run with ⟨same,e,unknown,is⟩ | ⟨currentUser,current,run⟩
  · exact Or.inl ⟨same,e,is,Or.inr (chatUser_refused unknown)⟩
  rw [run_chatUser] at run
  rcases orRefuse_inv run with ⟨same,e,unknown,is⟩ | ⟨targetUser,target,run⟩
  · exact Or.inl ⟨same,e,is,Or.inr (chatUser_refused unknown)⟩
  rw [run_blockStatus] at run
  dsimp only at run
  by_cases blocker : w.users.blocking authUserId targetUser.id = true
  · rw [if_pos blocker] at run
    cases run
    exact Or.inl ⟨rfl,_,rfl,Or.inr (by simp [conversationAlreadyExistsException])⟩
  rw [if_neg blocker, chatUser_id current, Program.run_bind, run_createDirectConversation] at run
  cases checked : CreateDirectConversationHandler.checkUsers ⟨authUserId,data.targetUserId⟩
      w.users with
  | error e =>
    rw [checked] at run
    cases run
    refine Or.inl ⟨rfl,_,rfl,Or.inr fun reason => ?_⟩
    rcases checkUsers_error checked with rfl | rfl
    · simp [targetUserNotFoundException, conversationAlreadyExistsException]
    · simp [blockedUserException, conversationAlreadyExistsException]
  | ok _ =>
    obtain ⟨blocked,_⟩ := checkUsers_ok checked
    rw [checked] at run
    dsimp only [orRefuse] at run
    rw [chatUser_id target] at blocker run
    cases applied : w.apply (CreateDirectConversationHandler.change amb
        ⟨authUserId,data.targetUserId⟩ w.chat) with
    | mk saved u =>
      rw [applied] at run
      rcases apply_inv applied with ⟨rfl,e,refused,rfl⟩ | ⟨opened,is,rfl,rfl⟩
      · cases run
        exact Or.inl ⟨rfl,e,rfl,Or.inl refused⟩
      refine Or.inr ⟨hasUser_of_chatUser current,hasUser_of_chatUser target,blocked,
        by simpa using blocker,opened,is,?_⟩
      obtain ⟨_,events,id,_⟩ := CreateDirectConversationHandler.change_ok is
      dsimp only at run
      rw [events, id, List.append_nil, Program.run_bind, ChatWsGateway.firstMessage,
        Program.run_catch, run_createMessage, blocked, chatUser_id current] at run
      simp only [Bool.false_eq_true, ↓reduceIte] at run
      cases sent : ChatWorld.apply { w with chat := opened.chat }
          (CreateMessageHandler.change (amb.skip 4) (data.firstMessage authUserId (amb.uuid 0))
            opened.chat) with
      | mk saved u =>
        have outcome := apply_inv sent
        rw [CreateConversationRequest.firstMessage] at sent
        rw [sent] at run
        rcases outcome with ⟨rfl,e,refused,rfl⟩ | ⟨c,sends,rfl,rfl⟩
        · cases run
          exact Or.inl ⟨rfl,e,rfl,refused⟩
        · obtain ⟨announced,runs,all⟩ := run_announceConversation currentUser targetUser
            c.result.message
          dsimp only at run
          rw [Program.run_bind, runs] at run
          cases run
          rw [chatUser_id current, chatUser_id target] at all
          exact Or.inr ⟨c,announced,sends,rfl,all,_,rfl,rfl,rfl⟩

/-- An item of a message list is a message of the conversation that its reader has not deleted.
    Where it has a text that is the stored one, and so with the message that it quotes. -/
def ChatDatabase.ShowsItem (db : ChatDatabase) (reader conversationId : Uuid)
    (item : UserConversationMessageItem) : Prop :=
  ∃ m ∈ db.messages, m.id = item.id ∧ m.conversationId = conversationId ∧
    ⟨reader,m.id⟩ ∉ db.deletedMessages ∧ (∀ text, item.content = some text → text = m.text) ∧
    ∀ p, item.replyTo = some p → m.replyToMessageId = some p.id ∧
      ∃ q, db.message p.id = some q ∧
        ∀ text, p.content = some text → text = q.text ∧ db.visibleTo reader q = true

/-- The last message in a conversation list is the one that a member row of the reader points at,
    with the stored text or without any. -/
def ChatDatabase.ShowsLast (db : ChatDatabase) (reader : Uuid)
    (last : UserConversationLastMessage) : Prop :=
  ∃ cm ∈ db.members, cm.deletedAt = none ∧ cm.userId = reader ∧
    ∃ m, cm.lastMessageId = some m.id ∧ m ∈ db.messages ∧ m.id = last.id ∧
      (last.text ≠ [] → last.text = m.text)

/-- What a member is shown of a conversation. -/
theorem run_listMessages {data : GetConversationMessageListRequest}
    {r : Except Failure GetConversationMessageListResponse}
    (run : (ChatWsGateway.getConversationMessageList amb data authUserId).run chatHandler w =
      (r, v)) :
    v = w ∧ ∀ response, r = .ok response →
      w.chat.isMember data.conversationId authUserId = true ∧
        ∀ item ∈ response.list, w.chat.ShowsItem authUserId data.conversationId item := by
  unfold ChatWsGateway.getConversationMessageList at run
  rw [run_getUserConversation] at run
  rcases orRefuse_inv run with ⟨rfl,_,_,rfl⟩ | ⟨dto,loaded,run⟩
  · exact ⟨rfl,nofun⟩
  obtain ⟨_,member,_⟩ := userConversation_ok loaded
  obtain ⟨deletedForMe,listed,deleted⟩ := run_getUserConversationMessageList amb.now
    data.conversationId authUserId (PaginationHelper.parse data.page data.pageSize) w
  rw [GetUserConversationMessageListHandler.execute, Program.run_bind_ok _ _ listed,
    run_inert_bind (inert_getUsersByIds _)] at run
  rcases orRefuse_inv run with ⟨rfl,_,_,rfl⟩ | ⟨users,_,run⟩
  · exact ⟨rfl,nofun⟩
  rw [run_inert_bind (inert_getBlockedUsersIds _ _)] at run
  rcases orRefuse_inv run with ⟨rfl,_,_,rfl⟩ | ⟨blockedUserIds,_,run⟩
  · exact ⟨rfl,nofun⟩
  cases run
  refine ⟨rfl,?_⟩
  rintro _ ⟨⟩
  refine ⟨member,fun item mem => ?_⟩
  obtain ⟨listedDto,memDto,rfl⟩ := List.mem_map.mp mem
  obtain ⟨row,memRow,rfl⟩ := List.mem_map.mp memDto
  obtain ⟨stored,home,kept,quotes⟩ := mem_listMessages memRow
  refine ⟨row.message,stored,rfl,home,of_decide_eq_false kept,fun text content => ?_,
    fun p shown => ?_⟩
  · dsimp only [ChatWsGateway.toMessageItem, ConversationPostgresReadRepository.toMessageDto]
      at content
    split_ifs at content
    exact (Option.some.inj content).symm
  obtain ⟨quoted,dto,rfl⟩ := Option.map_eq_some_iff.mp shown
  obtain ⟨rm,replies,rfl⟩ := Option.map_eq_some_iff.mp dto
  obtain ⟨id,replyId,found⟩ := Option.bind_eq_some_iff.mp (quotes rm replies)
  have same : rm.1.id = id := (lookup_mem found).2
  rw [← same] at replyId found
  refine ⟨replyId,rm.1,found,fun text content => ?_⟩
  dsimp only [ConversationPostgresReadRepository.toQuotedDto] at content
  split_ifs at content with shown'
  refine ⟨(Option.some.inj content).symm,?_⟩
  rw [Bool.not_eq_true, Bool.or_eq_false_iff, decide_eq_false_iff_not,
    deleted row memRow rm replies] at shown'
  rw [ChatDatabase.visibleTo, Bool.and_eq_true, Bool.not_eq_true', ← Bool.not_eq_true]
  exact ⟨by simpa using shown'.1,shown'.2⟩

/-- The last messages that a user is shown in his conversation list. -/
theorem run_listConversations {ilike : JsString → JsString → Bool}
    {data : GetUserConversationListRequest}
    {r : Except Failure (PaginatedResult UserConversationListItem)}
    (run : (ChatWsGateway.getUserConversationList ilike data authUserId).run chatHandler w =
      (r, v)) :
    v = w ∧ ∀ response, r = .ok response → ∀ item ∈ response.data, ∀ last,
      item.lastMessage = some last → w.chat.ShowsLast authUserId last := by
  unfold ChatWsGateway.getUserConversationList at run
  rw [run_inert_bind (inert_filterUsers ilike data)] at run
  rcases orRefuse_inv run with ⟨rfl,_,_,rfl⟩ | ⟨filteredUserIds,_,run⟩
  · exact ⟨rfl,nofun⟩
  by_cases nobody : data.filter ≠ [] ∧ filteredUserIds = []
  · rw [if_pos nobody] at run
    cases run
    refine ⟨rfl,?_⟩
    rintro _ ⟨⟩ item mem
    cases mem
  rw [if_neg nobody] at run
  have listed := run_getUserConversationList authUserId
    (filteredUserIds.filter fun userId => userId ≠ authUserId)
    (PaginationHelper.parse data.page data.pageSize) w
  rw [GetUserConversationListHandler.execute, Program.run_bind_ok _ _ listed] at run
  unfold ChatWsGateway.listItems at run
  split_ifs at run
  · cases run
    refine ⟨rfl,?_⟩
    rintro _ ⟨⟩ item mem
    cases mem
  rw [run_inert_bind (inert_getUsersByIds _)] at run
  rcases orRefuse_inv run with ⟨rfl,_,_,rfl⟩ | ⟨users,_,run⟩
  · exact ⟨rfl,nofun⟩
  cases run
  refine ⟨rfl,?_⟩
  rintro _ ⟨⟩ item mem last shown
  obtain ⟨dto,memDto,rfl⟩ := List.mem_map.mp mem
  obtain ⟨row,memRow,rfl⟩ := List.mem_map.mp memDto
  obtain ⟨seated,own,pointed⟩ := mem_listConversations memRow
  obtain ⟨lastDto,known,rfl⟩ := Option.map_eq_some_iff.mp shown
  obtain ⟨m,is,rfl⟩ := Option.map_eq_some_iff.mp known
  rw [pointed] at is
  obtain ⟨id,points,found⟩ := Option.bind_eq_some_iff.mp is
  obtain ⟨stored,live,_⟩ := ChatDatabase.membersOf_iff.mp seated
  obtain ⟨memm,same⟩ := lookup_mem found
  refine ⟨row.member,stored,live,own,m,points.trans (congrArg some same.symm),memm,rfl,?_⟩
  intro text
  dsimp only [ConversationPostgresReadRepository.toLastMessageDto] at text ⊢
  split_ifs at text ⊢
  · exact absurd rfl text
  · rfl

end Gateway

end Chatterbox
