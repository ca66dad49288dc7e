import Chatterbox.Chat.Deliveries

/-!
What one operation of a user can come to: refused, with everything as before, or one of
the changes of its command, with the events of that change handled. Everything that is
said about sequences of operations is a case analysis over these.
-/
namespace Chatterbox
open Concurrency Tables

namespace ChatWorld

/-- The message events are handled one after another. -/
def announce (w : ChatWorld) (events : List MessageEvent) : ChatWorld :=
  events.foldl (fun v event => (event.handle.run chatHandler v).2) w

/-- The world after a change of the chat tables, before its events are handled. -/
def changed {α : Type} (w : ChatWorld) (c : Change α) (sent : List Broadcast) : ChatWorld :=
  { w.silent with
    chat := c.chat
    published := c.events
    emitted := sent }

end ChatWorld

/-- The message and the text of a response about one message. -/
def ChatResponse.tells (m : MessageEntity) : ChatResponse → Prop
  | .conversation data => data.chat.id = m.id ∧ data.chat.content = m.text
  | .message data => data.id = m.id ∧ data.content = m.text
  | .edited data => data.id = m.id ∧ data.content = m.text
  | _ => True

inductive Outcome (ilike : JsString → JsString → Bool) (amb : Ambient) (actor : Uuid)
    (w : ChatWorld) : ChatOperation → Except Failure ChatResponse × ChatWorld → Prop where
  | refused {operation : ChatOperation} {e : Failure} :
      Outcome ilike amb actor w operation (.error e, w.silent)
  | created {data : CreateConversationRequest} {r : Except Failure ChatResponse}
      {opened : Change ConversationEntity} {c : Change LoadedMessage} {announced : List Broadcast}
      (accounts : w.users.HasUser actor ∧ w.users.HasUser data.targetUserId)
      (unblocked : w.users.blocking data.targetUserId actor = false ∧
        w.users.blocking actor data.targetUserId = false)
      (opens : CreateDirectConversationHandler.change amb ⟨actor,data.targetUserId⟩ w.chat =
        .ok opened)
      (sends : CreateMessageHandler.change (amb.skip 4) (data.firstMessage actor (amb.uuid 0))
        opened.chat = .ok c)
      (announces : ∀ b ∈ announced, (b.rooms = [data.targetUserId] ∨ b.rooms = [actor]) ∧
        ∃ shown, b.event = .conversationCreated shown ∧
          shown.lastMessage.id = c.result.message.id ∧
          shown.lastMessage.content = c.result.message.text)
      (responds : ∀ response, r = .ok response → ∃ data, response = .conversation data ∧
        response.tells c.result.message) :
      Outcome ilike amb actor w (.createConversation data)
        (r, (w.changed c announced).announce c.events)
  | rolledBack {data : CreateConversationRequest} {e : Failure}
      {opened : Change ConversationEntity}
      (accounts : w.users.HasUser actor ∧ w.users.HasUser data.targetUserId)
      (opens : CreateDirectConversationHandler.change amb ⟨actor,data.targetUserId⟩ w.chat =
        .ok opened) :
      Outcome ilike amb actor w (.createConversation data) (.error e, { w.silent with
        chat := (opened.chat.removeConversation (amb.uuid 0) amb.now).2 })
  | sent {data : CreateMessageRequest} {r : Except Failure ChatResponse}
      {target : ConversationMember} {c : Change LoadedMessage}
      (other : target ∈ w.chat.membersOf data.conversationId) (apart : target.userId ≠ actor)
      (accounts : w.users.HasUser actor ∧ w.users.HasUser target.userId)
      (unblocked : w.users.blocking actor target.userId = false)
      (sends : CreateMessageHandler.change amb (data.command actor
        (if w.users.blocking target.userId actor then [target.userId] else [])) w.chat = .ok c)
      (responds : ∀ response, r = .ok response → ∃ data, response = .message data ∧
        response.tells c.result.message ∧
        ∀ p, data.replyTo = some p → ∃ parent, c.result.replyToMessage = some parent ∧
          p.shown = (parent.id, parent.preview)) :
      Outcome ilike amb actor w (.sendMessage data) (r, (w.changed c []).announce c.events)
  | edited {data : EditMessageRequest} {response : EditMessageResponse}
      {c : Change LoadedMessage}
      (edits : EditMessageHandler.change amb.now (data.command actor) w.chat = .ok c)
      (tells : (ChatResponse.edited response).tells c.result.message) :
      Outcome ilike amb actor w (.editMessage data)
        (.ok (.edited response), (w.changed c []).announce c.events)
  | deleted {data : DeleteMessageRequest} {response : DeleteMessageResponse}
      {c : Change LoadedMessage}
      (deletes : DeleteMessageHandler.change amb.now (data.command actor) w.chat = .ok c) :
      Outcome ilike amb actor w (.deleteMessage data)
        (.ok (.deleted response), (w.changed c []).announce c.events)
  | marked {data : MarkMessageSeenRequest} {r : Except Failure ChatResponse} {c : Change Unit}
      {rooms : List Uuid}
      (marks : MarkConversationAsReadCommandHandler.change
        ⟨data.conversationId,actor,data.messageId⟩ w.chat = .ok c)
      (responds : ∀ response, r = .ok response → response = .seen) :
      Outcome ilike amb actor w (.markMessageSeen data)
        (r, (w.changed c (if rooms = [] then [] else
          [⟨rooms,.messageSeen data.conversationId data.messageId⟩])).announce c.events)
  | listedConversations {data : GetUserConversationListRequest}
      {page : PaginatedResult UserConversationListItem}
      (shows : ∀ item ∈ page.data, ∀ last, item.lastMessage = some last →
        w.chat.ShowsLast actor last) :
      Outcome ilike amb actor w (.listConversations data) (.ok (.conversations page), w.silent)
  | listedMessages {data : GetConversationMessageListRequest}
      {page : GetConversationMessageListResponse}
      (member : w.chat.isMember data.conversationId actor = true)
      (shows : ∀ item ∈ page.list, w.chat.ShowsItem actor data.conversationId item) :
      Outcome ilike amb actor w (.listMessages data) (.ok (.messages page), w.silent)
  | blocked {operation : ChatOperation} {r : Except Failure ChatResponse} {users : UserDatabase}
      {sent : List Broadcast} (kept : ∀ id, w.users.HasUser id → users.HasUser id)
      (responds : ∀ response, r = .ok response → response.texts = [])
      (plain : ∀ b ∈ sent, b.event.texts = []) :
      Outcome ilike amb actor w operation (r, { w.silent with users, emitted := sent })

section Perform
variable {w : ChatWorld}

/-- Without events of the user module only those of the chat module are handled. -/
theorem handled_eq (quiet : w.users.published = []) :
    w.handled = w.announce w.published := by
  rw [ChatWorld.handled, quiet]
  rfl

/-- Handling events only sends. -/
theorem announce_sends (events : List MessageEvent) (w : ChatWorld) :
    ∃ sent, w.announce events = { w with emitted := w.emitted ++ sent } := by
  induction events generalizing w with
  | nil => exact ⟨[],by simp [ChatWorld.announce]⟩
  | cons event rest ih =>
    obtain ⟨rooms,sent,is⟩ := run_handle event w
    obtain ⟨later,runs⟩ := ih (w.send rooms sent)
    have first : w.announce (event :: rest) = (w.send rooms sent).announce rest := by
      rw [← is]
      rfl
    rw [first, runs, ChatWorld.send]
    split
    · exact ⟨later,rfl⟩
    · exact ⟨⟨rooms,sent⟩ :: later,by simp⟩

theorem announce_chat (events : List MessageEvent) (w : ChatWorld) :
    (w.announce events).chat = w.chat := by
  obtain ⟨sent,is⟩ := announce_sends events w
  rw [is]

/-- The handlers of user events send their broadcast and leave everything else alone. -/
theorem run_userEvents (events : List UserEvent) :
    ∃ sent, (∀ w : ChatWorld,
        events.foldl (fun v event => ((UserEvent.handle event).run chatHandler v).2) w =
          { w with emitted := w.emitted ++ sent }) ∧ ∀ b ∈ sent, b.event.texts = [] := by
  induction events with
  | nil => exact ⟨[],by simp,by simp⟩
  | cons event rest ih =>
    have first : ∃ sent, (∀ w, ((UserEvent.handle event).run chatHandler w).2 =
        { w with emitted := w.emitted ++ sent }) ∧ ∀ b ∈ sent, b.event.texts = [] := by
      cases event with
      | userBlocked blockerId blockedId =>
        exact ⟨[⟨[blockedId, blockerId],.userBlocked blockerId blockedId⟩],fun _ => rfl,
          by simp [WsEvent.texts]⟩
      | userUnblocked unblockerId unblockedId =>
        exact ⟨[⟨[unblockedId, unblockerId],.userUnblocked unblockerId unblockedId⟩],fun _ => rfl,
          by simp [WsEvent.texts]⟩
      | userCreated id email username => exact ⟨[],by simp [UserEvent.handle],by simp⟩
    obtain ⟨sent,is,plain⟩ := first
    obtain ⟨later,runs,plain'⟩ := ih
    refine ⟨sent ++ later,fun w => ?_,?_⟩
    · rw [List.foldl_cons, is, runs, List.append_assoc]
    · intro b mem
      rcases List.mem_append.mp mem with old | new
      · exact plain b old
      · exact plain' b new

/-- An operation of the chat module ends with its own events handled. -/
theorem perform_eq {α : Type} {ilike : JsString → JsString → Bool} {amb : Ambient} {actor : Uuid}
    {operation : ChatOperation} {p : ChatProgram α} {f : α → ChatResponse}
    (is : operation.execute ilike amb actor = f <$> p) {r : Except Failure α} {v : ChatWorld}
    (run : p.run chatHandler w.silent = (r, v)) (quiet : v.users.published = []) :
    w.perform ilike amb actor operation = (r.map f, v.announce v.published) := by
  rw [ChatWorld.perform, is, Program.run_map, run, handled_eq quiet]

/-- An operation of the user module, from these accounts. -/
theorem perform_userModule {ilike : JsString → JsString → Bool} {amb : Ambient} {actor : Uuid}
    {operation : ChatOperation} {p : UserProgram Bool} {f : Bool → ChatResponse}
    (is : operation.execute ilike amb actor = f <$> askUserModule p) (users : UserDatabase) :
    ∃ sent, (∀ w : ChatWorld, w.silent.users = users →
        w.perform ilike amb actor operation = ((p.run userHandler users).1.map f,
          { w.silent with users := (p.run userHandler users).2, emitted := sent })) ∧
      ∀ b ∈ sent, b.event.texts = [] := by
  obtain ⟨sent,handled,texts⟩ := run_userEvents (p.run userHandler users).2.published
  refine ⟨sent,?_,texts⟩
  rintro w rfl
  rw [ChatWorld.perform, is, Program.run_map, run_askUserModule]
  exact Prod.ext rfl (handled { w.silent with users := (p.run userHandler w.silent.users).2 })

/-- An operation of the user module leaves the chat tables alone. -/
theorem outcome_userModule {ilike : JsString → JsString → Bool} {amb : Ambient} {actor : Uuid}
    {operation : ChatOperation} {p : UserProgram Bool} {f : Bool → ChatResponse}
    (is : operation.execute ilike amb actor = f <$> askUserModule p)
    (keeps : p.Only UserRequest.KeepsUsers) (plain : ∀ b, (f b).texts = []) :
    Outcome ilike amb actor w operation (w.perform ilike amb actor operation) := by
  obtain ⟨sent,performed,texts⟩ := perform_userModule is w.silent.users
  rw [performed w rfl]
  refine .blocked (fun id known => hasUser_run keeps known) (fun response done => ?_) texts
  cases ran : (p.run userHandler w.silent.users).1 with
  | error e =>
    rw [ran] at done
    cases done
  | ok b =>
    rw [ran] at done
    cases done
    exact plain b

theorem outcome_perform (ilike : JsString → JsString → Bool) (amb : Ambient) (actor : Uuid)
    (w : ChatWorld) (operation : ChatOperation) :
    Outcome ilike amb actor w operation (w.perform ilike amb actor operation) := by
  cases operation with
  | createConversation data =>
    cases run : (ChatWsGateway.createDirectConversation amb data actor).run chatHandler w.silent with
    | mk r v =>
      rcases run_createRequest run with ⟨rfl,e,rfl,_⟩ |
        ⟨actorKnown,targetKnown,blocked,blocks,opened,opens,
          ⟨rfl,e,rfl,_⟩ | ⟨c,announced,sends,rfl,announces,response,rfl,shows⟩⟩
      · rw [perform_eq rfl run rfl]
        exact .refused
      · rw [perform_eq rfl run rfl]
        exact .rolledBack ⟨actorKnown,targetKnown⟩ opens
      · rw [perform_eq rfl run rfl]
        refine .created ⟨actorKnown,targetKnown⟩ ⟨blocked,blocks⟩ opens sends announces
          fun reply done => ?_
        cases done
        exact ⟨response,rfl,shows⟩
  | sendMessage data =>
    cases run : (ChatWsGateway.createMessage amb data actor).run chatHandler w.silent with
    | mk r v =>
      rcases run_sendMessage run with ⟨rfl,e,rfl⟩ |
        ⟨target,other,apart,actorKnown,targetKnown,blocks,c,sends,rfl,responds⟩
      · rw [perform_eq rfl run rfl]
        exact .refused
      · rw [perform_eq rfl run rfl]
        refine .sent other apart ⟨actorKnown,targetKnown⟩ blocks sends fun response done => ?_
        cases r with
        | error e => cases done
        | ok a =>
          cases done
          obtain ⟨id,content,quotes⟩ := responds a rfl
          exact ⟨a,rfl,⟨id,content⟩,quotes⟩
  | editMessage data =>
    cases run : (ChatWsGateway.editMessage amb data actor).run chatHandler w.silent with
    | mk r v =>
      rcases run_editRequest run with ⟨rfl,e,rfl⟩ | ⟨c,edits,rfl,response,rfl,tells⟩
      · rw [perform_eq rfl run rfl]
        exact .refused
      · rw [perform_eq rfl run rfl]
        exact .edited edits tells
  | deleteMessage data =>
    cases run : (ChatWsGateway.deleteMessage amb data actor).run chatHandler w.silent with
    | mk r v =>
      rcases run_deleteRequest run with ⟨rfl,e,rfl⟩ | ⟨c,deletes,rfl,response,rfl⟩
      · rw [perform_eq rfl run rfl]
        exact .refused
      · rw [perform_eq rfl run rfl]
        exact .deleted deletes
  | markMessageSeen data =>
    cases run : (ChatWsGateway.markMessageAsSeen data actor).run chatHandler w.silent with
    | mk r v =>
      rcases run_markRequest run with ⟨rfl,e,rfl⟩ | ⟨c,marks,rfl,rooms,rfl⟩
      · rw [perform_eq rfl run rfl]
        exact .refused
      · rw [perform_eq rfl run rfl]
        refine .marked marks fun response done => ?_
        cases done
        rfl
  | listConversations data =>
    cases run : (ChatWsGateway.getUserConversationList ilike data actor).run chatHandler
        w.silent with
    | mk r v =>
      obtain ⟨rfl,shows⟩ := run_listConversations run
      rw [perform_eq rfl run rfl]
      cases r with
      | error e => exact .refused
      | ok page => exact .listedConversations (shows page rfl)
  | listMessages data =>
    cases run : (ChatWsGateway.getConversationMessageList amb data actor).run chatHandler
        w.silent with
    | mk r v =>
      obtain ⟨rfl,shows⟩ := run_listMessages run
      rw [perform_eq rfl run rfl]
      cases r with
      | error e => exact .refused
      | ok page =>
        obtain ⟨member,items⟩ := shows page rfl
        exact .listedMessages member items
  | block targetUserId => exact outcome_userModule rfl (only_block _) fun _ => rfl
  | unblock targetUserId => exact outcome_userModule rfl (only_unblock _ _) fun _ => rfl

end Perform

end Chatterbox
