import Chatterbox.Chat.ForeignChanges
import Chatterbox.Chat.ForeignReads
import Chatterbox.Chat.SeenMessages
import Mathlib.Data.Nat.Pairing

/-!
A user learns nothing about the texts of conversations that he is no member of. Two servers
that differ in such texts answer him alike and send him the same events, whatever he asks for
and whatever the others do meanwhile.
-/
namespace Chatterbox
open Concurrency Tables

/-- Where an operation of `actor` ends on two servers, before its events are handled: with the
    same response if it is the viewer's, and with the same for the viewer besides. -/
structure Indistinct {α : Type} (viewer actor : Uuid) (x x' : Except Failure α × ChatWorld) :
    Prop where
  result : actor = viewer → x'.1 = x.1
  quiet : x.2.users.published = []
  world : x.2.SameFor viewer x'.2
  heard : (x'.2.announce x'.2.published).sentTo viewer =
    (x.2.announce x.2.published).sentTo viewer

section Ends
variable {α : Type} {viewer actor : Uuid} {w v : ChatWorld}

theorem ChatWorld.SameFor.silent (alike : w.SameFor viewer v) :
    w.silent.SameFor viewer v.silent :=
  ⟨congrArg (fun users : UserDatabase => { users with published := [] }) alike.users,alike.chat⟩

theorem indistinct_changed (alike : w.SameFor viewer v) (result : Except Failure α)
    {chat chat' : ChatDatabase} (same : chat.SameFor viewer chat') {events : List MessageEvent}
    (quotes : ∀ event ∈ events, event.QuotesAlike chat chat') (emitted : List Broadcast) :
    Indistinct viewer actor
      (result, { w.silent with chat, published := events, emitted })
      (result, { v.silent with chat := chat', published := events, emitted }) := by
  have world : ChatWorld.SameFor viewer { w.silent with chat, published := events, emitted }
      { v.silent with chat := chat', published := events, emitted } :=
    ⟨alike.silent.users,same⟩
  refine ⟨fun _ => rfl,rfl,world,?_⟩
  obtain ⟨sent,here,there⟩ := announce_alike world quotes
  dsimp only
  rw [here, there]
  rfl

theorem indistinct_refused (alike : w.SameFor viewer v) (result : Except Failure α) :
    Indistinct viewer actor (result, w.silent) (result, v.silent) := by
  have none : ∀ event ∈ ([] : List MessageEvent), event.QuotesAlike w.chat v.chat := by simp
  exact indistinct_changed alike result alike.chat none []

/-- An operation of somebody else on a conversation that the viewer is no member of. -/
theorem indistinct_foreign (alike : w.SameFor viewer v) (other : actor ≠ viewer)
    {x x' : Except Failure α × ChatWorld} {y y' : Except Failure (Change LoadedMessage)}
    (ends : x.2 = (w.silent.apply y).2) (ends' : x'.2 = (v.silent.apply y').2)
    (same : (Change.after w.chat y).SameFor viewer (Change.after v.chat y'))
    (foreign : ∀ c, y = .ok c → ∀ event ∈ c.events, event.Foreign viewer c.chat)
    (foreign' : ∀ c, y' = .ok c → ∀ event ∈ c.events, event.Foreign viewer c.chat) :
    Indistinct viewer actor x x' := by
  have silence : ∀ (w : ChatWorld) (y : Except Failure (Change LoadedMessage)),
      (∀ c, y = .ok c → ∀ event ∈ c.events, event.Foreign viewer c.chat) →
        (w.silent.apply y).2.users = w.silent.users ∧
          (w.silent.apply y).2.chat = Change.after w.chat y ∧
          ((w.silent.apply y).2.announce (w.silent.apply y).2.published).sentTo viewer = [] := by
    intro w y foreign
    cases y with
    | error e => exact ⟨rfl,rfl,rfl⟩
    | ok c => exact ⟨rfl,rfl,announce_foreign (foreign c rfl)⟩
  obtain ⟨users,chat,hears⟩ := silence w y foreign
  obtain ⟨users',chat',hears'⟩ := silence v y' foreign'
  rw [← ends] at users chat hears
  rw [← ends'] at users' chat' hears'
  refine ⟨fun own => absurd own other,?_,⟨?_,?_⟩,?_⟩
  · rw [users]
    rfl
  · rw [users, users']
    exact alike.silent.users
  · rw [chat, chat']
    exact same
  · rw [hears, hears']

end Ends

section Events
variable {viewer : Uuid} {db db' : ChatDatabase} {amb : Ambient} {now : Time}

theorem foreign_send (confined : db.Confined) (unused : amb.uuid 0 ∉ db.messages.map Message.id)
    {command : CreateMessageCommand}
    (foreign : db.isMember command.conversationId viewer = false) {c : Change LoadedMessage}
    (is : CreateMessageHandler.change amb command db = .ok c) :
    ∀ event ∈ c.events, event.Foreign viewer c.chat := by
  rcases CreateMessageHandler.change_effect confined.members unused is with
    ⟨_,_,_,_,_,rfl⟩ | ⟨_,message,event,_,sends,_,rfl⟩
  · simp
  · obtain ⟨_,_,home,_,_,_,_,_,_,conversation,_⟩ := sends.fields
    intro e mem
    rw [List.mem_singleton.mp mem]
    change (db.withMessage message).isMember event.conversationId viewer = false
    rw [isMember_of_identity (ChatDatabase.identity_withMessage message), conversation, home]
    exact foreign

theorem foreign_edit {command : EditMessageCommand}
    (foreign : db.isMember command.conversationId viewer = false) {c : Change LoadedMessage}
    (is : EditMessageHandler.change now command db = .ok c) :
    ∀ event ∈ c.events, event.Foreign viewer c.chat := by
  obtain ⟨_,m,edited,_,_,home,edits,chat,events,_⟩ := EditMessageHandler.change_ok is
  have there : (db.loaded m).message.conversationId = command.conversationId :=
    (MessageEntity.loadDeletedForUserIds_conversationId ..).trans home
  rw [chat, events]
  obtain ⟨_,_,⟨_,rfl⟩ | ⟨_,rfl⟩⟩ := edit_ok edits
  · simp
  · intro e mem
    rw [List.mem_singleton.mp mem]
    change db.isMember (db.loaded m).message.conversationId viewer = false
    rw [there]
    exact foreign

theorem foreign_delete (confined : db.Confined) {command : DeleteMessageCommand}
    (other : command.userId ≠ viewer)
    (foreign : db.isMember command.conversationId viewer = false) {c : Change LoadedMessage}
    (is : DeleteMessageHandler.change now command db = .ok c) :
    ∀ event ∈ c.events, event.Foreign viewer c.chat := by
  obtain ⟨_,m,deleted,_,_,home,deletes,chat,events⟩ := DeleteMessageHandler.change_ok is
  have there : (db.loaded m).message.conversationId = command.conversationId :=
    (MessageEntity.loadDeletedForUserIds_conversationId ..).trans home
  have outside : ∀ d, (db.storeDeletion d (db.movedPointers d)).isMember
      (db.loaded m).message.conversationId viewer = false := by
    intro d
    rw [isMember_of_identity (ChatDatabase.identity_storeDeletion confined.members d), there]
    exact foreign
  rw [chat, events]
  rcases delete_cases deletes with ⟨_,rfl⟩ | ⟨_,_,⟨_,rfl⟩ | ⟨_,rfl⟩⟩
  · unfold MessageEntity.deleteForUser
    split
    · simp
    · intro e mem
      rw [List.mem_singleton.mp mem]
      exact ⟨outside _,other⟩
  · simp
  · intro e mem
    rw [List.mem_singleton.mp mem]
    exact ⟨outside _,other⟩

/-- An event that quotes a message of a conversation of the viewer. -/
theorem quotesAlike_named (same : db.SameFor viewer db') (confined : db.Confined)
    {conversationId : Uuid} {event : MessageCreatedDomainEvent}
    (names : db.Names conversationId event.replyToMessageId)
    (reads : db.isMember conversationId viewer = true) :
    (MessageEvent.created event).QuotesAlike db db' := by
  intro q is
  rw [is] at names
  have found := same.found confined.messages names reads
  simp only [Option.bind_some] at found
  rw [found]
  cases is' : db.message q with
  | none => rfl
  | some m =>
    have home := names.found confined.messages is'
    rw [Option.map_some, Option.map_some,
      same.loaded confined (lookup_mem is').1 (home ▸ reads)]

/-- The event of a send quotes what the stored message quotes. -/
theorem quotesAlike_send (confined : db.Confined)
    (unused : amb.uuid 0 ∉ db.messages.map Message.id) {command : CreateMessageCommand}
    (reads : db.isMember command.conversationId viewer = true ∨ command.replyToMessageId = none)
    {c : Change LoadedMessage} (is : CreateMessageHandler.change amb command db = .ok c)
    {chat' : ChatDatabase} (same : c.chat.SameFor viewer chat') :
    ∀ event ∈ c.events, event.QuotesAlike c.chat chat' := by
  rcases CreateMessageHandler.change_effect confined.members unused is with
    ⟨_,_,_,_,_,rfl⟩ | ⟨_,message,event,_,sends,_,rfl⟩
  · simp
  · obtain ⟨_,_,home,_,_,_,reply,_,_,_,_,_,_,replies⟩ := sends.fields
    intro e mem
    rw [List.mem_singleton.mp mem]
    rcases reads with reads | none
    · have kept := confined_withMessage sends unused confined
      have names := kept.quotes (Message.fromDomain message)
        (List.mem_append_right _ List.mem_cons_self)
      apply quotesAlike_named same kept
      · rw [replies]
        exact names
      · change (db.withMessage message).isMember message.conversationId viewer = true
        rw [isMember_of_identity (ChatDatabase.identity_withMessage message), home]
        exact reads
    · intro q quotes
      rw [replies, reply, none] at quotes
      cases quotes

end Events

section Operations
variable {α β : Type} {viewer actor : Uuid} {w v : ChatWorld} {amb : Ambient}

/-- A command that does the same on both servers, with what follows it. -/
theorem indistinct_apply (alike : w.SameFor viewer v) {p : ChatProgram α}
    {f : α → ChatProgram β} {y y' : Except Failure (Change α)}
    (runs : p.run chatHandler w.silent = w.silent.apply y)
    (runs' : p.run chatHandler v.silent = v.silent.apply y') (same : Change.SameFor viewer y y')
    (next : ∀ result chat chat' events, y = .ok ⟨result,chat,events⟩ →
      chat.SameFor viewer chat' → Indistinct viewer actor
        ((f result).run chatHandler { w.silent with chat, published := events })
        ((f result).run chatHandler { v.silent with chat := chat', published := events })) :
    Indistinct viewer actor ((p >>= f).run chatHandler w.silent)
      ((p >>= f).run chatHandler v.silent) := by
  rw [Program.run_bind, Program.run_bind, runs, runs']
  cases same with
  | refused => exact indistinct_refused alike _
  | @changed result chat chat' events same => exact next result chat chat' events rfl same

/-- A command whose result goes into the response only. -/
theorem run_apply_inert {p : ChatProgram α} {f : α → ChatProgram β}
    {y : Except Failure (Change α)} (runs : p.run chatHandler w = w.apply y)
    (inert : ∀ a, Inert (f a)) : ((p >>= f).run chatHandler w).2 = (w.apply y).2 := by
  rw [Program.run_bind, runs]
  cases y with
  | error e => rfl
  | ok c => exact inert_run (inert c.result) _

theorem inert_ackReply (members : List ConversationMemberReadDto)
    (currentUser targetUser : ChatUser) (m : LoadedMessage) :
    Inert (ChatWsGateway.ackReply members currentUser targetUser m) := by
  unfold ChatWsGateway.ackReply
  split
  · exact (inert_resolveParentUser _ _ _).bind fun _ => trivial
  · trivial

theorem indistinct_createMessage (alike : w.SameFor viewer v) (confined : w.chat.Confined)
    (unused : amb.uuid 0 ∉ w.chat.messages.map Message.id) (data : CreateMessageRequest) :
    Indistinct viewer actor
      ((ChatWsGateway.createMessage amb data actor).run chatHandler w.silent)
      ((ChatWsGateway.createMessage amb data actor).run chatHandler v.silent) := by
  have refused : ∀ e : Failure, Indistinct viewer actor
      ((.error e, w.silent) : Except Failure CreateMessageResponse × ChatWorld)
      (.error e, v.silent) := fun e => indistinct_refused alike _
  unfold ChatWsGateway.createMessage
  apply (agrees_userConversation alike.silent data.conversationId actor).follow refused
  intro dto loaded
  rw [run_userConversation] at loaded
  obtain ⟨id,member,_⟩ := userConversation_ok (Prod.mk.inj loaded).1
  split
  · exact refused _
  · rename_i targetMember _
    apply (agrees_getUserById alike.silent actor).follow refused
    intro currentUser _
    apply (agrees_getUserById alike.silent targetMember.userId).follow refused
    intro targetUser _
    apply (agrees_getBlockStatus alike.silent actor targetMember.userId).follow refused
    intro blockStatus _
    split
    · exact refused _
    · rw [id]
      by_cases reads : w.chat.isMember data.conversationId viewer = true
      · apply indistinct_apply alike (run_createMessage amb _ _) (run_createMessage amb _ _)
        · exact alike.chat.send confined reads
        · intro result chat chat' events is same
          have quotes := quotesAlike_send confined unused (Or.inl reads) is same
          have ends : ∀ r : Except Failure CreateMessageResponse, Indistinct viewer actor
              (r, { w.silent with chat, published := events })
              (r, { v.silent with chat := chat', published := events }) :=
            fun r => indistinct_changed alike r same quotes []
          have later : ChatWorld.SameFor viewer { w.silent with chat, published := events }
              { v.silent with chat := chat', published := events } :=
            ⟨alike.silent.users,same⟩
          apply (agrees_ackReply later dto.members currentUser targetUser result).follow
          · exact fun e => ends _
          · exact fun replyTo _ => ends _
      · have foreign : w.chat.isMember data.conversationId viewer = false := by simpa using reads
        have other : actor ≠ viewer := by
          rintro rfl
          exact reads member
        have ids : amb.uuid 0 ∉ v.chat.messages.map Message.id := by
          rw [ids_of_origins, alike.chat.origins, ← ids_of_origins]
          exact unused
        have inert : ∀ createMessage : LoadedMessage, Inert (do
            let replyTo ← ChatWsGateway.ackReply dto.members currentUser targetUser createMessage
            return { id := createMessage.message.id
                     createdAt := createMessage.message.createdAt, seen := false
                     user := currentUser.named, content := createMessage.message.text
                     replyToMessageId := createMessage.message.replyToMessageId, replyTo
                     clientMessageId := createMessage.message.clientMessageId :
                     CreateMessageResponse }) :=
          fun _ => (inert_ackReply _ _ _ _).bind fun _ => trivial
        apply indistinct_foreign alike other
          (run_apply_inert (run_createMessage amb _ _) inert)
          (run_apply_inert (run_createMessage amb _ _) inert)
        · exact alike.chat.send_after confined _
        · exact fun c is => foreign_send confined unused foreign is
        · refine fun c is => foreign_send (alike.chat.confined confined) ids ?_ is
          exact (alike.chat.isMember ..).trans foreign

/-- An edit or a deletion: the command on a message of a conversation that the actor is in. -/
theorem indistinct_membership (alike : w.SameFor viewer v) {conversationId : Uuid}
    {p : ChatProgram LoadedMessage} {f : LoadedMessage → β}
    {change : ChatDatabase → Except Failure (Change LoadedMessage)}
    (runs : ∀ w : ChatWorld, p.run chatHandler w = w.apply (change w.chat))
    (same : w.chat.isMember conversationId viewer = true →
      Change.SameFor viewer (change w.chat) (change v.chat))
    (quotes : ∀ c, change w.chat = .ok c → ∀ chat', ∀ event ∈ c.events,
      event.QuotesAlike c.chat chat')
    (after : w.chat.isMember conversationId viewer = false →
      (Change.after w.chat (change w.chat)).SameFor viewer (Change.after v.chat (change v.chat)))
    (foreign : actor ≠ viewer → ∀ u, u.isMember conversationId viewer = false →
      (u = w.chat ∨ u = v.chat) → ∀ c, change u = .ok c →
        ∀ event ∈ c.events, event.Foreign viewer c.chat) :
    Indistinct viewer actor
      ((ChatWsGateway.requireMembership conversationId actor >>= fun _ =>
        p >>= fun m => pure (f m)).run chatHandler w.silent)
      ((ChatWsGateway.requireMembership conversationId actor >>= fun _ =>
        p >>= fun m => pure (f m)).run chatHandler v.silent) := by
  apply (agrees_requireMembership alike.silent conversationId actor).follow
  · exact fun e => indistinct_refused alike _
  · intro dto loaded
    have member : w.chat.isMember conversationId actor = true := by
      rw [← Program.bind_done (ChatWsGateway.requireMembership conversationId actor)] at loaded
      rcases requireMembership_inv loaded with ⟨_,_,failed⟩ | ⟨_,found,_⟩
      · cases failed
      · exact (userConversation_ok found).2.1
    have inert : ∀ m, Inert (pure (f m) : ChatProgram β) := fun _ => trivial
    by_cases reads : w.chat.isMember conversationId viewer = true
    · apply indistinct_apply alike (runs _) (runs _) (same reads)
      intro result chat chat' events is alike'
      exact indistinct_changed alike _ alike' (quotes _ is chat') []
    · have apart : w.chat.isMember conversationId viewer = false := by simpa using reads
      have other : actor ≠ viewer := by
        rintro rfl
        exact reads member
      apply indistinct_foreign alike other
        (run_apply_inert (runs _) inert) (run_apply_inert (runs _) inert)
      · exact after apart
      · exact foreign other _ apart (Or.inl rfl)
      · exact foreign other _ ((alike.chat.isMember ..).trans apart) (Or.inr rfl)

/-- Only new messages quote. -/
theorem quotesAlike_of_edits {events : List MessageEvent} {db db' : ChatDatabase}
    (changes : ∀ event ∈ events, (∃ e, event = .edited e) ∨ ∃ e, event = .deleted e) :
    ∀ event ∈ events, event.QuotesAlike db db' := by
  intro event mem
  rcases changes event mem with ⟨e,rfl⟩ | ⟨e,rfl⟩
  · trivial
  · trivial

theorem indistinct_editMessage (alike : w.SameFor viewer v) (confined : w.chat.Confined)
    (data : EditMessageRequest) :
    Indistinct viewer actor
      ((ChatWsGateway.editMessage amb data actor).run chatHandler w.silent)
      ((ChatWsGateway.editMessage amb data actor).run chatHandler v.silent) := by
  apply indistinct_membership alike (run_editMessage amb.now (data.command actor))
  · exact fun reads => alike.chat.edit confined reads
  · intro c is chat'
    obtain ⟨_,_,_,_,_,_,edits,_,events,_⟩ := EditMessageHandler.change_ok is
    rw [events]
    exact quotesAlike_of_edits fun event mem => Or.inl (edit_events edits event mem)
  · exact fun apart => alike.chat.edit_after confined apart
  · exact fun _ u apart _ c is => foreign_edit apart is

theorem indistinct_deleteMessage (alike : w.SameFor viewer v) (confined : w.chat.Confined)
    (data : DeleteMessageRequest) :
    Indistinct viewer actor
      ((ChatWsGateway.deleteMessage amb data actor).run chatHandler w.silent)
      ((ChatWsGateway.deleteMessage amb data actor).run chatHandler v.silent) := by
  apply indistinct_membership alike (run_deleteMessage amb.now (data.command actor))
  · exact fun reads => alike.chat.delete confined reads
  · intro c is chat'
    obtain ⟨_,_,_,_,_,_,deletes,_,events⟩ := DeleteMessageHandler.change_ok is
    rw [events]
    exact quotesAlike_of_edits fun event mem => Or.inr (delete_events deletes event mem)
  · exact fun apart => alike.chat.delete_after confined apart
  · rintro other u apart (rfl | rfl) c is
    · exact foreign_delete confined other apart is
    · exact foreign_delete (alike.chat.confined confined) other apart is

theorem indistinct_markMessageAsSeen (alike : w.SameFor viewer v) (confined : w.chat.Confined)
    (data : MarkMessageSeenRequest) :
    Indistinct viewer actor
      ((ChatWsGateway.markMessageAsSeen data actor).run chatHandler w.silent)
      ((ChatWsGateway.markMessageAsSeen data actor).run chatHandler v.silent) := by
  unfold ChatWsGateway.markMessageAsSeen
  apply (agrees_requireMembership alike.silent data.conversationId actor).follow
  · exact fun e => indistinct_refused alike _
  · intro dto loaded
    apply indistinct_apply alike (run_markConversationAsRead _ _) (run_markConversationAsRead _ _)
    · exact alike.chat.mark confined _
    · intro result chat chat' events is same
      have none : ∀ event ∈ events, event.QuotesAlike chat chat' := by
        obtain ⟨_,_,published,_⟩ := MarkConversationAsReadCommandHandler.change_ok
          confined.conversations confined.members is
        obtain rfl : events = [] := published
        simp
      rw [run_broadcast, run_broadcast, send_eq, send_eq]
      exact indistinct_changed alike _ same none _

/-- The first message of a conversation, or the removal of the conversation. -/
theorem indistinct_firstMessage (alike : w.SameFor viewer v) (confined : w.chat.Confined)
    (unused : (amb.skip 4).uuid 0 ∉ w.chat.messages.map Message.id)
    (currentUser targetUser : ChatUser) (isBlocked : Bool) (content : JsString)
    (conversationId : Uuid) (respond : LoadedMessage → β) :
    Indistinct viewer actor
      ((ChatWsGateway.firstMessage amb currentUser targetUser isBlocked content
        conversationId >>= fun m => ChatWsGateway.announceConversation currentUser targetUser
          m.message >>= fun _ => pure (respond m)).run chatHandler w.silent)
      ((ChatWsGateway.firstMessage amb currentUser targetUser isBlocked content
        conversationId >>= fun m => ChatWsGateway.announceConversation currentUser targetUser
          m.message >>= fun _ => pure (respond m)).run chatHandler v.silent) := by
  unfold ChatWsGateway.firstMessage
  rw [Program.run_bind, Program.run_bind, Program.run_catch, Program.run_catch,
    run_createMessage, run_createMessage]
  generalize given : (⟨content,.text,currentUser.id,conversationId,
    if isBlocked then [targetUser.id] else [],none,none⟩ : CreateMessageCommand) = command
  have key : command.clientMessageId = none := by rw [← given]
  have reply : command.replyToMessageId = none := by rw [← given]
  have same : Change.SameFor viewer
      (CreateMessageHandler.change (amb.skip 4) command w.silent.chat)
      (CreateMessageHandler.change (amb.skip 4) command v.silent.chat) :=
    alike.chat.firstMessage confined key reply
  have quotes : ∀ c, CreateMessageHandler.change (amb.skip 4) command w.silent.chat = .ok c →
      ∀ chat', c.chat.SameFor viewer chat' → ∀ event ∈ c.events, event.QuotesAlike c.chat chat' :=
    fun c is chat' same => quotesAlike_send confined unused (Or.inr reply) is same
  generalize CreateMessageHandler.change (amb.skip 4) command w.silent.chat = y at same quotes ⊢
  generalize CreateMessageHandler.change (amb.skip 4) command v.silent.chat = y' at same ⊢
  cases same with
  | @refused e =>
    have none : ∀ event ∈ ([] : List MessageEvent), event.QuotesAlike
        (w.chat.removeConversation conversationId amb.now).2
        (v.chat.removeConversation conversationId amb.now).2 := by simp
    exact indistinct_changed alike (.error e) (alike.chat.removed conversationId) none []
  | @changed result chat chat' events same =>
    obtain ⟨announced,runs,_⟩ := run_announceConversation currentUser targetUser result.message
    dsimp only [ChatWorld.apply]
    rw [Program.run_bind, Program.run_bind, runs, runs]
    exact indistinct_changed alike _ same (quotes _ rfl chat' same) announced

theorem indistinct_createDirectConversation (alike : w.SameFor viewer v)
    (confined : w.chat.Confined) (unused : ChatDatabase.Unused amb w.chat)
    (data : CreateConversationRequest) :
    Indistinct viewer actor
      ((ChatWsGateway.createDirectConversation amb data actor).run chatHandler w.silent)
      ((ChatWsGateway.createDirectConversation amb data actor).run chatHandler v.silent) := by
  have refused : ∀ e : Failure, Indistinct viewer actor
      ((.error e, w.silent) : Except Failure CreateConversationResponse × ChatWorld)
      (.error e, v.silent) := fun e => indistinct_refused alike _
  unfold ChatWsGateway.createDirectConversation
  apply (agrees_getUserById alike.silent actor).follow refused
  intro currentUser _
  apply (agrees_getUserById alike.silent data.targetUserId).follow refused
  intro targetUser _
  apply (agrees_getBlockStatus alike.silent actor targetUser.id).follow refused
  intro blockStatus _
  split
  · exact refused _
  · have runs : ∀ u : ChatWorld, u.users = w.silent.users →
        (CreateDirectConversationHandler.execute amb ⟨currentUser.id,data.targetUserId⟩).run
          chatHandler u = u.apply (CreateDirectConversationHandler.checkUsers
            ⟨currentUser.id,data.targetUserId⟩ w.silent.users >>= fun _ =>
              CreateDirectConversationHandler.change amb ⟨currentUser.id,data.targetUserId⟩
                u.chat) := by
      intro u users
      rw [run_createDirectConversation, users, ← apply_bind]
    apply indistinct_apply alike (runs _ rfl) (runs _ alike.silent.users)
    · exact Change.SameFor.bind fun _ _ => alike.chat.createDirect confined unused _
    · intro opened chat chat' events is same
      obtain ⟨_,_,is⟩ := ok_of_bind is
      obtain ⟨_,none,_⟩ := CreateDirectConversationHandler.change_ok is
      obtain ⟨_,stored⟩ := CreateDirectConversationHandler.change_effect unused is
      obtain rfl : events = [] := none
      obtain rfl : chat = w.chat.withConversation amb currentUser.id data.targetUserId := stored
      have alike' : ChatWorld.SameFor viewer
          { w with chat := w.chat.withConversation amb currentUser.id data.targetUserId }
          { v with chat := chat' } := ⟨alike.users,same⟩
      exact indistinct_firstMessage alike' (confined_withConversation unused confined _ _)
        (unused.messages 4) currentUser targetUser blockStatus.isBlocked data.content opened.id _

/-- A list of the viewer. -/
theorem indistinct_agrees {p : ChatProgram α} (alike : w.SameFor viewer v)
    (agrees : p.Agrees chatHandler w.silent v.silent) :
    Indistinct viewer actor (p.run chatHandler w.silent) (p.run chatHandler v.silent) := by
  obtain ⟨r,here,there⟩ := agrees
  rw [here, there]
  exact indistinct_refused alike r

/-- A list of somebody else. -/
theorem indistinct_inert {p : ChatProgram α} (alike : w.SameFor viewer v) (other : actor ≠ viewer)
    (stays : ∀ u, (p.run chatHandler u).2 = u) :
    Indistinct viewer actor (p.run chatHandler w.silent) (p.run chatHandler v.silent) := by
  have same : Indistinct viewer actor ((p.run chatHandler w.silent).1, w.silent)
      ((p.run chatHandler w.silent).1, v.silent) := indistinct_refused alike _
  refine ⟨fun own => absurd own other,?_,?_,?_⟩
  · rw [stays]
    exact same.quiet
  · rw [stays, stays]
    exact same.world
  · rw [stays, stays]
    exact same.heard

end Operations

/-- What the viewer gets out of an operation: the response when it is his own, and the events for
    his room. -/
def Turn.shown (ilike : JsString → JsString → Bool) (viewer : Uuid) (w : ChatWorld) :
    Turn → Option (Except Failure ChatResponse) × List WsEvent
  | request amb authUserId operation =>
      let performed := w.perform ilike amb authUserId operation
      (if authUserId = viewer then some performed.1 else none, performed.2.sentTo viewer)
  | elsewhere _ => (none, [])

/-- What the viewer gets out of a session, step by step. -/
def Turn.transcript (ilike : JsString → JsString → Bool) (viewer : Uuid) :
    List Turn → ChatWorld → List (Option (Except Failure ChatResponse) × List WsEvent)
  | [], _ => []
  | turn :: rest, w => turn.shown ilike viewer w :: transcript ilike viewer rest (turn.run ilike w)

/-- The stores differ only in texts of messages of conversations that the viewer is no member
    of. -/
structure ChatDatabase.OtherTexts (viewer : Uuid) (db db' : ChatDatabase) : Prop where
  conversations : db'.conversations = db.conversations
  members : db'.members = db.members
  deletedMessages : db'.deletedMessages = db.deletedMessages
  messages : List.Forall₂ (fun m m' => m' = { m with text := m'.text } ∧
    (db.isMember m.conversationId viewer = true → m'.text = m.text)) db.messages db'.messages

theorem ChatDatabase.OtherTexts.sameFor {viewer : Uuid} {db db' : ChatDatabase}
    (others : db.OtherTexts viewer db') : db.SameFor viewer db' := by
  refine ⟨others.conversations,others.members,others.deletedMessages,
    others.messages.imp fun m m' pair => ?_⟩
  obtain ⟨text,own⟩ := pair
  constructor
  · rw [text]
    rfl
  · intro reads
    rw [text, own reads]

/-- What an operation of `actor` has answered and sent, as far as the viewer gets it. -/
structure AnswersAlike (viewer actor : Uuid) (x x' : Except Failure ChatResponse × ChatWorld) :
    Prop where
  result : actor = viewer → x'.1 = x.1
  world : x.2.SameFor viewer x'.2
  heard : x'.2.sentTo viewer = x.2.sentTo viewer

section Sessions
variable {viewer actor : Uuid} {w v : ChatWorld} {ilike : JsString → JsString → Bool}
  {amb : Ambient} {operation : ChatOperation}

/-- The event handlers come after the operation. -/
theorem Indistinct.performed {α : Type} {p : ChatProgram α} {f : α → ChatResponse}
    (ends : Indistinct viewer actor (p.run chatHandler w.silent) (p.run chatHandler v.silent))
    (is : operation.execute ilike amb actor = f <$> p) :
    AnswersAlike viewer actor (w.perform ilike amb actor operation)
      (v.perform ilike amb actor operation) := by
  have quiet : (p.run chatHandler v.silent).2.users.published = [] := by
    rw [ends.world.users, ends.quiet]
  have keeps : ∀ (w : ChatWorld) events, (w.announce events).users = w.users := by
    intro w events
    obtain ⟨sent,sends⟩ := announce_sends events w
    rw [sends]
  rw [perform_eq is rfl ends.quiet, perform_eq is rfl quiet]
  refine ⟨fun own => congrArg (Except.map f) (ends.result own),⟨?_,?_⟩,ends.heard⟩
  · rw [keeps, keeps]
    exact ends.world.users
  · rw [announce_chat, announce_chat]
    exact ends.world.chat

theorem answersAlike_userModule (alike : w.SameFor viewer v) {p : UserProgram Bool}
    {f : Bool → ChatResponse} (is : operation.execute ilike amb actor = f <$> askUserModule p) :
    AnswersAlike viewer actor (w.perform ilike amb actor operation)
      (v.perform ilike amb actor operation) := by
  obtain ⟨sent,performed,_⟩ := perform_userModule is w.silent.users
  rw [performed w rfl, performed v alike.silent.users]
  exact ⟨fun _ => rfl,⟨rfl,alike.chat⟩,rfl⟩

/-- One operation of anybody. -/
theorem answersAlike_perform (alike : w.SameFor viewer v) (confined : w.chat.Confined)
    (unused : ChatDatabase.Unused amb w.chat) :
    AnswersAlike viewer actor (w.perform ilike amb actor operation)
      (v.perform ilike amb actor operation) := by
  cases operation with
  | createConversation data =>
    exact (indistinct_createDirectConversation alike confined unused data).performed rfl
  | sendMessage data =>
    exact (indistinct_createMessage alike confined (unused.messages 0) data).performed rfl
  | editMessage data => exact (indistinct_editMessage alike confined data).performed rfl
  | deleteMessage data => exact (indistinct_deleteMessage alike confined data).performed rfl
  | markMessageSeen data => exact (indistinct_markMessageAsSeen alike confined data).performed rfl
  | listConversations data =>
    have stays : ∀ u : ChatWorld,
        ((ChatWsGateway.getUserConversationList ilike data actor).run chatHandler u).2 = u := by
      intro u
      cases is : (ChatWsGateway.getUserConversationList ilike data actor).run chatHandler u
      exact (run_listConversations is).1
    have ends : Indistinct viewer actor
        ((ChatWsGateway.getUserConversationList ilike data actor).run chatHandler w.silent)
        ((ChatWsGateway.getUserConversationList ilike data actor).run chatHandler v.silent) := by
      by_cases own : actor = viewer
      · rw [own]
        exact indistinct_agrees alike
          (agrees_getUserConversationList alike.silent confined ilike data)
      · exact indistinct_inert alike own stays
    exact ends.performed rfl
  | listMessages data =>
    have stays : ∀ u : ChatWorld,
        ((ChatWsGateway.getConversationMessageList amb data actor).run chatHandler u).2 = u := by
      intro u
      cases is : (ChatWsGateway.getConversationMessageList amb data actor).run chatHandler u
      exact (run_listMessages is).1
    have ends : Indistinct viewer actor
        ((ChatWsGateway.getConversationMessageList amb data actor).run chatHandler w.silent)
        ((ChatWsGateway.getConversationMessageList amb data actor).run chatHandler v.silent) := by
      by_cases own : actor = viewer
      · rw [own]
        exact indistinct_agrees alike
          (agrees_getConversationMessageList alike.silent confined amb data)
      · exact indistinct_inert alike own stays
    exact ends.performed rfl
  | block targetUserId => exact answersAlike_userModule alike rfl
  | unblock targetUserId => exact answersAlike_userModule alike rfl

/-- One step of a session. -/
theorem shown_alike (alike : w.SameFor viewer v) (confined : w.chat.Confined) {turn : Turn}
    (allowed : turn.Allowed w) :
    turn.shown ilike viewer v = turn.shown ilike viewer w ∧
      (turn.run ilike w).SameFor viewer (turn.run ilike v) := by
  cases turn with
  | request amb authUserId operation =>
    have answers : AnswersAlike viewer authUserId (w.perform ilike amb authUserId operation)
        (v.perform ilike amb authUserId operation) := answersAlike_perform alike confined allowed
    refine ⟨?_,answers.world⟩
    unfold Turn.shown
    dsimp only
    rw [answers.heard]
    split
    · rename_i own
      rw [answers.result own]
    · rfl
  | elsewhere users => exact ⟨rfl,rfl,alike.chat⟩

theorem transcript_alike {turns : List Turn} (along : Turn.Along ilike Turn.Allowed turns w)
    (alike : w.SameFor viewer v) (confined : w.chat.Confined) :
    Turn.transcript ilike viewer turns v = Turn.transcript ilike viewer turns w := by
  induction turns generalizing w v with
  | nil => rfl
  | cons turn rest ih =>
    obtain ⟨allowed,later⟩ := along
    obtain ⟨shown,next⟩ := shown_alike alike confined allowed
    have rest' := ih later next (confined_turn confined allowed)
    unfold Turn.transcript
    rw [shown, rest']

/-- Whatever the stores say in conversations that the viewer is no member of, he gets the same
    responses, errors and events in every session. -/
theorem other_texts_unseen {turns : List Turn} (reached : w.Reachable ilike)
    (users : v.users = w.users) (others : w.chat.OtherTexts viewer v.chat)
    (along : Turn.Along ilike Turn.Allowed turns w) :
    Turn.transcript ilike viewer turns v = Turn.transcript ilike viewer turns w :=
  transcript_alike along ⟨users,others.sameFor⟩ (confined_reachable reached)

end Sessions

/-- Draws for any number of activities, none of them twice. -/
def pairedDraws (i : ℕ) : Ambient :=
  { now := 1000 * (i + 1), uuid := fun k => Nat.pair i k, salt := fun _ => 0, usernames := [] }

/-- User 1 has opened a conversation with user 2, user 3 is in none. -/
def greetedWorld : ChatWorld :=
  ((activityPool noMatch (fun _ => .request 1 (.createConversation ⟨2,[104, 105]⟩)) pairedDraws
    threeUsersWorld).run chatHandler (List.replicate 20 0)).state

/-- The same, but for what user 1 has written. -/
def otherGreeting : ChatWorld :=
  { greetedWorld with chat := { greetedWorld.chat with
      messages := greetedWorld.chat.messages.map fun m => { m with text := [98, 121, 101] } } }

/-- User 2 quotes the greeting, and user 3 asks for the conversation. -/
def curious : List Turn :=
  [.request (numberedDraws 2) 2 (.sendMessage ⟨0,[121, 111],some 16,none⟩),
    .request (numberedDraws 3) 3 (.listMessages ⟨0,none,none⟩)]

theorem other_texts_unseen_greeting :
    Turn.transcript noMatch 3 curious otherGreeting =
      Turn.transcript noMatch 3 curious greetedWorld := by
  have distinct : Distinct pairedDraws := fun _ _ _ _ same => Nat.pair_eq_pair.mp same
  have apart : ∀ m ∈ greetedWorld.chat.messages,
      greetedWorld.chat.isMember m.conversationId 3 = false := by decide
  have rows : List.Forall₂ (fun m m' => m' = { m with text := m'.text } ∧
      (greetedWorld.chat.isMember m.conversationId 3 = true → m'.text = m.text))
        greetedWorld.chat.messages otherGreeting.chat.messages := by
    refine List.forall₂_map_right_iff.mpr (List.forall₂_same.mpr fun m mem => ⟨rfl,?_⟩)
    intro reads
    rw [apart m mem] at reads
    cases reads
  have along : Turn.Along noMatch Turn.Allowed curious greetedWorld :=
    ⟨unused_numberedDraws (by decide) (by decide) (by decide),
      unused_numberedDraws (by decide) (by decide) (by decide),trivial⟩
  exact other_texts_unseen ⟨_,pairedDraws,threeUsersWorld,_,distinct,rfl,rfl⟩ rfl
    ⟨rfl,rfl,rfl,rows⟩ along

end Chatterbox
