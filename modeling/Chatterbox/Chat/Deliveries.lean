import Chatterbox.Chat.Operations

/-!
What the event handlers send. They look at the tables as they are after the operation,
change nothing, and send at most one event for each domain event.
-/
namespace Chatterbox
open Concurrency Tables

/-- The world after one broadcast; without rooms there is none. -/
def ChatWorld.send (w : ChatWorld) (rooms : List Uuid) (event : WsEvent) : ChatWorld :=
  if rooms = [] then w else { w with emitted := w.emitted ++ [⟨rooms,event⟩] }

/-- The rooms of the members of a live conversation who have not deleted the message. -/
def ChatDatabase.liveRooms (db : ChatDatabase) (conversationId : Uuid)
    (deletedForUserIds : List Uuid) : List Uuid :=
  match db.getConversation conversationId with
  | none => []
  | some rows => (rows.2.filter fun m => m.userId ∉ deletedForUserIds).map
      ConversationMember.userId

theorem mem_liveRooms {db : ChatDatabase} {conversationId viewer : Uuid}
    {deletedForUserIds : List Uuid} :
    viewer ∈ db.liveRooms conversationId deletedForUserIds ↔
      (db.getConversation conversationId).isSome ∧ db.isMember conversationId viewer = true ∧
        viewer ∉ deletedForUserIds := by
  have rows : ∀ rows, db.getConversation conversationId = some rows →
      rows.2 = db.membersOf conversationId := by
    intro rows is
    obtain ⟨_,_,rfl⟩ := Option.map_eq_some_iff.mp is
    rfl
  unfold ChatDatabase.liveRooms
  cases found : db.getConversation conversationId with
  | none => simp
  | some loaded =>
    simp only [List.mem_map, List.mem_filter, decide_eq_true_eq, Option.isSome_some, true_and,
      rows loaded found, ChatDatabase.isMember, List.any_eq_true]
    constructor
    · rintro ⟨cm,⟨mem,kept⟩,rfl⟩
      exact ⟨⟨cm,mem,rfl⟩,kept⟩
    · rintro ⟨⟨cm,mem,rfl⟩,kept⟩
      exact ⟨cm,⟨mem,kept⟩,rfl⟩

theorem run_broadcast (rooms : List Uuid) (event : WsEvent) (w : ChatWorld) :
    (broadcast rooms event).run chatHandler w = (.ok (), w.send rooms event) := rfl

section Handlers
variable {w : ChatWorld}

/-- The conversation of an event, as the handlers load it. -/
theorem run_eventConversation (id : Uuid) (f : Option ConversationEntity → ChatProgram Unit) :
    ((tryCatchThe Failure (ConversationPostgresRepository.getConversationById id)
      fun _ => pure none) >>= f).run chatHandler w =
      (f ((w.chat.getConversation id).map Conversation.toDomain)).run chatHandler w := by
  refine Program.run_bind_ok _ _ (Program.run_catch_ok _ _ ?_ _) f
  unfold ConversationPostgresRepository.getConversationById
  rw [run_read (fun _ => rfl)]
  rfl

theorem memberRooms_toDomain (rows : Conversation × List ConversationMember)
    (deletedForUserIds : List Uuid) :
    memberRooms (Conversation.toDomain rows) deletedForUserIds =
      (rows.2.filter fun m => m.userId ∉ deletedForUserIds).map ConversationMember.userId := by
  unfold memberRooms Conversation.toDomain
  rw [List.filter_map, List.map_map]
  rfl

theorem run_messageEdited (event : MessageEditedDomainEvent) (w : ChatWorld) :
    (MessageEditedWsEventHandler.handle event).run chatHandler w =
      (.ok (), w.send (w.chat.liveRooms event.conversationId event.deletedForUserIds)
        (.messageEdited { id := event.messageId, conversationId := event.conversationId,
                          content := event.text, editedAt := event.editedAt })) := by
  unfold MessageEditedWsEventHandler.handle ChatDatabase.liveRooms
  rw [run_eventConversation]
  cases w.chat.getConversation event.conversationId with
  | none => rfl
  | some rows =>
    dsimp only [Option.map_some]
    rw [run_broadcast, memberRooms_toDomain]

theorem run_messageDeleted (event : MessageDeletedDomainEvent) (w : ChatWorld) :
    (MessageDeletedWsEventHandler.handle event).run chatHandler w =
      (.ok (), w.send (match event.scope with
        | .me => [event.actorUserId]
        | .everyone => w.chat.liveRooms event.conversationId event.deletedForUserIds)
        (deletedEvent event)) := by
  unfold MessageDeletedWsEventHandler.handle ChatDatabase.liveRooms
  cases event.scope with
  | me => rfl
  | everyone =>
    dsimp only
    rw [run_eventConversation]
    cases w.chat.getConversation event.conversationId with
    | none => rfl
    | some rows =>
      dsimp only [Option.map_some]
      rw [run_broadcast, memberRooms_toDomain]

theorem inert_loadPreview (convEntity : ConversationEntity) (currentUser targetUser : ChatUser)
    (replyToMessageId : Uuid) :
    Inert (MessageCreatedWsEventHandler.loadPreview convEntity currentUser targetUser
      replyToMessageId) := by
  refine (inert_getMessageById _).bind fun parentMsg => ?_
  cases parentMsg with
  | none => trivial
  | some parentMsg => exact (inert_resolveParentUser _ _ _).bind fun _ => trivial

/-- The preview of a broadcast shows the quoted message as it is stored now. -/
theorem run_replyTo (convEntity : ConversationEntity) (currentUser targetUser : ChatUser)
    (event : MessageCreatedDomainEvent) (w : ChatWorld) :
    ∃ preview, (MessageCreatedWsEventHandler.replyTo convEntity currentUser targetUser event).run
        chatHandler w = (.ok preview, w) ∧
      ∀ p, preview = some p → ∃ q row, event.replyToMessageId = some q ∧
        w.chat.message q = some row ∧ p.id = q ∧
        ∀ text, p.content = some text → text = row.text ∧ row.deletedAt = none := by
  unfold MessageCreatedWsEventHandler.replyTo
  cases quotes : event.replyToMessageId with
  | none => exact ⟨none,rfl,nofun⟩
  | some q =>
    have looks := inert_run (inert_loadPreview convEntity currentUser targetUser q) w
    cases is : (MessageCreatedWsEventHandler.loadPreview convEntity currentUser targetUser q).run
        chatHandler w with
    | mk r v =>
      rw [is] at looks
      obtain rfl : w = v := looks.symm
      cases r with
      | error e => exact ⟨none,Program.run_catch_error _ _ is _,nofun⟩
      | ok preview =>
        refine ⟨preview,Program.run_catch_ok _ _ is _,?_⟩
        rintro p rfl
        unfold MessageCreatedWsEventHandler.loadPreview at is
        rw [run_loaded] at is
        cases found : w.chat.message q with
        | none =>
          rw [found] at is
          cases is
        | some row =>
          rw [found] at is
          dsimp only [Option.map_some] at is
          rw [run_inert_bind (inert_resolveParentUser _ _ _)] at is
          rcases orRefuse_inv is with ⟨_,e,_,failed⟩ | ⟨user,_,is⟩
          · cases failed
          · cases is
            have id : (w.chat.loaded row).message.id = row.id :=
              MessageEntity.loadDeletedForUserIds_id ..
            have gone : (w.chat.loaded row).message.deletedAt = row.deletedAt :=
              MessageEntity.loadDeletedForUserIds_deletedAt ..
            have texts : (w.chat.loaded row).message.text = row.text :=
              MessageEntity.loadDeletedForUserIds_text ..
            refine ⟨q,row,rfl,found,id.trans (lookup_mem found).2,fun text shown => ?_⟩
            dsimp only [replyPreview, MessageEntity.preview] at shown
            rw [gone, texts] at shown
            split_ifs at shown with dead
            exact ⟨(Option.some.inj shown).symm,by simpa using dead⟩

/-- The conversation is live, the sender of the event has a row in it next to somebody else's,
    and its members have accounts. -/
structure ChatWorld.Announces (w : ChatWorld) (event : MessageCreatedDomainEvent) : Prop where
  live : (w.chat.getConversation event.conversationId).isSome
  sender : ∃ cm ∈ w.chat.membersOf event.conversationId, cm.id = event.senderId
  others : ∀ cm ∈ w.chat.membersOf event.conversationId, cm.id = event.senderId →
    ∃ other ∈ w.chat.membersOf event.conversationId, other.userId ≠ cm.userId
  accounts : ∀ cm ∈ w.chat.membersOf event.conversationId, w.users.HasUser cm.userId

/-- The sender of an event and his view of the conversation. -/
theorem run_resolve (event : MessageCreatedDomainEvent) (w : ChatWorld) :
    (∃ e, (MessageCreatedWsEventHandler.resolve event).run chatHandler w = (.error e, w)) ∧
        ¬ w.Announces event ∨
      ∃ rows sender dto, w.chat.getConversation event.conversationId = some rows ∧
        sender ∈ w.chat.membersOf event.conversationId ∧ sender.id = event.senderId ∧
        w.chat.userConversation event.conversationId sender.userId = .ok dto ∧
        (MessageCreatedWsEventHandler.resolve event).run chatHandler w =
          (.ok (Conversation.toDomain rows, sender.userId, dto), w) := by
  unfold MessageCreatedWsEventHandler.resolve ConversationPostgresRepository.getConversationById
  simp only [Program.bind_assoc]
  rw [run_read (fun _ => rfl)]
  cases loaded : w.chat.getConversation event.conversationId with
  | none => exact Or.inl ⟨⟨_,rfl⟩,fun announces => by simpa [loaded] using announces.live⟩
  | some rows =>
    obtain ⟨c,known,rfl⟩ := Option.map_eq_some_iff.mp loaded
    have found : (Conversation.toDomain (c, w.chat.membersOf event.conversationId)).members.find?
        (fun m => m.id = event.senderId) =
      ((w.chat.membersOf event.conversationId).find? fun m => m.id = event.senderId).map
        ConversationMember.toDomain := List.find?_map ..
    simp only [Option.map_some, Program.pure_eq, Program.done_bind, found]
    cases is : (w.chat.membersOf event.conversationId).find? fun m => m.id = event.senderId with
    | none =>
      refine Or.inl ⟨⟨_,rfl⟩,fun announces => ?_⟩
      obtain ⟨cm,mem,id⟩ := announces.sender
      exact absurd (List.find?_eq_none.mp is cm mem) (by simp [id])
    | some sender =>
      have mem := List.mem_of_find?_eq_some is
      have id := List.find?_some is
      rw [decide_eq_true_eq] at id
      have member : w.chat.isMember event.conversationId sender.userId = true :=
        List.any_eq_true.mpr ⟨sender,mem,decide_eq_true rfl⟩
      obtain ⟨dto,view⟩ : ∃ dto,
          w.chat.userConversation event.conversationId sender.userId = .ok dto := by
        rw [ChatDatabase.userConversation, ChatDatabase.getUserConversation, if_pos member, known]
        exact ⟨_,rfl⟩
      refine Or.inr ⟨_,sender,dto,rfl,mem,id,view,?_⟩
      rw [Option.map_some, ConversationMember.toDomain, run_getUserConversation, view]
      rfl

/-- The broadcast of a new message, with all that it shows. -/
theorem run_created_payload (event : MessageCreatedDomainEvent) (w : ChatWorld) :
    ((MessageCreatedWsEventHandler.handle event).run chatHandler w = (.ok (), w) ∧
        ¬ w.Announces event) ∨
      ∃ sender ∈ w.chat.membersOf event.conversationId,
        ∃ target ∈ w.chat.membersOf event.conversationId, sender.id = event.senderId ∧
          target.userId ≠ sender.userId ∧ ∃ dto currentUser preview,
            w.chat.userConversation event.conversationId sender.userId = .ok dto ∧
            (MessageCreatedWsEventHandler.handle event).run chatHandler w =
              (.ok (), w.send ((if target.userId ∈ event.deletedForUserIds then []
                else [target.userId]) ++ [sender.userId]) (.messageSent
                  (MessageCreatedWsEventHandler.payload event currentUser dto preview))) ∧
            ∀ p, preview = some p → ∃ q row, event.replyToMessageId = some q ∧
              w.chat.message q = some row ∧ p.id = q ∧
              ∀ text, p.content = some text → text = row.text ∧ row.deletedAt = none := by
  unfold MessageCreatedWsEventHandler.handle
  rcases run_resolve event w with ⟨⟨e,failed⟩,silent⟩ |
    ⟨rows,sender,dto,loaded,seated,id,view,resolved⟩
  · refine Or.inl ⟨?_,silent⟩
    rw [Program.run_bind, Program.run_catch_error _ _ (Program.run_map_error _ _ failed _)]
    rfl
  rw [Program.run_bind, Program.run_catch_ok _ _ (Program.run_map_ok _ _ resolved _)]
  dsimp only
  obtain ⟨_,_,known⟩ := userConversation_ok view
  cases found : dto.members.find? (fun member => member.userId ≠ sender.userId) with
  | none =>
    refine Or.inl ⟨rfl,fun announces => ?_⟩
    obtain ⟨other,mem,apart⟩ := announces.others sender seated id
    obtain ⟨m,shown,user⟩ := userConversation_members view mem
    rw [← user] at apart
    exact absurd (List.find?_eq_none.mp found m shown) (by simpa using apart)
  | some targetMember =>
    have apart := List.find?_some found
    obtain ⟨target,seat,_,user⟩ := known targetMember (List.mem_of_find?_eq_some found)
    rw [decide_eq_true_eq, ← user] at apart
    dsimp only
    rw [Program.run_catch, ← user]
    unfold MessageCreatedWsEventHandler.announce
    rw [run_chatUser]
    cases current : w.users.chatUser sender.userId with
    | error e =>
      refine Or.inl ⟨rfl,fun announces => ?_⟩
      exact absurd (announces.accounts sender seated) (not_hasUser_of_chatUser current)
    | ok currentUser =>
      dsimp only [orRefuse]
      rw [run_chatUser]
      cases other : w.users.chatUser target.userId with
      | error e =>
        refine Or.inl ⟨rfl,fun announces => ?_⟩
        exact absurd (announces.accounts target seat) (not_hasUser_of_chatUser other)
      | ok targetUser =>
        dsimp only [orRefuse]
        obtain ⟨preview,looks,shown⟩ := run_replyTo (Conversation.toDomain rows) currentUser
          targetUser event w
        rw [Program.run_bind_ok _ _ looks, run_broadcast]
        refine Or.inr ⟨sender,seated,target,seat,id,apart,dto,currentUser,preview,view,?_,shown⟩
        rw [MessageCreatedWsEventHandler.rooms, chatUser_id current, chatUser_id other]

theorem run_messageCreated (event : MessageCreatedDomainEvent) (w : ChatWorld) :
    ((MessageCreatedWsEventHandler.handle event).run chatHandler w = (.ok (), w) ∧
        ¬ w.Announces event) ∨
      ∃ sender ∈ w.chat.membersOf event.conversationId,
        ∃ target ∈ w.chat.membersOf event.conversationId, sender.id = event.senderId ∧
          target.userId ≠ sender.userId ∧ ∃ data : UserMessageCreated,
            (MessageCreatedWsEventHandler.handle event).run chatHandler w =
              (.ok (), w.send ((if target.userId ∈ event.deletedForUserIds then []
                else [target.userId]) ++ [sender.userId]) (.messageSent data)) ∧
            data.id = event.messageId ∧ data.content = event.text ∧
            ∀ p, data.replyTo = some p → ∃ q row, event.replyToMessageId = some q ∧
              w.chat.message q = some row ∧ p.id = q ∧
              ∀ text, p.content = some text → text = row.text ∧ row.deletedAt = none := by
  rcases run_created_payload event w with silent |
    ⟨sender,seated,target,seat,id,apart,_,_,_,_,run,shown⟩
  · exact Or.inl silent
  · exact Or.inr ⟨sender,seated,target,seat,id,apart,_,run,rfl,rfl,shown⟩

/-- A handled event adds at most one broadcast and changes nothing else. -/
theorem run_handle (event : MessageEvent) (w : ChatWorld) :
    ∃ rooms sent, (event.handle.run chatHandler w).2 = w.send rooms sent := by
  cases event with
  | created event =>
    rcases run_messageCreated event w with ⟨silent,_⟩ | ⟨_,_,_,_,_,_,data,sends,_⟩
    · exact ⟨[],.messageSeen 0 0,congrArg Prod.snd silent⟩
    · exact ⟨_,_,congrArg Prod.snd sends⟩
  | edited event => exact ⟨_,_,congrArg Prod.snd (run_messageEdited event w)⟩
  | deleted event => exact ⟨_,_,congrArg Prod.snd (run_messageDeleted event w)⟩

end Handlers

end Chatterbox
