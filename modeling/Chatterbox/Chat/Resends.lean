import Chatterbox.Chat.Couples

/-!
A send repeated under its client key. The repetition is judged against the stored text of
the message, so it goes through as long as the message still has the text it was sent with;
nothing else that members do in between gets in its way.
-/
namespace Chatterbox
open Concurrency Tables

/-- What a repetition finds: both users have accounts and their member rows, the conversation
    is live, and the key leads to the message. -/
structure Standing (data : CreateMessageRequest) (k : JsString) (actor target memberId id : Uuid)
    (w : ChatWorld) : Prop where
  accounts : w.users.HasUser actor ∧ w.users.HasUser target
  conversation : ∃ c ∈ w.chat.conversations, c.id = data.conversationId ∧ c.deletedAt = none
  sender : (memberId, actor, data.conversationId, none) ∈
    w.chat.members.map ConversationMember.identity
  other : ∃ otherId, (otherId, target, data.conversationId, none) ∈
    w.chat.members.map ConversationMember.identity
  key : ∃ m, lookup Message.clientKey (data.conversationId, memberId, some (trim k))
    w.chat.messages = some m ∧ m.id = id

section Effects
variable {users : UserDatabase} {amb : Ambient} {actor : Uuid} {db db' : ChatDatabase}
  {operation : ChatOperation} {events : List MessageEvent}

/-- A conversation stays, and so do its member rows. -/
theorem conversation_effect (effect : Effect users amb actor db operation db' events)
    (unused : ChatDatabase.Unused amb db) {c : Conversation} (stored : c ∈ db.conversations) :
    c ∈ db'.conversations := by
  cases effect with
  | nothing => exact stored
  | opened => exact List.mem_append_left _ stored
  | rolledBack =>
    have other : c.id ≠ amb.uuid 0 :=
      fun same => unused.conversations 0 (List.mem_map.mpr ⟨c,stored,same⟩)
    exact mem_amend.mpr (Or.inr ⟨List.mem_append_left _ stored,by simp [other]⟩)
  | sent => exact stored
  | edited => exact stored
  | deleted => exact stored
  | marked => exact stored

theorem identity_effect (effect : Effect users amb actor db operation db' events)
    (unused : ChatDatabase.Unused amb db) (seated : db.Seated) {cm : ConversationMember}
    (stored : cm ∈ db.members) :
    cm.identity ∈ db'.members.map ConversationMember.identity := by
  have known : cm.identity ∈ db.members.map ConversationMember.identity :=
    List.mem_map_of_mem stored
  have opened : ∀ userId targetUserId, cm.identity ∈
      (db.withConversation amb userId targetUserId).members.map ConversationMember.identity :=
    fun _ _ => List.mem_map_of_mem (List.mem_append_left _ stored)
  cases effect with
  | nothing => exact known
  | opened =>
    rw [ChatDatabase.identity_withMessage]
    exact opened _ _
  | rolledBack =>
    have other := unused.absent seated 0 cm stored
    exact List.mem_map_of_mem (mem_amend.mpr (Or.inr ⟨List.mem_append_left _ stored,
      by simp [other]⟩))
  | sent =>
    rw [ChatDatabase.identity_withMessage]
    exact known
  | edited => exact known
  | deleted =>
    rw [ChatDatabase.identity_storeDeletion seated.members]
    exact known
  | marked =>
    rw [ChatDatabase.identity_withSeen]
    exact known

/-- A key leads to the same message for ever. -/
theorem clientKey_effect (effect : Effect users amb actor db operation db' events)
    {key : Uuid × Uuid × Option JsString} {m : Message}
    (found : lookup Message.clientKey key db.messages = some m) :
    ∃ m', lookup Message.clientKey key db'.messages = some m' ∧ m'.id = m.id := by
  have appended : ∀ row : Message, ∃ m',
      lookup Message.clientKey key (db.messages ++ [row]) = some m' ∧ m'.id = m.id := by
    intro row
    rw [lookup_append, found]
    exact ⟨m,rfl,rfl⟩
  cases effect with
  | nothing => exact ⟨m,found,rfl⟩
  | opened => exact appended _
  | rolledBack => exact ⟨m,found,rfl⟩
  | sent => exact appended _
  | @edited _ _ _ edited =>
    have frame : ∀ m : Message, (m.withText edited.1.text edited.1.editedAt
      edited.1.updatedAt).clientKey = m.clientKey := fun _ => rfl
    refine ⟨_,(lookup_amend frame _ key db.messages).trans (congrArg _ found),?_⟩
    dsimp only
    split <;> rfl
  | @deleted _ _ _ deleted =>
    have frame : ∀ m : Message, (deleted.1.deletion.mark m).clientKey = m.clientKey :=
      fun _ => rfl
    refine ⟨_,(lookup_amend frame _ key db.messages).trans (congrArg _ found),?_⟩
    dsimp only
    split <;> rfl
  | marked => exact ⟨m,found,rfl⟩

end Effects

/-- A send that adds a message has stored its own. -/
theorem created_effect {data : CreateMessageRequest}
    (effect : Effect users amb actor db (.sendMessage data) db' events) {m : Message}
    (created : db'.messages = db.messages ++ [m]) :
    ∃ target ∈ db.membersOf data.conversationId, target.userId ≠ actor ∧
      users.HasUser actor ∧ users.HasUser target.userId ∧
      ∃ shadow member message event, Inserts amb (data.command actor shadow) db member message
          event ∧ m = Message.fromDomain message ∧ db' = db.withMessage message := by
  cases effect with
  | nothing =>
    have longer := congrArg List.length created
    simp at longer
  | @sent _ target member message event other apart accounts unblocked sends =>
    have same : [Message.fromDomain message] = [m] := List.append_cancel_left created
    exact ⟨target,other,apart,accounts.1,accounts.2,_,member,message,event,sends,
      (List.singleton_inj.mp same).symm,rfl⟩

theorem standing_turn {ilike : JsString → JsString → Bool} {data : CreateMessageRequest}
    {k : JsString} {actor target memberId id : Uuid} {w : ChatWorld} {turn : Turn}
    (ok : w.chat.Sound ∧ Standing data k actor target memberId id w) (allowed : turn.Allowed w) :
    (turn.run ilike w).chat.Sound ∧
      Standing data k actor target memberId id (turn.run ilike w) := by
  refine ⟨sound_turn ok.1 allowed,?_⟩
  obtain ⟨accounts,⟨c,stored,is,live⟩,sender,⟨otherId,other⟩,m,found,its⟩ := ok.2
  cases turn with
  | request amb authUserId operation =>
    obtain ⟨effect,kept⟩ := effect_perform ilike authUserId operation
      ok.1.seated.conversations ok.1.seated.members allowed
    obtain ⟨cm,memcm,isSender⟩ := List.mem_map.mp sender
    obtain ⟨cm',memcm',isOther⟩ := List.mem_map.mp other
    obtain ⟨m',found',same⟩ := clientKey_effect effect found
    exact ⟨⟨kept _ accounts.1,kept _ accounts.2⟩,
      ⟨c,conversation_effect effect allowed stored,is,live⟩,
      isSender ▸ identity_effect effect allowed ok.1.seated memcm,
      ⟨otherId,isOther ▸ identity_effect effect allowed ok.1.seated memcm'⟩,
      m',found',same.trans its⟩
  | elsewhere users =>
    exact ⟨⟨allowed _ accounts.1,allowed _ accounts.2⟩,⟨c,stored,is,live⟩,sender,⟨otherId,other⟩,
      m,found,its⟩

section Repeat
variable {data : CreateMessageRequest} {k : JsString} {actor target memberId id : Uuid}
  {w : ChatWorld}

/-- The conversation is loaded for a live member. -/
theorem userConversation_live {db : ChatDatabase} {conversationId userId : Uuid} {c : Conversation}
    (stored : c ∈ db.conversations) (is : c.id = conversationId) (live : c.deletedAt = none)
    (member : db.isMember conversationId userId = true) :
    ∃ dto, db.userConversation conversationId userId = .ok dto := by
  have known : (lookup Conversation.id conversationId db.liveConversations).isSome :=
    lookup_isSome_iff.mpr ⟨c,List.mem_filter.mpr ⟨stored,by simp [live]⟩,is⟩
  obtain ⟨c',found⟩ := Option.isSome_iff_exists.mp known
  exact ⟨_,userConversation_known found member⟩

/-- The member row that a command of the user starts from. -/
theorem conversationMember_live {db : ChatDatabase} {conversationId userId memberId : Uuid}
    {c : Conversation} (seats : Keyed ConversationMember.seat db.members)
    (stored : c ∈ db.conversations) (is : c.id = conversationId) (live : c.deletedAt = none)
    (seat : (memberId, userId, conversationId, none) ∈
      db.members.map ConversationMember.identity) :
    ∃ member, db.conversationMember conversationId userId = .ok member ∧ member.id = memberId := by
  obtain ⟨cm,mem,identity⟩ := List.mem_map.mp seat
  simp only [ConversationMember.identity, Prod.mk.injEq] at identity
  obtain ⟨rfl,user,home,alive⟩ := identity
  have known : (lookup Conversation.id conversationId db.liveConversations).isSome :=
    lookup_isSome_iff.mpr ⟨c,List.mem_filter.mpr ⟨stored,by simp [live]⟩,is⟩
  obtain ⟨c',found⟩ := Option.isSome_iff_exists.mp known
  have joined : cm ∈ db.membersOf conversationId := ChatDatabase.membersOf_iff.mpr ⟨mem,alive,home⟩
  have first : ((db.membersOf conversationId).find? fun m => m.userId = userId).isSome :=
    List.find?_isSome.mpr ⟨cm,joined,decide_eq_true user⟩
  obtain ⟨member,is⟩ := Option.isSome_iff_exists.mp first
  refine ⟨member,?_,?_⟩
  · unfold ChatDatabase.conversationMember ChatDatabase.getConversation
    rw [found]
    dsimp only [Option.map_some]
    rw [is]
  · obtain ⟨memm,_,homem⟩ := ChatDatabase.membersOf_iff.mp (List.mem_of_find?_eq_some is)
    have userm := List.find?_some is
    rw [decide_eq_true_eq] at userm
    rw [keyed_unique seats memm mem (Prod.ext (homem.trans home.symm) (userm.trans user.symm))]

/-- The acknowledgement resolves the author of the quoted message among the two users. -/
theorem run_ackReply_ok {members : List ConversationMemberReadDto} {currentUser targetUser : ChatUser}
    (both : ∀ m ∈ members, m.userId = currentUser.id ∨ m.userId = targetUser.id)
    (m : LoadedMessage) (w : ChatWorld) :
    ∃ replyTo, (ChatWsGateway.ackReply members currentUser targetUser m).run chatHandler w =
      (.ok replyTo, w) := by
  unfold ChatWsGateway.ackReply
  split
  · rename_i parent _ _
    cases found : members.find? fun m => m.id = parent.senderId with
    | none => exact ⟨_,rfl⟩
    | some author =>
      have one := both author (List.mem_of_find?_eq_some found)
      simp only [Option.map_some, resolveParentUser]
      split_ifs with first second
      · exact ⟨_,rfl⟩
      · exact ⟨_,rfl⟩
      · exact absurd one (not_or.mpr ⟨first,second⟩)
  · exact ⟨_,rfl⟩

theorem chatUser_of_hasUser {users : UserDatabase} {userId : Uuid} (known : users.HasUser userId) :
    ∃ user, users.chatUser userId = .ok user := by
  cases is : users.chatUser userId with
  | ok user => exact ⟨user,rfl⟩
  | error e => exact absurd known (not_hasUser_of_chatUser is)

/-- The gateway loads the conversation with its two members, and picks the other one. -/
theorem Standing.partners (standing : Standing data k actor target memberId id w)
    (sound : w.chat.Sound) (apart : target ≠ actor) :
    ∃ dto targetMember, w.chat.userConversation data.conversationId actor = .ok dto ∧
      dto.members.find? (fun mem => mem.userId ≠ actor) = some targetMember ∧
      targetMember.userId = target ∧
      (∀ mem ∈ dto.members, mem.userId = actor ∨ mem.userId = target) ∧
      ∃ row ∈ w.chat.membersOf data.conversationId, row.userId = target := by
  obtain ⟨_,⟨c,stored,is,live⟩,sender,⟨otherId,other⟩,_⟩ := standing
  obtain ⟨member,seated,_⟩ := conversationMember_live sound.seated.seats stored is live sender
  obtain ⟨own,ownUser,_⟩ := conversationMember_ok seated
  have joined : w.chat.isMember data.conversationId actor = true := isMember_iff.mpr ⟨_,sender⟩
  obtain ⟨dto,loaded⟩ := userConversation_live stored is live joined
  obtain ⟨_,_,rows⟩ := userConversation_ok loaded
  obtain ⟨row,memrow,identity⟩ := List.mem_map.mp other
  simp only [ConversationMember.identity, Prod.mk.injEq] at identity
  obtain ⟨_,rowUser,rowHome,rowLive⟩ := identity
  have seat : row ∈ w.chat.membersOf data.conversationId :=
    ChatDatabase.membersOf_iff.mpr ⟨memrow,rowLive,rowHome⟩
  have couple : ∀ mem ∈ dto.members, mem.userId = actor ∨ mem.userId = target := by
    intro mem here
    obtain ⟨cm,seatm,_,user⟩ := rows mem here
    by_cases it : cm.userId = actor
    · exact Or.inl (user.symm.trans it)
    · refine Or.inr (user.symm.trans ?_)
      rw [← rowUser]
      exact sound.seated.other own seatm seat (ownUser.symm ▸ it) (by
        rw [rowUser, ownUser]
        exact apart)
  obtain ⟨targetRow,shown,targetUserId⟩ := userConversation_members loaded seat
  have first : (dto.members.find? fun mem => mem.userId ≠ actor).isSome := by
    refine List.find?_isSome.mpr ⟨targetRow,shown,?_⟩
    rw [decide_eq_true_eq, targetUserId, rowUser]
    exact apart
  obtain ⟨targetMember,picked⟩ := Option.isSome_iff_exists.mp first
  have notActor := List.find?_some picked
  rw [decide_eq_true_eq] at notActor
  have isTarget : targetMember.userId = target :=
    (couple targetMember (List.mem_of_find?_eq_some picked)).resolve_left notActor
  exact ⟨dto,targetMember,loaded,picked,isTarget,couple,row,seat,rowUser⟩

/-- A request to send that is not refused on its way comes down to the command. -/
theorem run_to_command {dto : ConversationReadDto} {targetMember : ConversationMemberReadDto}
    {currentUser targetUser : ChatUser} (amb : Ambient)
    (loaded : w.chat.userConversation data.conversationId actor = .ok dto)
    (picked : dto.members.find? (fun mem => mem.userId ≠ actor) = some targetMember)
    (current : w.users.chatUser actor = .ok currentUser)
    (known : w.users.chatUser targetMember.userId = .ok targetUser)
    (free : w.users.blocking actor targetMember.userId = false) :
    (ChatWsGateway.createMessage amb data actor).run chatHandler w =
      (CreateMessageHandler.execute amb (data.command actor
          (if w.users.blocking targetMember.userId actor then [targetMember.userId] else [])) >>=
        fun createMessage =>
          ChatWsGateway.ackReply dto.members currentUser targetUser createMessage >>= fun replyTo =>
            Program.done
              { id := createMessage.message.id, createdAt := createMessage.message.createdAt,
                seen := false, user := currentUser.named, content := createMessage.message.text,
                replyToMessageId := createMessage.message.replyToMessageId, replyTo,
                clientMessageId := createMessage.message.clientMessageId }).run chatHandler w := by
  obtain ⟨dtoId,_,_⟩ := userConversation_ok loaded
  unfold ChatWsGateway.createMessage
  rw [run_getUserConversation, loaded]
  dsimp only [orRefuse]
  rw [picked]
  dsimp only
  rw [run_chatUser, current]
  dsimp only [orRefuse]
  rw [run_chatUser, known]
  dsimp only [orRefuse]
  rw [run_blockStatus, free, dtoId, chatUser_id known]
  rfl

/-- The command compares the stored text. -/
theorem change_repetition (amb : Ambient) (shadow : List Uuid) {member : ConversationMember}
    (seated : w.chat.conversationMember data.conversationId actor = .ok member)
    (given : data.clientMessageId = some k) (present : k ≠ []) {m : Message}
    (found : lookup Message.clientKey (data.conversationId, member.id, some (trim k))
      w.chat.messages = some m) :
    CreateMessageHandler.change amb (data.command actor shadow) w.chat =
      if m.text ≠ data.text then .error (idempotencyConflictException none)
      else .ok ⟨w.chat.loaded m,w.chat,[]⟩ := by
  have existing : CreateMessageHandler.existing (data.command actor shadow) member w.chat =
      some m := by
    unfold CreateMessageHandler.existing CreateMessageRequest.command
    rw [given, Option.filter_some_pos (by simpa using present)]
    exact found
  have starts : w.chat.conversationMember (data.command actor shadow).conversationId
      (data.command actor shadow).senderId = .ok member := seated
  unfold CreateMessageHandler.change
  rw [starts]
  dsimp only [bind, Except.bind]
  rw [existing]
  rfl

/-- A repetition is answered with the stored message, unless that has another text now. -/
theorem perform_repetition (ilike : JsString → JsString → Bool) (amb : Ambient)
    (sound : w.chat.Sound) (standing : Standing data k actor target memberId id w)
    (apart : target ≠ actor) (given : data.clientMessageId = some k) (present : k ≠ [])
    (unblocked : ∀ cm ∈ w.chat.membersOf data.conversationId, cm.userId ≠ actor →
      w.users.blocking actor cm.userId = false)
    {m : Message} (found : lookup Message.clientKey (data.conversationId, memberId, some (trim k))
      w.chat.messages = some m) :
    ∃ r, w.perform ilike amb actor (.sendMessage data) = (r, w.silent) ∧
      ((m.text = data.text ∧ ∃ response, r = .ok (.message response) ∧ response.id = m.id) ∨
        (m.text ≠ data.text ∧ ∃ e, r = .error e)) := by
  obtain ⟨dto,targetMember,loaded,picked,rfl,couple,row,seat,rowUser⟩ :=
    standing.partners sound apart
  obtain ⟨accounts,⟨c,stored,is,live⟩,sender,_⟩ := standing
  obtain ⟨member,seated,rfl⟩ :=
    conversationMember_live sound.seated.seats stored is live sender
  obtain ⟨currentUser,current⟩ := chatUser_of_hasUser accounts.1
  obtain ⟨targetUser,known⟩ := chatUser_of_hasUser accounts.2
  have free : w.users.blocking actor targetMember.userId = false := by
    rw [← rowUser]
    exact unblocked row seat (by rw [rowUser]; exact apart)
  have changes : CreateMessageHandler.change amb (data.command actor
      (if w.silent.users.blocking targetMember.userId actor then [targetMember.userId] else []))
      w.silent.chat = _ := change_repetition amb _ seated given present found
  have runs := @run_to_command data actor w.silent dto targetMember currentUser targetUser amb
    loaded picked current known free
  rw [Program.run_bind, run_createMessage, changes] at runs
  by_cases same : m.text = data.text
  · rw [if_neg (not_not.mpr same)] at runs
    have both : ∀ mem ∈ dto.members, mem.userId = currentUser.id ∨ mem.userId = targetUser.id := by
      rw [chatUser_id current, chatUser_id known]
      exact couple
    obtain ⟨replyTo,acked⟩ := run_ackReply_ok both (w.chat.loaded m) w.silent
    have applied : w.silent.apply (.ok ⟨w.chat.loaded m,w.chat,[]⟩) =
        (.ok (w.chat.loaded m), w.silent) := rfl
    rw [applied] at runs
    dsimp only at runs
    rw [Program.run_bind_ok _ _ acked] at runs
    refine ⟨_,perform_eq rfl runs rfl,Or.inl ⟨same,_,rfl,?_⟩⟩
    exact MessageEntity.loadDeletedForUserIds_id ..
  · rw [if_pos same] at runs
    exact ⟨_,perform_eq rfl runs rfl,Or.inr ⟨same,_,rfl⟩⟩

/-- What a send leaves that has stored its message. -/
theorem standing_of_created {ilike : JsString → JsString → Bool} {amb : Ambient}
    (sound : w.chat.Sound) (unused : ChatDatabase.Unused amb w.chat)
    (given : data.clientMessageId = some k) {m : Message}
    (created : (w.perform ilike amb actor (.sendMessage data)).2.chat.messages =
      w.chat.messages ++ [m]) :
    k ≠ [] ∧ ∃ target memberId, target ≠ actor ∧ Standing data k actor target memberId m.id
      (w.perform ilike amb actor (.sendMessage data)).2 := by
  obtain ⟨effect,kept⟩ := effect_perform ilike actor (.sendMessage data)
    sound.seated.conversations sound.seated.members unused
  obtain ⟨target,other,apart,own,others,shadow,member,message,event,sends,rfl,after⟩ :=
    created_effect effect created
  obtain ⟨_,key,valid,is⟩ := MessageEntity.create_ok sends.built
  obtain ⟨trimmed,nonblank⟩ := MessageEntity.validateClientMessageId_ok valid
  have given' : (data.command actor shadow).clientMessageId = some k := given
  rw [given', Option.map_some] at trimmed
  have present : k ≠ [] := by
    rintro rfl
    exact nonblank (trim []) trimmed rfl
  have unknown := sends.unknown
  unfold CreateMessageHandler.existing at unknown
  rw [given', Option.filter_some_pos (by simpa using present), Option.bind_some] at unknown
  have clientKey : (Message.fromDomain message).clientKey =
      (data.conversationId, member.id, some (trim k)) := by
    rw [(Prod.mk.inj is).1, ← trimmed]
    rfl
  obtain ⟨seat,user,_⟩ := conversationMember_ok sends.seated
  obtain ⟨stored,live,home⟩ := ChatDatabase.membersOf_iff.mp seat
  obtain ⟨otherStored,otherLive,otherHome⟩ := ChatDatabase.membersOf_iff.mp other
  obtain ⟨c,memc,sameId,alive⟩ := sound.seated.homes member stored
  have identities : (w.chat.withMessage message).members.map ConversationMember.identity =
      w.chat.members.map ConversationMember.identity := ChatDatabase.identity_withMessage message
  refine ⟨present,target.userId,member.id,apart,⟨kept _ own,kept _ others⟩,?_,?_,?_,?_⟩
  · rw [after]
    exact ⟨c,memc,sameId.trans home,alive.mpr live⟩
  · rw [after, identities]
    refine List.mem_map.mpr ⟨member,stored,?_⟩
    rw [ConversationMember.identity, user, home, live]
    rfl
  · rw [after, identities]
    refine ⟨target.id,List.mem_map.mpr ⟨target,otherStored,?_⟩⟩
    rw [ConversationMember.identity, otherHome, otherLive]
  · rw [after]
    refine ⟨_,(lookup_append ..).trans ?_,rfl⟩
    rw [show lookup Message.clientKey (data.conversationId, member.id, some (trim k))
      w.chat.messages = none from unknown, if_pos clientKey, Option.none_or]

end Repeat

/-- The operation is answered with this message, adds nothing and announces nothing. -/
def Repeats (id : Uuid) (before : ChatWorld)
    (performed : Except Failure ChatResponse × ChatWorld) : Prop :=
  (∃ response, performed.1 = .ok (.message response) ∧ response.id = id) ∧
    performed.2.chat = before.chat ∧ performed.2.published = [] ∧ performed.2.emitted = []

/-- In every session: when a send with a client key has created a message, the same send again,
    by a user who does not block the other member, repeats it if and only if the stored text of
    the message is the text of the send. -/
theorem repeats_iff {ilike : JsString → JsString → Bool} {w : ChatWorld}
    (empty : w.chat = ⟨[],[],[],[]⟩) {earlier later : List Turn} {amb : Ambient} {actor : Uuid}
    {data : CreateMessageRequest} {k : JsString} (given : data.clientMessageId = some k)
    (along : Turn.Along ilike Turn.Allowed
      (earlier ++ .request amb actor (.sendMessage data) :: later) w) {m : Message}
    (created : (Turn.runAll ilike (earlier ++ [.request amb actor (.sendMessage data)])
      w).chat.messages = (Turn.runAll ilike earlier w).chat.messages ++ [m])
    {now : ChatWorld}
    (is : now = Turn.runAll ilike (earlier ++ .request amb actor (.sendMessage data) :: later) w)
    (unblocked : ∀ cm ∈ now.chat.membersOf data.conversationId, cm.userId ≠ actor →
      now.users.blocking actor cm.userId = false) (amb' : Ambient) :
    Repeats m.id now (now.perform ilike amb' actor (.sendMessage data)) ↔
      ∃ m', now.chat.message m.id = some m' ∧ m'.text = data.text := by
  obtain ⟨before,sends,after⟩ := Turn.along_append.mp along
  have sound := sound_session before empty
  rw [Turn.runAll_append] at created is
  obtain ⟨present,target,memberId,apart,standing⟩ :=
    standing_of_created sound sends given created
  have start : (Turn.run ilike _ _).chat.Sound := sound_turn sound sends
  obtain ⟨soundNow,standingNow⟩ := after.invariant
    (fun (v : ChatWorld) _ (ok : v.chat.Sound ∧ Standing data k actor target memberId m.id v) =>
      standing_turn ok) ⟨start,standing⟩
  have same : now = Turn.runAll ilike later ((Turn.request amb actor (.sendMessage data)).run ilike
      (Turn.runAll ilike earlier w)) := is
  rw [← same] at soundNow standingNow
  obtain ⟨row,found,its⟩ := standingNow.key
  have stored : now.chat.message m.id = some row :=
    (lookup_eq_some_iff soundNow.filed.messages).mpr ⟨(lookup_mem found).1,its⟩
  obtain ⟨r,performed,answer⟩ := perform_repetition ilike amb' soundNow
    standingNow apart given present unblocked found
  rw [performed, stored]
  constructor
  · rintro ⟨⟨response,done,_⟩,_⟩
    rcases answer with ⟨text,_⟩ | ⟨_,e,failed⟩
    · exact ⟨row,rfl,text⟩
    · cases done.symm.trans failed
  · rintro ⟨_,⟨⟩,text⟩
    rcases answer with ⟨_,response,done,id⟩ | ⟨differs,_⟩
    · exact ⟨⟨response,done,id.trans its⟩,rfl,rfl,rfl⟩
    · exact absurd text differs

/-- User 1 sends with a key. -/
def greeting : CreateMessageRequest := ⟨100,[104, 105],none,some [107]⟩

def greets : Turn := .request (numberedDraws 2) 1 (.sendMessage greeting)

/-- User 2 replies to the message. -/
def greetsBack : Turn :=
  .request (numberedDraws 3) 2 (.sendMessage ⟨100,[121, 111],some 200,none⟩)

theorem repeats_after_reply : Repeats 200
    (Turn.runAll noMatch [opening, greets, greetsBack] emptyWorld)
    ((Turn.runAll noMatch [opening, greets, greetsBack] emptyWorld).perform noMatch
      (numberedDraws 4) 1 (.sendMessage greeting)) := by
  have along : Turn.Along noMatch Turn.Allowed ([opening] ++ greets :: [greetsBack]) emptyWorld :=
    ⟨unused_numberedDraws (by decide) (by decide) (by decide),
      unused_numberedDraws (by decide) (by decide) (by decide),
      unused_numberedDraws (by decide) (by decide) (by decide),trivial⟩
  have created : (Turn.runAll noMatch ([opening] ++ [greets]) emptyWorld).chat.messages =
      (Turn.runAll noMatch [opening] emptyWorld).chat.messages ++
        [⟨200,[104, 105],.text,102,100,2000,2000,none,none,none,some [107]⟩] := by decide
  exact (repeats_iff rfl rfl along created rfl (by decide) _).mpr ⟨_,rfl,rfl⟩

/-- User 1 edits the message. -/
def rewords : Turn := .request (numberedDraws 3) 1 (.editMessage ⟨100,200,[121, 111]⟩)

/-- After the edit the same send is refused. -/
theorem repetition_refused :
    Turn.Along noMatch Turn.Allowed [opening, greets, rewords] emptyWorld ∧
    (Turn.runAll noMatch [opening, greets] emptyWorld).chat.messages =
      (Turn.runAll noMatch [opening] emptyWorld).chat.messages ++
        [⟨200,[104, 105],.text,102,100,2000,2000,none,none,none,some [107]⟩] ∧
    (∀ cm ∈ (Turn.runAll noMatch [opening, greets, rewords] emptyWorld).chat.membersOf 100,
      (Turn.runAll noMatch [opening, greets, rewords] emptyWorld).users.blocking 1 cm.userId =
        false) ∧
    ¬ Repeats 200 (Turn.runAll noMatch [opening, greets, rewords] emptyWorld)
      ((Turn.runAll noMatch [opening, greets, rewords] emptyWorld).perform noMatch
        (numberedDraws 4) 1 (.sendMessage greeting)) := by
  refine ⟨⟨unused_numberedDraws (by decide) (by decide) (by decide),
      unused_numberedDraws (by decide) (by decide) (by decide),
      unused_numberedDraws (by decide) (by decide) (by decide),trivial⟩,by decide,by decide,?_⟩
  rintro ⟨⟨response,done,_⟩,_⟩
  have refused : ((Turn.runAll noMatch [opening, greets, rewords] emptyWorld).perform noMatch
      (numberedDraws 4) 1 (.sendMessage greeting)).1 =
        .error (idempotencyConflictException none) := by rfl
  cases refused.symm.trans done

end Chatterbox
