import Chatterbox.Chat.BlockShield

/-!
Who is shown a message at all. Responses, broadcasts and the previews in them only show
messages of conversations in which the reader is a live member.
-/
namespace Chatterbox
open Concurrency Tables

/-- The message is stored, in a conversation of the reader, and a text that is not empty is its
    text. -/
def ChatDatabase.MayRead (db : ChatDatabase) (reader : Uuid) (shown : ShownText) : Prop :=
  ∃ m ∈ db.messages, m.id = shown.1 ∧ db.isMember m.conversationId reader = true ∧
    ∀ text, shown.2 = some text → text ≠ [] → text = m.text

/-- What reaches a viewer in an operation are messages that he may read after it. -/
def ShownReadable (viewer authUserId : Uuid)
    (performed : Except Failure ChatResponse × ChatWorld) : Prop :=
  ∀ shown ∈ shownTo viewer authUserId ChatResponse.texts WsEvent.texts performed,
    performed.2.chat.MayRead viewer shown

section Readers
variable {db db' : ChatDatabase} {reader viewer actor id : Uuid} {w : ChatWorld} {amb : Ambient}
  {shown : ShownText} {r : Except Failure ChatResponse}

/-- The members of its conversation may read a stored message. -/
theorem mayRead_stored {m : Message} (stored : m ∈ db.messages)
    (member : db.isMember m.conversationId reader = true) : db.MayRead reader (m.id, some m.text) :=
  ⟨m,stored,rfl,member,fun _ is _ => (Option.some.inj is).symm⟩

theorem mayRead_withMessage (message : MessageEntity) (may : db.MayRead reader shown) :
    (db.withMessage message).MayRead reader shown := by
  obtain ⟨m,stored,is,member,text⟩ := may
  refine ⟨m,List.mem_append_left _ stored,is,?_,text⟩
  rw [isMember_of_identity (ChatDatabase.identity_withMessage message)]
  exact member

/-- And so a new one. -/
theorem mayRead_new {message : MessageEntity}
    (member : db.isMember message.conversationId reader = true) :
    (db.withMessage message).MayRead reader (message.id, some message.text) := by
  have stored : Message.fromDomain message ∈ (db.withMessage message).messages :=
    List.mem_append_right _ (List.mem_singleton.mpr rfl)
  refine mayRead_stored stored ?_
  rw [isMember_of_identity (ChatDatabase.identity_withMessage message)]
  exact member

theorem isMember_conversationMember {conversationId : Uuid} {member : ConversationMember}
    (seated : db.conversationMember conversationId reader = .ok member) :
    db.isMember conversationId reader = true := by
  obtain ⟨seat,user,_⟩ := conversationMember_ok seated
  exact List.any_eq_true.mpr ⟨member,seat,decide_eq_true user⟩

/-- Both users of a new conversation are members of it. -/
theorem isMember_withConversation (db : ChatDatabase) (amb : Ambient) {userId targetUserId : Uuid}
    (one : reader = userId ∨ reader = targetUserId) :
    (db.withConversation amb userId targetUserId).isMember (amb.uuid 0) reader = true := by
  apply isMember_row.mpr
  by_cases same : reader = userId
  · exact ⟨⟨amb.uuid 2,userId,amb.uuid 0,none,none,amb.now,none⟩,
      List.mem_append_right _ List.mem_cons_self,rfl,rfl,same.symm⟩
  · obtain rfl := one.resolve_left same
    refine ⟨⟨amb.uuid 3,reader,amb.uuid 0,none,none,amb.now,none⟩,
      List.mem_append_right _ (List.mem_cons_of_mem _ ?_),rfl,rfl,rfl⟩
    rw [if_neg (Ne.symm same)]
    exact List.mem_singleton.mpr rfl

/-- The message that a stored message quotes is one of the same conversation. -/
theorem mayRead_parent (filed : db.Filed) {m row : Message} (stored : m ∈ db.messages)
    (replies : m.replyToMessageId = some id)
    (member : db.isMember m.conversationId reader = true) (found : db.message id = some row)
    {content : Option JsString} (quotes : ∀ text, content = some text → text = row.text) :
    db.MayRead reader (id, content) := by
  obtain ⟨parent,stored',is,home⟩ := filed.replies m stored id replies
  obtain ⟨memRow,same⟩ := lookup_mem found
  obtain rfl := keyed_unique filed.messages stored' memRow (is.trans same.symm)
  exact ⟨parent,stored',is,home ▸ member,fun text shows _ => quotes text shows⟩

/-- What a send shows of the message that it quotes. -/
theorem mayRead_quoted {command : CreateMessageCommand} {member : ConversationMember}
    {message : MessageEntity} {event : MessageCreatedDomainEvent} {row : Message}
    (sends : Inserts amb command db member message event)
    (replies : command.replyToMessageId = some id)
    (seat : db.isMember command.conversationId reader = true) (found : db.message id = some row)
    {content : Option JsString} (quotes : ∀ text, content = some text → text = row.text) :
    (db.withMessage message).MayRead reader (id, content) := by
  obtain ⟨_,quoted⟩ := sends.quotes
  obtain ⟨m,found',_,home,_⟩ := CreateMessageHandler.quoted_ok replies quoted
  obtain rfl := Option.some.inj (found'.symm.trans found)
  obtain ⟨stored,is⟩ := lookup_mem found
  exact mayRead_withMessage message ⟨m,stored,is,home ▸ seat,fun text shows _ => quotes text shows⟩

theorem preview_text {parent : MessageEntity} {text : JsString}
    (shows : parent.preview = some text) : text = parent.text := by
  unfold MessageEntity.preview at shows
  split_ifs at shows
  exact (Option.some.inj shows).symm

theorem readable_created {data : CreateConversationRequest} {opened : Change ConversationEntity}
    {c : Change LoadedMessage} {announced : List Broadcast} (sound : w.chat.Sound)
    (unused : ChatDatabase.Unused amb w.chat)
    (opens : CreateDirectConversationHandler.change amb ⟨actor,data.targetUserId⟩ w.chat =
      .ok opened)
    (sends : CreateMessageHandler.change (amb.skip 4) (data.firstMessage actor (amb.uuid 0))
      opened.chat = .ok c)
    (announces : ∀ b ∈ announced, (b.rooms = [data.targetUserId] ∨ b.rooms = [actor]) ∧
      ∃ shown, b.event = .conversationCreated shown ∧
        shown.lastMessage.id = c.result.message.id ∧
        shown.lastMessage.content = c.result.message.text)
    (responds : ∀ response, r = .ok response → ∃ data, response = .conversation data ∧
      response.tells c.result.message) :
    ShownReadable viewer actor (r, (w.changed c announced).announce c.events) := by
  obtain ⟨_,stores⟩ := CreateDirectConversationHandler.change_effect unused opens
  rw [stores] at sends
  rcases CreateMessageHandler.change_effect (keyed_withConversation unused sound.seated.members _ _)
      (unused.messages 4) sends with ⟨_,_,_,known,_⟩ | ⟨member,message,event,reply,inserts,_,rfl⟩
  · cases known
  have home : message.conversationId = amb.uuid 0 := inserts.fields.2.2.1
  have reads : viewer = actor ∨ viewer = data.targetUserId →
      ((w.chat.withConversation amb actor data.targetUserId).withMessage message).MayRead viewer
        (message.id, some message.text) := by
    intro one
    apply mayRead_new
    rw [home]
    exact isMember_withConversation _ _ one
  intro shown mem
  rw [announce_chat]
  change ChatDatabase.MayRead (ChatDatabase.withMessage _ message) _ _
  rcases mem_shownTo mem with ⟨response,rfl,rfl,own⟩ | ⟨b,emitted,room,sent⟩
  · obtain ⟨data,rfl,tells,content⟩ := responds response rfl
    rw [List.mem_singleton.mp own, tells.trans (sent_id ..), content.trans (sent_text ..)]
    exact reads (Or.inl rfl)
  · rcases broadcast_created (keyed_withConversation unused sound.seated.members _ _) inserts rfl
      emitted with old | ⟨data',is,sentId,sentText,reach,quotes⟩
    · obtain ⟨rooms,shown',is,lastId,lastText⟩ := announces b old
      rw [is] at sent
      rw [List.mem_singleton.mp sent, lastId.trans (sent_id ..), lastText.trans (sent_text ..)]
      rcases rooms with target | self
      · rw [target] at room
        exact reads (Or.inr (List.mem_singleton.mp room))
      · rw [self] at room
        exact reads (Or.inl (List.mem_singleton.mp room))
    · have one : viewer = actor ∨ viewer = data.targetUserId := by
        rcases reach viewer room with own | ⟨_,seat,_⟩
        · exact Or.inl own
        · exact isMember_new unused sound.seated seat
      rw [is] at sent
      rcases List.mem_cons.mp sent with rfl | quoted
      · rw [sentId, sentText]
        exact reads one
      · obtain ⟨p,is',_⟩ := List.mem_map.mp quoted
        obtain ⟨_,replies,_⟩ := quotes p (by simpa using is')
        cases replies

theorem readable_sent {data : CreateMessageRequest} {target : ConversationMember}
    {c : Change LoadedMessage} (sound : w.chat.Sound) (unused : ChatDatabase.Unused amb w.chat)
    (sends : CreateMessageHandler.change amb (data.command actor
      (if w.users.blocking target.userId actor then [target.userId] else [])) w.chat = .ok c)
    (responds : ∀ response, r = .ok response → ∃ data, response = .message data ∧
      response.tells c.result.message ∧
      ∀ p, data.replyTo = some p → ∃ parent, c.result.replyToMessage = some parent ∧
        p.shown = (parent.id, parent.preview)) :
    ShownReadable viewer actor (r, (w.changed c []).announce c.events) := by
  intro shown mem
  rw [announce_chat]
  rcases CreateMessageHandler.change_effect sound.seated.members (unused.messages 0) sends with
    ⟨member,m,seated,known,_,rfl⟩ | ⟨member,message,event,reply,inserts,quoted,rfl⟩
  · -- a repeated send: the stored message, and the one that it quotes
    rcases mem_shownTo mem with ⟨response,rfl,rfl,own⟩ | ⟨_,emitted,_⟩
    · obtain ⟨ack,rfl,tells,quotes⟩ := responds response rfl
      obtain ⟨stored,_,sender⟩ := CreateMessageHandler.existing_found known
      obtain ⟨seat,_⟩ := conversationMember_ok seated
      obtain ⟨cm,memcm,is,there⟩ := sound.filed.senders m stored
      have home : m.conversationId = data.conversationId := by
        rw [← there, keyed_unique sound.seated.members memcm
          (ChatDatabase.membersOf_iff.mp seat).1 (is.trans sender)]
        exact (ChatDatabase.membersOf_iff.mp seat).2.2
      have own' : w.chat.isMember m.conversationId actor = true :=
        home ▸ isMember_conversationMember seated
      rcases List.mem_cons.mp own with rfl | preview
      · rw [tells.1.trans (MessageEntity.loadDeletedForUserIds_id ..),
          tells.2.trans (MessageEntity.loadDeletedForUserIds_text ..)]
        exact mayRead_stored stored own'
      · obtain ⟨p,is,rfl⟩ := List.mem_map.mp preview
        obtain ⟨parent,given,shows⟩ := quotes p (by simpa using is)
        rw [shows]
        obtain ⟨row,joined,rfl⟩ := Option.map_eq_some_iff.mp given
        obtain ⟨q,replies,found⟩ := Option.bind_eq_some_iff.mp joined
        have id : row.id = q := (lookup_mem found).2
        change w.chat.MayRead _ (row.id, _)
        rw [id]
        exact mayRead_parent sound.filed stored replies own' found fun text => preview_text
    · cases emitted
  · have home : message.conversationId = data.conversationId := inserts.fields.2.2.1
    have seat : w.chat.isMember data.conversationId actor = true :=
      isMember_conversationMember inserts.seated
    change (w.chat.withMessage message).MayRead _ _
    rcases mem_shownTo mem with ⟨response,rfl,rfl,own⟩ | ⟨b,emitted,room,sent⟩
    · obtain ⟨ack,rfl,tells,quotes⟩ := responds response rfl
      rcases List.mem_cons.mp own with rfl | preview
      · rw [tells.1.trans (sent_id ..), tells.2.trans (sent_text ..)]
        exact mayRead_new (home ▸ seat)
      · obtain ⟨p,is,rfl⟩ := List.mem_map.mp preview
        obtain ⟨parent,given,shows⟩ := quotes p (by simpa using is)
        rw [shows]
        obtain ⟨loaded,is',rfl⟩ := Option.map_eq_some_iff.mp given
        cases replies : data.replyToMessageId with
        | none =>
          unfold CreateMessageHandler.quoted CreateMessageRequest.command at quoted
          rw [replies] at quoted
          cases quoted
          cases is'
        | some q =>
          obtain ⟨m,found,loads,_⟩ := CreateMessageHandler.quoted_ok replies quoted
          rw [loads] at is'
          obtain rfl := Option.some.inj is'
          have id : (w.chat.loaded m).message.id = q :=
            (MessageEntity.loadDeletedForUserIds_id ..).trans (lookup_mem found).2
          rw [id]
          refine mayRead_quoted inserts replies seat found fun text shows => ?_
          exact (preview_text shows).trans (MessageEntity.loadDeletedForUserIds_text ..)
    · rcases broadcast_created sound.seated.members inserts rfl emitted with old |
        ⟨sent',is,sentId,sentText,reach,quotes⟩
      · cases old
      have seat' : w.chat.isMember data.conversationId viewer = true := by
        rcases reach viewer room with rfl | ⟨_,seat',_⟩
        · exact seat
        · exact seat'
      rw [is] at sent
      rcases List.mem_cons.mp sent with rfl | preview
      · rw [sentId, sentText]
        exact mayRead_new (home ▸ seat')
      · obtain ⟨p,is',rfl⟩ := List.mem_map.mp preview
        obtain ⟨row,replies,found,shows⟩ := quotes p (by simpa using is')
        exact mayRead_quoted inserts replies seat' found fun text given => (shows text given).1

theorem readable_edited {data : EditMessageRequest} {c : Change LoadedMessage}
    {ack : EditMessageResponse}
    (edits : EditMessageHandler.change amb.now (data.command actor) w.chat = .ok c)
    (tells : (ChatResponse.edited ack).tells c.result.message) :
    ShownReadable viewer actor (.ok (.edited ack), (w.changed c []).announce c.events) := by
  obtain ⟨member,m,edited,seated,found,home,changes,chat,events,resultId,resultText⟩ :=
    EditMessageHandler.change_ok edits
  have id : edited.1.id = m.id := (edit_id changes).trans (MessageEntity.loadDeletedForUserIds_id ..)
  -- the row of the message, with its new text
  have own : c.chat.message m.id =
      some (m.withText edited.1.text edited.1.editedAt edited.1.updatedAt) := by
    rw [chat, message_updateMessage, id, (lookup_mem found).2, found, Option.map_some,
      if_pos (decide_eq_true (lookup_mem found).2)]
  have stays : ∀ {reader : Uuid}, w.chat.isMember m.conversationId reader = true →
      c.chat.MayRead reader (m.id, some edited.1.text) := by
    intro reader member
    refine mayRead_stored (lookup_mem own).1 ?_
    rw [chat]
    exact member
  intro shown mem
  rw [announce_chat]
  change c.chat.MayRead _ _
  rcases mem_shownTo mem with ⟨response,done,rfl,own⟩ | ⟨b,emitted,room,sent⟩
  · cases done
    rw [List.mem_singleton.mp own, tells.1.trans resultId, tells.2.trans resultText]
    exact stays (home ▸ isMember_conversationMember seated)
  · obtain ⟨_,_,⟨_,rfl⟩ | ⟨_,rfl⟩⟩ := edit_ok changes
    · rw [events] at emitted
      cases emitted
    · rw [events, ChatWorld.announce, List.foldl_cons, MessageEvent.handle,
        run_messageEdited] at emitted
      rcases mem_send emitted with old | rfl
      · cases old
      rw [List.mem_singleton.mp sent]
      obtain ⟨_,member',_⟩ := mem_liveRooms.mp room
      have same : (w.changed c []).chat.isMember m.conversationId viewer =
          w.chat.isMember m.conversationId viewer := by
        rw [ChatWorld.changed, chat]
        rfl
      have conversation : (w.chat.loaded m).message.conversationId = m.conversationId :=
        MessageEntity.loadDeletedForUserIds_conversationId ..
      dsimp only at member'
      rw [conversation, same] at member'
      have loadedId : (w.chat.loaded m).message.id = m.id := id
      change c.chat.MayRead _ ((w.chat.loaded m).message.id, some data.text)
      rw [loadedId]
      exact stays member'

theorem readable_listedConversations {page : PaginatedResult UserConversationListItem}
    (sound : w.chat.Sound)
    (shows : ∀ item ∈ page.data, ∀ last, item.lastMessage = some last →
      w.chat.ShowsLast actor last) :
    ShownReadable viewer actor (.ok (.conversations page), w.silent) := by
  intro shown mem
  rcases mem_shownTo mem with ⟨response,done,rfl,own⟩ | ⟨_,emitted,_⟩
  · cases done
    obtain ⟨item,memItem,last⟩ := List.mem_flatMap.mp own
    obtain ⟨lastMessage,is,rfl⟩ := List.mem_map.mp last
    obtain ⟨cm,stored,live,rfl,last,points,memLast,lastId,text⟩ :=
      shows item memItem lastMessage (by simpa using is)
    obtain ⟨_,m,memm,id,_,home,_,_⟩ := sound.pointing cm stored live _ points
    obtain rfl := keyed_unique sound.filed.messages memm memLast id
    refine ⟨m,memm,lastId,isMember_row.mpr ⟨_,stored,live,home.symm,rfl⟩,?_⟩
    rintro _ ⟨⟩
    exact text
  · cases emitted

theorem readable_listedMessages {conversationId : Uuid}
    {page : GetConversationMessageListResponse} (sound : w.chat.Sound)
    (member : w.chat.isMember conversationId actor = true)
    (shows : ∀ item ∈ page.list, w.chat.ShowsItem actor conversationId item) :
    ShownReadable viewer actor (.ok (.messages page), w.silent) := by
  intro shown mem
  rcases mem_shownTo mem with ⟨response,done,rfl,own⟩ | ⟨_,emitted,_⟩
  · cases done
    obtain ⟨item,memItem,texts⟩ := List.mem_flatMap.mp own
    obtain ⟨m,stored,id,home,_,text,quotes⟩ := shows item memItem
    have seat : w.chat.isMember m.conversationId actor = true := home ▸ member
    rcases List.mem_cons.mp texts with rfl | preview
    · exact ⟨m,stored,id,seat,fun shown given _ => text shown given⟩
    · obtain ⟨p,is,rfl⟩ := List.mem_map.mp preview
      obtain ⟨replies,q,found,given⟩ := quotes p (by simpa using is)
      exact mayRead_parent sound.filed stored replies seat found
        fun text shown => (given text shown).1
  · cases emitted

/-- What an operation shows anybody are messages of his conversations. -/
theorem readable_perform {ilike : JsString → JsString → Bool} {operation : ChatOperation}
    (sound : w.chat.Sound) (unused : ChatDatabase.Unused amb w.chat) :
    ShownReadable viewer actor (w.perform ilike amb actor operation) := by
  have outcome := outcome_perform ilike amb actor w operation
  cases is : w.perform ilike amb actor operation with
  | mk r v =>
    rw [is] at outcome
    have silent : ∀ {e : Failure} {u : ChatWorld}, u.emitted = [] →
        ShownReadable viewer actor (.error e, u) := by
      intro e u quiet shown mem
      rcases mem_shownTo mem with ⟨_,done,_⟩ | ⟨_,emitted,_⟩
      · cases done
      · rw [quiet] at emitted
        cases emitted
    cases outcome with
    | refused => exact silent rfl
    | rolledBack => exact silent rfl
    | created accounts unblocked opens sends announces responds =>
      exact readable_created sound unused opens sends announces responds
    | sent other apart accounts unblocked sends responds =>
      exact readable_sent sound unused sends responds
    | edited edits tells => exact readable_edited edits tells
    | @deleted data _ c deletes =>
      obtain ⟨_,_,_,_,_,_,changes,_,published⟩ := DeleteMessageHandler.change_ok deletes
      intro shown mem
      rcases mem_shownTo mem with ⟨response,done,_,own⟩ | ⟨b,emitted,_,sent⟩
      · cases done
        cases own
      · rcases texts_announce (published ▸ delete_events changes) emitted with old | none
        · cases old
        · rw [none] at sent
          cases sent
    | @marked data _ c rooms marks responds =>
      obtain ⟨_,_,published,_⟩ := MarkConversationAsReadCommandHandler.change_ok
        sound.seated.conversations sound.seated.members marks
      intro shown mem
      rcases mem_shownTo mem with ⟨response,done,_,own⟩ | ⟨b,emitted,_,sent⟩
      · rw [responds response done] at own
        cases own
      · rw [published] at emitted
        change b ∈ (if rooms = [] then [] else [_]) at emitted
        split at emitted
        · cases emitted
        · rw [List.mem_singleton.mp emitted] at sent
          cases sent
    | listedConversations shows => exact readable_listedConversations sound shows
    | listedMessages member shows => exact readable_listedMessages sound member shows
    | blocked kept responds plain =>
      intro shown mem
      rcases mem_shownTo mem with ⟨response,done,_,own⟩ | ⟨b,emitted,_,sent⟩
      · rw [responds response done] at own
        cases own
      · rw [plain b emitted] at sent
        cases sent

end Readers

def Turn.ShowsReadable (ilike : JsString → JsString → Bool) (w : ChatWorld) : Turn → Prop
  | .request amb authUserId operation =>
      ∀ viewer, ShownReadable viewer authUserId (w.perform ilike amb authUserId operation)
  | .elsewhere _ => True

/-- In every session, whoever asks for whatever, each text that reaches a user is the one that is
    then stored for the message, in a conversation of which he is a live member. -/
theorem shown_to_members {ilike : JsString → JsString → Bool} {w : ChatWorld} {turns : List Turn}
    (empty : w.chat = ⟨[],[],[],[]⟩) (along : Turn.Along ilike Turn.Allowed turns w) :
    Turn.Along ilike (Turn.ShowsReadable ilike) turns w := by
  refine along.derive (fun _ _ => sound_turn) (fun v turn sound allowed => ?_)
    (empty ▸ ChatDatabase.sound_empty)
  cases turn with
  | request amb authUserId operation => exact fun viewer => readable_perform sound allowed
  | elsewhere users => trivial

theorem shown_to_members_opening : Turn.Along noMatch (Turn.ShowsReadable noMatch)
    [opening, .request (numberedDraws 2) 2 (.sendMessage ⟨100,[121, 111],some 104,none⟩)]
    emptyWorld :=
  shown_to_members rfl ⟨unused_numberedDraws (by decide) (by decide) (by decide),
    unused_numberedDraws (by decide) (by decide) (by decide),trivial⟩

end Chatterbox
