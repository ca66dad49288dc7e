import Chatterbox.Chat.Integrity

/-!
Reply previews. The list of messages withholds a quoted message from a viewer who has
deleted it. The broadcast of a reply is one payload for both members and only looks whether
the quoted message is deleted for everyone; so does the acknowledgement of a repeated send,
which returns the stored reply without the checks of a new one.
-/
namespace Chatterbox
open Concurrency Tables

/-- The quoted message is shown to everybody, and this user has deleted it for himself. -/
def ChatDatabase.HiddenFrom (db : ChatDatabase) (userId messageId : Uuid) : Prop :=
  ∃ m, db.message messageId = some m ∧ m.deletedAt = none ∧ db.deletedFor userId messageId = true

/-- The send is stored as a new message. -/
def CreateMessageRequest.Stores (data : CreateMessageRequest) (db : ChatDatabase)
    (authUserId : Uuid) : Prop :=
  ∃ member, db.conversationMember data.conversationId authUserId = .ok member ∧
    CreateMessageHandler.existing (data.command authUserId []) member db = none ∧
    (∃ reply, CreateMessageHandler.quoted (data.command authUserId []) db = .ok reply) ∧
    ∃ key, MessageEntity.validateClientMessageId data.clientMessageId = .ok key

/-- A send that is not refused shows nobody a quoted message that he has deleted: not to another
    member who receives the reply, and not to a sender who repeats a stored reply. -/
def CreateMessageRequest.QuotesOpenly (data : CreateMessageRequest) (w : ChatWorld)
    (authUserId : Uuid) : Prop :=
  (∀ viewer, viewer ≠ authUserId → w.chat.isMember data.conversationId viewer = true →
    w.users.blocking authUserId viewer = false) →
  (data.Stores w.chat authUserId → ∀ viewer, viewer ≠ authUserId →
    w.chat.isMember data.conversationId viewer = true →
      w.users.blocking viewer authUserId = false →
        ∀ q, data.replyToMessageId = some q → ¬ w.chat.HiddenFrom viewer q) ∧
  ∀ member m, w.chat.conversationMember data.conversationId authUserId = .ok member →
    CreateMessageHandler.existing (data.command authUserId []) member w.chat = some m →
      m.text = data.text → ∀ q, m.replyToMessageId = some q → ¬ w.chat.HiddenFrom authUserId q

/-- The same for every operation; only sends quote. -/
def ChatOperation.QuotesOpenly (w : ChatWorld) (authUserId : Uuid) : ChatOperation → Prop
  | sendMessage data => data.QuotesOpenly w authUserId
  | _ => True

/-- The previews that reach a viewer in an operation have a text only if he sees the quoted
    message afterwards. -/
def PreviewsVisible (viewer authUserId : Uuid)
    (performed : Except Failure ChatResponse × ChatWorld) : Prop :=
  ∀ shown ∈ shownTo viewer authUserId ChatResponse.previews WsEvent.previews performed,
    shown.2 ≠ none → ∃ m, performed.2.chat.message shown.1 = some m ∧
      performed.2.chat.visibleTo viewer m = true

section Broadcasts
variable {w : ChatWorld}

/-- What reaches a viewer is in the response to his own operation or in an event for his
    room. -/
theorem mem_shownTo {viewer authUserId : Uuid} {fromResponse : ChatResponse → List ShownText}
    {fromEvent : WsEvent → List ShownText} {r : Except Failure ChatResponse} {shown : ShownText}
    (mem : shown ∈ shownTo viewer authUserId fromResponse fromEvent (r, w)) :
    (∃ response, r = .ok response ∧ authUserId = viewer ∧ shown ∈ fromResponse response) ∨
      ∃ b ∈ w.emitted, viewer ∈ b.rooms ∧ shown ∈ fromEvent b.event := by
  rcases List.mem_append.mp mem with own | sent
  · cases r with
    | error e => cases own
    | ok response =>
      dsimp only at own
      split_ifs at own with same
      · exact Or.inl ⟨response,rfl,same,own⟩
      · cases own
  · obtain ⟨b,memb,texts⟩ := List.mem_flatMap.mp sent
    obtain ⟨emitted,room⟩ := List.mem_filter.mp memb
    exact Or.inr ⟨b,emitted,of_decide_eq_true room,texts⟩

theorem previews_response {response : ChatResponse} {shown : ShownText}
    (mem : shown ∈ response.previews) : shown ∈ response.texts := by
  cases response with
  | message data => exact List.mem_cons_of_mem _ mem
  | messages data =>
    obtain ⟨item,memItem,quoted⟩ := List.mem_flatMap.mp mem
    exact List.mem_flatMap.mpr ⟨item,memItem,List.mem_cons_of_mem _ quoted⟩
  | _ => cases mem

theorem previews_event {event : WsEvent} {shown : ShownText} (mem : shown ∈ event.previews) :
    shown ∈ event.texts := by
  cases event with
  | messageSent data => exact List.mem_cons_of_mem _ mem
  | _ => cases mem

theorem mem_send {rooms : List Uuid} {event : WsEvent} {b : Broadcast}
    (mem : b ∈ (w.send rooms event).emitted) : b ∈ w.emitted ∨ b = ⟨rooms,event⟩ := by
  unfold ChatWorld.send at mem
  split at mem
  · exact Or.inl mem
  · exact (List.mem_append.mp mem).imp id List.mem_singleton.mp

/-- Only the broadcast of a reply shows a quoted message. -/
theorem previews_announce {events : List MessageEvent}
    (plain : ∀ event, .created event ∈ events → event.replyToMessageId = none) {b : Broadcast}
    (mem : b ∈ (w.announce events).emitted) : b ∈ w.emitted ∨ b.event.previews = [] := by
  induction events generalizing w with
  | nil => exact Or.inl mem
  | cons event rest ih =>
    have first : ∃ rooms sent, (event.handle.run chatHandler w).2 = w.send rooms sent ∧
        sent.previews = [] := by
      cases event with
      | created event =>
        rcases run_messageCreated event w with ⟨silent,_⟩ | ⟨_,_,_,_,_,_,sent,sends,_,_,shown⟩
        · exact ⟨[],.messageSeen 0 0,congrArg Prod.snd silent,rfl⟩
        · refine ⟨_,_,congrArg Prod.snd sends,?_⟩
          cases quotes : sent.replyTo with
          | none => simp [WsEvent.previews, quotes]
          | some p =>
            obtain ⟨q,_,replies,_⟩ := shown p quotes
            rw [plain event List.mem_cons_self] at replies
            cases replies
      | edited event => exact ⟨_,_,congrArg Prod.snd (run_messageEdited event w),rfl⟩
      | deleted event => exact ⟨_,_,congrArg Prod.snd (run_messageDeleted event w),rfl⟩
    obtain ⟨rooms,sent,is,quoteless⟩ := first
    rw [ChatWorld.announce, List.foldl_cons, is] at mem
    rcases ih (fun event mem => plain event (List.mem_cons_of_mem _ mem)) mem with old | new
    · rcases mem_send old with before | rfl
      · exact Or.inl before
      · exact Or.inr quoteless
    · exact Or.inr new

end Broadcasts

section Sends
variable {amb : Ambient} {w : ChatWorld} {authUserId : Uuid} {data : CreateMessageRequest}
  {target member : ConversationMember} {message : MessageEntity}
  {event : MessageCreatedDomainEvent} {c : Change LoadedMessage}

/-- The broadcast of a send reaches the sender, and another member unless the send hides the
    message from him; it carries the new message, and shows the quoted one unless that is
    deleted for everyone. -/
theorem broadcast_created {db : ChatDatabase} {command : CreateMessageCommand}
    (members : Keyed ConversationMember.id db.members)
    (sends : Inserts amb command db member message event)
    (chat : w.chat = db.withMessage message) {b : Broadcast}
    (mem : b ∈ (w.announce [.created event]).emitted) : b ∈ w.emitted ∨
    ∃ sent : UserMessageCreated, b.event = .messageSent sent ∧ sent.id = message.id ∧
      sent.content = message.text ∧
      (∀ viewer ∈ b.rooms, viewer = command.senderId ∨ (viewer ≠ command.senderId ∧
        db.isMember command.conversationId viewer = true ∧
        viewer ∉ command.deletedForUserIds)) ∧
      ∀ p, sent.replyTo = some p → ∃ row, command.replyToMessageId = some p.id ∧
        db.message p.id = some row ∧
        ∀ text, p.content = some text → text = row.text ∧ row.deletedAt = none := by
  obtain ⟨_,sender,home,_,shadow,_,reply,_,id',home',sender',text',shadow',reply'⟩ := sends.fields
  obtain ⟨seat,user,_⟩ := conversationMember_ok sends.seated
  have identity : w.chat.members.map ConversationMember.identity =
      db.members.map ConversationMember.identity := by
    rw [chat]
    exact ChatDatabase.identity_withMessage message
  rcases run_messageCreated event w with ⟨silent,_⟩ |
    ⟨s,memS,t,memT,sid,other',sent,sends',id,content,shown⟩
  · rw [ChatWorld.announce, List.foldl_cons, MessageEvent.handle, silent] at mem
    exact Or.inl mem
  rw [ChatWorld.announce, List.foldl_cons, MessageEvent.handle, sends'] at mem
  rcases mem_send mem with old | rfl
  · exact Or.inl old
  obtain ⟨oldS,seatS,idS,userS⟩ := ChatDatabase.membersOf_frame identity memS
  obtain ⟨oldT,seatT,_,userT⟩ := ChatDatabase.membersOf_frame identity memT
  rw [home', home] at seatS seatT
  have own : oldS = member := by
    refine keyed_unique members (ChatDatabase.membersOf_iff.mp seatS).1
      (ChatDatabase.membersOf_iff.mp seat).1 ?_
    rw [idS, sid, sender', sender]
  have actor : s.userId = command.senderId := by
    rw [← userS, own]
    exact user
  refine Or.inr ⟨sent,rfl,id.trans id',content.trans text',fun viewer room => ?_,fun p quotes => ?_⟩
  · rcases List.mem_append.mp room with first | second
    · split_ifs at first with hidden
      · cases first
      · rw [List.mem_singleton.mp first]
        rw [shadow', shadow] at hidden
        exact Or.inr ⟨actor ▸ other',List.any_eq_true.mpr ⟨oldT,seatT,decide_eq_true userT⟩,hidden⟩
    · exact Or.inl ((List.mem_singleton.mp second).trans actor)
  · obtain ⟨q,row,replies,found,is,live⟩ := shown p quotes
    rw [reply', reply] at replies
    obtain ⟨parent,stored,pid,_⟩ := ChatDatabase.Inserts.parent sends replies
    have before : (db.message q).isSome := lookup_isSome_iff.mpr ⟨parent,stored,pid⟩
    have known : db.message q = some row := by
      rw [← ChatDatabase.message_withMessage before, ← chat]
      exact found
    exact ⟨row,is ▸ replies,is ▸ known,live⟩

/-- The sender and the member whom he writes to are all the members. -/
theorem other_member (sound : w.chat.Sound)
    (seated : w.chat.conversationMember data.conversationId authUserId = .ok member)
    (other : target ∈ w.chat.membersOf data.conversationId) (apart : target.userId ≠ authUserId)
    {viewer : Uuid} (viewerApart : viewer ≠ authUserId)
    (seat : w.chat.isMember data.conversationId viewer = true) : target.userId = viewer := by
  obtain ⟨own,user,_⟩ := conversationMember_ok seated
  obtain ⟨row,memRow,is⟩ := List.any_eq_true.mp seat
  rw [decide_eq_true_eq] at is
  rw [← is]
  refine sound.seated.other own other memRow ?_ ?_
  · rwa [user]
  · rwa [user, is]

/-- A member from whom a send does not hide its message does not block the sender. -/
theorem unblocked_of_shown (sound : w.chat.Sound)
    (seated : w.chat.conversationMember data.conversationId authUserId = .ok member)
    (other : target ∈ w.chat.membersOf data.conversationId) (apart : target.userId ≠ authUserId)
    {viewer : Uuid} (viewerApart : viewer ≠ authUserId)
    (seat : w.chat.isMember data.conversationId viewer = true)
    (shown : viewer ∉ if w.users.blocking target.userId authUserId then [target.userId] else []) :
    w.users.blocking viewer authUserId = false := by
  have same := other_member sound seated other apart viewerApart seat
  by_contra blocking
  rw [Bool.not_eq_false] at blocking
  rw [same, if_pos blocking] at shown
  exact shown (List.mem_singleton.mpr rfl)

/-- What is neither deleted for everyone nor hidden from a user is visible to him. -/
theorem visible_of_open {db : ChatDatabase} {userId id : Uuid} {m : Message}
    (found : db.message id = some m) (live : m.deletedAt = none)
    (shown : ¬ db.HiddenFrom userId id) : db.visibleTo userId m = true := by
  have kept : db.deletedFor userId id = false := by
    by_contra hidden
    exact shown ⟨m,found,live,by simpa using hidden⟩
  rw [ChatDatabase.visibleTo, (lookup_mem found).2, kept, live]
  rfl

/-- A send keeps the previous messages visible. -/
theorem visible_withMessage {db : ChatDatabase} {userId id : Uuid} {m : Message}
    (found : db.message id = some m) (fresh : message.id ∉ db.messages.map Message.id)
    (visible : db.visibleTo userId m = true) :
    (db.withMessage message).message id = some m ∧
      (db.withMessage message).visibleTo userId m = true := by
  obtain ⟨stored,is⟩ := lookup_mem found
  refine ⟨(ChatDatabase.message_withMessage (by rw [found]; rfl)).trans found,?_⟩
  have other : m.id ≠ message.id :=
    fun same => fresh (same ▸ List.mem_map_of_mem stored)
  rw [ChatDatabase.visibleTo, ChatDatabase.deletedFor_withMessage other]
  exact visible

theorem admits_viewers (sound : w.chat.Sound)
    (seated : w.chat.conversationMember data.conversationId authUserId = .ok member)
    (other : target ∈ w.chat.membersOf data.conversationId) (apart : target.userId ≠ authUserId)
    (unblocked : w.users.blocking authUserId target.userId = false) (viewer : Uuid)
    (viewerApart : viewer ≠ authUserId)
    (seat : w.chat.isMember data.conversationId viewer = true) :
    w.users.blocking authUserId viewer = false :=
  other_member sound seated other apart viewerApart seat ▸ unblocked

/-- A send that is inserted is stored, whomever it is hidden from. -/
theorem Inserts.stores {shadow : List Uuid}
    (inserts : Inserts amb (data.command authUserId shadow) w.chat member message event) :
    data.Stores w.chat authUserId := by
  obtain ⟨_,key,valid,_⟩ := MessageEntity.create_ok inserts.built
  exact ⟨member,inserts.seated,inserts.unknown,inserts.quotes,key,valid⟩

/-- The acknowledgement of a send that quotes openly. -/
theorem ack_open (sound : w.chat.Sound) (unused : ChatDatabase.Unused amb w.chat)
    (other : target ∈ w.chat.membersOf data.conversationId) (apart : target.userId ≠ authUserId)
    (unblocked : w.users.blocking authUserId target.userId = false)
    {shadow : List Uuid} (openly : data.QuotesOpenly w authUserId)
    (sends : CreateMessageHandler.change amb (data.command authUserId shadow) w.chat = .ok c)
    {parent : MessageEntity} (quotes : c.result.replyToMessage = some parent)
    (content : parent.preview ≠ none) :
    ∃ m, c.chat.message parent.id = some m ∧ c.chat.visibleTo authUserId m = true := by
  have live : parent.deletedAt = none := by
    unfold MessageEntity.preview at content
    split_ifs at content with dead
    · exact absurd rfl content
    · simpa using dead
  rcases CreateMessageHandler.change_effect sound.seated.members (unused.messages 0) sends with
    ⟨member,m,seated,known,same,rfl⟩ | ⟨member,message,event,reply,inserts,quoted,rfl⟩
  · obtain ⟨row,found,rfl⟩ := Option.map_eq_some_iff.mp quotes
    obtain ⟨q,replies,found⟩ := Option.bind_eq_some_iff.mp found
    have id : row.id = q := (lookup_mem found).2
    have admits := openly (admits_viewers sound seated other apart unblocked)
    refine ⟨row,?_,visible_of_open found live (admits.2 member m seated known same q replies)⟩
    change w.chat.message row.id = some row
    rw [id, found]
  · obtain ⟨is,_⟩ := inserts.fields
    have fresh : message.id ∉ w.chat.messages.map Message.id := is ▸ unused.messages 0
    obtain ⟨loaded,is,rfl⟩ := Option.map_eq_some_iff.mp quotes
    cases replies : data.replyToMessageId with
    | none =>
      unfold CreateMessageHandler.quoted CreateMessageRequest.command at quoted
      rw [replies] at quoted
      cases quoted
      cases is
    | some q =>
      obtain ⟨m,found,given,_,alive,kept⟩ := CreateMessageHandler.quoted_ok replies quoted
      rw [given] at is
      obtain rfl := Option.some.inj is
      have id : (w.chat.loaded m).message.id = q :=
        (MessageEntity.loadDeletedForUserIds_id ..).trans (lookup_mem found).2
      rw [id]
      refine ⟨m,visible_withMessage found fresh (visible_of_open found alive ?_)⟩
      rintro ⟨_,_,_,hidden⟩
      exact kept (of_decide_eq_true hidden)

end Sends

/-- The previews in the answer to a request are open to the one who has made it. -/
theorem response_open {ilike : JsString → JsString → Bool} {amb : Ambient} {w v : ChatWorld}
    {viewer : Uuid} {operation : ChatOperation} {response : ChatResponse} {shown : ShownText}
    (sound : w.chat.Sound) (unused : ChatDatabase.Unused amb w.chat)
    (openly : operation.QuotesOpenly w viewer)
    (outcome : Outcome ilike amb viewer w operation (.ok response, v))
    (own : shown ∈ response.previews) (content : shown.2 ≠ none) :
    ∃ m, v.chat.message shown.1 = some m ∧ v.chat.visibleTo viewer m = true := by
  cases outcome with
  | created _ _ _ _ _ responds =>
    obtain ⟨data,rfl,_⟩ := responds response rfl
    cases own
  | edited => cases own
  | deleted => cases own
  | marked _ responds =>
    rw [responds response rfl] at own
    cases own
  | listedConversations => cases own
  | blocked _ responds =>
    have texts := previews_response own
    rw [responds response rfl] at texts
    cases texts
  | listedMessages member shows =>
    obtain ⟨item,memItem,quoted⟩ := List.mem_flatMap.mp own
    obtain ⟨p,is,rfl⟩ := List.mem_map.mp quoted
    obtain ⟨_,_,_,_,_,_,quotes⟩ := shows item memItem
    obtain ⟨_,q,found,visible⟩ := quotes p (by simpa using is)
    obtain ⟨text,given⟩ := Option.ne_none_iff_exists'.mp content
    exact ⟨q,found,(visible text given).2⟩
  | @sent data _ target c other apart accounts unblocked sends responds =>
    rw [announce_chat]
    obtain ⟨ack,rfl,_,quotes⟩ := responds response rfl
    obtain ⟨p,is,rfl⟩ := List.mem_map.mp own
    obtain ⟨parent,quoted,same⟩ := quotes p (by simpa using is)
    rw [same] at content ⊢
    exact ack_open sound unused other apart unblocked openly sends quoted content

/-- Events of which none quotes anything bring no previews. -/
theorem no_previews {w : ChatWorld} {events : List MessageEvent} {b : Broadcast}
    {shown : ShownText} (plain : ∀ event, .created event ∈ events → event.replyToMessageId = none)
    (before : ∀ b ∈ w.emitted, b.event.previews = [])
    (emitted : b ∈ (w.announce events).emitted) (sent : shown ∈ b.event.previews) : False := by
  rcases previews_announce plain emitted with old | none
  · rw [before b old] at sent
    cases sent
  · rw [none] at sent
    cases sent

/-- The previews that are broadcast are open to everybody in the room. -/
theorem broadcast_open {ilike : JsString → JsString → Bool} {amb : Ambient} {w v : ChatWorld}
    {authUserId viewer : Uuid} {operation : ChatOperation} {r : Except Failure ChatResponse}
    {shown : ShownText} {b : Broadcast} (sound : w.chat.Sound)
    (unused : ChatDatabase.Unused amb w.chat) (openly : operation.QuotesOpenly w authUserId)
    (outcome : Outcome ilike amb authUserId w operation (r, v)) (emitted : b ∈ v.emitted)
    (room : viewer ∈ b.rooms) (sent : shown ∈ b.event.previews) (content : shown.2 ≠ none) :
    ∃ m, v.chat.message shown.1 = some m ∧ v.chat.visibleTo viewer m = true := by
  cases outcome with
  | refused => cases emitted
  | rolledBack => cases emitted
  | listedConversations => cases emitted
  | listedMessages => cases emitted
  | @created data _ opened c announced accounts unblocked opens sends announces =>
    exfalso
    obtain ⟨_,stores⟩ := CreateDirectConversationHandler.change_effect unused opens
    rw [stores] at sends
    apply no_previews ?_ ?_ emitted sent
    · intro event mem
      rcases CreateMessageHandler.change_effect (keyed_withConversation unused
          sound.seated.members _ _) (unused.messages 4) sends with
        ⟨_,_,_,known,_⟩ | ⟨_,_,_,_,inserts,_,rfl⟩
      · cases known
      · obtain ⟨_,_,_,_,_,_,reply,_,_,_,_,_,_,reply'⟩ := inserts.fields
        cases List.mem_singleton.mp mem
        exact reply'.trans reply
    · intro b old
      obtain ⟨_,_,is,_⟩ := announces b old
      rw [is]
      rfl
  | @edited data _ c edits =>
    exfalso
    obtain ⟨_,_,_,_,_,_,changes,_,published,_⟩ := EditMessageHandler.change_ok edits
    apply no_previews ?_ ?_ emitted sent
    · intro event mem
      rw [published] at mem
      obtain ⟨_,is⟩ := edit_events changes _ mem
      cases is
    · intro b old
      cases old
  | @deleted data _ c deletes =>
    exfalso
    obtain ⟨_,_,_,_,_,_,changes,_,published⟩ := DeleteMessageHandler.change_ok deletes
    apply no_previews ?_ ?_ emitted sent
    · intro event mem
      rw [published] at mem
      obtain ⟨_,is⟩ := delete_events changes _ mem
      cases is
    · intro b old
      cases old
  | @marked data _ c rooms marks =>
    obtain ⟨_,_,published,_⟩ := MarkConversationAsReadCommandHandler.change_ok
      sound.seated.conversations sound.seated.members marks
    rw [published] at emitted
    change b ∈ (if rooms = [] then [] else [_]) at emitted
    split at emitted
    · cases emitted
    · rw [List.mem_singleton.mp emitted] at sent
      cases sent
  | blocked _ _ plain =>
    have texts := previews_event sent
    rw [plain b emitted] at texts
    cases texts
  | @sent data _ target c other apart accounts unblocked sends =>
    rcases CreateMessageHandler.change_effect sound.seated.members (unused.messages 0) sends with
      ⟨_,_,_,_,_,rfl⟩ | ⟨member,message,event,reply,inserts,_,rfl⟩
    · cases emitted
    · rcases broadcast_created sound.seated.members inserts rfl emitted with old |
        ⟨data',is,_,_,reach,quotes⟩
      · cases old
      rw [is] at sent
      obtain ⟨p,quoted,rfl⟩ := List.mem_map.mp sent
      obtain ⟨row,replies,found,live⟩ := quotes p (by simpa using quoted)
      rw [announce_chat]
      obtain ⟨id,_⟩ := inserts.fields
      obtain ⟨text,given⟩ := Option.ne_none_iff_exists'.mp content
      refine ⟨row,visible_withMessage found (id ▸ unused.messages 0)
        (visible_of_open found (live text given).2 ?_)⟩
      rcases reach viewer room with rfl | ⟨viewerApart,seat,shown⟩
      · rintro ⟨_,_,_,hidden⟩
        obtain ⟨_,_,_,_,_,kept⟩ := ChatDatabase.Inserts.parent inserts replies
        exact kept (of_decide_eq_true hidden)
      · have admits := openly (admits_viewers sound inserts.seated other apart unblocked)
        exact admits.1 inserts.stores viewer viewerApart seat (unblocked_of_shown sound
          inserts.seated other apart viewerApart seat shown) p.id replies

/-- One operation that quotes openly shows a viewer only the quoted messages that he sees. -/
theorem previews_of_sound {ilike : JsString → JsString → Bool} {amb : Ambient} {w : ChatWorld}
    {authUserId : Uuid} {operation : ChatOperation} (sound : w.chat.Sound)
    (unused : ChatDatabase.Unused amb w.chat) (openly : operation.QuotesOpenly w authUserId)
    (viewer : Uuid) :
    PreviewsVisible viewer authUserId (w.perform ilike amb authUserId operation) := by
  intro shown mem content
  have outcome := outcome_perform ilike amb authUserId w operation
  cases is : w.perform ilike amb authUserId operation with
  | mk r v =>
    rw [is] at outcome mem
    rcases mem_shownTo mem with ⟨response,rfl,rfl,own⟩ | ⟨b,emitted,room,sent⟩
    · exact response_open sound unused openly outcome own content
    · exact broadcast_open sound unused openly outcome emitted room sent content

/-- In every session, whatever operation comes next: when it quotes openly, a preview that
    reaches a viewer has a text only if he sees the quoted message. -/
theorem previews_visible {ilike : JsString → JsString → Bool} {w : ChatWorld} {turns : List Turn}
    (empty : w.chat = ⟨[],[],[],[]⟩) (along : Turn.Along ilike Turn.Allowed turns w)
    {amb : Ambient} (unused : ChatDatabase.Unused amb (Turn.runAll ilike turns w).chat)
    {authUserId : Uuid} {operation : ChatOperation}
    (openly : operation.QuotesOpenly (Turn.runAll ilike turns w) authUserId) (viewer : Uuid) :
    PreviewsVisible viewer authUserId
      ((Turn.runAll ilike turns w).perform ilike amb authUserId operation) :=
  previews_of_sound (sound_session along empty) unused openly viewer

/-- User 1 opens a conversation with user 2 and says hi. -/
def opening : Turn := .request (numberedDraws 1) 1 (.createConversation ⟨2,[104, 105]⟩)

def noMatch : JsString → JsString → Bool := fun _ _ => false

/-- User 2 replies to the greeting, and user 1 has the quoted text in his room. -/
theorem previews_visible_in_reply :
    PreviewsVisible 1 2 ((Turn.runAll noMatch [opening] emptyWorld).perform noMatch
      (numberedDraws 2) 2 (.sendMessage ⟨100,[121, 111],some 104,none⟩)) := by
  have kept : (Turn.runAll noMatch [opening] emptyWorld).chat.deletedMessages = [] := by decide
  have shown : ∀ viewer q,
      ¬ (Turn.runAll noMatch [opening] emptyWorld).chat.HiddenFrom viewer q := by
    rintro viewer q ⟨_,_,_,hidden⟩
    rw [ChatDatabase.deletedFor, kept] at hidden
    exact absurd (of_decide_eq_true hidden) List.not_mem_nil
  have along : Turn.Along noMatch Turn.Allowed [opening] emptyWorld :=
    ⟨unused_numberedDraws (by decide) (by decide) (by decide),trivial⟩
  have unused : ChatDatabase.Unused (numberedDraws 2)
      (Turn.runAll noMatch [opening] emptyWorld).chat :=
    unused_numberedDraws (by decide) (by decide) (by decide)
  have openly : (ChatOperation.sendMessage ⟨100,[121, 111],some 104,none⟩).QuotesOpenly
      (Turn.runAll noMatch [opening] emptyWorld) 2 :=
    fun _ => ⟨fun _ _ _ _ _ _ _ => shown _ _,fun _ _ _ _ _ _ _ => shown _ _⟩
  exact previews_visible rfl along unused openly 1

/-- User 2 deletes the greeting for himself; when user 1 then quotes it, the broadcast carries
    the text of the greeting to the room of user 2. -/
theorem preview_of_deleted_message :
    ¬ PreviewsVisible 2 1 ((Turn.runAll noMatch [opening,
        .request (numberedDraws 2) 2 (.deleteMessage ⟨100,104,.me⟩)] emptyWorld).perform noMatch
      (numberedDraws 3) 1 (.sendMessage ⟨100,[121, 111],some 104,none⟩)) := by
  intro visible
  obtain ⟨m,found,seen⟩ := visible (104, some [104, 105]) (by decide) (by decide)
  have hidden : ∀ m ∈ ((Turn.runAll noMatch [opening,
      .request (numberedDraws 2) 2 (.deleteMessage ⟨100,104,.me⟩)] emptyWorld).perform noMatch
      (numberedDraws 3) 1 (.sendMessage ⟨100,[121, 111],some 104,none⟩)).2.chat.message 104,
      ((Turn.runAll noMatch [opening,
        .request (numberedDraws 2) 2 (.deleteMessage ⟨100,104,.me⟩)] emptyWorld).perform noMatch
        (numberedDraws 3) 1 (.sendMessage ⟨100,[121, 111],some 104,none⟩)).2.chat.visibleTo 2 m =
          false := by
    decide
  rw [hidden m found] at seen
  cases seen

end Chatterbox
