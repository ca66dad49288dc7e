import Chatterbox.Chat.MessagePages
import Chatterbox.Chat.Privacy

/-!
What a client makes of the WebSocket events about messages, against what the message list has
for its user: new messages, edits, deletions for oneself and for everyone.
-/
namespace Chatterbox
open Concurrency Tables

/-- What a client holds of a message. -/
structure ShownMessage where
  id : Uuid
  conversationId : Uuid
  content : Option JsString
  createdAt : Time
  editedAt : Option Time
  deletedAt : Option Time
  replyToMessageId : Option Uuid
  clientMessageId : Option JsString
  deriving DecidableEq, Repr

namespace ShownMessage

def edited (content : JsString) (editedAt : Time) (m : ShownMessage) : ShownMessage :=
  { m with content := some content, editedAt := some editedAt }

def gone (deletedAt : Option Time) (m : ShownMessage) : ShownMessage :=
  { m with content := none, deletedAt }

end ShownMessage

/-- A client puts new messages last, and changes those that it holds. -/
def WsEvent.follow (view : List ShownMessage) : WsEvent → List ShownMessage
  | .messageSent data => view ++ [⟨data.id,data.conversation.id,some data.content,data.createdAt,
      none,none,data.replyToMessageId,data.clientMessageId⟩]
  | .messageEdited data => amend (fun m => m.id = data.id)
      (ShownMessage.edited data.content data.editedAt) view
  | .messageDeleted data => match data.scope with
    | .me => view.filter fun m => m.id ≠ data.id
    | .everyone => amend (fun m => m.id = data.id) (ShownMessage.gone data.deletedAt) view
  | _ => view

/-- A message as the message list shows it. -/
def Message.shown (m : Message) : ShownMessage :=
  ⟨m.id,m.conversationId,if m.deletedAt.isSome then none else some m.text,m.createdAt,m.editedAt,
    m.deletedAt,m.replyToMessageId,m.clientMessageId⟩

def UserConversationMessageItem.shown (conversationId : Uuid) (item : UserConversationMessageItem) :
    ShownMessage :=
  ⟨item.id,conversationId,item.content,item.createdAt,item.editedAt,item.deletedAt,
    item.replyToMessageId,item.clientMessageId⟩

namespace ChatDatabase
variable (db : ChatDatabase) (viewer : Uuid)

/-- The message is one of a conversation of the viewer, and he has not deleted it. -/
def keeps (m : Message) : Bool :=
  db.isMember m.conversationId viewer && !db.deletedFor viewer m.id

/-- All that the message list has for a viewer, oldest first. -/
def view : List ShownMessage := (db.messages.filter (db.keeps viewer)).map Message.shown

variable {db viewer} {db' : ChatDatabase}

theorem view_same (messages : db'.messages = db.messages)
    (keeps : ∀ m ∈ db.messages, db'.keeps viewer m = db.keeps viewer m) :
    db'.view viewer = db.view viewer := by
  unfold view
  rw [messages, List.filter_congr keeps]

/-- An update of messages that no viewer gains or loses by. -/
theorem view_amend {p : Message → Bool} {change : Message → Message}
    (messages : db'.messages = amend p change db.messages)
    (frame : ∀ m, db'.keeps viewer (change m) = db'.keeps viewer m) :
    db'.view viewer = (db.messages.filter (db'.keeps viewer)).map fun m =>
      (if p m then change m else m).shown := by
  unfold view
  rw [messages, filter_amend_frame frame, amend, List.map_map]
  rfl

/-- What a client makes of an event about one message, from the rows behind its messages. -/
theorem amend_view (messages : Keyed Message.id db.messages) {row : Message}
    (stored : row ∈ db.messages) {change : ShownMessage → ShownMessage}
    {after : Message → Message} (is : (after row).shown = change row.shown) :
    amend (fun m => m.id = row.id) change (db.view viewer) =
      (db.messages.filter (db.keeps viewer)).map fun m =>
        (if decide (m.id = row.id) then after m else m).shown := by
  unfold view amend
  rw [List.map_map]
  refine List.map_congr_left fun m mem => ?_
  change (if decide (m.id = row.id) then change m.shown else m.shown) = _
  by_cases hit : m.id = row.id
  · have same : m = row := keyed_unique messages (List.mem_of_mem_filter mem) stored hit
    rw [if_pos (decide_eq_true hit), if_pos (decide_eq_true hit), same, is]
  · rw [if_neg (by simpa using hit), if_neg (by simpa using hit)]

/-- An event about a message that the viewer does not hold is lost on him. -/
theorem amend_missing (messages : Keyed Message.id db.messages) {row : Message}
    (stored : row ∈ db.messages) (missing : db.keeps viewer row = false)
    (change : ShownMessage → ShownMessage) :
    amend (fun m => m.id = row.id) change (db.view viewer) = db.view viewer := by
  apply amend_same
  intro m mem hit
  obtain ⟨r,kept,rfl⟩ := List.mem_map.mp mem
  obtain ⟨known,keeps⟩ := List.mem_filter.mp kept
  have same : r = row := keyed_unique messages known stored (of_decide_eq_true hit)
  rw [same, missing] at keeps
  cases keeps

theorem keeps_congr (members : db'.members.map ConversationMember.identity =
      db.members.map ConversationMember.identity) {m : Message}
    (deleted : db'.deletedFor viewer m.id = db.deletedFor viewer m.id) :
    db'.keeps viewer m = db.keeps viewer m := by
  unfold keeps
  rw [isMember_of_identity members, deleted]

/-- What a viewer keeps after a deletion. -/
theorem keeps_storeDeletion (members : Keyed ConversationMember.id db.members)
    (d : MessageDeletion) (m : Message) :
    (db.storeDeletion d (db.movedPointers d)).keeps viewer m =
      (db.keeps viewer m && !decide (m.id = d.messageId ∧ viewer ∈ d.deletedForUserIds)) := by
  have rows : (db.storeDeletion d (db.movedPointers d)).deletedFor viewer m.id =
      (db.deletedFor viewer m.id ||
        decide (m.id = d.messageId ∧ viewer ∈ d.deletedForUserIds)) := by
    rw [Bool.eq_iff_iff, Bool.or_eq_true, decide_eq_true_eq, deletedFor, deletedFor,
      decide_eq_true_eq, decide_eq_true_eq, Or.comm]
    exact mem_deletionRows
  unfold keeps
  rw [isMember_of_identity (identity_storeDeletion members d), rows, Bool.not_or, Bool.and_assoc]

theorem view_storeDeletion (members : Keyed ConversationMember.id db.members)
    (d : MessageDeletion) :
    (db.storeDeletion d (db.movedPointers d)).view viewer =
      (db.messages.filter fun m => db.keeps viewer m &&
          !decide (m.id = d.messageId ∧ viewer ∈ d.deletedForUserIds)).map fun m =>
        (if decide (m.id = d.messageId) then d.mark m else m).shown := by
  have frame : ∀ m : Message, (db.storeDeletion d (db.movedPointers d)).keeps viewer (d.mark m) =
      (db.storeDeletion d (db.movedPointers d)).keeps viewer m := fun _ => rfl
  rw [view_amend (Eq.refl (db.storeDeletion d (db.movedPointers d)).messages) frame]
  exact congrArg (List.map _) (List.filter_congr fun m _ => keeps_storeDeletion members d m)

theorem mem_liveRooms_frame {conversationId : Uuid} {hidden : List Uuid}
    (conversations : db'.conversations = db.conversations)
    (members : db'.members.map ConversationMember.identity =
      db.members.map ConversationMember.identity) :
    viewer ∈ db'.liveRooms conversationId hidden ↔ viewer ∈ db.liveRooms conversationId hidden := by
  rw [mem_liveRooms, mem_liveRooms, isMember_of_identity members, getConversation, getConversation,
    Option.isSome_map, Option.isSome_map, liveConversations, liveConversations, conversations]

/-- The rooms of an event about a message are those of the users who hold it. -/
theorem mem_liveRooms_keeps (sound : db.Sound) {m : Message} {hidden : List Uuid}
    (rows : viewer ∈ hidden ↔ ⟨viewer,m.id⟩ ∈ db.deletedMessages) :
    viewer ∈ db.liveRooms m.conversationId hidden ↔ db.keeps viewer m = true := by
  rw [mem_liveRooms, rows, keeps, Bool.and_eq_true, Bool.not_eq_true', deletedFor,
    decide_eq_false_iff_not]
  refine and_iff_right_of_imp fun held => ?_
  obtain ⟨c,known⟩ := (sound.seated.live held.1).1
  rw [getConversation, known]
  rfl

end ChatDatabase

section Events
variable {viewer : Uuid} {db db' : ChatDatabase}

theorem sentTo_send (w : ChatWorld) (rooms : List Uuid) (event : WsEvent) :
    (w.send rooms event).sentTo viewer =
      w.sentTo viewer ++ if viewer ∈ rooms then [event] else [] := by
  unfold ChatWorld.send ChatWorld.sentTo
  by_cases nobody : rooms = []
  · simp [nobody]
  · by_cases reached : viewer ∈ rooms <;> simp [nobody, reached]

/-- Events that tell nothing about messages. -/
theorem follow_quiet {events : List WsEvent} {view : List ShownMessage}
    (quiet : ∀ e ∈ events, WsEvent.follow view e = view) :
    events.foldl WsEvent.follow view = view := by
  induction events with
  | nil => rfl
  | cons e rest ih =>
    rw [List.foldl_cons, quiet e List.mem_cons_self]
    exact ih fun e' mem => quiet e' (List.mem_cons_of_mem _ mem)

/-- An update of a message, and its event to the users who hold the message. -/
theorem follow_amended (messages : Keyed Message.id db.messages) {row : Message}
    (stored : row ∈ db.messages) {change : ShownMessage → ShownMessage}
    (updated : db'.view viewer = amend (fun m => m.id = row.id) change (db.view viewer))
    {event : WsEvent} (follows : WsEvent.follow (db.view viewer) event =
      amend (fun m => m.id = row.id) change (db.view viewer))
    {rooms : List Uuid} (reached : viewer ∈ rooms ↔ db.keeps viewer row = true) :
    (if viewer ∈ rooms then [event] else []).foldl WsEvent.follow (db.view viewer) =
      db'.view viewer := by
  by_cases holds : db.keeps viewer row = true
  · rw [if_pos (reached.mpr holds), List.foldl_cons, List.foldl_nil, follows, updated]
  · rw [if_neg (mt reached.mp holds), List.foldl_nil, updated,
      ChatDatabase.amend_missing messages stored (by simpa using holds)]

variable {w : ChatWorld} {now : Time}

/-- An edit that is stored, and the client that hears of it. -/
theorem follow_edit (sound : db.Sound) {row : Message} (stored : row ∈ db.messages)
    {text : JsString} {memberId : Uuid} {edited : MessageEntity × List MessageEvent}
    (edits : (db.loaded row).message.edit now text memberId = .ok edited)
    (chat : w.chat = db.updateMessage edited.1.id edited.1.text edited.1.editedAt
      edited.1.updatedAt) (silent : w.emitted = []) :
    ((w.announce edited.2).sentTo viewer).foldl WsEvent.follow (db.view viewer) =
      w.chat.view viewer := by
  have id : (db.loaded row).message.id = row.id := MessageEntity.loadDeletedForUserIds_id ..
  have home : (db.loaded row).message.conversationId = row.conversationId :=
    MessageEntity.loadDeletedForUserIds_conversationId ..
  have nothing : w.sentTo viewer = [] := by rw [ChatWorld.sentTo, silent]; rfl
  obtain ⟨live,_,⟨_,rfl⟩ | ⟨_,rfl⟩⟩ := edit_ok edits
  · have same : w.chat = db := by
      rw [chat, loaded_eq]
      exact updateMessage_same sound.filed.messages stored
    rw [same]
    change (w.sentTo viewer).foldl _ _ = _
    rw [nothing]
    rfl
  · dsimp only at chat ⊢
    have live' : row.deletedAt = none := by
      rw [loaded_eq] at live
      exact live
    rw [announce_edited, sentTo_send, nothing, List.nil_append]
    dsimp only
    rw [id] at chat ⊢
    rw [home]
    have shown : (row.withText text (some now) now).shown = row.shown.edited text now := by
      simp [Message.shown, Message.withText, live', ShownMessage.edited]
    have frame : ∀ m : Message, w.chat.keeps viewer (m.withText text (some now) now) =
        w.chat.keeps viewer m := fun _ => rfl
    refine follow_amended sound.filed.messages stored ?_ rfl ?_
    · rw [chat] at frame ⊢
      exact (ChatDatabase.view_amend (Eq.refl (db.updateMessage row.id text (some now)
        now).messages) frame).trans
        (ChatDatabase.amend_view sound.filed.messages stored shown).symm
    · rw [chat]
      exact (ChatDatabase.mem_liveRooms_keeps sound mem_loaded : viewer ∈ db.liveRooms _ _ ↔ _)

/-- Who has deleted a message does not hold it. -/
theorem not_hidden_of_keeps {row m : Message} (held : db.keeps viewer m = true) :
    ¬ (m.id = row.id ∧ viewer ∈ (db.loaded row).message.deletedForUserIds) := by
  rw [ChatDatabase.keeps, Bool.and_eq_true, Bool.not_eq_true'] at held
  rintro ⟨same,before⟩
  rw [mem_loaded, ← same] at before
  exact of_decide_eq_false held.2 before

theorem view_marked (sound : db.Sound) {row : Message} {d : MessageDeletion}
    (its : d.messageId = row.id)
    (hides : d.deletedForUserIds = (db.loaded row).message.deletedForUserIds) :
    (db.storeDeletion d (db.movedPointers d)).view viewer =
      (db.messages.filter (db.keeps viewer)).map fun m =>
        (if decide (m.id = row.id) then d.mark m else m).shown := by
  rw [ChatDatabase.view_storeDeletion sound.seated.members, its, hides]
  refine congrArg (List.map _) (List.filter_congr fun m _ => ?_)
  cases held : db.keeps viewer m with
  | false => rfl
  | true =>
    rw [decide_eq_false (not_hidden_of_keeps held)]
    rfl

/-- A message that one user hides, and the event that only he gets. -/
theorem follow_hidden (sound : db.Sound) {row : Message} (stored : row ∈ db.messages)
    {d : MessageDeletion} {userId : Uuid} (its : d.messageId = row.id)
    (hides : d.deletedForUserIds = (db.loaded row).message.deletedForUserIds ++ [userId])
    (still : d.deletedAt = row.deletedAt) {event : MessageDeletedDomainEvent}
    (own : event.scope = .me) (about : event.messageId = row.id) :
    (if viewer ∈ [userId] then [deletedEvent event] else []).foldl WsEvent.follow
        (db.view viewer) =
      (db.storeDeletion d (db.movedPointers d)).view viewer := by
  have unmarked : (d.mark row).shown = row.shown := by
    simp [Message.shown, MessageDeletion.mark, still]
  have after : (db.storeDeletion d (db.movedPointers d)).view viewer =
      (db.messages.filter fun m => db.keeps viewer m &&
        !decide (m.id = row.id ∧ viewer = userId)).map Message.shown := by
    rw [ChatDatabase.view_storeDeletion sound.seated.members, its, hides]
    have kept : ∀ m ∈ db.messages, (db.keeps viewer m && !decide (m.id = row.id ∧
        viewer ∈ (db.loaded row).message.deletedForUserIds ++ [userId])) =
          (db.keeps viewer m && !decide (m.id = row.id ∧ viewer = userId)) := by
      intro m _
      cases held : db.keeps viewer m with
      | false => rfl
      | true =>
        have other : ¬ (m.id = row.id ∧ _) := not_hidden_of_keeps held
        simp only [List.mem_append, List.mem_singleton]
        congr 2
        refine decide_eq_decide.mpr (Iff.intro ?_ ?_)
        · rintro ⟨same,either⟩
          exact ⟨same,either.resolve_left fun before => other ⟨same,before⟩⟩
        · rintro ⟨same,mine⟩
          exact ⟨same,Or.inr mine⟩
    rw [List.filter_congr kept]
    refine List.map_congr_left fun m mem => ?_
    split_ifs with hit
    · rw [keyed_unique sound.filed.messages (List.mem_of_mem_filter mem) stored
        (of_decide_eq_true hit), unmarked]
    · rfl
  rw [after]
  by_cases mine : viewer = userId
  · rw [if_pos (List.mem_singleton.mpr mine), List.foldl_cons, List.foldl_nil]
    have follows : WsEvent.follow (db.view viewer) (deletedEvent event) =
        (db.view viewer).filter fun m => m.id ≠ row.id := by
      rw [deletedEvent, WsEvent.follow, own, about]
    rw [follows, ChatDatabase.view, List.filter_map, List.filter_filter]
    refine congrArg (List.map _) (List.filter_congr fun m _ => ?_)
    by_cases hit : m.id = row.id <;> simp [Message.shown, mine, hit]
  · rw [if_neg (mt List.mem_singleton.mp mine), List.foldl_nil]
    simp [mine, ChatDatabase.view]

/-- A message that its sender retracts, and the event to the users who hold it. -/
theorem follow_retracted (sound : db.Sound) {row : Message} (stored : row ∈ db.messages)
    {d : MessageDeletion} (its : d.messageId = row.id)
    (hides : d.deletedForUserIds = (db.loaded row).message.deletedForUserIds)
    (gone : d.deletedAt = some now) {event : MessageDeletedDomainEvent}
    (all : event.scope = .everyone) (about : event.messageId = row.id)
    (dated : event.deletedAt = some now) {rooms : List Uuid}
    (reached : viewer ∈ rooms ↔ db.keeps viewer row = true) :
    (if viewer ∈ rooms then [deletedEvent event] else []).foldl WsEvent.follow
        (db.view viewer) =
      (db.storeDeletion d (db.movedPointers d)).view viewer := by
  have shown : (d.mark row).shown = row.shown.gone (some now) := by
    simp [Message.shown, MessageDeletion.mark, ShownMessage.gone, gone]
  have updated : (db.storeDeletion d (db.movedPointers d)).view viewer =
      amend (fun m => m.id = row.id) (ShownMessage.gone (some now)) (db.view viewer) := by
    rw [view_marked sound its hides]
    exact (ChatDatabase.amend_view sound.filed.messages stored shown).symm
  refine follow_amended sound.filed.messages stored updated ?_ reached
  rw [deletedEvent, WsEvent.follow, all, about, dated]

/-- A deletion that is stored, and the client that hears of it. -/
theorem follow_delete (sound : db.Sound) {row : Message} (stored : row ∈ db.messages)
    {command : DeleteMessageCommand} {memberId : Uuid}
    {deleted : MessageEntity × List MessageEvent}
    (deletes : DeleteMessageHandler.delete now command memberId (db.loaded row).message =
      .ok deleted)
    (chat : w.chat = db.storeDeletion deleted.1.deletion (db.movedPointers deleted.1.deletion))
    (silent : w.emitted = []) :
    ((w.announce deleted.2).sentTo viewer).foldl WsEvent.follow (db.view viewer) =
      w.chat.view viewer := by
  have id : (db.loaded row).message.id = row.id := MessageEntity.loadDeletedForUserIds_id ..
  have home : (db.loaded row).message.conversationId = row.conversationId :=
    MessageEntity.loadDeletedForUserIds_conversationId ..
  have still : (db.loaded row).message.deletedAt = row.deletedAt :=
    MessageEntity.loadDeletedForUserIds_deletedAt ..
  have nothing : w.sentTo viewer = [] := by rw [ChatWorld.sentTo, silent]; rfl
  have again : deleted = ((db.loaded row).message, []) →
      ((w.announce deleted.2).sentTo viewer).foldl WsEvent.follow (db.view viewer) =
        w.chat.view viewer := by
    rintro rfl
    have unmarked : ((db.loaded row).message.deletion.mark row).shown = row.shown := by
      simp [Message.shown, MessageDeletion.mark, MessageEntity.deletion, still]
    change (w.sentTo viewer).foldl _ _ = _
    rw [nothing, List.foldl_nil, chat, view_marked sound id rfl]
    refine List.map_congr_left fun m mem => ?_
    split_ifs with hit
    · rw [keyed_unique sound.filed.messages (List.mem_of_mem_filter mem) stored
        (of_decide_eq_true hit), unmarked]
    · rfl
  rcases delete_cases deletes with ⟨_,is⟩ | ⟨_,_,⟨_,is⟩ | ⟨live,rfl⟩⟩
  · unfold MessageEntity.deleteForUser at is
    split_ifs at is with before
    · exact again is
    · subst is
      rw [announce_deleted, sentTo_send, nothing, List.nil_append, chat]
      exact follow_hidden sound stored id rfl still rfl id
  · exact again is
  · rw [announce_deleted, sentTo_send, nothing, List.nil_append, chat]
    dsimp only
    rw [home]
    refine follow_retracted sound stored id rfl rfl rfl id rfl ?_
    have members := ChatDatabase.identity_storeDeletion sound.seated.members
    refine Iff.trans ?_ (ChatDatabase.mem_liveRooms_keeps (m := row) sound mem_loaded)
    exact ChatDatabase.mem_liveRooms_frame rfl (members _)

/-- What a viewer holds after a send. -/
theorem view_withMessage {message : MessageEntity} (sound : db.Sound)
    (fresh : message.id ∉ db.messages.map Message.id) :
    (db.withMessage message).view viewer = db.view viewer ++
      if db.isMember message.conversationId viewer = true ∧ viewer ∉ message.deletedForUserIds then
        [(Message.fromDomain message).shown] else [] := by
  have members : (db.withMessage message).members.map ConversationMember.identity =
      db.members.map ConversationMember.identity := ChatDatabase.identity_withMessage message
  have old : ∀ m ∈ db.messages,
      (db.withMessage message).keeps viewer m = db.keeps viewer m := by
    intro m mem
    refine ChatDatabase.keeps_congr members (ChatDatabase.deletedFor_withMessage ?_)
    exact fun same => fresh (List.mem_map.mpr ⟨m,mem,same⟩)
  have hidden : (db.withMessage message).deletedFor viewer message.id =
      decide (viewer ∈ message.deletedForUserIds) := by
    refine decide_eq_decide.mpr (ChatDatabase.mem_deletionRows.trans ?_)
    constructor
    · rintro (⟨_,hides⟩ | before)
      · exact hides
      · exact absurd (sound.filed.deletions _ before) fresh
    · exact fun hides => Or.inl ⟨rfl,hides⟩
  have new : (db.withMessage message).keeps viewer (Message.fromDomain message) = true ↔
      db.isMember message.conversationId viewer = true ∧ viewer ∉ message.deletedForUserIds := by
    have hidden' : (db.withMessage message).deletedFor viewer (Message.fromDomain message).id =
        _ := hidden
    have home : (Message.fromDomain message).conversationId = message.conversationId := rfl
    rw [ChatDatabase.keeps, isMember_of_identity members, hidden', home]
    simp
  unfold ChatDatabase.view
  change ((db.messages ++ [Message.fromDomain message]).filter _).map _ = _
  rw [List.filter_append, List.map_append, List.filter_congr old]
  congr 1
  by_cases holds : (db.withMessage message).keeps viewer (Message.fromDomain message) = true
  · rw [List.filter_cons_of_pos holds, if_pos (new.mp holds)]
    rfl
  · rw [List.filter_cons_of_neg holds, if_neg (mt new.mpr holds)]
    rfl

/-- A send that is stored, and the client that hears of it. -/
theorem follow_inserted {amb : Ambient} {command : CreateMessageCommand}
    {member : ConversationMember} {message : MessageEntity} {event : MessageCreatedDomainEvent}
    (sends : Inserts amb command db member message event)
    (unused : amb.uuid 0 ∉ db.messages.map Message.id) (sound : db.Sound)
    (chat : w.chat = db.withMessage message) (couple : w.chat.Couple message.conversationId)
    (accounts : ∀ cm ∈ db.membersOf command.conversationId, w.users.HasUser cm.userId)
    (visible : command.senderId ∉ command.deletedForUserIds)
    (quiet : ∀ e ∈ w.sentTo viewer, ∀ view, WsEvent.follow view e = view) :
    ((w.announce [.created event]).sentTo viewer).foldl WsEvent.follow (db.view viewer) =
      w.chat.view viewer := by
  obtain ⟨after,announces,shown⟩ :=
    announces_inserted sends unused sound chat couple accounts visible
  obtain ⟨_,_,_,built⟩ := MessageEntity.create_ok sends.built
  obtain ⟨rfl,rfl⟩ := Prod.mk.inj built
  rcases run_created_payload _ w with ⟨_,silent⟩ |
    ⟨sender,own,target,there,is,apart,dto,currentUser,preview,loaded,run,_⟩
  · exact absurd announces silent
  have handled : w.announce [.created _] = _ := congrArg Prod.snd run
  have reached : viewer ∈ _ ↔ _ := mem_createdRooms after.seated own there apart
    (shown sender own is)
  have members : w.chat.isMember command.conversationId viewer =
      db.isMember command.conversationId viewer := by
    rw [chat]
    exact isMember_of_identity (ChatDatabase.identity_withMessage _) _ _
  rw [handled, sentTo_send, List.foldl_append, follow_quiet (fun e mem => quiet e mem _), chat,
    view_withMessage sound unused]
  rw [members] at reached
  by_cases holds : db.isMember command.conversationId viewer = true ∧
      viewer ∉ command.deletedForUserIds
  · rw [if_pos (reached.mpr holds), if_pos holds, List.foldl_cons, List.foldl_nil, WsEvent.follow,
      MessageCreatedWsEventHandler.payload]
    dsimp only
    rw [(userConversation_ok loaded).1]
    rfl
  · rw [if_neg (mt reached.mp holds), if_neg holds, List.foldl_nil, List.append_nil]

/-- Rows of conversations without messages do not count. -/
theorem view_sameIn (messages : db'.messages = db.messages)
    (deleted : db'.deletedMessages = db.deletedMessages)
    (members : ∀ m ∈ db.messages,
      db'.memberRows m.conversationId = db.memberRows m.conversationId) :
    db'.view viewer = db.view viewer := by
  refine ChatDatabase.view_same messages fun m mem => ?_
  have users : ∀ db : ChatDatabase, db.isMember m.conversationId viewer =
      decide (viewer ∈ db.usersOf m.conversationId) := by
    intro db
    rw [Bool.eq_iff_iff, decide_eq_true_eq, ChatDatabase.usersOf, List.mem_map,
      ChatDatabase.isMember, List.any_eq_true]
    simp only [decide_eq_true_eq]
  unfold ChatDatabase.keeps ChatDatabase.deletedFor
  rw [users, users, ChatDatabase.usersOf_sameIn (members m mem), deleted]

/-- The messages that are there belong to other conversations than a new one. -/
theorem home_ne_new {amb : Ambient} (unused : ChatDatabase.Unused amb db) (sound : db.Sound)
    {m : Message} (stored : m ∈ db.messages) : amb.uuid 0 ≠ m.conversationId := by
  obtain ⟨cm,joined,_,home⟩ := sound.filed.senders m stored
  exact fun same => unused.absent sound.seated 0 cm joined (home.trans same.symm)

theorem view_withConversation {amb : Ambient} (unused : ChatDatabase.Unused amb db)
    (sound : db.Sound) (userId targetUserId : Uuid) :
    (db.withConversation amb userId targetUserId).view viewer = db.view viewer :=
  view_sameIn rfl rfl fun _ stored => (db.sameIn_withConversation userId targetUserId
    (home_ne_new unused sound stored)).1

theorem view_rolledBack {amb : Ambient} (unused : ChatDatabase.Unused amb db) (sound : db.Sound)
    (userId targetUserId : Uuid) (now : Time) :
    ((db.withConversation amb userId targetUserId).removeConversation (amb.uuid 0) now).2.view
      viewer = db.view viewer := by
  have removed : ((db.withConversation amb userId targetUserId).removeConversation
      (amb.uuid 0) now).2.view viewer = (db.withConversation amb userId targetUserId).view viewer :=
    view_sameIn rfl rfl fun m stored =>
      (sameIn_removed (home_ne_new unused sound stored) now).1
  rw [removed, view_withConversation unused sound]

/-- Every live conversation has two members. -/
def ChatDatabase.Coupled (db : ChatDatabase) : Prop :=
  ∀ c ∈ db.conversations, c.deletedAt = none → db.Couple c.id

theorem couple_of_member (seated : db.Seated) (coupled : db.Coupled) {conversationId : Uuid}
    (member : db.isMember conversationId viewer = true) : db.Couple conversationId := by
  obtain ⟨c,known⟩ := (seated.live member).1
  obtain ⟨stored,is⟩ := lookup_mem known
  obtain ⟨there,live⟩ := List.mem_filter.mp stored
  rw [← is]
  exact coupled c there (by simpa using live)

end Events

end Chatterbox
