import Chatterbox.Chat.ReplyPreview

/-!
What a block keeps from a user. A text counts as withheld from a viewer as long as it is the
text of a message that somebody wrote, by a send or by an edit, while the viewer blocked him.
A send to a blocking member stores a `deleted_messages` row for him and leaves his room out;
an edit does neither, and previews are not withheld everywhere.
-/
namespace Chatterbox
open Concurrency Tables

def ChatDatabase.textOf (db : ChatDatabase) (id : Uuid) : Option JsString :=
  (db.message id).map Message.text

/-- The messages whose text is withheld from the viewer after an operation: those that the
    operation has given a text while the viewer blocked its author, and those that kept
    their text and were withheld before. -/
def withhold (viewer actor : Uuid) (users : UserDatabase) (db db' : ChatDatabase)
    (before : Uuid → Prop) (id : Uuid) : Prop :=
  if db'.textOf id = db.textOf id then before id else users.blocking viewer actor = true

def Turn.withhold (ilike : JsString → JsString → Bool) (viewer : Uuid) (w : ChatWorld)
    (before : Uuid → Prop) : Turn → Uuid → Prop
  | request amb actor operation => Chatterbox.withhold viewer actor w.users w.chat
      (w.perform ilike amb actor operation).2.chat before
  | elsewhere _ => before

/-- What a viewer who blocks the actor demands of an operation. -/
def ChatOperation.Shields (viewer actor : Uuid) (w : ChatWorld) (before : Uuid → Prop) :
    ChatOperation → Prop
  | createConversation _ => viewer = actor → w.users.blocking viewer actor = false
  | sendMessage data => (viewer = actor → w.users.blocking viewer actor = false) ∧
      (viewer ≠ actor → w.chat.isMember data.conversationId viewer = true →
        w.users.blocking viewer actor = false → ∀ q m, data.replyToMessageId = some q →
          w.chat.message q = some m → m.deletedAt = none → ¬ before q) ∧
      (viewer = actor → ∀ member m, w.chat.conversationMember data.conversationId actor =
          .ok member → CreateMessageHandler.existing (data.command actor []) member w.chat =
          some m → m.text = data.text → ∀ q parent, m.replyToMessageId = some q →
            w.chat.message q = some parent → parent.deletedAt = none → ¬ before q)
  | editMessage data => (viewer = actor → w.users.blocking viewer actor = false) ∧
      (w.users.blocking viewer actor = true →
        w.chat.isMember data.conversationId viewer = true → ∀ m,
          w.chat.message data.messageId = some m → m.conversationId = data.conversationId →
            m.deletedAt = none → m.text ≠ data.text →
              w.chat.deletedFor viewer data.messageId = true)
  | _ => True

def Turn.Shields (viewer : Uuid) (w : ChatWorld) (before : Uuid → Prop) : Turn → Prop
  | request _ actor operation => operation.Shields viewer actor w before
  | elsewhere _ => True

/-- A withheld message is hidden from the viewer where he is a member, and it is not his. -/
structure Veiled (viewer : Uuid) (db : ChatDatabase) (before : Uuid → Prop) : Prop where
  hidden : ∀ m ∈ db.messages, before m.id → db.isMember m.conversationId viewer = true →
    ⟨viewer,m.id⟩ ∈ db.deletedMessages
  foreign : ∀ m ∈ db.messages, before m.id → ∀ cm ∈ db.members, cm.id = m.senderId →
    cm.userId ≠ viewer

section Veiled
variable {viewer actor : Uuid} {users : UserDatabase} {db db' : ChatDatabase}
  {before after : Uuid → Prop}

/-- Stored messages stay veiled when nothing is written to them: their member rows are as
    before, or gone, and deletions only come. -/
theorem Veiled.frame (veiled : Veiled viewer db before)
    (messages : ∀ m' ∈ db'.messages, after m'.id → ∃ m ∈ db.messages, m.origin = m'.origin ∧
      before m.id)
    (rows : ∀ m ∈ db.messages, ∀ cm' ∈ db'.members,
      cm'.conversationId = m.conversationId ∨ cm'.id = m.senderId → ∃ cm ∈ db.members,
        cm.id = cm'.id ∧ cm.userId = cm'.userId ∧ cm.conversationId = cm'.conversationId ∧
        (cm'.deletedAt = none → cm.deletedAt = none))
    (deletions : ∀ r ∈ db.deletedMessages, r ∈ db'.deletedMessages) :
    Veiled viewer db' after := by
  constructor
  · intro m' mem' withheld member
    obtain ⟨m,mem,same,earlier⟩ := messages m' mem' withheld
    obtain ⟨id,_,home,_⟩ := ChatDatabase.origin_inj same
    obtain ⟨cm',stored',live',home',user'⟩ := isMember_row.mp member
    obtain ⟨cm,stored,_,user,there,live⟩ := rows m mem cm' stored' (Or.inl (home'.trans home.symm))
    rw [← id]
    refine deletions _ (veiled.hidden m mem earlier ?_)
    rw [home, ← home', ← user', ← user, ← there]
    exact isMember_row.mpr ⟨_,stored,live live',rfl,rfl⟩
  · intro m' mem' withheld cm' stored' is
    obtain ⟨m,mem,same,earlier⟩ := messages m' mem' withheld
    obtain ⟨_,sender,_,_⟩ := ChatDatabase.origin_inj same
    obtain ⟨cm,stored,id,user,_⟩ := rows m mem cm' stored' (Or.inr (is.trans sender.symm))
    rw [← user]
    exact veiled.foreign m mem earlier cm stored (id.trans (is.trans sender.symm))

theorem rows_of_identity (identity : db'.members.map ConversationMember.identity =
      db.members.map ConversationMember.identity) {cm' : ConversationMember}
    (stored : cm' ∈ db'.members) : ∃ cm ∈ db.members, cm.id = cm'.id ∧ cm.userId = cm'.userId ∧
      cm.conversationId = cm'.conversationId ∧ (cm'.deletedAt = none → cm.deletedAt = none) := by
  obtain ⟨cm,mem,same⟩ := ChatDatabase.same_row identity stored
  obtain ⟨id,user,home,date⟩ := ChatDatabase.identity_inj same
  exact ⟨cm,mem,id,user,home,fun live => date.trans live⟩

theorem textOf_mem (messages : Keyed Message.id db.messages) {m : Message}
    (mem : m ∈ db.messages) : db.textOf m.id = some m.text := by
  rw [ChatDatabase.textOf, ChatDatabase.message,
    (lookup_eq_some_iff messages).mpr ⟨mem,rfl⟩, Option.map_some]

theorem textOf_storeDeletion (d : MessageDeletion) (members : List ConversationMember) (id : Uuid) :
    (db.storeDeletion d members).textOf id = db.textOf id := by
  rw [ChatDatabase.textOf, message_storeDeletion, Option.map_map, ChatDatabase.textOf]
  refine congrArg (Option.map · _) (funext fun m => ?_)
  change (if _ then _ else _ : Message).text = m.text
  split <;> rfl

theorem textOf_withMessage {message : MessageEntity} {id : Uuid} (other : id ≠ message.id) :
    (db.withMessage message).textOf id = db.textOf id := by
  rw [ChatDatabase.textOf, ChatDatabase.message_sent, if_neg other.symm, Option.or_none]
  rfl

/-- The text of a new message. -/
theorem textOf_new {message : MessageEntity} (fresh : message.id ∉ db.messages.map Message.id) :
    (db.withMessage message).textOf message.id = some message.text ∧
      db.textOf message.id = none := by
  obtain ⟨missing,found⟩ := ChatDatabase.message_new fresh
  rw [ChatDatabase.textOf, ChatDatabase.textOf, missing, found]
  exact ⟨rfl,rfl⟩

/-- An operation withholds nothing more as long as it writes no text. -/
theorem withhold_same {id : Uuid} (same : db'.textOf id = db.textOf id) :
    withhold viewer actor users db db' before id ↔ before id := by
  rw [withhold, if_pos same]

theorem withhold_written {id : Uuid} (written : db'.textOf id ≠ db.textOf id) :
    withhold viewer actor users db db' before id ↔ users.blocking viewer actor = true := by
  rw [withhold, if_neg written]

/-- A send veils its message when it hides it from the viewer and is not his own. -/
theorem veiled_withMessage {amb : Ambient} {command : CreateMessageCommand}
    {member : ConversationMember} {message : MessageEntity} {event : MessageCreatedDomainEvent}
    (sends : Inserts amb command db member message event)
    (unused : amb.uuid 0 ∉ db.messages.map Message.id) (sound : db.Sound)
    (veiled : Veiled viewer db before)
    (hides : users.blocking viewer actor = true → command.senderId ≠ viewer ∧
      (db.isMember command.conversationId viewer = true → viewer ∈ command.deletedForUserIds)) :
    Veiled viewer (db.withMessage message)
      (withhold viewer actor users db (db.withMessage message) before) := by
  obtain ⟨id,sender,home,_,shadow,_⟩ := sends.fields
  obtain ⟨seat,user,_⟩ := conversationMember_ok sends.seated
  have fresh : message.id ∉ db.messages.map Message.id := id ▸ unused
  have identity : (db.withMessage message).members.map ConversationMember.identity =
      db.members.map ConversationMember.identity := ChatDatabase.identity_withMessage message
  have old : Veiled viewer { db.withMessage message with messages := db.messages }
      (withhold viewer actor users db (db.withMessage message) before) := by
    refine veiled.frame (fun m mem withheld => ⟨m,mem,rfl,?_⟩)
      (fun _ _ _ stored _ => rows_of_identity identity stored)
      fun r mem => ChatDatabase.mem_deletionRows.mpr (Or.inr mem)
    have other : m.id ≠ message.id := fun same => fresh (same ▸ List.mem_map_of_mem mem)
    exact (withhold_same (textOf_withMessage other)).mp withheld
  have written : (db.withMessage message).textOf message.id ≠ db.textOf message.id := by
    rw [(textOf_new fresh).1, (textOf_new fresh).2]
    exact Option.some_ne_none _
  constructor
  · intro m mem withheld seated
    rcases List.mem_append.mp mem with stored | new
    · exact old.hidden m stored withheld seated
    · rw [List.mem_singleton.mp new] at withheld seated ⊢
      obtain ⟨_,shadows⟩ := hides ((withhold_written written).mp withheld)
      refine ChatDatabase.mem_deletionRows.mpr (Or.inl ⟨rfl,?_⟩)
      rw [shadow]
      refine shadows ?_
      obtain ⟨cm',stored',live',home',user'⟩ := isMember_row.mp seated
      obtain ⟨cm,stored,_,user'',there,live⟩ := rows_of_identity identity stored'
      have same : command.conversationId = cm.conversationId := by rw [there, home', ← home]; rfl
      rw [same, ← user', ← user'']
      exact isMember_row.mpr ⟨_,stored,live live',rfl,rfl⟩
  · intro m mem withheld cm' stored' is
    rcases List.mem_append.mp mem with stored | new
    · exact old.foreign m stored withheld cm' stored' is
    · rw [List.mem_singleton.mp new] at withheld is
      obtain ⟨apart,_⟩ := hides ((withhold_written written).mp withheld)
      obtain ⟨cm,stored,id',user',_⟩ := rows_of_identity identity stored'
      have same : cm = member := by
        refine keyed_unique sound.seated.members stored (ChatDatabase.membersOf_iff.mp seat).1 ?_
        exact id'.trans (is.trans sender)
      rw [← user', same, user]
      exact apart

theorem veiled_withConversation {amb : Ambient} (unused : ChatDatabase.Unused amb db)
    (sound : db.Sound) (userId targetUserId : Uuid) (veiled : Veiled viewer db before) :
    Veiled viewer (db.withConversation amb userId targetUserId) before := by
  refine veiled.frame (fun m mem withheld => ⟨m,mem,rfl,withheld⟩) (fun m mem cm' stored' near => ?_)
    fun _ known => known
  rcases List.mem_append.mp stored' with old | new
  · exact ⟨cm',old,rfl,rfl,rfl,id⟩
  · exfalso
    obtain ⟨cm,stored,is,there⟩ := sound.filed.senders m mem
    have ids : cm'.conversationId = amb.uuid 0 ∧ (cm'.id = amb.uuid 2 ∨ cm'.id = amb.uuid 3) := by
      rcases mem_newMembers new with rfl | ⟨_,rfl⟩
      · exact ⟨rfl,Or.inl rfl⟩
      · exact ⟨rfl,Or.inr rfl⟩
    rcases near with home | sender
    · apply unused.absent sound.seated 0 cm stored
      rw [there, ← home, ids.1]
    · rcases ids.2 with id | id
      · exact unused.members 2 (List.mem_map.mpr ⟨cm,stored,by rw [is, ← sender, id]⟩)
      · exact unused.members 3 (List.mem_map.mpr ⟨cm,stored,by rw [is, ← sender, id]⟩)

theorem veiled_removed (conversationId : Uuid) (now : Time) (veiled : Veiled viewer db before) :
    Veiled viewer (db.removeConversation conversationId now).2 before := by
  refine veiled.frame (fun m mem withheld => ⟨m,mem,rfl,withheld⟩) (fun _ _ cm' stored' _ => ?_)
    fun _ known => known
  rcases mem_amend.mp stored' with ⟨cm,stored,_,rfl⟩ | ⟨stored,_⟩
  · exact ⟨cm,stored,rfl,rfl,rfl,nofun⟩
  · exact ⟨cm',stored,rfl,rfl,rfl,id⟩

/-- A new conversation has nobody but the two users in it. -/
theorem isMember_new {amb : Ambient} (unused : ChatDatabase.Unused amb db)
    (seated : db.Seated) {userId targetUserId member : Uuid}
    (is : (db.withConversation amb userId targetUserId).isMember (amb.uuid 0) member = true) :
    member = userId ∨ member = targetUserId := by
  obtain ⟨cm,stored,_,home,user⟩ := isMember_row.mp is
  rcases List.mem_append.mp stored with old | new
  · obtain ⟨c,memc,id,_⟩ := seated.homes cm old
    exact absurd (List.mem_map.mpr ⟨c,memc,id.trans home⟩) (unused.conversations 0)
  · rcases mem_newMembers new with rfl | ⟨_,rfl⟩
    · exact Or.inl user.symm
    · exact Or.inr user.symm

/-- Who edits a message is its sender. -/
theorem editor_sends {m : Message} {now : Time} {text : JsString} {member : ConversationMember}
    {edited : MessageEntity × List MessageEvent}
    (edits : (db.loaded m).message.edit now text member.id = .ok edited) :
    m.deletedAt = none ∧ m.senderId = member.id ∧ edited.1.id = m.id ∧
      ((m.text = text ∧ edited.1.text = m.text ∧ edited.2 = []) ∨
        (m.text ≠ text ∧ edited.1.text = text)) := by
  have row : (db.loaded m).message.id = m.id ∧ (db.loaded m).message.text = m.text ∧
      (db.loaded m).message.senderId = m.senderId ∧
      (db.loaded m).message.deletedAt = m.deletedAt :=
    ⟨MessageEntity.loadDeletedForUserIds_id ..,MessageEntity.loadDeletedForUserIds_text ..,
      MessageEntity.loadDeletedForUserIds_senderId ..,
      MessageEntity.loadDeletedForUserIds_deletedAt ..⟩
  obtain ⟨live,sender,is⟩ := edit_ok edits
  rw [row.2.1] at is
  refine ⟨row.2.2.2.symm.trans live,(sender.trans row.2.2.1).symm,(edit_id edits).trans row.1,?_⟩
  rcases is with ⟨same,rfl⟩ | ⟨other,rfl⟩
  · exact Or.inl ⟨same,row.2.1,rfl⟩
  · exact Or.inr ⟨other,rfl⟩

theorem textOf_updateMessage (id id' : Uuid) (text : JsString) (editedAt : Option Time)
    (updatedAt : Time) : (db.updateMessage id text editedAt updatedAt).textOf id' =
      if id' = id then (db.message id').map fun _ => text else db.textOf id' := by
  rw [ChatDatabase.textOf, message_updateMessage, Option.map_map]
  cases found : db.message id' with
  | none => simp [ChatDatabase.textOf, found]
  | some m =>
    have is : m.id = id' := (lookup_mem found).2
    by_cases hit : id' = id <;> simp [ChatDatabase.textOf, found, is, hit, Message.withText]

end Veiled

section Effects
variable {viewer actor : Uuid} {amb : Ambient} {w : ChatWorld} {operation : ChatOperation}
  {db' : ChatDatabase} {events : List MessageEvent} {before : Uuid → Prop}

/-- An operation that shields the viewer keeps what is withheld from him veiled. -/
theorem veiled_effect (effect : Effect w.users amb actor w.chat operation db' events)
    (unused : ChatDatabase.Unused amb w.chat) (sound : w.chat.Sound)
    (shields : operation.Shields viewer actor w before) (veiled : Veiled viewer w.chat before) :
    Veiled viewer db' (withhold viewer actor w.users w.chat db' before) := by
  have still : ∀ {m' : Message}, (∀ id, db'.textOf id = w.chat.textOf id) →
      db'.messages.map Message.origin = w.chat.messages.map Message.origin → m' ∈ db'.messages →
      withhold viewer actor w.users w.chat db' before m'.id →
      ∃ m ∈ w.chat.messages, m.origin = m'.origin ∧ before m.id := by
    intro m' texts origin mem withheld
    obtain ⟨m,memm,same⟩ := ChatDatabase.same_row origin mem
    refine ⟨m,memm,same,?_⟩
    rw [(ChatDatabase.origin_inj same).1]
    exact (withhold_same (texts m'.id)).mp withheld
  cases effect with
  | nothing =>
    exact veiled.frame (fun _ mem withheld => still (fun _ => rfl) rfl mem withheld)
      (fun _ _ _ stored _ => rows_of_identity rfl stored) fun _ known => known
  | @opened data _ _ _ _ unblocked _ sends =>
    refine veiled_withMessage sends (unused.messages 4) (sound_withConversation unused sound _ _)
      (veiled_withConversation unused sound _ _ veiled) fun blocking => ?_
    have apart : actor ≠ viewer := by
      rintro rfl
      rw [shields rfl] at blocking
      cases blocking
    refine ⟨apart,fun member => ?_⟩
    rcases isMember_new unused sound.seated member with own | rfl
    · exact absurd own.symm apart
    · rw [unblocked] at blocking
      cases blocking
  | rolledBack =>
    exact (veiled_removed _ _ (veiled_withConversation unused sound _ _ veiled)).frame
      (fun m mem withheld => ⟨m,mem,rfl,(withhold_same rfl).mp withheld⟩)
      (fun _ _ _ stored _ => rows_of_identity rfl stored) fun _ known => known
  | @sent data target member _ _ other apart _ _ sends =>
    refine veiled_withMessage sends (unused.messages 0) sound veiled fun blocking => ?_
    have own : actor ≠ viewer := by
      rintro rfl
      rw [shields.1 rfl] at blocking
      cases blocking
    refine ⟨own,fun seat => ?_⟩
    by_contra shown
    have unblocks : w.users.blocking viewer actor = false :=
      unblocked_of_shown sound sends.seated other apart own.symm seat shown
    rw [unblocks] at blocking
    cases blocking
  | @edited data member m edited seated found home edits =>
    obtain ⟨live,sender,id,changes⟩ := editor_sends edits
    obtain ⟨stored,is⟩ := lookup_mem found
    have texts : ∀ id', id' ≠ m.id → (w.chat.updateMessage edited.1.id edited.1.text
        edited.1.editedAt edited.1.updatedAt).textOf id' = w.chat.textOf id' := by
      intro id' other
      rw [textOf_updateMessage, id, if_neg other]
    rcases changes with ⟨_,kept,_⟩ | ⟨other,_⟩
    · refine veiled.frame (fun _ mem withheld => still (fun id' => ?_)
        (ChatDatabase.origin_updateMessage ..) mem withheld)
        (fun _ _ _ stored _ => rows_of_identity rfl stored) fun _ known => known
      by_cases hit : id' = m.id
      · rw [hit, textOf_updateMessage, id, if_pos rfl, kept, is, found, ← is,
          textOf_mem sound.filed.messages stored]
        rfl
      · exact texts id' hit
    · -- the edited message joins what is withheld, in the tables as they were
      have joined : Veiled viewer w.chat fun id' =>
          before id' ∨ (id' = m.id ∧ w.users.blocking viewer actor = true) := by
        constructor
        · rintro m' mem (earlier | ⟨same,blocking⟩) seat
          · exact veiled.hidden m' mem earlier seat
          · obtain rfl := keyed_unique sound.filed.messages mem stored same
            have hidden := shields.2 blocking (home ▸ seat) m' found home live other
            rw [is]
            exact of_decide_eq_true hidden
        · rintro m' mem (earlier | ⟨same,blocking⟩) cm memcm id'
          · exact veiled.foreign m' mem earlier cm memcm id'
          · obtain rfl := keyed_unique sound.filed.messages mem stored same
            obtain ⟨seat,user,_⟩ := conversationMember_ok seated
            obtain rfl := keyed_unique sound.seated.members memcm
              (ChatDatabase.membersOf_iff.mp seat).1 (id'.trans sender)
            rw [user]
            rintro rfl
            rw [shields.1 rfl] at blocking
            cases blocking
      refine joined.frame (fun m' mem withheld => ?_)
        (fun _ _ _ stored _ => rows_of_identity rfl stored) fun _ known => known
      obtain ⟨m₀,mem₀,same⟩ := ChatDatabase.same_row (ChatDatabase.origin_updateMessage ..) mem
      refine ⟨m₀,mem₀,same,?_⟩
      rw [(ChatDatabase.origin_inj same).1]
      unfold withhold at withheld
      split_ifs at withheld with text
      · exact Or.inl withheld
      · exact Or.inr ⟨not_not.mp (mt (texts m'.id) text),withheld⟩
  | @deleted data member m deleted seated found home deletes =>
    have identity := ChatDatabase.identity_storeDeletion sound.seated.members deleted.1.deletion
    exact veiled.frame (fun _ mem withheld => still (textOf_storeDeletion _ _)
      (ChatDatabase.origin_storeDeletion ..) mem withheld)
      (fun _ _ _ stored _ => rows_of_identity identity stored)
      fun _ known => ChatDatabase.mem_deletionRows.mpr (Or.inr known)
  | @marked data member =>
    have identity : (w.chat.withSeen member.id data.messageId).members.map
        ConversationMember.identity = w.chat.members.map ConversationMember.identity :=
      ChatDatabase.identity_withSeen member.id data.messageId
    exact veiled.frame (fun _ mem withheld => still (fun _ => rfl) rfl mem withheld)
      (fun _ _ _ stored _ => rows_of_identity identity stored) fun _ known => known

end Effects

section Texts
variable {viewer actor : Uuid} {amb : Ambient} {w : ChatWorld} {before : Uuid → Prop}
  {r : Except Failure ChatResponse} {shown : ShownText}

/-- The text of a new message is withheld only from who blocks its author. -/
theorem new_open {db : ChatDatabase} {message : MessageEntity}
    (fresh : message.id ∉ db.messages.map Message.id) (messages : db.messages = w.chat.messages)
    (unblocks : w.users.blocking viewer actor = false) :
    ¬ withhold viewer actor w.users w.chat (db.withMessage message) before message.id := by
  have same : w.chat.textOf message.id = db.textOf message.id := by
    rw [ChatDatabase.textOf, ChatDatabase.textOf, ChatDatabase.message, ChatDatabase.message,
      messages]
  have written : (db.withMessage message).textOf message.id ≠ w.chat.textOf message.id := by
    rw [same, (textOf_new fresh).1, (textOf_new fresh).2]
    exact Option.some_ne_none _
  rw [withhold_written written, unblocks]
  exact Bool.false_ne_true

/-- What a member sees is not withheld from him. -/
theorem seen_open (veiled : Veiled viewer w.chat before) {m : Message}
    (stored : m ∈ w.chat.messages) (member : w.chat.isMember m.conversationId viewer = true)
    (kept : ⟨viewer,m.id⟩ ∉ w.chat.deletedMessages) : ¬ before m.id :=
  fun withheld => kept (veiled.hidden m stored withheld member)

theorem sent_id (message : MessageEntity) (reply : Option LoadedMessage) :
    (CreateMessageHandler.sent message reply).message.id = message.id :=
  MessageEntity.loadDeletedForUserIds_id ..

theorem sent_text (message : MessageEntity) (reply : Option LoadedMessage) :
    (CreateMessageHandler.sent message reply).message.text = message.text :=
  MessageEntity.loadDeletedForUserIds_text ..

/-- The first message of a conversation goes to nobody who blocks its author. -/
theorem texts_created {data : CreateConversationRequest} {opened : Change ConversationEntity}
    {c : Change LoadedMessage} {announced : List Broadcast} (sound : w.chat.Sound)
    (unused : ChatDatabase.Unused amb w.chat)
    (unblocked : w.users.blocking data.targetUserId actor = false)
    (opens : CreateDirectConversationHandler.change amb ⟨actor,data.targetUserId⟩ w.chat =
      .ok opened)
    (sends : CreateMessageHandler.change (amb.skip 4) (data.firstMessage actor (amb.uuid 0))
      opened.chat = .ok c)
    (announces : ∀ b ∈ announced, (b.rooms = [data.targetUserId] ∨ b.rooms = [actor]) ∧
      ∃ shown, b.event = .conversationCreated shown ∧
        shown.lastMessage.id = c.result.message.id ∧
        shown.lastMessage.content = c.result.message.text)
    (responds : ∀ response, r = .ok response → ∃ data, response = .conversation data ∧
      response.tells c.result.message)
    (shields : viewer = actor → w.users.blocking viewer actor = false)
    (mem : shown ∈ shownTo viewer actor ChatResponse.texts WsEvent.texts
      (r, (w.changed c announced).announce c.events)) :
    ¬ withhold viewer actor w.users w.chat ((w.changed c announced).announce c.events).chat before
      shown.1 := by
  obtain ⟨_,stores⟩ := CreateDirectConversationHandler.change_effect unused opens
  rw [stores] at sends
  rcases CreateMessageHandler.change_effect (keyed_withConversation unused sound.seated.members _ _)
      (unused.messages 4) sends with ⟨_,_,_,known,_⟩ | ⟨member,message,event,reply,inserts,_,rfl⟩
  · cases known
  obtain ⟨id,_,_,_,_,_,replies,_⟩ := inserts.fields
  have fresh : message.id ∉ (w.chat.withConversation amb actor data.targetUserId).messages.map
      Message.id := id ▸ unused.messages 4
  have shows : shown.1 = message.id ∧ w.users.blocking viewer actor = false := by
    rcases mem_shownTo mem with ⟨response,rfl,rfl,own⟩ | ⟨b,emitted,room,sent⟩
    · obtain ⟨data,rfl,tells,_⟩ := responds response rfl
      rw [List.mem_singleton.mp own]
      exact ⟨tells.trans (sent_id ..),shields rfl⟩
    · rcases broadcast_created (keyed_withConversation unused sound.seated.members _ _) inserts rfl
        emitted with old | ⟨data',is,sentId,_,reach,quotes⟩
      · obtain ⟨rooms,shown',is,lastId,_⟩ := announces b old
        rw [is] at sent
        rw [List.mem_singleton.mp sent]
        refine ⟨lastId.trans (sent_id ..),?_⟩
        rcases rooms with target | self
        · rw [target] at room
          rw [List.mem_singleton.mp room]
          exact unblocked
        · rw [self] at room
          exact shields (List.mem_singleton.mp room)
      · rw [is] at sent
        rcases List.mem_cons.mp sent with rfl | quoted
        · refine ⟨sentId,?_⟩
          rcases reach viewer room with own | ⟨apart,seat,_⟩
          · exact shields own
          · rcases isMember_new unused sound.seated seat with own | rfl
            · exact shields own
            · exact unblocked
        · obtain ⟨p,is',_⟩ := List.mem_map.mp quoted
          obtain ⟨_,replies',_⟩ := quotes p (by simpa using is')
          cases replies'
  rw [announce_chat, shows.1]
  exact new_open fresh rfl shows.2

/-- What the actor himself may quote is not withheld from him. -/
theorem parent_open {command : CreateMessageCommand} {member : ConversationMember}
    {message : MessageEntity} {event : MessageCreatedDomainEvent}
    (sends : Inserts amb command w.chat member message event)
    (veiled : Veiled command.senderId w.chat before) {q : Uuid}
    (replies : command.replyToMessageId = some q) : ¬ before q := by
  obtain ⟨m,stored,rfl,home,_,kept⟩ := ChatDatabase.Inserts.parent sends replies
  obtain ⟨seat,user,_⟩ := conversationMember_ok sends.seated
  refine seen_open veiled stored ?_ kept
  rw [home]
  exact List.any_eq_true.mpr ⟨member,seat,decide_eq_true user⟩

/-- What a repeated send shows its sender: his own message and the live parent it quotes. -/
theorem texts_resent {data : CreateMessageRequest} {blockers : List Uuid}
    {member : ConversationMember} {m : Message}
    (seated : w.chat.conversationMember data.conversationId actor = .ok member)
    (known : CreateMessageHandler.existing (data.command actor blockers) member w.chat = some m)
    (responds : ∀ response, r = .ok response → ∃ ack, response = .message ack ∧
      response.tells (w.chat.loaded m).message ∧ ∀ p, ack.replyTo = some p →
        ∃ parent, (w.chat.loaded m).replyToMessage = some parent ∧
          p.shown = (parent.id, parent.preview))
    (quotesAgain : viewer = actor → ∀ q parent, m.replyToMessageId = some q →
      w.chat.message q = some parent → parent.deletedAt = none → ¬ before q)
    (veiled : Veiled viewer w.chat before)
    (mem : shown ∈ shownTo viewer actor ChatResponse.texts WsEvent.texts (r, w.silent))
    (content : shown.2 ≠ none) : ¬ before shown.1 := by
  rcases mem_shownTo mem with ⟨response,rfl,rfl,own⟩ | ⟨b,emitted,_⟩
  · obtain ⟨ack,rfl,tells,quotes⟩ := responds response rfl
    obtain ⟨stored,_,sender⟩ := CreateMessageHandler.existing_found known
    obtain ⟨seat,user,_⟩ := conversationMember_ok seated
    rcases List.mem_cons.mp own with rfl | preview
    · have id : ack.id = m.id := tells.1.trans (MessageEntity.loadDeletedForUserIds_id ..)
      rw [id]
      exact fun withheld => veiled.foreign m stored withheld member
        (ChatDatabase.membersOf_iff.mp seat).1 sender.symm user
    · obtain ⟨p,is,rfl⟩ := List.mem_map.mp preview
      obtain ⟨parent,given,shows⟩ := quotes p (by simpa using is)
      rw [shows] at content ⊢
      obtain ⟨row,joined,rfl⟩ := Option.map_eq_some_iff.mp given
      obtain ⟨q,replies,found⟩ := Option.bind_eq_some_iff.mp joined
      have live : row.deletedAt = none := by
        by_contra dead
        exact content (if_pos (Option.isSome_iff_ne_none.mpr dead))
      have id : row.id = q := (lookup_mem found).2
      change ¬ before row.id
      rw [id]
      exact quotesAgain rfl q row replies found live
  · cases emitted

/-- What an accepted send shows, to its sender and to the other member. -/
theorem texts_sent {data : CreateMessageRequest} {target : ConversationMember}
    {c : Change LoadedMessage} (sound : w.chat.Sound) (unused : ChatDatabase.Unused amb w.chat)
    (other : target ∈ w.chat.membersOf data.conversationId) (apart : target.userId ≠ actor)
    (sends : CreateMessageHandler.change amb (data.command actor
      (if w.users.blocking target.userId actor then [target.userId] else [])) w.chat = .ok c)
    (responds : ∀ response, r = .ok response → ∃ data, response = .message data ∧
      response.tells c.result.message ∧
      ∀ p, data.replyTo = some p → ∃ parent, c.result.replyToMessage = some parent ∧
        p.shown = (parent.id, parent.preview))
    (shields : (ChatOperation.sendMessage data).Shields viewer actor w before)
    (veiled : Veiled viewer w.chat before)
    (mem : shown ∈ shownTo viewer actor ChatResponse.texts WsEvent.texts
      (r, (w.changed c []).announce c.events)) (content : shown.2 ≠ none) :
    ¬ withhold viewer actor w.users w.chat c.chat before shown.1 := by
  obtain ⟨unblocks,quotesOther,quotesAgain⟩ := shields
  rcases CreateMessageHandler.change_effect sound.seated.members (unused.messages 0) sends with
    ⟨member,m,seated,known,same,rfl⟩ | ⟨member,message,event,reply,inserts,quoted,rfl⟩
  · rw [withhold_same rfl]
    exact texts_resent seated known responds
      (fun own => quotesAgain own member m seated known same) veiled mem content
  · obtain ⟨id,_⟩ := inserts.fields
    have fresh : message.id ∉ w.chat.messages.map Message.id := id ▸ unused.messages 0
    have stays : ∀ q, (w.chat.message q).isSome → ¬ before q →
        ¬ withhold viewer actor w.users w.chat (w.chat.withMessage message) before q := by
      intro q known isOpen
      obtain ⟨m,stored,is⟩ := lookup_isSome_iff.mp known
      have old : q ≠ message.id := by
        rintro rfl
        exact fresh (List.mem_map.mpr ⟨m,stored,is⟩)
      rwa [withhold_same (textOf_withMessage old)]
    rcases mem_shownTo mem with ⟨response,rfl,rfl,own⟩ | ⟨b,emitted,room,sent⟩
    · obtain ⟨ack,rfl,tells,quotes⟩ := responds response rfl
      rcases List.mem_cons.mp own with rfl | preview
      · have is : ack.id = message.id := tells.1.trans (sent_id ..)
        rw [is]
        exact new_open fresh rfl (unblocks rfl)
      · obtain ⟨p,is,rfl⟩ := List.mem_map.mp preview
        obtain ⟨parent,given,shows⟩ := quotes p (by simpa using is)
        rw [shows]
        obtain ⟨loaded,is',rfl⟩ := Option.map_eq_some_iff.mp given
        cases replies : data.replyToMessageId with
        | none =>
          unfold CreateMessageHandler.quoted CreateMessageRequest.command at quoted
          rw [replies] at quoted
          cases quoted
          cases is'
        | some q =>
          obtain ⟨m,found,loads,_⟩ := CreateMessageHandler.quoted_ok replies quoted
          rw [loads] at is'
          obtain rfl := Option.some.inj is'
          have id : (w.chat.loaded m).message.id = q :=
            (MessageEntity.loadDeletedForUserIds_id ..).trans (lookup_mem found).2
          rw [id]
          exact stays q (by rw [found]; rfl) (parent_open inserts veiled replies)
    · rcases broadcast_created sound.seated.members inserts rfl emitted with old |
        ⟨sent',is,sentId,_,reach,quotes⟩
      · cases old
      have unblocked : w.users.blocking viewer actor = false := by
        rcases reach viewer room with own | ⟨viewerApart,seat,shown⟩
        · exact unblocks own
        · exact unblocked_of_shown sound inserts.seated other apart viewerApart seat shown
      rw [is] at sent
      rcases List.mem_cons.mp sent with rfl | preview
      · rw [sentId]
        exact new_open fresh rfl unblocked
      · obtain ⟨p,is',rfl⟩ := List.mem_map.mp preview
        obtain ⟨row,replies,found,live⟩ := quotes p (by simpa using is')
        refine stays p.id (by rw [found]; rfl) ?_
        rcases reach viewer room with rfl | ⟨viewerApart,seat,_⟩
        · exact parent_open inserts veiled replies
        · obtain ⟨text,given⟩ := Option.ne_none_iff_exists'.mp content
          exact quotesOther viewerApart seat unblocked p.id row replies found (live text given).2

/-- What an accepted edit shows, to the editor and to the members who have not deleted the
    message. -/
theorem texts_edited {data : EditMessageRequest} {c : Change LoadedMessage}
    (sound : w.chat.Sound)
    {ack : EditMessageResponse}
    (edits : EditMessageHandler.change amb.now (data.command actor) w.chat = .ok c)
    (tells : (ChatResponse.edited ack).tells c.result.message)
    (shields : (ChatOperation.editMessage data).Shields viewer actor w before)
    (veiled : Veiled viewer w.chat before)
    (mem : shown ∈ shownTo viewer actor ChatResponse.texts WsEvent.texts
      (.ok (.edited ack), (w.changed c []).announce c.events)) :
    ¬ withhold viewer actor w.users w.chat c.chat before shown.1 := by
  obtain ⟨member,m,edited,seated,found,home,changes,chat,events,resultId,_⟩ :=
    EditMessageHandler.change_ok edits
  obtain ⟨live,sender,id,texts⟩ := editor_sends changes
  obtain ⟨stored,is⟩ := lookup_mem found
  obtain ⟨seat,user,_⟩ := conversationMember_ok seated
  have written : c.chat.textOf m.id ≠ w.chat.textOf m.id → m.text ≠ data.text := by
    intro differs same
    rcases texts with ⟨_,kept,_⟩ | ⟨other,_⟩
    · refine differs ?_
      rw [chat, textOf_updateMessage, id, if_pos rfl, kept, is, found, ← is,
        textOf_mem sound.filed.messages stored]
      rfl
    · exact other same
  rcases mem_shownTo mem with ⟨response,done,rfl,own⟩ | ⟨b,emitted,room,sent⟩
  · cases done
    rw [List.mem_singleton.mp own]
    change ¬ withhold _ _ _ _ _ _ ack.id
    rw [tells.1.trans resultId]
    unfold withhold
    split_ifs
    · exact fun withheld => veiled.foreign m stored withheld member
        (ChatDatabase.membersOf_iff.mp seat).1 sender.symm user
    · rw [shields.1 rfl]
      exact Bool.false_ne_true
  · obtain ⟨_,_,⟨_,rfl⟩ | ⟨_,rfl⟩⟩ := edit_ok changes
    · rw [events] at emitted
      cases emitted
    · rw [events, ChatWorld.announce, List.foldl_cons, MessageEvent.handle,
        run_messageEdited] at emitted
      rcases mem_send emitted with old | rfl
      · cases old
      rw [List.mem_singleton.mp sent]
      obtain ⟨_,member',kept⟩ := mem_liveRooms.mp room
      rw [mem_loaded] at kept
      have same : (w.changed c []).chat.isMember m.conversationId viewer =
          w.chat.isMember m.conversationId viewer := by
        rw [ChatWorld.changed, chat]
        rfl
      have conversation : (w.chat.loaded m).message.conversationId = m.conversationId :=
        MessageEntity.loadDeletedForUserIds_conversationId ..
      have own : (w.chat.loaded m).message.id = m.id := MessageEntity.loadDeletedForUserIds_id ..
      dsimp only at member'
      rw [conversation, same] at member'
      change ¬ withhold _ _ _ _ _ _ (w.chat.loaded m).message.id
      rw [own]
      unfold withhold
      split_ifs with text
      · exact seen_open veiled stored member' kept
      · intro blocking
        have there : m.conversationId = data.conversationId := home
        have hidden := shields.2 blocking (there ▸ member') m found home live (written text)
        rw [ChatDatabase.deletedFor, decide_eq_true_eq] at hidden
        exact kept (is.symm ▸ hidden)

/-- The last messages of a list of conversations are not withheld from its reader. -/
theorem texts_listedConversations {page : PaginatedResult UserConversationListItem}
    (sound : w.chat.Sound)
    (shows : ∀ item ∈ page.data, ∀ last, item.lastMessage = some last →
      w.chat.ShowsLast actor last)
    (veiled : Veiled viewer w.chat before)
    (mem : shown ∈ shownTo viewer actor ChatResponse.texts WsEvent.texts
      (.ok (.conversations page), w.silent)) :
    ¬ withhold viewer actor w.users w.chat w.silent.chat before shown.1 := by
  have same : w.silent.chat.textOf shown.1 = w.chat.textOf shown.1 := rfl
  rw [withhold_same same]
  rcases mem_shownTo mem with ⟨response,done,rfl,own⟩ | ⟨_,emitted,_⟩
  · cases done
    obtain ⟨item,memItem,last⟩ := List.mem_flatMap.mp own
    obtain ⟨lastMessage,is,rfl⟩ := List.mem_map.mp last
    obtain ⟨cm,stored,live,rfl,last,points,_,same,_⟩ :=
      shows item memItem lastMessage (by simpa using is)
    obtain ⟨_,m,memm,id,_,home,_,kept⟩ := sound.pointing cm stored live _ points
    change ¬ before lastMessage.id
    rw [← same, ← id]
    exact seen_open veiled memm (isMember_row.mpr ⟨_,stored,live,home.symm,rfl⟩) kept
  · cases emitted

/-- The messages of a page and the parents they quote are not withheld from its reader. -/
theorem texts_listedMessages {conversationId : Uuid} {page : GetConversationMessageListResponse}
    (sound : w.chat.Sound) (member : w.chat.isMember conversationId actor = true)
    (shows : ∀ item ∈ page.list, w.chat.ShowsItem actor conversationId item)
    (veiled : Veiled viewer w.chat before)
    (mem : shown ∈ shownTo viewer actor ChatResponse.texts WsEvent.texts
      (.ok (.messages page), w.silent)) (content : shown.2 ≠ none) :
    ¬ withhold viewer actor w.users w.chat w.silent.chat before shown.1 := by
  have same : w.silent.chat.textOf shown.1 = w.chat.textOf shown.1 := rfl
  rw [withhold_same same]
  rcases mem_shownTo mem with ⟨response,done,rfl,own⟩ | ⟨_,emitted,_⟩
  · cases done
    obtain ⟨item,memItem,texts⟩ := List.mem_flatMap.mp own
    obtain ⟨m,stored,id,home,kept,_,quotes⟩ := shows item memItem
    rcases List.mem_cons.mp texts with rfl | preview
    · change ¬ before item.id
      rw [← id]
      exact seen_open veiled stored (home ▸ member) kept
    · obtain ⟨p,is,rfl⟩ := List.mem_map.mp preview
      obtain ⟨replies,q,found,visible⟩ := quotes p (by simpa using is)
      obtain ⟨parent,memp,pid,there⟩ := sound.filed.replies m stored p.id replies
      obtain ⟨memq,qid⟩ := lookup_mem found
      obtain rfl := keyed_unique sound.filed.messages memp memq (pid.trans qid.symm)
      obtain ⟨text,given⟩ := Option.ne_none_iff_exists'.mp content
      have shown := (visible text given).2
      rw [ChatDatabase.visibleTo, Bool.and_eq_true, ChatDatabase.deletedFor,
        Bool.not_eq_true', decide_eq_false_iff_not] at shown
      change ¬ before p.id
      rw [← pid]
      exact seen_open veiled memp (there ▸ home ▸ member) shown.2
  · cases emitted

/-- The broadcast of a deletion carries no text. -/
theorem texts_announce {events : List MessageEvent}
    (deletions : ∀ event ∈ events, ∃ e, event = .deleted e) {b : Broadcast}
    (mem : b ∈ (w.announce events).emitted) : b ∈ w.emitted ∨ b.event.texts = [] := by
  induction events generalizing w with
  | nil => exact Or.inl mem
  | cons event rest ih =>
    obtain ⟨e,rfl⟩ := deletions _ List.mem_cons_self
    rw [ChatWorld.announce, List.foldl_cons, MessageEvent.handle, run_messageDeleted] at mem
    rcases ih (fun event mem => deletions event (List.mem_cons_of_mem _ mem)) mem with old | new
    · rcases mem_send old with before | rfl
      · exact Or.inl before
      · exact Or.inr rfl
    · exact Or.inr new

end Texts

section Shield
variable {ilike : JsString → JsString → Bool} {viewer : Uuid} {w : ChatWorld}
  {before : Uuid → Prop}

/-- An operation that shields the viewer shows him no withheld text. -/
theorem texts_of_veiled {amb : Ambient} {actor : Uuid} {operation : ChatOperation}
    (sound : w.chat.Sound) (unused : ChatDatabase.Unused amb w.chat)
    (shields : operation.Shields viewer actor w before) (veiled : Veiled viewer w.chat before)
    {shown : ShownText}
    (mem : shown ∈ shownTo viewer actor ChatResponse.texts WsEvent.texts
      (w.perform ilike amb actor operation)) (content : shown.2 ≠ none) :
    ¬ (Turn.request amb actor operation).withhold ilike viewer w before shown.1 := by
  have outcome := outcome_perform ilike amb actor w operation
  change ¬ withhold _ _ _ _ (w.perform ilike amb actor operation).2.chat _ _
  cases is : w.perform ilike amb actor operation with
  | mk r v =>
    rw [is] at outcome mem
    dsimp only
    cases outcome with
    | refused => rcases mem_shownTo mem with ⟨_,done,_⟩ | ⟨_,emitted,_⟩ <;> contradiction
    | rolledBack => rcases mem_shownTo mem with ⟨_,done,_⟩ | ⟨_,emitted,_⟩ <;> contradiction
    | created accounts unblocked opens sends announces responds =>
      exact texts_created sound unused unblocked.1 opens sends announces responds shields mem
    | sent other apart accounts unblocked sends responds =>
      rw [announce_chat]
      exact texts_sent sound unused other apart sends responds shields veiled mem content
    | edited edits tells =>
      rw [announce_chat]
      exact texts_edited sound edits tells shields veiled mem
    | @deleted data _ c deletes =>
      obtain ⟨_,_,_,_,_,_,changes,_,published⟩ := DeleteMessageHandler.change_ok deletes
      rcases mem_shownTo mem with ⟨response,done,_,own⟩ | ⟨b,emitted,_,sent⟩
      · cases done
        cases own
      · rcases texts_announce (published ▸ delete_events changes) emitted with old | none
        · cases old
        · rw [none] at sent
          cases sent
    | @marked data _ c rooms marks responds =>
      obtain ⟨_,_,published,_⟩ := MarkConversationAsReadCommandHandler.change_ok
        sound.seated.conversations sound.seated.members marks
      rcases mem_shownTo mem with ⟨response,done,_,own⟩ | ⟨b,emitted,_,sent⟩
      · rw [responds response done] at own
        cases own
      · rw [published] at emitted
        change b ∈ (if rooms = [] then [] else [_]) at emitted
        split at emitted
        · cases emitted
        · rw [List.mem_singleton.mp emitted] at sent
          cases sent
    | listedConversations shows => exact texts_listedConversations sound shows veiled mem
    | listedMessages member shows => exact texts_listedMessages sound member shows veiled mem content
    | blocked kept responds plain =>
      rcases mem_shownTo mem with ⟨response,done,_,own⟩ | ⟨b,emitted,_,sent⟩
      · rw [responds response done] at own
        cases own
      · rw [plain b emitted] at sent
        cases sent

theorem veiled_turn {turn : Turn} (sound : w.chat.Sound) (allowed : turn.Allowed w)
    (shields : turn.Shields viewer w before) (veiled : Veiled viewer w.chat before) :
    Veiled viewer (turn.run ilike w).chat (turn.withhold ilike viewer w before) := by
  cases turn with
  | request amb actor operation =>
    exact veiled_effect (effect_of_sound ilike actor operation sound allowed) allowed sound shields
      veiled
  | elsewhere users => exact veiled

end Shield

namespace Turn
variable {ilike : JsString → JsString → Bool} {viewer : Uuid}

/-- What is withheld from the viewer after a session. -/
def withheldAfter (ilike : JsString → JsString → Bool) (viewer : Uuid) :
    List Turn → ChatWorld → (Uuid → Prop) → Uuid → Prop
  | [], _, before => before
  | turn :: rest, w, before => withheldAfter ilike viewer rest (turn.run ilike w)
      (turn.withhold ilike viewer w before)

/-- A session all of whose steps shield the viewer. -/
def AlongShielded (ilike : JsString → JsString → Bool) (viewer : Uuid) :
    List Turn → ChatWorld → (Uuid → Prop) → Prop
  | [], _, _ => True
  | turn :: rest, w, before => turn.Allowed w ∧ turn.Shields viewer w before ∧
      AlongShielded ilike viewer rest (turn.run ilike w) (turn.withhold ilike viewer w before)

/-- The texts that reach the viewer in an operation are not withheld from him after it. -/
def ShowsOpen (ilike : JsString → JsString → Bool) (viewer : Uuid) (turns : List Turn)
    (start : ChatWorld) (amb : Ambient) (actor : Uuid) (operation : ChatOperation) : Prop :=
  ∀ shown ∈ shownTo viewer actor ChatResponse.texts WsEvent.texts
      ((runAll ilike turns start).perform ilike amb actor operation), shown.2 ≠ none →
    ¬ (request amb actor operation).withhold ilike viewer (runAll ilike turns start)
      (withheldAfter ilike viewer turns start fun _ => False) shown.1

theorem veiled_session {turns : List Turn} {w : ChatWorld} {before : Uuid → Prop}
    (along : AlongShielded ilike viewer turns w before) (sound : w.chat.Sound)
    (veiled : Veiled viewer w.chat before) : (runAll ilike turns w).chat.Sound ∧
      Veiled viewer (runAll ilike turns w).chat (withheldAfter ilike viewer turns w before) := by
  induction turns generalizing w before with
  | nil => exact ⟨sound,veiled⟩
  | cons turn rest ih =>
    obtain ⟨allowed,shields,later⟩ := along
    exact ih later (sound_turn sound allowed) (veiled_turn sound allowed shields veiled)

end Turn

/-- In every session that shields a viewer, no text written while he blocked its author reaches
    him, in that operation or in any later one. -/
theorem blocked_texts_withheld {ilike : JsString → JsString → Bool} {viewer : Uuid}
    {w : ChatWorld} {turns : List Turn} (empty : w.chat = ⟨[],[],[],[]⟩)
    (along : Turn.AlongShielded ilike viewer turns w fun _ => False) {amb : Ambient}
    (unused : ChatDatabase.Unused amb (Turn.runAll ilike turns w).chat) {actor : Uuid}
    {operation : ChatOperation}
    (shields : operation.Shields viewer actor (Turn.runAll ilike turns w)
      (Turn.withheldAfter ilike viewer turns w fun _ => False)) :
    Turn.ShowsOpen ilike viewer turns w amb actor operation := by
  have start : w.chat.Sound ∧ Veiled viewer w.chat fun _ => False := by
    rw [empty]
    exact ⟨ChatDatabase.sound_empty,⟨by simp,by simp⟩⟩
  obtain ⟨sound,veiled⟩ := Turn.veiled_session along start.1 start.2
  exact fun _ mem content => texts_of_veiled sound unused shields veiled mem content

/-- User 2 blocks user 1. -/
def blockade : Turn := .request (numberedDraws 2) 2 (.block 1)

/-- User 2 has blocked user 1, who goes on writing to him. -/
theorem blocked_texts_withheld_of_send : Turn.ShowsOpen noMatch 2 [opening, blockade] emptyWorld
    (numberedDraws 3) 1 (.sendMessage ⟨100,[121, 111],none,none⟩) := by
  have along : Turn.AlongShielded noMatch 2 [opening, blockade] emptyWorld fun _ => False :=
    ⟨unused_numberedDraws (by decide) (by decide) (by decide),by rintro ⟨⟩,
      unused_numberedDraws (by decide) (by decide) (by decide),trivial,trivial⟩
  have unused : ChatDatabase.Unused (numberedDraws 3)
      (Turn.runAll noMatch [opening, blockade] emptyWorld).chat :=
    unused_numberedDraws (by decide) (by decide) (by decide)
  have blocks : (Turn.runAll noMatch [opening, blockade] emptyWorld).users.blocking 2 1 = true := by
    decide
  have shields : (ChatOperation.sendMessage ⟨100,[121, 111],none,none⟩).Shields 2 1
      (Turn.runAll noMatch [opening, blockade] emptyWorld)
      (Turn.withheldAfter noMatch 2 [opening, blockade] emptyWorld fun _ => False) := by
    refine ⟨nofun,fun _ _ unblocks => ?_,nofun⟩
    rw [blocks] at unblocks
    cases unblocks
  exact blocked_texts_withheld rfl along unused shields

/-- User 2 has blocked user 1, and has the new text of an old message in his room when user 1
    edits it. -/
theorem blocked_edit_delivered : ¬ Turn.ShowsOpen noMatch 2 [opening, blockade] emptyWorld
    (numberedDraws 3) 1 (.editMessage ⟨100,104,[121, 111]⟩) := by
  intro shows
  have written : ((Turn.runAll noMatch [opening, blockade] emptyWorld).perform noMatch
        (numberedDraws 3) 1 (.editMessage ⟨100,104,[121, 111]⟩)).2.chat.textOf 104 ≠
      (Turn.runAll noMatch [opening, blockade] emptyWorld).chat.textOf 104 := by decide
  exact shows (104, some [121, 111]) (by decide) (by decide)
    ((withhold_written written).mpr (by decide))

end Chatterbox
