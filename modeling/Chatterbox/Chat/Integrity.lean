import Chatterbox.Chat.Effects

/-!
The integrity of the chat tables under sequences of operations: keys are unique, members
sit in stored conversations and are removed together with them, messages have their sender
and the message they quote in their own conversation, and the pointer of a live member row
names a message that the member sees. Nothing is asked of the clock.
-/
namespace Chatterbox
open Concurrency Tables

/-- The columns of a message that are written once. -/
def Message.origin (m : Message) :
    Uuid × MessageType × Uuid × Uuid × Time × Option Uuid × Option JsString :=
  (m.id, m.type, m.senderId, m.conversationId, m.createdAt, m.replyToMessageId, m.clientMessageId)

namespace ChatDatabase

/-- What holds of conversations and their members. -/
structure Seated (db : ChatDatabase) : Prop where
  conversations : Keyed Conversation.id db.conversations
  members : Keyed ConversationMember.id db.members
  seats : Keyed ConversationMember.seat db.members
  homes : ∀ cm ∈ db.members, ∃ c ∈ db.conversations, c.id = cm.conversationId ∧
    (c.deletedAt = none ↔ cm.deletedAt = none)
  couples : ∀ a ∈ db.members, ∀ b ∈ db.members, ∀ c ∈ db.members,
    a.conversationId = b.conversationId → b.conversationId = c.conversationId →
      a.userId = b.userId ∨ b.userId = c.userId ∨ a.userId = c.userId

/-- What holds of messages. -/
structure Filed (db : ChatDatabase) : Prop where
  messages : Keyed Message.id db.messages
  senders : ∀ m ∈ db.messages, ∃ cm ∈ db.members, cm.id = m.senderId ∧
    cm.conversationId = m.conversationId
  replies : ∀ m ∈ db.messages, ∀ id, m.replyToMessageId = some id → ∃ parent ∈ db.messages,
    parent.id = id ∧ parent.conversationId = m.conversationId
  deletions : ∀ r ∈ db.deletedMessages, r.messageId ∈ db.messages.map Message.id

/-- The pointers of live member rows name messages that their members see. -/
def Pointing (db : ChatDatabase) : Prop :=
  ∀ cm ∈ db.members, cm.deletedAt = none → ∀ id, cm.lastMessageId = some id →
    ∃ t, db.Shows cm.conversationId cm.userId id t

structure Sound (db : ChatDatabase) : Prop where
  seated : db.Seated
  filed : db.Filed
  pointing : db.Pointing

theorem sound_empty : (⟨[],[],[],[]⟩ : ChatDatabase).Sound :=
  ⟨⟨List.nodup_nil,List.nodup_nil,List.nodup_nil,by simp,by simp⟩,
    ⟨List.nodup_nil,by simp,by simp,by simp⟩,by simp [Pointing]⟩

section Rows
variable {db db' : ChatDatabase}

theorem identity_inj {a b : ConversationMember} (same : a.identity = b.identity) :
    a.id = b.id ∧ a.userId = b.userId ∧ a.conversationId = b.conversationId ∧
      a.deletedAt = b.deletedAt := by
  simpa only [ConversationMember.identity, Prod.mk.injEq] using same

theorem origin_inj {a b : Message} (same : a.origin = b.origin) :
    a.id = b.id ∧ a.senderId = b.senderId ∧ a.conversationId = b.conversationId ∧
      a.replyToMessageId = b.replyToMessageId := by
  simp only [Message.origin, Prod.mk.injEq] at same
  exact ⟨same.1,same.2.2.1,same.2.2.2.1,same.2.2.2.2.2.1⟩

/-- A row of one table, found by its column in the other. -/
theorem same_row {Row Column : Type} {column : Row → Column} {rows rows' : List Row}
    (same : rows'.map column = rows.map column) {r : Row} (mem : r ∈ rows') :
    ∃ old ∈ rows, column old = column r := by
  have known : column r ∈ rows.map column := same ▸ List.mem_map_of_mem mem
  obtain ⟨old,memold,is⟩ := List.mem_map.mp known
  exact ⟨old,memold,is⟩

/-- Conversations and members, as far as a live select recognises them, are all that counts. -/
theorem Seated.frame (seated : db.Seated)
    (conversations : db'.conversations = db.conversations)
    (members : db'.members.map ConversationMember.identity =
      db.members.map ConversationMember.identity) : db'.Seated := by
  have column : ∀ {Value : Type} (f : Uuid × Uuid × Uuid × Option Time → Value),
      db'.members.map (f ∘ ConversationMember.identity) =
        db.members.map (f ∘ ConversationMember.identity) := by
    intro Value f
    rw [← List.map_map, members, List.map_map]
  refine ⟨conversations ▸ seated.conversations,?_,?_,fun cm mem => ?_,fun a ha b hb c hc => ?_⟩
  · exact keyed_of_identity members seated.members
  · unfold Keyed
    rw [show ConversationMember.seat = (fun r => (r.2.2.1, r.2.1)) ∘ ConversationMember.identity
      from rfl, column]
    exact seated.seats
  · obtain ⟨old,memold,is⟩ := same_row members mem
    obtain ⟨_,_,home,date⟩ := identity_inj is
    rw [conversations, ← home, ← date]
    exact seated.homes old memold
  · obtain ⟨a',ha',isA⟩ := same_row members ha
    obtain ⟨b',hb',isB⟩ := same_row members hb
    obtain ⟨c',hc',isC⟩ := same_row members hc
    obtain ⟨_,userA,homeA,_⟩ := identity_inj isA
    obtain ⟨_,userB,homeB,_⟩ := identity_inj isB
    obtain ⟨_,userC,homeC,_⟩ := identity_inj isC
    rw [← userA, ← userB, ← userC, ← homeA, ← homeB, ← homeC]
    exact seated.couples a' ha' b' hb' c' hc'

/-- The members of a conversation, found again. -/
theorem membersOf_frame (members : db'.members.map ConversationMember.identity =
      db.members.map ConversationMember.identity) {conversationId : Uuid}
    {cm : ConversationMember} (mem : cm ∈ db'.membersOf conversationId) :
    ∃ old ∈ db.membersOf conversationId, old.id = cm.id ∧ old.userId = cm.userId := by
  obtain ⟨stored,live,home⟩ := membersOf_iff.mp mem
  obtain ⟨old,memold,is⟩ := same_row members stored
  obtain ⟨id,user,home',live'⟩ := identity_inj is
  exact ⟨old,membersOf_iff.mpr ⟨memold,live'.trans live,home'.trans home⟩,id,user⟩

/-- Next to a member there is at most one other. -/
theorem Seated.other (seated : db.Seated) {conversationId : Uuid} {a b c : ConversationMember}
    (ha : a ∈ db.membersOf conversationId) (hb : b ∈ db.membersOf conversationId)
    (hc : c ∈ db.membersOf conversationId) (ab : b.userId ≠ a.userId) (ac : c.userId ≠ a.userId) :
    b.userId = c.userId := by
  obtain ⟨storedA,_,homeA⟩ := membersOf_iff.mp ha
  obtain ⟨storedB,_,homeB⟩ := membersOf_iff.mp hb
  obtain ⟨storedC,_,homeC⟩ := membersOf_iff.mp hc
  rcases seated.couples a storedA b storedB c storedC (homeA.trans homeB.symm)
    (homeB.trans homeC.symm) with same | same | same
  · exact absurd same.symm ab
  · exact same
  · exact absurd same.symm ac

theorem Filed.frame (filed : db.Filed)
    (messages : db'.messages.map Message.origin = db.messages.map Message.origin)
    (members : db'.members.map ConversationMember.identity =
      db.members.map ConversationMember.identity)
    (deletions : ∀ r ∈ db'.deletedMessages, r.messageId ∈ db.messages.map Message.id) :
    db'.Filed := by
  have ids : db'.messages.map Message.id = db.messages.map Message.id := by
    rw [show Message.id = (fun r => r.1) ∘ Message.origin from rfl, ← List.map_map, messages,
      List.map_map]
  refine ⟨?_,fun m mem => ?_,fun m mem id quotes => ?_,ids ▸ deletions⟩
  · unfold Keyed
    rw [ids]
    exact filed.messages
  · obtain ⟨old,memold,is⟩ := same_row messages mem
    obtain ⟨_,sender,home,_⟩ := origin_inj is
    obtain ⟨cm,memcm,id,there⟩ := filed.senders old memold
    obtain ⟨cm',memcm',same⟩ := same_row members.symm memcm
    obtain ⟨id',_,home',_⟩ := identity_inj same
    exact ⟨cm',memcm',by rw [id', id, sender],by rw [home', there, home]⟩
  · obtain ⟨old,memold,is⟩ := same_row messages mem
    obtain ⟨_,_,home,reply⟩ := origin_inj is
    obtain ⟨parent,memp,id',there⟩ := filed.replies old memold id (reply.trans quotes)
    obtain ⟨parent',memp',same⟩ := same_row messages.symm memp
    obtain ⟨pid,_,phome,_⟩ := origin_inj same
    exact ⟨parent',memp',pid.trans id',by rw [phome, there, home]⟩

end Rows

section Blocks
variable {amb : Ambient} {db : ChatDatabase}

/-- Nobody is a member of a conversation of an unused id. -/
theorem Unused.absent (unused : Unused amb db) (seated : db.Seated) (k : Nat) :
    ∀ cm ∈ db.members, cm.conversationId ≠ amb.uuid k := by
  intro cm mem same
  obtain ⟨c,memc,is,_⟩ := seated.homes cm mem
  exact unused.conversations k (List.mem_map.mpr ⟨c,memc,is.trans same⟩)

theorem seated_withConversation (unused : Unused amb db) (seated : db.Seated)
    (userId targetUserId : Uuid) : (db.withConversation amb userId targetUserId).Seated := by
  have absent := unused.absent seated 0
  have new : ∀ cm ∈ (db.withConversation amb userId targetUserId).members,
      cm ∈ db.members ∨ (cm.conversationId = amb.uuid 0 ∧ cm.deletedAt = none ∧
        ((cm.id = amb.uuid 2 ∧ cm.userId = userId) ∨
          (userId ≠ targetUserId ∧ cm.id = amb.uuid 3 ∧ cm.userId = targetUserId))) := by
    intro cm mem
    rcases List.mem_append.mp mem with old | added
    · exact Or.inl old
    · rcases mem_newMembers added with rfl | ⟨other,rfl⟩
      · exact Or.inr ⟨rfl,rfl,Or.inl ⟨rfl,rfl⟩⟩
      · exact Or.inr ⟨rfl,rfl,Or.inr ⟨other,rfl,rfl⟩⟩
  refine ⟨?_,keyed_withConversation unused seated.members _ _,?_,fun cm mem => ?_,
    fun a ha b hb c hc ab bc => ?_⟩
  · exact keyed_snoc seated.conversations (unused.conversations 0)
  · unfold Keyed withConversation
    rw [List.map_append, List.nodup_append]
    refine ⟨seated.seats,?_,?_⟩
    · split_ifs with same
      · exact List.nodup_singleton _
      · simp [ConversationMember.seat, same]
    · rintro _ old _ added rfl
      obtain ⟨cm,mem,seat⟩ := List.mem_map.mp old
      obtain ⟨cm',mem',seat'⟩ := List.mem_map.mp added
      have home : cm.conversationId = cm'.conversationId :=
        congrArg Prod.fst (seat.trans seat'.symm)
      rcases mem_newMembers mem' with rfl | ⟨_,rfl⟩ <;> exact absent cm mem home
  · rcases new cm mem with old | ⟨home,live,_⟩
    · obtain ⟨c,memc,is⟩ := seated.homes cm old
      exact ⟨c,List.mem_append_left _ memc,is⟩
    · exact ⟨_,List.mem_append_right _ (List.mem_singleton.mpr rfl),home.symm,
        iff_of_true rfl live⟩
  · rcases new a ha with oldA | ⟨homeA,_,userA⟩
    · rcases new b hb with oldB | ⟨homeB,_⟩
      · rcases new c hc with oldC | ⟨homeC,_⟩
        · exact seated.couples a oldA b oldB c oldC ab bc
        · exact absurd (bc.trans homeC) (absent b oldB)
      · exact absurd (ab.trans homeB) (absent a oldA)
    · rcases new b hb with oldB | ⟨homeB,_,userB⟩
      · exact absurd (ab.symm.trans homeA) (absent b oldB)
      · rcases new c hc with oldC | ⟨homeC,_,userC⟩
        · exact absurd (bc.symm.trans homeB) (absent c oldC)
        · rcases userA with ⟨_,a⟩ | ⟨_,_,a⟩ <;> rcases userB with ⟨_,b⟩ | ⟨_,_,b⟩ <;>
            rcases userC with ⟨_,c⟩ | ⟨_,_,c⟩ <;> simp [a, b, c]

theorem seated_removed (seated : db.Seated) (conversationId : Uuid) (now : Time) :
    (db.removeConversation conversationId now).2.Seated := by
  have sameConversation : ∀ c : Conversation,
      Conversation.id { c with deletedAt := some now } = c.id := fun _ => rfl
  have sameMember : ∀ m : ConversationMember,
      ConversationMember.id { m with deletedAt := some now } = m.id := fun _ => rfl
  have sameSeat : ∀ m : ConversationMember,
      ConversationMember.seat { m with deletedAt := some now } = m.seat := fun _ => rfl
  have users : ∀ m ∈ (db.removeConversation conversationId now).2.members, ∃ old ∈ db.members,
      old.conversationId = m.conversationId ∧ old.userId = m.userId := by
    intro m mem
    rcases mem_amend.mp mem with ⟨old,memold,_,rfl⟩ | ⟨old,_⟩
    · exact ⟨old,memold,rfl,rfl⟩
    · exact ⟨m,old,rfl,rfl⟩
  refine ⟨keyed_amend seated.conversations sameConversation,keyed_amend seated.members sameMember,
    keyed_amend seated.seats sameSeat,fun cm mem => ?_,fun a ha b hb c hc => ?_⟩
  · have both : ∀ {c : Conversation} {cm : ConversationMember},
        (c.deletedAt = none ↔ cm.deletedAt = none) → c.deletedAt.isNone = cm.deletedAt.isNone := by
      intro c cm live
      rw [Bool.eq_iff_iff, Option.isNone_iff_eq_none, Option.isNone_iff_eq_none]
      exact live
    rcases mem_amend.mp mem with ⟨old,memold,hit,rfl⟩ | ⟨old,miss⟩
    · obtain ⟨c,memc,is,live⟩ := seated.homes old memold
      refine ⟨_,mem_amend.mpr (Or.inl ⟨c,memc,?_,rfl⟩),is,iff_of_false nofun nofun⟩
      rw [is, both live]
      exact hit
    · obtain ⟨c,memc,is,live⟩ := seated.homes cm old
      refine ⟨c,mem_amend.mpr (Or.inr ⟨memc,?_⟩),is,live⟩
      rw [is, both live]
      exact miss
  · obtain ⟨a',ha',homeA,userA⟩ := users a ha
    obtain ⟨b',hb',homeB,userB⟩ := users b hb
    obtain ⟨c',hc',homeC,userC⟩ := users c hc
    rw [← userA, ← userB, ← userC, ← homeA, ← homeB, ← homeC]
    exact seated.couples a' ha' b' hb' c' hc'

/-- The member rows after a send are the old ones with other pointers. -/
theorem identity_withMessage (message : MessageEntity) :
    (db.withMessage message).members.map ConversationMember.identity =
      db.members.map ConversationMember.identity := by
  have frame : ∀ cm, (message.updateMember cm).identity = cm.identity := fun _ => rfl
  exact map_amend frame _

theorem message_sent (message : MessageEntity) (id : Uuid) :
    (db.withMessage message).message id = (db.message id).or
      (if message.id = id then some (Message.fromDomain message) else none) :=
  lookup_append ..

/-- A send leaves the stored messages, and who has deleted them. -/
theorem message_withMessage {message : MessageEntity} {id : Uuid}
    (known : (db.message id).isSome) : (db.withMessage message).message id = db.message id := by
  rw [message_sent]
  exact Option.or_of_isSome known

theorem message_new {message : MessageEntity} (fresh : message.id ∉ db.messages.map Message.id) :
    db.message message.id = none ∧
      (db.withMessage message).message message.id = some (Message.fromDomain message) := by
  have missing : db.message message.id = none :=
    lookup_none_iff.mpr fun m mem same => fresh (List.mem_map.mpr ⟨m,mem,same⟩)
  rw [message_sent, missing, if_pos rfl]
  exact ⟨rfl,rfl⟩

theorem deletedFor_withMessage {message : MessageEntity} {userId id : Uuid}
    (other : id ≠ message.id) :
    (db.withMessage message).deletedFor userId id = db.deletedFor userId id := by
  unfold deletedFor withMessage
  refine decide_eq_decide.mpr (mem_deletionRows.trans (or_iff_right ?_))
  exact fun new => other new.1

theorem identity_withSeen (memberId messageId : Uuid) :
    (db.withSeen memberId messageId).members.map ConversationMember.identity =
      db.members.map ConversationMember.identity := by
  have frame : ∀ cm : ConversationMember, ConversationMember.identity
      { cm with lastSeenMessageId := some messageId } = cm.identity := fun _ => rfl
  exact map_amend frame _

/-- A deletion changes one pointer of some rows of its conversation. -/
theorem storeDeletion_members (members : Keyed ConversationMember.id db.members)
    (d : MessageDeletion) :
    (db.storeDeletion d (db.movedPointers d)).members =
      amend (fun cm => cm ∈ (db.membersOf d.conversationId).filter fun m =>
        m.lastMessageId = some d.messageId) (db.movePointer d) db.members := by
  have frame : ∀ cm, (db.movePointer d cm).id = cm.id := fun _ => rfl
  have stays : ∀ cm ∈ (db.membersOf d.conversationId).filter fun m =>
      m.lastMessageId = some d.messageId, cm ∈ db.members :=
    fun cm mem => (membersOf_iff.mp (List.mem_of_mem_filter mem)).1
  exact saveAll_change members (keyed_filter (keyed_membersOf members _) _) stays frame

theorem identity_storeDeletion (members : Keyed ConversationMember.id db.members)
    (d : MessageDeletion) :
    (db.storeDeletion d (db.movedPointers d)).members.map ConversationMember.identity =
      db.members.map ConversationMember.identity := by
  have frame : ∀ cm, (db.movePointer d cm).identity = cm.identity := fun _ => rfl
  rw [storeDeletion_members members, map_amend frame]

theorem origin_updateMessage (id : Uuid) (text : JsString) (editedAt : Option Time)
    (updatedAt : Time) : (db.updateMessage id text editedAt updatedAt).messages.map Message.origin =
      db.messages.map Message.origin := by
  have frame : ∀ m : Message, (m.withText text editedAt updatedAt).origin = m.origin :=
    fun _ => rfl
  exact map_amend frame _

theorem origin_storeDeletion (d : MessageDeletion) (members : List ConversationMember) :
    (db.storeDeletion d members).messages.map Message.origin = db.messages.map Message.origin := by
  have frame : ∀ m : Message, (d.mark m).origin = m.origin := fun _ => rfl
  exact map_amend frame _

end Blocks

end ChatDatabase

/-- What the message of a send is made of. -/
theorem Inserts.fields {amb : Ambient} {command : CreateMessageCommand} {db : ChatDatabase}
    {member : ConversationMember} {message : MessageEntity} {event : MessageCreatedDomainEvent}
    (sends : Inserts amb command db member message event) :
    message.id = amb.uuid 0 ∧ message.senderId = member.id ∧
      message.conversationId = command.conversationId ∧ message.text = command.text ∧
      message.deletedForUserIds = command.deletedForUserIds ∧ message.deletedAt = none ∧
      message.replyToMessageId = command.replyToMessageId ∧ message.createdAt = amb.now ∧
      event.messageId = message.id ∧ event.conversationId = message.conversationId ∧
      event.senderId = message.senderId ∧ event.text = message.text ∧
      event.deletedForUserIds = message.deletedForUserIds ∧
      event.replyToMessageId = message.replyToMessageId := by
  obtain ⟨_,key,_,is⟩ := MessageEntity.create_ok sends.built
  obtain ⟨rfl,rfl⟩ := Prod.mk.inj is
  exact ⟨rfl,rfl,rfl,rfl,rfl,rfl,rfl,rfl,rfl,rfl,rfl,rfl,rfl,rfl⟩

namespace ChatDatabase
section Messages
variable {amb : Ambient} {db : ChatDatabase} {command : CreateMessageCommand}
  {member : ConversationMember} {message : MessageEntity} {event : MessageCreatedDomainEvent}

/-- The message a reply quotes is one of the conversation. -/
theorem Inserts.parent (sends : Inserts amb command db member message event) {id : Uuid}
    (quotes : command.replyToMessageId = some id) : ∃ m ∈ db.messages, m.id = id ∧
      m.conversationId = command.conversationId ∧ m.deletedAt = none ∧
      ⟨command.senderId,id⟩ ∉ db.deletedMessages := by
  obtain ⟨reply,quoted⟩ := sends.quotes
  obtain ⟨m,found,_,home,live,kept⟩ := CreateMessageHandler.quoted_ok quotes quoted
  exact ⟨m,(lookup_mem found).1,(lookup_mem found).2,home,live,kept⟩

theorem filed_withMessage (sends : Inserts amb command db member message event)
    (unused : amb.uuid 0 ∉ db.messages.map Message.id) (filed : db.Filed) :
    (db.withMessage message).Filed := by
  obtain ⟨id,sender,home,_,_,_,reply,_⟩ := sends.fields
  obtain ⟨seated,_⟩ := conversationMember_ok sends.seated
  obtain ⟨stored,_,there⟩ := membersOf_iff.mp seated
  refine ⟨?_,fun m mem => ?_,fun m mem q quotes => ?_,fun r mem => ?_⟩
  · refine keyed_snoc filed.messages ?_
    change message.id ∉ db.messages.map Message.id
    rwa [id]
  · have known : ∃ cm ∈ db.members, cm.id = m.senderId ∧
        cm.conversationId = m.conversationId := by
      rcases List.mem_append.mp mem with old | new
      · exact filed.senders m old
      · rw [List.mem_singleton.mp new]
        exact ⟨member,stored,sender.symm,there.trans home.symm⟩
    obtain ⟨cm,memcm,is,there⟩ := known
    obtain ⟨cm',memcm',same⟩ := same_row (identity_withMessage message).symm memcm
    obtain ⟨id',_,home',_⟩ := identity_inj same
    exact ⟨cm',memcm',id'.trans is,home'.trans there⟩
  · rcases List.mem_append.mp mem with old | new
    · obtain ⟨parent,memp,is⟩ := filed.replies m old q quotes
      exact ⟨parent,List.mem_append_left _ memp,is⟩
    · rw [List.mem_singleton.mp new] at quotes ⊢
      obtain ⟨parent,memp,is,there,_⟩ := Inserts.parent sends (reply.symm.trans quotes)
      exact ⟨parent,List.mem_append_left _ memp,is,there.trans home.symm⟩
  · unfold withMessage
    rw [List.map_append, List.mem_append]
    rcases mem_deletionRows.mp mem with ⟨its,_⟩ | old
    · exact Or.inr (List.mem_singleton.mpr its)
    · exact Or.inl (filed.deletions r old)

/-- The message of a send is seen by everybody from whom the send does not hide it. -/
theorem shows_withMessage (sends : Inserts amb command db member message event)
    (unused : amb.uuid 0 ∉ db.messages.map Message.id) (filed : db.Filed)
    {conversationId userId id : Uuid} {createdAt : Time} :
    (db.withMessage message).Shows conversationId userId id createdAt ↔
      db.Shows conversationId userId id createdAt ∨
        ((id = message.id ∧ createdAt = message.createdAt) ∧
          conversationId = message.conversationId ∧ userId ∉ message.deletedForUserIds) := by
  obtain ⟨is,_,_,_,_,live,_⟩ := sends.fields
  have absent : ∀ m ∈ db.messages, m.id ≠ (Message.fromDomain message).id :=
    fun m mem same => unused (List.mem_map.mpr ⟨m,mem,same.trans is⟩)
  have untouched : ∀ r ∈ db.deletedMessages, r.messageId ≠ (Message.fromDomain message).id :=
    fun r mem same => unused (is.symm.trans same.symm ▸ filed.deletions r mem)
  exact shows_sent absent untouched live (save_new absent).symm rfl

theorem pointing_withMessage (sends : Inserts amb command db member message event)
    (unused : amb.uuid 0 ∉ db.messages.map Message.id) (filed : db.Filed)
    (pointing : db.Pointing) : (db.withMessage message).Pointing := by
  intro cm mem live id points
  rcases mem_amend.mp mem with ⟨old,stored,seated,rfl⟩ | ⟨stored,_⟩
  · obtain ⟨_,alive,there⟩ := membersOf_iff.mp (of_decide_eq_true seated)
    by_cases hidden : old.userId ∈ message.deletedForUserIds
    · have same : (message.updateMember old).lastMessageId = old.lastMessageId := if_pos hidden
      obtain ⟨t,shown⟩ := pointing old stored alive id (same.symm.trans points)
      exact ⟨t,(shows_withMessage sends unused filed).mpr (Or.inl shown)⟩
    · have new : (message.updateMember old).lastMessageId = some message.id := if_neg hidden
      rw [new, Option.some.injEq] at points
      exact ⟨message.createdAt,(shows_withMessage sends unused filed).mpr
        (Or.inr ⟨⟨points.symm,rfl⟩,there,hidden⟩)⟩
  · obtain ⟨t,shown⟩ := pointing cm stored live id points
    exact ⟨t,(shows_withMessage sends unused filed).mpr (Or.inl shown)⟩

theorem pointing_updateMessage (id : Uuid) (text : JsString) (editedAt : Option Time)
    (updatedAt : Time) (pointing : db.Pointing) :
    (db.updateMessage id text editedAt updatedAt).Pointing := by
  intro cm mem live k points
  obtain ⟨t,shown⟩ := pointing cm mem live k points
  exact ⟨t,(shows_updateMessage id text editedAt updatedAt).mpr shown⟩

/-- What takes the place of a deleted message is seen. -/
theorem shows_latestVisible {conversationId userId id : Uuid}
    (is : (db.latestVisible conversationId userId).map Message.id = some id) :
    ∃ t, db.Shows conversationId userId id t := by
  obtain ⟨m,latest,rfl⟩ := Option.map_eq_some_iff.mp is
  obtain ⟨mem,visible⟩ := List.mem_filter.mp (List.argmax_mem latest)
  simp only [visibleTo, deletedFor, Bool.and_eq_true, decide_eq_true_eq,
    Option.isNone_iff_eq_none, Bool.not_eq_true', decide_eq_false_iff_not] at visible
  exact ⟨m.createdAt,m,mem,rfl,rfl,visible⟩

theorem pointing_storeDeletion (members : Keyed ConversationMember.id db.members)
    {d : MessageDeletion} {row : Message} (keyed : Keyed Message.id db.messages)
    (stored : row ∈ db.messages) (is : row.id = d.messageId)
    (home : row.conversationId = d.conversationId)
    (gone : d.deletedAt = none → row.deletedAt = none) (pointing : db.Pointing) :
    (db.storeDeletion d (db.movedPointers d)).Pointing := by
  have gone' : ∀ m ∈ db.messages, m.id = d.messageId → d.deletedAt = none →
      m.deletedAt = none := by
    intro m mem same
    rw [keyed_unique keyed mem stored (same.trans is.symm)]
    exact gone
  intro cm mem live id points
  change ∃ t, (db.applyDeletion d).Shows cm.conversationId cm.userId id t
  rw [storeDeletion_members members] at mem
  rcases mem_amend.mp mem with ⟨old,_,picked,rfl⟩ | ⟨old,missed⟩
  · obtain ⟨seated,_⟩ := List.mem_filter.mp (of_decide_eq_true picked)
    obtain ⟨_,_,there⟩ := membersOf_iff.mp seated
    change ∃ t, (db.applyDeletion d).Shows old.conversationId old.userId id t
    rw [there]
    exact shows_latestVisible points
  · obtain ⟨t,shown⟩ := pointing cm old live id points
    refine ⟨t,(shows_applyDeletion gone').2 ?_ shown⟩
    rintro rfl
    obtain ⟨m,memm,same,_,there,_⟩ := shown
    rw [keyed_unique keyed memm stored (same.trans is.symm), home] at there
    have picked := membersOf_iff.mpr ⟨old,live,there.symm⟩
    exact of_decide_eq_false missed (List.mem_filter.mpr ⟨picked,decide_eq_true points⟩)

end Messages

end ChatDatabase

/-- The tables that an accepted deletion works on, and what it stores. -/
theorem delete_row {now : Time} {command : DeleteMessageCommand} {memberId : Uuid}
    {db : ChatDatabase} {m : Message} {deleted : MessageEntity × List MessageEvent}
    (deletes : DeleteMessageHandler.delete now command memberId (db.loaded m).message =
      .ok deleted) :
    deleted.1.deletion.messageId = m.id ∧ deleted.1.deletion.conversationId = m.conversationId ∧
      (deleted.1.deletion.deletedAt = none → m.deletedAt = none) := by
  have row : (db.loaded m).message.id = m.id ∧
      (db.loaded m).message.conversationId = m.conversationId ∧
      (db.loaded m).message.deletedAt = m.deletedAt :=
    ⟨MessageEntity.loadDeletedForUserIds_id ..,
      MessageEntity.loadDeletedForUserIds_conversationId ..,
      MessageEntity.loadDeletedForUserIds_deletedAt ..⟩
  obtain ⟨id,home,gone⟩ := delete_ok deletes
  exact ⟨id.trans row.1,home.trans row.2.1,
    fun live => row.2.2.symm.trans (gone.resolve_left (not_not.mpr live)).2⟩

section Sound
variable {users : UserDatabase} {amb : Ambient} {actor : Uuid} {db db' : ChatDatabase}
  {operation : ChatOperation} {events : List MessageEvent}

theorem sound_withMessage {command : CreateMessageCommand} {member : ConversationMember}
    {message : MessageEntity} {event : MessageCreatedDomainEvent}
    (sends : Inserts amb command db member message event)
    (unused : amb.uuid 0 ∉ db.messages.map Message.id) (sound : db.Sound) :
    (db.withMessage message).Sound :=
  ⟨sound.seated.frame rfl (ChatDatabase.identity_withMessage message),
    ChatDatabase.filed_withMessage sends unused sound.filed,
    ChatDatabase.pointing_withMessage sends unused sound.filed sound.pointing⟩

theorem sound_withConversation (unused : ChatDatabase.Unused amb db) (sound : db.Sound)
    (userId targetUserId : Uuid) : (db.withConversation amb userId targetUserId).Sound := by
  refine ⟨ChatDatabase.seated_withConversation unused sound.seated _ _,
    ⟨sound.filed.messages,fun m mem => ?_,sound.filed.replies,sound.filed.deletions⟩,
    fun cm mem live id points => ?_⟩
  · obtain ⟨cm,memcm,is⟩ := sound.filed.senders m mem
    exact ⟨cm,List.mem_append_left _ memcm,is⟩
  · rcases List.mem_append.mp mem with old | new
    · exact sound.pointing cm old live id points
    · rcases mem_newMembers new with rfl | ⟨_,rfl⟩ <;> cases points

theorem sound_removed (sound : db.Sound) (conversationId : Uuid) (now : Time) :
    (db.removeConversation conversationId now).2.Sound := by
  refine ⟨ChatDatabase.seated_removed sound.seated conversationId now,
    ⟨sound.filed.messages,fun m mem => ?_,sound.filed.replies,sound.filed.deletions⟩,
    fun cm mem live id points => ?_⟩
  · obtain ⟨cm,memcm,is,home⟩ := sound.filed.senders m mem
    cases hit : cm.deletedAt.isNone && decide (cm.conversationId = conversationId) with
    | true => exact ⟨_,mem_amend.mpr (Or.inl ⟨cm,memcm,hit,rfl⟩),is,home⟩
    | false => exact ⟨cm,mem_amend.mpr (Or.inr ⟨memcm,hit⟩),is,home⟩
  · rcases mem_amend.mp mem with ⟨_,_,_,rfl⟩ | ⟨old,_⟩
    · cases live
    · exact sound.pointing cm old live id points

/-- No operation breaks the integrity of the tables. -/
theorem sound_effect (effect : Effect users amb actor db operation db' events)
    (unused : ChatDatabase.Unused amb db) (sound : db.Sound) : db'.Sound := by
  cases effect with
  | nothing => exact sound
  | opened _ _ _ sends =>
    exact sound_withMessage sends (unused.messages 4) (sound_withConversation unused sound _ _)
  | rolledBack => exact sound_removed (sound_withConversation unused sound _ _) _ _
  | sent _ _ _ _ sends => exact sound_withMessage sends (unused.messages 0) sound
  | edited =>
    exact ⟨sound.seated.frame rfl rfl,sound.filed.frame (ChatDatabase.origin_updateMessage ..) rfl
      sound.filed.deletions,ChatDatabase.pointing_updateMessage _ _ _ _ sound.pointing⟩
  | @deleted _ _ m deleted _ found _ deletes =>
    obtain ⟨id,home,gone⟩ := delete_row deletes
    have stored := (lookup_mem found).1
    have identity := ChatDatabase.identity_storeDeletion sound.seated.members deleted.1.deletion
    refine ⟨sound.seated.frame rfl identity,sound.filed.frame
      (ChatDatabase.origin_storeDeletion ..) identity fun r mem => ?_,
      ChatDatabase.pointing_storeDeletion sound.seated.members sound.filed.messages stored id.symm
        home.symm gone sound.pointing⟩
    rcases ChatDatabase.mem_deletionRows.mp mem with ⟨its,_⟩ | old
    · exact List.mem_map.mpr ⟨m,stored,its.symm ▸ id.symm⟩
    · exact sound.filed.deletions r old
  | @marked data member =>
    have identity : (db.withSeen member.id data.messageId).members.map
        ConversationMember.identity = db.members.map ConversationMember.identity :=
      ChatDatabase.identity_withSeen member.id data.messageId
    refine ⟨sound.seated.frame rfl identity,sound.filed.frame rfl identity sound.filed.deletions,
      fun cm mem live id points => ?_⟩
    rcases mem_amend.mp mem with ⟨old,stored,_,rfl⟩ | ⟨stored,_⟩
    · exact sound.pointing old stored live id points
    · exact sound.pointing cm stored live id points

/-- What a step of a session may bring with it: unused uuids for an operation, and for the
    rest of the backend that no account goes. -/
def Turn.Allowed (w : ChatWorld) : Turn → Prop
  | .request amb _ _ => ChatDatabase.Unused amb w.chat
  | .elsewhere users => ∀ id, w.users.HasUser id → users.HasUser id

theorem effect_of_sound {w : ChatWorld} (ilike : JsString → JsString → Bool) (actor : Uuid)
    (operation : ChatOperation) (sound : w.chat.Sound) (unused : ChatDatabase.Unused amb w.chat) :
    Effect w.users amb actor w.chat operation (w.perform ilike amb actor operation).2.chat
      (w.perform ilike amb actor operation).2.published :=
  (effect_perform ilike actor operation sound.seated.conversations sound.seated.members unused).1

theorem sound_turn {ilike : JsString → JsString → Bool} {w : ChatWorld} {turn : Turn}
    (sound : w.chat.Sound) (allowed : turn.Allowed w) : (turn.run ilike w).chat.Sound := by
  cases turn with
  | request amb authUserId operation =>
    exact sound_effect (effect_of_sound ilike authUserId operation sound allowed) allowed sound
  | elsewhere users => exact sound

/-- The tables are sound after every session from empty tables. -/
theorem sound_session {ilike : JsString → JsString → Bool} {w : ChatWorld} {turns : List Turn}
    (along : Turn.Along ilike Turn.Allowed turns w) (empty : w.chat = ⟨[],[],[],[]⟩) :
    (Turn.runAll ilike turns w).chat.Sound := by
  refine along.invariant (fun _ _ => sound_turn) ?_
  rw [empty]
  exact ChatDatabase.sound_empty

/-- Numbered draws are unused where every id is smaller. -/
theorem unused_numberedDraws {n : Nat} (conversations : ∀ c ∈ db.conversations, c.id < 100 * n)
    (members : ∀ cm ∈ db.members, cm.id < 100 * n) (messages : ∀ m ∈ db.messages, m.id < 100 * n) :
    ChatDatabase.Unused (numberedDraws n) db := by
  have beyond : ∀ k, 100 * n ≤ (numberedDraws n).uuid k := fun k => Nat.le_add_right _ _
  refine ⟨fun _ _ same => Nat.add_left_cancel same,fun k mem => ?_,fun k mem => ?_,fun k mem => ?_⟩
  · obtain ⟨c,memc,is⟩ := List.mem_map.mp mem
    exact absurd (beyond k) (not_le.mpr (is ▸ conversations c memc))
  · obtain ⟨cm,memcm,is⟩ := List.mem_map.mp mem
    exact absurd (beyond k) (not_le.mpr (is ▸ members cm memcm))
  · obtain ⟨m,memm,is⟩ := List.mem_map.mp mem
    exact absurd (beyond k) (not_le.mpr (is ▸ messages m memm))

end Sound

end Chatterbox
