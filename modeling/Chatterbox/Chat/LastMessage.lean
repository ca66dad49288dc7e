import Chatterbox.Chat.Atomic
import Chatterbox.Tables.Newest

/-!
The pointers of member rows to the last message. Every command keeps them incrementally:
a send moves the pointers of those who see the message, a deletion recomputes the pointers
that have lost their message. With one command at a time they always name the newest
message that the member still sees.
-/
namespace Chatterbox
open Concurrency Tables

namespace ChatDatabase

/-- The user sees a message of the conversation with this id and date. -/
def Shows (db : ChatDatabase) (conversationId userId id : Uuid) (createdAt : Time) : Prop :=
  ∃ m ∈ db.messages, m.id = id ∧ m.createdAt = createdAt ∧ m.conversationId = conversationId ∧
    m.deletedAt = none ∧ ⟨userId,m.id⟩ ∉ db.deletedMessages

/-- The pointer of a member row is right. -/
def PointsAtNewest (db : ChatDatabase) (cm : ConversationMember) : Prop :=
  Newest (db.Shows cm.conversationId cm.userId) cm.lastMessageId

/-- What holds of the tables between two commands. -/
structure Tidy (db : ChatDatabase) : Prop where
  members : Keyed ConversationMember.id db.members
  messages : Keyed Message.id db.messages
  dates : Keyed Message.createdAt db.messages
  homes : ∀ m ∈ db.messages, m.conversationId ∈ db.conversations.map Conversation.id
  deletions : ∀ r ∈ db.deletedMessages, r.messageId ∈ db.messages.map Message.id
  pointers : ∀ cm ∈ db.members, cm.deletedAt = none → db.PointsAtNewest cm

/-- The uuids of an operation are unused, and its clock is past all messages. -/
structure Fresh (amb : Ambient) (db : ChatDatabase) : Prop where
  injective : Function.Injective amb.uuid
  conversations : ∀ k, amb.uuid k ∉ db.conversations.map Conversation.id
  members : ∀ k, amb.uuid k ∉ db.members.map ConversationMember.id
  messages : ∀ k, amb.uuid k ∉ db.messages.map Message.id
  later : ∀ m ∈ db.messages, m.createdAt < amb.now

/-- The rows of a deletion, next to those that are there. -/
theorem mem_deletionRows {users : List Uuid} {messageId : Uuid} {rows : List DeletedMessage}
    {r : DeletedMessage} :
    r ∈ saveAll id (users.map fun u => ⟨u,messageId⟩) rows ↔
      (r.messageId = messageId ∧ r.userId ∈ users) ∨ r ∈ rows := by
  rw [mem_saveAll_id, List.mem_map]
  constructor
  · rintro (⟨u,mem,rfl⟩ | old)
    · exact Or.inl ⟨rfl,mem⟩
    · exact Or.inr old
  · rintro (⟨same,mem⟩ | old)
    · exact Or.inl ⟨_,mem,by rw [← same]⟩
    · exact Or.inr old

section Shows
variable {db : ChatDatabase} {conversationId userId messageId : Uuid} {createdAt : Time}

theorem newest_latestVisible (dates : Keyed Message.createdAt db.messages) :
    Newest (db.Shows conversationId userId)
      ((db.latestVisible conversationId userId).map Message.id) := by
  refine (newest_argmax (keyed_filter dates _)).congr fun messageId createdAt => ?_
  simp only [Shows, visibleTo, deletedFor, List.mem_filter, Bool.and_eq_true, decide_eq_true_eq,
    Option.isNone_iff_eq_none, Bool.not_eq_true', decide_eq_false_iff_not]
  constructor
  · rintro ⟨m,mem,is,date,home,live,kept⟩
    exact ⟨m,⟨mem,home,live,kept⟩,is,date⟩
  · rintro ⟨m,⟨mem,home,live,kept⟩,is,date⟩
    exact ⟨m,mem,is,date,home,live,kept⟩

theorem shows_updateMessage (id : Uuid) (text : JsString) (editedAt : Option Time)
    (updatedAt : Time) :
    (db.updateMessage id text editedAt updatedAt).Shows conversationId userId messageId createdAt ↔
      db.Shows conversationId userId messageId createdAt := by
  constructor
  · rintro ⟨m,mem,shown⟩
    rcases mem_amend.mp mem with ⟨m',mem',_,rfl⟩ | ⟨mem',_⟩
    · exact ⟨m',mem',shown⟩
    · exact ⟨m,mem',shown⟩
  · rintro ⟨m,mem,shown⟩
    by_cases hit : decide (m.id = id) = true
    · exact ⟨_,mem_amend.mpr (Or.inl ⟨m,mem,hit,rfl⟩),shown⟩
    · exact ⟨m,mem_amend.mpr (Or.inr ⟨mem,by simpa using hit⟩),shown⟩

/-- A deletion shows nobody a message that he has not seen before, and hides no other
    message than its own. -/
theorem shows_applyDeletion {d : MessageDeletion}
    (gone : ∀ m ∈ db.messages, m.id = d.messageId → d.deletedAt = none → m.deletedAt = none) :
    ((db.applyDeletion d).Shows conversationId userId messageId createdAt →
      db.Shows conversationId userId messageId createdAt) ∧
    (messageId ≠ d.messageId → db.Shows conversationId userId messageId createdAt →
      (db.applyDeletion d).Shows conversationId userId messageId createdAt) := by
  constructor
  · rintro ⟨m,mem,is,date,home,live,kept⟩
    have before := not_or.mp (mt mem_deletionRows.mpr kept)
    rcases mem_amend.mp mem with ⟨m',mem',hit,rfl⟩ | ⟨mem',_⟩
    · exact ⟨m',mem',is,date,home,gone m' mem' (of_decide_eq_true hit) live,before.2⟩
    · exact ⟨m,mem',is,date,home,live,before.2⟩
  · rintro other ⟨m,mem,rfl,date,home,live,kept⟩
    refine ⟨m,mem_amend.mpr (Or.inr ⟨mem,decide_eq_false other⟩),rfl,date,home,live,?_⟩
    rintro row
    rcases mem_deletionRows.mp row with ⟨same,_⟩ | old
    · exact other same
    · exact kept old

/-- A new message is shown to everybody from whom its send does not hide it. -/
theorem shows_sent {stored : ChatDatabase} {row : Message} {shadow : List Uuid}
    (fresh : ∀ m ∈ db.messages, m.id ≠ row.id)
    (deletions : ∀ r ∈ db.deletedMessages, r.messageId ≠ row.id) (live : row.deletedAt = none)
    (messages : stored.messages = save Message.id row db.messages)
    (deletedMessages : stored.deletedMessages =
      saveAll id (shadow.map fun u => ⟨u,row.id⟩) db.deletedMessages) :
    stored.Shows conversationId userId messageId createdAt ↔
      db.Shows conversationId userId messageId createdAt ∨
        ((messageId = row.id ∧ createdAt = row.createdAt) ∧ conversationId = row.conversationId ∧
          userId ∉ shadow) := by
  simp only [Shows, messages, deletedMessages, save_new fresh, List.mem_append,
    List.mem_singleton, mem_deletionRows]
  constructor
  · rintro ⟨m,old | rfl,is,date,home,live',kept⟩
    · exact Or.inl ⟨m,old,is,date,home,live',fun row => kept (Or.inr row)⟩
    · exact Or.inr ⟨⟨is.symm,date.symm⟩,home.symm,fun hidden => kept (Or.inl ⟨rfl,hidden⟩)⟩
  · rintro (⟨m,old,is,date,home,live',kept⟩ | ⟨⟨rfl,rfl⟩,rfl,seen⟩)
    · refine ⟨m,Or.inl old,is,date,home,live',?_⟩
      rintro (⟨same,_⟩ | row)
      · exact fresh m old same
      · exact kept row
    · refine ⟨row,Or.inr rfl,rfl,rfl,rfl,live,?_⟩
      rintro (⟨_,hidden⟩ | old)
      · exact seen hidden
      · exact deletions _ old rfl

end Shows

theorem keyed_membersOf {db : ChatDatabase} (members : Keyed ConversationMember.id db.members)
    (conversationId : Uuid) : Keyed ConversationMember.id (db.membersOf conversationId) :=
  keyed_filter (keyed_filter members _) _

/-- Copies of live rows of one conversation leave the rows of the others. -/
theorem mem_saveMembers {db : ChatDatabase} {conversationId : Uuid}
    (members : Keyed ConversationMember.id db.members) {p : ConversationMember → Bool}
    {change : ConversationMember → ConversationMember} (frame : ∀ cm, (change cm).id = cm.id)
    {r : ConversationMember}
    (mem : r ∈ saveAll ConversationMember.id
      (((db.membersOf conversationId).filter p).map change) db.members) :
    (∃ cm ∈ db.membersOf conversationId, p cm = true ∧ r = change cm) ∨
      (r ∈ db.members ∧ (r ∈ db.membersOf conversationId → p r = false)) := by
  have distinct : Keyed ConversationMember.id (((db.membersOf conversationId).filter p).map
      change) := by
    unfold Keyed
    rw [List.map_map]
    have same : ConversationMember.id ∘ change = ConversationMember.id := funext frame
    rw [same]
    exact keyed_filter (keyed_membersOf members conversationId) p
  rcases (mem_saveAll distinct).mp mem with copy | ⟨old,miss⟩
  · obtain ⟨cm,memcm,rfl⟩ := List.mem_map.mp copy
    obtain ⟨seated,picked⟩ := List.mem_filter.mp memcm
    exact Or.inl ⟨cm,seated,picked,rfl⟩
  · refine Or.inr ⟨old,fun seated => ?_⟩
    by_contra picked
    have copy : change r ∈ ((db.membersOf conversationId).filter p).map change :=
      List.mem_map_of_mem (List.mem_filter.mpr ⟨seated,by simpa using picked⟩)
    exact miss _ copy (frame r).symm

section Tidy
variable {db : ChatDatabase} (tidy : db.Tidy)
include tidy

theorem tidy_updateMessage (id : Uuid) (text : JsString) (editedAt : Option Time)
    (updatedAt : Time) : (db.updateMessage id text editedAt updatedAt).Tidy := by
  have sameId : ∀ m : Message, (m.withText text editedAt updatedAt).id = m.id := fun _ => rfl
  have sameDate : ∀ m : Message, (m.withText text editedAt updatedAt).createdAt = m.createdAt :=
    fun _ => rfl
  refine ⟨tidy.members,keyed_amend tidy.messages sameId,keyed_amend tidy.dates sameDate,?_,?_,?_⟩
  · intro m mem
    rcases mem_amend.mp mem with ⟨m',mem',_,rfl⟩ | ⟨mem',_⟩
    · exact tidy.homes m' mem'
    · exact tidy.homes m mem'
  · intro r mem
    have same : (db.updateMessage id text editedAt updatedAt).messages.map Message.id =
        db.messages.map Message.id := map_amend sameId _
    rw [same]
    exact tidy.deletions r mem
  · intro cm mem live
    exact (tidy.pointers cm mem live).congr fun _ _ => shows_updateMessage id text editedAt updatedAt

/-- A deletion recomputes every pointer that has lost its message. -/
theorem tidy_storeDeletion {d : MessageDeletion} {row : Message} (stored : row ∈ db.messages)
    (is : row.id = d.messageId) (home : row.conversationId = d.conversationId)
    (gone : d.deletedAt = none → row.deletedAt = none) :
    (db.storeDeletion d (db.movedPointers d)).Tidy := by
  have sameId : ∀ m : Message, (d.mark m).id = m.id := fun _ => rfl
  have sameDate : ∀ m : Message, (d.mark m).createdAt = m.createdAt := fun _ => rfl
  have gone' : ∀ m ∈ db.messages, m.id = d.messageId → d.deletedAt = none →
      m.deletedAt = none := by
    intro m mem same
    rw [keyed_unique tidy.messages mem stored (same.trans is.symm)]
    exact gone
  have dates : Keyed Message.createdAt (db.applyDeletion d).messages :=
    keyed_amend tidy.dates sameDate
  refine ⟨keyed_saveAll tidy.members,keyed_amend tidy.messages sameId,dates,?_,?_,?_⟩
  · intro m mem
    rcases mem_amend.mp mem with ⟨m',mem',_,rfl⟩ | ⟨mem',_⟩
    · exact tidy.homes m' mem'
    · exact tidy.homes m mem'
  · intro r mem
    have same : (db.applyDeletion d).messages.map Message.id = db.messages.map Message.id :=
      map_amend sameId _
    change r.messageId ∈ (db.applyDeletion d).messages.map Message.id
    rw [same]
    rcases mem_deletionRows.mp mem with ⟨its,_⟩ | old
    · rw [its, ← is]
      exact List.mem_map_of_mem stored
    · exact tidy.deletions r old
  · intro r mem live
    change Newest ((db.applyDeletion d).Shows r.conversationId r.userId) r.lastMessageId
    have frame : ∀ cm, (db.movePointer d cm).id = cm.id := fun _ => rfl
    rcases mem_saveMembers tidy.members frame mem with ⟨cm,seated,_,rfl⟩ | ⟨old,miss⟩
    · obtain ⟨_,_,there⟩ := membersOf_iff.mp seated
      change Newest ((db.applyDeletion d).Shows cm.conversationId cm.userId) _
      rw [there]
      exact newest_latestVisible dates
    · refine (tidy.pointers r old live).shrink
        (fun _ _ => (shows_applyDeletion gone').1) fun k points t shown => ?_
      refine (shows_applyDeletion gone').2 ?_ shown
      rintro rfl
      obtain ⟨m,memm,same,_,there,_⟩ := shown
      rw [keyed_unique tidy.messages memm stored (same.trans is.symm), home] at there
      have picked := miss (membersOf_iff.mpr ⟨old,live,there.symm⟩)
      rw [points] at picked
      exact absurd rfl (of_decide_eq_false picked)

/-- A send moves the pointers of those who see the message. -/
theorem tidy_sent {message : MessageEntity} {stored : ChatDatabase}
    (done : CreateMessageHandler.store message db = (.ok (), stored))
    (fresh : message.id ∉ db.messages.map Message.id)
    (later : ∀ m ∈ db.messages, m.createdAt < message.createdAt)
    (home : message.conversationId ∈ db.conversations.map Conversation.id)
    (live : message.deletedAt = none) : stored.Tidy := by
  obtain ⟨_,_,rfl⟩ := db.storeMessage_ok done
  have absent : ∀ m ∈ db.messages, m.id ≠ message.id :=
    fun m mem same => fresh (List.mem_map.mpr ⟨m,mem,same⟩)
  have appended : save Message.id (Message.fromDomain message) db.messages =
      db.messages ++ [Message.fromDomain message] := save_new absent
  have untouched : ∀ r ∈ db.deletedMessages, r.messageId ≠ message.id := by
    intro r mem same
    obtain ⟨m,memm,is⟩ := List.mem_map.mp (tidy.deletions r mem)
    exact absent m memm (is.trans same)
  have frame : ∀ cm, (message.updateMember cm).id = cm.id := fun _ => rfl
  refine ⟨keyed_saveAll tidy.members,keyed_save tidy.messages,?_,?_,?_,?_⟩
  · change ((save Message.id (Message.fromDomain message) db.messages).map
      Message.createdAt).Nodup
    rw [appended]
    refine keyed_snoc tidy.dates fun old => ?_
    obtain ⟨m,mem,date⟩ := List.mem_map.mp old
    have before := later m mem
    rw [date] at before
    exact lt_irrefl _ before
  · intro m mem
    rcases mem_save.mp mem with rfl | ⟨old,_⟩
    · exact home
    · exact tidy.homes m old
  · intro r mem
    change r.messageId ∈ (save Message.id (Message.fromDomain message) db.messages).map Message.id
    rw [appended, List.map_append, List.mem_append]
    rcases mem_deletionRows.mp mem with ⟨its,_⟩ | old
    · exact Or.inr (List.mem_singleton.mpr its)
    · exact Or.inl (tidy.deletions r old)
  · intro r mem alive
    have every : (db.membersOf message.conversationId).filter (fun _ => true) =
        db.membersOf message.conversationId := List.filter_true _
    have saved : r ∈ saveAll ConversationMember.id (((db.membersOf message.conversationId).filter
        fun _ => true).map message.updateMember) db.members := by
      rw [every]
      exact mem
    rcases mem_saveMembers tidy.members frame saved with ⟨cm,seated,_,rfl⟩ | ⟨old,miss⟩
    · obtain ⟨memcm,alive,there⟩ := membersOf_iff.mp seated
      by_cases hidden : cm.userId ∈ message.deletedForUserIds
      · have pointer : (message.updateMember cm).lastMessageId = cm.lastMessageId := if_pos hidden
        rw [PointsAtNewest, pointer]
        refine (tidy.pointers cm memcm alive).congr fun _ _ => ?_
        rw [shows_sent absent untouched live rfl rfl]
        exact or_iff_left fun new => new.2.2 hidden
      · have pointer : (message.updateMember cm).lastMessageId = some message.id := if_neg hidden
        rw [PointsAtNewest, pointer]
        have before : ∀ k t, db.Shows cm.conversationId cm.userId k t → t < message.createdAt := by
          rintro k t ⟨m,memm,_,rfl,_⟩
          exact later m memm
        refine Newest.add before fun k t => ?_
        rw [shows_sent absent untouched live rfl rfl]
        exact or_congr Iff.rfl (and_iff_left ⟨there,hidden⟩)
    · refine (tidy.pointers r old alive).congr fun _ _ => ?_
      rw [shows_sent absent untouched live rfl rfl]
      refine or_iff_left fun new => ?_
      have picked := miss (membersOf_iff.mpr ⟨old,alive,new.2.1⟩)
      cases picked

/-- A save of a conversation leaves messages and deletions alone. -/
theorem tidy_saved {conversation : Conversation} {members : List ConversationMember}
    (pointers : ∀ cm ∈ saveAll ConversationMember.id members db.members, cm.deletedAt = none →
      db.PointsAtNewest cm) :
    Tidy { db with
      conversations := save Conversation.id conversation db.conversations
      members := saveAll ConversationMember.id members db.members } := by
  refine ⟨keyed_saveAll tidy.members,tidy.messages,tidy.dates,fun m mem => ?_,tidy.deletions,
    pointers⟩
  obtain ⟨c,memc,is⟩ := List.mem_map.mp (tidy.homes m mem)
  by_cases same : c.id = conversation.id
  · exact List.mem_map.mpr ⟨conversation,mem_save.mpr (Or.inl rfl),same.symm.trans is⟩
  · exact List.mem_map.mpr ⟨c,mem_save.mpr (Or.inr ⟨memc,same⟩),is⟩

theorem tidy_removed (conversationId : Uuid) (now : Time) :
    (db.removeConversation conversationId now).2.Tidy := by
  have sameMember : ∀ m : ConversationMember,
      ConversationMember.id { m with deletedAt := some now } = m.id := fun _ => rfl
  have sameConversation : ∀ c : Conversation,
      Conversation.id { c with deletedAt := some now } = c.id := fun _ => rfl
  refine ⟨keyed_amend tidy.members sameMember,tidy.messages,tidy.dates,fun m mem => ?_,
    tidy.deletions,fun cm mem live => ?_⟩
  · change m.conversationId ∈ (amend _ _ db.conversations).map Conversation.id
    rw [map_amend sameConversation]
    exact tidy.homes m mem
  · rcases mem_amend.mp mem with ⟨_,_,_,rfl⟩ | ⟨old,_⟩
    · cases live
    · exact tidy.pointers cm old live

end Tidy

end ChatDatabase

/-- What marking as read makes of the loaded rows: nothing when the member has seen that
    message last, his new position otherwise. -/
theorem markAsRead_ok {rows : Conversation × List ConversationMember} {userId messageId : Uuid}
    {marked : ConversationEntity}
    (is : (Conversation.toDomain rows).markAsRead userId messageId = .ok marked) :
    ∃ member, rows.2.find? (fun m => m.userId = userId) = some member ∧
      ((member.lastSeenMessageId = some messageId ∧ Conversation.fromDomain marked = rows) ∨
        Conversation.fromDomain marked = (rows.1, rows.2.map fun cm =>
          if cm.id = member.id then { cm with lastSeenMessageId := some messageId } else cm)) := by
  have inverse : ConversationMember.fromDomain ∘ ConversationMember.toDomain = id := rfl
  have back : (Conversation.toDomain rows).members.map ConversationMember.fromDomain = rows.2 := by
    rw [Conversation.toDomain, List.map_map, inverse, List.map_id]
  have found : (Conversation.toDomain rows).members.find? (fun m => m.userId = userId) =
      (rows.2.find? fun m => m.userId = userId).map ConversationMember.toDomain := List.find?_map ..
  unfold ConversationEntity.markAsRead at is
  rw [found] at is
  cases first : rows.2.find? fun m => m.userId = userId with
  | none =>
    rw [first] at is
    cases is
  | some member =>
    rw [first] at is
    dsimp only [Option.map_some] at is
    refine ⟨member,rfl,?_⟩
    split_ifs at is with same
    · cases is
      exact Or.inl ⟨same,Prod.ext rfl back⟩
    · cases is
      refine Or.inr (Prod.ext rfl ?_)
      simp only [Conversation.fromDomain, Conversation.toDomain, List.map_map]
      refine List.map_congr_left fun cm _ => ?_
      by_cases own : cm.id = member.id <;>
        simp [ConversationMember.toDomain, ConversationMember.fromDomain, own]

/-- Marking as read changes no other column of a member row. -/
theorem markAsRead_rows {rows : Conversation × List ConversationMember} {userId messageId : Uuid}
    {marked : ConversationEntity}
    (is : (Conversation.toDomain rows).markAsRead userId messageId = .ok marked) :
    ∃ change : ConversationMember → ConversationMember,
      (∀ cm, ∃ seen, change cm = { cm with lastSeenMessageId := seen }) ∧
      Conversation.fromDomain marked = (rows.1, rows.2.map change) := by
  obtain ⟨member,_,⟨_,same⟩ | moved⟩ := markAsRead_ok is
  · exact ⟨id,fun cm => ⟨cm.lastSeenMessageId,rfl⟩,by rw [List.map_id, same]⟩
  · refine ⟨_,fun cm => ?_,moved⟩
    split
    · exact ⟨_,rfl⟩
    · exact ⟨cm.lastSeenMessageId,rfl⟩

/-- A member row that a mark saves is a loaded one, or it now points at the marked message. -/
theorem markAsRead_saved {rows : Conversation × List ConversationMember} {userId messageId : Uuid}
    {marked : ConversationEntity}
    (is : (Conversation.toDomain rows).markAsRead userId messageId = .ok marked) :
    (Conversation.fromDomain marked).1 = rows.1 ∧
      ∀ cm ∈ (Conversation.fromDomain marked).2, ∃ row ∈ rows.2,
        cm = row ∨ cm = { row with lastSeenMessageId := some messageId } := by
  obtain ⟨member,_,⟨_,same⟩ | moved⟩ := markAsRead_ok is
  · rw [same]
    exact ⟨rfl,fun cm mem => ⟨cm,mem,Or.inl rfl⟩⟩
  · rw [moved]
    refine ⟨rfl,fun cm mem => ?_⟩
    obtain ⟨row,loaded,rfl⟩ := List.mem_map.mp mem
    refine ⟨row,loaded,?_⟩
    split
    · exact Or.inr rfl
    · exact Or.inl rfl

inductive ChatCommand where
  | create (command : CreateDirectConversationCommand)
  | send (command : CreateMessageCommand)
  | edit (command : EditMessageCommand)
  | delete (command : DeleteMessageCommand)
  | markAsRead (command : MarkConversationAsReadCommand)
  | deleteConversation (conversationId : Uuid)

namespace ChatCommand

def execute (amb : Ambient) : ChatCommand → ChatProgram Unit
  | create command => (fun _ => ()) <$> CreateDirectConversationHandler.execute amb command
  | send command => (fun _ => ()) <$> CreateMessageHandler.execute amb command
  | edit command => (fun _ => ()) <$> EditMessageHandler.execute amb.now command
  | delete command => (fun _ => ()) <$> DeleteMessageHandler.execute amb.now command
  | markAsRead command => MarkConversationAsReadCommandHandler.execute command
  | deleteConversation conversationId =>
      (fun _ => ()) <$> DeleteConversationHandler.execute amb.now conversationId

end ChatCommand

section Changes
variable {amb : Ambient} {db : ChatDatabase} (tidy : db.Tidy)
include tidy

theorem tidy_edit {command : EditMessageCommand} {c : Change LoadedMessage}
    (is : EditMessageHandler.change amb.now command db = .ok c) : c.chat.Tidy := by
  obtain ⟨_,_,is⟩ := ok_of_bind is
  obtain ⟨_,_,is⟩ := ok_of_bind is
  obtain ⟨_,_,is⟩ := ok_of_bind is
  rw [reload_chat is]
  exact ChatDatabase.tidy_updateMessage tidy _ _ _ _

theorem tidy_delete {command : DeleteMessageCommand} {c : Change LoadedMessage}
    (is : DeleteMessageHandler.change amb.now command db = .ok c) : c.chat.Tidy := by
  obtain ⟨_,_,is⟩ := ok_of_bind is
  obtain ⟨loaded,read,is⟩ := ok_of_bind is
  obtain ⟨deleted,done,is⟩ := ok_of_bind is
  rw [reload_chat is]
  obtain ⟨m,found,_,rfl,_⟩ := message_isSome_of_loaded read
  obtain ⟨id,home,gone⟩ := delete_ok done
  have row : (db.loaded m).message.id = m.id ∧
      (db.loaded m).message.conversationId = m.conversationId ∧
      (db.loaded m).message.deletedAt = m.deletedAt :=
    ⟨MessageEntity.loadDeletedForUserIds_id ..,
      MessageEntity.loadDeletedForUserIds_conversationId ..,
      MessageEntity.loadDeletedForUserIds_deletedAt ..⟩
  rw [row.1] at id
  rw [row.2.1] at home
  rw [row.2.2] at gone
  exact ChatDatabase.tidy_storeDeletion tidy (lookup_mem found).1 id.symm home.symm
    fun live => (gone.resolve_left (not_not.mpr live)).2

theorem tidy_send (fresh : ChatDatabase.Fresh amb db) {command : CreateMessageCommand}
    {c : Change LoadedMessage} (is : CreateMessageHandler.change amb command db = .ok c) :
    c.chat.Tidy := by
  obtain ⟨member,seated,is⟩ := ok_of_bind is
  split at is
  · split at is <;> cases is
    exact tidy
  · obtain ⟨_,_,is⟩ := ok_of_bind is
    obtain ⟨created,built,is⟩ := ok_of_bind is
    split at is
    · rename_i done
      cases is
      obtain ⟨_,key,_,rfl⟩ := MessageEntity.create_ok built
      exact ChatDatabase.tidy_sent tidy done (fresh.messages 0) fresh.later
        (conversationMember_ok seated).2.2 rfl
    · cases is

theorem tidy_markAsRead {command : MarkConversationAsReadCommand} {c : Change Unit}
    (is : MarkConversationAsReadCommandHandler.change command db = .ok c) : c.chat.Tidy := by
  unfold MarkConversationAsReadCommandHandler.change at is
  split at is
  · cases is
  · rename_i rows found
    obtain ⟨marked,done,is⟩ := ok_of_bind is
    split at is
    · rename_i stored
      cases is
      obtain ⟨_,rfl,_⟩ := db.storeConversation_ok stored
      obtain ⟨change,frame,saved⟩ := markAsRead_rows done
      obtain ⟨conversation,_,rfl⟩ := Option.map_eq_some_iff.mp found
      refine ChatDatabase.tidy_saved tidy fun cm mem live => ?_
      have every : (db.membersOf command.conversationId).filter (fun _ => true) =
          db.membersOf command.conversationId := List.filter_true _
      rw [saved, ← every] at mem
      have sameId : ∀ cm, (change cm).id = cm.id := by
        intro cm
        obtain ⟨seen,is⟩ := frame cm
        rw [is]
      rcases ChatDatabase.mem_saveMembers tidy.members sameId mem with
        ⟨cm',seated,_,rfl⟩ | ⟨old,_⟩
      · obtain ⟨memcm,alive,_⟩ := ChatDatabase.membersOf_iff.mp seated
        obtain ⟨seen,is⟩ := frame cm'
        rw [is]
        exact tidy.pointers cm' memcm alive
      · exact tidy.pointers cm old live
    · cases is

theorem tidy_create (fresh : ChatDatabase.Fresh amb db) {command : CreateDirectConversationCommand}
    {c : Change ConversationEntity}
    (is : CreateDirectConversationHandler.change amb command db = .ok c) : c.chat.Tidy := by
  unfold CreateDirectConversationHandler.change at is
  rw [ConversationEntity.createDirect_eq] at is
  split at is
  · cases is
  · obtain ⟨conversation,built,is⟩ := ok_of_bind is
    cases built
    split at is
    · rename_i stored
      cases is
      obtain ⟨_,rfl,_⟩ := db.storeConversation_ok stored
      refine ChatDatabase.tidy_saved tidy fun cm mem live => ?_
      rcases mem_of_mem_saveAll mem with new | old
      · have blank : cm.lastMessageId = none ∧ cm.conversationId = amb.uuid 0 := by
          rcases List.mem_cons.mp new with rfl | second
          · exact ⟨rfl,rfl⟩
          · split at second
            · cases second
            · rw [List.mem_singleton.mp second]
              exact ⟨rfl,rfl⟩
        rw [ChatDatabase.PointsAtNewest, blank.1, blank.2]
        rintro k t ⟨m,memm,_,_,home,_⟩
        have known := tidy.homes m memm
        rw [home] at known
        exact fresh.conversations 0 known
      · exact tidy.pointers cm old live
    · cases is
    · cases is

end Changes

theorem tidy_execute {amb : Ambient} {w : ChatWorld} (command : ChatCommand)
    (tidy : w.chat.Tidy) (fresh : ChatDatabase.Fresh amb w.chat) :
    ((command.execute amb).run chatHandler w).2.chat.Tidy := by
  cases command with
  | create command =>
    rw [ChatCommand.execute, Program.run_map, run_createDirectConversation]
    cases CreateDirectConversationHandler.checkUsers command w.users with
    | error e => exact tidy
    | ok _ => exact apply_keeps tidy fun c is => tidy_create tidy fresh is
  | send command =>
    rw [ChatCommand.execute, Program.run_map, run_createMessage]
    exact apply_keeps tidy fun c is => tidy_send tidy fresh is
  | edit command =>
    rw [ChatCommand.execute, Program.run_map, run_editMessage]
    exact apply_keeps tidy fun c is => tidy_edit tidy is
  | delete command =>
    rw [ChatCommand.execute, Program.run_map, run_deleteMessage]
    exact apply_keeps tidy fun c is => tidy_delete tidy is
  | markAsRead command =>
    rw [ChatCommand.execute, run_markConversationAsRead]
    exact apply_keeps tidy fun c is => tidy_markAsRead tidy is
  | deleteConversation conversationId =>
    rw [ChatCommand.execute, Program.run_map, run_deleteConversation]
    exact ChatDatabase.tidy_removed tidy conversationId amb.now

/-- The worlds that commands executed one after another can reach from empty chat tables.
    Users may do anything in the user module in between. -/
inductive Reachable : ChatWorld → Prop where
  | start {w : ChatWorld} (empty : w.chat = ⟨[],[],[],[]⟩) : Reachable w
  | command {w : ChatWorld} (amb : Ambient) (command : ChatCommand) (reached : Reachable w)
      (fresh : ChatDatabase.Fresh amb w.chat) :
      Reachable ((command.execute amb).run chatHandler w).2
  | other {w v : ChatWorld} (reached : Reachable w) (same : v.chat = w.chat) : Reachable v

theorem tidy_empty : (⟨[],[],[],[]⟩ : ChatDatabase).Tidy :=
  ⟨List.nodup_nil,List.nodup_nil,List.nodup_nil,by simp,by simp,by simp⟩

theorem tidy_reachable {w : ChatWorld} (reached : Reachable w) : w.chat.Tidy := by
  induction reached with
  | start empty =>
    rw [empty]
    exact tidy_empty
  | command amb command _ fresh ih => exact tidy_execute command ih fresh
  | other _ same ih =>
    rw [same]
    exact ih

/-- The last message of a live member row is the newest message that the member sees, and
    there is none exactly when he sees no message. -/
theorem lastMessage_newest {w : ChatWorld} (reached : Reachable w) {cm : ConversationMember}
    (mem : cm ∈ w.chat.members) (live : cm.deletedAt = none) :
    Newest (w.chat.Shows cm.conversationId cm.userId) cm.lastMessageId :=
  (tidy_reachable reached).pointers cm mem live

def numberedDraws (n : Nat) : Ambient :=
  { now := 1000 * n, uuid := fun k => 100 * n + k, salt := fun _ => 0, usernames := [] }

def emptyWorld : ChatWorld := ⟨twoUsers,⟨[],[],[],[]⟩,[],[]⟩

def threeUsersWorld : ChatWorld :=
  { emptyWorld with users := { twoUsers with
      users := twoUsers.users ++ [⟨3,[99],[99],[],none,none,.user,none,0,none⟩] } }

/-- User 1 opens a conversation with user 2 and writes to him. -/
def spokenWorld : ChatWorld :=
  (((ChatCommand.send ⟨[104, 105],.text,1,100,[],none,none⟩).execute (numberedDraws 2)).run
    chatHandler (((ChatCommand.create ⟨1,2⟩).execute (numberedDraws 1)).run chatHandler
      emptyWorld).2).2

theorem lastMessage_newest_after_send : Newest (spokenWorld.chat.Shows 100 2) (some 200) := by
  have injective : ∀ n, Function.Injective (numberedDraws n).uuid :=
    fun n _ _ same => Nat.add_left_cancel same
  have opened : Reachable
      (((ChatCommand.create ⟨1,2⟩).execute (numberedDraws 1)).run chatHandler emptyWorld).2 :=
    .command _ _ (.start rfl) ⟨injective 1,by simp [emptyWorld],by simp [emptyWorld],
      by simp [emptyWorld],by simp [emptyWorld]⟩
  have spoken : Reachable spokenWorld := by
    refine .command _ _ opened ⟨injective 2,fun k mem => ?_,fun k mem => ?_,fun _ mem => ?_,
      fun _ mem => ?_⟩
    · have known : 200 + k ∈ [100] := mem
      simp only [List.mem_singleton] at known
      omega
    · have known : 200 + k ∈ [102, 103] := mem
      simp only [List.mem_cons, List.not_mem_nil, or_false] at known
      omega
    · exact absurd mem List.not_mem_nil
    · exact absurd mem List.not_mem_nil
  have seat : (⟨103,2,100,none,some 200,1000,none⟩ : ConversationMember) ∈
      spokenWorld.chat.members := by
    decide
  exact lastMessage_newest spoken seat rfl

end Chatterbox
