import Chatterbox.Chat.Confinement
import Chatterbox.Tables.Related

/-!
Texts of conversations that a user is no member of. Two servers that differ in nothing but
such texts stay alike for him under the same requests: what he reads comes from his
conversations, and what others write elsewhere differs in text and in edit dates at most.
-/
namespace Chatterbox
open Concurrency Tables

/-- A message without what an edit writes. -/
def Message.bare (m : Message) : Message := m.withText [] none 0

def MessageEntity.bare (m : MessageEntity) : MessageEntity :=
  { m with text := [], editedAt := none, updatedAt := 0 }

/-- The same message, but for its text and its edits where it is not read. -/
structure Message.SameFor (reads : Uuid → Bool) (m m' : Message) : Prop where
  bare : m'.bare = m.bare
  same : reads m.conversationId = true → m' = m

namespace Message.SameFor
variable {reads : Uuid → Bool} {m m' : Message}

theorem fields (pair : Message.SameFor reads m m') :
    m'.origin = m.origin ∧ m'.deletedAt = m.deletedAt := by
  have bare := pair.bare
  simp only [Message.bare, Message.withText, Message.mk.injEq] at bare
  simp [Message.origin, bare]

theorem id (pair : Message.SameFor reads m m') : m'.id = m.id :=
  (ChatDatabase.origin_inj pair.fields.1).1

theorem home (pair : Message.SameFor reads m m') : m'.conversationId = m.conversationId :=
  (ChatDatabase.origin_inj pair.fields.1).2.2.1

theorem createdAt (pair : Message.SameFor reads m m') : m'.createdAt = m.createdAt :=
  congrArg (fun o => o.2.2.2.2.1) pair.fields.1

theorem reply (pair : Message.SameFor reads m m') : m'.replyToMessageId = m.replyToMessageId :=
  (ChatDatabase.origin_inj pair.fields.1).2.2.2

theorem clientKey (pair : Message.SameFor reads m m') : m'.clientKey = m.clientKey :=
  congrArg (fun o : Uuid × MessageType × Uuid × Uuid × Time × Option Uuid × Option JsString =>
    (o.2.2.2.1, o.2.2.1, o.2.2.2.2.2.2)) pair.fields.1

theorem refl (m : Message) : Message.SameFor reads m m := ⟨rfl,fun _ => rfl⟩

end Message.SameFor

namespace ChatDatabase

/-- The same tables, but for the texts and edits of messages of conversations in which the
    viewer has no live member row. -/
structure SameFor (viewer : Uuid) (db db' : ChatDatabase) : Prop where
  conversations : db'.conversations = db.conversations
  members : db'.members = db.members
  deletedMessages : db'.deletedMessages = db.deletedMessages
  messages : List.Forall₂ (Message.SameFor fun c => db.isMember c viewer) db.messages db'.messages

namespace SameFor
variable {viewer : Uuid} {db db' : ChatDatabase}

/-- Only the messages differ. -/
theorem eq (same : db.SameFor viewer db') : db' = { db with messages := db'.messages } := by
  obtain ⟨conversations,members,messages,deletedMessages⟩ := db'
  rw [show conversations = db.conversations from same.conversations,
    show members = db.members from same.members,
    show deletedMessages = db.deletedMessages from same.deletedMessages]

theorem membersOf (same : db.SameFor viewer db') (conversationId : Uuid) :
    db'.membersOf conversationId = db.membersOf conversationId := by
  rw [same.eq]
  rfl

theorem isMember (same : db.SameFor viewer db') (conversationId userId : Uuid) :
    db'.isMember conversationId userId = db.isMember conversationId userId := by
  rw [same.eq]
  rfl

theorem getConversation (same : db.SameFor viewer db') (id : Uuid) :
    db'.getConversation id = db.getConversation id := by
  rw [same.eq]
  rfl

theorem conversationMember (same : db.SameFor viewer db') (conversationId userId : Uuid) :
    db'.conversationMember conversationId userId = db.conversationMember conversationId userId := by
  rw [same.eq]
  rfl

theorem origins (same : db.SameFor viewer db') : db'.origins = db.origins :=
  column_related (fun _ _ pair => pair.fields.1) same.messages

theorem message (same : db.SameFor viewer db') (id : Uuid) :
    (db.message id = none ∧ db'.message id = none) ∨
      ∃ m m', db.message id = some m ∧ db'.message id = some m' ∧
        Message.SameFor (fun c => db.isMember c viewer) m m' :=
  lookup_related (fun _ _ pair => pair.id) id same.messages

theorem message_isNone (same : db.SameFor viewer db') (id : Uuid) :
    (db'.message id).isNone = (db.message id).isNone := by
  rcases same.message id with ⟨none,none'⟩ | ⟨m,m',found,found',_⟩
  · rw [none, none']
  · rw [found, found']
    rfl

theorem confined (same : db.SameFor viewer db') (confined : db.Confined) : db'.Confined := by
  refine confined.frame same.conversations same.origins (by rw [same.members]) fun cm mem => ?_
  rw [same.members] at mem
  exact (confined.last cm mem).later (same.origins ▸ List.Subset.refl _)

/-- What a pointer into a conversation of the viewer finds. -/
theorem found (same : db.SameFor viewer db') (keyed : Keyed Message.id db.messages)
    {conversationId : Uuid} {pointer : Option Uuid} (names : db.Names conversationId pointer)
    (reads : db.isMember conversationId viewer = true) :
    pointer.bind db'.message = pointer.bind db.message := by
  cases pointer with
  | none => rfl
  | some id =>
    simp only [Option.bind_some]
    rcases same.message id with ⟨none,none'⟩ | ⟨m,m',found,found',pair⟩
    · rw [none, none']
    · rw [found, found', pair.same (by rw [names.found keyed found]; exact reads)]

/-- A message of a conversation of the viewer, loaded with what it quotes. -/
theorem loaded (same : db.SameFor viewer db') (confined : db.Confined) {m : Message}
    (stored : m ∈ db.messages) (reads : db.isMember m.conversationId viewer = true) :
    db'.loaded m = db.loaded m := by
  rw [ChatDatabase.loaded, ChatDatabase.loaded,
    same.found confined.messages (confined.quotes m stored) reads, same.deletedMessages]

/-- The newest visible message, by its id. -/
theorem latestVisible (same : db.SameFor viewer db') (conversationId userId : Uuid) :
    (db'.latestVisible conversationId userId).map Message.id =
      (db.latestVisible conversationId userId).map Message.id := by
  have visible : ∀ r r', Message.SameFor (fun c => db.isMember c viewer) r r' →
      (decide (r'.conversationId = conversationId) && db'.visibleTo userId r') =
        (decide (r.conversationId = conversationId) && db.visibleTo userId r) := by
    intro r r' pair
    simp only [visibleTo, deletedFor, pair.home, pair.fields.2, pair.id, same.deletedMessages]
  rcases argmax_related (fun _ _ pair => Message.SameFor.createdAt pair)
      (filter_related visible same.messages) with ⟨none,none'⟩ | ⟨m,m',newest,newest',pair⟩
  · rw [ChatDatabase.latestVisible, ChatDatabase.latestVisible, none, none']
  · rw [ChatDatabase.latestVisible, ChatDatabase.latestVisible, newest, newest', Option.map_some,
      Option.map_some, pair.id]

/-- Other conversations and members, among which the viewer joins none that has messages. -/
theorem regrouped (same : db.SameFor viewer db') (conversations : List Conversation)
    (members : List ConversationMember)
    (joins : ∀ m ∈ db.messages,
      ({ db with conversations, members } : ChatDatabase).isMember m.conversationId viewer = true →
        db.isMember m.conversationId viewer = true) :
    ({ db with conversations, members } : ChatDatabase).SameFor viewer
      { db' with conversations, members } := by
  refine ⟨rfl,rfl,same.deletedMessages,?_⟩
  have rows : List.Forall₂ (fun m m' => m ∈ db.messages ∧
      Message.SameFor (fun c => db.isMember c viewer) m m') db.messages db'.messages :=
    (List.forall₂_and_left _ _).mpr ⟨fun _ mem => mem,same.messages⟩
  exact rows.imp fun m m' pair => ⟨pair.2.bare,fun reads => pair.2.same (joins m pair.1 reads)⟩

theorem updateMessage (same : db.SameFor viewer db') (id : Uuid) (text : JsString)
    (editedAt : Option Time) (updatedAt : Time) :
    (db.updateMessage id text editedAt updatedAt).SameFor viewer
      (db'.updateMessage id text editedAt updatedAt) := by
  refine ⟨same.conversations,same.members,same.deletedMessages,
    amend_related same.messages fun m _ m' pair => ?_⟩
  simp only [decide_eq_true_eq, pair.id]
  split
  · exact ⟨pair.bare,fun reads => by rw [pair.same reads]⟩
  · exact pair

/-- An edit that the viewer does not read. -/
theorem edited (same : db.SameFor viewer db') {id : Uuid} (text : JsString)
    (editedAt : Option Time) (updatedAt : Time)
    (foreign : ∀ m ∈ db.messages, m.id = id → db.isMember m.conversationId viewer = false) :
    db.SameFor viewer (db'.updateMessage id text editedAt updatedAt) := by
  have rows : List.Forall₂ (fun m m' => m ∈ db.messages ∧
      Message.SameFor (fun c => db.isMember c viewer) m m') db.messages db'.messages :=
    (List.forall₂_and_left _ _).mpr ⟨fun _ mem => mem,same.messages⟩
  refine ⟨same.conversations,same.members,same.deletedMessages,
    List.forall₂_map_right_iff.mpr (rows.imp fun m m' pair => ?_)⟩
  obtain ⟨stored,pair⟩ := pair
  simp only [decide_eq_true_eq, pair.id]
  split
  · rename_i hit
    refine ⟨pair.bare,fun reads => ?_⟩
    rw [foreign m stored hit] at reads
    cases reads
  · exact pair

theorem symm (same : db.SameFor viewer db') : db'.SameFor viewer db := by
  refine ⟨same.conversations.symm,same.members.symm,same.deletedMessages.symm,
    List.Forall₂.flip (same.messages.imp fun m m' pair => ?_)⟩
  refine ⟨pair.bare.symm,fun reads => (pair.same ?_).symm⟩
  rw [same.isMember, pair.home] at reads
  exact reads

/-- The same deletion, or one each that differ in nothing that the viewer reads. -/
theorem storeDeletion (same : db.SameFor viewer db') (confined : db.Confined)
    {d d' : MessageDeletion} (message : d'.messageId = d.messageId)
    (home : d'.conversationId = d.conversationId) (users : d'.deletedForUserIds = d.deletedForUserIds)
    (date : d'.deletedAt = d.deletedAt)
    (read : ∀ m ∈ db.messages, m.id = d.messageId →
      db.isMember m.conversationId viewer = true → d' = d) :
    (db.storeDeletion d (db.movedPointers d)).SameFor viewer
      (db'.storeDeletion d' (db'.movedPointers d')) := by
  have applied : (db.applyDeletion d).SameFor viewer (db'.applyDeletion d') := by
    refine ⟨same.conversations,same.members,?_,amend_related same.messages fun m mem m' pair => ?_⟩
    · rw [applyDeletion, applyDeletion, same.deletedMessages, users, message]
    · simp only [decide_eq_true_eq, pair.id, message]
      split
      · rename_i hit
        refine ⟨?_,fun reads => ?_⟩
        · have bare := pair.bare
          simp only [Message.bare, Message.withText, Message.mk.injEq] at bare
          simp [Message.bare, Message.withText, MessageDeletion.mark, bare, date]
        · rw [pair.same reads, read m mem hit reads]
      · exact pair
  have moved : db'.movedPointers d' = db.movedPointers d := by
    unfold movedPointers
    rw [home, message, same.membersOf]
    refine List.map_congr_left fun cm _ => ?_
    rw [movePointer, movePointer, home, applied.latestVisible]
  have stored := applied.regrouped db.conversations
    (saveAll ConversationMember.id (db.movedPointers d) db.members) fun m _ reads => ?_
  · have target : db'.storeDeletion d' (db'.movedPointers d') = { db'.applyDeletion d' with
        conversations := db.conversations
        members := saveAll ConversationMember.id (db.movedPointers d) db.members } := by
      rw [moved, ChatDatabase.storeDeletion, same.members, ← same.conversations]
      rfl
    rw [target]
    exact stored
  · have seats := isMember_of_identity (identity_storeDeletion confined.members d)
      m.conversationId viewer
    exact seats.symm.trans reads

/-- The insert of one message in both tables. -/
theorem storeMessage (same : db.SameFor viewer db') (confined : db.Confined)
    (message : MessageEntity) :
    ∃ r chat chat', CreateMessageHandler.store message db = (r, chat) ∧
      CreateMessageHandler.store message db' = (r, chat') ∧ chat.SameFor viewer chat' := by
  have taken : db'.messages.any (fun m => m.id ≠ (Message.fromDomain message).id &&
        m.clientKey = (Message.fromDomain message).clientKey) =
      db.messages.any fun m => m.id ≠ (Message.fromDomain message).id &&
        m.clientKey = (Message.fromDomain message).clientKey :=
    any_related (fun _ _ pair => by rw [pair.id, pair.clientKey]) same.messages
  unfold CreateMessageHandler.store ChatDatabase.storeMessage
  rw [taken, same.membersOf]
  split
  · exact ⟨_,_,_,rfl,rfl,same⟩
  split
  · exact ⟨_,_,_,rfl,rfl,same⟩
  · refine ⟨_,_,_,rfl,rfl,?_⟩
    let deleted : List DeletedMessage :=
      message.deletedForUserIds.map fun userId => ⟨userId,message.id⟩
    have saved : ({ db with
        messages := save Message.id (Message.fromDomain message) db.messages
        deletedMessages := saveAll id deleted db.deletedMessages } : ChatDatabase).SameFor viewer
          { db' with
            messages := save Message.id (Message.fromDomain message) db'.messages
            deletedMessages := saveAll id deleted db'.deletedMessages } :=
      ⟨same.conversations,same.members,by rw [same.deletedMessages],
        save_related (fun _ _ pair => pair.id) (.refl _) same.messages⟩
    have stored := saved.regrouped db.conversations (saveAll ConversationMember.id
      ((db.membersOf message.conversationId).map message.updateMember) db.members)
      fun m _ reads => ?_
    · rw [same.members, same.conversations]
      exact stored
    · have stays : ∀ cm ∈ db.membersOf message.conversationId, cm ∈ db.members :=
        fun cm mem => (membersOf_iff.mp mem).1
      have frame : ∀ cm, (message.updateMember cm).identity = cm.identity := fun _ => rfl
      have identity := identity_saved confined.members stays frame
      exact (isMember_of_identity identity m.conversationId viewer).symm.trans reads

/-- The save of one conversation in both tables. -/
theorem storeConversation (same : db.SameFor viewer db') {conversation : Conversation}
    {members : List ConversationMember}
    (joins : ∀ rows stored, db.storeConversation conversation members = (.ok rows, stored) →
      ∀ m ∈ db.messages, stored.isMember m.conversationId viewer = true →
        db.isMember m.conversationId viewer = true) :
    ∃ r chat chat', db.storeConversation conversation members = (r, chat) ∧
      db'.storeConversation conversation members = (r, chat') ∧ chat.SameFor viewer chat' := by
  unfold ChatDatabase.storeConversation at joins ⊢
  simp only [same.conversations, same.members, same.message_isNone] at joins ⊢
  split_ifs at joins ⊢
  · exact ⟨_,_,_,rfl,rfl,same⟩
  · exact ⟨_,_,_,rfl,rfl,same⟩
  · exact ⟨_,_,_,rfl,rfl,same⟩
  · exact ⟨_,_,_,rfl,rfl,same⟩
  · exact ⟨_,_,_,rfl,rfl,same.regrouped _ _ (joins _ _ rfl)⟩

end SameFor
end ChatDatabase

end Chatterbox
