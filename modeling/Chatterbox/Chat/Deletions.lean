import Chatterbox.Chat.ReplyPreview
import Chatterbox.Tables.Related

/-!
Deletions in any order. What a run of accepted deletions leaves in the tables is told by the
set of its commands: the tombstones, the rows of `deleted_messages`, and for every member the
pointer, which is recomputed once one of the commands has named the message it points at.
-/
namespace Chatterbox
open Concurrency Tables

namespace DeleteMessageCommand

/-- A live member asks, about a message of the conversation, and for everyone only the sender
    does. -/
def Accepted (c : DeleteMessageCommand) (db : ChatDatabase) : Prop :=
  ∃ member m, db.conversationMember c.conversationId c.userId = .ok member ∧
    db.message c.messageId = some m ∧ m.conversationId = c.conversationId ∧
    (c.scope = .everyone → member.id = m.senderId)

/-- The message has been deleted so before. -/
def InEffect (c : DeleteMessageCommand) (db : ChatDatabase) : Prop :=
  match c.scope with
  | .me => ⟨c.userId,c.messageId⟩ ∈ db.deletedMessages
  | .everyone => ∃ m ∈ db.messages, m.id = c.messageId ∧ m.deletedAt ≠ none

instance (c : DeleteMessageCommand) (db : ChatDatabase) : Decidable (c.InEffect db) := by
  unfold InEffect
  split <;> infer_instance

/-- The event of this command. -/
def tells (c : DeleteMessageCommand) : MessageEvent → Bool
  | .deleted e => e.messageId = c.messageId && e.conversationId = c.conversationId &&
      e.scope = c.scope && e.actorUserId = c.userId
  | _ => false

end DeleteMessageCommand

/-- What an accepted deletion writes and publishes; `m` is the row of its message. -/
structure Deletes (c : DeleteMessageCommand) (db : ChatDatabase) (m : Message)
    (d : MessageDeletion) (events : List MessageEvent) : Prop where
  messageId : d.messageId = m.id
  conversationId : d.conversationId = m.conversationId
  users : ∀ u, u ∈ d.deletedForUserIds ↔
    ⟨u,m.id⟩ ∈ db.deletedMessages ∨ (c.scope = .me ∧ u = c.userId)
  deletedAt : d.deletedAt = none ↔ m.deletedAt = none ∧ c.scope = .me
  events : ∀ c', events.countP c'.tells = if c' = c ∧ ¬ c.InEffect db then 1 else 0

section Steps
variable {db : ChatDatabase} {c : DeleteMessageCommand}

theorem tells_own (c c' : DeleteMessageCommand) (users : List Uuid) (deletedAt : Option Time) :
    c'.tells (.deleted ⟨c.messageId,c.conversationId,c.scope,c.userId,users,deletedAt⟩) =
      decide (c' = c) := by
  obtain ⟨messageId,conversationId,userId,scope⟩ := c
  obtain ⟨messageId',conversationId',userId',scope'⟩ := c'
  rw [Bool.eq_iff_iff]
  simp only [DeleteMessageCommand.tells, Bool.and_eq_true, decide_eq_true_eq,
    DeleteMessageCommand.mk.injEq]
  constructor
  · intro ⟨⟨⟨message,conversation⟩,scope⟩,user⟩
    exact ⟨message.symm,conversation.symm,user.symm,scope.symm⟩
  · intro ⟨message,conversation,user,scope⟩
    exact ⟨⟨⟨message.symm,conversation.symm⟩,scope.symm⟩,user.symm⟩

theorem inEffect_me (scope : c.scope = .me) :
    c.InEffect db ↔ ⟨c.userId,c.messageId⟩ ∈ db.deletedMessages := by
  rw [DeleteMessageCommand.InEffect, scope]

theorem inEffect_everyone (messages : Keyed Message.id db.messages) {m : Message}
    (found : db.message c.messageId = some m) (scope : c.scope = .everyone) :
    c.InEffect db ↔ m.deletedAt ≠ none := by
  obtain ⟨stored,id⟩ := lookup_mem found
  rw [DeleteMessageCommand.InEffect, scope]
  constructor
  · intro ⟨row,memrow,same,gone⟩
    rwa [keyed_unique messages memrow stored (same.trans id.symm)] at gone
  · intro gone
    exact ⟨m,stored,id,gone⟩

/-- The copy that a command saves, against the row it has loaded. -/
theorem deletes_of_delete {now : Time} {member : ConversationMember} {m : Message}
    (messages : Keyed Message.id db.messages) (found : db.message c.messageId = some m)
    (home : m.conversationId = c.conversationId) {deleted : MessageEntity × List MessageEvent}
    (is : DeleteMessageHandler.delete now c member.id (db.loaded m).message = .ok deleted) :
    Deletes c db m deleted.1.deletion deleted.2 := by
  obtain ⟨_,id⟩ := lookup_mem found
  obtain ⟨sameId,sameHome,_⟩ := delete_row is
  have loadedId : (db.loaded m).message.id = c.messageId :=
    (MessageEntity.loadDeletedForUserIds_id ..).trans id
  have loadedHome : (db.loaded m).message.conversationId = c.conversationId :=
    (MessageEntity.loadDeletedForUserIds_conversationId ..).trans home
  have loadedGone : (db.loaded m).message.deletedAt = m.deletedAt :=
    MessageEntity.loadDeletedForUserIds_deletedAt ..
  rcases delete_cases is with ⟨scope,rfl⟩ | ⟨scope,_,⟨gone,rfl⟩ | ⟨live,rfl⟩⟩
  · have effect : c.InEffect db ↔ c.userId ∈ (db.loaded m).message.deletedForUserIds := by
      rw [mem_loaded, id, inEffect_me scope]
    by_cases again : c.userId ∈ (db.loaded m).message.deletedForUserIds
    · rw [MessageEntity.deleteForUser, if_pos again] at sameId sameHome ⊢
      refine ⟨sameId,sameHome,fun u => ?_,?_,fun c' => ?_⟩
      · rw [← mem_loaded]
        constructor
        · exact Or.inl
        · rintro (known | ⟨_,rfl⟩)
          · exact known
          · exact again
      · simp [MessageEntity.deletion, loadedGone, scope]
      · simp [effect, again]
    · rw [MessageEntity.deleteForUser, if_neg again] at sameId sameHome ⊢
      refine ⟨sameId,sameHome,fun u => ?_,?_,fun c' => ?_⟩
      · rw [← mem_loaded]
        simp [MessageEntity.deletion, scope]
      · simp [MessageEntity.deletion, loadedGone, scope]
      · simp only [effect, again, not_false_eq_true, and_true, loadedId, loadedHome, ← scope]
        rw [List.countP_singleton, tells_own]
        simp
  · have effect : c.InEffect db := by
      rw [inEffect_everyone messages found scope, ← loadedGone]
      exact gone
    refine ⟨sameId,sameHome,fun u => ?_,?_,fun c' => ?_⟩
    · simp [MessageEntity.deletion, mem_loaded, scope]
    · simpa [MessageEntity.deletion, scope] using gone
    · simp [effect]
  · have effect : ¬ c.InEffect db := by
      rw [inEffect_everyone messages found scope, ← loadedGone]
      exact not_not.mpr live
    refine ⟨sameId,sameHome,fun u => ?_,?_,fun c' => ?_⟩
    · simp [MessageEntity.deletion, mem_loaded, scope]
    · simp [MessageEntity.deletion, scope]
    · simp only [effect, not_false_eq_true, and_true, loadedId, loadedHome, ← scope]
      rw [List.countP_singleton, tells_own]
      simp

/-- An accepted command succeeds. -/
theorem accepted_change (now : Time) (messages : Keyed Message.id db.messages) (accepted : c.Accepted db) :
    ∃ r m d, DeleteMessageHandler.change now c db = .ok r ∧ db.message c.messageId = some m ∧
      m.conversationId = c.conversationId ∧ r.chat = db.storeDeletion d (db.movedPointers d) ∧
      Deletes c db m d r.events := by
  obtain ⟨member,m,seated,found,home,own⟩ := accepted
  have loads : db.conversationMessage c.conversationId c.messageId = .ok (db.loaded m) := by
    unfold ChatDatabase.conversationMessage
    rw [found]
    simp [home]
  have may : c.scope = .me ∨ member.id = (db.loaded m).message.senderId := by
    cases scope : c.scope with
    | me => exact Or.inl rfl
    | everyone =>
      right
      have sender : (db.loaded m).message.senderId = m.senderId :=
        MessageEntity.loadDeletedForUserIds_senderId ..
      rw [own scope, sender]
  obtain ⟨deleted,deletes⟩ : ∃ deleted, DeleteMessageHandler.delete now c member.id
      (db.loaded m).message = .ok deleted := delete_accepts.mpr may
  obtain ⟨id,_,_⟩ := delete_row deletes
  have again : ((db.storeDeletion deleted.1.deletion
      (db.movedPointers deleted.1.deletion)).message deleted.1.id).isSome := by
    rw [message_storeDeletion, show deleted.1.id = m.id from id, (lookup_mem found).2, found]
    rfl
  obtain ⟨row,again⟩ := Option.isSome_iff_exists.mp again
  let stored := db.storeDeletion deleted.1.deletion (db.movedPointers deleted.1.deletion)
  refine ⟨⟨stored.loaded row,stored,deleted.2⟩,m,deleted.1.deletion,?_,found,home,rfl,
    deletes_of_delete messages found home deletes⟩
  simp only [DeleteMessageHandler.change, seated, loads, bind, Except.bind, deletes,
    ChatDatabase.reload, again, stored]

end Steps

/-- What these commands make of a message row: they touch its tombstone, and its dates. -/
def Marked (commands : List DeleteMessageCommand) (m m' : Message) : Prop :=
  m' = { m with deletedAt := m'.deletedAt, updatedAt := m'.updatedAt } ∧
    (m'.deletedAt = none ↔
      m.deletedAt = none ∧ ∀ c ∈ commands, c.scope = .everyone → c.messageId ≠ m.id)

/-- One of the commands names the message that the member points at. -/
def Touched (commands : List DeleteMessageCommand) (cm : ConversationMember) : Prop :=
  cm.deletedAt = none ∧
    ∃ c ∈ commands, c.conversationId = cm.conversationId ∧ cm.lastMessageId = some c.messageId

/-- What these commands make of a member row: the pointer is right once it has been touched. -/
structure Repointed (commands : List DeleteMessageCommand) (db : ChatDatabase)
    (cm cm' : ConversationMember) : Prop where
  row : cm' = { cm with lastMessageId := cm'.lastMessageId }
  touched : Touched commands cm → db.PointsAtNewest cm'
  untouched : ¬ Touched commands cm → cm' = cm

/-- The tables after these commands. -/
structure DeletedBy (start : ChatDatabase) (commands : List DeleteMessageCommand)
    (db : ChatDatabase) : Prop where
  conversations : db.conversations = start.conversations
  members : List.Forall₂ (Repointed commands db) start.members db.members
  messages : List.Forall₂ (Marked commands) start.messages db.messages
  deletedMessages : ∀ r, r ∈ db.deletedMessages ↔ r ∈ start.deletedMessages ∨
    ∃ c ∈ commands, c.scope = .me ∧ r = ⟨c.userId,c.messageId⟩

section Runs
variable {start db : ChatDatabase} {commands : List DeleteMessageCommand}
  {c : DeleteMessageCommand}

theorem Marked.fields {m m' : Message} (marked : Marked commands m m') :
    m'.id = m.id ∧ m'.senderId = m.senderId ∧ m'.conversationId = m.conversationId ∧
      m'.createdAt = m.createdAt := by
  rw [marked.1]
  exact ⟨rfl,rfl,rfl,rfl⟩

theorem Repointed.fields {cm cm' : ConversationMember} (moved : Repointed commands db cm cm') :
    cm'.id = cm.id ∧ cm'.userId = cm.userId ∧ cm'.conversationId = cm.conversationId ∧
      cm'.deletedAt = cm.deletedAt := by
  rw [moved.row]
  exact ⟨rfl,rfl,rfl,rfl⟩

theorem deletedBy_start (db : ChatDatabase) : DeletedBy db [] db := by
  constructor
  · rfl
  · exact List.forall₂_same.mpr fun cm _ => ⟨rfl,nofun,fun _ => rfl⟩
  · exact List.forall₂_same.mpr fun m _ => ⟨rfl,by simp⟩
  · simp

namespace DeletedBy

theorem keyed (made : DeletedBy start commands db) (sound : start.Sound) :
    Keyed Message.id db.messages ∧ Keyed ConversationMember.id db.members := by
  have ids : db.messages.map Message.id = start.messages.map Message.id :=
    column_related (fun _ _ pair => pair.fields.1) made.messages
  have members : db.members.map ConversationMember.id = start.members.map ConversationMember.id :=
    column_related (fun _ _ pair => pair.fields.1) made.members
  constructor
  · unfold Keyed
    rw [ids]
    exact sound.filed.messages
  · unfold Keyed
    rw [members]
    exact sound.seated.members

theorem dates (made : DeletedBy start commands db)
    (dates : Keyed Message.createdAt start.messages) : Keyed Message.createdAt db.messages := by
  have same : db.messages.map Message.createdAt = start.messages.map Message.createdAt :=
    column_related (fun _ _ pair => pair.fields.2.2.2) made.messages
  unfold Keyed
  rw [same]
  exact dates

theorem message (made : DeletedBy start commands db) {id : Uuid} {m : Message}
    (found : start.message id = some m) : ∃ m', db.message id = some m' ∧ Marked commands m m' := by
  rcases lookup_related (fun _ _ pair => pair.fields.1) id made.messages with
    ⟨none,_⟩ | ⟨r,r',first,second,pair⟩
  · cases none.symm.trans found
  · cases first.symm.trans found
    exact ⟨r',second,pair⟩

theorem membersOf (made : DeletedBy start commands db) (conversationId : Uuid) :
    List.Forall₂ (Repointed commands db) (start.membersOf conversationId)
      (db.membersOf conversationId) := by
  unfold ChatDatabase.membersOf ChatDatabase.liveMembers
  apply filter_related
  · intro cm cm' moved
    rw [moved.fields.2.2.1]
  · apply filter_related
    · intro cm cm' moved
      rw [moved.fields.2.2.2]
    · exact made.members

theorem conversationMember (made : DeletedBy start commands db) {conversationId userId : Uuid}
    {member : ConversationMember}
    (seated : start.conversationMember conversationId userId = .ok member) :
    ∃ member', db.conversationMember conversationId userId = .ok member' ∧
      member'.id = member.id := by
  unfold ChatDatabase.conversationMember ChatDatabase.getConversation ChatDatabase.liveConversations
    at seated ⊢
  rw [made.conversations]
  cases known : lookup Conversation.id conversationId
      (start.conversations.filter fun c => c.deletedAt.isNone) with
  | none =>
    rw [known] at seated
    cases seated
  | some conversation =>
    rw [known] at seated
    simp only [Option.map_some] at seated ⊢
    rcases lookup_related (fun _ _ pair => pair.fields.2.1) userId
        (made.membersOf conversationId) with ⟨none,_⟩ | ⟨r,r',first,second,pair⟩
    · unfold lookup at none
      rw [none] at seated
      cases seated
    · unfold lookup at first second
      rw [first] at seated
      rw [second]
      cases seated
      exact ⟨r',rfl,pair.fields.1⟩

/-- A command that is accepted stays so. -/
theorem accepted (made : DeletedBy start commands db) (accepted : c.Accepted start) :
    c.Accepted db := by
  obtain ⟨member,m,seated,found,home,own⟩ := accepted
  obtain ⟨m',found',pair⟩ := made.message found
  obtain ⟨member',seated',id⟩ := made.conversationMember seated
  obtain ⟨_,sender,there,_⟩ := pair.fields
  refine ⟨member',m',seated',found',there.trans home,fun scope => ?_⟩
  rw [id, own scope, sender]

end DeletedBy

/-- Accepted commands that do the same are the same. -/
theorem accepted_unique {d : DeleteMessageCommand} (sound : start.Sound)
    (accepted : c.Accepted start) (accepted' : d.Accepted start)
    (message : d.messageId = c.messageId) (scope : d.scope = c.scope)
    (who : c.scope = .me → d.userId = c.userId) : d = c := by
  obtain ⟨member,m,seated,found,home,own⟩ := accepted
  obtain ⟨member',m',seated',found',home',own'⟩ := accepted'
  rw [message, found] at found'
  cases found'
  have user : d.userId = c.userId := by
    cases is : c.scope with
    | me => exact who is
    | everyone =>
      obtain ⟨joined,names,_⟩ := conversationMember_ok seated
      obtain ⟨joined',names',_⟩ := conversationMember_ok seated'
      have same : member'.id = member.id := (own' (scope.trans is)).trans (own is).symm
      rw [← names, ← names', keyed_unique sound.seated.members
        (ChatDatabase.membersOf_iff.mp joined').1 (ChatDatabase.membersOf_iff.mp joined).1 same]
  cases c
  cases d
  simp_all

/-- A command is in effect that was so at the start, or has been run since. -/
theorem DeletedBy.inEffect (made : DeletedBy start commands db) (sound : start.Sound)
    (all : ∀ d ∈ commands, d.Accepted start) (accepted : c.Accepted start) :
    c.InEffect db ↔ c.InEffect start ∨ c ∈ commands := by
  have same : ∀ d ∈ commands, d.messageId = c.messageId → d.scope = c.scope →
      (c.scope = .me → d.userId = c.userId) → d = c :=
    fun d mem => accepted_unique sound accepted (all d mem)
  cases scope : c.scope with
  | me =>
    rw [inEffect_me scope, inEffect_me scope, made.deletedMessages]
    constructor
    · rintro (known | ⟨d,mem,is,row⟩)
      · exact Or.inl known
      · obtain ⟨user,message⟩ := DeletedMessage.mk.inj row
        rw [← same d mem message.symm (is.trans scope.symm) fun _ => user.symm]
        exact Or.inr mem
    · rintro (known | mem)
      · exact Or.inl known
      · exact Or.inr ⟨c,mem,scope,rfl⟩
  | everyone =>
    obtain ⟨_,m,_,found,_⟩ := accepted
    obtain ⟨m',found',pair⟩ := made.message found
    rw [inEffect_everyone sound.filed.messages found scope,
      inEffect_everyone (made.keyed sound).1 found' scope, ne_eq, pair.2, not_and_or]
    apply or_congr Iff.rfl
    constructor
    · intro some
      simp only [not_forall, not_not] at some
      obtain ⟨d,mem,is,message⟩ := some
      rw [← same d mem (message.trans (lookup_mem found).2) (is.trans scope.symm)
        fun me => absurd (scope.symm.trans me) (by simp)]
      exact mem
    · intro mem all
      exact all c mem scope (lookup_mem found).2.symm

theorem touched_more {cm : ConversationMember} (touched : Touched commands cm) :
    Touched (commands ++ [c]) cm := by
  obtain ⟨live,c',mem,names⟩ := touched
  exact ⟨live,c',List.mem_append_left _ mem,names⟩

section Step
variable {m : Message} {d : MessageDeletion} {events : List MessageEvent}

/-- One more command: the pointers that it moves, -/
theorem Repointed.moved {cm cm' : ConversationMember} (moved : Repointed commands db cm cm')
    (dates : Keyed Message.createdAt db.messages) (found : db.message c.messageId = some m)
    (home : m.conversationId = c.conversationId) (deletes : Deletes c db m d events)
    (joined : cm' ∈ db.membersOf d.conversationId) (points : cm'.lastMessageId = some d.messageId) :
    Repointed (commands ++ [c]) (db.storeDeletion d (db.movedPointers d)) cm
      (db.movePointer d cm') := by
  obtain ⟨_,id⟩ := lookup_mem found
  obtain ⟨_,_,there,alive⟩ := moved.fields
  obtain ⟨_,live,here⟩ := ChatDatabase.membersOf_iff.mp joined
  have frame : ∀ row : Message, (d.mark row).createdAt = row.createdAt := fun _ => rfl
  have later : Keyed Message.createdAt (db.applyDeletion d).messages := keyed_amend dates frame
  constructor
  · rw [moved.row]
    rfl
  · intro _
    change Newest ((db.applyDeletion d).Shows cm'.conversationId cm'.userId) _
    rw [here]
    exact ChatDatabase.newest_latestVisible later
  · intro untouched
    exfalso
    apply untouched
    refine ⟨alive.symm.trans live,?_⟩
    by_cases before : Touched commands cm
    · exact (touched_more before).2
    · refine ⟨c,List.mem_append_right _ List.mem_cons_self,?_,?_⟩
      · rw [← there, here, deletes.conversationId, home]
      · rw [← moved.untouched before, points, deletes.messageId, id]

/-- the pointers that it leaves, -/
theorem Repointed.kept {cm cm' : ConversationMember} (moved : Repointed commands db cm cm')
    (messages : Keyed Message.id db.messages) (found : db.message c.messageId = some m)
    (home : m.conversationId = c.conversationId) (deletes : Deletes c db m d events)
    (elsewhere : cm'.deletedAt = none → cm'.conversationId = d.conversationId →
      cm'.lastMessageId ≠ some d.messageId) :
    Repointed (commands ++ [c]) (db.storeDeletion d (db.movedPointers d)) cm cm' := by
  obtain ⟨stored,id⟩ := lookup_mem found
  obtain ⟨_,_,_,alive⟩ := moved.fields
  have gone : ∀ row ∈ db.messages, row.id = d.messageId → d.deletedAt = none →
      row.deletedAt = none := by
    intro row mem same none
    rw [keyed_unique messages mem stored (same.trans deletes.messageId)]
    exact (deletes.deletedAt.mp none).1
  constructor
  · exact moved.row
  · rintro ⟨live,c',mem',here,points⟩
    have live' : cm'.deletedAt = none := alive.trans live
    change Newest ((db.applyDeletion d).Shows cm'.conversationId cm'.userId) cm'.lastMessageId
    by_cases before : Touched commands cm
    · apply (moved.touched before).shrink
      · intro _ _
        exact (ChatDatabase.shows_applyDeletion gone).1
      · intro k points t shown
        apply (ChatDatabase.shows_applyDeletion gone).2 ?_ shown
        rintro rfl
        obtain ⟨row,memrow,same,_,its,_⟩ := shown
        rw [keyed_unique messages memrow stored (same.trans deletes.messageId),
          ← deletes.conversationId] at its
        exact elsewhere live' its.symm points
    · rcases List.mem_append.mp mem' with old | new
      · exact absurd ⟨live,c',old,here,points⟩ before
      · rw [List.mem_singleton.mp new] at here points
        rw [← moved.untouched before] at here points
        rw [← id, ← deletes.messageId] at points
        rw [← home, ← deletes.conversationId] at here
        exact absurd points (elsewhere live' here.symm)
  · intro untouched
    exact moved.untouched fun before => untouched (touched_more before)

/-- the messages, -/
theorem Marked.step {row row' : Message} (marked : Marked commands row row')
    (messages : Keyed Message.id db.messages) (mem : row' ∈ db.messages)
    (found : db.message c.messageId = some m) (deletes : Deletes c db m d events) :
    Marked (commands ++ [c]) row
      (if decide (row'.id = d.messageId) then d.mark row' else row') := by
  obtain ⟨stored,id⟩ := lookup_mem found
  obtain ⟨same,_⟩ := marked.fields
  by_cases hit : row'.id = d.messageId
  · have is : row' = m := keyed_unique messages mem stored (hit.trans deletes.messageId)
    have own : c.messageId = row.id := by rw [← same, is, id]
    rw [if_pos (decide_eq_true hit)]
    constructor
    · rw [marked.1]
      rfl
    · change d.deletedAt = none ↔ _
      rw [deletes.deletedAt, ← is, marked.2, List.forall_mem_append]
      cases scope : c.scope <;> simp [own, scope]
  · rw [if_neg (by simpa using hit)]
    have other : c.messageId ≠ row.id := by
      rw [← same, ← id, ← deletes.messageId]
      exact fun is => hit is.symm
    refine ⟨marked.1,?_⟩
    rw [marked.2, List.forall_mem_append]
    simp [other]

/-- the deletions for one user, -/
theorem DeletedBy.rows_step (made : DeletedBy start commands db)
    (found : db.message c.messageId = some m) (deletes : Deletes c db m d events)
    (r : DeletedMessage) :
    r ∈ (db.storeDeletion d (db.movedPointers d)).deletedMessages ↔ r ∈ start.deletedMessages ∨
      ∃ c' ∈ commands ++ [c], c'.scope = .me ∧ r = ⟨c'.userId,c'.messageId⟩ := by
  obtain ⟨_,id⟩ := lookup_mem found
  change r ∈ saveAll _ (d.deletedForUserIds.map fun u => ⟨u,d.messageId⟩) db.deletedMessages ↔ _
  have others : r ∈ db.deletedMessages → r ∈ start.deletedMessages ∨
      ∃ c' ∈ commands ++ [c], c'.scope = .me ∧ r = ⟨c'.userId,c'.messageId⟩ := by
    intro old
    rcases (made.deletedMessages r).mp old with first | ⟨c',mem,is⟩
    · exact Or.inl first
    · exact Or.inr ⟨c',List.mem_append_left _ mem,is⟩
  rw [ChatDatabase.mem_deletionRows, deletes.users]
  constructor
  · rintro (⟨its,known | ⟨scope,user⟩⟩ | old)
    · apply others
      rwa [← deletes.messageId, ← its] at known
    · refine Or.inr ⟨c,List.mem_append_right _ List.mem_cons_self,scope,?_⟩
      rw [← user, ← id, ← deletes.messageId, ← its]
    · exact others old
  · rintro (first | ⟨c',mem,scope,rfl⟩)
    · exact Or.inr ((made.deletedMessages r).mpr (Or.inl first))
    · rcases List.mem_append.mp mem with old | new
      · exact Or.inr ((made.deletedMessages _).mpr (Or.inr ⟨c',old,scope,rfl⟩))
      · rw [List.mem_singleton.mp new] at scope ⊢
        exact Or.inl ⟨id.symm.trans deletes.messageId.symm,Or.inr ⟨scope,rfl⟩⟩

/-- and all the tables. -/
theorem DeletedBy.step (made : DeletedBy start commands db) (sound : start.Sound)
    (dates : Keyed Message.createdAt start.messages) (found : db.message c.messageId = some m)
    (home : m.conversationId = c.conversationId) (deletes : Deletes c db m d events) :
    DeletedBy start (commands ++ [c]) (db.storeDeletion d (db.movedPointers d)) := by
  obtain ⟨messages,members⟩ := made.keyed sound
  constructor
  · exact made.conversations
  · rw [ChatDatabase.storeDeletion_members members]
    apply amend_right made.members
    intro cm cm' mem moved
    split
    · rename_i hit
      obtain ⟨joined,points⟩ := List.mem_filter.mp (of_decide_eq_true hit)
      exact moved.moved (made.dates dates) found home deletes joined (of_decide_eq_true points)
    · rename_i miss
      apply moved.kept messages found home deletes
      intro live here points
      apply miss
      simp [ChatDatabase.membersOf_iff, mem, live, here, points]
  · apply amend_right made.messages
    intro row row' mem marked
    exact marked.step messages mem found deletes
  · exact made.rows_step found deletes

end Step

end Runs

/-- The same message, but for the dates that a deletion writes. -/
def Message.SameButDates (m m' : Message) : Prop :=
  m' = { m with deletedAt := m'.deletedAt, updatedAt := m'.updatedAt } ∧
    (m'.deletedAt = none ↔ m.deletedAt = none)

/-- The same tables, but for the dates that deletions write. -/
structure ChatDatabase.SameButDates (db db' : ChatDatabase) : Prop where
  conversations : db'.conversations = db.conversations
  members : db'.members = db.members
  messages : List.Forall₂ Message.SameButDates db.messages db'.messages
  deletedMessages : ∀ r, r ∈ db'.deletedMessages ↔ r ∈ db.deletedMessages

/-- Deletions one after the other, each at its time. -/
def deleteAll : List (Time × DeleteMessageCommand) → ChatWorld → ChatWorld
  | [], w => w
  | (now, c) :: rest, w => deleteAll rest ((DeleteMessageHandler.execute now c).run chatHandler w).2

section Orders
variable {start db db' : ChatDatabase} {commands commands' : List DeleteMessageCommand}

theorem shows_same (messages : List.Forall₂ Message.SameButDates db.messages db'.messages)
    (deletions : ∀ r, r ∈ db'.deletedMessages ↔ r ∈ db.deletedMessages)
    (conversationId userId id : Uuid) (createdAt : Time) :
    db'.Shows conversationId userId id createdAt ↔ db.Shows conversationId userId id createdAt := by
  have any : ∀ tables : ChatDatabase, tables.Shows conversationId userId id createdAt ↔
      tables.messages.any (fun m => m.id = id ∧ m.createdAt = createdAt ∧
        m.conversationId = conversationId ∧ m.deletedAt = none ∧
          ⟨userId,m.id⟩ ∉ tables.deletedMessages) = true := by
    intro tables
    simp [ChatDatabase.Shows]
  rw [any, any, any_related (fun m m' pair => ?_) messages]
  have fields : m'.id = m.id ∧ m'.createdAt = m.createdAt ∧
      m'.conversationId = m.conversationId := by
    rw [pair.1]
    exact ⟨rfl,rfl,rfl⟩
  simp only [fields.1, fields.2.1, fields.2.2, pair.2, deletions]

/-- What is left is told by the set of commands. -/
theorem deletedBy_same (first : DeletedBy start commands db) (second : DeletedBy start commands' db')
    (same : ∀ c, c ∈ commands ↔ c ∈ commands') : db.SameButDates db' := by
  have messages : List.Forall₂ Message.SameButDates db.messages db'.messages := by
    apply related_both first.messages second.messages
    intro m m₁ _ m₂ _ pair pair'
    constructor
    · rw [pair'.1, pair.1]
    · rw [pair'.2, pair.2]
      simp only [same]
  have deletions : ∀ r, r ∈ db'.deletedMessages ↔ r ∈ db.deletedMessages := by
    intro r
    rw [first.deletedMessages, second.deletedMessages]
    simp only [same]
  refine ⟨?_,?_,messages,deletions⟩
  · rw [first.conversations, second.conversations]
  · have rows : List.Forall₂ (fun cm cm' => cm = cm') db.members db'.members := by
      apply related_both first.members second.members
      intro cm cm₁ _ cm₂ _ moved moved'
      have touches : Touched commands' cm ↔ Touched commands cm := by
        simp only [Touched, same]
      by_cases touched : Touched commands cm
      · have here := moved.touched touched
        have there := moved'.touched (touches.mpr touched)
        obtain ⟨_,user,home,_⟩ := moved.fields
        obtain ⟨_,user',home',_⟩ := moved'.fields
        rw [ChatDatabase.PointsAtNewest, home, user] at here
        rw [ChatDatabase.PointsAtNewest, home', user'] at there
        have pointer := here.unique (there.congr fun id createdAt =>
          (shows_same messages deletions _ _ id createdAt).symm)
        rw [moved.row, moved'.row, pointer]
      · rw [moved.untouched touched, moved'.untouched (mt touches.mp touched)]
    exact (List.forall₂_eq_eq_eq ▸ rows : db.members = db'.members).symm

/-- A run of accepted deletions. -/
theorem deleteAll_made (sound : start.Sound) (dates : Keyed Message.createdAt start.messages)
    {xs : List (Time × DeleteMessageCommand)} {w : ChatWorld}
    (made : DeletedBy start commands w.chat) (all : ∀ d ∈ commands, d.Accepted start)
    (accepted : ∀ x ∈ xs, x.2.Accepted start) :
    DeletedBy start (commands ++ xs.map Prod.snd) (deleteAll xs w).chat ∧
      ∃ events, (deleteAll xs w).published = w.published ++ events ∧
        ∀ c : DeleteMessageCommand, events.countP c.tells =
          if c ∈ xs.map Prod.snd ∧ ¬ c.InEffect start ∧ c ∉ commands then 1 else 0 := by
  induction xs generalizing commands w with
  | nil =>
    rw [List.map_nil, List.append_nil]
    exact ⟨made,[],by simp [deleteAll],by simp⟩
  | cons x rest ih =>
    obtain ⟨now,c⟩ := x
    have own := accepted _ List.mem_cons_self
    obtain ⟨r,m,d,is,found,home,chat,deletes⟩ :=
      accepted_change now (made.keyed sound).1 (made.accepted own)
    have ran : ((DeleteMessageHandler.execute now c).run chatHandler w).2 =
        { w with chat := r.chat, published := w.published ++ r.events } := by
      rw [run_deleteMessage, is]
      rfl
    have next : DeletedBy start (commands ++ [c]) r.chat := by
      rw [chat]
      exact made.step sound dates found home deletes
    have all' : ∀ d ∈ commands ++ [c], d.Accepted start := by
      intro d mem
      rcases List.mem_append.mp mem with old | new
      · exact all d old
      · rw [List.mem_singleton.mp new]
        exact own
    obtain ⟨later,events,published,counts⟩ := @ih _
      { w with chat := r.chat, published := w.published ++ r.events } next all'
      fun x mem => accepted x (List.mem_cons_of_mem _ mem)
    rw [deleteAll, ran]
    constructor
    · rw [List.append_assoc] at later
      exact later
    · refine ⟨r.events ++ events,by rw [published, List.append_assoc],fun c' => ?_⟩
      have effect := made.inEffect sound all own
      dsimp only at effect
      rw [List.countP_append, deletes.events, counts]
      by_cases is : c' = c
      · rw [is]
        by_cases first : c.InEffect start
        · simp [effect, first]
        · by_cases mem : c ∈ commands
          · simp [effect, mem]
          · simp [effect, first, mem]
      · have old : c' ∈ commands ++ [c] ↔ c' ∈ commands := by simp [is]
        have among : c' ∈ ((now, c) :: rest).map Prod.snd ↔ c' ∈ rest.map Prod.snd := by simp [is]
        simp only [is, false_and, ↓reduceIte, Nat.zero_add, old, among]

end Orders

/-- Every command has published one event in the run if it was not in effect before, and none
    otherwise; nothing else has been published. -/
def TellsOnce (w : ChatWorld) (xs : List (Time × DeleteMessageCommand)) : Prop :=
  ∃ events, (deleteAll xs w).published = w.published ++ events ∧
    ∀ c : DeleteMessageCommand, events.countP c.tells =
      if c ∈ xs.map Prod.snd ∧ ¬ c.InEffect w.chat then 1 else 0

/-- In every reachable world in which no two messages share their date, runs of the same
    accepted deletions end in the same tables, and each tells of every deletion once. -/
theorem deletions_commute {ilike : JsString → JsString → Bool} {start w : ChatWorld}
    {turns : List Turn} (empty : start.chat = ⟨[],[],[],[]⟩)
    (along : Turn.Along ilike Turn.Allowed turns start) (reached : w = Turn.runAll ilike turns start)
    (dates : Keyed Message.createdAt w.chat.messages) {xs ys : List (Time × DeleteMessageCommand)}
    (accepted : ∀ x ∈ xs, x.2.Accepted w.chat)
    (same : ∀ c, c ∈ xs.map Prod.snd ↔ c ∈ ys.map Prod.snd) :
    (deleteAll xs w).chat.SameButDates (deleteAll ys w).chat ∧ TellsOnce w xs ∧ TellsOnce w ys := by
  have sound : w.chat.Sound := by
    rw [reached]
    exact sound_session along empty
  have accepted' : ∀ y ∈ ys, y.2.Accepted w.chat := by
    intro y mem
    obtain ⟨x,memx,is⟩ := List.mem_map.mp ((same y.2).mpr (List.mem_map_of_mem mem))
    rw [← is]
    exact accepted x memx
  obtain ⟨first,events,published,counts⟩ := deleteAll_made sound dates (deletedBy_start w.chat)
    (by simp) accepted
  obtain ⟨second,events',published',counts'⟩ := deleteAll_made sound dates
    (deletedBy_start w.chat) (by simp) accepted'
  refine ⟨deletedBy_same first second same,⟨events,published,?_⟩,events',published',?_⟩
  · intro c
    simpa only [List.not_mem_nil, not_false_eq_true, and_true] using counts c
  · intro c
    simpa only [List.not_mem_nil, not_false_eq_true, and_true] using counts' c

/-- User 2 deletes the greeting for himself. -/
def hides : DeleteMessageCommand := ⟨104,100,2,.me⟩

/-- User 1 takes it back. -/
def retracts : DeleteMessageCommand := ⟨104,100,1,.everyone⟩

theorem deletions_commute_greeting :
    (deleteAll [(2000, hides), (3000, retracts)] (Turn.runAll noMatch [opening] emptyWorld)).chat
        |>.SameButDates (deleteAll [(2000, retracts), (3000, hides), (4000, retracts)]
          (Turn.runAll noMatch [opening] emptyWorld)).chat := by
  have along : Turn.Along noMatch Turn.Allowed [opening] emptyWorld :=
    ⟨unused_numberedDraws (by decide) (by decide) (by decide),trivial⟩
  have accepted : ∀ x ∈ [((2000 : Time), hides), (3000, retracts)],
      x.2.Accepted (Turn.runAll noMatch [opening] emptyWorld).chat := by
    intro x mem
    rcases List.mem_cons.mp mem with rfl | second
    · exact ⟨⟨103,2,100,none,some 104,1000,none⟩,
        ⟨104,[104, 105],.text,102,100,1000,1000,none,none,none,none⟩,by decide,by decide,rfl,nofun⟩
    · rw [List.mem_singleton.mp second]
      exact ⟨⟨102,1,100,some 104,some 104,1000,none⟩,
        ⟨104,[104, 105],.text,102,100,1000,1000,none,none,none,none⟩,by decide,by decide,rfl,
        fun _ => rfl⟩
  exact (deletions_commute rfl along rfl (by decide) accepted fun c => by
    simp [or_comm, or_left_comm]).1

/-- User 2 has deleted the greeting for himself, and deletes it again: nothing is published. -/
theorem deleted_again_untold : ∃ w, w = Turn.runAll noMatch
      [opening, .request (numberedDraws 2) 2 (.deleteMessage ⟨100,104,.me⟩)] emptyWorld ∧
    Turn.Along noMatch Turn.Allowed
      [opening, .request (numberedDraws 2) 2 (.deleteMessage ⟨100,104,.me⟩)] emptyWorld ∧
    Keyed Message.createdAt w.chat.messages ∧ hides.Accepted w.chat ∧
    ∀ events, (deleteAll [(3000, hides)] w).published = w.published ++ events →
      events.countP hides.tells ≠ 1 := by
  refine ⟨_,rfl,⟨unused_numberedDraws (by decide) (by decide) (by decide),
    unused_numberedDraws (by decide) (by decide) (by decide),trivial⟩,by decide,
    ⟨⟨103,2,100,none,none,1000,none⟩,⟨104,[104, 105],.text,102,100,1000,2000,none,none,none,none⟩,
      by decide,by decide,rfl,nofun⟩,?_⟩
  intro events published
  have untold : (deleteAll [(3000, hides)] (Turn.runAll noMatch
      [opening, .request (numberedDraws 2) 2 (.deleteMessage ⟨100,104,.me⟩)] emptyWorld)).published =
        (Turn.runAll noMatch [opening, .request (numberedDraws 2) 2 (.deleteMessage ⟨100,104,.me⟩)]
          emptyWorld).published := by decide
  rw [untold] at published
  have none : events = [] := by simpa using published
  simp [none]

end Chatterbox
