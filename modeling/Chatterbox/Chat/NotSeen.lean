import Chatterbox.Chat.ReadPositions
import Chatterbox.Tables.Counted

/-!
The number of messages that a member has not seen. A message that is stored is the newest
and adds one for every member it is shown to, a message that is hidden or deleted takes one
away where it has counted, and the member's own sends and marks put his position anew.
-/
namespace Chatterbox
open Concurrency Tables

namespace ChatDatabase
variable (db : ChatDatabase)

/-- The message is one of the conversation that the user sees, and comes after his position. -/
def unseenBy (userId conversationId : Uuid) (position : Option Uuid) (n : Message) : Bool :=
  n.conversationId = conversationId && db.visibleTo userId n &&
    position.all fun id => id < n.id

def unseenAfter (userId conversationId : Uuid) (position : Option Uuid) : Nat :=
  (db.messages.filter (db.unseenBy userId conversationId position)).length

/-- The message counts for the member. -/
def counts (cm : ConversationMember) (n : Message) : Bool :=
  db.unseenBy cm.userId cm.conversationId cm.lastSeenMessageId n

/-- The difference of the two aggregates is the number of the messages that count. -/
theorem notSeenCount_eq (cm : ConversationMember) :
    db.notSeenCount cm = db.unseenAfter cm.userId cm.conversationId cm.lastSeenMessageId := by
  unfold notSeenCount unseenAfter
  dsimp only
  generalize is : db.messages.filter (fun n => n.conversationId = cm.conversationId &&
    n.deletedAt.isNone && cm.lastSeenMessageId.all fun id => id < n.id) = unseen
  have split := unseen.length_eq_countP_add_countP fun n => db.deletedFor cm.userId n.id
  have kept : unseen.countP (fun n => ¬ db.deletedFor cm.userId n.id = true) =
      db.messages.countP (db.unseenBy cm.userId cm.conversationId cm.lastSeenMessageId) := by
    rw [← is, List.countP_filter]
    apply List.countP_congr
    intro n _
    simp only [unseenBy, visibleTo]
    grind
  rw [← List.countP_eq_length_filter]
  omega

end ChatDatabase

/-- The number of unseen messages of a member after an operation. -/
def ChatOperation.recount (amb : Ambient) (actor : Uuid) (before after : ChatDatabase)
    (r : Except Failure ChatResponse) (cm : ConversationMember) : ChatOperation → Nat
  | .sendMessage data =>
      if data.conversationId = cm.conversationId ∧ (after.message (amb.uuid 0)).isSome then
        if cm.userId = actor then 0
        else if after.deletedFor cm.userId (amb.uuid 0) then before.notSeenCount cm
        else before.notSeenCount cm + 1
      else before.notSeenCount cm
  | .deleteMessage data =>
      if r.isOk ∧ (data.scope = .everyone ∨ cm.userId = actor) ∧
          (before.message data.messageId).any (before.counts cm) then before.notSeenCount cm - 1
      else before.notSeenCount cm
  | .markMessageSeen data =>
      if r.isOk ∧ data.conversationId = cm.conversationId ∧ cm.userId = actor then
        before.unseenAfter cm.userId cm.conversationId (some data.messageId)
      else before.notSeenCount cm
  | _ => before.notSeenCount cm

namespace ChatDatabase
section Counts
variable {db : ChatDatabase} {userId conversationId : Uuid} {position : Option Uuid}

theorem unseenAfter_eq_countP : db.unseenAfter userId conversationId position =
    db.messages.countP (db.unseenBy userId conversationId position) :=
  (List.countP_eq_length_filter).symm

theorem unseenAfter_updateMessage (id : Uuid) (text : JsString) (editedAt : Option Time)
    (updatedAt : Time) :
    (db.updateMessage id text editedAt updatedAt).unseenAfter userId conversationId position =
      db.unseenAfter userId conversationId position := by
  rw [unseenAfter_eq_countP, unseenAfter_eq_countP]
  apply countP_amend_same
  intro n _
  split <;> rfl

/-- A new message adds one where it is seen, and leaves the count of the others. -/
theorem unseenAfter_withMessage {message : MessageEntity}
    (fresh : message.id ∉ db.messages.map Message.id) :
    (db.withMessage message).unseenAfter userId conversationId position =
      db.unseenAfter userId conversationId position +
        if (db.withMessage message).unseenBy userId conversationId position
          (Message.fromDomain message) then 1 else 0 := by
  rw [unseenAfter_eq_countP, unseenAfter_eq_countP]
  have appended : (db.withMessage message).messages =
      db.messages ++ [Message.fromDomain message] := rfl
  have old : db.messages.countP ((db.withMessage message).unseenBy userId conversationId position) =
      db.messages.countP (db.unseenBy userId conversationId position) := by
    apply List.countP_congr
    intro n mem
    have other : n.id ≠ message.id := fun same => fresh (List.mem_map.mpr ⟨n,mem,same⟩)
    simp only [unseenBy, visibleTo, deletedFor_withMessage other]
  rw [appended, List.countP_append, old, List.countP_singleton]

theorem deletedFor_storeDeletion (d : MessageDeletion) (members : List ConversationMember)
    (id : Uuid) : (db.storeDeletion d members).deletedFor userId id =
      (decide (id = d.messageId ∧ userId ∈ d.deletedForUserIds) || db.deletedFor userId id) := by
  unfold deletedFor
  rw [← Bool.decide_or]
  exact decide_eq_decide.mpr mem_deletionRows

/-- A message counts after a deletion if it has counted before and is not taken away. -/
theorem unseenBy_storeDeletion {d : MessageDeletion} {n : Message}
    (gone : n.id = d.messageId → d.deletedAt = none → n.deletedAt = none)
    (members : List ConversationMember) :
    (db.storeDeletion d members).unseenBy userId conversationId position
        (if n.id = d.messageId then d.mark n else n) =
      (db.unseenBy userId conversationId position n && !decide (n.id = d.messageId ∧
        (d.deletedAt ≠ none ∨ userId ∈ d.deletedForUserIds))) := by
  by_cases its : n.id = d.messageId
  · rw [if_pos its]
    simp only [unseenBy, visibleTo, deletedFor_storeDeletion, MessageDeletion.mark]
    cases dated : d.deletedAt with
    | none =>
      have live := gone its dated
      simp only [live, its]
      grind
    | some t => simp [its]
  · rw [if_neg its]
    simp [unseenBy, visibleTo, deletedFor_storeDeletion, its]

/-- A deletion takes one away from those who lose a message that has counted. -/
theorem unseenAfter_storeDeletion {d : MessageDeletion} {m : Message}
    (messages : Keyed Message.id db.messages) (stored : m ∈ db.messages) (its : d.messageId = m.id)
    (gone : d.deletedAt = none → m.deletedAt = none) (members : List ConversationMember) :
    (db.storeDeletion d members).unseenAfter userId conversationId position =
      db.unseenAfter userId conversationId position -
        if (d.deletedAt ≠ none ∨ userId ∈ d.deletedForUserIds) ∧
          db.unseenBy userId conversationId position m = true then 1 else 0 := by
  have only : ∀ n ∈ db.messages, n.id = d.messageId → n = m :=
    fun n mem same => keyed_unique messages mem stored (same.trans its)
  have row : ∀ n ∈ db.messages, (db.storeDeletion d members).unseenBy userId conversationId
      position (if n.id = d.messageId then d.mark n else n) =
      (db.unseenBy userId conversationId position n && !decide (n.id = d.messageId ∧
        (d.deletedAt ≠ none ∨ userId ∈ d.deletedForUserIds))) := by
    intro n mem
    apply unseenBy_storeDeletion
    intro same
    rw [only n mem same]
    exact gone
  rw [unseenAfter_eq_countP, unseenAfter_eq_countP]
  have moved : (db.storeDeletion d members).messages.countP
      ((db.storeDeletion d members).unseenBy userId conversationId position) =
      db.messages.countP fun n => db.unseenBy userId conversationId position n &&
        !decide (n.id = d.messageId ∧ (d.deletedAt ≠ none ∨ userId ∈ d.deletedForUserIds)) := by
    apply countP_amend_same
    intro n mem
    simpa only [decide_eq_true_eq] using row n mem
  rw [moved]
  by_cases hides : d.deletedAt ≠ none ∨ userId ∈ d.deletedForUserIds
  · simp only [hides, and_true, true_and]
    apply countP_lost (List.Nodup.of_map _ messages) stored
    · simp [its]
    · intro n mem other
      have kept : n.id ≠ d.messageId := fun same => other (only n mem same)
      simp [kept]
  · simp [hides]

end Counts
end ChatDatabase

section Effects
variable {users : UserDatabase} {amb : Ambient} {actor : Uuid} {db db' : ChatDatabase}
  {events : List MessageEvent} {cm : ConversationMember}

/-- A position is before every newer message. -/
theorem position_before {id : Uuid} (stored : db.SeenStored) (mem : cm ∈ db.members)
    (newest : ∀ m ∈ db.messages, m.id < id) :
    (cm.lastSeenMessageId.all fun seen => seen < id) = true := by
  rw [Option.all_eq_true]
  intro seen is
  obtain ⟨m,known,rfl⟩ := List.mem_map.mp (stored cm mem seen is)
  exact decide_eq_true (newest m known)

/-- The row of a member after a send: the position of the author is the message. -/
theorem sent_row {command : CreateMessageCommand} {member : ConversationMember}
    {message : MessageEntity} {event : MessageCreatedDomainEvent}
    (sends : Inserts amb command db member message event)
    (members : Keyed ConversationMember.id db.members) (mem : cm ∈ db.members) :
    (if decide (cm ∈ db.membersOf message.conversationId) = true then message.updateMember cm
      else cm).identity = cm.identity ∧
    (if decide (cm ∈ db.membersOf message.conversationId) = true then message.updateMember cm
      else cm).lastSeenMessageId =
        if cm.id = message.senderId then some message.id else cm.lastSeenMessageId := by
  obtain ⟨_,sender,home,_⟩ := sends.fields
  obtain ⟨joined,_,_⟩ := conversationMember_ok sends.seated
  by_cases seated : cm ∈ db.membersOf message.conversationId
  · rw [if_pos (decide_eq_true seated)]
    exact ⟨rfl,rfl⟩
  · have other : cm.id ≠ message.senderId := by
      intro same
      apply seated
      rw [keyed_unique members mem (ChatDatabase.membersOf_iff.mp joined).1 (same.trans sender),
        home]
      exact joined
    rw [if_neg (by simpa using seated), if_neg other]
    exact ⟨rfl,rfl⟩

/-- The count of a member after a send. -/
theorem notSeenCount_withMessage {command : CreateMessageCommand} {member : ConversationMember}
    {message : MessageEntity} {event : MessageCreatedDomainEvent}
    (sends : Inserts amb command db member message event)
    (members : Keyed ConversationMember.id db.members) (stored : db.SeenStored)
    (newest : ∀ m ∈ db.messages, m.id < message.id) (mem : cm ∈ db.members) :
    ∃ cm' ∈ (db.withMessage message).members, cm'.identity = cm.identity ∧
      (db.withMessage message).notSeenCount cm' =
        if cm.conversationId = message.conversationId then
          if cm.id = message.senderId then 0
          else if (db.withMessage message).deletedFor cm.userId message.id then db.notSeenCount cm
          else db.notSeenCount cm + 1
        else db.notSeenCount cm := by
  obtain ⟨_,sender,home,_,_,live,_⟩ := sends.fields
  obtain ⟨joined,_,_⟩ := conversationMember_ok sends.seated
  have fresh : message.id ∉ db.messages.map Message.id := by
    intro known
    obtain ⟨m,memm,same⟩ := List.mem_map.mp known
    exact absurd same (newest m memm).ne
  obtain ⟨identity,position⟩ := sent_row sends members mem
  refine ⟨_,List.mem_map_of_mem mem,identity,?_⟩
  obtain ⟨_,user,conversation,_⟩ := ChatDatabase.identity_inj identity
  rw [ChatDatabase.notSeenCount_eq, ChatDatabase.notSeenCount_eq, user, conversation, position,
    ChatDatabase.unseenAfter_withMessage fresh]
  by_cases writes : cm.id = message.senderId
  · have same : cm = member :=
      keyed_unique members mem (ChatDatabase.membersOf_iff.mp joined).1 (writes.trans sender)
    have here : cm.conversationId = message.conversationId := by
      rw [same, home]
      exact (ChatDatabase.membersOf_iff.mp joined).2.2
    have none : db.unseenAfter cm.userId cm.conversationId (some message.id) = 0 := by
      rw [ChatDatabase.unseenAfter_eq_countP, List.countP_eq_zero]
      intro n known
      simp [ChatDatabase.unseenBy, (newest n known).le]
    rw [if_pos writes, none, if_pos here, if_pos writes]
    simp [ChatDatabase.unseenBy, Message.fromDomain]
  · have before := position_before stored mem newest
    by_cases here : cm.conversationId = message.conversationId
    · simp only [here, writes, ↓reduceIte, ChatDatabase.unseenBy, ChatDatabase.visibleTo,
        Message.fromDomain, live, before]
      cases (db.withMessage message).deletedFor cm.userId message.id <;> simp
    · have elsewhere : ¬ message.conversationId = cm.conversationId := fun is => here is.symm
      simp [here, writes, ChatDatabase.unseenBy, Message.fromDomain, elsewhere]

/-- A conversation request leaves the members of the other conversations their counts. -/
theorem recount_creates {data : CreateConversationRequest} (sound : db.Sound)
    (unused : ChatDatabase.Unused amb db) (stored : db.SeenStored)
    (newer : ChatDatabase.Newer amb db) (mem : cm ∈ db.members)
    (effect : Effect users amb actor db (.createConversation data) db' events) :
    ∃ cm' ∈ db'.members, cm'.identity = cm.identity ∧ db'.notSeenCount cm' = db.notSeenCount cm := by
  have elsewhere := unused.absent sound.seated 0 cm mem
  have joined : cm ∈ (db.withConversation amb actor data.targetUserId).members :=
    List.mem_append_left _ mem
  cases effect with
  | nothing => exact ⟨cm,mem,rfl,rfl⟩
  | @opened _ member message event accounts unblocked unknown sends =>
    obtain ⟨id,_,there,_⟩ := sends.fields
    have newest : ∀ m ∈ (db.withConversation amb actor data.targetUserId).messages,
        m.id < message.id := by
      rw [id]
      exact newer 4
    obtain ⟨cm',mem',identity,count⟩ := notSeenCount_withMessage sends
      (keyed_withConversation unused sound.seated.members _ _)
      (seenStored_withConversation stored _ _) newest joined
    have other : ¬ cm.conversationId = message.conversationId := fun is =>
      elsewhere (is.trans there)
    rw [if_neg other] at count
    exact ⟨cm',mem',identity,count⟩
  | rolledBack =>
    refine ⟨_,List.mem_map_of_mem joined,?_⟩
    rw [if_neg (by simp [elsewhere])]
    exact ⟨rfl,rfl⟩

/-- A send adds one for every other member that it is shown to. -/
theorem recount_sends {data : CreateMessageRequest} (sound : db.Sound)
    (unused : ChatDatabase.Unused amb db) (stored : db.SeenStored)
    (newer : ChatDatabase.Newer amb db) (mem : cm ∈ db.members)
    (effect : Effect users amb actor db (.sendMessage data) db' events)
    (r : Except Failure ChatResponse) :
    ∃ cm' ∈ db'.members, cm'.identity = cm.identity ∧
      db'.notSeenCount cm' = (ChatOperation.sendMessage data).recount amb actor db db' r cm := by
  cases effect with
  | nothing =>
    refine ⟨cm,mem,rfl,?_⟩
    have absent : db.message (amb.uuid 0) = none := by
      apply lookup_none_iff.mpr
      intro m known same
      exact unused.messages 0 (List.mem_map.mpr ⟨m,known,same⟩)
    simp [ChatOperation.recount, absent]
  | @sent _ target member message event other apart accounts unblocked sends =>
    obtain ⟨id,sender,there,_⟩ := sends.fields
    obtain ⟨joined,user,_⟩ := conversationMember_ok sends.seated
    obtain ⟨known,_,home⟩ := ChatDatabase.membersOf_iff.mp joined
    have newest : ∀ m ∈ db.messages, m.id < message.id := by
      rw [id]
      exact newer 0
    obtain ⟨cm',mem',identity,count⟩ :=
      notSeenCount_withMessage sends sound.seated.members stored newest mem
    refine ⟨cm',mem',identity,count.trans ?_⟩
    have present : ((db.withMessage message).message (amb.uuid 0)).isSome := by
      apply lookup_isSome_iff.mpr
      exact ⟨Message.fromDomain message,by simp [ChatDatabase.withMessage],id⟩
    have there : message.conversationId = data.conversationId := there
    by_cases here : cm.conversationId = data.conversationId
    · have writer : cm.id = message.senderId ↔ cm.userId = actor := by
        constructor
        · intro same
          rw [keyed_unique sound.seated.members mem known (same.trans sender)]
          exact user
        · intro same
          have seat : cm.seat = member.seat := Prod.ext (here.trans home.symm) (same.trans user.symm)
          rw [sender, keyed_unique sound.seated.seats mem known seat]
      simp only [ChatOperation.recount, there, here, present, id, writer, and_self, ↓reduceIte]
    · have away : ¬ data.conversationId = cm.conversationId := fun is => here is.symm
      simp only [ChatOperation.recount, there, here, away, false_and, ↓reduceIte]

/-- An edit changes no count. -/
theorem recount_edits {data : EditMessageRequest} (mem : cm ∈ db.members)
    (effect : Effect users amb actor db (.editMessage data) db' events) :
    ∃ cm' ∈ db'.members, cm'.identity = cm.identity ∧ db'.notSeenCount cm' = db.notSeenCount cm := by
  cases effect with
  | nothing => exact ⟨cm,mem,rfl,rfl⟩
  | edited =>
    refine ⟨cm,mem,rfl,?_⟩
    rw [ChatDatabase.notSeenCount_eq, ChatDatabase.unseenAfter_updateMessage,
      ChatDatabase.notSeenCount_eq]

/-- Whom an accepted deletion takes a message from that he has seen until now. -/
theorem hides_iff {data : DeleteMessageRequest} {memberId userId : Uuid} {m : Message}
    {deleted : MessageEntity × List MessageEvent}
    (accepted : DeleteMessageHandler.delete amb.now (data.command actor) memberId
      (db.loaded m).message = .ok deleted) (visible : db.visibleTo userId m = true) :
    (deleted.1.deletion.deletedAt ≠ none ∨ userId ∈ deleted.1.deletion.deletedForUserIds) ↔
      data.scope = .everyone ∨ userId = actor := by
  simp only [ChatDatabase.visibleTo, Bool.and_eq_true, Option.isNone_iff_eq_none,
    Bool.not_eq_true'] at visible
  obtain ⟨live,kept⟩ := visible
  have dated : (db.loaded m).message.deletedAt = none :=
    (MessageEntity.loadDeletedForUserIds_deletedAt ..).trans live
  have shown : userId ∉ (db.loaded m).message.deletedForUserIds := by
    rw [mem_loaded]
    exact of_decide_eq_false kept
  rcases delete_cases accepted with ⟨scope,is⟩ | ⟨scope,_,⟨gone,_⟩ | ⟨_,is⟩⟩
  · have mine : data.scope = .me := scope
    have actor' : (data.command actor).userId = actor := rfl
    rw [is, actor', mine]
    unfold MessageEntity.deleteForUser
    split
    · rename_i already
      have other : userId ≠ actor := fun same => shown (same ▸ already)
      simp [MessageEntity.deletion, dated, shown, other]
    · simp [MessageEntity.deletion, dated, shown]
  · exact absurd dated gone
  · have all : data.scope = .everyone := scope
    rw [is]
    simp [MessageEntity.deletion, all]

/-- A deletion takes one away where it hides a message that has counted. -/
theorem recount_deletes {data : DeleteMessageRequest} (sound : db.Sound) {c : Change LoadedMessage}
    (deletes : DeleteMessageHandler.change amb.now (data.command actor) db = .ok c)
    (mem : cm ∈ db.members) :
    ∃ cm' ∈ c.chat.members, cm'.identity = cm.identity ∧ c.chat.notSeenCount cm' =
      if (data.scope = .everyone ∨ cm.userId = actor) ∧
          (db.message data.messageId).any (db.counts cm) = true then db.notSeenCount cm - 1
      else db.notSeenCount cm := by
  obtain ⟨member,m,deleted,seated,found,home,accepted,is,_⟩ := DeleteMessageHandler.change_ok deletes
  obtain ⟨stored,named⟩ := lookup_mem found
  obtain ⟨its,_,gone⟩ := delete_row accepted
  have row : ∀ cm', cm' = (if decide (cm ∈ (db.membersOf deleted.1.deletion.conversationId).filter
      fun m => m.lastMessageId = some deleted.1.deletion.messageId) = true then
        db.movePointer deleted.1.deletion cm else cm) →
      cm'.identity = cm.identity ∧ cm'.lastSeenMessageId = cm.lastSeenMessageId := by
    intro cm' is
    rw [is]
    split <;> exact ⟨rfl,rfl⟩
  obtain ⟨identity,position⟩ := row _ rfl
  rw [is]
  refine ⟨_,by
    rw [ChatDatabase.storeDeletion_members sound.seated.members]
    exact List.mem_map_of_mem mem,identity,?_⟩
  obtain ⟨_,user,conversation,_⟩ := ChatDatabase.identity_inj identity
  rw [ChatDatabase.notSeenCount_eq, ChatDatabase.notSeenCount_eq, user, conversation, position,
    ChatDatabase.unseenAfter_storeDeletion sound.filed.messages stored its gone]
  have known : db.message data.messageId = some m := found
  rw [known, Option.any_some]
  by_cases counted : db.counts cm m = true
  · have visible : db.visibleTo cm.userId m = true := by
      simp only [ChatDatabase.counts, ChatDatabase.unseenBy, Bool.and_eq_true] at counted
      exact counted.1.2
    have counted' : db.unseenBy cm.userId cm.conversationId cm.lastSeenMessageId m = true := counted
    simp only [hides_iff accepted visible, counted, counted', and_true]
    split <;> simp
  · have counted' : ¬ db.unseenBy cm.userId cm.conversationId cm.lastSeenMessageId m = true :=
      counted
    simp [counted, counted']

/-- A mark puts the position of the member, and his alone. -/
theorem recount_marks {data : MarkMessageSeenRequest} (sound : db.Sound) {c : Change Unit}
    (marks : MarkConversationAsReadCommandHandler.change
      ⟨data.conversationId,actor,data.messageId⟩ db = .ok c) (mem : cm ∈ db.members) :
    ∃ cm' ∈ c.chat.members, cm'.identity = cm.identity ∧ c.chat.notSeenCount cm' =
      if data.conversationId = cm.conversationId ∧ cm.userId = actor then
        db.unseenAfter cm.userId cm.conversationId (some data.messageId)
      else db.notSeenCount cm := by
  obtain ⟨member,seated,_,moved⟩ := MarkConversationAsReadCommandHandler.change_ok
    sound.seated.conversations sound.seated.members marks
  obtain ⟨joined,user,_⟩ := conversationMember_ok seated
  obtain ⟨known,_,home⟩ := ChatDatabase.membersOf_iff.mp joined
  have own : cm.id = member.id ↔ data.conversationId = cm.conversationId ∧ cm.userId = actor := by
    constructor
    · intro same
      rw [keyed_unique sound.seated.members mem known same]
      exact ⟨home.symm,user⟩
    · intro ⟨here,same⟩
      have seat : cm.seat = member.seat := Prod.ext (here.symm.trans home.symm) (same.trans user.symm)
      rw [keyed_unique sound.seated.seats mem known seat]
  rcases moved with ⟨already,same⟩ | ⟨_,same⟩
  · rw [same]
    refine ⟨cm,mem,rfl,?_⟩
    split
    · rename_i its
      have seen : cm.lastSeenMessageId = some data.messageId := by
        rw [keyed_unique sound.seated.members mem known (own.mpr its)]
        exact already
      rw [ChatDatabase.notSeenCount_eq, seen]
    · rfl
  · rw [same]
    refine ⟨_,List.mem_map_of_mem mem,?_⟩
    by_cases its : cm.id = member.id
    · rw [if_pos (decide_eq_true its), if_pos (own.mp its)]
      exact ⟨rfl,ChatDatabase.notSeenCount_eq ..⟩
    · rw [if_neg (by simpa using its), if_neg fun here => its (own.mpr here)]
      exact ⟨rfl,rfl⟩

/-- The operations that write to no table of the chat module. -/
def ChatOperation.looks : ChatOperation → Bool
  | .listConversations _ => true
  | .listMessages _ => true
  | .block _ => true
  | .unblock _ => true
  | _ => false

theorem effect_looks {operation : ChatOperation} (looks : operation.looks = true)
    (effect : Effect users amb actor db operation db' events) : db' = db := by
  cases effect with
  | nothing => rfl
  | _ => cases looks

end Effects

section Perform
variable {amb : Ambient} {actor : Uuid} {w : ChatWorld} {cm : ConversationMember}
  {ilike : JsString → JsString → Bool}

/-- After every operation a member is still there, with the count that the operation says. -/
theorem recount_perform (operation : ChatOperation) (sound : w.chat.Sound)
    (unused : ChatDatabase.Unused amb w.chat) (stored : w.chat.SeenStored)
    (newer : ChatDatabase.Newer amb w.chat) (mem : cm ∈ w.chat.members) :
    ∃ cm' ∈ (w.perform ilike amb actor operation).2.chat.members, cm'.identity = cm.identity ∧
      (w.perform ilike amb actor operation).2.chat.notSeenCount cm' = operation.recount amb actor
        w.chat (w.perform ilike amb actor operation).2.chat
        (w.perform ilike amb actor operation).1 cm := by
  have effect := effect_of_sound ilike actor operation sound unused
  cases operation with
  | createConversation data => exact recount_creates sound unused stored newer mem effect
  | sendMessage data => exact recount_sends sound unused stored newer mem effect _
  | editMessage data => exact recount_edits mem effect
  | deleteMessage data =>
    cases run : (ChatWsGateway.deleteMessage amb data actor).run chatHandler w.silent with
    | mk r v =>
      rcases run_deleteRequest run with ⟨rfl,e,rfl⟩ | ⟨c,deletes,rfl,response,rfl⟩
      · rw [perform_eq rfl run rfl, announce_chat]
        exact ⟨cm,mem,rfl,rfl⟩
      · rw [perform_eq rfl run rfl, announce_chat]
        obtain ⟨cm',mem',identity,count⟩ := recount_deletes sound deletes mem
        refine ⟨cm',mem',identity,count.trans ?_⟩
        simp only [ChatOperation.recount, Except.map, Except.isOk, Except.toBool, true_and]
  | markMessageSeen data =>
    cases run : (ChatWsGateway.markMessageAsSeen data actor).run chatHandler w.silent with
    | mk r v =>
      rcases run_markRequest run with ⟨rfl,e,rfl⟩ | ⟨c,marks,rfl,rooms,rfl⟩
      · rw [perform_eq rfl run rfl, announce_chat]
        exact ⟨cm,mem,rfl,rfl⟩
      · rw [perform_eq rfl run rfl, announce_chat]
        obtain ⟨cm',mem',identity,count⟩ := recount_marks sound marks mem
        refine ⟨cm',mem',identity,count.trans ?_⟩
        simp only [ChatOperation.recount, Except.map, Except.isOk, Except.toBool, true_and]
  | listConversations data =>
    rw [effect_looks rfl effect]
    exact ⟨cm,mem,rfl,rfl⟩
  | listMessages data =>
    rw [effect_looks rfl effect]
    exact ⟨cm,mem,rfl,rfl⟩
  | block targetUserId =>
    rw [effect_looks rfl effect]
    exact ⟨cm,mem,rfl,rfl⟩
  | unblock targetUserId =>
    rw [effect_looks rfl effect]
    exact ⟨cm,mem,rfl,rfl⟩

end Perform

namespace Turn

/-- Every step changes the count of every member as the operation says, and nothing else does. -/
def Recounts (ilike : JsString → JsString → Bool) (w : ChatWorld) : Turn → Prop
  | request amb actor operation => ∀ cm ∈ w.chat.members,
      ∃ cm' ∈ (w.perform ilike amb actor operation).2.chat.members, cm'.identity = cm.identity ∧
        (w.perform ilike amb actor operation).2.chat.notSeenCount cm' = operation.recount amb actor
          w.chat (w.perform ilike amb actor operation).2.chat
          (w.perform ilike amb actor operation).1 cm
  | elsewhere users => ((elsewhere users).run ilike w).chat = w.chat

theorem recounts {ilike : JsString → JsString → Bool} {w : ChatWorld} {turn : Turn}
    (ok : w.chat.Sound ∧ w.chat.SeenStored) (allowed : turn.Allowed w) (newer : turn.Newer w) :
    turn.Recounts ilike w := by
  cases turn with
  | request amb actor operation =>
    intro cm mem
    exact recount_perform operation ok.1 allowed ok.2 newer mem
  | elsewhere users => rfl

end Turn

/-- In every reachable state the difference that the conversation list takes is the number of
    messages that the member sees after his position, and every operation changes that number
    by what it does to the messages and the position of the member. -/
theorem not_seen_counted {ilike : JsString → JsString → Bool} {w : ChatWorld} {turns : List Turn}
    (empty : w.chat = ⟨[],[],[],[]⟩)
    (along : Turn.Along ilike (fun w turn => turn.Allowed w ∧ turn.Newer w) turns w) :
    (∀ cm ∈ (Turn.runAll ilike turns w).chat.members,
      (Turn.runAll ilike turns w).chat.notSeenCount cm =
        (Turn.runAll ilike turns w).chat.unseenAfter cm.userId cm.conversationId
          cm.lastSeenMessageId) ∧
      Turn.Along ilike (Turn.Recounts ilike) turns w := by
  have start : w.chat.Sound ∧ w.chat.SeenStored := by
    rw [empty]
    exact ⟨ChatDatabase.sound_empty,by simp [ChatDatabase.SeenStored]⟩
  constructor
  · intro cm _
    exact ChatDatabase.notSeenCount_eq _ cm
  · exact along.derive (fun _ _ (ok : ChatDatabase.Sound _ ∧ ChatDatabase.SeenStored _) step =>
        seenStored_turn ok step.1)
      (fun _ _ ok step => Turn.recounts ok step.1 step.2) start

/-- User 1 writes a second message, and user 2 sees the first. -/
theorem not_seen_counted_in_turn : Turn.Along noMatch (Turn.Recounts noMatch)
    [opening, .request (numberedDraws 2) 1 (.sendMessage ⟨100,[121, 111],none,none⟩),
      .request (numberedDraws 3) 2 (.markMessageSeen ⟨100,104⟩)] emptyWorld := by
  apply (not_seen_counted rfl _).2
  exact ⟨⟨unused_numberedDraws (by decide) (by decide) (by decide),
      newer_numberedDraws (by decide)⟩,
    ⟨unused_numberedDraws (by decide) (by decide) (by decide),newer_numberedDraws (by decide)⟩,
    ⟨unused_numberedDraws (by decide) (by decide) (by decide),newer_numberedDraws (by decide)⟩,
    trivial⟩

end Chatterbox
