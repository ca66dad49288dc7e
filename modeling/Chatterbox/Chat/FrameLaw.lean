import Chatterbox.Chat.ReplyPreview

/-!
What no operation does. Messages keep what they were created with; their text is the
sender's to edit and their deletion for everyone the sender's to make, once; who has deleted
a message only grows, by the user's own deletion or by the block that hid the message from
him; and the rows of a conversation are touched by its members alone.
-/
namespace Chatterbox
open Concurrency Tables

namespace ChatDatabase

def SentBy (db : ChatDatabase) (userId : Uuid) (m : Message) : Prop :=
  ∃ cm ∈ db.members, cm.id = m.senderId ∧ cm.userId = userId

def memberRows (db : ChatDatabase) (conversationId : Uuid) : List ConversationMember :=
  db.members.filter fun cm => cm.conversationId = conversationId

def messagesOf (db : ChatDatabase) (conversationId : Uuid) : List Message :=
  db.messages.filter fun m => m.conversationId = conversationId

/-- The member rows and the messages of a conversation are the same in two databases. -/
def SameIn (db db' : ChatDatabase) (conversationId : Uuid) : Prop :=
  db'.memberRows conversationId = db.memberRows conversationId ∧
    db'.messagesOf conversationId = db.messagesOf conversationId

end ChatDatabase

/-- What an operation of a user may do to a stored message. -/
inductive Rewritten (amb : Ambient) (actor : Uuid) (db : ChatDatabase) (m : Message) :
    ChatOperation → Message → Prop where
  | kept {operation : ChatOperation} : Rewritten amb actor db m operation m
  | edited {data : EditMessageRequest} (own : db.SentBy actor m) (names : data.messageId = m.id)
      (live : m.deletedAt = none) :
      Rewritten amb actor db m (.editMessage data) (m.withText data.text (some amb.now) amb.now)
  | deletedForMe {data : DeleteMessageRequest} (names : data.messageId = m.id)
      (scope : data.scope = .me) :
      Rewritten amb actor db m (.deleteMessage data) { m with updatedAt := amb.now }
  | deletedForEveryone {data : DeleteMessageRequest} (own : db.SentBy actor m)
      (names : data.messageId = m.id) (scope : data.scope = .everyone)
      (live : m.deletedAt = none) :
      Rewritten amb actor db m (.deleteMessage data)
        { m with deletedAt := some amb.now, updatedAt := amb.now }

section Rows
variable {amb : Ambient} {db : ChatDatabase} {actor : Uuid}

/-- The loaded copy of a message differs from its row in who has deleted it. -/
theorem loaded_eq (db : ChatDatabase) (m : Message) : (db.loaded m).message =
    { Message.toDomain m with deletedForUserIds := (db.loaded m).message.deletedForUserIds } :=
  MessageEntity.loadDeletedForUserIds_eq ..

theorem rewritten_edit {data : EditMessageRequest} {member : ConversationMember} {m : Message}
    {edited : MessageEntity × List MessageEvent} (own : db.SentBy actor m)
    (names : m.id = data.messageId)
    (edits : (db.loaded m).message.edit amb.now data.text member.id = .ok edited) :
    Rewritten amb actor db m (.editMessage data)
      (m.withText edited.1.text edited.1.editedAt edited.1.updatedAt) := by
  rw [loaded_eq] at edits
  obtain ⟨live,_,⟨_,rfl⟩ | ⟨_,rfl⟩⟩ := edit_ok edits
  · exact .kept
  · exact .edited own names.symm live

theorem rewritten_delete {data : DeleteMessageRequest} {member : ConversationMember} {m : Message}
    {deleted : MessageEntity × List MessageEvent}
    (own : m.senderId = member.id → db.SentBy actor m) (names : m.id = data.messageId)
    (deletes : DeleteMessageHandler.delete amb.now (data.command actor) member.id
      (db.loaded m).message = .ok deleted) :
    Rewritten amb actor db m (.deleteMessage data) (deleted.1.deletion.mark m) := by
  rw [loaded_eq] at deletes
  rcases delete_cases deletes with ⟨scope,rfl⟩ | ⟨scope,sender,⟨_,rfl⟩ | ⟨live,rfl⟩⟩
  · unfold MessageEntity.deleteForUser
    split
    · exact .kept
    · exact .deletedForMe names.symm scope
  · exact .kept
  · exact .deletedForEveryone (own sender.symm) names.symm scope live

/-- Two lookups that find the same id find the same message. -/
theorem message_unique {id id' : Uuid} {m m' : Message} (found : db.message id = some m)
    (found' : db.message id' = some m') (same : m.id = m'.id) : m = m' := by
  rw [← (lookup_mem found).2, same, (lookup_mem found').2, found'] at found
  exact (Option.some.inj found).symm

/-- A member who sends a message has sent it. -/
theorem sentBy_seated {conversationId : Uuid} {member : ConversationMember} {m : Message}
    (seated : db.conversationMember conversationId actor = .ok member)
    (own : member.id = m.senderId) : db.SentBy actor m := by
  obtain ⟨joined,user,_⟩ := conversationMember_ok seated
  exact ⟨member,(ChatDatabase.membersOf_iff.mp joined).1,own,user⟩

theorem isMember_seated {conversationId : Uuid} {member : ConversationMember}
    (seated : db.conversationMember conversationId actor = .ok member) :
    db.isMember conversationId actor = true := by
  obtain ⟨joined,user,_⟩ := conversationMember_ok seated
  exact List.any_eq_true.mpr ⟨member,joined,decide_eq_true user⟩

variable {users : UserDatabase} {db' : ChatDatabase} {operation : ChatOperation}
  {events : List MessageEvent}

/-- Every stored message is there after an operation, as the operation may rewrite it. -/
theorem rewritten_effect (effect : Effect users amb actor db operation db' events) {id : Uuid}
    {m : Message} (found : db.message id = some m) :
    ∃ m', db'.message id = some m' ∧ Rewritten amb actor db m operation m' := by
  have known : (db.message id).isSome := Option.isSome_of_eq_some found
  cases effect with
  | nothing => exact ⟨m,found,.kept⟩
  | @opened data =>
    have opened : ((db.withConversation amb actor data.targetUserId).message id).isSome := known
    rw [ChatDatabase.message_withMessage opened]
    exact ⟨m,found,.kept⟩
  | rolledBack => exact ⟨m,found,.kept⟩
  | sent =>
    rw [ChatDatabase.message_withMessage known]
    exact ⟨m,found,.kept⟩
  | @edited data member row edited seated stored home edits =>
    have same : edited.1.id = row.id :=
      (edit_id edits).trans (MessageEntity.loadDeletedForUserIds_id ..)
    rw [message_updateMessage, found, same]
    refine ⟨_,rfl,?_⟩
    dsimp only
    split
    · rename_i hit
      obtain rfl := message_unique found stored (of_decide_eq_true hit)
      obtain ⟨_,own,_⟩ := edit_ok edits
      exact rewritten_edit (sentBy_seated seated (own.trans
        (MessageEntity.loadDeletedForUserIds_senderId ..))) (lookup_mem stored).2 edits
    · exact .kept
  | @deleted data member row deleted seated stored home deletes =>
    obtain ⟨same,_,_⟩ := delete_row deletes
    rw [message_storeDeletion, found, same]
    refine ⟨_,rfl,?_⟩
    dsimp only
    split
    · rename_i hit
      obtain rfl := message_unique found stored (of_decide_eq_true hit)
      exact rewritten_delete (fun own => sentBy_seated seated own.symm) (lookup_mem stored).2
        deletes
    · exact .kept
  | marked => exact ⟨m,found,.kept⟩

/-- Who has deleted a message after an operation. -/
theorem deletions_effect (effect : Effect users amb actor db operation db' events)
    {r : DeletedMessage} (mem : r ∈ db'.deletedMessages) : r ∈ db.deletedMessages ∨
      (∃ data, operation = .deleteMessage data ∧ data.scope = .me ∧
        data.messageId = r.messageId ∧ r.userId = actor) ∨
      (∃ data, operation = .sendMessage data ∧ r.messageId = amb.uuid 0 ∧
        users.blocking r.userId actor = true) := by
  cases effect with
  | nothing => exact Or.inl mem
  | opened _ _ _ sends =>
    obtain ⟨_,_,_,_,none,_⟩ := sends.fields
    rcases ChatDatabase.mem_deletionRows.mp mem with ⟨_,hides⟩ | old
    · rw [none] at hides
      cases hides
    · exact Or.inl old
  | rolledBack => exact Or.inl mem
  | @sent data target _ _ _ other apart accounts unblocked sends =>
    obtain ⟨id,_,_,_,shadow,_⟩ := sends.fields
    rcases ChatDatabase.mem_deletionRows.mp mem with ⟨its,hides⟩ | old
    · rw [shadow, CreateMessageRequest.command] at hides
      dsimp only at hides
      split_ifs at hides with blocks
      · refine Or.inr (Or.inr ⟨data,rfl,its.trans id,?_⟩)
        rw [List.mem_singleton.mp hides]
        exact blocks
      · cases hides
    · exact Or.inl old
  | edited => exact Or.inl mem
  | @deleted data member m deleted seated found home deletes =>
    rcases ChatDatabase.mem_deletionRows.mp mem with ⟨its,gone⟩ | old
    · obtain ⟨id,_,_⟩ := delete_row deletes
      have stored : r.userId ∈ (db.loaded m).message.deletedForUserIds → r ∈ db.deletedMessages := by
        intro known
        have is : r.messageId = m.id := its.trans id
        have row := mem_loaded.mp known
        rwa [← is] at row
      have names : data.messageId = r.messageId :=
        ((lookup_mem found).2.symm.trans id.symm).trans its.symm
      change r.userId ∈ deleted.1.deletedForUserIds at gone
      rcases delete_cases deletes with ⟨scope,rfl⟩ | ⟨_,_,⟨_,rfl⟩ | ⟨_,rfl⟩⟩
      · unfold MessageEntity.deleteForUser at gone
        split_ifs at gone
        · exact Or.inl (stored gone)
        · rcases List.mem_append.mp gone with known | new
          · exact Or.inl (stored known)
          · exact Or.inr (Or.inl ⟨data,rfl,scope,names,List.mem_singleton.mp new⟩)
      · exact Or.inl (stored gone)
      · exact Or.inl (stored gone)
    · exact Or.inl old
  | marked => exact Or.inl mem

/-- Nobody gets a deleted message back. -/
theorem deletions_kept (effect : Effect users amb actor db operation db' events)
    {r : DeletedMessage} (mem : r ∈ db.deletedMessages) : r ∈ db'.deletedMessages := by
  cases effect with
  | nothing => exact mem
  | opened => exact ChatDatabase.mem_deletionRows.mpr (Or.inr mem)
  | rolledBack => exact mem
  | sent => exact ChatDatabase.mem_deletionRows.mpr (Or.inr mem)
  | edited => exact mem
  | deleted => exact ChatDatabase.mem_deletionRows.mpr (Or.inr mem)
  | marked => exact mem

theorem sameIn_withMessage {message : MessageEntity} {conversationId : Uuid}
    (other : message.conversationId ≠ conversationId) :
    db.SameIn (db.withMessage message) conversationId := by
  refine ⟨filter_amend_other fun cm _ hit => ?_,?_⟩
  · obtain ⟨_,_,there⟩ := ChatDatabase.membersOf_iff.mp (of_decide_eq_true hit)
    have away : decide (cm.conversationId = conversationId) = false :=
      decide_eq_false fun here => other (there.symm.trans here)
    exact ⟨away,away⟩
  · have away : Message.conversationId (.fromDomain message) ≠ conversationId := other
    simp [ChatDatabase.messagesOf, ChatDatabase.withMessage, away]

theorem ChatDatabase.sameIn_withConversation (db : ChatDatabase) (userId targetUserId : Uuid)
    {conversationId : Uuid} (other : amb.uuid 0 ≠ conversationId) :
    db.SameIn (db.withConversation amb userId targetUserId) conversationId := by
  refine ⟨?_,rfl⟩
  unfold ChatDatabase.memberRows ChatDatabase.withConversation
  rw [List.filter_append, List.append_right_eq_self, List.filter_eq_nil_iff]
  intro cm mem
  rcases mem_newMembers mem with rfl | ⟨_,rfl⟩ <;> simpa using other

theorem sameIn_removed {conversationId other : Uuid} (apart : other ≠ conversationId)
    (now : Time) : db.SameIn (db.removeConversation other now).2 conversationId := by
  refine ⟨filter_amend_other fun cm _ hit => ?_,rfl⟩
  have away : decide (cm.conversationId = conversationId) = false :=
    decide_eq_false fun here =>
      apart ((of_decide_eq_true (Bool.and_eq_true_iff.mp hit).2).symm.trans here)
  exact ⟨away,away⟩

theorem sameIn_withSeen (members : Keyed ConversationMember.id db.members)
    {member : ConversationMember} (stored : member ∈ db.members) {conversationId : Uuid}
    (other : member.conversationId ≠ conversationId) (messageId : Uuid) :
    db.SameIn (db.withSeen member.id messageId) conversationId := by
  refine ⟨filter_amend_other fun cm mem hit => ?_,rfl⟩
  obtain rfl := keyed_unique members mem stored (of_decide_eq_true hit)
  exact ⟨decide_eq_false other,decide_eq_false other⟩

/-- A change of one message of another conversation. -/
theorem messagesOf_amend {change : Message → Message} {m : Message} {conversationId : Uuid}
    (messages : Keyed Message.id db.messages) (stored : m ∈ db.messages)
    (other : m.conversationId ≠ conversationId)
    (home : ∀ n, (change n).conversationId = n.conversationId) :
    (amend (fun n => n.id = m.id) change db.messages).filter
        (fun n => n.conversationId = conversationId) = db.messagesOf conversationId := by
  refine filter_amend_other fun n mem hit => ?_
  obtain rfl := keyed_unique messages mem stored (of_decide_eq_true hit)
  rw [home]
  exact ⟨decide_eq_false other,decide_eq_false other⟩

theorem sameIn_storeDeletion (members : Keyed ConversationMember.id db.members)
    (messages : Keyed Message.id db.messages) {d : MessageDeletion} {m : Message}
    (stored : m ∈ db.messages) (its : d.messageId = m.id)
    (home : d.conversationId = m.conversationId) {conversationId : Uuid}
    (other : m.conversationId ≠ conversationId) :
    db.SameIn (db.storeDeletion d (db.movedPointers d)) conversationId := by
  have frame : ∀ n, (d.mark n).conversationId = n.conversationId := fun _ => rfl
  have row := messagesOf_amend messages stored other frame
  rw [← its] at row
  refine ⟨?_,row⟩
  unfold ChatDatabase.memberRows
  rw [ChatDatabase.storeDeletion_members members]
  refine filter_amend_other fun cm _ hit => ?_
  obtain ⟨seated,_⟩ := List.mem_filter.mp (of_decide_eq_true hit)
  obtain ⟨_,_,there⟩ := ChatDatabase.membersOf_iff.mp seated
  have away : decide (cm.conversationId = conversationId) = false :=
    decide_eq_false fun here => other (home.symm.trans (there.symm.trans here))
  exact ⟨away,away⟩

/-- An operation changes the rows of a conversation of its user, or of the conversation that it
    has just made. -/
theorem sameIn_effect (effect : Effect users amb actor db operation db' events)
    (sound : db.Sound) (conversationId : Uuid) :
    db.SameIn db' conversationId ∨ db.isMember conversationId actor = true ∨
      (∃ data, operation = .createConversation data ∧ conversationId = amb.uuid 0 ∧
        ∃ cm ∈ db'.members, cm.conversationId = conversationId ∧ cm.userId = actor) := by
  have own : ∀ {c : Uuid} {member : ConversationMember},
      db.conversationMember c actor = .ok member → c = conversationId →
        db.isMember conversationId actor = true :=
    fun seated here => here ▸ isMember_seated seated
  cases effect with
  | nothing => exact Or.inl ⟨rfl,rfl⟩
  | @opened data member message event accounts unblocked unknown sends =>
    obtain ⟨_,_,home,_⟩ := sends.fields
    by_cases here : amb.uuid 0 = conversationId
    · refine Or.inr (Or.inr ⟨data,rfl,here.symm,?_⟩)
      have joined : (amb.uuid 2, actor, amb.uuid 0, none) ∈
          (db.withConversation amb actor data.targetUserId).members.map
            ConversationMember.identity :=
        List.mem_map.mpr ⟨_,List.mem_append_right _ List.mem_cons_self,rfl⟩
      rw [← ChatDatabase.identity_withMessage message] at joined
      obtain ⟨cm,mem,is⟩ := List.mem_map.mp joined
      simp only [ConversationMember.identity, Prod.mk.injEq] at is
      exact ⟨cm,mem,is.2.2.1.trans here,is.2.1⟩
    · obtain ⟨members,messages⟩ :=
        db.sameIn_withConversation actor data.targetUserId here
      obtain ⟨members',messages'⟩ :=
        sameIn_withMessage (fun there => here (home.symm.trans there))
      exact Or.inl ⟨members'.trans members,messages'.trans messages⟩
  | @rolledBack data unknown =>
    by_cases here : amb.uuid 0 = conversationId
    · refine Or.inr (Or.inr ⟨data,rfl,here.symm,?_⟩)
      exact ⟨_,mem_amend.mpr (Or.inl ⟨_,List.mem_append_right _ List.mem_cons_self,
        decide_eq_true rfl,rfl⟩),here,rfl⟩
    · obtain ⟨members,messages⟩ :=
        db.sameIn_withConversation actor data.targetUserId here
      obtain ⟨members',messages'⟩ := sameIn_removed here amb.now
      exact Or.inl ⟨members'.trans members,messages'.trans messages⟩
  | @sent _ _ _ message _ _ _ _ _ sends =>
    obtain ⟨_,_,home,_⟩ := sends.fields
    by_cases here : message.conversationId = conversationId
    · exact Or.inr (Or.inl (own sends.seated (home.symm.trans here)))
    · exact Or.inl (sameIn_withMessage here)
  | @edited data member m edited seated found home edits =>
    have same : edited.1.id = m.id :=
      (edit_id edits).trans (MessageEntity.loadDeletedForUserIds_id ..)
    by_cases here : data.conversationId = conversationId
    · exact Or.inr (Or.inl (own seated here))
    · rw [same]
      exact Or.inl ⟨rfl,messagesOf_amend sound.filed.messages (lookup_mem found).1
        (fun there => here (home.symm.trans there)) fun _ => rfl⟩
  | @deleted data member m deleted seated found home deletes =>
    obtain ⟨its,there,_⟩ := delete_row deletes
    by_cases here : data.conversationId = conversationId
    · exact Or.inr (Or.inl (own seated here))
    · exact Or.inl (sameIn_storeDeletion sound.seated.members sound.filed.messages
        (lookup_mem found).1 its there fun away => here (home.symm.trans away))
  | @marked data member seated known =>
    by_cases here : data.conversationId = conversationId
    · exact Or.inr (Or.inl (own seated here))
    · obtain ⟨joined,_,_⟩ := conversationMember_ok seated
      obtain ⟨stored,_,home⟩ := ChatDatabase.membersOf_iff.mp joined
      exact Or.inl (sameIn_withSeen sound.seated.members stored
        (fun there => here (home.symm.trans there)) _)

end Rows

/-- What an operation leaves alone. -/
structure ChatOperation.KeepsLaw (operation : ChatOperation) (actor : Uuid) (before : ChatWorld)
    (r : Except Failure ChatResponse) (after : ChatWorld) : Prop where
  origins : ∀ id m, before.chat.message id = some m →
    ∃ m', after.chat.message id = some m' ∧ m'.origin = m.origin
  texts : ∀ id m m', before.chat.message id = some m → after.chat.message id = some m' →
    m'.text ≠ m.text → before.chat.SentBy actor m ∧ m.deletedAt = none ∧
      ∃ data response, operation = .editMessage data ∧ data.messageId = id ∧
        r = .ok (.edited response)
  dates : ∀ id m m', before.chat.message id = some m → after.chat.message id = some m' →
    m'.deletedAt ≠ m.deletedAt → before.chat.SentBy actor m ∧ m.deletedAt = none ∧
      m'.deletedAt ≠ none ∧
      ∃ data, operation = .deleteMessage data ∧ data.messageId = id ∧ data.scope = .everyone
  kept : ∀ row ∈ before.chat.deletedMessages, row ∈ after.chat.deletedMessages
  added : ∀ row ∈ after.chat.deletedMessages, row ∉ before.chat.deletedMessages →
    (∃ data, operation = .deleteMessage data ∧ data.scope = .me ∧
      data.messageId = row.messageId ∧ row.userId = actor) ∨
    (∃ data, operation = .sendMessage data ∧ before.chat.message row.messageId = none ∧
      (after.chat.message row.messageId).isSome ∧ before.users.blocking row.userId actor = true)
  rows : ∀ conversationId, before.chat.SameIn after.chat conversationId ∨
    before.chat.isMember conversationId actor = true ∨
    (∃ data, operation = .createConversation data ∧
      conversationId ∉ before.chat.conversations.map Conversation.id ∧
      ∃ cm ∈ after.chat.members, cm.conversationId = conversationId ∧ cm.userId = actor)

/-- The same for a step of a session. -/
def Turn.KeepsLaw (ilike : JsString → JsString → Bool) (w : ChatWorld) : Turn → Prop
  | request amb authUserId operation => operation.KeepsLaw authUserId w
      (w.perform ilike amb authUserId operation).1 (w.perform ilike amb authUserId operation).2
  | elsewhere users => ((elsewhere users).run ilike w).chat = w.chat

section Law
variable {ilike : JsString → JsString → Bool} {amb : Ambient} {actor : Uuid} {w : ChatWorld}

theorem edit_succeeds {data : EditMessageRequest}
    (changed : (w.perform ilike amb actor (.editMessage data)).2.chat ≠ w.chat) :
    ∃ response, (w.perform ilike amb actor (.editMessage data)).1 = .ok (.edited response) := by
  cases is : w.perform ilike amb actor (.editMessage data) with
  | mk r v =>
    have outcome := outcome_perform ilike amb actor w (.editMessage data)
    rw [is] at outcome changed
    cases outcome with
    | refused => exact absurd rfl changed
    | edited => exact ⟨_,rfl⟩
    | blocked => exact absurd rfl changed

theorem keepsLaw_perform {operation : ChatOperation} (sound : w.chat.Sound)
    (unused : ChatDatabase.Unused amb w.chat) :
    operation.KeepsLaw actor w (w.perform ilike amb actor operation).1
      (w.perform ilike amb actor operation).2 := by
  have effect := effect_of_sound ilike actor operation sound unused
  have after := sound_effect effect unused sound
  refine ⟨fun id m found => ?_,fun id m m' found found' differs => ?_,
    fun id m m' found found' differs => ?_,fun row => deletions_kept effect,
    fun row mem new => ?_,fun conversationId => ?_⟩
  · obtain ⟨m',found',is⟩ := rewritten_effect effect found
    refine ⟨m',found',?_⟩
    cases is <;> rfl
  · obtain ⟨_,again,is⟩ := rewritten_effect effect found
    obtain rfl := Option.some.inj (found'.symm.trans again)
    cases is with
    | kept => exact absurd rfl differs
    | @edited data own names live =>
      have changed : (w.perform ilike amb actor (.editMessage data)).2.chat ≠ w.chat := by
        intro same
        rw [same, found] at found'
        exact differs (congrArg Message.text (Option.some.inj found').symm)
      obtain ⟨response,done⟩ := edit_succeeds changed
      exact ⟨own,live,data,response,rfl,names.trans (lookup_mem found).2,done⟩
    | deletedForMe => exact absurd rfl differs
    | deletedForEveryone => exact absurd rfl differs
  · obtain ⟨_,again,is⟩ := rewritten_effect effect found
    obtain rfl := Option.some.inj (found'.symm.trans again)
    cases is with
    | kept => exact absurd rfl differs
    | edited => exact absurd rfl differs
    | deletedForMe => exact absurd rfl differs
    | @deletedForEveryone data own names scope live =>
      exact ⟨own,live,nofun,data,rfl,names.trans (lookup_mem found).2,scope⟩
  · rcases deletions_effect effect mem with old | own | ⟨data,sends,its,blocks⟩
    · exact absurd old new
    · exact Or.inl own
    · refine Or.inr ⟨data,sends,?_,lookup_isSome_iff.mpr ?_,blocks⟩
      · rw [its]
        exact lookup_none_iff.mpr fun m stored same =>
          unused.messages 0 (List.mem_map.mpr ⟨m,stored,same⟩)
      · exact List.mem_map.mp (after.filed.deletions row mem)
  · rcases sameIn_effect effect sound conversationId with same | member | ⟨data,creates,new,seat⟩
    · exact Or.inl same
    · exact Or.inr (Or.inl member)
    · exact Or.inr (Or.inr ⟨data,creates,new ▸ unused.conversations 0,seat⟩)

end Law

/-- Every step of every session keeps the law. -/
theorem session_keepsLaw {ilike : JsString → JsString → Bool} {w : ChatWorld} {turns : List Turn}
    (empty : w.chat = ⟨[],[],[],[]⟩) (along : Turn.Along ilike Turn.Allowed turns w) :
    Turn.Along ilike (Turn.KeepsLaw ilike) turns w := by
  refine along.derive (fun _ _ => sound_turn) (fun v turn sound allowed => ?_)
    (empty ▸ ChatDatabase.sound_empty)
  cases turn with
  | request amb authUserId operation => exact keepsLaw_perform sound allowed
  | elsewhere users => rfl

/-- User 1 edits the greeting, user 2 deletes it for himself and user 1 for everyone. -/
def corrections : List Turn :=
  [opening, .request (numberedDraws 2) 1 (.editMessage ⟨100,104,[121, 111]⟩),
    .request (numberedDraws 3) 2 (.deleteMessage ⟨100,104,.me⟩),
    .request (numberedDraws 4) 1 (.deleteMessage ⟨100,104,.everyone⟩)]

theorem session_keepsLaw_corrections :
    Turn.Along noMatch (Turn.KeepsLaw noMatch) corrections emptyWorld := by
  have along : Turn.Along noMatch Turn.Allowed corrections emptyWorld :=
    ⟨unused_numberedDraws (by decide) (by decide) (by decide),
      unused_numberedDraws (by decide) (by decide) (by decide),
      unused_numberedDraws (by decide) (by decide) (by decide),
      unused_numberedDraws (by decide) (by decide) (by decide),trivial⟩
  exact session_keepsLaw rfl along

end Chatterbox
