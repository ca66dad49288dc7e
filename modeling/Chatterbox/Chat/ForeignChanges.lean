import Chatterbox.Chat.ForeignTexts

/-!
The commands on two servers that are the same for a user. In his conversations they do the
same; elsewhere they may be refused on one server only, and leave what he is shown the same.
-/
namespace Chatterbox
open Concurrency Tables

/-- Two runs of a command: refused alike, or with the same result and the same events on tables
    that are the same for the viewer. -/
inductive Change.SameFor {α : Type} (viewer : Uuid) :
    Except Failure (Change α) → Except Failure (Change α) → Prop where
  | refused {e : Failure} : SameFor viewer (.error e) (.error e)
  | changed {result : α} {chat chat' : ChatDatabase} {events : List MessageEvent}
      (same : chat.SameFor viewer chat') :
      SameFor viewer (.ok ⟨result,chat,events⟩) (.ok ⟨result,chat',events⟩)

/-- The tables after a command. -/
def Change.after {α : Type} (db : ChatDatabase) : Except Failure (Change α) → ChatDatabase
  | .error _ => db
  | .ok c => c.chat

theorem Change.SameFor.bind {α β : Type} {viewer : Uuid} {checked : Except Failure β}
    {f f' : β → Except Failure (Change α)}
    (next : ∀ b, checked = .ok b → Change.SameFor viewer (f b) (f' b)) :
    Change.SameFor viewer (checked >>= f) (checked >>= f') := by
  cases checked with
  | error e => exact .refused
  | ok b => exact next b rfl

/-- Loading deletions does not look at the text. -/
theorem MessageEntity.loadDeletedForUserIds_bare (m : MessageEntity) (userIds : List Uuid) :
    (m.loadDeletedForUserIds userIds).bare = m.bare.loadDeletedForUserIds userIds := by
  induction userIds generalizing m with
  | nil => rfl
  | cons userId rest ih =>
    have head : (m.loadDeletedForUserId userId).bare = m.bare.loadDeletedForUserId userId := by
      unfold loadDeletedForUserId
      change MessageEntity.bare (if userId ∈ m.deletedForUserIds then _ else _) =
        if userId ∈ m.deletedForUserIds then _ else _
      split <;> rfl
    change ((m.loadDeletedForUserId userId).loadDeletedForUserIds rest).bare =
      (m.bare.loadDeletedForUserId userId).loadDeletedForUserIds rest
    rw [ih, head]

theorem CreateMessageHandler.acceptReply_bare (command : CreateMessageCommand)
    {reply reply' : LoadedMessage} (bare : reply'.message.bare = reply.message.bare) :
    (∃ e, acceptReply command (some reply) = .error e ∧
        acceptReply command (some reply') = .error e) ∨
      (acceptReply command (some reply) = .ok reply ∧
        acceptReply command (some reply') = .ok reply') := by
  simp only [MessageEntity.bare, MessageEntity.mk.injEq] at bare
  unfold acceptReply
  dsimp only
  simp only [bare]
  split_ifs
  · exact Or.inl ⟨_,rfl,rfl⟩
  · exact Or.inl ⟨_,rfl,rfl⟩
  · exact Or.inl ⟨_,rfl,rfl⟩
  · exact Or.inr ⟨rfl,rfl⟩

theorem MessageEntity.bare_fields {m m' : MessageEntity} (bare : m'.bare = m.bare) :
    m'.id = m.id ∧ m'.conversationId = m.conversationId ∧
      m'.deletedForUserIds = m.deletedForUserIds ∧ m'.deletedAt = m.deletedAt := by
  simp only [MessageEntity.bare, MessageEntity.mk.injEq] at bare
  simp [bare]

/-- Whether a deletion is accepted, and what it writes, does not depend on the text. -/
theorem DeleteMessageHandler.delete_bare (now : Time) (command : DeleteMessageCommand)
    (memberId : Uuid) {m m' : MessageEntity} (bare : m'.bare = m.bare) :
    (∃ e, delete now command memberId m = .error e ∧ delete now command memberId m' = .error e) ∨
      ∃ d d', delete now command memberId m = .ok d ∧ delete now command memberId m' = .ok d' ∧
        d'.1.bare = d.1.bare := by
  have fields := bare
  simp only [MessageEntity.bare, MessageEntity.mk.injEq] at fields
  unfold DeleteMessageHandler.delete
  cases command.scope with
  | me =>
    refine Or.inr ⟨_,_,rfl,rfl,?_⟩
    unfold MessageEntity.deleteForUser
    simp only [fields]
    split
    · exact bare
    · simp [MessageEntity.bare]
  | everyone =>
    unfold MessageEntity.deleteForEveryone
    simp only [fields]
    split_ifs
    · exact Or.inl ⟨_,rfl,rfl⟩
    · exact Or.inr ⟨_,_,rfl,rfl,bare⟩
    · refine Or.inr ⟨_,_,rfl,rfl,?_⟩
      simp [MessageEntity.bare]

theorem Change.after_reload {db chat : ChatDatabase} {id : Uuid} {events : List MessageEvent}
    (known : (chat.message id).isSome) : Change.after db (chat.reload id events) = chat := by
  obtain ⟨m,found⟩ := Option.isSome_iff_exists.mp known
  unfold ChatDatabase.reload
  rw [found]
  rfl

section Read
variable {viewer : Uuid} {db db' : ChatDatabase} {conversationId : Uuid}

namespace ChatDatabase.SameFor

/-- A message of a conversation of the viewer, named by a request. -/
theorem conversationMessage (same : db.SameFor viewer db') (confined : db.Confined)
    (reads : db.isMember conversationId viewer = true) (messageId : Uuid) :
    db'.conversationMessage conversationId messageId =
      db.conversationMessage conversationId messageId := by
  unfold ChatDatabase.conversationMessage
  rcases same.message messageId with ⟨none,none'⟩ | ⟨m,m',found,found',pair⟩
  · rw [none, none']
  · rw [found, found']
    dsimp only
    rw [pair.home]
    split
    · rfl
    · rename_i home
      rw [← not_not.mp home] at reads
      rw [pair.same reads, same.loaded confined (lookup_mem found).1 reads]

/-- A message of a conversation of the viewer, read again after a change. -/
theorem reload (same : db.SameFor viewer db') (confined : db.Confined) {id : Uuid}
    (reads : ∀ m, db.message id = some m → db.isMember m.conversationId viewer = true)
    (events : List MessageEvent) :
    Change.SameFor viewer (db.reload id events) (db'.reload id events) := by
  unfold ChatDatabase.reload
  rcases same.message id with ⟨none,none'⟩ | ⟨m,m',found,found',pair⟩
  · rw [none, none']
    exact .refused
  · have here := reads m found
    rw [found, found', pair.same here]
    dsimp only
    rw [same.loaded confined (lookup_mem found).1 here]
    exact .changed same

theorem existing (same : db.SameFor viewer db') {command : CreateMessageCommand}
    (reads : db.isMember command.conversationId viewer = true) (member : ConversationMember) :
    CreateMessageHandler.existing command member db' =
      CreateMessageHandler.existing command member db := by
  unfold CreateMessageHandler.existing
  cases command.clientMessageId.filter (· ≠ []) with
  | none => rfl
  | some key =>
    simp only [Option.bind_some]
    rcases lookup_related (fun _ _ pair => Message.SameFor.clientKey pair)
        (command.conversationId, member.id, some (trim key)) same.messages with
      ⟨none,none'⟩ | ⟨m,m',found,found',pair⟩
    · rw [none, none']
    · have home : m.conversationId = command.conversationId :=
        congrArg Prod.fst (lookup_mem found).2
      rw [found, found', pair.same (by rw [home]; exact reads)]

/-- A loaded message, but for its text and its edits. -/
theorem loaded_bare (same : db.SameFor viewer db') {m m' : Message}
    (pair : Message.SameFor (fun c => db.isMember c viewer) m m') :
    (db'.loaded m').message.bare = (db.loaded m).message.bare := by
  have row : (Message.toDomain m').bare = (Message.toDomain m).bare :=
    congrArg Message.toDomain pair.bare
  have deletions : db'.deletedMessages.filter (fun r => r.messageId = m'.id) =
      db.deletedMessages.filter fun r => r.messageId = m.id := by
    rw [pair.id, same.deletedMessages]
  change ((Message.toDomain m').loadDeletedForUserIds _).bare =
    ((Message.toDomain m).loadDeletedForUserIds _).bare
  rw [MessageEntity.loadDeletedForUserIds_bare, MessageEntity.loadDeletedForUserIds_bare, row,
    deletions]

/-- A quoted message of another conversation is refused, whatever it says. -/
theorem quoted (same : db.SameFor viewer db') (confined : db.Confined)
    {command : CreateMessageCommand} (reads : db.isMember command.conversationId viewer = true) :
    CreateMessageHandler.quoted command db' = CreateMessageHandler.quoted command db := by
  unfold CreateMessageHandler.quoted
  cases command.replyToMessageId with
  | none => rfl
  | some q =>
    dsimp only
    rcases same.message q with ⟨none,none'⟩ | ⟨m,m',found,found',pair⟩
    · rw [none, none']
      rfl
    · rw [found, found', Option.map_some, Option.map_some]
      by_cases home : m.conversationId = command.conversationId
      · rw [← home] at reads
        rw [pair.same reads, same.loaded confined (lookup_mem found).1 reads]
      · rcases CreateMessageHandler.acceptReply_bare command (same.loaded_bare pair) with
          ⟨e,refused,refused'⟩ | ⟨accepted,_⟩
        · rw [refused, refused']
        · exact absurd (acceptReply_rows_iff.mp accepted).2.1 home

/-- Whether a quoted message is accepted does not depend on what it says. -/
theorem quoted_either (same : db.SameFor viewer db') (command : CreateMessageCommand) :
    (∃ e, CreateMessageHandler.quoted command db = .error e ∧
        CreateMessageHandler.quoted command db' = .error e) ∨
      ∃ reply reply', CreateMessageHandler.quoted command db = .ok reply ∧
        CreateMessageHandler.quoted command db' = .ok reply' := by
  unfold CreateMessageHandler.quoted
  cases command.replyToMessageId with
  | none => exact Or.inr ⟨none,none,rfl,rfl⟩
  | some q =>
    dsimp only
    rcases same.message q with ⟨none,none'⟩ | ⟨m,m',found,found',pair⟩
    · rw [none, none']
      exact Or.inl ⟨_,rfl,rfl⟩
    · rw [found, found', Option.map_some, Option.map_some]
      rcases CreateMessageHandler.acceptReply_bare command (same.loaded_bare pair) with
        ⟨e,refused,refused'⟩ | ⟨accepted,accepted'⟩
      · rw [refused, refused']
        exact Or.inl ⟨e,rfl,rfl⟩
      · rw [accepted, accepted']
        exact Or.inr ⟨_,_,rfl,rfl⟩

end ChatDatabase.SameFor
end Read

section Alike
variable {viewer : Uuid} {db db' : ChatDatabase} {amb : Ambient} {now : Time}

namespace ChatDatabase.SameFor

/-- A send that finds the same under its key and as its quoted message. -/
theorem send_of (same : db.SameFor viewer db') (confined : db.Confined)
    {command : CreateMessageCommand}
    (again : ∀ member, CreateMessageHandler.existing command member db' =
      CreateMessageHandler.existing command member db)
    (loads : ∀ member m, CreateMessageHandler.existing command member db = some m →
      db'.loaded m = db.loaded m)
    (quotes : CreateMessageHandler.quoted command db' = CreateMessageHandler.quoted command db) :
    Change.SameFor viewer (CreateMessageHandler.change amb command db)
      (CreateMessageHandler.change amb command db') := by
  unfold CreateMessageHandler.change
  rw [same.conversationMember]
  apply Change.SameFor.bind
  intro member _
  rw [again member]
  cases known : CreateMessageHandler.existing command member db with
  | some m =>
    dsimp only
    rw [loads member m known]
    split
    · exact .refused
    · exact .changed same
  | none =>
    dsimp only
    rw [quotes]
    apply Change.SameFor.bind
    intro reply _
    apply Change.SameFor.bind
    intro created _
    obtain ⟨r,chat,chat',stored,stored',alike⟩ := same.storeMessage confined created.1
    rw [stored, stored']
    cases r with
    | error e => exact .refused
    | ok u => exact .changed alike

theorem send (same : db.SameFor viewer db') (confined : db.Confined)
    {command : CreateMessageCommand}
    (reads : db.isMember command.conversationId viewer = true) :
    Change.SameFor viewer (CreateMessageHandler.change amb command db)
      (CreateMessageHandler.change amb command db') := by
  apply same.send_of confined
  · exact same.existing reads
  · intro member m known
    obtain ⟨stored,home,_⟩ := CreateMessageHandler.existing_found known
    exact same.loaded confined stored (home ▸ reads)
  · exact same.quoted confined reads

/-- A first message has no key and quotes nothing. -/
theorem firstMessage (same : db.SameFor viewer db') (confined : db.Confined)
    {command : CreateMessageCommand} (key : command.clientMessageId = none)
    (reply : command.replyToMessageId = none) :
    Change.SameFor viewer (CreateMessageHandler.change amb command db)
      (CreateMessageHandler.change amb command db') := by
  have unknown : ∀ db member, CreateMessageHandler.existing command member db = none := by
    intro db member
    rw [CreateMessageHandler.existing, key]
    rfl
  have quotes : ∀ db, CreateMessageHandler.quoted command db = .ok none := by
    intro db
    rw [CreateMessageHandler.quoted, reply]
  apply same.send_of confined
  · intro member
    rw [unknown, unknown]
  · intro member m known
    rw [unknown] at known
    cases known
  · rw [quotes, quotes]

theorem edit (same : db.SameFor viewer db') (confined : db.Confined) {command : EditMessageCommand}
    (reads : db.isMember command.conversationId viewer = true) :
    Change.SameFor viewer (EditMessageHandler.change now command db)
      (EditMessageHandler.change now command db') := by
  unfold EditMessageHandler.change
  rw [same.conversationMember, same.conversationMessage confined reads]
  apply Change.SameFor.bind
  intro member _
  apply Change.SameFor.bind
  intro loaded read
  apply Change.SameFor.bind
  intro edited edits
  obtain ⟨m,found,home,rfl,_⟩ := message_isSome_of_loaded read
  have id : edited.1.id = m.id :=
    (edit_id edits).trans (MessageEntity.loadDeletedForUserIds_id ..)
  have stored : (db.updateMessage edited.1.id edited.1.text edited.1.editedAt
      edited.1.updatedAt).SameFor viewer (db'.updateMessage edited.1.id edited.1.text
        edited.1.editedAt edited.1.updatedAt) := same.updateMessage ..
  apply stored.reload (confined_updateMessage confined _ _ _ _)
  intro row again
  rw [message_updateMessage, id, (lookup_mem found).2, found, Option.map_some,
    Option.some.injEq] at again
  have here : row.conversationId = command.conversationId := by
    rw [← again, ← home]
    split <;> rfl
  rw [here]
  exact reads

theorem delete (same : db.SameFor viewer db') (confined : db.Confined)
    {command : DeleteMessageCommand}
    (reads : db.isMember command.conversationId viewer = true) :
    Change.SameFor viewer (DeleteMessageHandler.change now command db)
      (DeleteMessageHandler.change now command db') := by
  unfold DeleteMessageHandler.change
  rw [same.conversationMember, same.conversationMessage confined reads]
  apply Change.SameFor.bind
  intro member _
  apply Change.SameFor.bind
  intro loaded read
  apply Change.SameFor.bind
  intro deleted deletes
  obtain ⟨m,found,home,rfl,_⟩ := message_isSome_of_loaded read
  have id : deleted.1.id = m.id :=
    (delete_ok deletes).1.trans (MessageEntity.loadDeletedForUserIds_id ..)
  have stored : (db.storeDeletion deleted.1.deletion (db.movedPointers deleted.1.deletion)).SameFor
      viewer (db'.storeDeletion deleted.1.deletion (db'.movedPointers deleted.1.deletion)) :=
    same.storeDeletion confined rfl rfl rfl rfl fun _ _ _ _ => rfl
  apply stored.reload (confined_storeDeletion confined _)
  intro row again
  rw [message_storeDeletion, id, (lookup_mem found).2, found, Option.map_some,
    Option.some.injEq] at again
  have here : row.conversationId = command.conversationId := by
    rw [← again, ← home]
    split <;> rfl
  rw [here, isMember_of_identity (identity_storeDeletion confined.members _)]
  exact reads

theorem mark (same : db.SameFor viewer db') (confined : db.Confined)
    (command : MarkConversationAsReadCommand) :
    Change.SameFor viewer (MarkConversationAsReadCommandHandler.change command db)
      (MarkConversationAsReadCommandHandler.change command db') := by
  have seats : ∀ c, MarkConversationAsReadCommandHandler.change command db = .ok c →
      ∀ id, c.chat.isMember id viewer = db.isMember id viewer := by
    intro c is id
    obtain ⟨member,_,_,⟨_,kept⟩ | ⟨_,moved⟩⟩ := MarkConversationAsReadCommandHandler.change_ok
      confined.conversations confined.members is
    · rw [kept]
    · rw [moved]
      exact isMember_of_identity (identity_withSeen member.id command.messageId) id viewer
  cases loaded : db.getConversation command.conversationId with
  | none =>
    unfold MarkConversationAsReadCommandHandler.change
    rw [same.getConversation, loaded]
    exact .refused
  | some rows =>
    have joins : ∀ marked, (Conversation.toDomain rows).markAsRead command.userId
        command.messageId = .ok marked → ∀ answer stored, db.storeConversation
          (Conversation.fromDomain marked).1 (Conversation.fromDomain marked).2 =
            (.ok answer, stored) → ∀ m ∈ db.messages,
              stored.isMember m.conversationId viewer = true →
                db.isMember m.conversationId viewer = true := by
      intro marked marks answer stored is m _ reads
      have ran : MarkConversationAsReadCommandHandler.change command db =
          .ok ⟨(),stored,[]⟩ := by
        unfold MarkConversationAsReadCommandHandler.change
        rw [loaded]
        simp [marks, is, bind, Except.bind]
      rw [← seats _ ran]
      exact reads
    unfold MarkConversationAsReadCommandHandler.change
    rw [same.getConversation, loaded]
    dsimp only
    apply Change.SameFor.bind
    intro marked marks
    obtain ⟨r,chat,chat',stored,stored',alike⟩ := same.storeConversation (joins marked marks)
    rw [stored, stored']
    cases r with
    | error e => exact .refused
    | ok u => exact .changed alike

/-- The viewer is in no conversation that is not there yet. -/
theorem isMember_opened (unused : Unused amb db) (confined : db.Confined) {m : Message}
    (mem : m ∈ db.messages) {userId targetUserId : Uuid}
    (reads : (db.withConversation amb userId targetUserId).isMember m.conversationId viewer = true) :
    db.isMember m.conversationId viewer = true := by
  obtain ⟨id,listed⟩ := isMember_iff.mp reads
  apply isMember_iff.mpr
  refine ⟨id,?_⟩
  rw [withConversation, List.map_append, List.mem_append] at listed
  rcases listed with old | new
  · exact old
  · obtain ⟨cm,among,is⟩ := List.mem_map.mp new
    have home : cm.conversationId = amb.uuid 0 := by
      rcases mem_newMembers among with rfl | ⟨_,rfl⟩ <;> rfl
    have same : cm.conversationId = m.conversationId := congrArg (fun i => i.2.2.1) is
    exact absurd (confined.homes m mem) (same ▸ home ▸ unused.conversations 0)

theorem createDirect (same : db.SameFor viewer db') (confined : db.Confined)
    (unused : Unused amb db) (command : CreateDirectConversationCommand) :
    Change.SameFor viewer (CreateDirectConversationHandler.change amb command db)
      (CreateDirectConversationHandler.change amb command db') := by
  have known : db'.conversationExists command.userId command.targetUserId =
      db.conversationExists command.userId command.targetUserId := by
    rw [same.eq]
    rfl
  unfold CreateDirectConversationHandler.change
  rw [known]
  split
  · exact .refused
  · rename_i absent
    apply Change.SameFor.bind
    intro conversation built
    have joins : ∀ answer stored, db.storeConversation (Conversation.fromDomain conversation).1
        (Conversation.fromDomain conversation).2 = (.ok answer, stored) → ∀ m ∈ db.messages,
          stored.isMember m.conversationId viewer = true →
            db.isMember m.conversationId viewer = true := by
      intro answer stored is m mem reads
      obtain ⟨rows,rfl⟩ := Option.isSome_iff_exists.mp (db.storeConversation_found is (by
        rw [ConversationEntity.createDirect_eq] at built
        cases built
        rfl))
      have ran : CreateDirectConversationHandler.change amb command db =
          .ok ⟨Conversation.toDomain rows,stored,[]⟩ := by
        unfold CreateDirectConversationHandler.change
        simp [absent, built, is, bind, Except.bind]
      obtain ⟨_,rfl⟩ := CreateDirectConversationHandler.change_effect unused ran
      exact isMember_opened unused confined mem reads
    obtain ⟨r,chat,chat',stored,stored',alike⟩ := same.storeConversation joins
    rw [stored, stored']
    cases r with
    | error e => exact .refused
    | ok rows =>
      cases rows with
      | none => exact .refused
      | some rows => exact .changed alike

/-- A conversation that is removed again. -/
theorem removed (same : db.SameFor viewer db') (id : Uuid) :
    (db.removeConversation id now).2.SameFor viewer (db'.removeConversation id now).2 := by
  have target : (db'.removeConversation id now).2 = { db' with
      members := amend (fun m => m.deletedAt.isNone && m.conversationId = id)
        (fun m => { m with deletedAt := some now }) db.members
      conversations := amend (fun c => c.deletedAt.isNone && c.id = id)
        (fun c => { c with deletedAt := some now }) db.conversations } := by
    rw [← same.members, ← same.conversations]
    rfl
  rw [target]
  apply same.regrouped
  intro m _ reads
  obtain ⟨cm,seated,user⟩ := List.any_eq_true.mp reads
  obtain ⟨mem,live,home⟩ := membersOf_iff.mp seated
  rcases mem_amend.mp mem with ⟨_,_,_,rfl⟩ | ⟨stored,_⟩
  · cases live
  · exact List.any_eq_true.mpr ⟨cm,membersOf_iff.mpr ⟨stored,live,home⟩,user⟩

end ChatDatabase.SameFor
end Alike

section Elsewhere
variable {viewer : Uuid} {db db' : ChatDatabase} {amb : Ambient} {now : Time}

namespace ChatDatabase.SameFor

/-- A key is taken in both tables or in neither. -/
theorem existing_either (same : db.SameFor viewer db') (command : CreateMessageCommand)
    (member : ConversationMember) :
    (CreateMessageHandler.existing command member db = none ∧
        CreateMessageHandler.existing command member db' = none) ∨
      ∃ m m', CreateMessageHandler.existing command member db = some m ∧
        CreateMessageHandler.existing command member db' = some m' := by
  unfold CreateMessageHandler.existing
  cases command.clientMessageId.filter (· ≠ []) with
  | none => exact Or.inl ⟨rfl,rfl⟩
  | some key =>
    rcases lookup_related (fun _ _ pair => Message.SameFor.clientKey pair)
        (command.conversationId, member.id, some (trim key)) same.messages with
      none | ⟨m,m',found,found',_⟩
    · exact Or.inl none
    · exact Or.inr ⟨m,m',found,found'⟩

/-- A send to a conversation of others, refused in one of the tables or in both or in none. -/
theorem send_after (same : db.SameFor viewer db') (confined : db.Confined)
    (command : CreateMessageCommand) :
    (Change.after db (CreateMessageHandler.change amb command db)).SameFor viewer
      (Change.after db' (CreateMessageHandler.change amb command db')) := by
  unfold CreateMessageHandler.change
  rw [same.conversationMember]
  cases db.conversationMember command.conversationId command.senderId with
  | error e => exact same
  | ok member =>
    have refused : ∀ (m : Message) (chat : ChatDatabase), Change.after chat
        (if m.text ≠ command.text then .error (idempotencyConflictException none)
          else .ok ⟨chat.loaded m,chat,[]⟩) = chat := by
      intro m chat
      split <;> rfl
    dsimp only [bind, Except.bind]
    rcases same.existing_either command member with ⟨none,none'⟩ | ⟨m,m',found,found'⟩
    · rw [none, none']
      dsimp only
      rcases same.quoted_either command with ⟨e,bad,bad'⟩ | ⟨reply,reply',quotes,quotes'⟩
      · rw [bad, bad']
        exact same
      · rw [quotes, quotes']
        dsimp only
        cases MessageEntity.create amb command.text command.type member.id
            command.conversationId command.deletedForUserIds command.replyToMessageId
            command.clientMessageId with
        | error e => exact same
        | ok created =>
          obtain ⟨r,chat,chat',stored,stored',alike⟩ := same.storeMessage confined created.1
          dsimp only
          rw [stored, stored']
          cases r with
          | error e => exact same
          | ok u => exact alike
    · rw [found, found']
      dsimp only
      rw [refused, refused]
      exact same

/-- An edit in a conversation of others. -/
theorem edit_after (same : db.SameFor viewer db') (confined : db.Confined)
    {command : EditMessageCommand}
    (foreign : db.isMember command.conversationId viewer = false) :
    (Change.after db (EditMessageHandler.change now command db)).SameFor viewer
      (Change.after db' (EditMessageHandler.change now command db')) := by
  have alone : ∀ {db db' : ChatDatabase}, db.SameFor viewer db' → db.Confined →
      db.isMember command.conversationId viewer = false →
        db.SameFor viewer (Change.after db' (EditMessageHandler.change now command db')) := by
    intro db db' same confined foreign
    cases ran : EditMessageHandler.change now command db' with
    | error e => exact same
    | ok c =>
      obtain ⟨_,m',edited,_,found',home,edits,is,_⟩ := EditMessageHandler.change_ok ran
      have id : edited.1.id = m'.id :=
        (edit_id edits).trans (MessageEntity.loadDeletedForUserIds_id ..)
      change db.SameFor viewer c.chat
      rw [is]
      apply same.edited
      intro m mem named
      rcases same.message command.messageId with ⟨_,none⟩ | ⟨r,r',found,again,pair⟩
      · rw [none] at found'
        cases found'
      · obtain rfl : m' = r' := Option.some.inj (found'.symm.trans again)
        obtain ⟨stored,_⟩ := lookup_mem found
        rw [keyed_unique confined.messages mem stored (named.trans (id.trans pair.id)),
          ← pair.home, home]
        exact foreign
  have right := alone same confined foreign
  have left := alone right.symm (right.confined confined) ((right.isMember ..).trans foreign)
  exact left.symm

/-- A deletion in a conversation of others is refused in both tables or in none. -/
theorem delete_after (same : db.SameFor viewer db') (confined : db.Confined)
    {command : DeleteMessageCommand}
    (foreign : db.isMember command.conversationId viewer = false) :
    (Change.after db (DeleteMessageHandler.change now command db)).SameFor viewer
      (Change.after db' (DeleteMessageHandler.change now command db')) := by
  unfold DeleteMessageHandler.change ChatDatabase.conversationMessage
  rw [same.conversationMember]
  cases db.conversationMember command.conversationId command.userId with
  | error e => exact same
  | ok member =>
    dsimp only [bind, Except.bind]
    rcases same.message command.messageId with ⟨none,none'⟩ | ⟨m,m',found,found',pair⟩
    · rw [none, none']
      exact same
    · rw [found, found']
      dsimp only
      rw [pair.home]
      by_cases home : m.conversationId = command.conversationId
      · rw [if_neg (not_not.mpr home), if_neg (not_not.mpr home)]
        dsimp only
        rcases DeleteMessageHandler.delete_bare now command member.id (same.loaded_bare pair) with
          ⟨e,refused,refused'⟩ | ⟨d,d',deletes,deletes',bare⟩
        · rw [refused, refused']
          exact same
        · rw [deletes, deletes']
          have id : d.1.id = m.id :=
            (delete_ok deletes).1.trans (MessageEntity.loadDeletedForUserIds_id ..)
          obtain ⟨id',conversation,users,date⟩ := MessageEntity.bare_fields bare
          obtain ⟨stored,named⟩ := lookup_mem found
          dsimp only
          rw [Change.after_reload, Change.after_reload]
          · apply same.storeDeletion confined
            · exact id'
            · exact conversation
            · exact users
            · exact date
            · intro r mem hit reads
              rw [keyed_unique confined.messages mem stored (hit.trans id), home, foreign] at reads
              cases reads
          · rw [message_storeDeletion, Option.isSome_map, id', id, named, found']
            rfl
          · rw [message_storeDeletion, Option.isSome_map, id, named, found]
            rfl
      · rw [if_pos home, if_pos home]
        exact same

end ChatDatabase.SameFor
end Elsewhere

end Chatterbox
