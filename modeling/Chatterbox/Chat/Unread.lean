import Chatterbox.Chat.UnreadViews

/-!
The two views of what a member has not seen, over a session. They agree as long as every
message is newer by its date than what its readers have seen, and every mark leaves the user
none of his own messages and those that were created later.
-/
namespace Chatterbox
open Concurrency Tables

def ConversationMember.account (cm : ConversationMember) : Uuid × Uuid := (cm.id, cm.userId)

namespace ChatDatabase

/-- The message of a send is not older than the messages of others that the sender sees, and
    newer than those that the other members have seen last. -/
def SendsLater (db : ChatDatabase) (now : Time) (authUserId conversationId : Uuid) : Prop :=
  (∀ m ∈ db.messages, m.conversationId = conversationId → db.visibleTo authUserId m = true →
    db.wrote authUserId m = false → m.createdAt ≤ now) ∧
  ∀ cm ∈ db.members, cm.conversationId = conversationId → cm.userId ≠ authUserId →
    ∀ seen ∈ cm.lastSeenMessageId.bind db.message, seen.createdAt < now

/-- After the marked message the user sees none of his own, and of the others those that were
    created later. -/
def MarksAlike (db : ChatDatabase) (authUserId : Uuid) (data : MarkMessageSeenRequest) : Prop :=
  ∀ seen ∈ db.message data.messageId, ∀ m ∈ db.messages,
    m.conversationId = data.conversationId → db.visibleTo authUserId m = true →
      if db.wrote authUserId m then m.id ≤ data.messageId
      else data.messageId < m.id ↔ seen.createdAt < m.createdAt

section Frames
variable {db db' : ChatDatabase}

theorem wrote_frame (members : db'.members.map ConversationMember.account =
      db.members.map ConversationMember.account) {m m' : Message}
    (sender : m'.senderId = m.senderId) (userId : Uuid) : db'.wrote userId m' = db.wrote userId m := by
  have rows : ∀ d : ChatDatabase, ∀ n : Message, d.wrote userId n =
      (d.members.map ConversationMember.account).any fun row =>
        row.1 = n.senderId && row.2 = userId := by
    intro d n
    rw [List.any_map]
    rfl
  rw [rows, rows, members, sender]

/-- A message keeps its creation date. -/
theorem createdAt_frame (messages : db'.messages.map Message.origin =
    db.messages.map Message.origin) (id : Uuid) :
    (db'.message id).map Message.createdAt = (db.message id).map Message.createdAt := by
  have column : ∀ d : ChatDatabase, (d.message id).map Message.createdAt =
      ((d.messages.map Message.origin).find? fun row => row.1 = id).map fun row =>
        row.2.2.2.2.1 := by
    intro d
    rw [List.find?_map, Option.map_map]
    rfl
  rw [column, column, messages]

theorem all_later_eq (found : Option Message) (t : Time) :
    (found.all fun seen => seen.createdAt < t) =
      ((found.map Message.createdAt).all fun at' => at' < t) := by
  cases found <;> rfl

/-- What changes no position, no date and no author, and makes nothing visible, keeps the views
    aligned. -/
theorem Aligned.frame (aligned : db.Aligned)
    (members : db'.members.map ConversationMember.account =
      db.members.map ConversationMember.account)
    (positions : ∀ cm' ∈ db'.members, ∃ cm ∈ db.members, cm'.seat = cm.seat ∧
      cm'.lastSeenMessageId = cm.lastSeenMessageId)
    (origins : db'.messages.map Message.origin = db.messages.map Message.origin)
    (shrinks : ∀ m' ∈ db'.messages, ∀ userId, db'.visibleTo userId m' = true →
      ∃ m ∈ db.messages, m'.origin = m.origin ∧ db.visibleTo userId m = true) : db'.Aligned := by
  intro cm' mem' m' stored' home visible
  obtain ⟨cm,mem,same,position⟩ := positions cm' mem'
  obtain ⟨conversation,user⟩ := Prod.mk.inj same
  obtain ⟨m,stored,is,visible⟩ := shrinks m' stored' _ visible
  simp only [Message.origin, Prod.mk.injEq] at is
  obtain ⟨id,_,sender,home',created,_⟩ := is
  rw [user] at visible
  have before := aligned cm mem m stored (home'.symm.trans (home.trans conversation)) visible
  have dates : ((cm.lastSeenMessageId.bind db'.message).map Message.createdAt) =
      (cm.lastSeenMessageId.bind db.message).map Message.createdAt := by
    cases cm.lastSeenMessageId with
    | none => rfl
    | some id => exact createdAt_frame origins id
  rw [unreadBy, all_later_eq] at before ⊢
  rw [position, user, id, before, wrote_frame members sender, dates, created]

end Frames
end ChatDatabase

section Effects
variable {users : UserDatabase} {amb : Ambient} {actor : Uuid} {db db' : ChatDatabase}
  {operation : ChatOperation} {events : List MessageEvent} {cm' : ConversationMember}

/-- The rows of the members after a send. -/
theorem row_withMessage {command : CreateMessageCommand} {member : ConversationMember}
    {message : MessageEntity} {event : MessageCreatedDomainEvent}
    (sends : Inserts amb command db member message event)
    (members : Keyed ConversationMember.id db.members)
    (mem' : cm' ∈ (db.withMessage message).members) :
    ∃ cm ∈ db.members, cm'.seat = cm.seat ∧ (cm.id = message.senderId ↔ cm = member) ∧
      cm'.lastSeenMessageId =
        if cm.id = message.senderId then some message.id else cm.lastSeenMessageId := by
  obtain ⟨_,sender,home,_⟩ := sends.fields
  obtain ⟨joined,_,_⟩ := conversationMember_ok sends.seated
  have known := (ChatDatabase.membersOf_iff.mp joined).1
  have own : ∀ cm ∈ db.members, cm.id = message.senderId ↔ cm = member := by
    intro cm mem
    constructor
    · intro same
      exact keyed_unique members mem known (same.trans sender)
    · intro same
      rw [same, sender]
  obtain ⟨cm,mem,rfl⟩ := List.mem_map.mp mem'
  obtain ⟨identity,position⟩ := sent_row sends members mem
  obtain ⟨_,user,conversation,_⟩ := ChatDatabase.identity_inj identity
  exact ⟨cm,mem,Prod.ext conversation user,own cm mem,position⟩

/-- Only one row of a conversation is that of the author of a message. -/
theorem wrote_row (seated : db.Seated) {member cm : ConversationMember} {m : Message}
    (known : member ∈ db.members) (sender : m.senderId = member.id) (mem : cm ∈ db.members)
    (home : member.conversationId = cm.conversationId) :
    db.wrote cm.userId m = decide (cm = member) := by
  rw [ChatDatabase.wrote, Bool.eq_iff_iff]
  simp only [List.any_eq_true, Bool.and_eq_true, decide_eq_true_eq]
  constructor
  · rintro ⟨author,stored,is,user⟩
    have same : author = member := keyed_unique seated.members stored known (is.trans sender)
    have seat : cm.seat = member.seat :=
      Prod.ext home.symm (user.symm.trans (congrArg ConversationMember.userId same))
    exact keyed_unique seated.seats mem known seat
  · intro same
    exact ⟨cm,mem,by rw [same, sender],rfl⟩

/-- A send keeps the views aligned when its message is the newest by its date as well. -/
theorem aligned_withMessage {command : CreateMessageCommand} {member : ConversationMember}
    {message : MessageEntity} {event : MessageCreatedDomainEvent} (aligned : db.Aligned)
    (seated : db.Seated) (stored : db.SeenStored)
    (sends : Inserts amb command db member message event)
    (newest : ∀ m ∈ db.messages, m.id < message.id)
    (later : db.SendsLater amb.now member.userId command.conversationId) :
    (db.withMessage message).Aligned := by
  obtain ⟨_,sender,there,_,_,_,_,created,_⟩ := sends.fields
  obtain ⟨joined,_,_⟩ := conversationMember_ok sends.seated
  obtain ⟨known,_,home⟩ := ChatDatabase.membersOf_iff.mp joined
  have accounts : (db.withMessage message).members.map ConversationMember.account =
      db.members.map ConversationMember.account := by
    have frame : ∀ cm, (message.updateMember cm).account = cm.account := fun _ => rfl
    exact map_amend frame _
  have wrote : ∀ m userId, (db.withMessage message).wrote userId m = db.wrote userId m :=
    fun m userId => ChatDatabase.wrote_frame accounts rfl userId
  have found : (db.withMessage message).message message.id = some (Message.fromDomain message) := by
    refine (ChatDatabase.message_new fun known => ?_).2
    obtain ⟨m,mem,same⟩ := List.mem_map.mp known
    exact absurd same (newest m mem).ne
  intro cm' mem' m mem home' visible
  obtain ⟨cm,memcm,seat,own,position⟩ := row_withMessage sends seated.members mem'
  obtain ⟨conversation,user⟩ := Prod.mk.inj seat
  have kept : cm.lastSeenMessageId.bind (db.withMessage message).message =
      cm.lastSeenMessageId.bind db.message := by
    cases seen : cm.lastSeenMessageId with
    | none => rfl
    | some id =>
      apply ChatDatabase.message_withMessage
      exact lookup_isSome_iff.mpr (List.mem_map.mp (stored cm memcm id seen))
  rw [ChatDatabase.unreadBy, wrote, position, user]
  rcases List.mem_append.mp mem with old | new
  · have other : m.id ≠ message.id := (newest m old).ne
    have visible : db.visibleTo cm.userId m = true := by
      rw [ChatDatabase.visibleTo, ChatDatabase.deletedFor_withMessage other, user] at visible
      exact visible
    by_cases writes : cm = member
    · -- his position is the message, the newest by its id
      rw [if_pos (own.mpr writes), Option.bind_some, found]
      have before : ¬ message.id < m.id := not_lt.mpr (newest m old).le
      have here : m.conversationId = command.conversationId := by
        rw [home', conversation, writes, home]
      cases mine : db.wrote cm.userId m with
      | true => simp [before]
      | false =>
        have dated : m.createdAt ≤ amb.now :=
          later.1 m old here (writes ▸ visible) (writes ▸ mine)
        simp [before, Message.fromDomain, created, dated]
    · rw [if_neg (fun is => writes (own.mp is)), kept]
      exact aligned cm memcm m old (home'.trans conversation) visible
  · rw [List.mem_singleton.mp new]
    have here : member.conversationId = cm.conversationId := by
      rw [← conversation, ← home', List.mem_singleton.mp new]
      exact home.trans there.symm
    rw [wrote_row seated known sender memcm here]
    by_cases writes : cm = member
    · rw [if_pos (own.mpr writes)]
      simp [writes, Message.fromDomain]
    · rw [if_neg (fun is => writes (own.mp is)), kept]
      have before := position_before stored memcm newest
      have apart : cm.userId ≠ member.userId := by
        intro same
        exact writes (keyed_unique seated.seats memcm known (Prod.ext here.symm same))
      have dates := later.2 cm memcm (here.symm.trans home) apart
      cases seen : cm.lastSeenMessageId.bind db.message with
      | none =>
        simp only [writes, decide_false, Bool.not_false, Option.all_none, Bool.and_true]
        exact before
      | some m' =>
        have dated : m'.createdAt < amb.now := dates m' seen
        simp only [writes, decide_false, Bool.not_false, Option.all_some, Bool.true_and,
          Message.fromDomain, created, dated, decide_true]
        exact before

/-- A new conversation has no messages yet. -/
theorem aligned_withConversation (aligned : db.Aligned) (sound : db.Sound)
    (unused : ChatDatabase.Unused amb db) (userId targetUserId : Uuid) :
    (db.withConversation amb userId targetUserId).Aligned := by
  intro cm mem m stored home visible
  have stored : m ∈ db.messages := stored
  obtain ⟨sender,known,is,there⟩ := sound.filed.senders m stored
  have wrote : (db.withConversation amb userId targetUserId).wrote cm.userId m =
      db.wrote cm.userId m := by
    rw [ChatDatabase.wrote, ChatDatabase.withConversation, List.any_append, ChatDatabase.wrote]
    have others : ∀ new ∈ newMembers amb userId targetUserId, new.id ≠ m.senderId := by
      intro new added same
      have old : new.id ∈ db.members.map ConversationMember.id :=
        List.mem_map.mpr ⟨sender,known,is.trans same.symm⟩
      rcases mem_newMembers added with rfl | ⟨_,rfl⟩
      · exact unused.members 2 old
      · exact unused.members 3 old
    rw [Bool.eq_iff_iff, Bool.or_eq_true]
    constructor
    · intro some
      rcases some with old | new
      · exact old
      · obtain ⟨new,added,same⟩ := List.any_eq_true.mp new
        simp only [Bool.and_eq_true, decide_eq_true_eq] at same
        exact absurd same.1 (others new added)
    · exact Or.inl
  rcases List.mem_append.mp mem with old | new
  · rw [ChatDatabase.unreadBy, wrote]
    exact aligned cm old m stored home visible
  · have elsewhere := unused.absent sound.seated 0 sender known
    rw [there, home] at elsewhere
    rcases mem_newMembers new with rfl | ⟨_,rfl⟩
    · exact absurd rfl elsewhere
    · exact absurd rfl elsewhere

/-- A mark moves the position of one member. -/
theorem aligned_withSeen {data : MarkMessageSeenRequest} {member : ConversationMember}
    (aligned : db.Aligned) (seated : db.Seated)
    (found : db.conversationMember data.conversationId actor = .ok member)
    (known : (db.message data.messageId).isSome) (alike : db.MarksAlike actor data) :
    (db.withSeen member.id data.messageId).Aligned := by
  obtain ⟨joined,user,_⟩ := conversationMember_ok found
  obtain ⟨stored,_,home⟩ := ChatDatabase.membersOf_iff.mp joined
  have accounts : (db.withSeen member.id data.messageId).members.map ConversationMember.account =
      db.members.map ConversationMember.account := by
    have frame : ∀ cm : ConversationMember, ConversationMember.account
        { cm with lastSeenMessageId := some data.messageId } = cm.account := fun _ => rfl
    exact map_amend frame _
  have wrote : ∀ m userId, (db.withSeen member.id data.messageId).wrote userId m =
      db.wrote userId m := fun m userId => ChatDatabase.wrote_frame accounts rfl userId
  obtain ⟨seen,is⟩ := Option.isSome_iff_exists.mp known
  intro cm' mem' m mem here visible
  rw [ChatDatabase.unreadBy, wrote]
  rcases mem_amend.mp mem' with ⟨cm,old,hit,rfl⟩ | ⟨old,_⟩
  · have own : cm = member := keyed_unique seated.members old stored (of_decide_eq_true hit)
    have visible : db.visibleTo cm.userId m = true := visible
    have here : m.conversationId = data.conversationId := here.trans (own ▸ home)
    rw [own, user] at visible
    have divides := alike seen is m mem here visible
    have same : (db.withSeen member.id data.messageId).message = db.message := rfl
    simp only [same, Option.all_some, Option.bind_some, is]
    rw [own, user]
    cases mine : db.wrote actor m with
    | true =>
      rw [mine, if_pos rfl] at divides
      simpa using divides
    | false =>
      rw [mine, if_neg Bool.false_ne_true] at divides
      simp [divides]
  · exact aligned cm' old m mem here visible

/-- A conversation that is taken back loses its place in the lists, and nothing else. -/
theorem aligned_removed (aligned : db.Aligned) (conversationId : Uuid) (now : Time) :
    (db.removeConversation conversationId now).2.Aligned := by
  apply aligned.frame
  · have frame : ∀ cm : ConversationMember, ConversationMember.account
        { cm with deletedAt := some now } = cm.account := fun _ => rfl
    exact map_amend frame _
  · intro cm' mem'
    rcases mem_amend.mp mem' with ⟨cm,old,_,rfl⟩ | ⟨old,_⟩
    · exact ⟨cm,old,rfl,rfl⟩
    · exact ⟨cm',old,rfl,rfl⟩
  · rfl
  · intro m mem userId visible
    exact ⟨m,mem,rfl,visible⟩

theorem aligned_updateMessage (aligned : db.Aligned) (id : Uuid) (text : JsString)
    (editedAt : Option Time) (updatedAt : Time) :
    (db.updateMessage id text editedAt updatedAt).Aligned := by
  apply aligned.frame
  · rfl
  · intro cm mem
    exact ⟨cm,mem,rfl,rfl⟩
  · exact ChatDatabase.origin_updateMessage ..
  · intro m' mem' userId visible
    rcases mem_amend.mp mem' with ⟨m,old,_,rfl⟩ | ⟨old,_⟩
    · exact ⟨m,old,rfl,visible⟩
    · exact ⟨m',old,rfl,visible⟩

/-- Every operation keeps the views aligned, if it is no send of an older message and no mark
    that tells the messages apart otherwise than by their dates. -/
theorem aligned_effect (effect : Effect users amb actor db operation db' events)
    (aligned : db.Aligned) (sound : db.Sound) (stored : db.SeenStored)
    (unused : ChatDatabase.Unused amb db) (newer : ChatDatabase.Newer amb db)
    (sends : ∀ data, operation = .sendMessage data →
      db.SendsLater amb.now actor data.conversationId)
    (marks : ∀ data, operation = .markMessageSeen data → db.MarksAlike actor data) :
    db'.Aligned := by
  cases effect with
  | nothing => exact aligned
  | @opened data member message event _ _ _ inserts =>
    obtain ⟨id,_,there,_⟩ := inserts.fields
    have opened := aligned_withConversation aligned sound unused actor data.targetUserId
    have sound' := sound_withConversation unused sound actor data.targetUserId
    apply aligned_withMessage opened sound'.seated (seenStored_withConversation stored _ _) inserts
    · rw [id]
      exact newer 4
    · have empty : ∀ m ∈ db.messages, m.conversationId ≠ amb.uuid 0 := by
        intro m mem here
        obtain ⟨sender,known,_,home⟩ := sound.filed.senders m mem
        exact unused.absent sound.seated 0 sender known (home.trans here)
      constructor
      · intro m mem here
        exact absurd here (empty m mem)
      · intro cm mem here _ seen is
        rcases List.mem_append.mp mem with old | new
        · exact absurd here (unused.absent sound.seated 0 cm old)
        · rcases mem_newMembers new with rfl | ⟨_,rfl⟩ <;> cases is
  | @rolledBack data =>
    exact aligned_removed (aligned_withConversation aligned sound unused actor data.targetUserId)
      (amb.uuid 0) amb.now
  | @sent data target member message event _ _ _ _ inserts =>
    obtain ⟨id,_⟩ := inserts.fields
    obtain ⟨_,user,_⟩ := conversationMember_ok inserts.seated
    have user : member.userId = actor := user
    apply aligned_withMessage aligned sound.seated stored inserts
    · rw [id]
      exact newer 0
    · rw [user]
      exact sends data rfl
  | edited => exact aligned_updateMessage aligned _ _ _ _
  | @deleted data member m deleted _ found _ deletes =>
    obtain ⟨memm,_⟩ := lookup_mem found
    obtain ⟨its,_,gone⟩ := delete_row deletes
    have members := ChatDatabase.storeDeletion_members sound.seated.members deleted.1.deletion
    have frame : ∀ cm, (db.movePointer deleted.1.deletion cm).account = cm.account := fun _ => rfl
    apply aligned.frame
    · rw [members, map_amend frame]
    · intro cm' mem'
      rw [members] at mem'
      rcases mem_amend.mp mem' with ⟨cm,old,_,rfl⟩ | ⟨old,_⟩
      · exact ⟨cm,old,rfl,rfl⟩
      · exact ⟨cm',old,rfl,rfl⟩
    · exact ChatDatabase.origin_storeDeletion ..
    · intro m' mem' userId visible
      simp only [ChatDatabase.visibleTo, ChatDatabase.deletedFor_storeDeletion, Bool.not_or,
        Bool.and_eq_true] at visible
      rcases mem_amend.mp mem' with ⟨old,memold,hit,rfl⟩ | ⟨memold,_⟩
      · have same : old = m := keyed_unique sound.filed.messages memold memm
          ((of_decide_eq_true hit).trans its)
        have live : deleted.1.deletion.deletedAt = none := Option.isNone_iff_eq_none.mp visible.1
        refine ⟨old,memold,rfl,?_⟩
        have kept : (!db.deletedFor userId old.id) = true := visible.2.2
        rw [ChatDatabase.visibleTo, kept, same, gone live]
        rfl
      · refine ⟨m',memold,rfl,?_⟩
        rw [ChatDatabase.visibleTo, visible.1]
        exact visible.2.2
  | @marked data member found known =>
    exact aligned_withSeen aligned sound.seated found known (marks data rfl)

end Effects

/-- No send stores an older message, and no mark tells the messages apart otherwise than by their
    dates and authors. -/
def Turn.KeepsViews (w : ChatWorld) : Turn → Prop
  | .request amb authUserId (.sendMessage data) =>
      w.chat.SendsLater amb.now authUserId data.conversationId
  | .request _ authUserId (.markMessageSeen data) => w.chat.MarksAlike authUserId data
  | _ => True

section Session
variable {ilike : JsString → JsString → Bool} {w : ChatWorld}

theorem aligned_turn {turn : Turn}
    (ok : (w.chat.Sound ∧ w.chat.SeenStored) ∧ w.chat.Aligned)
    (step : turn.Allowed w ∧ turn.Newer w ∧ turn.KeepsViews w) :
    ((turn.run ilike w).chat.Sound ∧ (turn.run ilike w).chat.SeenStored) ∧
      (turn.run ilike w).chat.Aligned := by
  obtain ⟨⟨sound,stored⟩,aligned⟩ := ok
  obtain ⟨allowed,newer,keeps⟩ := step
  refine ⟨seenStored_turn ⟨sound,stored⟩ allowed,?_⟩
  cases turn with
  | request amb actor operation =>
    have effect := effect_of_sound ilike actor operation sound allowed
    apply aligned_effect effect aligned sound stored allowed newer
    · intro data is
      rw [is] at keeps
      exact keeps
    · intro data is
      rw [is] at keeps
      exact keeps
  | elsewhere users => exact aligned

end Session

/-- In a session in which every message is newer by its date than what its readers have seen,
    and every mark leaves the user none of his own messages and those that were created later,
    the two views agree in every state and for every member. -/
theorem views_agree {ilike : JsString → JsString → Bool} {w : ChatWorld} {turns : List Turn}
    (empty : w.chat = ⟨[],[],[],[]⟩)
    (along : Turn.Along ilike
      (fun w turn => turn.Allowed w ∧ turn.Newer w ∧ turn.KeepsViews w) turns w)
    {viewer conversationId : Uuid}
    (member : (Turn.runAll ilike turns w).chat.isMember conversationId viewer = true) :
    (Turn.runAll ilike turns w).ViewsAgree ilike viewer conversationId := by
  have start : (w.chat.Sound ∧ w.chat.SeenStored) ∧ w.chat.Aligned := by
    rw [empty]
    refine ⟨⟨ChatDatabase.sound_empty,by simp [ChatDatabase.SeenStored]⟩,?_⟩
    intro cm mem
    cases mem
  have final := along.invariant (fun _ _ (ok : (ChatDatabase.Sound _ ∧ ChatDatabase.SeenStored _) ∧
    ChatDatabase.Aligned _) step => aligned_turn ok step) start
  exact viewsAgree_aligned final.1.1 final.2 member

/-- User 1 writes a second message, and user 2 sees the first. -/
def secondUnseen (now : Time) : List Turn :=
  [opening, .request { numberedDraws 2 with now } 1 (.sendMessage ⟨100,[121, 111],none,none⟩),
    .request (numberedDraws 3) 2 (.markMessageSeen ⟨100,104⟩)]

theorem unused_later {db : ChatDatabase} {amb : Ambient} (unused : ChatDatabase.Unused amb db)
    (now : Time) : ChatDatabase.Unused { amb with now } db :=
  ⟨unused.injective,unused.conversations,unused.members,unused.messages⟩

/-- A second later both views count the second message. -/
theorem views_agree_second : (Turn.runAll noMatch (secondUnseen 2000) emptyWorld).ViewsAgree
    noMatch 2 100 := by
  have alike : (Turn.runAll noMatch ((secondUnseen 2000).take 2) emptyWorld).chat.MarksAlike 2
      ⟨100,104⟩ := by
    intro seen is
    cases is
    decide
  have later : (Turn.runAll noMatch [opening] emptyWorld).chat.SendsLater 2000 1 100 := by
    refine ⟨by decide,?_⟩
    have unseen : ∀ cm ∈ (Turn.runAll noMatch [opening] emptyWorld).chat.members,
        cm.conversationId = 100 → cm.userId ≠ 1 → cm.lastSeenMessageId = none := by decide
    intro cm mem here other seen is
    rw [unseen cm mem here other] at is
    cases is
  have along : Turn.Along noMatch (fun w turn => turn.Allowed w ∧ turn.Newer w ∧ turn.KeepsViews w)
      (secondUnseen 2000) emptyWorld :=
    ⟨⟨unused_numberedDraws (by decide) (by decide) (by decide),
        newer_numberedDraws (by decide),trivial⟩,
      ⟨unused_later (unused_numberedDraws (by decide) (by decide) (by decide)) 2000,
        newer_numberedDraws (by decide),later⟩,
      ⟨unused_numberedDraws (by decide) (by decide) (by decide),
        newer_numberedDraws (by decide),alike⟩,trivial⟩
  exact views_agree rfl along (by decide)

/-- The conversation list counts a message that the user has written himself, and one of the
    same millisecond as the message he has seen; the message list does neither. -/
theorem views_differ :
    (Turn.Along noMatch (fun w turn => turn.Allowed w ∧ turn.Newer w) rereading emptyWorld ∧
      ¬ (Turn.runAll noMatch rereading emptyWorld).ViewsAgree noMatch 1 100) ∧
    Turn.Along noMatch (fun w turn => turn.Allowed w ∧ turn.Newer w) (secondUnseen 1000)
      emptyWorld ∧
    ¬ (Turn.runAll noMatch (secondUnseen 1000) emptyWorld).ViewsAgree noMatch 2 100 := by
  have own : Turn.Along noMatch (fun w turn => turn.Allowed w ∧ turn.Newer w) rereading
      emptyWorld :=
    ⟨⟨unused_numberedDraws (by decide) (by decide) (by decide),newer_numberedDraws (by decide)⟩,
      ⟨unused_numberedDraws (by decide) (by decide) (by decide),newer_numberedDraws (by decide)⟩,
      ⟨unused_numberedDraws (by decide) (by decide) (by decide),newer_numberedDraws (by decide)⟩,
      trivial⟩
  have together : Turn.Along noMatch (fun w turn => turn.Allowed w ∧ turn.Newer w)
      (secondUnseen 1000) emptyWorld :=
    ⟨⟨unused_numberedDraws (by decide) (by decide) (by decide),newer_numberedDraws (by decide)⟩,
      ⟨unused_later (unused_numberedDraws (by decide) (by decide) (by decide)) 1000,
        newer_numberedDraws (by decide)⟩,
      ⟨unused_numberedDraws (by decide) (by decide) (by decide),newer_numberedDraws (by decide)⟩,
      trivial⟩
  have sound : ∀ turns, Turn.Along noMatch (fun w turn => turn.Allowed w ∧ turn.Newer w) turns
      emptyWorld → (Turn.runAll noMatch turns emptyWorld).chat.Sound := by
    intro turns along
    exact along.invariant (fun _ _ (ok : ChatDatabase.Sound _) step => sound_turn ok step.1)
      ChatDatabase.sound_empty
  have first := @viewsAgree_iff (Turn.runAll noMatch rereading emptyWorld) 1 100
    ⟨102,1,100,some 104,some 200,1000,none⟩ noMatch (sound _ own) (by decide) rfl
  have second := @viewsAgree_iff (Turn.runAll noMatch (secondUnseen 1000) emptyWorld) 2 100
    ⟨103,2,100,some 104,some 200,1000,none⟩ noMatch (sound _ together) (by decide) rfl
  refine ⟨⟨own,?_⟩,together,?_⟩
  · rw [first]
    decide
  · rw [second]
    decide

end Chatterbox
