import Chatterbox.Chat.FrameLaw

/-!
The read position of a member. A send moves the position of its sender to the new message,
which is the newest; a mark as seen moves it to whatever message the client names, also to
an older one.
-/
namespace Chatterbox
open Concurrency Tables

/-- No read position moves back, and none is lost. -/
def ReadsForward (before after : List ConversationMember) : Prop :=
  ∀ cm ∈ before, ∀ cm' ∈ after, cm'.id = cm.id → ∀ a, cm.lastSeenMessageId = some a →
    ∃ b, cm'.lastSeenMessageId = some b ∧ a ≤ b

namespace ChatDatabase

/-- The read positions name stored messages. -/
def SeenStored (db : ChatDatabase) : Prop :=
  ∀ cm ∈ db.members, ∀ a, cm.lastSeenMessageId = some a → a ∈ db.messages.map Message.id

/-- The uuids of an operation are newer than the messages. -/
def Newer (amb : Ambient) (db : ChatDatabase) : Prop :=
  ∀ k, ∀ m ∈ db.messages, m.id < amb.uuid k

/-- The message that a user marks is not older than the last one that he has seen. -/
def MarksForward (db : ChatDatabase) (authUserId : Uuid) (data : MarkMessageSeenRequest) : Prop :=
  ∀ member, db.conversationMember data.conversationId authUserId = .ok member →
    (db.message data.messageId).isSome → ∀ a, member.lastSeenMessageId = some a →
      a ≤ data.messageId

end ChatDatabase

section Rows
variable {rows : List ConversationMember} {p : ConversationMember → Bool}
  {change : ConversationMember → ConversationMember}

theorem readsForward_refl (keyed : Keyed ConversationMember.id rows) : ReadsForward rows rows := by
  intro cm mem cm' mem' same a seen
  obtain rfl := keyed_unique keyed mem mem' same.symm
  exact ⟨a,seen,le_refl a⟩

theorem readsForward_amend (keyed : Keyed ConversationMember.id rows)
    (frame : ∀ cm, (change cm).id = cm.id)
    (forward : ∀ cm ∈ rows, p cm = true → ∀ a, cm.lastSeenMessageId = some a →
      ∃ b, (change cm).lastSeenMessageId = some b ∧ a ≤ b) :
    ReadsForward rows (amend p change rows) := by
  intro cm mem cm' mem' same a seen
  rcases mem_amend.mp mem' with ⟨old,stored,hit,rfl⟩ | ⟨stored,_⟩
  · obtain rfl := keyed_unique keyed mem stored ((frame old).symm.trans same).symm
    exact forward cm mem hit a seen
  · exact readsForward_refl keyed cm mem cm' stored same a seen

/-- New rows have no row before them. -/
theorem readsForward_append (keyed : Keyed ConversationMember.id rows)
    {added : List ConversationMember} (new : ∀ cm ∈ added, cm.id ∉ rows.map ConversationMember.id) :
    ReadsForward rows (rows ++ added) := by
  intro cm mem cm' mem' same
  rcases List.mem_append.mp mem' with old | fresh
  · exact readsForward_refl keyed cm mem cm' old same
  · exact absurd (List.mem_map.mpr ⟨cm,mem,same.symm⟩) (new cm' fresh)

theorem ReadsForward.trans {rows' rows'' : List ConversationMember}
    (stays : ∀ cm ∈ rows, ∃ cm' ∈ rows', cm'.id = cm.id) (first : ReadsForward rows rows')
    (next : ReadsForward rows' rows'') : ReadsForward rows rows'' := by
  intro cm mem cm'' mem'' same a seen
  obtain ⟨cm',mem',same'⟩ := stays cm mem
  obtain ⟨b,seen',ab⟩ := first cm mem cm' mem' same' a seen
  obtain ⟨c,seen'',bc⟩ := next cm' mem' cm'' mem'' (same.trans same'.symm) b seen'
  exact ⟨c,seen'',ab.trans bc⟩

end Rows

section Effects
variable {users : UserDatabase} {amb : Ambient} {actor : Uuid} {db db' : ChatDatabase}
  {operation : ChatOperation} {events : List MessageEvent}

theorem seenStored_withMessage {message : MessageEntity} (stored : db.SeenStored) :
    (db.withMessage message).SeenStored := by
  intro cm mem a seen
  unfold ChatDatabase.withMessage at *
  rw [List.map_append, List.mem_append]
  rcases mem_amend.mp mem with ⟨old,memold,_,rfl⟩ | ⟨memold,_⟩
  · by_cases own : old.id = message.senderId
    · have new : (message.updateMember old).lastSeenMessageId = some message.id := if_pos own
      rw [new, Option.some.injEq] at seen
      exact Or.inr (List.mem_singleton.mpr seen.symm)
    · have same : (message.updateMember old).lastSeenMessageId = old.lastSeenMessageId :=
        if_neg own
      exact Or.inl (stored old memold a (same.symm.trans seen))
  · exact Or.inl (stored cm memold a seen)

theorem seenStored_withConversation (stored : db.SeenStored) (userId targetUserId : Uuid) :
    (db.withConversation amb userId targetUserId).SeenStored := by
  intro cm mem a seen
  rcases List.mem_append.mp mem with old | new
  · exact stored cm old a seen
  · rcases mem_newMembers new with rfl | ⟨_,rfl⟩ <;> cases seen

/-- The messages after a deletion are those before it. -/
theorem ids_storeDeletion (d : MessageDeletion) (members : List ConversationMember) :
    (db.storeDeletion d members).messages.map Message.id = db.messages.map Message.id := by
  have frame : ∀ m : Message, (d.mark m).id = m.id := fun _ => rfl
  exact map_amend frame _

theorem seenStored_effect (effect : Effect users amb actor db operation db' events)
    (members : Keyed ConversationMember.id db.members) (stored : db.SeenStored) :
    db'.SeenStored := by
  cases effect with
  | nothing => exact stored
  | opened => exact seenStored_withMessage (seenStored_withConversation stored _ _)
  | rolledBack =>
    intro cm mem a seen
    rcases mem_amend.mp mem with ⟨old,memold,_,rfl⟩ | ⟨memold,_⟩
    · exact seenStored_withConversation stored _ _ old memold a seen
    · exact seenStored_withConversation stored _ _ cm memold a seen
  | sent => exact seenStored_withMessage stored
  | @edited _ _ _ edited =>
    intro cm mem a seen
    have frame : ∀ m : Message, (m.withText edited.1.text edited.1.editedAt
      edited.1.updatedAt).id = m.id := fun _ => rfl
    change a ∈ (amend _ _ db.messages).map Message.id
    rw [map_amend frame]
    exact stored cm mem a seen
  | deleted =>
    intro cm mem a seen
    rw [ids_storeDeletion]
    rw [ChatDatabase.storeDeletion_members members] at mem
    rcases mem_amend.mp mem with ⟨old,memold,_,rfl⟩ | ⟨memold,_⟩
    · exact stored old memold a seen
    · exact stored cm memold a seen
  | marked _ known =>
    intro cm mem a seen
    rcases mem_amend.mp mem with ⟨old,memold,_,rfl⟩ | ⟨memold,_⟩
    · cases seen
      exact List.mem_map.mpr (lookup_isSome_iff.mp known)
    · exact stored cm memold a seen

theorem readsForward_withMessage (members : Keyed ConversationMember.id db.members)
    {message : MessageEntity} (newest : ∀ m ∈ db.messages, m.id < message.id)
    (stored : db.SeenStored) : ReadsForward db.members (db.withMessage message).members := by
  refine readsForward_amend members (fun _ => rfl) fun cm mem _ a seen => ?_
  by_cases own : cm.id = message.senderId
  · obtain ⟨m,memm,is⟩ := List.mem_map.mp (stored cm mem a seen)
    exact ⟨message.id,if_pos own,is ▸ (newest m memm).le⟩
  · exact ⟨a,(if_neg own).trans seen,le_refl a⟩

theorem readsForward_withConversation (unused : ChatDatabase.Unused amb db)
    (members : Keyed ConversationMember.id db.members) (userId targetUserId : Uuid) :
    ReadsForward db.members (db.withConversation amb userId targetUserId).members := by
  refine readsForward_append members fun cm mem => ?_
  rcases mem_newMembers mem with rfl | ⟨_,rfl⟩
  · exact unused.members 2
  · exact unused.members 3

/-- Every operation moves the read positions forward, if it is a mark of a message that is not
    older. -/
theorem readsForward_effect (effect : Effect users amb actor db operation db' events)
    (unused : ChatDatabase.Unused amb db) (newer : ChatDatabase.Newer amb db)
    (marks : ∀ data, operation = .markMessageSeen data → db.MarksForward actor data)
    (members : Keyed ConversationMember.id db.members) (stored : db.SeenStored) :
    ReadsForward db.members db'.members := by
  have kept : ∀ userId targetUserId, ∀ cm ∈ db.members,
      ∃ cm' ∈ (db.withConversation amb userId targetUserId).members, cm'.id = cm.id :=
    fun _ _ cm mem => ⟨cm,List.mem_append_left _ mem,rfl⟩
  have opened := fun userId targetUserId =>
    readsForward_withConversation unused members userId targetUserId
  have keyed := fun userId targetUserId =>
    keyed_withConversation unused members userId targetUserId
  cases effect with
  | nothing => exact readsForward_refl members
  | opened _ _ _ sends =>
    obtain ⟨id,_⟩ := sends.fields
    refine (opened _ _).trans (kept _ _) (readsForward_withMessage (keyed _ _) ?_
      (seenStored_withConversation stored _ _))
    rw [id]
    exact newer 4
  | rolledBack =>
    exact (opened _ _).trans (kept _ _) (readsForward_amend (keyed _ _) (fun _ => rfl)
      fun _ _ _ a seen => ⟨a,seen,le_refl a⟩)
  | sent _ _ _ _ sends =>
    obtain ⟨id,_⟩ := sends.fields
    refine readsForward_withMessage members ?_ stored
    rw [id]
    exact newer 0
  | edited => exact readsForward_refl members
  | deleted =>
    rw [ChatDatabase.storeDeletion_members members]
    exact readsForward_amend members (fun _ => rfl) fun _ _ _ a seen => ⟨a,seen,le_refl a⟩
  | @marked data member seated known =>
    refine readsForward_amend members (fun _ => rfl) fun cm mem hit a seen => ?_
    obtain ⟨joined,_,_⟩ := conversationMember_ok seated
    obtain rfl := keyed_unique members mem (ChatDatabase.membersOf_iff.mp joined).1
      (of_decide_eq_true hit)
    exact ⟨data.messageId,rfl,marks data rfl cm seated known a seen⟩

end Effects

namespace Turn

/-- The uuids of an operation are newer than the messages. -/
def Newer (w : ChatWorld) : Turn → Prop
  | request amb _ _ => ChatDatabase.Newer amb w.chat
  | elsewhere _ => True

def MarksForward (w : ChatWorld) : Turn → Prop
  | request _ authUserId (.markMessageSeen data) => w.chat.MarksForward authUserId data
  | _ => True

def ReadsForward (ilike : JsString → JsString → Bool) (w : ChatWorld) (turn : Turn) : Prop :=
  Chatterbox.ReadsForward w.chat.members (turn.run ilike w).chat.members

end Turn

section Session
variable {ilike : JsString → JsString → Bool} {w : ChatWorld}

theorem seenStored_turn {turn : Turn} (ok : w.chat.Sound ∧ w.chat.SeenStored)
    (allowed : turn.Allowed w) :
    (turn.run ilike w).chat.Sound ∧ (turn.run ilike w).chat.SeenStored := by
  refine ⟨sound_turn ok.1 allowed,?_⟩
  cases turn with
  | request amb actor operation =>
    exact seenStored_effect (effect_of_sound ilike actor operation ok.1 allowed) ok.1.seated.members ok.2
  | elsewhere users => exact ok.2

theorem readsForward_turn {turn : Turn} (ok : w.chat.Sound ∧ w.chat.SeenStored)
    (allowed : turn.Allowed w) (newer : turn.Newer w) (marks : turn.MarksForward w) :
    turn.ReadsForward ilike w := by
  cases turn with
  | request amb actor operation =>
    refine readsForward_effect (effect_of_sound ilike actor operation ok.1 allowed) allowed newer ?_
      ok.1.seated.members ok.2
    rintro data rfl
    exact marks
  | elsewhere users => exact readsForward_refl ok.1.seated.members

end Session

/-- In a session in which every mark names a message that is not older than the last one seen, no
    read position moves back. -/
theorem reads_forward {ilike : JsString → JsString → Bool} {w : ChatWorld} {turns : List Turn}
    (empty : w.chat = ⟨[],[],[],[]⟩)
    (along : Turn.Along ilike
      (fun w turn => turn.Allowed w ∧ turn.Newer w ∧ turn.MarksForward w) turns w) :
    Turn.Along ilike (Turn.ReadsForward ilike) turns w := by
  have start : w.chat.Sound ∧ w.chat.SeenStored := by
    rw [empty]
    exact ⟨ChatDatabase.sound_empty,by simp [ChatDatabase.SeenStored]⟩
  exact along.derive (fun _ _ (ok : ChatDatabase.Sound _ ∧ ChatDatabase.SeenStored _) step =>
      seenStored_turn ok step.1)
    (fun _ _ ok step => readsForward_turn ok step.1 step.2.1 step.2.2) start

theorem newer_numberedDraws {db : ChatDatabase} {n : Nat}
    (messages : ∀ m ∈ db.messages, m.id < 100 * n) : ChatDatabase.Newer (numberedDraws n) db :=
  fun k m mem => (messages m mem).trans_le (Nat.le_add_right _ k)

/-- User 1 writes a second message, and user 2 sees it. -/
theorem reads_forward_in_turn : Turn.Along noMatch (Turn.ReadsForward noMatch)
    [opening, .request (numberedDraws 2) 1 (.sendMessage ⟨100,[121, 111],none,none⟩),
      .request (numberedDraws 3) 2 (.markMessageSeen ⟨100,200⟩)] emptyWorld := by
  have unseen : ∀ cm ∈ (Turn.runAll noMatch [opening,
      .request (numberedDraws 2) 1 (.sendMessage ⟨100,[121, 111],none,none⟩)]
      emptyWorld).chat.members, cm.userId = 2 → cm.lastSeenMessageId = none := by decide
  refine reads_forward rfl ⟨⟨unused_numberedDraws (by decide) (by decide) (by decide),
      newer_numberedDraws (by decide),trivial⟩,
    ⟨unused_numberedDraws (by decide) (by decide) (by decide),newer_numberedDraws (by decide),
      trivial⟩,
    ⟨unused_numberedDraws (by decide) (by decide) (by decide),newer_numberedDraws (by decide),
      fun member seated _ a seen => ?_⟩,trivial⟩
  obtain ⟨joined,user,_⟩ := conversationMember_ok seated
  have none := unseen member (ChatDatabase.membersOf_iff.mp joined).1 user
  rw [none] at seen
  cases seen

/-- User 1 writes a second message, and another device of his then marks the first as seen. -/
def rereading : List Turn :=
  [opening, .request (numberedDraws 2) 1 (.sendMessage ⟨100,[121, 111],none,none⟩),
    .request (numberedDraws 3) 1 (.markMessageSeen ⟨100,104⟩)]

theorem seen_moves_back : Turn.Along noMatch (fun w turn => turn.Allowed w ∧ turn.Newer w)
      rereading emptyWorld ∧
    ¬ Turn.Along noMatch (Turn.ReadsForward noMatch) rereading emptyWorld := by
  refine ⟨⟨⟨unused_numberedDraws (by decide) (by decide) (by decide),
      newer_numberedDraws (by decide)⟩,
    ⟨unused_numberedDraws (by decide) (by decide) (by decide),newer_numberedDraws (by decide)⟩,
    ⟨unused_numberedDraws (by decide) (by decide) (by decide),newer_numberedDraws (by decide)⟩,
    trivial⟩,fun forward => ?_⟩
  obtain ⟨b,seen,later⟩ := forward.2.2.1 ⟨102,1,100,some 200,some 200,1000,none⟩ (by decide)
    ⟨102,1,100,some 104,some 200,1000,none⟩ (by decide) rfl 200 rfl
  cases seen
  exact absurd later (by decide)

end Chatterbox
