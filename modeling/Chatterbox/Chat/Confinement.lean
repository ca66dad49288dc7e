import Chatterbox.Chat.Replies

/-!
What keeps the conversations apart: whatever goes on at once, every message lies in a stored
conversation, quotes a message of its own conversation, and is the last message of member
rows of its own conversation only. Sequences of operations keep it so.
-/
namespace Chatterbox
open Concurrency Tables

namespace ChatDatabase

structure Confined (db : ChatDatabase) : Prop where
  conversations : Keyed Conversation.id db.conversations
  members : Keyed ConversationMember.id db.members
  messages : Keyed Message.id db.messages
  homes : ∀ m ∈ db.messages, m.conversationId ∈ db.conversations.map Conversation.id
  quotes : ∀ m ∈ db.messages, db.Names m.conversationId m.replyToMessageId
  last : db.PointsHome ConversationMember.lastMessageId

/-- The row that a pointer into a conversation finds. -/
theorem Names.found {db : ChatDatabase} {conversationId : Uuid} {pointer : Option Uuid}
    (names : db.Names conversationId pointer) (keyed : Keyed Message.id db.messages)
    {m : Message} (found : pointer.bind db.message = some m) :
    m.conversationId = conversationId := by
  obtain ⟨id,rfl,read⟩ := Option.bind_eq_some_iff.mp found
  obtain ⟨stored,named⟩ := lookup_mem read
  obtain ⟨m',stored',named',here⟩ := names id rfl
  rwa [keyed_unique keyed stored stored' (named.trans named'.symm)]

/-- Only what is written once in a message counts, and the pointers. -/
theorem Confined.frame {db db' : ChatDatabase} (confined : db.Confined)
    (conversations : db'.conversations = db.conversations) (origins : db'.origins = db.origins)
    (members : db'.members.map ConversationMember.identity =
      db.members.map ConversationMember.identity)
    (last : db'.PointsHome ConversationMember.lastMessageId) : db'.Confined := by
  refine ⟨conversations ▸ confined.conversations,?_,?_,fun m mem => ?_,fun m mem => ?_,last⟩
  · exact keyed_of_identity members confined.members
  · unfold Keyed
    rw [ids_of_origins, origins, ← ids_of_origins]
    exact confined.messages
  · obtain ⟨old,stored,same⟩ := same_row origins mem
    obtain ⟨_,_,home,_⟩ := origin_inj same
    rw [conversations, ← home]
    exact confined.homes old stored
  · obtain ⟨old,stored,same⟩ := same_row origins mem
    obtain ⟨_,_,home,reply⟩ := origin_inj same
    rw [← home, ← reply]
    exact (confined.quotes old stored).later (origins ▸ List.Subset.refl _)

end ChatDatabase

section Statements
variable {β : Type} {s : ChatWorld}

/-- No statement breaks a key, and none forgets a conversation. -/
theorem keyed_answer (q : ChatRequest β) (conversations : Keyed Conversation.id s.chat.conversations)
    (members : Keyed ConversationMember.id s.chat.members) :
    Keyed Conversation.id (chatHandler.answer q s).2.chat.conversations ∧
      Keyed ConversationMember.id (chatHandler.answer q s).2.chat.members ∧
      s.chat.conversations.map Conversation.id ⊆
        (chatHandler.answer q s).2.chat.conversations.map Conversation.id := by
  have unchanged : q.writes = false →
      Keyed Conversation.id (chatHandler.answer q s).2.chat.conversations ∧
        Keyed ConversationMember.id (chatHandler.answer q s).2.chat.members ∧
        s.chat.conversations.map Conversation.id ⊆
          (chatHandler.answer q s).2.chat.conversations.map Conversation.id := by
    intro reads
    rw [chat_of_reads reads]
    exact ⟨conversations,members,List.Subset.refl _⟩
  cases writes : q.writes with
  | false => exact unchanged writes
  | true =>
    cases q with
    | user q => cases writes
    | bus q => cases writes
    | store q =>
      cases q with
      | commitMessage message deleted copies =>
        change Keyed Conversation.id (s.chat.storeMessage message deleted copies).2.conversations ∧
          Keyed ConversationMember.id (s.chat.storeMessage message deleted copies).2.members ∧
          s.chat.conversations.map Conversation.id ⊆
            (s.chat.storeMessage message deleted copies).2.conversations.map Conversation.id
        cases stores : s.chat.storeMessage message deleted copies with
        | mk r stored =>
          cases r with
          | error e =>
            rw [s.chat.storeMessage_error stores]
            exact ⟨conversations,members,List.Subset.refl _⟩
          | ok u =>
            obtain ⟨_,_,rfl⟩ := s.chat.storeMessage_ok stores
            exact ⟨conversations,keyed_saveAll members,List.Subset.refl _⟩
      | updateMessage => exact ⟨conversations,members,List.Subset.refl _⟩
      | commitDeletion => exact ⟨conversations,keyed_saveAll members,List.Subset.refl _⟩
      | commitConversation conversation copies =>
        change Keyed Conversation.id (s.chat.storeConversation conversation copies).2.conversations ∧
          Keyed ConversationMember.id (s.chat.storeConversation conversation copies).2.members ∧
          s.chat.conversations.map Conversation.id ⊆
            (s.chat.storeConversation conversation copies).2.conversations.map Conversation.id
        cases stores : s.chat.storeConversation conversation copies with
        | mk r stored =>
          cases r with
          | error e =>
            rw [s.chat.storeConversation_error stores]
            exact ⟨conversations,members,List.Subset.refl _⟩
          | ok rows =>
            obtain ⟨_,rfl,_⟩ := s.chat.storeConversation_ok stores
            refine ⟨keyed_save conversations,keyed_saveAll members,fun id known => ?_⟩
            obtain ⟨c,mem,rfl⟩ := List.mem_map.mp known
            by_cases same : c.id = conversation.id
            · exact List.mem_map.mpr ⟨conversation,mem_save.mpr (Or.inl rfl),same.symm⟩
            · exact List.mem_map.mpr ⟨c,mem_save.mpr (Or.inr ⟨mem,same⟩),rfl⟩
      | deleteConversation id now =>
        have conversation : ∀ c : Conversation,
            Conversation.id { c with deletedAt := some now } = c.id := fun _ => rfl
        have member : ∀ m : ConversationMember,
            ConversationMember.id { m with deletedAt := some now } = m.id := fun _ => rfl
        refine ⟨keyed_amend conversations conversation,keyed_amend members member,?_⟩
        change _ ⊆ (amend _ _ s.chat.conversations).map Conversation.id
        rw [map_amend conversation]
        exact List.Subset.refl _
      | _ => cases writes

end Statements

section Pool
variable {ι : Type} [DecidableEq ι] {ilike : JsString → JsString → Bool}
  {activities : ι → Activity} {ambs : ι → Ambient} {w : ChatWorld} {schedule : List ι}

/-- The tables after these steps, against what the steps have met. -/
structure InPlace (past : List (Issued ChatRequest ChatWorld ι)) (s : ChatWorld) : Prop where
  conversations : Keyed Conversation.id s.chat.conversations
  members : Keyed ConversationMember.id s.chat.members
  homes : ∀ m ∈ s.chat.messages, m.conversationId ∈ s.chat.conversations.map Conversation.id
  quotes : QuotesBack s.chat
  last : s.chat.PointsHome ConversationMember.lastMessageId
  loaded : ∀ e ∈ past, e.before.chat.PointsHome ConversationMember.lastMessageId ∧
    e.before.chat.conversations.map Conversation.id ⊆ s.chat.conversations.map Conversation.id

theorem inPlace_step (distinct : Distinct ambs)
    {before later : List (Issued ChatRequest ChatWorld ι)} {e : Issued ChatRequest ChatWorld ι}
    (cut : (activityPool ilike activities ambs w).trace chatHandler schedule =
      before ++ e :: later)
    (grown : Grown ambs before e.before) (inPlace : InPlace before e.before) :
    InPlace (before ++ [e]) (chatHandler.answer e.request e.before).2 := by
  obtain ⟨conversations,members,known⟩ := keyed_answer e.request inPlace.conversations
    inPlace.members
  obtain ⟨after,origins⟩ := grown_step distinct cut grown
  refine ⟨conversations,members,fun m mem => ?_,quotesBack_step distinct cut grown inPlace.quotes,
    ?_,?_⟩
  · have stored : m.origin ∈ (chatHandler.answer e.request e.before).2.chat.origins :=
      List.mem_map_of_mem mem
    have old : m.origin ∈ e.before.chat.origins → m.conversationId ∈
        (chatHandler.answer e.request e.before).2.chat.conversations.map Conversation.id := by
      intro old
      obtain ⟨m',mem',same⟩ := List.mem_map.mp old
      obtain ⟨_,_,home,_⟩ := ChatDatabase.origin_inj same
      exact known (home ▸ inPlace.homes m' mem')
    rcases origins with same | ⟨m',appends⟩
    · exact old (same ▸ stored)
    · rw [appends.grown] at stored
      rcases List.mem_append.mp stored with first | new
      · exact old first
      · obtain ⟨_,_,home,_⟩ := ChatDatabase.origin_inj (List.mem_singleton.mp new)
        obtain ⟨load,own,placed⟩ := appends.placed
        rw [home]
        exact known ((inPlace.loaded load (List.mem_of_mem_filter own)).2 placed)
  · rcases activityStep_at cut with plain | ⟨actor,operation,is,step⟩
    · rw [chat_of_reads (writes_of_plain plain)]
      exact inPlace.last
    · refine pointsHome_step pointerColumn_last step (after.kept e (by simp)).subset
        (fun load own => ?_) (fun _ _ _ _ _ _ => Or.inl fun _ => rfl) inPlace.last
      have mem := List.mem_of_mem_filter own
      exact ⟨(inPlace.loaded load mem).1,(grown.kept load mem).subset⟩
  · intro f mem
    rcases List.mem_append.mp mem with old | now
    · exact ⟨(inPlace.loaded f old).1,List.Subset.trans (inPlace.loaded f old).2 known⟩
    · rw [List.mem_singleton.mp now]
      exact ⟨inPlace.last,known⟩

theorem confined_run (distinct : Distinct ambs) (empty : w.chat = ⟨[],[],[],[]⟩) :
    ((activityPool ilike activities ambs w).run chatHandler schedule).state.chat.Confined := by
  have start : InPlace ([] : List (Issued ChatRequest ChatWorld ι)) w := by
    constructor
    · rw [empty]
      exact List.nodup_nil
    · rw [empty]
      exact List.nodup_nil
    · simp [empty]
    · rw [empty]
      exact .nil
    · simp [ChatDatabase.PointsHome, empty]
    · simp
  obtain ⟨grown,inPlace⟩ := activity_run distinct empty InPlace start
    (fun before e later cut grown inPlace => inPlace_step distinct cut grown inPlace)
  refine ⟨inPlace.conversations,inPlace.members,grown.keyed,inPlace.homes,fun m mem id is => ?_,
    inPlace.last⟩
  obtain ⟨before,after,cut⟩ := List.append_of_mem mem
  obtain ⟨quoted,old,rest⟩ := (repliesBack_of_origins grown.keyed inPlace.quotes).earlier before m
    after cut id is
  exact ⟨quoted,cut ▸ List.mem_append_left _ old,rest⟩

end Pool

/-- The server comes to this world from empty tables, with any number of activities at once. -/
def ChatWorld.Reachable (ilike : JsString → JsString → Bool) (w : ChatWorld) : Prop :=
  ∃ (activities : ℕ → Activity) (ambs : ℕ → Ambient) (start : ChatWorld) (schedule : List ℕ),
    Distinct ambs ∧ start.chat = ⟨[],[],[],[]⟩ ∧
      w = ((activityPool ilike activities ambs start).run chatHandler schedule).state

theorem confined_reachable {ilike : JsString → JsString → Bool} {w : ChatWorld}
    (reached : w.Reachable ilike) : w.chat.Confined := by
  obtain ⟨activities,ambs,start,schedule,distinct,empty,rfl⟩ := reached
  exact confined_run distinct empty

section Sessions
variable {users : UserDatabase} {amb : Ambient} {actor : Uuid} {db db' : ChatDatabase}
  {operation : ChatOperation} {events : List MessageEvent}

theorem confined_withConversation (unused : ChatDatabase.Unused amb db) (confined : db.Confined)
    (userId targetUserId : Uuid) : (db.withConversation amb userId targetUserId).Confined := by
  refine ⟨keyed_snoc confined.conversations (unused.conversations 0),
    keyed_withConversation unused confined.members _ _,confined.messages,fun m mem => ?_,
    confined.quotes,fun cm mem => ?_⟩
  · change m.conversationId ∈ (db.conversations ++ [_]).map Conversation.id
    rw [List.map_append]
    exact List.mem_append_left _ (confined.homes m mem)
  · rcases List.mem_append.mp mem with old | new
    · exact confined.last cm old
    · rcases mem_newMembers new with rfl | ⟨_,rfl⟩
      · exact ChatDatabase.names_none _
      · exact ChatDatabase.names_none _

theorem confined_removed (confined : db.Confined) (conversationId : Uuid) (now : Time) :
    (db.removeConversation conversationId now).2.Confined := by
  have conversation : ∀ c : Conversation,
      Conversation.id { c with deletedAt := some now } = c.id := fun _ => rfl
  have member : ∀ m : ConversationMember,
      ConversationMember.id { m with deletedAt := some now } = m.id := fun _ => rfl
  refine ⟨keyed_amend confined.conversations conversation,keyed_amend confined.members member,
    confined.messages,fun m mem => ?_,confined.quotes,fun cm mem => ?_⟩
  · change m.conversationId ∈ (amend _ _ db.conversations).map Conversation.id
    rw [map_amend conversation]
    exact confined.homes m mem
  · rcases mem_amend.mp mem with ⟨old,stored,_,rfl⟩ | ⟨stored,_⟩
    · exact confined.last old stored
    · exact confined.last cm stored

theorem confined_withMessage {command : CreateMessageCommand} {member : ConversationMember}
    {message : MessageEntity} {event : MessageCreatedDomainEvent}
    (sends : Inserts amb command db member message event)
    (unused : amb.uuid 0 ∉ db.messages.map Message.id) (confined : db.Confined) :
    (db.withMessage message).Confined := by
  obtain ⟨id,_,home,_,_,_,reply,_⟩ := sends.fields
  obtain ⟨_,_,placed⟩ := conversationMember_ok sends.seated
  have kept : db.origins ⊆ (db.withMessage message).origins := by
    rw [ChatDatabase.origins, ChatDatabase.origins, ChatDatabase.withMessage, List.map_append]
    exact List.subset_append_left _ _
  refine ⟨confined.conversations,
    keyed_of_identity (ChatDatabase.identity_withMessage message) confined.members,
    keyed_snoc confined.messages ?_,fun m mem => ?_,fun m mem => ?_,fun cm mem => ?_⟩
  · change message.id ∉ db.messages.map Message.id
    rwa [id]
  · rcases List.mem_append.mp mem with old | new
    · exact confined.homes m old
    · rw [List.mem_singleton.mp new]
      change message.conversationId ∈ db.conversations.map Conversation.id
      rwa [home]
  · rcases List.mem_append.mp mem with old | new
    · exact (confined.quotes m old).later kept
    · rw [List.mem_singleton.mp new]
      intro q quotes
      obtain ⟨parent,stored,is,there,_⟩ := ChatDatabase.Inserts.parent sends (reply.symm.trans quotes)
      exact ⟨parent,List.mem_append_left _ stored,is,there.trans home.symm⟩
  · rcases mem_amend.mp mem with ⟨old,stored,seated,rfl⟩ | ⟨stored,_⟩
    · rcases pointerColumn_last.sent message old with same | own
      · rw [same]
        exact (confined.last old stored).later kept
      · rw [own]
        obtain ⟨_,_,there⟩ := ChatDatabase.membersOf_iff.mp (of_decide_eq_true seated)
        rintro _ ⟨⟩
        exact ⟨Message.fromDomain message,List.mem_append_right _ List.mem_cons_self,rfl,
          there.symm⟩
    · exact (confined.last cm stored).later kept

theorem confined_updateMessage (confined : db.Confined) (id : Uuid) (text : JsString)
    (editedAt : Option Time) (updatedAt : Time) :
    (db.updateMessage id text editedAt updatedAt).Confined := by
  have origins : (db.updateMessage id text editedAt updatedAt).origins = db.origins :=
    ChatDatabase.origin_updateMessage ..
  exact confined.frame rfl origins rfl fun cm mem =>
    (confined.last cm mem).later (origins ▸ List.Subset.refl _)

theorem confined_storeDeletion (confined : db.Confined) (d : MessageDeletion) :
    (db.storeDeletion d (db.movedPointers d)).Confined := by
  have origins : (db.storeDeletion d (db.movedPointers d)).origins = db.origins :=
    ChatDatabase.origin_storeDeletion _ _
  refine confined.frame rfl origins (ChatDatabase.identity_storeDeletion confined.members _)
    fun cm mem => ?_
  rw [ChatDatabase.storeDeletion_members confined.members] at mem
  rcases mem_amend.mp mem with ⟨old,stored,picked,rfl⟩ | ⟨stored,_⟩
  · obtain ⟨seated,_⟩ := List.mem_filter.mp (of_decide_eq_true picked)
    obtain ⟨_,_,there⟩ := ChatDatabase.membersOf_iff.mp seated
    have names : db.Names old.conversationId (db.movePointer d old).lastMessageId := by
      intro id is
      obtain ⟨m',found,rfl⟩ := Option.map_eq_some_iff.mp is
      obtain ⟨row,known,same,here⟩ := latestVisible_row found
      exact ⟨row,known,same,here.trans there.symm⟩
    exact names.later (origins ▸ List.Subset.refl _)
  · exact (confined.last cm stored).later (origins ▸ List.Subset.refl _)

/-- No operation mixes the conversations up. -/
theorem confined_effect (effect : Effect users amb actor db operation db' events)
    (unused : ChatDatabase.Unused amb db) (confined : db.Confined) : db'.Confined := by
  cases effect with
  | nothing => exact confined
  | opened _ _ _ sends =>
    exact confined_withMessage sends (unused.messages 4) (confined_withConversation unused confined _ _)
  | rolledBack => exact confined_removed (confined_withConversation unused confined _ _) _ _
  | sent _ _ _ _ sends => exact confined_withMessage sends (unused.messages 0) confined
  | edited => exact confined_updateMessage confined _ _ _ _
  | deleted => exact confined_storeDeletion confined _
  | @marked data member =>
    refine confined.frame rfl rfl (ChatDatabase.identity_withSeen member.id data.messageId)
      fun cm mem => ?_
    rcases mem_amend.mp mem with ⟨old,stored,_,rfl⟩ | ⟨stored,_⟩
    · exact confined.last old stored
    · exact confined.last cm stored

theorem confined_turn {ilike : JsString → JsString → Bool} {w : ChatWorld} {turn : Turn}
    (confined : w.chat.Confined) (allowed : turn.Allowed w) :
    (turn.run ilike w).chat.Confined := by
  cases turn with
  | request amb authUserId operation =>
    obtain ⟨effect,_⟩ := effect_perform ilike authUserId operation confined.conversations
      confined.members allowed
    exact confined_effect effect allowed confined
  | elsewhere users => exact confined

end Sessions

end Chatterbox
