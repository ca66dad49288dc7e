import Chatterbox.Chat.Confinement
import Chatterbox.Chat.Openings

/-!
What the server only gains, whatever goes on at once: messages, seats of members in their
conversations, and published events.
-/
namespace Chatterbox
open Concurrency Tables

namespace ChatDatabase
variable {db db' : ChatDatabase} {conversationId userId : Uuid}

def places (db : ChatDatabase) : List (Uuid × Uuid × Uuid) :=
  db.members.map ConversationMember.place

/-- The user has a member row in the conversation, alive or not. -/
def Hosts (db : ChatDatabase) (conversationId userId : Uuid) : Prop :=
  ∃ cm ∈ db.members, cm.conversationId = conversationId ∧ cm.userId = userId

theorem Hosts.later (hosts : db.Hosts conversationId userId) (kept : db.places ⊆ db'.places) :
    db'.Hosts conversationId userId := by
  obtain ⟨cm,mem,here,user⟩ := hosts
  obtain ⟨cm',mem',same⟩ := List.mem_map.mp (kept (List.mem_map_of_mem mem))
  obtain ⟨_,user',here'⟩ := place_inj same
  exact ⟨cm',mem',here'.trans here,user'.trans user⟩

theorem hosts_of_membersOf {cm : ConversationMember} (mem : cm ∈ db.membersOf conversationId) :
    db.Hosts conversationId cm.userId := by
  obtain ⟨stored,_,here⟩ := membersOf_iff.mp mem
  exact ⟨cm,stored,here,rfl⟩

theorem hosts_of_isMember (member : db.isMember conversationId userId = true) :
    db.Hosts conversationId userId := by
  obtain ⟨cm,mem,_,here,user⟩ := isMember_row.mp member
  exact ⟨cm,mem,here,user⟩

/-- A stored message has one conversation. -/
theorem Names.unique {id conversationId' : Uuid} (names : db.Names conversationId (some id))
    (names' : db.Names conversationId' (some id)) (keyed : Keyed Message.id db.messages) :
    conversationId = conversationId' := by
  obtain ⟨m,stored,is,here⟩ := names id rfl
  obtain ⟨m',stored',is',here'⟩ := names' id rfl
  rw [← here, ← here', keyed_unique keyed stored stored' (is.trans is'.symm)]

/-- Copies of rows that are stored leave the places as they are. -/
theorem places_saveAll {copies : List ConversationMember}
    (keyed : Keyed ConversationMember.id db.members) (known : ∀ cm ∈ copies, cm.place ∈ db.places) :
    (saveAll ConversationMember.id copies db.members).map ConversationMember.place = db.places := by
  apply map_saveAll
  · intro cm mem
    obtain ⟨row,stored,same⟩ := List.mem_map.mp (known cm mem)
    exact ⟨row,stored,(place_inj same).1⟩
  · intro cm mem row stored id
    obtain ⟨row',stored',same⟩ := List.mem_map.mp (known cm mem)
    have hit : row.id = row'.id := id.trans (place_inj same).1.symm
    rw [keyed_unique keyed stored stored' hit]
    exact same

end ChatDatabase

/-- The second world has the messages, the seats and the events of the first. -/
structure ChatWorld.Extends (s t : ChatWorld) : Prop where
  origins : s.chat.origins ⊆ t.chat.origins
  places : s.chat.places ⊆ t.chat.places
  published : s.published ⊆ t.published

namespace ChatWorld

theorem Extends.refl (s : ChatWorld) : s.Extends s :=
  ⟨List.Subset.refl _,List.Subset.refl _,List.Subset.refl _⟩

theorem Extends.trans {s t u : ChatWorld} (first : s.Extends t) (next : t.Extends u) :
    s.Extends u :=
  ⟨List.Subset.trans first.origins next.origins,List.Subset.trans first.places next.places,
    List.Subset.trans first.published next.published⟩

end ChatWorld

section Statements
variable {ι : Type} {amb : Ambient} {actor : Uuid} {operation : ChatOperation}
  {past : List (Issued ChatRequest ChatWorld ι)} {β : Type} {q : ChatRequest β} {s : ChatWorld}

theorem published_later (q : ChatRequest β) (s : ChatWorld) :
    s.published ⊆ (chatHandler.answer q s).2.published := by
  cases q with
  | user q => exact List.Subset.refl _
  | store q => exact List.Subset.refl _
  | bus q =>
    cases q with
    | publish event => exact List.subset_append_left _ _
    | broadcast rooms event =>
      change s.published ⊆ (if rooms = [] then s else _ : ChatWorld).published
      split <;> exact List.Subset.refl _

/-- The places after a statement: those from before, and for a new conversation others, with ids
    that the operation has drawn. -/
structure Seats {β : Type} (amb : Ambient) (q : ChatRequest β) (db db' : ChatDatabase) : Prop where
  kept : db.places ⊆ db'.places
  drawn : ∀ cm ∈ db'.members, cm.id ∈ db.members.map ConversationMember.id ∨
    (q.writes = true ∧ ∃ k, cm.id = amb.uuid k)

theorem seats_same {db db' : ChatDatabase} (same : db'.places = db.places) :
    Seats amb q db db' := by
  refine ⟨same ▸ List.Subset.refl _,fun cm mem => Or.inl ?_⟩
  obtain ⟨old,stored,is⟩ := ChatDatabase.same_row same mem
  exact List.mem_map.mpr ⟨old,stored,(ChatDatabase.place_inj is).1⟩

theorem seats_saveAll {db db' : ChatDatabase} {copies : List ConversationMember}
    (keyed : Keyed ConversationMember.id db.members)
    (members : db'.members = saveAll ConversationMember.id copies db.members)
    (known : ∀ cm ∈ copies, cm.place ∈ db.places) : Seats amb q db db' := by
  apply seats_same
  rw [ChatDatabase.places, members]
  exact ChatDatabase.places_saveAll keyed known

theorem seats_step (step : OperationStep amb actor operation past q)
    (keyed : Keyed ConversationMember.id s.chat.members)
    (kept : ∀ load ∈ past, load.before.chat.places ⊆ s.chat.places)
    (fresh : (∀ e ∈ past, e.request.writes = false) →
      ∀ k, amb.uuid k ∉ s.chat.members.map ConversationMember.id) :
    Seats amb q s.chat (chatHandler.answer q s).2.chat := by
  have copy : ∀ load ∈ past, ∀ cm ∈ load.before.chat.members, cm.place ∈ s.chat.places :=
    fun load mem cm stored => kept load mem (List.mem_map_of_mem stored)
  cases step with
  | plain plain =>
    rw [chat_of_reads (writes_of_plain plain)]
    exact seats_same rfl
  | edited => exact seats_same rfl
  | text => exact seats_same rfl
  | @insert message load before =>
    change Seats amb _ s.chat (s.chat.storeMessage _ _ _).2
    cases stores : s.chat.storeMessage (Message.fromDomain message)
        (message.deletedForUserIds.map fun userId => ⟨userId,message.id⟩)
        ((load.before.chat.membersOf message.conversationId).map message.updateMember) with
    | mk r stored =>
      cases r with
      | error e =>
        rw [s.chat.storeMessage_error stores]
        exact seats_same rfl
      | ok u =>
        obtain ⟨_,_,rfl⟩ := s.chat.storeMessage_ok stores
        refine seats_saveAll keyed rfl fun cm mem => ?_
        obtain ⟨row,joined,rfl⟩ := List.mem_map.mp mem
        exact copy load before row (ChatDatabase.membersOf_iff.mp joined).1
  | @deletion data is deletion members loadedWith moved =>
    refine seats_saveAll keyed rfl fun cm mem => ?_
    obtain ⟨load,before,row,stored,last,rfl,_⟩ := moved cm mem
    exact copy load before row stored
  | @opening data is first conversation built =>
    rw [createDirect_rows built]
    change Seats amb _ s.chat (s.chat.storeConversation _ _).2
    cases stores : s.chat.storeConversation (newConversation amb)
        (newMembers amb actor data.targetUserId) with
    | mk r stored =>
      cases r with
      | error e =>
        rw [s.chat.storeConversation_error stores]
        exact seats_same rfl
      | ok rows =>
        obtain ⟨_,rfl,_⟩ := s.chat.storeConversation_ok stores
        have drawn : ∀ cm ∈ newMembers amb actor data.targetUserId, ∃ k, cm.id = amb.uuid k := by
          intro cm mem
          rcases mem_newMembers mem with rfl | ⟨_,rfl⟩
          · exact ⟨2,rfl⟩
          · exact ⟨3,rfl⟩
        refine ⟨fun place mem => ?_,fun cm mem => ?_⟩
        · obtain ⟨cm,old,rfl⟩ := List.mem_map.mp mem
          refine List.mem_map_of_mem (mem_saveAll_other old fun new added same => ?_)
          obtain ⟨k,is⟩ := drawn new added
          exact fresh first k (List.mem_map.mpr ⟨cm,old,same.symm.trans is⟩)
        · rcases mem_of_mem_saveAll mem with new | old
          · exact Or.inr ⟨rfl,drawn cm new⟩
          · exact Or.inl (List.mem_map_of_mem old)
  | @marking data is load before rows found marked marks =>
    change Seats amb _ s.chat (s.chat.storeConversation _ _).2
    cases stores : s.chat.storeConversation (Conversation.fromDomain marked).1
        (Conversation.fromDomain marked).2 with
    | mk r stored =>
      cases r with
      | error e =>
        rw [s.chat.storeConversation_error stores]
        exact seats_same rfl
      | ok saved =>
        obtain ⟨_,rfl,_⟩ := s.chat.storeConversation_ok stores
        refine seats_saveAll keyed rfl fun cm mem => ?_
        obtain ⟨c,_,rfl⟩ := Option.map_eq_some_iff.mp found
        obtain ⟨row,joined,is'⟩ := (markAsRead_saved marks).2 cm mem
        have stored := (ChatDatabase.membersOf_iff.mp joined).1
        rcases is' with rfl | rfl
        · exact copy load before cm stored
        · exact copy load before row stored
  | removal =>
    have frame : ∀ cm : ConversationMember,
        ({ cm with deletedAt := some amb.now } : ConversationMember).place = cm.place :=
      fun _ => rfl
    exact seats_same (map_amend frame s.chat.members)

end Statements

section Pool
variable {ι : Type} [DecidableEq ι] {ilike : JsString → JsString → Bool}
  {activities : ι → Activity} {ambs : ι → Ambient} {w : ChatWorld} {schedule : List ι}

/-- The world after these steps, against what each of them has met. -/
structure Gains (ambs : ι → Ambient) (past : List (Issued ChatRequest ChatWorld ι))
    (s : ChatWorld) : Prop where
  conversations : Keyed Conversation.id s.chat.conversations
  members : Keyed ConversationMember.id s.chat.members
  kept : ∀ e ∈ past, e.before.Extends s
  gains : ∀ e ∈ past, e.before.Extends (chatHandler.answer e.request e.before).2
  drawn : ∀ cm ∈ s.chat.members, ∃ e ∈ past, e.request.writes = true ∧
    ∃ k, cm.id = (ambs e.thread).uuid k

theorem gains_step (distinct : Distinct ambs) {before later : List (Issued ChatRequest ChatWorld ι)}
    {e : Issued ChatRequest ChatWorld ι}
    (cut : (activityPool ilike activities ambs w).trace chatHandler schedule =
      before ++ e :: later)
    (grown : Grown ambs before e.before) (gains : Gains ambs before e.before) :
    Gains ambs (before ++ [e]) (chatHandler.answer e.request e.before).2 := by
  have seats : Seats (ambs e.thread) e.request e.before.chat
      (chatHandler.answer e.request e.before).2.chat := by
    rcases activityStep_at cut with plain | ⟨actor,operation,_,step⟩
    · rw [chat_of_reads (writes_of_plain plain)]
      exact seats_same rfl
    · refine seats_step step gains.members (fun load own => ?_) fun first k known => ?_
      · exact (gains.kept load (List.mem_of_mem_filter own)).places
      · obtain ⟨cm,mem,is⟩ := List.mem_map.mp known
        obtain ⟨f,old,writes,l,drawn⟩ := gains.drawn cm mem
        have own := first f (List.mem_filter.mpr
          ⟨old,decide_eq_true (distinct _ _ _ _ (is.symm.trans drawn)).1.symm⟩)
        rw [own] at writes
        cases writes
  have more : e.before.Extends (chatHandler.answer e.request e.before).2 :=
    ⟨((grown_step distinct cut grown).1.kept e (by simp)).subset,seats.kept,
      published_later e.request e.before⟩
  obtain ⟨conversations,members,_⟩ := keyed_answer e.request gains.conversations gains.members
  refine ⟨conversations,members,fun f mem => ?_,fun f mem => ?_,fun cm mem => ?_⟩
  · rcases List.mem_append.mp mem with old | now
    · exact (gains.kept f old).trans more
    · rw [List.mem_singleton.mp now]
      exact more
  · rcases List.mem_append.mp mem with old | now
    · exact gains.gains f old
    · rw [List.mem_singleton.mp now]
      exact more
  · rcases seats.drawn cm mem with known | ⟨writes,drawn⟩
    · obtain ⟨old,stored,is⟩ := List.mem_map.mp known
      obtain ⟨f,memf,rest⟩ := gains.drawn old stored
      rw [is] at rest
      exact ⟨f,List.mem_append_left _ memf,rest⟩
    · exact ⟨e,by simp,writes,drawn⟩

/-- What every step of a run leaves. -/
theorem gains_at (distinct : Distinct ambs) (empty : w.chat = ⟨[],[],[],[]⟩)
    {e : Issued ChatRequest ChatWorld ι}
    (mem : e ∈ (activityPool ilike activities ambs w).trace chatHandler schedule) :
    e.before.Extends (chatHandler.answer e.request e.before).2 ∧
      (chatHandler.answer e.request e.before).2.chat.Confined := by
  constructor
  · have start : Gains ambs [] w := by
      refine ⟨?_,?_,by simp,by simp,by simp [empty]⟩ <;> rw [empty] <;> exact List.nodup_nil
    exact (activity_run distinct empty (Gains ambs) start
      fun _ _ _ cut grown gains => gains_step distinct cut grown gains).2.gains e mem
  · obtain ⟨first,_,_,now⟩ := Pool.mem_trace_split mem
    have left : ((activityPool ilike activities ambs w).run chatHandler
        (first ++ [e.thread])).state.chat.Confined := confined_run distinct empty
    rw [Pool.run_append] at left
    change ((((activityPool ilike activities ambs w).run chatHandler first).step chatHandler
      e.thread).state.chat).Confined at left
    rwa [Pool.step_issued now] at left

end Pool

end Chatterbox
