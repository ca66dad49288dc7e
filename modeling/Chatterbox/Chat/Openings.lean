import Chatterbox.Chat.Couples
import Chatterbox.Chat.Failures
import Chatterbox.Chat.Replies

/-!
Requests for a conversation side by side, where database calls may fail and a conversation
whose first message fails is removed again. Whether two users have a conversation already is
looked up before the conversation is stored, and nothing in the tables keeps a second one out.
-/
namespace Chatterbox
open Concurrency Tables

/-- What of a member row no statement changes. -/
def ConversationMember.place (m : ConversationMember) : Uuid × Uuid × Uuid :=
  (m.id, m.userId, m.conversationId)

namespace ChatDatabase

/-- The live direct conversations that both users are live members of. -/
def between (db : ChatDatabase) (a b : Uuid) : List Conversation :=
  db.liveConversations.filter fun c => c.type = .direct && db.isMember c.id a && db.isMember c.id b

def OnePerPair (db : ChatDatabase) : Prop := ∀ a b, a ≠ b → (db.between a b).length ≤ 1

/-- Members have their own ids and sit in stored conversations, alive where these are. -/
structure Housed (db : ChatDatabase) : Prop where
  members : Keyed ConversationMember.id db.members
  homes : ∀ cm ∈ db.members, cm.conversationId ∈ db.conversations.map Conversation.id
  live : ∀ c ∈ db.conversations, c.deletedAt = none →
    ∀ cm ∈ db.members, cm.conversationId = c.id → cm.deletedAt = none

/-- Member rows have been saved again, from copies that were alive. -/
structure Resaved (db db' : ChatDatabase) : Prop where
  conversations : db'.conversations = db.conversations
  places : db'.members.map ConversationMember.place = db.members.map ConversationMember.place
  live : ∀ cm ∈ db'.members, cm ∈ db.members ∨ cm.deletedAt = none

variable {db db' : ChatDatabase} {amb : Ambient} {a b : Uuid}

theorem Seated.housed (seated : db.Seated) : db.Housed := by
  refine ⟨seated.members,fun cm mem => ?_,fun c mem live cm stored here => ?_⟩
  · obtain ⟨c,known,is,_⟩ := seated.homes cm mem
    exact List.mem_map.mpr ⟨c,known,is⟩
  · obtain ⟨c',known,is,both⟩ := seated.homes cm stored
    obtain rfl := keyed_unique seated.conversations known mem (is.trans here)
    exact both.mp live

theorem place_inj {cm cm' : ConversationMember} (same : cm.place = cm'.place) :
    cm.id = cm'.id ∧ cm.userId = cm'.userId ∧ cm.conversationId = cm'.conversationId := by
  simpa only [ConversationMember.place, Prod.mk.injEq] using same

theorem between_unknown (unknown : db.conversationExists a b = false) :
    db.between a b = [] ∧ db.between b a = [] := by
  have none : db.between a b = [] := by
    rw [between, List.filter_eq_nil_iff]
    exact List.any_eq_false.mp unknown
  refine ⟨none,?_⟩
  rw [← none, between, between]
  exact List.filter_congr fun c _ => Bool.and_right_comm ..

/-- In a live conversation only the places of the members count. -/
theorem Resaved.isMember (resaved : db.Resaved db') (housed : db.Housed) {c : Conversation}
    (mem : c ∈ db.liveConversations) (userId : Uuid) :
    db'.isMember c.id userId = db.isMember c.id userId := by
  obtain ⟨stored,alive⟩ := List.mem_filter.mp mem
  have live := housed.live c stored (by simpa using alive)
  rw [Bool.eq_iff_iff, isMember_row, isMember_row]
  constructor
  · rintro ⟨cm,known,_,here,user⟩
    obtain ⟨old,memold,same⟩ := same_row resaved.places known
    obtain ⟨_,user',here'⟩ := place_inj same
    exact ⟨old,memold,live old memold (here'.trans here),here'.trans here,user'.trans user⟩
  · rintro ⟨cm,known,_,here,user⟩
    obtain ⟨new,memnew,same⟩ := same_row resaved.places.symm known
    obtain ⟨_,user',here'⟩ := place_inj same
    refine ⟨new,memnew,?_,here'.trans here,user'.trans user⟩
    rcases resaved.live new memnew with old | alive
    · exact live new old (here'.trans here)
    · exact alive

theorem Resaved.between (resaved : db.Resaved db') (housed : db.Housed) (a b : Uuid) :
    db'.between a b = db.between a b := by
  have conversations : db'.liveConversations = db.liveConversations := by
    rw [liveConversations, resaved.conversations, liveConversations]
  rw [ChatDatabase.between, conversations, ChatDatabase.between]
  refine List.filter_congr fun c mem => ?_
  rw [resaved.isMember housed mem, resaved.isMember housed mem]

theorem Resaved.housed (resaved : db.Resaved db') (housed : db.Housed) : db'.Housed := by
  refine ⟨?_,fun cm mem => ?_,fun c stored live cm mem here => ?_⟩
  · have ids : db'.members.map ConversationMember.id = db.members.map ConversationMember.id := by
      have first : ∀ db : ChatDatabase, db.members.map ConversationMember.id =
          (db.members.map ConversationMember.place).map fun p => p.1 := by
        intro db
        rw [List.map_map]
        rfl
      rw [first, resaved.places, first]
    unfold Keyed
    rw [ids]
    exact housed.members
  · obtain ⟨old,memold,same⟩ := same_row resaved.places mem
    rw [resaved.conversations, ← (place_inj same).2.2]
    exact housed.homes old memold
  · rw [resaved.conversations] at stored
    rcases resaved.live cm mem with old | alive
    · exact housed.live c stored live cm old here
    · exact alive

theorem isMember_usersOf (db : ChatDatabase) (conversationId userId : Uuid) :
    db.isMember conversationId userId = true ↔ userId ∈ db.usersOf conversationId := by
  simp [isMember, usersOf]

/-- A conversation of a pair that has none. -/
theorem onePerPair_withConversation (unused : Unused amb db) (housed : db.Housed)
    (single : db.OnePerPair) {userId targetUserId : Uuid}
    (unknown : db.conversationExists userId targetUserId = false) :
    (db.withConversation amb userId targetUserId).OnePerPair := by
  intro a b apart
  let opened : Conversation := ⟨amb.uuid 0,.direct,none,none,some (amb.uuid 1),amb.now,none⟩
  have both : (db.withConversation amb userId targetUserId).between a b = db.between a b ++
      [opened].filter fun c => c.type = .direct &&
        (db.withConversation amb userId targetUserId).isMember c.id a &&
        (db.withConversation amb userId targetUserId).isMember c.id b := by
    have live : (db.withConversation amb userId targetUserId).liveConversations =
        db.liveConversations ++ [opened] := by
      simp [liveConversations, withConversation, List.filter_append, opened]
    rw [between, live, List.filter_append, between]
    congr 1
    refine List.filter_congr fun c mem => ?_
    have same : ∀ u, (db.withConversation amb userId targetUserId).isMember c.id u =
        db.isMember c.id u := by
      intro u
      rw [Bool.eq_iff_iff, isMember_usersOf, isMember_usersOf,
        usersOf_withConversation unused (List.mem_of_mem_filter mem)]
    rw [same, same]
  have new : ∀ u, (db.withConversation amb userId targetUserId).isMember (amb.uuid 0) u = true →
      u = userId ∨ u = targetUserId := by
    intro u is
    obtain ⟨cm,stored,_,here,user⟩ := isMember_row.mp is
    rcases List.mem_append.mp stored with old | added
    · have known := housed.homes cm old
      rw [here] at known
      exact absurd known (unused.conversations 0)
    · rcases mem_newMembers added with rfl | ⟨_,rfl⟩
      · exact Or.inl user.symm
      · exact Or.inr user.symm
  rw [both, List.length_append]
  by_cases joined : (db.withConversation amb userId targetUserId).isMember (amb.uuid 0) a = true ∧
      (db.withConversation amb userId targetUserId).isMember (amb.uuid 0) b = true
  · obtain ⟨here,there⟩ := between_unknown unknown
    have none : db.between a b = [] := by
      rcases new a joined.1 with rfl | rfl
      · rcases new b joined.2 with rfl | rfl
        · exact absurd rfl apart
        · exact here
      · rcases new b joined.2 with rfl | rfl
        · exact there
        · exact absurd rfl apart
    have one := List.length_filter_le (fun c : Conversation => c.type = .direct &&
        (db.withConversation amb userId targetUserId).isMember c.id a &&
        (db.withConversation amb userId targetUserId).isMember c.id b) [opened]
    rw [none]
    simpa using one
  · have none : [opened].filter (fun c => c.type = .direct &&
        (db.withConversation amb userId targetUserId).isMember c.id a &&
        (db.withConversation amb userId targetUserId).isMember c.id b) = [] := by
      rw [List.filter_eq_nil_iff]
      intro c mem
      rw [List.mem_singleton.mp mem]
      simpa [opened, and_assoc] using joined
    rw [none]
    exact single a b apart

theorem housed_withConversation (unused : Unused amb db) (housed : db.Housed)
    (userId targetUserId : Uuid) : (db.withConversation amb userId targetUserId).Housed := by
  have away : ∀ cm ∈ db.members, cm.conversationId ≠ amb.uuid 0 :=
    fun cm mem same => unused.conversations 0 (same ▸ housed.homes cm mem)
  refine ⟨keyed_withConversation unused housed.members _ _,fun cm mem => ?_,
    fun c stored live cm mem here => ?_⟩
  · unfold withConversation
    rw [List.map_append]
    rcases List.mem_append.mp mem with old | added
    · exact List.mem_append_left _ (housed.homes cm old)
    · rcases mem_newMembers added with rfl | ⟨_,rfl⟩ <;> exact List.mem_append_right _ (by simp)
  · rcases List.mem_append.mp mem with old | added
    · rcases List.mem_append.mp stored with known | opened
      · exact housed.live c known live cm old here
      · rw [List.mem_singleton.mp opened] at here
        exact absurd here (away cm old)
    · rcases mem_newMembers added with rfl | ⟨_,rfl⟩ <;> rfl

/-- A removed conversation does not count. -/
theorem onePerPair_removed (single : db.OnePerPair) (conversationId : Uuid) (now : Time) :
    (db.removeConversation conversationId now).2.OnePerPair := by
  intro a b apart
  have live : (db.removeConversation conversationId now).2.liveConversations =
      db.liveConversations.filter fun c => !decide (c.id = conversationId) := by
    unfold liveConversations removeConversation
    rw [List.filter_filter]
    refine (filter_amend fun c _ _ => rfl).trans (List.filter_congr fun c _ => ?_)
    cases c.deletedAt <;> simp
  have fewer : (db.removeConversation conversationId now).2.between a b =
      (db.between a b).filter fun c => !decide (c.id = conversationId) := by
    rw [between, live, between, List.filter_filter, List.filter_filter]
    refine List.filter_congr fun c mem => ?_
    by_cases other : c.id = conversationId
    · simp [other]
    · have same : ∀ u, (db.removeConversation conversationId now).2.isMember c.id u =
          db.isMember c.id u := by
        intro u
        rw [Bool.eq_iff_iff, isMember_usersOf, isMember_usersOf,
          usersOf_sameIn (sameIn_removed (fun is => other is.symm) now).1]
      rw [same, same]
      exact Bool.and_comm ..
  rw [fewer]
  exact (List.length_filter_le _ _).trans (single a b apart)

theorem housed_removed (housed : db.Housed) (conversationId : Uuid) (now : Time) :
    (db.removeConversation conversationId now).2.Housed := by
  have ids : (db.removeConversation conversationId now).2.conversations.map Conversation.id =
      db.conversations.map Conversation.id := by
    have frame : ∀ c : Conversation, ({ c with deletedAt := some now } : Conversation).id = c.id :=
      fun _ => rfl
    exact map_amend frame _
  have frame : ∀ cm : ConversationMember,
      ({ cm with deletedAt := some now } : ConversationMember).id = cm.id := fun _ => rfl
  refine ⟨keyed_amend housed.members frame,fun cm mem => ?_,fun c stored live cm mem here => ?_⟩
  · rw [ids]
    rcases mem_amend.mp mem with ⟨cm,old,_,rfl⟩ | ⟨old,_⟩
    · exact housed.homes cm old
    · exact housed.homes cm old
  · rcases mem_amend.mp stored with ⟨_,_,_,rfl⟩ | ⟨known,miss⟩
    · cases live
    · rcases mem_amend.mp mem with ⟨cm,_,hit,rfl⟩ | ⟨old,_⟩
      · have away : c.id ≠ conversationId := by simpa [live] using miss
        exact absurd (here.symm.trans (of_decide_eq_true (Bool.and_eq_true_iff.mp hit).2)) away
      · exact housed.live c known live cm old here

end ChatDatabase

/-- The insert of a conversation, or the save of one that has been loaded. -/
def ChatRequest.commits : {β : Type} → ChatRequest β → Bool
  | _, .store (.commitConversation _ _) => true
  | _, _ => false

/-- What one statement of a request for a conversation makes of the tables. -/
inductive Opens (amb : Ambient) (actor targetUserId : Uuid) (db : ChatDatabase) :
    Bool → ChatDatabase → Prop where
  | resaved {db' : ChatDatabase} {commits : Bool} (resaved : db.Resaved db')
      (messages : ∀ id ∈ db'.messages.map Message.id,
        id ∈ db.messages.map Message.id ∨ ∃ k, id = amb.uuid k) :
      Opens amb actor targetUserId db commits db'
  | opened (unused : ChatDatabase.Unused amb db) :
      Opens amb actor targetUserId db true (db.withConversation amb actor targetUserId)
  | removed {now : Time} :
      Opens amb actor targetUserId db false (db.removeConversation (amb.uuid 0) now).2

section Steps
variable {ι : Type} {amb : Ambient} {actor : Uuid} {data : CreateConversationRequest}
  {past : List (Issued ChatRequest ChatWorld ι)} {β : Type} {q : ChatRequest β} {s : ChatWorld}

theorem ChatDatabase.Resaved.refl (db : ChatDatabase) : db.Resaved db :=
  ⟨rfl,rfl,fun _ mem => Or.inl mem⟩

/-- Copies of rows that were alive, with other pointers. -/
theorem resaved_saveAll {db db' : ChatDatabase} {copies : List ConversationMember}
    (housed : db.Housed) (conversations : db'.conversations = db.conversations)
    (members : db'.members = saveAll ConversationMember.id copies db.members)
    (known : ∀ cm ∈ copies, cm.place ∈ db.members.map ConversationMember.place ∧
      cm.deletedAt = none) : db.Resaved db' := by
  refine ⟨conversations,?_,fun cm mem => ?_⟩
  · rw [members]
    apply map_saveAll
    · intro cm mem
      obtain ⟨row,stored,same⟩ := List.mem_map.mp (known cm mem).1
      exact ⟨row,stored,(ChatDatabase.place_inj same).1⟩
    · intro cm mem row stored id
      obtain ⟨row',stored',same⟩ := List.mem_map.mp (known cm mem).1
      have hit : row.id = row'.id := id.trans (ChatDatabase.place_inj same).1.symm
      rw [keyed_unique housed.members stored stored' hit]
      exact same
  · rw [members] at mem
    rcases mem_of_mem_saveAll mem with new | old
    · exact Or.inr (known cm new).2
    · exact Or.inl old

theorem opens_step (step : OperationStep amb actor (.createConversation data) past q)
    (housed : s.chat.Housed)
    (kept : ∀ load ∈ past, ∀ cm ∈ load.before.chat.members,
      cm.place ∈ s.chat.members.map ConversationMember.place)
    (fresh : (∀ e ∈ past, e.request.writes = false) → ChatDatabase.Unused amb s.chat) :
    Opens amb actor data.targetUserId s.chat q.commits (chatHandler.answer q s).2.chat := by
  have reads : q.writes = false →
      Opens amb actor data.targetUserId s.chat q.commits (chatHandler.answer q s).2.chat := by
    intro reads
    rw [chat_of_reads reads]
    exact .resaved (.refl _) fun _ mem => Or.inl mem
  cases step with
  | plain plain => exact reads (writes_of_plain plain)
  | edited => exact reads rfl
  | @text _ text editedAt updatedAt =>
    have frame : ∀ m : Message, (m.withText text editedAt updatedAt).id = m.id := fun _ => rfl
    refine .resaved ⟨rfl,rfl,fun _ mem => Or.inl mem⟩ fun id mem => Or.inl ?_
    rcases List.mem_map.mp mem with ⟨m,stored,rfl⟩
    rcases mem_amend.mp stored with ⟨m,old,_,rfl⟩ | ⟨old,_⟩
    · exact List.mem_map.mpr ⟨m,old,(frame m).symm⟩
    · exact List.mem_map_of_mem old
  | @insert message load before drawn first home quotes placed =>
    change Opens amb actor data.targetUserId s.chat false (s.chat.storeMessage
      (Message.fromDomain message) _ _).2
    cases stores : s.chat.storeMessage (Message.fromDomain message)
        (message.deletedForUserIds.map fun userId => ⟨userId,message.id⟩)
        ((load.before.chat.membersOf message.conversationId).map message.updateMember) with
    | mk r stored =>
      cases r with
      | error e =>
        rw [s.chat.storeMessage_error stores]
        exact .resaved (.refl _) fun _ mem => Or.inl mem
      | ok u =>
        obtain ⟨_,_,rfl⟩ := s.chat.storeMessage_ok stores
        refine .resaved (resaved_saveAll housed rfl rfl fun cm mem => ?_) fun id mem => ?_
        · obtain ⟨row,joined,rfl⟩ := List.mem_map.mp mem
          obtain ⟨known,live,_⟩ := ChatDatabase.membersOf_iff.mp joined
          exact ⟨kept load before row known,live⟩
        · obtain ⟨m,saved,rfl⟩ := List.mem_map.mp mem
          rcases mem_save.mp saved with rfl | ⟨old,_⟩
          · exact Or.inr drawn
          · exact Or.inl (List.mem_map_of_mem old)
  | deletion is => cases is
  | @opening data' is first conversation built =>
    cases is
    rw [createDirect_rows built]
    change Opens amb actor data.targetUserId s.chat true (s.chat.storeConversation _ _).2
    cases stores : s.chat.storeConversation _ _ with
    | mk r stored =>
      cases r with
      | error e =>
        rw [s.chat.storeConversation_error stores]
        exact .resaved (.refl _) fun _ mem => Or.inl mem
      | ok rows =>
        rw [storeConversation_new (fresh first) stores]
        exact .opened (fresh first)
  | marking is => cases is
  | removal => exact .removed

end Steps

section Opens
variable {amb : Ambient} {actor target : Uuid} {db db' : ChatDatabase} {commits : Bool}

theorem Opens.places (opens : Opens amb actor target db commits db') {p : Uuid × Uuid × Uuid}
    (mem : p ∈ db.members.map ConversationMember.place) :
    p ∈ db'.members.map ConversationMember.place := by
  cases opens with
  | resaved resaved => rwa [resaved.places]
  | opened =>
    unfold ChatDatabase.withConversation
    rw [List.map_append]
    exact List.mem_append_left _ mem
  | @removed now =>
    have frame : ∀ cm : ConversationMember,
        ({ cm with deletedAt := some now } : ConversationMember).place = cm.place := fun _ => rfl
    dsimp only [ChatDatabase.removeConversation]
    rwa [map_amend frame]

theorem Opens.housed (opens : Opens amb actor target db commits db') (housed : db.Housed) :
    db'.Housed := by
  cases opens with
  | resaved resaved => exact resaved.housed housed
  | opened unused => exact ChatDatabase.housed_withConversation unused housed _ _
  | removed => exact ChatDatabase.housed_removed housed _ _

/-- A second conversation of a pair needs an insert while the pair has one. -/
theorem Opens.onePerPair (opens : Opens amb actor target db commits db') (housed : db.Housed)
    (unknown : commits = true → db.conversationExists actor target = false)
    (single : db.OnePerPair) : db'.OnePerPair := by
  cases opens with
  | resaved resaved =>
    intro a b apart
    rw [resaved.between housed]
    exact single a b apart
  | opened unused =>
    exact ChatDatabase.onePerPair_withConversation unused housed single (unknown rfl)
  | removed => exact ChatDatabase.onePerPair_removed single _ _

end Opens

section Pool
variable {ι : Type} [DecidableEq ι] {ilike : JsString → JsString → Bool} {users : ι → Uuid}
  {requests : ι → CreateConversationRequest} {ambs : ι → Ambient} {w : ChatWorld}
  {fault : Fault ChatRequest} {schedule : List ι}

/-- A request for a conversation of each of these users. -/
def openings (users : ι → Uuid) (requests : ι → CreateConversationRequest) (i : ι) : Activity :=
  .request (users i) (.createConversation (requests i))

/-- The step does not insert a conversation of two users who have one by now. -/
def InsertsUnknown (fault : Fault ChatRequest) (users : ι → Uuid)
    (requests : ι → CreateConversationRequest) (e : Issued ChatRequest (ChatWorld × ℕ) ι) : Prop :=
  e.request.commits = true → (fault e.request e.before.2).isNone = true →
    e.before.1.chat.conversationExists (users e.thread) (requests e.thread).targetUserId = false

instance (fault : Fault ChatRequest) (users : ι → Uuid)
    (requests : ι → CreateConversationRequest) :
    DecidablePred (InsertsUnknown fault users requests) := fun e =>
  inferInstanceAs (Decidable (e.request.commits = true →
    (fault e.request e.before.2).isNone = true → e.before.1.chat.conversationExists
      (users e.thread) (requests e.thread).targetUserId = false))

/-- The tables after these steps of requests for conversations. -/
structure Hosted (ambs : ι → Ambient) (past : List (Issued ChatRequest ChatWorld ι))
    (s : ChatWorld) : Prop where
  housed : s.chat.Housed
  kept : ∀ e ∈ past, ∀ cm ∈ e.before.chat.members,
    cm.place ∈ s.chat.members.map ConversationMember.place
  unspent : ∀ i, (∀ e ∈ Pool.ownSteps i past, e.request.writes = false) →
    ChatDatabase.Unused (ambs i) s.chat

omit [DecidableEq ι] in
/-- The ids of the others are unused after a statement as well. -/
theorem unused_opens (distinct : Distinct ambs) {i j : ι} (other : i ≠ j) {actor target : Uuid}
    {db db' : ChatDatabase} {commits : Bool} (opens : Opens (ambs j) actor target db commits db')
    (unused : ChatDatabase.Unused (ambs i) db) : ChatDatabase.Unused (ambs i) db' := by
  have foreign : ∀ k l, (ambs i).uuid k ≠ (ambs j).uuid l :=
    fun k l same => other (distinct _ _ _ _ same).1
  cases opens with
  | resaved resaved messages =>
    refine ⟨unused.injective,fun k => ?_,fun k known => ?_,fun k known => ?_⟩
    · rw [resaved.conversations]
      exact unused.conversations k
    · obtain ⟨cm,mem,is⟩ := List.mem_map.mp known
      obtain ⟨old,memold,same⟩ := ChatDatabase.same_row resaved.places mem
      exact unused.members k (List.mem_map.mpr ⟨old,memold,(ChatDatabase.place_inj same).1.trans is⟩)
    · rcases messages _ known with old | ⟨l,drawn⟩
      · exact unused.messages k old
      · exact foreign k l drawn
  | opened =>
    refine ⟨unused.injective,fun k known => ?_,fun k known => ?_,unused.messages⟩
    · unfold ChatDatabase.withConversation at known
      rw [List.map_append] at known
      rcases List.mem_append.mp known with old | new
      · exact unused.conversations k old
      · exact foreign k 0 (List.mem_singleton.mp new)
    · obtain ⟨cm,mem,is⟩ := List.mem_map.mp known
      rcases List.mem_append.mp mem with old | new
      · exact unused.members k (List.mem_map.mpr ⟨cm,old,is⟩)
      · rcases mem_newMembers new with rfl | ⟨_,rfl⟩
        · exact foreign k 2 is.symm
        · exact foreign k 3 is.symm
  | @removed now =>
    have conversation : ∀ c : Conversation,
        ({ c with deletedAt := some now } : Conversation).id = c.id := fun _ => rfl
    have member : ∀ cm : ConversationMember,
        ({ cm with deletedAt := some now } : ConversationMember).id = cm.id := fun _ => rfl
    refine ⟨unused.injective,fun k => ?_,fun k => ?_,unused.messages⟩
    · dsimp only [ChatDatabase.removeConversation]
      rw [map_amend conversation]
      exact unused.conversations k
    · dsimp only [ChatDatabase.removeConversation]
      rw [map_amend member]
      exact unused.members k

/-- A step of one of the requests, of which one that fails is no insert. -/
theorem opensStep_at (refusing : Refusing fault)
    {before later : List (Issued ChatRequest (ChatWorld × ℕ) ι)}
    {e : Issued ChatRequest (ChatWorld × ℕ) ι}
    (cut : (activityPool ilike (openings users requests) ambs w).numbered.trace
      (chatHandler.faulty fault) schedule = before ++ e :: later)
    (hosted : Hosted ambs (before.map (Issued.seen Prod.fst)) e.before.1) :
    Opens (ambs e.thread) (users e.thread) (requests e.thread).targetUserId e.before.1.chat
      (e.request.commits && (fault e.request e.before.2).isNone)
      ((chatHandler.faulty fault).answer e.request e.before).2.1.chat := by
  have step : OperationStep (ambs e.thread) (users e.thread)
      (.createConversation (requests e.thread))
      (Pool.ownSteps e.thread (before.map (Issued.seen Prod.fst))) e.request := by
    rcases activityStep_faulty refusing cut with plain | ⟨actor,operation,is,step⟩
    · exact .plain plain
    · cases is
      exact step
  rcases chatHandler.faulty_state fault e.request e.before with ⟨passes,same⟩ | ⟨_,same⟩
  · rw [passes, Bool.and_true, same]
    refine opens_step step hosted.housed (fun load own => ?_) (hosted.unspent e.thread)
    exact hosted.kept load (List.mem_of_mem_filter own)
  · rw [same]
    exact .resaved (.refl _) fun _ mem => Or.inl mem

theorem hosted_step (refusing : Refusing fault) (distinct : Distinct ambs)
    {before later : List (Issued ChatRequest (ChatWorld × ℕ) ι)}
    {e : Issued ChatRequest (ChatWorld × ℕ) ι}
    (cut : (activityPool ilike (openings users requests) ambs w).numbered.trace
      (chatHandler.faulty fault) schedule = before ++ e :: later)
    (hosted : Hosted ambs (before.map (Issued.seen Prod.fst)) e.before.1) :
    Hosted ambs ((before ++ [e]).map (Issued.seen Prod.fst))
      ((chatHandler.faulty fault).answer e.request e.before).2.1 := by
  have opens := opensStep_at refusing cut hosted
  rw [List.map_append, List.map_singleton]
  refine ⟨opens.housed hosted.housed,fun f mem cm stored => ?_,fun i first => ?_⟩
  · rcases List.mem_append.mp mem with old | now
    · exact opens.places (hosted.kept f old cm stored)
    · rw [List.mem_singleton.mp now] at stored
      exact opens.places (List.mem_map_of_mem stored)
  · have earlier := hosted.unspent i fun f own => first f (by
      rw [Pool.ownSteps, List.filter_append]
      exact List.mem_append_left _ own)
    by_cases own : i = e.thread
    · have reads : e.request.writes = false := first (e.seen Prod.fst)
        (List.mem_filter.mpr ⟨by simp,decide_eq_true own.symm⟩)
      rcases chatHandler.faulty_state fault e.request e.before with ⟨_,same⟩ | ⟨_,same⟩
      · rw [same, chat_of_reads reads]
        exact earlier
      · rw [same]
        exact earlier
    · exact unused_opens distinct own opens earlier

/-- Whichever database calls fail: as long as a conversation is only inserted while its two users
    have none, two users have at most one, at every moment. -/
theorem one_conversation_per_pair (refusing : Refusing fault) (distinct : Distinct ambs)
    (unused : ∀ i, ChatDatabase.Unused (ambs i) w.chat) (seated : w.chat.Seated)
    (single : w.chat.OnePerPair)
    (unknown : (activityPool ilike (openings users requests) ambs w).numbered.Respects
      (chatHandler.faulty fault) (InsertsUnknown fault users requests) schedule) :
    ((activityPool ilike (openings users requests) ambs w).numbered.run
      (chatHandler.faulty fault) schedule).state.1.chat.OnePerPair := by
  let holds (past : List (Issued ChatRequest (ChatWorld × ℕ) ι)) (s : ChatWorld × ℕ) : Prop :=
    Hosted ambs (past.map (Issued.seen Prod.fst)) s.1 ∧ s.1.chat.OnePerPair
  have start : holds [] (w, 0) := ⟨⟨seated.housed,by simp,fun i _ => unused i⟩,single⟩
  refine (Pool.trace_run holds (fun before e later cut known => ?_) start).2
  refine ⟨hosted_step refusing distinct cut known.1,?_⟩
  have step := unknown e (by simp [cut])
  refine (opensStep_at refusing cut known.1).onePerPair known.1.housed (fun inserts => ?_) known.2
  obtain ⟨commits,passes⟩ := Bool.and_eq_true_iff.mp inserts
  exact step commits passes

end Pool

/-- User 1 asks for a conversation with user 2, and user 2 for one with user 1. -/
def mutualUsers : Fin 2 → Uuid
  | 0 => 1
  | 1 => 2

def mutualRequests : Fin 2 → CreateConversationRequest
  | 0 => ⟨2,[104, 105]⟩
  | 1 => ⟨1,[121, 111]⟩

theorem unused_emptyWorld (n : ℕ) (i : Fin n) :
    ChatDatabase.Unused (sharedDraws n i) emptyWorld.chat := by
  refine ⟨fun k l same => (distinct_sharedDraws n i i k l same).2,?_,?_,?_⟩ <;> simp [emptyWorld]

/-- Both requests look before either inserts. Then the first message of user 1 fails. -/
def removedBetween : Pool ChatRequest Failure Unit (ChatWorld × ℕ) (Fin 2) :=
  (activityPool noMatch (openings mutualUsers mutualRequests) (sharedDraws 2)
    emptyWorld).numbered.run (chatHandler.faulty fun q n => (failsAt 19 n).bind q.refused)
      ((List.replicate 8 [0, 1]).flatten ++ List.replicate 5 0 ++ List.replicate 7 1)

/-- The conversation of user 1 has been removed when that of user 2 is inserted. -/
theorem one_conversation_removed : removedBetween.state.1.chat.OnePerPair ∧
    removedBetween.state.1.chat.conversations.map (fun c => c.deletedAt) =
      [some 1000, none] :=
  ⟨one_conversation_per_pair (refusing_failures (failsAt 19)) (distinct_sharedDraws 2)
    (unused_emptyWorld 2) ChatDatabase.sound_empty.seated
    (by simp [ChatDatabase.OnePerPair, ChatDatabase.between, ChatDatabase.liveConversations,
      emptyWorld]) (by decide),by decide⟩

/-- Both requests look before either inserts. -/
theorem two_conversations :
    ¬ ((activityPool noMatch (openings mutualUsers mutualRequests) (sharedDraws 2) emptyWorld).run
      chatHandler ((List.replicate 15 [0, 1]).flatten)).state.chat.OnePerPair := by
  intro single
  have one := single 1 2 (by decide)
  revert one
  decide

end Chatterbox
