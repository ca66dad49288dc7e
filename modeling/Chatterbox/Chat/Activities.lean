import Chatterbox.Chat.Integrity
import Chatterbox.Chat.Steps

/-!
Everything that goes on in the server at once: the operations of the users, the handlers of
published events and the user module, statement by statement in any order. Messages are
added at the end of their table, and keep there what their insert has written once.
-/
namespace Chatterbox
open Concurrency Tables

inductive Activity : Type 1 where
  | request (authUserId : Uuid) (operation : ChatOperation)
  | messageEvent (event : MessageEvent)
  | userEvent (event : UserEvent)
  | elsewhere (program : UserProgram Unit)

def Activity.execute (ilike : JsString → JsString → Bool) (amb : Ambient) :
    Activity → ChatProgram Unit
  | .request authUserId operation => (fun _ => ()) <$> operation.execute ilike amb authUserId
  | .messageEvent event => event.handle
  | .userEvent event => event.handle
  | .elsewhere program => askUserModule program

def ChatDatabase.origins (db : ChatDatabase) := db.messages.map Message.origin

theorem ids_of_origins (db : ChatDatabase) :
    db.messages.map Message.id = db.origins.map fun o => o.1 := by
  rw [ChatDatabase.origins, List.map_map]
  rfl

variable {ι : Type}

/-- What one statement of an activity can be. -/
def Activity.Step (amb : Ambient) (activity : Activity)
    (past : List (Issued ChatRequest ChatWorld ι)) {β : Type} (q : ChatRequest β) : Prop :=
  q.plain = true ∨ ∃ actor operation, activity = .request actor operation ∧
    OperationStep amb actor operation past q

theorem steps_activity (ilike : JsString → JsString → Bool) (amb : Ambient) (activity : Activity)
    (i : ι) : (activity.execute ilike amb).Along chatAnswering
      (fun past e => activity.Step amb past e.request) i [] := by
  have plain : ∀ {p : ChatProgram Unit}, Plain p →
      p.Along chatAnswering (fun past e => activity.Step amb past e.request) i [] :=
    fun only => only.along (fun _ _ _ _ plain => Or.inl plain) []
  cases activity with
  | request actor operation =>
    have along := steps_operation ilike amb actor operation i
    refine Program.Along.bind (along.weaken fun past e _ step => ?_) fun _ _ => trivial
    exact Or.inr ⟨actor,operation,rfl,step⟩
  | messageEvent event => exact plain (plain_messageEvent event)
  | userEvent event => exact plain (plain_userEvent event)
  | elsewhere program => exact plain (plain_askUserModule program)

section Origins
variable {amb : Ambient} {past : List (Issued ChatRequest ChatWorld ι)} {β : Type}
  {q : ChatRequest β} {s : ChatWorld}

/-- The insert of this message at the end of the table. -/
structure Appends (amb : Ambient) (past : List (Issued ChatRequest ChatWorld ι)) {β : Type}
    (q : ChatRequest β) (s : ChatWorld) (m : Message) : Prop where
  grown : (chatHandler.answer q s).2.chat.origins = s.chat.origins ++ [m.origin]
  inserts : q.inserts = true
  drawn : ∃ k, m.id = amb.uuid k
  new : m.id ∉ s.chat.messages.map Message.id
  quotes : ∀ id, m.replyToMessageId = some id →
    LoadedWith (fun row => row.conversationId = m.conversationId) past id
  placed : ∃ load ∈ past, m.conversationId ∈ load.before.chat.conversations.map Conversation.id

theorem origins_of_reads (reads : q.writes = false) :
    (chatHandler.answer q s).2.chat.origins = s.chat.origins := by
  rw [chat_of_reads reads]

theorem origins_commitConversation {conversation : Conversation}
    {members : List ConversationMember} :
    (chatHandler.answer (.store (.commitConversation conversation members)) s).2.chat.origins =
      s.chat.origins := by
  change (s.chat.storeConversation conversation members).2.origins = s.chat.origins
  cases stores : s.chat.storeConversation conversation members with
  | mk r stored =>
    cases r with
    | error e => rw [s.chat.storeConversation_error stores]
    | ok rows =>
      obtain ⟨_,rfl,_⟩ := s.chat.storeConversation_ok stores
      rfl

/-- A statement leaves the origins of the messages, or adds one. -/
theorem origins_step {activity : Activity} (step : activity.Step amb past q)
    (fresh : (∀ e ∈ past, e.request.inserts = false) →
      ∀ k, amb.uuid k ∉ s.chat.messages.map Message.id) :
    (chatHandler.answer q s).2.chat.origins = s.chat.origins ∨ ∃ m, Appends amb past q s m := by
  rcases step with plain | ⟨actor,operation,_,step⟩
  · exact Or.inl (origins_of_reads (writes_of_plain plain))
  cases step with
  | plain plain => exact Or.inl (origins_of_reads (writes_of_plain plain))
  | edited => exact Or.inl rfl
  | @text _ text editedAt updatedAt =>
    have frame : ∀ m : Message, (m.withText text editedAt updatedAt).origin = m.origin :=
      fun _ => rfl
    exact Or.inl (map_amend frame s.chat.messages)
  | @insert message load before drawn first home quotes placed =>
    obtain ⟨k,drawn⟩ := drawn
    have new : message.id ∉ s.chat.messages.map Message.id := drawn ▸ fresh first k
    cases stores : s.chat.storeMessage (Message.fromDomain message)
        (message.deletedForUserIds.map fun userId => ⟨userId,message.id⟩)
        ((load.before.chat.membersOf message.conversationId).map message.updateMember) with
    | mk r stored =>
      cases r with
      | error e =>
        left
        change (s.chat.storeMessage _ _ _).2.origins = _
        rw [stores, s.chat.storeMessage_error stores]
      | ok u =>
        right
        obtain ⟨_,_,is⟩ := s.chat.storeMessage_ok stores
        have absent : ∀ m ∈ s.chat.messages, m.id ≠ (Message.fromDomain message).id :=
          fun m mem same => new (List.mem_map.mpr ⟨m,mem,same⟩)
        refine ⟨Message.fromDomain message,?_,rfl,⟨k,drawn⟩,new,quotes,placed⟩
        change (s.chat.storeMessage _ _ _).2.origins = _
        rw [stores, is, ChatDatabase.origins, save_new absent, List.map_append]
        rfl
  | @deletion data is deletion =>
    have frame : ∀ m : Message, (deletion.mark m).origin = m.origin := fun _ => rfl
    exact Or.inl (map_amend frame s.chat.messages)
  | opening => exact Or.inl origins_commitConversation
  | marking => exact Or.inl origins_commitConversation
  | removal => exact Or.inl rfl

end Origins

namespace ChatDatabase
variable {db db' : ChatDatabase}

/-- The pointer names a message of the conversation, when it names anything. -/
def Names (db : ChatDatabase) (conversationId : Uuid) (pointer : Option Uuid) : Prop :=
  ∀ id, pointer = some id → ∃ m ∈ db.messages, m.id = id ∧ m.conversationId = conversationId

theorem names_none (conversationId : Uuid) : db.Names conversationId none := nofun

theorem Names.later {conversationId : Uuid} {pointer : Option Uuid}
    (names : db.Names conversationId pointer) (kept : db.origins ⊆ db'.origins) :
    db'.Names conversationId pointer := by
  intro id is
  obtain ⟨m,stored,named,here⟩ := names id is
  have known : m.origin ∈ db'.origins := kept (List.mem_map_of_mem stored)
  obtain ⟨m',stored',same⟩ := List.mem_map.mp known
  obtain ⟨id',_,home',_⟩ := origin_inj same
  exact ⟨m',stored',id'.trans named,home'.trans here⟩

/-- A column of the members in which every pointer names a message of the conversation of
    its row. -/
def PointsHome (db : ChatDatabase) (column : ConversationMember → Option Uuid) : Prop :=
  ∀ cm ∈ db.members, db.Names cm.conversationId (column cm)

end ChatDatabase

/-- A column of the members that points at messages, as far as sends, deletions, marks,
    removals and new conversations set it. -/
structure PointerColumn (column : ConversationMember → Option Uuid) : Prop where
  sent : ∀ (message : MessageEntity) cm, column (message.updateMember cm) = column cm ∨
    column (message.updateMember cm) = some message.id
  moved : ∀ cm last, column { cm with lastMessageId := last } = column cm ∨
    column { cm with lastMessageId := last } = last
  marked : ∀ cm id, column { cm with lastSeenMessageId := some id } = column cm ∨
    column { cm with lastSeenMessageId := some id } = some id
  removed : ∀ cm date, column { cm with deletedAt := date } = column cm
  unset : ∀ id userId conversationId date,
    column ⟨id,userId,conversationId,none,none,date,none⟩ = none

theorem pointerColumn_last : PointerColumn ConversationMember.lastMessageId where
  sent message cm := by
    unfold MessageEntity.updateMember
    dsimp only
    split_ifs <;> simp
  moved _ _ := Or.inr rfl
  marked _ _ := Or.inl rfl
  removed _ _ := rfl
  unset _ _ _ _ := rfl

theorem pointerColumn_seen : PointerColumn ConversationMember.lastSeenMessageId where
  sent message cm := by
    unfold MessageEntity.updateMember
    dsimp only
    split_ifs <;> simp
  moved _ _ := Or.inl rfl
  marked _ _ := Or.inr rfl
  removed _ _ := rfl
  unset _ _ _ _ := rfl

section Pointers
variable {s : ChatWorld} {cm : ConversationMember} {members : List ConversationMember}

/-- A row after the insert of a message is a row from before, or it was saved with the message. -/
theorem mem_commitMessage {message : Message} {deleted : List DeletedMessage}
    (mem : cm ∈ (chatHandler.answer (.store (.commitMessage message deleted members))
      s).2.chat.members) :
    cm ∈ s.chat.members ∨ (cm ∈ members ∧ message ∈
      (chatHandler.answer (.store (.commitMessage message deleted members)) s).2.chat.messages) := by
  change cm ∈ (s.chat.storeMessage message deleted members).2.members at mem
  change _ ∨ (_ ∧ message ∈ (s.chat.storeMessage message deleted members).2.messages)
  cases stores : s.chat.storeMessage message deleted members with
  | mk r stored =>
    rw [stores] at mem
    cases r with
    | error e =>
      rw [s.chat.storeMessage_error stores] at mem
      exact Or.inl mem
    | ok u =>
      obtain ⟨_,_,rfl⟩ := s.chat.storeMessage_ok stores
      rcases mem_of_mem_saveAll mem with new | old
      · exact Or.inr ⟨new,mem_save.mpr (Or.inl rfl)⟩
      · exact Or.inl old

/-- What a conversation saves of a member names stored messages. -/
theorem mem_commitConversation {conversation : Conversation}
    (mem : cm ∈ (chatHandler.answer (.store (.commitConversation conversation members))
      s).2.chat.members) :
    cm ∈ s.chat.members ∨ (cm ∈ members ∧
      ∀ id, cm.lastSeenMessageId = some id → ∃ m ∈ s.chat.messages, m.id = id) := by
  change cm ∈ (s.chat.storeConversation conversation members).2.members at mem
  cases stores : s.chat.storeConversation conversation members with
  | mk r stored =>
    rw [stores] at mem
    cases r with
    | error e =>
      rw [s.chat.storeConversation_error stores] at mem
      exact Or.inl mem
    | ok rows =>
      have known := s.chat.storeConversation_seen stores
      obtain ⟨_,rfl,_⟩ := s.chat.storeConversation_ok stores
      rcases mem_of_mem_saveAll mem with new | old
      · exact Or.inr ⟨new,fun id seen => lookup_isSome_iff.mp (known cm new id seen)⟩
      · exact Or.inl old

/-- The pointers that a statement leaves name messages of their conversations when those of
    the rows it has loaded did. -/
theorem pointsHome_step {column : ConversationMember → Option Uuid}
    (pointer : PointerColumn column) {amb : Ambient} {actor : Uuid} {operation : ChatOperation}
    {past : List (Issued ChatRequest ChatWorld ι)} {β : Type} {q : ChatRequest β}
    (step : OperationStep amb actor operation past q)
    (kept : s.chat.origins ⊆ (chatHandler.answer q s).2.chat.origins)
    (loaded : ∀ load ∈ past, load.before.chat.PointsHome column ∧
      load.before.chat.origins ⊆ s.chat.origins)
    (marks : ∀ data, operation = .markMessageSeen data → q.writes = true →
      ∀ m ∈ s.chat.messages, m.id = data.messageId →
        (∀ cm, column { cm with lastSeenMessageId := some m.id } = column cm) ∨
          m.conversationId = data.conversationId)
    (here : s.chat.PointsHome column) : (chatHandler.answer q s).2.chat.PointsHome column := by
  have reads : q.writes = false → (chatHandler.answer q s).2.chat.PointsHome column := by
    intro reads
    rwa [chat_of_reads reads]
  have old : ∀ cm ∈ s.chat.members,
      (chatHandler.answer q s).2.chat.Names cm.conversationId (column cm) :=
    fun cm mem => (here cm mem).later kept
  have copy : ∀ load ∈ past, ∀ cm ∈ load.before.chat.members,
      (chatHandler.answer q s).2.chat.Names cm.conversationId (column cm) :=
    fun load mem cm stored =>
      ((loaded load mem).1 cm stored).later (fun _ known => kept ((loaded load mem).2 known))
  cases step with
  | plain plain => exact reads (writes_of_plain plain)
  | edited => exact reads rfl
  | text => exact old
  | @insert message load before drawn first home quotes placed =>
    intro cm mem
    rcases mem_commitMessage mem with stored | ⟨saved,sent⟩
    · exact old cm stored
    · obtain ⟨row,joined,rfl⟩ := List.mem_map.mp saved
      obtain ⟨known,_,there⟩ := ChatDatabase.membersOf_iff.mp joined
      rcases pointer.sent message row with same | own
      · rw [same]
        exact copy load before row known
      · rw [own]
        intro id is
        exact ⟨Message.fromDomain message,sent,Option.some.inj is,there.symm⟩
  | @deletion data is deletion members loadedWith moved =>
    intro cm mem
    rcases mem_of_mem_saveAll mem with new | stored
    · obtain ⟨load,before,row,stored,last,rfl,named⟩ := moved cm new
      rcases pointer.moved row last with same | next
      · rw [same]
        exact copy load before row stored
      · rw [next]
        intro id is
        obtain ⟨load',before',m,known,name,there⟩ := named id is
        have names : load'.before.chat.Names row.conversationId (some id) := by
          rintro _ ⟨⟩
          exact ⟨m,known,name,there⟩
        exact names.later (fun _ known => kept ((loaded load' before').2 known)) id rfl
    · exact old cm stored
  | @opening data is first conversation built =>
    intro cm mem
    rcases mem_commitConversation mem with stored | ⟨saved,_⟩
    · exact old cm stored
    · rw [createDirect_rows built] at saved
      rcases mem_newMembers saved with rfl | ⟨_,rfl⟩
      · rw [pointer.unset]
        exact ChatDatabase.names_none _
      · rw [pointer.unset]
        exact ChatDatabase.names_none _
  | @marking data is load before rows found marked marks' =>
    intro cm mem
    rcases mem_commitConversation mem with stored | ⟨saved,known⟩
    · exact old cm stored
    · obtain ⟨c,_,rfl⟩ := Option.map_eq_some_iff.mp found
      obtain ⟨row,joined,is'⟩ := (markAsRead_saved marks').2 cm saved
      obtain ⟨stored,_,there⟩ := ChatDatabase.membersOf_iff.mp joined
      rcases is' with rfl | rfl
      · exact copy load before cm stored
      · obtain ⟨m,old,named⟩ := known data.messageId rfl
        rcases pointer.marked row data.messageId with same | next
        · rw [same]
          exact copy load before row stored
        · rcases marks data is rfl m old named with same | home
          · rw [← named, same]
            exact copy load before row stored
          · rw [next]
            have names : s.chat.Names row.conversationId (some data.messageId) := by
              rintro _ ⟨⟩
              exact ⟨m,old,named,home.trans there.symm⟩
            exact names.later kept
  | removal =>
    intro cm mem
    rcases mem_amend.mp mem with ⟨cm,stored,_,rfl⟩ | ⟨stored,_⟩
    · rw [pointer.removed]
      exact old cm stored
    · exact old cm stored

end Pointers

section Pool
variable [DecidableEq ι] {ilike : JsString → JsString → Bool} {activities : ι → Activity}
  {ambs : ι → Ambient} {w : ChatWorld} {schedule : List ι}

def activityPool (ilike : JsString → JsString → Bool) (activities : ι → Activity)
    (ambs : ι → Ambient) (w : ChatWorld) : Pool ChatRequest Failure Unit ChatWorld ι :=
  ⟨w,fun i => (activities i).execute ilike (ambs i)⟩

/-- No two draws give the same uuid, in one activity or in two. -/
def Distinct (ambs : ι → Ambient) : Prop :=
  ∀ i j k l, (ambs i).uuid k = (ambs j).uuid l → i = j ∧ k = l

omit [DecidableEq ι] in
theorem steps_pool (i : ι) : ((activities i).execute ilike (ambs i)).Along chatAnswering
    (fun past f => (activities f.thread).Step (ambs f.thread) past f.request) i [] :=
  (steps_activity ilike (ambs i) (activities i) i).weaken fun _ _ own step => by rwa [own]

/-- Every step of a run is a step of its activity, after the steps the activity has made. -/
theorem activityStep_at {before later : List (Issued ChatRequest ChatWorld ι)}
    {e : Issued ChatRequest ChatWorld ι}
    (cut : (activityPool ilike activities ambs w).trace chatHandler schedule =
      before ++ e :: later) :
    (activities e.thread).Step (ambs e.thread) (Pool.ownSteps e.thread before) e.request :=
  Pool.along_run chatHandler_answers steps_pool schedule cut

/-- Also where database calls fail. -/
theorem activityStep_faulty {fault : Fault ChatRequest} (refusing : Refusing fault)
    {before later : List (Issued ChatRequest (ChatWorld × ℕ) ι)}
    {e : Issued ChatRequest (ChatWorld × ℕ) ι}
    (cut : (activityPool ilike activities ambs w).numbered.trace (chatHandler.faulty fault)
      schedule = before ++ e :: later) :
    (activities e.thread).Step (ambs e.thread)
      (Pool.ownSteps e.thread (before.map (Issued.seen Prod.fst))) e.request :=
  Pool.along_run_seen Prod.fst refusing.answers [] steps_pool schedule cut

/-- The messages after these steps, against the messages at each of them. -/
structure Grown (ambs : ι → Ambient) (past : List (Issued ChatRequest ChatWorld ι))
    (s : ChatWorld) : Prop where
  kept : ∀ e ∈ past, e.before.chat.origins <+: s.chat.origins
  keyed : Keyed Message.id s.chat.messages
  drawn : ∀ id ∈ s.chat.messages.map Message.id, ∃ e ∈ past, e.request.inserts = true ∧
    ∃ k, id = (ambs e.thread).uuid k

theorem grown_step (distinct : Distinct ambs) {before later : List (Issued ChatRequest ChatWorld ι)}
    {e : Issued ChatRequest ChatWorld ι}
    (cut : (activityPool ilike activities ambs w).trace chatHandler schedule =
      before ++ e :: later)
    (grown : Grown ambs before e.before) :
    Grown ambs (before ++ [e]) (chatHandler.answer e.request e.before).2 ∧
      ((chatHandler.answer e.request e.before).2.chat.origins = e.before.chat.origins ∨
        ∃ m, Appends (ambs e.thread) (Pool.ownSteps e.thread before) e.request e.before m) := by
  have fresh : (∀ f ∈ Pool.ownSteps e.thread before, f.request.inserts = false) →
      ∀ k, (ambs e.thread).uuid k ∉ e.before.chat.messages.map Message.id := by
    intro first k known
    obtain ⟨f,mem,inserts,l,same⟩ := grown.drawn _ known
    have own := first f (List.mem_filter.mpr ⟨mem,decide_eq_true (distinct _ _ _ _ same).1.symm⟩)
    rw [own] at inserts
    cases inserts
  have step := origins_step (activityStep_at cut) fresh
  have longer : e.before.chat.origins <+: (chatHandler.answer e.request e.before).2.chat.origins := by
    rcases step with same | ⟨m,appends⟩
    · exact same.symm ▸ List.prefix_refl _
    · rw [appends.grown]
      exact List.prefix_append ..
  refine ⟨⟨?_,?_,?_⟩,step⟩
  · intro f mem
    rcases List.mem_append.mp mem with old | now
    · exact (grown.kept f old).trans longer
    · rw [List.mem_singleton.mp now]
      exact longer
  · have distinctIds : ((chatHandler.answer e.request e.before).2.chat.messages.map
        Message.id).Nodup := by
      rcases step with same | ⟨m,appends⟩
      · rw [ids_of_origins, same, ← ids_of_origins]
        exact grown.keyed
      · rw [ids_of_origins, appends.grown, List.map_append, ← ids_of_origins]
        refine List.nodup_append.mpr ⟨grown.keyed,List.nodup_singleton _,?_⟩
        intro id old id' now same
        rw [same, List.mem_singleton.mp now] at old
        exact appends.new old
    exact distinctIds
  · intro id stored
    rcases step with same | ⟨m,appends⟩
    · rw [ids_of_origins, same, ← ids_of_origins] at stored
      obtain ⟨f,mem,rest⟩ := grown.drawn id stored
      exact ⟨f,List.mem_append_left _ mem,rest⟩
    · rw [ids_of_origins, appends.grown, List.map_append, ← ids_of_origins] at stored
      rcases List.mem_append.mp stored with old | new
      · obtain ⟨f,mem,rest⟩ := grown.drawn id old
        exact ⟨f,List.mem_append_left _ mem,rest⟩
      · obtain ⟨k,is⟩ := appends.drawn
        refine ⟨e,by simp,appends.inserts,k,?_⟩
        rw [List.mem_singleton.mp new]
        exact is

/-- Induction over the steps of a run from empty tables, with what all runs have in common. -/
theorem activity_run (distinct : Distinct ambs) (empty : w.chat = ⟨[],[],[],[]⟩)
    (holds : List (Issued ChatRequest ChatWorld ι) → ChatWorld → Prop) (start : holds [] w)
    (step : ∀ before e later,
      (activityPool ilike activities ambs w).trace chatHandler schedule = before ++ e :: later →
      Grown ambs before e.before → holds before e.before →
      holds (before ++ [e]) (chatHandler.answer e.request e.before).2) :
    Grown ambs ((activityPool ilike activities ambs w).trace chatHandler schedule)
        ((activityPool ilike activities ambs w).run chatHandler schedule).state ∧
      holds ((activityPool ilike activities ambs w).trace chatHandler schedule)
        ((activityPool ilike activities ambs w).run chatHandler schedule).state := by
  refine Pool.trace_run (fun past s => Grown ambs past s ∧ holds past s)
    (fun before e later cut known => ?_) ⟨?_,start⟩
  · exact ⟨(grown_step distinct cut known.1).1,step before e later cut known.1 known.2⟩
  · refine ⟨by simp,?_,?_⟩
    · change Keyed Message.id w.chat.messages
      rw [empty]
      exact List.nodup_nil
    · intro id mem
      change id ∈ w.chat.messages.map Message.id at mem
      rw [empty] at mem
      cases mem

end Pool

end Chatterbox
