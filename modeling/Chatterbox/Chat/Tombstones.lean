import Chatterbox.Chat.Queries
import Chatterbox.Concurrency.OwnSteps

/-!
Edits and deletions of messages side by side. A deletion writes `deleted_at` from the copy
it has loaded, for both scopes, so a delete-for-me can take back a delete-for-everyone
that has committed since. Without such a save a message that is deleted for everyone stays
deleted, and what clients are shown of it stays empty.
-/
namespace Chatterbox
open Concurrency Tables ConversationPostgresRepository

inductive MessageCommand where
  | edit (command : EditMessageCommand)
  | delete (command : DeleteMessageCommand)
  deriving DecidableEq, Repr

namespace MessageCommand

def execute (now : Time) : MessageCommand → ChatProgram LoadedMessage
  | edit command => EditMessageHandler.execute now command
  | delete command => DeleteMessageHandler.execute now command

/-- The scope of a deletion of this message. -/
def deletes (messageId : Uuid) (scope : MessageDeleteScope) : MessageCommand → Bool
  | edit _ => false
  | delete command => command.messageId = messageId && command.scope = scope

end MessageCommand

namespace ChatRequest

def loads (messageId : Uuid) : {β : Type} → ChatRequest β → Bool
  | _, .store (.getMessage id) => id = messageId
  | _, _ => false

/-- The transaction that saves a deletion of the message. -/
def saves (messageId : Uuid) : {β : Type} → ChatRequest β → Bool
  | _, .store (.commitDeletion deletion _) => deletion.messageId = messageId
  | _, _ => false

end ChatRequest

/-- The message is deleted for everyone. -/
def Gone (messageId : Uuid) (w : ChatWorld) : Prop :=
  ∀ m ∈ w.chat.messages, m.id = messageId → m.deletedAt ≠ none

instance (messageId : Uuid) (w : ChatWorld) : Decidable (Gone messageId w) :=
  inferInstanceAs (Decidable (∀ m ∈ w.chat.messages, m.id = messageId → m.deletedAt ≠ none))

/-- No client is shown the text of the message: not in a message list, not as a quoted
    message, not as the last message of a conversation. -/
structure Masked (messageId : Uuid) (w : ChatWorld) : Prop where
  listed : ∀ now conversationId userId pagination result v,
    (ConversationPostgresReadRepository.getUserConversationMessageList now conversationId userId
      pagination).run chatHandler w = (.ok result, v) →
    ∀ dto ∈ result.data, (dto.id = messageId → dto.text = [] ∧ dto.deletedAt ≠ none) ∧
      ∀ r, dto.replyTo = some r → r.id = messageId → r.text = none
  last : ∀ userId filterUserIds pagination result v,
    (ConversationPostgresReadRepository.getUserConversationList userId filterUserIds
      pagination).run chatHandler w = (.ok result, v) →
    ∀ dto ∈ result.data, ∀ m, dto.lastMessage = some m → m.id = messageId → m.text = []
  loaded : ∀ m v, (getMessageById messageId).run chatHandler w = (.ok (some m), v) →
    m.message.deletedAt ≠ none

variable {ι : Type} {commands : ι → MessageCommand}

/-- What one step of an edit or a deletion can do to the messages, after the steps that its
    command has made before. -/
inductive MessageStep (command : MessageCommand) (past : List (Issued ChatRequest ChatWorld ι)) :
    {β : Type} → ChatRequest β → ChatWorld → Prop where
  | quiet {β : Type} {q : ChatRequest β} {s : ChatWorld} (noSave : ∀ id, q.saves id = false)
      (messages : (chatHandler.answer q s).2.chat.messages = s.chat.messages) :
      MessageStep command past q s
  | text {id : Uuid} {text : JsString} {editedAt : Option Time} {updatedAt : Time}
      {s : ChatWorld} :
      MessageStep command past (.store (.updateMessage id text editedAt updatedAt)) s
  | save {deletion : MessageDeletion} {members : List ConversationMember} {s : ChatWorld}
      {load : Issued ChatRequest ChatWorld ι} {row : Message} (before : load ∈ past)
      (loads : load.request.loads deletion.messageId = true)
      (mem : row ∈ load.before.chat.messages) (id : row.id = deletion.messageId)
      (deletedAt : deletion.deletedAt ≠ none ∨
        (command.deletes deletion.messageId .me = true ∧ row.deletedAt = none)) :
      MessageStep command past (.store (.commitDeletion deletion members)) s

theorem saves_of_reads {β : Type} {q : ChatRequest β} (reads : q.writes = false) (id : Uuid) :
    q.saves id = false := by
  cases q with
  | user q => rfl
  | store q => cases q <;> first | rfl | cases reads
  | bus q => rfl

theorem messageStep_quiet {command : MessageCommand} {past : List (Issued ChatRequest ChatWorld ι)}
    {β : Type} {q : ChatRequest β} (s : ChatWorld) (reads : q.writes = false) :
    MessageStep command past q s :=
  .quiet (saves_of_reads reads) (by rw [chat_of_reads reads])

section Commands
variable {command : MessageCommand} {i : ι} {past : List (Issued ChatRequest ChatWorld ι)}

abbrev AlongMessage {α : Type} (command : MessageCommand) (i : ι)
    (past : List (Issued ChatRequest ChatWorld ι)) (p : ChatProgram α) : Prop :=
  p.Along chatHandler.answering (fun past e => MessageStep command past e.request e.before) i past

theorem along_quiet {α : Type} {p : ChatProgram α} (only : Quiet p)
    (past : List (Issued ChatRequest ChatWorld ι)) : AlongMessage command i past p :=
  only.along (fun _ _ _ s reads => messageStep_quiet s reads) past

theorem along_query {α β : Type} {q : StoreRequest (Answer α)} {f : α → ChatProgram β}
    (good : ∀ s, MessageStep command past (.store q) s)
    (next : ∀ s a, (ChatDatabase.answer q s.chat).1 = .ok a →
      AlongMessage command i (past ++ [⟨i,_,.store q,s⟩]) (f a)) :
    AlongMessage command i past (query q >>= f) := by
  refine fun s => ⟨good s,fun b answered => ?_⟩
  cases b with
  | error e => trivial
  | ok a => exact next s a answered.symm

/-- The save of a deletion and what follows it. -/
theorem along_saveMessageDeletion {message : MessageEntity}
    {load : Issued ChatRequest ChatWorld ι} {row : Message} (before : load ∈ past)
    (loads : load.request.loads message.id = true) (mem : row ∈ load.before.chat.messages)
    (id : row.id = message.id)
    (deletedAt : message.deletedAt ≠ none ∨
      (command.deletes message.id .me = true ∧ row.deletedAt = none))
    {f : Option LoadedMessage → ChatProgram LoadedMessage}
    (rest : ∀ m, Quiet (f m)) :
    AlongMessage command i past (saveMessageDeletion message >>= f) := by
  unfold saveMessageDeletion
  simp only [Program.bind_assoc]
  refine along_query (fun s => messageStep_quiet s rfl) fun s members _ => ?_
  refine Program.along_bind (plain_movePointers _ members).quiet
    (fun _ _ _ s reads => messageStep_quiet s reads) _ fun moved later _ => ?_
  refine along_query (fun _ => .save (List.mem_append_left _
    (List.mem_append_left _ before)) loads mem id deletedAt) fun _ _ _ => ?_
  exact along_quiet ((plain_getMessageById _).quiet.bind rest) _

theorem along_requireMember {conversationId userId : Uuid}
    {f : ConversationMemberEntity → ChatProgram LoadedMessage}
    (next : ∀ member later, AlongMessage command i (past ++ later) (f member)) :
    AlongMessage command i past (requireMember conversationId userId >>= f) :=
  Program.along_bind (plain_requireMember conversationId userId).quiet
    (fun _ _ _ s reads => messageStep_quiet s reads) past fun member later _ => next member later

theorem along_requireMessage {conversationId messageId : Uuid}
    {f : LoadedMessage → ChatProgram LoadedMessage}
    (next : ∀ (s : ChatWorld) row reply deleted later, row ∈ s.chat.messages →
      row.id = messageId →
      AlongMessage command i (past ++ [⟨i,_,.store (.getMessage messageId),s⟩] ++ later)
        (f (.ofRows row reply deleted))) :
    AlongMessage command i past (requireMessage conversationId messageId >>= f) := by
  rw [requireMessage_bind]
  refine along_query (fun s => messageStep_quiet s rfl) fun s rows answered => ?_
  cases rows with
  | none => trivial
  | some rows =>
    obtain ⟨row,reply⟩ := rows
    refine along_query (fun s => messageStep_quiet s rfl) fun s' deleted _ => ?_
    split
    · trivial
    · obtain ⟨m,found,is⟩ := Option.map_eq_some_iff.mp (Except.ok.inj answered)
      obtain ⟨mem,id⟩ := lookup_mem found
      cases is
      exact next s _ _ deleted _ mem id

/-- Every step of a command is one of these steps. -/
theorem along_execute (now : Time) (command : MessageCommand) (i : ι) :
    AlongMessage command i [] (command.execute now) := by
  cases command with
  | edit c =>
    refine along_requireMember fun member later => ?_
    refine along_requireMessage fun s row reply deleted later' mem id => ?_
    cases edited : (LoadedMessage.ofRows row reply deleted).message.edit now c.text member.id with
    | error e => trivial
    | ok edited =>
      simp only [Program.lift_ok, Program.done_bind, updateMessage, Program.bind_assoc]
      refine along_query (fun _ => .text) fun _ _ _ => ?_
      exact along_quiet ((plain_getMessageById _).quiet.bind fun saved =>
        (quiet_publishAll _).bind fun _ => (plain_requireSaved saved).quiet) _
  | delete c =>
    refine along_requireMember fun member later => ?_
    refine along_requireMessage fun s row reply deleted later' mem id => ?_
    cases is : DeleteMessageHandler.delete now c member.id
        (LoadedMessage.ofRows row reply deleted).message with
    | error e => trivial
    | ok d =>
      simp only [Program.lift_ok, Program.done_bind]
      obtain ⟨sameId,_,deletedAt⟩ := delete_ok is
      have loaded : d.1.id = row.id := sameId.trans (MessageEntity.loadDeletedForUserIds_id ..)
      have target : d.1.id = c.messageId := loaded.trans id
      let load : Issued ChatRequest ChatWorld ι := ⟨i,_,.store (.getMessage c.messageId),s⟩
      have before : load ∈ [] ++ later ++ [load] ++ later' := by simp
      have loads : load.request.loads d.1.id = true := by simp [load, ChatRequest.loads, target]
      refine along_saveMessageDeletion before loads mem loaded.symm ?_ fun saved =>
        (quiet_publishAll _).bind fun _ => (plain_requireSaved saved).quiet
      refine deletedAt.imp_right fun ⟨scope,live⟩ => ⟨?_,?_⟩
      · simp [MessageCommand.deletes, target, scope]
      · rwa [LoadedMessage.ofRows, MessageEntity.loadDeletedForUserIds_deletedAt] at live

end Commands

/-- What clients are shown of a message that is deleted for everyone. -/
theorem masked_of_gone {messageId : Uuid} {w : ChatWorld} (gone : Gone messageId w) :
    Masked messageId w := by
  refine ⟨fun now conversationId userId pagination result v run dto mem => ?_,
    fun userId filterUserIds pagination result v run dto mem last shown id => ?_,
    fun m v run => ?_⟩
  · obtain ⟨deletedForMe,run',_⟩ :=
      run_getUserConversationMessageList now conversationId userId pagination w
    rw [run'] at run
    cases run
    obtain ⟨row,memRow,rfl⟩ := List.mem_map.mp mem
    obtain ⟨stored,_,_,quotes⟩ := mem_listMessages memRow
    refine ⟨fun id => ?_,fun r shown id => ?_⟩
    · have dead := gone row.message stored id
      simp [ConversationPostgresReadRepository.toMessageDto, Option.isSome_iff_ne_none.mpr dead,
        dead]
    · obtain ⟨rm,replies,rfl⟩ := Option.map_eq_some_iff.mp shown
      obtain ⟨_,_,found⟩ := Option.bind_eq_some_iff.mp (quotes rm replies)
      have dead := gone rm.1 (lookup_mem found).1 id
      simp [ConversationPostgresReadRepository.toQuotedDto, Option.isSome_iff_ne_none.mpr dead]
  · rw [run_getUserConversationList] at run
    cases run
    obtain ⟨row,memRow,rfl⟩ := List.mem_map.mp mem
    obtain ⟨_,_,pointed⟩ := mem_listConversations memRow
    obtain ⟨m,is,rfl⟩ := Option.map_eq_some_iff.mp shown
    rw [pointed] at is
    obtain ⟨_,_,found⟩ := Option.bind_eq_some_iff.mp is
    have dead := gone m (lookup_mem found).1 id
    simp [ConversationPostgresReadRepository.toLastMessageDto, Option.isSome_iff_ne_none.mpr dead]
  · rw [run_getMessageById] at run
    obtain ⟨loaded,_⟩ := Prod.mk.inj run
    obtain ⟨row,found,rfl⟩ := Option.map_eq_some_iff.mp (Except.ok.inj loaded)
    obtain ⟨mem,id⟩ := lookup_mem found
    rw [LoadedMessage.ofRows, MessageEntity.loadDeletedForUserIds_deletedAt]
    exact gone row mem id

section Steps
variable {command : MessageCommand} {past : List (Issued ChatRequest ChatWorld ι)} {β : Type}
  {q : ChatRequest β} {s : ChatWorld} {messageId : Uuid}

theorem messageStep_ids (step : MessageStep command past q s) :
    (chatHandler.answer q s).2.chat.messages.map Message.id = s.chat.messages.map Message.id := by
  cases step with
  | quiet _ messages => rw [messages]
  | @text _ text editedAt updatedAt =>
    have frame : ∀ m : Message, (m.withText text editedAt updatedAt).id = m.id := fun _ => rfl
    exact map_amend frame s.chat.messages
  | @save deletion =>
    have frame : ∀ m : Message, (deletion.mark m).id = m.id := fun _ => rfl
    exact map_amend frame s.chat.messages

/-- A message that is saved has been loaded. -/
theorem messageStep_loaded (step : MessageStep command past q s)
    (saves : q.saves messageId = true) :
    ∃ load ∈ past, messageId ∈ load.before.chat.messages.map Message.id := by
  cases step with
  | quiet noSave =>
    rw [noSave] at saves
    cases saves
  | text => cases saves
  | save before loads mem id deletedAt =>
    exact ⟨_,before,List.mem_map.mpr ⟨_,mem,id.trans (of_decide_eq_true saves)⟩⟩

/-- A step takes a deletion for everyone back only when it saves a delete-for-me that has
    loaded the message before. -/
theorem messageStep_gone (step : MessageStep command past q s) (gone : Gone messageId s)
    (fresh : command.deletes messageId .me = true → q.saves messageId = true →
      ∀ load ∈ past, load.request.loads messageId = true → Gone messageId load.before) :
    Gone messageId (chatHandler.answer q s).2 := by
  intro m mem id
  cases step with
  | quiet _ messages =>
    rw [messages] at mem
    exact gone m mem id
  | text =>
    rcases mem_amend.mp mem with ⟨m',mem',_,rfl⟩ | ⟨mem',_⟩
    · exact gone m' mem' id
    · exact gone m mem' id
  | @save deletion members s load row before loads memRow idRow deletedAt =>
    rcases mem_amend.mp mem with ⟨m',mem',hit,rfl⟩ | ⟨mem',_⟩
    · have target : deletion.messageId = messageId := (of_decide_eq_true hit).symm.trans id
      subst target
      rcases deletedAt with dead | ⟨me,live⟩
      · exact dead
      · have loaded := fresh me (decide_eq_true rfl) load before loads
        exact absurd live (loaded row memRow idRow)
    · exact gone m mem' id

/-- The save of a delete-for-everyone. -/
theorem messageStep_everyone (step : MessageStep command past q s)
    (everyone : command.deletes messageId .everyone = true) (saves : q.saves messageId = true) :
    Gone messageId (chatHandler.answer q s).2 := by
  cases step with
  | quiet noSave =>
    rw [noSave] at saves
    cases saves
  | text => cases saves
  | @save deletion members s load row before loads memRow idRow deletedAt =>
    have target : deletion.messageId = messageId := of_decide_eq_true saves
    subst target
    have dead : deletion.deletedAt ≠ none := by
      refine deletedAt.resolve_right fun ⟨me,_⟩ => ?_
      cases command with
      | edit c => cases me
      | delete c =>
        simp only [MessageCommand.deletes, Bool.and_eq_true, decide_eq_true_eq] at me everyone
        rw [me.2] at everyone
        cases everyone.2
    intro m mem id
    rcases mem_amend.mp mem with ⟨m',_,_,rfl⟩ | ⟨_,miss⟩
    · exact dead
    · exact absurd id (of_decide_eq_false miss)

end Steps

section Pool
variable [DecidableEq ι] {nows : ι → Time} {w : ChatWorld} {messageId : Uuid}

def messagePool (commands : ι → MessageCommand) (nows : ι → Time) (w : ChatWorld) :
    Pool ChatRequest Failure LoadedMessage ChatWorld ι :=
  ⟨w,fun i => (commands i).execute (nows i)⟩

/-- No delete-for-me that has loaded the message before a delete-for-everyone of it
    committed saves it afterwards. -/
def NoStaleSave (commands : ι → MessageCommand) (messageId : Uuid)
    (trace : List (Issued ChatRequest ChatWorld ι)) : Prop :=
  trace.Pairwise fun load save => load.thread = save.thread →
    (commands save.thread).deletes messageId .me = true → load.request.loads messageId = true →
    save.request.saves messageId = true → Gone messageId save.before → Gone messageId load.before

instance (commands : ι → MessageCommand) (messageId : Uuid)
    (trace : List (Issued ChatRequest ChatWorld ι)) :
    Decidable (NoStaleSave commands messageId trace) :=
  inferInstanceAs (Decidable (trace.Pairwise _))

variable {commands : ι → MessageCommand}

/-- Every step of a run is a step of its command, after the steps the command has made. -/
theorem messageStep_at {schedule : List ι} {before later : List (Issued ChatRequest ChatWorld ι)}
    {e : Issued ChatRequest ChatWorld ι}
    (cut : (messagePool commands nows w).trace chatHandler schedule = before ++ e :: later) :
    MessageStep (commands e.thread) (Pool.ownSteps e.thread before) e.request e.before := by
  have along : ∀ i, ((messagePool commands nows w).threads i).Along chatHandler.answering
      (fun past e => MessageStep (commands e.thread) past e.request e.before) i [] := fun i =>
    (along_execute (nows i) (commands i) i).weaken fun _ _ own step => by rwa [own]
  exact Pool.along_run chatHandler.answers along schedule cut

/-- The deletions for everyone that a run has saved are still in force. -/
def Kept (commands : ι → MessageCommand) (messageId : Uuid)
    (past : List (Issued ChatRequest ChatWorld ι)) (s : ChatWorld) : Prop :=
  ∀ e ∈ past, e.request.saves messageId = true →
    (commands e.thread).deletes messageId .everyone = true → Gone messageId s

theorem kept_run {schedule : List ι}
    (fresh : NoStaleSave commands messageId
      ((messagePool commands nows w).trace chatHandler schedule)) :
    Kept commands messageId ((messagePool commands nows w).trace chatHandler schedule)
      ((messagePool commands nows w).run chatHandler schedule).state := by
  refine Pool.trace_run (Kept commands messageId) (fun before e later cut kept => ?_) (by
    intro e mem
    cases mem)
  have step := messageStep_at cut
  intro save mem saves everyone
  rcases List.mem_append.mp mem with old | now
  · refine messageStep_gone step (kept save old saves everyone) fun me again load own loads => ?_
    obtain ⟨known,thread⟩ := List.mem_filter.mp own
    have order : [load, e].Sublist ((messagePool commands nows w).trace chatHandler schedule) := by
      rw [cut]
      exact (List.singleton_sublist.mpr known).append
        (List.singleton_sublist.mpr List.mem_cons_self)
    exact List.pairwise_iff_forall_sublist.mp fresh order (of_decide_eq_true thread) me loads
      again (kept save old saves everyone)
  · rw [List.mem_singleton.mp now] at saves everyone
    exact messageStep_everyone step everyone saves

/-- The messages are those of the start, here and at every step before. -/
def SameMessages (w : ChatWorld) (past : List (Issued ChatRequest ChatWorld ι))
    (s : ChatWorld) : Prop :=
  s.chat.messages.map Message.id = w.chat.messages.map Message.id ∧
    ∀ e ∈ past, e.before.chat.messages.map Message.id = w.chat.messages.map Message.id

theorem sameMessages_run (commands : ι → MessageCommand) (nows : ι → Time) (schedule : List ι) :
    SameMessages w ((messagePool commands nows w).trace chatHandler schedule)
      ((messagePool commands nows w).run chatHandler schedule).state := by
  refine Pool.trace_run (SameMessages w) (fun before e later cut known => ?_) ⟨rfl,by simp⟩
  refine ⟨(messageStep_ids (messageStep_at cut)).trans known.1,fun f mem => ?_⟩
  rcases List.mem_append.mp mem with old | now
  · exact known.2 f old
  · rw [List.mem_singleton.mp now]
    exact known.1

/-- As long as no delete-for-me saves a copy from before a delete-for-everyone, a message
    that has been deleted for everyone stays deleted, and no client is shown its text. -/
theorem deletedForEveryone_final {schedule : List ι}
    (fresh : NoStaleSave commands messageId
      ((messagePool commands nows w).trace chatHandler schedule))
    {save : Issued ChatRequest ChatWorld ι}
    (mem : save ∈ (messagePool commands nows w).trace chatHandler schedule)
    (saves : save.request.saves messageId = true)
    (everyone : (commands save.thread).deletes messageId .everyone = true) :
    (∃ m ∈ ((messagePool commands nows w).run chatHandler schedule).state.chat.messages,
      m.id = messageId) ∧
      Gone messageId ((messagePool commands nows w).run chatHandler schedule).state ∧
      Masked messageId ((messagePool commands nows w).run chatHandler schedule).state := by
  have gone := kept_run fresh save mem saves everyone
  refine ⟨?_,gone,masked_of_gone gone⟩
  have same : SameMessages w _ _ := sameMessages_run commands nows schedule
  obtain ⟨final,earlier⟩ := same
  obtain ⟨before,later,cut⟩ := List.append_of_mem mem
  obtain ⟨load,own,known⟩ := messageStep_loaded (messageStep_at cut) saves
  have loaded : load ∈ (messagePool commands nows w).trace chatHandler schedule := by
    rw [cut]
    exact List.mem_append_left _ (List.mem_of_mem_filter own)
  rw [earlier load loaded, ← final] at known
  exact List.mem_map.mp known

end Pool

/-- The message 200 of user 1 in his conversation with user 2. -/
def sentWorld : ChatWorld :=
  { users := { users := [], blocks := [], published := [] }
    chat :=
      { conversations := [⟨100,.direct,none,none,none,1000,none⟩]
        members := [⟨101,1,100,some 200,some 200,1000,none⟩,⟨102,2,100,none,some 200,1000,none⟩]
        messages := [⟨200,[104, 105],.text,101,100,1000,1000,none,none,none,none⟩]
        deletedMessages := [] }
    published := []
    emitted := [] }

/-- User 1 deletes the message for everyone, and user 2 for himself. -/
def bothDelete (everyone : Bool) : MessageCommand :=
  .delete ⟨200,100,if everyone then 1 else 2,if everyone then .everyone else .me⟩

def deleteTimes (everyone : Bool) : Time := if everyone then 2000 else 3000

/-- The delete-for-me has begun when the delete-for-everyone commits, and loads the message after
    that. -/
theorem deletedForEveryone_final_overlapping :
    Gone 200 ((messagePool bothDelete deleteTimes sentWorld).run chatHandler
      ([true,false] ++ List.replicate 10 true ++ List.replicate 10 false)).state := by
  obtain ⟨save,mem,saves,everyone⟩ : ∃ save ∈ (messagePool bothDelete deleteTimes sentWorld).trace
      chatHandler ([true,false] ++ List.replicate 10 true ++ List.replicate 10 false),
      save.request.saves 200 = true ∧ (bothDelete save.thread).deletes 200 .everyone = true :=
    by decide
  exact (deletedForEveryone_final (by decide) mem saves everyone).2.1

/-- The delete-for-me has loaded the message before the delete-for-everyone commits. -/
theorem deletedForEveryone_taken_back :
    (∃ save ∈ (messagePool bothDelete deleteTimes sentWorld).trace chatHandler
      ([false,false,false] ++ List.replicate 10 true ++ List.replicate 10 false),
      save.request.saves 200 = true ∧ (bothDelete save.thread).deletes 200 .everyone = true) ∧
    ¬ Gone 200 ((messagePool bothDelete deleteTimes sentWorld).run chatHandler
      ([false,false,false] ++ List.replicate 10 true ++ List.replicate 10 false)).state :=
  ⟨by decide,by decide⟩

end Chatterbox
