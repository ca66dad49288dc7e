import Chatterbox.Chat.BlockShield
import Chatterbox.Chat.Steps

/-!
Edits of a message around its deletion for everyone. An edit looks at `deleted_at` in the copy
it has loaded, and neither its update nor the publication of its event looks again.
-/
namespace Chatterbox
open Concurrency Tables

/-- The gateway operation that issues the command. -/
def MessageCommand.operation : MessageCommand → ChatOperation
  | edit command => .editMessage ⟨command.conversationId,command.messageId,command.text⟩
  | delete command => .deleteMessage ⟨command.conversationId,command.messageId,command.scope⟩

namespace ChatRequest

def publishesEdit (messageId : Uuid) : {β : Type} → ChatRequest β → Bool
  | _, .bus (.publish (.edited event)) => event.messageId = messageId
  | _, _ => false

def updates (messageId : Uuid) : {β : Type} → ChatRequest β → Bool
  | _, .store (.updateMessage id _ _ _) => id = messageId
  | _, _ => false

end ChatRequest

section Steps
variable {ι : Type} {command : MessageCommand} {amb : Ambient} {actor : Uuid}
  {operation : ChatOperation} {past : List (Issued ChatRequest ChatWorld ι)} {β : Type}
  {q : ChatRequest β} {s : ChatWorld} {messageId : Uuid}

theorem steps_messageCommand (amb : Ambient) (actor : Uuid) (now : Time) (command : MessageCommand)
    (i : ι) : AlongOperation amb actor command.operation i
      ([] : List (Issued ChatRequest ChatWorld ι)) (command.execute now) := by
  cases command with
  | edit c => exact steps_editMessage now c
  | delete c => exact steps_deleteMessage rfl now c rfl

theorem edits_of_plain (plain : q.plain = true) :
    q.updates messageId = false ∧ q.publishesEdit messageId = false := by
  cases q with
  | user q => exact ⟨rfl,rfl⟩
  | store q => cases q <;> first | exact ⟨rfl,rfl⟩ | cases plain
  | bus q =>
    cases q with
    | broadcast rooms event => exact ⟨rfl,rfl⟩
    | publish event => cases event <;> first | exact ⟨rfl,rfl⟩ | cases plain

/-- A message whose edit is saved or published was not deleted when it was loaded. -/
theorem edit_loaded (step : OperationStep amb actor operation past q)
    (edits : q.updates messageId = true ∨ q.publishesEdit messageId = true) :
    LoadedWith (fun row => row.deletedAt = none) past messageId := by
  cases step with
  | plain plain =>
    obtain ⟨update,publication⟩ := edits_of_plain plain
    rw [update, publication] at edits
    simp at edits
  | edited loaded =>
    have same := of_decide_eq_true (edits.resolve_left Bool.false_ne_true)
    rwa [← same]
  | text loaded =>
    have same := of_decide_eq_true (edits.resolve_right Bool.false_ne_true)
    rwa [← same]
  | _ => simp [ChatRequest.updates, ChatRequest.publishesEdit] at edits

/-- Only an update of the message changes its text. -/
theorem messageStep_text (step : MessageStep command past q s)
    (other : q.updates messageId = false) :
    (chatHandler.answer q s).2.chat.textOf messageId = s.chat.textOf messageId := by
  cases step with
  | quiet _ messages =>
    unfold ChatDatabase.textOf ChatDatabase.message
    rw [messages]
  | @text id text editedAt updatedAt =>
    have away : id ≠ messageId := of_decide_eq_false other
    change (s.chat.updateMessage id text editedAt updatedAt).textOf messageId = _
    unfold ChatDatabase.textOf
    rw [message_updateMessage]
    cases found : s.chat.message messageId with
    | none => rfl
    | some m =>
      have here : m.id = messageId := (lookup_mem found).2
      simp [here, away.symm]
  | save => exact textOf_storeDeletion ..

end Steps

section Pool
variable {ι : Type} [DecidableEq ι] {commands : ι → MessageCommand} {nows : ι → Time}
  {w : ChatWorld} {messageId : Uuid} {schedule : List ι}

/-- The step saves an edit or a delete-for-me of the message, or publishes an edit of it. -/
def Rewrites (commands : ι → MessageCommand) (messageId : Uuid)
    (e : Issued ChatRequest ChatWorld ι) : Bool :=
  e.request.updates messageId || e.request.publishesEdit messageId ||
    ((commands e.thread).deletes messageId .me && e.request.saves messageId)

/-- No command that has loaded the message before a delete-for-everyone of it committed saves
    or publishes it afterwards. -/
def NoStaleRewrite (commands : ι → MessageCommand) (messageId : Uuid)
    (trace : List (Issued ChatRequest ChatWorld ι)) : Prop :=
  trace.Pairwise fun load step => load.thread = step.thread →
    load.request.loads messageId = true → Rewrites commands messageId step = true →
    Gone messageId step.before → Gone messageId load.before

instance (commands : ι → MessageCommand) (messageId : Uuid)
    (trace : List (Issued ChatRequest ChatWorld ι)) :
    Decidable (NoStaleRewrite commands messageId trace) :=
  inferInstanceAs (Decidable (trace.Pairwise _))

/-- The commit of a delete-for-everyone of the message. -/
def Removes (commands : ι → MessageCommand) (messageId : Uuid)
    (e : Issued ChatRequest ChatWorld ι) : Bool :=
  e.request.saves messageId && (commands e.thread).deletes messageId .everyone

/-- The text that the step leaves in the message. -/
def textAfter (messageId : Uuid) (e : Issued ChatRequest ChatWorld ι) : Option JsString :=
  (chatHandler.answer e.request e.before).2.chat.textOf messageId

/-- After every delete-for-everyone of the message its text stays what it is there, at each of
    the following steps and in the end, and none of them publishes an edit. -/
def TextFinal (commands : ι → MessageCommand) (messageId : Uuid)
    (past : List (Issued ChatRequest ChatWorld ι)) (s : ChatWorld) : Prop :=
  (past.Pairwise fun e f => Removes commands messageId e = true →
      f.request.publishesEdit messageId = false ∧
        f.before.chat.textOf messageId = textAfter messageId e) ∧
    ∀ e ∈ past, Removes commands messageId e = true →
      s.chat.textOf messageId = textAfter messageId e

instance (commands : ι → MessageCommand) (messageId : Uuid)
    (past : List (Issued ChatRequest ChatWorld ι)) (s : ChatWorld) :
    Decidable (TextFinal commands messageId past s) :=
  inferInstanceAs (Decidable ((past.Pairwise _) ∧ ∀ e ∈ past, _))

/-- A step of a command, with what the command has loaded before it. -/
theorem rewrites_at {before later : List (Issued ChatRequest ChatWorld ι)}
    {e : Issued ChatRequest ChatWorld ι}
    (cut : (messagePool commands nows w).trace chatHandler schedule = before ++ e :: later) :
    OperationStep ⟨nows e.thread,id,id,[]⟩ 0 (commands e.thread).operation
      (Pool.ownSteps e.thread before) e.request := by
  have along : ∀ i, ((messagePool commands nows w).threads i).Along chatAnswering
      (fun past f => OperationStep ⟨nows f.thread,id,id,[]⟩ 0 (commands f.thread).operation past
        f.request) i [] := by
    intro i
    refine (steps_messageCommand ⟨nows i,id,id,[]⟩ 0 (nows i) (commands i) i).weaken ?_
    intro _ _ own step
    rwa [own]
  exact Pool.along_run chatHandler_answers along schedule cut

/-- A step after a delete-for-everyone that is still in force. -/
theorem settled_gone {before later : List (Issued ChatRequest ChatWorld ι)}
    {e : Issued ChatRequest ChatWorld ι}
    (cut : (messagePool commands nows w).trace chatHandler schedule = before ++ e :: later)
    (fresh : NoStaleRewrite commands messageId
      ((messagePool commands nows w).trace chatHandler schedule))
    (gone : Gone messageId e.before) :
    Gone messageId (chatHandler.answer e.request e.before).2 ∧
      e.request.updates messageId = false ∧ e.request.publishesEdit messageId = false := by
  have stale : Rewrites commands messageId e = true → ∀ load ∈ Pool.ownSteps e.thread before,
      load.request.loads messageId = true → Gone messageId load.before := by
    intro rewrites load own loads
    obtain ⟨known,thread⟩ := List.mem_filter.mp own
    have order : [load, e].Sublist ((messagePool commands nows w).trace chatHandler schedule) := by
      rw [cut]
      exact (List.singleton_sublist.mpr known).append
        (List.singleton_sublist.mpr List.mem_cons_self)
    exact List.pairwise_iff_forall_sublist.mp fresh order (of_decide_eq_true thread) loads
      rewrites gone
  have noEdit : ¬ (e.request.updates messageId = true ∨
      e.request.publishesEdit messageId = true) := by
    intro edits
    obtain ⟨load,own,loads,row,stored,id,live⟩ := edit_loaded (rewrites_at cut) edits
    have rewrites : Rewrites commands messageId e = true := by
      rcases edits with update | publication <;> simp [Rewrites, *]
    exact stale rewrites load own loads row stored id live
  refine ⟨?_,by simpa using fun is => noEdit (Or.inl is),by simpa using fun is => noEdit (Or.inr is)⟩
  refine messageStep_gone (messageStep_at cut) gone fun me saves => stale ?_
  simp [Rewrites, me, saves]

/-- As long as no edit and no delete-for-me rewrites a copy from before a delete-for-everyone,
    the text is the same at every moment after the delete-for-everyone, and no edit of the message
    is published any more. -/
theorem text_final (fresh : NoStaleRewrite commands messageId
      ((messagePool commands nows w).trace chatHandler schedule)) :
    TextFinal commands messageId ((messagePool commands nows w).trace chatHandler schedule)
      ((messagePool commands nows w).run chatHandler schedule).state := by
  refine (Pool.trace_run (fun past s => TextFinal commands messageId past s ∧
    ∀ e ∈ past, Removes commands messageId e = true → Gone messageId s)
    (fun before e later cut known => ?_) ⟨⟨List.Pairwise.nil,by simp⟩,by simp⟩).1
  obtain ⟨⟨settled,text⟩,gone⟩ := known
  have old : ∀ save ∈ before, Removes commands messageId save = true →
      Gone messageId (chatHandler.answer e.request e.before).2 ∧
        e.request.updates messageId = false ∧ e.request.publishesEdit messageId = false :=
    fun save mem removes => settled_gone cut fresh (gone save mem removes)
  refine ⟨⟨List.pairwise_append.mpr ⟨settled,List.pairwise_singleton _ _,?_⟩,?_⟩,?_⟩
  · intro save mem f now removes
    rw [List.mem_singleton.mp now]
    exact ⟨(old save mem removes).2.2,text save mem removes⟩
  · intro save mem removes
    rcases List.mem_append.mp mem with earlier | now
    · have update := (old save earlier removes).2.1
      exact (messageStep_text (messageStep_at cut) update).trans (text save earlier removes)
    · rw [List.mem_singleton.mp now]
      rfl
  · intro save mem removes
    rcases List.mem_append.mp mem with earlier | now
    · exact (old save earlier removes).1
    · rw [List.mem_singleton.mp now] at removes
      obtain ⟨saves,everyone⟩ := Bool.and_eq_true_iff.mp removes
      exact messageStep_everyone (messageStep_at cut) everyone saves

end Pool

/-- User 1 edits the message and deletes it for everyone. -/
def editAndDelete (everyone : Bool) : MessageCommand :=
  if everyone then .delete ⟨200,100,1,.everyone⟩ else .edit ⟨200,100,1,[121, 111]⟩

/-- The edit has begun when the deletion commits, loads the message after that and is refused. -/
theorem text_final_overlapping :
    (∃ e ∈ (messagePool editAndDelete deleteTimes sentWorld).trace chatHandler
        ([true,false] ++ List.replicate 10 true ++ List.replicate 10 false),
      Removes editAndDelete 200 e = true) ∧
    TextFinal editAndDelete 200
      ((messagePool editAndDelete deleteTimes sentWorld).trace chatHandler
        ([true,false] ++ List.replicate 10 true ++ List.replicate 10 false))
      ((messagePool editAndDelete deleteTimes sentWorld).run chatHandler
        ([true,false] ++ List.replicate 10 true ++ List.replicate 10 false)).state :=
  ⟨by decide,text_final (by decide)⟩

/-- The edit has loaded the message before the deletion commits. -/
theorem text_edited_after_deletion :
    ¬ TextFinal editAndDelete 200
      ((messagePool editAndDelete deleteTimes sentWorld).trace chatHandler
        ([false,false,false] ++ List.replicate 10 true ++ List.replicate 10 false))
      ((messagePool editAndDelete deleteTimes sentWorld).run chatHandler
        ([false,false,false] ++ List.replicate 10 true ++ List.replicate 10 false)).state := by
  decide

end Chatterbox
