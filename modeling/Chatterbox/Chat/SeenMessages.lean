import Chatterbox.Chat.Replies

/-!
The message that a member has last seen. Every writer of the pointer but one takes it from a
row it has loaded or sets it to the message it stores; a mark as seen takes it from the
client, and only the foreign key to the messages looks at it.
-/
namespace Chatterbox
open Concurrency Tables

namespace ChatDatabase

/-- The message that the member has last seen is one of his conversation. -/
def HomeOf (db : ChatDatabase) (cm : ConversationMember) : Prop :=
  ∀ id, cm.lastSeenMessageId = some id →
    ∃ m ∈ db.messages, m.id = id ∧ m.conversationId = cm.conversationId

def SeenAtHome (db : ChatDatabase) : Prop := ∀ cm ∈ db.members, db.HomeOf cm

instance (db : ChatDatabase) (cm : ConversationMember) : Decidable (db.HomeOf cm) :=
  inferInstanceAs (Decidable (∀ id ∈ cm.lastSeenMessageId,
    ∃ m ∈ db.messages, m.id = id ∧ m.conversationId = cm.conversationId))

instance (db : ChatDatabase) : Decidable db.SeenAtHome :=
  inferInstanceAs (Decidable (∀ cm ∈ db.members, db.HomeOf cm))

end ChatDatabase

def Activity.marks : Activity → Option MarkMessageSeenRequest
  | .request _ (.markMessageSeen data) => some data
  | _ => none

section Pool
variable {ι : Type} [DecidableEq ι] {ilike : JsString → JsString → Bool}
  {activities : ι → Activity} {ambs : ι → Ambient} {w : ChatWorld} {schedule : List ι}

/-- The step is not the save of a mark as seen that names a message of another conversation. -/
def MarksAtHome (activities : ι → Activity) (e : Issued ChatRequest ChatWorld ι) : Prop :=
  ∀ data ∈ (activities e.thread).marks, e.request.writes = true →
    ∀ m ∈ e.before.chat.messages, m.id = data.messageId → m.conversationId = data.conversationId

instance (activities : ι → Activity) : DecidablePred (MarksAtHome activities) := fun e =>
  inferInstanceAs (Decidable (∀ data ∈ (activities e.thread).marks, e.request.writes = true →
    ∀ m ∈ e.before.chat.messages, m.id = data.messageId → m.conversationId = data.conversationId))

/-- As long as the saved marks name messages of their own conversations, what a member has last
    seen is a message of his conversation. -/
theorem seen_at_home (distinct : Distinct ambs) (empty : w.chat = ⟨[],[],[],[]⟩)
    (marks : (activityPool ilike activities ambs w).Respects chatHandler (MarksAtHome activities)
      schedule) :
    ((activityPool ilike activities ambs w).run chatHandler schedule).state.chat.SeenAtHome := by
  have start : w.chat.SeenAtHome ∧ ∀ e ∈ ([] : List (Issued ChatRequest ChatWorld ι)),
      e.before.chat.SeenAtHome := by
    rw [empty]
    exact ⟨by simp [ChatDatabase.SeenAtHome],by simp⟩
  refine (activity_run distinct empty (fun past s => s.chat.SeenAtHome ∧
    ∀ e ∈ past, e.before.chat.SeenAtHome) start fun before e later cut grown seen => ?_).2.1
  have all : ∀ f ∈ before ++ [e], f.before.chat.SeenAtHome :=
    List.forall_mem_append.mpr ⟨seen.2,by simpa using seen.1⟩
  refine ⟨?_,all⟩
  have kept := (grown_step distinct cut grown).1.kept e (by simp)
  rcases activityStep_at cut with plain | ⟨actor,operation,is,step⟩
  · rw [chat_of_reads (writes_of_plain plain)]
    exact seen.1
  · refine pointsHome_step pointerColumn_seen step kept.subset (fun load own => ?_)
      (fun data operation' writes m stored named => Or.inr ?_) seen.1
    · have mem := List.mem_of_mem_filter own
      exact ⟨seen.2 load mem,(grown.kept load mem).subset⟩
    · refine marks e ?_ data ?_ writes m stored named
      · rw [cut]
        simp
      · rw [is, operation']
        rfl

end Pool

/-- User 1 opens a conversation with each of the two others, and then a client marks a message
    of the conversation 100 as seen. -/
def twoGreetings (actor messageId : Uuid) : Fin 3 → Activity
  | 0 => .request 1 (.createConversation ⟨2,[104, 105]⟩)
  | 1 => .request 1 (.createConversation ⟨3,[121, 111]⟩)
  | 2 => .request actor (.markMessageSeen ⟨100,messageId⟩)

def oneAfterAnother : List (Fin 3) :=
  List.replicate 20 0 ++ List.replicate 20 1 ++ List.replicate 10 2

/-- User 2 marks the message that he has got. -/
theorem seen_at_home_after_mark : ((activityPool noMatch (twoGreetings 2 112) (sharedDraws 3)
    threeUsersWorld).run chatHandler oneAfterAnother).state.chat.SeenAtHome :=
  seen_at_home (distinct_sharedDraws 3) rfl (by decide)

/-- User 1 marks the message of one conversation in the other. -/
theorem seen_elsewhere : ¬ ((activityPool noMatch (twoGreetings 1 113) (sharedDraws 3)
    threeUsersWorld).run chatHandler oneAfterAnother).state.chat.SeenAtHome := by decide

end Chatterbox
