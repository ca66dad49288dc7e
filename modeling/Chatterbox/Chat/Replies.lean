import Chatterbox.Chat.Activities
import Chatterbox.Chat.ReplyPreview
import Chatterbox.Tables.References

/-!
What a stored message quotes. A send loads the quoted message before it inserts the reply,
and in between a message can be edited or deleted, but not leave its table or its
conversation.
-/
namespace Chatterbox
open Concurrency Tables

/-- Every quoted message is older, and of the same conversation. -/
def QuotesBack (db : ChatDatabase) : Prop :=
  Backward (fun o => o.1) (fun o => o.2.2.2.2.2.1)
    (fun o quoted => quoted.2.2.2.1 = o.2.2.2.1) db.origins

/-- The messages of the table stand in the order of their inserts. -/
structure ChatDatabase.RepliesBack (db : ChatDatabase) : Prop where
  earlier : ∀ before m after, db.messages = before ++ m :: after →
    ∀ id, m.replyToMessageId = some id →
      ∃ quoted ∈ before, quoted.id = id ∧ quoted.conversationId = m.conversationId
  wellFounded : WellFounded (Refers Message.id Message.replyToMessageId db.messages)
  ends : ∀ m ∈ db.messages,
    follow Message.id Message.replyToMessageId db.messages db.messages.length m = none

theorem repliesBack_of_origins {db : ChatDatabase} (keyed : Keyed Message.id db.messages)
    (back : QuotesBack db) : db.RepliesBack := by
  have rows : Backward Message.id Message.replyToMessageId
      (fun m quoted => quoted.conversationId = m.conversationId) db.messages := back.of_map
  refine ⟨fun before m after cut id is => rows.before cut is,rows.wellFounded keyed,?_⟩
  intro m mem
  have ends : follow Message.id Message.replyToMessageId (db.messages ++ []) db.messages.length m =
      none := rows.follow_ends (by rwa [List.append_nil]) mem (Nat.le_refl _)
  rwa [List.append_nil] at ends

section Pool
variable {ι : Type} [DecidableEq ι] {ilike : JsString → JsString → Bool}
  {activities : ι → Activity} {ambs : ι → Ambient} {w : ChatWorld} {schedule : List ι}

/-- A statement and the quotes of the messages. -/
theorem quotesBack_step (distinct : Distinct ambs)
    {before later : List (Issued ChatRequest ChatWorld ι)} {e : Issued ChatRequest ChatWorld ι}
    (cut : (activityPool ilike activities ambs w).trace chatHandler schedule =
      before ++ e :: later)
    (grown : Grown ambs before e.before) (back : QuotesBack e.before.chat) :
    QuotesBack (chatHandler.answer e.request e.before).2.chat := by
  rcases (grown_step distinct cut grown).2 with same | ⟨m,appends⟩
  · rwa [QuotesBack, same]
  · rw [QuotesBack, appends.grown]
    refine .snoc back fun id is => ?_
    obtain ⟨load,own,_,row,stored,rowId,home⟩ := appends.quotes id is
    have earlier := grown.kept load (List.mem_of_mem_filter own)
    exact ⟨row.origin,earlier.subset (List.mem_map_of_mem stored),rowId,home⟩

/-- Whatever goes on at once: a quoted message is stored, in the conversation of the reply and
    before it, and who goes from replies to what they quote comes to an end. -/
theorem replies_back (distinct : Distinct ambs) (empty : w.chat = ⟨[],[],[],[]⟩) :
    ((activityPool ilike activities ambs w).run chatHandler schedule).state.chat.RepliesBack := by
  have start : QuotesBack w.chat := by
    rw [empty]
    exact .nil
  obtain ⟨grown,back⟩ := activity_run distinct empty (fun _ s => QuotesBack s.chat) start
    (fun before e later cut grown back => quotesBack_step distinct cut grown back)
  exact repliesBack_of_origins grown.keyed back

end Pool

/-- The uuids of a server that gives one to each of its activities in turn. -/
def sharedDraws (n : ℕ) (i : Fin n) : Ambient :=
  { now := 1000 * (i + 1), uuid := fun k => 100 + i + n * k, salt := fun _ => 0, usernames := [] }

theorem distinct_sharedDraws (n : ℕ) : Distinct (sharedDraws n) := by
  intro i j k l same
  have sum : i + n * k = j + n * l := by
    change 100 + (i : ℕ) + n * k = 100 + (j : ℕ) + n * l at same
    omega
  have first : (i : ℕ) = j := by
    have rest := congrArg (· % n) sum
    simpa [Nat.add_mul_mod_self_left, Nat.mod_eq_of_lt i.isLt, Nat.mod_eq_of_lt j.isLt] using rest
  have positive : 0 < n := by
    have bound := i.isLt
    omega
  refine ⟨Fin.ext first,Nat.eq_of_mul_eq_mul_left positive ?_⟩
  omega

/-- User 1 opens a conversation with user 2, who replies to the first message. -/
def greetAndReply : Fin 2 → Activity
  | 0 => .request 1 (.createConversation ⟨2,[104, 105]⟩)
  | 1 => .request 2 (.sendMessage ⟨100,[121, 111],some 108,none⟩)

theorem replies_back_in_conversation :
    ((activityPool noMatch greetAndReply (sharedDraws 2) emptyWorld).run chatHandler
      (List.replicate 20 0 ++ List.replicate 20 1)).state.chat.RepliesBack ∧
    ((activityPool noMatch greetAndReply (sharedDraws 2) emptyWorld).run chatHandler
      (List.replicate 20 0 ++ List.replicate 20 1)).state.chat.messages.map
        (fun m => (m.id, m.replyToMessageId)) = [(108, none), (101, some 108)] :=
  ⟨replies_back (distinct_sharedDraws 2) rfl,by decide⟩

end Chatterbox
