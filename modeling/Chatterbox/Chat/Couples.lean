import Chatterbox.Chat.ReadPositions

/-!
Direct conversations and their two members. The handlers look for the member who is not the
caller; a user without a conversation can open one with himself, and it has one member.
-/
namespace Chatterbox
open Concurrency Tables

namespace ChatDatabase

/-- The users of the live member rows of a conversation. -/
def usersOf (db : ChatDatabase) (conversationId : Uuid) : List Uuid :=
  (db.membersOf conversationId).map ConversationMember.userId

/-- Every live direct conversation has two live member rows, with two different users. -/
def Paired (db : ChatDatabase) : Prop :=
  ∀ c ∈ db.conversations, c.deletedAt = none → c.type = .direct →
    ∃ a b, db.usersOf c.id = [a, b] ∧ a ≠ b

theorem usersOf_identity (db : ChatDatabase) (conversationId : Uuid) :
    db.usersOf conversationId =
      (((db.members.map ConversationMember.identity).filter fun k => k.2.2.2.isNone).filter
        fun k => k.2.2.1 = conversationId).map fun k => k.2.1 := by
  rw [List.filter_map, List.filter_map, List.map_map]
  rfl

theorem usersOf_frame {db db' : ChatDatabase}
    (same : db'.members.map ConversationMember.identity =
      db.members.map ConversationMember.identity) (conversationId : Uuid) :
    db'.usersOf conversationId = db.usersOf conversationId := by
  rw [usersOf_identity, usersOf_identity, same]

theorem Paired.frame {db db' : ChatDatabase} (paired : db.Paired)
    (conversations : db'.conversations = db.conversations)
    (members : db'.members.map ConversationMember.identity =
      db.members.map ConversationMember.identity) : db'.Paired := by
  intro c mem live direct
  rw [usersOf_frame members]
  exact paired c (conversations ▸ mem) live direct

/-- Rows of other conversations do not count. -/
theorem usersOf_sameIn {db db' : ChatDatabase} {conversationId : Uuid}
    (same : db'.memberRows conversationId = db.memberRows conversationId) :
    db'.usersOf conversationId = db.usersOf conversationId := by
  have rows : ∀ db : ChatDatabase, db.membersOf conversationId =
      (db.memberRows conversationId).filter fun cm => cm.deletedAt.isNone := fun db =>
    List.filter_comm ..
  unfold usersOf
  rw [rows, rows, same]

end ChatDatabase

section Effects
variable {users : UserDatabase} {amb : Ambient} {actor : Uuid} {db db' : ChatDatabase}
  {operation : ChatOperation} {events : List MessageEvent}

/-- The members of the conversations that are there stay the same. -/
theorem usersOf_withConversation (unused : ChatDatabase.Unused amb db) {c : Conversation}
    (stored : c ∈ db.conversations) (userId targetUserId : Uuid) :
    (db.withConversation amb userId targetUserId).usersOf c.id = db.usersOf c.id := by
  have other : amb.uuid 0 ≠ c.id :=
    fun same => unused.conversations 0 (same ▸ List.mem_map_of_mem stored)
  exact ChatDatabase.usersOf_sameIn (db.sameIn_withConversation userId targetUserId other).1

/-- A new conversation of two users. -/
theorem paired_withConversation (unused : ChatDatabase.Unused amb db) (seated : db.Seated)
    (paired : db.Paired) {userId targetUserId : Uuid} (apart : userId ≠ targetUserId) :
    (db.withConversation amb userId targetUserId).Paired := by
  intro c mem live direct
  rcases List.mem_append.mp mem with old | new
  · rw [usersOf_withConversation unused old]
    exact paired c old live direct
  · rw [List.mem_singleton.mp new]
    refine ⟨userId,targetUserId,?_,apart⟩
    have absent : db.membersOf (amb.uuid 0) = [] := by
      refine List.filter_eq_nil_iff.mpr fun cm joined here => ?_
      exact unused.absent seated 0 cm (List.mem_of_mem_filter joined) (of_decide_eq_true here)
    unfold ChatDatabase.membersOf ChatDatabase.liveMembers at absent
    simp [ChatDatabase.usersOf, ChatDatabase.membersOf, ChatDatabase.liveMembers,
      ChatDatabase.withConversation, List.filter_append, absent, apart]

/-- A conversation that has been removed does not count. -/
theorem paired_rolledBack (unused : ChatDatabase.Unused amb db) (paired : db.Paired)
    (userId targetUserId : Uuid) (now : Time) :
    ((db.withConversation amb userId targetUserId).removeConversation (amb.uuid 0) now).2.Paired := by
  intro c mem live direct
  rcases mem_amend.mp mem with ⟨_,_,_,rfl⟩ | ⟨kept,miss⟩
  · cases live
  · have other : c.id ≠ amb.uuid 0 := by simpa [live] using miss
    rw [ChatDatabase.usersOf_sameIn (sameIn_removed other.symm now).1]
    rcases List.mem_append.mp kept with old | new
    · rw [usersOf_withConversation unused old]
      exact paired c old live direct
    · exact absurd (congrArg Conversation.id (List.mem_singleton.mp new)) other

/-- A user who asks for a conversation with himself is refused: he has a conversation already, or
    no account, or he has blocked himself. -/
def CreateConversationRequest.PairsUsers (data : CreateConversationRequest) (users : UserDatabase)
    (db : ChatDatabase) (authUserId : Uuid) : Prop :=
  data.targetUserId = authUserId → users.HasUser authUserId →
    users.blocking authUserId authUserId = false →
      db.conversationExists authUserId authUserId = true

theorem paired_effect (effect : Effect users amb actor db operation db' events)
    (unused : ChatDatabase.Unused amb db)
    (pairs : ∀ data, operation = .createConversation data → data.PairsUsers users db actor)
    (seated : db.Seated) (paired : db.Paired) : db'.Paired := by
  cases effect with
  | nothing => exact paired
  | @opened data member message event accounts unblocked unknown sends =>
    have apart : actor ≠ data.targetUserId := by
      intro same
      rw [← same] at unblocked unknown
      have refused := pairs data rfl same.symm accounts.1 unblocked
      rw [unknown] at refused
      cases refused
    exact (paired_withConversation unused seated paired apart).frame rfl
      (ChatDatabase.identity_withMessage message)
  | rolledBack => exact paired_rolledBack unused paired _ _ _
  | sent => exact paired.frame rfl (ChatDatabase.identity_withMessage _)
  | edited => exact paired.frame rfl rfl
  | deleted => exact paired.frame rfl (ChatDatabase.identity_storeDeletion seated.members _)
  | marked => exact paired.frame rfl (ChatDatabase.identity_withSeen _ _)

end Effects

def Turn.PairsUsers (w : ChatWorld) : Turn → Prop
  | request _ authUserId (.createConversation data) => data.PairsUsers w.users w.chat authUserId
  | _ => True

theorem paired_turn {ilike : JsString → JsString → Bool} {w : ChatWorld} {turn : Turn}
    (ok : w.chat.Sound ∧ w.chat.Paired) (allowed : turn.Allowed w) (pairs : turn.PairsUsers w) :
    (turn.run ilike w).chat.Sound ∧ (turn.run ilike w).chat.Paired := by
  refine ⟨sound_turn ok.1 allowed,?_⟩
  cases turn with
  | request amb actor operation =>
    refine paired_effect (effect_of_sound ilike actor operation ok.1 allowed) allowed ?_ ok.1.seated ok.2
    rintro data rfl
    exact pairs
  | elsewhere users => exact ok.2

/-- As long as nobody opens a conversation with himself, every live direct conversation has two
    live members, who are different users. -/
theorem conversations_paired {ilike : JsString → JsString → Bool} {w : ChatWorld}
    {turns : List Turn} (empty : w.chat = ⟨[],[],[],[]⟩)
    (along : Turn.Along ilike (fun w turn => turn.Allowed w ∧ turn.PairsUsers w) turns w) :
    (Turn.runAll ilike turns w).chat.Paired := by
  have start : w.chat.Sound ∧ w.chat.Paired := by
    rw [empty]
    exact ⟨ChatDatabase.sound_empty,by simp [ChatDatabase.Paired]⟩
  exact (along.invariant (fun _ _ (ok : ChatDatabase.Sound _ ∧ ChatDatabase.Paired _) step =>
    paired_turn ok step.1 step.2) start).2

/-- User 1 opens a conversation with user 2, and cannot open one with himself any more. -/
theorem conversations_paired_of_opening : (Turn.runAll noMatch
    [opening, .request (numberedDraws 2) 1 (.createConversation ⟨1,[104, 105]⟩)]
    emptyWorld).chat.Paired := by
  refine conversations_paired rfl
    ⟨⟨unused_numberedDraws (by decide) (by decide) (by decide),nofun⟩,
      ⟨unused_numberedDraws (by decide) (by decide) (by decide),fun _ _ _ => ?_⟩,trivial⟩
  decide

/-- User 1 has no conversation and opens one with himself. -/
def soliloquy : List Turn := [.request (numberedDraws 1) 1 (.createConversation ⟨1,[104, 105]⟩)]

theorem conversation_of_one : Turn.Along noMatch Turn.Allowed soliloquy emptyWorld ∧
    ¬ (Turn.runAll noMatch soliloquy emptyWorld).chat.Paired := by
  refine ⟨⟨unused_numberedDraws (by decide) (by decide) (by decide),trivial⟩,fun paired => ?_⟩
  obtain ⟨a,b,members,_⟩ := paired ⟨100,.direct,none,none,some 101,1000,none⟩ (by decide) rfl rfl
  have one : (Turn.runAll noMatch soliloquy emptyWorld).chat.usersOf 100 = [1] := by decide
  rw [one] at members
  cases members

end Chatterbox
