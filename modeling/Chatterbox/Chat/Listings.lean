import Chatterbox.Chat.Audience
import Chatterbox.Chat.Pagination

/-!
The conversation list of a user, and the filter that a client can put on it: a part of a
name, a user, or both. The query of a page sorts by the date of the last message alone, so
Postgres may return conversations with the same date, or without a last message, in any order,
and in another one for the next page.
-/
namespace Chatterbox
open Concurrency Tables

/-- The users with a name that matches the pattern. -/
def UserDatabase.named (users : UserDatabase) (ilike : JsString → Bool) : List Uuid :=
  (users.live.filter fun u => u.firstName.any ilike || u.lastName.any ilike ||
    ilike u.username).map User.id

/-- The users that a list request asks for. -/
def GetUserConversationListRequest.wanted (data : GetUserConversationListRequest)
    (ilike : JsString → JsString → Bool) (users : UserDatabase) : List Uuid :=
  (if data.filter = [] then [] else users.named (ilike ([0x25] ++ data.filter ++ [0x25]))) ++
    data.targetUserId.toList

/-- What the conversation list holds of its filter. -/
def GetUserConversationListRequest.others (data : GetUserConversationListRequest)
    (ilike : JsString → JsString → Bool) (users : UserDatabase) (authUserId : Uuid) : List Uuid :=
  (data.wanted ilike users).filter fun userId => userId ≠ authUserId

/-- Rows of the conversation list: the conversations with their counts of unseen messages. -/
def ChatDatabase.listedCounts (db : ChatDatabase) (userId : Uuid)
    (rows : List ConversationListRow) : List (Uuid × Nat) :=
  let counts := db.notSeenCounts userId (rows.map fun row => row.conversation.id)
  rows.map fun row => (row.conversation.id,
    ((counts.find? fun c => c.1 = row.conversation.id).map Prod.snd).getD 0)

section Rows
variable {db : ChatDatabase} {userId : Uuid} {α β : Type}

/-- A member has one live row in a conversation. -/
theorem seat_rows (seats : Keyed ConversationMember.seat db.members) (conversationId : Uuid) :
    ((db.membersOf conversationId).filter fun m => m.userId = userId).length =
      if db.isMember conversationId userId then 1 else 0 := by
  have row : ∀ m ∈ (db.membersOf conversationId).filter (fun m => m.userId = userId),
      m ∈ db.members ∧ m.seat = (conversationId, userId) := by
    intro m mem
    obtain ⟨joined,own⟩ := List.mem_filter.mp mem
    obtain ⟨stored,_,home⟩ := ChatDatabase.membersOf_iff.mp joined
    exact ⟨stored,Prod.ext home (of_decide_eq_true own)⟩
  have distinct : ((db.membersOf conversationId).filter fun m => m.userId = userId).Nodup := by
    apply List.Nodup.filter
    apply List.Nodup.filter
    apply List.Nodup.filter
    exact List.Nodup.of_map _ seats
  have some : db.isMember conversationId userId = true ↔
      (db.membersOf conversationId).filter (fun m => m.userId = userId) ≠ [] := by
    simp [ChatDatabase.isMember, List.filter_eq_nil_iff]
  generalize (db.membersOf conversationId).filter (fun m => m.userId = userId) = rows at *
  cases rows with
  | nil => simp [some]
  | cons m rest =>
    cases rest with
    | nil => simp [some]
    | cons n rest =>
      obtain ⟨first,is⟩ := row m (by simp)
      obtain ⟨second,is'⟩ := row n (by simp)
      have same := keyed_unique seats first second (is.trans is'.symm)
      simp [same] at distinct

/-- The rows of the list are the conversations of the user that pass the filter. -/
theorem conversationRows_conversations (seats : Keyed ConversationMember.seat db.members)
    (filterUserIds : List Uuid) :
    (db.conversationRows userId filterUserIds).map ConversationListRow.conversation =
      db.liveConversations.filter fun c => db.isMember c.id userId &&
        (filterUserIds.isEmpty || filterUserIds.any (db.isMember c.id)) := by
  unfold ChatDatabase.conversationRows
  induction db.liveConversations with
  | nil => rfl
  | cons c rest ih =>
    rw [List.flatMap_cons, List.map_append, ih, List.filter_cons]
    by_cases out : filterUserIds ≠ [] ∧ ¬ filterUserIds.any (db.isMember c.id)
    · have passes : (db.isMember c.id userId && (filterUserIds.isEmpty ||
          filterUserIds.any (db.isMember c.id))) = false := by
        simp [out.1, out.2]
      rw [if_pos out, passes]
      simp
    · have passes : (filterUserIds.isEmpty || filterUserIds.any (db.isMember c.id)) = true := by
        rw [Bool.or_eq_true, List.isEmpty_iff]
        by_contra neither
        exact out ⟨fun none => neither (Or.inl none),fun any => neither (Or.inr any)⟩
      rw [if_neg out, passes, Bool.and_true, List.map_map]
      have copies : ∀ rows : List ConversationMember, rows.map (ConversationListRow.conversation ∘
          fun m => (⟨c,m,m.lastSeenMessageId.bind db.message,m.lastMessageId.bind db.message,
            (m.lastMessageId.bind db.message).bind fun last =>
              lookup ConversationMember.id last.senderId db.liveMembers⟩ : ConversationListRow)) =
          List.replicate rows.length c := by
        intro rows
        exact List.map_const
      rw [copies, seat_rows seats]
      cases db.isMember c.id userId <;> simp

end Rows

section Runs
variable {ilike : JsString → JsString → Bool} {w : ChatWorld} {authUserId : Uuid}
  {order : ConversationOrder}

theorem run_filterUsers (data : GetUserConversationListRequest) :
    (ChatWsGateway.filterUsers ilike data).run chatHandler w =
      (.ok (data.wanted ilike w.users), w) := by
  unfold ChatWsGateway.filterUsers GetUserConversationListRequest.wanted
  split
  · rfl
  · rw [Program.run_bind, ChatUserIntegrationAdapter.getUserIdsByNameOrUsername,
      run_askUserModule]
    rfl

theorem unpaged_filterUsers (data : GetUserConversationListRequest) :
    Unpaged (listedHandler order) (ChatWsGateway.filterUsers ilike data) := by
  unfold ChatWsGateway.filterUsers
  split
  · trivial
  · exact (Program.only_translate _ _ (fun _ _ => rfl) _).bind fun _ => trivial

/-- The items are those of the query, under the same ids and with the same counts. -/
theorem run_listItems (authUserId : Uuid) (list : PaginatedResult ConversationReadDto)
    (w : ChatWorld) :
    ∃ page, (ChatWsGateway.listItems authUserId list).run (listedHandler order) w = (.ok page, w) ∧
      page.info = list.info ∧
      (page.data.map fun item => (item.id, item.notSeenCount)) =
        list.data.map fun c => (c.id, c.notSeenCount) := by
  unfold ChatWsGateway.listItems
  by_cases none : list.data = []
  · rw [if_pos none]
    exact ⟨_,rfl,rfl,by simp [none]⟩
  · rw [if_neg none]
    dsimp only
    let involved := ((list.data.flatMap fun c => c.members.map ConversationMemberReadDto.userId) ++
      list.data.filterMap fun c => c.lastMessage.map LastMessageReadDto.senderId).dedup
    obtain ⟨users,known⟩ := run_getUsersByIds involved w
    have asks : Unpaged (listedHandler order) (ChatUserIntegrationAdapter.getUsersByIds involved) :=
      (Program.only_translate _ _ (fun _ _ => rfl) _).bind fun _ => trivial
    rw [run_unpaged asks known]
    refine ⟨_,rfl,rfl,?_⟩
    simp only [List.map_map]
    rfl

/-- What the list request of a user is answered, in the order of the query. -/
theorem run_conversationList (order : ConversationOrder) (data : GetUserConversationListRequest) :
    ∃ page, (ChatWsGateway.getUserConversationList ilike data authUserId).run
        (listedHandler order) w = (.ok page, w) ∧
      if data.filter ≠ [] ∧ data.wanted ilike w.users = [] then page.data = [] ∧ page.info.total = 0
      else
        (page.data.map fun item => (item.id, item.notSeenCount)) =
            w.chat.listedCounts authUserId
              (ChatDatabase.page (PaginationHelper.parse data.page data.pageSize) (order
                (w.chat.conversationRows authUserId (data.others ilike w.users authUserId)))) ∧
          page.info.total =
            (w.chat.conversationRows authUserId (data.others ilike w.users authUserId)).length := by
  unfold ChatWsGateway.getUserConversationList
  dsimp only
  rw [run_unpaged (unpaged_filterUsers data) (run_filterUsers data)]
  by_cases nobody : data.filter ≠ [] ∧ data.wanted ilike w.users = []
  · rw [if_pos nobody]
    exact ⟨_,rfl,by simp [nobody, PaginationHelper.createResult]⟩
  · rw [if_neg nobody]
    have listed := run_listedConversations order authUserId
      (data.others ilike w.users authUserId) (PaginationHelper.parse data.page data.pageSize) w
    obtain ⟨page,run,info,items⟩ := run_listItems authUserId _ w
    have filtered : (data.wanted ilike w.users).filter (fun userId => userId ≠ authUserId) =
      data.others ilike w.users authUserId := rfl
    rw [filtered, GetUserConversationListHandler.execute, Program.run_bind_ok _ _ listed]
    refine ⟨page,run,?_⟩
    rw [if_neg nobody, items, info]
    refine ⟨?_,rfl⟩
    simp only [PaginationHelper.createResult, List.map_map]
    rfl

theorem perform_listConversations (amb : Ambient) (data : GetUserConversationListRequest) :
    ∃ page, (w.perform ilike amb authUserId (.listConversations data)).1 =
        .ok (.conversations page) ∧
      if data.filter ≠ [] ∧ data.wanted ilike w.users = [] then page.data = [] ∧ page.info.total = 0
      else
        (page.data.map fun item => (item.id, item.notSeenCount)) =
            w.chat.listedCounts authUserId (w.chat.listConversations authUserId
              (data.others ilike w.users authUserId)
              (PaginationHelper.parse data.page data.pageSize)).1 ∧
          page.info.total =
            (w.chat.conversationRows authUserId (data.others ilike w.users authUserId)).length := by
  obtain ⟨page,run,shows⟩ := @run_conversationList ilike w.silent authUserId
    (List.insertionSort ChatDatabase.newestFirst) data
  rw [← chatHandler_listed] at run
  refine ⟨page,?_,shows⟩
  rw [perform_eq rfl run rfl]
  rfl

end Runs

/-- The order is left open where the dates of the last messages are equal, or missing. -/
def ConversationOrder.Admitted (order : ConversationOrder) (rows : List ConversationListRow) :
    Prop :=
  Ordered ConversationListRow.lastMessageAt rows (order rows)

section Lists
variable {ilike : JsString → JsString → Bool} {w : ChatWorld} {authUserId : Uuid}
  {data : GetUserConversationListRequest}

/-- The ids of listed rows. -/
theorem listedCounts_ids (rows : List ConversationListRow) :
    (w.chat.listedCounts authUserId rows).map Prod.fst =
      rows.map fun row => row.conversation.id := by
  unfold ChatDatabase.listedCounts
  dsimp only
  rw [List.map_map]
  rfl

end Lists

end Chatterbox
