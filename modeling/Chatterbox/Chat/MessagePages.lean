import Chatterbox.Chat.Audience
import Chatterbox.Chat.Pagination

/-!
The message list page by page. The query of a page sorts by the creation of the messages
alone, so Postgres may return messages of the same millisecond in any order, and in another
one for the next page.
-/
namespace Chatterbox
open Concurrency Tables

/-- What the ORDER BY of the message list makes of the rows. -/
abbrev RowOrder := List MessageListRow → List MessageListRow

/-- Postgres with its order of the rows of the message list. -/
def ChatWorld.answerOrdered (order : RowOrder) : {β : Type} → ChatRequest β → ChatWorld →
    β × ChatWorld
  | _, .store (.listMessages conversationId userId pagination), w =>
      let rows := w.chat.messageRows conversationId userId
      (.ok (ChatDatabase.page pagination (order rows), rows.length), w)
  | _, q, w => w.answer q

def orderedHandler (order : RowOrder) : Handler ChatRequest ChatWorld :=
  ⟨ChatWorld.answerOrdered order⟩

def MessageListRow.createdAt (row : MessageListRow) : Time := row.message.createdAt

/-- The order is left open where the creation dates are equal. -/
def RowOrder.Admitted (order : RowOrder) (rows : List MessageListRow) : Prop :=
  Ordered MessageListRow.createdAt rows (order rows)

/-- The ids of the messages on a page of the message list, counted from 0. -/
def ChatWorld.messagePage (w : ChatWorld) (order : RowOrder) (amb : Ambient)
    (viewer conversationId : Uuid) (pageSize : Option Int) (k : Nat) : List Uuid :=
  match ((ChatWsGateway.getConversationMessageList amb
      ⟨conversationId,some (k + 1),pageSize⟩ viewer).run (orderedHandler order) w).1 with
  | .ok response => response.list.map UserConversationMessageItem.id
  | .error _ => []

section Pages
variable {w : ChatWorld} {viewer conversationId : Uuid} {order : RowOrder} {α β : Type}

theorem unpaged_getUserConversation (conversationId userId : Uuid) :
    Unpaged (orderedHandler order) (GetUserConversationHandler.execute conversationId userId) := by
  have load : Unpaged (orderedHandler order)
      (ConversationPostgresReadRepository.getUserConversationById conversationId userId) :=
    (only_ask fun _ => rfl).bind fun _ => trivial
  apply load.bind
  intro conversation
  cases conversation <;> trivial

theorem unpaged_askUserModule (p : UserProgram α) :
    Unpaged (orderedHandler order) (askUserModule p) :=
  Program.only_translate _ _ (fun _ _ => rfl) p

theorem unpaged_deletedReplies (userId : Uuid) (rows : List MessageListRow) :
    Unpaged (orderedHandler order)
      (ConversationPostgresReadRepository.deletedReplies userId rows) := by
  unfold ConversationPostgresReadRepository.deletedReplies
  dsimp only
  split
  · trivial
  · exact (only_ask fun _ => rfl).bind fun _ => trivial

theorem run_deletedReplies (userId : Uuid) (rows : List MessageListRow) (w : ChatWorld) :
    ∃ deleted, (ConversationPostgresReadRepository.deletedReplies userId rows).run chatHandler w =
      (.ok deleted, w) := by
  unfold ConversationPostgresReadRepository.deletedReplies
  dsimp only
  split
  · exact ⟨_,rfl⟩
  · rw [run_read (fun _ => rfl)]
    exact ⟨_,rfl⟩

/-- A member gets the page that he asks for, in the order of the query. -/
theorem run_orderedList (order : RowOrder) (amb : Ambient) (data : GetConversationMessageListRequest)
    {dto : ConversationReadDto}
    (loaded : w.chat.userConversation data.conversationId viewer = .ok dto) :
    ∃ response users deleted, (ChatWsGateway.getConversationMessageList amb data viewer).run
        (orderedHandler order) w = (.ok response, w) ∧
      response.list = (ChatDatabase.page (PaginationHelper.parse data.page data.pageSize)
          (order (w.chat.messageRows data.conversationId viewer))).map fun row =>
        ChatWsGateway.toMessageItem users viewer (decide (dto.type = .direct))
          (dto.members.find? fun m => m.userId = viewer)
          (dto.members.find? fun m => m.userId ≠ viewer)
          (ConversationPostgresReadRepository.toMessageDto amb.now deleted row) := by
  have found : (GetUserConversationHandler.execute data.conversationId viewer).run chatHandler w =
      (.ok dto, w) := by
    rw [← Program.bind_done (GetUserConversationHandler.execute _ _), run_getUserConversation,
      loaded]
    rfl
  let rows := w.chat.messageRows data.conversationId viewer
  let page := ChatDatabase.page (PaginationHelper.parse data.page data.pageSize) (order rows)
  obtain ⟨deleted,replies⟩ := run_deletedReplies viewer page w
  have list : (GetUserConversationMessageListHandler.execute amb.now data.conversationId viewer
      (PaginationHelper.parse data.page data.pageSize)).run (orderedHandler order) w =
      (.ok (PaginationHelper.createResult
        (page.map (ConversationPostgresReadRepository.toMessageDto amb.now deleted)) rows.length
        (PaginationHelper.parse data.page data.pageSize)), w) := by
    have answered : (orderedHandler order).answer (.store (.listMessages data.conversationId viewer
        (PaginationHelper.parse data.page data.pageSize))) w = (.ok (page, rows.length), w) := rfl
    refine (run_ask_bind answered _).trans ?_
    exact run_unpaged (unpaged_deletedReplies _ _) replies
  unfold ChatWsGateway.getConversationMessageList
  rw [run_unpaged (unpaged_getUserConversation _ _) found, Program.run_bind_ok _ _ list]
  obtain ⟨users,known⟩ := run_getUsersByIds (ChatWsGateway.involvedUsers dto
    (page.map (ConversationPostgresReadRepository.toMessageDto amb.now deleted))) w
  obtain ⟨blocked,asked⟩ := run_getBlockedUsersIds viewer (users.map ChatUser.id) w
  have users' : Unpaged (orderedHandler order) (ChatUserIntegrationAdapter.getUsersByIds
      (ChatWsGateway.involvedUsers dto
        (page.map (ConversationPostgresReadRepository.toMessageDto amb.now deleted)))) :=
    (unpaged_askUserModule _).bind fun _ => trivial
  have blocked' : Unpaged (orderedHandler order)
      (ChatUserIntegrationAdapter.getBlockedUsersIds viewer (users.map ChatUser.id)) :=
    unpaged_askUserModule _
  dsimp only [PaginationHelper.createResult]
  rw [run_unpaged users' known, run_unpaged blocked' asked]
  refine ⟨_,users,deleted,rfl,?_⟩
  simp only [List.map_map]
  rfl

end Pages

/-- The number of the pages of the message list. -/
def ChatWorld.pageCount (w : ChatWorld) (viewer conversationId : Uuid) (pageSize : Option Int) : Nat :=
  let limit := (PaginationHelper.parse none pageSize).limit
  ((w.chat.listable viewer conversationId).length + limit - 1) / limit

/-- Reading one page after another shows every message once, in whatever order each of the
    queries has its rows. -/
def ChatWorld.ReadsOnce (w : ChatWorld) (viewer conversationId : Uuid) (pageSize : Option Int) :
    Prop :=
  ∀ (draws : Nat → Ambient) (orders : Nat → RowOrder),
    (∀ k, (orders k).Admitted (w.chat.messageRows conversationId viewer)) →
      ((List.range (w.pageCount viewer conversationId pageSize)).flatMap fun k =>
        w.messagePage (orders k) (draws k) viewer conversationId pageSize k).Perm
          ((w.chat.listable viewer conversationId).map Message.id)

section Reading
variable {w : ChatWorld} {viewer conversationId : Uuid}

theorem messagePage_eq (sound : w.chat.Sound)
    (member : w.chat.isMember conversationId viewer = true) (order : RowOrder) (amb : Ambient)
    (pageSize : Option Int) (k : Nat) :
    w.messagePage order amb viewer conversationId pageSize k =
      (slice (PaginationHelper.parse none pageSize).limit k
        (order (w.chat.messageRows conversationId viewer))).map fun row => row.message.id := by
  obtain ⟨c,known⟩ := (sound.seated.live member).1
  obtain ⟨response,users,deleted,run,items⟩ := run_orderedList order amb
    ⟨conversationId,some (k + 1),pageSize⟩ (userConversation_known known member)
  rw [ChatWorld.messagePage, run, ← page_slice]
  dsimp only
  rw [items, List.map_map]
  rfl

/-- The pages are enough for all the messages. -/
theorem pageCount_enough (w : ChatWorld) (viewer conversationId : Uuid) (pageSize : Option Int) :
    (w.chat.listable viewer conversationId).length ≤
      w.pageCount viewer conversationId pageSize * (PaginationHelper.parse none pageSize).limit := by
  have positive := limit_pos none pageSize
  unfold ChatWorld.pageCount
  dsimp only
  generalize (PaginationHelper.parse none pageSize).limit = limit at positive
  generalize (w.chat.listable viewer conversationId).length = total
  have parts := Nat.div_add_mod (total + limit - 1) limit
  have rest := Nat.mod_lt (total + limit - 1) positive
  rw [Nat.mul_comm] at parts
  omega

/-- Reading the message list page by page shows every message once if and only if the two
    messages where a page ends and the next one starts have different creation dates. -/
theorem pages_once (sound : w.chat.Sound) (member : w.chat.isMember conversationId viewer = true)
    (pageSize : Option Int) : w.ReadsOnce viewer conversationId pageSize ↔
      ∀ k, 0 < k * (PaginationHelper.parse none pageSize).limit →
        k * (PaginationHelper.parse none pageSize).limit <
          (w.chat.listable viewer conversationId).length →
        Parts Message.createdAt (w.chat.listable viewer conversationId)
          (k * (PaginationHelper.parse none pageSize).limit) := by
  have rows := sound.rows member
  have shown : (w.chat.listable viewer conversationId).map Message.id =
      (w.chat.messageRows conversationId viewer).map fun row => row.message.id := by
    rw [← rows, List.map_map]
    rfl
  have length : (w.chat.listable viewer conversationId).length =
      (w.chat.messageRows conversationId viewer).length := by
    rw [← rows, List.length_map]
  have parts : ∀ b, Parts MessageListRow.createdAt (w.chat.messageRows conversationId viewer) b ↔
      Parts Message.createdAt (w.chat.listable viewer conversationId) b := by
    intro b
    simp only [Parts, ← rows, List.countP_map]
    rfl
  have distinct : ((w.chat.messageRows conversationId viewer).map
      fun row => row.message.id).Nodup := by
    rw [← shown]
    exact (List.filter_sublist.map Message.id).nodup sound.filed.messages
  have enough := pageCount_enough w viewer conversationId pageSize
  rw [length] at enough
  have once := slices_once_iff MessageListRow.createdAt distinct enough
  simp only [parts, ← length, ← shown] at once
  rw [← once]
  constructor
  · intro reads sorts ordered
    have read := reads (fun _ => ⟨0,fun k => k,fun _ => 0,[]⟩) (fun k _ => sorts k) ordered
    simpa only [messagePage_eq sound member] using read
  · intro reads draws orders admitted
    simp only [messagePage_eq sound member]
    exact reads (fun k => orders k (w.chat.messageRows conversationId viewer)) admitted

end Reading

/-- User 1 opens a conversation with user 2, who answers him at that time. -/
def answered (now : Time) : List Turn :=
  [opening, .request { numberedDraws 2 with now } 2 (.sendMessage ⟨100,[121, 111],none,none⟩)]

theorem allowed_answered (now : Time) : Turn.Along noMatch Turn.Allowed (answered now) emptyWorld := by
  have second : ∀ {db}, ChatDatabase.Unused (numberedDraws 2) db →
      ChatDatabase.Unused { numberedDraws 2 with now } db :=
    fun unused => ⟨unused.injective,unused.conversations,unused.members,unused.messages⟩
  exact ⟨unused_numberedDraws (by decide) (by decide) (by decide),
    second (unused_numberedDraws (by decide) (by decide) (by decide)),trivial⟩

/-- A second later both messages are read, one on each page. -/
theorem pages_once_answered :
    (Turn.runAll noMatch (answered 2000) emptyWorld).ReadsOnce 1 100 (some 1) := by
  have sound := (allowed_answered 2000).invariant (fun _ _ => sound_turn) ChatDatabase.sound_empty
  apply (pages_once sound (by decide) (some 1)).mpr
  intro k first last
  have one : 0 < k * 1 := first
  have two : k * 1 < 2 := last
  have is : k = 1 := by omega
  rw [is]
  exact ⟨1000,by decide⟩

/-- In the same millisecond the second page can have the message of the first page again. -/
theorem page_read_again : Turn.Along noMatch Turn.Allowed (answered 1000) emptyWorld ∧
    ¬ (Turn.runAll noMatch (answered 1000) emptyWorld).ReadsOnce 1 100 (some 1) := by
  refine ⟨allowed_answered 1000,fun reads => ?_⟩
  have read := reads (fun _ => numberedDraws 3) (fun k => if k = 0 then id else List.reverse)
    fun k => by
      by_cases first : k = 0
      · simp only [first, ↓reduceIte]
        exact ⟨List.Perm.refl _,by decide⟩
      · simp only [first, ↓reduceIte]
        exact ⟨List.reverse_perm _,by decide⟩
  revert read
  decide

end Chatterbox
