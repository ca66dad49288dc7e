import Chatterbox.Chat.Listings
import Chatterbox.Chat.MessagePages
import Chatterbox.Chat.NotSeen

/-!
Two views of what a member has not seen. The conversation list counts by the ids of the
messages, also those he has written himself; the message list goes by their creation dates.
-/
namespace Chatterbox
open Concurrency Tables ConversationPostgresReadRepository

namespace ChatDatabase
variable (db : ChatDatabase)

def wrote (userId : Uuid) (m : Message) : Bool :=
  db.members.any fun cm => cm.id = m.senderId && cm.userId = userId

/-- The message list shows the message of somebody else as unseen. -/
def unreadBy (userId : Uuid) (position : Option Uuid) (m : Message) : Bool :=
  !db.wrote userId m && (position.bind db.message).all fun seen => seen.createdAt < m.createdAt

/-- Both views agree on every message that the member sees. -/
def Aligned : Prop :=
  ∀ cm ∈ db.members, ∀ m ∈ db.messages, m.conversationId = cm.conversationId →
    db.visibleTo cm.userId m = true →
      (cm.lastSeenMessageId.all fun id => id < m.id) = db.unreadBy cm.userId cm.lastSeenMessageId m

end ChatDatabase

/-- A page of the message list, counted from 0. -/
def ChatWorld.messageItems (w : ChatWorld) (order : RowOrder) (amb : Ambient)
    (viewer conversationId : Uuid) (pageSize : Option Int) (k : Nat) :
    List UserConversationMessageItem :=
  match ((ChatWsGateway.getConversationMessageList amb
      ⟨conversationId,some (k + 1),pageSize⟩ viewer).run (orderedHandler order) w).1 with
  | .ok response => response.list
  | .error _ => []

/-- An item of the message list that was sent by somebody else, is not deleted for everyone
    and is not seen. -/
def ChatWorld.unreadItem (w : ChatWorld) (viewer : Uuid) (item : UserConversationMessageItem) : Bool :=
  !(w.chat.message item.id).any (w.chat.wrote viewer) && item.deletedAt.isNone && !item.seen

/-- The number of those items in the complete list. -/
def ChatWorld.unreadInList (w : ChatWorld) (order : RowOrder) (draws : Nat → Ambient)
    (viewer conversationId : Uuid) (pageSize : Option Int) : Nat :=
  ((List.range (w.pageCount viewer conversationId pageSize)).flatMap fun k =>
    w.messageItems order (draws k) viewer conversationId pageSize k).countP (w.unreadItem viewer)

/-- The conversation is in the conversation list, and wherever it is, with that count. -/
def ChatWorld.ListsCount (w : ChatWorld) (ilike : JsString → JsString → Bool)
    (viewer conversationId : Uuid) (count : Nat) : Prop :=
  (∃ amb page response, (w.perform ilike amb viewer
      (.listConversations ⟨none,[],some page,some 1⟩)).1 = .ok (.conversations response) ∧
    conversationId ∈ response.data.map UserConversationListItem.id) ∧
  ∀ amb data response, (w.perform ilike amb viewer (.listConversations data)).1 =
      .ok (.conversations response) →
    ∀ item ∈ response.data, item.id = conversationId → item.notSeenCount = count

/-- The conversation list counts what the complete message list shows as unseen. -/
def ChatWorld.ViewsAgree (w : ChatWorld) (ilike : JsString → JsString → Bool)
    (viewer conversationId : Uuid) : Prop :=
  ∀ (order : RowOrder) draws pageSize,
    order.Admitted (w.chat.messageRows conversationId viewer) →
      w.ListsCount ilike viewer conversationId
        (w.unreadInList order draws viewer conversationId pageSize)

section Views
variable {w : ChatWorld} {db : ChatDatabase} {viewer conversationId : Uuid}
  {cm : ConversationMember} {ilike : JsString → JsString → Bool}

/-- The message list compares with the creation date of the message at the position. -/
theorem isSeenBy_position (cm : ConversationMember) (createdAt : Time) :
    ChatWsGateway.isSeenBy (some (toMemberDto (db.withLastSeen cm))) createdAt =
      !(cm.lastSeenMessageId.bind db.message).all fun seen => seen.createdAt < createdAt := by
  simp only [ChatWsGateway.isSeenBy, toMemberDto, ChatDatabase.withLastSeen, Option.bind_some]
  cases cm.lastSeenMessageId.bind db.message with
  | none => rfl
  | some seen => simp only [Option.map_some, Option.all_some, ← decide_not, Nat.not_lt]

/-- The viewer is the one member whose row is his. -/
theorem find_viewer (seats : Keyed ConversationMember.seat db.members)
    (joined : cm ∈ db.membersOf conversationId) (own : cm.userId = viewer) :
    ((db.membersOf conversationId).map (toMemberDto ∘ db.withLastSeen)).find?
        (fun m => m.userId = viewer) = some (toMemberDto (db.withLastSeen cm)) := by
  rw [List.find?_map]
  have found : ((db.membersOf conversationId).find?
      ((fun m => decide (m.userId = viewer)) ∘ toMemberDto ∘ db.withLastSeen)).isSome := by
    rw [List.find?_isSome]
    exact ⟨cm,joined,decide_eq_true own⟩
  obtain ⟨other,is⟩ := Option.isSome_iff_exists.mp found
  obtain ⟨stored,_,home⟩ := ChatDatabase.membersOf_iff.mp joined
  obtain ⟨stored',_,home'⟩ := ChatDatabase.membersOf_iff.mp (List.mem_of_find?_eq_some is)
  have hit := List.find?_some is
  have user : other.userId = viewer := of_decide_eq_true hit
  have seat : other.seat = cm.seat := Prod.ext (home'.trans home.symm) (user.trans own.symm)
  rw [is, keyed_unique seats stored' stored seat]
  rfl

/-- The row of a message names its author. -/
theorem row_author (members : Keyed ConversationMember.id db.members) {row : MessageListRow}
    (mem : row ∈ db.messageRows conversationId viewer) :
    row.message ∈ db.messages ∧ row.message.conversationId = conversationId ∧
      db.wrote viewer row.message = decide (row.sender.userId = viewer) := by
  obtain ⟨m,among,joined⟩ := List.mem_filterMap.mp mem
  obtain ⟨stored,shown⟩ := List.mem_filter.mp among
  obtain ⟨sender,found,rfl⟩ := Option.map_eq_some_iff.mp joined
  obtain ⟨live,is⟩ := lookup_mem found
  have known : sender ∈ db.members := (List.mem_filter.mp live).1
  simp only [Bool.and_eq_true, decide_eq_true_eq] at shown
  refine ⟨stored,shown.1,?_⟩
  rw [ChatDatabase.wrote, Bool.eq_iff_iff]
  simp only [List.any_eq_true, Bool.and_eq_true, decide_eq_true_eq]
  constructor
  · rintro ⟨cm,mem,same,user⟩
    rw [← keyed_unique members mem known (same.trans is.symm)]
    exact user
  · intro user
    exact ⟨sender,known,is,user⟩

/-- What the item of a row shows. -/
theorem unreadItem_row (sound : w.chat.Sound) {row : MessageListRow}
    (mem : row ∈ w.chat.messageRows conversationId viewer) (users : List ChatUser)
    (isDirect : Bool) (other : Option ConversationMemberReadDto) (now : Time)
    (deleted : List Uuid) :
    w.unreadItem viewer (ChatWsGateway.toMessageItem users viewer isDirect
        (some (toMemberDto (w.chat.withLastSeen cm))) other (toMessageDto now deleted row)) =
      (row.message.deletedAt.isNone &&
        w.chat.unreadBy viewer cm.lastSeenMessageId row.message) := by
  obtain ⟨stored,_,author⟩ := row_author sound.seated.members mem
  have known : w.chat.message row.message.id = some row.message :=
    (lookup_eq_some_iff sound.filed.messages).mpr ⟨stored,rfl⟩
  simp only [ChatWorld.unreadItem, ChatWsGateway.toMessageItem, toMessageDto, known,
    Option.any_some, author, ChatDatabase.unreadBy, isSeenBy_position]
  by_cases mine : row.sender.userId = viewer
  · simp [mine]
  · simp [mine]

/-- On every page the unseen items are the rows that the tables show as unseen. -/
theorem countP_messageItems (sound : w.chat.Sound) (joined : cm ∈ w.chat.membersOf conversationId)
    (own : cm.userId = viewer) {order : RowOrder}
    (admitted : order.Admitted (w.chat.messageRows conversationId viewer)) (amb : Ambient)
    (pageSize : Option Int) (k : Nat) :
    (w.messageItems order amb viewer conversationId pageSize k).countP (w.unreadItem viewer) =
      (slice (PaginationHelper.parse none pageSize).limit k
        (order (w.chat.messageRows conversationId viewer))).countP fun row =>
          row.message.deletedAt.isNone &&
            w.chat.unreadBy viewer cm.lastSeenMessageId row.message := by
  have member : w.chat.isMember conversationId viewer = true :=
    List.any_eq_true.mpr ⟨cm,joined,decide_eq_true own⟩
  obtain ⟨c,known⟩ := (sound.seated.live member).1
  obtain ⟨response,users,deleted,run,items⟩ := run_orderedList order amb
    ⟨conversationId,some (k + 1),pageSize⟩ (userConversation_known known member)
  rw [ChatWorld.messageItems, run]
  dsimp only [toConversationDto] at items ⊢
  rw [items, List.map_map, find_viewer sound.seated.seats joined own, List.countP_map, page_slice]
  apply List.countP_congr
  intro row mem
  have listed : row ∈ w.chat.messageRows conversationId viewer :=
    admitted.perm.mem_iff.mp (List.mem_of_mem_drop (List.mem_of_mem_take mem))
  rw [Function.comp_apply, unreadItem_row sound listed]

/-- The complete list shows as unseen what the tables say. -/
theorem unreadInList_eq (sound : w.chat.Sound) (joined : cm ∈ w.chat.membersOf conversationId)
    (own : cm.userId = viewer) {order : RowOrder}
    (admitted : order.Admitted (w.chat.messageRows conversationId viewer))
    (draws : Nat → Ambient) (pageSize : Option Int) :
    w.unreadInList order draws viewer conversationId pageSize =
      w.chat.messages.countP fun m => (m.conversationId = conversationId &&
        w.chat.visibleTo viewer m) && w.chat.unreadBy viewer cm.lastSeenMessageId m := by
  have member : w.chat.isMember conversationId viewer = true :=
    List.any_eq_true.mpr ⟨cm,joined,decide_eq_true own⟩
  have rows := sound.rows member
  have enough := pageCount_enough w viewer conversationId pageSize
  rw [← rows, List.length_map, ← admitted.perm.length_eq] at enough
  have pages := congrArg (List.countP fun row : MessageListRow => row.message.deletedAt.isNone &&
    w.chat.unreadBy viewer cm.lastSeenMessageId row.message) (slices_all enough)
  rw [List.countP_flatMap, admitted.perm.countP_eq] at pages
  have listed : (w.chat.messageRows conversationId viewer).countP (fun row =>
      row.message.deletedAt.isNone && w.chat.unreadBy viewer cm.lastSeenMessageId row.message) =
      (w.chat.listable viewer conversationId).countP fun m => m.deletedAt.isNone &&
        w.chat.unreadBy viewer cm.lastSeenMessageId m := by
    rw [← rows, List.countP_map]
    rfl
  rw [ChatWorld.unreadInList, List.countP_flatMap]
  have same : ∀ k, (List.countP (w.unreadItem viewer) ∘ fun k =>
      w.messageItems order (draws k) viewer conversationId pageSize k) k = _ :=
    fun k => countP_messageItems sound joined own admitted (draws k) pageSize k
  rw [List.map_congr_left fun k _ => same k]
  refine (pages.trans listed).trans ?_
  rw [ChatDatabase.listable, List.countP_filter]
  apply List.countP_congr
  intro m _
  simp only [ChatDatabase.visibleTo, Bool.and_eq_true]
  tauto

/-- Where the views agree on every message they agree on the numbers. -/
theorem notSeenCount_aligned (aligned : db.Aligned) (mem : cm ∈ db.members) :
    db.notSeenCount cm = db.messages.countP fun m => (m.conversationId = cm.conversationId &&
      db.visibleTo cm.userId m) && db.unreadBy cm.userId cm.lastSeenMessageId m := by
  rw [ChatDatabase.notSeenCount_eq, ChatDatabase.unseenAfter_eq_countP]
  apply List.countP_congr
  intro m stored
  simp only [ChatDatabase.unseenBy, Bool.and_eq_true, decide_eq_true_eq]
  constructor
  · rintro ⟨⟨home,visible⟩,after⟩
    exact ⟨⟨home,visible⟩,aligned cm mem m stored home visible ▸ after⟩
  · rintro ⟨⟨home,visible⟩,unread⟩
    exact ⟨⟨home,visible⟩,(aligned cm mem m stored home visible).trans unread⟩

/-- The count that the list looks up for a conversation is that of the viewer's row. -/
theorem find_count (seats : Keyed ConversationMember.seat db.members)
    (joined : cm ∈ db.membersOf conversationId) (own : cm.userId = viewer) {ids : List Uuid}
    (asked : conversationId ∈ ids) :
    (db.notSeenCounts viewer ids).find? (fun c => c.1 = conversationId) =
      some (conversationId, db.notSeenCount cm) := by
  obtain ⟨stored,live,home⟩ := ChatDatabase.membersOf_iff.mp joined
  have among : cm ∈ db.liveMembers.filter fun m => m.userId = viewer && m.conversationId ∈ ids := by
    simp [ChatDatabase.liveMembers, stored, live, own, home, asked]
  rw [ChatDatabase.notSeenCounts, List.find?_map]
  have found : ((db.liveMembers.filter fun m => m.userId = viewer && m.conversationId ∈ ids).find?
      ((fun c => decide (c.1 = conversationId)) ∘ fun m =>
        (m.conversationId, db.notSeenCount m))).isSome := by
    rw [List.find?_isSome]
    exact ⟨cm,among,decide_eq_true home⟩
  obtain ⟨other,is⟩ := Option.isSome_iff_exists.mp found
  have hit := List.find?_some is
  have home' : other.conversationId = conversationId := of_decide_eq_true hit
  obtain ⟨live',user⟩ := List.mem_filter.mp (List.mem_of_find?_eq_some is)
  simp only [Bool.and_eq_true, decide_eq_true_eq] at user
  have seat : other.seat = cm.seat := Prod.ext (home'.trans home.symm) (user.1.trans own.symm)
  rw [is, keyed_unique seats (List.mem_filter.mp live').1 stored seat, Option.map_some, home]

/-- The conversation list has the conversations of the viewer with their counts. -/
theorem listsCount_notSeen (sound : w.chat.Sound) (joined : cm ∈ w.chat.membersOf conversationId)
    (own : cm.userId = viewer) :
    w.ListsCount ilike viewer conversationId (w.chat.notSeenCount cm) := by
  constructor
  · have member : w.chat.isMember conversationId viewer = true :=
      List.any_eq_true.mpr ⟨cm,joined,decide_eq_true own⟩
    obtain ⟨c,known⟩ := (sound.seated.live member).1
    obtain ⟨live,is⟩ := lookup_mem known
    let rows := (w.chat.conversationRows viewer []).insertionSort ChatDatabase.newestFirst
    have listed : c ∈ rows.map ConversationListRow.conversation := by
      have perm := (List.perm_insertionSort ChatDatabase.newestFirst
        (w.chat.conversationRows viewer [])).map ConversationListRow.conversation
      rw [perm.mem_iff, conversationRows_conversations sound.seated.seats]
      simp [live, is, member]
    obtain ⟨page,here⟩ := mem_pages listed
    rw [← ChatDatabase.map_page] at here
    obtain ⟨response,performed,shows⟩ := @perform_listConversations ilike w viewer
      ⟨0,fun k => k,fun _ => 0,[]⟩ ⟨none,[],some page,some 1⟩
    refine ⟨_,page,response,performed,?_⟩
    rw [if_neg (fun nobody => nobody.1 rfl)] at shows
    have ids := congrArg (List.map Prod.fst) shows.1
    rw [listedCounts_ids, List.map_map] at ids
    have ids : response.data.map UserConversationListItem.id = _ := ids
    obtain ⟨row,onPage,rfl⟩ := List.mem_map.mp here
    rw [ids, ← is]
    exact List.mem_map.mpr ⟨row,onPage,rfl⟩
  · intro amb data response performed item mem is
    obtain ⟨page,performed',shows⟩ := @perform_listConversations ilike w viewer amb data
    rw [performed] at performed'
    cases performed'
    split at shows
    · rw [shows.1] at mem
      cases mem
    · have counted : (item.id, item.notSeenCount) ∈ w.chat.listedCounts viewer
          (w.chat.listConversations viewer (data.others ilike w.users viewer)
            (PaginationHelper.parse data.page data.pageSize)).1 := by
        rw [← shows.1]
        exact List.mem_map_of_mem mem
      obtain ⟨row,listed,same⟩ := List.mem_map.mp counted
      obtain ⟨id,count⟩ := Prod.mk.inj same
      have here : row.conversation.id = conversationId := id.trans is
      rw [← count, here, find_count sound.seated.seats joined own]
      · rfl
      · exact List.mem_map.mpr ⟨row,listed,here⟩

theorem ChatWorld.ListsCount.unique {count count' : Nat}
    (lists : w.ListsCount ilike viewer conversationId count)
    (lists' : w.ListsCount ilike viewer conversationId count') : count = count' := by
  obtain ⟨⟨amb,page,response,performed,listed⟩,all⟩ := lists
  obtain ⟨item,mem,is⟩ := List.mem_map.mp listed
  rw [← all amb _ response performed item mem is, lists'.2 amb _ response performed item mem is]

/-- The views agree when the tables give both the same number. -/
theorem viewsAgree_iff (sound : w.chat.Sound) (joined : cm ∈ w.chat.membersOf conversationId)
    (own : cm.userId = viewer) : w.ViewsAgree ilike viewer conversationId ↔
      w.chat.notSeenCount cm = w.chat.messages.countP fun m =>
        (m.conversationId = conversationId && w.chat.visibleTo viewer m) &&
          w.chat.unreadBy viewer cm.lastSeenMessageId m := by
  have lists := @listsCount_notSeen w viewer conversationId cm ilike sound joined own
  constructor
  · intro agree
    have admitted := ordered_insertionSort MessageListRow.createdAt
      (w.chat.messageRows conversationId viewer)
    have agreed := agree (List.insertionSort fun a b => b.createdAt ≤ a.createdAt)
      (fun _ => ⟨0,fun k => k,fun _ => 0,[]⟩) none admitted
    rw [unreadInList_eq sound joined own admitted] at agreed
    exact lists.unique agreed
  · intro same order draws pageSize admitted
    rw [unreadInList_eq sound joined own admitted, ← same]
    exact lists

/-- Where the messages are aligned the views agree for every member. -/
theorem viewsAgree_aligned (sound : w.chat.Sound) (aligned : w.chat.Aligned)
    (member : w.chat.isMember conversationId viewer = true) :
    w.ViewsAgree ilike viewer conversationId := by
  obtain ⟨cm,joined,user⟩ := List.any_eq_true.mp member
  have own : cm.userId = viewer := of_decide_eq_true user
  obtain ⟨stored,_,home⟩ := ChatDatabase.membersOf_iff.mp joined
  rw [viewsAgree_iff sound joined own, ← own, ← home]
  exact notSeenCount_aligned aligned stored

end Views

end Chatterbox
