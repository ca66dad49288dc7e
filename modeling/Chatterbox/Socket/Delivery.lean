import Chatterbox.Chat.Audience
import Chatterbox.Socket.Server

/-!
What the clients of the server are shown. The guard, the rooms and the chat module meet here:
whatever reaches a socket is meant for the user of its token, and belongs to a conversation of
his.
-/
namespace Chatterbox
open Concurrency

namespace ChatServer
variable {env : AuthEnv} {ilike : JsString → JsString → Bool} {server server' : ChatServer}

/-- A text in the inbox of a socket is one that its owner may read. -/
def ShowsOwner (env : AuthEnv) (server : ChatServer) : Prop :=
  ∀ (j : Nat) (s : Socket ChatOperation) (inbox : Inbox), server.sockets[j]? = some s →
    server.inboxes[j]? = some inbox → ∀ shown ∈ inbox.texts,
      ∃ owner, s.OwnedBy (some owner) ∧ s.TokenUser env owner ∧
        server.world.chat.MayRead owner shown

structure Sound (env : AuthEnv) (server : ChatServer) : Prop where
  sockets : ∀ s ∈ server.sockets, ∃ token, s.Sound (chatWsGuard env) token
  world : server.world.chat.Sound
  shows : server.ShowsOwner env

theorem showsOwner_silent (quiet : server.inboxes = []) : server.ShowsOwner env := by
  intro j s inbox _ at_j
  rw [quiet] at at_j
  cases at_j

/-- A socket after one of its steps. -/
theorem sockets_set {i : Nat} {s t : Socket ChatOperation} {step : SocketStep ChatOperation}
    (sound : ∀ s ∈ server.sockets, ∃ token, s.Sound (chatWsGuard env) token)
    (at_i : server.sockets[i]? = some s) (moves : s.step (chatWsGuard env) step = some t) :
    ∀ s ∈ server.sockets.set i t, ∃ token, s.Sound (chatWsGuard env) token := by
  intro s' mem
  rcases List.mem_or_eq_of_mem_set mem with old | rfl
  · exact sound s' old
  · obtain ⟨token,kept⟩ := sound s (List.mem_of_getElem? at_i)
    exact ⟨token,Socket.sound_moves kept (Socket.moves_of_step moves)⟩

theorem receives_mem {emitted : List Broadcast} {sends : Bool} {s : Socket ChatOperation}
    {event : WsEvent} (mem : event ∈ s.receives emitted sends) :
    s.client.connected = true ∧ ∃ b ∈ emitted, b.event = event ∧ ∃ room ∈ b.rooms,
      room ∈ s.rooms := by
  obtain ⟨b,memb,is⟩ := List.mem_map.mp mem
  obtain ⟨sent,reached⟩ := List.mem_filter.mp memb
  simp only [Bool.and_eq_true, List.any_eq_true, decide_eq_true_eq] at reached
  obtain ⟨⟨connected,room,addressed,joined⟩,_⟩ := reached
  exact ⟨connected,b,sent,is,room,addressed,joined⟩

theorem deliver_at {sockets : List (Socket ChatOperation)} {asker : Option (Nat × Bool)}
    {performed : Except Failure ChatResponse × ChatWorld} {j : Nat} {s : Socket ChatOperation}
    {inbox : Inbox} (at_j : sockets[j]? = some s)
    (is : (deliver sockets asker performed)[j]? = some inbox) :
    inbox = { response := if asker = some (j, true) ∧ s.client.connected = true then
                some performed.1 else none
              events := s.receives performed.2.emitted
                (decide (asker.map Prod.fst = some j)) } := by
  rw [deliver, List.getElem?_mapIdx, at_j] at is
  exact (Option.some.inj is).symm

/-- What an operation delivers is for the owners of the sockets, as long as the one who has
    asked runs as the owner of his own. -/
theorem showsOwner_deliver {asker : Option (Nat × Bool)} {amb : Ambient} {authUserId : Uuid}
    {operation : ChatOperation}
    (expires : env.accessKeys.Expires AccessTokenPayload.exp AuthModule.clockTolerance)
    (sockets : ∀ s ∈ server'.sockets, ∃ token, s.Sound (chatWsGuard env) token)
    (world : server.world.chat.Sound) (unused : ChatDatabase.Unused amb server.world.chat)
    (after : server'.world = (server.world.perform ilike amb authUserId operation).2)
    (inboxes : server'.inboxes = deliver server'.sockets asker
      (server.world.perform ilike amb authUserId operation))
    (runs : ∀ j s owner, asker = some (j, true) → server'.sockets[j]? = some s →
      s.client.connected = true → s.OwnedBy owner → owner = some authUserId) :
    server'.ShowsOwner env := by
  intro j s inbox at_j at_inbox shown mem
  obtain ⟨token,sound⟩ := sockets s (List.mem_of_getElem? at_j)
  obtain ⟨owner,owned,verified⟩ := sound.ownedBy expires
  rw [inboxes] at at_inbox
  obtain rfl := deliver_at at_j at_inbox
  have readable : ∀ viewer, owner = some viewer →
      shown ∈ shownTo viewer authUserId ChatResponse.texts WsEvent.texts
        (server.world.perform ilike amb authUserId operation) →
      ∃ owner, s.OwnedBy (some owner) ∧ s.TokenUser env owner ∧
        server'.world.chat.MayRead owner shown := by
    rintro viewer rfl reaches
    refine ⟨viewer,owned,verified viewer rfl,?_⟩
    rw [after]
    exact readable_perform world unused shown reaches
  rcases List.mem_append.mp mem with own | sent
  · dsimp only at own
    split at own
    · rename_i response responds
      split_ifs at responds with asked
      obtain rfl := runs j s owner asked.1 at_j asked.2 owned
      refine readable authUserId rfl (List.mem_append_left _ ?_)
      rw [Option.some.inj responds]
      dsimp only
      rw [if_pos rfl]
      exact own
    · cases own
  · obtain ⟨event,memEvent,texts⟩ := List.mem_flatMap.mp sent
    obtain ⟨_,b,emitted,rfl,room,addressed,joined⟩ := receives_mem memEvent
    refine readable room (owned.rooms room joined) (List.mem_append_right _ ?_)
    exact List.mem_flatMap.mpr ⟨b,List.mem_filter.mpr ⟨emitted,decide_eq_true addressed⟩,texts⟩

/-- What one handled event does, with the socket before and after. -/
theorem handle_cases {i event : Nat} {amb : Ambient}
    (moves : server.handle env ilike i event amb = some server') :
    ∃ s e t authUserId, server.sockets[i]? = some s ∧ s.events[event]? = some e ∧
      s.step (chatWsGuard env) (.handle event) = some t ∧
      s.currentUserId e.toWsMessage = some authUserId ∧
      server' = { sockets := server.sockets.set i t
                  world := (server.world.perform ilike amb authUserId e.body).2
                  inboxes := deliver (server.sockets.set i t) (some (i, e.ack))
                    (server.world.perform ilike amb authUserId e.body) } := by
  unfold handle at moves
  obtain ⟨s,at_i,moves⟩ := Option.bind_eq_some_iff.mp moves
  obtain ⟨e,waits,moves⟩ := Option.bind_eq_some_iff.mp moves
  obtain ⟨t,goes,moves⟩ := Option.bind_eq_some_iff.mp moves
  dsimp only at moves
  split at moves
  · rename_i authUserId is
    cases moves
    exact ⟨s,e,t,authUserId,at_i,waits,goes,is,rfl⟩
  · cases moves

/-- A handled event runs as the owner of its socket while that is connected. -/
theorem handle_owner {event : Nat} {s t : Socket ChatOperation} {e : SocketEvent ChatOperation}
    {authUserId : Uuid} {owner : Option Uuid} (waits : s.events[event]? = some e)
    (goes : s.step (chatWsGuard env) (.handle event) = some t)
    (is : s.currentUserId e.toWsMessage = some authUserId) (connected : t.client.connected = true)
    (owned : t.OwnedBy owner) : owner = some authUserId := by
  simp only [Socket.step, waits] at goes
  split at goes
  · cases goes
    have inside := (List.getElem?_eq_some_iff.mp waits).1
    have mem : { e with stage := .handled (s.currentUserId e.toWsMessage) } ∈
        (s.atStage event e (.handled (s.currentUserId e.toWsMessage))).events :=
      List.mem_of_getElem? (List.getElem?_set_self inside)
    rcases owned.events _ mem _ rfl with ⟨_,same⟩ | ⟨_,closed,_⟩
    · exact same.symm.trans is
    · rw [closed] at connected
      cases connected
  · cases goes

theorem sound_step
    (expires : env.accessKeys.Expires AccessTokenPayload.exp AuthModule.clockTolerance)
    {a : ServerStep} (sound : server.Sound env) (allowed : Allowed a server)
    (moves : step env ilike a server = some server') : server'.Sound env := by
  cases a with
  | opened authorization authToken =>
    cases moves
    refine ⟨fun s mem => ?_,sound.world,showsOwner_silent rfl⟩
    rcases List.mem_append.mp mem with old | new
    · exact sound.sockets s old
    · rw [List.mem_singleton.mp new]
      exact ⟨_,Socket.sound_opened authorization authToken⟩
  | socket i step =>
    simp only [ChatServer.step] at moves
    split_ifs at moves
    obtain ⟨s,at_i,moves⟩ := Option.bind_eq_some_iff.mp moves
    obtain ⟨t,goes,moves⟩ := Option.bind_eq_some_iff.mp moves
    cases moves
    exact ⟨sockets_set sound.sockets at_i goes,sound.world,showsOwner_silent rfl⟩
  | handle i event amb =>
    obtain ⟨s,e,t,authUserId,at_i,waits,goes,is,rfl⟩ := handle_cases moves
    have sockets := sockets_set sound.sockets at_i goes
    have kept : ((Turn.request amb authUserId e.body).run ilike server.world).chat.Sound :=
      sound_turn sound.world allowed
    have inside := (List.getElem?_eq_some_iff.mp at_i).1
    refine ⟨sockets,kept,showsOwner_deliver expires sockets sound.world allowed rfl rfl ?_⟩
    intro j s' owner asked at_j connected owned
    obtain rfl := congrArg Prod.fst (Option.some.inj asked)
    cases (List.getElem?_set_self inside).symm.trans at_j
    exact handle_owner waits goes is connected owned
  | http authorization amb operation =>
    simp only [ChatServer.step] at moves
    split_ifs at moves
    unfold ChatServer.http at moves
    split at moves
    · rename_i authUserId _
      cases moves
      have kept : ((Turn.request amb authUserId operation).run ilike server.world).chat.Sound :=
        sound_turn sound.world allowed
      exact ⟨sound.sockets,kept,
        showsOwner_deliver expires sound.sockets sound.world allowed rfl rfl nofun⟩
    · cases moves
  | elsewhere users =>
    cases moves
    exact ⟨sound.sockets,sound.world,showsOwner_silent rfl⟩

theorem sound_reached
    (expires : env.accessKeys.Expires AccessTokenPayload.exp AuthModule.clockTolerance)
    (reached : (machine env ilike).Reaches Allowed server) : server.Sound env := by
  refine Machine.Reaches.invariant (fun first begins => ?_)
    (fun _ _ _ sound allowed moves => sound_step expires sound allowed moves) reached
  obtain ⟨sockets,chat,quiet⟩ := begins
  refine ⟨fun s mem => ?_,?_,showsOwner_silent quiet⟩
  · rw [sockets] at mem
    cases mem
  · rw [chat]
    exact ChatDatabase.sound_empty

/-- A socket that has been told that it is ready is in the room of its owner and in no other. -/
theorem joined_iff {s : Socket ChatOperation} {owner : Uuid} (owned : s.OwnedBy (some owner))
    (connected : s.client.connected = true) (ready : .ready ∈ s.frames) (room : Uuid) :
    room ∈ s.rooms ↔ room = owner := by
  constructor
  · intro joined
    cases owned.rooms room joined
    rfl
  · rintro rfl
    obtain ⟨own,joined,is⟩ := owned.told ready connected
    cases is
    exact joined

/-- The user of a token is the owner of the sockets that came with it. -/
theorem owner_unique
    (expires : env.accessKeys.Expires AccessTokenPayload.exp AuthModule.clockTolerance)
    {s : Socket ChatOperation} {owner owner' : Uuid} (first : s.TokenUser env owner)
    (second : s.TokenUser env owner') : owner = owner' := by
  obtain ⟨decode,clock⟩ := expires
  obtain ⟨accessToken,now,payload,has,verified,rfl⟩ := first
  obtain ⟨_,now',payload',has',verified',rfl⟩ := second
  cases has.symm.trans has'
  rw [clock, Option.filter_eq_some_iff] at verified verified'
  cases verified.1.symm.trans verified'.1
  rfl

/-- Each broadcast to the owner of a ready socket reaches it once, unless the gateway spares
    the sender. -/
theorem receives_ready {emitted : List Broadcast} {sends : Bool} {s : Socket ChatOperation}
    {owner : Uuid} (owned : s.OwnedBy (some owner)) (connected : s.client.connected = true)
    (ready : .ready ∈ s.frames) :
    s.receives emitted sends =
      (emitted.filter fun b => owner ∈ b.rooms && !(sends && b.event.sparesSender)).map
        Broadcast.event := by
  unfold Socket.receives
  congr 1
  refine List.filter_congr fun b _ => ?_
  have addressed : (b.rooms.any fun room => room ∈ s.rooms) = decide (owner ∈ b.rooms) := by
    rw [Bool.eq_iff_iff, List.any_eq_true, decide_eq_true_eq]
    constructor
    · rintro ⟨room,mem,joined⟩
      obtain rfl := (joined_iff owned connected ready room).mp (of_decide_eq_true joined)
      exact mem
    · exact fun mem => ⟨owner,mem,decide_eq_true ((joined_iff owned connected ready _).mpr rfl)⟩
  rw [addressed, connected, Bool.true_and]

/-- The event that announces an operation spares nobody. -/
theorem sparesSender_announced {operation : ChatOperation} {event : WsEvent} {id : Uuid}
    (announces : operation.announcedIn event = some id) : event.sparesSender = false := by
  cases event with
  | conversationCreated => cases operation <;> cases announces
  | messageSeen => cases operation <;> cases announces
  | _ => rfl

/-- A ready socket hears of a message what its owner is told. -/
theorem heard_iff {w : ChatWorld} {sends : Bool} {s : Socket ChatOperation} {owner id : Uuid}
    {operation : ChatOperation} (owned : s.OwnedBy (some owner))
    (connected : s.client.connected = true) (ready : .ready ∈ s.frames) :
    (∃ event ∈ s.receives w.emitted sends, operation.announcedIn event = some id) ↔
      w.Told operation id owner := by
  rw [receives_ready owned connected ready]
  constructor
  · rintro ⟨event,mem,announces⟩
    obtain ⟨b,memb,rfl⟩ := List.mem_map.mp mem
    obtain ⟨sent,reached⟩ := List.mem_filter.mp memb
    exact ⟨b,sent,of_decide_eq_true (Bool.and_eq_true_iff.mp reached).1,announces⟩
  · rintro ⟨b,sent,addressed,announces⟩
    refine ⟨b.event,List.mem_map_of_mem (List.mem_filter.mpr ⟨sent,?_⟩),announces⟩
    rw [sparesSender_announced announces, decide_eq_true addressed, Bool.and_false]
    rfl

/-- The sockets that are ready hear of the messages of an operation, in a conversation of two,
    as their owners find them in their lists. -/
def HearsAsListed (env : AuthEnv) (ilike : JsString → JsString → Bool) (before after : ChatServer)
    (actor : Uuid) (operation : ChatOperation) : Prop :=
  ∀ m, operation.About before.world.chat after.world.chat m →
    after.world.chat.Couple m.conversationId →
    ∀ (j : Nat) (s : Socket ChatOperation) (inbox : Inbox) (owner : Uuid),
      after.sockets[j]? = some s → after.inboxes[j]? = some inbox → s.client.connected = true →
      .ready ∈ s.frames → s.TokenUser env owner →
        ((∃ event ∈ inbox.events, operation.announcedIn event = some m.id) ↔
          operation.Concerns ilike actor after.world m owner)

end ChatServer

/-- Users 1 and 2 connect, and user 1 asks for a conversation. -/
def firstContact : List ServerStep :=
  [.opened newSocket.authorization none,
    .opened (some (BaseWsAuthGuard.bearer ++ [0x20, 2, 5, 86405])) none,
    .socket 0 (.verify 0 5000), .socket 0 .connect, .socket 1 (.verify 0 5000),
    .socket 1 .connect, .socket 0 (.arrive 6000 ⟨.createConversation ⟨2,[104, 105]⟩,none,true⟩)]

def ChatServer.empty : ChatServer := ⟨[],emptyWorld,[]⟩

theorem firstContact_reaches {server : ChatServer}
    (run : (ChatServer.machine expiringEnv noMatch).runAll firstContact .empty = some server) :
    (ChatServer.machine expiringEnv noMatch).Reaches ChatServer.Allowed server :=
  Machine.Reaches.runAll (by simp [firstContact, ChatServer.Allowed]) (.start ⟨rfl,rfl,rfl⟩) run

variable {env : AuthEnv} {ilike : JsString → JsString → Bool}

/-- In every run of the server, with any number of sockets and one operation after another, each
    text that a step brings to the client of a socket is the one then stored for its message, in a
    conversation of which the user of the socket's token is a live member. -/
theorem shown_to_owners
    (expires : env.accessKeys.Expires AccessTokenPayload.exp AuthModule.clockTolerance)
    {server : ChatServer}
    (reached : (ChatServer.machine env ilike).Reaches ChatServer.Allowed server) :
    server.ShowsOwner env :=
  (ChatServer.sound_reached expires reached).shows

/-- The greeting comes back to user 1 as his response and as an event, and to user 2 as two
    events. -/
theorem shown_to_owners_firstContact : ∃ server : ChatServer,
    (server.inboxes.map fun inbox => inbox.texts) = [[(104,some [104, 105]),
      (104,some [104, 105])], [(104,some [104, 105]), (104,some [104, 105])]] ∧
      server.ShowsOwner expiringEnv := by
  obtain ⟨first,server,run,handled,empty,texts⟩ : ∃ first server : ChatServer,
      (ChatServer.machine expiringEnv noMatch).runAll firstContact .empty = some first ∧
      (ChatServer.machine expiringEnv noMatch).step (.handle 0 0 (numberedDraws 1)) first =
        some server ∧ first.world.chat = ⟨[],[],[],[]⟩ ∧
      (server.inboxes.map fun inbox => inbox.texts) = [[(104,some [104, 105]),
        (104,some [104, 105])], [(104,some [104, 105]), (104,some [104, 105])]] :=
    ⟨_,_,rfl,rfl,rfl,rfl⟩
  have unused : ChatDatabase.Unused (numberedDraws 1) first.world.chat := by
    rw [empty]
    exact unused_numberedDraws (by decide) (by decide) (by decide)
  have allowed : ChatServer.Allowed (.handle 0 0 (numberedDraws 1)) first := unused
  exact ⟨server,texts,shown_to_owners expiringEnv_expires
    (.step (firstContact_reaches run) allowed handled)⟩

/-- In every run of the server, which takes one operation after another, when an event that has
    reached its handler changes the messages or who has deleted them, each of the ready sockets
    hears of it exactly when its owner finds the message in his list afterwards, a deletion for
    oneself set apart. -/
theorem heard_as_listed
    (expires : env.accessKeys.Expires AccessTokenPayload.exp AuthModule.clockTolerance)
    {server server' : ChatServer} {i event : Nat} {amb : Ambient} {s : Socket ChatOperation}
    {e : SocketEvent ChatOperation} {actor : Uuid}
    (reached : (ChatServer.machine env ilike).Reaches ChatServer.Allowed server)
    (unused : ChatDatabase.Unused amb server.world.chat)
    (at_i : server.sockets[i]? = some s) (waits : s.events[event]? = some e)
    (is : s.currentUserId e.toWsMessage = some actor)
    (moves : ChatServer.step env ilike (.handle i event amb) server = some server')
    (differ : server.world.chat.MessagesDiffer server'.world.chat) :
    ChatServer.HearsAsListed env ilike server server' actor e.body := by
  have sound := ChatServer.sound_reached expires reached
  have allowed : ChatServer.Allowed (.handle i event amb) server := unused
  have kept := ChatServer.sound_step expires sound allowed moves
  obtain ⟨_,_,t,_,at_i',waits',goes,is',rfl⟩ := ChatServer.handle_cases moves
  cases at_i.symm.trans at_i'
  cases waits.symm.trans waits'
  cases is.symm.trans is'
  intro m about couple j s' inbox owner at_j at_inbox connected ready verified
  obtain ⟨token,own⟩ := kept.sockets s' (List.mem_of_getElem? at_j)
  obtain ⟨owner',owned,named⟩ := own.ownedBy expires
  obtain ⟨room,_,is_owner⟩ := owned.told ready connected
  subst is_owner
  obtain rfl := ChatServer.owner_unique expires verified (named room rfl)
  obtain rfl := ChatServer.deliver_at at_j at_inbox
  rcases tells_perform sound.world unused with ⟨messages,deleted,_⟩ | tells
  · exact absurd differ (not_or.mpr ⟨not_not.mpr messages,not_not.mpr deleted⟩)
  · exact (ChatServer.heard_iff owned connected ready).trans (tells m about couple owner)

/-- The ready socket of user 2 hears of the first message, and that of user 1 too. -/
theorem heard_as_listed_firstContact : ∃ first server : ChatServer,
    (server.inboxes.map fun inbox => inbox.events.length) = [1, 2] ∧
      ChatServer.HearsAsListed expiringEnv noMatch first server 1
        (.createConversation ⟨2,[104, 105]⟩) := by
  obtain ⟨first,s,e,server,run,empty,at_0,waits,is,body,handled,messages,heard⟩ :
      ∃ (first : ChatServer) (s : Socket ChatOperation) (e : SocketEvent ChatOperation)
        (server : ChatServer),
      (ChatServer.machine expiringEnv noMatch).runAll firstContact .empty = some first ∧
      first.world.chat = ⟨[],[],[],[]⟩ ∧ first.sockets[0]? = some s ∧ s.events[0]? = some e ∧
      s.currentUserId e.toWsMessage = some 1 ∧ e.body = .createConversation ⟨2,[104, 105]⟩ ∧
      ChatServer.step expiringEnv noMatch (.handle 0 0 (numberedDraws 1)) first = some server ∧
      server.world.chat.messages.length = 1 ∧
      (server.inboxes.map fun inbox => inbox.events.length) = [1, 2] :=
    ⟨_,_,_,_,rfl,rfl,rfl,rfl,rfl,rfl,rfl,rfl,rfl⟩
  have unused : ChatDatabase.Unused (numberedDraws 1) first.world.chat := by
    rw [empty]
    exact unused_numberedDraws (by decide) (by decide) (by decide)
  have differ : first.world.chat.MessagesDiffer server.world.chat := by
    refine Or.inl fun same => ?_
    rw [same, empty] at messages
    cases messages
  rw [← body]
  exact ⟨first,server,heard,heard_as_listed expiringEnv_expires (firstContact_reaches run) unused
    at_0 waits is handled differ⟩

end Chatterbox
