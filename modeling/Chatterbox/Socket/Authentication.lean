import Chatterbox.Socket.Moves

/-!
As whom the events of a socket run. Whatever the order in which its connection, its events and
the verifications go on, the token that it came with decides, except for an event whose
parameters are bound after another event has found the session expired.
-/
namespace Chatterbox
open Concurrency

/-- The token verifies as this user, at some time. -/
def BaseWsAuthGuard.Verifies (guard : BaseWsAuthGuard ValidatedTokenPayload)
    (token : Option JsString) (user : ValidatedTokenPayload) : Prop :=
  ∃ accessToken now, token = some accessToken ∧ guard.verifyToken now accessToken = .ok user

@[simp] theorem WsClient.unauthorized_data (ack : Bool) (client : WsClient ValidatedTokenPayload) :
    (BaseWsAuthGuard.unauthorized ack client).data = client.data := by
  cases ack <;> rfl

@[simp] theorem WsClient.unauthorized_connected (ack : Bool)
    (client : WsClient ValidatedTokenPayload) :
    (BaseWsAuthGuard.unauthorized ack client).connected = client.connected := by
  cases ack <;> rfl

@[simp] theorem WsClient.unauthorized_accessToken (ack : Bool)
    (client : WsClient ValidatedTokenPayload) :
    (BaseWsAuthGuard.unauthorized ack client).accessToken = client.accessToken := by
  cases ack <;> rfl

namespace Socket
variable {Body : Type} {guard : BaseWsAuthGuard ValidatedTokenPayload} {token : Option JsString}
  {s t : Socket Body}

@[simp] theorem join_client (room : Uuid) (s : Socket Body) : (s.join room).client = s.client := by
  unfold join
  split <;> rfl

@[simp] theorem join_promises (room : Uuid) (s : Socket Body) :
    (s.join room).promises = s.promises := by
  unfold join
  split <;> rfl

@[simp] theorem join_events (room : Uuid) (s : Socket Body) : (s.join room).events = s.events := by
  unfold join
  split <;> rfl

@[simp] theorem emit_client (frame : SocketFrame) (s : Socket Body) :
    (s.emit frame).client = s.client := by
  unfold emit
  split <;> rfl

@[simp] theorem emit_promises (frame : SocketFrame) (s : Socket Body) :
    (s.emit frame).promises = s.promises := by
  unfold emit
  split <;> rfl

@[simp] theorem emit_events (frame : SocketFrame) (s : Socket Body) :
    (s.emit frame).events = s.events := by
  unfold emit
  split <;> rfl

@[simp] theorem join_authPromise (room : Uuid) (s : Socket Body) :
    (s.join room).authPromise = s.authPromise := by
  unfold join
  split <;> rfl

@[simp] theorem emit_authPromise (frame : SocketFrame) (s : Socket Body) :
    (s.emit frame).authPromise = s.authPromise := by
  unfold emit
  split <;> rfl

/-- The socket has a user, or had one and its session has expired. -/
def Authenticated (s : Socket Body) : Prop :=
  ∀ data, s.client.data = some data → data.authUser ≠ none

/-- What an event may have come to. -/
def StageSound (guard : BaseWsAuthGuard ValidatedTokenPayload) (token : Option JsString)
    (s : Socket Body) (event : SocketEvent Body) : Prop :=
  match event.stage with
  | .activated => s.Authenticated
  | .handled authUserId =>
      (∃ user, guard.Verifies token user ∧ authUserId = some user.sub) ∨
        s.client.data = none ∧ authUserId = event.claimed
  | _ => True

structure Sound (guard : BaseWsAuthGuard ValidatedTokenPayload) (token : Option JsString)
    (s : Socket Body) : Prop where
  handshake : s.client.accessToken = token
  verifying : ∀ accessToken, .verifying accessToken ∈ s.promises → token = some accessToken
  fulfilled : ∀ user, .settled (.ok user) ∈ s.promises →
    guard.Verifies token user ∧ s.Authenticated
  user : ∀ data user, s.client.data = some data → data.authUser = some user →
    guard.Verifies token user
  events : ∀ event ∈ s.events, s.StageSound guard token event
  expired : s.client.data = none → s.client.connected = false
  rooms : ∀ room ∈ s.rooms, ∃ user, guard.Verifies token user ∧ user.sub = room
  left : s.client.connected = false → s.rooms = []
  told : .ready ∈ s.frames → s.client.connected = true → s.rooms ≠ []

/-- What has happened to the data of a socket stays. -/
structure Follows (s t : Socket Body) : Prop where
  authenticated : s.Authenticated → t.Authenticated
  expired : s.client.data = none → t.client.data = none

theorem follows_of_data (same : t.client.data = s.client.data) : Follows s t :=
  ⟨fun known data holds => known data (same ▸ holds),fun gone => same.trans gone⟩

theorem StageSound.follows {event : SocketEvent Body} (sound : s.StageSound guard token event)
    (follows : Follows s t) : t.StageSound guard token event := by
  unfold StageSound at sound ⊢
  split
  · rename_i stage
    rw [stage] at sound
    exact follows.authenticated sound
  · rename_i stage
    rw [stage] at sound
    exact sound.imp_right fun gone => ⟨follows.expired gone.1,gone.2⟩
  · trivial

theorem events_receive {message : WsMessage Body} {stage : EventStage} (follows : Follows s t)
    (sound : ∀ event ∈ s.events, s.StageSound guard token event)
    (new : t.StageSound guard token { message with stage }) :
    ∀ event ∈ s.events ++ [{ message with stage }], t.StageSound guard token event := by
  intro event mem
  rcases List.mem_append.mp mem with old | last
  · exact (sound event old).follows follows
  · rw [List.mem_singleton.mp last]
    exact new

theorem events_atStage {i : Nat} {event : SocketEvent Body} {stage : EventStage}
    (follows : Follows s t) (sound : ∀ event ∈ s.events, s.StageSound guard token event)
    (new : t.StageSound guard token { event with stage }) :
    ∀ e ∈ s.events.set i { event with stage }, t.StageSound guard token e := by
  intro e mem
  rcases List.mem_or_eq_of_mem_set mem with old | rfl
  · exact (sound e old).follows follows
  · exact new

/-- A promise that is made when there is nobody yet is not fulfilled. -/
theorem authenticateUser_nobody {client : WsClient ValidatedTokenPayload}
    {data : ClientData ValidatedTokenPayload} (holds : client.data = some data)
    (nobody : data.authUser = none) :
    (∃ accessToken, client.accessToken = some accessToken ∧
        authenticateUser client = .verifying accessToken) ∨
      ∃ e, authenticateUser client = .settled (.error e) := by
  unfold authenticateUser
  rw [holds]
  dsimp only
  rw [nobody]
  dsimp only
  cases has : client.accessToken with
  | none => exact Or.inr ⟨_,rfl⟩
  | some accessToken => exact Or.inl ⟨accessToken,rfl,rfl⟩

theorem sound_opened (authorization authToken : Option JsString) :
    (opened authorization authToken : Socket Body).Sound guard
      (WsClient.opened authorization authToken).accessToken := by
  have holds : (WsClient.opened authorization authToken).data = some ⟨none,none⟩ := rfl
  have first := authenticateUser_nobody holds rfl
  refine ⟨rfl,?_,?_,?_,?_,?_,?_,?_,?_⟩
  · intro accessToken mem
    rw [opened, List.mem_singleton] at mem
    rcases first with ⟨token,has,is⟩ | ⟨e,is⟩
    · cases mem.trans is
      exact has
    · cases mem.trans is
  · intro user mem
    rw [opened, List.mem_singleton] at mem
    rcases first with ⟨_,_,is⟩ | ⟨_,is⟩ <;> cases mem.trans is
  · intro data user holds authUser
    cases holds
    cases authUser
  · exact fun event mem => absurd mem List.not_mem_nil
  · exact nofun
  · exact fun room mem => absurd mem List.not_mem_nil
  · exact nofun
  · exact fun mem => absurd mem List.not_mem_nil

theorem StageSound.refused {event : SocketEvent Body} {e : GuardError}
    (stage : event.stage = .refused e) : s.StageSound guard token event := by
  unfold StageSound
  rw [stage]
  trivial

theorem StageSound.activated {event : SocketEvent Body} (stage : event.stage = .activated)
    (known : s.Authenticated) : s.StageSound guard token event := by
  unfold StageSound
  rw [stage]
  exact known

theorem StageSound.awaiting {event : SocketEvent Body} {p : Nat}
    (stage : event.stage = .awaiting p) : s.StageSound guard token event := by
  unfold StageSound
  rw [stage]
  trivial

/-- A promise that does not come with a user of its own. -/
def Harmless (token : Option JsString) (promises : List AuthPromise) (promise : AuthPromise) :
    Prop :=
  promise ∈ promises ∨ (∃ e, promise = .settled (.error e)) ∨
    ∃ accessToken, promise = .verifying accessToken ∧ token = some accessToken

/-- A step that leaves the data, the rooms and the frames alone and fulfils no promise. -/
theorem Sound.kept (sound : s.Sound guard token)
    (handshake : t.client.accessToken = s.client.accessToken)
    (data : t.client.data = s.client.data) (connected : t.client.connected = s.client.connected)
    (rooms : t.rooms = s.rooms) (frames : t.frames = s.frames)
    (promises : ∀ promise ∈ t.promises, Harmless token s.promises promise)
    (events : ∀ event ∈ t.events, t.StageSound guard token event) : t.Sound guard token := by
  have follows := follows_of_data data
  refine ⟨handshake.trans sound.handshake,fun accessToken mem => ?_,fun user mem => ?_,
    fun d user holds => sound.user d user (data ▸ holds),events,?_,?_,?_,?_⟩
  · rcases promises _ mem with old | ⟨e,is⟩ | ⟨_,is,has⟩
    · exact sound.verifying accessToken old
    · cases is
    · cases is
      exact has
  · rcases promises _ mem with old | ⟨e,is⟩ | ⟨_,is,_⟩
    · obtain ⟨verifies,known⟩ := sound.fulfilled user old
      exact ⟨verifies,follows.authenticated known⟩
    · cases is
    · cases is
  · rw [data, connected]
    exact sound.expired
  · rw [rooms]
    exact sound.rooms
  · rw [rooms, connected]
    exact sound.left
  · rw [rooms, connected, frames]
    exact sound.told

/-- The token of the socket verifies, and the socket keeps the user in it. -/
theorem sound_verified {p : Nat} {now : Time} {accessToken : JsString}
    {user : ValidatedTokenPayload} {data : ClientData ValidatedTokenPayload}
    (sound : s.Sound guard token) (runs : s.promises[p]? = some (.verifying accessToken))
    (verifies : guard.verifyToken now accessToken = .ok user)
    (holds : s.client.data = some data) :
    ({ s with
        client := { s.client with data := some { authUser := user, accessToken } }
        authPromise := none
        promises := s.promises.set p (.settled (.ok user)) } : Socket Body).Sound guard token := by
  have same : guard.Verifies token user :=
    ⟨accessToken,now,sound.verifying accessToken (List.mem_of_getElem? runs),verifies⟩
  have follows : Follows s { s with
      client := { s.client with data := some { authUser := user, accessToken } }
      authPromise := none
      promises := s.promises.set p (.settled (.ok user)) } := by
    refine ⟨fun _ d is => ?_,fun gone => ?_⟩
    · cases is
      exact Option.some_ne_none user
    · rw [holds] at gone
      cases gone
  refine ⟨sound.handshake,fun other mem => ?_,fun other mem => ⟨?_,?_⟩,?_,
    fun event mem => (sound.events event mem).follows follows,nofun,sound.rooms,sound.left,
    sound.told⟩
  · rcases List.mem_or_eq_of_mem_set mem with old | is
    · exact sound.verifying other old
    · cases is
  · rcases List.mem_or_eq_of_mem_set mem with old | is
    · exact (sound.fulfilled other old).1
    · cases is
      exact same
  · intro d is
    cases is
    exact Option.some_ne_none user
  · intro d other is authUser
    cases is
    cases authUser
    exact same

/-- The session has expired: the socket loses its data and is closed. -/
theorem sound_expired {message : WsMessage Body} {e : GuardError} (sound : s.Sound guard token) :
    (({ s with
        client := { BaseWsAuthGuard.unauthorized message.ack s.client with
          data := none, connected := false }
        rooms := [] } : Socket Body).receive message (.refused e)).Sound guard token := by
  have follows : Follows s (({ s with
      client := { BaseWsAuthGuard.unauthorized message.ack s.client with
        data := none, connected := false }
      rooms := [] } : Socket Body).receive message (.refused e)) := ⟨fun _ => nofun,fun _ => rfl⟩
  refine ⟨?_,sound.verifying,fun user mem => ⟨(sound.fulfilled user mem).1,nofun⟩,nofun,
    events_receive (s := s) follows sound.events (.refused rfl),fun _ => rfl,
    fun room mem => absurd mem List.not_mem_nil,fun _ => rfl,nofun⟩
  exact (WsClient.unauthorized_accessToken _ _).trans sound.handshake

theorem sound_disconnect {connection : ConnectionStage} (sound : s.Sound guard token) :
    ({ s.disconnect with connection } : Socket Body).Sound guard token :=
  { handshake := sound.handshake
    verifying := sound.verifying
    fulfilled := sound.fulfilled
    user := sound.user
    events := fun event mem => (sound.events event mem).follows (follows_of_data rfl)
    expired := fun _ => rfl
    rooms := fun _ mem => absurd mem List.not_mem_nil
    left := fun _ => rfl
    told := nofun }

theorem sound_emit_error {message : String} (sound : s.Sound guard token) :
    (s.emit (.errorClient message)).Sound guard token := by
  unfold emit
  split
  · refine { sound with told := fun mem => sound.told ?_,
                        events := fun event mem => (sound.events event mem).follows
                          (follows_of_data rfl) }
    rcases List.mem_append.mp mem with old | new
    · exact old
    · cases List.mem_singleton.mp new
  · exact sound

/-- The user of the socket joins his room, and is told so after. -/
theorem sound_ready {user : ValidatedTokenPayload} (sound : s.Sound guard token)
    (settled : .settled (.ok user) ∈ s.promises) :
    ({ (s.join user.sub).emit .ready with connection := .ready } : Socket Body).Sound guard
      token := by
  have verifies := (sound.fulfilled user settled).1
  cases opened : s.client.connected with
  | false =>
    have idle : ({ (s.join user.sub).emit .ready with connection := .ready } : Socket Body) =
        { s with connection := .ready } := by
      simp [join, emit, opened]
    rw [idle]
    exact { sound with events := fun event mem => (sound.events event mem).follows
                         (follows_of_data rfl) }
  | true =>
    have joins : ({ (s.join user.sub).emit .ready with connection := .ready } : Socket Body) =
        { s with
          rooms := s.rooms ++ [user.sub], frames := s.frames ++ [.ready]
          connection := .ready } := by
      simp [join, emit, opened]
    rw [joins]
    refine { sound with
      events := fun event mem => (sound.events event mem).follows (follows_of_data rfl)
      rooms := fun room mem => ?_
      left := fun closed => ?_
      told := fun _ _ => by simp }
    · rcases List.mem_append.mp mem with old | new
      · exact sound.rooms room old
      · exact ⟨user,verifies,(List.mem_singleton.mp new).symm⟩
    · rw [opened] at closed
      cases closed

theorem currentUserId_sound (sound : s.Sound guard token) (known : s.Authenticated)
    (message : WsMessage Body) :
    (∃ user, guard.Verifies token user ∧ s.currentUserId message = some user.sub) ∨
      s.client.data = none ∧ s.currentUserId message = message.claimed := by
  unfold currentUserId
  cases holds : s.client.data with
  | none => exact Or.inr ⟨rfl,rfl⟩
  | some data =>
    cases authUser : data.authUser with
    | none => exact absurd authUser (known data holds)
    | some user =>
      refine Or.inl ⟨user,sound.user data user holds authUser,?_⟩
      rw [Option.bind_some, authUser]

theorem sound_moves {a : SocketStep Body} (sound : s.Sound guard token)
    (moves : Moves guard s a t) : t.Sound guard token := by
  have unchanged : ∀ promise ∈ s.promises, Harmless token s.promises promise :=
    fun promise mem => Or.inl mem
  have at_ : ∀ {i : Nat} {event : SocketEvent Body}, s.events[i]? = some event →
      s.StageSound guard token event := fun waits => sound.events _ (List.mem_of_getElem? waits)
  cases moves with
  | unread gone =>
    exact sound.kept rfl rfl rfl rfl rfl unchanged
      (events_receive (follows_of_data rfl) sound.events (.refused rfl))
  | expired holds authUser late => exact sound_expired sound
  | known holds authUser early =>
    refine sound.kept rfl rfl rfl rfl rfl unchanged
      (events_receive (follows_of_data rfl) sound.events (.activated rfl fun data is => ?_))
    cases holds.symm.trans is
    rw [authUser]
    exact Option.some_ne_none _
  | joined holds nobody shared =>
    exact sound.kept rfl rfl rfl rfl rfl unchanged
      (events_receive (follows_of_data rfl) sound.events (.awaiting rfl))
  | started holds nobody none =>
    refine sound.kept rfl rfl rfl rfl rfl (fun promise mem => ?_)
      (events_receive (follows_of_data rfl) sound.events (.awaiting rfl))
    rcases List.mem_append.mp mem with old | new
    · exact Or.inl old
    · rw [List.mem_singleton.mp new]
      rcases authenticateUser_nobody holds nobody with ⟨accessToken,has,is⟩ | ⟨e,is⟩
      · exact Or.inr (Or.inr ⟨accessToken,is,sound.handshake.symm.trans has⟩)
      · exact Or.inr (Or.inl ⟨e,is⟩)
  | verified runs verifies holds => exact sound_verified sound runs verifies holds
  | unverified runs =>
    refine sound.kept rfl rfl rfl rfl rfl (fun promise mem => ?_)
      fun event mem => (sound.events event mem).follows (follows_of_data rfl)
    rcases List.mem_or_eq_of_mem_set mem with old | is
    · exact Or.inl old
    · exact Or.inr (Or.inl ⟨_,is⟩)
  | ready waits settled => exact sound_ready sound settled
  | dropped waits => exact sound_disconnect (sound_emit_error sound)
  | passed waits stage settled =>
    exact sound.kept rfl rfl rfl rfl rfl unchanged
      (events_atStage (follows_of_data rfl) sound.events
        (.activated rfl (sound.fulfilled _ settled).2))
  | refused waits stage holds =>
    exact sound.kept (WsClient.unauthorized_accessToken _ _) (WsClient.unauthorized_data _ _)
      (WsClient.unauthorized_connected _ _) rfl rfl unchanged
      (events_atStage (s := s) (follows_of_data (WsClient.unauthorized_data _ _)) sound.events
        (.refused rfl))
  | stranded waits stage gone =>
    exact sound.kept rfl rfl rfl rfl rfl unchanged
      (events_atStage (follows_of_data rfl) sound.events (.refused rfl))
  | handled waits stage =>
    have known := at_ waits
    unfold StageSound at known
    rw [stage] at known
    exact sound.kept rfl rfl rfl rfl rfl unchanged
      (events_atStage (follows_of_data rfl) sound.events
        (currentUserId_sound sound known _))
  | closed opened => exact sound_disconnect sound

variable {authorization authToken : Option JsString}

theorem sound_reachable (reached : (machine guard authorization authToken).Reachable s) :
    s.Sound guard (WsClient.opened authorization authToken).accessToken := by
  refine Machine.Reaches.invariant ?_ ?_ reached
  · rintro _ rfl
    exact sound_opened authorization authToken
  · exact fun a s t sound _ moves => sound_moves sound (moves_of_step moves)

end Socket

/-- Two verifications of one token come to the same user. -/
theorem verifies_unique {env : AuthEnv}
    (expires : env.accessKeys.Expires AccessTokenPayload.exp AuthModule.clockTolerance)
    {token : Option JsString} {user user' : ValidatedTokenPayload}
    (first : (chatWsGuard env).Verifies token user)
    (second : (chatWsGuard env).Verifies token user') : user = user' := by
  obtain ⟨decode,clock⟩ := expires
  obtain ⟨accessToken,now,rfl,verified⟩ := first
  obtain ⟨_,now',is,verified'⟩ := second
  cases is
  obtain ⟨payload,accepted,rfl⟩ := (chatWsGuard_backed env).verifyToken_ok.mp verified
  obtain ⟨payload',accepted',rfl⟩ := (chatWsGuard_backed env).verifyToken_ok.mp verified'
  rw [clock, Option.filter_eq_some_iff] at accepted accepted'
  cases accepted.1.symm.trans accepted'.1
  rfl

/-- A socket belongs to one user: the one of the token that it came with. -/
structure Socket.OwnedBy {Body : Type} (s : Socket Body) (owner : Option Uuid) : Prop where
  events : ∀ event ∈ s.events, ∀ authUserId, event.stage = .handled authUserId →
    owner.isSome ∧ authUserId = owner ∨
      s.client.data = none ∧ s.client.connected = false ∧ authUserId = event.claimed
  rooms : ∀ room ∈ s.rooms, owner = some room
  told : .ready ∈ s.frames → s.client.connected = true → ∃ room ∈ s.rooms, owner = some room

/-- The token of the socket verifies, at some time, as this user. -/
def Socket.TokenUser {Body : Type} (env : AuthEnv) (s : Socket Body) (sub : Uuid) : Prop :=
  ∃ accessToken now payload, s.client.accessToken = some accessToken ∧
    env.accessKeys.verifyAsync accessToken now = some payload ∧ payload.sub = sub

namespace Socket
variable {Body : Type} {env : AuthEnv} {token : Option JsString} {s : Socket Body}

/-- What a handled event ran as, when the token verifies as this user only. -/
theorem Sound.ran (sound : s.Sound (chatWsGuard env) token) {owner : Option Uuid}
    (same : ∀ user, (chatWsGuard env).Verifies token user → owner = some user.sub)
    {event : SocketEvent Body} (mem : event ∈ s.events) {authUserId : Option Uuid}
    (stage : event.stage = .handled authUserId) :
    owner.isSome ∧ authUserId = owner ∨
      s.client.data = none ∧ s.client.connected = false ∧ authUserId = event.claimed := by
  have ran := sound.events event mem
  unfold StageSound at ran
  rw [stage] at ran
  rcases ran with ⟨user,verifies,rfl⟩ | ⟨gone,claimed⟩
  · rw [same user verifies]
    exact Or.inl ⟨rfl,rfl⟩
  · exact Or.inr ⟨gone,sound.expired gone,claimed⟩

theorem Sound.owned (sound : s.Sound (chatWsGuard env) token) {owner : Option Uuid}
    (same : ∀ user, (chatWsGuard env).Verifies token user → owner = some user.sub) :
    s.OwnedBy owner := by
  have home : ∀ room ∈ s.rooms, owner = some room := by
    intro room mem
    obtain ⟨user,verifies,rfl⟩ := sound.rooms room mem
    exact same user verifies
  refine ⟨fun event mem authUserId stage => sound.ran same mem stage,home,fun told opened => ?_⟩
  obtain ⟨room,mem⟩ := List.exists_mem_of_ne_nil _ (sound.told told opened)
  exact ⟨room,mem,home room mem⟩

/-- There is one owner: the user of the token, or nobody while it has not verified. -/
theorem Sound.ownedBy
    (expires : env.accessKeys.Expires AccessTokenPayload.exp AuthModule.clockTolerance)
    (sound : s.Sound (chatWsGuard env) token) :
    ∃ owner, s.OwnedBy owner ∧ ∀ sub, owner = some sub → s.TokenUser env sub := by
  by_cases known : ∃ user, (chatWsGuard env).Verifies token user
  · obtain ⟨user,verifies⟩ := known
    refine ⟨some user.sub,sound.owned fun other as => ?_,fun sub is => ?_⟩
    · rw [verifies_unique expires as verifies]
    · cases is
      obtain ⟨accessToken,now,has,verified⟩ := verifies
      obtain ⟨payload,accepted,rfl⟩ := (chatWsGuard_backed env).verifyToken_ok.mp verified
      exact ⟨accessToken,now,payload,sound.handshake.trans has,accepted,rfl⟩
  · exact ⟨none,sound.owned fun user as => absurd ⟨user,as⟩ known,nofun⟩

end Socket

/-- In every order of the awaits of a socket there is one user for it: its token verifies as
    him, its events run as him and it is in his room only, before it is told that it is ready.
    Only an event that is bound after the session has expired runs as whom its own body names,
    and the socket is closed by then. -/
theorem socket_ownedBy {Body : Type} {env : AuthEnv}
    (expires : env.accessKeys.Expires AccessTokenPayload.exp AuthModule.clockTolerance)
    {authorization authToken : Option JsString} {s : Socket Body}
    (reached : (Socket.machine (chatWsGuard env) authorization authToken).Reachable s) :
    ∃ owner, s.OwnedBy owner ∧ ∀ sub, owner = some sub → s.TokenUser env sub :=
  (Socket.sound_reachable reached).ownedBy expires

/-- A session of user 1 that ends while his second event is between guard and handler. -/
def expiringRun : List (SocketStep Unit) :=
  [.verify 0 5000, .connect, .arrive 6000 ⟨(),none,false⟩, .handle 0,
    .arrive 86405000 ⟨(),some 2,false⟩, .arrive 86405001 ⟨(),none,false⟩, .handle 1]

/-- The first event runs as user 1 and the second one as user 2, whom its body names. -/
theorem expiringRun_ownedBy : ∃ s : Socket Unit,
    s.events.map SocketEvent.stage = [.handled (some 1), .handled (some 2),
      .refused (.wsException "UNAUTHENTICATED" "Unauthorized")] ∧ s.OwnedBy (some 1) := by
  obtain ⟨s,run,stages,first⟩ : ∃ s : Socket Unit,
      (Socket.machine (chatWsGuard expiringEnv) newSocket.authorization none).runAll expiringRun
        (Socket.opened newSocket.authorization none) = some s ∧
      s.events.map SocketEvent.stage = [.handled (some 1), .handled (some 2),
        .refused (.wsException "UNAUTHENTICATED" "Unauthorized")] ∧
      s.events[0]? = some ⟨⟨(),none,false⟩,.handled (some 1)⟩ := ⟨_,rfl,rfl,rfl⟩
  obtain ⟨owner,owned,_⟩ :=
    socket_ownedBy expiringEnv_expires (Machine.Reachable.runAll (.start rfl) run)
  refine ⟨s,stages,?_⟩
  rcases owned.events _ (List.mem_of_getElem? first) _ rfl with ⟨_,is⟩ | ⟨_,_,claimed⟩
  · rw [is]
    exact owned
  · cases claimed

end Chatterbox
