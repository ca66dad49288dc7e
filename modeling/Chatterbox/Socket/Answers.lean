import Chatterbox.Socket.Authentication

/-!
What the shared promise is good for, and that nothing is lost in it. A burst of events costs
one verification of the token, every further one has been made room for by a refusal, and
every event is refused or handled in the end.
-/
namespace Chatterbox
open Concurrency

def EventStage.isRefused : EventStage → Bool
  | .refused _ => true
  | _ => false

def EventStage.isAwaiting : EventStage → Bool
  | .awaiting _ => true
  | _ => false

def EventStage.isActivated : EventStage → Bool
  | .activated => true
  | _ => false

/-- The steps that an event at a stage has left. -/
def EventStage.left : EventStage → Nat
  | .awaiting _ => 2
  | .activated => 1
  | _ => 0

theorem EventStage.left_eq (stage : EventStage) :
    stage.left =
      2 * (if stage.isAwaiting then 1 else 0) + (if stage.isActivated then 1 else 0) := by
  cases stage <;> rfl

def AuthPromise.isVerifying : AuthPromise → Bool
  | .verifying _ => true
  | .settled _ => false

def ConnectionStage.isAwaiting : ConnectionStage → Bool
  | .awaiting _ => true
  | _ => false

namespace Socket
variable {Body : Type} {guard : BaseWsAuthGuard ValidatedTokenPayload} {s t : Socket Body}
  {authorization authToken : Option JsString}

/-- How many events are at such a stage. -/
def count (at_ : EventStage → Bool) (s : Socket Body) : Nat := s.events.countP fun e => at_ e.stage

theorem count_receive (at_ : EventStage → Bool) (message : WsMessage Body) (stage : EventStage)
    (s : Socket Body) :
    (s.receive message stage).count at_ = s.count at_ + (if at_ stage then 1 else 0) := by
  rw [count, receive, List.countP_append, List.countP_singleton]
  rfl

/-- An event goes from one stage to another, and the others stay where they are. -/
theorem count_atStage (at_ : EventStage → Bool) {i : Nat} {event : SocketEvent Body}
    (waits : s.events[i]? = some event) (stage : EventStage) :
    (s.atStage i event stage).count at_ + (if at_ event.stage then 1 else 0) =
      s.count at_ + (if at_ stage then 1 else 0) := by
  obtain ⟨inside,is⟩ := List.getElem?_eq_some_iff.mp waits
  have counted : (if at_ event.stage then 1 else 0) ≤ s.count at_ := by
    split
    · exact List.countP_pos_iff.mpr ⟨event,List.mem_of_getElem? waits,‹_›⟩
    · exact Nat.zero_le _
  unfold count at counted ⊢
  rw [atStage, List.countP_set inside, is]
  dsimp only
  omega

/-- An event comes to a stage of the kind from one of another kind. -/
theorem count_reaches {at_ : EventStage → Bool} {i : Nat} {event : SocketEvent Body}
    (waits : s.events[i]? = some event) (before : at_ event.stage = false) (stage : EventStage) :
    (s.atStage i event stage).count at_ = s.count at_ + (if at_ stage then 1 else 0) := by
  have counted := count_atStage at_ waits stage
  rw [before] at counted
  exact counted

theorem le_count_receive (at_ : EventStage → Bool) (message : WsMessage Body) (stage : EventStage)
    (s : Socket Body) : s.count at_ ≤ (s.receive message stage).count at_ := by
  rw [count_receive]
  exact Nat.le_add_right ..

theorem le_count_atStage {at_ : EventStage → Bool} {i : Nat} {event : SocketEvent Body}
    (waits : s.events[i]? = some event) (before : at_ event.stage = false) (stage : EventStage) :
    s.count at_ ≤ (s.atStage i event stage).count at_ := by
  rw [count_reaches waits before]
  exact Nat.le_add_right ..

/-- Every call of `authenticateUser` after the one of the connection has been made room for
    by a refused event. -/
structure Single (s : Socket Body) : Prop where
  calls : s.promises.length ≤ 1 + s.count EventStage.isRefused
  idle : s.authPromise = none → ¬ s.Authenticated →
    s.promises.length ≤ s.count EventStage.isRefused

theorem single_opened (authorization authToken : Option JsString) :
    (opened authorization authToken : Socket Body).Single :=
  ⟨Nat.le_refl 1,nofun⟩

theorem authenticated_congr (same : t.client.data = s.client.data) :
    t.Authenticated ↔ s.Authenticated := by
  unfold Authenticated
  rw [same]

/-- A step that makes no promise and leaves the data alone, and the field too unless it has
    refused an event. -/
theorem Single.kept (single : s.Single) (promises : t.promises.length = s.promises.length)
    (data : t.client.data = s.client.data) (field : t.authPromise = s.authPromise)
    (refusals : s.count EventStage.isRefused ≤ t.count EventStage.isRefused) : t.Single := by
  have known := authenticated_congr data
  refine ⟨?_,fun none nobody => ?_⟩
  · have := single.calls
    omega
  · have := single.idle (field ▸ none) (fun is => nobody (known.mpr is))
    omega

theorem single_moves {a : SocketStep Body} (single : s.Single) (moves : Moves guard s a t) :
    t.Single := by
  have calls := single.calls
  cases moves with
  | unread gone => exact single.kept rfl rfl rfl (le_count_receive ..)
  | expired holds authUser late =>
    exact ⟨Nat.le_trans calls (Nat.add_le_add_left (le_count_receive ..) 1),
      fun _ nobody => absurd nofun nobody⟩
  | known holds authUser early => exact single.kept rfl rfl rfl (le_count_receive ..)
  | joined holds nobody shared => exact single.kept rfl rfl rfl (le_count_receive ..)
  | started holds nobody none =>
    have room := single.idle none fun known => known _ holds nobody
    refine ⟨?_,nofun⟩
    calc (s.promises ++ [authenticateUser s.client]).length
        = 1 + s.promises.length := by rw [List.length_append, Nat.add_comm]; rfl
      _ ≤ 1 + s.count EventStage.isRefused := Nat.add_le_add_left room 1
      _ ≤ _ := Nat.add_le_add_left (le_count_receive ..) 1
  | verified runs verifies holds =>
    refine ⟨?_,fun _ nobody => absurd ?_ nobody⟩
    · rw [List.length_set]
      exact calls
    · intro data is
      cases is
      exact Option.some_ne_none _
  | unverified runs => exact single.kept (List.length_set ..) rfl rfl (Nat.le_refl _)
  | ready waits settled =>
    refine single.kept ?_ ?_ ?_ (Nat.le_of_eq ?_)
    · simp only [emit_promises, join_promises]
    · simp only [emit_client, join_client]
    · simp only [emit_authPromise, join_authPromise]
    · simp only [count, emit_events, join_events]
  | dropped waits =>
    refine single.kept ?_ ?_ ?_ (Nat.le_of_eq ?_)
    · simp only [disconnect, emit_promises]
    · simp only [disconnect, emit_client]
    · simp only [disconnect, emit_authPromise]
    · simp only [count, disconnect, emit_events]
  | passed waits stage settled =>
    exact single.kept rfl rfl rfl (le_count_atStage waits (stage ▸ rfl) _)
  | @refused i p event e data waits stage holds =>
    have counted : (s.atStage i event (.refused e)).count EventStage.isRefused =
        s.count EventStage.isRefused + 1 := count_reaches waits (stage ▸ rfl) _
    have room : s.promises.length ≤ (s.atStage i event (.refused e)).count
        EventStage.isRefused := by
      rw [counted, Nat.add_comm]
      exact calls
    exact ⟨Nat.le_trans room (Nat.le_add_left ..),fun _ _ => room⟩
  | stranded waits stage gone =>
    exact single.kept rfl rfl rfl (le_count_atStage waits (stage ▸ rfl) _)
  | handled waits stage =>
    exact single.kept rfl rfl rfl (le_count_atStage waits (stage ▸ rfl) _)
  | closed opened => exact single.kept rfl rfl rfl (Nat.le_refl _)

/-- What is left to do for a socket: the steps of its events, of its verifications and of its
    connection. -/
def rank (s : Socket Body) : Nat :=
  2 * s.count EventStage.isAwaiting + s.count EventStage.isActivated +
    s.promises.countP AuthPromise.isVerifying + s.connection.isAwaiting.toNat +
    s.client.connected.toNat

/-- What an event brings in: its two awaits, a promise, and the step of its own. -/
def brings : SocketStep Body → Nat
  | .arrive _ _ => 4
  | _ => 0

theorem rank_receive (message : WsMessage Body) (stage : EventStage) (s : Socket Body) :
    (s.receive message stage).rank = s.rank + stage.left := by
  unfold rank
  rw [count_receive, count_receive]
  cases stage <;> simp [receive, EventStage.left, EventStage.isAwaiting, EventStage.isActivated] <;>
    omega

theorem rank_atStage {i : Nat} {event : SocketEvent Body} (waits : s.events[i]? = some event)
    (stage : EventStage) :
    (s.atStage i event stage).rank + event.stage.left = s.rank + stage.left := by
  have awaiting := count_atStage EventStage.isAwaiting waits stage
  have activated := count_atStage EventStage.isActivated waits stage
  have same : (s.atStage i event stage).rank = 2 * (s.atStage i event stage).count
      EventStage.isAwaiting + (s.atStage i event stage).count EventStage.isActivated +
      s.promises.countP AuthPromise.isVerifying + s.connection.isAwaiting.toNat +
      s.client.connected.toNat := rfl
  rw [same, rank]
  rw [EventStage.left_eq, EventStage.left_eq stage]
  omega

theorem countP_verified {p : Nat} {accessToken : JsString} {promises : List AuthPromise}
    (runs : promises[p]? = some (.verifying accessToken))
    (r : Except GuardError ValidatedTokenPayload) :
    (promises.set p (.settled r)).countP AuthPromise.isVerifying + 1 =
      promises.countP AuthPromise.isVerifying := by
  obtain ⟨inside,is⟩ := List.getElem?_eq_some_iff.mp runs
  have counted : 0 < promises.countP AuthPromise.isVerifying :=
    List.countP_pos_iff.mpr ⟨_,List.mem_of_getElem? runs,rfl⟩
  rw [List.countP_set inside, is]
  simp only [AuthPromise.isVerifying, if_true, Bool.false_eq_true, if_false]
  omega

/-- Every step has its place in the rank, but for those that an arriving event brings in. -/
theorem rank_moves {a : SocketStep Body} (moves : Moves guard s a t) :
    t.rank + 1 ≤ s.rank + brings a := by
  cases moves with
  | unread gone =>
    rw [rank_receive]
    exact Nat.add_le_add_left (by decide : 1 ≤ 4) _
  | expired holds authUser late =>
    rw [rank_receive]
    simp only [rank, brings, count, EventStage.left, Bool.toNat_false]
    omega
  | known holds authUser early =>
    rw [rank_receive]
    exact Nat.add_le_add_left (by decide : 2 ≤ 4) _
  | joined holds nobody shared =>
    rw [rank_receive]
    exact Nat.add_le_add_left (by decide : 3 ≤ 4) _
  | started holds nobody none =>
    have one : [authenticateUser s.client].countP AuthPromise.isVerifying ≤ 1 :=
      List.countP_le_length
    rw [rank_receive]
    simp only [rank, brings, count, EventStage.left, List.countP_append]
    omega
  | @verified p now accessToken user data runs verifies holds =>
    have one := countP_verified runs (.ok user)
    simp only [rank, brings, count]
    omega
  | @unverified p now accessToken e runs =>
    have one := countP_verified runs (.error e)
    simp only [rank, brings, count]
    omega
  | ready waits settled =>
    simp only [rank, brings, count, emit_events, join_events, emit_promises, join_promises,
      emit_client, join_client, waits, ConnectionStage.isAwaiting, Bool.toNat_false,
      Bool.toNat_true]
    omega
  | dropped waits =>
    simp only [rank, brings, count, disconnect, emit_events, emit_promises, waits,
      ConnectionStage.isAwaiting, Bool.toNat_false, Bool.toNat_true]
    omega
  | passed waits stage settled =>
    have moved := rank_atStage waits .activated
    rw [stage] at moved
    simp only [brings, EventStage.left] at moved ⊢
    omega
  | @refused i p event e data waits stage holds =>
    have moved := rank_atStage (s := { s with
      client := BaseWsAuthGuard.unauthorized event.ack s.client, authPromise := none }) waits
      (.refused e)
    have same : ({ s with
        client := BaseWsAuthGuard.unauthorized event.ack s.client
        authPromise := none } : Socket Body).rank = s.rank := by
      simp only [rank, count, WsClient.unauthorized_connected]
    rw [stage, same] at moved
    simp only [brings, EventStage.left] at moved ⊢
    omega
  | @stranded i p event e waits stage gone =>
    have moved := rank_atStage waits (.refused e)
    rw [stage] at moved
    simp only [brings, EventStage.left] at moved ⊢
    omega
  | @handled i event waits stage =>
    have moved := rank_atStage waits (.handled (s.currentUserId event.toWsMessage))
    rw [stage] at moved
    simp only [brings, EventStage.left] at moved ⊢
    omega
  | closed opened =>
    simp only [rank, brings, count, disconnect, opened, Bool.toNat_false, Bool.toNat_true]
    omega

/-- Whoever awaits a promise awaits one that has been made. -/
structure Placed (s : Socket Body) : Prop where
  events : ∀ event ∈ s.events, ∀ p, event.stage = .awaiting p → p < s.promises.length
  connection : ∀ p, s.connection = .awaiting p → p < s.promises.length
  field : ∀ p, s.authPromise = some p → p < s.promises.length

theorem placed_opened (authorization authToken : Option JsString) :
    (opened authorization authToken : Socket Body).Placed := by
  refine ⟨fun event mem => absurd mem List.not_mem_nil,fun p is => ?_,fun p is => ?_⟩
  · cases is
    exact Nat.one_pos
  · cases is
    exact Nat.one_pos

/-- Events that keep their place, among no fewer promises. -/
theorem Placed.kept (placed : s.Placed) (promises : s.promises.length ≤ t.promises.length)
    (connection : ∀ p, t.connection = .awaiting p → s.connection = .awaiting p)
    (field : ∀ p, t.authPromise = some p → p < t.promises.length)
    (events : ∀ event ∈ t.events, event ∈ s.events ∨
      ∀ p, event.stage = .awaiting p → p < t.promises.length) : t.Placed := by
  refine ⟨fun event mem p stage => ?_,fun p is => ?_,field⟩
  · rcases events event mem with old | new
    · exact Nat.lt_of_lt_of_le (placed.events event old p stage) promises
    · exact new p stage
  · exact Nat.lt_of_lt_of_le (placed.connection p (connection p is)) promises

theorem placed_receive (placed : s.Placed) {message : WsMessage Body} {stage : EventStage}
    (awaits : ∀ p, stage = .awaiting p → p < s.promises.length) :
    (s.receive message stage).Placed := by
  refine placed.kept (Nat.le_refl _) (fun _ is => is) placed.field fun event mem => ?_
  rcases List.mem_append.mp mem with old | new
  · exact Or.inl old
  · rw [List.mem_singleton.mp new]
    exact Or.inr awaits

theorem placed_atStage (placed : s.Placed) {i : Nat} {event : SocketEvent Body}
    {stage : EventStage} (ends : ∀ p, stage ≠ .awaiting p) : (s.atStage i event stage).Placed := by
  refine placed.kept (Nat.le_refl _) (fun _ is => is) placed.field fun e mem => ?_
  rcases List.mem_or_eq_of_mem_set mem with old | rfl
  · exact Or.inl old
  · exact Or.inr fun p is => absurd is (ends p)

theorem placed_moves {a : SocketStep Body} (placed : s.Placed) (moves : Moves guard s a t) :
    t.Placed := by
  cases moves with
  | unread gone => exact placed_receive placed nofun
  | @expired now message data user e holds authUser late =>
    have kept : ({ s with
        client := { BaseWsAuthGuard.unauthorized message.ack s.client with
          data := none, connected := false }
        rooms := [] } : Socket Body).Placed := ⟨placed.events,placed.connection,placed.field⟩
    exact placed_receive kept nofun
  | known holds authUser early => exact placed_receive placed nofun
  | joined holds nobody shared =>
    refine placed_receive placed fun p is => ?_
    cases is
    exact placed.field _ shared
  | started holds nobody none =>
    have more : s.promises.length < (s.promises ++ [authenticateUser s.client]).length := by
      simp
    have kept : ({ s with
        promises := s.promises ++ [authenticateUser s.client]
        authPromise := some s.promises.length } : Socket Body).Placed := by
      refine placed.kept (Nat.le_of_lt more) (fun _ is => is) (fun p is => ?_)
        fun event mem => Or.inl mem
      cases is
      exact more
    refine placed_receive kept fun p is => ?_
    cases is
    exact more
  | verified runs verifies holds =>
    exact placed.kept (Nat.le_of_eq (List.length_set ..).symm) (fun _ is => is) nofun
      fun event mem => Or.inl mem
  | unverified runs =>
    refine placed.kept (Nat.le_of_eq (List.length_set ..).symm) (fun _ is => is) (fun p is => ?_)
      fun event mem => Or.inl mem
    rw [List.length_set]
    exact placed.field p is
  | ready waits settled =>
    refine placed.kept ?_ nofun (fun p is => ?_) fun event mem => Or.inl ?_
    · simp only [emit_promises, join_promises, Nat.le_refl]
    · simp only [emit_promises, join_promises, emit_authPromise, join_authPromise] at is ⊢
      exact placed.field p is
    · simpa only [emit_events, join_events] using mem
  | dropped waits =>
    refine placed.kept ?_ nofun (fun p is => ?_) fun event mem => Or.inl ?_
    · simp only [disconnect, emit_promises, Nat.le_refl]
    · simp only [disconnect, emit_promises, emit_authPromise] at is ⊢
      exact placed.field p is
    · simpa only [disconnect, emit_events] using mem
  | passed waits stage settled => exact placed_atStage placed nofun
  | @refused i p event e data waits stage holds =>
    have kept : ({ s with
        client := BaseWsAuthGuard.unauthorized event.ack s.client
        authPromise := none } : Socket Body).Placed :=
      ⟨placed.events,placed.connection,nofun⟩
    exact placed_atStage kept nofun
  | stranded waits stage gone => exact placed_atStage placed nofun
  | handled waits stage => exact placed_atStage placed nofun
  | closed opened => exact ⟨placed.events,placed.connection,placed.field⟩

/-- Nothing can happen before the client sends another event or goes away. -/
def AtRest (guard : BaseWsAuthGuard ValidatedTokenPayload) (s : Socket Body) : Prop :=
  ∀ a t, step guard a s = some t → a = .close ∨ ∃ now message, a = .arrive now message

/-- A socket with nothing left to do is at rest. -/
theorem atRest_of_rank (done : s.rank = 0) : s.AtRest guard := by
  intro a t goes
  have lower := rank_moves (moves_of_step goes)
  cases a with
  | arrive now message => exact Or.inr ⟨now,message,rfl⟩
  | _ =>
    rw [done] at lower
    cases lower

theorem AtRest.settled (rest : s.AtRest guard) {p : Nat} (made : p < s.promises.length) :
    ∃ r, s.awaited p = some r := by
  unfold awaited
  rw [List.getElem?_eq_getElem made]
  cases is : s.promises[p] with
  | settled r => exact ⟨r,rfl⟩
  | verifying accessToken =>
    have goes : step guard (.verify p 0) s = some (s.authenticated guard p accessToken 0) := by
      simp only [step, List.getElem?_eq_getElem made, is]
    rcases rest _ _ goes with closes | ⟨now,message,arrives⟩
    · cases closes
    · cases arrives

/-- At rest every event has been refused or is with its handler, and so is the connection. -/
theorem Placed.answered (placed : s.Placed) (rest : s.AtRest guard) :
    (∀ event ∈ s.events, event.stage.left = 0) ∧ s.connection.isAwaiting = false := by
  constructor
  · intro event mem
    obtain ⟨i,inside,is⟩ := List.getElem_of_mem mem
    have waits : s.events[i]? = some event := by rw [List.getElem?_eq_getElem inside, is]
    cases stage : event.stage with
    | awaiting p =>
      obtain ⟨r,settled⟩ := rest.settled (placed.events event mem p stage)
      have goes : step guard (.resume i) s = some (s.activated i event r) := by
        simp only [step, waits, stage, settled, Option.map_some]
      rcases rest _ _ goes with closes | ⟨now,message,arrives⟩
      · cases closes
      · cases arrives
    | activated =>
      have goes : step guard (.handle i) s = some (s.atStage i event
          (.handled (s.currentUserId event.toWsMessage))) := by
        simp only [step, waits, stage]
      rcases rest _ _ goes with closes | ⟨now,message,arrives⟩
      · cases closes
      · cases arrives
    | refused e => rfl
    | handled authUserId => rfl
  · cases stage : s.connection with
    | awaiting p =>
      obtain ⟨r,settled⟩ := rest.settled (placed.connection p stage)
      have goes : step guard .connect s = some (s.handleConnection r) := by
        simp only [step, stage, settled, Option.map_some]
      rcases rest _ _ goes with closes | ⟨now,message,arrives⟩
      · cases closes
      · cases arrives
    | ready => rfl
    | refused => rfl

theorem rank_opened_le (authorization authToken : Option JsString) :
    (opened authorization authToken : Socket Body).rank ≤ 3 := by
  have one : [authenticateUser (WsClient.opened authorization authToken)].countP
      AuthPromise.isVerifying ≤ 1 := List.countP_le_length
  simp only [rank, opened, count, ConnectionStage.isAwaiting, WsClient.opened, Bool.toNat_true,
    List.countP_nil] at one ⊢
  omega

end Socket

/-- Only a refused event makes room for a further verification: however many events arrive
    while the token of their socket is being verified, they share one. -/
theorem socket_calls_le {Body : Type} {guard : BaseWsAuthGuard ValidatedTokenPayload}
    {authorization authToken : Option JsString} {s : Socket Body}
    (reached : (Socket.machine guard authorization authToken).Reachable s) :
    s.promises.length ≤ 1 + s.count EventStage.isRefused := by
  have single : s.Single := by
    refine Machine.Reaches.invariant ?_ ?_ reached
    · rintro _ rfl
      exact Socket.single_opened authorization authToken
    · exact fun a s t single _ moves => Socket.single_moves single (Socket.moves_of_step moves)
  exact single.calls

/-- The token has expired. Two events wait for one verification of it, and the third one starts
    another after the first has been refused. -/
def lateRun : List (SocketStep Unit) :=
  [.arrive 0 ⟨(),none,false⟩, .arrive 0 ⟨(),none,false⟩, .verify 0 86420000, .resume 0,
    .arrive 86420000 ⟨(),none,false⟩]

theorem lateRun_calls : ∃ s : Socket Unit, s.promises.length = 2 ∧
    s.count EventStage.isRefused = 1 ∧ s.promises.length ≤ 1 + s.count EventStage.isRefused := by
  obtain ⟨s,run,calls,refused⟩ : ∃ s : Socket Unit,
      (Socket.machine (chatWsGuard expiringEnv) newSocket.authorization none).runAll lateRun
        (Socket.opened newSocket.authorization none) = some s ∧ s.promises.length = 2 ∧
      s.count EventStage.isRefused = 1 := ⟨_,rfl,rfl,rfl⟩
  exact ⟨s,calls,refused,socket_calls_le (Machine.Reachable.runAll (.start rfl) run)⟩

/-- No event of a socket is lost. A run has at most four steps for each of its events and three
    for the connection, and a socket that is at rest has refused or handled all of them. -/
theorem socket_answers {Body : Type} {guard : BaseWsAuthGuard ValidatedTokenPayload}
    {authorization authToken : Option JsString} {steps : List (SocketStep Body)}
    {s : Socket Body}
    (run : (Socket.machine guard authorization authToken).runAll steps
      (Socket.opened authorization authToken) = some s) :
    steps.length ≤ 3 + Machine.brought Socket.brings steps ∧
      (s.AtRest guard → (∀ event ∈ s.events, event.stage.left = 0) ∧
        s.connection.isAwaiting = false) := by
  constructor
  · have bounded := Machine.length_le_rank
      (fun a s t moves => Socket.rank_moves (Socket.moves_of_step moves)) run
    have first : (Socket.opened authorization authToken : Socket Body).rank ≤ 3 :=
      Socket.rank_opened_le authorization authToken
    omega
  · have placed : s.Placed := by
      refine Machine.Reaches.invariant ?_ ?_ (Machine.Reachable.runAll (.start rfl) run)
      · rintro _ rfl
        exact Socket.placed_opened authorization authToken
      · exact fun a s t placed _ moves => Socket.placed_moves placed (Socket.moves_of_step moves)
    exact placed.answered

/-- The session that ends is at rest at its end. -/
theorem expiringRun_answers : expiringRun.length ≤ 3 + Machine.brought Socket.brings expiringRun ∧
    ∃ s : Socket Unit, s.events.map SocketEvent.stage = [.handled (some 1), .handled (some 2),
      .refused (.wsException "UNAUTHENTICATED" "Unauthorized")] ∧
      s.AtRest (chatWsGuard expiringEnv) ∧ (∀ event ∈ s.events, event.stage.left = 0) ∧
        s.connection.isAwaiting = false := by
  obtain ⟨s,run,stages,done⟩ : ∃ s : Socket Unit,
      (Socket.machine (chatWsGuard expiringEnv) newSocket.authorization none).runAll expiringRun
        (Socket.opened newSocket.authorization none) = some s ∧
      s.events.map SocketEvent.stage = [.handled (some 1), .handled (some 2),
        .refused (.wsException "UNAUTHENTICATED" "Unauthorized")] ∧ s.rank = 0 := ⟨_,rfl,rfl,rfl⟩
  have answers := socket_answers run
  have rest : s.AtRest (chatWsGuard expiringEnv) := Socket.atRest_of_rank done
  exact ⟨answers.1,s,stages,rest,answers.2 rest⟩

end Chatterbox
