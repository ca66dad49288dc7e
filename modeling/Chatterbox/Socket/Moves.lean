import Chatterbox.Socket.Client

/-!
What one step of a socket can do, with the tests that it has passed. Everything that is said
about the runs of a socket is a case analysis over these.
-/
namespace Chatterbox
open Concurrency

namespace Socket
variable {Body : Type} {guard : BaseWsAuthGuard ValidatedTokenPayload}

inductive Moves (guard : BaseWsAuthGuard ValidatedTokenPayload) (s : Socket Body) :
    SocketStep Body → Socket Body → Prop where
  | unread {now : Time} {message : WsMessage Body} {e : GuardError} (gone : s.client.data = none) :
      Moves guard s (.arrive now message) (s.receive message (.refused e))
  | expired {now : Time} {message : WsMessage Body} {data : ClientData ValidatedTokenPayload}
      {user : ValidatedTokenPayload} {e : GuardError} (holds : s.client.data = some data)
      (authUser : data.authUser = some user) (late : guard.expired now user = true) :
      Moves guard s (.arrive now message) (({ s with
        client := { BaseWsAuthGuard.unauthorized message.ack s.client with
          data := none, connected := false }
        rooms := [] } : Socket Body).receive message (.refused e))
  | known {now : Time} {message : WsMessage Body} {data : ClientData ValidatedTokenPayload}
      {user : ValidatedTokenPayload} (holds : s.client.data = some data)
      (authUser : data.authUser = some user) (early : guard.expired now user = false) :
      Moves guard s (.arrive now message) (s.receive message .activated)
  | joined {now : Time} {message : WsMessage Body} {data : ClientData ValidatedTokenPayload}
      {p : Nat} (holds : s.client.data = some data) (nobody : data.authUser = none)
      (shared : s.authPromise = some p) :
      Moves guard s (.arrive now message) (s.receive message (.awaiting p))
  | started {now : Time} {message : WsMessage Body} {data : ClientData ValidatedTokenPayload}
      (holds : s.client.data = some data) (nobody : data.authUser = none)
      (none : s.authPromise = none) :
      Moves guard s (.arrive now message) (({ s with
        promises := s.promises ++ [authenticateUser s.client]
        authPromise := some s.promises.length } : Socket Body).receive message
          (.awaiting s.promises.length))
  | verified {p : Nat} {now : Time} {accessToken : JsString} {user : ValidatedTokenPayload}
      {data : ClientData ValidatedTokenPayload}
      (runs : s.promises[p]? = some (.verifying accessToken))
      (verifies : guard.verifyToken now accessToken = .ok user)
      (holds : s.client.data = some data) :
      Moves guard s (.verify p now) { s with
        client := { s.client with data := some { authUser := user, accessToken } }
        authPromise := .none
        promises := s.promises.set p (.settled (.ok user)) }
  | unverified {p : Nat} {now : Time} {accessToken : JsString} {e : GuardError}
      (runs : s.promises[p]? = some (.verifying accessToken)) :
      Moves guard s (.verify p now) { s with promises := s.promises.set p (.settled (.error e)) }
  | ready {p : Nat} {user : ValidatedTokenPayload} (waits : s.connection = .awaiting p)
      (settled : .settled (.ok user) ∈ s.promises) :
      Moves guard s .connect { (s.join user.sub).emit .ready with connection := .ready }
  | dropped {p : Nat} {e : GuardError} (waits : s.connection = .awaiting p) :
      Moves guard s .connect
        { (s.emit (.errorClient e.message)).disconnect with connection := .refused }
  | passed {i p : Nat} {event : SocketEvent Body} {user : ValidatedTokenPayload}
      (waits : s.events[i]? = some event) (stage : event.stage = .awaiting p)
      (settled : .settled (.ok user) ∈ s.promises) :
      Moves guard s (.resume i) (s.atStage i event .activated)
  | refused {i p : Nat} {event : SocketEvent Body} {e : GuardError}
      {data : ClientData ValidatedTokenPayload} (waits : s.events[i]? = some event)
      (stage : event.stage = .awaiting p) (holds : s.client.data = some data) :
      Moves guard s (.resume i) (({ s with
        client := BaseWsAuthGuard.unauthorized event.ack s.client
        authPromise := none } : Socket Body).atStage i event (.refused e))
  | stranded {i p : Nat} {event : SocketEvent Body} {e : GuardError}
      (waits : s.events[i]? = some event) (stage : event.stage = .awaiting p)
      (gone : s.client.data = none) :
      Moves guard s (.resume i) (s.atStage i event (.refused e))
  | handled {i : Nat} {event : SocketEvent Body} (waits : s.events[i]? = some event)
      (stage : event.stage = .activated) :
      Moves guard s (.handle i)
        (s.atStage i event (.handled (s.currentUserId event.toWsMessage)))
  | closed (opened : s.client.connected = true) : Moves guard s .close s.disconnect

theorem awaited_ok {s : Socket Body} {p : Nat} {user : ValidatedTokenPayload}
    (is : s.awaited p = some (.ok user)) : .settled (.ok user) ∈ s.promises := by
  unfold awaited at is
  split at is
  · rename_i r at_p
    cases is
    exact List.mem_of_getElem? at_p
  · cases is

theorem moves_arrive (now : Time) (message : WsMessage Body) (s : Socket Body) :
    Moves guard s (.arrive now message) (s.canActivate guard now message) := by
  unfold canActivate
  cases holds : s.client.data with
  | none => exact .unread holds
  | some data =>
    dsimp only
    cases authUser : data.authUser with
    | some user =>
      dsimp only
      cases late : guard.expired now user with
      | true => exact .expired holds authUser late
      | false => exact .known holds authUser late
    | none =>
      dsimp only
      cases shared : s.authPromise with
      | some p => exact .joined holds authUser shared
      | none => exact .started holds authUser shared

theorem moves_verify {p : Nat} {accessToken : JsString} {s : Socket Body} (now : Time)
    (runs : s.promises[p]? = some (.verifying accessToken)) :
    Moves guard s (.verify p now) (s.authenticated guard p accessToken now) := by
  unfold authenticated
  cases verifies : guard.verifyToken now accessToken with
  | error e => exact .unverified runs
  | ok user =>
    dsimp only
    cases holds : s.client.data with
    | none => exact .unverified runs
    | some data => exact .verified runs verifies holds

theorem moves_connect {p : Nat} {s : Socket Body} {r : Except GuardError ValidatedTokenPayload}
    (waits : s.connection = .awaiting p) (settled : s.awaited p = some r) :
    Moves guard s .connect (s.handleConnection r) := by
  cases r with
  | ok user => exact .ready waits (awaited_ok settled)
  | error e => exact .dropped waits

theorem moves_resume {i p : Nat} {event : SocketEvent Body} {s : Socket Body}
    {r : Except GuardError ValidatedTokenPayload} (waits : s.events[i]? = some event)
    (stage : event.stage = .awaiting p) (settled : s.awaited p = some r) :
    Moves guard s (.resume i) (s.activated i event r) := by
  cases r with
  | ok user => exact .passed waits stage (awaited_ok settled)
  | error e =>
    unfold activated
    cases holds : s.client.data with
    | none => exact .stranded waits stage holds
    | some data => exact .refused waits stage holds

theorem moves_of_step {a : SocketStep Body} {s t : Socket Body}
    (moves : step guard a s = some t) : Moves guard s a t := by
  cases a with
  | arrive now message =>
    cases moves
    exact moves_arrive now message s
  | verify p now =>
    simp only [step] at moves
    split at moves
    · rename_i accessToken runs
      cases moves
      exact moves_verify now runs
    · cases moves
  | connect =>
    simp only [step] at moves
    split at moves
    · rename_i p waits
      obtain ⟨r,settled,rfl⟩ := Option.map_eq_some_iff.mp moves
      exact moves_connect waits settled
    · cases moves
  | resume i =>
    simp only [step] at moves
    split at moves
    · rename_i event waits
      split at moves
      · rename_i p stage
        obtain ⟨r,settled,rfl⟩ := Option.map_eq_some_iff.mp moves
        exact moves_resume waits stage settled
      · cases moves
    · cases moves
  | handle i =>
    simp only [step] at moves
    split at moves
    · rename_i event waits
      split at moves
      · rename_i stage
        cases moves
        exact .handled waits stage
      · cases moves
    · cases moves
  | close =>
    simp only [step] at moves
    split_ifs at moves with opened
    cases moves
    exact .closed opened

end Socket
end Chatterbox
