import Chatterbox.Auth.WsGuard
import Chatterbox.Concurrency.Machine

/-!
One socket of the chat gateway at the grain of its awaits: its connection and its events share
the promise of one verification of the access token, and each of them goes on when it has
settled. Whatever is waiting goes on in any order and at any later moment.
-/
namespace Chatterbox
open Concurrency

/-- The promise of one call of `authenticateUser`. -/
inductive AuthPromise where
  | verifying (accessToken : JsString)
  | settled (r : Except GuardError ValidatedTokenPayload)
  deriving DecidableEq, Repr

/-- Where `handleConnection` stands. -/
inductive ConnectionStage where
  | awaiting (authPromise : Nat)
  | ready
  | refused
  deriving DecidableEq, Repr

/-- Where an event stands: at the await of the guard, past the guard, refused, or with its
    handler, which has bound the parameters. -/
inductive EventStage where
  | awaiting (authPromise : Nat)
  | activated
  | refused (e : GuardError)
  | handled (authUserId : Option Uuid)
  deriving DecidableEq, Repr

/-- What a client sends. Its body may have an `authUser` of its own, with `claimed` as the
    `sub` in it. -/
structure WsMessage (Body : Type) where
  body : Body
  claimed : Option Uuid
  ack : Bool

structure SocketEvent (Body : Type) extends WsMessage Body where
  stage : EventStage

inductive SocketFrame where
  | ready
  | errorClient (message : String)
  deriving DecidableEq, Repr

/-- `authPromise` is the third field of the data of the client: the place of the promise among
    those made so far. -/
structure Socket (Body : Type) where
  client : WsClient ValidatedTokenPayload
  authPromise : Option Nat
  promises : List AuthPromise
  connection : ConnectionStage
  events : List (SocketEvent Body)
  rooms : List Uuid
  frames : List SocketFrame

inductive SocketStep (Body : Type) where
  | arrive (now : Time) (message : WsMessage Body)
  | verify (authPromise : Nat) (now : Time)
  | connect
  | resume (event : Nat)
  | handle (event : Nat)
  | close

/-- The token that a socket came with, unless it is empty. -/
def WsClient.accessToken {User : Type} (client : WsClient User) : Option JsString :=
  (BaseWsAuthGuard.extractToken client).filter (· ≠ [])

def WsClient.opened (authorization authToken : Option JsString) :
    WsClient ValidatedTokenPayload :=
  { authorization, authToken, data := some ⟨none,none⟩, connected := true, acks := [] }

namespace Socket
variable {Body : Type}

/-- `authenticateUser` up to its await. -/
def authenticateUser (client : WsClient ValidatedTokenPayload) : AuthPromise :=
  match client.data with
  | none => .settled (.error (.typeError "Cannot read properties of null (reading 'authUser')"))
  | some data => match data.authUser with
    | some authUser => .settled (.ok authUser)
    | none => match client.accessToken with
      | none => .settled (.error (.wsException none "Unauthorized"))
      | some accessToken => .verifying accessToken

/-- A new socket, with `handleConnection` at its await. -/
def opened (authorization authToken : Option JsString) : Socket Body :=
  let client := WsClient.opened authorization authToken
  { client, authPromise := some 0, promises := [authenticateUser client],
    connection := .awaiting 0, events := [], rooms := [], frames := [] }

def join (room : Uuid) (s : Socket Body) : Socket Body :=
  if s.client.connected then { s with rooms := s.rooms ++ [room] } else s

def emit (frame : SocketFrame) (s : Socket Body) : Socket Body :=
  if s.client.connected then { s with frames := s.frames ++ [frame] } else s

/-- A closed socket is in no room. -/
def disconnect (s : Socket Body) : Socket Body :=
  { s with client := { s.client with connected := false }, rooms := [] }

def receive (message : WsMessage Body) (stage : EventStage) (s : Socket Body) : Socket Body :=
  { s with events := s.events ++ [{ message with stage }] }

def atStage (i : Nat) (event : SocketEvent Body) (stage : EventStage) (s : Socket Body) :
    Socket Body :=
  { s with events := s.events.set i { event with stage } }

/-- `canActivate` up to its await. -/
def canActivate (guard : BaseWsAuthGuard ValidatedTokenPayload) (now : Time)
    (message : WsMessage Body) (s : Socket Body) : Socket Body :=
  match s.client.data with
  | none => s.receive message
      (.refused (.typeError "Cannot read properties of null (reading 'authUser')"))
  | some data => match data.authUser with
    | some authUser =>
        if guard.expired now authUser then
          ({ s with
              client := (BaseWsAuthGuard.handleExpiredSession message.ack s.client).2
              rooms := [] } : Socket Body).receive message
            (.refused (.wsException "UNAUTHENTICATED" "Unauthorized"))
        else s.receive message .activated
    | none => match s.authPromise with
      | some p => s.receive message (.awaiting p)
      | none =>
          ({ s with
              promises := s.promises ++ [authenticateUser s.client]
              authPromise := some s.promises.length } : Socket Body).receive message
            (.awaiting s.promises.length)

/-- `authenticateUser` once the token has been verified. -/
def authenticated (guard : BaseWsAuthGuard ValidatedTokenPayload) (p : Nat)
    (accessToken : JsString) (now : Time) (s : Socket Body) : Socket Body :=
  match guard.verifyToken now accessToken with
  | .ok verifyRes => match s.client.data with
    | some _ =>
        { s with
          client := { s.client with data := some { authUser := verifyRes, accessToken } }
          authPromise := none
          promises := s.promises.set p (.settled (.ok verifyRes)) }
    -- nothing can be assigned to null, and the guard catches that too
    | none => { s with
        promises := s.promises.set p (.settled (.error (.wsException none "Unauthorized"))) }
  | .error _ => { s with
      promises := s.promises.set p (.settled (.error (.wsException none "Unauthorized"))) }

/-- `handleConnection` after its await. -/
def handleConnection (s : Socket Body) : Except GuardError ValidatedTokenPayload → Socket Body
  | .ok authPayload => { (s.join authPayload.sub).emit .ready with connection := .ready }
  | .error e => { (s.emit (.errorClient e.message)).disconnect with connection := .refused }

/-- `canActivate` after its await. -/
def activated (i : Nat) (event : SocketEvent Body) (s : Socket Body) :
    Except GuardError ValidatedTokenPayload → Socket Body
  | .ok _ => s.atStage i event .activated
  | .error e => match s.client.data with
    | none => s.atStage i event
        (.refused (.typeError "Cannot set properties of null (setting 'authPromise')"))
    | some _ =>
        ({ s with
            client := BaseWsAuthGuard.unauthorized event.ack s.client
            authPromise := none } : Socket Body).atStage i event
          (.refused (.wsException "UNAUTHENTICATED" e.message))

/-- The parameter of a handler: the user of the socket, or whom the body names when there is
    none. -/
def currentUserId (s : Socket Body) (message : WsMessage Body) : Option Uuid :=
  match s.client.data.bind ClientData.authUser with
  | some authUser => some authUser.sub
  | none => message.claimed

/-- What an await of the promise gives, once it has settled. -/
def awaited (s : Socket Body) (p : Nat) : Option (Except GuardError ValidatedTokenPayload) :=
  match s.promises[p]? with
  | some (.settled r) => some r
  | _ => none

def step (guard : BaseWsAuthGuard ValidatedTokenPayload) :
    SocketStep Body → Socket Body → Option (Socket Body)
  | .arrive now message, s => some (s.canActivate guard now message)
  | .verify p now, s => match s.promises[p]? with
    | some (.verifying accessToken) => some (s.authenticated guard p accessToken now)
    | _ => none
  | .connect, s => match s.connection with
    | .awaiting p => (s.awaited p).map s.handleConnection
    | _ => none
  | .resume i, s => match s.events[i]? with
    | some event => match event.stage with
      | .awaiting p => (s.awaited p).map (s.activated i event)
      | _ => none
    | none => none
  | .handle i, s => match s.events[i]? with
    | some event => match event.stage with
      | .activated => some (s.atStage i event (.handled (s.currentUserId event.toWsMessage)))
      | _ => none
    | none => none
  | .close, s => if s.client.connected then some s.disconnect else none

/-- A socket, from its opening on. -/
def machine (guard : BaseWsAuthGuard ValidatedTokenPayload)
    (authorization authToken : Option JsString) : Machine (Socket Body) (SocketStep Body) :=
  { start := fun s => s = opened authorization authToken
    step := step guard }

end Socket
end Chatterbox
