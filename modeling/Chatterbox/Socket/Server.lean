import Chatterbox.Chat.Readers
import Chatterbox.Socket.Authentication

/-!
The server: its sockets at the grain of their awaits, and the chat module behind them one
operation at a time, with the handlers of its events before the next operation. What happens
when operations overlap is not said here. An event goes out to the sockets in the rooms that it
is addressed to, a response to the socket that has asked.
-/
namespace Chatterbox
open Concurrency

/-- What can be asked for over a socket. -/
def ChatOperation.overSocket : ChatOperation → Bool
  | block _ => false
  | unblock _ => false
  | _ => true

/-- `broadcast` of a gateway leaves out the socket of the sender, `serverBroadcast` does not. -/
def WsEvent.sparesSender : WsEvent → Bool
  | conversationCreated _ => true
  | messageSeen _ _ => true
  | _ => false

namespace BaseHttpAuthGuard

def extractTokenFromHeader (authorization : Option JsString) : Option JsString :=
  match authorization.map (List.splitOn 0x20) with
  | some (type :: token :: _) => if type = BaseWsAuthGuard.bearer then some token else none
  | _ => none

/-- The user of a request; every request has its token verified. -/
def canActivate (env : AuthEnv) (now : Time) (authorization : Option JsString) : Option Uuid :=
  match (extractTokenFromHeader authorization).filter (· ≠ []) with
  | some accessToken => (TokenService.verifyAccessToken env now accessToken).map
      AccessTokenPayload.sub
  | none => none

end BaseHttpAuthGuard

/-- What a step has brought to the client of a socket. -/
structure Inbox where
  response : Option (Except Failure ChatResponse)
  events : List WsEvent

def Inbox.texts (inbox : Inbox) : List ShownText :=
  (match inbox.response with
    | some (.ok response) => response.texts
    | _ => []) ++ inbox.events.flatMap WsEvent.texts

/-- The inboxes are those of the last step, one for each socket. -/
structure ChatServer where
  sockets : List (Socket ChatOperation)
  world : ChatWorld
  inboxes : List Inbox

inductive ServerStep where
  | opened (authorization authToken : Option JsString)
  | socket (i : Nat) (step : SocketStep ChatOperation)
  | handle (i event : Nat) (amb : Ambient)
  | http (authorization : Option JsString) (amb : Ambient) (operation : ChatOperation)
  | elsewhere (users : UserDatabase)

namespace Socket

/-- The broadcasts of an operation that reach a socket, each once however many of its rooms
    they go to. -/
def receives (emitted : List Broadcast) (sends : Bool) (s : Socket ChatOperation) :
    List WsEvent :=
  (emitted.filter fun b => s.client.connected && b.rooms.any (fun room => room ∈ s.rooms) &&
    !(sends && b.event.sparesSender)).map Broadcast.event

/-- Steps of a socket on its own. Its handlers run in the server, and other events than those
    of the gateway have no handler. -/
def Own : SocketStep ChatOperation → Bool
  | .handle _ => false
  | .arrive _ message => message.body.overSocket
  | _ => true

end Socket

namespace ChatServer
variable (env : AuthEnv) (ilike : JsString → JsString → Bool)

/-- What the sockets receive of an operation. The one that has asked gets the response, where
    it has sent an acknowledgement to call with it. -/
def deliver (sockets : List (Socket ChatOperation)) (asker : Option (Nat × Bool))
    (performed : Except Failure ChatResponse × ChatWorld) : List Inbox :=
  sockets.mapIdx fun j s =>
    { response := if asker = some (j, true) ∧ s.client.connected = true then some performed.1
        else none
      events := s.receives performed.2.emitted (decide (asker.map Prod.fst = some j)) }

/-- An event goes to its handler with the user that the parameters are bound to. The operation and
    the handlers of the events that it publishes are one step. The handlers that are bound to no
    user at all are left out. -/
def handle (i event : Nat) (amb : Ambient) (server : ChatServer) : Option ChatServer := do
  let s ← server.sockets[i]?
  let e ← s.events[event]?
  let t ← s.step (chatWsGuard env) (.handle event)
  let sockets := server.sockets.set i t
  match s.currentUserId e.toWsMessage with
  | some authUserId =>
      let performed := server.world.perform ilike amb authUserId e.body
      some { sockets, world := performed.2, inboxes := deliver sockets (some (i, e.ack)) performed }
  | none => none

/-- Blocks and unblocks come over HTTP, each with the handlers of its events in one step too. -/
def http (authorization : Option JsString) (amb : Ambient) (operation : ChatOperation)
    (server : ChatServer) : Option ChatServer :=
  match BaseHttpAuthGuard.canActivate env amb.now authorization with
  | some authUserId =>
      let performed := server.world.perform ilike amb authUserId operation
      some { server with world := performed.2, inboxes := deliver server.sockets none performed }
  | none => none

def step : ServerStep → ChatServer → Option ChatServer
  | .opened authorization authToken, server => some { server with
      sockets := server.sockets ++ [Socket.opened authorization authToken], inboxes := [] }
  | .socket i step, server =>
      if Socket.Own step then do
        let s ← server.sockets[i]?
        let t ← s.step (chatWsGuard env) step
        some { server with sockets := server.sockets.set i t, inboxes := [] }
      else none
  | .handle i event amb, server => server.handle env ilike i event amb
  | .http authorization amb operation, server =>
      if operation.overSocket then none else server.http env ilike authorization amb operation
  | .elsewhere users, server => some { server with
      world := { server.world with users }, inboxes := [] }

/-- The uuids that an operation draws are unused, and no account goes elsewhere. -/
def Allowed : ServerStep → ChatServer → Prop
  | .handle _ _ amb, server => ChatDatabase.Unused amb server.world.chat
  | .http _ amb _, server => ChatDatabase.Unused amb server.world.chat
  | .elsewhere users, server => ∀ id, server.world.users.HasUser id → users.HasUser id
  | _, _ => True

/-- A server that starts without sockets on empty chat tables, and takes one operation after
    another. -/
def machine : Machine ChatServer ServerStep :=
  { start := fun server => server.sockets = [] ∧ server.world.chat = ⟨[],[],[],[]⟩ ∧
      server.inboxes = []
    step := step env ilike }

end ChatServer
end Chatterbox
