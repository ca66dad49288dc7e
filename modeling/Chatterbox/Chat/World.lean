import Chatterbox.Chat.Database

/-!
What an operation of the chat module can touch: the tables of the user module and of
its own, the domain events it publishes, and the WebSocket events that leave the server
for the rooms of users.
-/
namespace Chatterbox
open Concurrency

structure NamedUser where
  id : Uuid
  name : JsString
  deriving DecidableEq, Repr

structure WsUser where
  id : Uuid
  username : JsString
  name : JsString
  avatar : Option JsString
  deriving DecidableEq, Repr

/-- A reply preview: the quoted message as one viewer is shown it. -/
structure ReplyTo (User : Type) where
  id : Uuid
  content : Option JsString
  createdAt : Time
  senderId : Uuid
  user : Option User
  deriving DecidableEq, Repr

structure ConversationMessage where
  id : Uuid
  content : JsString
  createdAt : Time
  seen : Bool
  user : NamedUser
  deriving DecidableEq, Repr

structure ConversationCreated where
  id : Uuid
  name : JsString
  avatar : Option JsString
  username : JsString
  notSeenCount : Nat
  lastMessage : ConversationMessage
  deriving DecidableEq, Repr

structure UserMessageCreatedConversation where
  id : Uuid
  name : JsString
  avatar : Option JsString
  username : JsString
  deriving DecidableEq, Repr

structure UserMessageCreated where
  id : Uuid
  seen : Bool
  createdAt : Time
  user : WsUser
  content : JsString
  conversation : UserMessageCreatedConversation
  replyToMessageId : Option Uuid
  replyTo : Option (ReplyTo WsUser)
  clientMessageId : Option JsString
  deriving DecidableEq, Repr

structure UserMessageEdited where
  id : Uuid
  conversationId : Uuid
  content : JsString
  editedAt : Time
  deriving DecidableEq, Repr

structure UserMessageDeleted where
  id : Uuid
  conversationId : Uuid
  scope : MessageDeleteScope
  deletedAt : Option Time
  deriving DecidableEq, Repr

inductive WsEvent where
  | conversationCreated (data : ConversationCreated)
  | messageSent (data : UserMessageCreated)
  | messageEdited (data : UserMessageEdited)
  | messageDeleted (data : UserMessageDeleted)
  | messageSeen (conversationId messageId : Uuid)
  | userBlocked (blockerId blockedId : Uuid)
  | userUnblocked (unblockerId unblockedId : Uuid)
  deriving DecidableEq, Repr

/-- One event to the rooms of these users. -/
structure Broadcast where
  rooms : List Uuid
  event : WsEvent
  deriving DecidableEq, Repr

inductive BusRequest : Type → Type where
  | publish (event : MessageEvent) : BusRequest Unit
  | broadcast (rooms : List Uuid) (event : WsEvent) : BusRequest Unit

inductive ChatRequest (β : Type) : Type where
  | user (q : UserRequest β)
  | store (q : StoreRequest β)
  | bus (q : BusRequest β)

structure ChatWorld where
  users : UserDatabase
  chat : ChatDatabase
  published : List MessageEvent
  emitted : List Broadcast
  deriving DecidableEq, Repr

namespace ChatWorld

def answerBus : {β : Type} → BusRequest β → ChatWorld → β × ChatWorld
  | _, .publish event, w => ((), { w with published := w.published ++ [event] })
  | _, .broadcast rooms event, w =>
      -- without rooms the gateway skips the broadcast
      ((), if rooms = [] then w else { w with emitted := w.emitted ++ [⟨rooms,event⟩] })

def answer {β : Type} : ChatRequest β → ChatWorld → β × ChatWorld
  | .user q, w => ((userHandler.answer q w.users).1,
      { w with users := (userHandler.answer q w.users).2 })
  | .store q, w => ((ChatDatabase.answer q w.chat).1,
      { w with chat := (ChatDatabase.answer q w.chat).2 })
  | .bus q, w => answerBus q w

end ChatWorld

def chatHandler : Handler ChatRequest ChatWorld := ⟨ChatWorld.answer⟩

abbrev ChatProgram := Program ChatRequest Failure

/-- Await one statement on the tables of the chat module. -/
def query {α : Type} (q : StoreRequest (Answer α)) : ChatProgram α := ask (.store q)

def publish (event : MessageEvent) : ChatProgram Unit :=
  Program.request (.bus (.publish event)) Program.done

def broadcast (rooms : List Uuid) (event : WsEvent) : ChatProgram Unit :=
  Program.request (.bus (.broadcast rooms event)) Program.done

/-- `commit` of an aggregate: its events are published in the order it recorded them. -/
def publishAll : List MessageEvent → ChatProgram Unit
  | [] => pure ()
  | event :: rest => do
      publish event
      publishAll rest

/-- The statements that write to the tables. -/
def StoreRequest.writes : {β : Type} → StoreRequest β → Bool
  | _, .commitMessage _ _ _ => true
  | _, .updateMessage _ _ _ _ => true
  | _, .commitDeletion _ _ => true
  | _, .commitConversation _ _ => true
  | _, .deleteConversation _ _ => true
  | _, _ => false

def ChatRequest.writes {β : Type} : ChatRequest β → Bool
  | .store q => q.writes
  | _ => false

theorem chat_of_reads {β : Type} {q : ChatRequest β} (reads : q.writes = false) (w : ChatWorld) :
    (chatHandler.answer q w).2.chat = w.chat := by
  cases q with
  | user q => rfl
  | store q => cases q <;> first | rfl | cases reads
  | bus q =>
    cases q with
    | publish event => rfl
    | broadcast rooms event =>
      change (if rooms = [] then w else _).chat = w.chat
      split <;> rfl

/-- A program that leaves the tables alone. -/
abbrev Quiet {α : Type} (p : ChatProgram α) : Prop := p.Only fun q => q.writes = false

def BusRequest.plain : {β : Type} → BusRequest β → Bool
  | _, .publish (.edited _) => false
  | _, _ => true

/-- The requests that neither write to the tables nor publish an edit. -/
def ChatRequest.plain {β : Type} : ChatRequest β → Bool
  | .user _ => true
  | .store q => !q.writes
  | .bus q => q.plain

abbrev Plain {α : Type} (p : ChatProgram α) : Prop := p.Only fun q => q.plain = true

theorem writes_of_plain {β : Type} {q : ChatRequest β} (plain : q.plain = true) :
    q.writes = false := by
  cases q with
  | user q => rfl
  | store q => simpa [ChatRequest.plain, ChatRequest.writes] using plain
  | bus q => rfl

theorem Plain.quiet {α : Type} {p : ChatProgram α} (plain : Plain p) : Quiet p :=
  plain.weaken fun _ => writes_of_plain

theorem plain_query {α : Type} {q : StoreRequest (Answer α)} (reads : q.writes = false) :
    Plain (query q) := by
  refine only_ask ?_
  simp [ChatRequest.plain, reads]

theorem quiet_publishAll (events : List MessageEvent) : Quiet (publishAll events) := by
  induction events with
  | nil => trivial
  | cons event rest ih =>
    have first : Quiet (publish event) := ⟨rfl,fun _ => trivial⟩
    exact first.bind fun _ => ih

/-- A statement that changes nothing and is answered from the tables. -/
def StoreRequest.Reads {α : Type} (q : StoreRequest (Answer α)) (read : ChatDatabase → α) : Prop :=
  ∀ db, ChatDatabase.answer q db = (.ok (read db), db)

theorem run_read {α β : Type} {q : StoreRequest (Answer α)} {read : ChatDatabase → α}
    (reads : q.Reads read) (f : α → ChatProgram β) (w : ChatWorld) :
    (query q >>= f).run chatHandler w = (f (read w.chat)).run chatHandler w := by
  have answered : chatHandler.answer (.store q) w = (.ok (read w.chat), w) := by
    simp [chatHandler, ChatWorld.answer, reads w.chat]
  exact run_ask_bind answered f

/-- A reading statement among others. -/
theorem meets_read {α β : Type} {inv : ChatWorld → Prop} {k : Contract ChatRequest ChatWorld}
    {post : Except Failure β → ChatWorld → Prop} {q : StoreRequest (Answer α)}
    {read : ChatDatabase → α} {f : α → ChatProgram β} {w : ChatWorld} (reads : q.Reads read)
    (issues : ∀ v, k.issues (.store q) v)
    (next : ∀ v, k.rely w v → inv v → (f (read v.chat)).Meets chatHandler inv k post v) :
    (query q >>= f).Meets chatHandler inv k post w := by
  refine meets_ask_bind fun v moved hv _ => ?_
  have answered : chatHandler.answer (.store q) v = (.ok (read v.chat), v) := by
    simp [chatHandler, ChatWorld.answer, reads v.chat]
  rw [answered]
  refine ⟨issues v,hv,?_,?_⟩
  · rintro a ⟨⟩
    exact next v moved hv
  · rintro e ⟨⟩

end Chatterbox
