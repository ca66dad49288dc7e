import Chatterbox.Chat.Entities
import Chatterbox.Concurrency.Recorded
import Mathlib.Data.Finset.Basic

/-!
A message as an object, assignment by assignment. Its methods check their arguments before
the first assignment and record their event after the last one, so that the events over the
first state give the last one. The events hold the array of the entity itself: read later,
they show the users of that time.
-/
namespace Chatterbox
open Concurrency

abbrev MessageObject := Recorded MessageEntity MessageEvent

abbrev MessageMethod := Method MessageEntity MessageEvent Failure Unit

namespace MessageObject
open Method

def create (amb : Ambient) (text : JsString) (type : MessageType)
    (senderId conversationId : Uuid) (deletedForUserIds : List Uuid)
    (replyToMessageId : Option Uuid) (clientMessageId : Option JsString) :
    Except Failure MessageObject := do
  let (message, event) ← MessageEntity.create amb text type senderId conversationId
    deletedForUserIds replyToMessageId clientMessageId
  return ⟨message,[.created event]⟩

def reconstruct (id : Uuid) (text : JsString) (type : MessageType)
    (senderId conversationId : Uuid) (deletedForUserIds : List Uuid)
    (createdAt updatedAt : Time) (deletedAt editedAt : Option Time)
    (replyToMessageId : Option Uuid) (clientMessageId : Option JsString) : MessageObject :=
  ⟨{ id, createdAt, updatedAt, text, type, senderId, conversationId, deletedForUserIds,
     deletedAt, editedAt, replyToMessageId, clientMessageId },[]⟩

def edit (now : Time) (newText : JsString) (editorMemberId : Uuid) : MessageMethod := do
  let this ← read
  if this.deletedAt.isSome then
    throw (messageNotFoundException "Cannot edit a deleted message")
  else if editorMemberId ≠ this.senderId then throw (notMessageOwnerException none)
  else if this.type ≠ .text then throw (chatDomainError "Only text messages can be edited")
  else if trim newText = [] then throw (chatDomainError "Message text cannot be empty")
  else if this.text = newText then return
  else
    assign fun this => { this with text := newText }
    assign fun this => { this with editedAt := some now }
    assign fun this => { this with updatedAt := now }
    let this ← read
    apply (.edited { messageId := this.id, conversationId := this.conversationId,
                     senderId := this.senderId, text := this.text,
                     deletedForUserIds := this.deletedForUserIds, editedAt := now })

def deleteForUser (now : Time) (userId : Uuid) : MessageMethod := do
  let this ← read
  if userId ∈ this.deletedForUserIds then return
  else
    assign fun this => { this with deletedForUserIds := this.deletedForUserIds ++ [userId] }
    assign fun this => { this with updatedAt := now }
    let this ← read
    apply (.deleted { messageId := this.id, conversationId := this.conversationId, scope := .me,
                      actorUserId := userId, deletedForUserIds := this.deletedForUserIds,
                      deletedAt := this.deletedAt })

def deleteForEveryone (now : Time) (requesterMemberId actorUserId : Uuid) : MessageMethod := do
  let this ← read
  if requesterMemberId ≠ this.senderId then throw (notMessageOwnerException none)
  else if this.deletedAt.isSome then return
  else
    assign fun this => { this with deletedAt := some now }
    assign fun this => { this with updatedAt := now }
    let this ← read
    apply (.deleted { messageId := this.id, conversationId := this.conversationId,
                      scope := .everyone, actorUserId,
                      deletedForUserIds := this.deletedForUserIds, deletedAt := this.deletedAt })

end MessageObject

/-- A call of a mutator, with the clock it reads. -/
inductive MessageCall where
  | edit (now : Time) (newText : JsString) (editorMemberId : Uuid)
  | deleteForUser (now : Time) (userId : Uuid)
  | deleteForEveryone (now : Time) (requesterMemberId actorUserId : Uuid)
  deriving DecidableEq, Repr

namespace MessageCall

def method : MessageCall → MessageMethod
  | .edit now newText editorMemberId => MessageObject.edit now newText editorMemberId
  | .deleteForUser now userId => MessageObject.deleteForUser now userId
  | .deleteForEveryone now requesterMemberId actorUserId =>
      MessageObject.deleteForEveryone now requesterMemberId actorUserId

/-- What the call computes of the entity. -/
def compute : MessageCall → MessageEntity → Except Failure (MessageEntity × List MessageEvent)
  | .edit now newText editorMemberId, m => m.edit now newText editorMemberId
  | .deleteForUser now userId, m => .ok (m.deleteForUser now userId)
  | .deleteForEveryone now requesterMemberId actorUserId, m =>
      m.deleteForEveryone now requesterMemberId actorUserId

/-- Every mutator does what its function says, or throws before it has touched anything. -/
theorem computes (call : MessageCall) : call.method.Computes call.compute := by
  intro o
  cases call with
  | edit now newText editorMemberId =>
    simp only [method, compute, MessageObject.edit, MessageEntity.edit, Method.run_read]
    split_ifs <;> simp
  | deleteForUser now userId =>
    simp only [method, compute, MessageObject.deleteForUser, MessageEntity.deleteForUser,
      Method.run_read]
    split_ifs <;> simp
  | deleteForEveryone now requesterMemberId actorUserId =>
    simp only [method, compute, MessageObject.deleteForEveryone, MessageEntity.deleteForEveryone,
      Method.run_read]
    split_ifs <;> simp

/-- What a call that returns has made of the entity. -/
inductive Computed (m : MessageEntity) :
    MessageCall → MessageEntity → List MessageEvent → Prop where
  | nothing {call : MessageCall} : Computed m call m []
  | edited {now : Time} {newText : JsString} {editorMemberId : Uuid} (live : m.deletedAt = none)
      (other : m.text ≠ newText) : Computed m (.edit now newText editorMemberId)
        { m with text := newText, editedAt := some now, updatedAt := now }
        [.edited { messageId := m.id, conversationId := m.conversationId, senderId := m.senderId,
                   text := newText, deletedForUserIds := m.deletedForUserIds, editedAt := now }]
  | hidden {now : Time} {userId : Uuid} (shown : userId ∉ m.deletedForUserIds) :
      Computed m (.deleteForUser now userId)
        { m with deletedForUserIds := m.deletedForUserIds ++ [userId], updatedAt := now }
        [.deleted { messageId := m.id, conversationId := m.conversationId, scope := .me,
                    actorUserId := userId, deletedForUserIds := m.deletedForUserIds ++ [userId],
                    deletedAt := m.deletedAt }]
  | retracted {now : Time} {requesterMemberId actorUserId : Uuid} (live : m.deletedAt = none) :
      Computed m (.deleteForEveryone now requesterMemberId actorUserId)
        { m with deletedAt := some now, updatedAt := now }
        [.deleted { messageId := m.id, conversationId := m.conversationId, scope := .everyone,
                    actorUserId, deletedForUserIds := m.deletedForUserIds,
                    deletedAt := some now }]

theorem compute_ok {call : MessageCall} {m m' : MessageEntity} {events : List MessageEvent}
    (is : call.compute m = .ok (m', events)) : Computed m call m' events := by
  cases call with
  | edit now newText editorMemberId =>
    simp only [compute, MessageEntity.edit] at is
    split_ifs at is with gone other kind blank same
    · cases is
      exact .nothing
    · cases is
      exact .edited (Option.not_isSome_iff_eq_none.mp gone) same
  | deleteForUser now userId =>
    simp only [compute, MessageEntity.deleteForUser] at is
    split_ifs at is with hidden
    · cases is
      exact .nothing
    · cases is
      exact .hidden hidden
  | deleteForEveryone now requesterMemberId actorUserId =>
    simp only [compute, MessageEntity.deleteForEveryone] at is
    split_ifs at is with other gone
    · cases is
      exact .nothing
    · cases is
      exact .retracted (Option.not_isSome_iff_eq_none.mp gone)

end MessageCall

/-- What the events of a message tell of it. -/
structure MessageSnapshot where
  text : JsString
  editedAt : Option Time
  deletedAt : Option Time
  deletedFor : Finset Uuid
  deriving DecidableEq

def MessageEntity.snapshot (m : MessageEntity) : MessageSnapshot :=
  ⟨m.text,m.editedAt,m.deletedAt,m.deletedForUserIds.toFinset⟩

/-- The snapshot after an event, read off the event alone. -/
def MessageSnapshot.replay (s : MessageSnapshot) : MessageEvent → MessageSnapshot
  | .created event => ⟨event.text,none,none,event.deletedForUserIds.toFinset⟩
  | .edited event => { s with text := event.text, editedAt := some event.editedAt
                              deletedFor := event.deletedForUserIds.toFinset }
  | .deleted event => { s with deletedAt := event.deletedAt
                               deletedFor := event.deletedForUserIds.toFinset }

/-- The event as it is read when the array of the entity holds these users. -/
def MessageEvent.showing (userIds : List Uuid) : MessageEvent → MessageEvent
  | .created event => .created { event with deletedForUserIds := userIds }
  | .edited event => .edited { event with deletedForUserIds := userIds }
  | .deleted event => .deleted { event with deletedForUserIds := userIds }

namespace MessageCall.Computed
variable {m m' : MessageEntity} {call : MessageCall} {events : List MessageEvent}

theorem replayed (is : Computed m call m' events) :
    events.foldl MessageSnapshot.replay m.snapshot = m'.snapshot := by
  cases is <;> rfl

/-- One event for a change, none for no change. -/
theorem counted (is : Computed m call m' events) :
    events.length = if m'.snapshot = m.snapshot then 0 else 1 := by
  cases is with
  | nothing => simp
  | edited live other => simp [MessageEntity.snapshot, Ne.symm other]
  | @hidden now userId shown =>
    have changed : (m.deletedForUserIds ++ [userId]).toFinset ≠ m.deletedForUserIds.toFinset := by
      intro same
      have mem : userId ∈ (m.deletedForUserIds ++ [userId]).toFinset := by simp
      rw [same] at mem
      exact shown (List.mem_toFinset.mp mem)
    simp only [MessageEntity.snapshot, MessageSnapshot.mk.injEq, changed, and_false, ↓reduceIte,
      List.length_singleton]
  | retracted live => simp [MessageEntity.snapshot, live]

/-- A message that is deleted for everyone keeps its text and its dates. -/
theorem settled (is : Computed m call m' events) (gone : m.deletedAt.isSome) :
    m'.text = m.text ∧ m'.editedAt = m.editedAt ∧ m'.deletedAt = m.deletedAt := by
  cases is with
  | nothing => exact ⟨rfl,rfl,rfl⟩
  | edited live other => simp [live] at gone
  | hidden shown => exact ⟨rfl,rfl,rfl⟩
  | retracted live => simp [live] at gone

end MessageCall.Computed

namespace MessageObject

/-- An object as the two factories make it. -/
inductive Begun : MessageObject → Prop where
  | created {amb : Ambient} {text : JsString} {type : MessageType}
      {senderId conversationId : Uuid} {deletedForUserIds : List Uuid}
      {replyToMessageId : Option Uuid} {clientMessageId : Option JsString} {o : MessageObject}
      (is : create amb text type senderId conversationId deletedForUserIds replyToMessageId
        clientMessageId = .ok o) : Begun o
  | reconstructed (id : Uuid) (text : JsString) (type : MessageType)
      (senderId conversationId : Uuid) (deletedForUserIds : List Uuid)
      (createdAt updatedAt : Time) (deletedAt editedAt : Option Time)
      (replyToMessageId : Option Uuid) (clientMessageId : Option JsString) :
      Begun (reconstruct id text type senderId conversationId deletedForUserIds createdAt
        updatedAt deletedAt editedAt replyToMessageId clientMessageId)

/-- The events of a new object tell its first snapshot. -/
theorem Begun.replayed {o : MessageObject} (begun : o.Begun) :
    o.events.foldl MessageSnapshot.replay o.fields.snapshot = o.fields.snapshot := by
  cases begun with
  | created is =>
    obtain ⟨new,factory,made⟩ := ok_of_bind is
    obtain ⟨_,key,_,rfl⟩ := MessageEntity.create_ok factory
    cases made
    rfl
  | reconstructed => rfl

def performCalls (calls : List MessageCall) (o : MessageObject) : MessageObject :=
  Method.performAll (calls.map MessageCall.method) o

theorem performCalls_append (first rest : List MessageCall) (o : MessageObject) :
    performCalls (first ++ rest) o = performCalls rest (performCalls first o) := by
  rw [performCalls, List.map_append, Method.performAll_append]
  rfl

theorem replayed_performCalls (calls : List MessageCall) (o : MessageObject) :
    ∃ events, (performCalls calls o).events = o.events ++ events ∧
      events.foldl MessageSnapshot.replay o.fields.snapshot =
        (performCalls calls o).fields.snapshot := by
  apply Method.replay_performAll
  intro method mem
  obtain ⟨call,_,rfl⟩ := List.mem_map.mp mem
  exact ⟨call.compute,call.computes,fun _ _ _ is => (MessageCall.compute_ok is).replayed⟩

theorem counted_perform (call : MessageCall) (o : MessageObject) :
    ∃ events, (call.method.perform o).events = o.events ++ events ∧
      events.length = if (call.method.perform o).fields.snapshot = o.fields.snapshot then 0
        else 1 := by
  rcases call.computes.performed o with ⟨same,_⟩ | ⟨m,events,is,performed⟩
  · rw [same]
    exact ⟨[],by simp,by simp⟩
  · rw [performed]
    exact ⟨events,rfl,(MessageCall.compute_ok is).counted⟩

theorem settled_performCalls {o : MessageObject} (gone : o.fields.deletedAt.isSome)
    (calls : List MessageCall) : (performCalls calls o).fields.text = o.fields.text ∧
      (performCalls calls o).fields.editedAt = o.fields.editedAt ∧
      (performCalls calls o).fields.deletedAt = o.fields.deletedAt := by
  let settled (m : MessageEntity) : Prop := m.text = o.fields.text ∧
    m.editedAt = o.fields.editedAt ∧ m.deletedAt = o.fields.deletedAt
  have kept : settled (performCalls calls o).fields := by
    refine Method.performAll_invariant (fun method mem => ?_) ⟨rfl,rfl,rfl⟩
    obtain ⟨call,_,rfl⟩ := List.mem_map.mp mem
    refine ⟨call.compute,call.computes,fun m m' events is before => ?_⟩
    obtain ⟨text,edited,deleted⟩ := before
    obtain ⟨text',edited',deleted'⟩ := (MessageCall.compute_ok is).settled (deleted ▸ gone)
    exact ⟨text'.trans text,edited'.trans edited,deleted'.trans deleted⟩
  exact kept

/-- A deletion for everyone that returns leaves a deleted message. -/
theorem gone_deleteForEveryone {now : Time} {requesterMemberId actorUserId : Uuid}
    {o : MessageObject} (returned : ((MessageObject.deleteForEveryone now requesterMemberId
      actorUserId).run objectHandler o).1 = .ok ()) :
    ((MessageObject.deleteForEveryone now requesterMemberId actorUserId).perform
      o).fields.deletedAt.isSome := by
  have computes : (MessageObject.deleteForEveryone now requesterMemberId actorUserId).run
      objectHandler o = _ :=
    (MessageCall.deleteForEveryone now requesterMemberId actorUserId).computes o
  rw [Method.perform]
  rw [computes] at returned ⊢
  simp only [MessageCall.compute, MessageEntity.deleteForEveryone] at returned ⊢
  split_ifs at returned ⊢ with other gone
  · exact gone
  · rfl

/-- The events as they are read when the array holds these users tell the same, but for the
    users. -/
theorem replay_showing (userIds : List Uuid) (events : List MessageEvent) (s : MessageSnapshot) :
    (events.map (MessageEvent.showing userIds)).foldl MessageSnapshot.replay s =
      { events.foldl MessageSnapshot.replay s with
        deletedFor := if events = [] then s.deletedFor else userIds.toFinset } := by
  induction events using List.reverseRecOn with
  | nil => rfl
  | append_singleton events event ih =>
    rw [List.map_append, List.foldl_append, ih, List.foldl_append]
    simp only [List.append_eq_nil_iff, List.cons_ne_self, and_false, ↓reduceIte, List.map_cons,
      List.map_nil, List.foldl_cons, List.foldl_nil]
    cases event <;> rfl

end MessageObject

/-- Whatever is called on a message, its events over its first snapshot give its last one, as
    they were recorded and as they are read later; a call that throws has touched nothing; a
    call records one event if it changes the snapshot and none if it does not; and after a
    deletion for everyone the text and the dates stay. -/
theorem message_log_faithful {start : MessageObject} (begun : start.Begun)
    (calls : List MessageCall) :
    (start.performCalls calls).events.foldl MessageSnapshot.replay start.fields.snapshot =
        (start.performCalls calls).fields.snapshot ∧
      ((start.performCalls calls).events.map (MessageEvent.showing
          (start.performCalls calls).fields.deletedForUserIds)).foldl
        MessageSnapshot.replay start.fields.snapshot =
        (start.performCalls calls).fields.snapshot ∧
      ∀ earlier call later, calls = earlier ++ call :: later →
        let before := start.performCalls earlier
        let outcome := (call.method.run objectHandler before).1
        let after := call.method.perform before
        (∀ e, outcome = .error e → after = before) ∧
          (∃ events, after.events = before.events ++ events ∧
            events.length = if after.fields.snapshot = before.fields.snapshot then 0 else 1) ∧
          ∀ now requesterMemberId actorUserId,
            call = .deleteForEveryone now requesterMemberId actorUserId → outcome = .ok () →
              (start.performCalls calls).fields.text = after.fields.text ∧
              (start.performCalls calls).fields.editedAt = after.fields.editedAt ∧
              (start.performCalls calls).fields.deletedAt = after.fields.deletedAt := by
  obtain ⟨events,recorded,replayed⟩ := MessageObject.replayed_performCalls calls start
  have told : (start.performCalls calls).events.foldl MessageSnapshot.replay
      start.fields.snapshot = (start.performCalls calls).fields.snapshot := by
    rw [recorded, List.foldl_append, begun.replayed, replayed]
  refine ⟨told,?_,?_⟩
  · rw [MessageObject.replay_showing, told]
    split_ifs with none
    · rw [none, List.foldl_nil] at told
      rw [told]
    · rfl
  · rintro earlier call later rfl
    refine ⟨fun e threw => call.computes.throws threw,MessageObject.counted_perform call _,?_⟩
    rintro now requesterMemberId actorUserId rfl returned
    rw [MessageObject.performCalls_append]
    exact MessageObject.settled_performCalls (MessageObject.gone_deleteForEveryone returned) later

/-- An edit, an edit of a stranger, a deletion for user 2, a deletion for everyone and an edit
    that comes too late. -/
def corrected : List MessageCall :=
  [.edit 2000 [121, 111] 101, .edit 3000 [110, 111] 102, .deleteForUser 4000 2,
    .deleteForEveryone 5000 101 1, .edit 6000 [104, 105] 101]

def storedGreeting : MessageObject :=
  .reconstruct 200 [104, 105] .text 101 100 [] 1000 1000 none none none none

theorem message_log_faithful_corrected :
    (storedGreeting.performCalls corrected).events.length = 3 ∧
      (storedGreeting.performCalls corrected).events.foldl MessageSnapshot.replay
        storedGreeting.fields.snapshot = ⟨[121, 111],some 2000,some 5000,{2}⟩ ∧
      (storedGreeting.performCalls corrected).fields.text = [121, 111] := by
  have begun : storedGreeting.Begun := .reconstructed ..
  obtain ⟨told,_,each⟩ := message_log_faithful begun corrected
  obtain ⟨text,_⟩ := (each [.edit 2000 [121, 111] 101, .edit 3000 [110, 111] 102,
    .deleteForUser 4000 2] _ [.edit 6000 [104, 105] 101] rfl).2.2 5000 101 1 rfl rfl
  refine ⟨by decide,?_,text.trans rfl⟩
  rw [told]
  decide

end Chatterbox
