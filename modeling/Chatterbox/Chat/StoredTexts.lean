import Chatterbox.Chat.FailedCalls

/-!
The strings that the tables hold. The driver sends a string in UTF-8, which has no unpaired
surrogates, and Postgres refuses the character U+0000. A string without either is stored as it
is, and a program that sends no other strings runs as on the tables alone.
-/
namespace Chatterbox
open Concurrency ConversationPostgresRepository

def isLeadSurrogate (unit : Nat) : Bool := 0xD800 ≤ unit && unit ≤ 0xDBFF

def isTrailSurrogate (unit : Nat) : Bool := 0xDC00 ≤ unit && unit ≤ 0xDFFF

/-- A unit that is not half of a pair, as it is written in UTF-8. -/
def unpaired (unit : Nat) : Nat :=
  if isLeadSurrogate unit || isTrailSurrogate unit then 0xFFFD else unit

/-- The string as it comes back from UTF-8. -/
def toWellFormed : JsString → JsString
  | [] => []
  | [unit] => [unpaired unit]
  | unit :: next :: rest =>
      if isLeadSurrogate unit && isTrailSurrogate next then unit :: next :: toWellFormed rest
      else unpaired unit :: toWellFormed (next :: rest)

/-- A string that Postgres stores, and as it is. -/
def Storable (s : JsString) : Prop := 0 ∉ s ∧ toWellFormed s = s

instance (s : JsString) : Decidable (Storable s) :=
  inferInstanceAs (Decidable (0 ∉ s ∧ toWellFormed s = s))

-- a smiley stays, half of it does not
example : toWellFormed [104, 0xD83D, 0xDE00] = [104, 0xD83D, 0xDE00] ∧
    toWellFormed [0xDE00, 104, 0xD83D] = [0xFFFD, 104, 0xFFFD] := by decide

namespace StoreRequest

/-- The strings of a statement. -/
def strings : {β : Type} → StoreRequest β → List JsString
  | _, .getMessageByKey _ _ key => [key]
  | _, .commitMessage message _ _ => message.text :: message.clientMessageId.toList
  | _, .updateMessage _ text _ _ => [text]
  | _, .commitConversation conversation _ =>
      conversation.title.toList ++ conversation.picture.toList
  | _, _ => []

/-- The statement as it arrives. -/
def wellFormed : {β : Type} → StoreRequest β → StoreRequest β
  | _, .getMessageByKey conversationId senderId key =>
      .getMessageByKey conversationId senderId (toWellFormed key)
  | _, .commitMessage message deleted members =>
      .commitMessage { message with
        text := toWellFormed message.text
        clientMessageId := message.clientMessageId.map toWellFormed } deleted members
  | _, .updateMessage id text editedAt updatedAt =>
      .updateMessage id (toWellFormed text) editedAt updatedAt
  | _, .commitConversation conversation members =>
      .commitConversation { conversation with
        title := conversation.title.map toWellFormed
        picture := conversation.picture.map toWellFormed } members
  | _, q => q

end StoreRequest

/-- Postgres behind the driver. -/
def ChatWorld.answerUtf8 : {β : Type} → ChatRequest β → ChatWorld → β × ChatWorld
  | _, .store q, w =>
      if q.strings.any (fun s => 0 ∈ s) then (q.refused ⟨.other, ""⟩, w)
      else w.answer (.store q.wellFormed)
  | _, q, w => w.answer q

def utf8Handler : Handler ChatRequest ChatWorld := ⟨ChatWorld.answerUtf8⟩

/-- A request whose strings are stored as they are. -/
def ChatRequest.Storable {β : Type} : ChatRequest β → Prop
  | .store q => ∀ s ∈ q.strings, Chatterbox.Storable s
  | _ => True

section Storable

theorem map_storable {s : Option JsString} (storable : ∀ t ∈ s.toList, Storable t) :
    s.map toWellFormed = s := by
  cases s with
  | none => rfl
  | some t => rw [Option.map_some, (storable t List.mem_cons_self).2]

theorem StoreRequest.wellFormed_storable {β : Type} {q : StoreRequest β}
    (storable : ∀ s ∈ q.strings, Storable s) : q.wellFormed = q := by
  cases q with
  | getMessageByKey conversationId senderId key =>
    rw [wellFormed, (storable key List.mem_cons_self).2]
  | commitMessage message deleted members =>
    have text := (storable message.text List.mem_cons_self).2
    have key := map_storable fun s mem => storable s (List.mem_cons_of_mem _ mem)
    rw [wellFormed, text, key]
  | updateMessage id text editedAt updatedAt =>
    rw [wellFormed, (storable text List.mem_cons_self).2]
  | commitConversation conversation members =>
    have title := map_storable fun s mem => storable s (List.mem_append_left _ mem)
    have picture := map_storable fun s mem => storable s (List.mem_append_right _ mem)
    rw [wellFormed, title, picture]
  | _ => rfl

theorem answerUtf8_storable {β : Type} {q : ChatRequest β} (storable : q.Storable)
    (w : ChatWorld) : utf8Handler.answer q w = chatHandler.answer q w := by
  cases q with
  | store q =>
    have plain : (q.strings.any fun s => 0 ∈ s) = false := by
      apply List.any_eq_false.mpr
      intro s mem
      simpa using (storable s mem).1
    change w.answerUtf8 (.store q) = w.answer (.store q)
    rw [ChatWorld.answerUtf8, plain, if_neg Bool.false_ne_true,
      StoreRequest.wellFormed_storable storable]
  | _ => rfl

/-- A program that sends only such strings. -/
abbrev SendsStorable {α : Type} (p : ChatProgram α) : Prop := p.Only fun q => q.Storable

theorem run_storable {α : Type} {p : ChatProgram α} (storable : SendsStorable p) (w : ChatWorld) :
    p.run utf8Handler w = p.run chatHandler w :=
  Program.Only.run_same (storable.weaken fun _ => answerUtf8_storable) w

theorem storable_query {α : Type} {q : StoreRequest (Answer α)}
    (storable : ∀ s ∈ q.strings, Storable s) : SendsStorable (query q) :=
  only_ask storable

theorem storable_plain {α : Type} {q : StoreRequest (Answer α)} (plain : q.strings = []) :
    SendsStorable (query q) := by
  apply storable_query
  rw [plain]
  exact List.forall_mem_nil _

theorem storable_loadDeletions (rows : Option (Message × Option Message)) :
    SendsStorable (loadDeletions rows) := by
  cases rows with
  | none => trivial
  | some rows => exact (storable_plain rfl).bind fun _ => trivial

theorem storable_getMessageById (id : Uuid) : SendsStorable (getMessageById id) :=
  (storable_plain rfl).bind storable_loadDeletions

theorem storable_getConversationById (id : Uuid) : SendsStorable (getConversationById id) :=
  (storable_plain rfl).bind fun _ => trivial

theorem storable_updateMessage {message : MessageEntity} (text : Storable message.text) :
    SendsStorable (updateMessage message) := by
  refine (storable_query fun s mem => ?_).bind fun _ => storable_getMessageById _
  rw [List.mem_singleton.mp mem]
  exact text

theorem storable_movePointers (deletion : MessageDeletion) (members : List ConversationMember) :
    SendsStorable (movePointers deletion members) := by
  induction members with
  | nil => trivial
  | cons cm rest ih => exact (storable_plain rfl).bind fun _ => ih.bind fun _ => trivial

theorem storable_saveMessageDeletion (message : MessageEntity) :
    SendsStorable (saveMessageDeletion message) :=
  (storable_plain rfl).bind fun members => (storable_movePointers _ members).bind fun _ =>
    (storable_plain rfl).bind fun _ => storable_getMessageById _

theorem storable_saveMessage {message : MessageEntity} (text : Storable message.text)
    (key : ∀ s ∈ message.clientMessageId, Storable s) : SendsStorable (saveMessage message) := by
  have insert : SendsStorable (insertMessage message) := by
    refine (storable_plain rfl).bind fun members =>
      (storable_query fun s mem => ?_).bind fun _ => trivial
    rcases List.mem_cons.mp mem with rfl | given
    · exact text
    · exact key s (Option.mem_toList.mp given)
  refine Program.Only.tryCatch insert fun error => ?_
  unfold recoverExisting
  split
  · rename_i clientMessageId _ given
    have looks : SendsStorable (getMessageByClientMessageId message.conversationId
        message.senderId clientMessageId) := by
      refine (storable_query fun s mem => ?_).bind storable_loadDeletions
      rw [List.mem_singleton.mp mem]
      exact key clientMessageId given
    apply looks.bind
    intro existing
    cases existing <;> trivial
  · trivial

theorem storable_saveConversation {conversation : ConversationEntity}
    (title : ∀ s ∈ conversation.title, Storable s)
    (picture : ∀ s ∈ conversation.picture, Storable s) :
    SendsStorable (saveConversation conversation) := by
  refine (storable_query fun s mem => ?_).bind fun _ => trivial
  rcases List.mem_append.mp mem with given | given
  · exact title s (Option.mem_toList.mp given)
  · exact picture s (Option.mem_toList.mp given)

end Storable

end Chatterbox
