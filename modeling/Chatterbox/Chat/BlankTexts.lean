import Chatterbox.Chat.SeenMessages
import Mathlib.Data.List.TakeWhile

/-!
Texts of nothing but whitespace. An edit refuses them; the two requests that store a message
hand over what the client has written.
-/
namespace Chatterbox
open Concurrency Tables ConversationPostgresRepository

/-- Some character of the text is not whitespace. -/
def Visible (text : JsString) : Prop := ∃ unit ∈ text, isWhitespace unit = false

instance (text : JsString) : Decidable (Visible text) :=
  inferInstanceAs (Decidable (∃ unit ∈ text, isWhitespace unit = false))

theorem trim_eq_nil_iff {text : JsString} : trim text = [] ↔ ¬ Visible text := by
  have keeps : trim text = [] ↔ ∀ unit ∈ text.dropWhile isWhitespace, isWhitespace unit = true := by
    simp only [trim, List.reverse_eq_nil_iff, List.dropWhile_eq_nil_iff, List.mem_reverse]
  have starts : (∀ unit ∈ text.dropWhile isWhitespace, isWhitespace unit = true) ↔
      ∀ unit ∈ text, isWhitespace unit = true := by
    constructor
    · intro rest unit mem
      rw [← List.takeWhile_append_dropWhile (p := isWhitespace) (l := text)] at mem
      rcases List.mem_append.mp mem with first | last
      · exact List.mem_takeWhile_imp first
      · exact rest unit last
    · intro all unit mem
      exact all unit ((List.dropWhile_suffix _).subset mem)
  rw [keeps, starts]
  simp [Visible]

/-- The texts that a statement writes into messages. -/
def ChatRequest.messageTexts : {β : Type} → ChatRequest β → List JsString
  | _, .store (.commitMessage message _ _) => [message.text]
  | _, .store (.updateMessage _ text _ _) => [text]
  | _, _ => []

/-- The texts of new messages, as the client has written them. -/
def ChatOperation.sends : ChatOperation → List JsString
  | .createConversation data => [data.content]
  | .sendMessage data => [data.text]
  | _ => []

def Activity.sends : Activity → List JsString
  | .request _ operation => operation.sends
  | _ => []

/-- A program that writes visible texts, and texts of this list. -/
abbrev WritesFrom (sends : List JsString) {α : Type} (p : ChatProgram α) : Prop :=
  p.Only fun q => ∀ text ∈ q.messageTexts, Visible text ∨ text ∈ sends

section Programs
variable {sends : List JsString} {α : Type}

theorem messageTexts_of_reads {β : Type} {q : ChatRequest β} (reads : q.writes = false) :
    q.messageTexts = [] := by
  cases q with
  | user q => rfl
  | store q => cases q <;> first | rfl | cases reads
  | bus q => rfl

theorem writes_quiet {p : ChatProgram α} (quiet : Quiet p) : WritesFrom sends p :=
  quiet.weaken fun _ reads => by simp [messageTexts_of_reads reads]

theorem writes_plain {p : ChatProgram α} (plain : Plain p) : WritesFrom sends p :=
  writes_quiet plain.quiet

/-- A statement on other tables. -/
theorem writes_query {q : StoreRequest (Answer α)} (none : (ChatRequest.store q).messageTexts = []) :
    WritesFrom sends (query q) :=
  only_ask (by simp [none])

theorem writes_createMessage (amb : Ambient) {command : CreateMessageCommand}
    (given : command.text ∈ sends) :
    WritesFrom sends (CreateMessageHandler.execute amb command) := by
  have create : ∀ member reply,
      WritesFrom sends (CreateMessageHandler.create amb command member reply) := by
    intro member reply
    unfold CreateMessageHandler.create
    cases built : MessageEntity.create amb command.text command.type member.id
        command.conversationId command.deletedForUserIds command.replyToMessageId
        command.clientMessageId with
    | error e => trivial
    | ok created =>
      obtain ⟨_,key,_,rfl⟩ := MessageEntity.create_ok built
      simp only [Program.lift_ok, Program.done_bind, saveMessage]
      apply Program.Only.bind
      · apply Program.Only.tryCatch
        · apply Program.Only.bind (writes_plain (plain_query rfl))
          intro members
          apply Program.Only.bind
          · apply only_ask
            simp [ChatRequest.messageTexts, Message.fromDomain, given]
          · intro _
            trivial
        · intro e
          exact writes_plain (plain_recoverExisting _ e)
      · intro saved
        apply Program.Only.bind
        · exact writes_quiet (quiet_publishAll [.created _])
        · intro _
          cases reply <;> trivial
  apply (writes_plain (plain_requireMember _ _)).bind
  intro member
  apply (writes_plain (plain_findExisting _ _)).bind
  intro existing
  cases existing with
  | some existing =>
    dsimp only
    split <;> trivial
  | none => exact (writes_plain (plain_loadReply _)).bind fun reply => create member reply

/-- An edit that is accepted has a visible text. -/
theorem edit_visible {m : MessageEntity} {now : Time} {text : JsString} {memberId : Uuid}
    {edited : MessageEntity × List MessageEvent} (edits : m.edit now text memberId = .ok edited) :
    Visible edited.1.text := by
  unfold MessageEntity.edit at edits
  split_ifs at edits with gone other kind blank same
  · cases edits
    rw [trim_eq_nil_iff, not_not] at blank
    rwa [same]
  · cases edits
    rwa [trim_eq_nil_iff, not_not] at blank

theorem writes_editMessage (now : Time) (command : EditMessageCommand) :
    WritesFrom sends (EditMessageHandler.execute now command) := by
  apply (writes_plain (plain_requireMember _ _)).bind
  intro member
  apply (writes_plain (plain_requireMessage _ _)).bind
  intro loaded
  cases edits : loaded.message.edit now command.text member.id with
  | error e => trivial
  | ok edited =>
    simp only [Program.lift_ok, Program.done_bind, updateMessage, Program.bind_assoc]
    apply Program.Only.bind
    · apply only_ask
      simp [ChatRequest.messageTexts, edit_visible edits]
    · intro _
      apply (writes_plain (plain_getMessageById _)).bind
      intro saved
      apply (writes_quiet (quiet_publishAll _)).bind
      intro _
      exact writes_plain (plain_requireSaved saved)

theorem writes_deleteMessage (now : Time) (command : DeleteMessageCommand) :
    WritesFrom sends (DeleteMessageHandler.execute now command) := by
  apply (writes_plain (plain_requireMember _ _)).bind
  intro member
  apply (writes_plain (plain_requireMessage _ _)).bind
  intro loaded
  cases DeleteMessageHandler.delete now command member.id loaded.message with
  | error e => trivial
  | ok deleted =>
    simp only [Program.lift_ok, Program.done_bind, saveMessageDeletion, Program.bind_assoc]
    apply (writes_plain (plain_query rfl)).bind
    intro members
    apply (writes_plain (plain_movePointers _ _)).bind
    intro moved
    apply (writes_query rfl).bind
    intro _
    apply (writes_plain (plain_getMessageById _)).bind
    intro saved
    apply (writes_quiet (quiet_publishAll _)).bind
    intro _
    exact writes_plain (plain_requireSaved saved)

theorem writes_saveConversation (conversation : ConversationEntity) :
    WritesFrom sends (saveConversation conversation) :=
  (writes_query rfl).bind fun _ => trivial

theorem writes_createDirect (amb : Ambient) (command : CreateDirectConversationCommand) :
    WritesFrom sends (CreateDirectConversationHandler.execute amb command) := by
  apply (writes_plain (plain_doesUserExist _)).bind
  intro userExists
  split
  · trivial
  apply (writes_plain (plain_hasBlockRelation _ _)).bind
  intro isBlocked
  split
  · trivial
  apply (writes_plain (plain_query rfl)).bind
  intro exists'
  split
  · trivial
  apply (Program.only_lift _).bind
  intro conversation
  apply (writes_saveConversation _).bind
  intro saved
  cases saved <;> trivial

theorem writes_markAsRead (command : MarkConversationAsReadCommand) :
    WritesFrom sends (MarkConversationAsReadCommandHandler.execute command) := by
  apply (writes_plain (plain_requireConversation _)).bind
  intro conversation
  apply (Program.only_lift _).bind
  intro marked
  exact (writes_saveConversation _).bind fun _ => trivial

theorem writes_createDirectConversation (amb : Ambient) {data : CreateConversationRequest}
    (given : data.content ∈ sends) (authUserId : Uuid) :
    WritesFrom sends (ChatWsGateway.createDirectConversation amb data authUserId) := by
  apply (writes_plain (plain_getUserById _)).bind
  intro currentUser
  apply (writes_plain (plain_getUserById _)).bind
  intro targetUser
  apply (writes_plain (plain_askUserModule _)).bind
  intro blockStatus
  split
  · trivial
  apply (writes_createDirect _ _).bind
  intro conversation
  apply Program.Only.bind
  · apply Program.Only.tryCatch (writes_createMessage _ given)
    intro e
    exact (writes_query rfl).bind fun _ => trivial
  · intro message
    exact (writes_plain (plain_announceConversation _ _ _)).bind fun _ => trivial

theorem writes_createMessageRequest (amb : Ambient) {data : CreateMessageRequest}
    (given : data.text ∈ sends) (authUserId : Uuid) :
    WritesFrom sends (ChatWsGateway.createMessage amb data authUserId) := by
  apply (writes_plain (plain_getUserConversation _ _)).bind
  intro conversation
  split
  · trivial
  apply (writes_plain (plain_getUserById _)).bind
  intro currentUser
  apply (writes_plain (plain_getUserById _)).bind
  intro targetUser
  apply (writes_plain (plain_askUserModule _)).bind
  intro blockStatus
  split
  · trivial
  apply (writes_createMessage _ given).bind
  intro message
  exact (writes_plain (plain_ackReply _ _ _ _)).bind fun _ => trivial

/-- What an operation writes into a message is visible, or it is what the client has sent. -/
theorem writes_operation (ilike : JsString → JsString → Bool) (amb : Ambient) (actor : Uuid)
    (operation : ChatOperation) :
    WritesFrom operation.sends (operation.execute ilike amb actor) := by
  cases operation with
  | createConversation data =>
    exact (writes_createDirectConversation amb (List.mem_singleton_self _) actor).map _
  | sendMessage data =>
    exact (writes_createMessageRequest amb (List.mem_singleton_self _) actor).map _
  | editMessage data =>
    apply Program.Only.map
    apply (writes_plain (plain_requireMembership _ _)).bind
    intro conversation
    exact (writes_editMessage _ _).bind fun _ => trivial
  | deleteMessage data =>
    apply Program.Only.map
    apply (writes_plain (plain_requireMembership _ _)).bind
    intro conversation
    exact (writes_deleteMessage _ _).bind fun _ => trivial
  | listConversations data => exact (writes_plain (plain_listConversations _ _ _)).map _
  | listMessages data => exact (writes_plain (plain_listMessages _ _ _)).map _
  | markMessageSeen data =>
    apply Program.Only.map
    apply (writes_plain (plain_requireMembership _ _)).bind
    intro conversation
    apply (writes_markAsRead _).bind
    intro _
    exact writes_plain (plain_broadcast _ _)
  | block targetUserId => exact (writes_plain (plain_askUserModule _)).map _
  | unblock targetUserId => exact (writes_plain (plain_askUserModule _)).map _

theorem writes_activity (ilike : JsString → JsString → Bool) (amb : Ambient)
    (activity : Activity) : WritesFrom activity.sends (activity.execute ilike amb) := by
  cases activity with
  | request actor operation => exact (writes_operation ilike amb actor operation).map _
  | messageEvent event => exact writes_plain (plain_messageEvent event)
  | userEvent event => exact writes_plain (plain_userEvent event)
  | elsewhere program => exact writes_plain (plain_askUserModule program)

end Programs

/-- A message after a statement has the text of a message before it, or one that the statement
    has written. -/
theorem text_step {β : Type} (q : ChatRequest β) (w : ChatWorld) {m : Message}
    (mem : m ∈ (chatHandler.answer q w).2.chat.messages) :
    (∃ m' ∈ w.chat.messages, m'.text = m.text) ∨ m.text ∈ q.messageTexts := by
  by_cases reads : q.writes = false
  · rw [chat_of_reads reads] at mem
    exact Or.inl ⟨m,mem,rfl⟩
  cases q with
  | user q => exact absurd rfl reads
  | bus q => exact absurd rfl reads
  | store q =>
    cases q with
    | commitMessage message deleted members =>
      change m ∈ (w.chat.storeMessage message deleted members).2.messages at mem
      cases stores : w.chat.storeMessage message deleted members with
      | mk r stored =>
        rw [stores] at mem
        cases r with
        | error e =>
          rw [w.chat.storeMessage_error stores] at mem
          exact Or.inl ⟨m,mem,rfl⟩
        | ok u =>
          obtain ⟨_,_,rfl⟩ := w.chat.storeMessage_ok stores
          rcases mem_save.mp mem with rfl | ⟨old,_⟩
          · exact Or.inr (List.mem_singleton_self _)
          · exact Or.inl ⟨m,old,rfl⟩
    | updateMessage id text editedAt updatedAt =>
      rcases mem_amend.mp mem with ⟨old,_,_,rfl⟩ | ⟨old,_⟩
      · exact Or.inr (List.mem_singleton_self _)
      · exact Or.inl ⟨m,old,rfl⟩
    | commitDeletion deletion members =>
      rcases mem_amend.mp mem with ⟨old,stored,_,rfl⟩ | ⟨old,_⟩
      · exact Or.inl ⟨old,stored,rfl⟩
      · exact Or.inl ⟨m,old,rfl⟩
    | commitConversation conversation members =>
      left
      change m ∈ (w.chat.storeConversation conversation members).2.messages at mem
      cases stores : w.chat.storeConversation conversation members with
      | mk r stored =>
        rw [stores] at mem
        cases r with
        | error e =>
          rw [w.chat.storeConversation_error stores] at mem
          exact ⟨m,mem,rfl⟩
        | ok rows =>
          obtain ⟨_,rfl,_⟩ := w.chat.storeConversation_ok stores
          exact ⟨m,mem,rfl⟩
    | deleteConversation id now => exact Or.inl ⟨m,mem,rfl⟩
    | _ => exact absurd rfl reads

def ChatDatabase.TextsVisible (db : ChatDatabase) : Prop := ∀ m ∈ db.messages, Visible m.text

instance (db : ChatDatabase) : Decidable db.TextsVisible :=
  inferInstanceAs (Decidable (∀ m ∈ db.messages, Visible m.text))

section Pool
variable {ι : Type} [DecidableEq ι] {ilike : JsString → JsString → Bool}
  {activities : ι → Activity} {ambs : ι → Ambient} {w : ChatWorld} {schedule : List ι}

/-- What a step of a run writes into messages. -/
theorem writes_at {before later : List (Issued ChatRequest ChatWorld ι)}
    {e : Issued ChatRequest ChatWorld ι}
    (cut : (activityPool ilike activities ambs w).trace chatHandler schedule =
      before ++ e :: later) :
    ∀ text ∈ e.request.messageTexts, Visible text ∨ text ∈ (activities e.thread).sends := by
  have along : ∀ i, ((activityPool ilike activities ambs w).threads i).Along
      chatHandler.answering (fun _ f => ∀ text ∈ f.request.messageTexts,
        Visible text ∨ text ∈ (activities f.thread).sends) i [] := by
    intro i
    exact (writes_activity ilike (ambs i) (activities i)).along (fun _ _ _ _ writes => writes) _
  exact Pool.along_run chatHandler.answers along schedule cut

/-- As long as every text that is sent has a character that is not whitespace, so has every text
    that is stored. -/
theorem stored_texts_visible (start : w.chat.TextsVisible)
    (sent : ∀ i ∈ schedule, ∀ text ∈ (activities i).sends, Visible text) :
    ((activityPool ilike activities ambs w).run chatHandler schedule).state.chat.TextsVisible := by
  refine Pool.trace_run (fun _ (s : ChatWorld) => s.chat.TextsVisible) ?_ start
  intro before e later cut visible m mem
  rcases text_step e.request e.before mem with ⟨m',old,same⟩ | written
  · rw [← same]
    exact visible m' old
  · rcases writes_at cut _ written with visible | given
    · exact visible
    · have issued : e ∈ (activityPool ilike activities ambs w).trace chatHandler schedule := by
        simp [cut]
      obtain ⟨first,rest,turns,_⟩ := Pool.mem_trace_split issued
      exact sent e.thread (by simp [turns]) _ given

end Pool

/-- User 1 opens a conversation with user 2, who edits and writes. -/
def talk (content text edited : JsString) : Fin 3 → Activity
  | 0 => .request 1 (.createConversation ⟨2,content⟩)
  | 1 => .request 2 (.sendMessage ⟨100,text,none,none⟩)
  | 2 => .request 1 (.editMessage ⟨100,112,edited⟩)

def talked (content text edited : JsString) : ChatWorld :=
  ((activityPool noMatch (talk content text edited) (sharedDraws 3) emptyWorld).run chatHandler
    oneAfterAnother).state

/-- Whitespace around a text is kept, and an edit to a tab is refused. -/
theorem stored_texts_visible_talk :
    (talked [104, 105] [0x20, 121, 111] [0x09]).chat.messages.map Message.text =
        [[104, 105], [0x20, 121, 111]] ∧
      (talked [104, 105] [0x20, 121, 111] [0x09]).chat.TextsVisible := by
  have sent : ∀ i, ∀ text ∈ (talk [104, 105] [0x20, 121, 111] [0x09] i).sends, Visible text := by
    decide
  exact ⟨by decide,stored_texts_visible (by decide) fun i _ => sent i⟩

/-- A first message of a space, and an answer of a tab. -/
theorem blank_texts_stored :
    (talked [0x20] [0x09] [0x09]).chat.messages.map Message.text = [[0x20], [0x09]] ∧
      ¬ (talked [0x20] [0x09] [0x09]).chat.TextsVisible := by
  refine ⟨?_,?_⟩ <;> decide

end Chatterbox
