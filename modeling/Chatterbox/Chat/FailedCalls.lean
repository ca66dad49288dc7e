import Chatterbox.Chat.Effects
import Chatterbox.Concurrency.Faults
import Chatterbox.Concurrency.OwnSteps

/-!
Database calls that fail. A call that fails leaves the tables alone and ends the command, but
for what the command catches; this module follows the commands whose last call is their write.
-/
namespace Chatterbox
open Concurrency ConversationPostgresRepository

/-- The answer of a statement that fails. -/
def StoreRequest.refused : {β : Type} → StoreRequest β → DbError → β
  | _, .getConversation _, e => .error e
  | _, .getMessage _, e => .error e
  | _, .getMessageByKey _ _ _, e => .error e
  | _, .getDeletedMessages _, e => .error e
  | _, .getMembers _, e => .error e
  | _, .commitMessage _ _ _, e => .error e
  | _, .updateMessage _ _ _ _, e => .error e
  | _, .getMembersAt _ _, e => .error e
  | _, .getLatestMessage _ _, e => .error e
  | _, .commitDeletion _ _, e => .error e
  | _, .commitConversation _ _, e => .error e
  | _, .deleteConversation _ _, e => .error e
  | _, .conversationExists _ _, e => .error e
  | _, .getUserConversation _ _, e => .error e
  | _, .listConversations _ _ _, e => .error e
  | _, .countNotSeen _ _, e => .error e
  | _, .getOtherMembers _ _, e => .error e
  | _, .listMessages _ _ _, e => .error e
  | _, .getDeletedAmong _ _, e => .error e

/-- Only database calls fail. -/
def ChatRequest.refused {β : Type} : ChatRequest β → DbError → Option β
  | .user q, e => q.refused e
  | .store q, e => some (q.refused e)
  | .bus _, _ => none

/-- Only database calls fail, each with an error of its own kind. -/
def Refusing (fault : Fault ChatRequest) : Prop :=
  ∀ (β : Type) (q : ChatRequest β) (n : Nat) (b : β), fault q n = some b →
    ∃ e, q.refused e = some b

/-- What a request may be answered: what the handler answers, or the error of a database call
    that fails. -/
def chatAnswering : Answering ChatRequest ChatWorld :=
  fun q s b => b = (chatHandler.answer q s).1 ∨ ∃ e, q.refused e = some b

theorem chatHandler_answers {β : Type} (q : ChatRequest β) (s : ChatWorld) :
    chatAnswering q s (chatHandler.answer q s).1 :=
  Or.inl rfl

theorem Refusing.answers {fault : Fault ChatRequest} (refusing : Refusing fault) {β : Type}
    (q : ChatRequest β) (t : ChatWorld × Nat) :
    chatAnswering q t.1 ((chatHandler.faulty fault).answer q t).1 := by
  cases failed : fault q t.2 with
  | none => exact Or.inl (by simp only [Handler.faulty, failed])
  | some b =>
    obtain ⟨e,is⟩ := refusing β q t.2 b failed
    exact Or.inr ⟨e,by simpa only [Handler.faulty, failed] using is⟩

theorem inert_loadDeletions (rows : Option (Message × Option Message)) :
    Inert (loadDeletions rows) := by
  cases rows with
  | none => trivial
  | some rows => exact (inert_query rfl).bind fun _ => trivial

theorem inert_findExisting (command : CreateMessageCommand) (member : ConversationMemberEntity) :
    Inert (CreateMessageHandler.findExisting command member) := by
  unfold CreateMessageHandler.findExisting
  split
  · exact (inert_query rfl).bind inert_loadDeletions
  · trivial

theorem inert_loadReply (command : CreateMessageCommand) :
    Inert (CreateMessageHandler.loadReply command) := by
  unfold CreateMessageHandler.loadReply
  split
  · trivial
  · exact (inert_getMessageById _).bind fun _ => (Program.only_lift _).bind fun _ => trivial

theorem inert_recoverExisting (message : MessageEntity) (error : Failure) :
    Inert (recoverExisting message error) := by
  unfold recoverExisting
  split
  · apply Program.Only.bind ((inert_query rfl).bind inert_loadDeletions)
    intro existing
    cases existing <;> trivial
  · trivial

section Calls
variable {fault : Fault ChatRequest} (refusing : Refusing fault) {w : ChatWorld} {n : Nat}
  {α β : Type} {r : Except Failure β} {v : ChatWorld × Nat}

include refusing

/-- A statement is answered with the error of its failure, or as ever. -/
theorem faulty_query {q : StoreRequest (Answer α)} (refuses : ∀ e, q.refused e = .error e)
    {f : α → ChatProgram β}
    (run : (query q >>= f).run (chatHandler.faulty fault) (w, n) = (r, v)) :
    (fault (.store q) n ≠ none ∧ v.1 = w ∧ ∃ e, r = .error e) ∨
      (fault (.store q) n = none ∧
        ((∃ e, (ChatDatabase.answer q w.chat).1 = .error e ∧ r = .error (.database e) ∧
            v.1 = { w with chat := (ChatDatabase.answer q w.chat).2 }) ∨
          ∃ a, (ChatDatabase.answer q w.chat).1 = .ok a ∧
            (f a).run (chatHandler.faulty fault)
              ({ w with chat := (ChatDatabase.answer q w.chat).2 }, n + 1) = (r, v))) := by
  cases failed : fault (.store q) n with
  | some b =>
    obtain ⟨e,is⟩ := refusing _ _ _ _ failed
    rw [ChatRequest.refused, refuses, Option.some.injEq] at is
    cases is
    have answered : (chatHandler.faulty fault).answer (.store q) (w, n) =
        (.error e, (w, n + 1)) := by
      simp [Handler.faulty, failed]
    rw [query, run_ask_error answered] at run
    cases run
    exact Or.inl ⟨by simp,rfl,_,rfl⟩
  | none =>
    refine Or.inr ⟨rfl,?_⟩
    have answered : (chatHandler.faulty fault).answer (.store q) (w, n) =
        ((ChatDatabase.answer q w.chat).1,
          ({ w with chat := (ChatDatabase.answer q w.chat).2 }, n + 1)) := by
      simp [Handler.faulty, failed, chatHandler, ChatWorld.answer]
    cases is : (ChatDatabase.answer q w.chat).1 with
    | error e =>
      rw [is] at answered
      rw [query, run_ask_error answered] at run
      cases run
      exact Or.inl ⟨e,rfl,rfl,rfl⟩
    | ok a =>
      rw [is] at answered
      rw [query, run_ask_bind answered] at run
      exact Or.inr ⟨a,rfl,run⟩

theorem faulty_read {q : StoreRequest (Answer α)} {read : ChatDatabase → α}
    (refuses : ∀ e, q.refused e = .error e) (reads : q.Reads read) {f : α → ChatProgram β}
    (run : (query q >>= f).run (chatHandler.faulty fault) (w, n) = (r, v)) :
    (fault (.store q) n ≠ none ∧ v.1 = w ∧ ∃ e, r = .error e) ∨
      (fault (.store q) n = none ∧
        (f (read w.chat)).run (chatHandler.faulty fault) (w, n + 1) = (r, v)) := by
  rcases faulty_query refusing refuses run with failed | ⟨answered,⟨e,is,_⟩ | ⟨a,is,run⟩⟩
  · exact Or.inl failed
  · rw [reads w.chat] at is
    cases is
  · rw [reads w.chat] at is run
    cases is
    exact Or.inr ⟨answered,run⟩

/-- The first call of the message commands. -/
theorem faulty_requireMember {conversationId userId : Uuid}
    {f : ConversationMemberEntity → ChatProgram β}
    (run : (requireMember conversationId userId >>= f).run (chatHandler.faulty fault) (w, n) =
      (r, v)) :
    (v.1 = w ∧ (∃ e, r = .error e) ∧ (fault (.store (.getConversation conversationId)) n ≠ none ∨
        ∃ e, w.chat.conversationMember conversationId userId = .error e)) ∨
      (fault (.store (.getConversation conversationId)) n = none ∧ ∃ member,
        w.chat.conversationMember conversationId userId = .ok member ∧
        (f member.toDomain).run (chatHandler.faulty fault) (w, n + 1) = (r, v)) := by
  rw [requireMember_bind] at run
  rcases faulty_read refusing (fun _ => rfl) (fun _ => rfl) run with
    ⟨failed,same,error⟩ | ⟨answered,run⟩
  · exact Or.inl ⟨same,error,Or.inl failed⟩
  · unfold ChatDatabase.conversationMember
    cases found : w.chat.getConversation conversationId with
    | none =>
      rw [found] at run
      cases run
      exact Or.inl ⟨rfl,⟨_,rfl⟩,Or.inr ⟨_,rfl⟩⟩
    | some rows =>
      rw [found] at run
      dsimp only at run ⊢
      cases first : rows.2.find? (fun m => m.userId = userId) with
      | none =>
        rw [first] at run
        cases run
        exact Or.inl ⟨rfl,⟨_,rfl⟩,Or.inr ⟨_,rfl⟩⟩
      | some member =>
        rw [first] at run
        exact Or.inr ⟨answered,member,rfl,run⟩

/-- Publishing and broadcasting do not fail. -/
theorem faulty_bus {γ : Type} (q : BusRequest γ) (rest : γ → ChatProgram β) :
    (Program.request (.bus q) rest).run (chatHandler.faulty fault) (w, n) =
      (rest (ChatWorld.answerBus q w).1).run (chatHandler.faulty fault)
        ((ChatWorld.answerBus q w).2, n + 1) := by
  have passes : fault (.bus q) n = none := by
    cases failed : fault (.bus q) n with
    | none => rfl
    | some b =>
      obtain ⟨e,is⟩ := refusing _ _ _ _ failed
      cases is
  have answered : (chatHandler.faulty fault).answer (.bus q) (w, n) =
      ((ChatWorld.answerBus q w).1, ((ChatWorld.answerBus q w).2, n + 1)) := by
    simp [Handler.faulty, passes, chatHandler, ChatWorld.answer]
  rw [Program.run_request, answered]

theorem faulty_publish (event : MessageEvent) (f : Unit → ChatProgram β) :
    (publish event >>= f).run (chatHandler.faulty fault) (w, n) =
      (f ()).run (chatHandler.faulty fault)
        ({ w with published := w.published ++ [event] }, n + 1) :=
  faulty_bus refusing (.publish event) f

theorem fragile_query {q : StoreRequest (Answer α)} (refuses : ∀ e, q.refused e = .error e) :
    (query q).Fragile fault := by
  constructor
  · intro n b failed
    obtain ⟨e,is⟩ := refusing _ _ _ _ failed
    rw [ChatRequest.refused, refuses, Option.some.injEq] at is
    exact ⟨.database e,by rw [← is]⟩
  · intro b
    cases b <;> trivial

theorem fragile_loadDeletions (rows : Option (Message × Option Message)) :
    (loadDeletions rows).Fragile fault := by
  cases rows with
  | none => trivial
  | some rows => exact (fragile_query refusing fun _ => rfl).bind fun _ => trivial

theorem fragile_findExisting (command : CreateMessageCommand) (member : ConversationMemberEntity) :
    (CreateMessageHandler.findExisting command member).Fragile fault := by
  unfold CreateMessageHandler.findExisting
  split
  · exact (fragile_query refusing fun _ => rfl).bind (fragile_loadDeletions refusing)
  · trivial

theorem fragile_loadReply (command : CreateMessageCommand) :
    (CreateMessageHandler.loadReply command).Fragile fault := by
  have reply : ∀ id, (getMessageById id).Fragile fault := fun id =>
    (fragile_query refusing fun _ => rfl).bind (fragile_loadDeletions refusing)
  unfold CreateMessageHandler.loadReply
  split
  · trivial
  · exact (reply _).bind fun _ => (Program.fragile_lift _).bind fun _ => trivial

theorem fragile_recoverExisting (message : MessageEntity) (error : Failure) :
    (recoverExisting message error).Fragile fault := by
  unfold recoverExisting
  split
  · apply Program.Fragile.bind ((fragile_query refusing fun _ => rfl).bind (fragile_loadDeletions refusing))
    intro existing
    cases existing <;> trivial
  · trivial

/-- The transaction of a send is the last call: it fails with nothing stored, or it stores. -/
theorem faulty_insertMessage (message : MessageEntity) :
    (∃ e k, (insertMessage message).run (chatHandler.faulty fault) (w, n) = (.error e, (w, k))) ∨
      ∃ a stored k, (insertMessage message).run (chatHandler.faulty fault) (w, n) =
          (.ok a, ({ w with chat := stored }, k)) ∧
        (insertMessage message).run chatHandler w = (.ok a, { w with chat := stored }) := by
  cases run : (insertMessage message).run (chatHandler.faulty fault) (w, n) with
  | mk r v =>
    rcases faulty_read refusing (fun _ => rfl) (fun _ => rfl) run with ⟨_,same,e,rfl⟩ | ⟨_,run⟩
    · exact Or.inl ⟨e,v.2,Prod.ext rfl (Prod.ext same rfl)⟩
    rcases faulty_query refusing (fun _ => rfl) run with ⟨_,same,e,rfl⟩ | ⟨_,⟨e,is,rfl,same⟩ | ⟨_,is,run⟩⟩
    · exact Or.inl ⟨e,v.2,Prod.ext rfl (Prod.ext same rfl)⟩
    · have kept := w.chat.storeMessage_error (Prod.ext is rfl)
      refine Or.inl ⟨_,v.2,Prod.ext rfl (Prod.ext ?_ rfl)⟩
      rw [same]
      exact congrArg (fun chat => { w with chat }) kept
    · cases run
      refine Or.inr ⟨_,_,_,rfl,?_⟩
      rw [insertMessage, run_read (fun _ => rfl)]
      exact run_write w _ (Prod.ext is rfl) _

theorem faulty_saveMessage (message : MessageEntity) :
    (∃ x k, (saveMessage message).run (chatHandler.faulty fault) (w, n) = (x, (w, k))) ∨
      ∃ a stored k, (saveMessage message).run (chatHandler.faulty fault) (w, n) =
          (.ok a, ({ w with chat := stored }, k)) ∧
        (saveMessage message).run chatHandler w = (.ok a, { w with chat := stored }) := by
  unfold saveMessage
  rcases faulty_insertMessage refusing message with ⟨e,k,failed⟩ | ⟨a,stored,k,ran,plain⟩
  · rw [Program.run_catch, failed]
    obtain ⟨m,same | ⟨e',failed'⟩⟩ := (fragile_recoverExisting refusing message e).run
      (inert_recoverExisting message e) w k
    · exact Or.inl ⟨_,m,same⟩
    · exact Or.inl ⟨_,m,failed'⟩
  · exact Or.inr ⟨a,stored,k,Program.run_catch_ok _ _ ran _,Program.run_catch_ok _ _ plain _⟩

/-- What follows the transaction publishes the event and cannot fail. -/
theorem faulty_saved {message : MessageEntity} {event : MessageEvent}
    (g : LoadedMessage → LoadedMessage) {r : Except Failure LoadedMessage} {v : ChatWorld × Nat}
    (run : (saveMessage message >>= fun saved => publish event >>= fun _ =>
      (pure (g saved) : ChatProgram LoadedMessage)).run (chatHandler.faulty fault) (w, n) = (r, v)) :
    v.1 = w ∨ ((∃ a, r = .ok a) ∧ v.1.chat = w.chat) ∨
      (saveMessage message >>= fun saved => publish event >>= fun _ =>
        (pure (g saved) : ChatProgram LoadedMessage)).run chatHandler w = (r, v.1) := by
  rcases faulty_saveMessage refusing message with ⟨x,k,ran⟩ | ⟨a,stored,k,ran,plain⟩
  · cases x with
    | error e =>
      rw [Program.run_bind_error _ _ ran] at run
      cases run
      exact Or.inl rfl
    | ok a =>
      rw [Program.run_bind_ok _ _ ran, faulty_publish refusing] at run
      cases run
      exact Or.inr (Or.inl ⟨⟨_,rfl⟩,rfl⟩)
  · rw [Program.run_bind_ok _ _ ran, faulty_publish refusing] at run
    cases run
    rw [Program.run_bind_ok _ _ plain]
    exact Or.inr (Or.inr rfl)

/-- Under failures a send changes nothing, or it ends well with the tables as they were, or
    it runs as ever. -/
theorem faulty_create {amb : Ambient} {command : CreateMessageCommand}
    {r : Except Failure LoadedMessage} {v : ChatWorld × Nat}
    (run : (CreateMessageHandler.execute amb command).run (chatHandler.faulty fault) (w, n) =
      (r, v)) :
    v.1 = w ∨ ((∃ a, r = .ok a) ∧ v.1.chat = w.chat) ∨
      (CreateMessageHandler.execute amb command).run chatHandler w = (r, v.1) := by
  unfold CreateMessageHandler.execute at run ⊢
  rcases faulty_requireMember refusing run with ⟨same,_⟩ | ⟨_,member,seated,run⟩
  · exact Or.inl same
  rw [run_requireMember, seated]
  dsimp only [orRefuse]
  rcases (fragile_findExisting refusing command member.toDomain).bind_inv (inert_findExisting _ _) run with
    ⟨same,_⟩ | ⟨existing,_,found,run⟩
  · exact Or.inl same
  rw [Program.run_bind_ok _ _ found]
  cases existing with
  | some existing =>
    dsimp only at run ⊢
    split at run <;> cases run <;> exact Or.inl rfl
  | none =>
    rcases (fragile_loadReply refusing command).bind_inv (inert_loadReply _) run with
      ⟨same,_⟩ | ⟨reply,_,quotes,run⟩
    · exact Or.inl same
    dsimp only
    rw [Program.run_bind_ok _ _ quotes]
    unfold CreateMessageHandler.create at run ⊢
    cases built : MessageEntity.create amb command.text command.type member.toDomain.id
        command.conversationId command.deletedForUserIds command.replyToMessageId
        command.clientMessageId with
    | error e =>
      rw [built] at run
      cases run
      exact Or.inl rfl
    | ok created =>
      rw [built] at run
      rw [Program.lift_ok, Program.done_bind] at run ⊢
      cases reply with
      | none => exact faulty_saved refusing id run
      | some reply =>
        exact faulty_saved refusing (fun saved => { saved with replyToMessage := some reply.message }) run

/-- A send that ends with an error has changed nothing. -/
theorem faulty_create_error {amb : Ambient} {command : CreateMessageCommand} {e : Failure}
    {v : ChatWorld × Nat}
    (run : (CreateMessageHandler.execute amb command).run (chatHandler.faulty fault) (w, n) =
      (.error e, v)) : v.1 = w := by
  rcases faulty_create refusing run with same | ⟨⟨_,ended⟩,_⟩ | plain
  · exact same
  · cases ended
  · rw [run_createMessage] at plain
    rcases apply_inv plain with ⟨same,_⟩ | ⟨_,_,ended,_⟩
    · exact same
    · cases ended

end Calls

end Chatterbox
