import Chatterbox.Chat.Commands

/-!
Retries of one send under one client key. The key is looked up in one statement and
inserted in another transaction, so two requests can both miss the row of the other; the
loser is handed the stored row, and publishes the message it has not stored. As long as
every insert goes through, the first insert is the only one.
-/
namespace Chatterbox
open Concurrency Tables ConversationPostgresRepository

abbrev ClientKey := Uuid × Uuid × Option JsString

def CreateMessageCommand.clientKey (base : CreateMessageCommand) (memberId : Uuid) : ClientKey :=
  (base.conversationId, memberId, some (trim (base.clientMessageId.getD [])))

/-- The ids of the rows that hold the key. -/
def keyRows (key : ClientKey) (w : ChatWorld) : List Uuid :=
  (w.chat.messages.filter (fun m => m.clientKey = key)).map Message.id

/-- The message that the event announces under the key. -/
def MessageEvent.announces (key : ClientKey) : MessageEvent → Option Uuid
  | .created e =>
      if (e.conversationId, e.senderId, e.clientMessageId) = key then some e.messageId else none
  | _ => none

def keyEvents (key : ClientKey) (w : ChatWorld) : List Uuid :=
  w.published.filterMap (MessageEvent.announces key)

/-- The key has at most one row, and its events announce exactly its rows. -/
def Settled (key : ClientKey) (w : ChatWorld) : Prop :=
  keyEvents key w = keyRows key w ∧ (keyRows key w).length ≤ 1

/-- The insert of a message finds neither its client key nor a doubled deletion. -/
def ChatRequest.insertsFirst : {β : Type} → ChatRequest β → ChatWorld → Bool
  | _, .store (.commitMessage message deleted _), w =>
      w.chat.messages.all (fun m => m.clientKey ≠ message.clientKey) && decide deleted.Nodup
  | _, _, _ => true

/-- What one request of such a send can do. -/
inductive SendStep (base : CreateMessageCommand) (key : ClientKey) (own : Uuid) :
    {β : Type} → ChatRequest β → ChatWorld → Prop where
  | read {β : Type} {q : StoreRequest β} {s : ChatWorld}
      (quiet : (ChatDatabase.answer q s.chat).2 = s.chat) : SendStep base key own (.store q) s
  | insert {message : Message} {deleted : List DeletedMessage} {members : List ConversationMember}
      {s : ChatWorld} (id : message.id = own) (fresh : own ∉ s.chat.messages.map Message.id)
      (holds : message.clientKey = key) (text : message.text = base.text)
      (others : ∀ d ∈ deleted, d.messageId = own)
      (known : ∀ c ∈ members, ∃ r ∈ s.chat.members, r.identity = c.identity) :
      SendStep base key own (.store (.commitMessage message deleted members)) s
  | announce {event : MessageCreatedDomainEvent} {s : ChatWorld}
      (is : (MessageEvent.created event).announces key = some own)
      (stored : keyRows key s = [own]) (pending : keyEvents key s = []) :
      SendStep base key own (.bus (.publish (.created event))) s

def sendContract (base : CreateMessageCommand) (key : ClientKey) (own : Uuid) :
    Contract ChatRequest ChatWorld where
  rely s t := (keyRows key s ≠ [] → keyRows key t = keyRows key s) ∧
    (own ∉ s.chat.messages.map Message.id → own ∉ t.chat.messages.map Message.id) ∧
    (keyRows key s = [own] → keyEvents key t = keyEvents key s)
  admits q s := q.insertsFirst s = true
  issues q s := SendStep base key own q s
  rely_refl s := ⟨fun _ => rfl,fun absent => absent,fun _ => rfl⟩
  rely_trans first next := by
    refine ⟨fun some => ?_,fun absent => next.2.1 (first.2.1 absent),fun stored => ?_⟩
    · rw [next.1 (by rwa [first.1 some]), first.1 some]
    · have kept := first.1 (by rw [stored]; simp)
      rw [next.2.2 (kept.trans stored), first.2.2 stored]

/-- The checks of the handler all pass: a live conversation, a live sender, a key that
    fits, a quoted message that may be quoted, and no other text under the key. -/
structure Accepts (base : CreateMessageCommand) (key : ClientKey) (w : ChatWorld) : Prop where
  conversation : (lookup Conversation.id base.conversationId w.chat.liveConversations).isSome
  member : w.chat.isMember base.conversationId base.senderId = true
  length : (trim (base.clientMessageId.getD [])).length ≤ 255
  reply : ∀ p, base.replyToMessageId = some p → ∃ m, w.chat.message p = some m ∧
    m.conversationId = base.conversationId ∧ m.deletedAt = none ∧
    ⟨base.senderId,p⟩ ∉ w.chat.deletedMessages
  text : ∀ m ∈ w.chat.messages, m.clientKey = key → m.text = base.text

variable {ι : Type} {base : CreateMessageCommand} {key : ClientKey} {owns : ι → Uuid}
  {w s : ChatWorld}

/-- What holds between any two steps: members keep their identity, and a row of the key
    that has not been announced is the row of one of the commands. -/
structure SendInv (base : CreateMessageCommand) (key : ClientKey) (owns : ι → Uuid)
    (w s : ChatWorld) : Prop where
  members : s.chat.members.map ConversationMember.identity =
    w.chat.members.map ConversationMember.identity
  accounted : Settled key s ∨ (keyEvents key s = [] ∧ ∃ i, keyRows key s = [owns i])
  accepts : Accepts base key w → Accepts base key s

theorem answer_insert {message : Message} {deleted : List DeletedMessage}
    {members : List ConversationMember} (fresh : message.id ∉ s.chat.messages.map Message.id)
    (first : (ChatRequest.store (.commitMessage message deleted members)).insertsFirst s = true) :
    chatHandler.answer (.store (.commitMessage message deleted members)) s = (.ok (),
      { s with chat := { s.chat with
          messages := s.chat.messages ++ [message]
          deletedMessages := saveAll id deleted s.chat.deletedMessages
          members := saveAll ConversationMember.id members s.chat.members } }) := by
  simp only [ChatRequest.insertsFirst, Bool.and_eq_true, List.all_eq_true, decide_eq_true_eq]
    at first
  have free : s.chat.messages.any
      (fun m => m.id ≠ message.id && m.clientKey = message.clientKey) = false := by
    simpa using fun m mem _ => first.1 m mem
  have new : ∀ m ∈ s.chat.messages, m.id ≠ message.id := by
    intro m mem is
    exact fresh (List.mem_map.mpr ⟨m,mem,is⟩)
  simp only [chatHandler, ChatWorld.answer, ChatDatabase.answer, ChatDatabase.storeMessage, free,
    Bool.and_false, Bool.false_eq_true, ↓reduceIte, first.2, not_true_eq_false, save_new new]

theorem keyRows_append {message : Message} {chat : ChatDatabase}
    (messages : chat.messages = s.chat.messages ++ [message]) (holds : message.clientKey = key) :
    keyRows key { s with chat } = keyRows key s ++ [message.id] := by
  simp [keyRows, messages, holds]

theorem keyRows_nil (first : ∀ m ∈ s.chat.messages, m.clientKey ≠ key) : keyRows key s = [] := by
  rw [keyRows, List.map_eq_nil_iff, List.filter_eq_nil_iff]
  intro m mem
  simpa using first m mem

/-- An insert that goes through is the first of its key. -/
theorem insert_empty {message : Message} {deleted : List DeletedMessage}
    {members : List ConversationMember} (holds : SendInv base key owns w s)
    (has : message.clientKey = key)
    (first : (ChatRequest.store (.commitMessage message deleted members)).insertsFirst s = true) :
    keyRows key s = [] ∧ keyEvents key s = [] := by
  simp only [ChatRequest.insertsFirst, Bool.and_eq_true, List.all_eq_true, decide_eq_true_eq]
    at first
  have empty : keyRows key s = [] := keyRows_nil (by simpa [has] using first.1)
  refine ⟨empty,?_⟩
  rcases holds.accounted with ⟨events,_⟩ | ⟨events,_⟩
  · rw [events, empty]
  · exact events

theorem insert_rows {message : Message} {deleted : List DeletedMessage}
    {members : List ConversationMember} (holds : SendInv base key owns w s)
    (has : message.clientKey = key) (fresh : message.id ∉ s.chat.messages.map Message.id)
    (first : (ChatRequest.store (.commitMessage message deleted members)).insertsFirst s = true) :
    keyRows key (chatHandler.answer (.store (.commitMessage message deleted members)) s).2 =
        [message.id] ∧
      keyEvents key (chatHandler.answer (.store (.commitMessage message deleted members)) s).2 =
        [] := by
  obtain ⟨empty,silent⟩ := insert_empty holds has first
  rw [answer_insert fresh first]
  exact ⟨by rw [keyRows_append rfl has, empty]; rfl,silent⟩

theorem keyRows_sub {id : Uuid} (mem : id ∈ keyRows key s) :
    id ∈ s.chat.messages.map Message.id := by
  obtain ⟨m,memm,is⟩ := List.mem_map.mp mem
  exact List.mem_map.mpr ⟨m,(List.mem_filter.mp memm).1,is⟩

theorem accepts_insert {message : Message} {deleted : List DeletedMessage} {chat : ChatDatabase}
    (conversations : chat.conversations = s.chat.conversations)
    (messages : chat.messages = s.chat.messages ++ [message])
    (deletions : chat.deletedMessages = saveAll id deleted s.chat.deletedMessages)
    (members : chat.members.map ConversationMember.identity =
      s.chat.members.map ConversationMember.identity)
    (distinct : deleted.Nodup) (fresh : message.id ∉ s.chat.messages.map Message.id)
    (others : ∀ d ∈ deleted, d.messageId = message.id) (text : message.text = base.text)
    (accepts : Accepts base key s) : Accepts base key { s with chat } := by
  refine ⟨?_,?_,accepts.length,fun p is => ?_,fun m mem holds => ?_⟩
  · simpa [ChatDatabase.liveConversations, conversations] using accepts.conversation
  · rw [isMember_iff, members, ← isMember_iff]
    exact accepts.member
  · obtain ⟨m,found,conv,live,kept⟩ := accepts.reply p is
    refine ⟨m,?_,conv,live,?_⟩
    · change lookup Message.id p chat.messages = some m
      have found' : lookup Message.id p s.chat.messages = some m := found
      rw [messages, lookup_append, found', Option.some_or]
    · rw [deletions, mem_saveAll (by simpa [Keyed] using distinct)]
      rintro (now | ⟨before,_⟩)
      · have id : p = message.id := others _ now
        obtain ⟨mem,own⟩ := lookup_mem found
        exact fresh (List.mem_map.mpr ⟨m,mem,own.trans id⟩)
      · exact kept before
  · rw [messages] at mem
    rcases List.mem_append.mp mem with old | new
    · exact accepts.text m old holds
    · rw [List.mem_singleton.mp new]
      exact text

/-- One step of one send: the invariant, and what the other sends rely on. -/
theorem sendStep_keeps (injective : Function.Injective owns)
    (keyed : Keyed ConversationMember.id w.chat.members) {i : ι} {β : Type} {q : ChatRequest β}
    (holds : SendInv base key owns w s) (step : SendStep base key (owns i) q s)
    (first : q.insertsFirst s = true) :
    SendInv base key owns w (chatHandler.answer q s).2 ∧
      ∀ j, j ≠ i → (sendContract base key (owns j)).rely s (chatHandler.answer q s).2 := by
  cases step with
  | @read β q s quiet =>
    have same : (chatHandler.answer (.store q) s).2 = s := by
      simp [chatHandler, ChatWorld.answer, quiet]
    rw [same]
    exact ⟨holds,fun j _ => (sendContract base key (owns j)).rely_refl s⟩
  | @insert message deleted members s id fresh has text others known =>
    obtain ⟨empty,_⟩ := insert_empty holds has first
    obtain ⟨rows,silent⟩ := insert_rows holds has (by rwa [id]) first
    rw [answer_insert (by rwa [id]) first] at rows silent ⊢
    simp only [ChatRequest.insertsFirst, Bool.and_eq_true, List.all_eq_true, decide_eq_true_eq]
      at first
    have keyed' := keyed_of_identity holds.members keyed
    have identities : (saveAll ConversationMember.id members s.chat.members).map
        ConversationMember.identity = s.chat.members.map ConversationMember.identity :=
      identity_saveAll keyed' known
    refine ⟨⟨identities.trans holds.members,Or.inr ⟨silent,i,rows.trans (by rw [id])⟩,
      fun accepts => ?_⟩,
      fun j other => ⟨fun some => absurd empty some,fun absent => ?_,fun stored => ?_⟩⟩
    · exact accepts_insert rfl rfl rfl identities first.2 (by rwa [id]) (by rwa [id]) text
        (holds.accepts accepts)
    · simp only [List.map_append, List.mem_append, List.map_cons, List.map_nil,
        List.mem_singleton, id, not_or]
      exact ⟨absent,fun same => other (injective same)⟩
    · rw [empty] at stored
      cases stored
  | @announce event s is stored pending =>
    have events : keyEvents key
        (chatHandler.answer (.bus (.publish (.created event))) s).2 = [owns i] := by
      change (s.published ++ [MessageEvent.created event]).filterMap (MessageEvent.announces key) = _
      rw [List.filterMap_append, show s.published.filterMap (MessageEvent.announces key) = []
        from pending]
      simp [is]
    refine ⟨⟨holds.members,Or.inl ⟨events.trans stored.symm,?_⟩,fun accepts => ?_⟩,
      fun j other => ⟨fun _ => rfl,fun absent => absent,fun mine => ?_⟩⟩
    · change (keyRows key s).length ≤ 1
      rw [stored]
      exact Nat.le_refl 1
    · obtain ⟨conversation,member,length,reply,text⟩ := holds.accepts accepts
      exact ⟨conversation,member,length,reply,text⟩
    · rw [stored, List.cons.injEq] at mine
      exact absurd (injective mine.1).symm other

/-- What a send leaves when it has returned: the row of the key is the one it answers
    with, and a row of its own has been announced. A send fails only when a check does. -/
def SendPost (base : CreateMessageCommand) (key : ClientKey) (own : Uuid) (w : ChatWorld) :
    Except Failure LoadedMessage → ChatWorld → Prop
  | .ok saved, t => keyRows key t = [saved.message.id] ∧
      (keyRows key t = [own] → keyEvents key t ≠ [])
  | .error _, t => keyRows key t ≠ [own] ∧ ¬ Accepts base key w

section Thread
variable {amb : Ambient} {memberId : Uuid} {command : CreateMessageCommand}
  {member : ConversationMemberEntity}

/-- The program of a send, and where it stands. -/
abbrev MeetsSend {α : Type} (base : CreateMessageCommand) (key : ClientKey) (owns : ι → Uuid)
    (own : Uuid) (w : ChatWorld) (post : Except Failure α → ChatWorld → Prop)
    (p : ChatProgram α) (s : ChatWorld) : Prop :=
  p.Meets chatHandler (SendInv base key owns w) (sendContract base key own) post s

theorem meets_reject {own : Uuid} (absent : own ∉ s.chat.messages.map Message.id)
    (rejected : ¬ Accepts base key w) (e : Failure) :
    MeetsSend base key owns own w (SendPost base key own w) (Program.fail e) s := by
  intro t moved _
  refine ⟨fun stored => ?_,rejected⟩
  exact moved.2.1 absent (keyRows_sub (by rw [stored]; exact List.mem_singleton.mpr rfl))

theorem reads_quiet {α : Type} {q : StoreRequest (Answer α)} {read : ChatDatabase → α}
    (reads : q.Reads read) (own : Uuid) (v : ChatWorld) :
    (sendContract base key own).issues (.store q) v :=
  .read (by rw [reads])

/-- The answer with a stored row of the key. -/
theorem meets_existing {own : Uuid} {row : Message} {reply : Option Message}
    (absent : own ∉ s.chat.messages.map Message.id) (holds : SendInv base key owns w s)
    (mem : row ∈ s.chat.messages) (has : row.clientKey = key) (same : command.text = base.text) :
    MeetsSend base key owns own w (SendPost base key own w)
      (query (.getDeletedMessages row.id) >>= fun deleted =>
        if (LoadedMessage.ofRows row reply deleted).message.text ≠ command.text then
          Program.fail (idempotencyConflictException none)
        else Program.done (.ofRows row reply deleted)) s := by
  have stored : keyRows key s = [row.id] := by
    have found : row.id ∈ keyRows key s :=
      List.mem_map.mpr ⟨row,List.mem_filter.mpr ⟨mem,by simpa using has⟩,rfl⟩
    have one : (keyRows key s).length ≤ 1 := by
      rcases holds.accounted with settled | ⟨_,i,is⟩
      · exact settled.2
      · rw [is]
        exact Nat.le_refl 1
    match rows : keyRows key s, found, one with
    | [_], found, _ => rw [List.mem_singleton.mp found]
  refine meets_read (fun _ => rfl) (reads_quiet (fun _ => rfl) own) fun v moved hv => ?_
  have absent' := moved.2.1 absent
  have stored' : keyRows key v = [row.id] := by
    rw [moved.1 (by rw [stored]; exact List.cons_ne_nil _ _), stored]
  have text : (LoadedMessage.ofRows row reply (v.chat.deletedMessages.filter
      (fun r => r.messageId = row.id))).message.text = row.text :=
    MessageEntity.loadDeletedForUserIds_text ..
  by_cases differs : row.text ≠ command.text
  · rw [text, if_pos differs]
    refine meets_reject absent' (fun accepts => ?_) _
    exact differs (((holds.accepts accepts).text row mem has).trans same.symm)
  · rw [text, if_neg differs]
    intro t later _
    have kept : keyRows key t = [row.id] := by
      rw [later.1 (by rw [stored']; exact List.cons_ne_nil _ _), stored']
    refine ⟨?_,fun mine => ?_⟩
    · simpa [LoadedMessage.ofRows, Message.toDomain] using kept
    · exact absurd (keyRows_sub (by rw [mine]; exact List.mem_singleton.mpr rfl))
        (later.2.1 absent')

/-- The handler goes on with the quoted message, or with none. -/
theorem meets_loadReply {own : Uuid} {f : Option LoadedMessage → ChatProgram LoadedMessage}
    {shadow : List Uuid} (absent : own ∉ s.chat.messages.map Message.id)
    (holds : SendInv base key owns w s)
    (next : ∀ v reply, own ∉ v.chat.messages.map Message.id → SendInv base key owns w v →
      MeetsSend base key owns own w (SendPost base key own w) (f reply) v) :
    MeetsSend base key owns own w (SendPost base key own w)
      (CreateMessageHandler.loadReply { base with deletedForUserIds := shadow } >>= f) s := by
  cases quoted : base.replyToMessageId with
  | none =>
    simp only [CreateMessageHandler.loadReply]
    exact next s none absent holds
  | some p =>
    simp only [CreateMessageHandler.loadReply, Program.bind_assoc, getMessageById_bind,
      loadDeletions_bind]
    refine meets_read (fun _ => rfl) (reads_quiet (fun _ => rfl) own) fun v moved hv => ?_
    have absentV := moved.2.1 absent
    cases found : v.chat.message p with
    | none =>
      refine meets_reject absentV (fun accepts => ?_) _
      obtain ⟨m,is,_⟩ := (hv.accepts accepts).reply p quoted
      cases found.symm.trans is
    | some m =>
      simp only [Option.map_some, ChatDatabase.withReply, Program.bind_assoc]
      refine meets_read (fun _ => rfl) (reads_quiet (fun _ => rfl) own) fun u movedU hu => ?_
      have absentU := movedU.2.1 absentV
      generalize loaded : CreateMessageHandler.acceptReply _ _ = outcome
      cases outcome with
      | ok reply => exact next u (some reply) absentU hu
      | error e =>
        refine meets_reject absentU (fun accepts => ?_) _
        obtain ⟨_,is,conv,live,_⟩ := (hv.accepts accepts).reply p quoted
        obtain ⟨_,_,_,_,kept⟩ := (hu.accepts accepts).reply p quoted
        cases found.symm.trans is
        have unhidden : base.senderId ∉ (u.chat.deletedMessages.filter
            (fun r => r.messageId = m.id)).map DeletedMessage.userId := by
          rintro mem
          obtain ⟨d,memd,user⟩ := List.mem_map.mp mem
          obtain ⟨stored,of⟩ := List.mem_filter.mp memd
          have quotes : d = ⟨base.senderId,p⟩ := by
            rw [← (lookup_mem found).2, ← of_decide_eq_true of]
            exact congrArg (DeletedMessage.mk · d.messageId) user
          exact kept (quotes ▸ stored)
        have contra := loaded.symm.trans (acceptReply_rows_iff.mpr ⟨rfl,conv,live,unhidden⟩)
        cases contra

/-- An insert that goes through has stored the row of the key, not yet announced. -/
def Inserted (key : ClientKey) (own : Uuid) : Except Failure LoadedMessage → ChatWorld → Prop
  | .ok saved, t => keyRows key t = [own] ∧ keyEvents key t = [] ∧ saved.message.id = own
  | .error _, _ => False

theorem meets_insertMessage {i : ι} {message : MessageEntity}
    (injective : Function.Injective owns) (keyed : Keyed ConversationMember.id w.chat.members)
    (absent : owns i ∉ s.chat.messages.map Message.id) (id : message.id = owns i)
    (has : (Message.fromDomain message).clientKey = key) (text : message.text = base.text) :
    MeetsSend base key owns (owns i) w (Inserted key (owns i)) (insertMessage message) s := by
  unfold insertMessage
  refine meets_read (fun _ => rfl) (reads_quiet (fun _ => rfl) _) fun v moved hv => ?_
  refine meets_ask_bind fun t movedT ht first => ?_
  have fresh : owns i ∉ t.chat.messages.map Message.id := movedT.2.1 (moved.2.1 absent)
  have step : SendStep base key (owns i) (.store (.commitMessage (Message.fromDomain message)
      (message.deletedForUserIds.map fun userId => ⟨userId,message.id⟩)
      ((v.chat.membersOf message.conversationId).map message.updateMember))) t := by
    refine .insert id fresh has text (fun d mem => ?_) fun c mem => ?_
    · obtain ⟨u,_,rfl⟩ := List.mem_map.mp mem
      exact id
    · obtain ⟨r,memr,rfl⟩ := List.mem_map.mp mem
      have live : r ∈ v.chat.members :=
        (List.mem_filter.mp (List.mem_filter.mp memr).1).1
      have known : r.identity ∈ t.chat.members.map ConversationMember.identity := by
        rw [ht.members, ← hv.members]
        exact List.mem_map.mpr ⟨r,live,rfl⟩
      obtain ⟨r',mem',is⟩ := List.mem_map.mp known
      exact ⟨r',mem',is⟩
  refine ⟨step,(sendStep_keeps injective keyed ht step first).1,?_,?_⟩
  · intro a _ u later _
    obtain ⟨rows,events⟩ := insert_rows ht has (by rwa [← id] at fresh) first
    have mine := rows.trans (congrArg (fun id => [id]) id)
    refine ⟨?_,(later.2.2 mine).trans events,?_⟩
    · rw [later.1 (by rw [rows]; exact List.cons_ne_nil _ _), mine]
    · simpa [Message.toDomain, Message.fromDomain] using id
  · intro e answered
    rw [answer_insert (by rwa [← id] at fresh) first] at answered
    cases answered

/-- The insert and the announcement. -/
theorem meets_create {i : ι} {message : MessageEntity} {event : MessageCreatedDomainEvent}
    (injective : Function.Injective owns) (keyed : Keyed ConversationMember.id w.chat.members)
    (reply : Option LoadedMessage) (absent : owns i ∉ s.chat.messages.map Message.id)
    (holds : SendInv base key owns w s) (id : message.id = owns i)
    (has : (Message.fromDomain message).clientKey = key) (text : message.text = base.text)
    (announced : (MessageEvent.created event).announces key = some (owns i)) :
    MeetsSend base key owns (owns i) w (SendPost base key (owns i) w)
      (saveMessage message >>= fun saved => publish (.created event) >>= fun _ =>
        match reply with
        | some reply => Program.done { saved with replyToMessage := some reply.message }
        | none => Program.done saved) s := by
  have inserted := meets_insertMessage injective keyed absent id has text
  have saved : MeetsSend base key owns (owns i) w (Inserted key (owns i)) (saveMessage message) s :=
    inserted.tryCatch holds (fun _ _ _ done => done) fun _ _ _ contra => contra.elim
  refine saved.bind holds (fun answer t ht stored => ?_) fun _ _ _ contra => contra.elim
  obtain ⟨rows,events,is⟩ := stored
  intro u moved hu _
  have rows' : keyRows key u = [owns i] := by
    rw [moved.1 (by rw [rows]; exact List.cons_ne_nil _ _), rows]
  have events' : keyEvents key u = [] := (moved.2.2 rows).trans events
  have step : SendStep base key (owns i) (.bus (.publish (.created event))) u :=
    .announce announced rows' events'
  refine ⟨step,(sendStep_keeps injective keyed hu step rfl).1,?_⟩
  have announcedNow : keyEvents key
      (chatHandler.answer (.bus (.publish (.created event))) u).2 ≠ [] := by
    change (u.published ++ [MessageEvent.created event]).filterMap
      (MessageEvent.announces key) ≠ []
    simp [List.filterMap_append, announced]
  have post : ∀ v, (sendContract base key (owns i)).rely
      (chatHandler.answer (.bus (.publish (.created event))) u).2 v →
      keyRows key v = [answer.message.id] ∧ (keyRows key v = [owns i] → keyEvents key v ≠ []) := by
    intro v later
    refine ⟨?_,fun _ => ?_⟩
    · have stored : keyRows key
          (chatHandler.answer (.bus (.publish (.created event))) u).2 = [owns i] := rows'
      rw [later.1 (by rw [stored]; exact List.cons_ne_nil _ _), stored, is]
    · rw [later.2.2 rows']
      exact announcedNow
  cases reply with
  | none => exact fun v later _ => post v later
  | some reply => exact fun v later _ => post v later

theorem find_member {conversationId userId : Uuid} {v : ChatWorld}
    {rows : Conversation × List ConversationMember} {member : ConversationMember}
    (loaded : v.chat.getConversation conversationId = some rows)
    (found : rows.2.find? (fun m => m.userId = userId) = some member) :
    member ∈ v.chat.members ∧ member.seat = (conversationId, userId) := by
  obtain ⟨c,_,rfl⟩ := Option.map_eq_some_iff.mp loaded
  have user := List.find?_some found
  have mem := List.mem_filter.mp (List.mem_of_find?_eq_some found)
  exact ⟨(List.mem_filter.mp mem.1).1,
    Prod.ext (of_decide_eq_true mem.2) (of_decide_eq_true user)⟩

/-- One send of the pool. -/
theorem meets_send {i : ι} {clientMessageId : JsString} (shadow : List Uuid)
    (injective : Function.Injective owns) (keyed : Keyed ConversationMember.id w.chat.members)
    (seats : Keyed ConversationMember.seat w.chat.members)
    (sender : ∃ r ∈ w.chat.members, r.id = memberId ∧
      r.seat = (base.conversationId, base.senderId))
    (given : base.clientMessageId = some clientMessageId) (nonblank : trim clientMessageId ≠ [])
    (own : amb.uuid 0 = owns i) (absent : owns i ∉ s.chat.messages.map Message.id) :
    MeetsSend base (base.clientKey memberId) owns (owns i) w
      (SendPost base (base.clientKey memberId) (owns i) w)
      (CreateMessageHandler.execute amb { base with deletedForUserIds := shadow }) s := by
  unfold CreateMessageHandler.execute
  rw [requireMember_bind]
  refine meets_read (fun _ => rfl) (reads_quiet (fun _ => rfl) _) fun v moved hv => ?_
  have absentV := moved.2.1 absent
  cases loaded : v.chat.getConversation base.conversationId with
  | none =>
    refine meets_reject absentV (fun accepts => ?_) _
    have known := (hv.accepts accepts).conversation
    rw [Option.map_eq_none_iff.mp loaded] at known
    cases known
  | some rows =>
    cases found : rows.2.find? (fun m => m.userId = base.senderId) with
    | none =>
      simp only [found]
      refine meets_reject absentV (fun accepts => ?_) _
      obtain ⟨c,_,rfl⟩ := Option.map_eq_some_iff.mp loaded
      obtain ⟨m,mem,user⟩ := List.any_eq_true.mp (hv.accepts accepts).member
      exact List.find?_eq_none.mp found m mem user
    | some member =>
      simp only [found]
      have is : member.id = memberId := by
        obtain ⟨mem,seat⟩ := find_member loaded found
        obtain ⟨r,memr,id,seat'⟩ := sender
        have known : member.identity ∈ w.chat.members.map ConversationMember.identity := by
          rw [← hv.members]
          exact List.mem_map.mpr ⟨member,mem,rfl⟩
        obtain ⟨r',memr',same⟩ := List.mem_map.mp known
        obtain ⟨sameId,sameUser,sameConversation,_⟩ :
            r'.id = member.id ∧ r'.userId = member.userId ∧
              r'.conversationId = member.conversationId ∧ r'.deletedAt = member.deletedAt := by
          simpa [ConversationMember.identity] using same
        have seats' : r'.seat = r.seat := by
          rw [seat', ← seat]
          exact Prod.ext sameConversation sameUser
        rw [← sameId, keyed_unique seats memr' memr seats']
        exact id
      have key : base.clientKey memberId =
          (base.conversationId, member.id, some (trim clientMessageId)) := by
        rw [CreateMessageCommand.clientKey, given, is]
        rfl
      have lookupKey : CreateMessageHandler.findExisting
            { base with deletedForUserIds := shadow } member.toDomain =
          getMessageByClientMessageId base.conversationId member.id (trim clientMessageId) :=
        CreateMessageHandler.findExisting_given given nonblank _
      rw [lookupKey, getMessageByClientMessageId, Program.bind_assoc]
      simp only [loadDeletions_bind]
      refine meets_read (fun _ => rfl) (reads_quiet (fun _ => rfl) _) fun u movedU hu => ?_
      have absentU := movedU.2.1 absentV
      cases stored : lookup Message.clientKey (base.conversationId, member.id,
          some (trim clientMessageId)) u.chat.messages with
      | some row =>
        obtain ⟨mem,has⟩ := lookup_mem stored
        exact meets_existing absentU hu mem (has.trans key.symm) rfl
      | none =>
        refine meets_loadReply absentU hu fun x reply absentX hx => ?_
        unfold CreateMessageHandler.create
        by_cases itself : base.replyToMessageId = some (amb.uuid 0)
        · simp only [MessageEntity.create, itself, ↓reduceIte]
          refine meets_reject absentX (fun accepts => ?_) _
          obtain ⟨m,quoted,_⟩ := (hx.accepts accepts).reply _ itself
          obtain ⟨mem,id⟩ := lookup_mem quoted
          exact absentX (List.mem_map.mpr ⟨m,mem,id.trans own⟩)
        · by_cases long : (trim clientMessageId).length > 255
          · simp only [MessageEntity.create, itself, ↓reduceIte, given,
              MessageEntity.validateClientMessageId, nonblank, long]
            refine meets_reject absentX (fun accepts => ?_) _
            have short := (hx.accepts accepts).length
            rw [given, Option.getD_some] at short
            omega
          · simp only [MessageEntity.create, itself, ↓reduceIte, given,
              MessageEntity.validateClientMessageId, nonblank, long]
            refine meets_create injective keyed reply absentX hx own ?_ rfl ?_
            · rw [key]
              rfl
            · rw [key]
              exact (if_pos rfl).trans (congrArg some own)

end Thread

section Pool
variable {shadows : ι → List Uuid} {ambs : ι → Ambient} {memberId : Uuid}

/-- Any number of sends that differ at most in whom they are hidden from. -/
def sendPool (base : CreateMessageCommand) (shadows : ι → List Uuid) (ambs : ι → Ambient)
    (w : ChatWorld) : Pool ChatRequest Failure LoadedMessage ChatWorld ι :=
  ⟨w,fun i => CreateMessageHandler.execute (ambs i) { base with deletedForUserIds := shadows i }⟩

def AllEnded {α : Type} (c : Pool ChatRequest Failure α ChatWorld ι) : Prop :=
  ∀ i, (∃ a, c.threads i = .done a) ∨ ∃ e, c.threads i = .fail e

/-- The key has at most one row and one event for each row; a send that has returned has
    returned the one row. -/
def SentOnce (key : ClientKey) (c : Pool ChatRequest Failure LoadedMessage ChatWorld ι) : Prop :=
  Settled key c.state ∧ ∀ i saved, c.threads i = .done saved →
    keyRows key c.state = [saved.message.id] ∧ keyEvents key c.state = [saved.message.id]

theorem send_compatible [DecidableEq ι] (base : CreateMessageCommand) (key : ClientKey)
    (injective : Function.Injective owns) (keyed : Keyed ConversationMember.id w.chat.members) :
    Pool.Compatible chatHandler (SendInv base key owns w)
      fun i => sendContract base key (owns i) := by
  intro i j other β q s holds first step
  exact (sendStep_keeps injective keyed holds step first).2 i other

/-- As long as every insert goes through, retries of one send store one row, announce it
    once, and all return it; when the checks pass, all of them return. -/
theorem message_sent_once [DecidableEq ι] {clientMessageId : JsString}
    (keyed : Keyed ConversationMember.id w.chat.members)
    (seats : Keyed ConversationMember.seat w.chat.members)
    (sender : ∃ r ∈ w.chat.members, r.id = memberId ∧
      r.seat = (base.conversationId, base.senderId))
    (given : base.clientMessageId = some clientMessageId) (nonblank : trim clientMessageId ≠ [])
    (injective : Function.Injective fun i => (ambs i).uuid 0)
    (fresh : ∀ i, (ambs i).uuid 0 ∉ w.chat.messages.map Message.id)
    (start : Settled (base.clientKey memberId) w) (schedule : List ι)
    (ended : AllEnded ((sendPool base shadows ambs w).run chatHandler schedule))
    (first : (sendPool base shadows ambs w).Respects chatHandler
      (fun e => e.request.insertsFirst e.before = true) schedule) :
    SentOnce (base.clientKey memberId) ((sendPool base shadows ambs w).run chatHandler schedule) ∧
      (Accepts base (base.clientKey memberId) w →
        ∀ i, ∃ saved, ((sendPool base shadows ambs w).run chatHandler schedule).threads i =
          .done saved) := by
  have sound : (sendPool base shadows ambs w).Sound chatHandler
      (SendInv base (base.clientKey memberId) (fun i => (ambs i).uuid 0) w)
      (fun i => sendContract base (base.clientKey memberId) ((ambs i).uuid 0))
      (fun i => SendPost base (base.clientKey memberId) ((ambs i).uuid 0) w) :=
    ⟨⟨rfl,Or.inl start,id⟩,fun i =>
      meets_send (shadows i) injective keyed seats sender given nonblank rfl (fresh i)⟩
  obtain ⟨final,_⟩ := Pool.sound_run
    (send_compatible base (base.clientKey memberId) injective keyed) sound schedule first
  have settled : Settled (base.clientKey memberId)
      ((sendPool base shadows ambs w).run chatHandler schedule).state := by
    rcases final.1.accounted with settled | ⟨silent,i,rows⟩
    · exact settled
    · rcases ended i with ⟨saved,done⟩ | ⟨e,failed⟩
      · exact absurd silent ((final.post_done done).2 rows)
      · exact absurd rows (final.post_fail failed).1
  refine ⟨⟨settled,fun i saved done => ?_⟩,fun accepts i => ?_⟩
  · have rows := (final.post_done done).1
    exact ⟨rows,settled.1.trans rows⟩
  · rcases ended i with done | ⟨e,failed⟩
    · exact done
    · exact absurd accepts (final.post_fail failed).2

end Pool

/-- A direct conversation of the users 1 and 2, without messages. -/
def pairWorld : ChatWorld :=
  { users := { users := [], blocks := [], published := [] }
    chat :=
      { conversations := [⟨100,.direct,none,none,none,1000,none⟩]
        members := [⟨101,1,100,none,none,1000,none⟩,⟨102,2,100,none,none,1000,none⟩]
        messages := []
        deletedMessages := [] }
    published := []
    emitted := [] }

def hello : CreateMessageCommand :=
  { text := [104, 105], type := .text, senderId := 1, conversationId := 100,
    deletedForUserIds := [], replyToMessageId := none, clientMessageId := some [107] }

def sendDraws (second : Bool) : Ambient :=
  { now := if second then 2000 else 1000, uuid := fun k => if second then 220 + k else 210 + k,
    salt := fun _ => 0, usernames := [] }

theorem sendDraws_injective : Function.Injective fun i => (sendDraws i).uuid 0 := by
  intro i j
  cases i <;> cases j <;> decide

/-- A retry that has begun before the first send, and looks the key up before its event. -/
theorem message_sent_once_overlapping :
    SentOnce (hello.clientKey 101) ((sendPool hello (fun _ => []) sendDraws pairWorld).run
      chatHandler [true,false,false,false,false,true,true,false]) :=
  (message_sent_once (by decide) (by decide) ⟨⟨101,1,100,none,none,1000,none⟩,by decide,rfl,rfl⟩
    rfl (by decide) sendDraws_injective (by intro i; cases i <;> decide) ⟨rfl,by decide⟩ _
    (by intro i; cases i <;> exact Or.inl ⟨_,rfl⟩) (by decide)).1

/-- Both sends look the key up before either of them inserts it. -/
theorem message_announced_twice :
    AllEnded ((sendPool hello (fun _ => []) sendDraws pairWorld).run chatHandler
        [false,false,true,true,false,false,false,true,true,true,true,true]) ∧
      ¬ SentOnce (hello.clientKey 101) ((sendPool hello (fun _ => []) sendDraws pairWorld).run
        chatHandler [false,false,true,true,false,false,false,true,true,true,true,true]) := by
  constructor
  · intro i
    cases i <;> exact Or.inl ⟨_,rfl⟩
  · rintro ⟨⟨events,_⟩,_⟩
    exact absurd events (by decide)

end Chatterbox
