import Chatterbox.Chat.Pointers
import Chatterbox.Concurrency.OwnPast

/-!
Sends under one client key that do not carry the same payload. The lookup of the key
compares the texts and nothing else, and a send that loses the race for the key is handed
the row of the winner without any comparison.
-/
namespace Chatterbox
open Concurrency Tables ConversationPostgresRepository

/-- What a client can vary under one key. -/
structure Payload where
  text : JsString
  replyToMessageId : Option Uuid
  deriving DecidableEq, Repr

def CreateMessageCommand.carrying (base : CreateMessageCommand) (payload : Payload)
    (shadow : List Uuid) : CreateMessageCommand :=
  { base with
    text := payload.text, replyToMessageId := payload.replyToMessageId
    deletedForUserIds := shadow }

def payloadPool {ι : Type} (base : CreateMessageCommand) (payloads : ι → Payload)
    (shadows : ι → List Uuid) (ambs : ι → Ambient) (w : ChatWorld) :
    Pool ChatRequest Failure LoadedMessage ChatWorld ι :=
  ⟨w,fun i => CreateMessageHandler.execute (ambs i) (base.carrying (payloads i) (shadows i))⟩

/-- The statement that looks for a message by its client key. -/
def ChatRequest.looksUp : {β : Type} → ChatRequest β → Bool
  | _, .store (.getMessageByKey _ _ _) => true
  | _, _ => false

section Payloads
variable {ι : Type} (key : ClientKey) (sent : Uuid → Payload) (payloads : ι → Payload)

/-- Whoever is handed a message has sent its payload. Whoever has met a message of another
    payload under the key is refused for the conflict. -/
structure ConflictsCaught (trace : List (Issued ChatRequest ChatWorld ι))
    (c : Pool ChatRequest Failure LoadedMessage ChatWorld ι) : Prop where
  returned : ∀ i saved, c.threads i = .done saved → sent saved.message.id = payloads i
  refused : ∀ e ∈ trace, ∀ m ∈ e.before.chat.messages, m.clientKey = key →
    sent m.id ≠ payloads e.thread → (∀ saved, c.threads e.thread ≠ .done saved) ∧
      ∀ err, c.threads e.thread = .fail err → err = idempotencyConflictException none

/-- The two ways in which a payload escapes the comparison are not taken: after the lookup of
    a send nobody stores another payload while that send is still under way, and a message
    that the lookup finds with the text of the request has been sent with this text and
    quotes what the request quotes. -/
structure Comparable (trace : List (Issued ChatRequest ChatWorld ι)) : Prop where
  alone : trace.Pairwise fun find e => find.thread = e.thread → find.request.looksUp = true →
    ∀ m ∈ e.before.chat.messages, m.clientKey = key →
      m.id ∈ keyRows key find.before ∨ sent m.id = payloads e.thread
  unedited : ∀ find ∈ trace, find.request.looksUp = true →
    ∀ m ∈ find.before.chat.messages, m.clientKey = key → m.text = (payloads find.thread).text →
      (sent m.id).text = m.text ∧
        m.replyToMessageId = (payloads find.thread).replyToMessageId

end Payloads

/-- What holds between any two steps. The unique index leaves one row to the key, and no
    row ever changes what it quotes. -/
structure KeyInv (key : ClientKey) (sent : Uuid → Payload) (start db : ChatDatabase) : Prop where
  alike : db.Alike start
  one : ∀ m ∈ db.messages, ∀ m' ∈ db.messages, m.clientKey = key → m'.clientKey = key →
    m.id = m'.id
  quotes : ∀ m ∈ db.messages, m.clientKey = key →
    m.replyToMessageId = (sent m.id).replyToMessageId

theorem mem_keyRows {key : ClientKey} {w : ChatWorld} {id : Uuid} :
    id ∈ keyRows key w ↔ ∃ m ∈ w.chat.messages, m.clientKey = key ∧ m.id = id := by
  simp [keyRows, and_assoc]

/-- A row of the key stays a row of the key. -/
def keyCourse (key : ClientKey) (sent : Uuid → Payload) (start : ChatDatabase) :
    Course ChatRequest ChatWorld where
  handler := chatHandler
  inv s := KeyInv key sent start s.chat
  moves s t := keyRows key s ⊆ keyRows key t
  moves_refl _ := List.Subset.refl _
  moves_trans := List.Subset.trans

section Thread
variable {ι α : Type} {key : ClientKey} {sent : Uuid → Payload} {start : ChatDatabase}
  {payload : Payload} {i : ι} {past : List (Issued ChatRequest ChatWorld ι)}

/-- What the schedule admits at a step of a send. -/
structure Admitted (key : ClientKey) (sent : Uuid → Payload) (payload : Payload)
    (past : List (Issued ChatRequest ChatWorld ι)) (e : Issued ChatRequest ChatWorld ι) : Prop where
  alone : ∀ find ∈ past, find.request.looksUp = true →
    ∀ m ∈ e.before.chat.messages, m.clientKey = key →
      m.id ∈ keyRows key find.before ∨ sent m.id = payload
  unedited : e.request.looksUp = true → ∀ m ∈ e.before.chat.messages, m.clientKey = key →
    m.text = payload.text →
      (sent m.id).text = m.text ∧ m.replyToMessageId = payload.replyToMessageId

/-- The send has met no message of another payload. -/
def MetOwn (key : ClientKey) (sent : Uuid → Payload) (payload : Payload)
    (past : List (Issued ChatRequest ChatWorld ι)) : Prop :=
  ∀ e ∈ past, ∀ m ∈ e.before.chat.messages, m.clientKey = key → sent m.id = payload

/-- The send has looked the key up in vain. -/
structure Missed (key : ClientKey) (sent : Uuid → Payload) (payload : Payload)
    (past : List (Issued ChatRequest ChatWorld ι)) : Prop where
  lookup : ∃ find ∈ past, find.request.looksUp = true ∧ keyRows key find.before = []
  own : MetOwn key sent payload past

/-- The result of a send against the messages it has met. -/
structure Caught (key : ClientKey) (sent : Uuid → Payload) (payload : Payload)
    (past : List (Issued ChatRequest ChatWorld ι)) (r : Except Failure LoadedMessage) : Prop where
  returned : ∀ saved, r = .ok saved → sent saved.message.id = payload
  refused : ¬ MetOwn key sent payload past → r = .error (idempotencyConflictException none)

abbrev FollowsKey (key : ClientKey) (sent : Uuid → Payload) (start : ChatDatabase)
    (payload : Payload) (i : ι)
    (post : List (Issued ChatRequest ChatWorld ι) → Except Failure α → Prop)
    (past : List (Issued ChatRequest ChatWorld ι)) (p : ChatProgram α) : Prop :=
  p.Follows (keyCourse key sent start) (Admitted key sent payload) i post past

theorem keeps_of_reads {β : Type} {q : ChatRequest β} (reads : q.writes = false) (s : ChatWorld)
    (hs : KeyInv key sent start s.chat) :
    KeyInv key sent start (chatHandler.answer q s).2.chat ∧
      keyRows key s ⊆ keyRows key (chatHandler.answer q s).2 := by
  have same := chat_of_reads reads s
  unfold keyRows
  rw [same]
  exact ⟨hs,List.Subset.refl _⟩

theorem Missed.carries {e : Issued ChatRequest ChatWorld ι}
    (missed : Missed key sent payload past) (admitted : Admitted key sent payload past e) :
    Missed key sent payload (past ++ [e]) := by
  obtain ⟨⟨find,mem,looks,none⟩,own⟩ := missed
  constructor
  · exact ⟨find,List.mem_append_left _ mem,looks,none⟩
  · intro f memf m stored is
    rcases List.mem_append.mp memf with old | new
    · exact own f old m stored is
    · rw [List.mem_singleton.mp new] at stored
      have found := admitted.alone find mem looks m stored is
      rw [none] at found
      simpa using found

theorem Missed.caught {r : Except Failure LoadedMessage} (missed : Missed key sent payload past)
    (returned : ∀ saved, r = .ok saved → sent saved.message.id = payload) :
    Caught key sent payload past r :=
  ⟨returned,fun met => absurd missed.own met⟩

/-- A statement that only reads. -/
theorem follows_read {β : Type} {q : StoreRequest (Answer β)} {read : ChatDatabase → β}
    {post : List (Issued ChatRequest ChatWorld ι) → Except Failure α → Prop}
    {f : β → ChatProgram α} (reads : q.Reads read)
    (next : ∀ s : ChatWorld, KeyInv key sent start s.chat →
      (∀ e ∈ past, keyRows key e.before ⊆ keyRows key s) →
      Admitted key sent payload past ⟨i,_,.store q,s⟩ →
      FollowsKey key sent start payload i post (past ++ [⟨i,_,.store q,s⟩]) (f (read s.chat))) :
    FollowsKey key sent start payload i post past (query q >>= f) := by
  intro s hs moved admitted
  have answered : (keyCourse key sent start).handler.answer (.store q) s =
      (.ok (read s.chat), s) := by
    change chatHandler.answer (.store q) s = _
    simp [chatHandler, ChatWorld.answer, reads s.chat]
  rw [answered]
  exact ⟨hs,List.Subset.refl _,next s hs moved admitted⟩

/-- Once the key has been missed, a program that does not write changes nothing of that. -/
theorem follows_quiet {p : ChatProgram α} (quiet : Quiet p)
    (missed : Missed key sent payload past) :
    FollowsKey key sent start payload i (fun past _ => Missed key sent payload past) past p := by
  apply quiet.follows
  · intro β q s reads hs
    exact keeps_of_reads reads s hs
  · intro past e missed _ admitted
    exact missed.carries admitted
  · exact missed

/-- The transaction of a send leaves the key at one row, and whatever row it had. -/
theorem keeps_commit (message : Message) (deleted : List DeletedMessage)
    {members : List ConversationMember} {s : ChatWorld}
    (keyed : Keyed ConversationMember.id start.members) (hs : KeyInv key sent start s.chat)
    (has : message.clientKey = key) (given : message.clientMessageId.isSome)
    (quotes : message.replyToMessageId = (sent message.id).replyToMessageId)
    (known : ∀ c ∈ members, ∃ r ∈ s.chat.members, r.identity = c.identity) :
    KeyInv key sent start
        (chatHandler.answer (.store (.commitMessage message deleted members)) s).2.chat ∧
      keyRows key s ⊆
        keyRows key (chatHandler.answer (.store (.commitMessage message deleted members)) s).2 := by
  change KeyInv key sent start (s.chat.storeMessage message deleted members).2 ∧
    keyRows key s ⊆ keyRows key { s with chat := (s.chat.storeMessage message deleted members).2 }
  cases stores : s.chat.storeMessage message deleted members with
  | mk answered stored =>
    cases answered with
    | error e =>
      rw [s.chat.storeMessage_error stores]
      exact ⟨hs,List.Subset.refl _⟩
    | ok a =>
      obtain ⟨free,_,rfl⟩ := s.chat.storeMessage_ok stores
      obtain ⟨k,is⟩ := Option.isSome_iff_exists.mp given
      -- any other row of the key would have stopped the insert
      have other : ∀ m ∈ s.chat.messages, m.clientKey = key → m.id = message.id := by
        intro m mem holds
        by_contra differs
        exact free k is m mem differs (holds.trans has.symm)
      have id : ∀ m ∈ save Message.id message s.chat.messages, m.clientKey = key →
          m.id = message.id := by
        intro m mem holds
        rcases mem_save.mp mem with rfl | ⟨old,_⟩
        · rfl
        · exact other m old holds
      constructor
      · constructor
        · constructor
          · exact hs.alike.conversations
          · rw [← hs.alike.members]
            exact identity_saveAll (keyed_of_identity hs.alike.members keyed) known
        · intro m mem m' mem' holds holds'
          rw [id m mem holds, id m' mem' holds']
        · intro m mem holds
          rcases mem_save.mp mem with rfl | ⟨old,_⟩
          · exact quotes
          · exact hs.quotes m old holds
      · intro row mem
        obtain ⟨m,old,holds,rfl⟩ := mem_keyRows.mp mem
        apply mem_keyRows.mpr
        exact ⟨message,mem_save.mpr (Or.inl rfl),has,(other m old holds).symm⟩

/-- The member rows that a send has read are still those of the table, but for pointers. -/
theorem rows_known {s t : ChatDatabase} (hs : s.Alike start) (ht : t.Alike start)
    (message : MessageEntity) :
    ∀ c ∈ (s.membersOf message.conversationId).map message.updateMember,
      ∃ r ∈ t.members, r.identity = c.identity := by
  intro c mem
  obtain ⟨r,memr,rfl⟩ := List.mem_map.mp mem
  have known : r.identity ∈ t.members.map ConversationMember.identity := by
    rw [ht.members, ← hs.members]
    exact List.mem_map_of_mem (ChatDatabase.membersOf_iff.mp memr).1
  exact List.mem_map.mp known

section Insert
variable {message : MessageEntity} (keyed : Keyed ConversationMember.id start.members)
  (has : (Message.fromDomain message).clientKey = key) (given : message.clientMessageId.isSome)
  (own : sent message.id = payload) (quotes : message.replyToMessageId = payload.replyToMessageId)

include keyed has given own quotes in
theorem follows_insertMessage (missed : Missed key sent payload past) :
    FollowsKey key sent start payload i
      (fun past r => Missed key sent payload past ∧
        ∀ saved, r = .ok saved → sent saved.message.id = payload)
      past (insertMessage message) := by
  unfold insertMessage
  apply follows_read (fun _ => rfl)
  intro s hs _ admitted
  have missed := missed.carries admitted
  intro t ht _ admitted'
  have missed' := missed.carries admitted'
  have keeps := keeps_commit (Message.fromDomain message)
    (message.deletedForUserIds.map fun userId => ⟨userId,message.id⟩) keyed ht has given
    (quotes.trans (congrArg Payload.replyToMessageId own).symm) (rows_known hs.alike ht.alike message)
  refine ⟨keeps.1,keeps.2,?_⟩
  generalize ((keyCourse key sent start).handler.answer _ t).1 = answered
  cases answered with
  | error e => exact ⟨missed',by simp⟩
  | ok a =>
    refine ⟨missed',fun saved is => ?_⟩
    cases is
    simpa [Message.toDomain, Message.fromDomain] using own

/-- After a violation of the unique index nothing is compared, so it is the schedule that
    answers for the payload of the row. -/
theorem follows_recoverExisting (has : (Message.fromDomain message).clientKey = key) (e : Failure)
    (missed : Missed key sent payload past) :
    FollowsKey key sent start payload i
      (fun past r => Missed key sent payload past ∧
        ∀ saved, r = .ok saved → sent saved.message.id = payload)
      past (recoverExisting message e) := by
  unfold recoverExisting
  split
  · rename_i k code is
    simp only [getMessageByClientMessageId, Program.bind_assoc, loadDeletions_bind]
    apply follows_read (fun _ => rfl)
    intro s _ _ admitted
    have missed := missed.carries admitted
    cases found : lookup Message.clientKey (message.conversationId, message.senderId, some k)
        s.chat.messages with
    | none => exact ⟨missed,by simp⟩
    | some m =>
      obtain ⟨stored,holds⟩ := lookup_mem found
      have same : m.clientKey = key := by
        rw [holds, ← has, ← is]
        rfl
      have own : sent m.id = payload := 
        missed.own _ (List.mem_append_right _ List.mem_cons_self) m stored same
      simp only [Option.map_some, ChatDatabase.withReply]
      apply follows_read (fun _ => rfl)
      intro t _ _ admitted'
      refine ⟨missed.carries admitted',fun saved is => ?_⟩
      cases is
      simpa [LoadedMessage.ofRows, Message.toDomain] using own
  · exact ⟨missed,by simp⟩

include keyed has given own quotes in
theorem follows_saveMessage (missed : Missed key sent payload past) :
    FollowsKey key sent start payload i
      (fun past r => Missed key sent payload past ∧
        ∀ saved, r = .ok saved → sent saved.message.id = payload)
      past (saveMessage message) := by
  have inserted := follows_insertMessage (i := i) keyed has given own quotes missed
  apply inserted.tryCatch
  · exact fun past a done => done
  · intro past e failed
    exact follows_recoverExisting has e failed.1

end Insert

variable {w : ChatWorld} {base : CreateMessageCommand} {shadow : List Uuid} {amb : Ambient}
  {member : ConversationMember}

theorem follows_create (reply : Option LoadedMessage)
    (keyed : Keyed ConversationMember.id start.members) (own : sent (amb.uuid 0) = payload)
    (present : base.clientMessageId.isSome) (is : base.clientKey member.id = key)
    (missed : Missed key sent payload past) :
    FollowsKey key sent start payload i (Caught key sent payload) past
      (CreateMessageHandler.create amb (base.carrying payload shadow) member.toDomain reply) := by
  unfold CreateMessageHandler.create
  cases built : MessageEntity.create amb (base.carrying payload shadow).text
      (base.carrying payload shadow).type member.toDomain.id
      (base.carrying payload shadow).conversationId
      (base.carrying payload shadow).deletedForUserIds
      (base.carrying payload shadow).replyToMessageId
      (base.carrying payload shadow).clientMessageId with
  | error e => exact missed.caught (by simp)
  | ok created =>
    obtain ⟨_,k,valid,rfl⟩ := MessageEntity.create_ok built
    obtain ⟨rfl,_⟩ := MessageEntity.validateClientMessageId_ok valid
    obtain ⟨raw,given⟩ := Option.isSome_iff_exists.mp present
    have trimmed : (base.carrying payload shadow).clientMessageId.map trim = some (trim raw) := by
      change base.clientMessageId.map trim = _
      rw [given, Option.map_some]
    rw [trimmed]
    simp only [Program.lift_ok, Program.done_bind]
    apply (follows_saveMessage keyed ?_ rfl own rfl missed).bind
    · intro past saved stored
      obtain ⟨missed,returned⟩ := stored
      have own := returned saved rfl
      intro s hs _ admitted
      obtain ⟨kept,within⟩ := keeps_of_reads (show ChatRequest.writes (.bus (.publish _)) = false from rfl)
        s hs
      refine ⟨kept,within,?_⟩
      have missed := missed.carries admitted
      cases reply with
      | none => exact missed.caught fun _ is => by cases is; exact own
      | some reply => exact missed.caught fun _ is => by cases is; exact own
    · intro past e failed
      exact failed.1.caught (by simp)
    · rw [← is, CreateMessageCommand.clientKey, given]
      rfl

/-- The part of a send that follows the check of its sender. -/
theorem follows_lookup (keyed : Keyed ConversationMember.id start.members)
    (own : sent (amb.uuid 0) = payload) (nonblank : trim (base.clientMessageId.getD []) ≠ [])
    (is : base.clientKey member.id = key) :
    FollowsKey key sent start payload i (Caught key sent payload) past
      (CreateMessageHandler.findExisting (base.carrying payload shadow) member.toDomain >>=
        fun existing => match existing with
          | some existing =>
              if existing.message.text ≠ (base.carrying payload shadow).text then
                throw (idempotencyConflictException none)
              else pure existing
          | none => do
              let reply ← CreateMessageHandler.loadReply (base.carrying payload shadow)
              CreateMessageHandler.create amb (base.carrying payload shadow) member.toDomain
                reply) := by
  obtain ⟨k,given⟩ : ∃ k, base.clientMessageId = some k := by
    cases given : base.clientMessageId with
    | none => simp [given, trim] at nonblank
    | some k => exact ⟨k,rfl⟩
  rw [given, Option.getD_some] at nonblank
  rw [CreateMessageCommand.clientKey, given, Option.getD_some] at is
  have given' : (base.carrying payload shadow).clientMessageId = some k := given
  rw [CreateMessageHandler.findExisting_given given' nonblank]
  simp only [getMessageByClientMessageId, Program.bind_assoc, loadDeletions_bind]
  apply follows_read (fun _ => rfl)
  intro s hs moved admitted
  let find : Issued ChatRequest ChatWorld ι :=
    ⟨i,_,.store (.getMessageByKey (base.carrying payload shadow).conversationId
      member.toDomain.id (trim k)),s⟩
  -- what the send has met under the key so far is still there
  have met : ∀ e ∈ past ++ [find], ∀ m ∈ e.before.chat.messages, m.clientKey = key →
      ∃ m' ∈ s.chat.messages, m'.clientKey = key ∧ m'.id = m.id := by
    intro e mem m stored holds
    rcases List.mem_append.mp mem with old | new
    · exact mem_keyRows.mp (moved e old (mem_keyRows.mpr ⟨m,stored,holds,rfl⟩))
    · rw [List.mem_singleton.mp new] at stored
      exact ⟨m,stored,holds,rfl⟩
  cases found : lookup Message.clientKey ((base.carrying payload shadow).conversationId,
      member.toDomain.id, some (trim k)) s.chat.messages with
  | none =>
    have free : ∀ m ∈ s.chat.messages, m.clientKey ≠ key := by
      rw [← is]
      exact lookup_none_iff.mp found
    have missed : Missed key sent payload (past ++ [find]) := by
      constructor
      · exact ⟨find,by simp,rfl,keyRows_nil free⟩
      · intro e mem m stored holds
        obtain ⟨m',stored',holds',_⟩ := met e mem m stored holds
        exact absurd holds' (free m' stored')
    apply (follows_quiet (plain_loadReply _).quiet missed).bind
    · intro past reply missed
      exact follows_create reply keyed own (by simp [given])
        (by rw [CreateMessageCommand.clientKey, given, Option.getD_some, is]) missed
    · intro past e missed
      exact missed.caught (by simp)
  | some m =>
    obtain ⟨stored,holds⟩ := lookup_mem found
    have holds : m.clientKey = key := holds.trans is
    simp only [Option.map_some, ChatDatabase.withReply]
    apply follows_read (fun _ => rfl)
    intro t _ _ admitted'
    have text : ∀ reply deleted, (LoadedMessage.ofRows m reply deleted).message.text = m.text :=
      fun _ _ => MessageEntity.loadDeletedForUserIds_text ..
    simp only [text]
    by_cases differs : m.text ≠ payload.text
    · have refused : m.text ≠ (base.carrying payload shadow).text := differs
      rw [if_pos refused]
      exact ⟨by simp,fun _ => rfl⟩
    · have accepted : ¬ m.text ≠ (base.carrying payload shadow).text := differs
      rw [if_neg accepted]
      rw [not_not] at differs
      obtain ⟨same,quotes⟩ := admitted.unedited rfl m stored holds differs
      rw [hs.quotes m stored holds] at quotes
      have equal : sent m.id = payload := by
        rw [differs] at same
        exact congrArg₂ Payload.mk same quotes
      have row : ∀ m' ∈ s.chat.messages, m'.clientKey = key → sent m'.id = payload := by
        intro m' stored' holds'
        rw [hs.one m' stored' m stored holds' holds]
        exact equal
      refine ⟨fun saved is => ?_,fun foreign => absurd ?_ foreign⟩
      · cases is
        simpa [LoadedMessage.ofRows, Message.toDomain] using equal
      · intro e mem m' stored' holds'
        rcases List.mem_append.mp mem with old | new
        · obtain ⟨m₀,stored₀,holds₀,id⟩ := met e old m' stored' holds'
          rw [← id]
          exact row m₀ stored₀ holds₀
        · rw [List.mem_singleton.mp new] at stored'
          rcases admitted'.alone find
              (List.mem_append_right _ List.mem_cons_self) rfl m' stored' holds' with before | same
          · obtain ⟨m₀,stored₀,holds₀,id⟩ := mem_keyRows.mp before
            rw [← id]
            exact row m₀ stored₀ holds₀
          · exact same

/-- One send of the pool. -/
theorem follows_send (keyed : Keyed ConversationMember.id start.members)
    (seat : start.conversationMember base.conversationId base.senderId = .ok member)
    (own : sent (amb.uuid 0) = payload) (nonblank : trim (base.clientMessageId.getD []) ≠ [])
    (is : base.clientKey member.id = key) :
    FollowsKey key sent start payload i (Caught key sent payload) []
      (CreateMessageHandler.execute amb (base.carrying payload shadow)) := by
  unfold CreateMessageHandler.execute
  rw [requireMember_bind]
  apply follows_read (fun _ => rfl)
  intro s hs _ _
  obtain ⟨row,here,id⟩ := ChatDatabase.conversationMember_alike
    ⟨hs.alike.1.symm,hs.alike.2.symm⟩ seat
  unfold ChatDatabase.conversationMember at here
  cases loaded : s.chat.getConversation base.conversationId with
  | none => simp [loaded] at here
  | some rows =>
    cases found : rows.2.find? (fun m => m.userId = base.senderId) with
    | none => simp [loaded, found] at here
    | some row' =>
      simp only [loaded, found, Except.ok.injEq] at here
      subst here
      have loaded' : s.chat.getConversation (base.carrying payload shadow).conversationId =
          some rows := loaded
      have found' : rows.2.find?
          (fun m => m.userId = (base.carrying payload shadow).senderId) = some row' := found
      simp only [loaded', found']
      exact follows_lookup keyed own nonblank (by rw [id, is])

end Thread

section Pool
variable {ι : Type} [DecidableEq ι] {base : CreateMessageCommand} {payloads : ι → Payload}
  {shadows : ι → List Uuid} {ambs : ι → Ambient} {w : ChatWorld} {sent : Uuid → Payload}
  {member : ConversationMember}

/-- Sends of one key in any order of their steps: as long as no payload escapes the
    comparison, whoever is handed a message has sent its payload, and whoever comes with
    another one is refused. -/
theorem conflicts_caught (keyed : Keyed ConversationMember.id w.chat.members)
    (seat : w.chat.conversationMember base.conversationId base.senderId = .ok member)
    (nonblank : trim (base.clientMessageId.getD []) ≠ [])
    (unique : ∀ m ∈ w.chat.messages, ∀ m' ∈ w.chat.messages,
      m.clientKey = base.clientKey member.id → m'.clientKey = base.clientKey member.id → m.id = m'.id)
    (history : ∀ m ∈ w.chat.messages, m.clientKey = base.clientKey member.id →
      m.replyToMessageId = (sent m.id).replyToMessageId)
    (own : ∀ i, sent ((ambs i).uuid 0) = payloads i) (schedule : List ι)
    (comparable : Comparable (base.clientKey member.id) sent payloads
      ((payloadPool base payloads shadows ambs w).trace chatHandler schedule)) :
    ConflictsCaught (base.clientKey member.id) sent payloads
      ((payloadPool base payloads shadows ambs w).trace chatHandler schedule)
      ((payloadPool base payloads shadows ambs w).run chatHandler schedule) := by
  have start : KeyInv (base.clientKey member.id) sent w.chat w.chat := ⟨⟨rfl,rfl⟩,unique,history⟩
  have threads : ∀ i, ((payloadPool base payloads shadows ambs w).threads i).Follows
      (keyCourse (base.clientKey member.id) sent w.chat)
      (Admitted (base.clientKey member.id) sent (payloads i)) i
      (Caught (base.clientKey member.id) sent (payloads i)) [] :=
    fun i => follows_send keyed seat (own i) nonblank rfl
  have final : Pool.Followed (keyCourse (base.clientKey member.id) sent w.chat)
      (fun i => Admitted (base.clientKey member.id) sent (payloads i))
      (fun i => Caught (base.clientKey member.id) sent (payloads i))
      ((payloadPool base payloads shadows ambs w).trace chatHandler schedule)
      ((payloadPool base payloads shadows ambs w).run chatHandler schedule) := by
    apply Pool.followed_run start threads schedule
    intro before e later cut
    have alone := comparable.alone
    have cut' : (payloadPool base payloads shadows ambs w).trace chatHandler schedule =
      before ++ e :: later := cut
    rw [cut'] at alone
    constructor
    · intro find mem
      obtain ⟨earlier,thread⟩ := List.mem_filter.mp mem
      exact (List.pairwise_append.mp alone).2.2 find earlier e List.mem_cons_self
        (of_decide_eq_true thread)
    · exact comparable.unedited e (by simp [cut'])
  constructor
  · intro i saved done
    exact ((final.ended i).1 saved done).returned saved rfl
  · intro e mem m stored holds foreign
    have met : ¬ MetOwn (base.clientKey member.id) sent (payloads e.thread)
        (Pool.ownSteps e.thread
          ((payloadPool base payloads shadows ambs w).trace chatHandler schedule)) :=
      fun own => foreign (own e (List.mem_filter.mpr ⟨mem,decide_eq_true rfl⟩) m stored holds)
    constructor
    · intro saved done
      cases ((final.ended e.thread).1 saved done).refused met
    · intro err failed
      cases ((final.ended e.thread).2 err failed).refused met
      rfl

end Pool
/-- The message 200, the first send, and the second, each with what it was sent with. -/
def sentWith (payloads : Bool → Payload) (id : Uuid) : Payload :=
  if id = 210 then payloads false
  else if id = 220 then payloads true
  else ⟨[104, 105],none⟩

/-- The second send of the key has another text. -/
def otherText (second : Bool) : Payload := ⟨if second then [110, 111] else [104, 105],none⟩

/-- The second send of the key quotes the message 200. -/
def otherQuote (second : Bool) : Payload := ⟨[104, 105],if second then some 200 else none⟩

/-- The second send has begun before the first, and looks the key up before its event. -/
theorem conflicts_caught_overlapping :
    ConflictsCaught (hello.clientKey 101) (sentWith otherText) otherText
      ((payloadPool hello otherText (fun _ => []) sendDraws sentWorld).trace chatHandler
        [true,false,false,false,false,true,true,false])
      ((payloadPool hello otherText (fun _ => []) sendDraws sentWorld).run chatHandler
        [true,false,false,false,false,true,true,false]) :=
  have seat : sentWorld.chat.conversationMember hello.conversationId hello.senderId =
    .ok ⟨101,1,100,some 200,some 200,1000,none⟩ := rfl
  have own : ∀ i, sentWith otherText ((sendDraws i).uuid 0) = otherText i := by decide
  conflicts_caught (by decide) seat (by decide) (by decide) (by decide) own _
    ⟨by decide,by decide⟩

/-- The text is compared, the quoted message is not; and when both sends look the key up
    before either stores its message, nothing is compared at all. -/
theorem conflicts_missed :
    ¬ ConflictsCaught (hello.clientKey 101) (sentWith otherQuote) otherQuote
        ((payloadPool hello otherQuote (fun _ => []) sendDraws sentWorld).trace chatHandler
          [false,false,false,false,false,true,true,true])
        ((payloadPool hello otherQuote (fun _ => []) sendDraws sentWorld).run chatHandler
          [false,false,false,false,false,true,true,true]) ∧
      ¬ ConflictsCaught (hello.clientKey 101) (sentWith otherText) otherText
        ((payloadPool hello otherText (fun _ => []) sendDraws sentWorld).trace chatHandler
          [false,false,true,true,false,false,false,true,true,true,true,true])
        ((payloadPool hello otherText (fun _ => []) sendDraws sentWorld).run chatHandler
          [false,false,true,true,false,false,false,true,true,true,true,true]) := by
  constructor
  · intro caught
    exact absurd (caught.returned true _ rfl) (by decide)
  · intro caught
    exact absurd (caught.returned true _ rfl) (by decide)

end Chatterbox
