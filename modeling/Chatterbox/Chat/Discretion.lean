import Chatterbox.Chat.Growth
import Chatterbox.Concurrency.Yields

/-!
Texts stay in their conversations, whatever goes on at once. What reaches a client was written
by a member of a conversation for a message of it, and the client's user is a member of that
conversation too.
-/
namespace Chatterbox
open Concurrency Tables ConversationPostgresRepository ChatUserIntegrationAdapter

/-- The text that an operation asks to store, with the message and the conversation that it is
    for. An edit is for a message of the conversation. -/
def ChatOperation.Writes (amb : Ambient) (db : ChatDatabase) (conversationId id : Uuid)
    (text : JsString) : ChatOperation → Prop
  | createConversation data =>
      conversationId = amb.uuid 0 ∧ id = amb.uuid 4 ∧ text = data.content
  | sendMessage data => conversationId = data.conversationId ∧ id = amb.uuid 0 ∧ text = data.text
  | editMessage data => conversationId = data.conversationId ∧ id = data.messageId ∧
      text = data.text ∧ db.Names conversationId (some id)
  | _ => False

section Texts
variable {ι : Type} (activities : ι → Activity) (ambs : ι → Ambient)

/-- A member of the conversation has written the text for this message. -/
def Penned (db : ChatDatabase) (conversationId id : Uuid) (text : JsString) : Prop :=
  ∃ i actor operation, activities i = .request actor operation ∧
    operation.Writes (ambs i) db conversationId id text ∧ db.Hosts conversationId actor

/-- Unless it is withheld or empty, the text was written in this conversation. -/
def Shows (db : ChatDatabase) (conversationId : Uuid) (shown : ShownText) : Prop :=
  ∀ text, shown.2 = some text → text ≠ [] →
    Penned activities ambs db conversationId shown.1 text

/-- The text was written in a conversation that the reader is a member of. -/
def MeantFor (db : ChatDatabase) (reader : Uuid) (shown : ShownText) : Prop :=
  ∃ conversationId, db.Hosts conversationId reader ∧
    Shows activities ambs db conversationId shown

/-- The message is stored in its conversation, and its text and the one it quotes were written
    there. -/
structure LoadedMessage.Genuine (db : ChatDatabase) (loaded : LoadedMessage) : Prop where
  stored : db.Names loaded.message.conversationId (some loaded.message.id)
  text : Shows activities ambs db loaded.message.conversationId
    (loaded.message.id, some loaded.message.text)
  quoted : ∀ parent, loaded.replyToMessage = some parent →
    Shows activities ambs db loaded.message.conversationId (parent.id, some parent.text)

def MessageEvent.Genuine (db : ChatDatabase) : MessageEvent → Prop
  | created event => Penned activities ambs db event.conversationId event.messageId event.text ∧
      db.Names event.conversationId event.replyToMessageId
  | edited event => Penned activities ambs db event.conversationId event.messageId event.text
  | deleted _ => True

/-- The event tells the users of these rooms nothing of other conversations. -/
def Tells (db : ChatDatabase) (rooms : List Uuid) (event : WsEvent) : Prop :=
  ∀ room ∈ rooms, ∀ shown ∈ event.texts, MeantFor activities ambs db room shown

/-- What an activity commits to: texts go where they were written. -/
def ChatRequest.Discreet : {β : Type} → ChatRequest β → ChatDatabase → Prop
  | _, .store (.commitMessage message _ _), db =>
      Penned activities ambs db message.conversationId message.id message.text
  | _, .store (.updateMessage id text _ _), db =>
      ∃ conversationId, db.Names conversationId (some id) ∧
        Penned activities ambs db conversationId id text
  | _, .bus (.publish event), db => event.Genuine activities ambs db
  | _, .bus (.broadcast rooms event), db => Tells activities ambs db rooms event
  | _, _, _ => True

/-- All texts are where they were written. -/
structure Discretion (s : ChatWorld) : Prop where
  confined : s.chat.Confined
  texts : ∀ m ∈ s.chat.messages,
    Penned activities ambs s.chat m.conversationId m.id m.text
  events : ∀ event ∈ s.published, event.Genuine activities ambs s.chat
  heard : ∀ b ∈ s.emitted, Tells activities ambs s.chat b.rooms b.event

variable {activities ambs}

section Later
variable {s t : ChatWorld} {conversationId id : Uuid} {text : JsString}

theorem Penned.later (penned : Penned activities ambs s.chat conversationId id text)
    (more : s.Extends t) : Penned activities ambs t.chat conversationId id text := by
  obtain ⟨i,actor,operation,is,writes,hosts⟩ := penned
  refine ⟨i,actor,operation,is,?_,hosts.later more.places⟩
  cases operation with
  | editMessage data =>
    obtain ⟨here,this,said,names⟩ := writes
    exact ⟨here,this,said,names.later more.origins⟩
  | _ => exact writes

theorem Shows.later {shown : ShownText} (fits : Shows activities ambs s.chat conversationId shown)
    (more : s.Extends t) : Shows activities ambs t.chat conversationId shown :=
  fun text is some => (fits text is some).later more

theorem MeantFor.later {reader : Uuid} {shown : ShownText}
    (reads : MeantFor activities ambs s.chat reader shown) (more : s.Extends t) :
    MeantFor activities ambs t.chat reader shown := by
  obtain ⟨conversationId,hosts,fits⟩ := reads
  exact ⟨conversationId,hosts.later more.places,fits.later more⟩

theorem LoadedMessage.Genuine.later {loaded : LoadedMessage}
    (genuine : loaded.Genuine activities ambs s.chat) (more : s.Extends t) :
    loaded.Genuine activities ambs t.chat :=
  ⟨genuine.stored.later more.origins,genuine.text.later more,
    fun parent is => (genuine.quoted parent is).later more⟩

theorem MessageEvent.Genuine.later {event : MessageEvent}
    (genuine : event.Genuine activities ambs s.chat) (more : s.Extends t) :
    event.Genuine activities ambs t.chat := by
  cases event with
  | created event => exact ⟨genuine.1.later more,genuine.2.later more.origins⟩
  | edited event => exact Penned.later genuine more
  | deleted event => trivial

theorem Tells.later {rooms : List Uuid} {event : WsEvent}
    (tells : Tells activities ambs s.chat rooms event) (more : s.Extends t) :
    Tells activities ambs t.chat rooms event :=
  fun room mem shown fits => (tells room mem shown fits).later more

theorem Penned.shows (penned : Penned activities ambs s.chat conversationId id text) :
    Shows activities ambs s.chat conversationId (id, some text) := by
  rintro _ ⟨⟩ _
  exact penned

theorem shows_nothing : Shows activities ambs s.chat conversationId (id, none) := by
  intro text is
  cases is

/-- The text of a message that is deleted for everyone is withheld, or left empty. -/
theorem Shows.withheld {deleted : Bool}
    (fits : Shows activities ambs s.chat conversationId (id, some text)) :
    Shows activities ambs s.chat conversationId (id, if deleted then none else some text) ∧
      Shows activities ambs s.chat conversationId (id, some (if deleted then [] else text)) := by
  cases deleted with
  | false => exact ⟨fits,fits⟩
  | true => exact ⟨shows_nothing,fun _ is other => absurd (Option.some.inj is).symm other⟩

end Later

section Step
variable {s : ChatWorld} {β : Type} {q : ChatRequest β}

/-- The messages after a statement: written before, or by the statement. -/
theorem texts_step (kept : Discretion activities ambs s)
    (discreet : q.Discreet activities ambs s.chat) :
    ∀ m ∈ (chatHandler.answer q s).2.chat.messages,
      Penned activities ambs s.chat m.conversationId m.id m.text := by
  cases q with
  | user q => exact kept.texts
  | bus q =>
    cases q with
    | publish event => exact kept.texts
    | broadcast rooms event =>
      change ∀ m ∈ (if rooms = [] then s else _ : ChatWorld).chat.messages, _
      split <;> exact kept.texts
  | store q =>
    cases q with
    | commitMessage message deleted members =>
      change ∀ m ∈ (s.chat.storeMessage message deleted members).2.messages, _
      cases stores : s.chat.storeMessage message deleted members with
      | mk r stored =>
        cases r with
        | error e =>
          rw [s.chat.storeMessage_error stores]
          exact kept.texts
        | ok u =>
          obtain ⟨_,_,rfl⟩ := s.chat.storeMessage_ok stores
          intro m mem
          rcases mem_save.mp mem with rfl | ⟨old,_⟩
          · exact discreet
          · exact kept.texts m old
    | updateMessage id text editedAt updatedAt =>
      intro m mem
      rcases mem_amend.mp mem with ⟨old,stored,hit,rfl⟩ | ⟨stored,_⟩
      · obtain ⟨conversationId,names,penned⟩ := discreet
        obtain ⟨m,known,is,here⟩ := names id rfl
        have same : old = m := keyed_unique kept.confined.messages stored known
          ((of_decide_eq_true hit).trans is.symm)
        rw [← same] at is here
        rw [← is, ← here] at penned
        exact penned
      · exact kept.texts m stored
    | commitDeletion deletion members =>
      intro m mem
      rcases mem_amend.mp mem with ⟨old,stored,_,rfl⟩ | ⟨stored,_⟩
      · exact kept.texts old stored
      · exact kept.texts m stored
    | commitConversation conversation members =>
      change ∀ m ∈ (s.chat.storeConversation conversation members).2.messages, _
      cases stores : s.chat.storeConversation conversation members with
      | mk r stored =>
        cases r with
        | error e =>
          rw [s.chat.storeConversation_error stores]
          exact kept.texts
        | ok rows =>
          obtain ⟨_,rfl,_⟩ := s.chat.storeConversation_ok stores
          exact kept.texts
    | _ => exact kept.texts

/-- A discreet request leaves all texts where they were written. -/
theorem discretion_step (kept : Discretion activities ambs s)
    (discreet : q.Discreet activities ambs s.chat)
    (more : s.Extends (chatHandler.answer q s).2)
    (confined : (chatHandler.answer q s).2.chat.Confined) :
    Discretion activities ambs (chatHandler.answer q s).2 := by
  refine ⟨confined,fun m mem => (texts_step kept discreet m mem).later more,fun event mem => ?_,
    fun b mem => ?_⟩
  · have known : event ∈ s.published ∨ event.Genuine activities ambs s.chat := by
      cases q with
      | user q => exact Or.inl mem
      | store q => exact Or.inl mem
      | bus q =>
        cases q with
        | publish event' =>
          rcases List.mem_append.mp mem with old | new
          · exact Or.inl old
          · rw [List.mem_singleton.mp new]
            exact Or.inr discreet
        | broadcast rooms event' =>
          change event ∈ (if rooms = [] then s else _ : ChatWorld).published at mem
          split at mem <;> exact Or.inl mem
    exact (known.elim (kept.events event) id).later more
  · have known : Tells activities ambs s.chat b.rooms b.event := by
      cases q with
      | user q => exact kept.heard b mem
      | store q => exact kept.heard b mem
      | bus q =>
        cases q with
        | publish event => exact kept.heard b mem
        | broadcast rooms event =>
          change b ∈ (if rooms = [] then s else _ : ChatWorld).emitted at mem
          split at mem
          · exact kept.heard b mem
          · rcases List.mem_append.mp mem with old | new
            · exact kept.heard b old
            · rw [List.mem_singleton.mp new]
              exact discreet
    exact known.later more

end Step

def discreetContract (activities : ι → Activity) (ambs : ι → Ambient) (i : ι) :
    Contract ChatRequest ChatWorld where
  rely := ChatWorld.Extends
  admits q s := s.Extends (chatHandler.answer q s).2 ∧
    (chatHandler.answer q s).2.chat.Confined ∧
    ∀ event, activities i = .messageEvent event → event ∈ s.published
  issues q s := q.Discreet activities ambs s.chat
  rely_refl := ChatWorld.Extends.refl
  rely_trans := ChatWorld.Extends.trans

variable {i : ι} {s : ChatWorld} {α β : Type} {good : α → ChatWorld → Prop}
  {best : β → ChatWorld → Prop} {p : ChatProgram α}

/-- The program is discreet from here on, and its result is good for this. -/
abbrev Leads (activities : ι → Activity) (ambs : ι → Ambient) (i : ι)
    (good : α → ChatWorld → Prop) (p : ChatProgram α) (s : ChatWorld) : Prop :=
  p.Yields chatHandler (Discretion activities ambs) (discreetContract activities ambs i) good s

theorem steady_discreet (activities : ι → Activity) (ambs : ι → Ambient) (i : ι) :
    (discreetContract activities ambs i).Steady chatHandler (Discretion activities ambs) :=
  fun _ _ _ admitted => admitted.1

section Statements

theorem Leads.bind {f : α → ChatProgram β} (first : Leads activities ambs i good p s)
    (kept : Discretion activities ambs s)
    (next : ∀ a t, s.Extends t → Discretion activities ambs t → good a t →
      Leads activities ambs i best (f a) t) : Leads activities ambs i best (p >>= f) s :=
  Program.Yields.bind first (steady_discreet activities ambs i) kept next

theorem Leads.map {f : α → β} (first : Leads activities ambs i good p s)
    (kept : Discretion activities ambs s)
    (done : ∀ a t, s.Extends t → Discretion activities ambs t → good a t → best (f a) t) :
    Leads activities ambs i best (f <$> p) s :=
  Program.Yields.map first (steady_discreet activities ambs i) kept done

theorem Leads.tryCatch {f : Failure → ChatProgram α} (first : Leads activities ambs i good p s)
    (kept : Discretion activities ambs s)
    (handle : ∀ e t, s.Extends t → Discretion activities ambs t →
      Leads activities ambs i good (f e) t) :
    Leads activities ambs i good (tryCatchThe Failure p f) s :=
  Program.Yields.tryCatch first (steady_discreet activities ambs i) kept handle

theorem leads_pure {a : α} (is : ∀ t, s.Extends t → Discretion activities ambs t → good a t) :
    Leads activities ambs i good (pure a) s :=
  Program.yields_done is

theorem leads_throw (e : Failure) : Leads activities ambs i good (throw e) s :=
  Program.yields_fail e

theorem leads_lift {r : Except Failure α}
    (is : ∀ a, r = .ok a → ∀ t, s.Extends t → Discretion activities ambs t → good a t) :
    Leads activities ambs i good (liftM r) s :=
  Program.yields_lift is

/-- A statement, and the world in which it was issued. -/
theorem leads_query {q : StoreRequest (Answer α)}
    (issue : ∀ t, s.Extends t → Discretion activities ambs t →
      (ChatRequest.store q).Discreet activities ambs t.chat) :
    Leads activities ambs i (fun a v => ∃ t, s.Extends t ∧ Discretion activities ambs t ∧
      (ChatDatabase.answer q t.chat).1 = .ok a ∧ (chatHandler.answer (.store q) t).2.Extends v)
      (query q) s := by
  intro t moved kept admitted
  obtain ⟨more,confined,_⟩ := admitted
  refine ⟨issue t moved kept,discretion_step kept (issue t moved kept) more confined,?_⟩
  have answered : (chatHandler.answer (.store q) t).1 = (ChatDatabase.answer q t.chat).1 := rfl
  rw [answered]
  cases is : (ChatDatabase.answer q t.chat).1 with
  | error e => exact Program.yields_fail _
  | ok a => exact Program.yields_done fun v later _ => ⟨t,moved,kept,is,later⟩

theorem discreet_of_reads {q : StoreRequest β} (reads : q.writes = false) (db : ChatDatabase) :
    (ChatRequest.store q).Discreet activities ambs db := by
  cases q <;> trivial

theorem leads_read {q : StoreRequest (Answer α)} {read : ChatDatabase → α}
    (writes : q.writes = false) (reads : q.Reads read) : Leads activities ambs i
      (fun a v => ∃ t, Discretion activities ambs t ∧ a = read t.chat ∧ t.Extends v)
      (query q) s := by
  refine Program.Meets.weaken (leads_query fun t _ _ => discreet_of_reads writes t.chat)
    fun r v _ found a is => ?_
  obtain ⟨t,_,kept,answered,later⟩ := found a is
  rw [reads t.chat] at answered
  refine ⟨t,kept,(Except.ok.inj answered).symm,?_⟩
  rwa [inert_store writes t] at later

/-- The requests that neither write to the tables nor tell anybody anything. -/
def ChatRequest.silent : {β : Type} → ChatRequest β → Bool
  | _, .user _ => true
  | _, .store q => !q.writes
  | _, .bus _ => false

abbrev Silent (p : ChatProgram α) : Prop := p.Only fun q => q.silent = true

theorem Silent.leads (silent : Silent p) (s : ChatWorld) :
    Leads activities ambs i (fun _ _ => True) p s := by
  refine Program.Only.yields silent s fun q t is kept => ?_
  cases q with
  | user q =>
    exact ⟨trivial,⟨kept.confined,kept.texts,kept.events,kept.heard⟩,
      ⟨List.Subset.refl _,List.Subset.refl _,List.Subset.refl _⟩⟩
  | store q =>
    have writes : q.writes = false := by simpa [ChatRequest.silent] using is
    rw [inert_store writes t]
    exact ⟨discreet_of_reads writes t.chat,kept,ChatWorld.Extends.refl t⟩
  | bus q => cases is

theorem leads_broadcast {rooms : List Uuid} {event : WsEvent}
    (tells : ∀ t, s.Extends t → Discretion activities ambs t →
      (∀ event, activities i = .messageEvent event → event ∈ t.published) →
      Tells activities ambs t.chat rooms event) :
    Leads activities ambs i (fun _ _ => True) (broadcast rooms event) s := by
  intro t moved kept ⟨more,confined,due⟩
  have discreet := tells t moved kept due
  exact ⟨discreet,discretion_step kept discreet more confined,
    Program.yields_done fun _ _ _ => trivial⟩

theorem leads_publish {event : MessageEvent}
    (genuine : event.Genuine activities ambs s.chat) :
    Leads activities ambs i (fun _ _ => True) (publish event) s := by
  intro t moved kept ⟨more,confined,_⟩
  have discreet := genuine.later moved
  exact ⟨discreet,discretion_step kept discreet more confined,
    Program.yields_done fun _ _ _ => trivial⟩

theorem leads_publishAll {events : List MessageEvent} (kept : Discretion activities ambs s)
    (genuine : ∀ event ∈ events, event.Genuine activities ambs s.chat) :
    Leads activities ambs i (fun _ _ => True) (publishAll events) s := by
  induction events generalizing s with
  | nil => exact leads_pure fun _ _ _ => trivial
  | cons event rest ih =>
    refine (leads_publish (genuine event List.mem_cons_self)).bind kept fun _ t more ht _ => ?_
    exact ih ht fun event mem => (genuine event (List.mem_cons_of_mem _ mem)).later more

end Statements

section Users

theorem silent_askUserModule (p : UserProgram α) : Silent (askUserModule p) :=
  Program.only_translate _ _ (fun _ => rfl) p

theorem silent_query {q : StoreRequest (Answer α)} (reads : q.writes = false) :
    Silent (query q) := by
  refine only_ask ?_
  simp [ChatRequest.silent, reads]

theorem silent_getUserById (userId : Uuid) :
    Silent (ChatUserIntegrationAdapter.getUserById userId) :=
  (silent_askUserModule _).bind fun _ => trivial

theorem leads_getUserById (userId : Uuid) : Leads activities ambs i
    (fun user _ => user.id = userId) (ChatUserIntegrationAdapter.getUserById userId) s := by
  intro t _ kept _
  refine ⟨trivial,kept,?_⟩
  cases found : lookup User.id userId t.users.live with
  | none =>
    have answered : chatHandler.answer (.user (.getUserById userId)) t = (.ok none,t) :=
      congrArg (fun known => (Except.ok known,t)) found
    simp only [answered]
    exact Program.yields_fail _
  | some row =>
    have answered : chatHandler.answer (.user (.getUserById userId)) t = (.ok (some row),t) :=
      congrArg (fun known => (Except.ok known,t)) found
    simp only [answered]
    exact Program.yields_done fun _ _ _ => (lookup_mem found).2

theorem silent_resolveParentUser (currentUser targetUser : ChatUser) (parentUserId : Option Uuid) :
    Silent (resolveParentUser currentUser targetUser parentUserId) := by
  unfold resolveParentUser
  split
  · trivial
  · split_ifs
    · trivial
    · trivial
    · exact (silent_getUserById _).map _

end Users

end Texts

end Chatterbox
