import Chatterbox.Chat.DiscreetRequests
import Chatterbox.Chat.SeenMessages

/-!
Texts stay in their conversations. The handlers of published events bring a text only to members
of the conversation that it was written in, and with them so does everything that the server does
at once.
-/
namespace Chatterbox
open Concurrency Tables ConversationPostgresRepository ChatUserIntegrationAdapter

section Texts
variable {ι : Type} {activities : ι → Activity} {ambs : ι → Ambient} {i : ι} {s : ChatWorld}

section Events
variable {conversationId : Uuid} {ilike : JsString → JsString → Bool}

theorem leads_tellNothing {rooms : List Uuid} {event : WsEvent} (quiet : event.texts = []) :
    Leads activities ambs i (fun _ _ => True) (broadcast rooms event) s := by
  refine leads_broadcast fun _ _ _ _ room _ shown mem => ?_
  rw [quiet] at mem
  cases mem

theorem leads_eventConversation (kept : Discretion activities ambs s) :
    Leads activities ambs i
      (fun found v => ∀ c, found = some c → ∀ m ∈ c.members, v.chat.Hosts conversationId m.userId)
      (tryCatchThe Failure (getConversationById conversationId) fun _ => pure none) s :=
  (leads_getConversationById conversationId kept).tryCatch kept
    fun _ _ _ _ => leads_pure fun _ _ _ _ => nofun

theorem leads_edited {event : MessageEditedDomainEvent}
    (is : activities i = .messageEvent (.edited event)) (kept : Discretion activities ambs s) :
    Leads activities ambs i (fun _ _ => True) (MessageEditedWsEventHandler.handle event) s := by
  refine (leads_eventConversation kept).bind kept fun found t _ ht hosts => ?_
  cases found with
  | none => exact leads_pure fun _ _ _ => trivial
  | some c =>
    refine leads_broadcast fun u more hu due room mem shown texts => ?_
    obtain ⟨member,kept,rfl⟩ := List.mem_map.mp mem
    have joined := hosts c rfl member (List.mem_of_mem_filter kept)
    have penned : Penned activities ambs u.chat event.conversationId event.messageId event.text :=
      hu.events (.edited event) (due _ is)
    rw [List.mem_singleton.mp texts]
    exact ⟨event.conversationId,joined.later more.places,penned.shows⟩

theorem leads_deleted (event : MessageDeletedDomainEvent) (kept : Discretion activities ambs s) :
    Leads activities ambs i (fun _ _ => True) (MessageDeletedWsEventHandler.handle event) s := by
  unfold MessageDeletedWsEventHandler.handle
  split
  · exact leads_tellNothing rfl
  · refine (leads_eventConversation kept).bind kept fun found t _ _ _ => ?_
    cases found with
    | none => exact leads_pure fun _ _ _ => trivial
    | some c => exact leads_tellNothing rfl

theorem leads_userEvent (event : UserEvent) :
    Leads activities ambs i (fun _ _ => True) event.handle s := by
  cases event with
  | userBlocked => exact leads_tellNothing rfl
  | userUnblocked => exact leads_tellNothing rfl
  | userCreated => exact leads_pure fun _ _ _ => trivial

theorem leads_resolve (event : MessageCreatedDomainEvent) (kept : Discretion activities ambs s) :
    Leads activities ambs i (fun resolved v => v.chat.Hosts event.conversationId resolved.2.1 ∧
      ∀ m ∈ resolved.2.2.members, v.chat.Hosts event.conversationId m.userId)
      (MessageCreatedWsEventHandler.resolve event) s := by
  refine (leads_getConversationById event.conversationId kept).bind kept
    fun found t _ ht hosts => ?_
  cases found with
  | none => exact leads_throw _
  | some c =>
    dsimp only
    split
    · exact leads_throw _
    rename_i member known
    have joined := hosts c rfl member (List.mem_of_find?_eq_some known)
    refine (leads_getUserConversation ht).bind ht fun dto u more _ ⟨_,_,members⟩ => ?_
    refine leads_pure fun v after _ => ⟨joined.later (more.trans after).places,fun m mem => ?_⟩
    exact (members m mem).later after.places

/-- The preview of a reply is of the quoted message. -/
theorem leads_replyTo (convEntity : ConversationEntity) (currentUser targetUser : ChatUser)
    (event : MessageCreatedDomainEvent) (kept : Discretion activities ambs s) :
    Leads activities ambs i (fun preview v => ∀ p, preview = some p →
      event.replyToMessageId = some p.id ∧ ∃ home, v.chat.Names home (some p.id) ∧
        Shows activities ambs v.chat home p.shown)
      (MessageCreatedWsEventHandler.replyTo convEntity currentUser targetUser event) s := by
  unfold MessageCreatedWsEventHandler.replyTo
  cases event.replyToMessageId with
  | none => exact leads_pure fun _ _ _ _ => nofun
  | some id =>
    refine Leads.tryCatch ?_ kept fun _ _ _ _ => leads_pure fun _ _ _ _ => nofun
    refine (leads_getMessageById id kept).bind kept fun found t _ ht is => ?_
    cases found with
    | none => exact leads_pure fun _ _ _ _ => nofun
    | some parent =>
      obtain ⟨genuine,same⟩ := is parent rfl
      refine ((silent_resolveParentUser _ _ _).leads t).bind ht fun user u more _ _ => ?_
      refine leads_pure fun v after _ p some => ?_
      obtain rfl := Option.some.inj some
      have fine := genuine.later (more.trans after)
      exact ⟨congrArg Option.some same.symm,_,fine.stored,fine.text.withheld.1⟩

theorem leads_announce {event : MessageCreatedDomainEvent} {convEntity : ConversationEntity}
    {senderUserId targetUserId : Uuid} {dto : ConversationReadDto}
    (is : activities i = .messageEvent (.created event)) (kept : Discretion activities ambs s)
    (sender : s.chat.Hosts event.conversationId senderUserId)
    (target : s.chat.Hosts event.conversationId targetUserId) :
    Leads activities ambs i (fun _ _ => True)
      (MessageCreatedWsEventHandler.announce event convEntity senderUserId targetUserId dto) s := by
  refine (leads_getUserById senderUserId).bind kept fun currentUser t more₁ ht current => ?_
  refine (leads_getUserById targetUserId).bind ht fun targetUser u more₂ hu other => ?_
  refine (leads_replyTo convEntity currentUser targetUser event hu).bind hu
    fun preview v more₃ _ quoted => ?_
  refine leads_broadcast fun x more₄ hx due room mem shown texts => ?_
  have more := ((more₁.trans more₂).trans more₃).trans more₄
  obtain ⟨penned,names⟩ : (MessageEvent.created event).Genuine activities ambs x.chat :=
    hx.events (.created event) (due _ is)
  refine ⟨event.conversationId,?_,?_⟩
  · rcases List.mem_append.mp mem with theirs | own
    · split_ifs at theirs
      · cases theirs
      · rw [List.mem_singleton.mp theirs, other]
        exact target.later more.places
    · rw [List.mem_singleton.mp own, current]
      exact sender.later more.places
  · rcases List.mem_cons.mp texts with rfl | texts
    · exact penned.shows
    · obtain ⟨p,some,rfl⟩ := List.mem_map.mp texts
      obtain ⟨quotes,home,there,said⟩ := quoted p (Option.mem_toList.mp some)
      rw [quotes] at names
      rw [names.unique (there.later more₄.origins) hx.confined.messages]
      exact said.later more₄

theorem leads_created {event : MessageCreatedDomainEvent}
    (is : activities i = .messageEvent (.created event)) (kept : Discretion activities ambs s) :
    Leads activities ambs i (fun _ _ => True) (MessageCreatedWsEventHandler.handle event) s := by
  have resolved : Leads activities ambs i (fun found v => ∀ resolved, found = some resolved →
      v.chat.Hosts event.conversationId resolved.2.1 ∧
        ∀ m ∈ resolved.2.2.members, v.chat.Hosts event.conversationId m.userId)
      (tryCatchThe Failure (some <$> MessageCreatedWsEventHandler.resolve event)
        fun _ => pure none) s := by
    refine Leads.tryCatch ((leads_resolve event kept).map kept fun found t _ _ is => ?_) kept
      fun _ _ _ _ => leads_pure fun _ _ _ _ => nofun
    rintro _ ⟨⟩
    exact is
  refine resolved.bind kept fun found t _ ht hosts => ?_
  cases found with
  | none => exact leads_pure fun _ _ _ => trivial
  | some found =>
    obtain ⟨convEntity,senderUserId,dto⟩ := found
    obtain ⟨sender,members⟩ := hosts _ rfl
    dsimp only
    split
    · exact leads_pure fun _ _ _ => trivial
    rename_i targetMember other
    have target := members targetMember (List.mem_of_find?_eq_some other)
    exact (leads_announce is ht sender target).tryCatch ht
      fun _ _ _ _ => leads_pure fun _ _ _ => trivial

theorem leads_messageEvent {event : MessageEvent} (is : activities i = .messageEvent event)
    (kept : Discretion activities ambs s) :
    Leads activities ambs i (fun _ _ => True) event.handle s := by
  cases event with
  | created event => exact leads_created is kept
  | edited event => exact leads_edited is kept
  | deleted event => exact leads_deleted event kept

end Events

section Activities
variable {ilike : JsString → JsString → Bool} {authUserId : Uuid}

theorem leads_operation {operation : ChatOperation} (injective : Function.Injective (ambs i).uuid)
    (is : activities i = .request authUserId operation) (kept : Discretion activities ambs s) :
    Leads activities ambs i (Answers activities ambs authUserId)
      (operation.execute ilike (ambs i) authUserId) s := by
  cases operation with
  | createConversation data =>
    exact (leads_createConversationRequest injective is kept).map kept fun _ _ _ _ => id
  | sendMessage data => exact (leads_createMessageRequest is kept).map kept fun _ _ _ _ => id
  | editMessage data => exact (leads_editRequest is kept).map kept fun _ _ _ _ => id
  | deleteMessage data => exact (leads_deleteRequest kept).map kept fun _ _ _ _ => id
  | listConversations data => exact (leads_listConversations data kept).map kept fun _ _ _ _ => id
  | listMessages data => exact (leads_listMessages data kept).map kept fun _ _ _ _ => id
  | markMessageSeen data =>
    exact (leads_markRequest kept).map kept fun _ _ _ _ _ shown mem => absurd mem List.not_mem_nil
  | block targetUserId =>
    exact ((silent_askUserModule _).leads s).map kept
      fun _ _ _ _ _ shown mem => absurd mem List.not_mem_nil
  | unblock targetUserId =>
    exact ((silent_askUserModule _).leads s).map kept
      fun _ _ _ _ _ shown mem => absurd mem List.not_mem_nil

end Activities

theorem discretion_start {w : ChatWorld} (empty : w.chat = ⟨[],[],[],[]⟩)
    (published : w.published = []) (emitted : w.emitted = []) :
    Discretion activities ambs w := by
  have confined : w.chat.Confined := by
    rw [empty]
    exact ⟨List.nodup_nil,List.nodup_nil,List.nodup_nil,by simp,by simp,
      by simp [ChatDatabase.PointsHome]⟩
  exact ⟨confined,by simp [empty],by simp [published],by simp [emitted]⟩

end Texts

/-- The activity, with the response that the client of a request gets. -/
def Activity.respond (ilike : JsString → JsString → Bool) (amb : Ambient) :
    Activity → ChatProgram (Option ChatResponse)
  | .request authUserId operation => some <$> operation.execute ilike amb authUserId
  | .messageEvent event => (fun _ => none) <$> event.handle
  | .userEvent event => (fun _ => none) <$> event.handle
  | .elsewhere program => (fun _ => none) <$> askUserModule program

theorem forget_respond (ilike : JsString → JsString → Bool) (amb : Ambient)
    (activity : Activity) :
    (fun _ => ()) <$> activity.respond ilike amb = activity.execute ilike amb := by
  have forget : ∀ {α β : Type} (p : ChatProgram α) (f : α → β),
      (fun _ => ()) <$> f <$> p = (fun _ => ()) <$> p :=
    fun p f => Program.bind_assoc p (fun a => Program.done (f a)) fun _ => Program.done ()
  cases activity with
  | request authUserId operation => exact forget _ _
  | messageEvent event => exact (forget _ _).trans (Program.bind_done _)
  | userEvent event => exact (forget _ _).trans (Program.bind_done _)
  | elsewhere program => exact (forget _ _).trans (Program.bind_done _)

/-- A handler of an event has something to do when the event has been published. -/
def Activity.Due (s : ChatWorld) : Activity → Prop
  | .messageEvent event => event ∈ s.published
  | _ => True

instance (s : ChatWorld) : (activity : Activity) → Decidable (activity.Due s)
  | .messageEvent event => inferInstanceAs (Decidable (event ∈ s.published))
  | .request _ _ => .isTrue trivial
  | .userEvent _ => .isTrue trivial
  | .elsewhere _ => .isTrue trivial

section Pool
variable {ι : Type} [DecidableEq ι] {ilike : JsString → JsString → Bool}
  {activities : ι → Activity} {ambs : ι → Ambient} {w : ChatWorld} {schedule : List ι}

def responsePool (ilike : JsString → JsString → Bool) (activities : ι → Activity)
    (ambs : ι → Ambient) (w : ChatWorld) :
    Pool ChatRequest Failure (Option ChatResponse) ChatWorld ι :=
  ⟨w,fun i => (activities i).respond ilike (ambs i)⟩

/-- The step is of a request, or of a handler of a published event. -/
def IsDue (activities : ι → Activity) (e : Issued ChatRequest ChatWorld ι) : Prop :=
  (activities e.thread).Due e.before

instance (activities : ι → Activity) : DecidablePred (IsDue activities) :=
  fun e => inferInstanceAs (Decidable ((activities e.thread).Due e.before))

omit [DecidableEq ι] in
theorem forget_responses (ilike : JsString → JsString → Bool) (activities : ι → Activity)
    (ambs : ι → Ambient) (w : ChatWorld) :
    (responsePool ilike activities ambs w).map (fun _ => ()) =
      activityPool ilike activities ambs w :=
  congrArg (Pool.mk w) (funext fun _ => forget_respond ilike _ _)

omit [DecidableEq ι] in
theorem leads_activity {i : ι} {s : ChatWorld} (injective : Function.Injective (ambs i).uuid)
    (kept : Discretion activities ambs s) :
    Leads activities ambs i (fun response v => ∀ given authUserId operation,
      activities i = .request authUserId operation → response = some given →
      Answers activities ambs authUserId given v) ((activities i).respond ilike (ambs i)) s := by
  cases is : activities i with
  | request authUserId operation =>
    refine (leads_operation injective is kept).map kept fun given t _ _ fine => ?_
    rintro _ _ _ ⟨⟩ ⟨⟩
    exact fine
  | messageEvent event =>
    exact (leads_messageEvent is kept).map kept fun _ _ _ _ _ _ _ _ => nofun
  | userEvent event =>
    exact (leads_userEvent event).map kept fun _ _ _ _ _ _ _ _ => nofun
  | elsewhere program =>
    exact ((silent_askUserModule program).leads s).map kept fun _ _ _ _ _ _ _ _ => nofun

/-- Whatever the requests of all users, the handlers of published events and the user module do at
    once: a text that a broadcast brings to the room of a user, or a response to its client, is
    empty or was written by a member of a conversation for the message that it is shown with,
    and the user is a member of that conversation. -/
theorem texts_stay (distinct : Distinct ambs) (empty : w.chat = ⟨[],[],[],[]⟩)
    (published : w.published = []) (emitted : w.emitted = [])
    (due : (responsePool ilike activities ambs w).Respects chatHandler (IsDue activities)
      schedule) :
    (∀ b ∈ ((responsePool ilike activities ambs w).run chatHandler schedule).state.emitted,
      Tells activities ambs
        ((responsePool ilike activities ambs w).run chatHandler schedule).state.chat
        b.rooms b.event) ∧
    ∀ i authUserId operation response, activities i = .request authUserId operation →
      ((responsePool ilike activities ambs w).run chatHandler schedule).threads i =
        .done (some response) →
      Answers activities ambs authUserId response
        ((responsePool ilike activities ambs w).run chatHandler schedule).state := by
  have start : Discretion activities ambs w := discretion_start empty published emitted
  have sound : (responsePool ilike activities ambs w).Sound chatHandler
      (Discretion activities ambs) (discreetContract activities ambs)
      (fun i r v => ∀ response, r = .ok response → ∀ given authUserId operation,
        activities i = .request authUserId operation → response = some given →
        Answers activities ambs authUserId given v) :=
    ⟨start,fun i => leads_activity (fun k l same => (distinct i i k l same).2) start⟩
  have compatible : Pool.Compatible chatHandler (Discretion activities ambs)
      (discreetContract activities ambs) := by
    intro i j _ β q s _ admitted _
    exact admitted.1
  have admitted : (responsePool ilike activities ambs w).Respects chatHandler
      (fun e => (discreetContract activities ambs e.thread).admits e.request e.before)
      schedule := by
    intro e mem
    have step := mem
    rw [← Pool.trace_map (fun _ => ()), forget_responses] at step
    obtain ⟨more,confined⟩ := gains_at distinct empty step
    refine ⟨more,confined,fun event is => ?_⟩
    have waits := due e mem
    rw [IsDue, is] at waits
    exact waits
  obtain ⟨final,_⟩ := Pool.sound_run compatible sound schedule admitted
  refine ⟨final.1.heard,fun i authUserId operation response is ended => ?_⟩
  exact final.post_done ended _ rfl response authUserId operation is rfl

end Pool

/-- User 1 greets user 2, the greeting is announced, and user 2 reads it. -/
def greetingRead : Fin 3 → Activity
  | 0 => .request 1 (.createConversation ⟨2,[104, 105]⟩)
  | 1 => .messageEvent (.created
      { messageId := 112, conversationId := 100, senderId := 106, text := [104, 105],
        deletedForUserIds := [], createdAt := 1000, replyToMessageId := none,
        clientMessageId := none })
  | 2 => .request 2 (.listMessages ⟨100,none,none⟩)

theorem texts_stay_greeting :
    (∀ b ∈ ((responsePool noMatch greetingRead (sharedDraws 3) emptyWorld).run chatHandler
      oneAfterAnother).state.emitted, Tells greetingRead (sharedDraws 3)
        ((responsePool noMatch greetingRead (sharedDraws 3) emptyWorld).run chatHandler
          oneAfterAnother).state.chat b.rooms b.event) ∧
    MeantFor greetingRead (sharedDraws 3)
      ((responsePool noMatch greetingRead (sharedDraws 3) emptyWorld).run chatHandler
        oneAfterAnother).state.chat 2 (112, some [104, 105]) := by
  have due : (responsePool noMatch greetingRead (sharedDraws 3) emptyWorld).Respects chatHandler
      (IsDue greetingRead) oneAfterAnother := by decide
  obtain ⟨told,answered⟩ := texts_stay (distinct_sharedDraws 3) rfl rfl rfl due
  refine ⟨told,answered 2 2 _ _ rfl rfl _ ?_⟩
  decide

end Chatterbox
