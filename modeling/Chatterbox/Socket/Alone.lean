import Chatterbox.Socket.Authentication

/-!
The guard of one event at a time is the guard of a socket whose events do not overlap: handled
one after another they go through the shared promise as if it were not there.
-/
namespace Chatterbox
open Concurrency

/-- What the guard has come to for an event. -/
def EventStage.outcome : EventStage → Option (Except GuardError Bool)
  | .activated => some (.ok true)
  | .refused e => some (.error e)
  | _ => none

/-- The guard of one event after another, each with its clock reading and whether it asks for
    an acknowledgement. -/
def BaseWsAuthGuard.canActivateAll {User : Type} (guard : BaseWsAuthGuard User) :
    List (Time × Bool) → WsClient User → List (Except GuardError Bool) × WsClient User
  | [], client => ([], client)
  | (now, ack) :: rest, client =>
      let here := guard.canActivate now ack client
      let later := canActivateAll guard rest here.2
      (here.1 :: later.1, later.2)

def SocketStep.arrival {Body : Type} : SocketStep Body → Option (Time × WsMessage Body)
  | .arrive now message => some (now, message)
  | _ => none

namespace Socket
variable {Body : Type} {guard : BaseWsAuthGuard ValidatedTokenPayload} {s : Socket Body}

/-- Nobody has waited for the promise of the socket yet. -/
def Unshared (s : Socket Body) : Prop :=
  ∀ p, s.authPromise = some p → ∀ data, s.client.data = some data → data.authUser = none →
    s.promises[p]? = some (authenticateUser s.client)

/-- The socket after one event, with nothing left under way. -/
structure After (guard : BaseWsAuthGuard ValidatedTokenPayload) (now : Time)
    (message : WsMessage Body) (s t : Socket Body) : Prop where
  unshared : t.Unshared
  client : t.client = (guard.canActivate now message.ack s.client).2
  events : ∃ event : SocketEvent Body, t.events = s.events ++ [event] ∧
    event.stage.outcome = some (guard.canActivate now message.ack s.client).1

end Socket

/-- The first event of a socket whose token has not been verified, without its promise. -/
theorem BaseWsAuthGuard.canActivate_nobody {guard : BaseWsAuthGuard ValidatedTokenPayload}
    {client : WsClient ValidatedTokenPayload} {data : ClientData ValidatedTokenPayload}
    (holds : client.data = some data) (nobody : data.authUser = none) (now : Time) (ack : Bool) :
    guard.canActivate now ack client = match client.accessToken with
      | none => (.error (.wsException "UNAUTHENTICATED" "Unauthorized"), unauthorized ack client)
      | some accessToken => match guard.verifyToken now accessToken with
        | .ok verifyRes => (.ok true,
            { client with data := some { authUser := verifyRes, accessToken } })
        | .error _ =>
            (.error (.wsException "UNAUTHENTICATED" "Unauthorized"), unauthorized ack client) := by
  unfold canActivate authenticateUser WsClient.accessToken
  simp only [holds, nobody]
  cases (extractToken client).filter (· ≠ []) with
  | none => rfl
  | some accessToken =>
    dsimp only
    cases guard.verifyToken now accessToken <;> rfl

namespace Socket
variable {Body : Type} {guard : BaseWsAuthGuard ValidatedTokenPayload} {s : Socket Body}

theorem unshared_idle (idle : s.authPromise = none) : s.Unshared := by
  intro p shared
  rw [idle] at shared
  cases shared

theorem unshared_expired (expired : s.client.data = none) : s.Unshared := by
  intro p _ data holds
  rw [expired] at holds
  cases holds

theorem step_resume_error (guard : BaseWsAuthGuard ValidatedTokenPayload) {u : Socket Body}
    {i p : Nat} {event : SocketEvent Body} {e : GuardError}
    {data : ClientData ValidatedTokenPayload} (waits : u.events[i]? = some event)
    (stage : event.stage = .awaiting p) (settled : u.promises[p]? = some (.settled (.error e)))
    (holds : u.client.data = some data) :
    step guard (.resume i) u = some (({ u with
      client := BaseWsAuthGuard.unauthorized event.ack u.client
      authPromise := none } : Socket Body).atStage i event
        (.refused (.wsException "UNAUTHENTICATED" e.message))) := by
  simp only [step, waits, stage, awaited, settled, Option.map_some, activated, holds]

theorem step_resume_ok (guard : BaseWsAuthGuard ValidatedTokenPayload) {u : Socket Body}
    {i p : Nat} {event : SocketEvent Body} {user : ValidatedTokenPayload}
    (waits : u.events[i]? = some event) (stage : event.stage = .awaiting p)
    (settled : u.promises[p]? = some (.settled (.ok user))) :
    step guard (.resume i) u = some (u.atStage i event .activated) := by
  simp only [step, waits, stage, awaited, settled, Option.map_some, activated]

variable {authorization authToken : Option JsString}

/-- An event that has found nobody and waits: its promise settles, and it goes on. -/
theorem after_awaiting {u : Socket Body} {p : Nat} {data : ClientData ValidatedTokenPayload}
    (holds : s.client.data = some data) (nobody : data.authUser = none) (now : Time)
    (message : WsMessage Body) (client : u.client = s.client)
    (events : u.events = s.events ++ [{ message with stage := .awaiting p }])
    (promise : u.promises[p]? = some (authenticateUser s.client)) :
    ∃ steps t, (machine guard authorization authToken).runAll steps u = some t ∧
      steps.filterMap SocketStep.arrival = [] ∧ After guard now message s t := by
  have waits : u.events[s.events.length]? = some { message with stage := .awaiting p } := by
    rw [events, List.getElem?_concat_length]
  have last : ∀ event : SocketEvent Body, u.events.set s.events.length event =
      s.events ++ [event] := by
    intro event
    rw [events, List.set_append_right _ _ (Nat.le_refl _), Nat.sub_self]
    rfl
  have inside : p < u.promises.length := (List.getElem?_eq_some_iff.mp promise).1
  have decides := guard.canActivate_nobody holds nobody now message.ack
  unfold authenticateUser at promise
  simp only [holds, nobody] at promise
  cases has : s.client.accessToken with
  | none =>
    simp only [has] at promise decides
    have goes := step_resume_error guard waits rfl promise (client ▸ holds)
    refine ⟨[.resume s.events.length],_,Machine.runAll_cons.mpr ⟨_,goes,rfl⟩,rfl,
      unshared_idle rfl,?_,_,last _,?_⟩
    · rw [decides, atStage, client]
    · rw [decides]
      rfl
  | some accessToken =>
    simp only [has] at promise decides
    have verify : step guard (.verify p now) u =
        some (u.authenticated guard p accessToken now) := by
      simp only [step, promise]
    unfold authenticated at verify
    cases verified : guard.verifyToken now accessToken with
    | error e =>
      simp only [verified] at verify decides
      have goes := step_resume_error guard (u := { u with
        promises := u.promises.set p (.settled (.error (.wsException none "Unauthorized"))) })
        waits rfl (List.getElem?_set_self inside) (client ▸ holds)
      refine ⟨[.verify p now, .resume s.events.length],_,
        Machine.runAll_cons.mpr ⟨_,verify,Machine.runAll_cons.mpr ⟨_,goes,rfl⟩⟩,rfl,
        unshared_idle rfl,?_,_,last _,?_⟩
      · rw [decides, atStage, client]
      · rw [decides]
        rfl
    | ok user =>
      simp only [verified, client, holds] at verify decides
      have goes := step_resume_ok guard (u := { u with
        client := { s.client with data := some { authUser := user, accessToken } }
        authPromise := none
        promises := u.promises.set p (.settled (.ok user)) })
        waits rfl (List.getElem?_set_self inside)
      refine ⟨[.verify p now, .resume s.events.length],_,
        Machine.runAll_cons.mpr ⟨_,verify,Machine.runAll_cons.mpr ⟨_,goes,rfl⟩⟩,rfl,
        unshared_idle rfl,?_,_,last _,?_⟩
      · rw [decides]
        rfl
      · rw [decides]
        rfl

/-- One event on its own is dealt with as the guard of one event does. -/
theorem after_arrive (guard : BaseWsAuthGuard ValidatedTokenPayload) (unshared : s.Unshared)
    (now : Time) (message : WsMessage Body) :
    ∃ steps t, (machine guard authorization authToken).runAll steps s = some t ∧
      steps.filterMap SocketStep.arrival = [(now, message)] ∧ After guard now message s t := by
  have arrives : step guard (.arrive now message) s = some (s.canActivate guard now message) := rfl
  unfold canActivate at arrives
  cases holds : s.client.data with
  | none =>
    simp only [holds] at arrives
    have decides : guard.canActivate now message.ack s.client =
        (.error (.typeError "Cannot read properties of null (reading 'authUser')"), s.client) := by
      simp only [BaseWsAuthGuard.canActivate, holds]
    refine ⟨[.arrive now message],_,Machine.runAll_cons.mpr ⟨_,arrives,rfl⟩,rfl,unshared,?_,_,rfl,
      ?_⟩
    · rw [decides]
      rfl
    · rw [decides]
      rfl
  | some data =>
    simp only [holds] at arrives
    cases authUser : data.authUser with
    | some user =>
      simp only [authUser] at arrives
      cases late : guard.expired now user with
      | true =>
        simp only [late, if_true] at arrives
        have decides : guard.canActivate now message.ack s.client =
            BaseWsAuthGuard.handleExpiredSession message.ack s.client := by
          simp only [BaseWsAuthGuard.canActivate, holds, authUser, late, if_true]
        refine ⟨[.arrive now message],_,Machine.runAll_cons.mpr ⟨_,arrives,rfl⟩,rfl,
          unshared_expired rfl,?_,_,rfl,?_⟩
        · rw [decides]
          rfl
        · rw [decides]
          rfl
      | false =>
        simp only [late, Bool.false_eq_true, if_false] at arrives
        have decides : guard.canActivate now message.ack s.client = (.ok true, s.client) := by
          simp only [BaseWsAuthGuard.canActivate, holds, authUser, late, Bool.false_eq_true,
            if_false]
        refine ⟨[.arrive now message],_,Machine.runAll_cons.mpr ⟨_,arrives,rfl⟩,rfl,unshared,?_,_,
          rfl,?_⟩
        · rw [decides]
          rfl
        · rw [decides]
          rfl
    | none =>
      simp only [authUser] at arrives
      cases shared : s.authPromise with
      | some p =>
        simp only [shared] at arrives
        obtain ⟨steps,t,run,quiet,after⟩ : ∃ steps t, (machine guard authorization authToken).runAll
            steps (s.receive message (.awaiting p)) = some t ∧ _ :=
          after_awaiting holds authUser now message rfl rfl (unshared p shared data holds authUser)
        refine ⟨.arrive now message :: steps,t,Machine.runAll_cons.mpr ⟨_,arrives,run⟩,?_,after⟩
        exact congrArg _ quiet
      | none =>
        simp only [shared] at arrives
        obtain ⟨steps,t,run,quiet,after⟩ : ∃ steps t, (machine guard authorization authToken).runAll
            steps (({ s with
              promises := s.promises ++ [authenticateUser s.client]
              authPromise := some s.promises.length } : Socket Body).receive message
                (.awaiting s.promises.length)) = some t ∧ _ :=
          after_awaiting holds authUser now message rfl rfl List.getElem?_concat_length
        refine ⟨.arrive now message :: steps,t,Machine.runAll_cons.mpr ⟨_,arrives,run⟩,?_,after⟩
        exact congrArg _ quiet

/-- The run of these events, the one after the other. -/
theorem after_all (messages : List (Time × WsMessage Body)) (unshared : s.Unshared) :
    ∃ steps t, (machine guard authorization authToken).runAll steps s = some t ∧
      steps.filterMap SocketStep.arrival = messages ∧
      t.client = (guard.canActivateAll (messages.map fun m => (m.1, m.2.ack)) s.client).2 ∧
      t.events.map (fun event => event.stage.outcome) =
        s.events.map (fun event => event.stage.outcome) ++
          (guard.canActivateAll (messages.map fun m => (m.1, m.2.ack)) s.client).1.map some := by
  induction messages generalizing s with
  | nil => exact ⟨[],s,rfl,rfl,rfl,(List.append_nil _).symm⟩
  | cons m rest ih =>
    obtain ⟨now,message⟩ := m
    obtain ⟨first,u,run,arrives,after⟩ := after_arrive guard unshared now message
    obtain ⟨later,t,runs,arrive,client,outcomes⟩ := ih after.unshared
    obtain ⟨event,events,outcome⟩ := after.events
    refine ⟨first ++ later,t,?_,?_,?_,?_⟩
    · rw [Machine.runAll_append, run, Option.bind_some, runs]
    · rw [List.filterMap_append, arrives, arrive]
      rfl
    · rw [client, after.client]
      rfl
    · rw [outcomes, events, after.client, List.map_append, List.append_assoc, List.map_singleton,
        outcome]
      rfl

end Socket

/-- Events that do not overlap: on a new socket, whatever it comes with, every sequence of
    events has a run in which they arrive in that order at those times, and in which the guard
    decides on each of them, and leaves the client, as the guard of one event at a time does. -/
theorem socket_one_at_a_time {Body : Type} (guard : BaseWsAuthGuard ValidatedTokenPayload)
    (authorization authToken : Option JsString) (messages : List (Time × WsMessage Body)) :
    ∃ steps, ∃ t : Socket Body, (Socket.machine guard authorization authToken).runAll steps
        (Socket.opened authorization authToken) = some t ∧
      steps.filterMap SocketStep.arrival = messages ∧
      t.client = (guard.canActivateAll (messages.map fun m => (m.1, m.2.ack))
        (WsClient.opened authorization authToken)).2 ∧
      t.events.map (fun event => event.stage.outcome) =
        (guard.canActivateAll (messages.map fun m => (m.1, m.2.ack))
          (WsClient.opened authorization authToken)).1.map some := by
  refine Socket.after_all messages fun p is data holds nobody => ?_
  cases is
  rfl

end Chatterbox
