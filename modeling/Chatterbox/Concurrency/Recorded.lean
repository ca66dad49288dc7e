import Chatterbox.Concurrency.Program

/-!
Objects whose methods assign fields and record events. A method is a program of single
accesses, so that a throw leaves whatever has been assigned before it; a method computes a
function when its accesses come to all of the function's result or to nothing.
-/
namespace Concurrency

structure Recorded (Fields Event : Type) where
  fields : Fields
  events : List Event
  deriving DecidableEq, Repr

inductive FieldRequest (Fields Event : Type) : Type → Type where
  | read : FieldRequest Fields Event Fields
  | assign (change : Fields → Fields) : FieldRequest Fields Event Unit
  | apply (event : Event) : FieldRequest Fields Event Unit

variable {Fields Event Error View α : Type}

abbrev Method (Fields Event Error α : Type) := Program (FieldRequest Fields Event) Error α

def FieldRequest.answer : {β : Type} → FieldRequest Fields Event β → Recorded Fields Event →
    β × Recorded Fields Event
  | _, .read, o => (o.fields, o)
  | _, .assign change, o => ((), { o with fields := change o.fields })
  | _, .apply event, o => ((), { o with events := o.events ++ [event] })

def objectHandler : Handler (FieldRequest Fields Event) (Recorded Fields Event) :=
  ⟨FieldRequest.answer⟩

namespace Method

def read : Method Fields Event Error Fields := .request .read .done

def assign (change : Fields → Fields) : Method Fields Event Error Unit :=
  .request (.assign change) .done

def apply (event : Event) : Method Fields Event Error Unit := .request (.apply event) .done

section Accesses
variable (o : Recorded Fields Event)

@[simp] theorem run_read (f : Fields → Method Fields Event Error α) :
    Program.run objectHandler (read >>= f) o = (f o.fields).run objectHandler o := rfl

@[simp] theorem run_assign (change : Fields → Fields) (f : Unit → Method Fields Event Error α) :
    Program.run objectHandler (assign change >>= f) o =
      (f ()).run objectHandler { o with fields := change o.fields } := rfl

@[simp] theorem run_apply (event : Event) :
    Program.run objectHandler (apply event : Method Fields Event Error Unit) o =
      (.ok (), { o with events := o.events ++ [event] }) := rfl

end Accesses

/-- The object after one call, whether it returns or throws. -/
def perform (method : Method Fields Event Error Unit) (o : Recorded Fields Event) :
    Recorded Fields Event :=
  (method.run objectHandler o).2

def performAll (methods : List (Method Fields Event Error Unit)) (o : Recorded Fields Event) :
    Recorded Fields Event :=
  (Program.runAll objectHandler methods o).2

@[simp] theorem performAll_nil (o : Recorded Fields Event) :
    performAll ([] : List (Method Fields Event Error Unit)) o = o := rfl

@[simp] theorem performAll_cons (method : Method Fields Event Error Unit)
    (rest : List (Method Fields Event Error Unit)) (o : Recorded Fields Event) :
    performAll (method :: rest) o = performAll rest (method.perform o) := rfl

theorem performAll_append (first rest : List (Method Fields Event Error Unit))
    (o : Recorded Fields Event) :
    performAll (first ++ rest) o = performAll rest (performAll first o) := by
  induction first generalizing o with
  | nil => rfl
  | cons method first ih => exact ih (method.perform o)

/-- The method does what the function says, with its events, or throws before it has
    touched anything. -/
def Computes (method : Method Fields Event Error Unit)
    (f : Fields → Except Error (Fields × List Event)) : Prop :=
  ∀ o, method.run objectHandler o = match f o.fields with
    | .ok (fields, events) => (.ok (), ⟨fields,o.events ++ events⟩)
    | .error e => (.error e, o)

section Computes
variable {method : Method Fields Event Error Unit}
  {f : Fields → Except Error (Fields × List Event)}

theorem Computes.throws (computes : method.Computes f) {o : Recorded Fields Event} {e : Error}
    (threw : (method.run objectHandler o).1 = .error e) : method.perform o = o := by
  unfold perform
  rw [computes o] at threw ⊢
  cases is : f o.fields with
  | ok result =>
    rw [is] at threw
    cases threw
  | error e => rfl

/-- One call, with what it adds to the events. -/
theorem Computes.performed (computes : method.Computes f) (o : Recorded Fields Event) :
    (method.perform o = o ∧ ∃ e, f o.fields = .error e) ∨
      ∃ fields events, f o.fields = .ok (fields, events) ∧
        method.perform o = ⟨fields,o.events ++ events⟩ := by
  unfold perform
  rw [computes o]
  cases is : f o.fields with
  | ok result => exact Or.inr ⟨result.1,result.2,rfl,rfl⟩
  | error e => exact Or.inl ⟨rfl,e,rfl⟩

end Computes

section Replay
variable {view : Fields → View} {replay : View → Event → View}

/-- The events of the function tell all that it changes of the view. -/
def Replays (view : Fields → View) (replay : View → Event → View)
    (f : Fields → Except Error (Fields × List Event)) : Prop :=
  ∀ fields fields' events, f fields = .ok (fields', events) →
    events.foldl replay (view fields) = view fields'

theorem replay_perform {method : Method Fields Event Error Unit}
    {f : Fields → Except Error (Fields × List Event)} (computes : method.Computes f)
    (replays : Replays view replay f) (o : Recorded Fields Event) :
    ∃ events, (method.perform o).events = o.events ++ events ∧
      events.foldl replay (view o.fields) = view (method.perform o).fields := by
  rcases computes.performed o with ⟨same,_⟩ | ⟨fields,events,is,performed⟩
  · rw [same]
    exact ⟨[],by simp,rfl⟩
  · rw [performed]
    exact ⟨events,rfl,replays _ _ _ is⟩

/-- The events that calls have recorded, over the view before them, give the view after. -/
theorem replay_performAll {methods : List (Method Fields Event Error Unit)}
    (sound : ∀ method ∈ methods, ∃ f, method.Computes f ∧ Replays view replay f)
    (o : Recorded Fields Event) :
    ∃ events, (performAll methods o).events = o.events ++ events ∧
      events.foldl replay (view o.fields) = view (performAll methods o).fields := by
  induction methods generalizing o with
  | nil => exact ⟨[],by simp,rfl⟩
  | cons method rest ih =>
    obtain ⟨f,computes,replays⟩ := sound method List.mem_cons_self
    obtain ⟨first,recorded,replayed⟩ := replay_perform computes replays o
    obtain ⟨later,recorded',replayed'⟩ :=
      ih (fun method mem => sound method (List.mem_cons_of_mem _ mem)) (method.perform o)
    refine ⟨first ++ later,?_,?_⟩
    · rw [performAll_cons, recorded', recorded, List.append_assoc]
    · rw [List.foldl_append, replayed, replayed', performAll_cons]

end Replay

/-- What every call keeps, all calls keep. -/
theorem performAll_invariant {inv : Fields → Prop} {methods : List (Method Fields Event Error Unit)}
    (kept : ∀ method ∈ methods, ∃ f, method.Computes f ∧
      ∀ fields fields' events, f fields = .ok (fields', events) → inv fields → inv fields')
    {o : Recorded Fields Event} (start : inv o.fields) : inv (performAll methods o).fields := by
  induction methods generalizing o with
  | nil => exact start
  | cons method rest ih =>
    obtain ⟨f,computes,keeps⟩ := kept method List.mem_cons_self
    have next : inv (method.perform o).fields := by
      rcases computes.performed o with ⟨same,_⟩ | ⟨fields,events,is,performed⟩
      · rw [same]
        exact start
      · rw [performed]
        exact keeps _ _ _ is start
    exact ih (fun method mem => kept method (List.mem_cons_of_mem _ mem)) next

end Method
end Concurrency
