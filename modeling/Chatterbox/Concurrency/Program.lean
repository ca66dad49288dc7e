import Mathlib.Logic.Function.Basic

/-!
Programs that talk to a shared environment through typed requests and may stop
with an error. A program is a tree: a request stands with one continuation for
every answer, so the requests are the only places where another program can get
in between. A handler gives the requests their meaning on a state.
-/
namespace Concurrency

inductive Program (Request : Type → Type) (Error α : Type) : Type 1 where
  | done : α → Program Request Error α
  | fail : Error → Program Request Error α
  | request {β : Type} : Request β → (β → Program Request Error α) → Program Request Error α

structure Handler (Request : Type → Type) (σ : Type) where
  answer : {β : Type} → Request β → σ → β × σ

namespace Program
variable {Request Other : Type → Type} {Error Failure α β γ σ τ : Type}

def bind : Program Request Error α → (α → Program Request Error β) → Program Request Error β
  | .done a, f => f a
  | .fail e, _ => .fail e
  | .request q k, f => .request q (fun b => (k b).bind f)

def tryCatch : Program Request Error α → (Error → Program Request Error α) →
    Program Request Error α
  | .done a, _ => .done a
  | .fail e, f => f e
  | .request q k, f => .request q (fun b => (k b).tryCatch f)

instance : Monad (Program Request Error) where
  pure := .done
  bind := Program.bind

instance : MonadExceptOf Error (Program Request Error) where
  throw := .fail
  tryCatch := Program.tryCatch

@[simp] theorem pure_eq (a : α) : (pure a : Program Request Error α) = .done a := rfl

@[simp] theorem throw_eq (e : Error) : (throw e : Program Request Error α) = .fail e := rfl

@[simp] theorem done_bind (a : α) (f : α → Program Request Error β) :
    (Program.done a >>= f) = f a := rfl

@[simp] theorem fail_bind (e : Error) (f : α → Program Request Error β) :
    (Program.fail e >>= f) = .fail e := rfl

@[simp] theorem request_bind (q : Request β) (k : β → Program Request Error α)
    (f : α → Program Request Error γ) :
    (Program.request q k >>= f) = .request q (fun b => k b >>= f) := rfl

@[simp] theorem done_map (a : α) (f : α → β) :
    f <$> (Program.done a : Program Request Error α) = .done (f a) := rfl

@[simp] theorem fail_map (e : Error) (f : α → β) :
    f <$> (Program.fail e : Program Request Error α) = .fail e := rfl

@[simp] theorem request_map (q : Request γ) (k : γ → Program Request Error α) (f : α → β) :
    f <$> Program.request q k = .request q (fun b => f <$> k b) := rfl

@[simp] theorem done_catch (a : α) (f : Error → Program Request Error α) :
    tryCatchThe Error (Program.done a) f = .done a := rfl

@[simp] theorem fail_catch (e : Error) (f : Error → Program Request Error α) :
    tryCatchThe Error (Program.fail e) f = f e := rfl

@[simp] theorem request_catch (q : Request β) (k : β → Program Request Error α)
    (f : Error → Program Request Error α) :
    tryCatchThe Error (Program.request q k) f =
      .request q (fun b => tryCatchThe Error (k b) f) := rfl

theorem bind_done (p : Program Request Error α) : (p >>= Program.done) = p := by
  induction p with
  | done a => rfl
  | fail e => rfl
  | request q k ih => exact congrArg (Program.request q) (funext ih)

theorem bind_assoc (p : Program Request Error α) (f : α → Program Request Error β)
    (g : β → Program Request Error γ) : (p >>= f) >>= g = p >>= fun a => f a >>= g := by
  induction p with
  | done a => rfl
  | fail e => rfl
  | request q k ih => exact congrArg (Program.request q) (funext ih)

/-- A pure computation that may fail, inside a program. -/
def ofExcept : Except Error α → Program Request Error α
  | .ok a => .done a
  | .error e => .fail e

instance : MonadLift (Except Error) (Program Request Error) where
  monadLift := ofExcept

@[simp] theorem lift_ok (a : α) :
    (liftM (Except.ok a : Except Error α) : Program Request Error α) = .done a := rfl

@[simp] theorem lift_error (e : Error) :
    (liftM (Except.error e : Except Error α) : Program Request Error α) = .fail e := rfl

/-- The program without interruption: every request is answered at once and the
    continuation starts from the state the answer left. -/
def run (h : Handler Request σ) : Program Request Error α → σ → Except Error α × σ
  | .done a, s => (.ok a, s)
  | .fail e, s => (.error e, s)
  | .request q k, s => (k (h.answer q s).1).run h (h.answer q s).2

section Run
variable (h : Handler Request σ) (s : σ)

@[simp] theorem run_done (a : α) :
    (Program.done a : Program Request Error α).run h s = (.ok a, s) := rfl

@[simp] theorem run_fail (e : Error) :
    (Program.fail e : Program Request Error α).run h s = (.error e, s) := rfl

@[simp] theorem run_request (q : Request β) (k : β → Program Request Error α) :
    (Program.request q k).run h s = (k (h.answer q s).1).run h (h.answer q s).2 := rfl

theorem run_bind (p : Program Request Error α) (f : α → Program Request Error β) :
    (p >>= f).run h s = match p.run h s with
      | (.ok a, t) => (f a).run h t
      | (.error e, t) => (.error e, t) := by
  induction p generalizing s with
  | done a => rfl
  | fail e => rfl
  | request q k ih => exact ih _ _

/-- The rule for a sequence whose first part is known to succeed. -/
theorem run_bind_ok {p : Program Request Error α} {a : α} {t : σ}
    (first : p.run h s = (.ok a, t)) (f : α → Program Request Error β) :
    (p >>= f).run h s = (f a).run h t := by
  rw [run_bind, first]

theorem run_bind_error {p : Program Request Error α} {e : Error} {t : σ}
    (first : p.run h s = (.error e, t)) (f : α → Program Request Error β) :
    (p >>= f).run h s = (.error e, t) := by
  rw [run_bind, first]

/-- A sequence that succeeds has succeeded in both its parts. -/
theorem run_bind_inv {p : Program Request Error α} {f : α → Program Request Error β} {b : β} {t : σ}
    (whole : (p >>= f).run h s = (.ok b, t)) :
    ∃ a u, p.run h s = (.ok a, u) ∧ (f a).run h u = (.ok b, t) := by
  rw [run_bind] at whole
  cases first : p.run h s with
  | mk r u =>
    rw [first] at whole
    cases r with
    | ok a => exact ⟨a,u,rfl,whole⟩
    | error e => cases whole

theorem run_lift_inv {r : Except Error α} {a : α} {t : σ}
    (run : (liftM r : Program Request Error α).run h s = (.ok a, t)) : r = .ok a ∧ t = s := by
  cases r with
  | error e => cases run
  | ok b =>
    cases run
    exact ⟨rfl,rfl⟩

theorem run_map (p : Program Request Error α) (f : α → β) :
    (f <$> p).run h s = ((p.run h s).1.map f, (p.run h s).2) := by
  induction p generalizing s with
  | done a => rfl
  | fail e => rfl
  | request q k ih => exact ih _ _

theorem run_map_ok {p : Program Request Error α} {a : α} {t : σ}
    (first : p.run h s = (.ok a, t)) (f : α → β) : (f <$> p).run h s = (.ok (f a), t) :=
  run_bind_ok h s first (fun a => .done (f a))

theorem run_map_error {p : Program Request Error α} {e : Error} {t : σ}
    (first : p.run h s = (.error e, t)) (f : α → β) : (f <$> p).run h s = (.error e, t) :=
  run_bind_error h s first (fun a => .done (f a))

theorem run_catch (p : Program Request Error α) (f : Error → Program Request Error α) :
    (tryCatchThe Error p f).run h s = match p.run h s with
      | (.ok a, t) => (.ok a, t)
      | (.error e, t) => (f e).run h t := by
  induction p generalizing s with
  | done a => rfl
  | fail e => rfl
  | request q k ih => exact ih _ _

theorem run_catch_ok {p : Program Request Error α} {a : α} {t : σ}
    (first : p.run h s = (.ok a, t)) (f : Error → Program Request Error α) :
    (tryCatchThe Error p f).run h s = (.ok a, t) := by
  rw [run_catch, first]

theorem run_catch_error {p : Program Request Error α} {e : Error} {t : σ}
    (first : p.run h s = (.error e, t)) (f : Error → Program Request Error α) :
    (tryCatchThe Error p f).run h s = (f e).run h t := by
  rw [run_catch, first]

/-- Programs one after another, with the outcome of each. -/
def runAll : List (Program Request Error α) → σ → List (Except Error α) × σ
  | [], s => ([], s)
  | p :: rest, s =>
      ((p.run h s).1 :: (runAll rest (p.run h s).2).1, (runAll rest (p.run h s).2).2)

@[simp] theorem runAll_nil : runAll h ([] : List (Program Request Error α)) s = ([], s) := rfl

@[simp] theorem runAll_cons (p : Program Request Error α) (rest : List (Program Request Error α)) :
    runAll h (p :: rest) s =
      ((p.run h s).1 :: (runAll h rest (p.run h s).2).1, (runAll h rest (p.run h s).2).2) := rfl

end Run

/-- The same program over another signature and another error type. -/
def translate (f : {β : Type} → Request β → Other β) (g : Error → Failure) :
    Program Request Error α → Program Other Failure α
  | .done a => .done a
  | .fail e => .fail (g e)
  | .request q k => .request (f q) (fun b => (k b).translate f g)

theorem translate_bind (f : {β : Type} → Request β → Other β) (g : Error → Failure)
    (p : Program Request Error α) (next : α → Program Request Error β) :
    (p >>= next).translate f g = p.translate f g >>= fun a => (next a).translate f g := by
  induction p with
  | done a => rfl
  | fail e => rfl
  | request q k ih => exact congrArg (Program.request (f q)) (funext ih)

/-- A translated program only touches the part of the state that its own handler
    knows, when the outer handler answers the translated requests there. -/
theorem run_translate (h : Handler Request σ) (outer : Handler Other τ)
    (f : {β : Type} → Request β → Other β) (g : Error → Failure)
    (get : τ → σ) (put : σ → τ → τ)
    (answer : ∀ {β : Type} (q : Request β) (t : τ),
      outer.answer (f q) t = ((h.answer q (get t)).1, put (h.answer q (get t)).2 t))
    (get_put : ∀ s t, get (put s t) = s) (put_put : ∀ s s' t, put s (put s' t) = put s t)
    (put_get : ∀ t, put (get t) t = t)
    (p : Program Request Error α) (t : τ) :
    (p.translate f g).run outer t =
      ((p.run h (get t)).1.mapError g, put (p.run h (get t)).2 t) := by
  induction p generalizing t with
  | done a => exact Prod.ext rfl (put_get t).symm
  | fail e => exact Prod.ext rfl (put_get t).symm
  | request q k ih => simp [translate, answer, ih, get_put, put_put]

end Program
end Concurrency
