import Chatterbox.Concurrency.Pool
import Mathlib.Data.List.Nodup

/-!
What the three modules of the backend share: identifiers, clock readings,
JavaScript strings, the exceptions and the answers of the database. Identifiers
and clock readings are natural numbers; a uuidv7 is ordered by its generation.
-/
namespace Chatterbox
open Concurrency

abbrev Uuid := Nat
abbrev Time := Nat

/-- A JavaScript string as its list of UTF-16 code units. -/
abbrev JsString := List Nat

/-- WhiteSpace and LineTerminator of ECMAScript, which `trim` removes. -/
def isWhitespace (unit : Nat) : Bool :=
  unit ∈ [0x09, 0x0A, 0x0B, 0x0C, 0x0D, 0x20, 0xA0, 0x1680, 0x2028, 0x2029, 0x202F, 0x205F,
    0x3000, 0xFEFF] || (0x2000 ≤ unit && unit ≤ 0x200A)

def trim (s : JsString) : JsString :=
  ((s.dropWhile isWhitespace).reverse.dropWhile isWhitespace).reverse

/-- What one operation draws from outside the program: a reading of the clock,
    the uuids it generates in order, the salts of bcrypt, and the usernames the
    random generator offers. -/
structure Ambient where
  now : Time
  uuid : Nat → Uuid
  salt : Nat → Nat
  usernames : List JsString

/-- The draws that are left after the first `n` uuids and salts. -/
def Ambient.skip (amb : Ambient) (n : Nat) : Ambient :=
  { amb with uuid := fun k => amb.uuid (n + k), salt := fun k => amb.salt (n + k) }

@[simp] theorem Ambient.skip_now (amb : Ambient) (n : Nat) : (amb.skip n).now = amb.now := rfl

@[simp] theorem Ambient.skip_uuid (amb : Ambient) (n k : Nat) :
    (amb.skip n).uuid k = amb.uuid (n + k) := rfl

inductive SqlState where
  | uniqueViolation
  | foreignKeyViolation
  | other
  deriving DecidableEq, Repr

structure DbError where
  state : SqlState
  constraint : String
  deriving DecidableEq, Repr

/-- Every statement may be answered by a database error. -/
abbrev Answer (α : Type) := Except DbError α

inductive DomainErrorType where
  | notFound
  | conflict
  | unauthorized
  | forbidden
  | businessRule
  | internalError
  | tooManyRequests
  deriving DecidableEq, Repr

structure DomainException where
  message : String
  code : String
  type : DomainErrorType
  deriving DecidableEq, Repr

/-- Everything a handler can throw: an exception of the domain, a plain `Error`,
    a rejected statement, an exception of the gateway. `running` stands for a
    loop that has used up the draws it was given and has not ended. -/
inductive Failure where
  | domain (e : DomainException)
  | error (message : String)
  | database (e : DbError)
  | ws (message : String)
  | running
  deriving DecidableEq, Repr

/-- The text of an exception: its own message, with the reason behind a colon. -/
def withReason (message : String) : Option String → String
  | some reason => message ++ ": " ++ reason
  | none => message

variable {Request : Type → Type} {α β σ : Type}

/-- Await a statement: a database error is thrown as it is. -/
def ask (q : Request (Answer α)) : Program Request Failure α :=
  .request q fun
    | .ok a => .done a
    | .error e => .fail (.database e)

/-- A sequence of checks that passes has passed each of them. -/
theorem ok_of_bind {Error : Type} {r : Except Error α} {f : α → Except Error β} {b : β}
    (ok : (r >>= f) = .ok b) : ∃ a, r = .ok a ∧ f a = .ok b := by
  cases r with
  | error e => cases ok
  | ok a => exact ⟨a,rfl,ok⟩

/-- A sequence of checks that fails stops at one of them. -/
theorem error_of_bind {Error : Type} {r : Except Error α} {f : α → Except Error β} {e : Error}
    (failed : (r >>= f) = .error e) : r = .error e ∨ ∃ a, r = .ok a ∧ f a = .error e := by
  cases r with
  | error e' =>
    cases failed
    exact Or.inl rfl
  | ok a => exact Or.inr ⟨a,rfl,failed⟩

/-- Run a statement that does not fail, and go on. -/
theorem run_ask_bind {h : Handler Request σ} {q : Request (Answer α)} {s t : σ} {a : α}
    (answered : h.answer q s = (.ok a, t)) (f : α → Program Request Failure β) :
    (ask q >>= f).run h s = (f a).run h t := by
  simp [ask, answered]

theorem run_ask_error {h : Handler Request σ} {q : Request (Answer α)} {s t : σ} {e : DbError}
    (answered : h.answer q s = (.error e, t)) (f : α → Program Request Failure β) :
    (ask q >>= f).run h s = (.error (.database e), t) := by
  simp [ask, answered]

theorem run_ask_inv {h : Handler Request σ} {q : Request (Answer α)} {s t : σ} {a : α}
    (run : (ask q).run h s = (.ok a, t)) : h.answer q s = (.ok a, t) := by
  unfold ask at run
  rw [Program.run_request] at run
  cases answered : h.answer q s with
  | mk r u =>
    rw [answered] at run
    cases r with
    | ok b =>
      cases run
      rfl
    | error e => cases run

theorem only_ask {kind : {β : Type} → Request β → Prop} {q : Request (Answer α)} (is : kind q) :
    (ask q).Only kind :=
  ⟨is,fun b => by cases b <;> trivial⟩

/-- A statement and what follows it, among others. -/
theorem meets_ask_bind {h : Handler Request σ} {inv : σ → Prop} {k : Contract Request σ}
    {post : Except Failure β → σ → Prop} {q : Request (Answer α)}
    {f : α → Program Request Failure β} {s : σ}
    (step : ∀ t, k.rely s t → inv t → k.admits q t →
      k.issues q t ∧ inv (h.answer q t).2 ∧
      (∀ a, (h.answer q t).1 = .ok a → (f a).Meets h inv k post (h.answer q t).2) ∧
      (∀ e, (h.answer q t).1 = .error e →
        (Program.fail (.database e)).Meets h inv k post (h.answer q t).2)) :
    (ask q >>= f).Meets h inv k post s := by
  intro t moved ht admitted
  obtain ⟨issued,kept,next,stop⟩ := step t moved ht admitted
  refine ⟨issued,kept,?_⟩
  cases answered : (h.answer q t).1 with
  | ok a => exact next a answered
  | error e => exact stop e answered

end Chatterbox
