import Chatterbox.Concurrency.Pool

/-!
What a program yields among others: its result is good for something at the end, and an error
promises nothing. Where the requests of a program stay within what it relies on itself, its parts
can be taken one after another without losing what has been found before.
-/
namespace Concurrency
variable {Request : Type → Type} {Error α β σ ι : Type}

/-- The requests that the schedule admits leave what the program relies on. -/
def Contract.Steady (h : Handler Request σ) (inv : σ → Prop) (k : Contract Request σ) : Prop :=
  ∀ {β : Type} (q : Request β) s, inv s → k.admits q s → k.rely s (h.answer q s).2

namespace Program
variable {h : Handler Request σ} {inv : σ → Prop} {k : Contract Request σ} {s : σ}
  {good : α → σ → Prop} {best : β → σ → Prop}

theorem Meets.within {post : Except Error α → σ → Prop} {p : Program Request Error α}
    (ok : p.Meets h inv k post s) (steady : k.Steady h inv) :
    p.Meets h inv k (fun r t => k.rely s t ∧ post r t) s := by
  suffices general : ∀ u, k.rely u s → p.Meets h inv k (fun r t => k.rely u t ∧ post r t) s from
    general s (k.rely_refl s)
  intro u reached
  induction p generalizing s with
  | done a => exact fun t moved ht => ⟨k.rely_trans reached moved,ok t moved ht⟩
  | fail e => exact fun t moved ht => ⟨k.rely_trans reached moved,ok t moved ht⟩
  | request q rest ih =>
    intro t moved ht admitted
    obtain ⟨issued,kept,more⟩ := ok t moved ht admitted
    have there := k.rely_trans (k.rely_trans reached moved) (steady q t ht admitted)
    exact ⟨issued,kept,ih _ more there⟩

/-- The result is good when the program ends, and stays so within `rely`. -/
abbrev Yields (h : Handler Request σ) (inv : σ → Prop) (k : Contract Request σ)
    (good : α → σ → Prop) (p : Program Request Error α) (s : σ) : Prop :=
  p.Meets h inv k (fun r t => ∀ a, r = .ok a → good a t) s

theorem yields_done {a : α} (is : ∀ t, k.rely s t → inv t → good a t) :
    (Program.done a : Program Request Error α).Yields h inv k good s := by
  rintro t moved ht _ ⟨⟩
  exact is t moved ht

theorem yields_fail (e : Error) :
    (Program.fail e : Program Request Error α).Yields h inv k good s :=
  fun _ _ _ => nofun

theorem yields_lift {r : Except Error α}
    (is : ∀ a, r = .ok a → ∀ t, k.rely s t → inv t → good a t) :
    (liftM r : Program Request Error α).Yields h inv k good s := by
  cases r with
  | ok a => exact yields_done (is a rfl)
  | error e => exact yields_fail e

theorem Yields.bind {p : Program Request Error α} {f : α → Program Request Error β}
    (first : p.Yields h inv k good s) (steady : k.Steady h inv) (hs : inv s)
    (next : ∀ a t, k.rely s t → inv t → good a t → (f a).Yields h inv k best t) :
    (p >>= f).Yields h inv k best s :=
  (first.within steady).bind hs (fun a t ht ends => next a t ends.1 ht (ends.2 a rfl))
    fun _ _ _ _ => nofun

theorem Yields.map {p : Program Request Error α} {f : α → β} (first : p.Yields h inv k good s)
    (steady : k.Steady h inv) (hs : inv s)
    (done : ∀ a t, k.rely s t → inv t → good a t → best (f a) t) :
    (f <$> p).Yields h inv k best s := by
  refine (first.within steady).map hs (fun a t ht ends => ?_) fun _ _ _ _ => nofun
  rintro _ ⟨⟩
  exact done a t ends.1 ht (ends.2 a rfl)

theorem Yields.tryCatch {p : Program Request Error α} {f : Error → Program Request Error α}
    (first : p.Yields h inv k good s) (steady : k.Steady h inv) (hs : inv s)
    (handle : ∀ e t, k.rely s t → inv t → (f e).Yields h inv k good t) :
    (tryCatchThe Error p f).Yields h inv k good s :=
  (first.within steady).tryCatch hs (fun a _ _ ends => fun
    | _, rfl => ends.2 a rfl) fun e t ht ends => handle e t ends.1 ht

/-- Harmless requests, whatever comes of them. -/
theorem Only.yields {kind : {β : Type} → Request β → Prop} {p : Program Request Error α}
    (only : p.Only kind) (s : σ)
    (harmless : ∀ {β : Type} (q : Request β) t, kind q → inv t →
      k.issues q t ∧ inv (h.answer q t).2 ∧ k.rely t (h.answer q t).2) :
    p.Yields h inv k (fun _ _ => True) s :=
  (only.meets harmless).weaken fun _ _ _ _ _ _ => trivial

end Program

namespace Pool

/-- The same programs, with something else made of their results. -/
def map (f : α → β) (c : Pool Request Error α σ ι) : Pool Request Error β σ ι :=
  ⟨c.state,fun i => f <$> c.threads i⟩

variable {h : Handler Request σ}

theorem issued_map (f : α → β) (c : Pool Request Error α σ ι) (i : ι) :
    (c.map f).issued i = c.issued i := by
  unfold issued map
  cases next : c.threads i <;> simp [next]

variable [DecidableEq ι]

theorem step_map (f : α → β) (c : Pool Request Error α σ ι) (i : ι) :
    (c.map f).step h i = (c.step h i).map f := by
  rcases c.issued_cases i with ended | ⟨Answer,q,k,next⟩
  · rw [step_ended ended, step_ended ((issued_map f c i).trans ended)]
  · have next' : (c.map f).threads i = .request q fun b => f <$> k b := by
      simp [map, next]
    rw [step_request next, step_request next']
    refine congrArg (Pool.mk (h.answer q c.state).2) (funext fun j => ?_)
    by_cases same : j = i
    · subst same
      simp [map]
    · simp [map, Function.update_of_ne same]

theorem trace_map (f : α → β) (c : Pool Request Error α σ ι) (schedule : List ι) :
    (c.map f).trace h schedule = c.trace h schedule := by
  induction schedule generalizing c with
  | nil => rfl
  | cons i rest ih => rw [trace, step_map, ih, issued_map, trace]

end Pool
end Concurrency
