import Chatterbox.Concurrency.OwnSteps

/-!
A program judged by the states that it has met. At each of its steps it may use an
invariant, that the state has only moved on since its earlier steps, and what the run is
assumed to admit there. In return it keeps the invariant, and its result fits its steps.
-/
namespace Concurrency
variable {Request : Type → Type} {Error α β σ ι : Type}

/-- What the programs of a pool may use at every step, and keep. -/
structure Course (Request : Type → Type) (σ : Type) where
  handler : Handler Request σ
  inv : σ → Prop
  moves : σ → σ → Prop
  moves_refl : ∀ s, moves s s
  moves_trans : ∀ {s t u}, moves s t → moves t u → moves s u

variable {k : Course Request σ}

namespace Program

/-- The program keeps its course, and ends with a result that fits its own steps. -/
def Follows (k : Course Request σ) (admits : List (Issued Request σ ι) → Issued Request σ ι → Prop)
    (i : ι) (post : List (Issued Request σ ι) → Except Error α → Prop) :
    List (Issued Request σ ι) → Program Request Error α → Prop
  | past, .done a => post past (.ok a)
  | past, .fail e => post past (.error e)
  | past, .request q rest => ∀ s, k.inv s → (∀ e ∈ past, k.moves e.before s) →
      admits past ⟨i,_,q,s⟩ →
      k.inv (k.handler.answer q s).2 ∧ k.moves s (k.handler.answer q s).2 ∧
        (rest (k.handler.answer q s).1).Follows k admits i post (past ++ [⟨i,_,q,s⟩])

variable {admits : List (Issued Request σ ι) → Issued Request σ ι → Prop} {i : ι}
  {past : List (Issued Request σ ι)}

theorem Follows.bind {first : List (Issued Request σ ι) → Except Error α → Prop}
    {post : List (Issued Request σ ι) → Except Error β → Prop} {p : Program Request Error α}
    {f : α → Program Request Error β} (ok : p.Follows k admits i first past)
    (next : ∀ past a, first past (.ok a) → (f a).Follows k admits i post past)
    (stop : ∀ past e, first past (.error e) → post past (.error e)) :
    (p >>= f).Follows k admits i post past := by
  induction p generalizing past with
  | done a => exact next past a ok
  | fail e => exact stop past e ok
  | request q rest ih =>
    intro s hs moved admitted
    obtain ⟨kept,within,later⟩ := ok s hs moved admitted
    exact ⟨kept,within,ih _ later⟩

theorem Follows.tryCatch {first post : List (Issued Request σ ι) → Except Error α → Prop}
    {p : Program Request Error α} {f : Error → Program Request Error α}
    (ok : p.Follows k admits i first past)
    (done : ∀ past a, first past (.ok a) → post past (.ok a))
    (handle : ∀ past e, first past (.error e) → (f e).Follows k admits i post past) :
    (tryCatchThe Error p f).Follows k admits i post past := by
  induction p generalizing past with
  | done a => exact done past a ok
  | fail e => exact handle past e ok
  | request q rest ih =>
    intro s hs moved admitted
    obtain ⟨kept,within,later⟩ := ok s hs moved admitted
    exact ⟨kept,within,ih _ later⟩

/-- Requests that keep the course, and a fact about the steps that each of them carries on. -/
theorem Only.follows {kind : {β : Type} → Request β → Prop} {p : Program Request Error α}
    {holds : List (Issued Request σ ι) → Prop} (only : p.Only kind)
    (harmless : ∀ {β : Type} (q : Request β) s, kind q → k.inv s →
      k.inv (k.handler.answer q s).2 ∧ k.moves s (k.handler.answer q s).2)
    (carries : ∀ past e, holds past → k.inv e.before → admits past e → holds (past ++ [e]))
    (start : holds past) : p.Follows k admits i (fun past _ => holds past) past := by
  induction p generalizing past with
  | done a => exact start
  | fail e => exact start
  | request q rest ih =>
    intro s hs _ admitted
    obtain ⟨kept,within⟩ := harmless q s only.1 hs
    exact ⟨kept,within,ih _ (only.2 _) (carries past _ start hs admitted)⟩

end Program

namespace Pool
variable [DecidableEq ι]
  {admits : ι → List (Issued Request σ ι) → Issued Request σ ι → Prop}
  {post : ι → List (Issued Request σ ι) → Except Error α → Prop}

structure Followed (k : Course Request σ)
    (admits : ι → List (Issued Request σ ι) → Issued Request σ ι → Prop)
    (post : ι → List (Issued Request σ ι) → Except Error α → Prop)
    (past : List (Issued Request σ ι)) (c : Pool Request Error α σ ι) : Prop where
  inv : k.inv c.state
  moved : ∀ e ∈ past, k.moves e.before c.state
  threads : ∀ i, (c.threads i).Follows k (admits i) i (post i) (ownSteps i past)

theorem followed_step {past : List (Issued Request σ ι)} {c : Pool Request Error α σ ι}
    (ok : Followed k admits post past c) (j : ι)
    (admitted : ∀ e ∈ c.issued j, admits j (ownSteps j past) e) :
    Followed k admits post (past ++ c.issued j) (c.step k.handler j) := by
  rcases c.issued_cases j with ended | ⟨β,q,rest,next⟩
  · rw [step_ended ended, ended, List.append_nil]
    exact ok
  · have mine := ok.threads j
    rw [next] at mine
    rw [issued_request next] at admitted ⊢
    rw [step_request next]
    obtain ⟨kept,within,later⟩ := mine c.state ok.inv
      (fun e mem => ok.moved e (List.mem_filter.mp mem).1) (admitted _ List.mem_cons_self)
    constructor
    · exact kept
    · intro e mem
      rcases List.mem_append.mp mem with old | new
      · exact k.moves_trans (ok.moved e old) within
      · rw [List.mem_singleton.mp new]
        exact within
    · exact threads_step ok.threads later

/-- Programs that keep the course, run side by side: the invariant holds at every step, and
    whoever has ended has a result that fits its steps. -/
theorem followed_run {c : Pool Request Error α σ ι} (inv : k.inv c.state)
    (threads : ∀ i, (c.threads i).Follows k (admits i) i (post i) []) (schedule : List ι)
    (admitted : ∀ before e later, c.trace k.handler schedule = before ++ e :: later →
      admits e.thread (ownSteps e.thread before) e) :
    Followed k admits post (c.trace k.handler schedule) (c.run k.handler schedule) := by
  have start : Followed k admits post [] c := ⟨inv,by simp,threads⟩
  let allowed (j : ι) (past : List (Issued Request σ ι)) (e : Issued Request σ ι) : Prop :=
    admits j (ownSteps j past) e
  have step : ∀ past (c : Pool Request Error α σ ι) j, Followed k admits post past c →
      (∀ e ∈ c.issued j, allowed j past e) →
      Followed k admits post (past ++ c.issued j) (c.step k.handler j) :=
    fun _ _ j ok now => followed_step ok j now
  exact steps_run step start schedule admitted

/-- A program that has ended has a result that fits its steps. -/
theorem Followed.ended {past : List (Issued Request σ ι)} {c : Pool Request Error α σ ι}
    (ok : Followed k admits post past c) (i : ι) :
    (∀ a, c.threads i = .done a → post i (ownSteps i past) (.ok a)) ∧
      ∀ e, c.threads i = .fail e → post i (ownSteps i past) (.error e) := by
  have mine := ok.threads i
  constructor
  · intro a done
    rwa [done] at mine
  · intro e failed
    rwa [failed] at mine

end Pool
end Concurrency
