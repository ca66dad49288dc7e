import Chatterbox.Concurrency.Pool

/-!
What a program does at one of its steps, told from the states it has met at its own
earlier steps. The steps of the other programs stay out of the picture, whatever they do
in between. A request may have more than one answer, as when it can fail.
-/
namespace Concurrency
variable {Request : Type → Type} {Error α β σ τ ι : Type}

/-- Which answers a request may get in a state. -/
abbrev Answering (Request : Type → Type) (σ : Type) := {β : Type} → Request β → σ → β → Prop

/-- The answer of the handler and no other. -/
def Handler.answering (h : Handler Request σ) : Answering Request σ :=
  fun q s b => b = (h.answer q s).1

theorem Handler.answers (h : Handler Request σ) (q : Request β) (s : σ) :
    h.answering q s (h.answer q s).1 := rfl

/-- The step, where only a part of the state is looked at. -/
def Issued.seen (see : τ → σ) (e : Issued Request τ ι) : Issued Request σ ι :=
  ⟨e.thread,e.Answer,e.request,see e.before⟩

namespace Program

/-- Every step of the program is good after the steps it has made before. -/
def Along (answering : Answering Request σ)
    (good : List (Issued Request σ ι) → Issued Request σ ι → Prop) (i : ι) :
    List (Issued Request σ ι) → Program Request Error α → Prop
  | past, .request q rest => ∀ s, good past ⟨i,_,q,s⟩ ∧
      ∀ b, answering q s b → (rest b).Along answering good i (past ++ [⟨i,_,q,s⟩])
  | _, _ => True

variable {answering : Answering Request σ}
  {good : List (Issued Request σ ι) → Issued Request σ ι → Prop} {i : ι}

/-- All steps of a program are steps of its own thread. -/
theorem Along.weaken {good' : List (Issued Request σ ι) → Issued Request σ ι → Prop}
    {past : List (Issued Request σ ι)} {p : Program Request Error α}
    (along : p.Along answering good i past)
    (imp : ∀ past e, e.thread = i → good past e → good' past e) :
    p.Along answering good' i past := by
  induction p generalizing past with
  | done a => trivial
  | fail e => trivial
  | request q rest ih =>
    exact fun s => ⟨imp _ _ rfl (along s).1,fun b is => ih _ ((along s).2 b is)⟩

/-- Requests of a kind that is always good. -/
theorem Only.along {kind : {β : Type} → Request β → Prop} {p : Program Request Error α}
    (only : p.Only kind)
    (harmless : ∀ past {β : Type} (q : Request β) s, kind q → good past ⟨i,_,q,s⟩)
    (past : List (Issued Request σ ι)) : p.Along answering good i past := by
  induction p generalizing past with
  | done a => trivial
  | fail e => trivial
  | request q rest ih =>
    exact fun s => ⟨harmless past q s only.1,fun b _ => ih _ (only.2 _) _⟩

/-- A sequence whose first part issues requests that are always good. -/
theorem along_bind {kind : {β : Type} → Request β → Prop} {p : Program Request Error α}
    {f : α → Program Request Error β} (only : p.Only kind)
    (harmless : ∀ past {β : Type} (q : Request β) s, kind q → good past ⟨i,_,q,s⟩)
    (past : List (Issued Request σ ι))
    (next : ∀ a later, (∀ e ∈ later, kind e.request) →
      (f a).Along answering good i (past ++ later)) :
    (p >>= f).Along answering good i past := by
  induction p generalizing past with
  | done a => simpa using next a [] (by simp)
  | fail e => trivial
  | request q rest ih =>
    intro s
    refine ⟨harmless past q s only.1,fun b _ => ih _ (only.2 _) _ fun a later all => ?_⟩
    have longer := next a ([⟨i,_,q,s⟩] ++ later) (by simpa using ⟨only.1,all⟩)
    rwa [← List.append_assoc] at longer

/-- Two parts one after another. -/
theorem Along.bind {p : Program Request Error α} {f : α → Program Request Error β}
    {past : List (Issued Request σ ι)} (first : p.Along answering good i past)
    (next : ∀ a later, (f a).Along answering good i (past ++ later)) :
    (p >>= f).Along answering good i past := by
  induction p generalizing past with
  | done a => simpa using next a []
  | fail e => trivial
  | request q rest ih =>
    intro s
    refine ⟨(first s).1,fun b is => ih _ ((first s).2 b is) fun a later => ?_⟩
    have longer := next a ([⟨i,_,q,s⟩] ++ later)
    rwa [← List.append_assoc] at longer

theorem Along.tryCatch {p : Program Request Error α} {f : Error → Program Request Error α}
    {past : List (Issued Request σ ι)} (first : p.Along answering good i past)
    (next : ∀ e later, (f e).Along answering good i (past ++ later)) :
    (tryCatchThe Error p f).Along answering good i past := by
  induction p generalizing past with
  | done a => trivial
  | fail e => simpa using next e []
  | request q rest ih =>
    intro s
    refine ⟨(first s).1,fun b is => ih _ ((first s).2 b is) fun e later => ?_⟩
    have longer := next e ([⟨i,_,q,s⟩] ++ later)
    rwa [← List.append_assoc] at longer

end Program

namespace Pool
variable [DecidableEq ι] {h : Handler Request σ}
  {good : List (Issued Request σ ι) → Issued Request σ ι → Prop}

def ownSteps (i : ι) (past : List (Issued Request σ ι)) : List (Issued Request σ ι) :=
  past.filter (fun e => e.thread = i)

theorem ownSteps_mine (past : List (Issued Request σ ι)) (e : Issued Request σ ι) :
    ownSteps e.thread (past ++ [e]) = ownSteps e.thread past ++ [e] := by
  simp [ownSteps, List.filter_append]

theorem ownSteps_other {i : ι} {past : List (Issued Request σ ι)} {e : Issued Request σ ι}
    (other : e.thread ≠ i) : ownSteps i (past ++ [e]) = ownSteps i past := by
  simp [ownSteps, List.filter_append, other]

/-- What is said of every program and its own steps, when one of them has moved. -/
theorem threads_step {holds : ι → List (Issued Request σ ι) → Program Request Error α → Prop}
    {threads : ι → Program Request Error α} {past : List (Issued Request σ ι)}
    (all : ∀ i, holds i (ownSteps i past) (threads i)) {j : ι} {q : Request β} {s : σ}
    {p : Program Request Error α} (moved : holds j (ownSteps j past ++ [⟨j,_,q,s⟩]) p) (i : ι) :
    holds i (ownSteps i (past ++ [⟨j,_,q,s⟩])) (Function.update threads j p i) := by
  by_cases same : i = j
  · subst same
    rw [ownSteps_mine past ⟨i,_,q,s⟩, Function.update_self]
    exact moved
  · rw [ownSteps_other fun is => same is.symm, Function.update_of_ne same]
    exact all i

section Seen
variable {h : Handler Request τ} {see : τ → σ} {answering : Answering Request σ}

theorem along_step (answers : ∀ {β : Type} (q : Request β) t,
      answering q (see t) (h.answer q t).1)
    {c : Pool Request Error α τ ι} {past : List (Issued Request σ ι)}
    (along : ∀ i, (c.threads i).Along answering good i (ownSteps i past)) (j : ι) :
    (∀ e ∈ c.issued j, good (ownSteps e.thread past) (e.seen see)) ∧
      ∀ i, ((c.step h j).threads i).Along answering good i
        (ownSteps i (past ++ (c.issued j).map (Issued.seen see))) := by
  rcases c.issued_cases j with ended | ⟨β,q,rest,next⟩
  · rw [step_ended ended, ended, List.map_nil, List.append_nil]
    exact ⟨by simp,along⟩
  · have mine := along j
    rw [next] at mine
    obtain ⟨now,later⟩ := mine (see c.state)
    rw [issued_request next, step_request next]
    constructor
    · intro e mem
      rw [List.mem_singleton.mp mem]
      exact now
    · exact threads_step along (later _ (answers q c.state))

end Seen

/-- Induction over the steps of a run, each with the steps before it at hand. -/
theorem steps_run {holds : List (Issued Request σ ι) → Pool Request Error α σ ι → Prop}
    {allowed : ι → List (Issued Request σ ι) → Issued Request σ ι → Prop}
    (step : ∀ past (c : Pool Request Error α σ ι) j, holds past c →
      (∀ e ∈ c.issued j, allowed j past e) → holds (past ++ c.issued j) (c.step h j))
    {past : List (Issued Request σ ι)} {c : Pool Request Error α σ ι} (start : holds past c)
    (schedule : List ι) (ok : ∀ before e later, c.trace h schedule = before ++ e :: later →
      allowed e.thread (past ++ before) e) :
    holds (past ++ c.trace h schedule) (c.run h schedule) := by
  induction schedule generalizing c past with
  | nil => simpa [trace, run] using start
  | cons j schedule ih =>
    have now : ∀ e ∈ c.issued j, allowed j past e := by
      intro e mem
      have entry := ok [] e ((c.step h j).trace h schedule) (by
        rw [trace, issued_alone mem]
        rfl)
      rwa [List.append_nil, (issued_thread mem).1] at entry
    have later := ih (step past c j start now) fun before e rest cut => by
      have entry := ok (c.issued j ++ before) e rest (by rw [trace, cut, List.append_assoc])
      rwa [List.append_assoc]
    rwa [List.append_assoc] at later

/-- A condition on every step and the steps before it can be evaluated. -/
instance {γ : Type*} (good : List γ → γ → Prop) [∀ past e, Decidable (good past e)]
    (trace : List γ) :
    Decidable (∀ before e later, trace = before ++ e :: later → good before e) :=
  decidable_of_iff (∀ n : Fin trace.length, good (trace.take n) (trace.get n)) (by
    constructor
    · intro every before e later cut
      subst cut
      simpa using every ⟨before.length,by simp⟩
    · intro every n
      apply every _ _ (trace.drop (n + 1))
      rw [List.get_eq_getElem, List.getElem_cons_drop, List.take_append_drop])

/-- Every step of a run is good after the steps its program has made before, where the answers
    of the run are possible ones. -/
theorem along_run_seen {h : Handler Request τ} (see : τ → σ) {answering : Answering Request σ}
    (answers : ∀ {β : Type} (q : Request β) t, answering q (see t) (h.answer q t).1)
    {c : Pool Request Error α τ ι} (past : List (Issued Request σ ι))
    (along : ∀ i, (c.threads i).Along answering good i (ownSteps i past)) (schedule : List ι)
    {before later : List (Issued Request τ ι)} {e : Issued Request τ ι}
    (cut : c.trace h schedule = before ++ e :: later) :
    good (ownSteps e.thread (past ++ before.map (Issued.seen see))) (e.seen see) := by
  induction schedule generalizing c past before with
  | nil => simp [trace] at cut
  | cons j schedule ih =>
    obtain ⟨now,after⟩ := along_step answers along j
    rw [trace] at cut
    rcases List.append_eq_append_iff.mp cut with ⟨rest,is,tail⟩ | ⟨rest,is,tail⟩
    · have result := ih (past ++ (c.issued j).map (Issued.seen see)) after tail
      rwa [is, List.map_append, ← List.append_assoc]
    · cases rest with
      | nil =>
        rw [List.append_nil] at is
        have first : (c.step h j).trace h schedule = [] ++ e :: later := tail.symm
        have result := ih (past ++ (c.issued j).map (Issued.seen see)) after first
        rwa [is, List.map_nil, List.append_nil] at result
      | cons f rest =>
        obtain ⟨rfl,_⟩ := List.cons.inj tail
        have mem : e ∈ c.issued j := by simp [is]
        have alone : before = [] := by
          rw [issued_alone mem] at is
          cases before with
          | nil => rfl
          | cons g before => simp at is
        rw [alone, List.map_nil, List.append_nil]
        exact now e mem

/-- The same where the steps are looked at as they are. -/
theorem along_run {answering : Answering Request σ}
    (answers : ∀ {β : Type} (q : Request β) s, answering q s (h.answer q s).1)
    {c : Pool Request Error α σ ι}
    (along : ∀ i, (c.threads i).Along answering good i []) (schedule : List ι)
    {before later : List (Issued Request σ ι)} {e : Issued Request σ ι}
    (cut : c.trace h schedule = before ++ e :: later) :
    good (ownSteps e.thread before) e := by
  have step := along_run_seen id answers [] along schedule cut
  have same : before.map (Issued.seen id) = before := List.map_id'' (fun _ => rfl) before
  rwa [same] at step

end Pool
end Concurrency
