import Chatterbox.Concurrency.OwnSteps
import Mathlib.Data.List.Chain
import Mathlib.Data.List.Induction

/-!
Programs that announce what they change. A program that has changed the status announces
the new one with its next request, and it announces nothing else. When the programs of a
pool announce in the order of their changes, what has been announced is what has happened,
up to the changes that still wait.
-/
namespace Concurrency
variable {Request : Type → Type} {Error α β σ κ ι : Type}

/-- A status that the state has, and the requests that announce one. -/
structure Announcing (Request : Type → Type) (σ κ : Type) where
  handler : Handler Request σ
  status : σ → κ
  announces : {β : Type} → Request β → Option κ
  quiet : ∀ {β : Type} (q : Request β) s, (announces q).isSome = true →
    status (handler.answer q s).2 = status s

namespace Announcing
variable [DecidableEq κ] (k : Announcing Request σ κ)

/-- The new status, if the step changes it. -/
def changed (e : Issued Request σ ι) : Option κ :=
  if k.status (k.handler.answer e.request e.before).2 = k.status e.before then none
  else some (k.status (k.handler.answer e.request e.before).2)

/-- What a program has still to announce after its own steps. -/
def owed (own : List (Issued Request σ ι)) : Option κ := own.getLast?.bind k.changed

def changes (past : List (Issued Request σ ι)) : List κ := past.filterMap k.changed

def announced (past : List (Issued Request σ ι)) : List κ :=
  past.filterMap fun e => k.announces e.request

variable {k}

theorem changed_quiet {e : Issued Request σ ι} (announces : (k.announces e.request).isSome = true) :
    k.changed e = none :=
  if_pos (k.quiet e.request e.before announces)

@[simp] theorem owed_append (own : List (Issued Request σ ι)) (e : Issued Request σ ι) :
    k.owed (own ++ [e]) = k.changed e := by
  simp [owed]

theorem changes_append (past later : List (Issued Request σ ι)) :
    k.changes (past ++ later) = k.changes past ++ k.changes later :=
  List.filterMap_append

omit [DecidableEq κ] in
theorem announced_append (past later : List (Issued Request σ ι)) :
    k.announced (past ++ later) = k.announced past ++ k.announced later :=
  List.filterMap_append

section Waiting
variable [DecidableEq ι] (k)

/-- The changes whose programs have not moved since, in their order. -/
def waiting (past : List (Issued Request σ ι)) : List (Issued Request σ ι) :=
  past.foldl (fun queue e => queue.filter (fun f => f.thread ≠ e.thread) ++
    if (k.changed e).isSome then [e] else []) []

/-- Whoever announces has waited longest. -/
def InTurn (past : List (Issued Request σ ι)) (e : Issued Request σ ι) : Prop :=
  (k.announces e.request).isSome = true →
    (k.waiting past).head?.map Issued.thread = some e.thread

instance (past : List (Issued Request σ ι)) (e : Issued Request σ ι) :
    Decidable (k.InTurn past e) :=
  inferInstanceAs (Decidable (_ → _))

variable {k}

theorem waiting_append (past : List (Issued Request σ ι)) (e : Issued Request σ ι) :
    k.waiting (past ++ [e]) = (k.waiting past).filter (fun f => f.thread ≠ e.thread) ++
      if (k.changed e).isSome then [e] else [] := by
  simp [waiting]

/-- A program waits with its last step or not at all. -/
theorem waiting_thread (i : ι) (past : List (Issued Request σ ι)) :
    (k.waiting past).filter (fun f => f.thread = i) =
      (Pool.ownSteps i past).getLast?.toList.filter (fun f => (k.changed f).isSome) := by
  induction past using List.reverseRecOn with
  | nil => rfl
  | append_singleton past e ih =>
    rw [waiting_append, List.filter_append, List.filter_filter]
    by_cases mine : e.thread = i
    · subst mine
      have own := Pool.ownSteps_mine past e
      have gone : (k.waiting past).filter
          (fun f => decide (f.thread = e.thread) && decide (f.thread ≠ e.thread)) = [] := by
        simp
      rw [gone, List.nil_append, own]
      by_cases changes : (k.changed e).isSome = true
      · simp [changes]
      · simp [changes]
    · have kept : (k.waiting past).filter
          (fun f => decide (f.thread = i) && decide (f.thread ≠ e.thread)) =
          (k.waiting past).filter (fun f => f.thread = i) := by
        apply List.filter_congr
        intro f _
        by_cases same : f.thread = i
        · have other : i ≠ e.thread := fun is => mine is.symm
          simp [same, other]
        · simp [same]
      rw [kept, ih, Pool.ownSteps_other mine]
      split
      · simp [mine]
      · simp

theorem not_waiting {i : ι} {past : List (Issued Request σ ι)}
    (settled : k.owed (Pool.ownSteps i past) = none) :
    (k.waiting past).filter (fun f => f.thread = i) = [] := by
  rw [waiting_thread]
  cases last : (Pool.ownSteps i past).getLast? with
  | none => rfl
  | some f =>
    have still : k.changed f = none := by simpa [owed, last] using settled
    simp [still]

/-- The one who has waited longest, and the others. -/
theorem waiting_head {i : ι} {past : List (Issued Request σ ι)} {x : κ}
    (owes : k.owed (Pool.ownSteps i past) = some x)
    (first : (k.waiting past).head?.map Issued.thread = some i) :
    ∃ f rest, k.waiting past = f :: rest ∧ k.changed f = some x ∧
      (k.waiting past).filter (fun g => g.thread ≠ i) = rest := by
  cases queue : k.waiting past with
  | nil => simp [queue] at first
  | cons f rest =>
    have mine : f.thread = i := by simpa [queue] using first
    have alone := waiting_thread (k := k) i past
    obtain ⟨g,last,is⟩ := Option.bind_eq_some_iff.mp owes
    rw [queue, last, List.filter_cons_of_pos (by simpa using mine)] at alone
    simp only [Option.toList_some, is, Option.isSome_some, List.filter_cons_of_pos,
      List.filter_nil, List.cons.injEq] at alone
    obtain ⟨rfl,others⟩ := alone
    refine ⟨f,rest,rfl,is,?_⟩
    rw [List.filter_cons_of_neg (by simpa using mine), List.filter_eq_self]
    intro g mem
    have other := List.filter_eq_nil_iff.mp others g mem
    simpa using other

end Waiting
end Announcing

variable [DecidableEq κ] {k : Announcing Request σ κ}

namespace Program

/-- Every change is announced with the next request, and nothing else is announced. -/
def Announces (k : Announcing Request σ κ)
    (admits : List (Issued Request σ ι) → Issued Request σ ι → Prop) (i : ι) :
    List (Issued Request σ ι) → Program Request Error α → Prop
  | past, .request q rest => ∀ s, admits past ⟨i,_,q,s⟩ → k.announces q = k.owed past ∧
      (rest (k.handler.answer q s).1).Announces k admits i (past ++ [⟨i,_,q,s⟩])
  | past, _ => k.owed past = none

variable {admits : List (Issued Request σ ι) → Issued Request σ ι → Prop} {i : ι}
  {kind : {β : Type} → Request β → Prop} {past : List (Issued Request σ ι)}

/-- A program that never has anything to announce. -/
theorem Only.announces {p : Program Request Error α} (only : p.Only kind)
    (still : ∀ {β : Type} (q : Request β) s, kind q →
      k.announces q = none ∧ k.changed (⟨i,_,q,s⟩ : Issued Request σ ι) = none)
    (settled : k.owed past = none) : p.Announces k admits i past := by
  induction p generalizing past with
  | done a => exact settled
  | fail e => exact settled
  | request q rest ih =>
    intro s _
    obtain ⟨silent,same⟩ := still q s only.1
    exact ⟨by rw [silent, settled],ih _ (only.2 _) (by simpa using same)⟩

end Program

namespace Pool
variable [DecidableEq ι] {admits : List (Issued Request σ ι) → Issued Request σ ι → Prop}

/-- No program makes a step any more. -/
def Ended (c : Pool Request Error α σ ι) : Prop := ∀ i, c.issued i = []

/-- What has been announced is what has changed, up to the changes that wait. -/
structure Announced (k : Announcing Request σ κ)
    (admits : List (Issued Request σ ι) → Issued Request σ ι → Prop)
    (past : List (Issued Request σ ι)) (c : Pool Request Error α σ ι) : Prop where
  threads : ∀ i, (c.threads i).Announces k admits i (ownSteps i past)
  told : k.changes past = k.announced past ++ (k.waiting past).filterMap k.changed

theorem announced_step {past : List (Issued Request σ ι)} {c : Pool Request Error α σ ι}
    (ok : Announced k admits past c) (j : ι)
    (admitted : ∀ e ∈ c.issued j, admits (ownSteps j past) e ∧ k.InTurn past e) :
    Announced k admits (past ++ c.issued j) (c.step k.handler j) := by
  rcases c.issued_cases j with ended | ⟨β,q,rest,next⟩
  · rw [step_ended ended, ended, List.append_nil]
    exact ok
  · have mine := ok.threads j
    rw [next] at mine
    rw [issued_request next] at admitted ⊢
    rw [step_request next]
    obtain ⟨may,inTurn⟩ := admitted _ List.mem_cons_self
    obtain ⟨announces,later⟩ := mine c.state may
    constructor
    · exact threads_step ok.threads later
    · rw [Announcing.changes_append, Announcing.announced_append, Announcing.waiting_append,
        ok.told]
      cases owes : k.owed (ownSteps j past) with
      | none =>
        -- the program has nothing to announce, and joins the queue if it makes a change
        have same : (k.waiting past).filter (fun f => f.thread ≠ j) = k.waiting past := by
          rw [List.filter_eq_self]
          intro f mem
          simpa using List.filter_eq_nil_iff.mp (Announcing.not_waiting owes) f mem
        rw [owes] at announces
        have silent : k.announced [(⟨j,_,q,c.state⟩ : Issued Request σ ι)] = [] := by
          simp [Announcing.announced, announces]
        rw [same, silent, List.append_nil, List.filterMap_append, List.append_assoc]
        congr 2
        cases changed : k.changed (⟨j,_,q,c.state⟩ : Issued Request σ ι) with
        | none => simp [Announcing.changes, changed]
        | some x => simp [Announcing.changes, changed]
      | some x =>
        -- the program announces the change at the head of the queue
        rw [owes] at announces
        have speaks : (k.announces q).isSome = true := by rw [announces]; rfl
        obtain ⟨f,others,queue,is,left⟩ := Announcing.waiting_head owes (inTurn speaks)
        have still : k.changed (⟨j,_,q,c.state⟩ : Issued Request σ ι) = none :=
          Announcing.changed_quiet speaks
        rw [left, queue]
        simp [Announcing.changes, Announcing.announced, is, still, announces]

/-- Programs that announce their changes, run side by side in any order in which they
    announce in turn. -/
theorem announced_run {c : Pool Request Error α σ ι}
    (threads : ∀ i, (c.threads i).Announces k admits i []) (schedule : List ι)
    (admitted : ∀ before e later, c.trace k.handler schedule = before ++ e :: later →
      admits (ownSteps e.thread before) e ∧ k.InTurn before e) :
    Announced k admits (c.trace k.handler schedule) (c.run k.handler schedule) := by
  have start : Announced k admits [] c := ⟨threads,rfl⟩
  let allowed (j : ι) (past : List (Issued Request σ ι)) (e : Issued Request σ ι) : Prop :=
    admits (ownSteps j past) e ∧ k.InTurn past e
  have step : ∀ past (c : Pool Request Error α σ ι) j, Announced k admits past c →
      (∀ e ∈ c.issued j, allowed j past e) →
      Announced k admits (past ++ c.issued j) (c.step k.handler j) :=
    fun _ _ j ok now => announced_step ok j now
  exact steps_run step start schedule admitted

/-- Once all programs have ended, everything has been announced. -/
theorem Announced.complete {past : List (Issued Request σ ι)} {c : Pool Request Error α σ ι}
    (ok : Announced k admits past c) (ended : c.Ended) : k.announced past = k.changes past := by
  have settled : ∀ i, k.owed (ownSteps i past) = none := by
    intro i
    have mine := ok.threads i
    cases next : c.threads i with
    | done a => rwa [next] at mine
    | fail e => rwa [next] at mine
    | request q rest =>
      have none := ended i
      simp [issued_request next] at none
  have empty : k.waiting past = [] := by
    apply List.eq_nil_iff_forall_not_mem.mpr
    intro f mem
    have mine := List.filter_eq_nil_iff.mp (Announcing.not_waiting (settled f.thread)) f mem
    simp at mine
  rw [ok.told, empty, List.filterMap_nil, List.append_nil]

/-- The status goes through the changes, and every change makes it another. -/
theorem changes_run (c : Pool Request Error α σ ι) (schedule : List ι) :
    (k.status c.state :: k.changes (c.trace k.handler schedule)).IsChain (· ≠ ·) ∧
      (k.status c.state :: k.changes (c.trace k.handler schedule)).getLast? =
        some (k.status (c.run k.handler schedule).state) := by
  have step : ∀ (past : List (Issued Request σ ι)) (e : Issued Request σ ι),
      (k.status c.state :: k.changes past).IsChain (· ≠ ·) ∧
        (k.status c.state :: k.changes past).getLast? = some (k.status e.before) →
      (k.status c.state :: k.changes (past ++ [e])).IsChain (· ≠ ·) ∧
        (k.status c.state :: k.changes (past ++ [e])).getLast? =
          some (k.status (k.handler.answer e.request e.before).2) := by
    intro past e known
    obtain ⟨chain,last⟩ := known
    rw [Announcing.changes_append]
    by_cases same : k.status (k.handler.answer e.request e.before).2 = k.status e.before
    · have still : k.changes [e] = [] := by simp [Announcing.changes, Announcing.changed, same]
      rw [still, List.append_nil, same]
      exact ⟨chain,last⟩
    · have new : k.changes [e] = [k.status (k.handler.answer e.request e.before).2] := by
        simp [Announcing.changes, Announcing.changed, same]
      rw [new, ← List.cons_append]
      constructor
      · apply List.isChain_append.mpr
        refine ⟨chain,List.isChain_singleton _,?_⟩
        intro x isLast y isFirst
        rw [last, Option.mem_some_iff] at isLast
        rw [List.head?_cons, Option.mem_some_iff] at isFirst
        rw [← isLast, ← isFirst]
        exact fun is => same is.symm
      · rw [List.getLast?_concat]
  exact trace_run (h := k.handler) (fun past s =>
    (k.status c.state :: k.changes past).IsChain (· ≠ ·) ∧
      (k.status c.state :: k.changes past).getLast? = some (k.status s))
    (fun before e later _ known => step before e known) ⟨List.isChain_singleton _,rfl⟩

end Pool
end Concurrency
