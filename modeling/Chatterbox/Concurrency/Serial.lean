import Chatterbox.Concurrency.OwnSteps
import Mathlib.Data.List.Nodup

/-!
Serializability by pivots. Every program has one step, its pivot, that does to the shared
view what the whole program would do if it ran alone at that moment; its other steps leave
the view as it is. Running the programs one after another in the order of their pivots then
leads to the same view.
-/
namespace Concurrency
variable {Request : Type → Type} {Error α β σ δ ι : Type}

/-- The programs one after another, each without interruption. -/
def serially (h : Handler Request σ) (programs : ι → Program Request Error α) :
    List ι → σ → σ
  | [], s => s
  | i :: rest, s => serially h programs rest ((programs i).run h s).2

theorem serially_append (h : Handler Request σ) (programs : ι → Program Request Error α)
    (first rest : List ι) (s : σ) :
    serially h programs (first ++ rest) s = serially h programs rest (serially h programs first s) := by
  induction first generalizing s with
  | nil => rfl
  | cons i first ih => exact ih _

/-- What the programs share: the view that counts, an invariant, and what a program may
    assume until its pivot because no other program changes it. -/
structure Sharing (Request : Type → Type) (σ δ ι : Type) where
  handler : Handler Request σ
  view : σ → δ
  inv : σ → Prop
  mine : ι → σ → Prop

variable {k : Sharing Request σ δ ι}

/-- A step of the program `i` that leaves to the others what they rely on. -/
def Sharing.Keeps (k : Sharing Request σ δ ι) (i : ι) (s t : σ) : Prop :=
  k.inv t ∧ ∀ j, j ≠ i → k.mine j s → k.mine j t

namespace Program

/-- The view stays as it is. -/
def Silent (k : Sharing Request σ δ ι) (i : ι) : Program Request Error α → Prop
  | .request q rest => ∀ s, k.inv s → k.Keeps i s (k.handler.answer q s).2 ∧
      k.view (k.handler.answer q s).2 = k.view s ∧
      (rest (k.handler.answer q s).1).Silent k i
  | _ => True

/-- The program is before its pivot, in every run in which its steps are admitted. -/
def Pivots (k : Sharing Request σ δ ι) (whole : Program Request Error α)
    (admits : List (Issued Request σ ι) → Issued Request σ ι → Prop) (i : ι) :
    List (Issued Request σ ι) → Program Request Error α → Prop
  | past, .request q rest => ∀ s, k.inv s → k.mine i s → admits past ⟨i,_,q,s⟩ →
      k.Keeps i s (k.handler.answer q s).2 ∧
      ((k.view (k.handler.answer q s).2 = k.view s ∧ k.mine i (k.handler.answer q s).2 ∧
          Pivots k whole admits i (past ++ [⟨i,_,q,s⟩]) (rest (k.handler.answer q s).1)) ∨
        (k.view (k.handler.answer q s).2 = k.view (whole.run k.handler s).2 ∧
          (rest (k.handler.answer q s).1).Silent k i))
  | _, _ => False

/-- Requests that never touch the view. -/
theorem Only.silent {kind : {β : Type} → Request β → Prop} {p : Program Request Error α} {i : ι}
    (only : p.Only kind)
    (harmless : ∀ {β : Type} (q : Request β) s, kind q → k.inv s →
      k.Keeps i s (k.handler.answer q s).2 ∧ k.view (k.handler.answer q s).2 = k.view s) :
    p.Silent k i := by
  induction p with
  | done a => trivial
  | fail e => trivial
  | request q rest ih =>
    intro s hs
    obtain ⟨keeps,same⟩ := harmless q s only.1 hs
    exact ⟨keeps,same,ih _ (only.2 _)⟩

theorem Silent.map {p : Program Request Error α} {i : ι} (silent : p.Silent k i) (g : α → β) :
    (g <$> p).Silent k i := by
  induction p with
  | done a => trivial
  | fail e => trivial
  | request q rest ih =>
    intro s hs
    obtain ⟨keeps,same,later⟩ := silent s hs
    exact ⟨keeps,same,ih _ later⟩

/-- What a program returns does not matter. -/
theorem Pivots.map {whole p : Program Request Error α}
    {admits : List (Issued Request σ ι) → Issued Request σ ι → Prop} {i : ι}
    {past : List (Issued Request σ ι)} (pivots : Pivots k whole admits i past p) (g : α → β) :
    Pivots k (g <$> whole) admits i past (g <$> p) := by
  induction p generalizing past with
  | done a => exact pivots
  | fail e => exact pivots
  | request q rest ih =>
    intro s hs own admitted
    obtain ⟨keeps,now⟩ := pivots s hs own admitted
    refine ⟨keeps,?_⟩
    rcases now with ⟨same,still,later⟩ | ⟨pivot,later⟩
    · exact Or.inl ⟨same,still,ih _ later⟩
    · rw [run_map]
      exact Or.inr ⟨pivot,later.map g⟩

end Program

namespace Pool
variable [DecidableEq ι] {programs : ι → Program Request Error α}
  {admits : ι → List (Issued Request σ ι) → Issued Request σ ι → Prop}

/-- The pivots so far, in order, account for the view. -/
structure Serialized (k : Sharing Request σ δ ι) (programs : ι → Program Request Error α)
    (admits : ι → List (Issued Request σ ι) → Issued Request σ ι → Prop) (start : σ)
    (past : List (Issued Request σ ι)) (c : Pool Request Error α σ ι) (order : List ι) : Prop where
  inv : k.inv c.state
  nodup : order.Nodup
  view : k.view c.state = k.view (serially k.handler programs order start)
  passed : ∀ i ∈ order, (c.threads i).Silent k i
  ahead : ∀ i, i ∉ order → k.mine i c.state ∧
    Program.Pivots k (programs i) (admits i) i (ownSteps i past) (c.threads i)

theorem serialized_step {start : σ} {past : List (Issued Request σ ι)}
    {c : Pool Request Error α σ ι} {order : List ι}
    (congr : ∀ i s t, k.view s = k.view t →
      k.view ((programs i).run k.handler s).2 = k.view ((programs i).run k.handler t).2)
    (ok : Serialized k programs admits start past c order) (j : ι)
    (admitted : ∀ e ∈ c.issued j, admits j (ownSteps j past) e) :
    ∃ order', Serialized k programs admits start (past ++ c.issued j) (c.step k.handler j) order' := by
  rcases c.issued_cases j with ended | ⟨β,q,rest,next⟩
  · rw [step_ended ended, ended, List.append_nil]
    exact ⟨order,ok⟩
  · rw [issued_request next] at admitted ⊢
    rw [step_request next]
    let after : σ := (k.handler.answer q c.state).2
    have aside : (∀ i, i ≠ j → k.mine i c.state → k.mine i after) → ∀ i, i ∉ order → i ≠ j →
        k.mine i after ∧ Program.Pivots k (programs i) (admits i) i
          (ownSteps i (past ++ [⟨j,_,q,c.state⟩]))
          (Function.update c.threads j (rest (k.handler.answer q c.state).1) i) := by
      intro mine i notIn other
      obtain ⟨still,ahead⟩ := ok.ahead i notIn
      rw [Function.update_of_ne other, ownSteps_other other.symm]
      exact ⟨mine i other still,ahead⟩
    have behind : (rest (k.handler.answer q c.state).1).Silent k j → ∀ i, i ∈ order ∨ i = j →
        (Function.update c.threads j (rest (k.handler.answer q c.state).1) i).Silent k i := by
      intro silent i mem
      by_cases it : i = j
      · subst it
        simpa using silent
      · simpa [it] using ok.passed i (mem.resolve_right it)
    by_cases passed : j ∈ order
    · have silent := ok.passed j passed
      rw [next] at silent
      obtain ⟨⟨inv,mine⟩,same,later⟩ := silent c.state ok.inv
      refine ⟨order,inv,ok.nodup,same.trans ok.view,fun i mem => behind later i (Or.inl mem),
        fun i notIn => aside mine i notIn ?_⟩
      rintro rfl
      exact notIn passed
    · obtain ⟨own,ahead⟩ := ok.ahead j passed
      rw [next] at ahead
      obtain ⟨⟨inv,mine⟩,now⟩ := ahead c.state ok.inv own
        (admitted _ (List.mem_singleton.mpr rfl))
      rcases now with ⟨same,still,later⟩ | ⟨pivot,later⟩
      · refine ⟨order,inv,ok.nodup,same.trans ok.view,fun i mem => ?_,fun i notIn => ?_⟩
        · have other : i ≠ j := by
            rintro rfl
            exact passed mem
          simpa [other] using ok.passed i mem
        · by_cases it : i = j
          · subst it
            have own := ownSteps_mine past ⟨i,_,q,c.state⟩
            exact ⟨still,by simpa [own] using later⟩
          · exact aside mine i notIn it
      · refine ⟨order ++ [j],inv,?_,?_,fun i mem => behind later i (by simpa using mem),
          fun i notIn => ?_⟩
        · rw [← List.concat_eq_append]
          exact ok.nodup.concat passed
        · rw [serially_append]
          exact pivot.trans (congr j _ _ ok.view)
        · rw [List.mem_append, List.mem_singleton, not_or] at notIn
          exact aside mine i notIn.1 notIn.2

theorem serialized_run {start : σ} {past : List (Issued Request σ ι)}
    {c : Pool Request Error α σ ι} {order : List ι}
    (congr : ∀ i s t, k.view s = k.view t →
      k.view ((programs i).run k.handler s).2 = k.view ((programs i).run k.handler t).2)
    (ok : Serialized k programs admits start past c order) (schedule : List ι)
    (admitted : ∀ before e later, c.trace k.handler schedule = before ++ e :: later →
      admits e.thread (ownSteps e.thread (past ++ before)) e) :
    ∃ order', Serialized k programs admits start (past ++ c.trace k.handler schedule)
      (c.run k.handler schedule) order' := by
  let allowed (j : ι) (past : List (Issued Request σ ι)) (e : Issued Request σ ι) : Prop :=
    admits j (ownSteps j past) e
  have step : ∀ past (c : Pool Request Error α σ ι) j,
      (∃ order, Serialized k programs admits start past c order) →
      (∀ e ∈ c.issued j, allowed j past e) →
      ∃ order, Serialized k programs admits start (past ++ c.issued j) (c.step k.handler j)
        order := by
    intro past c j holds now
    obtain ⟨order,ok⟩ := holds
    exact serialized_step congr ok j now
  exact steps_run step ⟨order,ok⟩ schedule admitted

/-- A run whose steps are admitted shows what the programs that have reached their pivots
    show one after another; those are at least the programs that have ended. -/
theorem serial_run {start : σ} (inv : k.inv start) (mine : ∀ i, k.mine i start)
    (congr : ∀ i s t, k.view s = k.view t →
      k.view ((programs i).run k.handler s).2 = k.view ((programs i).run k.handler t).2)
    (pivots : ∀ i, Program.Pivots k (programs i) (admits i) i [] (programs i)) (schedule : List ι)
    (admitted : ∀ before e later,
      (Pool.mk start programs).trace k.handler schedule = before ++ e :: later →
      admits e.thread (ownSteps e.thread before) e) :
    ∃ order : List ι, order.Nodup ∧
      (∀ i, ((∃ a, ((Pool.mk start programs).run k.handler schedule).threads i = .done a) ∨
        ∃ e, ((Pool.mk start programs).run k.handler schedule).threads i = .fail e) → i ∈ order) ∧
      k.view ((Pool.mk start programs).run k.handler schedule).state =
        k.view (serially k.handler programs order start) := by
  have ready : Serialized k programs admits start [] (Pool.mk start programs) [] :=
    ⟨inv,List.nodup_nil,rfl,by simp,fun i _ => ⟨mine i,pivots i⟩⟩
  obtain ⟨order,final⟩ := serialized_run congr ready schedule admitted
  refine ⟨order,final.nodup,fun i ended => ?_,final.view⟩
  by_contra notIn
  have ahead := (final.ahead i notIn).2
  rcases ended with ⟨a,done⟩ | ⟨e,failed⟩
  · rw [done] at ahead
    exact ahead
  · rw [failed] at ahead
    exact ahead

end Pool
end Concurrency
