import Chatterbox.Concurrency.Pool

/-!
Programs that are not disturbed. Where the steps of the others cannot be seen, a run goes the
same way for some of its programs when the steps of the others are left out of it.
-/
namespace Concurrency
variable {Request : Type → Type} {Error α σ ι : Type} {h : Handler Request σ}
  {alike : σ → σ → Prop} {mine : ι → Bool}

/-- A step leaves alike what is alike, when it is taken in both runs or, being of another program,
    in the first run alone. A step in both runs gets the same answer. -/
structure Unwinds (h : Handler Request σ) (alike : σ → σ → Prop) (mine : ι → Bool)
    (e : Issued Request σ ι) : Prop where
  hidden : mine e.thread = false → ∀ t, alike e.before t →
    alike (h.answer e.request e.before).2 t
  shared : mine e.thread = true → ∀ t, alike e.before t →
    (h.answer e.request t).1 = (h.answer e.request e.before).1 ∧
      alike (h.answer e.request e.before).2 (h.answer e.request t).2

/-- The states of two pools are alike, and some of their programs are the same. -/
structure Pool.Alike (alike : σ → σ → Prop) (mine : ι → Bool)
    (c d : Pool Request Error α σ ι) : Prop where
  states : alike c.state d.state
  threads : ∀ i, mine i = true → d.threads i = c.threads i

namespace Pool
variable [DecidableEq ι] {c d : Pool Request Error α σ ι} {i : ι}

theorem Alike.hidden (same : c.Alike alike mine d)
    (unwinds : ∀ e ∈ c.issued i, Unwinds h alike mine e) (other : mine i = false) :
    (c.step h i).Alike alike mine d := by
  rcases c.issued_cases i with ended | ⟨β,q,k,next⟩
  · rw [step_ended ended]
    exact same
  · have step := unwinds _ (issued_request next ▸ List.mem_singleton.mpr rfl)
    rw [step_request next]
    refine ⟨step.hidden other _ same.states,fun j own => ?_⟩
    have apart : j ≠ i := by
      rintro rfl
      rw [other] at own
      cases own
    exact (same.threads j own).trans (Function.update_of_ne apart _ _).symm

theorem Alike.shared (same : c.Alike alike mine d)
    (unwinds : ∀ e ∈ c.issued i, Unwinds h alike mine e) (own : mine i = true) :
    (c.step h i).Alike alike mine (d.step h i) := by
  have is := same.threads i own
  rcases c.issued_cases i with ended | ⟨β,q,k,next⟩
  · have ended' : d.issued i = [] := by
      unfold issued at ended ⊢
      cases at_ : c.threads i with
      | request q k =>
        rw [at_] at ended
        cases ended
      | done a => rw [is, at_]
      | fail e => rw [is, at_]
    rw [step_ended ended, step_ended ended']
    exact same
  · have step := unwinds _ (issued_request next ▸ List.mem_singleton.mpr rfl)
    obtain ⟨answers,states⟩ := step.shared own _ same.states
    rw [step_request next, step_request (is.trans next)]
    refine ⟨states,fun j mem => ?_⟩
    by_cases here : j = i
    · rw [here]
      simp only [Function.update_self, answers]
    · simp only [Function.update_of_ne here]
      exact same.threads j mem

/-- The rule for leaving out: a schedule, and the same without the steps of the others. -/
theorem purge {schedule : List ι} (same : c.Alike alike mine d)
    (unwinds : c.Respects h (Unwinds h alike mine) schedule) :
    (c.run h schedule).Alike alike mine (d.run h (schedule.filter mine)) := by
  induction schedule generalizing c d with
  | nil => exact same
  | cons i rest ih =>
    have now : ∀ e ∈ c.issued i, Unwinds h alike mine e :=
      fun e mem => unwinds e (List.mem_append_left _ mem)
    have later : (c.step h i).Respects h (Unwinds h alike mine) rest :=
      fun e mem => unwinds e (List.mem_append_right _ mem)
    cases own : mine i with
    | true =>
      rw [List.filter_cons_of_pos own]
      exact ih (same.shared now own) later
    | false =>
      rw [List.filter_cons_of_neg (by simp [own])]
      exact ih (same.hidden now own) later

end Pool
end Concurrency
