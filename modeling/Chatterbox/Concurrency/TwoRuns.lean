import Chatterbox.Concurrency.Pool

/-!
One program in two states. Where it only looks and every request finds the same, it comes to
the same result; a longer program is followed in both states up to where it writes.
-/
namespace Concurrency.Program
variable {Request : Type → Type} {Error α β σ : Type} {h : Handler Request σ} {s t : σ}

/-- The program changes neither state and comes to the same in both. -/
def Agrees (h : Handler Request σ) (s t : σ) (p : Program Request Error α) : Prop :=
  ∃ r, p.run h s = (r, s) ∧ p.run h t = (r, t)

theorem agrees_done (a : α) : (Program.done a : Program Request Error α).Agrees h s t :=
  ⟨.ok a,rfl,rfl⟩

theorem agrees_fail (e : Error) : (Program.fail e : Program Request Error α).Agrees h s t :=
  ⟨.error e,rfl,rfl⟩

/-- A simulation: requests that find the same in related states, and leave related states, make
    a program that ends alike in both. -/
theorem Only.run_related {related : σ → σ → Prop} {p : Program Request Error α}
    (only : p.Only fun q => ∀ s t, related s t →
      (h.answer q t).1 = (h.answer q s).1 ∧ related (h.answer q s).2 (h.answer q t).2)
    (start : related s t) :
    (p.run h t).1 = (p.run h s).1 ∧ related (p.run h s).2 (p.run h t).2 := by
  induction p generalizing s t with
  | done a => exact ⟨rfl,start⟩
  | fail e => exact ⟨rfl,start⟩
  | request q rest ih =>
    obtain ⟨alike,next⟩ := only.1 s t start
    rw [run_request, run_request, alike]
    exact ih _ (only.2 _) next

theorem Agrees.bind {p : Program Request Error α} {f : α → Program Request Error β}
    (first : p.Agrees h s t) (next : ∀ a, p.run h s = (.ok a, s) → (f a).Agrees h s t) :
    (p >>= f).Agrees h s t := by
  obtain ⟨r,here,there⟩ := first
  cases r with
  | error e => exact ⟨.error e,run_bind_error h s here f,run_bind_error h t there f⟩
  | ok a =>
    obtain ⟨r,here',there'⟩ := next a here
    refine ⟨r,?_,?_⟩
    · rw [run_bind_ok h s here, here']
    · rw [run_bind_ok h t there, there']

theorem Agrees.map {p : Program Request Error α} (first : p.Agrees h s t) (f : α → β) :
    (f <$> p).Agrees h s t :=
  first.bind fun a _ => agrees_done (f a)

theorem Agrees.tryCatch {p : Program Request Error α} {f : Error → Program Request Error α}
    (first : p.Agrees h s t) (next : ∀ e, (f e).Agrees h s t) :
    (tryCatchThe Error p f).Agrees h s t := by
  obtain ⟨r,here,there⟩ := first
  cases r with
  | ok a => exact ⟨.ok a,run_catch_ok h s here f,run_catch_ok h t there f⟩
  | error e =>
    obtain ⟨r,here',there'⟩ := next e
    refine ⟨r,?_,?_⟩
    · rw [run_catch_error h s here, here']
    · rw [run_catch_error h t there, there']

/-- Both runs go on from what they have found; `post` compares where they end. -/
theorem Agrees.follow {post : Except Error β × σ → Except Error β × σ → Prop}
    {p : Program Request Error α} {f : α → Program Request Error β} (first : p.Agrees h s t)
    (refused : ∀ e, post (.error e, s) (.error e, t))
    (next : ∀ a, p.run h s = (.ok a, s) → post ((f a).run h s) ((f a).run h t)) :
    post ((p >>= f).run h s) ((p >>= f).run h t) := by
  obtain ⟨r,here,there⟩ := first
  cases r with
  | error e =>
    rw [run_bind_error h s here, run_bind_error h t there]
    exact refused e
  | ok a =>
    rw [run_bind_ok h s here, run_bind_ok h t there]
    exact next a here

end Concurrency.Program
