import Chatterbox.Concurrency.Pool

/-!
Runs in which requests fail. The requests of a run are numbered, and a fault answers one of
them with an error, so that it never reaches the state.
-/
namespace Concurrency
variable {Request : Type → Type} {σ Error α β : Type}

/-- Which requests fail, and with what answer. -/
abbrev Fault (Request : Type → Type) := {β : Type} → Request β → Nat → Option β

/-- The handler under faults, with the number of the next request. -/
def Handler.faulty (h : Handler Request σ) (fault : Fault Request) : Handler Request (σ × Nat) :=
  ⟨fun q s => match fault q s.2 with
    | some b => (b, (s.1, s.2 + 1))
    | none => ((h.answer q s.1).1, ((h.answer q s.1).2, s.2 + 1))⟩

/-- A request fails and leaves the state alone, or it is handled as ever. -/
theorem Handler.faulty_state (h : Handler Request σ) (fault : Fault Request) (q : Request β)
    (t : σ × Nat) :
    ((fault q t.2).isNone = true ∧ ((h.faulty fault).answer q t).2.1 = (h.answer q t.1).2) ∨
      ((fault q t.2).isNone = false ∧ ((h.faulty fault).answer q t).2.1 = t.1) := by
  cases failed : fault q t.2 with
  | none => exact Or.inl ⟨rfl,by simp only [Handler.faulty, failed]⟩
  | some b => exact Or.inr ⟨rfl,by simp only [Handler.faulty, failed]⟩

/-- The pool with its requests numbered from the first. -/
def Pool.numbered {ι : Type} (c : Pool Request Error α σ ι) : Pool Request Error α (σ × Nat) ι :=
  ⟨(c.state, 0),c.threads⟩

namespace Program
variable {h : Handler Request σ} {fault : Fault Request}

/-- A failed request ends the program. -/
def Fragile (fault : Fault Request) : Program Request Error α → Prop
  | .done _ => True
  | .fail _ => True
  | .request q rest => (∀ n b, fault q n = some b → ∃ e, rest b = .fail e) ∧
      ∀ b, (rest b).Fragile fault

theorem Fragile.bind {p : Program Request Error α} {f : α → Program Request Error β}
    (first : p.Fragile fault) (next : ∀ a, (f a).Fragile fault) : (p >>= f).Fragile fault := by
  induction p with
  | done a => exact next a
  | fail e => trivial
  | request q rest ih =>
    constructor
    · intro n b failed
      obtain ⟨e,is⟩ := first.1 n b failed
      refine ⟨e,?_⟩
      change rest b >>= f = _
      rw [is, fail_bind]
    · intro b
      exact ih b (first.2 b)

theorem fragile_lift (r : Except Error α) :
    (liftM r : Program Request Error α).Fragile fault := by
  cases r <;> trivial

/-- A program that only looks runs under faults as it does without them, or a fault ends it. -/
theorem Fragile.run {p : Program Request Error α} (fragile : p.Fragile fault)
    (looks : p.Only fun q => ∀ s, (h.answer q s).2 = s) (s : σ) (n : Nat) :
    ∃ m, p.run (h.faulty fault) (s, n) = ((p.run h s).1, (s, m)) ∨
      ∃ e, p.run (h.faulty fault) (s, n) = (.error e, (s, m)) := by
  induction p generalizing n with
  | done a => exact ⟨n,Or.inl rfl⟩
  | fail e => exact ⟨n,Or.inl rfl⟩
  | request q rest ih =>
    rw [run_request, run_request]
    cases failed : fault q n with
    | some b =>
      obtain ⟨e,is⟩ := fragile.1 n b failed
      refine ⟨n + 1,Or.inr ⟨e,?_⟩⟩
      simp only [Handler.faulty, failed]
      rw [is]
      rfl
    | none =>
      have same := looks.1 s
      simp only [Handler.faulty, failed]
      rw [same]
      exact ih _ (fragile.2 _) (looks.2 _) _

/-- A program that a failed request would have ended has met none when it succeeds. -/
theorem Fragile.run_ok {p : Program Request Error α} (fragile : p.Fragile fault) {s : σ} {n : Nat}
    {a : α} {v : σ × Nat} (run : p.run (h.faulty fault) (s, n) = (.ok a, v)) :
    p.run h s = (.ok a, v.1) := by
  induction p generalizing s n with
  | done b =>
    cases run
    rfl
  | fail e => cases run
  | request q rest ih =>
    rw [run_request] at run
    cases failed : fault q n with
    | some b =>
      obtain ⟨e,is⟩ := fragile.1 n b failed
      simp only [Handler.faulty, failed, is] at run
      cases run
    | none =>
      simp only [Handler.faulty, failed] at run
      exact ih _ (fragile.2 _) run

theorem Fragile.translate {Other : Type → Type} {Failure : Type}
    {f : {β : Type} → Request β → Other β} {g : Error → Failure} {fault : Fault Other}
    {p : Program Request Error α} (fragile : p.Fragile fun q n => fault (f q) n) :
    (p.translate f g).Fragile fault := by
  induction p with
  | done a => trivial
  | fail e => trivial
  | request q rest ih =>
    constructor
    · intro n b failed
      obtain ⟨e,is⟩ := fragile.1 n b failed
      refine ⟨g e,?_⟩
      simp only [is]
      rfl
    · intro b
      exact ih b (fragile.2 b)

/-- What follows a program that only looks goes on with what it has found. -/
theorem Fragile.bind_inv {p : Program Request Error α} (fragile : p.Fragile fault)
    (looks : p.Only fun q => ∀ s, (h.answer q s).2 = s) {f : α → Program Request Error β} {s : σ}
    {n : Nat} {r : Except Error β} {v : σ × Nat}
    (run : (p >>= f).run (h.faulty fault) (s, n) = (r, v)) :
    (v.1 = s ∧ ∃ e, r = .error e) ∨
      ∃ a m, p.run h s = (.ok a, s) ∧ (f a).run (h.faulty fault) (s, m) = (r, v) := by
  have still : (p.run h s).2 = s :=
    looks.run_invariant (fun q t is same => (is t).trans same) rfl
  obtain ⟨m,same | ⟨e,failed⟩⟩ := fragile.run looks s n
  · cases is : (p.run h s).1 with
    | ok a =>
      rw [is] at same
      rw [run_bind_ok _ _ same] at run
      exact Or.inr ⟨a,m,Prod.ext is still,run⟩
    | error e =>
      rw [is] at same
      rw [run_bind_error _ _ same] at run
      cases run
      exact Or.inl ⟨rfl,e,rfl⟩
  · rw [run_bind_error _ _ failed] at run
    cases run
    exact Or.inl ⟨rfl,e,rfl⟩

end Program

end Concurrency
