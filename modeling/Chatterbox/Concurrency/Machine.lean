/-!
Machines that take one step at a time, in whatever order their states allow. What every step
preserves holds in every state reached, and a rank that the steps run down bounds how many of
them there are.
-/
namespace Concurrency

/-- The states a machine may start in, and what each step makes of a state where it can be
    taken. -/
structure Machine (State Step : Type) where
  start : State → Prop
  step : Step → State → Option State

namespace Machine
variable {State Step : Type} {machine : Machine State Step} {s t : State}

def runAll (machine : Machine State Step) : List Step → State → Option State
  | [], s => some s
  | a :: rest, s => (machine.step a s).bind (machine.runAll rest)

/-- The states that are reached by steps that meet a condition where they are taken. -/
inductive Reaches (machine : Machine State Step) (allowed : Step → State → Prop) :
    State → Prop where
  | start {s : State} : machine.start s → Reaches machine allowed s
  | step {a : Step} {s t : State} :
      Reaches machine allowed s → allowed a s → machine.step a s = some t →
        Reaches machine allowed t

/-- The states that are reached by any steps. -/
abbrev Reachable (machine : Machine State Step) : State → Prop := machine.Reaches fun _ _ => True

theorem runAll_cons {a : Step} {rest : List Step} :
    machine.runAll (a :: rest) s = some t ↔
      ∃ u, machine.step a s = some u ∧ machine.runAll rest u = some t := by
  simp only [runAll, Option.bind_eq_some_iff]

theorem runAll_append {first rest : List Step} :
    machine.runAll (first ++ rest) s = (machine.runAll first s).bind (machine.runAll rest) := by
  induction first generalizing s with
  | nil => rfl
  | cons a first ih =>
    simp only [List.cons_append, runAll, Option.bind_assoc]
    exact Option.bind_congr fun u _ => ih

/-- Steps that may be taken anywhere lead from reached states to reached ones. -/
theorem Reaches.runAll {allowed : Step → State → Prop} {steps : List Step}
    (may : ∀ a ∈ steps, ∀ s, allowed a s) (reached : machine.Reaches allowed s)
    (run : machine.runAll steps s = some t) : machine.Reaches allowed t := by
  induction steps generalizing s with
  | nil =>
    cases run
    exact reached
  | cons a rest ih =>
    obtain ⟨u,first,after⟩ := runAll_cons.mp run
    obtain ⟨here,later⟩ := List.forall_mem_cons.mp may
    exact ih later (.step reached (here s) first) after

theorem Reachable.runAll {steps : List Step} (reached : machine.Reachable s)
    (run : machine.runAll steps s = some t) : machine.Reachable t :=
  Reaches.runAll (fun _ _ _ => trivial) reached run

/-- What holds at the start and is kept by every step holds in every state reached. -/
theorem Reaches.invariant {allowed : Step → State → Prop} {inv : State → Prop}
    (first : ∀ s, machine.start s → inv s)
    (kept : ∀ a s t, inv s → allowed a s → machine.step a s = some t → inv t)
    (reached : machine.Reaches allowed s) : inv s := by
  induction reached with
  | start begins => exact first _ begins
  | step _ may moves ih => exact kept _ _ _ ih may moves

/-- What the steps of a run bring in together. -/
def brought (brings : Step → Nat) : List Step → Nat
  | [] => 0
  | a :: rest => brings a + brought brings rest

/-- Where every step takes one off the rank, for what it brings in, a run has no more steps
    than the rank at its start and all that its steps bring in. -/
theorem length_le_rank {rank : State → Nat} {brings : Step → Nat}
    (lowers : ∀ a s t, machine.step a s = some t → rank t + 1 ≤ rank s + brings a)
    {steps : List Step} (run : machine.runAll steps s = some t) :
    rank t + steps.length ≤ rank s + brought brings steps := by
  induction steps generalizing s with
  | nil =>
    cases run
    exact Nat.le_refl _
  | cons a rest ih =>
    obtain ⟨u,first,after⟩ := runAll_cons.mp run
    have here := lowers a s u first
    have later := ih after
    simp only [List.length_cons, brought]
    omega

end Machine
end Concurrency
