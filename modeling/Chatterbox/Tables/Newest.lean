import Chatterbox.Tables.Keyed
import Mathlib.Data.List.MinMax

/-!
A cached pointer to the newest of a set of dated entries. The set is a relation between
keys and dates; the three lemmas about its changes are what an incrementally maintained
pointer rests on, the last lemma is what a recomputed one rests on.
-/
namespace Tables
variable {Row Key Date : Type} [LinearOrder Date] {shown shown' : Key → Date → Prop}
  {pointer : Option Key}

/-- The pointer names the newest entry, and nothing when there is none. -/
def Newest (shown : Key → Date → Prop) : Option Key → Prop
  | none => ∀ k t, ¬ shown k t
  | some k => ∃ t, shown k t ∧ ∀ k' t', shown k' t' → k' ≠ k → t' < t

theorem Newest.congr (same : ∀ k t, shown' k t ↔ shown k t) (newest : Newest shown pointer) :
    Newest shown' pointer := by
  have eq : shown' = shown := funext fun k => funext fun t => propext (same k t)
  rwa [eq]

/-- An entry that is newer than all others becomes the newest. -/
theorem Newest.add {k : Key} {t : Date} (later : ∀ k' t', shown k' t' → t' < t)
    (grown : ∀ k' t', shown' k' t' ↔ shown k' t' ∨ (k' = k ∧ t' = t)) :
    Newest shown' (some k) := by
  refine ⟨t,(grown k t).mpr (Or.inr ⟨rfl,rfl⟩),fun k' t' known other => ?_⟩
  rcases (grown k' t').mp known with old | ⟨same,_⟩
  · exact later k' t' old
  · exact absurd same other

/-- Entries may go as long as the newest stays. -/
theorem Newest.shrink (sub : ∀ k t, shown' k t → shown k t)
    (keep : ∀ k, pointer = some k → ∀ t, shown k t → shown' k t)
    (newest : Newest shown pointer) : Newest shown' pointer := by
  cases pointer with
  | none => exact fun k t known => newest k t (sub k t known)
  | some k =>
    obtain ⟨t,known,greatest⟩ := newest
    exact ⟨t,keep k rfl t known,fun k' t' known' => greatest k' t' (sub k' t' known')⟩

theorem Newest.unique {pointer' : Option Key} (newest : Newest shown pointer)
    (newest' : Newest shown pointer') : pointer = pointer' := by
  cases pointer with
  | none =>
    cases pointer' with
    | none => rfl
    | some k =>
      obtain ⟨t,known,_⟩ := newest'
      exact absurd known (newest k t)
  | some k =>
    obtain ⟨t,known,greatest⟩ := newest
    cases pointer' with
    | none => exact absurd known (newest' k t)
    | some k' =>
      obtain ⟨t',known',greatest'⟩ := newest'
      by_contra other
      have apart : k ≠ k' := fun same => other (congrArg some same)
      exact lt_asymm (greatest k' t' known' apart.symm) (greatest' k t known apart)

/-- The newest row of a table in which no two rows share their date. -/
theorem newest_argmax {key : Row → Key} {date : Row → Date} {rows : List Row}
    (dates : Keyed date rows) :
    Newest (fun k t => ∃ r ∈ rows, key r = k ∧ date r = t) ((rows.argmax date).map key) := by
  cases is : rows.argmax date with
  | none =>
    rw [List.argmax_eq_none] at is
    subst is
    rintro k t ⟨r,mem,_⟩
    cases mem
  | some m =>
    have mem := List.argmax_mem is
    refine ⟨date m,⟨m,mem,rfl,rfl⟩,?_⟩
    rintro _ _ ⟨r,memr,rfl,rfl⟩ other
    refine lt_of_le_of_ne (List.le_of_mem_argmax memr is) fun same => other ?_
    rw [keyed_unique dates memr mem same]

end Tables
