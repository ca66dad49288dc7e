import Chatterbox.Tables.Keyed
import Mathlib.Data.List.Induction
import Mathlib.Order.WellFounded

/-!
Rows that refer to rows of their own table by key. Where every row refers to what stood
before it, nobody can walk along the references for ever: a walk is over after as many
steps as there are rows.
-/
namespace Tables
variable {Row Key : Type}

/-- A table filled at its end, in which a row refers to a row before it that fits. -/
inductive Backward (key : Row → Key) (target : Row → Option Key) (fits : Row → Row → Prop) :
    List Row → Prop where
  | nil : Backward key target fits []
  | snoc {rows : List Row} {row : Row} (old : Backward key target fits rows)
      (refers : ∀ k, target row = some k → ∃ r ∈ rows, key r = k ∧ fits row r) :
      Backward key target fits (rows ++ [row])

/-- The rows that a row of the table refers to. -/
def Refers (key : Row → Key) (target : Row → Option Key) (rows : List Row) (r row : Row) : Prop :=
  r ∈ rows ∧ row ∈ rows ∧ target row = some (key r)

/-- Where so many steps along the references lead. -/
def follow [DecidableEq Key] (key : Row → Key) (target : Row → Option Key) (rows : List Row) :
    Nat → Row → Option Row
  | 0, row => some row
  | n + 1, row => ((target row).bind fun k => lookup key k rows).bind (follow key target rows n)

variable {key : Row → Key} {target : Row → Option Key} {fits : Row → Row → Prop}
  {rows : List Row}

theorem Backward.before (back : Backward key target fits rows) {before after : List Row}
    {row : Row} (cut : rows = before ++ row :: after) {k : Key} (is : target row = some k) :
    ∃ r ∈ before, key r = k ∧ fits row r := by
  induction back generalizing after with
  | nil => simp at cut
  | @snoc rows last old refers ih =>
    rcases List.eq_nil_or_concat after with rfl | ⟨rest,end',rfl⟩
    · obtain ⟨rfl,same⟩ := List.append_inj' cut rfl
      rw [List.singleton_inj] at same
      subst same
      exact refers k is
    · rw [List.concat_eq_append, ← List.cons_append, ← List.append_assoc] at cut
      exact ih (List.append_inj' cut rfl).1

theorem Backward.acc (back : Backward key target fits rows) {after : List Row}
    (keyed : Keyed key (rows ++ after)) {row : Row} (mem : row ∈ rows) :
    Acc (Refers key target (rows ++ after)) row := by
  induction back generalizing after row with
  | nil => cases mem
  | @snoc rows last old refers ih =>
    rw [List.append_assoc] at keyed ⊢
    rcases List.mem_append.mp mem with earlier | now
    · exact ih keyed earlier
    · rw [List.mem_singleton.mp now]
      constructor
      rintro r ⟨stored,_,points⟩
      obtain ⟨r',known,same,_⟩ := refers _ points
      rw [← keyed_unique keyed (List.mem_append_left _ known) stored same]
      exact ih keyed known

theorem Backward.wellFounded (back : Backward key target fits rows) (keyed : Keyed key rows) :
    WellFounded (Refers key target rows) := by
  constructor
  intro row
  by_cases mem : row ∈ rows
  · have acc : Acc (Refers key target (rows ++ [])) row :=
      back.acc (by rwa [List.append_nil]) mem
    rwa [List.append_nil] at acc
  · constructor
    rintro r ⟨_,known,_⟩
    exact absurd known mem

theorem Backward.follow_ends [DecidableEq Key] (back : Backward key target fits rows)
    {after : List Row} (keyed : Keyed key (rows ++ after)) {row : Row} (mem : row ∈ rows) {n : Nat}
    (long : rows.length ≤ n) : follow key target (rows ++ after) n row = none := by
  induction back generalizing after row n with
  | nil => cases mem
  | @snoc rows last old refers ih =>
    rw [List.append_assoc] at keyed ⊢
    rw [List.length_append, List.length_singleton] at long
    rcases List.mem_append.mp mem with earlier | now
    · exact ih keyed earlier (by omega)
    · rw [List.mem_singleton.mp now]
      cases n with
      | zero => omega
      | succ n =>
        cases points : target last with
        | none => simp [follow, points]
        | some k =>
          obtain ⟨r,known,same,_⟩ := refers k points
          have found : lookup key k (rows ++ ([last] ++ after)) = some r :=
            (lookup_eq_some_iff keyed).mpr ⟨List.mem_append_left _ known,same⟩
          rw [follow, points, Option.bind_some, found, Option.bind_some]
          exact ih keyed known (by omega)

theorem Backward.init {row : Row} (back : Backward key target fits (rows ++ [row])) :
    Backward key target fits rows := by
  generalize grown : rows ++ [row] = all at back
  cases back with
  | nil => simp at grown
  | snoc old refers =>
    rw [(List.append_inj' grown rfl).1]
    exact old

/-- Rows with more columns than their references need. -/
theorem Backward.of_map {Column : Type} {column : Row → Column} {key : Column → Key}
    {target : Column → Option Key} {fits : Column → Column → Prop}
    (back : Backward key target fits (rows.map column)) :
    Backward (fun r => key (column r)) (fun r => target (column r))
      (fun row r => fits (column row) (column r)) rows := by
  induction rows using List.reverseRecOn with
  | nil => exact .nil
  | append_singleton rows row ih =>
    rw [List.map_append, List.map_singleton] at back
    refine .snoc (ih back.init) fun k is => ?_
    obtain ⟨c,mem,same,fit⟩ := back.before rfl is
    obtain ⟨r,stored,rfl⟩ := List.mem_map.mp mem
    exact ⟨r,stored,same,fit⟩

end Tables
