import Chatterbox.Tables.Keyed
import Mathlib.Data.List.Forall2
import Mathlib.Data.List.MinMax

/-!
Two tables that are related row by row. A statement that finds its rows by columns on which
related rows agree finds related rows in both, and updates that keep the relation of rows
keep the relation of tables.
-/
namespace Tables
variable {Row Key Value Date : Type} {rel : Row → Row → Prop} {rows rows' : List Row}

/-- A column on which related rows agree. -/
theorem column_related {column : Row → Value} (same : ∀ r r', rel r r' → column r' = column r)
    (related : List.Forall₂ rel rows rows') : rows'.map column = rows.map column := by
  induction related with
  | nil => rfl
  | cons first _ ih => rw [List.map_cons, List.map_cons, same _ _ first, ih]

/-- A lookup by such a column finds nothing in both, or related rows. -/
theorem lookup_related [DecidableEq Key] {key : Row → Key}
    (same : ∀ r r', rel r r' → key r' = key r) (k : Key)
    (related : List.Forall₂ rel rows rows') :
    (lookup key k rows = none ∧ lookup key k rows' = none) ∨
      ∃ r r', lookup key k rows = some r ∧ lookup key k rows' = some r' ∧ rel r r' := by
  induction related with
  | nil => exact Or.inl ⟨rfl,rfl⟩
  | cons first _ ih =>
    unfold lookup at ih ⊢
    rw [List.find?_cons, List.find?_cons, same _ _ first]
    split
    · exact Or.inr ⟨_,_,rfl,rfl,first⟩
    · exact ih

/-- One update for both tables, or one for each. -/
theorem amend_related {p p' : Row → Bool} {change change' : Row → Row} {rel' : Row → Row → Prop}
    (related : List.Forall₂ rel rows rows')
    (step : ∀ r ∈ rows, ∀ r', rel r r' → rel' (if p r then change r else r)
      (if p' r' then change' r' else r')) :
    List.Forall₂ rel' (amend p change rows) (amend p' change' rows') := by
  induction related with
  | nil => exact .nil
  | cons first _ ih =>
    exact .cons (step _ List.mem_cons_self _ first)
      (ih fun r mem => step r (List.mem_cons_of_mem _ mem))

/-- An update of the second table alone. -/
theorem amend_right {p : Row → Bool} {change : Row → Row} {rel' : Row → Row → Prop}
    (related : List.Forall₂ rel rows rows')
    (step : ∀ r, ∀ r' ∈ rows', rel r r' → rel' r (if p r' then change r' else r')) :
    List.Forall₂ rel' rows (amend p change rows') := by
  induction related with
  | nil => exact .nil
  | cons first _ ih =>
    exact .cons (step _ _ List.mem_cons_self first)
      (ih fun r r' mem => step r r' (List.mem_cons_of_mem _ mem))

/-- Two tables that are related to the same table. -/
theorem related_both {rel' rel'' : Row → Row → Prop} {rows'' : List Row}
    (related : List.Forall₂ rel rows rows') (related' : List.Forall₂ rel' rows rows'')
    (both : ∀ r, ∀ r' ∈ rows', ∀ r'' ∈ rows'', rel r r' → rel' r r'' → rel'' r' r'') :
    List.Forall₂ rel'' rows' rows'' := by
  induction related generalizing rows'' with
  | nil =>
    cases related'
    exact .nil
  | cons first _ ih =>
    cases related' with
    | cons first' rest' =>
      apply List.Forall₂.cons
      · exact both _ _ List.mem_cons_self _ List.mem_cons_self first first'
      · apply ih rest'
        intro r r' mem r'' mem'
        exact both r r' (List.mem_cons_of_mem _ mem) r'' (List.mem_cons_of_mem _ mem')

/-- Filters that agree on related rows leave related rows. -/
theorem filter_related {p p' : Row → Bool} (same : ∀ r r', rel r r' → p' r' = p r)
    (related : List.Forall₂ rel rows rows') :
    List.Forall₂ rel (rows.filter p) (rows'.filter p') := by
  refine List.rel_filter (fun r r' pair => ?_) related
  change p r = true ↔ p' r' = true
  rw [same r r' pair]

theorem countP_related {p p' : Row → Bool} (same : ∀ r r', rel r r' → p' r' = p r)
    (related : List.Forall₂ rel rows rows') : rows'.countP p' = rows.countP p := by
  rw [List.countP_eq_length_filter, List.countP_eq_length_filter]
  exact (filter_related same related).length_eq.symm

/-- Such filters leave the same rows when related rows that pass are the same. -/
theorem filter_same {p p' : Row → Bool} (same : ∀ r r', rel r r' → p' r' = p r)
    (equal : ∀ r r', rel r r' → p r = true → r' = r) (related : List.Forall₂ rel rows rows') :
    rows'.filter p' = rows.filter p := by
  induction related with
  | nil => rfl
  | @cons r r' _ _ first _ ih =>
    rw [List.filter_cons, List.filter_cons, same _ _ first, ih]
    split
    · rename_i passes
      rw [equal _ _ first passes]
    · rfl

theorem any_related {p p' : Row → Bool} (same : ∀ r r', rel r r' → p' r' = p r)
    (related : List.Forall₂ rel rows rows') : rows'.any p' = rows.any p := by
  induction related with
  | nil => rfl
  | cons first _ ih => rw [List.any_cons, List.any_cons, same _ _ first, ih]

theorem argmax_related [LinearOrder Date] {date : Row → Date}
    (same : ∀ r r', rel r r' → date r' = date r) (related : List.Forall₂ rel rows rows') :
    (rows.argmax date = none ∧ rows'.argmax date = none) ∨
      ∃ r r', rows.argmax date = some r ∧ rows'.argmax date = some r' ∧ rel r r' := by
  induction related with
  | nil => exact Or.inl ⟨rfl,rfl⟩
  | cons first _ ih =>
    right
    rw [List.argmax_cons, List.argmax_cons]
    rcases ih with ⟨none,none'⟩ | ⟨r,r',newest,newest',later⟩
    · rw [none, none']
      exact ⟨_,_,rfl,rfl,first⟩
    · rw [newest, newest']
      dsimp only
      rw [same _ _ first, same _ _ later]
      split
      · exact ⟨_,_,rfl,rfl,later⟩
      · exact ⟨_,_,rfl,rfl,first⟩

/-- The same row saved in both tables. -/
theorem save_related [DecidableEq Key] {key : Row → Key} {row : Row}
    (same : ∀ r r', rel r r' → key r' = key r) (self : rel row row)
    (related : List.Forall₂ rel rows rows') :
    List.Forall₂ rel (save key row rows) (save key row rows') := by
  have known : (lookup key (key row) rows').isSome = (lookup key (key row) rows).isSome := by
    rcases lookup_related same (key row) related with ⟨none,none'⟩ | ⟨r,r',found,found',_⟩
    · rw [none, none']
    · rw [found, found']
      rfl
  unfold save
  rw [known]
  split
  · refine amend_related related fun r _ r' pair => ?_
    rw [same r r' pair]
    split
    · exact self
    · exact pair
  · exact List.rel_append related (.cons self .nil)

end Tables
