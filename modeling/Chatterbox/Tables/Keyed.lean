import Mathlib.Data.List.Nodup

/-!
Tables as lists of rows with a key: the statements an object mapper issues
(look up by key, update where, save a row) and what each leaves in the table.
A table is `Keyed` when no two rows share their key.
-/
namespace Tables
variable {Row Key Value : Type} [DecidableEq Key]

def Keyed (key : Row → Key) (rows : List Row) : Prop := (rows.map key).Nodup

instance (key : Row → Key) (rows : List Row) : Decidable (Keyed key rows) :=
  inferInstanceAs (Decidable (rows.map key).Nodup)

def lookup (key : Row → Key) (k : Key) (rows : List Row) : Option Row :=
  rows.find? (fun r => key r = k)

/-- UPDATE ... SET change WHERE p. -/
def amend (p : Row → Bool) (change : Row → Row) (rows : List Row) : List Row :=
  rows.map (fun r => if p r then change r else r)

/-- Overwrite the row with this key, or insert it where there is none. -/
def save (key : Row → Key) (row : Row) (rows : List Row) : List Row :=
  if (lookup key (key row) rows).isSome then
    amend (fun r => key r = key row) (fun _ => row) rows
  else rows ++ [row]

def saveAll (key : Row → Key) (copies rows : List Row) : List Row :=
  copies.foldl (fun acc row => save key row acc) rows

omit [DecidableEq Key] in
theorem keyed_unique {key : Row → Key} {rows : List Row} (keyed : Keyed key rows) {a b : Row}
    (ha : a ∈ rows) (hb : b ∈ rows) (same : key a = key b) : a = b :=
  List.inj_on_of_nodup_map keyed ha hb same

omit [DecidableEq Key] in
theorem keyed_filter {key : Row → Key} {rows : List Row} (keyed : Keyed key rows)
    (p : Row → Bool) : Keyed key (rows.filter p) :=
  keyed.sublist (List.filter_sublist.map key)

theorem lookup_mem {key : Row → Key} {k : Key} {rows : List Row} {r : Row}
    (found : lookup key k rows = some r) : r ∈ rows ∧ key r = k :=
  ⟨List.mem_of_find?_eq_some found, by simpa using List.find?_some found⟩

theorem lookup_none_iff {key : Row → Key} {k : Key} {rows : List Row} :
    lookup key k rows = none ↔ ∀ r ∈ rows, key r ≠ k := by
  simp [lookup]

theorem lookup_isSome_iff {key : Row → Key} {k : Key} {rows : List Row} :
    (lookup key k rows).isSome ↔ ∃ r ∈ rows, key r = k := by
  simp [lookup]

theorem lookup_eq_some_iff {key : Row → Key} {k : Key} {rows : List Row}
    (keyed : Keyed key rows) {r : Row} : lookup key k rows = some r ↔ r ∈ rows ∧ key r = k := by
  constructor
  · exact lookup_mem
  · rintro ⟨mem,rfl⟩
    have known : (lookup key (key r) rows).isSome := lookup_isSome_iff.mpr ⟨r,mem,rfl⟩
    obtain ⟨found,is⟩ := Option.isSome_iff_exists.mp known
    have other := lookup_mem is
    rw [is, keyed_unique keyed other.1 mem other.2]

/-- The row a lookup finds after an insert at the end. -/
theorem lookup_append (key : Row → Key) (k : Key) (rows : List Row) (row : Row) :
    lookup key k (rows ++ [row]) = (lookup key k rows).or (if key row = k then some row else none) := by
  simp [lookup, List.find?_append, List.find?_singleton]

/-- The row a lookup finds after an update that leaves the key alone. -/
theorem lookup_amend {key : Row → Key} {change : Row → Row}
    (frame : ∀ r, key (change r) = key r) (p : Row → Bool) (k : Key) (rows : List Row) :
    lookup key k (amend p change rows) =
      (lookup key k rows).map (fun r => if p r then change r else r) := by
  induction rows with
  | nil => rfl
  | cons r rows ih =>
    have head : key (if p r then change r else r) = key r := by
      split
      · exact frame r
      · rfl
    simp only [lookup, amend, List.map_cons, List.find?_cons, head] at ih ⊢
    by_cases hit : key r = k
    · simp [hit]
    · simpa [hit] using ih

theorem mem_amend {p : Row → Bool} {change : Row → Row} {rows : List Row} {z : Row} :
    z ∈ amend p change rows ↔ (∃ r ∈ rows, p r = true ∧ change r = z) ∨ (z ∈ rows ∧ p z = false) := by
  simp only [amend, List.mem_map]
  constructor
  · rintro ⟨r,mem,rfl⟩
    by_cases hit : p r = true
    · exact Or.inl ⟨r,mem,hit,by simp [hit]⟩
    · have miss : p r = false := by simpa using hit
      exact Or.inr (by simpa [miss] using mem)
  · rintro (⟨r,mem,hit,rfl⟩ | ⟨mem,miss⟩)
    · exact ⟨r,mem,by simp [hit]⟩
    · exact ⟨z,mem,by simp [miss]⟩

omit [DecidableEq Key] in
/-- An update leaves every column it does not set. -/
theorem map_amend {column : Row → Value} {p : Row → Bool} {change : Row → Row}
    (frame : ∀ r, column (change r) = column r) (rows : List Row) :
    (amend p change rows).map column = rows.map column := by
  simp only [amend, List.map_map]
  apply List.map_congr_left
  intro r _
  by_cases hit : p r = true <;> simp [hit, frame]

omit [DecidableEq Key] in
theorem keyed_amend {key : Row → Key} {p : Row → Bool} {change : Row → Row} {rows : List Row}
    (keyed : Keyed key rows) (frame : ∀ r, key (change r) = key r) :
    Keyed key (amend p change rows) := by
  unfold Keyed
  rw [map_amend frame]
  exact keyed

omit [DecidableEq Key] in
theorem amend_none (change : Row → Row) (rows : List Row) :
    amend (fun _ => false) change rows = rows := by
  simp [amend]

/-- A filter that no changed row passes. -/
theorem filter_amend {p keep : Row → Bool} {change : Row → Row} {rows : List Row}
    (gone : ∀ r ∈ rows, p r = true → keep (change r) = false) :
    (amend p change rows).filter keep = rows.filter (fun r => keep r && !p r) := by
  induction rows with
  | nil => rfl
  | cons r rows ih =>
    simp only [amend, List.map_cons] at ih ⊢
    have rest := ih fun r mem => gone r (List.mem_cons_of_mem _ mem)
    cases hit : p r with
    | true =>
      have dropped := gone r List.mem_cons_self hit
      simp only [↓reduceIte, List.filter_cons, dropped, hit, rest, Bool.not_true,
        Bool.and_false, Bool.false_eq_true]
    | false => simp only [Bool.false_eq_true, ↓reduceIte, List.filter_cons, hit, rest,
        Bool.not_false, Bool.and_true]

/-- A filter that neither a changed row nor what it was before passes. -/
theorem filter_amend_other {p keep : Row → Bool} {change : Row → Row} {rows : List Row}
    (other : ∀ r ∈ rows, p r = true → keep r = false ∧ keep (change r) = false) :
    (amend p change rows).filter keep = rows.filter keep := by
  rw [filter_amend fun r mem hit => (other r mem hit).2]
  refine List.filter_congr fun r mem => ?_
  cases hit : p r with
  | true => simp [(other r mem hit).1]
  | false => simp

omit [DecidableEq Key] in
/-- A filter that does not see the update. -/
theorem filter_amend_frame {p keep : Row → Bool} {change : Row → Row}
    (frame : ∀ r, keep (change r) = keep r) (rows : List Row) :
    (amend p change rows).filter keep = amend p change (rows.filter keep) := by
  have unseen : (keep ∘ fun r => if p r then change r else r) = keep := by
    funext r
    by_cases hit : p r = true <;> simp [hit, frame]
  rw [amend, List.filter_map, unseen, amend]

omit [DecidableEq Key] in
/-- A filter that a changed row passes as it did before. -/
theorem filter_amend_within {p keep : Row → Bool} {change : Row → Row} {rows : List Row}
    (frame : ∀ r ∈ rows, p r = true → keep (change r) = keep r) :
    (amend p change rows).filter keep = amend p change (rows.filter keep) := by
  have unseen : ∀ r ∈ rows, (keep ∘ fun r => if p r then change r else r) r = keep r := by
    intro r mem
    by_cases hit : p r = true
    · simp [hit, frame r mem hit]
    · simp [hit]
  rw [amend, List.filter_map, List.filter_congr unseen, amend]

/-- A lookup among the rows that its row would pass. -/
theorem lookup_filter {key : Row → Key} {k : Key} {keep : Row → Bool} {rows : List Row}
    (kept : ∀ r ∈ rows, key r = k → keep r = true) :
    lookup key k (rows.filter keep) = lookup key k rows := by
  induction rows with
  | nil => rfl
  | cons r rows ih =>
    have rest := ih fun r mem => kept r (List.mem_cons_of_mem _ mem)
    simp only [lookup] at rest ⊢
    by_cases hit : key r = k
    · simp [kept r List.mem_cons_self hit, hit]
    · by_cases passes : keep r = true <;> simp [passes, hit, rest]

/-- A save of a row that passes a filter, as its predecessor does. -/
theorem filter_save {key : Row → Key} {row : Row} {keep : Row → Bool} {rows : List Row}
    (passes : keep row = true) (kept : ∀ r ∈ rows, key r = key row → keep r = true) :
    (save key row rows).filter keep = save key row (rows.filter keep) := by
  unfold save
  rw [lookup_filter kept]
  split_ifs
  · exact filter_amend_within fun r mem hit =>
      passes.trans (kept r mem (of_decide_eq_true hit)).symm
  · rw [List.filter_append, List.filter_singleton, passes, cond_true]

/-- A save of a row that does not pass a filter, as its predecessor does not. -/
theorem filter_save_other {key : Row → Key} {row : Row} {keep : Row → Bool} {rows : List Row}
    (fails : keep row = false) (gone : ∀ r ∈ rows, key r = key row → keep r = false) :
    (save key row rows).filter keep = rows.filter keep := by
  unfold save
  split_ifs
  · exact filter_amend_other fun r mem hit => ⟨gone r mem (of_decide_eq_true hit),fails⟩
  · rw [List.filter_append, List.filter_singleton, fails, cond_false, List.append_nil]

/-- A save of a changed row updates that row. -/
theorem save_change {key : Row → Key} {rows : List Row} {row : Row} (keyed : Keyed key rows)
    (mem : row ∈ rows) {change : Row → Row} (frame : key (change row) = key row) :
    save key (change row) rows = amend (fun r => key r = key row) change rows := by
  have known : (lookup key (key row) rows).isSome := lookup_isSome_iff.mpr ⟨row,mem,rfl⟩
  simp only [save, frame, known, ↓reduceIte, amend]
  apply List.map_congr_left
  intro r memr
  by_cases hit : key r = key row
  · simp [keyed_unique keyed memr mem hit]
  · simp [hit]

/-- A save of a new key is an insert. -/
theorem save_new {key : Row → Key} {row : Row} {rows : List Row}
    (fresh : ∀ r ∈ rows, key r ≠ key row) : save key row rows = rows ++ [row] := by
  have none := lookup_none_iff.mpr fresh
  simp [save, none]

theorem mem_save {key : Row → Key} {row z : Row} {rows : List Row} :
    z ∈ save key row rows ↔ z = row ∨ (z ∈ rows ∧ key z ≠ key row) := by
  unfold save
  split
  · rename_i some
    obtain ⟨r,mem,same⟩ := lookup_isSome_iff.mp some
    rw [mem_amend]
    constructor
    · rintro (⟨_,_,_,rfl⟩ | ⟨mem,miss⟩)
      · exact Or.inl rfl
      · exact Or.inr ⟨mem,by simpa using miss⟩
    · rintro (rfl | ⟨mem,miss⟩)
      · exact Or.inl ⟨r,mem,by simpa using same,rfl⟩
      · exact Or.inr ⟨mem,by simpa using miss⟩
  · rename_i none
    have fresh : ∀ r ∈ rows, key r ≠ key row := by
      intro r mem same
      exact none (lookup_isSome_iff.mpr ⟨r,mem,same⟩)
    simp only [List.mem_append, List.mem_singleton]
    constructor
    · rintro (mem | rfl)
      · exact Or.inr ⟨mem,fresh z mem⟩
      · exact Or.inl rfl
    · rintro (rfl | ⟨mem,_⟩)
      · exact Or.inr rfl
      · exact Or.inl mem

/-- A save over existing rows leaves every column on which they agree with the copy. -/
theorem map_save {key : Row → Key} {column : Row → Value} {row : Row} {rows : List Row}
    (known : ∃ r ∈ rows, key r = key row)
    (same : ∀ r ∈ rows, key r = key row → column r = column row) :
    (save key row rows).map column = rows.map column := by
  have some := lookup_isSome_iff.mpr known
  simp only [save, some, ↓reduceIte, amend, List.map_map]
  apply List.map_congr_left
  intro r mem
  by_cases hit : key r = key row
  · simp [hit, same r mem hit]
  · simp [hit]

/-- A save of a row as it is stored. -/
theorem save_same {key : Row → Key} {row : Row} {rows : List Row} (keyed : Keyed key rows)
    (mem : row ∈ rows) : save key row rows = rows := by
  have columns : (save key row rows).map id = rows.map id :=
    map_save ⟨row,mem,rfl⟩ fun r memr same => keyed_unique keyed memr mem same
  rwa [List.map_id, List.map_id] at columns

omit [DecidableEq Key] in
/-- A row with a new key at the end. -/
theorem keyed_snoc {key : Row → Key} {row : Row} {rows : List Row} (keyed : Keyed key rows)
    (fresh : key row ∉ rows.map key) : Keyed key (rows ++ [row]) := by
  unfold Keyed
  rw [List.map_append, List.nodup_append]
  refine ⟨keyed,List.nodup_singleton _,?_⟩
  intro k old k' new same
  rw [same, List.mem_singleton.mp new] at old
  exact fresh old

theorem keyed_save {key : Row → Key} {row : Row} {rows : List Row} (keyed : Keyed key rows) :
    Keyed key (save key row rows) := by
  by_cases known : ∃ r ∈ rows, key r = key row
  · unfold Keyed
    rw [map_save known (fun _ _ same => same)]
    exact keyed
  · have fresh : ∀ r ∈ rows, key r ≠ key row := fun r mem same => known ⟨r,mem,same⟩
    rw [save_new fresh]
    refine keyed_snoc keyed fun old => ?_
    obtain ⟨r,mem,same⟩ := List.mem_map.mp old
    exact fresh r mem same

theorem keyed_saveAll {key : Row → Key} {copies rows : List Row} (keyed : Keyed key rows) :
    Keyed key (saveAll key copies rows) := by
  induction copies generalizing rows with
  | nil => exact keyed
  | cons copy copies ih => exact ih (keyed_save keyed)

/-- Saving copies of existing rows leaves every column on which they agree. -/
theorem map_saveAll {key : Row → Key} {column : Row → Value} {copies rows : List Row}
    (known : ∀ c ∈ copies, ∃ r ∈ rows, key r = key c)
    (same : ∀ c ∈ copies, ∀ r ∈ rows, key r = key c → column r = column c) :
    (saveAll key copies rows).map column = rows.map column := by
  induction copies generalizing rows with
  | nil => rfl
  | cons copy copies ih =>
    have head := known copy List.mem_cons_self
    have agrees := same copy List.mem_cons_self
    change (saveAll key copies (save key copy rows)).map column = _
    rw [ih, map_save head agrees]
    · intro c mem
      obtain ⟨r,memr,is⟩ := known c (List.mem_cons_of_mem _ mem)
      by_cases hit : key r = key copy
      · exact ⟨copy,mem_save.mpr (Or.inl rfl),hit.symm.trans is⟩
      · exact ⟨r,mem_save.mpr (Or.inr ⟨memr,hit⟩),is⟩
    · intro c mem r memr is
      have later := same c (List.mem_cons_of_mem _ mem)
      rcases mem_save.mp memr with rfl | ⟨old,_⟩
      · obtain ⟨r',mem',is'⟩ := head
        rw [← agrees r' mem' is', later r' mem' (is'.trans is)]
      · exact later r old is

theorem mem_of_mem_saveAll {key : Row → Key} {copies rows : List Row} {z : Row}
    (mem : z ∈ saveAll key copies rows) : z ∈ copies ∨ z ∈ rows := by
  induction copies generalizing rows with
  | nil => exact Or.inr mem
  | cons copy copies ih =>
    rcases ih mem with later | saved
    · exact Or.inl (List.mem_cons_of_mem _ later)
    · rcases mem_save.mp saved with rfl | ⟨old,_⟩
      · exact Or.inl List.mem_cons_self
      · exact Or.inr old

/-- Saving copies leaves the rows that none of them names. -/
theorem mem_saveAll_other {key : Row → Key} {copies rows : List Row} {z : Row} (mem : z ∈ rows)
    (other : ∀ c ∈ copies, key c ≠ key z) : z ∈ saveAll key copies rows := by
  induction copies generalizing rows with
  | nil => exact mem
  | cons copy copies ih =>
    have first : key z ≠ key copy := (other copy List.mem_cons_self).symm
    exact ih (mem_save.mpr (Or.inr ⟨mem,first⟩)) fun c later =>
      other c (List.mem_cons_of_mem _ later)

/-- Saving whole rows adds those that are missing. -/
theorem mem_saveAll_id [DecidableEq Row] {copies rows : List Row} {z : Row} :
    z ∈ saveAll id copies rows ↔ z ∈ copies ∨ z ∈ rows := by
  induction copies generalizing rows with
  | nil => simp [saveAll]
  | cons copy copies ih =>
    change z ∈ saveAll id copies (save id copy rows) ↔ _
    rw [ih, mem_save, List.mem_cons]
    by_cases same : z = copy <;> simp [same]

/-- Saving copies with different keys: the copies, and the rows none of them names. -/
theorem mem_saveAll {key : Row → Key} {copies rows : List Row} {z : Row}
    (distinct : Keyed key copies) :
    z ∈ saveAll key copies rows ↔ z ∈ copies ∨ (z ∈ rows ∧ ∀ c ∈ copies, key z ≠ key c) := by
  induction copies generalizing rows with
  | nil => simp [saveAll]
  | cons copy copies ih =>
    have tail : Keyed key copies := (List.nodup_cons.mp distinct).2
    have head : ∀ c ∈ copies, key copy ≠ key c := by
      intro c mem same
      exact (List.nodup_cons.mp distinct).1 (List.mem_map.mpr ⟨c,mem,same.symm⟩)
    change z ∈ saveAll key copies (save key copy rows) ↔ _
    rw [ih tail, mem_save, List.mem_cons]
    constructor
    · rintro (mem | ⟨rfl | ⟨mem,ne⟩,miss⟩)
      · exact Or.inl (Or.inr mem)
      · exact Or.inl (Or.inl rfl)
      · exact Or.inr ⟨mem,by rintro c (_ | ⟨_,hc⟩); exacts [ne, miss c hc]⟩
    · rintro ((rfl | mem) | ⟨mem,miss⟩)
      · exact Or.inr ⟨Or.inl rfl,head⟩
      · exact Or.inl mem
      · exact Or.inr ⟨Or.inr ⟨mem,miss copy (by simp)⟩,fun c hc => miss c (by simp [hc])⟩

/-- Saving changed copies of stored rows updates those rows. -/
theorem saveAll_change [DecidableEq Row] {key : Row → Key} {copies rows : List Row}
    (keyed : Keyed key rows) (distinct : Keyed key copies) (stored : ∀ c ∈ copies, c ∈ rows)
    {change : Row → Row} (frame : ∀ r, key (change r) = key r) :
    saveAll key (copies.map change) rows = amend (fun r => r ∈ copies) change rows := by
  induction copies generalizing rows with
  | nil => exact (amend_none change rows).symm
  | cons copy copies ih =>
    have head := stored copy List.mem_cons_self
    have tail : Keyed key copies := (List.nodup_cons.mp distinct).2
    have apart : ∀ c ∈ copies, key c ≠ key copy := by
      intro c mem same
      exact (List.nodup_cons.mp distinct).1 (List.mem_map.mpr ⟨c,mem,same⟩)
    change saveAll key (copies.map change) (save key (change copy) rows) = _
    rw [save_change keyed head (frame copy), ih (keyed_amend keyed frame) tail]
    · simp only [amend, List.map_map]
      apply List.map_congr_left
      intro r mem
      by_cases hit : key r = key copy
      · have same : r = copy := keyed_unique keyed mem head hit
        subst same
        have gone : change r ∉ copies := fun known => apart _ known (frame r)
        simp [gone]
      · have other : r ≠ copy := fun same => hit (congrArg key same)
        simp [hit, other]
    · intro c mem
      exact mem_amend.mpr (Or.inr ⟨stored c (List.mem_cons_of_mem _ mem),
        decide_eq_false (apart c mem)⟩)

omit [DecidableEq Key] in
/-- An update that leaves every row it meets as it is. -/
theorem amend_same {p : Row → Bool} {change : Row → Row} {rows : List Row}
    (same : ∀ r ∈ rows, p r = true → change r = r) : amend p change rows = rows := by
  have kept : rows.map (fun r => if p r then change r else r) = rows.map id := by
    apply List.map_congr_left
    intro r mem
    by_cases hit : p r = true
    · simp [hit, same r mem hit]
    · simp [hit]
  rwa [List.map_id] at kept

theorem saveAll_same {key : Row → Key} {copies rows : List Row} (keyed : Keyed key rows)
    (stored : ∀ c ∈ copies, c ∈ rows) : saveAll key copies rows = rows := by
  induction copies with
  | nil => rfl
  | cons copy copies ih =>
    change saveAll key copies (save key copy rows) = rows
    rw [save_same keyed (stored copy List.mem_cons_self)]
    exact ih fun c mem => stored c (List.mem_cons_of_mem _ mem)

omit [DecidableEq Key] in
/-- Saving rows that are stored already. -/
theorem saveAll_id_same [DecidableEq Row] {copies rows : List Row}
    (stored : ∀ c ∈ copies, c ∈ rows) : saveAll id copies rows = rows := by
  induction copies with
  | nil => rfl
  | cons copy copies ih =>
    have head := stored copy List.mem_cons_self
    have known : (lookup id (id copy) rows).isSome := lookup_isSome_iff.mpr ⟨copy,head,rfl⟩
    change saveAll id copies (save id copy rows) = rows
    rw [save, if_pos known, amend_same fun r _ hit => (of_decide_eq_true hit).symm]
    exact ih fun c mem => stored c (List.mem_cons_of_mem _ mem)

end Tables
