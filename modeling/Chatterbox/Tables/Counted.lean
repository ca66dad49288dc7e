import Chatterbox.Tables.Keyed
import Mathlib.Data.List.Perm.Basic

/-!
How an update of a table changes the number of its rows with a property.
-/
namespace Tables
variable {Row Key : Type}

/-- An update that no row of the table gains or loses the property by. -/
theorem countP_amend_same {p q hit : Row → Bool} {change : Row → Row} {rows : List Row}
    (same : ∀ r ∈ rows, q (if hit r then change r else r) = p r) :
    (amend hit change rows).countP q = rows.countP p := by
  unfold amend
  rw [List.countP_map]
  apply List.countP_congr
  intro r mem
  rw [Function.comp_apply, same r mem]

/-- One row loses the property, if it has had it; the others stay as they are. -/
theorem countP_lost [DecidableEq Row] {p q : Row → Bool} {rows : List Row} (distinct : rows.Nodup)
    {lost : Row} (mem : lost ∈ rows) (gone : q lost = false)
    (same : ∀ r ∈ rows, r ≠ lost → q r = p r) :
    rows.countP q = rows.countP p - if p lost then 1 else 0 := by
  have order := List.perm_cons_erase mem
  have others : (rows.erase lost).countP q = (rows.erase lost).countP p := by
    apply List.countP_congr
    intro r rest
    obtain ⟨other,old⟩ := (distinct.mem_erase_iff).mp rest
    rw [same r old other]
  rw [order.countP_eq q, order.countP_eq p, List.countP_cons, List.countP_cons, others, gone]
  simp

end Tables
