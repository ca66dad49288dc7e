import Chatterbox.Chat.Queries
import Chatterbox.Tables.Pages
import Mathlib.Tactic.Ring

/-!
Pages as a client goes through them: from the first, by their numbers, for as long as the
answer announces a next one.
-/
namespace Chatterbox
open Tables

namespace PaginationOptions

/-- Options that a query can be made with. The page that comes first has the number 1. -/
structure Bounded (options : PaginationOptions) : Prop where
  first : 1 ≤ options.page
  offset : (options.offset : Int) = ((options.page : Int) - 1) * options.limit
  nonneg : 0 ≤ ((options.page : Int) - 1) * options.limit
  positive : 1 ≤ options.limit
  atMost : options.limit ≤ 100

/-- The place where the page ends. -/
theorem Bounded.stop {options : PaginationOptions} (bounded : options.Bounded) :
    options.offset + options.limit = options.page * options.limit := by
  have same : ((options.offset + options.limit : Nat) : Int) =
      ((options.page * options.limit : Nat) : Int) := by
    rw [Int.natCast_add, Int.natCast_mul, bounded.offset]
    ring
  exact Int.ofNat.inj same

end PaginationOptions

variable {α : Type}

theorem parse_bounded (page pageSize : Option Int) :
    (PaginationHelper.parse page pageSize).Bounded := by
  have first : 1 ≤ (PaginationHelper.parse page pageSize).page := by
    simp only [PaginationHelper.parse]
    omega
  have offset : ((PaginationHelper.parse page pageSize).offset : Int) =
      (((PaginationHelper.parse page pageSize).page : Int) - 1) *
        (PaginationHelper.parse page pageSize).limit := by
    have product : (PaginationHelper.parse page pageSize).offset =
        ((PaginationHelper.parse page pageSize).page - 1) *
          (PaginationHelper.parse page pageSize).limit := rfl
    rw [product, Int.natCast_mul, Int.ofNat_sub first]
    rfl
  refine ⟨first,offset,?_,?_,?_⟩
  · rw [← offset]
    exact Int.natCast_nonneg _
  · simp only [PaginationHelper.parse]
    omega
  · simp only [PaginationHelper.parse]
    omega

theorem limit_pos (page pageSize : Option Int) : 0 < (PaginationHelper.parse page pageSize).limit :=
  (parse_bounded page pageSize).positive

/-- The page of a request is a slice of the rows. -/
theorem page_slice (pageSize : Option Int) (k : Nat) (rows : List α) :
    ChatDatabase.page (PaginationHelper.parse (some (k + 1)) pageSize) rows =
      slice (PaginationHelper.parse none pageSize).limit k rows := by
  have first : (max 1 ((k : Int) + 1)).toNat - 1 = k := by omega
  simp only [ChatDatabase.page, PaginationHelper.parse, slice, Option.getD_some, first]

/-- There is a next page when the items go on behind this one. -/
theorem hasNext_iff {options : PaginationOptions} (bounded : options.Bounded) (data : List α)
    (total : Nat) :
    (PaginationHelper.createResult data total options).info.hasNext = true ↔
      options.offset + options.limit < total := by
  have positive := bounded.positive
  have rounded : total + options.limit - 1 - (options.limit - 1) = total := by omega
  rw [bounded.stop]
  simp only [PaginationHelper.createResult, decide_eq_true_eq]
  rw [Nat.lt_div_iff_mul_lt positive, rounded]

/-- The client that goes through a list page by page. -/
def walkPages (pageSize : Option Int) (list : List α) : Nat → Int → Option (List α)
  | 0, _ => none
  | fuel + 1, page =>
      let options := PaginationHelper.parse (some page) pageSize
      let result := PaginationHelper.createResult (ChatDatabase.page options list) list.length options
      if result.info.hasNext then (walkPages pageSize list fuel (page + 1)).map (result.data ++ ·)
      else some result.data

/-- The announcement of the page with this number, counted from 0. -/
def announces (pageSize : Option Int) (list : List α) (k : Nat) : Bool :=
  (PaginationHelper.createResult (ChatDatabase.page (PaginationHelper.parse (some (k + 1)) pageSize)
    list) list.length (PaginationHelper.parse (some (k + 1)) pageSize)).info.hasNext

theorem announces_iff (pageSize : Option Int) (list : List α) (k : Nat) :
    announces pageSize list k = true ↔
      (k + 1) * (PaginationHelper.parse none pageSize).limit < list.length := by
  have bounded := parse_bounded (some (k + 1)) pageSize
  have number : (PaginationHelper.parse (some ((k : Int) + 1)) pageSize).page = k + 1 := by
    simp only [PaginationHelper.parse, Option.getD_some]
    omega
  rw [announces, hasNext_iff bounded, bounded.stop, number]
  rfl

/-- Walking reads on from slice to slice. -/
theorem walkPages_eq (pageSize : Option Int) (list : List α) (fuel k : Nat) :
    walkPages pageSize list fuel (k + 1) =
      readOn (PaginationHelper.parse none pageSize).limit (announces pageSize list) list fuel k := by
  induction fuel generalizing k with
  | zero => rfl
  | succ fuel ih =>
    have later := ih (k + 1)
    rw [Int.natCast_succ] at later
    rw [walkPages, readOn, ← later, ← page_slice]
    rfl

/-- The pages tile the list, the last of them announces no other, and every query stays within
    its bounds. -/
theorem pages_tile (pageSize : Option Int) (list : List α) :
    (∀ fuel, list.length < fuel → walkPages pageSize list fuel 1 = some list) ∧
      ∀ page, (PaginationHelper.parse page pageSize).Bounded ∧
        ((PaginationHelper.createResult (ChatDatabase.page (PaginationHelper.parse page pageSize)
            list) list.length (PaginationHelper.parse page pageSize)).info.hasNext = true ↔
          list.drop ((PaginationHelper.parse page pageSize).offset +
            (PaginationHelper.parse page pageSize).limit) ≠ []) := by
  constructor
  · intro fuel enough
    have positive := limit_pos none pageSize
    have reach : list.length ≤ (0 + fuel) * (PaginationHelper.parse none pageSize).limit := by
      rw [Nat.zero_add]
      exact enough.le.trans (Nat.le_mul_of_pos_right fuel positive)
    have read := readOn_all (announces_iff pageSize list) (Nat.zero_lt_of_lt enough) reach
    have walk := walkPages_eq pageSize list fuel 0
    rw [read] at walk
    simpa using walk
  · intro page
    have bounded := parse_bounded page pageSize
    refine ⟨bounded,?_⟩
    rw [hasNext_iff bounded, Ne, List.drop_eq_nil_iff, not_le]

example : walkPages (some 2) [1, 2, 3, 4, 5] 3 1 = some [1, 2, 3, 4, 5] := by decide

end Chatterbox
