import Mathlib.Data.List.Perm.Basic
import Mathlib.Data.List.Sort
import Mathlib.Order.Basic

/-!
Reading a query page by page. Every page is a query of its own, and a query orders its rows
by a key only: rows with the same key come in any order, and in another order the next time.
-/
namespace Tables
variable {α κ : Type} {rows sorted sorted' : List α} {size k n b : Nat}

/-- The page with the number, counted from 0. -/
def slice (size k : Nat) (rows : List α) : List α := (rows.drop (k * size)).take size

theorem slices_take (rows : List α) (size n : Nat) :
    ((List.range n).flatMap fun k => slice size k rows) = rows.take (n * size) := by
  induction n with
  | zero => simp
  | succ n ih =>
    rw [List.range_succ, List.flatMap_append, ih, Nat.succ_mul, List.take_add]
    simp [slice]

/-- The pages of one order are its rows. -/
theorem slices_all (enough : rows.length ≤ n * size) :
    ((List.range n).flatMap fun k => slice size k rows) = rows := by
  rw [slices_take, List.take_of_length_le enough]

theorem take_slice (rows : List α) (size k : Nat) :
    rows.take ((k + 1) * size) = rows.take (k * size) ++ slice size k rows := by
  rw [Nat.succ_mul, List.take_add, slice]

theorem slice_append_drop (rows : List α) (size k : Nat) :
    slice size k rows ++ rows.drop ((k + 1) * size) = rows.drop (k * size) := by
  have later : rows.drop ((k + 1) * size) = (rows.drop (k * size)).drop size := by
    rw [List.drop_drop, Nat.succ_mul]
  rw [later, slice, List.take_append_drop]

/-- The pages from the number on, read for as long as each of them has a next one. -/
def readOn (size : Nat) (hasNext : Nat → Bool) (rows : List α) : Nat → Nat → Option (List α)
  | 0, _ => none
  | fuel + 1, k =>
      if hasNext k then (readOn size hasNext rows fuel (k + 1)).map (slice size k rows ++ ·)
      else some (slice size k rows)

/-- Where a page has a next one whenever rows come after it, reading on ends with the last row. -/
theorem readOn_all {hasNext : Nat → Bool}
    (next : ∀ k, hasNext k = true ↔ (k + 1) * size < rows.length) {fuel : Nat}
    (positive : 0 < fuel) (enough : rows.length ≤ (k + fuel) * size) :
    readOn size hasNext rows fuel k = some (rows.drop (k * size)) := by
  induction fuel generalizing k with
  | zero => omega
  | succ fuel ih =>
    rw [readOn]
    by_cases more : (k + 1) * size < rows.length
    · have left : 0 < fuel := by
        rcases Nat.eq_zero_or_pos fuel with rfl | left
        · rw [Nat.zero_add] at enough
          omega
        · exact left
      have rest := ih left (by rwa [Nat.add_right_comm, Nat.add_assoc])
      rw [if_pos ((next k).mpr more), rest, Option.map_some, slice_append_drop]
    · have last : hasNext k = false := by
        rw [Bool.eq_false_iff]
        exact fun is => more ((next k).mp is)
      have none : rows.drop ((k + 1) * size) = [] := List.drop_eq_nil_of_le (by omega)
      have whole := slice_append_drop rows size k
      rw [none, List.append_nil] at whole
      rw [last, if_neg Bool.false_ne_true, whole]

section Ordered
variable [LinearOrder κ] {key : α → κ}

/-- An order of the rows in which a query that sorts them by a descending key can return
    them. -/
structure Ordered (key : α → κ) (rows sorted : List α) : Prop where
  perm : sorted.Perm rows
  descending : sorted.Pairwise fun a b => key b ≤ key a

/-- Some value of the key is passed by this many rows. -/
def Parts (key : α → κ) (rows : List α) (b : Nat) : Prop :=
  ∃ t, rows.countP (fun x => t < key x) = b

theorem ordered_insertionSort (key : α → κ) (rows : List α) :
    Ordered key rows (rows.insertionSort fun a b => key b ≤ key a) := by
  have total : Std.Total fun a b : α => key b ≤ key a := ⟨fun a b => le_total (key b) (key a)⟩
  have trans : IsTrans α fun a b => key b ≤ key a := ⟨fun _ _ _ ab bc => bc.trans ab⟩
  exact ⟨List.perm_insertionSort _ rows,List.pairwise_insertionSort _ rows⟩

/-- The rows that pass a value come before the others. -/
theorem Ordered.passed_first (ordered : Ordered key rows sorted) (t : κ) :
    sorted = sorted.filter (fun x => t < key x) ++ sorted.filter fun x => ¬ t < key x := by
  have descending := ordered.descending
  clear ordered
  induction sorted with
  | nil => rfl
  | cons x sorted ih =>
    obtain ⟨first,rest⟩ := List.pairwise_cons.mp descending
    by_cases passes : t < key x
    · have tail := ih rest
      simp only [List.filter_cons, passes, decide_true, ↓reduceIte, List.cons_append]
      simpa using tail
    · have below : ∀ y ∈ sorted, ¬ t < key y :=
        fun y mem later => passes (later.trans_le (first y mem))
      have none : sorted.filter (fun x => t < key x) = [] := by
        apply List.filter_eq_nil_iff.mpr
        intro y mem
        simpa using below y mem
      have all : sorted.filter (fun x => ¬ t < key x) = sorted := by
        apply List.filter_eq_self.mpr
        intro y mem
        simpa using below y mem
      simp only [List.filter_cons, passes, none, all, decide_false, not_false_eq_true,
        decide_true, ↓reduceIte, Bool.false_eq_true, List.nil_append]

/-- Where a value parts the rows, every order has the same rows before that place. -/
theorem Ordered.take_passed (ordered : Ordered key rows sorted) {t : κ}
    (count : rows.countP (fun x => t < key x) = b) :
    (sorted.take b).Perm (rows.filter fun x => t < key x) := by
  have length : (sorted.filter fun x => t < key x).length = b := by
    rw [← List.countP_eq_length_filter, ordered.perm.countP_eq, count]
  rw [ordered.passed_first t, ← length, List.take_left]
  exact ordered.perm.filter _

theorem Ordered.take_same (ordered : Ordered key rows sorted) (ordered' : Ordered key rows sorted')
    (parts : 0 < b → b < rows.length → Parts key rows b) :
    (sorted.take b).Perm (sorted'.take b) := by
  by_cases first : b = 0
  · rw [first]
    exact List.Perm.refl []
  by_cases inside : b < rows.length
  · obtain ⟨t,count⟩ := parts (by omega) inside
    exact (ordered.take_passed count).trans (ordered'.take_passed count).symm
  · have length := ordered.perm.length_eq
    have length' := ordered'.perm.length_eq
    rw [List.take_of_length_le (by omega), List.take_of_length_le (by omega)]
    exact ordered.perm.trans ordered'.perm.symm

/-- Between two places that are parted, every order has the same rows. -/
theorem Ordered.slice_same (ordered : Ordered key rows sorted)
    (ordered' : Ordered key rows sorted')
    (parts : ∀ k, 0 < k * size → k * size < rows.length → Parts key rows (k * size)) (k : Nat) :
    (slice size k sorted).Perm (slice size k sorted') := by
  have before := ordered.take_same ordered' (parts k)
  have after := ordered.take_same ordered' (parts (k + 1))
  rw [take_slice, take_slice] at after
  exact (List.perm_append_left_iff _).mp (after.trans (before.symm.append_right _))

/-- Pages that are parted from each other have every row once, however each query orders it. -/
theorem slices_once {sorts : Nat → List α} (ordered : ∀ k, Ordered key rows (sorts k))
    (parts : ∀ k, 0 < k * size → k * size < rows.length → Parts key rows (k * size))
    (enough : rows.length ≤ n * size) :
    ((List.range n).flatMap fun k => slice size k (sorts k)).Perm rows := by
  have same : ((List.range n).flatMap fun k => slice size k (sorts k)).Perm
      ((List.range n).flatMap fun k => slice size k (sorts 0)) := by
    apply List.Perm.flatMap_left
    intro k _
    exact (ordered k).slice_same (ordered 0) parts k
  rw [slices_all ((ordered 0).perm.length_eq.trans_le enough)] at same
  exact same.trans (ordered 0).perm

/-- Where no value parts the rows, the two rows at that place can change their places. -/
theorem Ordered.swapped (ordered : Ordered key rows sorted) (unparted : ¬ Parts key rows b)
    (positive : 0 < b) (inside : b < rows.length) :
    ∃ before x y after, sorted = before ++ x :: y :: after ∧ before.length + 1 = b ∧
      Ordered key rows (before ++ y :: x :: after) := by
  have length := ordered.perm.length_eq
  obtain ⟨c,rfl⟩ : ∃ c, b = c + 1 := ⟨b - 1,by omega⟩
  have here : c < sorted.length := by omega
  have next : c + 1 < sorted.length := by omega
  have split : sorted = sorted.take c ++ sorted[c] :: sorted[c + 1] :: sorted.drop (c + 2) := by
    rw [← List.drop_eq_getElem_cons next, ← List.drop_eq_getElem_cons here,
      List.take_append_drop]
  have size : (sorted.take c).length = c := List.length_take_of_le here.le
  generalize sorted.take c = before, sorted[c] = x, sorted[c + 1] = y,
    sorted.drop (c + 2) = after at split size
  have descending := ordered.descending
  have perm := ordered.perm
  rw [split] at descending perm
  refine ⟨before,x,y,after,split,by omega,?_,?_⟩
  · exact (List.Perm.append_left before (List.Perm.swap x y after)).trans perm
  · obtain ⟨left,right,across⟩ := List.pairwise_append.mp descending
    obtain ⟨first,rest⟩ := List.pairwise_cons.mp right
    obtain ⟨second,tail⟩ := List.pairwise_cons.mp rest
    have equal : key x ≤ key y := by
      by_contra less
      apply unparted
      refine ⟨key y,?_⟩
      rw [← perm.countP_eq, List.countP_append]
      have all : before.countP (fun z => key y < key z) = before.length := by
        apply List.countP_eq_length.mpr
        intro z mem
        exact decide_eq_true ((not_le.mp less).trans_le (across z mem x List.mem_cons_self))
      have none : after.countP (fun z => key y < key z) = 0 := by
        apply List.countP_eq_zero.mpr
        intro z mem
        simpa using second z mem
      simp [all, none, not_le.mp less, size]
    apply List.pairwise_append.mpr
    refine ⟨left,?_,?_⟩
    · apply List.pairwise_cons.mpr
      constructor
      · intro z mem
        rcases List.mem_cons.mp mem with rfl | later
        · exact equal
        · exact second z later
      · apply List.pairwise_cons.mpr
        constructor
        · intro z mem
          exact first z (List.mem_cons_of_mem _ mem)
        · exact tail
    · intro z mem u memu
      apply across z mem u
      simp only [List.mem_cons] at memu ⊢
      tauto

/-- The last row of a page, and the first of the next. -/
theorem mem_slice_last {x : α} {before after : List α} (positive : 0 < size)
    (place : before.length + 1 = (k + 1) * size) :
    x ∈ slice size k (before ++ x :: after) := by
  rw [Nat.succ_mul] at place
  have rest : size - (before.drop (k * size)).length = 1 := by
    rw [List.length_drop]
    omega
  rw [slice, List.drop_append_of_le_length (by omega), List.take_append, rest]
  exact List.mem_append_right _ List.mem_cons_self

theorem mem_slice_first {x : α} {before after : List α} (positive : 0 < size)
    (place : before.length = k * size) : x ∈ slice size k (before ++ x :: after) := by
  obtain ⟨rest,rfl⟩ : ∃ rest, size = rest + 1 := ⟨size - 1,by omega⟩
  rw [slice, ← place, List.drop_left, List.take_succ_cons]
  exact List.mem_cons_self

variable (key) in
/-- Reading page by page shows every row once, in all orders that the queries may choose, if
    and only if the rows are parted wherever a page ends. -/
theorem slices_once_iff {β : Type} {column : α → β} (distinct : (rows.map column).Nodup)
    (enough : rows.length ≤ n * size) :
    (∀ sorts : Nat → List α, (∀ k, Ordered key rows (sorts k)) →
        ((List.range n).flatMap fun k => (slice size k (sorts k)).map column).Perm
          (rows.map column)) ↔
      ∀ k, 0 < k * size → k * size < rows.length → Parts key rows (k * size) := by
  constructor
  · intro once k positive inside
    by_contra unparted
    have ordered := ordered_insertionSort key rows
    obtain ⟨before,x,y,after,split,place,swapped⟩ := ordered.swapped unparted positive inside
    generalize rows.insertionSort (fun a b => key b ≤ key a) = sorted at ordered split
    obtain ⟨last,rfl⟩ : ∃ last, k = last + 1 :=
      ⟨k - 1,by have := Nat.pos_of_mul_pos_right positive; omega⟩
    let sorts : Nat → List α := fun j => if j = last then sorted else before ++ y :: x :: after
    have read := once sorts fun j => by
      by_cases is : j = last
      · simp only [sorts, is, ↓reduceIte]
        exact ordered
      · simp only [sorts, is, ↓reduceIte]
        exact swapped
    have apart := (List.nodup_flatMap.mp (read.nodup_iff.mpr distinct)).2
    have inside' : last + 1 < n := Nat.lt_of_mul_lt_mul_right (inside.trans_le enough)
    have disjoint := List.pairwise_iff_getElem.mp apart last (last + 1) (by simp; omega)
      (by simpa using inside') (Nat.lt_succ_self last)
    simp only [Function.onFun, List.getElem_range, sorts, ↓reduceIte, Nat.succ_ne_self] at disjoint
    have some : 0 < size := Nat.pos_of_mul_pos_left positive
    -- the row that ends the one page starts the next
    have ends : x ∈ slice size last sorted := by
      rw [split]
      exact mem_slice_last some place
    have starts : x ∈ slice size (last + 1) (before ++ [y] ++ x :: after) :=
      mem_slice_first some (by simpa using place)
    rw [List.append_assoc, List.singleton_append] at starts
    exact disjoint (List.mem_map_of_mem ends) (List.mem_map_of_mem starts)
  · intro parts sorts ordered
    rw [← List.map_flatMap]
    exact (slices_once ordered parts enough).map column

end Ordered

end Tables
