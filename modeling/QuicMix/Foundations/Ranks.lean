import Mathlib.Data.List.Sort
import Mathlib.Order.Defs.LinearOrder

namespace QuicMix
namespace Foundations

universe u

/-!
# Windows of recent items and their ranks

A window keeps the latest items up to a capacity.  An order statistic of a
window is the item at some position of the window in ascending order; it does
not depend on the order of the window, and it grows with the position.
Positions are often given as a fraction of a whole, rounded to the nearest
number.
-/

variable {Item : Type u}

/-! ## Windows -/

/-- Add an item behind the window; a full window loses its oldest item. -/
def slide (capacity : Nat) (window : List Item) (item : Item) : List Item :=
  (if capacity <= window.length then window.tail else window) ++ [item]

/-- The latest items, up to the capacity. -/
def recent (capacity : Nat) (items : List Item) : List Item :=
  items.drop (items.length - capacity)

theorem length_recent (capacity : Nat) (items : List Item) :
    (recent capacity items).length = min items.length capacity := by
  rw [recent, List.length_drop]
  omega

theorem recent_append_singleton {capacity : Nat} (positive : 0 < capacity) (items : List Item)
    (item : Item) :
    recent capacity (items ++ [item]) = slide capacity (recent capacity items) item := by
  have length := length_recent capacity items
  unfold slide
  split
  · rename_i full
    have enough : capacity <= items.length := by omega
    rw [recent, recent, List.tail_drop, List.length_append, List.length_singleton,
      List.drop_append_of_le_length (by omega)]
    congr 2
    omega
  · rename_i room
    have few : items.length < capacity := by omega
    rw [recent, recent, List.length_append, List.length_singleton,
      Nat.sub_eq_zero_of_le (Nat.succ_le_of_lt few), Nat.sub_eq_zero_of_le (Nat.le_of_lt few)]
    rfl

/-! ## Ranks -/

section Order

variable [LinearOrder Item]

/-- The items in ascending order. -/
def ascending (items : List Item) : List Item :=
  items.mergeSort (fun first second => decide (first <= second))

theorem ascending_perm (items : List Item) : (ascending items).Perm items :=
  List.mergeSort_perm items _

theorem length_ascending (items : List Item) : (ascending items).length = items.length :=
  (ascending_perm items).length_eq

theorem pairwise_ascending (items : List Item) : (ascending items).Pairwise (· <= ·) := by
  have sorted : (ascending items).Pairwise
      (fun first second => decide (first <= second) = true) := by
    apply List.pairwise_mergeSort
    · intro first second third
      simp only [decide_eq_true_eq]
      exact le_trans
    · intro first second
      simp only [Bool.or_eq_true, decide_eq_true_eq]
      exact le_total first second
  exact sorted.imp of_decide_eq_true

/-- Permuted windows have the same order statistics. -/
theorem ascending_congr {items others : List Item} (permuted : items.Perm others) :
    ascending items = ascending others := by
  apply List.Perm.eq_of_pairwise
  · intro first second _ _
    exact le_antisymm
  · exact pairwise_ascending items
  · exact pairwise_ascending others
  · exact (ascending_perm items).trans (permuted.trans (ascending_perm others).symm)

theorem mem_of_rank {items : List Item} {position : Nat} {item : Item}
    (ranked : (ascending items)[position]? = some item) : item ∈ items :=
  (ascending_perm items).mem_iff.mp (List.mem_of_getElem? ranked)

theorem exists_rank {items : List Item} {position : Nat} (bound : position < items.length) :
    exists item, (ascending items)[position]? = some item := by
  rw [← length_ascending items] at bound
  exact ⟨_, List.getElem?_eq_getElem bound⟩

theorem rank_le_rank {items : List Item} {low high : Nat} {first second : Item}
    (ordered : low <= high) (ranked : (ascending items)[low]? = some first)
    (rankedHigh : (ascending items)[high]? = some second) : first <= second := by
  rcases List.getElem?_eq_some_iff.mp ranked with ⟨_, rfl⟩
  rcases List.getElem?_eq_some_iff.mp rankedHigh with ⟨_, rfl⟩
  rcases Nat.eq_or_lt_of_le ordered with same | less
  · subst same
    exact le_refl _
  · exact List.pairwise_iff_getElem.mp (pairwise_ascending items) low high _ _ less

/-- No item is above the last rank. -/
theorem le_top {items : List Item} {top item : Item}
    (ranked : (ascending items)[items.length - 1]? = some top) (member : item ∈ items) :
    item <= top := by
  rcases List.getElem?_of_mem ((ascending_perm items).mem_iff.mpr member) with ⟨position, found⟩
  have bound := (List.getElem?_eq_some_iff.mp found).1
  rw [length_ascending] at bound
  exact rank_le_rank (Nat.le_sub_one_of_lt bound) found ranked

end Order

/-! ## Positions given as fractions -/

/-- The given fraction of a whole, to the nearest number, halves up. -/
def fractionOf (whole part parts : Nat) : Nat :=
  (2 * (whole * part) + parts) / (2 * parts)

theorem fractionOf_le {whole part parts : Nat} (proper : part <= parts) :
    fractionOf whole part parts <= whole := by
  rcases Nat.eq_zero_or_pos parts with none | positive
  · subst none
    simp only [fractionOf, Nat.mul_zero, Nat.div_zero, Nat.zero_le]
  · apply Nat.le_of_lt_succ
    apply (Nat.div_lt_iff_lt_mul (Nat.mul_pos Nat.two_pos positive)).mpr
    have product := Nat.mul_le_mul_left whole proper
    have doubled : (whole + 1) * (2 * parts) = 2 * (whole * parts) + 2 * parts := by
      rw [Nat.add_mul, Nat.one_mul, Nat.mul_left_comm]
    rw [Nat.succ_eq_add_one, doubled]
    omega

theorem fractionOf_mono {whole part more parts : Nat} (less : part <= more) :
    fractionOf whole part parts <= fractionOf whole more parts := by
  apply Nat.div_le_div_right
  have product := Nat.mul_le_mul_left whole less
  omega

end Foundations
end QuicMix
