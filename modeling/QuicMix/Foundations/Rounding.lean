import Mathlib.Algebra.Order.Field.Rat
import Mathlib.Tactic.NormNum

namespace QuicMix
namespace Foundations

/-!
# Rounding to whole numbers

Between two whole numbers that are equally near the even one is taken.
-/

/-- Round to the nearest number, and between two of them to the even one. -/
def roundEven (value : Rat) : Nat :=
  let below := value.floor.toNat
  if value - below < 1 / 2 then below
  else if 1 / 2 < value - below then below + 1
  else if below % 2 = 0 then below
  else below + 1

theorem floor_natCast_toNat (number : Nat) : (number : Rat).floor.toNat = number := by
  have floor : (number : Rat).floor = (number : Int) := Rat.floor_intCast number
  rw [floor, Int.toNat_natCast]

theorem roundEven_natCast (number : Nat) : roundEven number = number := by
  have half : (0 : Rat) < 1 / 2 := by norm_num
  simp only [roundEven, floor_natCast_toNat, sub_self]
  rw [if_pos half]

theorem roundEven_le_succ (value : Rat) : roundEven value <= value.floor.toNat + 1 := by
  simp only [roundEven]
  split
  · exact Nat.le_succ _
  · split
    · exact Nat.le_refl _
    · split
      · exact Nat.le_succ _
      · exact Nat.le_refl _

/-- Rounding stays below a whole number. -/
theorem roundEven_le {value : Rat} {bound : Nat} (nonneg : 0 <= value) (below : value <= bound) :
    roundEven value <= bound := by
  have floorBelow : value.floor <= (bound : Int) := by
    have cast : (value.floor : Rat) <= ((bound : Int) : Rat) :=
      le_trans (Rat.floor_le value) (by exact_mod_cast below)
    exact_mod_cast cast
  have floorNonneg : 0 <= value.floor := Rat.le_floor_iff.mpr (by exact_mod_cast nonneg)
  rcases Nat.lt_or_ge value.floor.toNat bound with less | more
  · exact Nat.le_trans (roundEven_le_succ value) less
  · have floor : value.floor = (bound : Int) := by omega
    have same : value = bound := by
      apply le_antisymm below
      have reached := Rat.floor_le value
      rw [floor] at reached
      exact_mod_cast reached
    rw [same, roundEven_natCast]

end Foundations
end QuicMix
