import QuicMix.Foundations.Rounding
import Mathlib.Algebra.Order.Field.Power
import Mathlib.Data.Int.Log
import Mathlib.Data.Rat.Floor
import Mathlib.Tactic.Linarith
import Mathlib.Tactic.Positivity

namespace QuicMix
namespace Foundations

/-!
# Double precision

A double has a significand of 53 bits, and its last place is worth `2 ^ -1074` at
least.  An operation on doubles gives the double that is nearest to the exact
result, and the one with an even significand between two that are equally near.

The exponent is not bounded above: the numbers here stay far below `2 ^ 1024`, and
no operation on them is undefined, so that there are neither infinities nor NaNs.
Both zeros are the number zero.
-/

/-- The exponent of the last place of the doubles around a value. -/
def lastPlace (value : Rat) : Int :=
  max (Int.log 2 |value| - 52) (-1074)

/-- What the last place of the doubles around a value is worth. -/
def unitOf (value : Rat) : Rat :=
  2 ^ lastPlace value

/-- The double nearest to a value. -/
def toDouble (value : Rat) : Rat :=
  if 0 <= value then roundEven (value / unitOf value) * unitOf value
  else -(roundEven (-value / unitOf value) * unitOf value)

/-- The sum of doubles from left to right. -/
def sumDouble (values : List Rat) : Rat :=
  values.foldl (fun sum value => toDouble (sum + value)) 0

theorem unitOf_pos (value : Rat) : 0 < unitOf value := by
  rw [unitOf]
  positivity

theorem toDouble_of_nonneg {value : Rat} (nonneg : 0 <= value) :
    toDouble value = roundEven (value / unitOf value) * unitOf value :=
  if_pos nonneg

theorem toDouble_nonneg {value : Rat} (nonneg : 0 <= value) : 0 <= toDouble value := by
  rw [toDouble_of_nonneg nonneg]
  exact mul_nonneg (Nat.cast_nonneg _) (le_of_lt (unitOf_pos value))

theorem toDouble_zero : toDouble 0 = 0 := by
  have none : roundEven 0 = 0 := roundEven_natCast 0
  rw [toDouble_of_nonneg (le_refl 0), zero_div, none, Nat.cast_zero, zero_mul]

section Doubles

variable {value : Rat} {significand : Nat} {exponent : Int}

/-- A double above a value is a multiple of the value's last place. -/
theorem exists_multiple (positive : 0 < value) (short : significand <= 2 ^ 53)
    (normal : -1074 <= exponent) (above : value <= significand * (2 : Rat) ^ exponent) :
    exists multiple : Nat, significand * (2 : Rat) ^ exponent = multiple * unitOf value := by
  rcases lt_or_ge exponent (lastPlace value) with finer | coarser
  · -- The value has all its digits below the last place of the double, so that both
    -- are the power of two in between.
    have place : lastPlace value = Int.log 2 |value| - 52 := by
      rw [lastPlace] at finer ⊢
      omega
    have reached : (2 : Rat) ^ (lastPlace value + 52) <= value := by
      have digits := Int.zpow_log_le_self (b := 2) (r := |value|) (by decide)
        (abs_pos.mpr (ne_of_gt positive))
      rw [place, Int.sub_add_cancel]
      rw [abs_of_pos positive] at digits ⊢
      exact_mod_cast digits
    have bounded : significand * (2 : Rat) ^ exponent <= (2 : Rat) ^ (lastPlace value + 52) := by
      have cast : (significand : Rat) <= (2 : Rat) ^ (53 : Int) := by exact_mod_cast short
      calc significand * (2 : Rat) ^ exponent
          <= (2 : Rat) ^ (53 : Int) * (2 : Rat) ^ exponent :=
            mul_le_mul_of_nonneg_right cast (by positivity)
        _ = (2 : Rat) ^ (53 + exponent) := (zpow_add₀ (by norm_num) _ _).symm
        _ <= (2 : Rat) ^ (lastPlace value + 52) :=
            zpow_le_zpow_right₀ (by norm_num) (by omega)
    refine ⟨2 ^ 52, ?_⟩
    rw [le_antisymm bounded (le_trans reached above), zpow_add₀ (by norm_num), unitOf, mul_comm]
    norm_num
  · rcases Int.eq_ofNat_of_zero_le (Int.sub_nonneg_of_le coarser) with ⟨steps, difference⟩
    refine ⟨significand * 2 ^ steps, ?_⟩
    have split : exponent = (steps : Int) + lastPlace value := by omega
    rw [split, zpow_add₀ (by norm_num), zpow_natCast, unitOf]
    push_cast
    ring

/-- Rounding stays below a double. -/
theorem toDouble_le (nonneg : 0 <= value) (short : significand <= 2 ^ 53)
    (normal : -1074 <= exponent) (below : value <= significand * (2 : Rat) ^ exponent) :
    toDouble value <= significand * (2 : Rat) ^ exponent := by
  rcases eq_or_lt_of_le nonneg with zero | positive
  · rw [← zero, toDouble_zero]
    positivity
  · have unit := unitOf_pos value
    rcases exists_multiple positive short normal below with ⟨multiple, same⟩
    rw [toDouble_of_nonneg nonneg, same]
    rw [same, ← div_le_iff₀ unit] at below
    exact mul_le_mul_of_nonneg_right
      (Nat.cast_le.mpr (roundEven_le (div_nonneg nonneg (le_of_lt unit)) below)) (le_of_lt unit)

/-- A double is rounded to itself. -/
theorem toDouble_eq (short : significand <= 2 ^ 53) (normal : -1074 <= exponent) :
    toDouble (significand * (2 : Rat) ^ exponent) = significand * (2 : Rat) ^ exponent := by
  have nonneg : (0 : Rat) <= significand * (2 : Rat) ^ exponent := by positivity
  rcases eq_or_lt_of_le nonneg with zero | positive
  · rw [← zero, toDouble_zero]
  · rcases exists_multiple positive short normal (le_refl _) with ⟨multiple, same⟩
    have unit := ne_of_gt (unitOf_pos (significand * (2 : Rat) ^ exponent))
    have quotient : significand * (2 : Rat) ^ exponent /
        unitOf (significand * (2 : Rat) ^ exponent) = multiple :=
      (div_eq_iff unit).mpr same
    rw [toDouble_of_nonneg nonneg, quotient, roundEven_natCast]
    exact same.symm

end Doubles

theorem toDouble_natCast {number : Nat} (short : number <= 2 ^ 53) :
    toDouble number = number := by
  have whole : toDouble (number * (2 : Rat) ^ (0 : Int)) = number * (2 : Rat) ^ (0 : Int) :=
    toDouble_eq short (by decide)
  rwa [zpow_zero, mul_one] at whole

/-- Whole multiples of one power of two are added without an error, as long as the
sum has no more than 53 bits. -/
theorem foldl_toDouble_eq {exponent : Int} (normal : -1074 <= exponent) (multiples : List Nat)
    (start : Nat) (short : start + multiples.sum <= 2 ^ 53) :
    (multiples.map (fun multiple : Nat => multiple * (2 : Rat) ^ exponent)).foldl
        (fun sum value => toDouble (sum + value)) (start * (2 : Rat) ^ exponent) =
      (start + multiples.sum : Nat) * (2 : Rat) ^ exponent := by
  induction multiples generalizing start with
  | nil => rfl
  | cons multiple rest inductionHypothesis =>
      rw [List.sum_cons, ← Nat.add_assoc] at short
      have first : toDouble (start * (2 : Rat) ^ exponent + multiple * (2 : Rat) ^ exponent) =
          (start + multiple : Nat) * (2 : Rat) ^ exponent := by
        rw [← add_mul, ← Nat.cast_add]
        exact toDouble_eq (Nat.le_trans (Nat.le_add_right _ _) short) normal
      rw [List.map_cons, List.foldl_cons, first, inductionHypothesis (start + multiple) short,
        List.sum_cons, Nat.add_assoc]

theorem sumDouble_eq {exponent : Int} (normal : -1074 <= exponent) {multiples : List Nat}
    (short : multiples.sum <= 2 ^ 53) :
    sumDouble (multiples.map (fun multiple : Nat => multiple * (2 : Rat) ^ exponent)) =
      multiples.sum * (2 : Rat) ^ exponent := by
  have all := foldl_toDouble_eq normal multiples 0 (by rwa [Nat.zero_add])
  rwa [Nat.cast_zero, zero_mul, Nat.zero_add] at all

theorem foldl_toDouble_le {exponent : Int} (normal : -1074 <= exponent) {values : List Rat}
    (bounds : forall value, value ∈ values -> 0 <= value ∧ value <= (2 : Rat) ^ exponent)
    {sum : Rat} {count : Nat} (nonneg : 0 <= sum) (below : sum <= count * (2 : Rat) ^ exponent)
    (short : count + values.length <= 2 ^ 53) :
    0 <= values.foldl (fun sum value => toDouble (sum + value)) sum ∧
      values.foldl (fun sum value => toDouble (sum + value)) sum <=
        (count + values.length : Nat) * (2 : Rat) ^ exponent := by
  induction values generalizing sum count with
  | nil => exact ⟨nonneg, below⟩
  | cons value rest inductionHypothesis =>
      rcases bounds value List.mem_cons_self with ⟨low, high⟩
      rw [List.length_cons, Nat.add_comm rest.length, ← Nat.add_assoc] at short ⊢
      have total : sum + value <= (count + 1 : Nat) * (2 : Rat) ^ exponent := by
        rw [Nat.cast_succ, add_mul, one_mul]
        exact add_le_add below high
      have nonnegTotal : 0 <= sum + value := add_nonneg nonneg low
      exact inductionHypothesis (fun other member => bounds other (List.mem_cons_of_mem _ member))
        (toDouble_nonneg nonnegTotal)
        (toDouble_le nonnegTotal (Nat.le_trans (Nat.le_add_right _ _) short) normal total) short

/-- The errors of a sum do not add up beyond a multiple of a power of two. -/
theorem sumDouble_le {exponent : Int} (normal : -1074 <= exponent) {values : List Rat}
    (bounds : forall value, value ∈ values -> 0 <= value ∧ value <= (2 : Rat) ^ exponent)
    (short : values.length <= 2 ^ 53) :
    0 <= sumDouble values ∧ sumDouble values <= values.length * (2 : Rat) ^ exponent := by
  have start : (0 : Rat) <= (0 : Nat) * (2 : Rat) ^ exponent := by
    rw [Nat.cast_zero, zero_mul]
  have all := foldl_toDouble_le normal bounds (le_refl 0) start (by rwa [Nat.zero_add])
  rwa [Nat.zero_add] at all

/-- The order of additions shows in the last place. -/
example : sumDouble [toDouble (1 / 10), toDouble (2 / 10), toDouble (3 / 10)] ≠
    sumDouble [toDouble (3 / 10), toDouble (2 / 10), toDouble (1 / 10)] := by
  decide +kernel

end Foundations
end QuicMix
