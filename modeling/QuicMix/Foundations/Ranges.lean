import Mathlib.Algebra.Group.Nat.Defs
import Mathlib.Data.BitVec

namespace QuicMix
namespace Foundations

/-!
# Ranges of words

A range is given by a word and the number of leading bits that a member shares
with it.  A program tests the same with a mask.  Both are divisions by a power
of two.
-/

/-- The words that begin with the same bits as a network. -/
structure Range (width : Nat) where
  network : BitVec width
  length : Nat
  deriving DecidableEq, Repr

variable {width : Nat}

def Range.covers (range : Range width) (word : BitVec width) : Bool :=
  word >>> (width - range.length) == range.network >>> (width - range.length)

/-- The word is in a range of a table. -/
def Covered (ranges : List (Range width)) (word : BitVec width) : Prop :=
  exists range, range ∈ ranges ∧ range.covers word = true

theorem Range.covers_iff (range : Range width) (word : BitVec width) :
    range.covers word = true <->
      word.toNat / 2 ^ (width - range.length) =
        range.network.toNat / 2 ^ (width - range.length) := by
  rw [covers, beq_iff_eq, BitVec.toNat_eq, BitVec.toNat_ushiftRight, BitVec.toNat_ushiftRight,
    Nat.shiftRight_eq_div_pow, Nat.shiftRight_eq_div_pow]

theorem getLsbD_mask (low index : Nat) :
    (BitVec.allOnes width <<< low).getLsbD index =
      (decide (low <= index) && decide (index < width)) := by
  rw [BitVec.getLsbD_shiftLeft, BitVec.getLsbD_allOnes]
  rcases Nat.lt_or_ge index low with below | above
  · simp [below, Nat.not_le.mpr below]
  · have inside : index < width -> index - low < width := fun within => by omega
    by_cases within : index < width
    · simp [within, above, Nat.not_lt.mpr above, inside within]
    · simp [within]

/-- Two words agree under a mask exactly if they do after a division. -/
theorem and_mask_eq_and_mask_iff {low : Nat} (first second : BitVec width) :
    first &&& BitVec.allOnes width <<< low = second &&& BitVec.allOnes width <<< low <->
      first.toNat / 2 ^ low = second.toNat / 2 ^ low := by
  rw [← Nat.shiftRight_eq_div_pow, ← Nat.shiftRight_eq_div_pow, ← BitVec.toNat_ushiftRight,
    ← BitVec.toNat_ushiftRight, ← BitVec.toNat_eq]
  constructor
  · intro same
    apply BitVec.eq_of_getLsbD_eq
    intro index _
    have bit := congrArg (fun word => word.getLsbD (low + index)) same
    simp only [BitVec.getLsbD_and, getLsbD_mask, Nat.le_add_right, decide_true, Bool.true_and]
      at bit
    rw [BitVec.getLsbD_ushiftRight, BitVec.getLsbD_ushiftRight]
    by_cases inside : low + index < width
    · rw [decide_eq_true inside, Bool.and_true, Bool.and_true] at bit
      exact bit
    · rw [BitVec.getLsbD_of_ge _ _ (Nat.le_of_not_lt inside),
        BitVec.getLsbD_of_ge _ _ (Nat.le_of_not_lt inside)]
  · intro same
    apply BitVec.eq_of_getLsbD_eq
    intro index _
    rw [BitVec.getLsbD_and, BitVec.getLsbD_and, getLsbD_mask]
    by_cases above : low <= index
    · have bit := congrArg (fun word => word.getLsbD (index - low)) same
      simp only [BitVec.getLsbD_ushiftRight, Nat.add_sub_cancel' above] at bit
      rw [bit]
    · rw [decide_eq_false above, Bool.false_and, Bool.and_false, Bool.and_false]

/-- A mask of leading bits, tested against a value that has no other bits. -/
theorem and_mask_eq_iff {low : Nat} (word : BitVec width) {value : BitVec width}
    (clean : value &&& BitVec.allOnes width <<< low = value) :
    word &&& BitVec.allOnes width <<< low = value <->
      word.toNat / 2 ^ low = value.toNat / 2 ^ low := by
  rw [← and_mask_eq_and_mask_iff, clean]

end Foundations
end QuicMix
