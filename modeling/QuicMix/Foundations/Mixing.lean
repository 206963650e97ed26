import Mathlib.Algebra.Group.Nat.Defs
import Mathlib.Data.List.Basic

namespace QuicMix
namespace Foundations

/-!
# Bijective mixing of machine words

The stages from which a mixing function is usually composed lose nothing: a
word can be recovered from its exclusive or with itself shifted to the right,
from its product with a unit, and from its bytes.  A counter that advances by a
unit modulo the word size returns to a value only after it has been through all
of them.
-/

variable {width : Nat}

/-- A word that a right shift leaves alone is left alone by every multiple of
the shift. -/
theorem eq_shiftRight_mul {shift : Nat} {word : BitVec width} (fixed : word = word >>> shift)
    (times : Nat) : word = word >>> (shift * times) := by
  induction times with
  | zero => rw [Nat.mul_zero, BitVec.ushiftRight_zero]
  | succ times inductionHypothesis =>
      rw [Nat.mul_succ, BitVec.shiftRight_add, ← inductionHypothesis]
      exact fixed

/-- Two words with the same result differ by a word that the shift leaves
alone, which is zero. -/
theorem xor_shiftRight_injective {shift : Nat} (positive : 0 < shift) :
    Function.Injective (fun word : BitVec width => word ^^^ word >>> shift) := by
  intro left right mixed
  have fixed : left ^^^ right = (left ^^^ right) >>> shift := by
    rw [BitVec.ushiftRight_xor_distrib]
    calc
      left ^^^ right = left ^^^ left >>> shift ^^^ (left >>> shift ^^^ right) := by
        rw [BitVec.xor_assoc, ← BitVec.xor_assoc (left >>> shift), BitVec.xor_self,
          BitVec.zero_xor]
      _ = right ^^^ right >>> shift ^^^ (left >>> shift ^^^ right) := by
        rw [show left ^^^ left >>> shift = right ^^^ right >>> shift from mixed]
      _ = left >>> shift ^^^ right >>> shift := by
        rw [BitVec.xor_comm (left >>> shift) right, BitVec.xor_comm right (right >>> shift),
          BitVec.xor_assoc, ← BitVec.xor_assoc right right, BitVec.xor_self, BitVec.zero_xor,
          BitVec.xor_comm]
  have vanished : (left ^^^ right) >>> (shift * width) = BitVec.ofNat width 0 :=
    BitVec.ushiftRight_eq_zero (Nat.le_mul_of_pos_left width positive)
  rw [← eq_shiftRight_mul fixed] at vanished
  exact BitVec.xor_eq_zero_iff.mp vanished

theorem mul_unit_injective {multiplier inverse : BitVec width}
    (unit : multiplier * inverse = BitVec.ofNat width 1) :
    Function.Injective (fun word : BitVec width => word * multiplier) := by
  intro left right product
  have undone := congrArg (fun word => word * inverse) product
  simp only [BitVec.mul_assoc, unit, BitVec.mul_one] at undone
  exact undone

/-- The value of a counter after a number of additions. -/
def advance (start increment : BitVec width) (count : Nat) : BitVec width :=
  start + BitVec.ofNat width count * increment

theorem advance_zero (start increment : BitVec width) : advance start increment 0 = start := by
  rw [advance, BitVec.zero_mul, BitVec.add_zero]

theorem advance_succ (start increment : BitVec width) (count : Nat) :
    advance start increment (count + 1) = advance start increment count + increment := by
  have next : BitVec.ofNat width (count + 1) = BitVec.ofNat width count + BitVec.ofNat width 1 :=
    BitVec.ofNat_add count 1
  rw [advance, advance, next, BitVec.add_mul, BitVec.one_mul, BitVec.add_assoc]

/-- A counter that advances by a unit has full period. -/
theorem advance_eq_iff {start increment inverse : BitVec width}
    (unit : increment * inverse = BitVec.ofNat width 1) {first second : Nat} :
    advance start increment first = advance start increment second <->
      first % 2 ^ width = second % 2 ^ width := by
  constructor
  · intro same
    have product := (BitVec.add_right_inj start).mp same
    have count := congrArg BitVec.toNat (mul_unit_injective unit product)
    simpa only [BitVec.toNat_ofNat] using count
  · intro same
    have count : BitVec.ofNat width first = BitVec.ofNat width second := by
      apply BitVec.eq_of_toNat_eq
      rw [BitVec.toNat_ofNat, BitVec.toNat_ofNat, same]
    rw [advance, advance, count]

/-- The bytes of a word, least significant first. -/
def littleEndian (bytes : Nat) (word : BitVec (8 * bytes)) : List (BitVec 8) :=
  (List.range bytes).map (fun index => word.extractLsb' (8 * index) 8)

theorem length_littleEndian {bytes : Nat} (word : BitVec (8 * bytes)) :
    (littleEndian bytes word).length = bytes := by
  rw [littleEndian, List.length_map, List.length_range]

theorem littleEndian_injective {bytes : Nat} : Function.Injective (littleEndian bytes) := by
  intro left right same
  apply BitVec.eq_of_getLsbD_eq
  intro position inside
  have index : position / 8 < bytes := Nat.div_lt_of_lt_mul inside
  have byte := List.map_inj_left.mp same (position / 8) (List.mem_range.mpr index)
  have bit := congrArg (fun word : BitVec 8 => word.getLsbD (position % 8)) byte
  have small : position % 8 < 8 := Nat.mod_lt _ (by decide)
  simp only [BitVec.getLsbD_extractLsb', small, decide_true, Bool.true_and,
    Nat.div_add_mod] at bit
  exact bit

end Foundations
end QuicMix
