import Mathlib.Data.Int.CardIntervalMod

namespace QuicMix
namespace Foundations

/-!
# Turns

A counter goes up by one with every choice and is reduced modulo the number of
places.  Over any number of consecutive choices, from any value of the counter,
every place gets its share, rounded down or up.
-/

/-- The places of consecutive values of a counter. -/
def turns (start count length : Nat) : List Nat :=
  (List.range length).map (fun choice => (start + choice) % count)

theorem turns_succ (start count length : Nat) :
    turns start count (length + 1) = turns start count length ++ [(start + length) % count] := by
  rw [turns, List.range_succ, List.map_append]
  rfl

/-- Which choices fall on a place. -/
theorem turn_eq_iff {start count place choice : Nat} (inside : place < count) :
    (start + choice) % count = place <-> choice ≡ place + (count - start % count) [MOD count] := by
  have whole : start + (place + (count - start % count)) ≡ place [MOD count] := by
    have below : start % count < count := Nat.mod_lt start (Nat.zero_lt_of_lt inside)
    have shifted : start + (place + (count - start % count)) =
        place + count * (start / count + 1) := by
      have split := Nat.div_add_mod start count
      rw [Nat.mul_add, Nat.mul_one]
      omega
    rw [shifted, Nat.ModEq, Nat.add_mul_mod_self_left]
  constructor
  · intro there
    have same : start + choice ≡ place [MOD count] := by
      rw [Nat.ModEq, there, Nat.mod_eq_of_lt inside]
    exact Nat.ModEq.add_left_cancel' start (same.trans whole.symm)
  · intro same
    have there : start + choice ≡ place [MOD count] := (same.add_left start).trans whole
    rw [Nat.ModEq, Nat.mod_eq_of_lt inside] at there
    exact there

/-- Every place gets the same number of full rounds, and at most one more choice. -/
theorem count_turns {start count place : Nat} (inside : place < count) (length : Nat) :
    (turns start count length).count place =
      length / count +
        if (place + (count - start % count)) % count < length % count then 1 else 0 := by
  rw [← Nat.count_modEq_card length (Nat.zero_lt_of_lt inside)]
  induction length with
  | zero => rfl
  | succ length inductionHypothesis =>
      rw [turns_succ, List.count_append, inductionHypothesis, Nat.count_succ, List.count_singleton]
      simp only [beq_iff_eq, turn_eq_iff inside]

theorem count_turns_floor_or_ceil {start count place : Nat} (inside : place < count)
    (length : Nat) :
    (turns start count length).count place = length / count ∨
      (turns start count length).count place = (length + count - 1) / count := by
  rw [count_turns inside]
  split
  case isTrue extra =>
      have below : length % count < count := Nat.mod_lt length (Nat.zero_lt_of_lt inside)
      have rounds : length + count - 1 = count * (length / count + 1) + (length % count - 1) := by
        have split := Nat.div_add_mod length count
        rw [Nat.mul_add, Nat.mul_one]
        omega
      refine .inr ?_
      rw [rounds, Nat.mul_add_div (Nat.zero_lt_of_lt inside),
        Nat.div_eq_of_lt (Nat.lt_of_le_of_lt (Nat.sub_le _ 1) below)]
  case isFalse => exact .inl (Nat.add_zero _)

/-- No place gets two choices more than another. -/
theorem count_turns_balanced {start count first second : Nat} (firstInside : first < count)
    (secondInside : second < count) (length : Nat) :
    (turns start count length).count first <= (turns start count length).count second + 1 := by
  rw [count_turns firstInside, count_turns secondInside]
  split
  · split
    · exact Nat.le_succ _
    · exact Nat.le_refl _
  · exact Nat.le_trans (Nat.le_add_right _ _) (Nat.le_succ _)

end Foundations
end QuicMix
