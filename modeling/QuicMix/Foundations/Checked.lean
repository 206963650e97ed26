import Mathlib.Algebra.Group.Nat.Defs
import Mathlib.Data.List.Basic

namespace QuicMix
namespace Foundations

universe u

/-!
# Positions in a buffer

Positions are machine words.  A sum that does not fit stops a program that checks
its arithmetic and wraps around in one that does not; a range that is not inside
the buffer stops both.  A buffer is smaller than half of the address space.
-/

/-- Whether overflow checks are compiled in. -/
inductive Profile where
  | debug
  | release
  deriving DecidableEq, Repr

inductive Panic where
  | overflow
  | range
  deriving DecidableEq, Repr

structure Buffer (Item : Type u) where
  items : List Item
  fits : items.length < 2 ^ 63

/-- What is left of a buffer from a position on. -/
def Buffer.drop {Item : Type u} (buffer : Buffer Item) (count : Nat) : Buffer Item where
  items := buffer.items.drop count
  fits := by
    rw [List.length_drop]
    exact Nat.lt_of_le_of_lt (Nat.sub_le _ _) buffer.fits

def addWord (profile : Profile) (first second : Nat) : Except Panic Nat :=
  if first + second < 2 ^ 64 then .ok (first + second)
  else
    match profile with
    | .debug => .error .overflow
    | .release => .ok ((first + second) % 2 ^ 64)

def slice {Item : Type u} (items : List Item) (start stop : Nat) : Except Panic (List Item) :=
  if start <= stop ∧ stop <= items.length then .ok ((items.take stop).drop start)
  else .error .range

theorem addWord_ok {profile : Profile} {first second : Nat} (small : first + second < 2 ^ 64) :
    addWord profile first second = .ok (first + second) :=
  if_pos small

/-- A range that is given by what stands before, in and behind it. -/
theorem slice_append {Item : Type u} {items : List Item} (before middle after : List Item)
    {start stop : Nat}
    (split : items = before ++ (middle ++ after)) (first : start = before.length)
    (last : stop = before.length + middle.length) : slice items start stop = .ok middle := by
  have ordered : start <= stop ∧ stop <= items.length := by
    rw [split, first, last, List.length_append, List.length_append]
    omega
  rw [slice, if_pos ordered, split, first, last, List.take_length_add_append, List.take_left,
    List.drop_left]

theorem slice_reversed {Item : Type u} {items : List Item} {start stop : Nat}
    (reversed : stop < start) : slice items start stop = .error .range := by
  apply if_neg
  omega

end Foundations
end QuicMix
