import Mathlib.Data.List.Forall2

namespace QuicMix
namespace Foundations

universe u v

/-!
# Lists that are related entry by entry

Two tables whose entries correspond are read and written at the same positions.
-/

variable {Entry : Type u} {Other : Type v} {related : Entry -> Other -> Prop} {first : List Entry}
  {second : List Other}

theorem forall₂_getElem? (pairs : List.Forall₂ related first second) {index : Nat} {entry : Entry}
    (located : first[index]? = some entry) :
    exists other, second[index]? = some other ∧ related entry other := by
  induction pairs generalizing index with
  | nil => cases located
  | cons holds _ inductionHypothesis =>
      cases index with
      | zero =>
          cases located
          exact ⟨_, rfl, holds⟩
      | succ index => exact inductionHypothesis located

theorem forall₂_set (pairs : List.Forall₂ related first second) (index : Nat) {entry : Entry}
    {other : Other} (holds : related entry other) :
    List.Forall₂ related (first.set index entry) (second.set index other) := by
  induction pairs generalizing index with
  | nil => exact .nil
  | cons known pairs inductionHypothesis =>
      cases index with
      | zero => exact .cons holds pairs
      | succ index => exact .cons known (inductionHypothesis index)

theorem forall₂_modify (pairs : List.Forall₂ related first second) (index : Nat)
    {change : Entry -> Entry} {follow : Other -> Other}
    (holds : forall entry other, related entry other -> related (change entry) (follow other)) :
    List.Forall₂ related (first.modify index change) (second.modify index follow) := by
  induction pairs generalizing index with
  | nil =>
      rw [List.modify_nil, List.modify_nil]
      exact .nil
  | cons known pairs inductionHypothesis =>
      cases index with
      | zero => exact .cons (holds _ _ known) pairs
      | succ index => exact .cons known (inductionHypothesis index)

end Foundations
end QuicMix
