import QuicMix.Foundations.Lists
import Mathlib.Data.List.Perm.Subperm

namespace QuicMix
namespace Foundations

universe u v

/-!
# Deliveries of an unordered network

A network that loses, delays and reorders what it is given delivers a part of it,
each entry at most as often as it was given.  One that repeats entries as well
still delivers nothing else.  Both are one relation, with a flag that says whether
entries may be repeated.  What is under way is a record of labelled entries; an
entry is taken out of it at any position.
-/

variable {Entry : Type u}

/-- The part consists of entries of the whole and, unless entries may be repeated,
has none of them more often. -/
structure Drawn (repeats : Bool) (part whole : List Entry) : Prop where
  subset : part ⊆ whole
  subperm : repeats = false -> part.Subperm whole

namespace Drawn

variable {repeats : Bool} {part whole : List Entry}

theorem of_subperm (repeats : Bool) (within : part.Subperm whole) : Drawn repeats part whole :=
  ⟨within.subset, fun _ => within⟩

theorem of_sublist (repeats : Bool) (within : part.Sublist whole) : Drawn repeats part whole :=
  of_subperm repeats within.subperm

theorem trans {larger : List Entry} (first : Drawn repeats part whole)
    (second : Drawn repeats whole larger) : Drawn repeats part larger :=
  ⟨List.Subset.trans first.subset second.subset,
    fun once => (first.subperm once).trans (second.subperm once)⟩

/-- The order of neither side matters. -/
theorem congr {other larger : List Entry} (drawn : Drawn repeats part whole)
    (part_perm : other.Perm part) (whole_perm : whole.Perm larger) : Drawn repeats other larger :=
  ((of_subperm repeats part_perm.subperm).trans drawn).trans
    (of_subperm repeats whole_perm.subperm)

/-- More is given to the network, and the same is under way. -/
theorem given (drawn : Drawn repeats part whole) (more : List Entry) :
    Drawn repeats (part ++ more) (whole ++ more) := by
  refine ⟨?_, fun once => (List.subperm_append_right more).mpr (drawn.subperm once)⟩
  intro entry member
  rcases List.mem_append.mp member with old | new
  · exact List.mem_append_left _ (drawn.subset old)
  · exact List.mem_append_right _ new

/-- The same stands before both. -/
theorem behind (drawn : Drawn repeats part whole) (before : List Entry) :
    Drawn repeats (before ++ part) (before ++ whole) := by
  refine (drawn.given before).congr ?_ ?_
  · exact List.perm_append_comm
  · exact List.perm_append_comm

end Drawn

variable {Label : Type v} [DecidableEq Label]

/-- An entry is taken out of the record. -/
theorem labelled_eraseIdx {record : List (Label × Entry)} {index : Nat} {entry : Label × Entry}
    (located : record[index]? = some entry) (label : Label) :
    (labelled (record.eraseIdx index) label ++ labelled [entry] label).Perm
      (labelled record label) := by
  rcases split_at located with ⟨before, after, split, _, erased⟩
  have single : entry :: after = [entry] ++ after := rfl
  rw [erased, split, single]
  simp only [labelled_append, List.append_assoc]
  exact List.Perm.append_left _ List.perm_append_comm

theorem labelled_eraseIdx_sublist (record : List (Label × Entry)) (index : Nat) (label : Label) :
    (labelled (record.eraseIdx index) label).Sublist (labelled record label) :=
  ((List.eraseIdx_sublist record index).filter _).map _

end Foundations
end QuicMix
