import Mathlib.Data.List.Basic

namespace QuicMix
namespace Foundations

universe u

/-!
# Buffered readers

A buffered reader reads ahead of what it has handed out, in reads whose sizes
the source decides.  What it has not handed out yet is the buffer followed by
the rest of the source; filling the buffer does not change it, and consuming
removes from its front.  A search for a delimiter looks at one buffer after the
other and leaves what stands behind the delimiter in the buffer.
-/

/-- A reader, with the rest of the source that it reads from. -/
structure Buffered (Item : Type u) where
  buffer : List Item
  source : List Item

namespace Buffered

variable {Item : Type u}

/-- What has not been handed out. -/
def unread (reader : Buffered Item) : List Item :=
  reader.buffer ++ reader.source

/-- Make sure that the buffer holds something; an empty buffer takes one read of
the given size. -/
def fill (reader : Buffered Item) (count : Nat) : Option (Buffered Item) :=
  match reader.buffer with
  | _ :: _ => some reader
  | [] =>
      if 0 < count ∧ count <= reader.source.length then
        some ⟨reader.source.take count, reader.source.drop count⟩
      else none

/-- Hand out items from the front of the buffer. -/
def consume (reader : Buffered Item) (count : Nat) : Buffered Item :=
  { reader with buffer := reader.buffer.drop count }

/-- One round of a search: the buffer up to the delimiter and `true`, or the
whole buffer and `false`. -/
def readUntil (reader : Buffered Item) (stop : Item -> Bool) :
    List Item × Bool × Buffered Item :=
  match reader.buffer.findIdx? stop with
  | some index => (reader.buffer.take (index + 1), true, reader.consume (index + 1))
  | none => (reader.buffer, false, reader.consume reader.buffer.length)

theorem fill_eq_some {reader next : Buffered Item} {count : Nat}
    (filled : reader.fill count = some next) :
    next.buffer ≠ [] ∧ next.unread = reader.unread ∧
      next.source.length <= reader.source.length := by
  rcases reader with ⟨_ | ⟨head, tail⟩, source⟩
  · simp only [fill, Option.ite_none_right_eq_some, Option.some.injEq] at filled
    rcases filled with ⟨⟨positive, bound⟩, rfl⟩
    refine ⟨?_, ?_, (List.drop_sublist count source).length_le⟩
    · apply List.ne_nil_of_length_pos
      rw [List.length_take]
      exact Nat.lt_min.mpr ⟨positive, Nat.lt_of_lt_of_le positive bound⟩
    · simp only [unread, List.take_append_drop, List.nil_append]
  · cases filled
    exact ⟨List.cons_ne_nil head tail, rfl, Nat.le_refl _⟩

/-- A reader that is not at its end can be filled. -/
theorem exists_fill {reader : Buffered Item} (more : reader.unread ≠ []) :
    exists next, reader.fill 1 = some next := by
  rcases reader with ⟨_ | ⟨head, tail⟩, source⟩
  · refine ⟨_, if_pos ⟨Nat.one_pos, ?_⟩⟩
    exact List.length_pos_iff.mpr more
  · exact ⟨_, rfl⟩

theorem unread_consume (reader : Buffered Item) (count : Nat) :
    reader.buffer.take count ++ (reader.consume count).unread = reader.unread := by
  rw [consume, unread, unread, ← List.append_assoc, List.take_append_drop]

/-- More is written behind the rest of the source. -/
def feed (more : List Item) (reader : Buffered Item) : Buffered Item :=
  { reader with source := reader.source ++ more }

theorem unread_feed (more : List Item) (reader : Buffered Item) :
    (reader.feed more).unread = reader.unread ++ more :=
  (List.append_assoc reader.buffer reader.source more).symm

/-- What can be read can be read when there is more. -/
theorem fill_feed {reader next : Buffered Item} {count : Nat}
    (filled : reader.fill count = some next) (more : List Item) :
    (reader.feed more).fill count = some (next.feed more) := by
  rcases reader with ⟨_ | ⟨head, tail⟩, source⟩
  · simp only [fill, Option.ite_none_right_eq_some, Option.some.injEq] at filled
    rcases filled with ⟨⟨positive, bound⟩, rfl⟩
    have longer : count <= (source ++ more).length :=
      Nat.le_trans bound (List.length_append ▸ Nat.le_add_right _ _)
    simp only [feed, fill, positive, longer, and_self, if_true,
      List.take_append_of_le_length bound, List.drop_append_of_le_length bound]
  · cases filled
    rfl

theorem readUntil_feed (reader : Buffered Item) (stop : Item -> Bool) (more : List Item) :
    (reader.feed more).readUntil stop =
      ((reader.readUntil stop).1, (reader.readUntil stop).2.1,
        (reader.readUntil stop).2.2.feed more) := by
  unfold readUntil
  change (match reader.buffer.findIdx? stop with
    | some index => _
    | none => _) = _
  cases reader.buffer.findIdx? stop with
  | none => rfl
  | some index => rfl

/-- A round of a search that finds the delimiter. -/
theorem readUntil_found {reader next : Buffered Item} {stop : Item -> Bool} {taken : List Item}
    (searched : reader.readUntil stop = (taken, true, next)) :
    next.source = reader.source ∧ taken ++ next.unread = reader.unread ∧
      exists before delimiter, taken = before ++ [delimiter] ∧ stop delimiter = true ∧
        forall item, item ∈ before -> stop item = false := by
  unfold readUntil at searched
  split at searched
  · rename_i index found
    rcases List.findIdx?_eq_some_iff_getElem.mp found with ⟨bound, ends, clear⟩
    cases searched
    refine ⟨rfl, reader.unread_consume (index + 1), reader.buffer.take index,
      reader.buffer[index], (List.take_append_getElem bound).symm, ends, ?_⟩
    intro item member
    rcases List.mem_take_iff_getElem.mp member with ⟨position, within, rfl⟩
    exact Bool.eq_false_iff.mpr (clear position (Nat.lt_of_lt_of_le within (Nat.min_le_left _ _)))
  · cases searched

/-- A round of a search that does not. -/
theorem readUntil_missed {reader next : Buffered Item} {stop : Item -> Bool} {taken : List Item}
    (searched : reader.readUntil stop = (taken, false, next)) :
    next.source = reader.source ∧ taken ++ next.unread = reader.unread ∧ next.buffer = [] ∧
      forall item, item ∈ taken -> stop item = false := by
  unfold readUntil at searched
  split at searched
  · cases searched
  · rename_i missed
    cases searched
    refine ⟨rfl, ?_, List.drop_length, List.findIdx?_eq_none_iff.mp missed⟩
    have consumed := reader.unread_consume reader.buffer.length
    rw [List.take_length] at consumed
    exact consumed

end Buffered

/-- A list is split at its first delimiter in one way. -/
theorem split_unique {Item : Type u} {stop : Item -> Bool} {before other after rest : List Item}
    {delimiter mark : Item} (same : before ++ delimiter :: after = other ++ mark :: rest)
    (ends : stop delimiter = true) (marks : stop mark = true)
    (clear : forall item, item ∈ before -> stop item = false)
    (clearOther : forall item, item ∈ other -> stop item = false) :
    before = other ∧ delimiter = mark ∧ after = rest := by
  induction before generalizing other with
  | nil =>
      cases other with
      | nil =>
          cases same
          exact ⟨rfl, rfl, rfl⟩
      | cons head tail =>
          cases same
          rw [clearOther delimiter List.mem_cons_self] at ends
          cases ends
  | cons head tail inductionHypothesis =>
      cases other with
      | nil =>
          cases same
          rw [clear mark List.mem_cons_self] at marks
          cases marks
      | cons first others =>
          rw [List.cons_append, List.cons_append, List.cons.injEq] at same
          rcases same with ⟨rfl, same⟩
          rcases inductionHypothesis same
            (fun item member => clear item (List.mem_cons_of_mem head member))
            (fun item member => clearOther item (List.mem_cons_of_mem head member))
            with ⟨rfl, rest⟩
          exact ⟨rfl, rest⟩

end Foundations
end QuicMix
