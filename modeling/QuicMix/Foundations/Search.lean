import Mathlib.Data.List.Infix

namespace QuicMix
namespace Foundations

universe u

/-!
# The first occurrence of a pattern

A search for a pattern returns the position of its first occurrence.  What comes
before it is clear of the pattern, in the sense that no occurrence begins there: an
occurrence may also reach into the one that was found, up to its last item.  Cutting
a list at every occurrence of a pattern, from left to right, gives its parts.
-/

variable {Item : Type u}

/-- No occurrence of the pattern begins here, when the pattern follows. -/
def ClearOf (pattern before : List Item) : Prop :=
  ¬ pattern <:+: before ++ pattern.dropLast

theorem clearOf_nil {pattern : List Item} (nonempty : pattern ≠ []) : ClearOf pattern [] := by
  intro occurs
  have bound := occurs.length_le
  rw [List.nil_append, List.length_dropLast] at bound
  have positive := List.length_pos_iff.mpr nonempty
  omega

theorem dropLast_prefix_append (before pattern after : List Item) :
    before ++ pattern.dropLast <+: before ++ pattern ++ after := by
  rw [List.append_assoc, List.prefix_append_right_inj]
  exact (List.dropLast_prefix pattern).trans (List.prefix_append pattern after)

/-- What is cut off from two parts is cut off from the first, or after it. -/
theorem prefix_append_cases {part front back : List Item} (cut : part <+: front ++ back) :
    part <+: front.dropLast ∧ part.length < front.length ∨
      exists rest, part = front ++ rest ∧ rest <+: back := by
  by_cases short : part.length < front.length
  · refine .inl ⟨List.prefix_of_prefix_length_le cut ?_ ?_, short⟩
    · exact (List.dropLast_prefix front).trans (List.prefix_append front back)
    · rw [List.length_dropLast]
      omega
  · rcases List.prefix_of_prefix_length_le (List.prefix_append front back) cut
      (Nat.not_lt.mp short) with ⟨rest, rfl⟩
    exact .inr ⟨rest, rfl, (List.prefix_append_right_inj front).mp cut⟩

/-- A pattern that has not come to its end yet is not found. -/
theorem ClearOf.not_infix {pattern before part : List Item} (nonempty : pattern ≠ [])
    (clear : ClearOf pattern before) (cut : part <+: (before ++ pattern).dropLast) :
    ¬ pattern <:+: part := by
  intro occurs
  apply clear
  rw [List.dropLast_append_of_ne_nil nonempty] at cut
  exact occurs.trans cut.isInfix

theorem ClearOf.tail {pattern before : List Item} {item : Item}
    (clear : ClearOf pattern (item :: before)) : ClearOf pattern before := by
  intro occurs
  exact clear (List.infix_cons occurs)

/-- An occurrence at the front would be seen in the part that is clear. -/
theorem ClearOf.not_at_front {pattern before after : List Item} {item : Item}
    (clear : ClearOf pattern (item :: before)) :
    ¬ pattern <+: item :: (before ++ pattern ++ after) := by
  intro starts
  apply clear
  apply List.IsPrefix.isInfix
  refine List.prefix_of_prefix_length_le starts
    (dropLast_prefix_append (item :: before) pattern after) ?_
  rw [List.length_append, List.length_cons, List.length_dropLast]
  omega

section Position

variable [DecidableEq Item]

/-- The position of the first occurrence, as found by sliding a window. -/
def position (pattern : List Item) : List Item -> Option Nat
  | [] => if pattern.isEmpty then some 0 else none
  | item :: rest =>
      if pattern.isPrefixOf (item :: rest) then some 0
      else (position pattern rest).map (· + 1)

theorem position_cons_here {pattern rest : List Item} {item : Item}
    (starts : pattern <+: item :: rest) : position pattern (item :: rest) = some 0 := by
  rw [position, if_pos (List.isPrefixOf_iff_prefix.mpr starts)]

theorem position_cons_later {pattern rest : List Item} {item : Item}
    (passes : ¬ pattern <+: item :: rest) :
    position pattern (item :: rest) = (position pattern rest).map (· + 1) := by
  rw [position, if_neg (fun starts => passes (List.isPrefixOf_iff_prefix.mp starts))]

/-- The pattern is found where everything before it is clear. -/
theorem position_append {pattern before : List Item} (nonempty : pattern ≠ [])
    (clear : ClearOf pattern before) (after : List Item) :
    position pattern (before ++ pattern ++ after) = some before.length := by
  induction before with
  | nil =>
      cases pattern with
      | nil => exact absurd rfl nonempty
      | cons head tail => exact position_cons_here (List.prefix_append (head :: tail) after)
  | cons item rest inductionHypothesis =>
      rw [List.cons_append, List.cons_append, position_cons_later clear.not_at_front,
        inductionHypothesis clear.tail]
      rfl

/-- A position that is returned splits the list in this way. -/
theorem exists_of_position {pattern items : List Item} {index : Nat} (nonempty : pattern ≠ [])
    (found : position pattern items = some index) :
    exists before after, items = before ++ pattern ++ after ∧ before.length = index ∧
      ClearOf pattern before := by
  induction items generalizing index with
  | nil =>
      cases pattern with
      | nil => exact absurd rfl nonempty
      | cons head tail => cases found
  | cons item rest inductionHypothesis =>
      by_cases starts : pattern <+: item :: rest
      · rw [position_cons_here starts] at found
        cases found
        rcases starts with ⟨after, split⟩
        exact ⟨[], after, split.symm, rfl, clearOf_nil nonempty⟩
      · rw [position_cons_later starts] at found
        rcases Option.map_eq_some_iff.mp found with ⟨earlier, foundRest, rfl⟩
        rcases inductionHypothesis foundRest with ⟨before, after, rfl, length, clear⟩
        refine ⟨item :: before, after, rfl, congrArg (· + 1) length, ?_⟩
        intro occurs
        rcases List.infix_cons_iff.mp occurs with here | later
        · exact starts (here.trans (dropLast_prefix_append (item :: before) pattern after))
        · exact clear later

/-- The first occurrence splits the list in one way. -/
theorem position_split_unique {pattern before other after rest : List Item}
    (nonempty : pattern ≠ []) (clear : ClearOf pattern before) (clearOther : ClearOf pattern other)
    (same : before ++ pattern ++ after = other ++ pattern ++ rest) :
    before = other ∧ after = rest := by
  have found := position_append nonempty clear after
  rw [same, position_append nonempty clearOther rest] at found
  have lengths := Option.some.inj found
  rw [List.append_assoc, List.append_assoc] at same
  rcases List.append_inj same lengths.symm with ⟨fronts, backs⟩
  exact ⟨fronts, List.append_cancel_left backs⟩

theorem position_eq_none {pattern items : List Item} :
    position pattern items = none <-> ¬ pattern <:+: items := by
  induction items with
  | nil =>
      rw [List.infix_nil]
      cases pattern with
      | nil => exact iff_of_false nofun (fun absent => absent rfl)
      | cons head tail => exact iff_of_true rfl nofun
  | cons item rest inductionHypothesis =>
      rw [List.infix_cons_iff, not_or, ← inductionHypothesis]
      by_cases starts : pattern <+: item :: rest
      · rw [position_cons_here starts]
        exact iff_of_false nofun (fun absent => absent.1 starts)
      · rw [position_cons_later starts, Option.map_eq_none_iff]
        exact (and_iff_right starts).symm

end Position

/-! ## A pattern of two different items -/

/-- Such a pattern does not overlap itself. -/
theorem clearOf_pair {first second : Item} (different : first ≠ second) {before : List Item} :
    ClearOf [first, second] before <-> ¬ [first, second] <:+: before := by
  rw [ClearOf]
  apply not_congr
  constructor
  · rintro ⟨front, back, split⟩
    rcases List.eq_nil_or_concat back with rfl | ⟨most, last, rfl⟩
    · rw [List.append_nil] at split
      have ends := congrArg List.getLast? split
      rw [List.getLast?_append_of_ne_nil _ (List.cons_ne_nil _ _), List.dropLast_cons_of_ne_nil
        (List.cons_ne_nil _ _), List.dropLast_singleton, List.getLast?_concat] at ends
      exact absurd (Option.some.inj ends).symm different
    · rw [List.concat_eq_append, ← List.append_assoc] at split
      exact ⟨front, most, (List.append_inj_left' split rfl)⟩
  · intro occurs
    exact occurs.trans (List.prefix_append _ _).isInfix

/-- Without the second item there is no occurrence. -/
theorem clearOf_of_not_mem {first second : Item} (different : first ≠ second)
    {before : List Item} (absent : second ∉ before) : ClearOf [first, second] before := by
  apply (clearOf_pair different).mpr
  intro occurs
  exact absent (occurs.subset (List.mem_cons_of_mem first List.mem_cons_self))

section Lines

variable {first second : Item}

/-- Where the first separator is known, a doubled one stands there or later. -/
theorem infix_doubled (different : first ≠ second) {line rest : List Item}
    (clear : ClearOf [first, second] line)
    (occurs : [first, second, first, second] <:+: line ++ [first, second] ++ rest) :
    [first, second] <+: rest ∨ [first, second, first, second] <:+: rest := by
  induction line with
  | nil =>
      rcases List.infix_cons_iff.mp occurs with here | later
      · exact .inl (List.cons_prefix_cons.mp (List.cons_prefix_cons.mp here).2).2
      · rcases List.infix_cons_iff.mp later with here | later
        · exact absurd (List.cons_prefix_cons.mp here).1 different
        · exact .inr later
  | cons item others inductionHypothesis =>
      rcases List.infix_cons_iff.mp occurs with here | later
      · have starts : [first, second] <+: item :: (others ++ [first, second] ++ rest) :=
          (List.prefix_append [first, second] [first, second]).trans here
        exact absurd starts clear.not_at_front
      · exact inductionHypothesis clear.tail later

/-- The first line ends with a separator, if one follows the last line. -/
theorem exists_intercalate_append (separator line : List Item) (others : List (List Item))
    (more : List Item) :
    exists rest, List.intercalate separator (line :: others) ++ (separator ++ more) =
      line ++ separator ++ rest := by
  cases others with
  | nil => exact ⟨more, by rw [List.intercalate_singleton, List.append_assoc]⟩
  | cons next later =>
      refine ⟨List.intercalate separator (next :: later) ++ (separator ++ more), ?_⟩
      rw [List.intercalate_cons_cons, List.append_assoc]

/-- Lines that are not empty, with separators between them, are clear of a doubled
separator. -/
theorem clearOf_intercalate (different : first ≠ second) {lines : List (List Item)}
    (clear : forall line, line ∈ lines -> line ≠ [] ∧ ClearOf [first, second] line)
    (nonempty : lines ≠ []) :
    ClearOf [first, second, first, second] (List.intercalate [first, second] lines) := by
  induction lines with
  | nil => exact absurd rfl nonempty
  | cons line others inductionHypothesis =>
      have front := clear line List.mem_cons_self
      intro occurs
      cases others with
      | nil =>
          rw [List.intercalate_singleton] at occurs
          have split : line ++ [first, second, first, second].dropLast =
              line ++ [first, second] ++ [first] := by
            rw [List.append_assoc]
            rfl
          rw [split] at occurs
          rcases infix_doubled different front.2 occurs with starts | later
          · exact absurd starts.length_le (by simp)
          · exact absurd later.length_le (by simp)
      | cons next more =>
          have clearRest : forall line, line ∈ next :: more ->
              line ≠ [] ∧ ClearOf [first, second] line :=
            fun line member => clear line (List.mem_cons_of_mem _ member)
          rw [List.intercalate_cons_cons, List.append_assoc] at occurs
          rcases infix_doubled different front.2 occurs with starts | later
          · have ahead := clearRest next List.mem_cons_self
            rcases exists_intercalate_append [first, second] next more [first] with ⟨rest, split⟩
            cases next with
            | nil => exact ahead.1 rfl
            | cons item remaining =>
                change [first, second] <+: List.intercalate [first, second]
                  ((item :: remaining) :: more) ++ ([first, second] ++ [first]) at starts
                rw [split] at starts
                exact ahead.2.not_at_front starts
          · exact inductionHypothesis clearRest (List.cons_ne_nil _ _) later

end Lines

/-! ## Cutting at every occurrence -/

section Split

variable [DecidableEq Item]

/-- The parts of a list, with the part that has been begun and the items of the
pattern that are still to be passed. -/
def splitFrom (pattern : List Item) : List Item -> Nat -> List Item -> List (List Item)
  | part, _, [] => [part]
  | part, skip + 1, _ :: rest => splitFrom pattern part skip rest
  | part, 0, item :: rest =>
      if pattern.isPrefixOf (item :: rest) then
        part :: splitFrom pattern [] (pattern.length - 1) rest
      else splitFrom pattern (part ++ [item]) 0 rest

/-- The parts between the occurrences of a pattern. -/
def splitAll (pattern items : List Item) : List (List Item) :=
  splitFrom pattern [] 0 items

theorem splitFrom_skip (pattern part skipped rest : List Item) :
    splitFrom pattern part skipped.length (skipped ++ rest) = splitFrom pattern part 0 rest := by
  induction skipped with
  | nil => rfl
  | cons item others inductionHypothesis =>
      rw [List.length_cons, List.cons_append, splitFrom]
      exact inductionHypothesis

theorem splitFrom_pass {pattern rest : List Item} {item : Item}
    (passes : ¬ pattern <+: item :: rest) (part : List Item) :
    splitFrom pattern part 0 (item :: rest) = splitFrom pattern (part ++ [item]) 0 rest := by
  rw [splitFrom, if_neg (fun starts => passes (List.isPrefixOf_iff_prefix.mp starts))]

/-- A part ends at the first occurrence. -/
theorem splitFrom_append {pattern line : List Item} (nonempty : pattern ≠ [])
    (clear : ClearOf pattern line) (part rest : List Item) :
    splitFrom pattern part 0 (line ++ pattern ++ rest) =
      (part ++ line) :: splitFrom pattern [] 0 rest := by
  induction line generalizing part with
  | nil =>
      cases pattern with
      | nil => exact absurd rfl nonempty
      | cons head tail =>
          have starts : (head :: tail).isPrefixOf (head :: (tail ++ rest)) = true :=
            List.isPrefixOf_iff_prefix.mpr (List.prefix_append (head :: tail) rest)
          rw [List.nil_append, List.cons_append, splitFrom, if_pos starts, List.append_nil]
          exact congrArg _ (splitFrom_skip (head :: tail) [] tail rest)
  | cons item others inductionHypothesis =>
      rw [List.cons_append, List.cons_append, splitFrom_pass clear.not_at_front,
        inductionHypothesis clear.tail, List.append_assoc]
      rfl

theorem splitFrom_last {pattern line : List Item} (absent : ¬ pattern <:+: line)
    (part : List Item) : splitFrom pattern part 0 line = [part ++ line] := by
  induction line generalizing part with
  | nil => rw [splitFrom, List.append_nil]
  | cons item others inductionHypothesis =>
      rw [List.infix_cons_iff, not_or] at absent
      rw [splitFrom_pass absent.1, inductionHypothesis absent.2, List.append_assoc]
      rfl

/-- Cutting undoes joining. -/
theorem splitAll_intercalate {pattern : List Item} (nonempty : pattern ≠ [])
    {lines : List (List Item)} (some_line : lines ≠ [])
    (clear : forall line, line ∈ lines -> ClearOf pattern line) :
    splitAll pattern (List.intercalate pattern lines) = lines := by
  induction lines with
  | nil => exact absurd rfl some_line
  | cons line others inductionHypothesis =>
      have front := clear line List.mem_cons_self
      cases others with
      | nil =>
          rw [List.intercalate_singleton, splitAll, splitFrom_last, List.nil_append]
          intro occurs
          exact front (occurs.trans (List.prefix_append _ _).isInfix)
      | cons next more =>
          rw [List.intercalate_cons_cons, splitAll, splitFrom_append nonempty front,
            List.nil_append]
          apply congrArg
          apply inductionHypothesis (List.cons_ne_nil _ _)
          intro other member
          exact clear other (List.mem_cons_of_mem _ member)

end Split

end Foundations
end QuicMix
