import Mathlib.Data.List.Basic

namespace QuicMix
namespace Foundations

/-!
# Instants with gaps between them

A list of instants is spaced by a list of durations if each instant is followed
by the next one no sooner than after the duration at the same position.  If all
durations are at least some positive length, a closed window of time contains
few of the instants.
-/

def Spaced (times : List Nat) (gaps : List Nat) : Prop :=
  forall index earlier gap later, times[index]? = some earlier -> gaps[index]? = some gap ->
    times[index + 1]? = some later -> earlier + gap <= later

/-- A gap may be added when no instant follows it yet. -/
theorem Spaced.append_gap {times : List Nat} {gaps : List Nat} (spaced : Spaced times gaps)
    (short : times.length <= gaps.length + 1) (gap : Nat) :
    Spaced times (gaps ++ [gap]) := by
  intro index earlier found later atIndex atGap atNext
  have bound := (List.getElem?_eq_some_iff.mp atNext).1
  rw [List.getElem?_append_left (by omega)] at atGap
  exact spaced index earlier found later atIndex atGap atNext

/-- An instant may be added once the last gap has passed. -/
theorem Spaced.append_time {times : List Nat} {gaps : List Nat} (spaced : Spaced times gaps)
    (paired : times.length = gaps.length) {later : Nat}
    (passed : forall earlier gap, times.getLast? = some earlier -> gaps.getLast? = some gap ->
      earlier + gap <= later) :
    Spaced (times ++ [later]) gaps := by
  intro index earlier gap following atIndex atGap atNext
  have bound := (List.getElem?_eq_some_iff.mp atGap).1
  rw [List.getElem?_append_left (by omega)] at atIndex
  by_cases last : index + 1 = times.length
  · have same : following = later := by
      simpa only [last, List.getElem?_concat_length, Option.some.injEq, eq_comm] using atNext
    have position : index = times.length - 1 := by omega
    subst same
    refine passed earlier gap ?_ ?_
    · rw [List.getLast?_eq_getElem?, ← position]
      exact atIndex
    · rw [List.getLast?_eq_getElem?, ← paired, ← position]
      exact atGap
  · rw [List.getElem?_append_left (by omega)] at atNext
    exact spaced index earlier gap following atIndex atGap atNext

/-- With long gaps everywhere, consecutive instants are far apart. -/
theorem Spaced.chain {times : List Nat} {gaps : List Nat} {least : Nat}
    (spaced : Spaced times gaps) (long : forall gap, gap ∈ gaps -> least <= gap)
    (short : times.length <= gaps.length + 1) :
    times.Pairwise (fun earlier later => earlier + least <= later) := by
  have transitive : IsTrans Nat (fun earlier later => earlier + least <= later) :=
    ⟨fun _ second _ near far => Nat.le_trans near (Nat.le_trans (Nat.le_add_right second _) far)⟩
  refine List.isChain_iff_pairwise.mp (List.isChain_iff_getElem.mpr ?_)
  intro index bound
  have inGaps : index < gaps.length := by omega
  have long := long gaps[index] (List.getElem_mem inGaps)
  have apart := spaced index _ _ _ (List.getElem?_eq_getElem (by omega))
    (List.getElem?_eq_getElem inGaps) (List.getElem?_eq_getElem bound)
  exact Nat.le_trans (Nat.add_le_add_left long _) apart

/-- Instants that are far apart need room. -/
theorem length_of_apart {times : List Nat} {least lower upper : Nat}
    (apart : times.Pairwise (fun earlier later => earlier + least <= later))
    (within : forall time, time ∈ times -> lower <= time ∧ time <= upper) (some : times ≠ []) :
    lower + (times.length - 1) * least <= upper := by
  induction times generalizing lower with
  | nil => exact absurd rfl some
  | cons time rest inductionHypothesis =>
      have first := within time List.mem_cons_self
      rcases List.pairwise_cons.mp apart with ⟨after, apart⟩
      cases rest with
      | nil =>
          simp only [List.length_singleton, Nat.sub_self, Nat.zero_mul]
          omega
      | cons next rest =>
          have room : time + least + ((next :: rest).length - 1) * least <= upper :=
            inductionHypothesis apart (fun later member =>
              ⟨after later member, (within later (List.mem_cons_of_mem _ member)).2⟩)
            (List.cons_ne_nil _ _)
          simp only [List.length_cons, Nat.add_sub_cancel] at room ⊢
          rw [Nat.add_mul, Nat.one_mul]
          omega

/-- A closed window contains at most one instant more than the gaps that fit
into it. -/
theorem Spaced.window {times : List Nat} {gaps : List Nat} {least : Nat}
    (spaced : Spaced times gaps) (positive : 0 < least)
    (long : forall gap, gap ∈ gaps -> least <= gap)
    (short : times.length <= gaps.length + 1) (opens length : Nat) :
    times.countP (fun time => decide (opens <= time ∧ time <= opens + length)) <=
      length / least + 1 := by
  have apart := (spaced.chain long short).filter
    (fun time => decide (opens <= time ∧ time <= opens + length))
  rw [List.countP_eq_length_filter]
  by_cases empty : times.filter
      (fun time => decide (opens <= time ∧ time <= opens + length)) = []
  · rw [empty]
    exact Nat.zero_le _
  · have room := length_of_apart apart
      (fun time member => of_decide_eq_true (List.mem_filter.mp member).2) empty
    have fits := (Nat.le_div_iff_mul_le positive).mpr (Nat.le_of_add_le_add_left room)
    omega

end Foundations
end QuicMix
