import QuicMix.Oracle.Estimator
import Mathlib.Algebra.BigOperators.Group.List.Basic
import Mathlib.Tactic.NormNum

namespace QuicMix
namespace Oracle

open Foundations
open Boundary

/-!
# The measured oracle of a pool

A `MeasuredCc` is one estimator behind a mutex.  The maintainer shows it the
live circuits one after another, and it takes from each its round-trip time and
the packets that this connection has sent and lost since it was built.  The
round-trip times of all circuits meet in one window.  The counts do not meet:
each observation puts its own counts in the place of those of the one before,
whichever connection they came from.
-/

/-- What one look at a live connection shows. -/
structure Observation (Connection : Type) where
  connection : Connection
  rtt : Duration
  sent : Nat
  lost : Nat
  deriving DecidableEq, Repr

/-- Fold a live connection into the estimate. -/
def OracleEstimator.observeConnection {Connection : Type} (estimator : OracleEstimator)
    (observation : Observation Connection) : OracleEstimator :=
  (estimator.recordRtt observation.rtt).recordAcks observation.sent observation.lost

structure MeasuredCc where
  est : OracleEstimator
  /-- The oracle that the latest transport was built from. -/
  last : Option OracleParams
  deriving DecidableEq, Repr

namespace MeasuredCc

variable {Connection : Type}

def new (hops mtu : Nat) (slotInterval : Duration) : MeasuredCc where
  est := .new hops mtu slotInterval
  last := none

def observe (measured : MeasuredCc) (observation : Observation Connection) : MeasuredCc :=
  { measured with est := measured.est.observeConnection observation }

def recordRtt (measured : MeasuredCc) (rtt : Duration) : MeasuredCc :=
  { measured with est := measured.est.recordRtt rtt }

/-- The current measured oracle. -/
def current (measured : MeasuredCc) : Option OracleParams :=
  measured.est.estimate

/-- The measurement after the maintainer has made the given observations. -/
def observing (hops mtu : Nat) (slotInterval : Duration)
    (observations : List (Observation Connection)) : MeasuredCc :=
  observations.foldl observe (new hops mtu slotInterval)

end MeasuredCc

/-! ## Counts of all connections -/

namespace Observation

variable {Connection : Type} [DecidableEq Connection]

/-- The latest observation of each connection. -/
def standing : List (Observation Connection) -> List (Observation Connection)
  | [] => []
  | observation :: rest =>
      if rest.any (fun later => decide (later.connection = observation.connection)) then
        standing rest
      else observation :: standing rest

/-- The latest observations of the connections other than the given one. -/
def elsewhere (connection : Connection) (observations : List (Observation Connection)) :
    List (Observation Connection) :=
  (standing observations).filter (fun observation => decide (observation.connection ≠ connection))

omit [DecidableEq Connection] in
def totalSent (observations : List (Observation Connection)) : Nat :=
  (observations.map Observation.sent).sum

omit [DecidableEq Connection] in
def totalLost (observations : List (Observation Connection)) : Nat :=
  (observations.map Observation.lost).sum

/-- Total lost over total sent, by the latest counts of each connection; zero if
nothing was sent. -/
def lossRatio (observations : List (Observation Connection)) : Rat :=
  (totalLost (standing observations) : Rat) / (totalSent (standing observations) : Rat)

/-- The other connections have lost packets in the same proportion as the one that
was observed last. -/
def Proportional (observations : List (Observation Connection)) : Prop :=
  forall last, observations.getLast? = some last ->
    if last.sent = 0 then
      totalLost (elsewhere last.connection observations) + last.lost = 0 ∨
        totalSent (elsewhere last.connection observations) = 0
    else
      totalLost (elsewhere last.connection observations) * last.sent =
        totalSent (elsewhere last.connection observations) * last.lost

theorem standing_append_singleton (observations : List (Observation Connection))
    (last : Observation Connection) :
    standing (observations ++ [last]) =
      elsewhere last.connection (observations ++ [last]) ++ [last] := by
  induction observations with
  | nil =>
      simp only [List.nil_append, standing, elsewhere, List.any_nil, Bool.false_eq_true, if_false,
        ne_eq, not_true_eq_false, decide_false, List.filter_cons, List.filter_nil]
  | cons observation rest inductionHypothesis =>
      rw [List.cons_append]
      unfold elsewhere at inductionHypothesis ⊢
      simp only [standing]
      split
      · exact inductionHypothesis
      · rename_i absent
        have different : observation.connection ≠ last.connection := by
          intro same
          apply absent
          rw [List.any_eq_true]
          exact ⟨last, List.mem_append_right rest List.mem_cons_self, decide_eq_true same.symm⟩
        rw [List.filter_cons, if_pos (decide_eq_true different), List.cons_append,
          ← inductionHypothesis]

/-- Two shares are equal if and only if the products are. -/
theorem share_eq_iff {lost sent others total : Nat} :
    (if 0 < sent then (lost : Rat) / (sent : Rat) else 0) =
        ((others + lost : Nat) : Rat) / ((total + sent : Nat) : Rat) <->
      if sent = 0 then others + lost = 0 ∨ total = 0 else others * sent = total * lost := by
  by_cases none : sent = 0
  · subst none
    rw [if_neg (Nat.lt_irrefl 0), if_pos rfl, eq_comm, div_eq_zero_iff, Nat.cast_eq_zero,
      Nat.cast_eq_zero, Nat.add_zero]
  · have positive : 0 < sent := Nat.pos_of_ne_zero none
    have nonzero : (sent : Rat) ≠ 0 := Nat.cast_ne_zero.mpr none
    have whole : ((total + sent : Nat) : Rat) ≠ 0 := Nat.cast_ne_zero.mpr (by omega)
    rw [if_pos positive, if_neg none, div_eq_div_iff nonzero whole]
    constructor
    · intro same
      have products : lost * (total + sent) = (others + lost) * sent := by exact_mod_cast same
      rw [Nat.mul_add, Nat.add_mul, Nat.mul_comm lost total] at products
      omega
    · intro same
      have products : lost * (total + sent) = (others + lost) * sent := by
        rw [Nat.mul_add, Nat.add_mul, Nat.mul_comm lost total]
        omega
      exact_mod_cast products

end Observation

namespace MeasuredCc

variable {Connection : Type} [DecidableEq Connection]

omit [DecidableEq Connection] in
theorem observing_append_singleton (hops mtu : Nat) (slotInterval : Duration)
    (observations : List (Observation Connection)) (last : Observation Connection) :
    observing hops mtu slotInterval (observations ++ [last]) =
      (observing hops mtu slotInterval observations).observe last := by
  rw [observing, observing, List.foldl_append]
  rfl

/-- The share of lost packets that the estimate reports. -/
theorem dropProb_current (measured : MeasuredCc) :
    measured.current.map OracleParams.dropProb = some measured.est.dropProb := by
  rcases OracleEstimator.exists_median measured.est with ⟨median, found⟩
  rw [current, OracleEstimator.estimate, found]
  rfl

/-- The reported share is that of all connections together if and only if the
other connections lose in the same proportion as the one observed last. -/
theorem loss_folded_iff (hops mtu : Nat) (slotInterval : Duration)
    (observations : List (Observation Connection)) :
    (observing hops mtu slotInterval observations).current.map OracleParams.dropProb =
        some (Observation.lossRatio observations) <->
      Observation.Proportional observations := by
  rw [dropProb_current, Option.some.injEq]
  rcases List.eq_nil_or_concat' observations with rfl | ⟨front, last, rfl⟩
  · constructor
    · intro _ last found
      cases found
    · intro _
      rw [Observation.lossRatio, Observation.standing, Observation.totalLost, List.map_nil,
        List.sum_nil, Nat.cast_zero, zero_div]
      rfl
  · have counts : (observing hops mtu slotInterval (front ++ [last])).est.dropProb =
        if 0 < last.sent then (last.lost : Rat) / (last.sent : Rat) else 0 := by
      rw [observing_append_singleton]
      rfl
    have sent : Observation.totalSent (Observation.standing (front ++ [last])) =
        Observation.totalSent (Observation.elsewhere last.connection (front ++ [last])) +
          last.sent := by
      rw [Observation.standing_append_singleton, Observation.totalSent, List.map_append,
        List.sum_append, List.map_singleton, List.sum_singleton]
      rfl
    have lost : Observation.totalLost (Observation.standing (front ++ [last])) =
        Observation.totalLost (Observation.elsewhere last.connection (front ++ [last])) +
          last.lost := by
      rw [Observation.standing_append_singleton, Observation.totalLost, List.map_append,
        List.sum_append, List.map_singleton, List.sum_singleton]
      rfl
    rw [counts, Observation.lossRatio, sent, lost, Observation.share_eq_iff]
    constructor
    · intro holds other found
      rw [List.getLast?_append, List.getLast?_singleton, Option.some_or, Option.some.injEq] at found
      subst found
      exact holds
    · intro proportional
      exact proportional last List.getLast?_concat

/-- Two circuits, of which the first loses half of its packets. -/
def twoCircuits : List (Observation Nat) := [⟨0, 100, 200, 100⟩, ⟨1, 100, 200, 0⟩]

/-- A quarter of all packets is lost.  The estimate says none or half, and which of
the two depends on the order in which the circuits are looked at. -/
theorem last_circuit_overwrites_loss :
    Observation.lossRatio twoCircuits = 1 / 4 ∧
      Observation.lossRatio twoCircuits.reverse = 1 / 4 ∧
      (observing 3 1200 0 twoCircuits).current.map OracleParams.dropProb = some 0 ∧
      (observing 3 1200 0 twoCircuits.reverse).current.map OracleParams.dropProb =
        some (1 / 2) := by
  rw [dropProb_current, dropProb_current]
  refine ⟨?_, ?_, ?_, ?_⟩
  · norm_num [Observation.lossRatio, Observation.standing, twoCircuits, Observation.totalLost,
      Observation.totalSent]
  · norm_num [Observation.lossRatio, Observation.standing, twoCircuits, Observation.totalLost,
      Observation.totalSent]
  · norm_num [observing, observe, twoCircuits, OracleEstimator.observeConnection,
      OracleEstimator.recordAcks, OracleEstimator.recordRtt, OracleEstimator.dropProb]
  · norm_num [observing, observe, twoCircuits, OracleEstimator.observeConnection,
      OracleEstimator.recordAcks, OracleEstimator.recordRtt, OracleEstimator.dropProb]

end MeasuredCc
end Oracle
end QuicMix
