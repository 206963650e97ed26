import QuicMix.Boundary.Substrate
import QuicMix.Foundations.Ranks
import Mathlib.Algebra.Order.Field.Rat
import Mathlib.Data.List.Induction

namespace QuicMix
namespace Oracle

open Foundations
open Boundary

/-!
# Online estimation of the oracle

An `OracleEstimator` keeps a window of the round-trip times that it was given
last and the counts of sent and lost packets that it was given last, and makes
an oracle of them.  The congestion control reads a median, the loss timer a
ratio of two ranks and the exported metrics three percentiles; each of them
computes its own positions in the sorted window.

An access to the sorted window is an access to a vector, which may panic.  A
result `none` stands for that panic.  Fractions of the length and the ratio are
exact.
-/

def maxRttSamples : Nat := 256

/-- What a `u64` holds of a number. -/
def u64Modulus : Nat := 2 ^ 64

structure OracleEstimator where
  rttNs : List Nat
  sent : Nat
  lost : Nat
  hops : Nat
  mtu : Nat
  slotInterval : Duration
  deriving DecidableEq, Repr

/-- What is recorded in an estimator. -/
inductive Recording where
  | rtt (rtt : Duration)
  | acks (sent lost : Nat)
  deriving DecidableEq, Repr

def Recording.roundTrip : Recording -> Option Duration
  | .rtt sample => some sample
  | .acks _ _ => none

namespace OracleEstimator

def new (hops mtu : Nat) (slotInterval : Duration) : OracleEstimator where
  rttNs := []
  sent := 0
  lost := 0
  hops := max hops 1
  mtu := mtu
  slotInterval := slotInterval

def recordRtt (estimator : OracleEstimator) (rtt : Duration) : OracleEstimator :=
  { estimator with rttNs := slide maxRttSamples estimator.rttNs rtt }

def recordAcks (estimator : OracleEstimator) (sent lost : Nat) : OracleEstimator :=
  { estimator with sent := sent, lost := lost }

def samples (estimator : OracleEstimator) : Nat :=
  estimator.rttNs.length

def sorted (estimator : OracleEstimator) : List Nat :=
  ascending estimator.rttNs

/-- The percentile at a fraction of the last position, as a `u64` of nanoseconds. -/
def pick (sorted : List Nat) (part parts : Nat) : Option Duration :=
  (sorted[fractionOf (sorted.length - 1) part parts]?).map (fun nanos => nanos % u64Modulus)

def rttPercentiles (estimator : OracleEstimator) : Option (Duration × Duration × Duration) :=
  if estimator.sorted.isEmpty then some (0, 0, 0)
  else do
    let p50 <- pick estimator.sorted 50 100
    let p90 <- pick estimator.sorted 90 100
    let p99 <- pick estimator.sorted 99 100
    return (p50, p90, p99)

/-- Median observed round-trip time in nanoseconds. -/
def medianRttNs (estimator : OracleEstimator) : Option Nat :=
  if estimator.sorted.isEmpty then some 0
  else estimator.sorted[estimator.sorted.length / 2]?

/-- The high rank and the median that `jitter_ratio` reads. -/
def jitterRanks (estimator : OracleEstimator) : Option (Nat × Nat) := do
  let median <- estimator.sorted[estimator.sorted.length / 2]?
  let p999 <- estimator.sorted[min (estimator.sorted.length * 999 / 1000)
    (estimator.sorted.length - 1)]?
  return (p999, median)

def jitterRatio (estimator : OracleEstimator) : Option Rat :=
  if estimator.rttNs.length < 2 then some 0
  else
    estimator.jitterRanks.map (fun ranks =>
      if 0 < ranks.2 then max ((ranks.1 : Rat) / (ranks.2 : Rat)) (3 / 2) else 0)

/-- The share of lost packets, zero if none was sent. -/
def dropProb (estimator : OracleEstimator) : Rat :=
  if 0 < estimator.sent then (estimator.lost : Rat) / (estimator.sent : Rat) else 0

/-- The measured oracle: half of the median, spread over the hops. -/
def estimate (estimator : OracleEstimator) : Option OracleParams :=
  estimator.medianRttNs.map (fun median =>
    { hops := estimator.hops
      meanHopDelay := median / 2 / estimator.hops % u64Modulus
      dropProb := estimator.dropProb
      slotInterval := estimator.slotInterval
      mtu := estimator.mtu })

def record (estimator : OracleEstimator) : Recording -> OracleEstimator
  | .rtt rtt => estimator.recordRtt rtt
  | .acks sent lost => estimator.recordAcks sent lost

/-- An estimator after a sequence of recordings. -/
def after (hops mtu : Nat) (slotInterval : Duration) (recordings : List Recording) :
    OracleEstimator :=
  recordings.foldl record (new hops mtu slotInterval)

/-! ## The window -/

theorem after_append_singleton (hops mtu : Nat) (slotInterval : Duration)
    (recordings : List Recording) (recording : Recording) :
    after hops mtu slotInterval (recordings ++ [recording]) =
      (after hops mtu slotInterval recordings).record recording := by
  rw [after, after, List.foldl_append]
  rfl

/-- The estimator stands for what was recorded: the latest round-trip times, and
the structural facts of the route. -/
structure Follows (hops mtu : Nat) (slotInterval : Duration) (recorded : List Duration)
    (estimator : OracleEstimator) : Prop where
  window : estimator.rttNs = recent maxRttSamples recorded
  sameHops : estimator.hops = max hops 1
  sameMtu : estimator.mtu = mtu
  sameInterval : estimator.slotInterval = slotInterval

theorem follows_new (hops mtu : Nat) (slotInterval : Duration) :
    Follows hops mtu slotInterval [] (new hops mtu slotInterval) where
  window := rfl
  sameHops := rfl
  sameMtu := rfl
  sameInterval := rfl

section Follows

variable {hops mtu : Nat} {slotInterval : Duration} {recorded : List Duration}
variable {estimator : OracleEstimator}

theorem Follows.recordRtt (follows : Follows hops mtu slotInterval recorded estimator)
    (rtt : Duration) :
    Follows hops mtu slotInterval (recorded ++ [rtt]) (estimator.recordRtt rtt) where
  window := by
    rw [recent_append_singleton (by decide), ← follows.window]
    rfl
  sameHops := follows.sameHops
  sameMtu := follows.sameMtu
  sameInterval := follows.sameInterval

theorem Follows.recordAcks (follows : Follows hops mtu slotInterval recorded estimator)
    (sent lost : Nat) :
    Follows hops mtu slotInterval recorded (estimator.recordAcks sent lost) where
  window := follows.window
  sameHops := follows.sameHops
  sameMtu := follows.sameMtu
  sameInterval := follows.sameInterval

theorem Follows.length (follows : Follows hops mtu slotInterval recorded estimator) :
    estimator.rttNs.length = min recorded.length maxRttSamples := by
  rw [follows.window, length_recent]

end Follows

theorem follows_after (hops mtu : Nat) (slotInterval : Duration) (recordings : List Recording) :
    Follows hops mtu slotInterval (recordings.filterMap Recording.roundTrip)
      (after hops mtu slotInterval recordings) := by
  induction recordings using List.reverseRecOn with
  | nil => exact follows_new hops mtu slotInterval
  | append_singleton recordings recording inductionHypothesis =>
      rw [after_append_singleton, List.filterMap_append]
      cases recording with
      | rtt rtt => exact inductionHypothesis.recordRtt rtt
      | acks sent lost =>
          change Follows hops mtu slotInterval
            (recordings.filterMap Recording.roundTrip ++ []) _
          rw [List.append_nil]
          exact inductionHypothesis.recordAcks sent lost

/-- The window holds the latest round-trip times, whatever else is recorded. -/
theorem rttNs_after (hops mtu : Nat) (slotInterval : Duration) (recordings : List Recording) :
    (after hops mtu slotInterval recordings).rttNs =
      recent maxRttSamples (recordings.filterMap Recording.roundTrip) :=
  (follows_after hops mtu slotInterval recordings).window

/-- The structural facts of the route do not change. -/
theorem route_after (hops mtu : Nat) (slotInterval : Duration) (recordings : List Recording) :
    (after hops mtu slotInterval recordings).hops = max hops 1 ∧
      (after hops mtu slotInterval recordings).mtu = mtu ∧
      (after hops mtu slotInterval recordings).slotInterval = slotInterval := by
  have follows := follows_after hops mtu slotInterval recordings
  exact ⟨follows.sameHops, follows.sameMtu, follows.sameInterval⟩

/-! ## Positions in the sorted window -/

theorem length_sorted (estimator : OracleEstimator) :
    estimator.sorted.length = estimator.rttNs.length :=
  length_ascending estimator.rttNs

theorem sorted_isEmpty {estimator : OracleEstimator} (some : estimator.rttNs ≠ []) :
    estimator.sorted.isEmpty = false := by
  rw [List.isEmpty_eq_false_iff]
  intro empty
  have length := estimator.length_sorted
  rw [empty] at length
  exact some (List.length_eq_zero_iff.mp length.symm)

/-- The position of the median percentile is the position of the median. -/
theorem fractionOf_half {length : Nat} (positive : 0 < length) :
    fractionOf (length - 1) 50 100 = length / 2 := by
  unfold fractionOf
  omega

/-- A window is too short for the high rank to be anything but the last. -/
theorem high_rank {length : Nat} (positive : 0 < length) (bounded : length <= maxRttSamples) :
    min (length * 999 / 1000) (length - 1) = length - 1 := by
  unfold maxRttSamples at bounded
  omega

theorem fractionOf_lt {length part parts : Nat} (positive : 0 < length) (proper : part <= parts) :
    fractionOf (length - 1) part parts < length :=
  Nat.lt_of_le_of_lt (fractionOf_le proper) (Nat.sub_lt positive Nat.one_pos)

/-- A percentile is a sample, and no bits of it are lost. -/
theorem exists_pick {estimator : OracleEstimator} (part parts : Nat)
    (some : estimator.rttNs ≠ []) (proper : part <= parts)
    (bounded : forall sample, sample ∈ estimator.rttNs -> sample < u64Modulus) :
    exists sample, pick estimator.sorted part parts = Option.some sample ∧
      estimator.sorted[fractionOf (estimator.sorted.length - 1) part parts]? =
        Option.some sample ∧
      sample ∈ estimator.rttNs := by
  have positive : 0 < estimator.rttNs.length := List.length_pos_of_ne_nil some
  rcases exists_rank (fractionOf_lt positive proper) with ⟨sample, ranked⟩
  rw [← estimator.length_sorted] at ranked
  have member := mem_of_rank ranked
  refine ⟨sample, ?_, ranked, member⟩
  unfold pick
  rw [show estimator.sorted = ascending estimator.rttNs from rfl] at ranked ⊢
  rw [ranked, Option.map_some, Nat.mod_eq_of_lt (bounded sample member)]

/-! ## The statistics agree -/

/-- What the statistics say of the window. -/
structure Agree (estimator : OracleEstimator) : Prop where
  /-- They depend on the samples and not on their order. -/
  unordered : forall other : OracleEstimator, other.rttNs.Perm estimator.rttNs ->
    other.rttPercentiles = estimator.rttPercentiles ∧
      other.medianRttNs = estimator.medianRttNs ∧ other.jitterRatio = estimator.jitterRatio
  /-- No access to the sorted window is out of range. -/
  inRange : estimator.rttPercentiles.isSome ∧ estimator.medianRttNs.isSome ∧
    estimator.jitterRatio.isSome
  percentiles : estimator.rttNs ≠ [] -> exists p50 p90 p99,
    estimator.rttPercentiles = some (p50, p90, p99) ∧ estimator.medianRttNs = some p50 ∧
      p50 <= p90 ∧ p90 <= p99 ∧
      p50 ∈ estimator.rttNs ∧ p90 ∈ estimator.rttNs ∧ p99 ∈ estimator.rttNs
  jitter : 2 <= estimator.rttNs.length -> exists top median p50 p90 p99,
    estimator.jitterRanks = some (top, median) ∧
      estimator.jitterRatio =
        some (if 0 < median then max ((top : Rat) / (median : Rat)) (3 / 2) else 0) ∧
      estimator.medianRttNs = some median ∧
      estimator.rttPercentiles = some (p50, p90, p99) ∧ p99 <= top ∧ top ∈ estimator.rttNs ∧
      forall sample, sample ∈ estimator.rttNs -> sample <= top

theorem sorted_congr {estimator other : OracleEstimator}
    (permuted : other.rttNs.Perm estimator.rttNs) : other.sorted = estimator.sorted :=
  ascending_congr permuted

/-- There is always a median. -/
theorem exists_median (estimator : OracleEstimator) :
    exists median, estimator.medianRttNs = some median := by
  by_cases empty : estimator.rttNs = []
  · refine ⟨0, ?_⟩
    simp only [medianRttNs, sorted, empty, ascending, List.mergeSort_nil, List.isEmpty_nil, if_true]
  · have positive : 0 < estimator.rttNs.length := List.length_pos_of_ne_nil empty
    rcases exists_rank (Nat.div_lt_self positive (by decide : 1 < 2)) with ⟨median, middle⟩
    refine ⟨median, ?_⟩
    rw [medianRttNs, sorted_isEmpty empty, length_sorted]
    exact middle

/-- The median is a sample, or zero. -/
theorem median_lt {estimator : OracleEstimator} {median : Nat}
    (bounded : forall sample, sample ∈ estimator.rttNs -> sample < u64Modulus)
    (found : estimator.medianRttNs = some median) : median < u64Modulus := by
  unfold medianRttNs at found
  split at found
  · cases found
    decide
  · exact bounded median (mem_of_rank found)

theorem exists_percentiles {estimator : OracleEstimator} (some : estimator.rttNs ≠ [])
    (bounded : forall sample, sample ∈ estimator.rttNs -> sample < u64Modulus) :
    exists p50 p90 p99, estimator.rttPercentiles = Option.some (p50, p90, p99) ∧
      estimator.medianRttNs = Option.some p50 ∧ p50 <= p90 ∧ p90 <= p99 ∧
      p50 ∈ estimator.rttNs ∧ p90 ∈ estimator.rttNs ∧ p99 ∈ estimator.rttNs := by
  rcases exists_pick 50 100 some (by decide) bounded with
    ⟨p50, picked50, ranked50, member50⟩
  rcases exists_pick 90 100 some (by decide) bounded with
    ⟨p90, picked90, ranked90, member90⟩
  rcases exists_pick 99 100 some (by decide) bounded with
    ⟨p99, picked99, ranked99, member99⟩
  have positive : 0 < estimator.sorted.length := by
    rw [length_sorted]
    exact List.length_pos_of_ne_nil some
  refine ⟨p50, p90, p99, ?_, ?_, ?_, ?_, member50, member90, member99⟩
  · simp only [rttPercentiles, sorted_isEmpty some, Bool.false_eq_true, if_false, picked50,
      picked90, picked99, Option.bind_eq_bind, Option.bind_some, Option.pure_def]
  · rw [fractionOf_half positive] at ranked50
    simp only [medianRttNs, sorted_isEmpty some, Bool.false_eq_true, if_false, ranked50]
  · exact rank_le_rank (fractionOf_mono (by decide)) ranked50 ranked90
  · exact rank_le_rank (fractionOf_mono (by decide)) ranked90 ranked99

theorem exists_jitterRanks {estimator : OracleEstimator} (some : estimator.rttNs ≠ [])
    (bounded : estimator.rttNs.length <= maxRttSamples) :
    exists top median, estimator.jitterRanks = Option.some (top, median) ∧
      estimator.medianRttNs = Option.some median ∧
      estimator.sorted[estimator.rttNs.length - 1]? = Option.some top := by
  have positive : 0 < estimator.rttNs.length := List.length_pos_of_ne_nil some
  rcases exists_rank (Nat.div_lt_self positive (by decide : 1 < 2)) with ⟨median, middle⟩
  rcases exists_rank (Nat.sub_lt positive Nat.one_pos) with ⟨top, last⟩
  refine ⟨top, median, ?_, ?_, last⟩
  · rw [jitterRanks, length_sorted, high_rank positive bounded]
    change (ascending estimator.rttNs)[_]?.bind _ = _
    rw [middle]
    change ((ascending estimator.rttNs)[_]?.bind _) = _
    rw [last]
    rfl
  · rw [medianRttNs, sorted_isEmpty some, length_sorted]
    exact middle

/-- The statistics of a window that is not too long and whose samples fit a `u64`. -/
theorem agree {estimator : OracleEstimator} (short : estimator.rttNs.length <= maxRttSamples)
    (bounded : forall sample, sample ∈ estimator.rttNs -> sample < u64Modulus) :
    Agree estimator := by
  have jitter : 2 <= estimator.rttNs.length -> exists top median p50 p90 p99,
      estimator.jitterRanks = some (top, median) ∧
        estimator.jitterRatio =
          some (if 0 < median then max ((top : Rat) / (median : Rat)) (3 / 2) else 0) ∧
        estimator.medianRttNs = some median ∧
        estimator.rttPercentiles = some (p50, p90, p99) ∧ p99 <= top ∧ top ∈ estimator.rttNs ∧
        forall sample, sample ∈ estimator.rttNs -> sample <= top := by
    intro several
    have some : estimator.rttNs ≠ [] :=
      List.ne_nil_of_length_pos (Nat.lt_of_lt_of_le Nat.two_pos several)
    rcases exists_percentiles some bounded with
      ⟨p50, p90, p99, percentiles, _, _, _, _, _, member⟩
    rcases exists_jitterRanks some short with ⟨top, median, ranks, middle, last⟩
    refine ⟨top, median, p50, p90, p99, ranks, ?_, middle, percentiles, le_top last member,
      mem_of_rank last, fun sample => le_top last⟩
    rw [jitterRatio, if_neg (Nat.not_lt.mpr several), ranks]
    rfl
  refine ⟨?_, ⟨?_, ?_, ?_⟩, fun some => exists_percentiles some bounded, jitter⟩
  · intro other permuted
    have same := sorted_congr permuted
    simp only [rttPercentiles, medianRttNs, jitterRatio, jitterRanks, same, permuted.length_eq,
      and_self]
  · by_cases empty : estimator.rttNs = []
    · simp only [rttPercentiles, sorted, empty, ascending, List.mergeSort_nil, List.isEmpty_nil,
        if_true, Option.isSome_some]
    · rcases exists_percentiles empty bounded with ⟨p50, p90, p99, percentiles, _⟩
      rw [percentiles]
      rfl
  · exact Option.isSome_iff_exists.mpr estimator.exists_median
  · by_cases several : 2 <= estimator.rttNs.length
    · rcases jitter several with ⟨_, _, _, _, _, _, ratio, _⟩
      rw [ratio]
      rfl
    · rw [jitterRatio, if_pos (Nat.lt_of_not_le several)]
      rfl

theorem bounded_after {hops mtu : Nat} {slotInterval : Duration} {recordings : List Recording}
    (bounded : forall rtt, Recording.rtt rtt ∈ recordings -> rtt < u64Modulus) :
    forall sample, sample ∈ (after hops mtu slotInterval recordings).rttNs ->
      sample < u64Modulus := by
  intro sample member
  rw [rttNs_after] at member
  rcases List.mem_filterMap.mp (List.mem_of_mem_drop member) with ⟨recording, listed, kept⟩
  cases recording with
  | rtt rtt =>
      cases kept
      exact bounded sample listed
  | acks sent lost => cases kept

/-- Whatever is recorded, the window holds the latest 256 round-trip times and the
statistics of it agree. -/
theorem statistics_agree (hops mtu : Nat) (slotInterval : Duration) (recordings : List Recording)
    (bounded : forall rtt, Recording.rtt rtt ∈ recordings -> rtt < u64Modulus) :
    (after hops mtu slotInterval recordings).rttNs =
        recent maxRttSamples (recordings.filterMap Recording.roundTrip) ∧
      (after hops mtu slotInterval recordings).rttNs.length =
        min (recordings.filterMap Recording.roundTrip).length 256 ∧
      Agree (after hops mtu slotInterval recordings) := by
  have length := (follows_after hops mtu slotInterval recordings).length
  refine ⟨rttNs_after hops mtu slotInterval recordings, length, ?_⟩
  apply agree
  · rw [length]
    exact Nat.min_le_right _ _
  · exact bounded_after bounded

/-- Four samples in no particular order. -/
def fourRecordings : List Recording := [.rtt 40, .acks 10 1, .rtt 10, .rtt 30, .rtt 20]

theorem statistics_agree_four :
    Agree (after 3 1200 0 fourRecordings) ∧
      (after 3 1200 0 fourRecordings).rttNs = [40, 10, 30, 20] ∧
      (after 3 1200 0 fourRecordings).medianRttNs = some 30 := by
  refine ⟨(statistics_agree 3 1200 0 fourRecordings ?_).2.2, rfl, ?_⟩
  · intro rtt member
    simp only [fourRecordings, List.mem_cons, Recording.rtt.injEq, reduceCtorEq, false_or,
      List.not_mem_nil, or_false] at member
    rcases member with rfl | rfl | rfl | rfl <;> decide
  · simp [medianRttNs, sorted, ascending, after, fourRecordings, record, recordRtt, recordAcks, new,
      slide, maxRttSamples, List.mergeSort]

end OracleEstimator
end Oracle
end QuicMix
