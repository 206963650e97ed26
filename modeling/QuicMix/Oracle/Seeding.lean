import QuicMix.Oracle.Transport

namespace QuicMix

open Foundations
open Boundary

namespace Oracle

/-!
# The round-trip time that a circuit starts from

A call of `MeasuredCc::transport` reads an oracle and a jitter ratio from the
estimator and builds the transport of the next circuit from them.  A ratio of too
few samples is recognised, and a threshold derived from the hops takes its place.
A delay of no samples is zero, and nothing takes its place.

The threshold divides by the square root of a single-precision number.  That root
is a parameter here, since the threshold is compared with nothing.  Whether twice
the hops and twice the size of a cell are checked or wrap around depends on the
profile that the code was built with.
-/

def u32Modulus : Nat := 2 ^ 32

end Oracle

namespace Boundary
namespace OracleParams

open Oracle

/-- The threshold that covers the jitter of a path with so many hops. -/
def lossTimeThreshold (profile : Profile) (sqrt : Nat -> Rat) (params : OracleParams) :
    Option (WithTop Rat) :=
  (twice profile u32Modulus (max params.hops 1)).map (fun ways =>
    -- A quotient by zero is infinite.
    if sqrt ways = 0 then ⊤ else (max (1 + 31 / 10 / sqrt ways) (3 / 2) : Rat))

end OracleParams
end Boundary

namespace Oracle

/-- The transport of a circuit: the tolerant settings, and the window of its
congestion control. -/
structure Transport where
  config : TransportConfig
  window : Nat
  deriving DecidableEq, Repr

/-- A measured ratio is taken as it is, and one of too few samples is replaced. -/
def thresholdOf (profile : Profile) (sqrt : Nat -> Rat) (params : OracleParams) (jitter : Rat) :
    Option (WithTop Rat) :=
  if 3 / 2 <= jitter then some jitter else params.lossTimeThreshold profile sqrt

def quicmixTransportWithJitter (profile : Profile) (sqrt : Nat -> Rat) (params : OracleParams)
    (jitter : Rat) : Option Transport := do
  let threshold <- thresholdOf profile sqrt params jitter
  let config <- tolerant params threshold
  let window <- params.bdpBytes profile
  return { config := config, window := window }

/-! ## What a circuit must start from -/

/-- The upper median of the latest round-trip times; there is none before one was
recorded. -/
def middle (recorded : List Duration) : Option Duration :=
  (ascending (recent maxRttSamples recorded))[min recorded.length maxRttSamples / 2]?

/-- The transport starts from a positive round-trip time, and its window is the
one for that time. -/
structure Positive (profile : Profile) (mtu : Nat) (slotInterval : Duration)
    (transport : Transport) : Prop where
  initialRtt : 0 < transport.config.initialRtt
  window : 0 < slotInterval ->
    pacedWindow profile mtu slotInterval transport.config.initialRtt = some transport.window

/-- Twice a number of a type with so many values is no panic. -/
def Doubles (profile : Profile) (modulus number : Nat) : Prop :=
  profile = .release ∨ number * 2 < modulus

instance (profile : Profile) (modulus number : Nat) :
    Decidable (Doubles profile modulus number) :=
  inferInstanceAs (Decidable (_ ∨ _))

/-- What was recorded gives a delay: there is a median, and its share of a hop has
a bit among the low 64. -/
structure Seeded (profile : Profile) (hops mtu : Nat) (slotInterval : Duration)
    (recorded : List Duration) : Prop where
  delay : exists median, middle recorded = some median ∧
    ¬ u64Modulus ∣ median / (2 * max hops 1) ∧
    median / (2 * max hops 1) % u64Modulus * (80 * max hops 1) < durationLimit
  threshold : Doubles profile u32Modulus (max hops 1) ∨ 2 <= recorded.length
  window : slotInterval = 0 ∨ Doubles profile u64Modulus mtu

instance (profile : Profile) (hops mtu : Nat) (slotInterval : Duration)
    (recorded : List Duration) : Decidable (Seeded profile hops mtu slotInterval recorded) :=
  decidable_of_iff
    ((exists median, median ∈ middle recorded ∧ (¬ u64Modulus ∣ median / (2 * max hops 1) ∧
        median / (2 * max hops 1) % u64Modulus * (80 * max hops 1) < durationLimit)) ∧
      (Doubles profile u32Modulus (max hops 1) ∨ 2 <= recorded.length) ∧
      (slotInterval = 0 ∨ Doubles profile u64Modulus mtu))
    ⟨fun all => ⟨all.1, all.2.1, all.2.2⟩, fun seeded => ⟨seeded.1, seeded.2, seeded.3⟩⟩

/-- What a call of `transport` reads while it holds the estimator. -/
structure Reading where
  params : OracleParams
  jitter : Rat
  /-- The round-trip times that had been recorded by then; nothing reads them. -/
  sampled : List Duration
  deriving DecidableEq, Repr

def OracleEstimator.read (estimator : OracleEstimator) (recorded : List Duration) :
    Option Reading := do
  let params <- estimator.estimate
  let jitter <- estimator.jitterRatio
  return { params := params, jitter := jitter, sampled := recorded }

/-- The reading stands for what had been recorded. -/
structure Reading.Faithful (hops mtu : Nat) (slotInterval : Duration) (reading : Reading) :
    Prop where
  sameHops : reading.params.hops = max hops 1
  sameMtu : reading.params.mtu = mtu
  sameInterval : reading.params.slotInterval = slotInterval
  share : reading.params.meanHopDelay =
    (middle reading.sampled).getD 0 / (2 * max hops 1) % u64Modulus
  jitter : 3 / 2 <= reading.jitter <->
    2 <= reading.sampled.length ∧ 0 < (middle reading.sampled).getD 0

/-! ## Recordings and readings -/

section Estimator

variable {hops mtu : Nat} {slotInterval : Duration} {recorded : List Duration}
variable {estimator : OracleEstimator}

namespace OracleEstimator

/-- A look at a connection records one round-trip time; the counts are apart. -/
theorem Follows.observeConnection {Connection : Type}
    (follows : Follows hops mtu slotInterval recorded estimator)
    (observation : Observation Connection) :
    Follows hops mtu slotInterval (recorded ++ [observation.rtt])
      (estimator.observeConnection observation) :=
  (follows.recordRtt observation.rtt).recordAcks observation.sent observation.lost

/-- The estimator's median is the middle of the recordings, or zero. -/
theorem Follows.medianRttNs (follows : Follows hops mtu slotInterval recorded estimator) :
    estimator.medianRttNs = some ((middle recorded).getD 0) := by
  by_cases empty : recorded = []
  · have none : estimator.rttNs = [] := by rw [follows.window, empty]; rfl
    simp only [OracleEstimator.medianRttNs, sorted, none, empty, middle, recent, List.drop_nil,
      ascending, List.mergeSort_nil, List.isEmpty_nil, if_true, List.getElem?_nil,
      Option.getD_none]
  · have positive : 0 < recorded.length := List.length_pos_of_ne_nil empty
    have length := follows.length
    have some : estimator.rttNs ≠ [] := by
      apply List.ne_nil_of_length_pos
      rw [length]
      exact Nat.lt_min.mpr ⟨positive, by decide⟩
    rcases estimator.exists_median with ⟨median, found⟩
    rw [found]
    rw [OracleEstimator.medianRttNs, sorted_isEmpty some, length_sorted, length, sorted,
      follows.window] at found
    rw [middle, show (ascending (recent maxRttSamples recorded))[_]? = _ from found]
    rfl

/-- The ratio is trusted exactly if there are two samples and a median. -/
theorem Follows.jitterRatio (follows : Follows hops mtu slotInterval recorded estimator) :
    exists jitter, estimator.jitterRatio = some jitter ∧
      (3 / 2 <= jitter <-> 2 <= recorded.length ∧ 0 < (middle recorded).getD 0) := by
  have length := follows.length
  rw [OracleEstimator.jitterRatio]
  by_cases few : estimator.rttNs.length < 2
  · rw [if_pos few]
    refine ⟨0, rfl, ?_⟩
    constructor
    · intro large
      exact absurd large (by norm_num)
    · intro both
      unfold maxRttSamples at length
      omega
  · have some : estimator.rttNs ≠ [] := List.ne_nil_of_length_pos (by omega)
    have short : estimator.rttNs.length <= maxRttSamples := by
      rw [length]
      exact Nat.min_le_right _ _
    rcases exists_jitterRanks some short with ⟨top, median, ranks, found, _⟩
    have several : 2 <= recorded.length := by omega
    have same : median = (middle recorded).getD 0 :=
      Option.some.inj (found.symm.trans follows.medianRttNs)
    rw [if_neg few, ranks, Option.map_some]
    refine ⟨_, rfl, ?_⟩
    rw [← same]
    by_cases positive : 0 < median
    · rw [if_pos positive]
      exact ⟨fun _ => ⟨several, positive⟩, fun _ => le_max_right _ _⟩
    · rw [if_neg positive]
      constructor
      · intro large
        exact absurd large (by norm_num)
      · intro both
        exact absurd both.2 positive

/-- A call always reads something, and what it reads stands for the recordings. -/
theorem Follows.read (follows : Follows hops mtu slotInterval recorded estimator) :
    exists reading, estimator.read recorded = some reading ∧
      reading.Faithful hops mtu slotInterval ∧ reading.sampled = recorded := by
  rcases follows.jitterRatio with ⟨jitter, ratio, trusted⟩
  rw [OracleEstimator.read, estimate, follows.medianRttNs, ratio]
  refine ⟨_, rfl, ?_, rfl⟩
  refine ⟨follows.sameHops, follows.sameMtu, follows.sameInterval, ?_, trusted⟩
  change (middle recorded).getD 0 / 2 / estimator.hops % u64Modulus = _
  rw [follows.sameHops, Nat.div_div_eq_div_mul]

end OracleEstimator

end Estimator

/-! ## Readings and transports -/

theorem twice_isSome_iff (profile : Profile) (modulus number : Nat) :
    (twice profile modulus number).isSome <-> Doubles profile modulus number := by
  by_cases fits : number * 2 < modulus
  · simp only [twice, Doubles, fits, if_true, Option.isSome_some, or_true]
  · cases profile with
    | debug =>
        simp only [twice, Doubles, fits, if_false, Option.isSome_none, Bool.false_eq_true,
          reduceCtorEq, or_self]
    | release => simp only [twice, Doubles, fits, if_false, Option.isSome_some, true_or]

theorem windowFor_isSome_iff (profile : Profile) (params : OracleParams) (rtt : Duration) :
    (params.windowFor profile rtt).isSome <->
      params.slotInterval = 0 ∨ Doubles profile u64Modulus params.mtu := by
  rw [OracleParams.windowFor]
  by_cases uncapped : params.slotInterval = 0
  · simp only [uncapped, if_true, Option.isSome_some, true_or]
  · simp only [uncapped, if_false, pacedWindow, Option.isSome_map, twice_isSome_iff, false_or]

/-- Five thousand bytes in exact arithmetic. -/
example : pacedWindow .release 500 3000000 30000000 = some 4999 := by
  decide +kernel

section Transports

variable (profile : Profile) (sqrt : Nat -> Rat) {hops mtu : Nat} {slotInterval : Duration}

theorem lossTimeThreshold_isSome_iff (params : OracleParams) :
    (params.lossTimeThreshold profile sqrt).isSome <->
      Doubles profile u32Modulus (max params.hops 1) := by
  rw [OracleParams.lossTimeThreshold, Option.isSome_map, twice_isSome_iff]

/-- What has to go well for a transport to be built, and what it is then. -/
theorem transport_eq_some_iff (params : OracleParams) (jitter : Rat) (transport : Transport) :
    quicmixTransportWithJitter profile sqrt params jitter = some transport <->
      exists threshold, thresholdOf profile sqrt params jitter = some threshold ∧
        tolerant params threshold = some transport.config ∧
        params.windowFor profile (params.meanHopDelay * params.hops * 2) =
          some transport.window := by
  simp only [quicmixTransportWithJitter, bdpBytes_eq, Option.bind_eq_bind,
    Option.bind_eq_some_iff, Option.pure_def, Option.some.injEq]
  constructor
  · rintro ⟨threshold, chosen, config, settings, window, ⟨rtt, found, width⟩, rfl⟩
    rw [((rtt_eq_some_iff params rtt).mp found).2] at width
    exact ⟨threshold, chosen, settings, width⟩
  · rintro ⟨threshold, chosen, settings, width⟩
    have fits := ((tolerant_eq_some_iff params threshold _).mp settings).1
    refine ⟨threshold, chosen, _, settings, _, ⟨_, ?_, width⟩, rfl⟩
    exact (rtt_eq_some_iff params _).mpr ⟨lt_of_mul_lt (by decide) fits, rfl⟩

/-- An oracle that a transport was built from has a round-trip time. -/
theorem rtt_isSome_of_transport {params : OracleParams} {jitter : Rat} {transport : Transport}
    (built : quicmixTransportWithJitter profile sqrt params jitter = some transport) :
    params.rtt.isSome = true := by
  rcases (transport_eq_some_iff profile sqrt params jitter transport).mp built with
    ⟨threshold, _, settings, _⟩
  have fits := ((tolerant_eq_some_iff params threshold _).mp settings).1
  rw [(rtt_eq_some_iff params _).mpr ⟨lt_of_mul_lt (by decide) fits, rfl⟩]
  rfl

/-- The share of a hop, over the hops and back, forty times. -/
theorem silence_eq (share hops : Nat) : share * hops * 2 * 40 = share * (80 * hops) := by
  rw [Nat.mul_assoc, Nat.mul_assoc, Nat.mul_comm hops]

variable {reading : Reading}

theorem Reading.Faithful.seeded_iff (faithful : reading.Faithful hops mtu slotInterval) :
    Seeded profile hops mtu slotInterval reading.sampled <->
      0 < reading.params.meanHopDelay ∧
        reading.params.meanHopDelay * (80 * max hops 1) < durationLimit ∧
        (Doubles profile u32Modulus (max hops 1) ∨ 2 <= reading.sampled.length) ∧
        (slotInterval = 0 ∨ Doubles profile u64Modulus mtu) := by
  rw [faithful.share]
  constructor
  · rintro ⟨⟨median, found, share, fits⟩, threshold, window⟩
    rw [found]
    refine ⟨?_, fits, threshold, window⟩
    apply Nat.pos_of_ne_zero
    intro none
    exact share (Nat.dvd_of_mod_eq_zero none)
  · rintro ⟨share, fits, threshold, window⟩
    refine ⟨?_, threshold, window⟩
    cases found : middle reading.sampled with
    | none =>
        rw [found, Option.getD_none, Nat.zero_div, Nat.zero_mod] at share
        exact absurd share (Nat.lt_irrefl 0)
    | some median =>
        rw [found] at share fits
        refine ⟨median, rfl, ?_, fits⟩
        intro divides
        exact Nat.ne_of_gt share (Nat.mod_eq_zero_of_dvd divides)

/-- There is a threshold: the ratio is trusted, or the hops can be doubled. -/
theorem Reading.Faithful.threshold_isSome_iff (faithful : reading.Faithful hops mtu slotInterval)
    (positive : 0 < reading.params.meanHopDelay) :
    (thresholdOf profile sqrt reading.params reading.jitter).isSome <->
      Doubles profile u32Modulus (max hops 1) ∨ 2 <= reading.sampled.length := by
  have median : 0 < (middle reading.sampled).getD 0 := by
    rw [faithful.share] at positive
    apply Nat.pos_of_ne_zero
    intro none
    rw [none, Nat.zero_div, Nat.zero_mod] at positive
    exact Nat.lt_irrefl 0 positive
  have trusted : 3 / 2 <= reading.jitter <-> 2 <= reading.sampled.length :=
    faithful.jitter.trans ⟨fun both => both.1, fun several => ⟨several, median⟩⟩
  rw [thresholdOf]
  split
  case isTrue large => simp only [Option.isSome_some, trusted.mp large, or_true]
  case isFalse small =>
      have same : max (max hops 1) 1 = max hops 1 := Nat.max_eq_left (Nat.le_max_right hops 1)
      have few : ¬ 2 <= reading.sampled.length := fun several => small (trusted.mpr several)
      rw [lossTimeThreshold_isSome_iff, faithful.sameHops, same]
      exact ⟨Or.inl, fun either => either.resolve_right few⟩

/-- A call builds a transport with a positive round-trip time exactly if what had
been recorded gives a delay. -/
theorem transport_positive_iff (faithful : reading.Faithful hops mtu slotInterval) :
    (exists transport,
      quicmixTransportWithJitter profile sqrt reading.params reading.jitter = some transport ∧
        Positive profile mtu slotInterval transport) <->
      Seeded profile hops mtu slotInterval reading.sampled := by
  have hopsPos : 0 < max hops 1 := Nat.lt_of_lt_of_le Nat.one_pos (Nat.le_max_right hops 1)
  rw [faithful.seeded_iff profile]
  constructor
  · rintro ⟨transport, built, positive⟩
    rcases (transport_eq_some_iff profile sqrt _ _ _).mp built with
      ⟨threshold, chosen, settings, width⟩
    rcases (tolerant_eq_some_iff _ _ _).mp settings with ⟨fits, config⟩
    have share : 0 < reading.params.meanHopDelay := by
      have start := positive.initialRtt
      rw [config] at start
      exact Nat.pos_of_mul_pos_right (Nat.pos_of_mul_pos_right start)
    have room := (windowFor_isSome_iff profile _ _).mp (Option.isSome_of_eq_some width)
    rw [faithful.sameInterval, faithful.sameMtu] at room
    rw [faithful.sameHops, silence_eq] at fits
    exact ⟨share, fits, (faithful.threshold_isSome_iff profile sqrt share).mp
      (Option.isSome_of_eq_some chosen), room⟩
  · rintro ⟨share, fits, enough, room⟩
    have found := (faithful.threshold_isSome_iff profile sqrt share).mpr enough
    rcases Option.isSome_iff_exists.mp found with
      ⟨threshold, chosen⟩
    rw [← faithful.sameInterval, ← faithful.sameMtu] at room
    rcases Option.isSome_iff_exists.mp ((windowFor_isSome_iff profile reading.params
      (reading.params.meanHopDelay * reading.params.hops * 2)).mpr room) with ⟨window, width⟩
    rw [← silence_eq, ← faithful.sameHops] at fits
    have settings := (tolerant_eq_some_iff reading.params threshold _).mpr ⟨fits, rfl⟩
    refine ⟨⟨_, window⟩, (transport_eq_some_iff profile sqrt _ _ _).mpr
      ⟨threshold, chosen, settings, width⟩, ?_, ?_⟩
    · change 0 < reading.params.meanHopDelay * reading.params.hops * 2
      rw [faithful.sameHops]
      exact Nat.mul_pos (Nat.mul_pos share hopsPos) Nat.two_pos
    · intro capped
      rw [← faithful.sameInterval] at capped
      rw [OracleParams.windowFor, if_neg (Nat.pos_iff_ne_zero.mp capped), faithful.sameInterval,
        faithful.sameMtu] at width
      exact width

end Transports

/-- With round-trip times of a nanosecond a hop and way at least and a `u64` of
nanoseconds at most, a delay is there as soon as something was recorded. -/
theorem seeded_of_recorded {profile : Profile} {hops mtu : Nat} {slotInterval : Duration}
    {recorded : List Duration} (some : recorded ≠ []) (modest : 2 * max hops 1 < u32Modulus)
    (narrow : mtu * 2 < u64Modulus)
    (ranged : forall rtt, rtt ∈ recorded -> 2 * max hops 1 <= rtt ∧ rtt < u64Modulus) :
    Seeded profile hops mtu slotInterval recorded := by
  have hopsPos : 0 < max hops 1 := Nat.lt_of_lt_of_le Nat.one_pos (Nat.le_max_right hops 1)
  have size : (recent maxRttSamples recorded).length = min recorded.length maxRttSamples :=
    length_recent maxRttSamples recorded
  have positive : 0 < min recorded.length maxRttSamples :=
    Nat.lt_min.mpr ⟨List.length_pos_of_ne_nil some, by decide⟩
  have inside : min recorded.length maxRttSamples / 2 <
      (recent maxRttSamples recorded).length := by
    rw [size]
    exact Nat.div_lt_self positive (by decide)
  rcases exists_rank inside with ⟨median, found⟩
  have member : median ∈ recorded := List.mem_of_mem_drop (mem_of_rank found)
  rcases ranged median member with ⟨large, small⟩
  have share : 0 < median / (2 * max hops 1) :=
    Nat.div_pos large (Nat.mul_pos Nat.two_pos hopsPos)
  have bounded : median / (2 * max hops 1) < u64Modulus :=
    Nat.lt_of_le_of_lt (Nat.div_le_self _ _) small
  refine ⟨⟨median, found, ?_, ?_⟩, Or.inl (Or.inr ?_), Or.inr (Or.inr narrow)⟩
  · exact Nat.not_dvd_of_pos_of_lt share bounded
  · have twoWays : 2 * max hops 1 * 40 = 80 * max hops 1 := by omega
    rw [Nat.mod_eq_of_lt bounded]
    calc median / (2 * max hops 1) * (80 * max hops 1)
        = median / (2 * max hops 1) * (2 * max hops 1) * 40 := by
          rw [Nat.mul_assoc _ (2 * max hops 1), twoWays]
      _ <= median * 40 := Nat.mul_le_mul_right 40 (Nat.div_mul_le_self _ _)
      _ < durationLimit := lt_durationLimit small (by decide)
  · rw [Nat.mul_comm]
    exact modest

end Oracle
end QuicMix
