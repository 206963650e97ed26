import QuicMix.Foundations.Binary64
import QuicMix.Foundations.Checked
import QuicMix.Oracle.Measured
import Mathlib.Order.WithBot

namespace QuicMix

open Foundations
open Boundary

namespace Oracle

/-!
# From a measured oracle to a transport

The estimate divides the median round-trip time by two and by the number of
hops; the transport of the next circuit multiplies the share of a hop by the
hops and by two again, in three places.  A product of durations panics when it
does not fit, and a cast to `u64` keeps only the low bits.  Both are modelled as
they are, and shown not to happen.

The number of bytes that the congestion window may hold is computed in double
precision, as in the code.  A product of whole numbers that does not fit panics
where overflow checks are compiled in, and wraps around where they are not.
-/

/-- Durations are below this many nanoseconds: seconds are a `u64`. -/
def durationLimit : Nat := 2 ^ 64 * 1000000000

/-- The product of a duration and a number; `none` stands for the panic. -/
def times (duration : Duration) (factor : Nat) : Option Duration :=
  if duration * factor < durationLimit then some (duration * factor) else none

/-- Nanoseconds in a second. -/
def giga : Nat := 1000000000

/-- `Duration::from_secs_f64`; `none` stands for the panic. -/
def fromSecs (seconds : Rat) : Option Duration :=
  if 0 <= seconds ∧ roundEven (seconds * giga) < durationLimit then
    some (roundEven (seconds * giga))
  else none

/-- `Duration::as_secs_f64`. -/
def asSecs (duration : Duration) : Rat :=
  toDouble (toDouble (duration / giga : Nat) + toDouble ((duration % giga : Nat) / giga))

/-- Twice a number of a type with so many values; `none` stands for the panic. -/
def twice (profile : Profile) (modulus number : Nat) : Option Nat :=
  if number * 2 < modulus then some (number * 2)
  else
    match profile with
    | .debug => none
    | .release => some (number * 2 % modulus)

/-- The window of an uncapped path. -/
def uncappedWindow : Nat := 16 * 1024 * 1024

/-- Bytes in a second at one cell for each slot. -/
def cellRate (mtu : Nat) (slotInterval : Duration) : Rat :=
  toDouble (toDouble mtu / asSecs slotInterval)

/-- The window of a paced path: what the path takes in one round-trip time, cut to
a `u64`, and two cells at least. -/
def pacedWindow (profile : Profile) (mtu : Nat) (slotInterval rtt : Duration) : Option Nat :=
  (twice profile u64Modulus mtu).map (fun cells =>
    max (min (toDouble (cellRate mtu slotInterval * asSecs rtt)).floor.toNat (u64Modulus - 1))
      cells)

/-- What `IdleTimeout` takes: milliseconds in a variable-length integer. -/
def idleTimeout (duration : Duration) : Option Duration :=
  if duration / 1000000 < 2 ^ 62 then some duration else none

/-- Thirty seconds. -/
def idleFloor : Nat := 30000000000

end Oracle

namespace Boundary
namespace OracleParams

open Oracle

/-- Mean round-trip time over the path. -/
def rtt (params : OracleParams) : Option Duration := do
  let oneWay <- times params.meanHopDelay params.hops
  times oneWay 2

/-- The window for a round-trip time. -/
def windowFor (profile : Profile) (params : OracleParams) (rtt : Duration) : Option Nat :=
  if params.slotInterval = 0 then some uncappedWindow
  else pacedWindow profile params.mtu params.slotInterval rtt

/-- Bandwidth-delay product in bytes. -/
def bdpBytes (profile : Profile) (params : OracleParams) : Option Nat := do
  let oneWay <- times params.meanHopDelay params.hops
  let rtt <- times oneWay 2
  params.windowFor profile rtt

end OracleParams
end Boundary

namespace Oracle

/-- The settings of a connection that depend on the oracle. -/
structure TransportConfig where
  initialRtt : Duration
  packetThreshold : Nat
  /-- A single-precision number, which may be infinite. -/
  timeThreshold : WithTop Rat
  maxIdleTimeout : Option Duration
  deriving DecidableEq, Repr

/-- The jitter-tolerant settings shared by every plan but the stock one. -/
def tolerant (params : OracleParams) (timeThreshold : WithTop Rat) : Option TransportConfig := do
  let initialRtt <- params.rtt
  let rtt <- params.rtt
  let silence <- times rtt 40
  return {
    initialRtt := initialRtt
    packetThreshold := 1000
    timeThreshold := timeThreshold
    maxIdleTimeout := idleTimeout (max idleFloor silence) }

/-- The round-trip time that is left of a median over a number of hops. -/
def splitRtt (median hops : Nat) : Nat :=
  median - median % (2 * max hops 1)

theorem splitRtt_le (median hops : Nat) : splitRtt median hops <= median :=
  Nat.sub_le _ _

theorem lt_splitRtt (median hops : Nat) : median < splitRtt median hops + 2 * max hops 1 := by
  have positive : 0 < 2 * max hops 1 := by omega
  have rest := Nat.mod_lt median positive
  have bound := Nat.mod_le median (2 * max hops 1)
  unfold splitRtt
  omega

theorem times_eq {duration factor : Nat} (fits : duration * factor < durationLimit) :
    times duration factor = some (duration * factor) :=
  if_pos fits

theorem times_eq_some_iff (duration factor product : Nat) :
    times duration factor = some product <->
      duration * factor < durationLimit ∧ product = duration * factor := by
  rw [times]
  split
  · rename_i fits
    exact ⟨fun same => ⟨fits, (Option.some.inj same).symm⟩, fun both => congrArg some both.2.symm⟩
  · rename_i tooLong
    exact ⟨nofun, fun both => absurd both.1 tooLong⟩

theorem lt_of_mul_lt {duration factor limit : Nat} (positive : 0 < factor)
    (fits : duration * factor < limit) : duration < limit :=
  Nat.lt_of_le_of_lt (Nat.le_mul_of_pos_right duration positive) fits

theorem rtt_eq_some_iff (params : OracleParams) (rtt : Duration) :
    params.rtt = some rtt <->
      params.meanHopDelay * params.hops * 2 < durationLimit ∧
        rtt = params.meanHopDelay * params.hops * 2 := by
  simp only [OracleParams.rtt, Option.bind_eq_bind, Option.bind_eq_some_iff, times_eq_some_iff]
  constructor
  · rintro ⟨oneWay, ⟨_, rfl⟩, fits, rfl⟩
    exact ⟨fits, rfl⟩
  · rintro ⟨fits, rfl⟩
    exact ⟨_, ⟨lt_of_mul_lt Nat.two_pos fits, rfl⟩, fits, rfl⟩

/-- The settings take the round-trip time as it is, if forty of it fit. -/
theorem tolerant_eq_some_iff (params : OracleParams) (timeThreshold : WithTop Rat)
    (config : TransportConfig) :
    tolerant params timeThreshold = some config <->
      params.meanHopDelay * params.hops * 2 * 40 < durationLimit ∧
        config = {
          initialRtt := params.meanHopDelay * params.hops * 2
          packetThreshold := 1000
          timeThreshold := timeThreshold
          maxIdleTimeout :=
            idleTimeout (max idleFloor (params.meanHopDelay * params.hops * 2 * 40)) } := by
  simp only [tolerant, Option.bind_eq_bind, Option.bind_eq_some_iff, rtt_eq_some_iff,
    times_eq_some_iff, Option.pure_def, Option.some.injEq]
  constructor
  · rintro ⟨_, ⟨_, rfl⟩, _, ⟨_, rfl⟩, _, ⟨fits, rfl⟩, rfl⟩
    exact ⟨fits, rfl⟩
  · rintro ⟨fits, rfl⟩
    have short := lt_of_mul_lt (by decide) fits
    exact ⟨_, ⟨short, rfl⟩, _, ⟨short, rfl⟩, _, ⟨fits, rfl⟩, rfl⟩

theorem bdpBytes_eq (profile : Profile) (params : OracleParams) :
    params.bdpBytes profile = params.rtt.bind (params.windowFor profile) := by
  simp only [OracleParams.bdpBytes, OracleParams.rtt, Option.bind_eq_bind, Option.bind_assoc]

theorem giga_pos : (0 : Rat) < giga := by
  rw [giga]
  norm_num

theorem fromSecs_eq_none_iff (seconds : Rat) : fromSecs seconds = none <->
    ¬ (0 <= seconds ∧ roundEven (seconds * giga) < durationLimit) := by
  rw [fromSecs]
  split
  · rename_i fits
    exact ⟨nofun, fun unfit => absurd fits unfit⟩
  · rename_i unfit
    exact ⟨fun _ => unfit, fun _ => rfl⟩

/-- Dividing by two and by the hops and multiplying again loses the remainder. -/
theorem split_product (median hops : Nat) :
    median / 2 / max hops 1 * max hops 1 * 2 = splitRtt median hops := by
  rw [Nat.div_div_eq_div_mul, splitRtt, Nat.mul_assoc, Nat.mul_comm (max hops 1) 2]
  have split := Nat.div_add_mod' median (2 * max hops 1)
  omega

theorem lt_durationLimit {nanos factor : Nat} (small : nanos < u64Modulus)
    (modest : factor <= 1000000000) : nanos * factor < durationLimit := by
  rcases Nat.eq_zero_or_pos factor with none | positive
  · rw [none, Nat.mul_zero]
    decide
  · calc nanos * factor < u64Modulus * factor := Nat.mul_lt_mul_of_pos_right small positive
      _ <= durationLimit := Nat.mul_le_mul_left u64Modulus modest

/-- What becomes of a median on the way to the transport. -/
structure Survives (median hops : Nat) (params : OracleParams) : Prop where
  /-- No bit is lost in the cast of the share of a hop. -/
  perHop : params.meanHopDelay = median / 2 / max hops 1
  rtt : params.rtt = some (splitRtt median hops)
  window : forall profile,
    params.bdpBytes profile = params.windowFor profile (splitRtt median hops)
  silence : times (splitRtt median hops) 40 = some (splitRtt median hops * 40)
  transport : forall timeThreshold, tolerant params timeThreshold = some {
    initialRtt := splitRtt median hops
    packetThreshold := 1000
    timeThreshold := timeThreshold
    maxIdleTimeout := some (max idleFloor (splitRtt median hops * 40)) }

theorem survives {median hops : Nat} {params : OracleParams} (small : median < u64Modulus)
    (perHop : params.meanHopDelay = median / 2 / max hops 1) (sameHops : params.hops = max hops 1) :
    Survives median hops params := by
  have total : splitRtt median hops < u64Modulus :=
    Nat.lt_of_le_of_lt (splitRtt_le median hops) small
  have product := split_product median hops
  have whole : params.meanHopDelay * params.hops * 2 = splitRtt median hops := by
    rw [perHop, sameHops]
    exact product
  have fits : splitRtt median hops * 40 < durationLimit := lt_durationLimit total (by decide)
  have rtt : params.rtt = some (splitRtt median hops) := by
    rw [rtt_eq_some_iff, whole]
    exact ⟨lt_of_mul_lt (by decide) fits, rfl⟩
  have short : max idleFloor (splitRtt median hops * 40) / 1000000 < 2 ^ 62 := by
    unfold idleFloor u64Modulus at *
    omega
  refine ⟨perHop, rtt, ?_, times_eq fits, ?_⟩
  · intro profile
    rw [bdpBytes_eq, rtt]
    rfl
  · intro timeThreshold
    rw [tolerant_eq_some_iff, whole, idleTimeout, if_pos short]
    exact ⟨fits, rfl⟩

/-- The measured round-trip time survives the split over the hops, and nothing on
the way to the transport of a new circuit overflows. -/
theorem measured_rtt_survives (hops mtu : Nat) (slotInterval : Duration)
    (recordings : List Recording)
    (bounded : forall rtt, Recording.rtt rtt ∈ recordings -> rtt < u64Modulus) :
    exists median params,
      (OracleEstimator.after hops mtu slotInterval recordings).medianRttNs = some median ∧
      (OracleEstimator.after hops mtu slotInterval recordings).estimate = some params ∧
      params.hops = max hops 1 ∧ params.mtu = mtu ∧ params.slotInterval = slotInterval ∧
      Survives median hops params ∧
      median < splitRtt median hops + 2 * max hops 1 ∧ splitRtt median hops <= median := by
  rcases OracleEstimator.exists_median (OracleEstimator.after hops mtu slotInterval recordings) with
    ⟨median, found⟩
  have small : median < u64Modulus :=
    OracleEstimator.median_lt (OracleEstimator.bounded_after bounded) found
  rcases OracleEstimator.route_after hops mtu slotInterval recordings with
    ⟨sameHops, sameMtu, sameInterval⟩
  have estimated : (OracleEstimator.after hops mtu slotInterval recordings).estimate = some {
      hops := max hops 1
      meanHopDelay := median / 2 / max hops 1 % u64Modulus
      dropProb := (OracleEstimator.after hops mtu slotInterval recordings).dropProb
      slotInterval := slotInterval
      mtu := mtu } := by
    rw [OracleEstimator.estimate, found, sameHops, sameMtu, sameInterval]
    rfl
  refine ⟨median, _, found, estimated, rfl, rfl, rfl, ?_, lt_splitRtt median hops,
    splitRtt_le median hops⟩
  apply survives small
  · apply Nat.mod_eq_of_lt
    exact Nat.lt_of_le_of_lt (Nat.le_trans (Nat.div_le_self _ _) (Nat.div_le_self _ _)) small
  · rfl

/-- Sixty milliseconds over three hops, and a nanosecond more that is lost. -/
theorem measured_rtt_survives_three_hops :
    (exists median params,
      (OracleEstimator.after 3 1200 1000000 [.rtt 60000001]).medianRttNs = some median ∧
      (OracleEstimator.after 3 1200 1000000 [.rtt 60000001]).estimate = some params ∧
      params.hops = max 3 1 ∧ params.mtu = 1200 ∧ params.slotInterval = 1000000 ∧
      Survives median 3 params ∧
      median < splitRtt median 3 + 2 * max 3 1 ∧ splitRtt median 3 <= median) ∧
      splitRtt 60000001 3 = 60000000 := by
  refine ⟨measured_rtt_survives 3 1200 1000000 [.rtt 60000001] ?_, rfl⟩
  intro rtt member
  cases List.mem_singleton.mp member
  decide

end Oracle
end QuicMix
