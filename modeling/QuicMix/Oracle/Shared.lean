import QuicMix.Oracle.Seeding
import Mathlib.Logic.Function.Basic

namespace QuicMix
namespace Oracle

open Foundations
open Boundary

/-!
# A measured oracle in several hands

A `MeasuredCc` is shared by the maintainer of a pool and by whoever else records
round-trip times or asks for a transport.  It has two mutexes.  A call of
`transport` reads the estimator under the first and lets go of it; it then
compares what it read with the oracle of the call before under the second, and
builds the transport.  Between the two, others may record and call.

The line that is logged under the second mutex computes two round-trip times.  If
one of them does not fit, the task panics with the mutex in its hands, and every
later call panics when it wants the mutex.
-/

structure Shared (Caller : Type) where
  measured : MeasuredCc
  /-- A task has panicked while it held `last`. -/
  poisoned : Bool
  /-- The round-trip times that were recorded so far; only readings carry them on. -/
  recorded : List Duration
  /-- What the calls that stand between the two mutexes have read. -/
  calls : Caller -> Option Reading
  /-- What the calls came to, a panic as `none`. -/
  outcomes : List (Option Transport)

namespace Shared

variable {Caller : Type}

def new (hops mtu : Nat) (slotInterval : Duration) : Shared Caller where
  measured := .new hops mtu slotInterval
  poisoned := false
  recorded := []
  calls := fun _ => none
  outcomes := []

def recordRtt (shared : Shared Caller) (rtt : Duration) : Shared Caller :=
  { shared with
    measured := shared.measured.recordRtt rtt
    recorded := shared.recorded ++ [rtt] }

def observe {Connection : Type} (shared : Shared Caller) (observation : Observation Connection) :
    Shared Caller :=
  { shared with
    measured := shared.measured.observe observation
    recorded := shared.recorded ++ [observation.rtt] }

/-- The log line can be written: it is not needed, or both round-trip times fit. -/
def logs (last : Option OracleParams) (params : OracleParams) : Bool :=
  match last with
  | none => true
  | some old => old == params || (old.rtt.isSome && params.rtt.isSome)

/-- The second half of a call gets through its mutex. -/
def passes (shared : Shared Caller) (reading : Reading) : Bool :=
  !shared.poisoned && logs shared.measured.last reading.params

/-- What a call comes to that has read so much. -/
def outcome (profile : Profile) (sqrt : Nat -> Rat) (shared : Shared Caller)
    (reading : Reading) : Option Transport :=
  if shared.passes reading then
    quicmixTransportWithJitter profile sqrt reading.params reading.jitter
  else none

/-- The first half of `transport`. -/
def enter [DecidableEq Caller] (shared : Shared Caller) (caller : Caller) : Shared Caller :=
  match shared.measured.est.read shared.recorded with
  | some reading => { shared with calls := Function.update shared.calls caller (some reading) }
  -- An access out of range in the sorted window; `Tracked.enter_eq` excludes it.
  | none => { shared with outcomes := shared.outcomes ++ [none] }

/-- The second half.  The oracle is stored before the transport is built. -/
def finish [DecidableEq Caller] (profile : Profile) (sqrt : Nat -> Rat)
    (shared : Shared Caller) (caller : Caller)
    (reading : Reading) : Shared Caller where
  measured :=
    if shared.passes reading then { shared.measured with last := some reading.params }
    else shared.measured
  -- A mutex that was poisoned stays so, and a panic at the log line poisons it.
  poisoned := !shared.passes reading
  recorded := shared.recorded
  calls := Function.update shared.calls caller none
  outcomes := shared.outcomes ++ [shared.outcome profile sqrt reading]

/-! ## What holds between calls -/

/-- Every call so far has built a transport with a positive round-trip time. -/
def Right (profile : Profile) (mtu : Nat) (slotInterval : Duration) (shared : Shared Caller) :
    Prop :=
  forall outcome, outcome ∈ shared.outcomes ->
    exists transport, outcome = some transport ∧ Positive profile mtu slotInterval transport

structure Tracked (hops mtu : Nat) (slotInterval : Duration) (shared : Shared Caller) : Prop where
  follows : shared.measured.est.Follows hops mtu slotInterval shared.recorded
  faithful : forall caller reading, shared.calls caller = some reading ->
    reading.Faithful hops mtu slotInterval
  /-- The mutex is sound as long as no call has panicked, and the oracle in it can
  be logged. -/
  clean : (forall outcome, outcome ∈ shared.outcomes -> outcome.isSome = true) ->
    shared.poisoned = false ∧
      forall old, shared.measured.last = some old -> old.rtt.isSome = true

variable {hops mtu : Nat} {slotInterval : Duration} {shared : Shared Caller}

theorem tracked_new (hops mtu : Nat) (slotInterval : Duration) :
    Tracked hops mtu slotInterval (new hops mtu slotInterval : Shared Caller) where
  follows := OracleEstimator.follows_new hops mtu slotInterval
  faithful := nofun
  clean := fun _ => ⟨rfl, nofun⟩

theorem Tracked.recordRtt (tracked : Tracked hops mtu slotInterval shared) (rtt : Duration) :
    Tracked hops mtu slotInterval (shared.recordRtt rtt) where
  follows := tracked.follows.recordRtt rtt
  faithful := tracked.faithful
  clean := tracked.clean

theorem Tracked.observe {Connection : Type} (tracked : Tracked hops mtu slotInterval shared)
    (observation : Observation Connection) :
    Tracked hops mtu slotInterval (shared.observe observation) where
  follows := tracked.follows.observeConnection observation
  faithful := tracked.faithful
  clean := tracked.clean

theorem logs_of_rtt {last : Option OracleParams} {params : OracleParams}
    (old : forall previous, last = some previous -> previous.rtt.isSome = true)
    (own : params.rtt.isSome = true) : logs last params = true := by
  cases last with
  | none => rfl
  | some previous =>
      rw [logs, old previous rfl, own, Bool.and_self, Bool.or_true]

/-- The second half of a call that follows only successful ones: it builds what it
should exactly if what it had read gives a delay. -/
theorem Tracked.outcome_iff (profile : Profile) (sqrt : Nat -> Rat)
    (tracked : Tracked hops mtu slotInterval shared)
    (right : shared.Right profile mtu slotInterval) {reading : Reading}
    (faithful : reading.Faithful hops mtu slotInterval) :
    (exists transport, shared.outcome profile sqrt reading = some transport ∧
      Positive profile mtu slotInterval transport) <->
      Seeded profile hops mtu slotInterval reading.sampled := by
  have succeeded : forall outcome, outcome ∈ shared.outcomes -> outcome.isSome = true := by
    intro outcome member
    rcases right outcome member with ⟨transport, same, _⟩
    exact Option.isSome_of_eq_some same
  rcases tracked.clean succeeded with ⟨sound, logged⟩
  rw [← transport_positive_iff profile sqrt faithful]
  constructor
  · rintro ⟨transport, built, positive⟩
    rw [Shared.outcome] at built
    split at built
    case isTrue => exact ⟨transport, built, positive⟩
    case isFalse => cases built
  · rintro ⟨transport, built, positive⟩
    have through : shared.passes reading = true := by
      rw [passes, sound, logs_of_rtt logged (rtt_isSome_of_transport profile sqrt built)]
      rfl
    refine ⟨transport, ?_, positive⟩
    rw [Shared.outcome, if_pos through, built]

variable [DecidableEq Caller]

/-- The first half of a call succeeds. -/
theorem Tracked.enter_eq (tracked : Tracked hops mtu slotInterval shared) (caller : Caller) :
    exists reading, reading.Faithful hops mtu slotInterval ∧ reading.sampled = shared.recorded ∧
      shared.enter caller =
        { shared with calls := Function.update shared.calls caller (some reading) } := by
  rcases tracked.follows.read with ⟨reading, found, faithful, sampled⟩
  refine ⟨reading, faithful, sampled, ?_⟩
  rw [Shared.enter, found]

/-- A call that stands between the mutexes after another has entered is that one,
or it stood there before. -/
theorem Tracked.call_of_enter (tracked : Tracked hops mtu slotInterval shared)
    {caller other : Caller} {reading : Reading}
    (called : (shared.enter caller).calls other = some reading) :
    (other = caller ∧ reading.Faithful hops mtu slotInterval ∧
      reading.sampled = shared.recorded) ∨ shared.calls other = some reading := by
  rcases tracked.enter_eq caller with ⟨taken, faithful, sampled, entered⟩
  rw [entered] at called
  change Function.update shared.calls caller (some taken) other = some reading at called
  by_cases own : other = caller
  · rw [own, Function.update_self] at called
    cases called
    exact Or.inl ⟨own, faithful, sampled⟩
  · rw [Function.update_of_ne own] at called
    exact Or.inr called

theorem call_of_finish {profile : Profile} {sqrt : Nat -> Rat} {caller other : Caller}
    {ended reading : Reading}
    (called : (shared.finish profile sqrt caller ended).calls other = some reading) :
    shared.calls other = some reading := by
  change Function.update shared.calls caller none other = some reading at called
  by_cases own : other = caller
  · rw [own, Function.update_self] at called
    cases called
  · rw [Function.update_of_ne own] at called
    exact called

theorem Tracked.enter (tracked : Tracked hops mtu slotInterval shared) (caller : Caller) :
    Tracked hops mtu slotInterval (shared.enter caller) where
  follows := by
    rcases tracked.enter_eq caller with ⟨_, _, _, entered⟩
    rw [entered]
    exact tracked.follows
  faithful := by
    intro other reading called
    rcases tracked.call_of_enter called with ⟨_, faithful, _⟩ | earlier
    · exact faithful
    · exact tracked.faithful other reading earlier
  clean := by
    rcases tracked.enter_eq caller with ⟨_, _, _, entered⟩
    rw [entered]
    exact tracked.clean

/-- Calls go on being right exactly as long as they have read enough. -/
theorem Tracked.right_finish_iff (profile : Profile) (sqrt : Nat -> Rat)
    (tracked : Tracked hops mtu slotInterval shared) {caller : Caller} {reading : Reading}
    (called : shared.calls caller = some reading) :
    (shared.finish profile sqrt caller reading).Right profile mtu slotInterval <->
      shared.Right profile mtu slotInterval ∧
        Seeded profile hops mtu slotInterval reading.sampled := by
  have faithful := tracked.faithful caller reading called
  constructor
  · intro right
    have before : shared.Right profile mtu slotInterval :=
      fun outcome member => right outcome (List.mem_append_left _ member)
    refine ⟨before, (tracked.outcome_iff profile sqrt before faithful).mp ?_⟩
    exact right (shared.outcome profile sqrt reading) (List.mem_append_right _ List.mem_cons_self)
  · rintro ⟨right, seeded⟩ outcome member
    rcases List.mem_append.mp member with earlier | own
    · exact right outcome earlier
    · rw [List.mem_singleton.mp own]
      exact (tracked.outcome_iff profile sqrt right faithful).mpr seeded

theorem Tracked.finish (profile : Profile) (sqrt : Nat -> Rat)
    (tracked : Tracked hops mtu slotInterval shared)
    (caller : Caller) (reading : Reading) :
    Tracked hops mtu slotInterval (shared.finish profile sqrt caller reading) where
  follows := by
    change (if shared.passes reading then _ else _ : MeasuredCc).est.Follows _ _ _ _
    split
    case isTrue => exact tracked.follows
    case isFalse => exact tracked.follows
  faithful := by
    intro other found called
    exact tracked.faithful other found (call_of_finish called)
  clean := by
    intro succeeded
    have built := succeeded _ (List.mem_append_right _ List.mem_cons_self)
    rcases Option.isSome_iff_exists.mp built with ⟨transport, same⟩
    rw [Shared.outcome] at same
    split at same
    case isTrue through =>
        refine ⟨?_, ?_⟩
        · change (!shared.passes reading) = false
          rw [through]
          rfl
        · intro old stored
          change (if shared.passes reading then _ else _ : MeasuredCc).last = some old at stored
          rw [if_pos through] at stored
          rw [← Option.some.inj stored]
          exact rtt_isSome_of_transport profile sqrt same
    case isFalse => cases same

/-- The first half of a call leaves the outcomes as they are. -/
theorem Tracked.outcomes_enter (tracked : Tracked hops mtu slotInterval shared) (caller : Caller) :
    (shared.enter caller).outcomes = shared.outcomes := by
  rcases tracked.enter_eq caller with ⟨_, _, _, entered⟩
  rw [entered]

end Shared
end Oracle
end QuicMix
