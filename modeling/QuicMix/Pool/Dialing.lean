import QuicMix.Foundations.Schedule
import QuicMix.Oracle.Shared
import QuicMix.Pool.WarmPool

namespace QuicMix
namespace Pool

open Foundations
open Boundary
open Oracle

/-!
# A pool that dials with a measured oracle

A pool started with `start_measured` asks the shared oracle for a transport before
it dials a circuit, from the first circuit on, and shows it the circuits that it
walks over.  Others may record round-trip times and ask for transports at any
moment, also before the pool starts.

If asking panics, the task that refills the pool ends; requests go on.
-/

/-- Who asks for a transport. -/
inductive Caller where
  | maintainer
  | holder (id : Nat)
  deriving DecidableEq, Repr

/-- The moves that only the maintainer makes. -/
def Action.ofMaintainer : Action -> Bool
  | .wake => true
  | .maintain => true
  | .countReady => true
  | .build _ => true
  | .push => true
  | _ => false

def Action.builds : Action -> Bool
  | .build _ => true
  | _ => false

structure Dialing where
  oracle : Shared Caller
  pool : WarmPool
  /-- The transports that circuits were dialed with, whatever came of it. -/
  dialed : List Transport
  /-- The maintainer is dialing a circuit. -/
  underWay : Bool
  /-- The maintainer has ended in a panic. -/
  halted : Bool

/-- A move of the pool carries what a look at a circuit shows, should it make one. -/
inductive Move where
  | recordRtt (rtt : Duration)
  | observe (look : Observation Unit)
  | enter (caller : Caller)
  | finish (caller : Caller)
  | pool (action : Action) (look : Observation Unit)
  deriving DecidableEq, Repr

namespace Dialing

def startMeasured (cfg : PoolConfig) (hops mtu : Nat) (slotInterval : Duration) : Dialing where
  oracle := .new hops mtu slotInterval
  pool := .spawn cfg true
  dialed := []
  underWay := false
  halted := false

/-- The maintainer asks for a transport at the beginning of `build_one`. -/
def asks (state : Dialing) : Bool :=
  match state.pool.phase with
  | .build (_ + 1) => !state.halted && !state.underWay
  | _ => false

def mayEnter (state : Dialing) (caller : Caller) : Bool :=
  (state.oracle.calls caller).isNone && (decide (caller ≠ .maintainer) || state.asks)

/-- A caller takes the second mutex.  The maintainer goes on to dial with what it
is given. -/
def finish (profile : Profile) (sqrt : Nat -> Rat) (state : Dialing) (caller : Caller)
    (reading : Reading) : Dialing :=
  match caller, state.oracle.outcome profile sqrt reading with
  | .maintainer, some transport =>
      { state with
        oracle := state.oracle.finish profile sqrt caller reading
        dialed := state.dialed ++ [transport]
        underWay := true }
  | .maintainer, none =>
      { state with
        oracle := state.oracle.finish profile sqrt caller reading
        halted := true }
  | .holder _, _ => { state with oracle := state.oracle.finish profile sqrt caller reading }

/-- A circuit is built when it has been dialed, and a task that has ended does
nothing. -/
def permits (state : Dialing) (action : Action) : Bool :=
  if action.builds then state.underWay else !(state.halted && action.ofMaintainer)

/-- A move of the pool, with the circuit that it looked at. -/
def follow (state : Dialing) (action : Action) (next : WarmPool) (look : Observation Unit) :
    Dialing :=
  { state with
    oracle := if next.observed = state.pool.observed then state.oracle
      else state.oracle.observe look
    pool := next
    underWay := state.underWay && !action.builds }

def step (profile : Profile) (sqrt : Nat -> Rat) (state : Dialing) : Move -> Option Dialing
  | .recordRtt rtt => some { state with oracle := state.oracle.recordRtt rtt }
  | .observe look => some { state with oracle := state.oracle.observe look }
  | .enter caller =>
      if state.mayEnter caller then
        some { state with
          oracle := state.oracle.enter caller
          halted := state.halted || (decide (caller = .maintainer) &&
            ((state.oracle.enter caller).calls caller).isNone) }
      else none
  | .finish caller =>
      match state.oracle.calls caller with
      | none => none
      | some reading => some (state.finish profile sqrt caller reading)
  | .pool action look =>
      if state.permits action then
        match state.pool.step action with
        | none => none
        | some next => some (state.follow action next look)
      else none

/-! ## Moves that end a call -/

/-- What the call has read that the move brings to its end. -/
def finishing (state : Dialing) : Move -> Option Reading
  | .finish caller => state.oracle.calls caller
  | _ => none

/-- A call that ends had read the estimator when what had been recorded gave a
delay. -/
def Prepared (profile : Profile) (hops mtu : Nat) (slotInterval : Duration) (state : Dialing)
    (move : Move) : Prop :=
  forall reading, state.finishing move = some reading ->
    Seeded profile hops mtu slotInterval reading.sampled

instance (profile : Profile) (hops mtu : Nat) (slotInterval : Duration) (state : Dialing)
    (move : Move) :
    Decidable (state.Prepared profile hops mtu slotInterval move) :=
  decidable_of_iff
    (forall reading, reading ∈ state.finishing move ->
      Seeded profile hops mtu slotInterval reading.sampled) Iff.rfl

/-- Every call has built a transport with a positive round-trip time, and every
circuit was dialed with such a transport. -/
structure Right (profile : Profile) (mtu : Nat) (slotInterval : Duration) (state : Dialing) :
    Prop where
  oracle : state.oracle.Right profile mtu slotInterval
  dialed : forall transport, transport ∈ state.dialed -> Positive profile mtu slotInterval transport

/-- What a move does to the oracle and to the circuits dialed. -/
inductive Moved (profile : Profile) (sqrt : Nat -> Rat) (state : Dialing) (move : Move)
    (next : Dialing) : Prop where
  | stays (quiet : state.finishing move = none) (oracle : next.oracle = state.oracle)
      (dialed : next.dialed = state.dialed)
  | records (quiet : state.finishing move = none) (rtt : Duration)
      (oracle : next.oracle = state.oracle.recordRtt rtt) (dialed : next.dialed = state.dialed)
  | observes (quiet : state.finishing move = none) (look : Observation Unit)
      (oracle : next.oracle = state.oracle.observe look) (dialed : next.dialed = state.dialed)
  | enters (quiet : state.finishing move = none) (caller : Caller) (same : move = .enter caller)
      (oracle : next.oracle = state.oracle.enter caller) (dialed : next.dialed = state.dialed)
  | finishes (caller : Caller) (reading : Reading) (ends : state.finishing move = some reading)
      (called : state.oracle.calls caller = some reading)
      (oracle : next.oracle = state.oracle.finish profile sqrt caller reading)
      (dialed : forall transport, transport ∈ next.dialed -> transport ∈ state.dialed ∨
        state.oracle.outcome profile sqrt reading = some transport)

variable (profile : Profile) (sqrt : Nat -> Rat) {state next : Dialing} {move : Move}

theorem finish_oracle (caller : Caller) (reading : Reading) :
    (state.finish profile sqrt caller reading).oracle =
      state.oracle.finish profile sqrt caller reading := by
  cases caller with
  | holder id => rfl
  | maintainer =>
      cases given : state.oracle.outcome profile sqrt reading with
      | none => simp only [finish, given]
      | some transport => simp only [finish, given]

theorem mem_dialed_finish {caller : Caller} {reading : Reading} {transport : Transport}
    (member : transport ∈ (state.finish profile sqrt caller reading).dialed) :
    transport ∈ state.dialed ∨ state.oracle.outcome profile sqrt reading = some transport := by
  cases caller with
  | holder id => exact Or.inl member
  | maintainer =>
      cases given : state.oracle.outcome profile sqrt reading with
      | none =>
          simp only [finish, given] at member
          exact Or.inl member
      | some own =>
          simp only [finish, given, List.mem_append, List.mem_singleton] at member
          rcases member with earlier | same
          · exact Or.inl earlier
          · exact Or.inr (congrArg some same.symm)

theorem moved_of_step (moves : state.step profile sqrt move = some next) :
    Moved profile sqrt state move next := by
  cases move with
  | recordRtt rtt =>
      cases moves
      exact .records rfl rtt rfl rfl
  | observe look =>
      cases moves
      exact .observes rfl look rfl rfl
  | enter caller =>
      simp only [step] at moves
      split at moves
      · cases moves
        exact .enters rfl caller rfl rfl rfl
      · cases moves
  | finish caller =>
      cases called : state.oracle.calls caller with
      | none =>
          simp only [step, called] at moves
          cases moves
      | some reading =>
          simp only [step, called] at moves
          cases moves
          exact .finishes caller reading called called (finish_oracle profile sqrt caller reading)
            (fun transport => mem_dialed_finish profile sqrt)
  | pool action look =>
      simp only [step] at moves
      split at moves
      · split at moves
        · cases moves
        · rename_i next _
          cases moves
          by_cases same : next.observed = state.pool.observed
          · exact .stays rfl (if_pos same) rfl
          · exact .observes rfl look (if_neg same) rfl
      · cases moves

/-! ## Runs -/

variable {hops mtu : Nat} {slotInterval : Duration}

structure Tracked (hops mtu : Nat) (slotInterval : Duration) (state : Dialing) : Prop where
  oracle : state.oracle.Tracked hops mtu slotInterval
  /-- A circuit is dialed with what a call has built. -/
  dialed : forall transport, transport ∈ state.dialed -> some transport ∈ state.oracle.outcomes

theorem tracked_startMeasured (cfg : PoolConfig) (hops mtu : Nat) (slotInterval : Duration) :
    Tracked hops mtu slotInterval (startMeasured cfg hops mtu slotInterval) where
  oracle := Shared.tracked_new hops mtu slotInterval
  dialed := nofun

theorem Tracked.right_iff (tracked : Tracked hops mtu slotInterval state) :
    state.Right profile mtu slotInterval <-> state.oracle.Right profile mtu slotInterval := by
  constructor
  · intro right
    exact right.oracle
  · intro right
    refine ⟨right, ?_⟩
    intro transport member
    rcases right _ (tracked.dialed transport member) with ⟨built, same, positive⟩
    rw [Option.some.inj same]
    exact positive

theorem Tracked.moved (tracked : Tracked hops mtu slotInterval state)
    (moved : Moved profile sqrt state move next) : Tracked hops mtu slotInterval next := by
  cases moved with
  | stays _ oracle dialed =>
      refine ⟨oracle ▸ tracked.oracle, ?_⟩
      rw [oracle, dialed]
      exact tracked.dialed
  | records _ rtt oracle dialed =>
      refine ⟨oracle ▸ tracked.oracle.recordRtt rtt, ?_⟩
      rw [oracle, dialed]
      exact tracked.dialed
  | observes _ look oracle dialed =>
      refine ⟨oracle ▸ tracked.oracle.observe look, ?_⟩
      rw [oracle, dialed]
      exact tracked.dialed
  | enters _ caller _ oracle dialed =>
      refine ⟨oracle ▸ tracked.oracle.enter caller, ?_⟩
      rw [oracle, dialed, tracked.oracle.outcomes_enter caller]
      exact tracked.dialed
  | finishes caller reading _ _ oracle dialed =>
      refine ⟨oracle ▸ tracked.oracle.finish profile sqrt caller reading, ?_⟩
      intro transport member
      rw [oracle]
      rcases dialed transport member with earlier | own
      · exact List.mem_append_left _ (tracked.dialed transport earlier)
      · exact List.mem_append_right _ (List.mem_singleton.mpr own.symm)

/-- A move that ends no call asks for nothing. -/
theorem prepared_of_quiet (quiet : state.finishing move = none) :
    state.Prepared profile hops mtu slotInterval move := by
  intro reading ends
  rw [quiet] at ends
  cases ends

/-- The calls and circuits go on being right exactly if the move is prepared. -/
theorem Tracked.right_moved_iff (tracked : Tracked hops mtu slotInterval state)
    (moved : Moved profile sqrt state move next) :
    next.Right profile mtu slotInterval <->
      state.Right profile mtu slotInterval ∧ state.Prepared profile hops mtu slotInterval move := by
  rw [(tracked.moved profile sqrt moved).right_iff, tracked.right_iff]
  cases moved with
  | stays quiet oracle _ =>
      rw [oracle]
      exact (and_iff_left (prepared_of_quiet profile quiet)).symm
  | records quiet rtt oracle _ =>
      rw [oracle]
      exact (and_iff_left (prepared_of_quiet profile quiet)).symm
  | observes quiet look oracle _ =>
      rw [oracle]
      exact (and_iff_left (prepared_of_quiet profile quiet)).symm
  | enters quiet caller _ oracle _ =>
      rw [oracle, Shared.Right, tracked.oracle.outcomes_enter caller]
      exact (and_iff_left (prepared_of_quiet profile quiet)).symm
  | finishes caller reading ends called oracle _ =>
      have prepared : state.Prepared profile hops mtu slotInterval move <->
          Seeded profile hops mtu slotInterval reading.sampled := by
        constructor
        · intro all
          exact all reading ends
        · intro seeded other same
          rw [ends] at same
          exact Option.some.inj same ▸ seeded
      rw [oracle, tracked.oracle.right_finish_iff profile sqrt called, prepared]

/-- In any run of a pool with a measured oracle, whoever else uses the oracle,
every transport and every circuit starts from a positive round-trip time exactly
if no call of `transport` read the estimator before it could give a delay. -/
theorem dials_positive_iff (profile : Profile) (sqrt : Nat -> Rat) (cfg : PoolConfig)
    (hops mtu : Nat) (slotInterval : Duration) (schedule : List Move) (final : Dialing)
    (ran : run (step profile sqrt) (startMeasured cfg hops mtu slotInterval) schedule =
      some final) :
    final.Right profile mtu slotInterval <->
      Meets (step profile sqrt) (Prepared profile hops mtu slotInterval)
        (startMeasured cfg hops mtu slotInterval) schedule := by
  have begins : (startMeasured cfg hops mtu slotInterval).Right profile mtu slotInterval :=
    ⟨nofun, nofun⟩
  have rule := iff_meets_of_run (Prepared profile hops mtu slotInterval)
    (Tracked hops mtu slotInterval) (Right profile mtu slotInterval)
    (fun state move next tracked moves =>
      tracked.moved profile sqrt (moved_of_step profile sqrt moves))
    (fun state move next tracked moves =>
      tracked.right_moved_iff profile sqrt (moved_of_step profile sqrt moves))
    (tracked_startMeasured cfg hops mtu slotInterval) ran
  rw [rule]
  exact and_iff_right begins

/-- A square root that is exact at square numbers. -/
def root (number : Nat) : Rat := (Nat.sqrt number : Rat)

def noLook : Observation Unit := ⟨(), 0, 0, 0⟩

/-- The pool counts its circuits, asks for a transport and dials. -/
def firstCircuit : List Move :=
  [.pool .countReady noLook, .enter .maintainer, .finish .maintainer, .pool (.build true) noLook]

/-- Two hops, and a round-trip time of sixty milliseconds before the first circuit. -/
theorem dials_positive_after_probe :
    exists final, run (step .release root) (startMeasured .default 2 1200 1000000)
        (.recordRtt 60000000 :: firstCircuit) = some final ∧ final.Right .release 1200 1000000 := by
  have possible : (run (step .release root) (startMeasured .default 2 1200 1000000)
      (.recordRtt 60000000 :: firstCircuit)).isSome = true := by
    decide +kernel
  rcases Option.isSome_iff_exists.mp possible with ⟨final, ran⟩
  refine ⟨final, ran, ?_⟩
  apply (dials_positive_iff .release root .default 2 1200 1000000 _ final ran).mpr
  decide +kernel

/-- The first circuit of a pool that nothing was measured for is dialed with a
round-trip time of zero, and the window of two cells. -/
theorem prewarmed_circuit_starts_from_zero :
    exists final, run (step .release root) (startMeasured .default 2 1200 1000000) firstCircuit =
        some final ∧
      (exists transport, transport ∈ final.dialed ∧ transport.config.initialRtt = 0 ∧
        transport.window = 2400) ∧ ¬ final.Right .release 1200 1000000 := by
  have dialed : (run (step .release root) (startMeasured .default 2 1200 1000000) firstCircuit).map
      (fun final => final.dialed.map
        (fun transport => (transport.config.initialRtt, transport.window))) =
      some [(0, 2400)] := by
    decide +kernel
  rcases Option.map_eq_some_iff.mp dialed with ⟨final, ran, all⟩
  have first : (0, 2400) ∈ final.dialed.map
      (fun transport => (transport.config.initialRtt, transport.window)) :=
    all ▸ List.mem_cons_self
  rcases List.mem_map.mp first with ⟨transport, member, shape⟩
  have zero : transport.config.initialRtt = 0 := congrArg Prod.fst shape
  refine ⟨final, ran, ⟨transport, member, zero, congrArg Prod.snd shape⟩, ?_⟩
  intro right
  exact Nat.ne_of_gt (right.dialed transport member).initialRtt zero

/-! ## Measuring first -/

/-- When a call reads the estimator, something has been recorded, and all of it
is a nanosecond a hop and way at least and a `u64` of nanoseconds at most. -/
def Measured (hops : Nat) (state : Dialing) (move : Move) : Prop :=
  forall caller, move = .enter caller -> state.oracle.recorded ≠ [] ∧
    forall rtt, rtt ∈ state.oracle.recorded -> 2 * max hops 1 <= rtt ∧ rtt < u64Modulus

/-- The calls under way have read enough. -/
structure Supplied (profile : Profile) (hops mtu : Nat) (slotInterval : Duration)
    (state : Dialing) : Prop where
  tracked : Tracked hops mtu slotInterval state
  right : state.Right profile mtu slotInterval
  seeded : forall caller reading, state.oracle.calls caller = some reading ->
    Seeded profile hops mtu slotInterval reading.sampled

theorem Supplied.seeded_moved (supplied : Supplied profile hops mtu slotInterval state)
    (modest : 2 * max hops 1 < u32Modulus) (narrow : mtu * 2 < u64Modulus)
    (measured : state.Measured hops move) (moved : Moved profile sqrt state move next)
    {caller : Caller} {reading : Reading} (called : next.oracle.calls caller = some reading) :
    Seeded profile hops mtu slotInterval reading.sampled := by
  cases moved with
  | stays _ oracle _ => exact supplied.seeded caller reading (oracle ▸ called)
  | records _ rtt oracle _ =>
      rw [oracle] at called
      exact supplied.seeded caller reading called
  | observes _ look oracle _ =>
      rw [oracle] at called
      exact supplied.seeded caller reading called
  | enters _ entering same oracle _ =>
      rw [oracle] at called
      rcases supplied.tracked.oracle.call_of_enter called with ⟨_, _, sampled⟩ | earlier
      · rcases measured entering same with ⟨some, ranged⟩
        rw [sampled]
        exact seeded_of_recorded some modest narrow ranged
      · exact supplied.seeded caller reading earlier
  | finishes ending taken _ _ oracle _ =>
      rw [oracle] at called
      exact supplied.seeded caller reading (Shared.call_of_finish called)

/-- A pool is right from its first circuit on if a round-trip time was recorded
before anyone asked for a transport. -/
theorem right_of_measured (cfg : PoolConfig) {schedule : List Move} {final : Dialing}
    (modest : 2 * max hops 1 < u32Modulus) (narrow : mtu * 2 < u64Modulus)
    (measured : Meets (step profile sqrt) (Measured hops) (startMeasured cfg hops mtu slotInterval)
      schedule)
    (ran : run (step profile sqrt) (startMeasured cfg hops mtu slotInterval) schedule =
      some final) :
    final.Right profile mtu slotInterval := by
  have begins : Supplied profile hops mtu slotInterval (startMeasured cfg hops mtu slotInterval) :=
    ⟨tracked_startMeasured cfg hops mtu slotInterval, ⟨nofun, nofun⟩, nofun⟩
  have all : Supplied profile hops mtu slotInterval final := by
    apply invariant_of_meets (Measured hops) (Supplied profile hops mtu slotInterval) ?_ begins
      measured ran
    intro state move next recorded supplied moves
    have moved := moved_of_step profile sqrt moves
    have prepared : state.Prepared profile hops mtu slotInterval move := by
      intro reading ends
      cases move with
      | finish caller => exact supplied.seeded caller reading ends
      | _ => cases ends
    refine ⟨supplied.tracked.moved profile sqrt moved, ?_, ?_⟩
    · exact (supplied.tracked.right_moved_iff profile sqrt moved).mpr ⟨supplied.right, prepared⟩
    · intro caller reading called
      exact supplied.seeded_moved profile sqrt modest narrow recorded moved called
  exact all.right

end Dialing
end Pool
end QuicMix
