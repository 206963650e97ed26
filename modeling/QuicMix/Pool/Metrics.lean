import QuicMix.Pool.Drain

namespace QuicMix
namespace Pool

open Foundations

/-!
# What a scrape of the pool reports

`metrics` reads the pool for the exposition text.  The circuit counters are
atomics that live as long as the pool; the counters of the QUIC path are summed
anew over the circuits that are listed and live while the scrape holds the
mutex.  A scrape is not one move: it visits the slots one at a time, and
connections make progress and die between two visits; the percentiles and the
three atomics are read after the mutex has been given back, one after another.

The columns of the exposition are those of `render_prometheus`, with the kind
that it declares for each.
-/

/-! ## Snapshots -/

/-- The counters of a connection's path, and their sum over circuits. -/
structure QuicStats where
  sentPackets : Nat
  lostPackets : Nat
  lostBytes : Nat
  congestionEvents : Nat
  deriving DecidableEq, Repr

namespace QuicStats

def zero : QuicStats := ⟨0, 0, 0, 0⟩

/-- Fold the path counters of one live connection into the sum.  The source adds
in 64 bits, which no number of packets that can be sent overflows. -/
def observe (stats path : QuicStats) : QuicStats where
  sentPackets := stats.sentPackets + path.sentPackets
  lostPackets := stats.lostPackets + path.lostPackets
  lostBytes := stats.lostBytes + path.lostBytes
  congestionEvents := stats.congestionEvents + path.congestionEvents

end QuicStats

/-- The measured percentiles of the round-trip time. -/
structure Percentiles where
  p50 : Duration
  p90 : Duration
  p99 : Duration
  deriving DecidableEq, Repr

/-- A point-in-time view of every exported metric. -/
structure Snapshot where
  substrateSentTotal : Nat
  substrateRecvTotal : Nat
  substrateSendErrorsTotal : Nat
  substrateDroppedTotal : Nat
  substrateQueueDepth : Nat
  substrateEnqueueLatencyUs : Nat
  quic : QuicStats
  oracleRtt : Percentiles
  circuitsBuiltTotal : Nat
  circuitsRetiredTotal : Nat
  circuitsBuildErrorsTotal : Nat
  circuitsReady : Nat
  deriving DecidableEq, Repr

namespace Snapshot

def default : Snapshot where
  substrateSentTotal := 0
  substrateRecvTotal := 0
  substrateSendErrorsTotal := 0
  substrateDroppedTotal := 0
  substrateQueueDepth := 0
  substrateEnqueueLatencyUs := 0
  quic := QuicStats.zero
  oracleRtt := ⟨0, 0, 0⟩
  circuitsBuiltTotal := 0
  circuitsRetiredTotal := 0
  circuitsBuildErrorsTotal := 0
  circuitsReady := 0

def withQuic (snapshot : Snapshot) (quic : QuicStats) : Snapshot :=
  { snapshot with quic := quic }

def withOracleRtt (snapshot : Snapshot) (rtt : Percentiles) : Snapshot :=
  { snapshot with oracleRtt := rtt }

def withCircuits (snapshot : Snapshot) (built retired buildErrors ready : Nat) : Snapshot :=
  { snapshot with
    circuitsBuiltTotal := built
    circuitsRetiredTotal := retired
    circuitsBuildErrorsTotal := buildErrors
    circuitsReady := ready }

end Snapshot

/-! ## The exposition -/

inductive Kind where
  | counter
  | gauge
  deriving DecidableEq, Repr

/-- A value of the exposition: a whole number, a duration that is printed in
seconds, or the ratio of two numbers, which is zero if the second is. -/
inductive Value where
  | whole (count : Nat)
  | seconds (duration : Duration)
  | ratio (part whole : Nat)
  deriving DecidableEq, Repr

structure Column where
  kind : Kind
  name : String
  help : String
  value : Snapshot -> Value

/-- The metrics of `render_prometheus`, in its order. -/
def columns : List Column :=
  [⟨.counter, "substrate_sent_total", "datagrams handed to the inner substrate",
      fun snapshot => .whole snapshot.substrateSentTotal⟩,
    ⟨.counter, "substrate_recv_total", "datagrams received from the inner substrate",
      fun snapshot => .whole snapshot.substrateRecvTotal⟩,
    ⟨.counter, "substrate_send_errors_total",
      "inner-substrate send failures (typed SubstrateError)",
      fun snapshot => .whole snapshot.substrateSendErrorsTotal⟩,
    ⟨.counter, "substrate_dropped_total",
      "datagrams dropped by the lossy send path under backpressure",
      fun snapshot => .whole snapshot.substrateDroppedTotal⟩,
    ⟨.counter, "quic_sent_packets_total", "QUIC packets sent across live circuits",
      fun snapshot => .whole snapshot.quic.sentPackets⟩,
    ⟨.counter, "quic_lost_packets_total",
      "QUIC packets declared lost (the retransmission trigger)",
      fun snapshot => .whole snapshot.quic.lostPackets⟩,
    ⟨.counter, "quic_lost_bytes_total", "QUIC bytes in lost packets (the volume retransmitted)",
      fun snapshot => .whole snapshot.quic.lostBytes⟩,
    ⟨.counter, "quic_congestion_events_total", "QUIC congestion events across live circuits",
      fun snapshot => .whole snapshot.quic.congestionEvents⟩,
    ⟨.counter, "circuits_built_total", "circuits ever built (pre-warm + refill + rotation)",
      fun snapshot => .whole snapshot.circuitsBuiltTotal⟩,
    ⟨.counter, "circuits_retired_total", "circuits retired into draining for rotation/age/use",
      fun snapshot => .whole snapshot.circuitsRetiredTotal⟩,
    ⟨.counter, "circuits_build_errors_total", "failed circuit builds during refill",
      fun snapshot => .whole snapshot.circuitsBuildErrorsTotal⟩,
    ⟨.gauge, "substrate_queue_depth", "current paced send-queue depth",
      fun snapshot => .whole snapshot.substrateQueueDepth⟩,
    ⟨.gauge, "substrate_enqueue_latency_us",
      "age (microseconds) of the most-recently-sent queued datagram",
      fun snapshot => .whole snapshot.substrateEnqueueLatencyUs⟩,
    ⟨.gauge, "circuits_ready", "warm, non-draining circuits ready to serve",
      fun snapshot => .whole snapshot.circuitsReady⟩,
    ⟨.gauge, "oracle_rtt_p50_seconds", "measured RTT median",
      fun snapshot => .seconds snapshot.oracleRtt.p50⟩,
    ⟨.gauge, "oracle_rtt_p90_seconds", "measured RTT 90th percentile",
      fun snapshot => .seconds snapshot.oracleRtt.p90⟩,
    ⟨.gauge, "oracle_rtt_p99_seconds", "measured RTT 99th percentile",
      fun snapshot => .seconds snapshot.oracleRtt.p99⟩,
    ⟨.gauge, "quic_loss_ratio", "lost/sent packets across live circuits",
      fun snapshot => .ratio snapshot.quic.lostPackets snapshot.quic.sentPackets⟩]

/-- The exposition text, with the printing of values left open. -/
def renderPrometheus (print : Value -> String) (snapshot : Snapshot) : String :=
  columns.foldl (fun out column =>
    out ++ "# HELP " ++ column.name ++ " " ++ column.help ++ "\n"
      ++ "# TYPE " ++ column.name ++ " "
      ++ (match column.kind with | .counter => "counter" | .gauge => "gauge") ++ "\n"
      ++ column.name ++ " " ++ print (column.value snapshot) ++ "\n") ""

/-- No metric that is declared a counter is smaller in the second snapshot. -/
def CountersGrow (first second : Snapshot) : Prop :=
  forall column, column ∈ columns -> column.kind = .counter ->
    exists before after, column.value first = .whole before ∧
      column.value second = .whole after ∧ before <= after

/-! ## The pool with its connections' counters and a scraper -/

/-- Where a scrape stands.  While it walks it holds the mutex; each of the
other phases waits to read one thing. -/
inductive Scrape where
  | walk (index : Nat) (quic : QuicStats) (ready : Nat)
  | percentiles (quic : QuicStats) (ready : Nat)
  | built (quic : QuicStats) (ready : Nat) (rtt : Percentiles)
  | retired (quic : QuicStats) (ready : Nat) (rtt : Percentiles) (built : Nat)
  | buildErrors (quic : QuicStats) (ready : Nat) (rtt : Percentiles) (built retired : Nat)
  deriving DecidableEq, Repr

/-- The pool, the path counters of each connection, the scrape in progress and
the snapshots returned so far. -/
structure Metered where
  pool : WarmPool
  paths : CircuitId -> QuicStats
  scrape : Option Scrape
  scrapes : List Snapshot

inductive Metering where
  | pool (action : Action)
  | progress (circuit : CircuitId) (path : QuicStats)
  | begin
  | visit
  | readPercentiles (rtt : Percentiles)
  | load
  deriving DecidableEq, Repr

/-- The moves of the pool that take the mutex or are made with it. -/
def Action.takesMutex : Action -> Bool
  | .pick => true
  | .wake => true
  | .maintain => true
  | .countReady => true
  | .push => true
  | _ => false

/-- The move can take a circuit out of the sums. -/
def Metering.removes : Metering -> Bool
  | .pool (.close _) => true
  | .pool .maintain => true
  | _ => false

namespace QuicStats

/-- The counters of a path do not go back. -/
def grows (before after : QuicStats) : Bool :=
  decide (before.sentPackets <= after.sentPackets) &&
    decide (before.lostPackets <= after.lostPackets) &&
    decide (before.lostBytes <= after.lostBytes) &&
    decide (before.congestionEvents <= after.congestionEvents)

end QuicStats

namespace Metered

def spawn (cfg : PoolConfig) (measured : Bool) : Metered where
  pool := WarmPool.spawn cfg measured
  paths := fun _ => QuicStats.zero
  scrape := none
  scrapes := []

def walking (metered : Metered) : Bool :=
  match metered.scrape with
  | some (.walk _ _ _) => true
  | _ => false

/-- One visit of a scrape to a slot, or the end of its walk. -/
def visit (metered : Metered) : Option Metered :=
  match metered.scrape with
  | some (.walk index quic ready) =>
      match metered.pool.slots[index]? with
      | none => some { metered with scrape := some (.percentiles quic ready) }
      | some slot =>
          if metered.pool.closed slot.circuit then
            some { metered with scrape := some (.walk (index + 1) quic ready) }
          else
            some { metered with
              scrape := some (.walk (index + 1) (quic.observe (metered.paths slot.circuit))
                (if slot.draining.isNone then ready + 1 else ready)) }
  | _ => none

/-- The loads of the three atomics, the last of which completes the scrape. -/
def load (metered : Metered) : Option Metered :=
  match metered.scrape with
  | some (.built quic ready rtt) =>
      some { metered with scrape := some (.retired quic ready rtt metered.pool.built) }
  | some (.retired quic ready rtt built) =>
      some { metered with
        scrape := some (.buildErrors quic ready rtt built metered.pool.retired) }
  | some (.buildErrors quic ready rtt built retired) =>
      some { metered with
        scrape := none
        scrapes := metered.scrapes ++
          [((Snapshot.default.withQuic quic).withOracleRtt rtt).withCircuits
            built retired metered.pool.buildErrors ready] }
  | _ => none

def step (metered : Metered) : Metering -> Option Metered
  | .pool action =>
      if metered.walking && action.takesMutex then none
      else (metered.pool.step action).map (fun pool => { metered with pool := pool })
  | .progress circuit path =>
      if circuit < metered.pool.nextCircuit ∧ (metered.paths circuit).grows path = true then
        some { metered with paths := Function.update metered.paths circuit path }
      else none
  | .begin =>
      match metered.scrape with
      | none =>
          if metered.pool.locked then none
          else some { metered with scrape := some (.walk 0 QuicStats.zero 0) }
      | some _ => none
  | .visit => metered.visit
  | .readPercentiles rtt =>
      match metered.scrape with
      | some (.percentiles quic ready) =>
          some { metered with
            scrape := some (.built quic ready
              (if metered.pool.measured then rtt else ⟨0, 0, 0⟩)) }
      | _ => none
  | .load => metered.load

end Metered

/-! ## Sums over circuits -/

/-- One of the four path counters. -/
inductive PathCounter where
  | sentPackets
  | lostPackets
  | lostBytes
  | congestionEvents
  deriving DecidableEq, Repr

namespace PathCounter

def of : PathCounter -> QuicStats -> Nat
  | .sentPackets => QuicStats.sentPackets
  | .lostPackets => QuicStats.lostPackets
  | .lostBytes => QuicStats.lostBytes
  | .congestionEvents => QuicStats.congestionEvents

theorem of_zero (counter : PathCounter) : counter.of QuicStats.zero = 0 := by
  cases counter <;> rfl

theorem of_observe (counter : PathCounter) (stats path : QuicStats) :
    counter.of (stats.observe path) = counter.of stats + counter.of path := by
  cases counter <;> rfl

theorem of_grows {before after : QuicStats} (grown : before.grows after = true)
    (counter : PathCounter) : counter.of before <= counter.of after := by
  simp only [QuicStats.grows, Bool.and_eq_true, decide_eq_true_eq] at grown
  rcases grown with ⟨⟨⟨sent, lost⟩, bytes⟩, events⟩
  cases counter with
  | sentPackets => exact sent
  | lostPackets => exact lost
  | lostBytes => exact bytes
  | congestionEvents => exact events

end PathCounter

/-- What a circuit contributes to a sum: nothing once its connection is closed. -/
def weight (closed : CircuitId -> Bool) (paths : CircuitId -> QuicStats)
    (counter : PathCounter) (circuit : CircuitId) : Nat :=
  if closed circuit then 0 else counter.of (paths circuit)

def total (weigh : CircuitId -> Nat) : List CircuitId -> Nat
  | [] => 0
  | circuit :: rest => weigh circuit + total weigh rest

theorem total_append (weigh : CircuitId -> Nat) (first second : List CircuitId) :
    total weigh (first ++ second) = total weigh first + total weigh second := by
  induction first with
  | nil => exact (Nat.zero_add _).symm
  | cons circuit rest inductionHypothesis =>
      rw [List.cons_append, total, total, inductionHypothesis, Nat.add_assoc]

theorem total_le_total {before after : CircuitId -> Nat} {circuits : List CircuitId}
    (heavier : forall circuit, circuit ∈ circuits -> before circuit <= after circuit) :
    total before circuits <= total after circuits := by
  induction circuits with
  | nil => exact Nat.le_refl _
  | cons circuit rest inductionHypothesis =>
      apply Nat.add_le_add (heavier circuit List.mem_cons_self)
      exact inductionHypothesis (fun other member =>
        heavier other (List.mem_cons_of_mem circuit member))

/-- Closed circuits can be left out. -/
theorem total_filter (closed : CircuitId -> Bool) (paths : CircuitId -> QuicStats)
    (counter : PathCounter) (circuits : List CircuitId) :
    total (weight closed paths counter) (circuits.filter (fun circuit => !closed circuit)) =
      total (weight closed paths counter) circuits := by
  induction circuits with
  | nil => rfl
  | cons circuit rest inductionHypothesis =>
      cases dead : closed circuit with
      | true =>
          rw [List.filter_cons_of_neg (by simp only [dead, Bool.not_true, Bool.false_eq_true,
            not_false_eq_true]), inductionHypothesis, total, weight, if_pos dead, Nat.zero_add]
      | false =>
          rw [List.filter_cons_of_pos (by simp only [dead, Bool.not_false]), total, total,
            inductionHypothesis]

/-! ## What one move does to a sum -/

namespace WarmPool

/-- The move takes no circuit out of the sums that has anything in its path
counters: a circuit of the pool that dies, or is reaped while its connection is
live, has sent nothing. -/
def Keeps (paths : CircuitId -> QuicStats) (pool : WarmPool) : Action -> Prop
  | .close circuit =>
      circuit ∈ pool.circuits -> pool.closed circuit = false -> paths circuit = QuicStats.zero
  | .maintain =>
      forall now index slot, pool.phase = .reap now index -> pool.slots[index]? = some slot ->
        pool.closed slot.circuit = false -> slot.drained pool.active now = true ->
        paths slot.circuit = QuicStats.zero
  | _ => True

theorem circuits_purge (pool : WarmPool) :
    pool.purge.circuits = pool.circuits.filter (fun circuit => !pool.closed circuit) := by
  rw [circuits, circuits, List.filter_map]
  rfl

variable {paths : CircuitId -> QuicStats} {pool next : WarmPool} {action : Action}

/-- A circuit of the pool weighs no less after the move. -/
theorem Moved.weight_le (moved : Moved pool action next) (names : Identified pool)
    (keeps : pool.Keeps paths action) (counter : PathCounter) {circuit : CircuitId}
    (member : circuit ∈ pool.circuits) :
    weight pool.closed paths counter circuit <= weight next.closed paths counter circuit := by
  cases moved with
  | closed dead exist =>
      by_cases same : circuit = dead
      · subst same
        cases before : pool.closed circuit with
        | true =>
            rw [weight, if_pos before]
            exact Nat.zero_le _
        | false =>
            rw [weight, keeps member before, PathCounter.of_zero, ite_self]
            exact Nat.zero_le _
      · simp only [weight, Function.update_of_ne same, Nat.le_refl]
  | built left phase =>
      have known : circuit ≠ pool.nextCircuit := Nat.ne_of_lt (names.named circuit member)
      simp only [weight, buildOne, Function.update_of_ne known, Nat.le_refl]
  | _ => exact Nat.le_refl _

/-- The moves that do not take the mutex leave the circuits of the pool. -/
theorem Moved.circuits_of_free (moved : Moved pool action next)
    (free : action.takesMutex = false) : next.circuits = pool.circuits := by
  cases moved with
  | released lease held => rfl
  | closed circuit exist => rfl
  | elapsed duration => rfl
  | built left phase => rfl
  | failed left phase => rfl
  | _ => cases free

/-- A sum over the pool is no less after the move. -/
theorem Moved.total_le (moved : Moved pool action next) (names : Identified pool)
    (keeps : pool.Keeps paths action) (counter : PathCounter) :
    total (weight pool.closed paths counter) pool.circuits <=
      total (weight next.closed paths counter) next.circuits := by
  have heavier : total (weight pool.closed paths counter) pool.circuits <=
      total (weight next.closed paths counter) pool.circuits :=
    total_le_total (fun circuit member => moved.weight_le names keeps counter member)
  cases moved with
  | purged unlocked busy =>
      rw [circuits_purge]
      exact Nat.le_of_eq (total_filter pool.closed paths counter pool.circuits).symm
  | leased index slot unlocked located fresh =>
      rw [circuits_grant located, circuits_purge]
      exact Nat.le_of_eq (total_filter pool.closed paths counter pool.circuits).symm
  | marked now index slot phase located fresh due =>
      exact Nat.le_of_eq (congrArg _ (circuits_mark located).symm)
  | sampled now index slot phase located due =>
      exact Nat.le_of_eq (congrArg _ (circuits_observe located).symm)
  | reaped now index slot phase located doomed =>
      rcases split_at located with ⟨before, after, split, _, erased⟩
      have nothing : weight pool.closed paths counter slot.circuit = 0 := by
        unfold weight
        cases live : pool.closed slot.circuit with
        | true => rfl
        | false =>
            rw [live, Bool.false_or] at doomed
            rw [keeps now index slot phase located live doomed, PathCounter.of_zero]
            rfl
      have left : pool.circuits =
          before.map Slot.circuit ++ slot.circuit :: after.map Slot.circuit := by
        rw [circuits, split, List.map_append, List.map_cons]
      have right : (pool.reap now index slot).circuits =
          before.map Slot.circuit ++ after.map Slot.circuit := by
        rw [circuits, WarmPool.reap, erased, List.map_append]
      rw [left, right, total_append, total_append, total, nothing, Nat.zero_add]
      exact Nat.le_refl _
  | pushed slot left phase =>
      simp only [circuits, pushSlot, List.map_append, total_append]
      exact Nat.le_add_right _ _
  | _ => exact heavier

end WarmPool

/-- The lifetime counters of the pool. -/
inductive PoolCounter where
  | built
  | retired
  | buildErrors
  deriving DecidableEq, Repr

namespace PoolCounter

def of : PoolCounter -> WarmPool -> Nat
  | .built => WarmPool.built
  | .retired => WarmPool.retired
  | .buildErrors => WarmPool.buildErrors

def reported : PoolCounter -> Snapshot -> Nat
  | .built => Snapshot.circuitsBuiltTotal
  | .retired => Snapshot.circuitsRetiredTotal
  | .buildErrors => Snapshot.circuitsBuildErrorsTotal

/-- The lifetime counters do not go back. -/
theorem of_moved (counter : PoolCounter) {pool next : WarmPool} {action : Action}
    (moved : WarmPool.Moved pool action next) : counter.of pool <= counter.of next := by
  cases moved with
  | marked now index slot phase located fresh due =>
      cases counter with
      | retired => exact Nat.le_succ _
      | _ => exact Nat.le_refl _
  | built left phase =>
      cases counter with
      | built => exact Nat.le_succ _
      | _ => exact Nat.le_refl _
  | failed left phase =>
      cases counter with
      | buildErrors => exact Nat.le_succ _
      | _ => exact Nat.le_refl _
  | _ => cases counter <;> exact Nat.le_refl _

end PoolCounter

/-! ## What a scrape in progress will report -/

namespace Scrape

def quic : Scrape -> QuicStats
  | .walk _ quic _ => quic
  | .percentiles quic _ => quic
  | .built quic _ _ => quic
  | .retired quic _ _ _ => quic
  | .buildErrors quic _ _ _ _ => quic

/-- No lifetime counter has been read yet. -/
def early : Scrape -> Bool
  | .retired _ _ _ _ => false
  | .buildErrors _ _ _ _ _ => false
  | _ => true

end Scrape

namespace Metered

variable (metered : Metered)

/-- The circuits that the scrape in progress has visited. -/
def visited : List CircuitId :=
  match metered.scrape with
  | some (.walk index _ _) => metered.pool.circuits.take index
  | _ => metered.pool.circuits

/-- The circuits that it is still to visit, or that the next one will. -/
def pending : List CircuitId :=
  match metered.scrape with
  | none => metered.pool.circuits
  | some (.walk index _ _) => metered.pool.circuits.drop index
  | some _ => []

def weigh (counter : PathCounter) : CircuitId -> Nat :=
  weight metered.pool.closed metered.paths counter

/-- What the scrape in progress has summed up so far. -/
def gathered (counter : PathCounter) : Nat :=
  match metered.scrape with
  | none => 0
  | some scrape => counter.of scrape.quic

/-- What the scrape in progress, or the next one, reports if nothing changes. -/
def expected (counter : PathCounter) : Nat :=
  metered.gathered counter + total (metered.weigh counter) metered.pending

/-- The reading of a lifetime counter that the scrape in progress will report,
if it has been made, and the counter itself before. -/
def loaded (counter : PoolCounter) : Nat :=
  match counter, metered.scrape with
  | .built, some (.retired _ _ _ built) => built
  | .built, some (.buildErrors _ _ _ built _) => built
  | .retired, some (.buildErrors _ _ _ _ retired) => retired
  | counter, _ => counter.of metered.pool

/-- The move takes no circuit out of the sums that has anything in its path
counters. -/
def Keeps (metered : Metered) : Metering -> Prop
  | .pool action => metered.pool.Keeps metered.paths action
  | _ => True

end Metered

/-- One snapshot reports no less than another in any counter of the pool. -/
structure Snapshot.Grown (first second : Snapshot) : Prop where
  path : forall counter : PathCounter, counter.of first.quic <= counter.of second.quic
  pool : forall counter : PoolCounter, counter.reported first <= counter.reported second

/-- The snapshots returned so far are ordered, and what the scrape in progress
has read lies between them and the present. -/
structure Metered.Ordered (metered : Metered) : Prop where
  names : WarmPool.Identified metered.pool
  present : forall counter,
    metered.gathered counter <= total (metered.weigh counter) metered.visited
  read : forall counter, metered.loaded counter <= counter.of metered.pool
  path : forall snapshot, snapshot ∈ metered.scrapes ->
    forall counter : PathCounter, counter.of snapshot.quic <= metered.expected counter
  pool : forall snapshot, snapshot ∈ metered.scrapes ->
    forall counter, counter.reported snapshot <= metered.loaded counter
  sorted : metered.scrapes.Pairwise Snapshot.Grown
  bare : forall snapshot, snapshot ∈ metered.scrapes ->
    snapshot.substrateSentTotal = 0 ∧ snapshot.substrateRecvTotal = 0 ∧
      snapshot.substrateSendErrorsTotal = 0 ∧ snapshot.substrateDroppedTotal = 0

namespace Metered

theorem ordered_spawn (cfg : PoolConfig) (measured : Bool) : Ordered (spawn cfg measured) where
  names := WarmPool.identified_spawn cfg measured
  present := fun _ => Nat.zero_le _
  read := by
    intro counter
    cases counter <;> exact Nat.le_refl _
  path := by
    intro snapshot member
    exact absurd member List.not_mem_nil
  pool := by
    intro snapshot member
    exact absurd member List.not_mem_nil
  sorted := List.Pairwise.nil
  bare := by
    intro snapshot member
    exact absurd member List.not_mem_nil

/-- A step that returns no snapshot keeps the order if the readings do not go
back and stay behind the present. -/
theorem Ordered.advance {metered next : Metered} (sound : Ordered metered)
    (same : next.scrapes = metered.scrapes) (names : WarmPool.Identified next.pool)
    (present : forall counter, next.gathered counter <= total (next.weigh counter) next.visited)
    (read : forall counter, next.loaded counter <= counter.of next.pool)
    (expected : forall counter, metered.expected counter <= next.expected counter)
    (loaded : forall counter, metered.loaded counter <= next.loaded counter) : Ordered next where
  names := names
  present := present
  read := read
  path := by
    intro snapshot member counter
    rw [same] at member
    exact Nat.le_trans (sound.path snapshot member counter) (expected counter)
  pool := by
    intro snapshot member counter
    rw [same] at member
    exact Nat.le_trans (sound.pool snapshot member counter) (loaded counter)
  sorted := same ▸ sound.sorted
  bare := by
    intro snapshot member
    rw [same] at member
    exact sound.bare snapshot member

theorem visited_subset (metered : Metered) {circuit : CircuitId}
    (member : circuit ∈ metered.visited) : circuit ∈ metered.pool.circuits := by
  unfold visited at member
  split at member
  · exact List.mem_of_mem_take member
  · exact member

theorem pending_subset (metered : Metered) {circuit : CircuitId}
    (member : circuit ∈ metered.pending) : circuit ∈ metered.pool.circuits := by
  unfold pending at member
  split at member
  · exact member
  · exact List.mem_of_mem_drop member
  · exact absurd member List.not_mem_nil

theorem gathered_of_scrape {metered next : Metered} (scrape : next.scrape = metered.scrape)
    (counter : PathCounter) : next.gathered counter = metered.gathered counter := by
  unfold gathered
  rw [scrape]

theorem visited_of_idle {metered : Metered} (idle : metered.walking = false) :
    metered.visited = metered.pool.circuits := by
  unfold walking at idle
  unfold visited
  split at idle
  · cases idle
  · rfl

theorem pending_of_idle {metered : Metered} {scrape : Scrape}
    (stands : metered.scrape = some scrape) (idle : metered.walking = false) :
    metered.pending = [] := by
  unfold walking at idle
  unfold pending
  rw [stands] at idle ⊢
  cases scrape with
  | walk index quic ready => cases idle
  | _ => rfl

/-- The readings of the lifetime counters follow the counters. -/
theorem loaded_le {metered next : Metered} (scrape : next.scrape = metered.scrape)
    (grown : forall counter : PoolCounter, counter.of metered.pool <= counter.of next.pool)
    (read : forall counter, metered.loaded counter <= counter.of metered.pool)
    (counter : PoolCounter) :
    metered.loaded counter <= next.loaded counter ∧
      next.loaded counter <= counter.of next.pool := by
  have before := read counter
  have forward := grown counter
  revert before
  unfold loaded
  rw [scrape]
  split
  · exact fun before => ⟨Nat.le_refl _, Nat.le_trans before forward⟩
  · exact fun before => ⟨Nat.le_refl _, Nat.le_trans before forward⟩
  · exact fun before => ⟨Nat.le_refl _, Nat.le_trans before forward⟩
  · exact fun _ => ⟨forward, Nat.le_refl _⟩

/-- A step that leaves the circuits and the scrape alone and lowers no weight
keeps the order. -/
theorem Ordered.heavier {metered next : Metered} (sound : Ordered metered)
    (names : WarmPool.Identified next.pool)
    (circuits : next.pool.circuits = metered.pool.circuits)
    (scrape : next.scrape = metered.scrape) (same : next.scrapes = metered.scrapes)
    (weights : forall counter circuit, circuit ∈ metered.pool.circuits ->
      metered.weigh counter circuit <= next.weigh counter circuit)
    (grown : forall counter : PoolCounter, counter.of metered.pool <= counter.of next.pool) :
    Ordered next := by
  have gathered := gathered_of_scrape scrape
  have visited : next.visited = metered.visited := by
    unfold Metered.visited
    rw [scrape, circuits]
  have pending : next.pending = metered.pending := by
    unfold Metered.pending
    rw [scrape, circuits]
  apply sound.advance same names
  · intro counter
    rw [gathered, visited]
    refine Nat.le_trans (sound.present counter) (total_le_total ?_)
    intro circuit member
    exact weights counter circuit (metered.visited_subset member)
  · intro counter
    exact (loaded_le scrape grown sound.read counter).2
  · intro counter
    rw [expected, expected, gathered, pending]
    refine Nat.add_le_add_left (total_le_total ?_) _
    intro circuit member
    exact weights counter circuit (metered.pending_subset member)
  · intro counter
    exact (loaded_le scrape grown sound.read counter).1

/-- While no scrape walks, the pool may change in any way that lowers no sum. -/
theorem Ordered.unlocked {metered next : Metered} (sound : Ordered metered)
    (names : WarmPool.Identified next.pool) (idle : metered.walking = false)
    (scrape : next.scrape = metered.scrape) (same : next.scrapes = metered.scrapes)
    (totals : forall counter, total (metered.weigh counter) metered.pool.circuits <=
      total (next.weigh counter) next.pool.circuits)
    (grown : forall counter : PoolCounter, counter.of metered.pool <= counter.of next.pool) :
    Ordered next := by
  have gathered := gathered_of_scrape scrape
  have still : next.walking = false := by
    unfold walking at idle ⊢
    rw [scrape]
    exact idle
  apply sound.advance same names
  · intro counter
    have before := sound.present counter
    rw [visited_of_idle idle] at before
    rw [gathered, visited_of_idle still]
    exact Nat.le_trans before (totals counter)
  · intro counter
    exact (loaded_le scrape grown sound.read counter).2
  · intro counter
    rw [expected, expected, gathered]
    apply Nat.add_le_add_left
    unfold walking at idle
    unfold Metered.pending
    rw [scrape]
    split
    · exact totals counter
    · rename_i walk
      rw [walk] at idle
      cases idle
    · exact Nat.le_refl _
  · intro counter
    exact (loaded_le scrape grown sound.read counter).1

theorem Ordered.poolStep {metered : Metered} {pool : WarmPool} {action : Action}
    (sound : Ordered metered) (keeps : metered.pool.Keeps metered.paths action)
    (free : (metered.walking && action.takesMutex) = false)
    (moved : WarmPool.Moved metered.pool action pool) :
    Ordered { metered with pool := pool } := by
  have names := sound.names.moved moved
  have grown := fun counter : PoolCounter => counter.of_moved moved
  cases walks : metered.walking with
  | true =>
      rw [walks, Bool.true_and] at free
      refine sound.heavier names (moved.circuits_of_free free) rfl rfl ?_ grown
      intro counter circuit member
      exact moved.weight_le sound.names keeps counter member
  | false =>
      refine sound.unlocked names walks rfl rfl ?_ grown
      intro counter
      exact moved.total_le sound.names keeps counter

theorem Ordered.progress {metered : Metered} {circuit : CircuitId} {path : QuicStats}
    (sound : Ordered metered) (grown : (metered.paths circuit).grows path = true) :
    Ordered { metered with paths := Function.update metered.paths circuit path } := by
  refine sound.heavier sound.names rfl rfl rfl ?_ (fun _ => Nat.le_refl _)
  intro counter other _
  by_cases same : other = circuit
  · subst same
    simp only [weigh, weight, Function.update_self]
    split
    · exact Nat.le_refl _
    · exact counter.of_grows grown
  · simp only [weigh, weight, Function.update_of_ne same, Nat.le_refl]

/-- A step of the scrape itself that changes neither the pool nor the paths. -/
theorem Ordered.scrapeStep {metered : Metered} {scrape : Option Scrape}
    (sound : Ordered metered)
    (present : forall counter, { metered with scrape := scrape }.gathered counter <=
      total (metered.weigh counter) { metered with scrape := scrape }.visited)
    (expected : forall counter,
      metered.expected counter <= { metered with scrape := scrape }.expected counter)
    (loaded : forall counter,
      metered.loaded counter <= { metered with scrape := scrape }.loaded counter ∧
        { metered with scrape := scrape }.loaded counter <= counter.of metered.pool) :
    Ordered { metered with scrape := scrape } :=
  sound.advance rfl sound.names present (fun counter => (loaded counter).2) expected
    (fun counter => (loaded counter).1)

/-- After the walk the sums stand as they are: only readings are added. -/
theorem Ordered.afterWalk {metered : Metered} {before after : Scrape}
    (sound : Ordered metered) (stands : metered.scrape = some before)
    (ended : metered.walking = false)
    (still : { metered with scrape := some after }.walking = false)
    (same : after.quic = before.quic)
    (loaded : forall counter,
      metered.loaded counter <= { metered with scrape := some after }.loaded counter ∧
        { metered with scrape := some after }.loaded counter <= counter.of metered.pool) :
    Ordered { metered with scrape := some after } := by
  have gathered : forall counter,
      { metered with scrape := some after }.gathered counter = metered.gathered counter := by
    intro counter
    simp only [Metered.gathered, stands, same]
  have visited : { metered with scrape := some after }.visited = metered.visited := by
    rw [visited_of_idle ended, visited_of_idle still]
  apply sound.scrapeStep
  · intro counter
    rw [gathered, visited]
    exact sound.present counter
  · intro counter
    rw [expected, expected, gathered, pending_of_idle stands ended]
    exact Nat.le_add_right _ _
  · exact loaded

/-- As long as no lifetime counter has been read the present one counts. -/
theorem loaded_early {metered : Metered} {scrape : Scrape}
    (stands : metered.scrape = some scrape) (early : scrape.early = true)
    (counter : PoolCounter) : metered.loaded counter = counter.of metered.pool := by
  cases scrape with
  | retired quic ready rtt built => cases early
  | buildErrors quic ready rtt built retired => cases early
  | _ => cases counter <;> simp only [loaded, stands]

theorem loaded_of_early {metered : Metered} {before after : Scrape}
    (stands : metered.scrape = some before) (early : before.early = true)
    (still : after.early = true) (counter : PoolCounter) :
    metered.loaded counter <= { metered with scrape := some after }.loaded counter ∧
      { metered with scrape := some after }.loaded counter <= counter.of metered.pool := by
  have later : { metered with scrape := some after }.loaded counter = counter.of metered.pool :=
    loaded_early rfl still counter
  rw [loaded_early stands early, later]
  exact ⟨Nat.le_refl _, Nat.le_refl _⟩

/-- A visit moves a circuit from what is pending to what is gathered. -/
theorem Ordered.visit {metered next : Metered} (sound : Ordered metered)
    (visited : metered.visit = some next) : Ordered next := by
  unfold Metered.visit at visited
  split at visited
  · rename_i index quic ready walk
    have present := sound.present
    simp only [Metered.gathered, Metered.visited, walk, Scrape.quic] at present
    split at visited
    · rename_i ended
      cases visited
      have bound := List.getElem?_eq_none_iff.mp ended
      have all : metered.pool.circuits.length <= index := by
        rw [WarmPool.circuits, List.length_map]
        exact bound
      apply sound.scrapeStep
      · intro counter
        rw [List.take_of_length_le all] at present
        exact present counter
      · intro counter
        simp only [expected, Metered.gathered, pending, walk, Scrape.quic,
          List.drop_of_length_le all, total, Nat.le_refl]
      · exact loaded_of_early walk rfl rfl
    · rename_i slot located
      have bound := (List.getElem?_eq_some_iff.mp located).1
      have named : metered.pool.circuits[index]? = some slot.circuit := by
        rw [WarmPool.circuits, List.getElem?_map, located]
        rfl
      have taken : metered.pool.circuits.take (index + 1) =
          metered.pool.circuits.take index ++ [slot.circuit] := by
        rw [List.take_add_one, named]
        rfl
      have dropped : metered.pool.circuits.drop index =
          slot.circuit :: metered.pool.circuits.drop (index + 1) :=
        List.drop_eq_getElem?_toList_append.trans (by rw [named]; rfl)
      split at visited
      · rename_i dead
        cases visited
        apply sound.scrapeStep
        · intro counter
          simp only [Metered.gathered, Metered.visited, Scrape.quic, taken, total_append]
          exact Nat.le_trans (present counter) (Nat.le_add_right _ _)
        · intro counter
          simp only [expected, Metered.gathered, pending, walk, Scrape.quic, dropped, total,
            weigh, weight, dead, if_true, Nat.zero_add, Nat.le_refl]
        · exact loaded_of_early walk rfl rfl
      · rename_i live
        cases visited
        apply sound.scrapeStep
        · intro counter
          have before := present counter
          simp only [Metered.gathered, Metered.visited, Scrape.quic, taken, total_append, total,
            PathCounter.of_observe, weigh, weight, live, Bool.false_eq_true, if_false] at before ⊢
          omega
        · intro counter
          simp only [expected, Metered.gathered, pending, walk, Scrape.quic, dropped, total,
            PathCounter.of_observe, weigh, weight, live, Bool.false_eq_true, if_false]
          omega
        · exact loaded_of_early walk rfl rfl
  · cases visited

/-- The end of a scrape: what it was expected to report and what it has read is
what its snapshot reports. -/
theorem Ordered.report {metered : Metered} {scrape : Scrape} {snapshot : Snapshot}
    (sound : Ordered metered) (stands : metered.scrape = some scrape)
    (ended : metered.walking = false) (quic : snapshot.quic = scrape.quic)
    (reported : forall counter : PoolCounter, counter.reported snapshot = metered.loaded counter)
    (bare : snapshot.substrateSentTotal = 0 ∧ snapshot.substrateRecvTotal = 0 ∧
      snapshot.substrateSendErrorsTotal = 0 ∧ snapshot.substrateDroppedTotal = 0) :
    Ordered { metered with scrape := none, scrapes := metered.scrapes ++ [snapshot] } := by
  have gathered : forall counter, metered.gathered counter = counter.of snapshot.quic := by
    intro counter
    simp only [Metered.gathered, stands, quic]
  have summed : forall counter : PathCounter,
      counter.of snapshot.quic <= total (metered.weigh counter) metered.pool.circuits := by
    intro counter
    have before := sound.present counter
    rw [gathered, visited_of_idle ended] at before
    exact before
  have path : forall earlier, earlier ∈ metered.scrapes -> forall counter : PathCounter,
      counter.of earlier.quic <= counter.of snapshot.quic := by
    intro earlier old counter
    have before := sound.path earlier old counter
    rw [expected, gathered, pending_of_idle stands ended] at before
    exact before
  have pool : forall earlier, earlier ∈ metered.scrapes -> forall counter : PoolCounter,
      counter.reported earlier <= counter.reported snapshot := by
    intro earlier old counter
    rw [reported]
    exact sound.pool earlier old counter
  refine ⟨sound.names, fun _ => Nat.zero_le _, ?_, ?_, ?_, ?_, ?_⟩
  · intro counter
    cases counter <;> exact Nat.le_refl _
  · intro earlier member counter
    change counter.of earlier.quic <= 0 + total (metered.weigh counter) metered.pool.circuits
    rw [Nat.zero_add]
    rcases List.mem_append.mp member with old | new
    · exact Nat.le_trans (path earlier old counter) (summed counter)
    · rw [List.mem_singleton.mp new]
      exact summed counter
  · intro earlier member counter
    have latest : counter.reported snapshot <= counter.of metered.pool := by
      rw [reported]
      exact sound.read counter
    have now : ({ metered with
        scrape := none
        scrapes := metered.scrapes ++ [snapshot] } : Metered).loaded counter =
        counter.of metered.pool := by
      cases counter <;> rfl
    rw [now]
    rcases List.mem_append.mp member with old | new
    · exact Nat.le_trans (pool earlier old counter) latest
    · rw [List.mem_singleton.mp new]
      exact latest
  · refine List.pairwise_append.mpr ⟨sound.sorted, List.pairwise_singleton _ _, ?_⟩
    intro earlier old later new
    rw [List.mem_singleton.mp new]
    exact ⟨path earlier old, pool earlier old⟩
  · intro earlier member
    rcases List.mem_append.mp member with old | new
    · exact sound.bare earlier old
    · rw [List.mem_singleton.mp new]
      exact bare

/-- Reading a lifetime counter takes its present value. -/
theorem Ordered.load {metered next : Metered} (sound : Ordered metered)
    (loads : metered.load = some next) : Ordered next := by
  unfold Metered.load at loads
  split at loads
  · rename_i quic ready rtt stands
    cases loads
    refine sound.afterWalk stands (by rw [walking, stands]) rfl rfl ?_
    intro counter
    cases counter <;> simp only [loaded, stands, PoolCounter.of] <;>
      exact ⟨Nat.le_refl _, Nat.le_refl _⟩
  · rename_i quic ready rtt built stands
    cases loads
    refine sound.afterWalk stands (by rw [walking, stands]) rfl rfl ?_
    intro counter
    have before := sound.read counter
    cases counter <;> simp only [loaded, stands, PoolCounter.of] at before ⊢ <;>
      exact ⟨Nat.le_refl _, by omega⟩
  · rename_i quic ready rtt built retired stands
    cases loads
    refine sound.report stands (by rw [walking, stands]) rfl ?_ ⟨rfl, rfl, rfl, rfl⟩
    intro counter
    cases counter <;> simp only [loaded, stands] <;> rfl
  · cases loads

theorem Ordered.step {metered next : Metered} {action : Metering} (sound : Ordered metered)
    (keeps : metered.Keeps action) (stepped : metered.step action = some next) :
    Ordered next := by
  cases action with
  | pool action =>
      simp only [Metered.step] at stepped
      split at stepped
      · cases stepped
      · rename_i free
        rcases Option.map_eq_some_iff.mp stepped with ⟨pool, moved, same⟩
        subst same
        exact sound.poolStep keeps (Bool.eq_false_iff.mpr free) (WarmPool.moved_of_step moved)
  | progress circuit path =>
      simp only [Metered.step] at stepped
      split at stepped
      · rename_i grown
        cases stepped
        exact sound.progress grown.2
      · cases stepped
  | begin =>
      simp only [Metered.step] at stepped
      split at stepped
      · rename_i idle
        split at stepped
        · cases stepped
        · cases stepped
          apply sound.scrapeStep
          · intro counter
            exact Nat.le_of_eq counter.of_zero
          · intro counter
            simp only [expected, gathered, pending, idle, Scrape.quic, PathCounter.of_zero,
              List.drop_zero]
            exact Nat.le_refl _
          · intro counter
            have read := sound.read counter
            cases counter <;> simp only [loaded, idle] at read ⊢ <;>
              exact ⟨Nat.le_refl _, read⟩
      · cases stepped
  | visit => exact sound.visit stepped
  | readPercentiles rtt =>
      simp only [Metered.step] at stepped
      split at stepped
      · rename_i quic ready stands
        cases stepped
        exact sound.afterWalk stands (by rw [walking, stands]) rfl rfl
          (loaded_of_early stands rfl rfl)
      · cases stepped
  | load => exact sound.load stepped

/-! ## Every run -/

theorem countersGrow_of_grown {first second : Snapshot} (grown : Snapshot.Grown first second)
    (bare : first.substrateSentTotal = 0 ∧ first.substrateRecvTotal = 0 ∧
      first.substrateSendErrorsTotal = 0 ∧ first.substrateDroppedTotal = 0) :
    CountersGrow first second := by
  rcases bare with ⟨sent, recv, errors, dropped⟩
  have counted : forall read : Snapshot -> Nat, read first <= read second ->
      exists before after, Value.whole (read first) = .whole before ∧
        Value.whole (read second) = .whole after ∧ before <= after :=
    fun read bound => ⟨read first, read second, rfl, rfl, bound⟩
  unfold CountersGrow columns
  simp only [List.forall_mem_cons, reduceCtorEq, forall_const, false_implies, true_and]
  refine ⟨counted Snapshot.substrateSentTotal ?_, counted Snapshot.substrateRecvTotal ?_,
    counted Snapshot.substrateSendErrorsTotal ?_, counted Snapshot.substrateDroppedTotal ?_,
    counted (fun snapshot => snapshot.quic.sentPackets) (grown.path .sentPackets),
    counted (fun snapshot => snapshot.quic.lostPackets) (grown.path .lostPackets),
    counted (fun snapshot => snapshot.quic.lostBytes) (grown.path .lostBytes),
    counted (fun snapshot => snapshot.quic.congestionEvents) (grown.path .congestionEvents),
    counted Snapshot.circuitsBuiltTotal (grown.pool .built),
    counted Snapshot.circuitsRetiredTotal (grown.pool .retired),
    counted Snapshot.circuitsBuildErrorsTotal (grown.pool .buildErrors), ?_⟩
  · rw [sent]
    exact Nat.zero_le _
  · rw [recv]
    exact Nat.zero_le _
  · rw [errors]
    exact Nat.zero_le _
  · rw [dropped]
    exact Nat.zero_le _
  · intro column member
    exact absurd member List.not_mem_nil

/-- In every run in which no circuit of the pool dies, or is reaped while its
connection is live, with anything in its path counters, no metric that is
declared a counter is smaller in a later scrape than in an earlier one. -/
theorem counters_grow_of_keeps (cfg : PoolConfig) (measured : Bool) (schedule : List Metering)
    (metered : Metered) (ran : run Metered.step (spawn cfg measured) schedule = some metered)
    (met : Meets Metered.step Metered.Keeps (spawn cfg measured) schedule) :
    metered.scrapes.Pairwise CountersGrow := by
  have sound : Ordered metered := invariant_of_meets Metered.Keeps Ordered
    (fun _ _ _ keeps sound stepped => sound.step keeps stepped)
    (ordered_spawn cfg measured) met ran
  refine sound.sorted.imp_of_mem ?_
  intro first second member _ grown
  exact countersGrow_of_grown grown (sound.bare first member)

theorem keeps_of_removes {action : Metering} (harmless : action.removes = false)
    (metered : Metered) : metered.Keeps action := by
  cases action with
  | pool action =>
      cases action with
      | close circuit => cases harmless
      | maintain => cases harmless
      | _ => exact trivial
  | _ => exact trivial

/-- A scrape of a pool with the given number of slots, undisturbed. -/
def scrapeOf (slots : Nat) : List Metering :=
  .begin :: List.replicate (slots + 1) .visit ++
    [.readPercentiles ⟨0, 0, 0⟩, .load, .load, .load]

/-- Build a circuit, let it send, and lease it for one request. -/
def serving : List Metering :=
  [.pool .countReady, .pool (.build true), .pool .push, .progress 0 ⟨10, 1, 1200, 1⟩,
    .pool .pick, .pool (.dropLease 0)]

/-- Retire the circuit, reap it and build the next one. -/
def rotation : List Metering :=
  [.pool (.elapse 40), .pool .wake, .pool .maintain, .pool .maintain, .pool .maintain,
    .pool .maintain, .pool .countReady, .pool (.build true), .pool .push]

/-- Two scrapes with traffic between them and no rotation. -/
theorem counters_grow_of_keeps_serving :
    exists metered, run Metered.step (spawn WarmPool.rotating false)
        (serving ++ scrapeOf 1 ++ [.progress 0 ⟨25, 2, 2400, 1⟩] ++ scrapeOf 1) = some metered ∧
      metered.scrapes.map (fun snapshot => snapshot.quic.sentPackets) = [10, 25] ∧
      metered.scrapes.Pairwise CountersGrow := by
  refine ⟨_, rfl, rfl, counters_grow_of_keeps WarmPool.rotating false
    (serving ++ scrapeOf 1 ++ [.progress 0 ⟨25, 2, 2400, 1⟩] ++ scrapeOf 1) _ rfl ?_⟩
  apply Meets.of_actions
  have harmless : forall action, action ∈
      serving ++ scrapeOf 1 ++ [.progress 0 ⟨25, 2, 2400, 1⟩] ++ scrapeOf 1 ->
      action.removes = false := by
    decide
  intro action member state
  exact keeps_of_removes (harmless action member) state

/-- A rotation between two scrapes takes the packets of the reaped circuit out
of the sum. -/
theorem rotation_lowers_counter :
    exists metered first second, run Metered.step (spawn WarmPool.rotating false)
        (serving ++ scrapeOf 1 ++ rotation ++ scrapeOf 1) = some metered ∧
      metered.scrapes = [first, second] ∧ ¬ CountersGrow first second := by
  refine ⟨_, _, _, rfl, rfl, ?_⟩
  intro grows
  rcases grows ⟨.counter, "quic_sent_packets_total", "QUIC packets sent across live circuits",
    fun snapshot => .whole snapshot.quic.sentPackets⟩ (by simp [columns]) rfl with
    ⟨before, after, first, second, bound⟩
  cases first
  cases second
  exact absurd bound (by decide)

end Metered

end Pool
end QuicMix
