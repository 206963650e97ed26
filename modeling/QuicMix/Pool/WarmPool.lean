import QuicMix.Foundations.Schedule
import Mathlib.Algebra.Group.Nat.Defs
import Mathlib.Logic.Function.Basic

namespace QuicMix
namespace Pool

open Foundations

/-!
# The pool of pre-warmed circuits

`WarmPool` keeps a vector of slots behind a mutex and is moved by four parties.
A request takes a lease with `pick`; a lease is given back by its destructor,
which touches only an atomic counter and never the mutex; a connection may die
at any moment; and one maintainer task retires, samples, reaps and refills.

The maintainer's critical section is not collapsed into one move.  While it
holds the mutex it walks over the slots one at a time, and between two visits
leases may be dropped, connections may die and time may pass.  The sections of
`pick`, of the ready count and of the push are single moves: each of them looks
at a given slot once.  A circuit is named by the number of the successful build
that made it, so two circuits never share a name.

The deadline of a circuit that is retired is a sum of an `Instant` and a
`Duration`, which panics when it cannot be represented.  The maintainer's task is
then gone, and the mutex is free; requests go on.

The history lists what happened to circuits, in order.  No operation reads it.
-/

abbrev CircuitId := Nat

abbrev LeaseId := Nat

/-- Pool policy. -/
structure PoolConfig where
  target : Nat
  maxUses : Option Nat
  maxAge : Option Duration
  tick : Duration
  drainTimeout : Duration
  deriving DecidableEq, Repr

/-- Four circuits, no rotation, a tick of 250 ms and ten seconds to drain. -/
def PoolConfig.default : PoolConfig where
  target := 4
  maxUses := none
  maxAge := none
  tick := 250000000
  drainTimeout := 10000000000

/-- A circuit is sampled into the measured oracle at most once a second. -/
def sampleEvery : Duration := 1000000000

/-- An `Instant` is below this many nanoseconds: its seconds are an `i64`. -/
def instantLimit : Nat := 2 ^ 63 * 1000000000

/-- A slot of the pool.  The in-flight counter is shared with the leases and
outlives the slot, so it is kept beside the slots, under the circuit's name. -/
structure Slot where
  circuit : CircuitId
  born : Instant
  uses : Nat
  draining : Option Instant
  lastSampled : Option Instant
  deriving DecidableEq, Repr

/-- A leased connection for one in-flight request. -/
structure Lease where
  id : LeaseId
  circuit : CircuitId
  deriving DecidableEq, Repr

/-- Where the maintainer task stands.  `retire`, `sample` and `reap` hold the
mutex and carry the clock reading taken when it was acquired. -/
inductive Phase where
  | sleeping (wakeAt : Instant)
  | retire (now : Instant) (index : Nat)
  | sample (now : Instant) (index : Nat)
  | reap (now : Instant) (index : Nat)
  | count
  | build (left : Nat)
  | push (slot : Slot) (left : Nat)
  | panicked
  deriving DecidableEq, Repr

inductive Event where
  | leased (circuit : CircuitId) (moment : Instant)
  | retired (circuit : CircuitId) (now : Instant)
  | purged (circuit : CircuitId)
  | reaped (circuit : CircuitId) (now : Instant)
  deriving DecidableEq, Repr

structure WarmPool where
  cfg : PoolConfig
  /-- Whether an online measured oracle is attached. -/
  measured : Bool
  slots : List Slot
  rr : Nat
  built : Nat
  retired : Nat
  buildErrors : Nat
  /-- The circuits handed to the measured oracle, in order. -/
  observed : List CircuitId
  phase : Phase
  active : CircuitId -> Nat
  closed : CircuitId -> Bool
  leases : List Lease
  nextLease : LeaseId
  nextCircuit : CircuitId
  clock : Instant
  history : List Event

/-- A move of one of the parties, with the environment's choice in it. -/
inductive Action where
  | pick
  | dropLease (lease : LeaseId)
  | close (circuit : CircuitId)
  | elapse (duration : Duration)
  | wake
  | maintain
  | countReady
  | build (succeeds : Bool)
  | push
  deriving DecidableEq, Repr

/-- What `AtomicUsize` counts modulo. -/
def usizeModulus : Nat := 2 ^ 64

namespace Slot

/-- Ready: not draining and its connection is live. -/
def ready (closed : CircuitId -> Bool) (slot : Slot) : Bool :=
  slot.draining.isNone && !closed slot.circuit

/-- The age of the circuit has reached the configured maximum. -/
def aged (cfg : PoolConfig) (clock : Instant) (slot : Slot) : Bool :=
  cfg.maxAge.any (fun age => decide (age <= clock - slot.born))

def used (cfg : PoolConfig) (slot : Slot) : Bool :=
  cfg.maxUses.any (fun uses => decide (uses <= slot.uses))

def retires (cfg : PoolConfig) (clock : Instant) (slot : Slot) : Bool :=
  slot.draining.isNone && (slot.aged cfg clock || slot.used cfg)

def due (now : Instant) (slot : Slot) : Bool :=
  slot.lastSampled.all (fun sampled => decide (sampleEvery <= now - sampled))

/-- Draining, and either no request is in flight or the deadline has passed. -/
def drained (active : CircuitId -> Nat) (now : Instant) (slot : Slot) : Bool :=
  slot.draining.any (fun deadline => active slot.circuit == 0 || decide (deadline <= now))

end Slot

namespace WarmPool

/-- The state in which `spawn` starts: an empty pool about to be refilled.
The maintainer's loop begins with that same refill. -/
def spawn (cfg : PoolConfig) (measured : Bool) : WarmPool where
  cfg := cfg
  measured := measured
  slots := []
  rr := 0
  built := 0
  retired := 0
  buildErrors := 0
  observed := []
  phase := .count
  active := fun _ => 0
  closed := fun _ => false
  leases := []
  nextLease := 0
  nextCircuit := 0
  clock := 0
  history := []

/-- The maintainer holds the mutex across several moves. -/
def locked (pool : WarmPool) : Bool :=
  match pool.phase with
  | .retire _ _ => true
  | .sample _ _ => true
  | .reap _ _ => true
  | _ => false

/-- The number of ready circuits, as `len` and `refill` count them. -/
def len (pool : WarmPool) : Nat :=
  pool.slots.countP (Slot.ready pool.closed)

/-- The number of leases on a circuit that have not been dropped. -/
def outstanding (pool : WarmPool) (circuit : CircuitId) : Nat :=
  pool.leases.countP (fun lease => lease.circuit == circuit)

/-! ## Requests -/

/-- Drop the slots whose connection is closed. -/
def purge (pool : WarmPool) : WarmPool :=
  { pool with
    slots := pool.slots.filter (fun slot => !pool.closed slot.circuit)
    history := pool.history ++
      (pool.slots.filter (fun slot => pool.closed slot.circuit)).map
        (fun slot => Event.purged slot.circuit) }

/-- The positions of the slots that are not draining. -/
def readyIndices (slots : List Slot) : List Nat :=
  (List.range slots.length).filter (fun index =>
    (slots[index]?).any (fun slot => slot.draining.isNone))

/-- Hand out the slot at a position. -/
def grant (pool : WarmPool) (index : Nat) (slot : Slot) : WarmPool :=
  { pool with
    slots := pool.slots.set index { slot with uses := slot.uses + 1 }
    rr := (pool.rr + 1) % usizeModulus
    active := Function.update pool.active slot.circuit (pool.active slot.circuit + 1)
    leases := pool.leases ++ [⟨pool.nextLease, slot.circuit⟩]
    nextLease := pool.nextLease + 1
    history := pool.history ++ [.leased slot.circuit pool.clock] }

/-- Lease a live, non-draining circuit for one request, round-robin. -/
def pick (pool : WarmPool) : Option Lease × WarmPool :=
  let purged := pool.purge
  let indices := readyIndices purged.slots
  if indices.isEmpty then (none, purged)
  else
    match indices[pool.rr % indices.length]? with
    | none => (none, purged)
    | some index =>
        match purged.slots[index]? with
        | none => (none, purged)
        | some slot => (some ⟨purged.nextLease, slot.circuit⟩, purged.grant index slot)

/-- The lease's destructor. -/
def release (pool : WarmPool) (lease : Lease) : WarmPool :=
  { pool with
    active := Function.update pool.active lease.circuit (pool.active lease.circuit - 1)
    leases := pool.leases.erase lease }

/-! ## The maintainer -/

/-- Mark the slot at a position as draining. -/
def mark (pool : WarmPool) (now : Instant) (index : Nat) (slot : Slot) : WarmPool :=
  { pool with
    slots := pool.slots.set index
      { slot with draining := some (now + pool.cfg.drainTimeout) }
    retired := pool.retired + 1
    history := pool.history ++ [.retired slot.circuit now] }

/-- Fold the circuit at a position into the measured oracle. -/
def observe (pool : WarmPool) (now : Instant) (index : Nat) (slot : Slot) : WarmPool :=
  { pool with
    slots := pool.slots.set index { slot with lastSampled := some now }
    observed := pool.observed ++ [slot.circuit] }

/-- Remove the slot at a position. -/
def reap (pool : WarmPool) (now : Instant) (index : Nat) (slot : Slot) : WarmPool :=
  { pool with
    slots := pool.slots.eraseIdx index
    history := pool.history ++ [.reaped slot.circuit now] }

def enter (pool : WarmPool) (phase : Phase) : WarmPool :=
  { pool with phase := phase }

/-- One visit of the maintainer to a slot, or the end of a walk over them.
Removing a slot leaves the next one at the same position. -/
def maintain (pool : WarmPool) : Option WarmPool :=
  match pool.phase with
  | .retire now index =>
      match pool.slots[index]? with
      | some slot =>
          if slot.retires pool.cfg pool.clock then
            if now + pool.cfg.drainTimeout < instantLimit then
              some ((pool.mark now index slot).enter (.retire now (index + 1)))
            else some (pool.enter .panicked)
          else some (pool.enter (.retire now (index + 1)))
      | none => some (pool.enter (if pool.measured then .sample now 0 else .reap now 0))
  | .sample now index =>
      match pool.slots[index]? with
      | some slot =>
          if slot.due now && !pool.closed slot.circuit then
            some ((pool.observe now index slot).enter (.sample now (index + 1)))
          else some (pool.enter (.sample now (index + 1)))
      | none => some (pool.enter (.reap now 0))
  | .reap now index =>
      match pool.slots[index]? with
      | some slot =>
          if pool.closed slot.circuit || slot.drained pool.active now then
            some (pool.reap now index slot)
          else some (pool.enter (.reap now (index + 1)))
      | none => some (pool.enter .count)
  | _ => none

/-- What the refill loop does next with `left` builds still to go. -/
def refillPhase (pool : WarmPool) (left : Nat) : Phase :=
  if left = 0 then .sleeping (pool.clock + pool.cfg.tick) else .build left

/-- A successful build: a fresh circuit, counted but not yet in the pool. -/
def buildOne (pool : WarmPool) (left : Nat) : WarmPool :=
  { pool with
    built := pool.built + 1
    nextCircuit := pool.nextCircuit + 1
    active := Function.update pool.active pool.nextCircuit 0
    closed := Function.update pool.closed pool.nextCircuit false
    phase := .push ⟨pool.nextCircuit, pool.clock, 0, none, none⟩ left }

/-- A failed build ends this refill. -/
def buildFailed (pool : WarmPool) : WarmPool :=
  { pool with
    buildErrors := pool.buildErrors + 1
    phase := .sleeping (pool.clock + pool.cfg.tick) }

def pushSlot (pool : WarmPool) (slot : Slot) (left : Nat) : WarmPool :=
  { pool with
    slots := pool.slots ++ [slot]
    phase := pool.refillPhase left }

/-! ## The whole system -/

def step (pool : WarmPool) : Action -> Option WarmPool
  | .pick => if pool.locked then none else some pool.pick.2
  | .dropLease id =>
      match pool.leases.find? (fun lease => lease.id == id) with
      | none => none
      | some lease => some (pool.release lease)
  | .close circuit =>
      if circuit < pool.nextCircuit then
        some { pool with closed := Function.update pool.closed circuit true }
      else none
  | .elapse duration => some { pool with clock := pool.clock + duration }
  | .wake =>
      match pool.phase with
      | .sleeping wakeAt =>
          if wakeAt <= pool.clock then some (pool.enter (.retire pool.clock 0)) else none
      | _ => none
  | .maintain => pool.maintain
  | .countReady =>
      match pool.phase with
      | .count => some (pool.enter (pool.refillPhase (pool.cfg.target - pool.len)))
      | _ => none
  | .build succeeds =>
      match pool.phase with
      | .build (left + 1) =>
          if succeeds then some (pool.buildOne left) else some pool.buildFailed
      | _ => none
  | .push =>
      match pool.phase with
      | .push slot left => some (pool.pushSlot slot left)
      | _ => none

end WarmPool
end Pool
end QuicMix
