import QuicMix.Boundary.Traffic
import QuicMix.Foundations.Spacing

namespace QuicMix
namespace Boundary

open Foundations

/-!
# Pacing

An inner send starts when the pump passes a datagram on.  Between two of them
the pump reads the slot of the oracle in force and sleeps for it.  The record of
starts and the record of slots grow in turns, and wherever the pump could start
the next send, the last slot has passed since the last start.
-/

namespace SendPump

/-- An inner send has started and its slot has not been read. -/
def unpaced : SendPump -> Nat
  | .offering _ => 1
  | .answered _ => 1
  | .counted => 1
  | _ => 0

/-- The instant before which the pump starts no send. -/
def readyAt (clock : Instant) : SendPump -> Instant
  | .sleeping wakeAt => wakeAt
  | _ => clock

end SendPump

namespace Traffic

def startTimes (traffic : Traffic) : List Instant :=
  traffic.starts.map Prod.fst

structure Paced (traffic : Traffic) : Prop where
  spaced : Spaced traffic.startTimes traffic.slots
  turns : traffic.startTimes.length = traffic.slots.length + traffic.substrate.sendPump.unpaced
  past : forall time, time ∈ traffic.startTimes -> time <= traffic.clock
  /-- Between the turns the last slot has passed, or will have when the pump
  wakes up. -/
  passed : traffic.substrate.sendPump.unpaced = 0 -> forall earlier slot,
    traffic.startTimes.getLast? = some earlier -> traffic.slots.getLast? = some slot ->
    earlier + slot <= traffic.substrate.sendPump.readyAt traffic.clock

/-- A move of the pump that starts no send and reads no slot. -/
theorem Paced.advance {traffic : Traffic} {pump : SendPump} {substrate : Substrate}
    (sound : Paced traffic) (same : traffic.substrate.sendPump = pump)
    (turn : substrate.sendPump.unpaced = pump.unpaced)
    (ready : pump.readyAt traffic.clock <= substrate.sendPump.readyAt traffic.clock) :
    Paced (traffic.put substrate) where
  spaced := sound.spaced
  turns := by
    rw [put, turn, ← same]
    exact sound.turns
  past := sound.past
  passed := by
    subst same
    intro between earlier slot lastStart lastSlot
    exact Nat.le_trans
      (sound.passed (turn.symm.trans between) earlier slot lastStart lastSlot) ready

theorem Paced.step {traffic next : Traffic} {action : Move} (sound : Paced traffic)
    (moved : Moved traffic action next) : Paced next := by
  cases moved with
  | elapsed duration =>
      refine ⟨sound.spaced, sound.turns, ?_, ?_⟩
      · exact fun time member => Nat.le_trans (sound.past time member) (Nat.le_add_right _ _)
      · intro between earlier slot lastStart lastSlot
        apply Nat.le_trans (sound.passed between earlier slot lastStart lastSlot)
        change traffic.substrate.sendPump.readyAt traffic.clock <=
          traffic.substrate.sendPump.readyAt (traffic.clock + duration)
        cases traffic.substrate.sendPump <;>
          first
          | exact Nat.le_refl _
          | exact Nat.le_add_right _ _
  | took enqueued datagram channel pump taken =>
      exact sound.advance pump rfl (Nat.le_refl _)
  | sendExited pump ended => exact sound.advance pump rfl (Nat.le_refl _)
  | gauged enqueued datagram pump => exact sound.advance pump rfl (Nat.le_refl _)
  | answered datagram result pump => exact sound.advance pump rfl (Nat.le_refl _)
  | counted result pump =>
      cases result with
      | ok _ => exact sound.advance pump rfl (Nat.le_refl _)
      | error error => exact sound.advance pump rfl (Nat.le_refl _)
  | woken wakeAt pump reached => exact sound.advance pump rfl reached
  | offered datagram pump =>
      rcases sound with ⟨spaced, turns, past, passed⟩
      rw [pump] at turns passed
      refine ⟨?_, ?_, ?_, ?_⟩
      · simp only [startTimes, List.map_append, List.map_cons, List.map_nil]
        exact spaced.append_time turns (passed rfl)
      · simp only [startTimes, List.map_append, List.map_cons, List.map_nil,
          List.length_append, List.length_singleton]
        exact congrArg (· + 1) turns
      · intro time member
        simp only [startTimes, List.map_append, List.map_cons, List.map_nil] at member
        rcases List.mem_append.mp member with old | new
        · exact past time old
        · exact Nat.le_of_eq (List.mem_singleton.mp new)
      · intro between
        cases between
  | paced pump =>
      rcases sound with ⟨spaced, turns, past, passed⟩
      rw [pump] at turns
      refine ⟨?_, ?_, past, ?_⟩
      · exact spaced.append_gap (Nat.le_of_eq turns) _
      · have between : (traffic.substrate.pace traffic.clock).sendPump.unpaced = 0 := by
          unfold Substrate.pace
          split <;> rfl
        rw [List.length_append, List.length_singleton]
        change _ = _ + (traffic.substrate.pace traffic.clock).sendPump.unpaced
        rw [between]
        exact turns
      · intro between earlier slot lastStart lastSlot
        rw [List.getLast?_concat, Option.some.injEq] at lastSlot
        subst lastSlot
        have old := past earlier (List.mem_of_getLast? lastStart)
        change earlier + traffic.substrate.oracle.slotInterval <=
          (traffic.substrate.pace traffic.clock).sendPump.readyAt traffic.clock
        unfold Substrate.pace
        split
        · rename_i zero
          rw [zero]
          exact old
        · exact Nat.add_le_add_right old _
  | fetched result pump =>
      cases result with
      | ok datagram => exact ⟨sound.spaced, sound.turns, sound.past, sound.passed⟩
      | error error => exact ⟨sound.spaced, sound.turns, sound.past, sound.passed⟩
  | _ => exact ⟨sound.spaced, sound.turns, sound.past, sound.passed⟩

theorem paced_of_run {kind : SubstrateKind} {oracle : OracleParams} {queueDepth : Nat}
    {schedule : List Move} {traffic : Traffic}
    (ran : run Traffic.step (start kind oracle queueDepth) schedule = some traffic) :
    Paced traffic := by
  refine invariant Paced ?_ ?_ ran
  · intro state action next sound stepped
    exact sound.step (moved_of_step stepped)
  · refine ⟨?_, rfl, ?_, ?_⟩
    · intro index earlier gap later atIndex
      cases atIndex
    · intro time member
      cases member
    · intro between earlier slot lastStart
      cases lastStart

/-! ## The rate -/

/-- Every slot so far, and the one in force, is at least the given one. -/
structure Slow (least : Duration) (traffic : Traffic) : Prop where
  inForce : least <= traffic.substrate.oracle.slotInterval
  slots : forall slot, slot ∈ traffic.slots -> least <= slot

theorem Slow.step {least : Duration} {traffic next : Traffic} {action : Move}
    (slow : Slow least traffic) (moved : Moved traffic action next)
    (published : forall params, action = .updateOracle params -> least <= params.slotInterval) :
    Slow least next := by
  cases moved with
  | paced pump =>
      refine ⟨slow.inForce, ?_⟩
      intro slot member
      rcases List.mem_append.mp member with old | new
      · exact slow.slots slot old
      · rw [List.mem_singleton.mp new]
        exact slow.inForce
  | updated params held => exact ⟨published params rfl, slow.slots⟩
  | counted result pump =>
      cases result with
      | ok _ => exact ⟨slow.inForce, slow.slots⟩
      | error error => exact ⟨slow.inForce, slow.slots⟩
  | fetched result pump =>
      cases result with
      | ok datagram => exact ⟨slow.inForce, slow.slots⟩
      | error error => exact ⟨slow.inForce, slow.slots⟩
  | _ => exact ⟨slow.inForce, slow.slots⟩

/-- Pacing.  In every reachable state a slot was read between any two
consecutive inner sends, and the second started no sooner than that slot after
the first; the slot that the pump reads is the one in force, and it belongs to
the last send.  If every oracle in force has a slot of at least a positive
length, a window of time contains at most one inner send more than such lengths
fit into it. -/
theorem pacing (kind : SubstrateKind) (oracle : OracleParams) (queueDepth : Nat)
    (schedule : List Move) (traffic : Traffic)
    (ran : run Traffic.step (start kind oracle queueDepth) schedule = some traffic) :
    (forall index earlier later, traffic.startTimes[index]? = some earlier ->
      traffic.startTimes[index + 1]? = some later ->
      exists slot, traffic.slots[index]? = some slot ∧ earlier + slot <= later) ∧
    (forall next, traffic.substrate.sendPump = .counted ->
      traffic.step .sendPump = some next ->
      next.slots = traffic.slots ++ [traffic.substrate.oracle.slotInterval] ∧
        next.slots.length = traffic.startTimes.length) ∧
    (forall least, 0 < least -> least <= oracle.slotInterval ->
      (forall params, .updateOracle params ∈ schedule -> least <= params.slotInterval) ->
      forall opens length,
        traffic.startTimes.countP
          (fun time => decide (opens <= time ∧ time <= opens + length)) <=
            length / least + 1) := by
  have sound := paced_of_run ran
  have turns : traffic.startTimes.length <= traffic.slots.length + 1 := by
    have one : traffic.substrate.sendPump.unpaced <= 1 := by
      cases traffic.substrate.sendPump <;> exact Nat.le_of_ble_eq_true rfl
    rw [sound.turns]
    omega
  refine ⟨?_, ?_, ?_⟩
  · intro index earlier later atIndex atNext
    have bound := (List.getElem?_eq_some_iff.mp atNext).1
    have atSlot := List.getElem?_eq_getElem (l := traffic.slots) (i := index) (by omega)
    exact ⟨_, atSlot, sound.spaced index _ _ _ atIndex atSlot atNext⟩
  · intro next pump stepped
    have counted := sound.turns
    simp only [Traffic.step, Traffic.sendPump, Substrate.pumpSend, pump,
      Option.some.injEq] at stepped
    rw [pump] at counted
    subst stepped
    rw [List.length_append]
    exact ⟨rfl, counted.symm⟩
  · intro least positive inForce published opens length
    have slow : Slow least traffic := by
      refine invariant_of_schedule (Slow least) ?_ ⟨inForce, ?_⟩ ran
      · intro state action next member slow stepped
        apply slow.step (moved_of_step stepped)
        intro params same
        exact published params (same ▸ member)
      · intro slot member
        cases member
    exact sound.spaced.window positive slow.slots turns opens length

/-- Two datagrams are sent while the oracle is slowed down in between. -/
def slowedSchedule : List Move :=
  [.trySend [1], .trySend [2], .sendPump, .sendPump, .sendPump, .updateOracle ⟨3, 50, 0, 30, 1200⟩,
    .innerSent (.error .timeout), .sendPump, .sendPump, .elapse 30, .sendPump, .sendPump,
    .sendPump, .sendPump]

theorem pacing_slowed :
    exists traffic,
      run Traffic.step (start .datagram ⟨3, 50, 0, 20, 1200⟩ 4) slowedSchedule = some traffic ∧
      traffic.startTimes = [0, 30] ∧ traffic.slots = [30] ∧
      traffic.startTimes.countP (fun time => decide (0 <= time ∧ time <= 0 + 19)) <=
        19 / 20 + 1 :=
  ⟨_, rfl, rfl, rfl,
    (pacing .datagram ⟨3, 50, 0, 20, 1200⟩ 4 slowedSchedule _ rfl).2.2 20 (by decide) (by decide)
      (by
        intro params member
        simp only [slowedSchedule, List.mem_cons, reduceCtorEq, Move.updateOracle.injEq,
          false_or, List.not_mem_nil, or_false] at member
        subst member
        decide) 0 19⟩

end Traffic
end Boundary
end QuicMix
