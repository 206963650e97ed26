import QuicMix.Pool.Moves

namespace QuicMix
namespace Pool

open Foundations

/-!
# Rotation drains a circuit before it reaps it

Three invariants carry the result.  `Identified` keeps the names of circuits
apart, also for the circuit that has been built and waits to be pushed.
`Counted` ties each in-flight counter to the leases that exist; the destructor
of a lease is therefore never run on a zero counter.  `Dated` says that a
draining slot has a deadline made from a recorded mark, and that the reading a
maintainer carries through its critical section lies in the past.
-/

namespace WarmPool

/-! ## Names of circuits -/

structure Identified (pool : WarmPool) : Prop where
  named : forall circuit, circuit ∈ pool.circuits -> circuit < pool.nextCircuit
  distinct : pool.circuits.Nodup
  pushing : forall slot left, pool.phase = .push slot left ->
    slot.circuit < pool.nextCircuit ∧ slot.circuit ∉ pool.circuits ∧ slot.draining = none

theorem identified_spawn (cfg : PoolConfig) (measured : Bool) :
    Identified (spawn cfg measured) where
  named := by
    intro circuit member
    exact absurd member List.not_mem_nil
  distinct := List.nodup_nil
  pushing := by
    intro slot left phase
    simp only [spawn, reduceCtorEq] at phase

theorem Moved.nextCircuit_le {pool next : WarmPool} {action : Action}
    (moved : Moved pool action next) : pool.nextCircuit <= next.nextCircuit := by
  cases moved with
  | built left phase => exact Nat.le_succ _
  | _ => exact Nat.le_refl _

/-- A circuit waits to be pushed only while it did so already, or because it
has just been built under a name that was not in use. -/
theorem Moved.push_origin {pool next : WarmPool} {action : Action}
    (moved : Moved pool action next) {slot : Slot} {left : Nat}
    (phase : next.phase = .push slot left) :
    (pool.phase = .push slot left ∧ next.circuits.Sublist pool.circuits) ∨
      (exists born, slot = ⟨pool.nextCircuit, born, 0, none, none⟩ ∧
        next.nextCircuit = pool.nextCircuit + 1 ∧ next.circuits = pool.circuits) := by
  cases moved with
  | purged unlocked busy => exact .inl ⟨phase, pool.circuits_purge_sublist⟩
  | leased index found unlocked located fresh =>
      refine .inl ⟨phase, ?_⟩
      rw [circuits_grant located]
      exact pool.circuits_purge_sublist
  | released lease held => exact .inl ⟨phase, List.Sublist.refl _⟩
  | closed circuit exist => exact .inl ⟨phase, List.Sublist.refl _⟩
  | elapsed duration => exact .inl ⟨phase, List.Sublist.refl _⟩
  | reaped now index found before located doomed =>
      exact .inl ⟨phase, List.Sublist.map Slot.circuit (List.eraseIdx_sublist _ _)⟩
  | built remaining before =>
      simp only [buildOne, Phase.push.injEq] at phase
      exact .inr ⟨pool.clock, phase.1.symm, rfl, rfl⟩
  | retireEnded now index before ended =>
      cases measured : pool.measured <;>
        simp only [enter, measured, Bool.false_eq_true, if_false, if_true, reduceCtorEq] at phase
  | counted before =>
      simp only [enter, refillPhase] at phase
      split at phase <;> cases phase
  | pushed pushed remaining before =>
      simp only [pushSlot, refillPhase] at phase
      split at phase <;> cases phase
  | _ => cases phase

theorem Identified.moved {pool next : WarmPool} {action : Action} (sound : Identified pool)
    (moved : Moved pool action next) : Identified next where
  named := by
    intro circuit member
    refine Nat.lt_of_lt_of_le ?_ moved.nextCircuit_le
    rcases moved.circuits_sublist with kept | ⟨slot, left, phase, added⟩
    · exact sound.named circuit (kept.subset member)
    · rw [added] at member
      rcases List.mem_append.mp member with old | new
      · exact sound.named circuit old
      · rw [List.mem_singleton] at new
        subst new
        exact (sound.pushing slot left phase).1
  distinct := by
    rcases moved.circuits_sublist with kept | ⟨slot, left, phase, added⟩
    · exact sound.distinct.sublist kept
    · rw [added]
      refine List.nodup_append.mpr ⟨sound.distinct, List.nodup_singleton _, ?_⟩
      intro circuit old other new same
      rw [List.mem_singleton] at new
      subst new
      subst same
      exact (sound.pushing slot left phase).2.1 old
  pushing := by
    intro slot left phase
    rcases moved.push_origin phase with ⟨before, kept⟩ | ⟨born, fresh, grown, same⟩
    · have old := sound.pushing slot left before
      exact ⟨Nat.lt_of_lt_of_le old.1 moved.nextCircuit_le,
        fun member => old.2.1 (kept.subset member), old.2.2⟩
    · subst fresh
      rw [grown, same]
      exact ⟨Nat.lt_succ_self _, fun member => Nat.lt_irrefl _ (sound.named _ member), rfl⟩

/-! ## The in-flight counters -/

structure Counted (pool : WarmPool) : Prop where
  counted : forall circuit, pool.active circuit = pool.outstanding circuit
  known : forall lease, lease ∈ pool.leases -> lease.circuit < pool.nextCircuit

theorem counted_spawn (cfg : PoolConfig) (measured : Bool) : Counted (spawn cfg measured) where
  counted := fun _ => rfl
  known := by
    intro lease member
    exact absurd member List.not_mem_nil

/-- A lease that exists keeps its circuit's counter above zero. -/
theorem Counted.active_pos {pool : WarmPool} (sound : Counted pool) {lease : Lease}
    (held : lease ∈ pool.leases) : 0 < pool.active lease.circuit := by
  rw [sound.counted]
  exact List.countP_pos_iff.mpr ⟨lease, held, beq_self_eq_true _⟩

theorem Counted.grant {pool : WarmPool} (sound : Counted pool) {index : Nat} {slot : Slot}
    (known : slot.circuit < pool.nextCircuit) : Counted (pool.grant index slot) where
  counted := by
    intro circuit
    have before := sound.counted circuit
    unfold outstanding at before
    by_cases same : circuit = slot.circuit
    · subst same
      simp only [WarmPool.grant, outstanding, Function.update_self, List.countP_append,
        List.countP_singleton, beq_self_eq_true, if_true, before]
    · have different : (slot.circuit == circuit) = false :=
        beq_eq_false_iff_ne.mpr (Ne.symm same)
      simp only [WarmPool.grant, outstanding, Function.update_of_ne same, List.countP_append,
        List.countP_singleton, different, Bool.false_eq_true, if_false, before, Nat.add_zero]
  known := by
    intro lease member
    rcases List.mem_append.mp member with old | new
    · exact sound.known lease old
    · rw [List.mem_singleton] at new
      subst new
      exact known

theorem Counted.release {pool : WarmPool} (sound : Counted pool) {lease : Lease}
    (held : lease ∈ pool.leases) : Counted (pool.release lease) where
  counted := by
    intro circuit
    have before := sound.counted circuit
    unfold outstanding at before
    have erased := (List.perm_cons_erase held).countP_eq (fun other => other.circuit == circuit)
    rw [List.countP_cons] at erased
    by_cases same : circuit = lease.circuit
    · subst same
      simp only [beq_self_eq_true, if_true] at erased
      simp only [WarmPool.release, outstanding, Function.update_self, before]
      omega
    · have different : (lease.circuit == circuit) = false :=
        beq_eq_false_iff_ne.mpr (Ne.symm same)
      simp only [different, Bool.false_eq_true, if_false] at erased
      simp only [WarmPool.release, outstanding, Function.update_of_ne same, before]
      omega
  known := by
    intro other member
    exact sound.known other (List.mem_of_mem_erase member)

/-- No lease names the circuit that is about to be built, so starting its
counter at zero is right. -/
theorem Counted.buildOne {pool : WarmPool} (sound : Counted pool) (left : Nat) :
    Counted (pool.buildOne left) where
  counted := by
    intro circuit
    by_cases same : circuit = pool.nextCircuit
    · subst same
      simp only [WarmPool.buildOne, Function.update_self, outstanding]
      refine (List.countP_eq_zero.mpr ?_).symm
      intro lease member
      rw [beq_iff_eq]
      exact Nat.ne_of_lt (sound.known lease member)
    · simp only [WarmPool.buildOne, Function.update_of_ne same]
      exact sound.counted circuit
  known := by
    intro lease member
    exact Nat.lt_succ_of_lt (sound.known lease member)

theorem Counted.moved {pool next : WarmPool} {action : Action} (sound : Counted pool)
    (names : Identified pool) (moved : Moved pool action next) : Counted next := by
  cases moved with
  | leased index slot unlocked located fresh =>
      have purged : Counted pool.purge := ⟨sound.counted, sound.known⟩
      have member := (mem_purge.mp (mem_of_located located)).1
      exact purged.grant (names.named slot.circuit (List.mem_map_of_mem member))
  | released lease held => exact sound.release held
  | built left phase => exact sound.buildOne left
  | _ => exact ⟨sound.counted, sound.known⟩

/-! ## Deadlines -/

/-- The clock reading that the maintainer took with the mutex. -/
def reading : Phase -> Option Instant
  | .retire now _ => some now
  | .sample now _ => some now
  | .reap now _ => some now
  | _ => none

theorem reading_refillPhase (pool : WarmPool) (left : Nat) :
    reading (pool.refillPhase left) = none := by
  unfold refillPhase
  split <;> rfl

structure Dated (pool : WarmPool) : Prop where
  deadline : forall slot, slot ∈ pool.slots -> forall deadline, slot.draining = some deadline ->
    exists marked, Event.retired slot.circuit marked ∈ pool.history ∧
      deadline = marked + pool.cfg.drainTimeout
  past : forall now, reading pool.phase = some now -> now <= pool.clock

theorem dated_spawn (cfg : PoolConfig) (measured : Bool) : Dated (spawn cfg measured) where
  deadline := by
    intro slot member
    exact absurd member List.not_mem_nil
  past := by
    intro now read
    cases read

/-- A reading is taken on waking up and then only carried along. -/
theorem Moved.reading_origin {pool next : WarmPool} {action : Action}
    (moved : Moved pool action next) {now : Instant} (read : reading next.phase = some now) :
    (reading pool.phase = some now ∨ now = pool.clock) ∧ pool.clock <= next.clock := by
  cases moved with
  | elapsed duration => exact ⟨.inl read, Nat.le_add_right _ _⟩
  | woken wakeAt phase reached =>
      simp only [reading, enter, Option.some.injEq] at read
      exact ⟨.inr read.symm, Nat.le_refl _⟩
  | retireEnded now index phase ended =>
      refine ⟨.inl ?_, Nat.le_refl _⟩
      rw [phase]
      cases measured : pool.measured <;>
        simpa only [reading, enter, measured, Bool.false_eq_true, if_false, if_true] using read
  | counted phase =>
      rw [enter, reading_refillPhase] at read
      cases read
  | pushed slot left phase =>
      rw [pushSlot, reading_refillPhase] at read
      cases read
  | _ => first
    | exact ⟨.inl read, Nat.le_refl _⟩
    | exact ⟨.inl (by rw [‹pool.phase = _›]; exact read), Nat.le_refl _⟩
    | cases read

theorem Dated.moved {pool next : WarmPool} {action : Action} (sound : Dated pool)
    (names : Identified pool) (moved : Moved pool action next) : Dated next where
  deadline := by
    intro slot member deadline draining
    rw [moved.cfg]
    rcases moved.slot_origin member with ⟨before, old, continued⟩ | ⟨left, phase⟩
    · rcases continued.draining with same | ⟨fresh, now, marked, recorded⟩
      · rcases sound.deadline before old deadline (same ▸ draining) with ⟨now, mark, equal⟩
        refine ⟨now, moved.history.subset ?_, equal⟩
        rw [continued.circuit]
        exact mark
      · rw [draining, Option.some.injEq] at marked
        refine ⟨now, ?_, marked⟩
        rw [recorded, continued.circuit]
        exact List.mem_append_right _ (List.mem_singleton_self _)
    · rw [(names.pushing slot left phase).2.2] at draining
      cases draining
  past := by
    intro now read
    rcases moved.reading_origin read with ⟨carried | taken, forward⟩
    · exact Nat.le_trans (sound.past now carried) forward
    · exact taken ▸ forward

/-! ## Every run -/

/-- The invariants that the drain argument uses, together. -/
structure Drainable (pool : WarmPool) : Prop where
  names : Identified pool
  counts : Counted pool
  dates : Dated pool

theorem drainable_spawn (cfg : PoolConfig) (measured : Bool) :
    Drainable (spawn cfg measured) :=
  ⟨identified_spawn cfg measured, counted_spawn cfg measured, dated_spawn cfg measured⟩

theorem Drainable.step {pool next : WarmPool} {action : Action} (sound : Drainable pool)
    (stepped : pool.step action = some next) : Drainable next :=
  have moved := moved_of_step stepped
  ⟨sound.names.moved moved, sound.counts.moved sound.names moved,
    sound.dates.moved sound.names moved⟩

theorem drainable_of_run {cfg : PoolConfig} {measured : Bool} {schedule : List Action}
    {pool : WarmPool} (ran : run WarmPool.step (spawn cfg measured) schedule = some pool) :
    Drainable pool :=
  invariant Drainable (fun _ _ _ sound stepped => sound.step stepped)
    (drainable_spawn cfg measured) ran

/-- What a later state still knows about the slots of an earlier one: a circuit
that was draining there is draining here with the same deadline, if it is here
at all, and a circuit that has left the pool is never pushed again. -/
structure Remembers (origin pool : WarmPool) : Prop where
  grown : origin.nextCircuit <= pool.nextCircuit
  pushing : forall slot left, pool.phase = .push slot left -> slot.circuit ∉ origin.circuits
  draining : forall slot, slot ∈ origin.slots -> slot.draining ≠ none ->
    forall later, later ∈ pool.slots -> later.circuit = slot.circuit ->
      later.draining = slot.draining

theorem remembers_self {pool : WarmPool} (sound : Drainable pool) : Remembers pool pool where
  grown := Nat.le_refl _
  pushing := fun slot left phase => (sound.names.pushing slot left phase).2.1
  draining := by
    intro slot member _ later found same
    have equal := List.inj_on_of_nodup_map sound.names.distinct found member same
    rw [equal]

theorem Remembers.moved {origin pool next : WarmPool} {action : Action}
    (known : Remembers origin pool) (names : Identified origin)
    (moved : Moved pool action next) : Remembers origin next where
  grown := Nat.le_trans known.grown moved.nextCircuit_le
  pushing := by
    intro slot left phase
    rcases moved.push_origin phase with ⟨before, _⟩ | ⟨born, fresh, _, _⟩
    · exact known.pushing slot left before
    · subst fresh
      intro member
      exact Nat.lt_irrefl _ (Nat.lt_of_lt_of_le (names.named _ member) known.grown)
  draining := by
    intro slot member marked later found same
    rcases moved.slot_origin found with ⟨before, old, continued⟩ | ⟨left, phase⟩
    · have kept := known.draining slot member marked before old
        (continued.circuit.symm.trans same)
      rcases continued.draining with unchanged | ⟨fresh, _⟩
      · exact unchanged.trans kept
      · exact absurd (kept.symm.trans fresh) marked
    · have member := List.mem_map_of_mem (f := Slot.circuit) member
      rw [← same] at member
      exact absurd member (known.pushing later left phase)

theorem remembers_of_run {pool later : WarmPool} {schedule : List Action}
    (sound : Drainable pool) (ran : run WarmPool.step pool schedule = some later) :
    Remembers pool later :=
  invariant (Remembers pool) (fun _ _ _ known stepped =>
    known.moved sound.names (moved_of_step stepped)) (remembers_self sound) ran

/-- A slot whose circuit is gone after a move, and whose connection is live,
was reaped: it was draining, and it was idle or past its deadline. -/
theorem Moved.reaped_of_gone {pool next : WarmPool} {action : Action}
    (moved : Moved pool action next) {slot : Slot} (member : slot ∈ pool.slots)
    (gone : slot.circuit ∉ next.circuits) (live : pool.closed slot.circuit = false) :
    action = .maintain ∧ exists now index deadline, pool.phase = .reap now index ∧
      slot.draining = some deadline ∧ (pool.active slot.circuit = 0 ∨ deadline <= now) := by
  have listed : slot.circuit ∈ pool.circuits := List.mem_map_of_mem member
  cases moved with
  | purged unlocked busy =>
      exact absurd (List.mem_map_of_mem (mem_purge.mpr ⟨member, live⟩)) gone
  | leased index found unlocked located fresh =>
      rw [circuits_grant located] at gone
      exact absurd (List.mem_map_of_mem (mem_purge.mpr ⟨member, live⟩)) gone
  | marked now index found phase located fresh due =>
      change slot.circuit ∉ (pool.mark now index found).circuits at gone
      rw [circuits_mark located] at gone
      exact absurd listed gone
  | sampled now index found phase located due =>
      change slot.circuit ∉ (pool.observe now index found).circuits at gone
      rw [circuits_observe located] at gone
      exact absurd listed gone
  | reaped now index found phase located doomed =>
      rcases split_at located with ⟨before, after, split, _, erased⟩
      have same : slot = found := by
        rw [split] at member
        rcases List.mem_append.mp member with early | late
        · refine absurd (List.mem_map_of_mem ?_) gone
          rw [WarmPool.reap, erased]
          exact List.mem_append_left _ early
        · rcases List.mem_cons.mp late with same | late
          · exact same
          · refine absurd (List.mem_map_of_mem ?_) gone
            rw [WarmPool.reap, erased]
            exact List.mem_append_right _ late
      subst same
      rw [live, Bool.false_or] at doomed
      rcases (Option.any_eq_true _ _).mp doomed with ⟨deadline, draining, idle⟩
      rw [Bool.or_eq_true, beq_iff_eq, decide_eq_true_eq] at idle
      exact ⟨rfl, now, index, deadline, phase, draining, idle⟩
  | pushed pushed left phase =>
      refine absurd ?_ gone
      simp only [WarmPool.circuits, pushSlot, List.map_append]
      exact List.mem_append_left _ listed
  | _ => exact absurd listed gone

/-- Drain safety.  In every state that a pool reaches: each in-flight counter
is the number of leases that exist, and a lease that exists keeps it above
zero; a lease is granted only on a circuit that is live and not draining; a
circuit that is draining stays so, with one deadline; and a live circuit leaves
the pool only in the maintainer's reap, after a recorded mark, when no lease on
it exists or the maintainer's reading has reached the mark plus the timeout. -/
theorem drain_safety (cfg : PoolConfig) (measured : Bool) (schedule : List Action)
    (pool : WarmPool) (ran : run WarmPool.step (spawn cfg measured) schedule = some pool) :
    (forall circuit, pool.active circuit = pool.outstanding circuit) ∧
    (forall lease, lease ∈ pool.leases -> 0 < pool.active lease.circuit) ∧
    (forall lease, pool.pick.1 = some lease -> exists slot, slot ∈ pool.slots ∧
      slot.circuit = lease.circuit ∧ pool.closed slot.circuit = false ∧ slot.draining = none) ∧
    (forall future later, run WarmPool.step pool future = some later ->
      forall slot, slot ∈ pool.slots -> slot.draining ≠ none ->
      forall after, after ∈ later.slots -> after.circuit = slot.circuit ->
        after.draining = slot.draining) ∧
    (forall action next, pool.step action = some next ->
      forall slot, slot ∈ pool.slots -> slot.circuit ∉ next.circuits ->
      pool.closed slot.circuit = false ->
      action = .maintain ∧ exists now index marked, pool.phase = .reap now index ∧
        now <= pool.clock ∧ Event.retired slot.circuit marked ∈ pool.history ∧
        slot.draining = some (marked + cfg.drainTimeout) ∧
        (pool.outstanding slot.circuit = 0 ∨ marked + cfg.drainTimeout <= now)) := by
  have sound := drainable_of_run ran
  have config : pool.cfg = cfg := cfg_of_run ran
  refine ⟨sound.counts.counted, fun lease held => sound.counts.active_pos held, ?_, ?_, ?_⟩
  · intro lease granted
    rcases pick_cases pool with ⟨answer, _⟩ | ⟨index, slot, located, fresh, answer⟩
    · rw [answer] at granted
      cases granted
    · rw [answer, Option.some.injEq] at granted
      have kept := mem_purge.mp (mem_of_located located)
      exact ⟨slot, kept.1, by rw [← granted], kept.2, fresh⟩
  · intro future later continued
    exact (remembers_of_run sound continued).draining
  · intro action next stepped slot member gone live
    rcases (moved_of_step stepped).reaped_of_gone member gone live with
      ⟨tick, now, index, deadline, phase, draining, idle⟩
    rcases sound.dates.deadline slot member deadline draining with ⟨marked, mark, equal⟩
    rw [config] at equal
    subst equal
    rw [sound.counts.counted] at idle
    exact ⟨tick, now, index, marked, phase, sound.dates.past now (by rw [phase]; rfl), mark,
      draining, idle⟩

/-- A one-circuit pool that retires after one request. -/
def rotating : PoolConfig :=
  { PoolConfig.default with target := 1, maxUses := some 1, tick := 30, drainTimeout := 5000 }

/-- Pre-warm, lease the circuit, and let the maintainer retire it and pass over
it in the reap, since its request is still in flight. -/
def rotatingSchedule : List Action :=
  [.countReady, .build true, .push, .pick, .elapse 40, .wake, .maintain, .maintain, .maintain]

/-- The leased circuit is draining, counted once, and not reaped. -/
theorem drain_safety_rotating :
    exists pool, run WarmPool.step (spawn rotating false) rotatingSchedule = some pool ∧
      pool.slots.map Slot.draining = [some 5040] ∧ pool.leases = [⟨0, 0⟩] ∧
      pool.active 0 = pool.outstanding 0 ∧ pool.active 0 = 1 :=
  ⟨_, rfl, rfl, rfl, (drain_safety rotating false rotatingSchedule _ rfl).1 0, rfl⟩

end WarmPool
end Pool
end QuicMix
