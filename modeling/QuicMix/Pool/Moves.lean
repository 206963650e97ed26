import QuicMix.Foundations.Lists
import QuicMix.Pool.WarmPool
import Mathlib.Data.List.Basic
import Mathlib.Data.List.Nodup

namespace QuicMix
namespace Pool

open Foundations

/-!
# What one move of the pool can do

`Moved` lists the outcomes of `WarmPool.step`, guards included, and
`moved_of_step` says that there are no others.  Every invariant of the pool is
proved from this list.  The facts that several invariants share come next: a
slot found after a move is a slot found before it, changed only in the ways
recorded by `Continues`, or the slot that the refill has just pushed.
-/

namespace WarmPool

/-! ## The request path -/

theorem mem_readyIndices {slots : List Slot} {index : Nat} :
    index ∈ readyIndices slots <->
      exists slot, slots[index]? = some slot ∧ slot.draining = none := by
  simp only [readyIndices, List.mem_filter, List.mem_range, Option.any_eq_true,
    Option.isNone_iff_eq_none]
  constructor
  · intro member
    exact member.2
  · intro found
    rcases found with ⟨slot, located, fresh⟩
    exact ⟨(List.getElem?_eq_some_iff.mp located).1, slot, located, fresh⟩

/-- A request is answered with a slot that survived the purge and is not
draining; it goes unanswered only when there is no such slot. -/
theorem pick_cases (pool : WarmPool) :
    (pool.pick = (none, pool.purge) ∧
      forall slot, slot ∈ pool.purge.slots -> slot.draining ≠ none) ∨
    (exists index slot, pool.purge.slots[index]? = some slot ∧ slot.draining = none ∧
      pool.pick = (some ⟨pool.nextLease, slot.circuit⟩, pool.purge.grant index slot)) := by
  by_cases empty : readyIndices pool.purge.slots = []
  · left
    refine ⟨by simp only [pick, empty, List.isEmpty_nil, if_true], ?_⟩
    intro slot member fresh
    rcases List.getElem?_of_mem member with ⟨index, located⟩
    have listed := mem_readyIndices.mpr ⟨slot, located, fresh⟩
    rw [empty] at listed
    exact List.not_mem_nil listed
  · right
    have positive : 0 < (readyIndices pool.purge.slots).length := List.length_pos_of_ne_nil empty
    have bound := Nat.mod_lt pool.rr positive
    have selected := List.getElem?_eq_getElem bound
    have member := List.getElem_mem bound
    rcases mem_readyIndices.mp member with ⟨slot, located, fresh⟩
    refine ⟨_, slot, located, fresh, ?_⟩
    have notEmpty : (readyIndices pool.purge.slots).isEmpty = false := by
      simpa only [List.isEmpty_eq_false_iff] using empty
    simp only [pick, notEmpty, Bool.false_eq_true, if_false, selected, located]
    rfl

theorem mem_purge {pool : WarmPool} {slot : Slot} :
    slot ∈ pool.purge.slots <-> slot ∈ pool.slots ∧ pool.closed slot.circuit = false := by
  simp only [purge, List.mem_filter, Bool.not_eq_true']

/-! ## The outcomes of a move -/

/-- The outcomes of a move, each with the guard under which it happens. -/
inductive Moved (pool : WarmPool) : Action -> WarmPool -> Prop where
  | purged (unlocked : pool.locked = false)
      (busy : forall slot, slot ∈ pool.purge.slots -> slot.draining ≠ none) :
      Moved pool .pick pool.purge
  | leased (index : Nat) (slot : Slot) (unlocked : pool.locked = false)
      (located : pool.purge.slots[index]? = some slot) (fresh : slot.draining = none) :
      Moved pool .pick (pool.purge.grant index slot)
  | released (lease : Lease) (held : lease ∈ pool.leases) :
      Moved pool (.dropLease lease.id) (pool.release lease)
  | closed (circuit : CircuitId) (exist : circuit < pool.nextCircuit) :
      Moved pool (.close circuit) { pool with closed := Function.update pool.closed circuit true }
  | elapsed (duration : Duration) :
      Moved pool (.elapse duration) { pool with clock := pool.clock + duration }
  | woken (wakeAt : Instant) (phase : pool.phase = .sleeping wakeAt)
      (reached : wakeAt <= pool.clock) : Moved pool .wake (pool.enter (.retire pool.clock 0))
  | marked (now : Instant) (index : Nat) (slot : Slot) (phase : pool.phase = .retire now index)
      (located : pool.slots[index]? = some slot) (fresh : slot.draining = none)
      (due : (slot.aged pool.cfg pool.clock || slot.used pool.cfg) = true)
      (fits : now + pool.cfg.drainTimeout < instantLimit) :
      Moved pool .maintain ((pool.mark now index slot).enter (.retire now (index + 1)))
  | panicked (now : Instant) (index : Nat) (slot : Slot) (phase : pool.phase = .retire now index)
      (located : pool.slots[index]? = some slot)
      (due : slot.retires pool.cfg pool.clock = true)
      (late : instantLimit <= now + pool.cfg.drainTimeout) :
      Moved pool .maintain (pool.enter .panicked)
  | spared (now : Instant) (index : Nat) (slot : Slot) (phase : pool.phase = .retire now index)
      (located : pool.slots[index]? = some slot)
      (refused : slot.retires pool.cfg pool.clock = false) :
      Moved pool .maintain (pool.enter (.retire now (index + 1)))
  | retireEnded (now : Instant) (index : Nat) (phase : pool.phase = .retire now index)
      (ended : pool.slots[index]? = none) :
      Moved pool .maintain (pool.enter (if pool.measured then .sample now 0 else .reap now 0))
  | sampled (now : Instant) (index : Nat) (slot : Slot) (phase : pool.phase = .sample now index)
      (located : pool.slots[index]? = some slot)
      (due : (slot.due now && !pool.closed slot.circuit) = true) :
      Moved pool .maintain ((pool.observe now index slot).enter (.sample now (index + 1)))
  | unsampled (now : Instant) (index : Nat) (slot : Slot) (phase : pool.phase = .sample now index)
      (located : pool.slots[index]? = some slot)
      (refused : (slot.due now && !pool.closed slot.circuit) = false) :
      Moved pool .maintain (pool.enter (.sample now (index + 1)))
  | sampleEnded (now : Instant) (index : Nat) (phase : pool.phase = .sample now index)
      (ended : pool.slots[index]? = none) : Moved pool .maintain (pool.enter (.reap now 0))
  | reaped (now : Instant) (index : Nat) (slot : Slot) (phase : pool.phase = .reap now index)
      (located : pool.slots[index]? = some slot)
      (doomed : (pool.closed slot.circuit || slot.drained pool.active now) = true) :
      Moved pool .maintain (pool.reap now index slot)
  | kept (now : Instant) (index : Nat) (slot : Slot) (phase : pool.phase = .reap now index)
      (located : pool.slots[index]? = some slot)
      (safe : (pool.closed slot.circuit || slot.drained pool.active now) = false) :
      Moved pool .maintain (pool.enter (.reap now (index + 1)))
  | reapEnded (now : Instant) (index : Nat) (phase : pool.phase = .reap now index)
      (ended : pool.slots[index]? = none) : Moved pool .maintain (pool.enter .count)
  | counted (phase : pool.phase = .count) :
      Moved pool .countReady (pool.enter (pool.refillPhase (pool.cfg.target - pool.len)))
  | built (left : Nat) (phase : pool.phase = .build (left + 1)) :
      Moved pool (.build true) (pool.buildOne left)
  | failed (left : Nat) (phase : pool.phase = .build (left + 1)) :
      Moved pool (.build false) pool.buildFailed
  | pushed (slot : Slot) (left : Nat) (phase : pool.phase = .push slot left) :
      Moved pool .push (pool.pushSlot slot left)

private theorem moved_of_maintain {pool next : WarmPool} (moved : pool.maintain = some next) :
    Moved pool .maintain next := by
  unfold maintain at moved
  split at moved
  · rename_i now index phase
    split at moved
    · rename_i slot located
      split at moved
      · rename_i due
        have parts := Bool.and_eq_true_iff.mp due
        split at moved
        · rename_i fits
          cases moved
          exact .marked now index slot phase located (Option.isNone_iff_eq_none.mp parts.1)
            parts.2 fits
        · rename_i late
          cases moved
          exact .panicked now index slot phase located due (Nat.le_of_not_lt late)
      · rename_i refused
        cases moved
        exact .spared now index slot phase located (Bool.eq_false_iff.mpr refused)
    · rename_i ended
      cases moved
      exact .retireEnded now index phase ended
  · rename_i now index phase
    split at moved
    · rename_i slot located
      split at moved
      · rename_i due
        cases moved
        exact .sampled now index slot phase located due
      · rename_i refused
        cases moved
        exact .unsampled now index slot phase located (Bool.eq_false_iff.mpr refused)
    · rename_i ended
      cases moved
      exact .sampleEnded now index phase ended
  · rename_i now index phase
    split at moved
    · rename_i slot located
      split at moved
      · rename_i doomed
        cases moved
        exact .reaped now index slot phase located doomed
      · rename_i safe
        cases moved
        exact .kept now index slot phase located (Bool.eq_false_iff.mpr safe)
    · rename_i ended
      cases moved
      exact .reapEnded now index phase ended
  · cases moved

/-- The list of outcomes is complete. -/
theorem moved_of_step {pool next : WarmPool} {action : Action}
    (moved : pool.step action = some next) : Moved pool action next := by
  cases action with
  | pick =>
      cases unlocked : pool.locked with
      | true => simp only [step, unlocked, if_true, reduceCtorEq] at moved
      | false =>
          simp only [step, unlocked, Bool.false_eq_true, if_false, Option.some.injEq] at moved
          subst moved
          rcases pick_cases pool with ⟨answer, busy⟩ | ⟨index, slot, located, fresh, answer⟩
          · rw [answer]
            exact .purged unlocked busy
          · rw [answer]
            exact .leased index slot unlocked located fresh
  | dropLease id =>
      cases found : pool.leases.find? (fun lease => lease.id == id) with
      | none => simp only [step, found, reduceCtorEq] at moved
      | some lease =>
          simp only [step, found, Option.some.injEq] at moved
          subst moved
          have same : lease.id = id := by
            simpa only [beq_iff_eq] using List.find?_some found
          subst same
          exact .released lease (List.mem_of_find?_eq_some found)
  | close circuit =>
      by_cases exist : circuit < pool.nextCircuit
      · simp only [step, exist, if_true, Option.some.injEq] at moved
        subst moved
        exact .closed circuit exist
      · simp only [step, exist, if_false, reduceCtorEq] at moved
  | elapse duration =>
      simp only [step, Option.some.injEq] at moved
      subst moved
      exact .elapsed duration
  | wake =>
      cases phase : pool.phase with
      | sleeping wakeAt =>
          by_cases reached : wakeAt <= pool.clock
          · simp only [step, phase, reached, if_true, Option.some.injEq] at moved
            subst moved
            exact .woken wakeAt phase reached
          · simp only [step, phase, reached, if_false, reduceCtorEq] at moved
      | _ => simp only [step, phase, reduceCtorEq] at moved
  | maintain => exact moved_of_maintain moved
  | countReady =>
      cases phase : pool.phase with
      | count =>
          simp only [step, phase, Option.some.injEq] at moved
          subst moved
          exact .counted phase
      | _ => simp only [step, phase, reduceCtorEq] at moved
  | build succeeds =>
      cases phase : pool.phase with
      | build left =>
          cases left with
          | zero => simp only [step, phase, reduceCtorEq] at moved
          | succ left =>
              cases succeeds with
              | true =>
                  simp only [step, phase, if_true, Option.some.injEq] at moved
                  subst moved
                  exact .built left phase
              | false =>
                  simp only [step, phase, Bool.false_eq_true, if_false,
                    Option.some.injEq] at moved
                  subst moved
                  exact .failed left phase
      | _ => simp only [step, phase, reduceCtorEq] at moved
  | push =>
      cases phase : pool.phase with
      | push slot left =>
          simp only [step, phase, Option.some.injEq] at moved
          subst moved
          exact .pushed slot left phase
      | _ => simp only [step, phase, reduceCtorEq] at moved

/-! ## The slots before and after a move -/

theorem mem_of_located {slots : List Slot} {index : Nat} {slot : Slot}
    (located : slots[index]? = some slot) : slot ∈ slots :=
  List.mem_of_getElem? located

/-- Rewriting a slot under its own name changes no name. -/
theorem map_circuit_set {slots : List Slot} {index : Nat} {slot updated : Slot}
    (located : slots[index]? = some slot) (same : updated.circuit = slot.circuit) :
    (slots.set index updated).map Slot.circuit = slots.map Slot.circuit := by
  rcases split_at located with ⟨before, after, split, written, _⟩
  rw [written, split]
  simp only [List.map_append, List.map_cons, same]

/-- The names of the circuits in the pool. -/
def circuits (pool : WarmPool) : List CircuitId :=
  pool.slots.map Slot.circuit

theorem circuits_purge_sublist (pool : WarmPool) :
    pool.purge.circuits.Sublist pool.circuits :=
  List.Sublist.map Slot.circuit List.filter_sublist

theorem circuits_grant {pool : WarmPool} {index : Nat} {slot : Slot}
    (located : pool.slots[index]? = some slot) :
    (pool.grant index slot).circuits = pool.circuits :=
  map_circuit_set located rfl

theorem circuits_mark {pool : WarmPool} {now : Instant} {index : Nat} {slot : Slot}
    (located : pool.slots[index]? = some slot) :
    (pool.mark now index slot).circuits = pool.circuits :=
  map_circuit_set located rfl

theorem circuits_observe {pool : WarmPool} {now : Instant} {index : Nat} {slot : Slot}
    (located : pool.slots[index]? = some slot) :
    (pool.observe now index slot).circuits = pool.circuits :=
  map_circuit_set located rfl

/-- A move never invents a circuit: it keeps some of those present, and only
the push adds one, which is the circuit that was waiting to be pushed. -/
theorem Moved.circuits_sublist {pool next : WarmPool} {action : Action}
    (moved : Moved pool action next) :
    next.circuits.Sublist pool.circuits ∨
      (exists slot left, pool.phase = .push slot left ∧
        next.circuits = pool.circuits ++ [slot.circuit]) := by
  cases moved with
  | purged => exact .inl pool.circuits_purge_sublist
  | leased index slot unlocked located fresh =>
      rw [circuits_grant located]
      exact .inl pool.circuits_purge_sublist
  | marked now index slot phase located fresh due =>
      left
      change (pool.mark now index slot).circuits.Sublist pool.circuits
      rw [circuits_mark located]
  | sampled now index slot phase located due =>
      left
      change (pool.observe now index slot).circuits.Sublist pool.circuits
      rw [circuits_observe located]
  | reaped now index slot phase located doomed =>
      exact .inl (List.Sublist.map Slot.circuit (List.eraseIdx_sublist _ _))
  | pushed slot left phase =>
      refine .inr ⟨slot, left, phase, ?_⟩
      simp only [WarmPool.circuits, pushSlot, List.map_append, List.map_cons, List.map_nil]
  | _ => exact .inl (List.Sublist.refl _)

/-- How one slot may differ after a move.  Draining is entered at most once,
with the deadline of the maintainer's own clock reading, and is not left. -/
structure Continues (pool next : WarmPool) (before after : Slot) : Prop where
  circuit : after.circuit = before.circuit
  draining : after.draining = before.draining ∨
    (before.draining = none ∧ exists now,
      after.draining = some (now + pool.cfg.drainTimeout) ∧
      next.history = pool.history ++ [.retired before.circuit now])

theorem Continues.refl (pool next : WarmPool) (slot : Slot) : Continues pool next slot slot :=
  ⟨rfl, .inl rfl⟩

private theorem continues_of_set {pool next : WarmPool} {slots : List Slot} {index : Nat}
    {slot updated found : Slot} (located : slots[index]? = some slot)
    (member : found ∈ slots.set index updated) (continued : Continues pool next slot updated) :
    exists before, before ∈ slots ∧ Continues pool next before found := by
  rcases List.mem_or_eq_of_mem_set member with old | new
  · exact ⟨found, old, Continues.refl pool next found⟩
  · subst new
    exact ⟨slot, mem_of_located located, continued⟩

/-- Every slot found after a move continues one found before it, or is the
slot that was waiting to be pushed. -/
theorem Moved.slot_origin {pool next : WarmPool} {action : Action}
    (moved : Moved pool action next) {found : Slot} (member : found ∈ next.slots) :
    (exists before, before ∈ pool.slots ∧ Continues pool next before found) ∨
      (exists left, pool.phase = .push found left) := by
  cases moved with
  | purged => exact .inl ⟨found, (mem_purge.mp member).1, Continues.refl _ _ _⟩
  | leased index slot unlocked located fresh =>
      have continued : Continues pool (pool.purge.grant index slot) slot
          { slot with uses := slot.uses + 1 } := ⟨rfl, .inl rfl⟩
      rcases continues_of_set located member continued with ⟨before, old, continued⟩
      exact .inl ⟨before, (mem_purge.mp old).1, continued⟩
  | marked now index slot phase located fresh due =>
      exact .inl (continues_of_set located member ⟨rfl, .inr ⟨fresh, now, rfl, rfl⟩⟩)
  | sampled now index slot phase located due =>
      exact .inl (continues_of_set located member ⟨rfl, .inl rfl⟩)
  | reaped now index slot phase located doomed =>
      exact .inl ⟨found, (List.eraseIdx_sublist _ _).subset member, Continues.refl _ _ _⟩
  | pushed slot left phase =>
      rcases List.mem_append.mp member with old | new
      · exact .inl ⟨found, old, Continues.refl _ _ _⟩
      · rw [List.mem_singleton] at new
        subst new
        exact .inr ⟨left, phase⟩
  | _ => exact .inl ⟨found, member, Continues.refl _ _ _⟩

/-- The configuration is fixed when the pool is spawned. -/
theorem Moved.cfg {pool next : WarmPool} {action : Action} (moved : Moved pool action next) :
    next.cfg = pool.cfg := by
  cases moved <;> rfl

theorem cfg_of_run {start pool : WarmPool} {schedule : List Action}
    (ran : run WarmPool.step start schedule = some pool) : pool.cfg = start.cfg := by
  apply invariant (fun state => state.cfg = start.cfg) _ rfl ran
  intro state action next same stepped
  exact (moved_of_step stepped).cfg.trans same

/-- The history only grows. -/
theorem Moved.history {pool next : WarmPool} {action : Action} (moved : Moved pool action next) :
    pool.history <+: next.history := by
  cases moved with
  | leased index slot unlocked located fresh =>
      exact (List.prefix_append pool.history _).trans (List.prefix_append pool.purge.history _)
  | _ => first
    | exact List.prefix_append _ _
    | exact List.prefix_rfl

end WarmPool
end Pool
end QuicMix
