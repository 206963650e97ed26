import QuicMix.Pool.Drain
import Mathlib.Data.List.Perm.Basic
import Mathlib.Data.List.Perm.Subperm
import Mathlib.Data.List.Range

namespace QuicMix
namespace Pool

open Foundations

/-!
# How many circuits there are, and what the counters count

The refill reads the number of ready circuits once and then builds towards the
target over many moves, during which circuits may die, drain and be purged.
`Budget` is the invariant that excludes overfilling: the ready circuits together
with the builds still owed never exceed the target.  `Ledger` accounts for every
circuit ever built: it is in the pool, or has been removed, or waits to be
pushed, and it is exactly one of these.  `Retirements` says which circuits the
retirement counter has counted.
-/

namespace WarmPool

/-! ## The ready circuits never exceed the target -/

/-- Builds that the refill in progress still owes. -/
def owed : Phase -> Nat
  | .build left => left
  | .push _ left => left + 1
  | _ => 0

theorem owed_refillPhase (pool : WarmPool) (left : Nat) : owed (pool.refillPhase left) = left := by
  unfold refillPhase
  split
  · rename_i none
    exact none.symm
  · rfl

def Budget (pool : WarmPool) : Prop :=
  pool.len + owed pool.phase <= pool.cfg.target

theorem len_purge (pool : WarmPool) : pool.purge.len = pool.len := by
  simp only [len, purge, List.countP_filter]
  congr 1
  funext slot
  cases closed : pool.closed slot.circuit <;> simp [Slot.ready, closed]

/-- A connection that closes takes readiness away from its slot only. -/
theorem ready_of_close {closed : CircuitId -> Bool} {circuit : CircuitId} {slot : Slot}
    (ready : slot.ready (Function.update closed circuit true) = true) :
    slot.ready closed = true := by
  unfold Slot.ready at ready ⊢
  by_cases same : slot.circuit = circuit
  · subst same
    simp only [Function.update_self, Bool.not_true, Bool.and_false, Bool.false_eq_true] at ready
  · rwa [Function.update_of_ne same] at ready

theorem ready_of_build {closed : CircuitId -> Bool} {circuit : CircuitId} {slot : Slot}
    (known : slot.circuit < circuit) :
    slot.ready (Function.update closed circuit false) = slot.ready closed := by
  unfold Slot.ready
  rw [Function.update_of_ne (Nat.ne_of_lt known)]

/-- Rewriting one slot can only lose readiness if the new slot is no more
ready than the old one. -/
theorem countP_set_le {slots : List Slot} {index : Nat} {slot updated : Slot}
    (ready : Slot -> Bool) (located : slots[index]? = some slot)
    (implied : ready updated = true -> ready slot = true) :
    (slots.set index updated).countP ready <= slots.countP ready := by
  rcases split_at located with ⟨before, after, split, written, _⟩
  rw [written, split]
  simp only [List.countP_append, List.countP_cons]
  cases updatedReady : ready updated with
  | true => simp only [implied updatedReady, if_true, Nat.le_refl]
  | false =>
      simp only [Bool.false_eq_true, if_false]
      omega

theorem Moved.len_le {pool next : WarmPool} {action : Action} (names : Identified pool)
    (moved : Moved pool action next) (counting : action ≠ .countReady) :
    next.len + owed next.phase <= pool.len + owed pool.phase := by
  cases moved with
  | purged unlocked busy =>
      rw [len_purge]
      exact Nat.le_refl _
  | leased index slot unlocked located fresh =>
      have bound : (pool.purge.grant index slot).len <= pool.purge.len :=
        countP_set_le _ located id
      rw [len_purge] at bound
      exact Nat.add_le_add_right bound _
  | closed circuit exist =>
      exact Nat.add_le_add_right (List.countP_mono_left fun slot _ => ready_of_close) _
  | marked now index slot phase located fresh due =>
      have bound : (pool.mark now index slot).len <= pool.len :=
        countP_set_le _ located (by simp [Slot.ready])
      rw [phase]
      exact bound
  | sampled now index slot phase located due =>
      have bound : (pool.observe now index slot).len <= pool.len :=
        countP_set_le _ located id
      rw [phase]
      exact bound
  | retireEnded now index phase ended =>
      rw [phase]
      cases measured : pool.measured <;>
        simp only [enter, measured, Bool.false_eq_true, if_false, if_true, owed] <;>
        exact Nat.le_refl _
  | reaped now index slot phase located doomed =>
      exact Nat.add_le_add_right
        (List.Sublist.countP_le (List.eraseIdx_sublist pool.slots index)) _
  | counted phase => exact absurd rfl counting
  | built left phase =>
      have bound : (pool.buildOne left).len <= pool.len := by
        apply List.countP_mono_left
        intro slot member ready
        have known := names.named slot.circuit (List.mem_map_of_mem member)
        rw [← ready_of_build known]
        exact ready
      rw [phase]
      exact Nat.add_le_add_right bound _
  | failed left phase =>
      rw [phase]
      exact Nat.le_add_right _ _
  | pushed slot left phase =>
      have grown : (pool.pushSlot slot left).len =
          pool.len + [slot].countP (Slot.ready pool.closed) := List.countP_append
      have added : [slot].countP (Slot.ready pool.closed) <= 1 := List.countP_le_length
      have remaining : owed (pool.pushSlot slot left).phase = left := pool.owed_refillPhase left
      rw [grown, remaining, phase]
      change _ <= pool.len + (left + 1)
      omega
  | _ => first
    | exact Nat.le_refl _
    | (rw [‹pool.phase = _›]; exact Nat.le_refl _)

theorem Budget.moved {pool next : WarmPool} {action : Action} (sound : Budget pool)
    (names : Identified pool) (moved : Moved pool action next) : Budget next := by
  unfold Budget at *
  rw [moved.cfg]
  by_cases counting : action = .countReady
  · subst counting
    cases moved with
    | counted phase =>
        have same : (pool.enter (pool.refillPhase (pool.cfg.target - pool.len))).len =
            pool.len := rfl
        rw [same, enter, owed_refillPhase]
        omega
  · exact Nat.le_trans (moved.len_le names counting) sound

/-! ## Every circuit ever built is accounted for -/

/-- The circuits that have left the pool, in order. -/
def removed (history : List Event) : List CircuitId :=
  history.filterMap (fun event =>
    match event with
    | .purged circuit => some circuit
    | .reaped circuit _ => some circuit
    | _ => none)

/-- The circuit that has been built and not yet pushed, if there is one. -/
def waiting : Phase -> List CircuitId
  | .push slot _ => [slot.circuit]
  | _ => []

theorem waiting_refillPhase (pool : WarmPool) (left : Nat) :
    waiting (pool.refillPhase left) = [] := by
  unfold refillPhase
  split <;> rfl

theorem waiting_length_le (phase : Phase) : (waiting phase).length <= 1 := by
  cases phase <;> simp [waiting]

/-- The circuits in the pool, the removed ones and the waiting one are together
the circuits built so far, each listed once. -/
structure Ledger (pool : WarmPool) : Prop where
  complete : (pool.circuits ++ (removed pool.history ++ waiting pool.phase)).Perm
    (List.range pool.built)
  numbered : pool.nextCircuit = pool.built

theorem removed_purge (pool : WarmPool) :
    removed pool.purge.history = removed pool.history ++
      (pool.slots.filter (fun slot => pool.closed slot.circuit)).map Slot.circuit := by
  have events : forall slots : List Slot,
      removed (slots.map (fun slot => Event.purged slot.circuit)) = slots.map Slot.circuit := by
    intro slots
    exact (List.filterMap_map).trans (congrFun List.filterMap_eq_map' slots)
  simp only [purge]
  unfold removed at events ⊢
  rw [List.filterMap_append, events]

theorem ledger_purge {pool : WarmPool} (sound : Ledger pool) : Ledger pool.purge where
  complete := by
    refine List.Perm.trans ?_ sound.complete
    rw [removed_purge]
    have parts := (List.filter_append_perm (fun slot => !pool.closed slot.circuit)
      pool.slots).map Slot.circuit
    simp only [Bool.not_not, List.map_append] at parts
    change (pool.purge.circuits ++ (removed pool.history ++ _ ++ waiting pool.phase)).Perm _
    rw [List.append_assoc, ← List.append_assoc pool.purge.circuits]
    refine List.Perm.trans ?_ (parts.append_right _)
    simp only [WarmPool.circuits, purge, List.append_assoc]
    apply List.Perm.append_left _
    simp only [← List.append_assoc]
    exact List.Perm.append_right _ List.perm_append_comm
  numbered := sound.numbered

/-- The ledger speaks only of the names, the removals and the waiting one. -/
theorem Ledger.of_same {pool next : WarmPool} (sound : Ledger pool)
    (circuits : next.circuits = pool.circuits)
    (gone : removed next.history = removed pool.history)
    (waits : waiting next.phase = waiting pool.phase)
    (built : next.built = pool.built) (numbered : next.nextCircuit = pool.nextCircuit) :
    Ledger next where
  complete := by
    rw [circuits, gone, waits, built]
    exact sound.complete
  numbered := by rw [numbered, built, sound.numbered]

theorem removed_append_retired (history : List Event) (circuit : CircuitId) (now : Instant) :
    removed (history ++ [.retired circuit now]) = removed history := by
  simp only [removed, List.filterMap_append, List.filterMap_cons, List.filterMap_nil,
    List.append_nil]

theorem removed_append_leased (history : List Event) (circuit : CircuitId) (moment : Instant) :
    removed (history ++ [.leased circuit moment]) = removed history := by
  simp only [removed, List.filterMap_append, List.filterMap_cons, List.filterMap_nil,
    List.append_nil]

theorem removed_append_reaped (history : List Event) (circuit : CircuitId) (now : Instant) :
    removed (history ++ [.reaped circuit now]) = removed history ++ [circuit] := by
  simp only [removed, List.filterMap_append, List.filterMap_cons, List.filterMap_nil]

theorem Ledger.moved {pool next : WarmPool} {action : Action} (sound : Ledger pool)
    (moved : Moved pool action next) : Ledger next := by
  cases moved with
  | purged unlocked busy => exact ledger_purge sound
  | leased index slot unlocked located fresh =>
      exact (ledger_purge sound).of_same (circuits_grant located)
        (removed_append_leased _ _ _) rfl rfl rfl
  | marked now index slot phase located fresh due =>
      exact sound.of_same (circuits_mark located) (removed_append_retired _ _ _)
        (by rw [phase]; rfl) rfl rfl
  | sampled now index slot phase located due =>
      exact sound.of_same (circuits_observe located) rfl (by rw [phase]; rfl) rfl rfl
  | reaped now index slot phase located doomed =>
      refine ⟨List.Perm.trans ?_ sound.complete, sound.numbered⟩
      rcases split_at located with ⟨before, after, split, _, erased⟩
      have shorter : (pool.reap now index slot).circuits =
          before.map Slot.circuit ++ after.map Slot.circuit := by
        rw [WarmPool.circuits, reap, erased, List.map_append]
      have whole : pool.circuits =
          before.map Slot.circuit ++ slot.circuit :: after.map Slot.circuit := by
        rw [WarmPool.circuits, split, List.map_append, List.map_cons]
      have grown : removed (pool.reap now index slot).history =
          removed pool.history ++ [slot.circuit] := removed_append_reaped _ _ _
      rw [shorter, whole, grown, List.append_assoc, List.append_assoc, List.append_assoc,
        List.singleton_append, List.cons_append]
      apply List.Perm.append_left _
      rw [← List.append_assoc, ← List.append_assoc]
      exact List.perm_middle
  | built left phase =>
      have complete := sound.complete
      rw [phase] at complete
      refine ⟨?_, by rw [buildOne, sound.numbered]⟩
      simp only [buildOne, waiting, List.range_succ, List.append_nil] at complete ⊢
      rw [← List.append_assoc, sound.numbered]
      exact complete.append_right _
  | pushed slot left phase =>
      have complete := sound.complete
      rw [phase] at complete
      refine ⟨List.Perm.trans ?_ complete, sound.numbered⟩
      have idle : waiting (pool.pushSlot slot left).phase = [] := pool.waiting_refillPhase left
      rw [idle]
      simp only [WarmPool.circuits, pushSlot, List.map_append, List.map_cons, List.map_nil,
        List.append_nil, waiting, List.append_assoc]
      exact List.Perm.append_left _ List.perm_append_comm
  | retireEnded now index phase ended =>
      refine sound.of_same rfl rfl ?_ rfl rfl
      rw [phase]
      cases measured : pool.measured <;> simp [enter, waiting, measured]
  | counted phase =>
      refine sound.of_same rfl rfl ?_ rfl rfl
      rw [phase]
      exact pool.waiting_refillPhase _
  | _ => first
    | exact sound.of_same rfl rfl rfl rfl rfl
    | exact sound.of_same rfl rfl (by rw [‹pool.phase = _›]; rfl) rfl rfl

/-! ## What the retirement counter counts -/

/-- The circuits that have been marked draining, in order. -/
def retirements (history : List Event) : List CircuitId :=
  history.filterMap (fun event =>
    match event with
    | .retired circuit _ => some circuit
    | _ => none)

theorem retirements_append_retired (history : List Event) (circuit : CircuitId) (now : Instant) :
    retirements (history ++ [.retired circuit now]) = retirements history ++ [circuit] := by
  simp only [retirements, List.filterMap_append, List.filterMap_cons, List.filterMap_nil]

structure Retirements (pool : WarmPool) : Prop where
  counted : pool.retired = (retirements pool.history).length
  once : (retirements pool.history).Nodup
  known : forall circuit, circuit ∈ retirements pool.history -> circuit < pool.nextCircuit
  draining : forall slot, slot ∈ pool.slots ->
    (slot.draining ≠ none <-> slot.circuit ∈ retirements pool.history)
  pushing : forall slot left, pool.phase = .push slot left ->
    slot.circuit ∉ retirements pool.history

/-- A move marks one circuit, which was in the pool and not draining, or none. -/
theorem Moved.retirements_cases {pool next : WarmPool} {action : Action}
    (moved : Moved pool action next) :
    (next.retired = pool.retired ∧ retirements next.history = retirements pool.history) ∨
    (exists now index slot, pool.phase = .retire now index ∧ pool.slots[index]? = some slot ∧
      slot.draining = none ∧
      next = (pool.mark now index slot).enter (.retire now (index + 1))) := by
  have purging : retirements pool.purge.history = retirements pool.history := by
    simp only [purge, retirements, List.filterMap_append]
    refine List.append_right_eq_self.mpr (List.filterMap_eq_nil_iff.mpr ?_)
    intro event listed
    rcases List.mem_map.mp listed with ⟨slot, _, purged⟩
    subst purged
    rfl
  cases moved with
  | purged unlocked busy => exact .inl ⟨rfl, purging⟩
  | leased index slot unlocked located fresh =>
      refine .inl ⟨rfl, Eq.trans ?_ purging⟩
      simp only [grant, retirements, List.filterMap_append, List.filterMap_cons,
        List.filterMap_nil, List.append_nil]
  | marked now index slot phase located fresh due =>
      exact .inr ⟨now, index, slot, phase, located, fresh, rfl⟩
  | reaped now index slot phase located doomed =>
      refine .inl ⟨rfl, ?_⟩
      simp only [reap, retirements, List.filterMap_append, List.filterMap_cons,
        List.filterMap_nil, List.append_nil]
  | _ => exact .inl ⟨rfl, rfl⟩

/-- Where no circuit is marked, slots keep their draining state. -/
theorem Continues.draining_eq {pool next : WarmPool} {before after : Slot}
    (continued : Continues pool next before after)
    (same : retirements next.history = retirements pool.history) :
    after.draining = before.draining := by
  rcases continued.draining with unchanged | ⟨_, now, _, recorded⟩
  · exact unchanged
  · rw [recorded, retirements_append_retired] at same
    exact absurd same (by simp)

theorem Retirements.marked {pool : WarmPool} (sound : Retirements pool) (names : Identified pool)
    (now : Instant) {index : Nat} {slot : Slot}
    (located : pool.slots[index]? = some slot) (fresh : slot.draining = none) :
    Retirements ((pool.mark now index slot).enter (.retire now (index + 1))) := by
  have grown := retirements_append_retired pool.history slot.circuit now
  have member := mem_of_located located
  have unmarked : slot.circuit ∉ retirements pool.history := by
    intro marked
    exact (sound.draining slot member).mpr marked fresh
  refine ⟨?_, ?_, ?_, ?_, ?_⟩
  · change pool.retired + 1 = (retirements (pool.history ++ [.retired slot.circuit now])).length
    rw [grown, List.length_append, List.length_singleton, sound.counted]
  · change (retirements (pool.history ++ [.retired slot.circuit now])).Nodup
    rw [grown]
    apply List.nodup_append.mpr ⟨sound.once, List.nodup_singleton _, _⟩
    intro circuit old other new same
    rw [same, List.mem_singleton.mp new] at old
    exact unmarked old
  · intro circuit listed
    change circuit ∈ retirements (pool.history ++ [.retired slot.circuit now]) at listed
    rw [grown] at listed
    rcases List.mem_append.mp listed with old | new
    · exact sound.known circuit old
    · rw [List.mem_singleton] at new
      subst new
      exact names.named _ (List.mem_map_of_mem member)
  · intro found listed
    change found.draining ≠ none <->
      found.circuit ∈ retirements (pool.history ++ [.retired slot.circuit now])
    change found ∈ pool.slots.set index _ at listed
    rw [grown, List.mem_append, List.mem_singleton]
    rcases split_at located with ⟨before, after, split, written, _⟩
    have apart : forall other, other ∈ before ++ after -> other.circuit ≠ slot.circuit := by
      intro other elsewhere same
      have distinct := names.distinct
      rw [WarmPool.circuits, split, List.map_append, List.map_cons] at distinct
      apply (List.nodup_middle.mp distinct).notMem
      rw [← same, ← List.map_append]
      exact List.mem_map_of_mem elsewhere
    have elsewhere : found ∈ before ++ after ∨
        found = { slot with draining := some (now + pool.cfg.drainTimeout) } := by
      rw [written] at listed
      rcases List.mem_append.mp listed with early | late
      · exact .inl (List.mem_append_left _ early)
      · rcases List.mem_cons.mp late with same | late
        · exact .inr same
        · exact .inl (List.mem_append_right _ late)
    rcases elsewhere with elsewhere | same
    · have old : found ∈ pool.slots := by
        rw [split]
        rcases List.mem_append.mp elsewhere with early | late
        · exact List.mem_append_left _ early
        · exact List.mem_append_right _ (List.mem_cons_of_mem _ late)
      rw [sound.draining found old]
      exact ⟨.inl, fun listed => listed.resolve_right (apart found elsewhere)⟩
    · subst same
      exact ⟨fun _ => .inr rfl, fun _ => Option.some_ne_none _⟩
  · intro found left impossible
    cases impossible

theorem Retirements.moved {pool next : WarmPool} {action : Action} (sound : Retirements pool)
    (names : Identified pool) (moved : Moved pool action next) : Retirements next := by
  rcases moved.retirements_cases with
    ⟨counter, same⟩ | ⟨now, index, slot, phase, located, fresh, equal⟩
  · refine ⟨?_, ?_, ?_, ?_, ?_⟩
    · rw [counter, same, sound.counted]
    · rw [same]
      exact sound.once
    · intro circuit listed
      rw [same] at listed
      exact Nat.lt_of_lt_of_le (sound.known circuit listed) moved.nextCircuit_le
    · intro found listed
      rw [same]
      rcases moved.slot_origin listed with ⟨before, old, continued⟩ | ⟨left, phase⟩
      · rw [continued.draining_eq same, continued.circuit]
        exact sound.draining before old
      · have unmarked := sound.pushing found left phase
        have fresh := (names.pushing found left phase).2.2
        exact ⟨fun draining => absurd fresh draining, fun listed => absurd listed unmarked⟩
    · intro found left phase
      rw [same]
      rcases moved.push_origin phase with ⟨before, _⟩ | ⟨born, fresh, _, _⟩
      · exact sound.pushing found left before
      · subst fresh
        intro listed
        exact Nat.lt_irrefl _ (sound.known _ listed)
  · subst equal
    exact sound.marked names now located fresh

/-! ## Every run -/

structure Populated (pool : WarmPool) : Prop where
  names : Identified pool
  budget : Budget pool
  ledger : Ledger pool
  retirements : Retirements pool

theorem populated_spawn (cfg : PoolConfig) (measured : Bool) :
    Populated (spawn cfg measured) where
  names := identified_spawn cfg measured
  budget := Nat.zero_le _
  ledger := ⟨List.Perm.refl _, rfl⟩
  retirements := by
    refine ⟨rfl, List.nodup_nil, ?_, ?_, ?_⟩
    · intro circuit listed
      exact absurd listed List.not_mem_nil
    · intro slot listed
      exact absurd listed List.not_mem_nil
    · intro slot left phase
      cases phase

theorem populated_of_run {cfg : PoolConfig} {measured : Bool} {schedule : List Action}
    {pool : WarmPool} (ran : run WarmPool.step (spawn cfg measured) schedule = some pool) :
    Populated pool := by
  refine invariant Populated ?_ (populated_spawn cfg measured) ran
  intro state action next sound stepped
  have moved := moved_of_step stepped
  exact ⟨sound.names.moved moved, sound.budget.moved sound.names moved,
    sound.ledger.moved moved, sound.retirements.moved sound.names moved⟩

/-- The slot is draining, and its circuit was in the given pool without being
so. -/
def newlyDraining (pool : WarmPool) (slot : Slot) : Bool :=
  slot.draining.isSome && pool.slots.any (fun before =>
    before.circuit == slot.circuit && before.draining.isNone)

theorem newlyDraining_of_same {pool : WarmPool} (names : Identified pool) {before slot : Slot}
    (member : before ∈ pool.slots) (circuit : slot.circuit = before.circuit)
    (draining : slot.draining = before.draining) : newlyDraining pool slot = false := by
  apply Bool.eq_false_iff.mpr
  intro became
  rcases Bool.and_eq_true_iff.mp became with ⟨marked, found⟩
  rcases List.any_eq_true.mp found with ⟨other, listed, matched⟩
  rcases Bool.and_eq_true_iff.mp matched with ⟨same, fresh⟩
  have equal := List.inj_on_of_nodup_map names.distinct listed member
    ((beq_iff_eq.mp same).trans circuit)
  subst equal
  rw [draining, Option.isSome_iff_ne_none] at marked
  exact marked (Option.isNone_iff_eq_none.mp fresh)

/-- The counter moves by the number of circuits that become draining. -/
theorem Populated.retired_step {pool next : WarmPool} {action : Action} (sound : Populated pool)
    (moved : Moved pool action next) :
    next.retired = pool.retired + next.slots.countP (newlyDraining pool) := by
  rcases moved.retirements_cases with
    ⟨counter, same⟩ | ⟨now, index, slot, phase, located, fresh, equal⟩
  · have none : next.slots.countP (newlyDraining pool) = 0 := by
      apply List.countP_eq_zero.mpr
      intro found listed
      rw [Bool.not_eq_true]
      rcases moved.slot_origin listed with ⟨before, old, continued⟩ | ⟨left, phase⟩
      · exact newlyDraining_of_same sound.names old continued.circuit
          (continued.draining_eq same)
      · have fresh := (sound.names.pushing found left phase).2.2
        rw [newlyDraining, fresh, Option.isSome_none, Bool.false_and]
    rw [counter, none, Nat.add_zero]
  · subst equal
    rcases split_at located with ⟨before, after, split, written, _⟩
    have elsewhere : forall rest : List Slot, rest ⊆ pool.slots ->
        rest.countP (newlyDraining pool) = 0 := by
      intro rest inside
      apply List.countP_eq_zero.mpr
      intro found listed
      rw [Bool.not_eq_true]
      exact newlyDraining_of_same sound.names (inside listed) rfl rfl
    have early := elsewhere before (by
      rw [split]
      exact List.subset_append_left _ _)
    have late := elsewhere after (by
      rw [split]
      exact List.subset_append_of_subset_right _ (List.subset_cons_self _ _))
    have here : newlyDraining pool
        { slot with draining := some (now + pool.cfg.drainTimeout) } = true := by
      refine Bool.and_eq_true_iff.mpr ⟨rfl, List.any_eq_true.mpr
        ⟨slot, mem_of_located located, ?_⟩⟩
      rw [fresh, beq_self_eq_true]
      rfl
    simp only [enter, mark, written, List.countP_append, List.countP_cons, early, late, here,
      if_true]

theorem retired_le_built {pool : WarmPool} (sound : Populated pool) :
    pool.retired <= pool.built := by
  rw [sound.retirements.counted, ← sound.ledger.numbered]
  have inside : WarmPool.retirements pool.history ⊆ List.range pool.nextCircuit := by
    intro circuit listed
    exact List.mem_range.mpr (sound.retirements.known circuit listed)
  have bound := (sound.retirements.once.subperm inside).length_le
  rwa [List.length_range] at bound

/-- A failed build, and nothing else, moves the failure counter. -/
theorem Moved.buildErrors {pool next : WarmPool} {action : Action}
    (moved : Moved pool action next) :
    next.buildErrors = pool.buildErrors + if action == .build false then 1 else 0 := by
  cases moved <;> rfl

/-- The population of a pool and its counters, in every state it reaches: the
ready circuits never exceed the target; the circuits built are those in the
pool, those removed and at most one that waits to be pushed, each once; the
retirement counter has counted distinct circuits, namely those that drain, each
in the move in which it became draining; and the failure counter is the number
of failed builds. -/
theorem population (cfg : PoolConfig) (measured : Bool) (schedule : List Action)
    (pool : WarmPool) (ran : run WarmPool.step (spawn cfg measured) schedule = some pool) :
    pool.len <= cfg.target ∧
    (pool.circuits ++ (removed pool.history ++ waiting pool.phase)).Perm
      (List.range pool.built) ∧
    pool.built = pool.slots.length + (removed pool.history).length +
      (waiting pool.phase).length ∧
    (waiting pool.phase).length <= 1 ∧
    pool.retired = (retirements pool.history).length ∧
    (retirements pool.history).Nodup ∧
    (forall slot, slot ∈ pool.slots ->
      (slot.draining ≠ none <-> slot.circuit ∈ retirements pool.history)) ∧
    (forall action next, pool.step action = some next ->
      next.retired = pool.retired + next.slots.countP (newlyDraining pool)) ∧
    pool.retired <= pool.built ∧
    pool.buildErrors = schedule.count (.build false) := by
  have sound := populated_of_run ran
  have config : pool.cfg = cfg := cfg_of_run ran
  refine ⟨?_, sound.ledger.complete, ?_, waiting_length_le _, sound.retirements.counted,
    sound.retirements.once, sound.retirements.draining, ?_, retired_le_built sound, ?_⟩
  · have budget := sound.budget
    unfold Budget at budget
    rw [config] at budget
    exact Nat.le_trans (Nat.le_add_right _ _) budget
  · have lengths := sound.ledger.complete.length_eq
    simp only [List.length_append, List.length_range, WarmPool.circuits,
      List.length_map] at lengths
    omega
  · intro action next stepped
    exact sound.retired_step (moved_of_step stepped)
  · have counted := counter_of_run (fun _ => True) WarmPool.buildErrors
      (fun action => action == .build false) (fun _ _ _ _ _ => trivial)
      (fun _ _ _ _ stepped => (moved_of_step stepped).buildErrors) trivial ran
    rw [counted, List.count]
    exact Nat.zero_add _

/-- A two-circuit pool whose second build fails at first: the one circuit is
leased and retired, and the refill is halfway through replacing it. -/
def refillSchedule : List Action :=
  [.countReady, .build true, .push, .build false, .pick, .elapse 40, .wake, .maintain, .maintain,
    .maintain, .maintain, .countReady, .build true]

theorem population_refilling :
    exists pool,
      run WarmPool.step (spawn { rotating with target := 2 } false) refillSchedule = some pool ∧
      pool.len <= 2 ∧ pool.retired <= pool.built ∧ waiting pool.phase = [1] ∧
      pool.built = 2 ∧ pool.retired = 1 ∧ pool.buildErrors = 1 := by
  refine ⟨_, rfl, ?_⟩
  have counted := population { rotating with target := 2 } false refillSchedule _ rfl
  exact ⟨counted.1, counted.2.2.2.2.2.2.2.2.1, rfl, rfl, rfl, rfl⟩

end WarmPool
end Pool
end QuicMix
