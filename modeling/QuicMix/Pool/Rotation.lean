import QuicMix.Pool.Drain

namespace QuicMix
namespace Pool

open Foundations

/-!
# The rotation budget

A circuit's budget of requests and of age is not looked at when a request is
served.  `pick` only asks whether a circuit is draining, and it is the
maintainer's walk that marks a circuit whose budget is used up.  Requests that
come between the moment a budget is used up and the next walk are therefore
served beyond it, and how many they are depends on the schedule alone.

What the walk does ensure is stated below for every schedule: the request count
it reads is the number of leases granted on the circuit, a circuit that it finds
spent is never leased again, and a circuit that is still on offer when the walk
is over was within its budget.
-/

namespace Event

/-- The event is a lease granted on the circuit. -/
def leases (circuit : CircuitId) : Event -> Bool
  | .leased other _ => other == circuit
  | _ => false

end Event

namespace WarmPool

/-- The number of leases ever granted on a circuit. -/
def granted (pool : WarmPool) (circuit : CircuitId) : Nat :=
  pool.history.countP (Event.leases circuit)

/-! ## Leases and the request counters -/

theorem granted_purge (pool : WarmPool) (circuit : CircuitId) :
    pool.purge.granted circuit = pool.granted circuit := by
  simp only [granted, purge, List.countP_append, List.countP_map, Nat.add_eq_left]
  apply List.countP_eq_zero.mpr
  intro slot _ counted
  exact Bool.noConfusion counted

theorem granted_grant (pool : WarmPool) (index : Nat) (slot : Slot) (circuit : CircuitId) :
    (pool.grant index slot).granted circuit =
      pool.granted circuit + if slot.circuit = circuit then 1 else 0 := by
  simp only [granted, grant, List.countP_append, List.countP_singleton, Event.leases, beq_iff_eq]

/-- A request that finds a slot on offer adds one lease, on that slot's
circuit.  No other move adds one. -/
theorem Moved.granted {pool next : WarmPool} {action : Action}
    (moved : Moved pool action next) (circuit : CircuitId) :
    (exists slot, slot ∈ pool.slots ∧ slot.draining = none ∧ slot.circuit = circuit ∧
      action = .pick ∧ next.granted circuit = pool.granted circuit + 1) ∨
    next.granted circuit = pool.granted circuit := by
  cases moved with
  | purged unlocked busy => exact .inr (pool.granted_purge circuit)
  | leased index slot unlocked located fresh =>
      rw [granted_grant, granted_purge]
      by_cases same : slot.circuit = circuit
      · left
        rw [if_pos same]
        exact ⟨slot, (mem_purge.mp (mem_of_located located)).1, fresh, same, rfl, rfl⟩
      · right
        rw [if_neg same, Nat.add_zero]
  | marked now index slot phase located fresh due =>
      right
      exact (List.countP_append ..).trans (Nat.add_zero _)
  | reaped now index slot phase located doomed =>
      right
      exact (List.countP_append ..).trans (Nat.add_zero _)
  | _ => exact .inr rfl

/-- Each slot's request counter is the number of leases granted on its circuit,
and no lease names a circuit that is yet to be built. -/
structure Tallied (pool : WarmPool) : Prop where
  uses : forall slot, slot ∈ pool.slots -> slot.uses = pool.granted slot.circuit
  pushing : forall slot left, pool.phase = .push slot left ->
    slot.uses = pool.granted slot.circuit
  unborn : forall circuit, pool.nextCircuit <= circuit -> pool.granted circuit = 0

theorem tallied_spawn (cfg : PoolConfig) (measured : Bool) : Tallied (spawn cfg measured) where
  uses := by
    intro slot member
    exact absurd member List.not_mem_nil
  pushing := by
    intro slot left phase
    cases phase
  unborn := fun _ _ => rfl

/-- A move grants no lease on a circuit that is not in the pool. -/
theorem Moved.granted_of_absent {pool next : WarmPool} {action : Action}
    (moved : Moved pool action next) {circuit : CircuitId} (absent : circuit ∉ pool.circuits) :
    next.granted circuit = pool.granted circuit := by
  rcases moved.granted circuit with ⟨slot, member, _, same, _, _⟩ | unchanged
  · refine absurd ?_ absent
    rw [← same]
    exact List.mem_map_of_mem member
  · exact unchanged

theorem Tallied.uses_moved {pool next : WarmPool} {action : Action} (sound : Tallied pool)
    (names : Identified pool) (moved : Moved pool action next) {found : Slot}
    (member : found ∈ next.slots) : found.uses = next.granted found.circuit := by
  cases moved with
  | purged unlocked busy =>
      rw [granted_purge]
      exact sound.uses found (mem_purge.mp member).1
  | leased index slot unlocked located fresh =>
      have distinct := names.distinct.sublist pool.circuits_purge_sublist
      have before := sound.uses slot (mem_purge.mp (mem_of_located located)).1
      rw [granted_grant, granted_purge]
      rcases mem_set_distinct located member with new | ⟨old, apart⟩
      · subst new
        rw [if_pos rfl, ← before]
      · rw [if_neg (Ne.symm (apart Slot.circuit distinct)), Nat.add_zero]
        exact sound.uses found (mem_purge.mp old).1
  | marked now index slot phase located fresh due =>
      have unchanged : forall circuit, ((pool.mark now index slot).enter
          (.retire now (index + 1))).granted circuit = pool.granted circuit :=
        fun circuit => (List.countP_append ..).trans (Nat.add_zero _)
      rw [unchanged]
      rcases List.mem_or_eq_of_mem_set member with old | new
      · exact sound.uses found old
      · subst new
        exact sound.uses slot (mem_of_located located)
  | sampled now index slot phase located due =>
      rcases List.mem_or_eq_of_mem_set member with old | new
      · exact sound.uses found old
      · subst new
        exact sound.uses slot (mem_of_located located)
  | reaped now index slot phase located doomed =>
      have unchanged : forall circuit,
          (pool.reap now index slot).granted circuit = pool.granted circuit :=
        fun circuit => (List.countP_append ..).trans (Nat.add_zero _)
      rw [unchanged]
      exact sound.uses found ((List.eraseIdx_sublist _ _).subset member)
  | pushed slot left phase =>
      rcases List.mem_append.mp member with old | new
      · exact sound.uses found old
      · rw [List.mem_singleton] at new
        subst new
        exact sound.pushing found left phase
  | _ => exact sound.uses found member

theorem Tallied.moved {pool next : WarmPool} {action : Action} (sound : Tallied pool)
    (names : Identified pool) (moved : Moved pool action next) : Tallied next where
  uses := fun _ member => sound.uses_moved names moved member
  pushing := by
    intro slot left phase
    rcases moved.push_origin phase with ⟨before, _⟩ | ⟨born, fresh, _, _⟩
    · rw [moved.granted_of_absent (names.pushing slot left before).2.1]
      exact sound.pushing slot left before
    · subst fresh
      rw [moved.granted_of_absent (fun member => Nat.lt_irrefl _ (names.named _ member))]
      exact (sound.unborn _ (Nat.le_refl _)).symm
  unborn := by
    intro circuit later
    have known := Nat.le_trans moved.nextCircuit_le later
    rw [moved.granted_of_absent (fun member => Nat.not_lt.mpr known (names.named _ member))]
    exact sound.unborn circuit known

/-- The requests of a schedule bound the leases that it adds on one circuit. -/
theorem granted_of_run {pool later : WarmPool} {future : List Action}
    (ran : run WarmPool.step pool future = some later) (circuit : CircuitId) :
    later.granted circuit <= pool.granted circuit + future.countP (· == .pick) := by
  induction future generalizing pool with
  | nil =>
      cases ran
      exact Nat.le_refl _
  | cons action rest inductionHypothesis =>
      rcases run_cons.mp ran with ⟨next, stepped, ranRest⟩
      have bound := inductionHypothesis ranRest
      rw [List.countP_cons]
      rcases (moved_of_step stepped).granted circuit with ⟨_, _, _, _, request, added⟩ | unchanged
      · subst request
        rw [beq_self_eq_true, if_pos rfl]
        omega
      · omega

/-! ## Circuits that are no longer on offer -/

/-- The circuit exists, is not waiting to be pushed, and if it is in the pool
it is draining. -/
structure Withdrawn (circuit : CircuitId) (pool : WarmPool) : Prop where
  known : circuit < pool.nextCircuit
  offered : forall slot, slot ∈ pool.slots -> slot.circuit = circuit -> slot.draining ≠ none
  pushing : forall slot left, pool.phase = .push slot left -> slot.circuit ≠ circuit

theorem Withdrawn.moved {circuit : CircuitId} {pool next : WarmPool} {action : Action}
    (withdrawn : Withdrawn circuit pool) (moved : Moved pool action next) :
    Withdrawn circuit next where
  known := Nat.lt_of_lt_of_le withdrawn.known moved.nextCircuit_le
  offered := by
    intro slot member same fresh
    rcases moved.slot_origin member with ⟨before, old, continued⟩ | ⟨left, phase⟩
    · apply withdrawn.offered before old (continued.circuit.symm.trans same)
      rcases continued.draining with unchanged | ⟨unmarked, _⟩
      · exact unchanged.symm.trans fresh
      · exact unmarked
    · exact withdrawn.pushing slot left phase same
  pushing := by
    intro slot left phase same
    rcases moved.push_origin phase with ⟨before, _⟩ | ⟨born, fresh, _, _⟩
    · exact withdrawn.pushing slot left before same
    · subst fresh
      exact Nat.ne_of_gt withdrawn.known same

theorem Withdrawn.granted {circuit : CircuitId} {pool next : WarmPool} {action : Action}
    (withdrawn : Withdrawn circuit pool) (moved : Moved pool action next) :
    next.granted circuit = pool.granted circuit := by
  rcases moved.granted circuit with ⟨slot, member, fresh, same, _, _⟩ | unchanged
  · exact absurd fresh (withdrawn.offered slot member same)
  · exact unchanged

/-- The walk stands at the circuit's slot, and the visit will not leave it on
offer. -/
def Condemned (circuit : CircuitId) (pool : WarmPool) : Prop :=
  exists now index slot, pool.phase = .retire now index ∧ pool.slots[index]? = some slot ∧
    slot.circuit = circuit ∧
    (slot.draining = none -> (slot.aged pool.cfg pool.clock || slot.used pool.cfg) = true ∧
      now + pool.cfg.drainTimeout < instantLimit)

theorem aged_of_le {cfg : PoolConfig} {earlier later : Instant} {slot : Slot}
    (forward : earlier <= later) (aged : slot.aged cfg earlier = true) :
    slot.aged cfg later = true := by
  rcases (Option.any_eq_true _ _).mp aged with ⟨age, limit, reached⟩
  apply (Option.any_eq_true _ _).mpr
  refine ⟨age, limit, ?_⟩
  rw [decide_eq_true_eq] at reached ⊢
  exact Nat.le_trans reached (Nat.sub_le_sub_right forward _)

/-- What can happen while the walk stands at a position: other parties leave
the slots and the leases granted alone, or the visit is made. -/
theorem Moved.of_retire {pool next : WarmPool} {action : Action}
    (moved : Moved pool action next) {now : Instant} {index : Nat}
    (phase : pool.phase = .retire now index) :
    (next.phase = pool.phase ∧ next.slots = pool.slots ∧ next.history = pool.history ∧
      pool.clock <= next.clock) ∨
    (exists slot, pool.slots[index]? = some slot ∧ slot.draining = none ∧
      next = (pool.mark now index slot).enter (.retire now (index + 1))) ∨
    (exists slot, pool.slots[index]? = some slot ∧ slot.retires pool.cfg pool.clock = false ∧
      next = pool.enter (.retire now (index + 1))) ∨
    ((forall slot, pool.slots[index]? = some slot ->
        slot.draining = none ∧ instantLimit <= now + pool.cfg.drainTimeout) ∧
      forall later position, next.phase ≠ .retire later position) := by
  have held : pool.locked ≠ false := by
    simp only [locked, phase, ne_eq, Bool.true_eq_false, not_false_eq_true]
  cases moved with
  | purged unlocked busy => exact absurd unlocked held
  | leased other found unlocked located fresh => exact absurd unlocked held
  | released lease held => exact .inl ⟨rfl, rfl, rfl, Nat.le_refl _⟩
  | closed other exist => exact .inl ⟨rfl, rfl, rfl, Nat.le_refl _⟩
  | elapsed duration => exact .inl ⟨rfl, rfl, rfl, Nat.le_add_right _ _⟩
  | marked other position slot before located fresh due =>
      rw [phase, Phase.retire.injEq] at before
      rcases before with ⟨rfl, rfl⟩
      exact .inr (.inl ⟨slot, located, fresh, rfl⟩)
  | spared other position slot before located refused =>
      rw [phase, Phase.retire.injEq] at before
      rcases before with ⟨rfl, rfl⟩
      exact .inr (.inr (.inl ⟨slot, located, refused, rfl⟩))
  | retireEnded other position before ended =>
      rw [phase, Phase.retire.injEq] at before
      rcases before with ⟨rfl, rfl⟩
      refine .inr (.inr (.inr ⟨fun slot there => absurd (ended.symm.trans there)
        (Option.some_ne_none slot).symm, ?_⟩))
      intro later place
      cases measured : pool.measured <;>
        simp only [enter, measured, Bool.false_eq_true, if_false, if_true, ne_eq, reduceCtorEq,
          not_false_eq_true]
  | panicked other position slot before located due late =>
      rw [phase, Phase.retire.injEq] at before
      rcases before with ⟨rfl, rfl⟩
      refine .inr (.inr (.inr ⟨?_, fun _ _ => Phase.noConfusion⟩))
      intro found there
      cases located.symm.trans there
      exact ⟨Option.isNone_iff_eq_none.mp (Bool.and_eq_true_iff.mp due).1, late⟩
  | _ =>
      have clash := phase.symm.trans ‹pool.phase = _›
      cases clash

/-- While the walk stands at a condemned slot nothing can be leased, and the
visit itself withdraws the circuit. -/
theorem Condemned.moved {circuit : CircuitId} {pool next : WarmPool} {action : Action}
    (condemned : Condemned circuit pool) (names : Identified pool)
    (moved : Moved pool action next) :
    (Condemned circuit next ∨ Withdrawn circuit next) ∧
      next.granted circuit = pool.granted circuit := by
  rcases condemned with ⟨now, index, slot, phase, located, same, due⟩
  have member := mem_of_located located
  have known : circuit < pool.nextCircuit := same ▸ names.named _ (List.mem_map_of_mem member)
  rcases moved.of_retire phase with ⟨stays, kept, recorded, forward⟩ |
    ⟨found, there, fresh, result⟩ | ⟨found, there, refused, result⟩ | ⟨past, _⟩
  · refine ⟨.inl ⟨now, index, slot, stays.trans phase, kept ▸ located, same, ?_⟩, ?_⟩
    · intro fresh
      rw [moved.cfg]
      refine ⟨?_, (due fresh).2⟩
      rcases Bool.or_eq_true_iff.mp (due fresh).1 with aged | used
      · exact Bool.or_eq_true_iff.mpr (.inl (aged_of_le forward aged))
      · exact Bool.or_eq_true_iff.mpr (.inr used)
    · rw [WarmPool.granted, recorded]
      rfl
  · subst result
    rw [located, Option.some.injEq] at there
    subst there
    refine ⟨.inr ⟨known, ?_, ?_⟩, (List.countP_append ..).trans (Nat.add_zero _)⟩
    · intro later found named
      rcases mem_set_distinct located found with new | ⟨_, apart⟩
      · subst new
        exact Option.some_ne_none _
      · exact absurd (named.trans same.symm) (apart Slot.circuit names.distinct)
    · intro pushed left pushing
      cases pushing
  · subst result
    rw [located, Option.some.injEq] at there
    subst there
    refine ⟨.inr ⟨known, ?_, ?_⟩, rfl⟩
    · intro later found named fresh
      have equal := List.inj_on_of_nodup_map names.distinct found member (named.trans same.symm)
      subst equal
      rw [Slot.retires, fresh, (due fresh).1] at refused
      cases refused
    · intro pushed left pushing
      cases pushing
  · rcases past slot located with ⟨fresh, late⟩
    exact absurd (due fresh).2 (Nat.not_lt.mpr late)

/-- A circuit that the walk finds spent is never leased again. -/
theorem Condemned.granted_of_run {circuit : CircuitId} {pool later : WarmPool}
    {future : List Action} (condemned : Condemned circuit pool) (sound : Drainable pool)
    (ran : run WarmPool.step pool future = some later) :
    later.granted circuit = pool.granted circuit := by
  have kept := invariant (fun state => Drainable state ∧
    (Condemned circuit state ∨ Withdrawn circuit state) ∧
      state.granted circuit = pool.granted circuit) ?_ ⟨sound, .inl condemned, rfl⟩ ran
  · exact kept.2.2
  · intro state action next holds stepped
    rcases holds with ⟨sound, condemned | withdrawn, same⟩
    · have after := condemned.moved sound.names (moved_of_step stepped)
      exact ⟨sound.step stepped, after.1, after.2.trans same⟩
    · have moved := moved_of_step stepped
      exact ⟨sound.step stepped, .inr (withdrawn.moved moved),
        (withdrawn.granted moved).trans same⟩

/-! ## Circuits that are still on offer -/

/-- The slot was within its budget at the given time. -/
def WithinBudget (cfg : PoolConfig) (moment : Instant) (slot : Slot) : Prop :=
  (forall uses, cfg.maxUses = some uses -> slot.uses < uses) ∧
    (forall age, cfg.maxAge = some age -> moment - slot.born < age)

/-- The part of the pool that the walk has passed is draining or was within its
budget when the walk began. -/
def Screened (pool : WarmPool) : Prop :=
  forall now index, pool.phase = .retire now index ->
    forall position slot, position < index -> pool.slots[position]? = some slot ->
      slot.draining = none -> WithinBudget pool.cfg now slot

theorem withinBudget_of_refused {cfg : PoolConfig} {now clock : Instant} {slot : Slot}
    (past : now <= clock) (fresh : slot.draining = none)
    (refused : slot.retires cfg clock = false) : WithinBudget cfg now slot := by
  rw [Slot.retires, fresh, Option.isNone_none, Bool.true_and, Bool.or_eq_false_iff] at refused
  rcases refused with ⟨young, unused⟩
  constructor
  · intro uses limit
    rw [Slot.used, limit, Option.any_some, decide_eq_false_iff_not] at unused
    exact Nat.lt_of_not_le unused
  · intro age limit
    rw [Slot.aged, limit, Option.any_some, decide_eq_false_iff_not] at young
    exact Nat.lt_of_le_of_lt (Nat.sub_le_sub_right past _) (Nat.lt_of_not_le young)

/-- A walk begins at the first position. -/
theorem Moved.retire_origin {pool next : WarmPool} {action : Action}
    (moved : Moved pool action next) {now : Instant} {index : Nat}
    (phase : next.phase = .retire now index) :
    index = 0 ∨ exists position, pool.phase = .retire now position := by
  cases moved with
  | woken wakeAt before reached =>
      cases phase
      exact .inl rfl
  | purged unlocked busy => exact .inr ⟨index, phase⟩
  | leased other slot unlocked located fresh => exact .inr ⟨index, phase⟩
  | released lease held => exact .inr ⟨index, phase⟩
  | closed circuit exist => exact .inr ⟨index, phase⟩
  | elapsed duration => exact .inr ⟨index, phase⟩
  | reaped other position slot before located doomed => exact .inr ⟨index, phase⟩
  | marked other position slot before located fresh due =>
      cases phase
      exact .inr ⟨position, before⟩
  | spared other position slot before located refused =>
      cases phase
      exact .inr ⟨position, before⟩
  | retireEnded other position before ended =>
      cases measured : pool.measured <;>
        simp only [enter, measured, Bool.false_eq_true, if_false, if_true, reduceCtorEq] at phase
  | counted before =>
      simp only [enter, refillPhase] at phase
      split at phase <;> cases phase
  | pushed slot left before =>
      simp only [pushSlot, refillPhase] at phase
      split at phase <;> cases phase
  | _ => cases phase

theorem Screened.moved {pool next : WarmPool} {action : Action} (screened : Screened pool)
    (dates : Dated pool) (moved : Moved pool action next) : Screened next := by
  intro now index phase position slot passed located fresh
  rw [moved.cfg]
  rcases moved.retire_origin phase with first | ⟨stood, before⟩
  · subst first
    exact absurd passed (Nat.not_lt_zero _)
  · have past := dates.past now (by rw [before]; rfl)
    rcases moved.of_retire before with ⟨stays, kept, _, _⟩ | ⟨visited, there, _, result⟩ |
      ⟨visited, there, refused, result⟩ | ⟨_, elsewhere⟩
    · rw [stays] at phase
      rw [kept] at located
      exact screened now index phase position slot passed located fresh
    · subst result
      cases phase
      by_cases here : position = stood
      · subst here
        have bound := (List.getElem?_eq_some_iff.mp there).1
        change (pool.slots.set position _)[position]? = some slot at located
        rw [List.getElem?_set_self bound, Option.some.injEq] at located
        subst located
        cases fresh
      · change (pool.slots.set stood _)[position]? = some slot at located
        rw [List.getElem?_set_ne (Ne.symm here)] at located
        exact screened now stood before position slot (by omega) located fresh
    · subst result
      cases phase
      by_cases here : position = stood
      · subst here
        change pool.slots[position]? = some slot at located
        rw [there, Option.some.injEq] at located
        subst located
        exact withinBudget_of_refused past fresh refused
      · exact screened now stood before position slot (by omega) located fresh
    · exact absurd phase (elsewhere now index)

/-! ## Every run -/

/-- The invariants that the budget argument uses, together. -/
structure Budgeted (pool : WarmPool) : Prop where
  drainable : Drainable pool
  tallied : Tallied pool
  screened : Screened pool

theorem budgeted_of_run {cfg : PoolConfig} {measured : Bool} {schedule : List Action}
    {pool : WarmPool} (ran : run WarmPool.step (spawn cfg measured) schedule = some pool) :
    Budgeted pool := by
  apply invariant Budgeted _ _ ran
  · intro state action next sound stepped
    have moved := moved_of_step stepped
    exact ⟨sound.drainable.step stepped, sound.tallied.moved sound.drainable.names moved,
      sound.screened.moved sound.drainable.dates moved⟩
  · refine ⟨drainable_spawn cfg measured, tallied_spawn cfg measured, ?_⟩
    intro now index phase
    cases phase

/-- The rotation budget, as the maintainer enforces it.  In every state that a
pool reaches, the request counter of each circuit is the number of leases
granted on it.  If the walk stands at a circuit that has had its number of
requests or reached its age, and the deadline for it to drain can be represented,
no schedule leases it again.  And when the walk is over, a circuit that is still
on offer has had fewer requests than its number, so that a later schedule leases
it beyond that number only by requests made since, and it was below its age when
the walk began. -/
theorem rotation_budget_enforced_by_walks (cfg : PoolConfig) (measured : Bool)
    (schedule : List Action) (pool : WarmPool)
    (ran : run WarmPool.step (spawn cfg measured) schedule = some pool) :
    (forall slot, slot ∈ pool.slots -> slot.uses = pool.granted slot.circuit) ∧
    (forall now index slot, pool.phase = .retire now index -> pool.slots[index]? = some slot ->
      (exists uses, cfg.maxUses = some uses ∧ uses <= pool.granted slot.circuit) ∨
        (exists age, cfg.maxAge = some age ∧ age <= pool.clock - slot.born) ->
      (slot.draining = none -> now + cfg.drainTimeout < instantLimit) ->
      forall future later, run WarmPool.step pool future = some later ->
        later.granted slot.circuit = pool.granted slot.circuit) ∧
    (forall now index, pool.phase = .retire now index -> pool.slots[index]? = none ->
      forall slot, slot ∈ pool.slots -> slot.draining = none ->
        (forall uses, cfg.maxUses = some uses -> pool.granted slot.circuit < uses ∧
          forall future later, run WarmPool.step pool future = some later ->
            later.granted slot.circuit < uses + future.countP (· == .pick)) ∧
        (forall age, cfg.maxAge = some age -> now - slot.born < age)) := by
  have sound := budgeted_of_run ran
  have config : pool.cfg = cfg := cfg_of_run ran
  refine ⟨sound.tallied.uses, ?_, ?_⟩
  · intro now index slot phase located spent fits future later continued
    have counted := sound.tallied.uses slot (mem_of_located located)
    refine Condemned.granted_of_run ?_ sound.drainable continued
    refine ⟨now, index, slot, phase, located, rfl, fun fresh => ?_⟩
    rw [config]
    refine ⟨?_, fits fresh⟩
    rcases spent with ⟨uses, limit, reached⟩ | ⟨age, limit, reached⟩
    · rw [← counted] at reached
      simp only [Slot.used, limit, Option.any_some, decide_eq_true reached, Bool.or_true]
    · simp only [Slot.aged, limit, Option.any_some, decide_eq_true reached, Bool.true_or]
  · intro now index phase ended slot member fresh
    rcases List.getElem?_of_mem member with ⟨position, located⟩
    have bound := (List.getElem?_eq_some_iff.mp located).1
    have passed := Nat.lt_of_lt_of_le bound (List.getElem?_eq_none_iff.mp ended)
    have within := sound.screened now index phase position slot passed located fresh
    rw [config] at within
    refine ⟨?_, within.2⟩
    intro uses limit
    have below := within.1 uses limit
    rw [sound.tallied.uses slot member] at below
    refine ⟨below, ?_⟩
    intro future later continued
    have grown := granted_of_run continued slot.circuit
    omega

/-- A one-circuit pool that retires after one request and at the age of 100. -/
def shortLived : PoolConfig := { rotating with maxAge := some 100 }

/-- One request, and the walk that finds the circuit spent.  Another request is
made after it. -/
theorem rotation_budget_enforced_by_walks_rotating :
    exists pool later, run WarmPool.step (spawn rotating false)
        [.countReady, .build true, .push, .pick, .elapse 40, .wake] = some pool ∧
      run WarmPool.step pool [.maintain, .maintain, .maintain, .maintain, .pick] = some later ∧
      pool.granted 0 = 1 ∧ later.granted 0 = 1 := by
  refine ⟨_, _, rfl, rfl, rfl, ?_⟩
  have enforced := (rotation_budget_enforced_by_walks rotating false
    [.countReady, .build true, .push, .pick, .elapse 40, .wake] _ rfl).2.1 40 0
    ⟨0, 0, 1, none, none⟩ rfl rfl
  exact enforced (.inl ⟨1, rfl, Nat.le_refl 1⟩) (fun _ => by decide)
    [.maintain, .maintain, .maintain, .maintain, .pick] _ rfl

/-- Three requests before the maintainer has slept through its first tick, the
last one long after the circuit's age: the circuit has been leased three times
on a budget of one, and once at an age of 200 with 100 allowed. -/
theorem requests_between_walks_exceed_budget :
    exists pool, run WarmPool.step (spawn shortLived false)
        [.countReady, .build true, .push, .pick, .pick, .elapse 200, .pick] = some pool ∧
      shortLived.maxUses = some 1 ∧ shortLived.maxAge = some 100 ∧
      ¬ pool.granted 0 <= 1 ∧
      pool.slots.map Slot.born = [0] ∧ Event.leased 0 200 ∈ pool.history :=
  ⟨_, rfl, rfl, rfl, by decide, rfl, by decide⟩

end WarmPool
end Pool
end QuicMix
