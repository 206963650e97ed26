import QuicMix.Foundations.Buffered
import QuicMix.Pool.Population

namespace QuicMix
namespace Pool

open Foundations

/-!
# One round of maintenance heals the pool

A round begins when the maintainer wakes.  It walks over the slots under the
mutex, releases it, counts the ready circuits and builds what is missing.
Requests and the destructors of leases come in between, and time passes, but no
connection closes.  A round comes to its end unless the walk panics at the deadline
of a circuit that it retires.

`Swept` follows the walk: behind it every connection is live, and so a request
has nothing to purge once the walk is over.  `Refilling` follows the refill and
compares the pool with what it was when the walk was over.
-/

/-- The outcome of a build. -/
def Action.outcome : Action -> List Bool
  | .build succeeds => [succeeds]
  | _ => []

/-- The move is the maintainer's. -/
def Action.maintains : Action -> Bool
  | .maintain => true
  | .countReady => true
  | .build _ => true
  | .push => true
  | _ => false

namespace WarmPool

/-- Every connection in the pool is live. -/
def Open (pool : WarmPool) : Prop :=
  forall slot, slot ∈ pool.slots -> pool.closed slot.circuit = false

/-! ## The walk -/

/-- The connections of the slots behind the walk are live. -/
structure Swept (pool : WarmPool) : Prop where
  behind : forall now index, pool.phase = .reap now index ->
    forall slot, slot ∈ pool.slots.take index -> pool.closed slot.circuit = false
  whole : pool.phase = .count -> pool.Open

theorem Open.purge {pool : WarmPool} (live : pool.Open) : pool.purge.slots = pool.slots := by
  apply List.filter_eq_self.mpr
  intro slot member
  rw [live slot member]
  rfl

theorem Open.leased {pool : WarmPool} (live : pool.Open) {index : Nat} {slot : Slot}
    (located : pool.purge.slots[index]? = some slot) : (pool.purge.grant index slot).Open := by
  intro found member
  have listed : found ∈ pool.purge.slots.set index { slot with uses := slot.uses + 1 } := member
  rw [live.purge] at located listed
  rcases List.mem_or_eq_of_mem_set listed with old | new
  · exact live found old
  · rw [new]
    exact live slot (mem_of_located located)

/-- Walking is holding the mutex. -/
theorem not_reap_of_unlocked {pool : WarmPool} (unlocked : pool.locked = false) {now : Instant}
    {index : Nat} (phase : pool.phase = .reap now index) : False := by
  rw [locked, phase] at unlocked
  cases unlocked

theorem refillPhase_ne_count (pool : WarmPool) (left : Nat) : pool.refillPhase left ≠ .count := by
  unfold refillPhase
  split <;> exact nofun

theorem refillPhase_ne_reap (pool : WarmPool) (left : Nat) (now : Instant) (index : Nat) :
    pool.refillPhase left ≠ .reap now index := by
  unfold refillPhase
  split <;> exact nofun

theorem swept_begin {pool : WarmPool} {now : Instant} (phase : pool.phase = .reap now 0) :
    Swept pool where
  behind := by
    intro other index same slot member
    rw [phase] at same
    cases same
    exact absurd member List.not_mem_nil
  whole := by
    intro same
    rw [phase] at same
    cases same

theorem swept_of_elsewhere {pool : WarmPool} (counting : pool.phase ≠ .count)
    (reaping : forall now index, pool.phase ≠ .reap now index) : Swept pool :=
  ⟨fun now index phase => absurd phase (reaping now index), fun phase => absurd phase counting⟩

/-- The walk goes on over a slot that stays. -/
theorem Swept.kept {pool : WarmPool} (swept : Swept pool) {now : Instant} {index : Nat}
    {slot : Slot} (phase : pool.phase = .reap now index)
    (located : pool.slots[index]? = some slot) (live : pool.closed slot.circuit = false) :
    Swept (pool.enter (.reap now (index + 1))) where
  behind := by
    intro other position same found member
    cases same
    have listed : found ∈ pool.slots.take (index + 1) := member
    rw [List.take_add_one, located] at listed
    rcases List.mem_append.mp listed with old | new
    · exact swept.behind now index phase found old
    · rw [List.mem_singleton.mp new]
      exact live
  whole := nofun

theorem Swept.moved {pool next : WarmPool} {action : Action} (swept : Swept pool)
    (unclosed : forall circuit, action ≠ .close circuit) (moved : Moved pool action next) :
    Swept next := by
  cases moved with
  | purged unlocked busy =>
      refine ⟨fun now index phase => (not_reap_of_unlocked unlocked phase).elim, ?_⟩
      intro phase slot member
      exact (mem_purge.mp member).2
  | leased index slot unlocked located fresh =>
      refine ⟨fun now index phase => (not_reap_of_unlocked unlocked phase).elim, ?_⟩
      intro phase
      exact (swept.whole phase).leased located
  | closed circuit exist => exact absurd rfl (unclosed circuit)
  | retireEnded now index phase ended =>
      cases measured : pool.measured with
      | true => exact swept_of_elsewhere nofun nofun
      | false => exact swept_begin rfl
  | sampleEnded now index phase ended => exact swept_begin rfl
  | reaped now index slot phase located doomed =>
      refine ⟨?_, ?_⟩
      · intro other position same found member
        have here := phase.symm.trans same
        cases here
        apply swept.behind now index phase
        have listed : found ∈ (pool.slots.eraseIdx index).take index := member
        rw [List.take_eraseIdx_eq_take_of_le _ _ _ (Nat.le_refl index)] at listed
        exact listed
      · intro same
        cases phase.symm.trans same
  | kept now index slot phase located safe =>
      exact swept.kept phase located (Bool.or_eq_false_iff.mp safe).1
  | reapEnded now index phase ended =>
      refine ⟨nofun, ?_⟩
      intro _ slot member
      apply swept.behind now index phase
      rw [List.take_of_length_le (List.getElem?_eq_none_iff.mp ended)]
      exact member
  | counted phase =>
      exact swept_of_elsewhere (pool.refillPhase_ne_count _) (pool.refillPhase_ne_reap _)
  | pushed slot left phase =>
      exact swept_of_elsewhere (pool.refillPhase_ne_count _) (pool.refillPhase_ne_reap _)
  | released lease held => exact ⟨swept.behind, swept.whole⟩
  | elapsed duration => exact ⟨swept.behind, swept.whole⟩
  | _ => exact swept_of_elsewhere nofun nofun

/-! ## The refill -/

/-- The pool has what it had at its origin, with circuits added to it. -/
structure Grown (origin pool : WarmPool) (built added : Nat) : Prop where
  names : Identified pool
  live : pool.Open
  config : pool.cfg = origin.cfg
  circuits : pool.circuits = origin.circuits ++ List.range' origin.nextCircuit added
  ready : pool.len = origin.len + added
  counted : pool.built = origin.built + built
  numbered : pool.nextCircuit = origin.nextCircuit + built

/-- Rewriting a slot that stays as ready as it was. -/
theorem countP_set_eq {slots : List Slot} {index : Nat} {slot updated : Slot}
    (ready : Slot -> Bool) (located : slots[index]? = some slot)
    (same : ready updated = ready slot) :
    (slots.set index updated).countP ready = slots.countP ready := by
  rcases split_at located with ⟨before, after, split, written, _⟩
  rw [written, split, List.countP_append, List.countP_append, List.countP_cons, List.countP_cons,
    same]

theorem Grown.self {pool : WarmPool} (names : Identified pool) (live : pool.Open) :
    Grown pool pool 0 0 where
  names := names
  live := live
  config := rfl
  circuits := (List.append_nil _).symm
  ready := rfl
  counted := rfl
  numbered := rfl

/-- A request finds nothing to purge. -/
theorem Grown.purge {origin pool : WarmPool} {built added : Nat}
    (grown : Grown origin pool built added) (names : Identified pool.purge) :
    Grown origin pool.purge built added where
  names := names
  live := fun slot member => (mem_purge.mp member).2
  config := grown.config
  circuits := by
    rw [WarmPool.circuits, grown.live.purge]
    exact grown.circuits
  ready := by
    rw [len_purge]
    exact grown.ready
  counted := grown.counted
  numbered := grown.numbered

theorem Grown.leased {origin pool : WarmPool} {built added : Nat}
    (grown : Grown origin pool built added) {index : Nat} {slot : Slot}
    (located : pool.purge.slots[index]? = some slot)
    (names : Identified (pool.purge.grant index slot)) :
    Grown origin (pool.purge.grant index slot) built added where
  names := names
  live := grown.live.leased located
  config := grown.config
  circuits := by
    rw [circuits_grant located, WarmPool.circuits, grown.live.purge]
    exact grown.circuits
  ready := by
    have same : (pool.purge.grant index slot).len = pool.purge.len :=
      countP_set_eq _ located rfl
    rw [same, len_purge]
    exact grown.ready
  counted := grown.counted
  numbered := grown.numbered

theorem Grown.built {origin pool : WarmPool} {done left : Nat} (grown : Grown origin pool done done)
    (names : Identified (pool.buildOne left)) :
    Grown origin (pool.buildOne left) (done + 1) done where
  names := names
  live := by
    intro slot member
    have known := grown.names.named slot.circuit (List.mem_map_of_mem member)
    change Function.update pool.closed pool.nextCircuit false slot.circuit = false
    rw [Function.update_of_ne (Nat.ne_of_lt known)]
    exact grown.live slot member
  config := grown.config
  circuits := grown.circuits
  ready := by
    refine Eq.trans ?_ grown.ready
    apply List.countP_congr
    intro slot member
    have known := grown.names.named slot.circuit (List.mem_map_of_mem member)
    change slot.ready (Function.update pool.closed pool.nextCircuit false) = true <-> _
    rw [ready_of_build known]
  counted := congrArg (· + 1) grown.counted
  numbered := congrArg (· + 1) grown.numbered

theorem Grown.pushed {origin pool : WarmPool} {done left : Nat} {slot : Slot}
    (grown : Grown origin pool (done + 1) done) (names : Identified (pool.pushSlot slot left))
    (name : slot.circuit = origin.nextCircuit + done) (fresh : slot.draining = none)
    (live : pool.closed slot.circuit = false) :
    Grown origin (pool.pushSlot slot left) (done + 1) (done + 1) where
  names := names
  live := by
    intro found member
    rcases List.mem_append.mp member with old | new
    · exact grown.live found old
    · rw [List.mem_singleton.mp new]
      exact live
  config := grown.config
  circuits := by
    have pushed : (pool.pushSlot slot left).circuits = pool.circuits ++ [slot.circuit] := by
      simp only [WarmPool.circuits, pushSlot, List.map_append, List.map_cons, List.map_nil]
    rw [pushed, grown.circuits, name, List.append_assoc, List.range'_concat, Nat.one_mul]
  ready := by
    have counted : (pool.pushSlot slot left).len =
        pool.len + [slot].countP (Slot.ready pool.closed) := List.countP_append
    have ready : slot.ready pool.closed = true := by
      rw [Slot.ready, fresh, live]
      rfl
    rw [counted, grown.ready, List.countP_singleton, ready]
    exact Nat.add_assoc _ _ _
  counted := grown.counted
  numbered := grown.numbered

/-- Builds that were missing when the walk was over. -/
def missing (pool : WarmPool) : Nat :=
  pool.cfg.target - pool.len

/-- Where the refill stands, with the outcomes of its builds so far. -/
def Refilling (origin : WarmPool) (state : WarmPool × List Bool) : Prop :=
  match state.1.phase with
  | .count => state.2 = [] ∧ Grown origin state.1 0 0 ∧
      state.1.buildErrors = origin.buildErrors
  | .build left => exists done, state.2 = List.replicate done true ∧ 0 < left ∧
      done + left = origin.missing ∧ Grown origin state.1 done done ∧
      state.1.buildErrors = origin.buildErrors
  | .push slot left => exists done, state.2 = List.replicate (done + 1) true ∧
      done + 1 + left = origin.missing ∧ Grown origin state.1 (done + 1) done ∧
      slot.circuit = origin.nextCircuit + done ∧ slot.draining = none ∧
      state.1.closed slot.circuit = false ∧ state.1.buildErrors = origin.buildErrors
  | .sleeping _ =>
      (state.2 = List.replicate origin.missing true ∧
        Grown origin state.1 origin.missing origin.missing ∧
        state.1.buildErrors = origin.buildErrors) ∨
      (exists done, state.2 = List.replicate done true ++ [false] ∧ done < origin.missing ∧
        Grown origin state.1 done done ∧ state.1.buildErrors = origin.buildErrors + 1)
  | _ => False

/-- A move that changes neither the phase nor the counters. -/
theorem Refilling.keep {origin pool next : WarmPool} {builds : List Bool}
    (refilling : Refilling origin (pool, builds)) (phase : next.phase = pool.phase)
    (errors : next.buildErrors = pool.buildErrors) (closed : next.closed = pool.closed)
    (keeps : forall built added, Grown origin pool built added -> Grown origin next built added) :
    Refilling origin (next, builds) := by
  rw [Refilling, phase, errors, closed]
  rw [Refilling] at refilling
  cases stage : pool.phase with
  | count =>
      rw [stage] at refilling
      exact ⟨refilling.1, keeps _ _ refilling.2.1, refilling.2.2⟩
  | build left =>
      rw [stage] at refilling
      rcases refilling with ⟨done, same, more, total, grown, rest⟩
      exact ⟨done, same, more, total, keeps _ _ grown, rest⟩
  | push slot left =>
      rw [stage] at refilling
      rcases refilling with ⟨done, same, total, grown, rest⟩
      exact ⟨done, same, total, keeps _ _ grown, rest⟩
  | sleeping wakeAt =>
      rw [stage] at refilling
      rcases refilling with ⟨same, grown, rest⟩ | ⟨done, same, less, grown, rest⟩
      · exact .inl ⟨same, keeps _ _ grown, rest⟩
      · exact .inr ⟨done, same, less, keeps _ _ grown, rest⟩
  | _ =>
      rw [stage] at refilling
      exact refilling.elim

/-- The refill goes on with what is left, or is complete. -/
theorem refilling_refillPhase {origin pool : WarmPool} {builds : List Bool} {done left : Nat}
    (phase : pool.phase = pool.refillPhase left) (same : builds = List.replicate done true)
    (total : done + left = origin.missing) (grown : Grown origin pool done done)
    (errors : pool.buildErrors = origin.buildErrors) : Refilling origin (pool, builds) := by
  unfold Refilling
  unfold refillPhase at phase
  split at phase
  · rename_i none
    rw [none, Nat.add_zero] at total
    subst total
    rw [phase]
    exact .inl ⟨same, grown, errors⟩
  · rename_i some
    rw [phase]
    exact ⟨done, same, Nat.pos_of_ne_zero some, total, grown, errors⟩

theorem Refilling.moved {origin pool next : WarmPool} {builds : List Bool} {action : Action}
    (refilling : Refilling origin (pool, builds)) (names : Identified next)
    (unclosed : forall circuit, action ≠ .close circuit) (asleep : action ≠ .wake)
    (moved : Moved pool action next) : Refilling origin (next, builds ++ action.outcome) := by
  cases moved with
  | purged unlocked busy =>
      simp only [Action.outcome, List.append_nil]
      exact refilling.keep rfl rfl rfl (fun _ _ grown => grown.purge names)
  | leased index slot unlocked located fresh =>
      simp only [Action.outcome, List.append_nil]
      exact refilling.keep rfl rfl rfl (fun _ _ grown => grown.leased located names)
  | released lease held =>
      simp only [Action.outcome, List.append_nil]
      refine refilling.keep rfl rfl rfl (fun _ _ grown => ?_)
      exact ⟨names, grown.live, grown.config, grown.circuits, grown.ready, grown.counted,
        grown.numbered⟩
  | elapsed duration =>
      simp only [Action.outcome, List.append_nil]
      refine refilling.keep rfl rfl rfl (fun _ _ grown => ?_)
      exact ⟨names, grown.live, grown.config, grown.circuits, grown.ready, grown.counted,
        grown.numbered⟩
  | closed circuit exist => exact absurd rfl (unclosed circuit)
  | woken wakeAt phase reached => exact absurd rfl asleep
  | counted phase =>
      rw [Refilling, phase] at refilling
      rcases refilling with ⟨same, grown, errors⟩
      have stays : Grown origin (pool.enter (pool.refillPhase (pool.cfg.target - pool.len))) 0 0 :=
        ⟨names, grown.live, grown.config, grown.circuits, grown.ready, grown.counted,
          grown.numbered⟩
      refine refilling_refillPhase rfl ?_ ?_ stays errors
      · simp only [Action.outcome, List.append_nil]
        exact same
      · rw [Nat.zero_add, grown.config, grown.ready, Nat.add_zero]
        rfl
  | built left phase =>
      rw [Refilling, phase] at refilling
      rcases refilling with ⟨done, same, _, total, grown, errors⟩
      refine ⟨done, ?_, by omega, grown.built names, grown.numbered, rfl,
        Function.update_self _ _ _, errors⟩
      rw [List.replicate_succ', Action.outcome]
      exact congrArg (· ++ [true]) same
  | failed left phase =>
      rw [Refilling, phase] at refilling
      rcases refilling with ⟨done, same, _, total, grown, errors⟩
      refine .inr ⟨done, ?_, by omega, ?_, congrArg (· + 1) errors⟩
      · exact congrArg (· ++ [false]) same
      · exact ⟨names, grown.live, grown.config, grown.circuits, grown.ready, grown.counted,
          grown.numbered⟩
  | pushed slot left phase =>
      rw [Refilling, phase] at refilling
      rcases refilling with ⟨done, same, total, grown, name, fresh, live, errors⟩
      refine refilling_refillPhase rfl ?_ total (grown.pushed names name fresh live) errors
      simp only [Action.outcome, List.append_nil]
      exact same
  | _ =>
      rw [Refilling, ‹pool.phase = _›] at refilling
      exact refilling.elim

/-! ## A whole round -/

/-- One round of maintenance: the walk from `start`, which ends in `middle`, and
the refill, which ends in `final`.  No connection closes in it. -/
structure Iteration (start middle final : WarmPool) (walk refill : List Action) : Prop where
  walked : run WarmPool.step start (.wake :: walk) = some middle
  released : middle.phase = .count
  refilled : run WarmPool.step middle refill = some final
  ended : exists wakeAt, final.phase = .sleeping wakeAt
  once : .wake ∉ walk ∧ .wake ∉ refill
  unclosed : forall circuit, .close circuit ∉ walk ∧ .close circuit ∉ refill

/-- What a refill with the given outcomes of its builds does to the pool. -/
structure Healed (middle final : WarmPool) (builds : List Bool) : Prop where
  /-- Every build succeeds. -/
  complete : false ∉ builds ->
    builds.length = middle.cfg.target - middle.len ∧
      final.built = middle.built + (middle.cfg.target - middle.len) ∧
      final.len = middle.cfg.target ∧ final.buildErrors = middle.buildErrors
  /-- Some build is the first to fail. -/
  failed : forall before rest, builds = before ++ false :: rest -> false ∉ before ->
    rest = [] ∧ final.built = middle.built + before.length ∧
      final.slots.length = middle.slots.length + before.length ∧
      final.len = middle.len + before.length ∧ final.buildErrors = middle.buildErrors + 1
  /-- No circuit is lost. -/
  kept : middle.circuits <+: final.circuits

theorem Grown.length {origin pool : WarmPool} {built added : Nat}
    (grown : Grown origin pool built added) :
    pool.slots.length = origin.slots.length + added := by
  have lengths := congrArg List.length grown.circuits
  rw [WarmPool.circuits, WarmPool.circuits, List.length_append, List.length_map, List.length_map,
    List.length_range'] at lengths
  exact lengths

theorem healed_of_refilling {middle final : WarmPool} {builds : List Bool} {wakeAt : Instant}
    (within : middle.len <= middle.cfg.target) (phase : final.phase = .sleeping wakeAt)
    (refilling : Refilling middle (final, builds)) : Healed middle final builds := by
  rw [Refilling, phase] at refilling
  rcases refilling with ⟨same, grown, errors⟩ | ⟨done, same, less, grown, errors⟩
  · have same : builds = List.replicate middle.missing true := same
    refine ⟨?_, ?_, ?_⟩
    · intro _
      refine ⟨?_, grown.counted, ?_, errors⟩
      · rw [same, List.length_replicate]
        rfl
      · have ready : final.len = middle.len + middle.missing := grown.ready
        unfold missing at ready
        omega
    · intro before rest split _
      have failure : false ∈ builds := by
        rw [split]
        exact List.mem_append_right before List.mem_cons_self
      rw [same] at failure
      cases List.eq_of_mem_replicate failure
    · rw [grown.circuits]
      exact List.prefix_append _ _
  · have same : builds = List.replicate done true ++ [false] := same
    refine ⟨?_, ?_, ?_⟩
    · intro clear
      rw [same] at clear
      exact absurd (List.mem_append_right _ List.mem_cons_self) clear
    · intro before rest split clear
      have succeeded : forall outcome, outcome ∈ before -> (!outcome) = false := by
        intro outcome member
        cases outcome with
        | true => rfl
        | false => exact absurd member clear
      have started : forall outcome, outcome ∈ List.replicate done true -> (!outcome) = false := by
        intro outcome member
        rw [List.eq_of_mem_replicate member]
        rfl
      rcases @split_unique Bool Bool.not _ _ _ _ _ _ (same.symm.trans split) rfl rfl started
        succeeded with ⟨rfl, _, rest⟩
      rw [List.length_replicate]
      exact ⟨rest.symm, grown.counted, grown.length, grown.ready, errors⟩
    · rw [grown.circuits]
      exact List.prefix_append _ _

/-! ## A round comes to its end -/

/-- The moves that the maintainer still has to make in this round, at most. -/
def remaining (pool : WarmPool) : Nat :=
  match pool.phase with
  | .sleeping _ => 0
  | .retire _ index =>
      (pool.slots.length - index) + 2 * pool.slots.length + 2 * pool.cfg.target + 4
  | .sample _ index => (pool.slots.length - index) + pool.slots.length + 2 * pool.cfg.target + 3
  | .reap _ index => (pool.slots.length - index) + 2 * pool.cfg.target + 2
  | .count => 2 * pool.cfg.target + 1
  | .build left => 2 * left
  | .push _ left => 2 * left + 1
  | .panicked => 0

theorem remaining_refillPhase {pool : WarmPool} {left : Nat}
    (phase : pool.phase = pool.refillPhase left) : pool.remaining = 2 * left := by
  unfold remaining
  rw [phase, refillPhase]
  by_cases none : left = 0
  · rw [if_pos none, none]
  · rw [if_neg none]

/-- Requests do not hold the maintainer up: they cannot reach the slots while it
walks, and afterwards its work does not depend on them. -/
theorem remaining_of_unlocked {pool next : WarmPool} (unlocked : pool.locked = false)
    (phase : next.phase = pool.phase) (config : next.cfg = pool.cfg) :
    next.remaining = pool.remaining := by
  unfold remaining
  rw [phase, config]
  cases stage : pool.phase with
  | retire now index =>
      rw [locked, stage] at unlocked
      cases unlocked
  | sample now index =>
      rw [locked, stage] at unlocked
      cases unlocked
  | reap now index =>
      rw [locked, stage] at unlocked
      cases unlocked
  | _ => rfl

theorem Moved.remaining_lt {pool next : WarmPool} {action : Action} (asleep : action ≠ .wake)
    (moved : Moved pool action next) :
    next.remaining + (if action.maintains then 1 else 0) <= pool.remaining := by
  cases moved with
  | purged unlocked busy =>
      exact Nat.le_of_eq (remaining_of_unlocked unlocked rfl rfl)
  | leased index slot unlocked located fresh =>
      exact Nat.le_of_eq (remaining_of_unlocked unlocked rfl rfl)
  | woken wakeAt phase reached => exact absurd rfl asleep
  | marked now index slot phase located fresh due =>
      have bound := (List.getElem?_eq_some_iff.mp located).1
      simp only [remaining, phase, enter, mark, List.length_set, Action.maintains, if_true]
      omega
  | panicked now index slot phase located due late =>
      simp only [remaining, phase, enter, Action.maintains, if_true]
      omega
  | spared now index slot phase located refused =>
      have bound := (List.getElem?_eq_some_iff.mp located).1
      simp only [remaining, phase, enter, Action.maintains, if_true]
      omega
  | retireEnded now index phase ended =>
      have bound := List.getElem?_eq_none_iff.mp ended
      cases measured : pool.measured <;>
        simp only [remaining, phase, enter, measured, Bool.false_eq_true, if_false, if_true,
          Action.maintains] <;>
        omega
  | sampled now index slot phase located due =>
      have bound := (List.getElem?_eq_some_iff.mp located).1
      simp only [remaining, phase, enter, observe, List.length_set, Action.maintains, if_true]
      omega
  | unsampled now index slot phase located refused =>
      have bound := (List.getElem?_eq_some_iff.mp located).1
      simp only [remaining, phase, enter, Action.maintains, if_true]
      omega
  | sampleEnded now index phase ended =>
      simp only [remaining, phase, enter, Action.maintains, if_true]
      omega
  | reaped now index slot phase located doomed =>
      have bound := (List.getElem?_eq_some_iff.mp located).1
      simp only [remaining, phase, WarmPool.reap, List.length_eraseIdx_of_lt bound,
        Action.maintains, if_true]
      omega
  | kept now index slot phase located safe =>
      have bound := (List.getElem?_eq_some_iff.mp located).1
      simp only [remaining, phase, enter, Action.maintains, if_true]
      omega
  | reapEnded now index phase ended =>
      simp only [remaining, phase, enter, Action.maintains, if_true]
      omega
  | counted phase =>
      rw [remaining_refillPhase rfl]
      simp only [remaining, phase, Action.maintains, if_true]
      omega
  | built left phase =>
      simp only [remaining, phase, buildOne, Action.maintains, if_true]
      omega
  | failed left phase =>
      simp only [remaining, phase, buildFailed, Action.maintains, if_true]
      omega
  | pushed slot left phase =>
      rw [remaining_refillPhase rfl]
      simp only [remaining, phase, Action.maintains, if_true]
      omega
  | _ => exact Nat.le_refl _

theorem isSome_ite {Item : Type} (condition : Prop) [Decidable condition] (first second : Item) :
    (if condition then some first else some second).isSome = true := by
  split <;> rfl

/-- The walk can always go on. -/
theorem maintain_isSome {pool : WarmPool} (walking : pool.locked = true) :
    pool.maintain.isSome = true := by
  cases phase : pool.phase with
  | retire now index =>
      simp only [maintain, phase]
      cases pool.slots[index]? with
      | none => rfl
      | some slot =>
          dsimp only
          split
          · exact isSome_ite _ _ _
          · rfl
  | sample now index =>
      simp only [maintain, phase]
      cases pool.slots[index]? with
      | none => rfl
      | some slot => exact isSome_ite _ _ _
  | reap now index =>
      simp only [maintain, phase]
      cases pool.slots[index]? with
      | none => rfl
      | some slot => exact isSome_ite _ _ _
  | _ =>
      rw [locked, phase] at walking
      cases walking

/-- A maintainer that neither sleeps nor has panicked can move. -/
theorem exists_maintenance {pool : WarmPool} (awake : forall wakeAt, pool.phase ≠ .sleeping wakeAt)
    (up : pool.phase ≠ .panicked) (sized : forall left, pool.phase = .build left -> 0 < left) :
    exists action, action.maintains = true ∧ (pool.step action).isSome = true := by
  cases phase : pool.phase with
  | sleeping wakeAt => exact absurd phase (awake wakeAt)
  | panicked => exact absurd phase up
  | count => exact ⟨.countReady, rfl, by simp only [step, phase, Option.isSome_some]⟩
  | push slot left => exact ⟨.push, rfl, by simp only [step, phase, Option.isSome_some]⟩
  | build left =>
      cases left with
      | zero => exact absurd (sized 0 phase) (Nat.lt_irrefl 0)
      | succ left =>
          exact ⟨.build true, rfl, by simp only [step, phase, if_true, Option.isSome_some]⟩
  | _ => exact ⟨.maintain, rfl, maintain_isSome (by rw [locked, phase])⟩

/-- A refill that has begun has something to build. -/
theorem build_pos_of_run {cfg : PoolConfig} {measured : Bool} {schedule : List Action}
    {pool : WarmPool} (ran : run WarmPool.step (spawn cfg measured) schedule = some pool) :
    forall left, pool.phase = .build left -> 0 < left := by
  refine invariant (fun state => forall left, state.phase = .build left -> 0 < left) ?_ nofun ran
  intro state action next sized stepped left building
  have refill : forall owed, state.refillPhase owed = .build left -> 0 < left := by
    intro owed phase
    unfold refillPhase at phase
    split at phase
    · cases phase
    · rename_i some
      cases phase
      exact Nat.pos_of_ne_zero some
  cases moved_of_step stepped with
  | retireEnded now index phase ended =>
      cases measured : state.measured <;> rw [measured] at building <;> cases building
  | reaped now index slot phase located doomed => exact sized left building
  | counted phase => exact refill _ building
  | pushed slot owed phase => exact refill _ building
  | purged unlocked busy => exact sized left building
  | leased index slot unlocked located fresh => exact sized left building
  | released lease held => exact sized left building
  | elapsed duration => exact sized left building
  | closed circuit exist => exact sized left building
  | _ => cases building

theorem Iteration.swept {start middle final : WarmPool} {walk refill : List Action}
    (round : Iteration start middle final walk refill) : Swept middle := by
  rcases run_cons.mp round.walked with ⟨woken, waking, walked⟩
  refine invariant_of_schedule Swept ?_ ?_ walked
  · intro state action next member swept stepped
    refine swept.moved ?_ (moved_of_step stepped)
    intro circuit same
    exact (round.unclosed circuit).1 (same ▸ member)
  · cases moved_of_step waking with
    | woken wakeAt phase reached => exact swept_of_elsewhere nofun nofun

theorem Iteration.refilling {start middle final : WarmPool} {walk refill : List Action}
    (round : Iteration start middle final walk refill) (names : Identified middle) :
    Refilling middle (final, refill.flatMap Action.outcome) := by
  have live := round.swept.whole round.released
  have logs := run_logged_actions Action.outcome round.refilled []
  have both := invariant_of_schedule
    (fun state => Refilling middle state ∧ Identified state.1) ?_ ?_ logs
  · exact both.1
  · intro state action next member sound stepped
    rcases logged_eq_some stepped with ⟨moves, log⟩
    have moved := moved_of_step moves
    have namesNext := sound.2.moved moved
    refine ⟨?_, namesNext⟩
    rw [show next = (next.1, state.2 ++ action.outcome) from Prod.ext rfl log]
    refine sound.1.moved namesNext ?_ ?_ moved
    · intro circuit same
      exact (round.unclosed circuit).2 (same ▸ member)
    · intro same
      exact round.once.2 (same ▸ member)
  · refine ⟨?_, names⟩
    rw [Refilling, round.released]
    exact ⟨rfl, Grown.self names live, rfl⟩

/-! ## Panics -/

/-- The deadline that a visit of the walk writes down can be represented. -/
def Representable (pool : WarmPool) (action : Action) : Prop :=
  action = .maintain -> forall now index slot, pool.phase = .retire now index ->
    pool.slots[index]? = some slot -> slot.retires pool.cfg pool.clock = true ->
      now + pool.cfg.drainTimeout < instantLimit

theorem representable_of_elsewhere {pool : WarmPool} {action : Action}
    (elsewhere : forall now index, pool.phase ≠ .retire now index) : pool.Representable action :=
  fun _ now index _ phase => absurd phase (elsewhere now index)

/-- Only a visit of the retire walk can panic. -/
theorem up_iff_of_phase {pool next : WarmPool} {phase : Phase} {action : Action}
    (here : pool.phase = phase) (up : phase ≠ .panicked)
    (elsewhere : forall now index, phase ≠ .retire now index) (after : next.phase ≠ .panicked) :
    next.phase ≠ .panicked <-> pool.phase ≠ .panicked ∧ pool.Representable action :=
  iff_of_true after ⟨here ▸ up, representable_of_elsewhere (here ▸ elsewhere)⟩

theorem refillPhase_up (pool : WarmPool) (left : Nat) : pool.refillPhase left ≠ .panicked := by
  unfold refillPhase
  split <;> exact Phase.noConfusion

/-- A maintainer that has panicked stays so, and it panics at a deadline only. -/
theorem Moved.up_iff {pool next : WarmPool} {action : Action} (moved : Moved pool action next) :
    next.phase ≠ .panicked <-> pool.phase ≠ .panicked ∧ pool.Representable action := by
  cases moved with
  | marked now index slot phase located fresh due fits =>
      refine iff_of_true Phase.noConfusion ⟨phase ▸ Phase.noConfusion, ?_⟩
      intro _ other position found same _ _
      cases phase.symm.trans same
      exact fits
  | panicked now index slot phase located due late =>
      refine ⟨fun up => absurd rfl up, ?_⟩
      rintro ⟨_, representable⟩
      exact absurd (representable rfl now index slot phase located due) (Nat.not_lt.mpr late)
  | spared now index slot phase located refused =>
      refine iff_of_true Phase.noConfusion ⟨phase ▸ Phase.noConfusion, ?_⟩
      intro _ other position found same there due
      cases phase.symm.trans same
      cases located.symm.trans there
      exact absurd (refused.symm.trans due) Bool.false_ne_true
  | retireEnded now index phase ended =>
      refine iff_of_true ?_ ⟨phase ▸ Phase.noConfusion, ?_⟩
      · cases measured : pool.measured <;> exact Phase.noConfusion
      · intro _ other position found same there
        cases phase.symm.trans same
        cases ended.symm.trans there
  | reaped now index slot phase located doomed =>
      have up : (Phase.reap now index) ≠ .panicked := Phase.noConfusion
      exact up_iff_of_phase phase up (fun _ _ => Phase.noConfusion) (phase.symm ▸ up)
  | counted phase =>
      exact up_iff_of_phase phase Phase.noConfusion (fun _ _ => Phase.noConfusion)
        (pool.refillPhase_up _)
  | pushed slot left phase =>
      exact up_iff_of_phase phase Phase.noConfusion (fun _ _ => Phase.noConfusion)
        (pool.refillPhase_up left)
  | purged unlocked busy => exact ⟨fun up => ⟨up, fun same => by cases same⟩, And.left⟩
  | leased index slot unlocked located fresh =>
      exact ⟨fun up => ⟨up, fun same => by cases same⟩, And.left⟩
  | released lease held => exact ⟨fun up => ⟨up, fun same => by cases same⟩, And.left⟩
  | closed circuit exist => exact ⟨fun up => ⟨up, fun same => by cases same⟩, And.left⟩
  | elapsed duration => exact ⟨fun up => ⟨up, fun same => by cases same⟩, And.left⟩
  | _ =>
      exact up_iff_of_phase ‹pool.phase = _› Phase.noConfusion (fun _ _ => Phase.noConfusion)
        Phase.noConfusion

theorem up_of_run {start final : WarmPool} {schedule : List Action}
    (ran : run WarmPool.step start schedule = some final) :
    final.phase ≠ .panicked <->
      start.phase ≠ .panicked ∧ Meets WarmPool.step Representable start schedule :=
  iff_meets_of_run Representable (fun _ : WarmPool => True)
    (fun pool : WarmPool => pool.phase ≠ .panicked) (fun _ _ _ _ _ => trivial)
    (fun _ _ _ _ stepped => (moved_of_step stepped).up_iff) trivial ran

/-- After a panic nothing is built or retired, whatever else happens. -/
theorem panicked_of_run {pool later : WarmPool} {future : List Action}
    (down : pool.phase = .panicked) (ran : run WarmPool.step pool future = some later) :
    later.phase = .panicked ∧ later.built = pool.built ∧ later.retired = pool.retired := by
  refine invariant (fun state : WarmPool => state.phase = .panicked ∧ state.built = pool.built ∧
    state.retired = pool.retired) ?_ ⟨down, rfl, rfl⟩ ran
  rintro state action next ⟨phase, built, retired⟩ stepped
  cases moved_of_step stepped with
  | purged unlocked busy => exact ⟨phase, built, retired⟩
  | leased index slot unlocked located fresh => exact ⟨phase, built, retired⟩
  | released lease held => exact ⟨phase, built, retired⟩
  | closed circuit exist => exact ⟨phase, built, retired⟩
  | elapsed duration => exact ⟨phase, built, retired⟩
  | _ => cases phase.symm.trans ‹state.phase = _›

/-! ## Rounds that end -/

/-- What one round of maintenance should do, from its start to any point in it.
Once it is over, exactly the missing circuits were built and the pool is back at
its target if every build succeeded; if one failed, those before it were added, the
failure was counted once and nothing more was built.  No circuit is lost.  Until it
is over the maintainer can move, and it is over after a bounded number of moves. -/
structure Heals (start : WarmPool) (schedule : List Action) : Prop where
  mends : forall walk refill middle final, schedule = walk ++ refill ->
    Iteration start middle final walk refill ->
      Healed middle final (refill.flatMap Action.outcome)
  goes : forall pool, Visits WarmPool.step start (.wake :: schedule) pool ->
    (forall wakeAt, pool.phase ≠ .sleeping wakeAt) ->
      exists action, action.maintains = true ∧ (pool.step action).isSome = true
  bounded : schedule.countP Action.maintains <= 3 * start.slots.length + 2 * start.cfg.target + 4

theorem stuck_of_panicked {pool : WarmPool} (down : pool.phase = .panicked) {action : Action}
    (maintains : action.maintains = true) : pool.step action = none := by
  cases action with
  | maintain => simp only [step, maintain, down]
  | countReady => simp only [step, down]
  | build succeeds => simp only [step, down]
  | push => simp only [step, down]
  | _ => cases maintains

/-- The moves of the maintainer in one round are bounded. -/
theorem maintains_bounded {start final : WarmPool} {schedule : List Action}
    (ran : run WarmPool.step start (.wake :: schedule) = some final) (once : .wake ∉ schedule) :
    schedule.countP Action.maintains <= 3 * start.slots.length + 2 * start.cfg.target + 4 := by
  rcases run_cons.mp ran with ⟨woken, waking, ranRest⟩
  have bound := count_of_run remaining Action.maintains ?_ ranRest
  · cases moved_of_step waking with
    | woken wakeAt phase reached =>
        have initial : (start.enter (.retire start.clock 0)).remaining =
            (start.slots.length - 0) + 2 * start.slots.length + 2 * start.cfg.target + 4 := rfl
        omega
  · intro state action next member stepped
    exact (moved_of_step stepped).remaining_lt (fun same => once (same ▸ member))

theorem Iteration.healed {cfg : PoolConfig} {measured : Bool} {history walk refill : List Action}
    {start middle final : WarmPool}
    (reached : run WarmPool.step (spawn cfg measured) history = some start)
    (round : Iteration start middle final walk refill) :
    Healed middle final (refill.flatMap Action.outcome) := by
  have reachedMiddle : run WarmPool.step (spawn cfg measured) (history ++ .wake :: walk) =
      some middle := run_append_eq_some.mpr ⟨start, reached, round.walked⟩
  have sound := populated_of_run reachedMiddle
  rcases round.ended with ⟨wakeAt, phase⟩
  exact healed_of_refilling (Nat.le_trans (Nat.le_add_right _ _) sound.budget) phase
    (round.refilling sound.names)

/-- One round of maintenance, from any state that a pool reaches, heals the pool
exactly if every deadline that its walk writes down can be represented. -/
theorem self_healing_iff (cfg : PoolConfig) (measured : Bool) (history schedule : List Action)
    (start final : WarmPool)
    (reached : run WarmPool.step (spawn cfg measured) history = some start)
    (ran : run WarmPool.step start (.wake :: schedule) = some final)
    (once : .wake ∉ schedule) :
    Heals start schedule <-> Meets WarmPool.step Representable start (.wake :: schedule) := by
  have asleep : start.phase ≠ .panicked := by
    rcases run_cons.mp ran with ⟨woken, waking, _⟩
    cases moved_of_step waking with
    | woken wakeAt phase _ => exact phase ▸ Phase.noConfusion
  constructor
  · intro heals
    refine ((up_of_run ran).mp ?_).2
    intro down
    rcases heals.goes final ⟨_, [], (List.append_nil _).symm, ran⟩
      (fun wakeAt => down ▸ Phase.noConfusion) with ⟨action, maintains, moves⟩
    rw [stuck_of_panicked down maintains] at moves
    cases moves
  · intro representable
    refine ⟨?_, ?_, maintains_bounded ran once⟩
    · intro walk refill middle ended _ round
      exact round.healed reached
    · rintro pool ⟨before, after, split, ranBefore⟩ awake
      rw [split] at representable
      exact exists_maintenance awake ((up_of_run ranBefore).mpr ⟨asleep, representable.front⟩)
        (build_pos_of_run (run_append_eq_some.mpr ⟨start, reached, ranBefore⟩))

/-- A pool of three circuits after its pre-warming, and a round in which the first
circuit has been used up: it is retired and reaped between two requests, and of the
builds that make up for it and for the one that failed before the second fails. -/
def healingHistory : List Action :=
  [.countReady, .build true, .push, .build true, .push, .build false, .pick, .elapse 40]

def healingWalk : List Action :=
  [.maintain, .dropLease 0, .maintain, .maintain, .maintain, .maintain, .maintain]

def healingRefill : List Action := [.countReady, .pick, .build true, .push, .build false]

theorem self_healing_iff_second_build_fails :
    exists start final,
      run WarmPool.step (spawn { rotating with target := 3 } false) healingHistory = some start ∧
      run WarmPool.step start (.wake :: (healingWalk ++ healingRefill)) = some final ∧
      Heals start (healingWalk ++ healingRefill) ∧
      final.len = 2 ∧ final.circuits = [1, 2] ∧ final.buildErrors = 2 := by
  have once : Action.wake ∉ healingWalk ++ healingRefill := by decide
  refine ⟨_, _, rfl, rfl, ?_, rfl, rfl, rfl⟩
  apply (self_healing_iff { rotating with target := 3 } false healingHistory
    (healingWalk ++ healingRefill) _ _ rfl rfl once).mpr
  apply ((@up_of_run _ _ _ rfl).mp ?_).2
  exact Phase.noConfusion

/-- The longest `Duration` to drain in, and a circuit that is used up after one
request. -/
def neverDraining : PoolConfig :=
  { rotating with drainTimeout := 2 ^ 64 * 1000000000 - 1 }

/-- The first visit of the walk panics.  No circuit is built from then on, and the
one that is used up goes on being leased. -/
theorem unrepresentable_deadline_ends_maintenance :
    exists start final,
      run WarmPool.step (spawn neverDraining false)
        [.countReady, .build true, .push, .pick, .elapse 40] = some start ∧
      run WarmPool.step start [.wake, .maintain] = some final ∧
      ¬ Heals start [.maintain] ∧
      (forall future later, run WarmPool.step final future = some later ->
        later.built = final.built ∧ later.retired = 0) ∧
      (final.step .pick).map (fun later => later.slots.map Slot.uses) = some [2] := by
  refine ⟨_, _, rfl, rfl, ?_, ?_, rfl⟩
  · intro heals
    rcases heals.goes _ ⟨[.wake, .maintain], [], rfl, rfl⟩ (fun _ => Phase.noConfusion) with
      ⟨action, maintains, moves⟩
    rw [stuck_of_panicked rfl maintains] at moves
    cases moves
  · intro future later continued
    rcases panicked_of_run rfl continued with ⟨_, built, retired⟩
    exact ⟨built, retired⟩

end WarmPool
end Pool
end QuicMix
