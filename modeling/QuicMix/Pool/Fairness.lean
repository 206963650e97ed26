import QuicMix.Foundations.RoundRobin
import QuicMix.Pool.Population
import QuicMix.Pool.Rotation

namespace QuicMix
namespace Pool

open Foundations

/-!
# Balance of the round robin

`pick` reduces one cursor modulo the number of ready circuits, over a list of
positions that it makes anew each time.  Positions move when slots are removed,
but the circuit that is chosen depends only on the cursor and on the sequence of
ready circuits.  As long as the picks find the same sequence they take turns in
it, whatever happens to the other slots between them.
-/

namespace WarmPool

/-- The circuits that are live and not draining, in the order of the slots. -/
def readyCircuits (pool : WarmPool) : List CircuitId :=
  (pool.slots.filter (Slot.ready pool.closed)).map Slot.circuit

/-- The leases granted on a circuit since an earlier state. -/
def grantedSince (earlier pool : WarmPool) (circuit : CircuitId) : Nat :=
  (pool.history.drop earlier.history.length).countP (Event.leases circuit)

/-! ## One pick -/

/-- The list of positions names the ready circuits. -/
theorem map_readyIndices (pool : WarmPool) :
    (readyIndices pool.purge.slots).map
        (fun index => (pool.purge.slots[index]?).map Slot.circuit) =
      pool.readyCircuits.map some := by
  have located := map_filter_range pool.purge.slots (fun slot => slot.draining.isNone)
  have named := congrArg (List.map (Option.map Slot.circuit)) located
  rw [List.map_map, List.map_map] at named
  rw [readyCircuits, List.map_map]
  have ready : pool.purge.slots.filter (fun slot => slot.draining.isNone) =
      pool.slots.filter (Slot.ready pool.closed) := List.filter_filter
  rw [ready] at named
  exact named

theorem length_readyIndices (pool : WarmPool) :
    (readyIndices pool.purge.slots).length = pool.readyCircuits.length := by
  have same := congrArg List.length pool.map_readyIndices
  rw [List.length_map, List.length_map] at same
  exact same

/-- A pick goes to the ready circuit at the cursor. -/
theorem pick_eq_grant {pool : WarmPool} {circuit : CircuitId}
    (turn : pool.readyCircuits[pool.rr % pool.readyCircuits.length]? = some circuit) :
    exists index slot, slot.circuit = circuit ∧ pool.pick.2 = pool.purge.grant index slot := by
  have named := congrArg (fun names => names[pool.rr % pool.readyCircuits.length]?)
    pool.map_readyIndices
  simp only [List.getElem?_map, turn, Option.map_some] at named
  rcases Option.map_eq_some_iff.mp named with ⟨index, chosen, found⟩
  rcases Option.map_eq_some_iff.mp found with ⟨slot, located, same⟩
  refine ⟨index, slot, same, ?_⟩
  rw [← length_readyIndices] at chosen
  have some : (readyIndices pool.purge.slots).isEmpty = false := by
    rw [List.isEmpty_eq_false_iff]
    intro empty
    rw [empty] at chosen
    exact absurd chosen nofun
  simp only [pick, some, Bool.false_eq_true, if_false, chosen, located]

/-- Only a pick grants a lease or moves the cursor. -/
theorem Moved.unserved {pool next : WarmPool} {action : Action} (moved : Moved pool action next)
    (other : action ≠ .pick) :
    next.rr = pool.rr ∧ forall circuit, next.granted circuit = pool.granted circuit := by
  refine ⟨?_, ?_⟩
  · cases moved with
    | purged unlocked busy => exact absurd rfl other
    | leased index slot unlocked located fresh => exact absurd rfl other
    | _ => rfl
  · intro circuit
    rcases moved.granted circuit with ⟨_, _, _, _, picked, _⟩ | unchanged
    · exact absurd picked other
    · exact unchanged

theorem Moved.rr_lt {pool next : WarmPool} {action : Action} (moved : Moved pool action next)
    (inside : pool.rr < usizeModulus) : next.rr < usizeModulus := by
  cases moved with
  | leased index slot unlocked located fresh => exact Nat.mod_lt _ (by decide)
  | _ => exact inside

theorem Identified.readyCircuits_nodup {pool : WarmPool} (names : Identified pool) :
    pool.readyCircuits.Nodup :=
  names.distinct.sublist (List.filter_sublist.map Slot.circuit)

/-! ## Many picks -/

/-- After some picks the cursor has moved by their number, and every ready
circuit has had the leases of the turns that fell on its place. -/
structure Turned (origin : WarmPool) (ready : List CircuitId) (count : Nat) (pool : WarmPool) :
    Prop where
  names : Identified pool
  cursor : pool.rr = (origin.rr + count) % usizeModulus
  shares : forall place circuit, ready[place]? = some circuit ->
    pool.granted circuit = origin.granted circuit +
      ((List.range count).map (fun turn =>
        (origin.rr + turn) % usizeModulus % ready.length)).count place

theorem turned_zero {origin : WarmPool} (ready : List CircuitId) (names : Identified origin)
    (inside : origin.rr < usizeModulus) : Turned origin ready 0 origin where
  names := names
  cursor := (Nat.mod_eq_of_lt inside).symm
  shares := fun _ _ _ => rfl

theorem Turned.pick {origin pool : WarmPool} {ready : List CircuitId} {count : Nat}
    (turned : Turned origin ready count pool) (same : pool.readyCircuits = ready)
    (nonempty : ready ≠ []) (names : Identified pool.pick.2) :
    Turned origin ready (count + 1) pool.pick.2 := by
  have inside : pool.rr % ready.length < ready.length :=
    Nat.mod_lt _ (List.length_pos_of_ne_nil nonempty)
  have occupied : exists leased, ready[pool.rr % ready.length]? = some leased :=
    ⟨_, List.getElem?_eq_getElem inside⟩
  rcases occupied with ⟨leased, turn⟩
  have distinct : ready.Nodup := same ▸ turned.names.readyCircuits_nodup
  rcases pick_eq_grant (by rw [same]; exact turn) with ⟨index, slot, chosen, answer⟩
  refine ⟨names, ?_, ?_⟩
  · rw [answer]
    change (pool.rr + 1) % usizeModulus = _
    rw [turned.cursor, Nat.mod_add_mod, Nat.add_assoc]
  · intro place circuit located
    -- the names are distinct, and so a place and its circuit determine each other
    have hit : leased = circuit <-> pool.rr % ready.length = place := by
      constructor
      · intro equal
        exact (List.getElem?_inj inside distinct).mp (turn.trans (by rw [equal, located]))
      · intro equal
        rw [equal, located] at turn
        exact (Option.some.inj turn).symm
    rw [answer, granted_grant, granted_purge, turned.shares place circuit located, chosen,
      List.range_succ, List.map_append, List.count_append, List.map_singleton,
      List.count_singleton, ← turned.cursor, Nat.add_assoc]
    simp only [hit, beq_iff_eq]

/-- As long as the picks find the same sequence, they take turns in it. -/
theorem turned_of_run {origin pool : WarmPool} {ready : List CircuitId} {schedule : List Action}
    (nonempty : ready ≠ []) (names : Identified origin) (inside : origin.rr < usizeModulus)
    (steady : Meets WarmPool.step
      (fun state action => action = .pick -> state.readyCircuits = ready) origin schedule)
    (ran : run WarmPool.step origin schedule = some pool) :
    Turned origin ready (schedule.countP (· == .pick)) pool := by
  have total := counted_invariant_of_meets _ (· == Action.pick) (Turned origin ready) ?_
    (turned_zero ready names inside) steady ran
  · rw [Nat.zero_add] at total
    exact total
  · intro count state action next same turned stepped
    have moved := moved_of_step stepped
    have kept := turned.names.moved moved
    by_cases picks : action = .pick
    · subst picks
      have answer : next = state.pick.2 := by
        simp only [WarmPool.step] at stepped
        split at stepped
        case isTrue => cases stepped
        case isFalse => exact (Option.some.inj stepped).symm
      subst answer
      exact turned.pick (same rfl) nonempty kept
    · rcases moved.unserved picks with ⟨cursor, granted⟩
      rw [beq_eq_false_iff_ne.mpr picks, if_neg Bool.false_ne_true, Nat.add_zero]
      refine ⟨kept, cursor.trans turned.cursor, ?_⟩
      intro place circuit located
      rw [granted, turned.shares place circuit located]

/-- What was granted since an earlier state of the run comes on top. -/
theorem granted_eq {earlier pool : WarmPool} {schedule : List Action}
    (ran : run WarmPool.step earlier schedule = some pool) (circuit : CircuitId) :
    pool.granted circuit = earlier.granted circuit + grantedSince earlier pool circuit := by
  have grown : earlier.history <+: pool.history := by
    refine invariant (fun state => earlier.history <+: state.history) ?_ List.prefix_rfl ran
    intro state action next past stepped
    exact past.trans (moved_of_step stepped).history
  rcases grown with ⟨rest, split⟩
  rw [granted, granted, grantedSince, ← split, List.drop_left, List.countP_append]

theorem rr_lt_of_run {cfg : PoolConfig} {measured : Bool} {schedule : List Action}
    {pool : WarmPool} (ran : run WarmPool.step (spawn cfg measured) schedule = some pool) :
    pool.rr < usizeModulus := by
  refine invariant (fun state => state.rr < usizeModulus) ?_ (Nat.two_pow_pos 64) ran
  intro state action next inside stepped
  exact (moved_of_step stepped).rr_lt inside

/-- Before the cursor wraps, the turns are those of a counter. -/
theorem Turned.granted_eq_turns {origin pool : WarmPool} {ready : List CircuitId} {count : Nat}
    (turned : Turned origin ready count pool) (unwrapped : origin.rr + count <= usizeModulus)
    {place : Nat} {circuit : CircuitId} (located : ready[place]? = some circuit) :
    pool.granted circuit =
      origin.granted circuit + (turns origin.rr ready.length count).count place := by
  rw [turned.shares place circuit located, turns]
  congr 2
  apply List.map_congr_left
  intro turn member
  have early : origin.rr + turn < usizeModulus :=
    Nat.lt_of_lt_of_le (Nat.add_lt_add_left (List.mem_range.mp member) _) unwrapped
  rw [Nat.mod_eq_of_lt early]

/-- While the picks of a run find the same sequence of ready circuits and the
cursor does not wrap, no circuit is given two leases more than another. -/
theorem pick_balanced (cfg : PoolConfig) (measured : Bool) (before during : List Action)
    (pool final : WarmPool) (ready : List CircuitId)
    (reached : run WarmPool.step (spawn cfg measured) before = some pool)
    (steady : Meets WarmPool.step
      (fun state action => action = .pick -> state.readyCircuits = ready) pool during)
    (unwrapped : pool.rr + during.countP (· == .pick) <= usizeModulus)
    (ran : run WarmPool.step pool during = some final) :
    forall first second, first ∈ ready -> second ∈ ready ->
      grantedSince pool final first <= grantedSince pool final second + 1 := by
  intro first second firstReady secondReady
  have turned := turned_of_run (List.ne_nil_of_mem firstReady) (populated_of_run reached).names
    (rr_lt_of_run reached) steady ran
  rcases List.getElem?_of_mem firstReady with ⟨firstPlace, firstLocated⟩
  rcases List.getElem?_of_mem secondReady with ⟨secondPlace, secondLocated⟩
  have firstShare := turned.granted_eq_turns unwrapped firstLocated
  have secondShare := turned.granted_eq_turns unwrapped secondLocated
  rw [granted_eq ran, Nat.add_left_cancel_iff] at firstShare secondShare
  rw [firstShare, secondShare]
  exact count_turns_balanced (List.getElem?_eq_some_iff.mp firstLocated).1
    (List.getElem?_eq_some_iff.mp secondLocated).1 _

/-- Two circuits are built, and the requests on them end in any order. -/
def prewarmSchedule : List Action :=
  [.countReady, .build true, .push, .build true, .push]

def requestSchedule : List Action :=
  [.pick, .pick, .dropLease 1, .pick, .dropLease 0]

theorem pick_balanced_two :
    exists pool final,
      run WarmPool.step (spawn { rotating with target := 2 } false) prewarmSchedule = some pool ∧
      run WarmPool.step pool requestSchedule = some final ∧
      grantedSince pool final 0 <= grantedSince pool final 1 + 1 ∧
      grantedSince pool final 0 = 2 ∧ grantedSince pool final 1 = 1 := by
  refine ⟨_, _, rfl, rfl, ?_, rfl, rfl⟩
  exact pick_balanced { rotating with target := 2 } false prewarmSchedule requestSchedule _ _ [0, 1]
    rfl (by decide) (by decide) rfl 0 1 (by decide) (by decide)

end WarmPool
end Pool
end QuicMix
