import QuicMix.Pool.Drain
import Mathlib.Data.List.Perm.Basic

namespace QuicMix
namespace Pool

open Foundations

/-!
# The pooled ingress proxy: how long a request keeps its lease

`WarmPool::serve` runs the hyper ingress with the pool as its provider: each
request first picks a lease, which then travels by value through `proxy`.  A
`CONNECT` moves it into a spawned task, where `tunnel` owns it until the splice
ends.  An absolute-form request moves it into `forward`, which owns it until it
returns; and `forward` returns as soon as the upstream has sent the head of its
response.  The body goes on streaming from a separate task that owns the QUIC
stream and no lease.

A request here is one that has been handed a circuit and is not finished.
Finished requests leave the list.
-/

/-- What the proxy reads of a request line. -/
inductive Head where
  | connect (authority : Option String)
  | absolute (host : Option String) (port : Option Nat)
  deriving DecidableEq, Repr

/-- The await points of `tunnel` and `forward`, and the stage after `forward`
has returned. -/
inductive Stage where
  | upgrading
  | tunnelOpening
  | tunnelNaming
  | splicing
  | opening
  | naming
  | handshaking
  | awaiting
  | streaming
  deriving DecidableEq, Repr

namespace Stage

/-- The await point after a successful one.  The splice and the wait for a
response end in their own moves. -/
def next : Stage -> Option Stage
  | upgrading => some tunnelOpening
  | tunnelOpening => some tunnelNaming
  | tunnelNaming => some splicing
  | opening => some naming
  | naming => some handshaking
  | handshaking => some awaiting
  | _ => none

def inTunnel : Stage -> Bool
  | upgrading => true
  | tunnelOpening => true
  | tunnelNaming => true
  | splicing => true
  | _ => false

def inForward : Stage -> Bool
  | opening => true
  | naming => true
  | handshaking => true
  | awaiting => true
  | _ => false

/-- The request still owns the connection it was given. -/
def ownsLease (stage : Stage) : Bool :=
  stage.inTunnel || stage.inForward

end Stage

structure Request where
  lease : Lease
  /-- The line that names the target to the gateway. -/
  target : String
  stage : Stage
  /-- Bytes of the response body relayed so far. -/
  relayed : Nat
  deriving DecidableEq, Repr

inductive Reply where
  | status (code : Nat) (message : String)
  | upstream
  deriving DecidableEq, Repr

structure Ingress where
  pool : WarmPool
  requests : List Request
  replies : List Reply

/-- A move of the pool, of a client or of the upstream side. -/
inductive IngressAction where
  | pool (action : Action)
  | request (head : Head)
  | advance (index : Nat)
  | endTunnel (index : Nat)
  | failForward (index : Nat)
  | abandon (index : Nat)
  | respond (index : Nat) (endOfStream : Bool)
  | relay (index : Nat) (bytes : Nat)
  | endBody (index : Nat)
  deriving DecidableEq, Repr

namespace Ingress

def start (cfg : PoolConfig) (measured : Bool) : Ingress where
  pool := WarmPool.spawn cfg measured
  requests := []
  replies := []

def answer (ingress : Ingress) (reply : Reply) : Ingress :=
  { ingress with replies := ingress.replies ++ [reply] }

/-- The owner of the lease is dropped and the request is over. -/
def finish (ingress : Ingress) (index : Nat) (request : Request) : Ingress :=
  { ingress with
    pool := ingress.pool.release request.lease
    requests := ingress.requests.eraseIdx index }

/-- The request ends without owning a lease any more. -/
def forget (ingress : Ingress) (index : Nat) : Ingress :=
  { ingress with requests := ingress.requests.eraseIdx index }

def setRequest (ingress : Ingress) (index : Nat) (request : Request) : Ingress :=
  { ingress with requests := ingress.requests.set index request }

/-- `proxy`, up to its first await point. -/
def accept (ingress : Ingress) (pool : WarmPool) (lease : Lease) : Head -> Ingress
  | .connect none =>
      { ingress with pool := pool.release lease }.answer
        (.status 400 "CONNECT requires host:port")
  | .connect (some authority) =>
      { ingress with
        pool := pool
        requests := ingress.requests ++
          [Request.mk lease (authority ++ "\n") .upgrading 0] }.answer (.status 200 "")
  | .absolute none _ =>
      { ingress with pool := pool.release lease }.answer
        (.status 502 "quicmix upstream error")
  | .absolute (some host) port =>
      { ingress with
        pool := pool
        requests := ingress.requests ++
          [Request.mk lease (host ++ ":" ++ toString (port.getD 80) ++ "\n") .opening 0] }

/-- `forward` returns the response: the lease goes out of scope here, whether
or not the body has ended. -/
def respond (ingress : Ingress) (index : Nat) (request : Request) (endOfStream : Bool) : Ingress :=
  let returned : Ingress := { ingress with pool := ingress.pool.release request.lease }
  let continued : Ingress :=
    if endOfStream then returned.forget index
    else returned.setRequest index { request with stage := .streaming }
  continued.answer .upstream

def step (ingress : Ingress) : IngressAction -> Option Ingress
  | .pool .pick => none
  | .pool (.dropLease _) => none
  | .pool action =>
      match ingress.pool.step action with
      | none => none
      | some pool => some { ingress with pool := pool }
  | .request head =>
      if ingress.pool.locked then none
      else
        match ingress.pool.pick with
        | (none, pool) =>
            some ({ ingress with pool := pool }.answer
              (.status 503 "no warm circuit available"))
        | (some lease, pool) => some (ingress.accept pool lease head)
  | .advance index =>
      match ingress.requests[index]? with
      | none => none
      | some request =>
          match request.stage.next with
          | none => none
          | some stage => some (ingress.setRequest index { request with stage := stage })
  | .endTunnel index =>
      match ingress.requests[index]? with
      | none => none
      | some request =>
          if request.stage.inTunnel then some (ingress.finish index request) else none
  | .failForward index =>
      match ingress.requests[index]? with
      | none => none
      | some request =>
          if request.stage.inForward then
            some ((ingress.finish index request).answer (.status 502 "quicmix upstream error"))
          else none
  | .abandon index =>
      match ingress.requests[index]? with
      | none => none
      | some request =>
          if request.stage.inForward then some (ingress.finish index request)
          else if request.stage = .streaming then some (ingress.forget index)
          else none
  | .respond index endOfStream =>
      match ingress.requests[index]? with
      | none => none
      | some request =>
          if request.stage = .awaiting then some (ingress.respond index request endOfStream)
          else none
  | .relay index bytes =>
      match ingress.requests[index]? with
      | none => none
      | some request =>
          if request.stage = .streaming then
            some (ingress.setRequest index { request with relayed := request.relayed + bytes })
          else none
  | .endBody index =>
      match ingress.requests[index]? with
      | none => none
      | some request =>
          if request.stage = .streaming then some (ingress.forget index) else none

/-! ## What one move can do -/

/-- The effect of a move on the pool and on the list of requests. -/
inductive Moved (ingress : Ingress) : IngressAction -> Ingress -> Prop where
  | pool {action : Action} {next : WarmPool} (replies : List Reply)
      (moved : WarmPool.Moved ingress.pool action next)
      (leases : next.leases = ingress.pool.leases) {label : IngressAction} :
      Moved ingress label ⟨next, ingress.requests, replies⟩
  | refused {action : Action} {granted : WarmPool} (lease : Lease) (replies : List Reply)
      (moved : WarmPool.Moved ingress.pool action granted)
      (leases : granted.leases = ingress.pool.leases ++ [lease]) {label : IngressAction} :
      Moved ingress label ⟨granted.release lease, ingress.requests, replies⟩
  | accepted {action : Action} {granted : WarmPool} (request : Request) (replies : List Reply)
      (moved : WarmPool.Moved ingress.pool action granted)
      (leases : granted.leases = ingress.pool.leases ++ [request.lease])
      (owner : request.stage.ownsLease = true) {label : IngressAction} :
      Moved ingress label ⟨granted, ingress.requests ++ [request], replies⟩
  | rewritten (index : Nat) (request updated : Request) (replies : List Reply)
      (located : ingress.requests[index]? = some request)
      (same : updated.lease = request.lease)
      (owner : updated.stage.ownsLease = request.stage.ownsLease) {label : IngressAction} :
      Moved ingress label ⟨ingress.pool, ingress.requests.set index updated, replies⟩
  | finished (index : Nat) (request : Request) (replies : List Reply)
      (located : ingress.requests[index]? = some request)
      (owner : request.stage.ownsLease = true) {label : IngressAction} :
      Moved ingress label
        ⟨ingress.pool.release request.lease, ingress.requests.eraseIdx index, replies⟩
  | forgotten (index : Nat) (request : Request) (replies : List Reply)
      (located : ingress.requests[index]? = some request)
      (owner : request.stage.ownsLease = false) {label : IngressAction} :
      Moved ingress label ⟨ingress.pool, ingress.requests.eraseIdx index, replies⟩
  | returned (index : Nat) (request : Request) (replies : List Reply)
      (located : ingress.requests[index]? = some request)
      (owner : request.stage.ownsLease = true) :
      Moved ingress (.respond index false) ⟨ingress.pool.release request.lease,
        ingress.requests.set index { request with stage := .streaming }, replies⟩

/-- Only requests and destructors touch the leases. -/
theorem leases_of_moved {pool next : WarmPool} {action : Action}
    (moved : WarmPool.Moved pool action next) (notPick : action ≠ .pick)
    (notDrop : forall id, action ≠ .dropLease id) : next.leases = pool.leases := by
  cases moved with
  | leased index slot unlocked located fresh => exact absurd rfl notPick
  | released lease held => exact absurd rfl (notDrop lease.id)
  | _ => rfl

private theorem moved_of_pool {ingress next : Ingress} {action : Action}
    (moved : ingress.step (.pool action) = some next) : Moved ingress (.pool action) next := by
  have other : action ≠ .pick ∧ (forall id, action ≠ .dropLease id) ∧
      exists pool, ingress.pool.step action = some pool ∧ { ingress with pool := pool } = next := by
    cases action <;>
      simp only [step, reduceCtorEq, ne_eq, not_false_eq_true, implies_true, true_and]
        at moved ⊢ <;>
      split at moved <;>
      simp_all only [reduceCtorEq, Option.some.injEq, exists_eq_left']
  rcases other with ⟨notPick, notDrop, pool, stepped, same⟩
  subst same
  have moved := WarmPool.moved_of_step stepped
  exact .pool ingress.replies moved (leases_of_moved moved notPick notDrop)

private theorem moved_of_request {ingress next : Ingress} {head : Head}
    (moved : ingress.step (.request head) = some next) : Moved ingress (.request head) next := by
  cases unlocked : ingress.pool.locked with
  | true => simp only [step, unlocked, if_true, reduceCtorEq] at moved
  | false =>
      simp only [step, unlocked, Bool.false_eq_true, if_false] at moved
      rcases WarmPool.pick_cases ingress.pool with
        ⟨answer, busy⟩ | ⟨index, slot, located, fresh, answer⟩
      · simp only [answer, Option.some.injEq] at moved
        subst moved
        exact .pool _ (.purged unlocked busy) rfl
      · simp only [answer, Option.some.injEq] at moved
        have leased := WarmPool.Moved.leased index slot unlocked located fresh
        subst moved
        cases head with
        | connect authority =>
            cases authority with
            | none => exact .refused ⟨ingress.pool.nextLease, slot.circuit⟩ _ leased rfl
            | some authority => exact .accepted _ _ leased rfl rfl
        | absolute host port =>
            cases host with
            | none => exact .refused ⟨ingress.pool.nextLease, slot.circuit⟩ _ leased rfl
            | some host => exact .accepted _ _ leased rfl rfl

theorem ownsLease_next {stage next : Stage} (advanced : stage.next = some next) :
    next.ownsLease = stage.ownsLease := by
  cases stage <;> cases advanced <;> rfl

/-- A move of one request, if it is where the move starts from. -/
theorem guarded_request {requests : List Request} {index : Nat} {guard : Request -> Prop}
    [DecidablePred guard] {after : Request -> Ingress} {next : Ingress}
    (moved : (match requests[index]? with
      | none => none
      | some request => if guard request then some (after request) else none) = some next) :
    exists request, requests[index]? = some request ∧ guard request ∧ next = after request := by
  cases located : requests[index]? with
  | none => simp only [located, reduceCtorEq] at moved
  | some request =>
      simp only [located, Option.ite_none_right_eq_some, Option.some.injEq] at moved
      exact ⟨request, rfl, moved.1, moved.2.symm⟩

/-- The list of effects is complete. -/
theorem moved_of_step {ingress next : Ingress} {action : IngressAction}
    (moved : ingress.step action = some next) : Moved ingress action next := by
  cases action with
  | pool action => exact moved_of_pool moved
  | request head => exact moved_of_request moved
  | advance index =>
      cases located : ingress.requests[index]? with
      | none => simp only [step, located, reduceCtorEq] at moved
      | some request =>
          cases advanced : request.stage.next with
          | none => simp only [step, located, advanced, reduceCtorEq] at moved
          | some stage =>
              simp only [step, located, advanced, Option.some.injEq] at moved
              subst moved
              exact .rewritten index request { request with stage := stage } _ located rfl
                (ownsLease_next advanced)
  | endTunnel index =>
      simp only [step] at moved
      rcases guarded_request moved with ⟨request, located, stage, rfl⟩
      exact .finished index request _ located (by rw [Stage.ownsLease, stage, Bool.true_or])
  | failForward index =>
      simp only [step] at moved
      rcases guarded_request moved with ⟨request, located, stage, rfl⟩
      exact .finished index request _ located (by rw [Stage.ownsLease, stage, Bool.or_true])
  | abandon index =>
      cases located : ingress.requests[index]? with
      | none => simp only [step, located, reduceCtorEq] at moved
      | some request =>
          cases stage : request.stage.inForward with
          | true =>
              simp only [step, located, stage, if_true, Option.some.injEq] at moved
              subst moved
              exact .finished index request _ located
                (by rw [Stage.ownsLease, stage, Bool.or_true])
          | false =>
              simp only [step, located, stage, Bool.false_eq_true, if_false,
                Option.ite_none_right_eq_some, Option.some.injEq] at moved
              rcases moved with ⟨streaming, same⟩
              subst same
              exact .forgotten index request _ located (by rw [streaming]; rfl)
  | respond index endOfStream =>
      simp only [step] at moved
      rcases guarded_request moved with ⟨request, located, stage, rfl⟩
      have owner : request.stage.ownsLease = true := by rw [stage]; rfl
      cases endOfStream with
      | true => exact .finished index request _ located owner
      | false => exact .returned index request _ located owner
  | relay index bytes =>
      simp only [step] at moved
      rcases guarded_request moved with ⟨request, located, stage, rfl⟩
      exact .rewritten index request { request with relayed := request.relayed + bytes } _
        located rfl rfl
  | endBody index =>
      simp only [step] at moved
      rcases guarded_request moved with ⟨request, located, stage, rfl⟩
      exact .forgotten index request _ located (by rw [stage]; rfl)

/-! ## The leases that exist are those that requests own -/

def owners (requests : List Request) : List Lease :=
  (requests.filter (fun request => request.stage.ownsLease)).map Request.lease

structure Owned (ingress : Ingress) : Prop where
  pool : WarmPool.Drainable ingress.pool
  leases : ingress.pool.leases.Perm (owners ingress.requests)

theorem owners_append (first second : List Request) :
    owners (first ++ second) = owners first ++ owners second := by
  simp only [owners, List.filter_append, List.map_append]

theorem owners_cons_of_owner {request : Request} (rest : List Request)
    (owner : request.stage.ownsLease = true) :
    owners (request :: rest) = request.lease :: owners rest := by
  simp only [owners, List.filter_cons, owner, if_true, List.map_cons]

theorem owners_cons_of_not_owner {request : Request} (rest : List Request)
    (owner : request.stage.ownsLease = false) : owners (request :: rest) = owners rest := by
  simp only [owners, List.filter_cons, owner, Bool.false_eq_true, if_false]

/-- Giving back the lease of an owner leaves the leases of the others. -/
theorem release_perm {leases : List Lease} {lease : Lease} {before after : List Lease}
    (owned : leases.Perm (before ++ lease :: after)) :
    (leases.erase lease).Perm (before ++ after) := by
  have member : lease ∈ leases := owned.mem_iff.mpr
    (List.mem_append_right _ List.mem_cons_self)
  have front := (List.perm_cons_erase member).symm.trans (owned.trans List.perm_middle)
  exact List.Perm.cons_inv front

theorem Owned.member {ingress : Ingress} (owned : Owned ingress) {index : Nat}
    {request : Request} (located : ingress.requests[index]? = some request)
    (owner : request.stage.ownsLease = true) : request.lease ∈ ingress.pool.leases := by
  refine owned.leases.mem_iff.mpr (List.mem_map_of_mem ?_)
  exact List.mem_filter.mpr ⟨List.mem_of_getElem? located, owner⟩

theorem drainable_of_moved {pool next : WarmPool} {action : Action}
    (sound : WarmPool.Drainable pool) (moved : WarmPool.Moved pool action next) :
    WarmPool.Drainable next :=
  ⟨sound.names.moved moved, sound.counts.moved sound.names moved,
    sound.dates.moved sound.names moved⟩

theorem Owned.moved {ingress next : Ingress} {action : IngressAction} (owned : Owned ingress)
    (moved : Moved ingress action next) : Owned next := by
  cases moved with
  | pool replies moved leases =>
      refine ⟨drainable_of_moved owned.pool moved, ?_⟩
      rw [leases]
      exact owned.leases
  | refused lease replies moved leases =>
      rename_i granted
      have held : lease ∈ granted.leases := by
        rw [leases]
        exact List.mem_append_right _ (List.mem_singleton_self _)
      refine ⟨drainable_of_moved (drainable_of_moved owned.pool moved)
        (.released lease held), ?_⟩
      have same : granted.leases.Perm (owners ingress.requests ++ lease :: []) := by
        rw [leases]
        exact owned.leases.append_right _
      have back := release_perm same
      rwa [List.append_nil] at back
  | accepted request replies moved leases owner =>
      refine ⟨drainable_of_moved owned.pool moved, ?_⟩
      rw [leases, owners_append, owners_cons_of_owner [] owner]
      exact owned.leases.append_right _
  | rewritten index request updated replies located same owner =>
      refine ⟨owned.pool, ?_⟩
      rcases split_at located with ⟨before, after, split, written, _⟩
      have old := owned.leases
      rw [split, owners_append] at old
      rw [written, owners_append]
      cases owns : request.stage.ownsLease with
      | true =>
          rw [owners_cons_of_owner after owns] at old
          rw [owners_cons_of_owner after (owner.trans owns), same]
          exact old
      | false =>
          rw [owners_cons_of_not_owner after owns] at old
          rw [owners_cons_of_not_owner after (owner.trans owns)]
          exact old
  | finished index request replies located owner =>
      refine ⟨drainable_of_moved owned.pool
        (.released request.lease (owned.member located owner)), ?_⟩
      rcases split_at located with ⟨before, after, split, _, erased⟩
      have old := owned.leases
      rw [split, owners_append, owners_cons_of_owner after owner] at old
      rw [erased, owners_append]
      exact release_perm old
  | forgotten index request replies located owner =>
      refine ⟨owned.pool, ?_⟩
      rcases split_at located with ⟨before, after, split, _, erased⟩
      have old := owned.leases
      rw [split, owners_append, owners_cons_of_not_owner after owner] at old
      rw [erased, owners_append]
      exact old
  | returned index request replies located owner =>
      refine ⟨drainable_of_moved owned.pool
        (.released request.lease (owned.member located owner)), ?_⟩
      rcases split_at located with ⟨before, after, split, written, _⟩
      have old := owned.leases
      rw [split, owners_append, owners_cons_of_owner after owner] at old
      have streaming : ({ request with stage := .streaming } : Request).stage.ownsLease = false :=
        rfl
      rw [written, owners_append, owners_cons_of_not_owner after streaming]
      exact release_perm old

theorem owned_start (cfg : PoolConfig) (measured : Bool) : Owned (start cfg measured) :=
  ⟨WarmPool.drainable_spawn cfg measured, List.Perm.refl _⟩

theorem Owned.step {ingress next : Ingress} {action : IngressAction} (owned : Owned ingress)
    (stepped : ingress.step action = some next) : Owned next :=
  owned.moved (moved_of_step stepped)

/-! ## Which requests the counter counts -/

/-- The requests in flight on a circuit. -/
def inFlight (ingress : Ingress) (circuit : CircuitId) : Nat :=
  ingress.requests.countP (fun request => request.lease.circuit == circuit)

/-- Every request in flight is counted by its circuit's `active`: the counter
is not smaller than the number of requests in flight on the circuit. -/
def CountsInFlight (ingress : Ingress) : Prop :=
  forall circuit, ingress.inFlight circuit <= ingress.pool.active circuit

/-- The counter counts the owners; requests that stream are in flight besides. -/
theorem Owned.inFlight_eq {ingress : Ingress} (owned : Owned ingress) (circuit : CircuitId) :
    ingress.inFlight circuit = ingress.pool.active circuit +
      ingress.requests.countP (fun request =>
        request.lease.circuit == circuit && !request.stage.ownsLease) := by
  rw [owned.pool.counts.counted circuit, WarmPool.outstanding,
    owned.leases.countP_eq, owners, List.countP_map, List.countP_filter, inFlight]
  induction ingress.requests with
  | nil => rfl
  | cons request rest inductionHypothesis =>
      simp only [List.countP_cons, inductionHypothesis, Function.comp]
      cases request.lease.circuit == circuit <;> cases request.stage.ownsLease <;>
        simp only [Bool.and_true, Bool.and_false, Bool.and_self, Bool.not_true, Bool.not_false,
          Bool.false_eq_true, if_true, if_false] <;> omega

theorem Owned.countsInFlight_iff {ingress : Ingress} (owned : Owned ingress) :
    CountsInFlight ingress <->
      forall request, request ∈ ingress.requests -> request.stage.ownsLease = true := by
  constructor
  · intro counted request member
    have bound := counted request.lease.circuit
    rw [owned.inFlight_eq] at bound
    have none : ingress.requests.countP (fun other =>
        other.lease.circuit == request.lease.circuit && !other.stage.ownsLease) = 0 := by omega
    have missed := List.countP_eq_zero.mp none request member
    simpa only [beq_self_eq_true, Bool.true_and, Bool.not_eq_true', Bool.not_eq_false] using missed
  · intro owners circuit
    have none : ingress.requests.countP (fun request =>
        request.lease.circuit == circuit && !request.stage.ownsLease) = 0 := by
      apply List.countP_eq_zero.mpr
      intro request member
      simp only [owners request member, Bool.not_true, Bool.and_false, Bool.false_eq_true,
        not_false_eq_true]
    rw [owned.inFlight_eq, none]
    exact Nat.le_refl _

/-! ## Every run -/

/-- The action is not the head of a response whose body is still to come. -/
def bodyEnded : IngressAction -> Bool
  | .respond _ endOfStream => endOfStream
  | _ => true

/-- While no response comes with a body to follow, every request in flight
owns its lease. -/
theorem Moved.all_own {ingress next : Ingress} {action : IngressAction}
    (moved : Moved ingress action next) (ended : bodyEnded action = true)
    (owners : forall request, request ∈ ingress.requests -> request.stage.ownsLease = true) :
    forall request, request ∈ next.requests -> request.stage.ownsLease = true := by
  intro found member
  cases moved with
  | pool replies moved leases => exact owners found member
  | refused lease replies moved leases => exact owners found member
  | accepted request replies moved leases owner =>
      rcases List.mem_append.mp member with old | new
      · exact owners found old
      · rw [List.mem_singleton] at new
        subst new
        exact owner
  | rewritten index request updated replies located same owner =>
      rcases List.mem_or_eq_of_mem_set member with old | new
      · exact owners found old
      · subst new
        exact owner.trans (owners request (List.mem_of_getElem? located))
  | finished index request replies located owner =>
      exact owners found ((List.eraseIdx_sublist _ _).subset member)
  | forgotten index request replies located owner =>
      exact owners found ((List.eraseIdx_sublist _ _).subset member)
  | returned index request replies located owner => cases ended

/-- A response head with a body to follow leaves a request in flight that owns
no lease. -/
theorem streaming_of_respond {ingress next : Ingress} {index : Nat}
    (stepped : ingress.step (.respond index false) = some next) :
    exists request, request ∈ next.requests ∧ request.stage.ownsLease = false := by
  cases located : ingress.requests[index]? with
  | none => simp only [step, located, reduceCtorEq] at stepped
  | some request =>
      simp only [step, located, Option.ite_none_right_eq_some, Option.some.injEq] at stepped
      rcases stepped with ⟨_, same⟩
      subst same
      refine ⟨{ request with stage := .streaming }, ?_, rfl⟩
      rcases split_at located with ⟨before, after, _, written, _⟩
      change _ ∈ ingress.requests.set index { request with stage := .streaming }
      rw [written]
      exact List.mem_append_right _ List.mem_cons_self

/-- In a run of the pooled proxy, every request in flight is counted by its
circuit in every state that the run passes through, if and only if no response
of a forwarded request comes with a body still to be streamed. -/
theorem inFlight_counted_iff (cfg : PoolConfig) (measured : Bool)
    (schedule : List IngressAction) (final : Ingress)
    (ran : run Ingress.step (start cfg measured) schedule = some final) :
    (forall state, Visits Ingress.step (start cfg measured) schedule state ->
      CountsInFlight state) <->
    (forall action, action ∈ schedule -> bodyEnded action = true) := by
  have owned : forall state, Visits Ingress.step (start cfg measured) schedule state ->
      Owned state := by
    intro state visited
    exact visited.of_invariant Owned (fun _ _ _ _ owned stepped => owned.step stepped)
      (owned_start cfg measured)
  constructor
  · intro counted action member
    cases ended : bodyEnded action with
    | true => rfl
    | false =>
        cases action with
        | respond index endOfStream =>
            change endOfStream = false at ended
            subst ended
            rcases List.append_of_mem member with ⟨before, after, split⟩
            have whole : schedule = (before ++ [.respond index false]) ++ after := by
              rw [split, List.append_assoc, List.singleton_append]
            rw [whole] at ran
            rcases run_append_eq_some.mp ran with ⟨state, reached, _⟩
            rcases run_append_eq_some.mp reached with ⟨middle, _, last⟩
            rcases run_cons.mp last with ⟨reachedState, stepped, done⟩
            cases done
            have visited : Visits Ingress.step (start cfg measured) schedule state :=
              ⟨_, _, whole, reached⟩
            rcases streaming_of_respond stepped with ⟨request, listed, loose⟩
            have owner := (owned state visited).countsInFlight_iff.mp (counted state visited)
              request listed
            rw [loose] at owner
            cases owner
        | _ => cases ended
  · intro ended state visited
    apply (owned state visited).countsInFlight_iff.mpr
    refine visited.of_invariant (fun state => forall request, request ∈ state.requests ->
      request.stage.ownsLease = true) ?_ ?_
    · intro state action next member owners stepped
      exact (moved_of_step stepped).all_own (ended action member) owners
    · intro request member
      exact absurd member List.not_mem_nil

/-- One `CONNECT` and one absolute-form request whose response has no body. -/
def quietSchedule : List IngressAction :=
  [.pool .countReady, .pool (.build true), .pool .push,
    .request (.connect (some "example.org:443")),
    .request (.absolute (some "example.org") none), .advance 1, .advance 1, .advance 1,
    .respond 1 true, .advance 0]

theorem inFlight_counted_quiet :
    exists final, run Ingress.step (start WarmPool.rotating false) quietSchedule = some final ∧
      final.pool.active 0 = 1 ∧
      forall state, Visits Ingress.step (start WarmPool.rotating false) quietSchedule state ->
        CountsInFlight state :=
  ⟨_, rfl, rfl, (inFlight_counted_iff WarmPool.rotating false quietSchedule _ rfl).mpr (by decide)⟩

/-- A forwarded request whose response has a body: its circuit is retired and
reaped while the body streams. -/
def streamingSchedule : List IngressAction :=
  [.pool .countReady, .pool (.build true), .pool .push,
    .request (.absolute (some "example.org") none), .advance 0, .advance 0, .advance 0,
    .respond 0 false, .relay 0 1200, .pool (.elapse 40), .pool .wake, .pool .maintain,
    .pool .maintain, .pool .maintain]

/-- The body is streaming, the counter is zero, and the live circuit has left
the pool at the first tick, long before the drain timeout. -/
theorem streaming_not_counted :
    exists final, run Ingress.step (start WarmPool.rotating false) streamingSchedule = some final ∧
      final.requests.map Request.stage = [.streaming] ∧
      final.inFlight 0 = 1 ∧ final.pool.active 0 = 0 ∧ ¬ CountsInFlight final ∧
      final.pool.closed 0 = false ∧ final.pool.circuits = [] ∧
      Event.retired 0 40 ∈ final.pool.history ∧ Event.reaped 0 40 ∈ final.pool.history := by
  refine ⟨_, rfl, rfl, rfl, rfl, ?_, rfl, rfl, by decide, by decide⟩
  intro counted
  exact absurd (counted 0) (by decide)

end Ingress
end Pool
end QuicMix
