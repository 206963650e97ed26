import QuicMix.Boundary.Substrate
import QuicMix.Foundations.Lists

namespace QuicMix
namespace Boundary

open Foundations

/-!
# A boundary in use

The state adds to a boundary the callers that are inside one of its methods,
the clock, and records of what has happened: which calls were accepted and in
which order, which ones failed, when the inner sends started and which slot was
read after each, what the inner transport yielded, and what the receivers were
given.  No move of the boundary reads the records.

A call of `send` or `send_timeout` waits, takes a permit and commits; it can be
abandoned at either point.  A call of `try_send` is answered at once.  A lossy
call is answered at once too, but a refused one still has to count its drop.
A receiver first obtains the lock and then waits for a result.
-/

inductive CallKind where
  | send
  | sendTimeout (deadline : Instant)
  | trySend
  | lossy
  deriving DecidableEq, Repr

structure Call where
  id : CallId
  kind : CallKind
  enqueued : Instant
  datagram : Datagram
  deriving DecidableEq, Repr

structure Traffic where
  substrate : Substrate
  clock : Instant
  /-- Callers inside `send` or `send_timeout`. -/
  waiting : List Call
  /-- Lossy callers that were refused and have not counted the drop yet. -/
  refused : List Call
  nextCall : CallId
  /-- The caller that holds the receive lock. -/
  holder : Option CallId
  nextRecv : CallId
  /-- Some handle of the boundary still exists. -/
  held : Bool
  accepted : List Call
  failed : List (Call × SubstrateError)
  starts : List (Instant × Datagram)
  slots : List Duration
  yielded : List RecvResult
  locked : List CallId
  results : List (CallId × RecvResult)

inductive Move where
  | elapse (duration : Duration)
  | send (datagram : Datagram)
  | sendTimeout (datagram : Datagram) (timeout : Duration)
  | trySend (datagram : Datagram)
  | lossySend (datagram : Datagram)
  | reserve (index : Nat)
  | commit (index : Nat)
  | expire (index : Nat)
  | hangUp (index : Nat)
  | cancel (index : Nat)
  | countDrop (index : Nat)
  | sendPump
  | innerSent (result : SendResult)
  | updateOracle (params : OracleParams)
  | innerReceived (result : RecvResult)
  | recvPump
  | lockRecv
  | takeRecv
  | cancelRecv
  | dropHandles

namespace Traffic

def start (kind : SubstrateKind) (oracle : OracleParams) (queueDepth : Nat) : Traffic where
  substrate := Substrate.new kind oracle queueDepth
  clock := 0
  waiting := []
  refused := []
  nextCall := 0
  holder := none
  nextRecv := 0
  held := true
  accepted := []
  failed := []
  starts := []
  slots := []
  yielded := []
  locked := []
  results := []

def put (traffic : Traffic) (substrate : Substrate) : Traffic :=
  { traffic with substrate := substrate }

/-! ## Senders -/

/-- A caller enters `send` or `send_timeout`.  The timestamp is taken here. -/
def enter (traffic : Traffic) (kind : CallKind) (datagram : Datagram) : Traffic :=
  { traffic with
    waiting := traffic.waiting ++ [⟨traffic.nextCall, kind, traffic.clock, datagram⟩]
    nextCall := traffic.nextCall + 1 }

/-- `try_send`: accepted, or failed with the error that the caller is given. -/
def trySend (traffic : Traffic) (datagram : Datagram) : Traffic :=
  let call : Call := ⟨traffic.nextCall, .trySend, traffic.clock, datagram⟩
  match traffic.substrate.trySend traffic.clock datagram with
  | (.ok _, substrate) =>
      { traffic with
        substrate := substrate
        accepted := traffic.accepted ++ [call]
        nextCall := traffic.nextCall + 1 }
  | (.error error, substrate) =>
      { traffic with
        substrate := substrate
        failed := traffic.failed ++ [(call, error)]
        nextCall := traffic.nextCall + 1 }

/-- The trait's `send`, up to the counting of a drop. -/
def lossySend (traffic : Traffic) (datagram : Datagram) : Traffic :=
  let call : Call := ⟨traffic.nextCall, .lossy, traffic.clock, datagram⟩
  match traffic.substrate.trySend traffic.clock datagram with
  | (.ok _, substrate) =>
      { traffic with
        substrate := substrate
        accepted := traffic.accepted ++ [call]
        nextCall := traffic.nextCall + 1 }
  | (.error _, substrate) =>
      { traffic with
        substrate := substrate
        refused := traffic.refused ++ [call]
        nextCall := traffic.nextCall + 1 }

/-- The waiting call leaves, handing back its permit if it has one. -/
def leave (traffic : Traffic) (index : Nat) (call : Call) : Traffic :=
  { traffic with
    substrate := { traffic.substrate with
      sendQueue := traffic.substrate.sendQueue.abandon call.id }
    waiting := traffic.waiting.eraseIdx index }

/-- The waiting call returns an error. -/
def fail (traffic : Traffic) (index : Nat) (call : Call) (error : SubstrateError) : Traffic :=
  { traffic.leave index call with failed := traffic.failed ++ [(call, error)] }

def reserve (traffic : Traffic) (call : Call) : Option Traffic :=
  if traffic.substrate.sendQueue.receiverGone ||
      traffic.substrate.sendQueue.permits.contains call.id then none
  else
    match traffic.substrate.sendQueue.reserve call.id with
    | none => none
    | some channel => some (traffic.put { traffic.substrate with sendQueue := channel })

/-- The permit is used: the call is accepted and returns. -/
def commit (traffic : Traffic) (index : Nat) (call : Call) : Option Traffic :=
  match traffic.substrate.sendQueue.commit call.id (call.enqueued, call.datagram) with
  | none => none
  | some channel =>
      some { traffic with
        substrate := { traffic.substrate with sendQueue := channel }
        waiting := traffic.waiting.eraseIdx index
        accepted := traffic.accepted ++ [call] }

/-! ## The pumps -/

/-- The send pump moves.  A start is recorded where the inner send is called,
and a slot where it is read. -/
def sendPump (traffic : Traffic) : Option Traffic :=
  match traffic.substrate.pumpSend traffic.clock with
  | none => none
  | some substrate =>
      match traffic.substrate.sendPump with
      | .gauged datagram =>
          some { traffic.put substrate with
            starts := traffic.starts ++ [(traffic.clock, datagram)] }
      | .counted =>
          some { traffic.put substrate with
            slots := traffic.slots ++ [traffic.substrate.oracle.slotInterval] }
      | _ => some (traffic.put substrate)

def recvPump (traffic : Traffic) : Option Traffic :=
  match traffic.substrate.pumpRecv with
  | none => none
  | some substrate => some (traffic.put substrate)

/-! ## The whole system -/

/-- Some caller is inside a method, and so keeps a handle. -/
def occupied (traffic : Traffic) : Bool :=
  !traffic.waiting.isEmpty || !traffic.refused.isEmpty || traffic.holder.isSome

def step (traffic : Traffic) : Move -> Option Traffic
  | .elapse duration => some { traffic with clock := traffic.clock + duration }
  | .send datagram => if traffic.held then some (traffic.enter .send datagram) else none
  | .sendTimeout datagram timeout =>
      if traffic.held then
        some (traffic.enter (.sendTimeout (traffic.clock + timeout)) datagram)
      else none
  | .trySend datagram => if traffic.held then some (traffic.trySend datagram) else none
  | .lossySend datagram => if traffic.held then some (traffic.lossySend datagram) else none
  | .reserve index =>
      match traffic.waiting[index]? with
      | none => none
      | some call => traffic.reserve call
  | .commit index =>
      match traffic.waiting[index]? with
      | none => none
      | some call => traffic.commit index call
  | .expire index =>
      match traffic.waiting[index]? with
      | none => none
      | some call =>
          match call.kind with
          | .sendTimeout deadline =>
              if deadline <= traffic.clock then some (traffic.fail index call .backpressure)
              else none
          | _ => none
  | .hangUp index =>
      match traffic.waiting[index]? with
      | none => none
      | some call =>
          if traffic.substrate.sendQueue.receiverGone then some (traffic.fail index call .closed)
          else none
  | .cancel index =>
      match traffic.waiting[index]? with
      | none => none
      | some call => some (traffic.leave index call)
  | .countDrop index =>
      match traffic.refused[index]? with
      | none => none
      | some _ =>
          some { traffic with
            substrate := traffic.substrate.countDrop
            refused := traffic.refused.eraseIdx index }
  | .sendPump => traffic.sendPump
  | .innerSent result =>
      match traffic.substrate.sendPump with
      | .offering _ => some (traffic.put (traffic.substrate.answer result))
      | _ => none
  | .updateOracle params =>
      if traffic.held then some (traffic.put (traffic.substrate.updateOracle params)) else none
  | .innerReceived result =>
      match traffic.substrate.recvPump with
      | .polling =>
          some { traffic.put (traffic.substrate.fetch result) with
            yielded := traffic.yielded ++ [result] }
      | _ => none
  | .recvPump => traffic.recvPump
  | .lockRecv =>
      if traffic.held && traffic.holder.isNone then
        some { traffic with
          holder := some traffic.nextRecv
          nextRecv := traffic.nextRecv + 1
          locked := traffic.locked ++ [traffic.nextRecv] }
      else none
  | .takeRecv =>
      match traffic.holder with
      | none => none
      | some id =>
          match traffic.substrate.recv with
          | none => none
          | some (result, substrate) =>
              some { traffic.put substrate with
                holder := none
                results := traffic.results ++ [(id, result)] }
  | .cancelRecv => if traffic.holder.isSome then some { traffic with holder := none } else none
  | .dropHandles =>
      if traffic.held && !traffic.occupied then
        some { traffic.put traffic.substrate.dropHandles with held := false }
      else none

/-! ## The outcomes of a move -/

/-- The outcomes of a move, each with the guard under which it happens. -/
inductive Moved (traffic : Traffic) : Move -> Traffic -> Prop where
  | elapsed (duration : Duration) :
      Moved traffic (.elapse duration) { traffic with clock := traffic.clock + duration }
  | entered (datagram : Datagram) (held : traffic.held = true) :
      Moved traffic (.send datagram) (traffic.enter .send datagram)
  | enteredTimeout (datagram : Datagram) (timeout : Duration) (held : traffic.held = true) :
      Moved traffic (.sendTimeout datagram timeout)
        (traffic.enter (.sendTimeout (traffic.clock + timeout)) datagram)
  | tryAccepted (datagram : Datagram) (channel : Channel CallId (Instant × Datagram))
      (held : traffic.held = true)
      (sent : traffic.substrate.sendQueue.trySend (traffic.clock, datagram) = .sent channel) :
      Moved traffic (.trySend datagram)
        { traffic with
          substrate := { traffic.substrate with sendQueue := channel }
          accepted := traffic.accepted ++
            [⟨traffic.nextCall, .trySend, traffic.clock, datagram⟩]
          nextCall := traffic.nextCall + 1 }
  | tryFailed (datagram : Datagram) (error : SubstrateError) (held : traffic.held = true) :
      Moved traffic (.trySend datagram)
        { traffic with
          failed := traffic.failed ++
            [(⟨traffic.nextCall, .trySend, traffic.clock, datagram⟩, error)]
          nextCall := traffic.nextCall + 1 }
  | lossyAccepted (datagram : Datagram) (channel : Channel CallId (Instant × Datagram))
      (held : traffic.held = true)
      (sent : traffic.substrate.sendQueue.trySend (traffic.clock, datagram) = .sent channel) :
      Moved traffic (.lossySend datagram)
        { traffic with
          substrate := { traffic.substrate with sendQueue := channel }
          accepted := traffic.accepted ++ [⟨traffic.nextCall, .lossy, traffic.clock, datagram⟩]
          nextCall := traffic.nextCall + 1 }
  | lossyRefused (datagram : Datagram) (held : traffic.held = true) :
      Moved traffic (.lossySend datagram)
        { traffic with
          refused := traffic.refused ++ [⟨traffic.nextCall, .lossy, traffic.clock, datagram⟩]
          nextCall := traffic.nextCall + 1 }
  | reserved (index : Nat) (call : Call) (channel : Channel CallId (Instant × Datagram))
      (located : traffic.waiting[index]? = some call)
      (reserved : traffic.substrate.sendQueue.reserve call.id = some channel) :
      Moved traffic (.reserve index)
        (traffic.put { traffic.substrate with sendQueue := channel })
  | committed (index : Nat) (call : Call) (channel : Channel CallId (Instant × Datagram))
      (located : traffic.waiting[index]? = some call)
      (committed : traffic.substrate.sendQueue.commit call.id (call.enqueued, call.datagram) =
        some channel) :
      Moved traffic (.commit index)
        { traffic with
          substrate := { traffic.substrate with sendQueue := channel }
          waiting := traffic.waiting.eraseIdx index
          accepted := traffic.accepted ++ [call] }
  | expired (index : Nat) (call : Call) (deadline : Instant)
      (located : traffic.waiting[index]? = some call)
      (kind : call.kind = .sendTimeout deadline) (reached : deadline <= traffic.clock) :
      Moved traffic (.expire index) (traffic.fail index call .backpressure)
  | hungUp (index : Nat) (call : Call) (located : traffic.waiting[index]? = some call)
      (gone : traffic.substrate.sendQueue.receiverGone = true) :
      Moved traffic (.hangUp index) (traffic.fail index call .closed)
  | cancelled (index : Nat) (call : Call) (located : traffic.waiting[index]? = some call) :
      Moved traffic (.cancel index) (traffic.leave index call)
  | dropCounted (index : Nat) (call : Call) (located : traffic.refused[index]? = some call) :
      Moved traffic (.countDrop index)
        { traffic with
          substrate := traffic.substrate.countDrop
          refused := traffic.refused.eraseIdx index }
  | took (enqueued : Instant) (datagram : Datagram)
      (channel : Channel CallId (Instant × Datagram))
      (pump : traffic.substrate.sendPump = .idle)
      (taken : traffic.substrate.sendQueue.recv = .message (enqueued, datagram) channel) :
      Moved traffic .sendPump (traffic.put
        { traffic.substrate with sendQueue := channel, sendPump := .taken enqueued datagram })
  | sendExited (pump : traffic.substrate.sendPump = .idle)
      (ended : traffic.substrate.sendQueue.recv = .ended) :
      Moved traffic .sendPump (traffic.put
        { traffic.substrate with
          sendQueue := traffic.substrate.sendQueue.dropReceiver
          sendPump := .exited })
  | gauged (enqueued : Instant) (datagram : Datagram)
      (pump : traffic.substrate.sendPump = .taken enqueued datagram) :
      Moved traffic .sendPump
        (traffic.put (traffic.substrate.gauge traffic.clock enqueued datagram))
  | offered (datagram : Datagram) (pump : traffic.substrate.sendPump = .gauged datagram) :
      Moved traffic .sendPump
        { traffic.put (traffic.substrate.offer datagram) with
          starts := traffic.starts ++ [(traffic.clock, datagram)] }
  | answered (datagram : Datagram) (result : SendResult)
      (pump : traffic.substrate.sendPump = .offering datagram) :
      Moved traffic (.innerSent result) (traffic.put (traffic.substrate.answer result))
  | counted (result : SendResult) (pump : traffic.substrate.sendPump = .answered result) :
      Moved traffic .sendPump (traffic.put (traffic.substrate.count result))
  | paced (pump : traffic.substrate.sendPump = .counted) :
      Moved traffic .sendPump
        { traffic.put (traffic.substrate.pace traffic.clock) with
          slots := traffic.slots ++ [traffic.substrate.oracle.slotInterval] }
  | woken (wakeAt : Instant) (pump : traffic.substrate.sendPump = .sleeping wakeAt)
      (reached : wakeAt <= traffic.clock) :
      Moved traffic .sendPump (traffic.put traffic.substrate.wake)
  | updated (params : OracleParams) (held : traffic.held = true) :
      Moved traffic (.updateOracle params) (traffic.put (traffic.substrate.updateOracle params))
  | fetched (result : RecvResult) (pump : traffic.substrate.recvPump = .polling) :
      Moved traffic (.innerReceived result)
        { traffic.put (traffic.substrate.fetch result) with
          yielded := traffic.yielded ++ [result] }
  | recvUnread (item : RecvResult) (pump : traffic.substrate.recvPump = .holding item)
      (gone : traffic.substrate.recvQueue.receiverGone = true) :
      Moved traffic .recvPump (traffic.put traffic.substrate.exitRecv)
  | recvReserved (item : RecvResult) (channel : Channel Unit RecvResult)
      (pump : traffic.substrate.recvPump = .holding item)
      (reserved : traffic.substrate.recvQueue.reserve () = some channel) :
      Moved traffic .recvPump (traffic.put
        { traffic.substrate with recvQueue := channel, recvPump := .permitted item })
  | recvQueued (datagram : Datagram) (channel : Channel Unit RecvResult)
      (pump : traffic.substrate.recvPump = .permitted (.ok datagram))
      (committed : traffic.substrate.recvQueue.commit () (.ok datagram) = some channel) :
      Moved traffic .recvPump (traffic.put
        { traffic.substrate with recvQueue := channel, recvPump := .polling })
  | recvFailed (error : SubstrateError) (channel : Channel Unit RecvResult)
      (pump : traffic.substrate.recvPump = .permitted (.error error))
      (committed : traffic.substrate.recvQueue.commit () (.error error) = some channel) :
      Moved traffic .recvPump (traffic.put
        { traffic.substrate with recvQueue := channel.dropSenders, recvPump := .exited })
  | locked (held : traffic.held = true) (free : traffic.holder = none) :
      Moved traffic .lockRecv
        { traffic with
          holder := some traffic.nextRecv
          nextRecv := traffic.nextRecv + 1
          locked := traffic.locked ++ [traffic.nextRecv] }
  | delivered (id : CallId) (item : RecvResult) (channel : Channel Unit RecvResult)
      (holder : traffic.holder = some id)
      (taken : traffic.substrate.recvQueue.recv = .message item channel) :
      Moved traffic .takeRecv
        { traffic.put { traffic.substrate with recvQueue := channel } with
          holder := none
          results := traffic.results ++ [(id, item)] }
  | deliveredClosed (id : CallId) (holder : traffic.holder = some id)
      (ended : traffic.substrate.recvQueue.recv = .ended) :
      Moved traffic .takeRecv
        { traffic with
          holder := none
          results := traffic.results ++ [(id, .error .closed)] }
  | recvCancelled (held : traffic.holder.isSome = true) :
      Moved traffic .cancelRecv { traffic with holder := none }
  | dropped (held : traffic.held = true) (quiet : traffic.occupied = false) :
      Moved traffic .dropHandles
        { traffic.put traffic.substrate.dropHandles with held := false }

theorem moved_of_trySend {traffic next : Traffic} {datagram : Datagram}
    (moved : traffic.step (.trySend datagram) = some next) :
    Moved traffic (.trySend datagram) next := by
  simp only [step, Option.ite_none_right_eq_some, Option.some.injEq] at moved
  rcases moved with ⟨held, moved⟩
  subst moved
  cases sent : traffic.substrate.sendQueue.trySend (traffic.clock, datagram) with
  | sent channel =>
      simp only [trySend, Substrate.trySend, sent]
      exact .tryAccepted datagram channel held sent
  | full =>
      simp only [trySend, Substrate.trySend, sent]
      exact .tryFailed datagram .backpressure held
  | closed =>
      simp only [trySend, Substrate.trySend, sent]
      exact .tryFailed datagram .closed held

theorem moved_of_lossySend {traffic next : Traffic} {datagram : Datagram}
    (moved : traffic.step (.lossySend datagram) = some next) :
    Moved traffic (.lossySend datagram) next := by
  simp only [step, Option.ite_none_right_eq_some, Option.some.injEq] at moved
  rcases moved with ⟨held, moved⟩
  subst moved
  cases sent : traffic.substrate.sendQueue.trySend (traffic.clock, datagram) with
  | sent channel =>
      simp only [lossySend, Substrate.trySend, sent]
      exact .lossyAccepted datagram channel held sent
  | full =>
      simp only [lossySend, Substrate.trySend, sent]
      exact .lossyRefused datagram held
  | closed =>
      simp only [lossySend, Substrate.trySend, sent]
      exact .lossyRefused datagram held

theorem moved_of_sendPump {traffic next : Traffic} (moved : traffic.step .sendPump = some next) :
    Moved traffic .sendPump next := by
  cases pump : traffic.substrate.sendPump with
  | idle =>
      cases taken : traffic.substrate.sendQueue.recv with
      | message head channel =>
          rcases head with ⟨enqueued, datagram⟩
          simp only [step, sendPump, Substrate.pumpSend, pump, Substrate.take, taken,
            Option.some.injEq] at moved
          subst moved
          exact .took enqueued datagram channel pump taken
      | pending =>
          simp only [step, sendPump, Substrate.pumpSend, pump, Substrate.take, taken,
            reduceCtorEq] at moved
      | ended =>
          simp only [step, sendPump, Substrate.pumpSend, pump, Substrate.take, taken,
            Option.some.injEq] at moved
          subst moved
          exact .sendExited pump taken
  | taken enqueued datagram =>
      simp only [step, sendPump, Substrate.pumpSend, pump, Option.some.injEq] at moved
      subst moved
      exact .gauged enqueued datagram pump
  | gauged datagram =>
      simp only [step, sendPump, Substrate.pumpSend, pump, Option.some.injEq] at moved
      subst moved
      exact .offered datagram pump
  | offering datagram => simp only [step, sendPump, Substrate.pumpSend, pump, reduceCtorEq] at moved
  | answered result =>
      simp only [step, sendPump, Substrate.pumpSend, pump, Option.some.injEq] at moved
      subst moved
      exact .counted result pump
  | counted =>
      simp only [step, sendPump, Substrate.pumpSend, pump, Option.some.injEq] at moved
      subst moved
      exact .paced pump
  | sleeping wakeAt =>
      by_cases reached : wakeAt <= traffic.clock
      · simp only [step, sendPump, Substrate.pumpSend, pump, reached, if_true,
          Option.some.injEq] at moved
        subst moved
        exact .woken wakeAt pump reached
      · simp only [step, sendPump, Substrate.pumpSend, pump, reached, if_false,
          reduceCtorEq] at moved
  | exited => simp only [step, sendPump, Substrate.pumpSend, pump, reduceCtorEq] at moved

theorem moved_of_recvPump {traffic next : Traffic} (moved : traffic.step .recvPump = some next) :
    Moved traffic .recvPump next := by
  cases pump : traffic.substrate.recvPump with
  | polling => simp only [step, recvPump, Substrate.pumpRecv, pump, reduceCtorEq] at moved
  | holding item =>
      cases gone : traffic.substrate.recvQueue.receiverGone with
      | true =>
          simp only [step, recvPump, Substrate.pumpRecv, pump, Substrate.recvReserve, gone, if_true,
            Option.some.injEq] at moved
          subst moved
          exact .recvUnread item pump gone
      | false =>
          cases reserved : traffic.substrate.recvQueue.reserve () with
          | none =>
              simp only [step, recvPump, Substrate.pumpRecv, pump, Substrate.recvReserve, gone,
                Bool.false_eq_true, if_false, reserved, reduceCtorEq] at moved
          | some channel =>
              simp only [step, recvPump, Substrate.pumpRecv, pump, Substrate.recvReserve, gone,
                Bool.false_eq_true, if_false, reserved, Option.some.injEq] at moved
              subst moved
              exact .recvReserved item channel pump reserved
  | permitted item =>
      cases committed : traffic.substrate.recvQueue.commit () item with
      | none =>
          simp only [step, recvPump, Substrate.pumpRecv, pump, Substrate.recvCommit, committed,
            reduceCtorEq] at moved
      | some channel =>
          cases item with
          | ok datagram =>
              simp only [step, recvPump, Substrate.pumpRecv, pump, Substrate.recvCommit, committed,
                Option.some.injEq] at moved
              subst moved
              exact .recvQueued datagram channel pump committed
          | error error =>
              simp only [step, recvPump, Substrate.pumpRecv, pump, Substrate.recvCommit, committed,
                Option.some.injEq] at moved
              subst moved
              exact .recvFailed error channel pump committed
  | exited => simp only [step, recvPump, Substrate.pumpRecv, pump, reduceCtorEq] at moved

/-- What a waiting call can do next. -/
theorem moved_of_waiting {traffic next : Traffic} {action : Move} {index : Nat}
    (waits : action = .reserve index ∨ action = .commit index ∨ action = .expire index ∨
      action = .hangUp index ∨ action = .cancel index)
    (moved : traffic.step action = some next) : Moved traffic action next := by
  cases located : traffic.waiting[index]? with
  | none =>
      rcases waits with same | same | same | same | same <;> subst same <;>
        simp only [step, located, reduceCtorEq] at moved
  | some call =>
      rcases waits with same | same | same | same | same
      · subst same
        simp only [step, located, reserve] at moved
        split at moved
        · cases moved
        · cases reserved : traffic.substrate.sendQueue.reserve call.id with
          | none => simp only [reserved, reduceCtorEq] at moved
          | some channel =>
              simp only [reserved, Option.some.injEq] at moved
              subst moved
              exact .reserved index call channel located reserved
      · subst same
        simp only [step, located, commit] at moved
        cases committed : traffic.substrate.sendQueue.commit call.id
            (call.enqueued, call.datagram) with
        | none => simp only [committed, reduceCtorEq] at moved
        | some channel =>
            simp only [committed, Option.some.injEq] at moved
            subst moved
            exact .committed index call channel located committed
      · subst same
        cases kind : call.kind with
        | sendTimeout deadline =>
            by_cases reached : deadline <= traffic.clock
            · simp only [step, located, kind, reached, if_true, Option.some.injEq] at moved
              subst moved
              exact .expired index call deadline located kind reached
            · simp only [step, located, kind, reached, if_false, reduceCtorEq] at moved
        | _ => simp only [step, located, kind, reduceCtorEq] at moved
      · subst same
        cases gone : traffic.substrate.sendQueue.receiverGone with
        | false =>
            simp only [step, located, gone, Bool.false_eq_true, if_false, reduceCtorEq] at moved
        | true =>
            simp only [step, located, gone, if_true, Option.some.injEq] at moved
            subst moved
            exact .hungUp index call located gone
      · subst same
        simp only [step, located, Option.some.injEq] at moved
        subst moved
        exact .cancelled index call located

theorem moved_of_step {traffic next : Traffic} {action : Move}
    (moved : traffic.step action = some next) : Moved traffic action next := by
  cases action with
  | elapse duration =>
      simp only [step, Option.some.injEq] at moved
      subst moved
      exact .elapsed duration
  | send datagram =>
      simp only [step, Option.ite_none_right_eq_some, Option.some.injEq] at moved
      rcases moved with ⟨held, moved⟩
      subst moved
      exact .entered datagram held
  | sendTimeout datagram timeout =>
      simp only [step, Option.ite_none_right_eq_some, Option.some.injEq] at moved
      rcases moved with ⟨held, moved⟩
      subst moved
      exact .enteredTimeout datagram timeout held
  | trySend datagram => exact moved_of_trySend moved
  | lossySend datagram => exact moved_of_lossySend moved
  | reserve index => exact moved_of_waiting (.inl rfl) moved
  | commit index => exact moved_of_waiting (.inr (.inl rfl)) moved
  | expire index => exact moved_of_waiting (.inr (.inr (.inl rfl))) moved
  | hangUp index => exact moved_of_waiting (.inr (.inr (.inr (.inl rfl)))) moved
  | cancel index => exact moved_of_waiting (.inr (.inr (.inr (.inr rfl)))) moved
  | countDrop index =>
      cases located : traffic.refused[index]? with
      | none => simp only [step, located, reduceCtorEq] at moved
      | some call =>
          simp only [step, located, Option.some.injEq] at moved
          subst moved
          exact .dropCounted index call located
  | sendPump => exact moved_of_sendPump moved
  | innerSent result =>
      cases pump : traffic.substrate.sendPump with
      | offering datagram =>
          simp only [step, pump, Option.some.injEq] at moved
          subst moved
          exact .answered datagram result pump
      | _ => simp only [step, pump, reduceCtorEq] at moved
  | updateOracle params =>
      simp only [step, Option.ite_none_right_eq_some, Option.some.injEq] at moved
      rcases moved with ⟨held, moved⟩
      subst moved
      exact .updated params held
  | innerReceived result =>
      cases pump : traffic.substrate.recvPump with
      | polling =>
          simp only [step, pump, Option.some.injEq] at moved
          subst moved
          exact .fetched result pump
      | _ => simp only [step, pump, reduceCtorEq] at moved
  | recvPump => exact moved_of_recvPump moved
  | lockRecv =>
      simp only [step, Option.ite_none_right_eq_some, Option.some.injEq, Bool.and_eq_true,
        Option.isNone_iff_eq_none] at moved
      rcases moved with ⟨⟨held, free⟩, moved⟩
      subst moved
      exact .locked held free
  | takeRecv =>
      cases holder : traffic.holder with
      | none => simp only [step, holder, reduceCtorEq] at moved
      | some id =>
          cases taken : traffic.substrate.recvQueue.recv with
          | message item channel =>
              simp only [step, holder, Substrate.recv, taken, Option.some.injEq] at moved
              subst moved
              exact .delivered id item channel holder taken
          | pending => simp only [step, holder, Substrate.recv, taken, reduceCtorEq] at moved
          | ended =>
              simp only [step, holder, Substrate.recv, taken, Option.some.injEq] at moved
              subst moved
              exact .deliveredClosed id holder taken
  | cancelRecv =>
      simp only [step, Option.ite_none_right_eq_some, Option.some.injEq] at moved
      rcases moved with ⟨held, moved⟩
      subst moved
      exact .recvCancelled held
  | dropHandles =>
      simp only [step, Option.ite_none_right_eq_some, Option.some.injEq, Bool.and_eq_true,
        Bool.not_eq_true'] at moved
      rcases moved with ⟨⟨held, quiet⟩, moved⟩
      subst moved
      exact .dropped held quiet

end Traffic
end Boundary
end QuicMix
