import QuicMix.Foundations.Channel
import QuicMix.Foundations.Schedule
import Mathlib.Algebra.Group.Nat.Defs

namespace QuicMix
namespace Boundary

open Foundations

/-!
# The substrate boundary

`Substrate` wraps any transport.  A send pump drains a bounded queue into the
inner transport's `try_send` and sleeps one slot after each of them; a receive
pump moves the inner transport's results into a second bounded queue, from
which callers take them one at a time.  Counters are updated at the points of
the two loops where the source updates them.

The functions of this file are the moves of one boundary, each between two
points at which another task can run.  What the inner transport answers is an
argument of the move in which the answer arrives.
-/

abbrev Datagram := List UInt8

/-- Typed errors of the substrate boundary. -/
inductive SubstrateError where
  | closed
  | timeout
  | malformed
  | authFailed
  | remoteRejected
  | backpressure
  | io (context : String)
  deriving DecidableEq, Repr

inductive SubstrateKind where
  | datagram
  | stream
  deriving DecidableEq, Repr

/-- Parameters that the mix layer exposes to the scheduler. -/
structure OracleParams where
  hops : Nat
  meanHopDelay : Duration
  dropProb : Rat
  slotInterval : Duration
  mtu : Nat
  deriving DecidableEq, Repr

/-- The result of a fallible send. -/
abbrev SendResult := Except SubstrateError Unit

/-- The result of a fallible receive. -/
abbrev RecvResult := Except SubstrateError Datagram

/-- Observable boundary counters. -/
structure Metrics where
  sent : Nat
  received : Nat
  sendErrors : Nat
  dropped : Nat
  queueDepth : Nat
  enqueueLatencyUs : Nat
  deriving DecidableEq, Repr

/-- Where the send pump stands in its loop. -/
inductive SendPump where
  | idle
  | taken (enqueued : Instant) (datagram : Datagram)
  | gauged (datagram : Datagram)
  | offering (datagram : Datagram)
  | answered (result : SendResult)
  | counted
  | sleeping (wakeAt : Instant)
  | exited

/-- Where the receive pump stands in its loop. -/
inductive RecvPump where
  | polling
  | holding (item : RecvResult)
  | permitted (item : RecvResult)
  | exited

/-- A caller of the backpressured sends, as the permits of the queue name it. -/
abbrev CallId := Nat

structure Substrate where
  kind : SubstrateKind
  sendQueue : Channel CallId (Instant × Datagram)
  recvQueue : Channel Unit RecvResult
  oracle : OracleParams
  metrics : Metrics
  sendPump : SendPump
  recvPump : RecvPump

namespace Substrate

/-- Wrap a transport of the given kind and oracle. -/
def new (kind : SubstrateKind) (oracle : OracleParams) (queueDepth : Nat) : Substrate where
  kind := kind
  sendQueue := Channel.create (max queueDepth 1)
  recvQueue := Channel.create (max queueDepth 1)
  oracle := oracle
  metrics := ⟨0, 0, 0, 0, 0, 0⟩
  sendPump := .idle
  recvPump := .polling

/-! ## Sending -/

/-- Non-blocking send. -/
def trySend (substrate : Substrate) (enqueued : Instant) (datagram : Datagram) :
    SendResult × Substrate :=
  match substrate.sendQueue.trySend (enqueued, datagram) with
  | .sent channel => (.ok (), { substrate with sendQueue := channel })
  | .full => (.error .backpressure, substrate)
  | .closed => (.error .closed, substrate)

/-- The drop of a refused datagram is counted. -/
def countDrop (substrate : Substrate) : Substrate :=
  { substrate with
    metrics := { substrate.metrics with dropped := substrate.metrics.dropped + 1 } }

/-- The send pump takes the oldest datagram, or ends with its queue. -/
def take (substrate : Substrate) : Option Substrate :=
  match substrate.sendQueue.recv with
  | .message (enqueued, datagram) channel =>
      some { substrate with sendQueue := channel, sendPump := .taken enqueued datagram }
  | .pending => none
  | .ended =>
      some { substrate with
        sendQueue := substrate.sendQueue.dropReceiver
        sendPump := .exited }

/-- Store the queue gauge and the age of the datagram in hand. -/
def gauge (substrate : Substrate) (clock enqueued : Instant) (datagram : Datagram) : Substrate :=
  { substrate with
    metrics := { substrate.metrics with
      queueDepth := substrate.sendQueue.queue.length
      enqueueLatencyUs := (clock - enqueued) / 1000 % 2 ^ 64 }
    sendPump := .gauged datagram }

def offer (substrate : Substrate) (datagram : Datagram) : Substrate :=
  { substrate with sendPump := .offering datagram }

def answer (substrate : Substrate) (result : SendResult) : Substrate :=
  { substrate with sendPump := .answered result }

/-- Count what the inner transport answered. -/
def count (substrate : Substrate) : SendResult -> Substrate
  | .ok _ =>
      { substrate with
        metrics := { substrate.metrics with sent := substrate.metrics.sent + 1 }
        sendPump := .counted }
  | .error _ =>
      { substrate with
        metrics := { substrate.metrics with sendErrors := substrate.metrics.sendErrors + 1 }
        sendPump := .counted }

/-- Read the slot of the oracle in force and sleep for it, unless it is zero. -/
def pace (substrate : Substrate) (clock : Instant) : Substrate :=
  { substrate with
    sendPump :=
      if substrate.oracle.slotInterval = 0 then .idle
      else .sleeping (clock + substrate.oracle.slotInterval) }

def wake (substrate : Substrate) : Substrate :=
  { substrate with sendPump := .idle }

/-- One move of the send pump, except for the answer to an inner send. -/
def pumpSend (substrate : Substrate) (clock : Instant) : Option Substrate :=
  match substrate.sendPump with
  | .idle => substrate.take
  | .taken enqueued datagram => some (substrate.gauge clock enqueued datagram)
  | .gauged datagram => some (substrate.offer datagram)
  | .answered result => some (substrate.count result)
  | .counted => some (substrate.pace clock)
  | .sleeping wakeAt => if wakeAt <= clock then some substrate.wake else none
  | _ => none

def updateOracle (substrate : Substrate) (params : OracleParams) : Substrate :=
  { substrate with oracle := params }

/-! ## Receiving -/

/-- The inner transport answered the receive pump. -/
def fetch (substrate : Substrate) : RecvResult -> Substrate
  | .ok datagram =>
      { substrate with
        metrics := { substrate.metrics with received := substrate.metrics.received + 1 }
        recvPump := .holding (.ok datagram) }
  | .error error => { substrate with recvPump := .holding (.error error) }

/-- The receive pump ends and drops its sending half. -/
def exitRecv (substrate : Substrate) : Substrate :=
  { substrate with recvQueue := substrate.recvQueue.dropSenders, recvPump := .exited }

/-- The receive pump waits for a place in its queue, or learns that nobody
will read it. -/
def recvReserve (substrate : Substrate) (item : RecvResult) : Option Substrate :=
  if substrate.recvQueue.receiverGone then some substrate.exitRecv
  else
    match substrate.recvQueue.reserve () with
    | none => none
    | some channel => some { substrate with recvQueue := channel, recvPump := .permitted item }

/-- The item is queued; after an error the pump ends. -/
def recvCommit (substrate : Substrate) (item : RecvResult) : Option Substrate :=
  match substrate.recvQueue.commit () item with
  | none => none
  | some channel =>
      let queued : Substrate := { substrate with recvQueue := channel }
      match item with
      | .ok _ => some { queued with recvPump := .polling }
      | .error _ => some queued.exitRecv

/-- One move of the receive pump, except for the answer of an inner receive. -/
def pumpRecv (substrate : Substrate) : Option Substrate :=
  match substrate.recvPump with
  | .holding item => substrate.recvReserve item
  | .permitted item => substrate.recvCommit item
  | _ => none

/-- Take the next result, as a caller of `recv` that holds the lock does.
`none` while it has to wait. -/
def recv (substrate : Substrate) : Option (RecvResult × Substrate) :=
  match substrate.recvQueue.recv with
  | .message item channel => some (item, { substrate with recvQueue := channel })
  | .pending => none
  | .ended => some (.error .closed, substrate)

/-! ## The end of a boundary -/

/-- The last handle is gone: the queue loses its senders and the results their
reader. -/
def dropHandles (substrate : Substrate) : Substrate :=
  { substrate with
    sendQueue := substrate.sendQueue.dropSenders
    recvQueue := substrate.recvQueue.dropReceiver }

end Substrate
end Boundary
end QuicMix
