import QuicMix.Boundary.Front

namespace QuicMix
namespace Boundary

open Foundations

/-!
# The UDP relay

`start_relay` puts two boundaries between a client, which is to be learned, and a
server.  Each of them is fed by a task that reads a socket and drained by a task
that writes to the other one.  The task that reads the front socket notes the
sender of what it reads; the task that drains the boundary towards the client
looks up that note, and drops the datagram if there is none.

A task that reads a socket is the only one that does, so taking the datagram and
noting its sender are one move: until the note is made, the datagram might as well
still be held by the socket.  A looked-up address is locked until the datagram is
sent, so looking up and sending are one move as well.  What a socket does with a
datagram that it is handed is left open: a task that drains a boundary ignores the
answer and goes on.
-/

inductive Direction where
  | up
  | down
  deriving DecidableEq, Repr

/-- A boundary with the task that feeds it, the task that drains it and the
datagrams that the socket of the first task holds. -/
structure Leg where
  boundary : Traffic
  feeder : OutPump
  drainer : InPump
  socket : List (Address × Datagram)

inductive LegMove where
  | arrive (sender : Address) (datagram : Datagram)
  | socketError
  | innerReceived (result : RecvResult)
  | innerSent (result : SendResult)
  | sendPump
  | recvPump
  | reserve
  | commit
  | hangUp
  | lock
  | take

namespace Leg

def start (kind : SubstrateKind) (oracle : OracleParams) (queueDepth : Nat) : Leg where
  boundary := Traffic.start kind oracle queueDepth
  feeder := .receiving
  drainer := .waiting
  socket := []

/-- The boundary makes a move. -/
def within (leg : Leg) (move : Move) : Option Leg :=
  match leg.boundary.step move with
  | none => none
  | some boundary => some { leg with boundary := boundary }

/-- The feeding task takes a datagram off its socket and enters `send`. -/
def recvFrom (leg : Leg) : Option (Address × Leg) :=
  match leg.feeder, leg.socket with
  | .receiving, (sender, datagram) :: rest =>
      match leg.boundary.step (.send datagram) with
      | none => none
      | some boundary =>
          some (sender, { leg with boundary := boundary, feeder := .sending, socket := rest })
  | _, _ => none

/-- The feeding task goes on with its `send`. -/
def send (leg : Leg) (move : Move) (after : OutPump) : Option Leg :=
  match leg.feeder with
  | .sending =>
      match leg.boundary.step move with
      | none => none
      | some boundary => some { leg with boundary := boundary, feeder := after }
  | _ => none

def lock (leg : Leg) : Option Leg :=
  match leg.drainer with
  | .waiting =>
      match leg.boundary.step .lockRecv with
      | none => none
      | some boundary => some { leg with boundary := boundary, drainer := .locked }
  | _ => none

/-- The draining task is given the result of its `recv`; on an error it ends. -/
def take (leg : Leg) : Option Leg :=
  match leg.drainer with
  | .locked =>
      match leg.boundary.step .takeRecv with
      | none => none
      | some boundary =>
          match boundary.results.getLast? with
          | some (_, .ok datagram) =>
              some { leg with boundary := boundary, drainer := .replying datagram }
          | _ => some { leg with boundary := boundary, drainer := .ended }
  | _ => none

/-- The datagram that the draining task is about to send on. -/
def sendTo (leg : Leg) : Option (Datagram × Leg) :=
  match leg.drainer with
  | .replying datagram => some (datagram, { leg with drainer := .waiting })
  | _ => none

def step (leg : Leg) : LegMove -> Option Leg
  | .arrive sender datagram => some { leg with socket := leg.socket ++ [(sender, datagram)] }
  | .socketError =>
      match leg.feeder with
      | .receiving => some { leg with feeder := .ended }
      | _ => none
  | .innerReceived result => leg.within (.innerReceived result)
  | .innerSent result => leg.within (.innerSent result)
  | .sendPump => leg.within .sendPump
  | .recvPump => leg.within .recvPump
  | .reserve => leg.send (.reserve 0) .sending
  | .commit => leg.send (.commit 0) .receiving
  | .hangUp => leg.send (.hangUp 0) .ended
  | .lock => leg.lock
  | .take => leg.take

end Leg

structure Relay where
  serverAddr : Address
  up : Leg
  down : Leg
  /-- The returned handles exist. -/
  handle : Bool
  clientAddr : Option Address
  /-- What was handed to the back socket.  An error of the socket is ignored. -/
  forwarded : List (Address × Datagram)
  /-- What was handed to the front socket, whose errors are ignored as well. -/
  replies : List (Address × Datagram)

inductive RelayMove where
  | elapse (duration : Duration)
  | leg (direction : Direction) (move : LegMove)
  | clientRecv
  | serverSend
  | serverRecv
  | clientSend
  | dropHandle
  | release (direction : Direction)

namespace Relay

def startRelay (serverAddr : Address) (upKind downKind : SubstrateKind)
    (upOracle downOracle : OracleParams) (upDepth downDepth : Nat) : Relay where
  serverAddr := serverAddr
  up := Leg.start upKind upOracle upDepth
  down := Leg.start downKind downOracle downDepth
  handle := true
  clientAddr := none
  forwarded := []
  replies := []

def setLeg (relay : Relay) : Direction -> Leg -> Relay
  | .up, leg => { relay with up := leg }
  | .down, leg => { relay with down := leg }

def getLeg (relay : Relay) : Direction -> Leg
  | .up => relay.up
  | .down => relay.down

/-- Both boundaries read one clock. -/
def elapse (relay : Relay) (duration : Duration) : Option Relay :=
  match relay.up.within (.elapse duration), relay.down.within (.elapse duration) with
  | some up, some down => some { relay with up := up, down := down }
  | _, _ => none

/-- client -> up.send -/
def clientRecv (relay : Relay) : Option Relay :=
  match relay.up.recvFrom with
  | none => none
  | some (sender, up) => some { relay with up := up, clientAddr := some sender }

/-- up.recv -> server -/
def serverSend (relay : Relay) : Option Relay :=
  match relay.up.sendTo with
  | none => none
  | some (datagram, up) =>
      some { relay with
        up := up
        forwarded := relay.forwarded ++ [(relay.serverAddr, datagram)] }

/-- server -> down.send, whoever the sender is -/
def serverRecv (relay : Relay) : Option Relay :=
  match relay.down.recvFrom with
  | none => none
  | some (_, down) => some { relay with down := down }

/-- down.recv -> client -/
def clientSend (relay : Relay) : Option Relay :=
  match relay.down.sendTo with
  | none => none
  | some (datagram, down) =>
      some { relay with
        down := down
        replies := relay.replies ++
          relay.clientAddr.toList.map (fun address => (address, datagram)) }

/-- The last handle of one boundary is gone. -/
def release (relay : Relay) (direction : Direction) : Option Relay :=
  if relay.handle = false ∧ (relay.getLeg direction).feeder = .ended ∧
      (relay.getLeg direction).drainer = .ended then
    ((relay.getLeg direction).within .dropHandles).map (relay.setLeg direction)
  else none

def step (relay : Relay) : RelayMove -> Option Relay
  | .elapse duration => relay.elapse duration
  | .leg direction move =>
      ((relay.getLeg direction).step move).map (relay.setLeg direction)
  | .clientRecv => relay.clientRecv
  | .serverSend => relay.serverSend
  | .serverRecv => relay.serverRecv
  | .clientSend => relay.clientSend
  | .dropHandle => if relay.handle then some { relay with handle := false } else none
  | .release direction => relay.release direction

end Relay
end Boundary
end QuicMix
