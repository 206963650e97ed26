import QuicMix.Boundary.Traffic

namespace QuicMix
namespace Boundary

open Foundations

/-!
# UDP fronts

`spawn_substrate_front` wraps a transport in a boundary, binds a local UDP socket
and spawns two tasks, one in each direction, each with a clone of the boundary's
handle.  The third handle is returned.  A caller keeps it, or `front::resolve`
keeps it inside a `Front`; the Nym factory, whose client bridge is the same code,
drops it at once.  The boundary goes when the last of the three handles goes,
and only then do the queues lose their ends and the boundary's own two tasks
learn of it.

The inner transport never fails: it answers a receive with a datagram or not at
all.
-/

/-- How the front was made. -/
inductive Origin where
  | direct
  | resolved
  | nym
  deriving DecidableEq, Repr

abbrev Address := Nat

/-- The task from the UDP socket to the boundary. -/
inductive OutPump where
  | receiving
  | sending
  | ended
  deriving DecidableEq, Repr

/-- The task from the boundary to the UDP socket. -/
inductive InPump where
  | waiting
  | locked
  | replying (datagram : Datagram)
  | ended
  deriving DecidableEq, Repr

structure Front where
  origin : Origin
  boundary : Traffic
  /-- The returned handle, or the `Front` that holds it, exists. -/
  handle : Bool
  /-- The QUIC client's socket exists. -/
  client : Bool
  outPump : OutPump
  inPump : InPump
  /-- Datagrams of the client that the socket holds. -/
  socket : List (Address × Datagram)
  /-- Address of the client, once it is known. -/
  peer : Option Address
  /-- What was handed to the socket.  An error of its `send_to` is ignored. -/
  replies : List (Address × Datagram)

inductive FrontMove where
  | elapse (duration : Duration)
  | udpIn (sender : Address) (datagram : Datagram)
  | socketError
  | innerReceived (datagram : Datagram)
  | dropHandle
  | dropClient
  | innerSent (result : SendResult)
  | sendPump
  | recvPump
  | outRecv
  | outReserve
  | outCommit
  | outHangUp
  | inLock
  | inTake
  | inReply
  | release

namespace FrontMove

/-- The move is made by a task of the front, without new input from outside. -/
def internal : FrontMove -> Bool
  | .elapse _ => false
  | .udpIn _ _ => false
  | .socketError => false
  | .innerReceived _ => false
  | .dropHandle => false
  | .dropClient => false
  | _ => true

end FrontMove

namespace Front

def spawn (origin : Origin) (kind : SubstrateKind) (oracle : OracleParams) (queueDepth : Nat) :
    Front where
  origin := origin
  boundary := Traffic.start kind oracle queueDepth
  handle := origin != .nym
  client := true
  outPump := .receiving
  inPump := .waiting
  socket := []
  peer := none
  replies := []

/-- The circuit is no longer in use. -/
def dropped (front : Front) : Bool :=
  !front.handle && !front.client

/-- Some task of the front or of its boundary has not ended. -/
def Alive (front : Front) : Prop :=
  front.outPump ≠ .ended ∨ front.inPump ≠ .ended ∨
    front.boundary.substrate.sendPump ≠ .exited ∨ front.boundary.substrate.recvPump ≠ .exited

/-- The boundary makes a move. -/
def within (front : Front) (move : Move) : Option Front :=
  match front.boundary.step move with
  | none => none
  | some boundary => some { front with boundary := boundary }

/-- The task takes a datagram off the socket and enters the boundary's `send`. -/
def outRecv (front : Front) : Option Front :=
  match front.outPump, front.socket with
  | .receiving, (sender, datagram) :: rest =>
      match front.boundary.step (.send datagram) with
      | none => none
      | some boundary =>
          some { front with
            boundary := boundary
            outPump := .sending
            socket := rest
            peer := some sender }
  | _, _ => none

/-- The task is the only caller of `send`. -/
def outSend (front : Front) (move : Move) (after : OutPump) : Option Front :=
  match front.outPump with
  | .sending =>
      match front.boundary.step move with
      | none => none
      | some boundary => some { front with boundary := boundary, outPump := after }
  | _ => none

def inLock (front : Front) : Option Front :=
  match front.inPump with
  | .waiting =>
      match front.boundary.step .lockRecv with
      | none => none
      | some boundary => some { front with boundary := boundary, inPump := .locked }
  | _ => none

/-- The task is given the result of its `recv`; on an error it ends. -/
def inTake (front : Front) : Option Front :=
  match front.inPump with
  | .locked =>
      match front.boundary.step .takeRecv with
      | none => none
      | some boundary =>
          match boundary.results.getLast? with
          | some (_, .ok datagram) =>
              some { front with boundary := boundary, inPump := .replying datagram }
          | _ => some { front with boundary := boundary, inPump := .ended }
  | _ => none

/-- The datagram is handed to the socket for the address that is known, and
dropped without one. -/
def inReply (front : Front) : Option Front :=
  match front.inPump with
  | .replying datagram =>
      some { front with
        inPump := .waiting
        replies := front.replies ++ front.peer.toList.map (fun address => (address, datagram)) }
  | _ => none

/-- The last handle is gone, and the boundary with it. -/
def release (front : Front) : Option Front :=
  if front.handle = false ∧ front.outPump = .ended ∧ front.inPump = .ended then
    front.within .dropHandles
  else none

def step (front : Front) : FrontMove -> Option Front
  | .elapse duration => front.within (.elapse duration)
  | .udpIn sender datagram =>
      if front.client then some { front with socket := front.socket ++ [(sender, datagram)] }
      else none
  | .socketError =>
      match front.outPump with
      | .receiving => some { front with outPump := .ended }
      | _ => none
  | .innerReceived datagram => front.within (.innerReceived (.ok datagram))
  | .dropHandle => if front.handle then some { front with handle := false } else none
  | .dropClient => if front.client then some { front with client := false } else none
  | .innerSent result => front.within (.innerSent result)
  | .sendPump => front.within .sendPump
  | .recvPump => front.within .recvPump
  | .outRecv => front.outRecv
  | .outReserve => front.outSend (.reserve 0) .sending
  | .outCommit => front.outSend (.commit 0) .receiving
  | .outHangUp => front.outSend (.hangUp 0) .ended
  | .inLock => front.inLock
  | .inTake => front.inTake
  | .inReply => front.inReply
  | .release => front.release

end Front

/-! ## A process that makes and drops fronts -/

inductive ProcessMove where
  | spawn (origin : Origin) (kind : SubstrateKind) (oracle : OracleParams) (queueDepth : Nat)
  | front (index : Nat) (move : FrontMove)

/-- The fronts that were made, in order.  A front that is torn down stays in the
list as a record. -/
abbrev Process := List Front

namespace Process

def step (fronts : Process) : ProcessMove -> Option Process
  | .spawn origin kind oracle queueDepth =>
      some (fronts ++ [Front.spawn origin kind oracle queueDepth])
  | .front index move =>
      match fronts[index]? with
      | none => none
      | some front =>
          match front.step move with
          | none => none
          | some moved => some (fronts.set index moved)

/-- No task can move, whatever time passes, without new input. -/
def Quiescent (fronts : Process) : Prop :=
  forall front, front ∈ fronts -> forall duration later move,
    front.step (.elapse duration) = some later -> move.internal = true ->
    later.step move = none

/-- Boundaries that something still holds. -/
def liveBoundaries (fronts : Process) : Nat :=
  fronts.countP (fun front => front.boundary.held)

/-- Circuits of which the handle or the client exists. -/
def inUse (fronts : Process) : Nat :=
  fronts.countP (fun front => !front.dropped)

/-- Dropped fronts are torn down. -/
structure TornDown (fronts : Process) : Prop where
  ended : forall front, front ∈ fronts -> front.dropped = true -> ¬ front.Alive
  released : forall front, front ∈ fronts -> front.dropped = true -> front.boundary.held = false
  bounded : fronts.liveBoundaries <= fronts.inUse

end Process
end Boundary
end QuicMix
