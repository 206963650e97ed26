import QuicMix.Boundary.Passage
import QuicMix.Framing.StreamBridge

namespace QuicMix
namespace Tor

open Foundations
open Boundary
open Framing

/-!
# From the front to the gateway

The Tor sidecar puts a `StreamDatagram` over one Tor stream behind a UDP front, and
at the other end of the stream the gateway's bridge takes the frames off and injects
them into the local listener.  Four programs are put together here: the two tasks
of the front, the two pumps of its boundary, the two directions of the
`StreamDatagram`, and the two loops of the bridge, which end together.

The send pump is the only caller of `try_send` and obtains the lock at once; the
receive pump is the only caller of `try_recv`.  The stream can close at any time in
either direction.  A read that fails leaves its direction where it is, since nobody
reads again.  The gateway sends to the bridge's socket only after it has received
something from there.  A reply that the front's socket refuses is lost, and the task
that replies goes on.  The caller of the front keeps the handle.
-/

/-- The largest payload of a UDP datagram over IPv4, as both local sockets use. -/
def maxPayload : Nat := 65507

structure Tunnel where
  front : Leg
  /-- Learned address of the local client. -/
  peer : Option Address
  /-- What was handed to the front's socket. -/
  handed : List (Address × Datagram)
  /-- What that socket sent. -/
  replies : List (Address × Datagram)
  /-- From the client to the bridge, which reads in place of the pipe's reader. -/
  up : Pipe
  toUdp : BridgePhase
  /-- Datagrams of the gateway that the socket of the bridge holds. -/
  udp : List Datagram
  /-- From the bridge to the client. -/
  down : Pipe
  /-- The two loops of the bridge are running. -/
  bridged : Bool
  /-- What was sent to the front. -/
  arrived : List (Address × Datagram)
  injected : List Datagram
  /-- What reached the socket of the bridge from the gateway. -/
  answered : List Datagram

inductive TunnelMove where
  | elapse (duration : Duration)
  | arrive (sender : Address) (datagram : Datagram)
  | front (move : LegMove)
  | frontRecv
  | frontReply
  | frontReplyFails
  | sendPump
  | clientWrite (size : Nat)
  | clientFlush
  | clientWriteFails (error : IoError)
  | clientRecv
  | clientRead (size : Nat)
  | clientReadFails (error : IoError)
  | closeUp (arriving : Nat)
  | closeDown (arriving : Nat)
  | bridgeRead (size : Nat)
  | bridgeReadFails
  | bridgeSend (accepted : Bool)
  | gatewaySend (datagram : Datagram)
  | bridgeRecv
  | bridgeRecvFails
  | bridgeWrite (size : Nat)
  | bridgeFlush
  | bridgeWriteFails (error : IoError)

/-- The move involves nothing but the front and its boundary. -/
def ofFront : LegMove -> Bool
  | .socketError => true
  | .recvPump => true
  | .reserve => true
  | .commit => true
  | .hangUp => true
  | .lock => true
  | .take => true
  | _ => false

/-- A writer that is alone begins with a datagram. -/
def beginFrame (pipe : Pipe) (datagram : Datagram) : Option Pipe :=
  match pipe.step (.call datagram) with
  | none => none
  | some called => called.step (.lock 0)

namespace Tunnel

def start (oracle : OracleParams) (queueDepth : Nat) : Tunnel where
  front := Leg.start .stream oracle queueDepth
  peer := none
  handed := []
  replies := []
  up := Pipe.start
  toUdp := .header []
  udp := []
  down := Pipe.start
  bridged := true
  arrived := []
  injected := []
  answered := []

/-! ## The client's side -/

/-- quinn -> substrate -/
def frontRecv (tunnel : Tunnel) : Option Tunnel :=
  match tunnel.front.recvFrom with
  | none => none
  | some (sender, front) => some { tunnel with front := front, peer := some sender }

/-- substrate -> quinn.  What `send_to` answers is ignored. -/
def frontReply (tunnel : Tunnel) (accepted : Bool) : Option Tunnel :=
  match tunnel.front.sendTo with
  | none => none
  | some (datagram, front) =>
      let addressed := tunnel.peer.toList.map (fun address => (address, datagram))
      some { tunnel with
        front := front
        handed := tunnel.handed ++ addressed
        replies := tunnel.replies ++ if accepted then addressed else [] }

/-- The send pump moves.  Where it passes a datagram to the transport, `try_send`
begins. -/
def sendPump (tunnel : Tunnel) : Option Tunnel :=
  match tunnel.front.within .sendPump with
  | none => none
  | some front =>
      match tunnel.front.boundary.substrate.sendPump with
      | .gauged datagram =>
          match beginFrame tunnel.up datagram with
          | none => none
          | some up => some { tunnel with front := front, up := up }
      | _ => some { tunnel with front := front }

/-- `try_send` returns to the send pump. -/
def sent (tunnel : Tunnel) (action : Action) (result : SendResult) : Option Tunnel :=
  match tunnel.up.step action, tunnel.front.within (.innerSent result) with
  | some up, some front => some { tunnel with front := front, up := up }
  | _, _ => none

/-- `try_recv` goes on, and perhaps returns to the receive pump. -/
def clientRead (tunnel : Tunnel) (size : Nat) : Option Tunnel :=
  match tunnel.front.boundary.substrate.recvPump, tunnel.down.step (.read size) with
  | .polling, some down =>
      match (tunnel.down.reader.read (tunnel.down.wire.take size)).2 with
      | none => some { tunnel with down := down }
      | some result =>
          match tunnel.front.within (.innerReceived result) with
          | none => none
          | some front => some { tunnel with front := front, down := down }
  | _, _ => none

def clientRecv (tunnel : Tunnel) : Option Tunnel :=
  match tunnel.front.boundary.substrate.recvPump, tunnel.down.step .recv with
  | .polling, some down => some { tunnel with down := down }
  | _, _ => none

/-- A read fails, at the end of the stream only behind its last byte. -/
def clientReadFails (tunnel : Tunnel) (error : IoError) : Option Tunnel :=
  if tunnel.down.closed = true ∧ 0 < tunnel.down.reader.wanted ∧
      (error.kind = .unexpectedEof -> tunnel.down.wire = []) then
    match tunnel.front.within (.innerReceived (.error (mapIo error))) with
    | none => none
    | some front => some { tunnel with front := front }
  else none

/-! ## The bridge -/

/-- The loop to the listener reads; on an absurd length it ends. -/
def bridgeRead (tunnel : Tunnel) (size : Nat) : Option Tunnel :=
  if tunnel.bridged = true ∧ 0 < size ∧ size <= tunnel.up.wire.length ∧
      size <= tunnel.toUdp.wanted then
    match tunnel.toUdp.read (tunnel.up.wire.take size) with
    | .stopped =>
        some { tunnel with
          up := { tunnel.up with
            wire := tunnel.up.wire.drop size
            consumed := tunnel.up.consumed ++ tunnel.up.wire.take size }
          toUdp := .stopped
          bridged := false }
    | phase =>
        some { tunnel with
          up := { tunnel.up with
            wire := tunnel.up.wire.drop size
            consumed := tunnel.up.consumed ++ tunnel.up.wire.take size }
          toUdp := phase }
  else none

def bridgeSend (tunnel : Tunnel) (accepted : Bool) : Option Tunnel :=
  match tunnel.bridged, tunnel.toUdp with
  | true, .sending buffer =>
      if accepted then
        some { tunnel with toUdp := .header [], injected := tunnel.injected ++ [buffer] }
      else some { tunnel with bridged := false }
  | _, _ => none

/-- The loop from the listener takes a datagram and begins to frame it. -/
def bridgeRecv (tunnel : Tunnel) : Option Tunnel :=
  match tunnel.bridged, tunnel.down.writer, tunnel.udp with
  | true, .free, datagram :: rest =>
      match beginFrame tunnel.down datagram with
      | none => none
      | some down => some { tunnel with down := down, udp := rest }
  | _, _, _ => none

/-- The loop from the listener goes on with its frame. -/
def bridgeWrite (tunnel : Tunnel) (action : Action) : Option Tunnel :=
  match tunnel.bridged, tunnel.down.step action with
  | true, some down => some { tunnel with down := down }
  | _, _ => none

/-! ## The whole system -/

def step (tunnel : Tunnel) : TunnelMove -> Option Tunnel
  | .elapse duration =>
      (tunnel.front.within (.elapse duration)).map (fun front => { tunnel with front := front })
  | .arrive sender datagram =>
      if datagram.length <= maxPayload then
        some { tunnel with
          front := { tunnel.front with
            socket := tunnel.front.socket ++ [(sender, datagram)] }
          arrived := tunnel.arrived ++ [(sender, datagram)] }
      else none
  | .front move =>
      if ofFront move then
        (tunnel.front.step move).map (fun front => { tunnel with front := front })
      else none
  | .frontRecv => tunnel.frontRecv
  | .frontReply => tunnel.frontReply true
  | .frontReplyFails => tunnel.frontReply false
  | .sendPump => tunnel.sendPump
  | .clientWrite size => (tunnel.up.step (.write size)).map (fun up => { tunnel with up := up })
  | .clientFlush => tunnel.sent .flush (.ok ())
  | .clientWriteFails error => tunnel.sent (.failWrite error) (.error (mapIo error))
  | .clientRecv => tunnel.clientRecv
  | .clientRead size => tunnel.clientRead size
  | .clientReadFails error => tunnel.clientReadFails error
  | .closeUp arriving => (tunnel.up.step (.close arriving)).map (fun up => { tunnel with up := up })
  | .closeDown arriving =>
      (tunnel.down.step (.close arriving)).map (fun down => { tunnel with down := down })
  | .bridgeRead size => tunnel.bridgeRead size
  | .bridgeReadFails =>
      if tunnel.bridged = true ∧ tunnel.up.closed = true ∧ 0 < tunnel.toUdp.wanted then
        some { tunnel with bridged := false }
      else none
  | .bridgeSend accepted => tunnel.bridgeSend accepted
  | .gatewaySend datagram =>
      if tunnel.injected ≠ [] ∧ datagram.length <= maxPayload then
        some { tunnel with
          udp := tunnel.udp ++ [datagram]
          answered := tunnel.answered ++ [datagram] }
      else none
  | .bridgeRecv => tunnel.bridgeRecv
  | .bridgeRecvFails =>
      if tunnel.bridged = true ∧ tunnel.down.writer = .free then
        some { tunnel with bridged := false }
      else none
  | .bridgeWrite size => tunnel.bridgeWrite (.write size)
  | .bridgeFlush => tunnel.bridgeWrite .flush
  | .bridgeWriteFails error =>
      (tunnel.bridgeWrite (.failWrite error)).map (fun next => { next with bridged := false })

end Tunnel

end Tor
end QuicMix
